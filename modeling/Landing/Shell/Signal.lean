import Landing.Shell.State

/-! Signals: their names, what they do, and the traps for them. -/
namespace Landing.Shell.Signal

/-- The names of signals by number. The first one stands for the end of a script. -/
def names : List String :=
  ["EXIT", "HUP", "INT", "QUIT", "ILL", "TRAP", "ABRT", "BUS", "FPE", "KILL", "USR1", "SEGV",
   "USR2", "PIPE", "ALRM", "TERM", "STKFLT", "CHLD", "CONT", "STOP", "TSTP", "TTIN", "TTOU",
   "URG", "XCPU", "XFSZ", "VTALRM", "PROF", "WINCH", "POLL", "PWR", "SYS"]

/-- The number that a word gives, as a number or as a name in either case. -/
def number? (word : Bytes) : Option Nat :=
  if !word.isEmpty && word.all (Text.isDigitIn 10) then
    let n := Text.ofDigits 10 word
    if n ≤ 64 then some n else none
  else names.idxOf? (String.ofList (word.map Char.toUpper))

def name (n : Nat) : String := names.getD n (toString n)

/-- Signals that do not end a process. -/
def isHarmless (n : Nat) : Bool := [0, 17, 18, 23, 28].contains n

/-- What is told of a process that a signal ended. -/
def epitaph (n : Nat) : String :=
  match n with
  | 1 => "Hangup"
  | 2 => ""
  | 3 => "Quit"
  | 6 => "Aborted"
  | 9 => "Killed"
  | 10 => "User defined signal 1"
  | 11 => "Segmentation fault"
  | 12 => "User defined signal 2"
  | 13 => ""
  | 14 => "Alarm clock"
  | 15 => "Terminated"
  | _ => "Signal " ++ toString n

/-- A word between quotes, so that it reads back as itself. -/
def inQuotes (word : Bytes) : Bytes :=
  '\'' :: (word.flatMap fun c => if c = '\'' then "'\"'\"'".toList else [c]) ++ ['\'']

/-- The traps as commands that set them. -/
def listing (traps : Table String Bytes) : Bytes :=
  names.flatMap fun name =>
    match traps.get? name with
    | some action =>
      "trap -- ".toList ++ inQuotes action ++ ' ' :: name.toList ++ ['\n']
    | none => []

/-- Sets traps: without arguments it lists them; with one argument, or a number first, it takes
them away. -/
def trap (args : List Bytes) : Act Unit := do
  let (action, targets) : Option Bytes × List Bytes := match args with
    | [] => (none, [])
    | [target] => (none, [target])
    | first :: rest =>
      if (number? first).isSome then (none, first :: rest)
      else if first = ['-'] then (none, rest)
      else (some first, rest)
  if args.isEmpty then Act.print "trap" (listing (← get).traps)
  else
    match targets.find? fun t => (number? t).isNone with
    | some t =>
      Act.send 2 ("trap: " ++ String.ofList t ++ ": bad trap\n").toList
      Act.setStatus 1
    | none =>
      targets.forM fun t =>
        let name := name ((number? t).getD 0)
        modify fun s => { s with traps := match action with
          | some a => s.traps.insert name a
          | none => s.traps.erase name }
      Act.setStatus 0

/-- A signal that comes to the script: it is dropped, waits for its trap, or ends the script. -/
def raise (n : Nat) : Act Unit := do
  let s ← get
  match s.traps.get? (name n) with
  | some action =>
    if n = 9 || n = 19 then throw (.killed n)
    if !action.isEmpty then set { s with raised := s.raised ++ [name n] }
  | none => if !isHarmless n then throw (.killed n)

/-- A signal for a command that runs beside the script. One that has ended is not there. -/
def strike (n : Nat) (target : Bytes) : Act Unit := do
  let s ← get
  let key := Text.ofDigits 10 target
  match s.jobs.get? key with
  | some job =>
    if job.ends ≤ s.clock then
      Act.tellAs (some "kill".toList) "No such process\n"
      Act.setStatus 1
    else if !isHarmless n then
      set { s with jobs := s.jobs.insert key ⟨128 + n, s.clock⟩ }
  | none =>
    Act.tellAs (some "kill".toList) "No such process\n"
    Act.setStatus 1

/-- Sends a signal to processes. -/
def kill (args : List Bytes) : Act Unit := do
  let (signal, targets) : Option Nat × List Bytes := match args with
    | ['-', 's'] :: signal :: rest => (number? signal, rest)
    | ['-', '-'] :: rest => (some 15, rest)
    | ('-' :: signal) :: rest => (number? signal, rest)
    | rest => (some 15, rest)
  Act.setStatus 0
  match args, signal with
  | [['-', 'l']], _ =>
    Act.print "kill" ("0".toList ++ ['\n'] ++
      (names.drop 1).flatMap fun name => name.toList ++ ['\n'])
  | _, none =>
    Act.tellAs (some "kill".toList)
      ("Illegal option -" ++ String.ofList (((args.head?.getD []).drop 1).take 1))
    Act.setStatus 2
  | _, some n =>
    targets.forM fun t => do
      if t = (toString (← get).number).toList || t = ['0'] then raise n else strike n t

end Landing.Shell.Signal
