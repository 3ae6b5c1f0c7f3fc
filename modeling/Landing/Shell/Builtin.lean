import Landing.Shell.Mask
import Landing.Shell.Print
import Landing.Shell.Signal
import Landing.Shell.Test

/-! The commands that the shell runs itself. -/
namespace Landing.Shell.Builtin

/-- The names of all of them. -/
def names : List String :=
  [".", ":", "[", "alias", "bg", "break", "cd", "chdir", "command", "continue", "echo", "eval",
   "exec", "exit", "export", "false", "fg", "getopts", "hash", "jobs", "kill", "local", "printf",
   "pwd", "read", "readonly", "return", "set", "shift", "test", "times", "trap", "true", "type",
   "ulimit", "umask", "unalias", "unset", "wait"]

/-- A fault of a command, which does not end the script. -/
def fault (name text : String) : Act Unit := do
  Act.tellAs (some name.toList) text
  Act.setStatus 2

/-- A fault of a command that may not fail. -/
def fatal {α : Type} (name text : String) : Act α := do
  fault name text
  Act.fail 2

/-- The number that an argument gives. -/
def count (name : String) (word : Bytes) : Act Nat :=
  if !word.isEmpty && word.all (Text.isDigitIn 10) then pure (Text.ofDigits 10 word)
  else fatal name ("Illegal number: " ++ String.ofList word)

/-! Leaving. -/

/-- Ends the script with the status given, in a trap with the one from before. -/
def exit (args : List Bytes) : Act Unit := do
  match args with
  | word :: _ =>
    let n ← count "exit" word
    modify fun s => { s with status := n, before := some n }
  | [] => modify fun s => { s with status := s.before.getD s.status }
  throw .exit

def back (args : List Bytes) : Act Unit := do
  match args with
  | word :: _ => Act.setStatus (← count "return" word)
  | [] => pure ()
  throw .back

/-- Leaves loops, or goes on with the next round of one. Outside of loops it does nothing. -/
def leaveLoops (name : String) (flow : Nat → Flow) (args : List Bytes) (k : Context) :
    Act Unit := do
  let n ← match args with
    | word :: _ => count name word
    | [] => pure 1
  if n = 0 then fatal name "Illegal number: 0"
  Act.setStatus 0
  if k.loops ≠ 0 then throw (flow (min n k.loops))

/-! Variables, arguments and options. -/

def shift (args : List Bytes) : Act Unit := do
  let n ← match args with
    | word :: _ => count "shift" word
    | [] => pure 1
  if (← get).arguments.length < n then
    fatal "shift" "can't shift that many"
  modify fun s => { s with arguments := s.arguments.drop n, status := 0 }

/-- The name in front of a setting; one that is none is a fault. -/
def declared (command : String) (word : Bytes) : Act (String × Option Bytes) :=
  match Reader.setting? word with
  | some (name, value) => pure (name, some value)
  | none =>
    if Reader.isName word then pure (String.ofList word, none)
    else fatal command (String.ofList (word.takeWhile (· ≠ '=')) ++ ": bad variable name")

/-- Variables as commands that declare them, by their names. -/
def declarations (command : String) (names : List String) (s : State) : Bytes :=
  (names.eraseDups.mergeSort (· ≤ ·)).flatMap fun name =>
    (command ++ " " ++ name).toList ++ (match s.bindings.get? name with
      | some value => '=' :: Signal.inQuotes value
      | none => []) ++ ['\n']

/-- Gives variables a property, and values where they are given. Without names it shows those that
have it. -/
def declare (command : String) (having : State → List String) (give : String → State → State)
    (args : List Bytes) : Act Unit := do
  let words := args.filter (· ≠ ['-', 'p'])
  Act.setStatus 0
  if words.isEmpty then
    let s ← get
    Act.print command (declarations command (having s) s)
  for word in words do
    let (name, value) ← declared command word
    match value with
    | some v => Act.assign name v
    | none => pure ()
    modify (give name)

/-- Variables that every program finds. -/
def publish : List Bytes → Act Unit :=
  declare "export" State.exported fun name s => { s with exported := name :: s.exported }

/-- Variables that keep their values. -/
def fix : List Bytes → Act Unit :=
  declare "readonly" State.fixed fun name s => { s with fixed := name :: s.fixed }

/-- Variables of a function, which keep their values from outside until they are set. -/
def keepApart (args : List Bytes) : Act Unit := do
  if (← get).locals.isNone then fatal "local" "not in a function"
  for word in args do
    let (name, value) ← declared "local" word
    modify fun s => { s with locals := s.locals.map ((name, s.bindings.get? name) :: ·) }
    match value with
    | some v => Act.assign name v
    | none => pure ()
  Act.setStatus 0

def unset (args : List Bytes) : Act Unit := do
  let (functions, words) := match args with
    | ['-', 'f'] :: words => (true, words)
    | ['-', 'v'] :: words => (false, words)
    | words => (false, words)
  for word in words do
    let (name, _) ← declared "unset" word
    if functions then modify fun s => { s with functions := s.functions.erase name }
    else if (← get).fixed.contains name then fatal "unset" (name ++ ": is read only")
    else modify fun s => { s with bindings := s.bindings.erase name }
  Act.setStatus 0

/-- Turns an option on or off by its letter. -/
def option? (on : Bool) (letter : Char) (o : Options) : Option Options :=
  match letter with
  | 'e' => some { o with strict := on }
  | 'u' => some { o with complete := on }
  | 'x' => some { o with traced := on }
  | 'f' => some { o with verbatim := on }
  | 'C' => some { o with careful := on }
  | 'a' | 'b' | 'I' | 'i' | 'm' | 'n' | 's' | 'v' | 'V' | 'E' => some o
  | _ => none

/-- The letter of an option by its name. -/
def letterOf (name : Bytes) : Char :=
  match String.ofList name with
  | "errexit" => 'e'
  | "nounset" => 'u'
  | "xtrace" => 'x'
  | "noglob" => 'f'
  | "noclobber" => 'C'
  | "allexport" => 'a'
  | "verbose" => 'v'
  | "notify" => 'b'
  | "monitor" => 'm'
  | _ => '\x00'

/-- Options and arguments; without both nothing changes. -/
def configure : List Bytes → Act Unit
  | [] => Act.setStatus 0
  | ['-', '-'] :: rest => modify fun s => { s with arguments := rest, status := 0 }
  | ['-'] :: rest => do
    modify fun s => { s with options := { s.options with traced := false }, status := 0 }
    if !rest.isEmpty then modify fun s => { s with arguments := rest }
  | [sign, 'o'] :: rest => do
    if sign = '-' || sign = '+' then
      match rest with
      | [] => Act.setStatus 0
      | name :: rest =>
        turn (sign = '-') [letterOf name] ("-o " ++ String.ofList name)
        configure rest
    else modify fun s => { s with arguments := [sign, 'o'] :: rest, status := 0 }
  | (sign :: letters) :: rest => do
    if sign = '-' || sign = '+' then
      turn (sign = '-') letters ""
      configure rest
    else modify fun s => { s with arguments := (sign :: letters) :: rest, status := 0 }
  | rest => modify fun s => { s with arguments := rest, status := 0 }
where
  turn (on : Bool) (letters : Bytes) (name : String) : Act Unit := do
    for letter in letters do
      match option? on letter (← get).options with
      | some o => modify fun s => { s with options := o, status := 0 }
      | none =>
        fatal "set" ("Illegal option " ++
          if name.isEmpty then "-" ++ String.ofList [letter] else name)

/-- Where a search for options goes on, and what it found. -/
structure Scan where
  /-- The letter; there is none at the end. -/
  letter : Option Char
  index : Nat
  taken : Nat
  argument : Option Bytes := none
  message : String := ""

/-- The next option among arguments. `known` are the letters, with a colon after those that take
an argument; a colon in front keeps faults quiet. -/
def scan (known : Bytes) (args : List Bytes) (index taken : Nat) : Scan :=
  let quiet := known.head? = some ':'
  let current := if index ≤ 1 || taken = 0 then [] else (args.getD (index - 2) []).drop taken
  let fresh : Option (Bytes × Nat × Nat) :=
    if !current.isEmpty then some (current, index, taken)
    else match args[index - 1]? with
      | some ('-' :: c :: rest) => some (c :: rest, index + 1, 1)
      | _ => none
  match fresh with
  | none => ⟨none, index, 0, none, ""⟩
  | some ([], index, _) => ⟨none, index, 0, none, ""⟩
  | some (['-'], index, 1) => ⟨none, index, 0, none, ""⟩
  | some (c :: rest, index, taken) =>
    let after := if rest.isEmpty then 0 else taken + 1
    let place := known.dropWhile (· ≠ c)
    if c = ':' || place.isEmpty then
      if quiet then ⟨some '?', index, after, some [c], ""⟩
      else ⟨some '?', index, after, none, "Illegal option -" ++ String.ofList [c] ++ "\n"⟩
    else if place[1]? = some ':' then
      if !rest.isEmpty then ⟨some c, index, 0, some rest, ""⟩
      else match args[index - 1]? with
        | some value => ⟨some c, index + 1, 0, some value, ""⟩
        | none =>
          if quiet then ⟨some ':', index, 0, some [c], ""⟩
          else ⟨some '?', index, 0, none, "No arg for -" ++ String.ofList [c] ++ " option\n"⟩
    else ⟨some c, index, after, some [], ""⟩

/-- Finds the next option of the script, or of arguments given. -/
def getopts (args : List Bytes) : Act Unit := do
  match args with
  | known :: name :: given =>
    let s ← get
    let index := max 1 (Text.ofDigits 10 (s.value "OPTIND"))
    let found := scan known (if given.isEmpty then s.arguments else given) index s.lettersTaken
    if found.letter.isSome then
      modify fun s => s.restore "OPTARG" found.argument
    Act.send 2 found.message.toList
    Act.assign "OPTIND" (toString found.index).toList
    Act.assign (String.ofList name) [found.letter.getD '?']
    modify fun s => { s with
      lettersTaken := found.taken, status := if found.letter.isSome then 0 else 1 }
  | _ => fault "getopts" "Usage: getopts optstring var [arg]"

/-! Names for commands. -/

/-- Gives names to texts, or shows what names stand for. -/
def name (args : List Bytes) : Act Unit := do
  let shown (name : String) (text : Bytes) : Bytes :=
    name.toList ++ '=' :: Signal.inQuotes text ++ ['\n']
  Act.setStatus 0
  if args.isEmpty then
    Act.send 1 ((← get).aliases.entries.flatMap fun e => shown e.1 e.2)
  for word in args do
    let key := String.ofList (word.takeWhile (· ≠ '='))
    match word.drop key.length with
    | _ :: text => modify fun s => { s with aliases := s.aliases.insert key text }
    | [] =>
      match (← get).aliases.get? key with
      | some text => Act.send 1 (shown key text)
      | none =>
        Act.send 2 ("alias: " ++ key ++ " not found\n").toList
        Act.setStatus 1

def unname (args : List Bytes) : Act Unit := do
  Act.setStatus 0
  for word in args do
    let key := String.ofList word
    if word = ['-', 'a'] then modify fun s => { s with aliases := .empty }
    else if (← get).aliases.contains key then
      modify fun s => { s with aliases := s.aliases.erase key }
    else
      Act.send 2 ("unalias: " ++ key ++ " not found\n").toList
      Act.setStatus 1

/-! Reading. -/

/-- A line of the input, without its end; whether the end was there; the rest. A backslash
protects the next character and joins lines, unless the line is read raw. -/
def line (raw : Bool) : (fuel : Nat) → Bytes → List Cell × Bool × Bytes
  | 0, rest => ([], false, rest)
  | _, [] => ([], false, [])
  | _ + 1, '\n' :: rest => ([], true, rest)
  | fuel + 1, c :: rest =>
    let put (x : Cell) (r : List Cell × Bool × Bytes) := (x :: r.1, r.2)
    if !raw && c == '\\' then
      match rest with
      | '\n' :: rest => line raw fuel rest
      | d :: rest => put (d, true) (line raw fuel rest)
      | [] => ([], false, [])
    else put (c, false) (line raw fuel rest)

/-- Reads a line into variables. -/
def read (args : List Bytes) : Act Unit := do
  let rec options : (raw : Bool) → List Bytes → Act (Bool × List Bytes)
    | _, ['-', 'r'] :: rest => options true rest
    | raw, ['-', 'p'] :: _ :: rest => options raw rest
    | raw, ['-', '-'] :: rest => pure (raw, rest)
    | raw, ('-' :: c :: cs) :: rest => do
      fault "read" ("Illegal option -" ++ String.ofList [c])
      pure (raw, [] :: ('-' :: c :: cs) :: rest)
    | raw, names => pure (raw, names)
  match ← options false args with
  | (_, []) => fault "read" "arg count"
  | (_, [] :: _) => pure ()
  | (raw, names) =>
    let s ← get
    let (cells, complete, rest) := line raw (s.input.length + 1) s.input
    modify (·.setInput rest)
    for (name, value) in Field.distribute s.separators (names.map String.ofList)
        (cells.filter (·.1 ≠ '\x00')) do
      if Reader.isName name.toList then Act.assign name value
      else
        fault "read" (name ++ ": bad variable name")
        return
    Act.setStatus (if complete then 0 else 1)

/-- Shows or sets the mask of rights. -/
def umask (args : List Bytes) : Act Unit := do
  let s ← get
  let letters := ((args.takeWhile isOption).flatten).filter (· ≠ '-')
  match letters.find? (· ≠ 'S'), args.dropWhile isOption with
  | some c, _ => fault "umask" ("Illegal option -" ++ String.ofList [c])
  | none, [] =>
    let shown := if letters.isEmpty then Mask.digits s.mask else Mask.symbols s.mask
    Act.print "umask" (shown ++ ['\n'])
  | none, word :: _ =>
    match Mask.read? s.mask word with
    | .ok mask => set { s with mask := mask, status := 0 }
    | .error text => fault "umask" text

/-! Directories. -/

/-- Goes to another directory. -/
def changeDirectory (args : List Bytes) : Act Unit := do
  let s ← get
  let args := args.filter fun a => !(["-P", "-L", "--"].contains (String.ofList a))
  let back := args.head? = some ['-']
  let path := match args with
    | ['-'] :: _ => s.value "OLDPWD"
    | path :: _ => path
    | [] => s.value "HOME"
  if path.isEmpty then Act.setStatus 0
  else if s.isDirectory path then
    set { s with
      directory := Path.ofPlace (s.place path)
      bindings := (s.bindings.insert "OLDPWD" s.directory.toList).insert "PWD"
        (Path.ofPlace (s.place path)).toList
      status := 0 }
    if back then Act.print "cd" ((Path.ofPlace (s.place path)).toList ++ ['\n'])
  else fault "cd" ("can't cd to " ++ String.ofList path)

/-! Waiting. -/

/-- Waits for all commands that run beside the script, or for some. -/
def wait (args : List Bytes) : Act Unit := do
  if args.isEmpty then
    modify fun s => { s with
      clock := s.jobs.values.foldl (fun n job => max n job.ends) s.clock, status := 0 }
  for target in args do
    match (← get).jobs.get? (Text.ofDigits 10 target) with
    | some job =>
      modify fun s => { s with clock := max s.clock job.ends, status := job.status }
      let epitaph := if 128 < job.status then Signal.epitaph (job.status - 128) else ""
      if !epitaph.isEmpty then Act.send 2 (epitaph ++ "\n").toList
    | none => Act.setStatus 127

/-! All of them. -/

/-- Tests. -/
def test (name : String) (args : List Bytes) : Act Unit := do
  if name = "[" && args.getLast? ≠ some [']'] then fault name "missing ]"
  else
    let words := if name = "[" then args.dropLast else args
    match Test.holds (← get) (words.length + 1) words with
    | .ok b => Act.setStatus (if b then 0 else 1)
    | .error f => fault name f.message

def printf (args : List Bytes) : Act Unit := do
  match args.filter (· ≠ ['-', '-']) with
  | format :: args =>
    let p := Print.printf format args
    for f in p.faults do fault "printf" f
    Act.print "printf" p.out
    if p.refused then Act.setStatus 2
    else if !p.faults.isEmpty then Act.setStatus 1
  | [] => fault "printf" "usage: printf format [arg ...]"

/-- Runs a command by its name, if the shell does so without running others. -/
def run? (name : String) (args : List Bytes) (k : Context) : Option (Act Unit) :=
  match name with
  | ":" | "true" | "times" | "hash" | "ulimit" | "jobs" | "fg" | "bg" =>
    some (Act.setStatus 0)
  | "false" => some (Act.setStatus 1)
  | "echo" => some (Act.print name (Print.echo args))
  | "printf" => some (printf args)
  | "pwd" => some do Act.print name ((← get).directory.toList ++ ['\n'])
  | "cd" | "chdir" => some (changeDirectory args)
  | "test" | "[" => some (test name args)
  | "read" => some (read args)
  | "umask" => some (umask args)
  | "exit" => some (exit args)
  | "return" => some (back args)
  | "break" => some (leaveLoops name .leave args k)
  | "continue" => some (leaveLoops name .again args k)
  | "shift" => some (shift args)
  | "set" => some (configure args)
  | "unset" => some (unset args)
  | "export" => some (publish args)
  | "readonly" => some (fix args)
  | "local" => some (keepApart args)
  | "getopts" => some (getopts args)
  | "alias" => some (Builtin.name args)
  | "unalias" => some (unname args)
  | "trap" => some (Signal.trap args)
  | "kill" => some (Signal.kill args)
  | "wait" => some (wait args)
  | _ => none

end Landing.Shell.Builtin
