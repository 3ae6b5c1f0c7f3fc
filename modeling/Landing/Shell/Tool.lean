import Landing.Shell.Builtin
import Landing.Shell.Expression
import Landing.Shell.Filter

/-! Programs that every system has. -/
namespace Landing.Shell.Tool

/-- A fault, under the name of the program that has it. -/
def fault (name text : String) : Act Unit := do
  Act.send 2 (name ++ ": " ++ text ++ "\n").toList
  Act.setStatus 1

def print (bytes : Bytes) : Act Unit := do
  Act.send 1 bytes
  Act.setStatus 0

def letters (args : List Bytes) : Bytes := (args.filter isOption).flatten

def operands (args : List Bytes) : List Bytes := args.filter (!isOption ·)

/-- A path between quotes, as faults name it. -/
def named (path : Bytes) : String := "'" ++ String.ofList path ++ "'"

/-- Removes files, and with `-r` directories. -/
def remove (args : List Bytes) : Act Unit := do
  let letters := letters args
  Act.setStatus 0
  for path in operands args do
    let s ← get
    let place := s.place path
    if (s.files.file? place).isSome then set { s with files := s.files.remove place }
    else if s.files.isDirectory place then
      if letters.contains 'r' || letters.contains 'R' then
        set { s with files :=
          ⟨⟨s.files.files.entries.filter fun e => !place.isPrefixOf e.1⟩,
            place.dropLast :: s.files.made.filter fun d => !place.isPrefixOf d⟩ }
      else fault "rm" ("cannot remove " ++ named path ++ ": Is a directory")
    else if !letters.contains 'f' then
      fault "rm" ("cannot remove " ++ named path ++ ": No such file or directory")

def removeDirectories (args : List Bytes) : Act Unit := do
  Act.setStatus 0
  for path in operands args do
    let s ← get
    let place := s.place path
    let complain (reason : String) : Act Unit :=
      fault "rmdir" ("failed to remove " ++ named path ++ ": " ++ reason)
    if !s.files.contains place then complain "No such file or directory"
    else if !s.files.isDirectory place then complain "Not a directory"
    else if !(s.files.list place).isEmpty then complain "Directory not empty"
    else set { s with files := { s.files with
      made := place.dropLast :: s.files.made.filter (· ≠ place) } }

def makeDirectories (args : List Bytes) : Act Unit := do
  let parents := (letters args).contains 'p'
  Act.setStatus 0
  for path in operands args do
    let s ← get
    let place := s.place path
    let complain (reason : String) : Act Unit :=
      fault "mkdir" ("cannot create directory " ++ named path ++ ": " ++ reason)
    if s.files.contains place && !(parents && s.files.isDirectory place) then complain "File exists"
    else if !parents && !s.files.isDirectory place.dropLast then
      complain (if s.files.isBlocked place then "Not a directory" else "No such file or directory")
    else match s.files.makeDirectory place with
      | .ok files => set { s with files := files }
      | .error _ => complain "Not a directory"

/-- Copies or moves files, to a path or into a directory. -/
def copy (move : Bool) (args : List Bytes) : Act Unit := do
  let name := if move then "mv" else "cp"
  Act.setStatus 0
  match (operands args).reverse with
  | [] => fault name "missing file operand"
  | [path] =>
    fault name ("missing destination file operand after " ++ named path)
  | path :: sources =>
    for source in sources.reverse do
      let s ← get
      let place := s.place source
      let target := if s.isDirectory path then
        s.place path ++ place.getLast?.toList else s.place path
      match s.files.file? place with
      | some f =>
        if s.files.isDirectory target.dropLast then
          let files := s.files.put target f
          set { s with files := if move && target ≠ place then files.remove place else files }
        else if move then
          fault name ("cannot move " ++ named source ++ " to " ++ named path ++
            ": No such file or directory")
        else
          fault name ("cannot create regular file " ++ named path ++ ": No such file or directory")
      | none =>
        if s.files.isDirectory place && move then
          let moved (p : List String) : List String :=
            if place.isPrefixOf p then target ++ p.drop place.length else p
          let entries := s.files.files.entries.map fun (p, f) => (moved p, f)
          set { s with files := ⟨⟨entries⟩, place.dropLast :: target :: s.files.made.map moved⟩ }
        else if s.files.isDirectory place then
          fault name ("-r not specified; omitting directory " ++ named source)
        else fault name ("cannot stat " ++ named source ++ ": No such file or directory")

/-- Makes a file, or a directory, with a name that is not taken. -/
def makeTemporary (args : List Bytes) : Act Unit := do
  let s ← get
  let name (n : Nat) : String := "/tmp/tmp." ++ String.ofList (Nat.toDigits 10 (7300000000 + n))
  let free := (List.range (s.files.files.size + s.files.made.length + 1)).find? fun n =>
    !s.hasPath (name n).toList
  let path := name (free.getD 0)
  let place := s.place path.toList
  set { s with files :=
    if (letters args).contains 'd' then { s.files with made := place :: s.files.made }
    else s.files.put place ⟨[], false⟩ }
  print (path.toList ++ ['\n'])

def touch (args : List Bytes) : Act Unit := do
  Act.setStatus 0
  for path in operands args do
    let s ← get
    if !s.hasPath path then
      match s.files.write (s.place path) [] with
      | .ok files => set { s with files := files }
      | .error _ => fault "touch" ("cannot touch " ++ named path ++ ": No such file or directory")

/-- Makes files runnable, or not. -/
def changeMode (args : List Bytes) : Act Unit := do
  Act.setStatus 0
  match args with
  | mode :: paths =>
    let number := !mode.isEmpty && mode.all (Text.isDigitIn 8)
    for path in paths do
      let s ← get
      match s.files.file? (s.place path) with
      | some f =>
        let runs :=
          if number then Text.ofDigits 8 mode % 2 = 1 || (Text.ofDigits 8 mode / 64) % 2 = 1
          else if mode.contains 'x' then !mode.contains '-' else f.executable
        set { s with files := s.files.put (s.place path) { f with executable := runs } }
      | none =>
        if !s.hasPath path then
          fault "chmod" ("cannot access " ++ named path ++ ": No such file or directory")
  | [] => fault "chmod" "missing operand"

/-- Numbers from one to another, one on a line. -/
def sequence (args : List Bytes) : Act Unit :=
  let count (first step last : Int) : Bytes :=
    let n := if step = 0 then 0 else ((last - first).fdiv step + 1).toNat
    (List.range n).flatMap fun (i : Nat) => (toString (first + i * step)).toList ++ ['\n']
  match args.mapM Test.number? with
  | some [last] => print (count 1 1 last)
  | some [first, last] => print (count first 1 last)
  | some [first, step, last] => print (count first step last)
  | _ => fault "seq" "missing operand"

/-- The last name of a path, without an ending. -/
def baseName (args : List Bytes) : Act Unit :=
  let base (path : Bytes) : Bytes := ((Path.names (String.ofList path)).getLast?.getD "/").toList
  match args with
  | [path] => print (base path ++ ['\n'])
  | [path, ending] =>
    let base := base path
    let kept := base.take (base.length - ending.length)
    print ((if base = kept ++ ending && !kept.isEmpty then kept else base) ++ ['\n'])
  | _ => fault "basename" "missing operand"

def directoryName (args : List Bytes) : Act Unit := do
  let path := String.ofList (args.head?.getD [])
  let dir := Path.parent path
  print ((if dir.isEmpty then ['.'] else dir.toList) ++ ['\n'])

/-- The names in directories, in order, one on a line. -/
def list (args : List Bytes) : Act Unit := do
  let letters := letters args
  let paths := operands args
  Act.setStatus 0
  for path in if paths.isEmpty then [['.']] else paths do
    let s ← get
    let place := s.place path
    if (s.files.file? place).isSome || (letters.contains 'd' && s.hasPath path) then
      Act.send 1 (path ++ ['\n'])
    else if s.files.isDirectory place then
      let own := if letters.contains 'a' then [".", ".."] else []
      let names := (own ++ (s.files.list place).filter fun name =>
        !Text.startsWith "." name || letters.contains 'a' || letters.contains 'A').mergeSort (· ≤ ·)
      Act.send 1 (names.flatMap fun name => name.toList ++ ['\n'])
    else
      fault "ls" ("cannot access " ++ named path ++ ": No such file or directory")
      Act.setStatus 2

/-- Prints the input, and writes it into files. -/
def tee (args : List Bytes) : Act Unit := do
  let s ← get
  let input := s.input
  set (s.setInput [])
  for path in operands args do
    let s ← get
    let old := if (letters args).contains 'a' then
      ((s.files.file? (s.place path)).map (·.bytes)).getD [] else []
    set { s with files :=
      (s.files.write (s.place path) (old ++ Text.bytesOfChars input)).toOption.getD s.files }
  print input

/-- Lets time pass. -/
def sleep (args : List Bytes) : Act Unit := do
  let milliseconds (word : Bytes) : Nat :=
    let whole := word.takeWhile (Text.isDigitIn 10)
    let part := ((word.drop (whole.length + 1)).takeWhile (Text.isDigitIn 10)).take 3
    let unit := match word.getLast? with
      | some 'm' => 60
      | some 'h' => 3600
      | _ => 1
    unit * (1000 * Text.ofDigits 10 whole +
      Text.ofDigits 10 (part ++ List.replicate (3 - part.length) '0'))
  modify fun s => { s with clock := (args.map milliseconds).foldl (· + ·) s.clock, status := 0 }

/-- Shows the value of an expression. -/
def calculate (args : List Bytes) : Act Unit := do
  match args.getLast? with
  | none =>
    fault "expr" "missing operand\nTry 'expr --help' for more information."
    Act.setStatus 2
  | some last =>
    match Expression.value args with
    | .ok a =>
      print (a ++ ['\n'])
      Act.setStatus (if Expression.isNull a then 1 else 0)
    | .error f =>
      fault "expr" (f.message last)
      Act.setStatus 2

/-- Runs a filter on its files, or on the input of the script. -/
def filter (f : Filter) (name : String) : Act Unit := do
  let s ← get
  if f.files.all (· = ['-']) && !s.streams.contains 0 then
    fault name "-: Bad file descriptor"
    fault name "closing standard input: Bad file descriptor"
  else if f.files.all (· = ['-']) then
    let r := f.run [⟨none, s.input⟩]
    set (s.setInput [])
    Act.send 1 r.out
    Act.setStatus r.status
  else
    let found := f.files.map fun path =>
      (path, if path = ['-'] then some s.input else s.contents? path)
    let r := f.run (found.map fun e => ⟨some e.1, e.2.getD []⟩)
    Act.send 1 r.out
    Act.setStatus r.status
    for (path, bytes) in found do
      if bytes.isNone then
        fault name (String.ofList path ++
          if s.hasPath path then ": Is a directory" else ": No such file or directory")
        Act.setStatus f.failure

/-- Runs a program by its name, unless it runs others. -/
def run? (name : String) (args : List Bytes) : Option (Act Unit) :=
  match name with
  | "tty" => some do
    Act.send 1 "not a tty\n".toList
    Act.setStatus 1
  | "true" | "sync" => some (Act.setStatus 0)
  | "false" => some (Act.setStatus 1)
  | "echo" =>
    let (isPlain, args) := match args with
      | ['-', 'n'] :: rest => (true, rest)
      | ['-', 'e'] :: rest => (false, rest)
      | args => (false, args)
    some (print ((args.intersperse [' ']).flatten ++ (if isPlain then [] else ['\n'])))
  | "printf" => some (Builtin.printf args)
  | "pwd" => some do print ((← get).directory.toList ++ ['\n'])
  | "test" | "[" => some (Builtin.test name args)
  | "sleep" => some (sleep args)
  | "seq" => some (sequence args)
  | "basename" => some (baseName args)
  | "dirname" => some (directoryName args)
  | "expr" => some (calculate args)
  | "rm" => some (remove args)
  | "rmdir" => some (removeDirectories args)
  | "mkdir" => some (makeDirectories args)
  | "cp" => some (copy false args)
  | "mv" => some (copy true args)
  | "touch" => some (touch args)
  | "chmod" => some (changeMode args)
  | "ls" => some (list args)
  | "mktemp" => some (makeTemporary args)
  | "date" => some (print "Thu Jan  1 00:00:00 UTC 1970\n".toList)
  | "tee" => some (tee args)
  | "readlink" | "realpath" => some do
    let s ← get
    for path in operands args do
      Act.send 1 ((Path.ofPlace (s.place path)).toList ++ ['\n'])
    Act.setStatus 0
  | "id" => some (print (if (letters args).contains 'n' then "root\n".toList else "0\n".toList))
  | "whoami" => some (print "root\n".toList)
  | "uname" => some (print "Linux\n".toList)
  | "printenv" => some do
    let s ← get
    match args with
    | name :: _ =>
      match if s.exported.contains (String.ofList name) then
        s.bindings.get? (String.ofList name) else none with
      | some value => print (value ++ ['\n'])
      | none => Act.setStatus 1
    | [] =>
      print ((s.bindings.entries.filter fun e => s.exported.contains e.1).flatMap fun e =>
        e.1.toList ++ '=' :: e.2 ++ ['\n'])
  | name => (Filter.ofName? name args).map fun f => filter f name

end Landing.Shell.Tool
