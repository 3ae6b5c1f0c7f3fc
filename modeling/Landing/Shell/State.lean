import Landing.FileTree
import Landing.Shell.Arithmetic
import Landing.Shell.Field
import Landing.Shell.Source
import Landing.Shell.System

/-! What a running script can see and change. -/
namespace Landing.Shell

/-- Where a stream leads. -/
inductive Stream where
  /-- From an input, kept under a number. -/
  | source (n : Nat)
  /-- To an output, kept under a number. -/
  | kept (n : Nat)
  | file (place : List String)
  | nowhere
  deriving DecidableEq, Repr, Inhabited

/-- What ends a command before its time. -/
inductive Flow where
  | exit
  | killed (signal : Nat)
  | leave (loops : Nat)
  | again (loops : Nat)
  | back
  deriving DecidableEq, Repr, Inhabited

/-- Whether the failure of a command is looked at, and how many loops are around it. -/
structure Context where
  tested : Bool := false
  loops : Nat := 0

/-- What a script asked for. -/
structure Options where
  /-- A failure that is not looked at ends the script. -/
  strict : Bool := false
  /-- A parameter that is not set is a fault. -/
  complete : Bool := false
  /-- Commands are told before they run. -/
  traced : Bool := false
  /-- No word is a pattern. -/
  verbatim : Bool := false
  /-- Files that are there are not written anew. -/
  careful : Bool := false
  deriving DecidableEq, Repr

/-- A command that runs beside the script: how it ends and when. -/
structure Job where
  status : Nat
  ends : Nat
  deriving DecidableEq, Repr

/-- The state of a script. Its time, in milliseconds, passes only where it waits. -/
structure State where
  files : FileTree
  directory : String
  /-- The name it was started under. -/
  program : Bytes
  arguments : List Bytes := []
  bindings : Table String Bytes := .empty
  exported : List String := []
  fixed : List String := []
  functions : Table String Command := .empty
  aliases : Table String Bytes := .empty
  documents : Array Word := #[]
  streams : Table Nat Stream := .empty
  sources : Array Bytes := #[]
  /-- Kept output, each piece with its time, the last one first. -/
  kept : Array (List (Nat × Bytes)) := #[]
  status : Nat := 0
  /-- The status of the last commands whose output was used. -/
  outputStatus : Nat := 0
  line : Nat := 1
  /-- Whose commands these are, if they are not the script's own. -/
  speaker : Option Bytes := none
  options : Options := {}
  traps : Table String Bytes := .empty
  /-- Signals that came and wait for their trap. -/
  raised : List String := []
  /-- The status from before a trap. -/
  before : Option Nat := none
  /-- The number of the process. -/
  number : Nat := 4242
  jobs : Table Nat Job := .empty
  clock : Nat := 0
  /-- The rights that new files do not get. -/
  mask : Nat := 0o022
  /-- In a function, what its local variables were outside. -/
  locals : Option (List (String × Option Bytes)) := none
  /-- How many functions are being run. -/
  depth : Nat := 0
  /-- How many letters of the current option were taken. -/
  lettersTaken : Nat := 0

/-- A step of a script. -/
abbrev Act (α : Type) := ExceptT Flow (StateM State) α

namespace State

def place (s : State) (path : Bytes) : List String :=
  Path.locate s.directory (Text.decodeLossy (Text.bytesOfChars path))

/-- Adds bytes to a file that is there. -/
def extend (s : State) (place : List String) (bytes : Bytes) : State :=
  match s.files.file? place with
  | some f => { s with
      files := s.files.put place { f with bytes := f.bytes ++ Text.bytesOfChars bytes } }
  | none => s

/-- Sends bytes to a stream that can take them. -/
def send? (s : State) (stream : Nat) (bytes : Bytes) : Option State :=
  match s.streams.get? stream with
  | some (.kept n) => some { s with kept := s.kept.modify n ((s.clock, bytes) :: ·) }
  | some (.file place) => some (s.extend place bytes)
  | some .nowhere => some s
  | _ => none

/-- What was kept, in the order of its times. -/
def output (s : State) (n : Nat) : Bytes :=
  ((s.kept.getD n []).reverse.mergeSort fun a b => a.1 ≤ b.1).flatMap (·.2)

/-- What is left of the input. -/
def input (s : State) : Bytes :=
  match s.streams.get? 0 with
  | some (.source n) => s.sources.getD n []
  | _ => []

def setInput (s : State) (rest : Bytes) : State :=
  match s.streams.get? 0 with
  | some (.source n) => { s with sources := s.sources.set! n rest }
  | _ => s

/-- Ties a stream to a new input. -/
def feed (s : State) (stream : Nat) (bytes : Bytes) : State :=
  { s with
    sources := s.sources.push bytes
    streams := s.streams.insert stream (.source s.sources.size) }

/-- The file at a path. -/
def file? (s : State) (path : Bytes) : Option File :=
  if path.isEmpty then none else s.files.file? (s.place path)

def isDirectory (s : State) (path : Bytes) : Bool :=
  !path.isEmpty && (s.files.isDirectory (s.place path) || System.isDirectory (s.place path))

def isProgram (s : State) (path : Bytes) : Bool :=
  !path.isEmpty && (System.program? (s.place path)).isSome

def hasPath (s : State) (path : Bytes) : Bool :=
  (s.file? path).isSome || s.isDirectory path || s.isProgram path ||
    (!path.isEmpty && System.isDevice (s.place path))

/-- What a file holds. -/
def contents? (s : State) (path : Bytes) : Option Bytes :=
  if path = "/dev/null".toList || path = "/dev/tty".toList then some []
  else if path = "/dev/stdin".toList then some s.input
  else (s.file? path).map fun f => Text.charsOfBytes f.bytes

/-- The number of the command that was last sent to run beside the script. -/
def lastJob? (s : State) : Option Nat := s.jobs.keys.getLast?

/-- The letters of the options that are on. -/
def optionLetters (s : State) : Bytes :=
  (if s.options.strict then ['e'] else []) ++ (if s.options.verbatim then ['f'] else []) ++
    (if s.options.traced then ['x'] else []) ++ (if s.options.careful then ['C'] else []) ++
    (if s.options.complete then ['u'] else [])

/-- Characters between which words are split. -/
def separators (s : State) : Bytes := (s.bindings.get? "IFS").getD [' ', '\t', '\n']

/-- What stands between the arguments where they are joined. -/
def joint (s : State) : Bytes := s.separators.take 1

/-- The value of a parameter, if it is set. -/
def parameter? (s : State) (name : String) : Option Bytes :=
  match name with
  | "#" => some (toString s.arguments.length).toList
  | "?" => some (toString s.status).toList
  | "$" => some (toString s.number).toList
  | "-" => some s.optionLetters
  | "!" => s.lastJob?.map fun n => (toString n).toList
  | "0" => some s.program
  | "@" | "*" => some (s.arguments.intersperse s.joint).flatten
  | name =>
    match Text.decimal? name with
    | some n => s.arguments[n - 1]?
    | none => s.bindings.get? name

def value (s : State) (name : String) : Bytes := (s.parameter? name).getD []

def assign (s : State) (name : String) (value : Bytes) : State :=
  { s with bindings := s.bindings.insert name value }

/-- Gives a variable back what it had. -/
def restore (s : State) (name : String) (value : Option Bytes) : State :=
  match value with
  | some v => s.assign name v
  | none => { s with bindings := s.bindings.erase name }

/-- Whether a parameter counts as missing. -/
def isMissing (s : State) (name : String) (empty : Bool) : Bool :=
  match s.parameter? name with
  | none => true
  | some v => empty && v.isEmpty

/-- The files whose paths fit a pattern, in the order of their names. -/
def pathsFor (s : State) (cells : List Cell) : List Bytes :=
  let parts := cells.splitOnP fun c => c.1 == '/'
  let absolute := (cells.head?.map (·.1)) == some '/'
  let start : List (Bytes × List String) :=
    [([], Path.locate s.directory (if absolute then "/" else "."))]
  let join (before name : Bytes) : Bytes :=
    if before.isEmpty then (if absolute then '/' :: name else name) else before ++ '/' :: name
  let found := (parts.filter (!·.isEmpty)).foldl (fun paths part =>
    paths.flatMap fun (path, place) =>
      if Glob.isPattern part then
        ((s.files.list place).filter fun name =>
          Glob.fits (Glob.compile part) name.toList &&
            (!Text.startsWith "." name || (part.head?.map (·.1)) == some '.')).map fun name =>
              (join path name.toList, place ++ [name])
      else
        let name := part.map (·.1)
        let place := Path.resolve place.reverse [String.ofList name]
        if s.files.contains place then [(join path name, place)] else []) start
  ((found.map fun p => String.ofList p.1).mergeSort (· ≤ ·)).map String.toList

/-- The variables with which a script begins. -/
def ofEnvironment (directory : String) (environment : List (String × Bytes)) :
    Table String Bytes :=
  .ofList ([("PATH", "/usr/local/sbin:/usr/local/bin:/usr/sbin:/usr/bin:/sbin:/bin".toList)] ++
    environment ++
    [("IFS", [' ', '\t', '\n']), ("OPTIND", ['1']), ("PPID", ['1']), ("PS1", "# ".toList),
      ("PS2", "> ".toList), ("PS4", "+ ".toList), ("PWD", directory.toList)])

/-- How long it takes until a command that runs beside the script begins, in milliseconds. -/
def latency : Nat := 1

/-- What a command in a process of its own leaves behind. -/
def rejoin (outer inner : State) : State :=
  { outer with
    files := inner.files, sources := inner.sources, kept := inner.kept, clock := inner.clock,
    documents := inner.documents, status := inner.status % 256 }

end State

namespace Act

variable {α : Type}

def setStatus (n : Nat) : Act Unit := modify fun s => { s with status := n }

/-- Sends bytes to a stream. What cannot be sent is lost. -/
def send (stream : Nat) (bytes : Bytes) : Act Unit :=
  modify fun s => (s.send? stream bytes).getD s

/-- Tells a fault on the error output, under the name of the command that has it. -/
def tellAs (name : Option Bytes) (text : String) : Act Unit := do
  let s ← get
  let lead := match name with
    | some name => name ++ ": ".toList
    | none => []
  send 2 (s.program ++ (": " ++ toString s.line ++ ": ").toList ++ lead ++ text.toList ++ ['\n'])

/-- Tells a fault of the script. -/
def tell (text : String) : Act Unit := do tellAs (← get).speaker text

/-- Ends the script with a failure, also in a trap. -/
def fail (status : Nat) : Act α := do
  modify fun s => { s with status := status, before := none }
  throw .exit

/-- A fault that ends the script. -/
def die (text : String) : Act α := do
  tell text
  fail 2

/-- Prints on the output, as a command of the shell itself. -/
def print (name : String) (bytes : Bytes) : Act Unit := do
  match (← get).send? 1 bytes with
  | some s => set { s with status := 0 }
  | none =>
    if bytes.isEmpty then setStatus 0
    else
      tellAs (some name.toList) (name ++ ": I/O error")
      setStatus 1

/-- Sets a variable, unless it is fixed. -/
def assign (name : String) (value : Bytes) : Act Unit := do
  if (← get).fixed.contains name then die (name ++ ": is read only")
  modify (·.assign name value)

/-- Runs something, and afterwards changes the state, however it ended. -/
def afterwards (a : Act α) (f : State → State) : Act α := fun s =>
  let (r, s) := a s
  (r, f s)

end Act

end Landing.Shell
