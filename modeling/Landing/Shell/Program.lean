import Landing.Shell.Tool

/-! Finding programs by their names, and starting them. -/
namespace Landing.Shell

/-- A command that can be run by its name. -/
inductive Program where
  | tool (run : Act Unit)
  /-- One that runs others. -/
  | runner (name : String)
  | script (text : Bytes)
  | forbidden
  | missing

namespace Program

/-- The directories in which programs are looked for. -/
def searched (s : State) : List Bytes :=
  Text.splitAt ':' ((s.bindings.get? "PATH").getD "/usr/local/bin:/usr/bin:/bin".toList)

/-- The path of a program. -/
def path? (s : State) (name : Bytes) : Option Bytes :=
  if name.contains '/' then some name
  else
    ((searched s).map fun dir => if dir.isEmpty then name else dir ++ '/' :: name).find? fun path =>
      (s.file? path).any (·.executable) || s.isProgram path

/-- The program that a name stands for. -/
def ofName (s : State) (name : Bytes) (args : List Bytes) : Program :=
  match path? s name with
  | none => .missing
  | some path =>
    match s.file? path, System.program? (s.place path) with
    | some f, _ => if f.executable then .script (Text.charsOfBytes f.bytes) else .forbidden
    | none, some name =>
      if System.runners.contains name then .runner name
      else match Tool.run? name args with
        | some a => .tool a
        | none => .missing
    | none, none => if s.hasPath path then .forbidden else .missing

/-- What `type` and `command -v` say of a name. -/
def describe (long : Bool) (name : Bytes) : Act Bool := do
  let s ← get
  let word := String.ofList name
  let say (short : Bytes) (text : String) : Act Bool := do
    Act.print "type" ((if long then name ++ ' ' :: text.toList else short) ++ ['\n'])
    pure true
  if Token.keywords.contains word then say name "is a shell keyword"
  else if s.functions.contains word then say name "is a shell function"
  else if Token.reserved.contains word then say name "is a special shell builtin"
  else if Builtin.names.contains word then say name "is a shell builtin"
  else
    match ofName s name [], path? s name with
    | .tool _, some path | .script _, some path | .runner _, some path =>
      say path ("is " ++ String.ofList path)
    | _, _ =>
      if long then Act.print "type" (name ++ ": not found\n".toList)
      pure false

/-- A shell that a program starts: its own variables are those that were exported. -/
def child (s : State) (program : Bytes) (args : List Bytes) : State :=
  { s with
    program := program, arguments := args
    bindings := State.ofEnvironment s.directory
      (s.bindings.entries.filter fun e => s.exported.contains e.1)
    fixed := [], functions := .empty, aliases := .empty, documents := #[]
    line := 1, speaker := none
    options := {}, traps := ⟨s.traps.entries.filter fun t => t.2.isEmpty⟩, raised := []
    before := none, depth := 0, number := s.number + 1 + s.jobs.size, jobs := .empty, locals := none
    lettersTaken := 0 }

/-- Runs a program as another process; a signal ends only that. -/
def started (start : State → State) (a : Act Unit) : Act Unit := fun outer =>
  let (r, inner) := a (start outer)
  let s := { outer.rejoin inner with documents := outer.documents }
  match r with
  | .error (.killed n) =>
    let epitaph := Signal.epitaph n
    (if epitaph.isEmpty then pure () else Act.send 2 (epitaph ++ "\n").toList)
      { s with status := 128 + n }
  | _ => (.ok (), { s with status := s.status % 256 })

/-- A text with `new` wherever `old` stood. -/
def replaced (old new : Bytes) : (fuel : Nat) → Bytes → Bytes
  | 0, cs => cs
  | _, [] => []
  | fuel + 1, c :: cs =>
    match Text.strip? old (c :: cs) with
    | some rest => new ++ replaced old new fuel rest
    | none => c :: replaced old new fuel cs

/-- Pieces of a list, all but the last of one size. -/
def chunks {α : Type} (n : Nat) : (fuel : Nat) → List α → List (List α)
  | 0, _ | _, [] => []
  | fuel + 1, l => l.take n :: chunks n fuel (l.drop n)

end Program

end Landing.Shell
