import Landing.Shell.Machine

/-! Starting programs. -/
namespace Landing.Shell

/-- A program about to be started. -/
structure Process where
  program : String
  arguments : List String
  input : String
  /-- The directory it is started in. -/
  directory : String
  environment : List (String × String) := []

/-- How a process ended: by itself with a status, or by a signal. -/
structure Ending where
  status : Option Nat
  out : List UInt8
  err : List UInt8
  deriving DecidableEq, Repr

namespace Process

def bytesOf (s : String) : Bytes := Text.charsOfBytes (Text.encode s)

/-- How deep commands may lie, and how many rounds a loop may make. -/
def patience : Nat := 100000

/-- The shells that run scripts. -/
def interpreters : List String :=
  ["/bin/sh", "/usr/bin/sh", "/bin/dash", "/usr/bin/dash", "/bin/bash", "/usr/bin/bash",
   "/usr/bin/env sh", "/usr/bin/env dash", "/usr/bin/env bash"]

/-- The options that the first line of a script gives, if it names a shell. -/
def options? (script : Bytes) : Option Options :=
  match script with
  | '#' :: '!' :: rest =>
    let line := Text.trim (String.ofList (rest.takeWhile (· ≠ '\n')))
    if interpreters.contains line then some {}
    else
      let words := (Text.split ' ' line).filter (!·.isEmpty)
      match words with
      | [shell, option] =>
        match option.toList with
        | '-' :: letters =>
          if interpreters.contains shell then
            letters.foldlM (fun o c => Builtin.option? true c o) {}
          else none
        | _ => none
      | _ => none
  | _ => none

/-- An argument takes less than this many bytes. -/
def argumentLimit : Nat := 131072

/-- Texts with a zero in them and texts that are too long cannot be passed on. -/
def isPassable (s : String) : Bool :=
  !s.toList.contains '\x00' && s.utf8ByteSize < argumentLimit

/-- The state in which a program begins. -/
def start (p : Process) (files : FileTree) : State where
  files := files
  directory := Path.ofPlace (Path.locate p.directory ".")
  program := bytesOf p.program
  arguments := p.arguments.map bytesOf
  bindings := State.ofEnvironment (Path.ofPlace (Path.locate p.directory "."))
    (p.environment.map fun e => (e.1, bytesOf e.2))
  exported := p.environment.map (·.1)
  streams := .ofList [(0, .source 0), (1, .kept 0), (2, .kept 1)]
  sources := #[bytesOf p.input]
  kept := #[[], []]

/-- How a run of the program ended. -/
def ending (r : Except Flow Unit × State) : Ending :=
  let status := match r.1 with
    | .error (.killed _) => none
    | _ => some (r.2.status % 256)
  ⟨status, Text.bytesOfChars (r.2.output 0), Text.bytesOfChars (r.2.output 1)⟩

/-- Runs a program. Without an ending it could not be started. -/
def run (p : Process) (files : FileTree) : Option Ending × FileTree :=
  if !(p.program :: p.arguments).all isPassable then (none, files)
  else
    let s := p.start files
    let done (s : State) (a : Act Unit) : Option Ending × FileTree :=
      let r := a s
      (some (ending r), r.2.files)
    match Program.ofName s (bytesOf p.program) s.arguments with
    | .script text =>
      match options? text with
      | some options =>
        let program := match Program.path? s (bytesOf p.program) with
          | some path => path
          | none => s.program
        done { s with program := program, options := options }
          (Machine.toEnd patience (Machine.source patience {} { rest := text }))
      | none => (none, files)
    | .tool a => done s a
    | .runner name => done s (Machine.runner patience name s.arguments)
    | .forbidden | .missing => (none, files)

end Process

end Landing.Shell
