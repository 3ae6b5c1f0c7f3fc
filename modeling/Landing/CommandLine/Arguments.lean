import Landing.Table
import Landing.Text.Blank

/-! The arguments of the program: a command with its options. -/
namespace Landing.CommandLine

inductive Command where
  /-- Submit a batch. -/
  | run (repository batch : String)
  /-- Ask whether a commit would fast-forward a tip of a branch. -/
  | dryRun (repository branch tip candidate : String)
  /-- Find the ticket in a text. -/
  | ticket (text : String)
  /-- Look at the private key in a file. -/
  | checkKey (file : String)
  deriving DecidableEq, Repr

structure Invocation where
  config : Option String
  verbose : Bool
  command : Command
  deriving DecidableEq, Repr

/-- What the arguments ask for. -/
inductive Wish where
  | invoke (i : Invocation)
  | help
  | version
  deriving DecidableEq, Repr

namespace Arguments

/-- What may follow the name of an option. A path is not empty. -/
inductive Operand where
  | nothing
  | text
  | path
  deriving DecidableEq, Repr

/-- An option, with a long name and perhaps a letter. -/
structure Choice where
  long : String
  short : Option Char := none
  operand : Operand := .path
  deriving DecidableEq, Repr

/-- Why reading ended early. -/
inductive Stop where
  | misuse
  | help
  | version
  deriving DecidableEq, Repr

/-- What was read: options with their values, and the arguments that belong to none. -/
structure Found where
  values : Table String String := .empty
  plain : List String := []
  deriving DecidableEq, Repr

def helpChoice : Choice := ⟨"help", some 'h', .nothing⟩

def versionChoice : Choice := ⟨"version", some 'V', .nothing⟩

/-- Options that may stand in front of a command as well as after it. -/
def shared : List Choice := [⟨"config", some 'c', .path⟩, ⟨"verbose", some 'v', .nothing⟩]

/-- Takes note of an option, which may be given once. -/
def set (f : Found) (c : Choice) (value : String) : Except Stop Found :=
  if c = helpChoice then .error .help
  else if c = versionChoice then .error .version
  else if f.values.contains c.long || (c.operand = .path && value.isEmpty) then .error .misuse
  else .ok { f with values := f.values.insert c.long value }

/-- Reads letters. The last may leave its value to the next argument. -/
def letters (choices : List Choice) (f : Found) : List Char → Except Stop (Found × Option Choice)
  | [] => .ok (f, none)
  | letter :: rest =>
    match choices.find? (·.short = some letter) with
    | none => .error .misuse
    | some c =>
      if c.operand = .nothing then (set f c "").bind fun f => letters choices f rest
      else match rest with
        | [] => .ok (f, some c)
        | '=' :: value | value => (set f c (String.ofList value)).map (·, none)

/-- Reads a long name, perhaps with a value after an equals sign. -/
def long (choices : List Choice) (f : Found) (cs : List Char) :
    Except Stop (Found × Option Choice) :=
  let name := String.ofList (cs.takeWhile (· ≠ '='))
  match choices.find? (·.long = name), cs.dropWhile (· ≠ '=') with
  | none, _ => .error .misuse
  | some c, [] => if c.operand = .nothing then (set f c "").map (·, none) else .ok (f, some c)
  | some c, _ :: value =>
    if c.operand = .nothing then .error .misuse
    else (set f c (String.ofList value)).map (·, none)

/-- What one level of arguments takes: options, and so many arguments without one. At the top a
command takes over at its name. -/
structure Level where
  choices : List Choice
  plain : List Operand := []
  top : Bool := false

/-- Takes an argument without an option. -/
def takePlain (l : Level) (f : Found) (arg : String) : Except Stop Found :=
  match l.plain[f.plain.length]? with
  | none => .error .misuse
  | some operand =>
    if operand = .path && arg.isEmpty then .error .misuse
    else .ok { f with plain := f.plain ++ [arg] }

/-- Reads arguments. `pending` waits for its value, which does not look like an option; after two
dashes nothing does. Gives what was read, and the arguments from the name of a command on. -/
def read (l : Level) : (literal : Bool) → (pending : Option Choice) → Found → List String →
    Except Stop (Found × List String)
  | _, none, f, [] => .ok (f, [])
  | _, some _, _, [] => .error .misuse
  | true, _, f, arg :: rest => (takePlain l f arg).bind fun f => read l true none f rest
  | false, pending, f, arg :: rest =>
    match pending, arg.toList with
    | none, ['-', '-'] => read l true none f rest
    | none, '-' :: '-' :: cs =>
      (long l.choices f cs).bind fun (f, pending) => read l false pending f rest
    | none, '-' :: letter :: cs =>
      (letters l.choices f (letter :: cs)).bind fun (f, pending) => read l false pending f rest
    | some _, '-' :: _ :: _ => .error .misuse
    | some c, _ => (set f c arg).bind fun f => read l false none f rest
    | none, _ =>
      if l.top then .ok (f, arg :: rest)
      else (takePlain l f arg).bind fun f => read l false none f rest

def topLevel : Level where
  choices := shared ++ [helpChoice, versionChoice]
  top := true

def repositoryChoice : Choice := ⟨"repo", none, .path⟩

/-- What each command takes. -/
def levels : List (String × Level) :=
  let level (choices : List Choice) (plain : List Operand) : Level :=
    ⟨shared ++ choices ++ [helpChoice], plain, false⟩
  [("run", level [repositoryChoice, ⟨"batch", none, .path⟩] []),
   ("dry-run", level [repositoryChoice, ⟨"branch", none, .text⟩, ⟨"tip", none, .text⟩] [.text]),
   ("ticket", level [] [.text]),
   ("check-key", level [] [.path])]

/-- The command that was read; some of what it takes has to be there. -/
def command? (name : String) (f : Found) : Option Command :=
  let value (long : String) : Option String := f.values.get? long
  let repository := (value "repo").getD "."
  match name, f.plain with
  | "run", [] => (value "batch").map fun batch => .run repository batch
  | "dry-run", [candidate] => (value "tip").map fun tip =>
      .dryRun repository ((value "branch").getD "main") tip candidate
  | "ticket", [text] => some (.ticket text)
  | "check-key", [file] => some (.checkKey file)
  | _, _ => none

/-- Whether help can be had on this. -/
def isTopic (args : List String) : Bool :=
  match args with
  | [] => true
  | [name] => name = "help" || (levels.lookup name).isSome
  | _ => false

/-- Reads arguments from the name of a command on. An option counts where it was given last. -/
def parseCommand (outer : Found) : List String → Except Stop Wish
  | [] => .error .misuse
  | name :: rest =>
    if name = "help" then (if isTopic rest then .ok .help else .error .misuse)
    else match levels.lookup name with
      | none => .error .misuse
      | some level => do
        let (f, _) ← read level false none {} rest
        match command? name f with
        | none => .error .misuse
        | some c =>
          let config := f.values.get? "config" <|> outer.values.get? "config"
          let verbose := f.values.contains "verbose" || outer.values.contains "verbose"
          .ok (.invoke ⟨config, verbose, c⟩)

/-- What arguments ask for, if they ask for something. -/
def parse? (args : List String) : Option Wish :=
  match (read topLevel false none {} args).bind fun (f, rest) => parseCommand f rest with
  | .ok w => some w
  | .error .help => some .help
  | .error .version => some .version
  | .error .misuse => none

end Arguments

end Landing.CommandLine
