import Landing.Toml.Value

/-! Documents of TOML 1.0. -/
namespace Landing.Toml

/-- Why a text is refused. -/
inductive Fault where
  /-- A line is no TOML, or defines again what is defined. -/
  | line (number : Nat)
  /-- The document does not have the fields that are asked for. -/
  | fields
  deriving DecidableEq, Repr

def Fault.message : Fault → String
  | line number => "line " ++ toString number ++ " cannot be read"
  | fields => "the fields do not fit"

/-- A document on its way: all tables, and the path to the one that keys go to. -/
structure Document where
  entries : Tree.Entries := []
  current : List String := []

namespace Document

/-- Nothing but a comment may follow on a line. -/
def endOfLine? (cs : List Char) : Option (List Char) :=
  let cs := match skipSpace cs with
    | '#' :: rest => rest.dropWhile isPlain
    | rest => rest
  if cs.isEmpty then some [] else lineEnd? cs

/-- The rest of a header. -/
def header? (d : Document) (cs : List Char) : Option (Document × List Char) :=
  match Key.any? cs with
  | some (key, ']' :: rest) =>
    match (Tree.within (Tree.head (key.getLast?.getD "")) key.dropLast d.entries) with
    | some entries => some (⟨entries, key⟩, rest)
    | none => none
  | _ => none

/-- The rest of the header of a table in a list. -/
def listHeader? (d : Document) (cs : List Char) : Option (Document × List Char) :=
  match Key.any? cs with
  | some (key, ']' :: ']' :: rest) =>
    match (Tree.within (Tree.append (key.getLast?.getD "")) key.dropLast d.entries) with
    | some entries => some (⟨entries, key⟩, rest)
    | none => none
  | _ => none

/-- A key with its value. -/
def pair? (d : Document) (cs : List Char) : Option (Document × List Char) :=
  match Key.any? cs with
  | some (key, '=' :: rest) =>
    match Value.read? (skipSpace rest) with
    | none => none
    | some (v, rest) =>
      (Tree.within (Tree.assign v key) d.current d.entries).map fun entries =>
        (⟨entries, d.current⟩, rest)
  | _ => none

/-- One line, or several if a value has several. -/
def statement? (d : Document) (cs : List Char) : Option (Document × List Char) :=
  match skipSpace cs with
  | '[' :: '[' :: rest => d.listHeader? rest
  | '[' :: rest => d.header? rest
  | rest =>
    match endOfLine? rest with
    | some _ => some (d, rest)
    | none => d.pair? rest

/-- Reads line after line. -/
def read : (fuel : Nat) → Document → List Char → Except (List Char) Document
  | _, d, [] => .ok d
  | 0, _, cs => .error cs
  | fuel + 1, d, cs =>
    match d.statement? cs with
    | none => .error cs
    | some (d, rest) =>
      match endOfLine? rest with
      | none => .error cs
      | some rest => read fuel d rest

end Document

/-- The value of a document. A byte order mark may stand in front. -/
def parse (s : String) : Except Fault Datum :=
  let cs := match s.toList with
    | '\ufeff' :: rest => rest
    | cs => cs
  match Document.read (cs.length + 1) {} cs with
  | .ok d => .ok (.fields (Tree.entriesToData d.entries))
  | .error rest =>
    .error (.line (((cs.take (cs.length - rest.length)).filter (· == '\n')).length + 1))

/-- Reads a record from a document. -/
def decode {α : Type} (read : Datum → Option α) (s : String) : Except Fault α :=
  match parse s with
  | .error fault => .error fault
  | .ok d =>
    match read d with
    | some a => .ok a
    | none => .error .fields

end Landing.Toml
