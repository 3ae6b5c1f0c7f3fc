import Landing.Datum

/-! The tree of tables that a TOML document builds up line by line. -/
namespace Landing.Toml

/-- How a table came to be, which decides what may still be added to it. -/
inductive Origin where
  /-- It has its own header. -/
  | headed
  /-- A longer header goes through it. -/
  | implied
  /-- A dotted key goes through it. -/
  | dotted
  deriving DecidableEq, Repr

/-- A table, a list of tables or a finished value. -/
inductive Tree where
  | value (d : Datum)
  | table (origin : Origin) (entries : List (String × Tree))
  | tables (items : List (List (String × Tree)))
  deriving Repr, Inhabited

namespace Tree

/-- The entries of a table. -/
abbrev Entries := List (String × Tree)

/-- Writes what `f` makes of the entry for `key`; a new entry goes to the end. -/
def put (key : String) (f : Option Tree → Option Tree) : Entries → Option Entries
  | [] => (f none).map fun t => [(key, t)]
  | (k, t) :: rest =>
    if k = key then (f (some t)).map fun t => (k, t) :: rest
    else (put key f rest).map ((k, t) :: ·)

/-- Applies `f` to the last of a list of tables. -/
def onLast (f : Entries → Option Entries) : List Entries → Option (List Entries)
  | [] => none
  | [e] => (f e).map ([·])
  | e :: rest => (onLast f rest).map (e :: ·)

/-- Applies `f` to the table that a path leads to. A list of tables stands for its last one, and
tables that are not there yet are implied. -/
def within (f : Entries → Option Entries) : List String → Entries → Option Entries
  | [], entries => f entries
  | key :: path, entries => put key (fun
    | none => (within f path []).map (.table .implied)
    | some (.table origin inner) => (within f path inner).map (.table origin)
    | some (.tables items) => (onLast (within f path) items).map .tables
    | some (.value _) => none) entries

/-- Gives a table its header. It may have been implied, but not headed or dotted. -/
def head (key : String) : Entries → Option Entries :=
  put key fun
    | none => some (.table .headed [])
    | some (.table .implied inner) => some (.table .headed inner)
    | some _ => none

/-- Begins the next table of a list of tables. -/
def append (key : String) : Entries → Option Entries :=
  put key fun
    | none => some (.tables [[]])
    | some (.tables items) => some (.tables (items ++ [[]]))
    | some _ => none

/-- Writes a value under a dotted key. The tables in between are new or dotted, the last of them
in any case. -/
def assign (d : Datum) : List String → Entries → Option Entries
  | [], _ => none
  | key :: path, entries =>
    match path with
    | [] => put key (fun
      | none => some (.value d)
      | some _ => none) entries
    | _ :: rest => put key (fun
      | none => (assign d path []).map (.table .dotted)
      | some (.table .headed _) => none
      | some (.table origin inner) =>
        if rest.isEmpty && origin ≠ .dotted then none
        else (assign d path inner).map (.table origin)
      | some (.tables items) =>
        if rest.isEmpty then none else (onLast (assign d path) items).map .tables
      | some (.value _) => none) entries

mutual

/-- A tree as a value. -/
def toDatum : Tree → Datum
  | value d => d
  | table _ entries => .fields (entriesToData entries)
  | tables items => .list (itemsToData items)

def entriesToData : List (String × Tree) → List (String × Datum)
  | [] => []
  | (key, t) :: rest => (key, toDatum t) :: entriesToData rest

def itemsToData : List (List (String × Tree)) → List Datum
  | [] => []
  | entries :: rest => .fields (entriesToData entries) :: itemsToData rest

end

end Tree

end Landing.Toml
