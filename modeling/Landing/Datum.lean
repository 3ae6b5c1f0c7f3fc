import Landing.Instant

/-! Structured values, and how records are read from them. -/
namespace Landing

/-- A value of a data language. -/
inductive Datum where
  | null
  | boolean (b : Bool)
  | integer (n : Int)
  /-- A number that is not an integer, as written. -/
  | decimal (written : String)
  | text (s : String)
  /-- A date or time of the language itself, as written. -/
  | time (written : String)
  | list (items : List Datum)
  | fields (entries : List (String × Datum))
  deriving Repr, Inhabited

/-- Where data languages differ in what they take for a record or a tag. -/
structure Dialect where
  /-- A record that is written as a list may have more items than it has fields. -/
  allowsSurplus : Bool
  /-- What may be written for the content of a tag that has none. -/
  isNothing : Datum → Bool

namespace Dialect

/-- JSON. -/
def json : Dialect where
  allowsSurplus := false
  isNothing
    | .null => true
    | _ => false

/-- TOML. -/
def toml : Dialect where
  allowsSurplus := true
  isNothing
    | .list [] | .fields [] => true
    | _ => false

end Dialect

namespace Datum

def text? : Datum → Option String
  | text s => some s
  | _ => none

def word? : Datum → Option UInt32
  | integer n => if 0 ≤ n ∧ n < UInt32.size then some (UInt32.ofNat n.toNat) else none
  | _ => none

def instant? : Datum → Option Instant
  | text s => Instant.parse? s
  | _ => none

/-- Null is the absence of a value. -/
def nullable? {α : Type} (read : Datum → Option α) : Datum → Option (Option α)
  | null => some none
  | d => (read d).map some

def list? {α : Type} (read : Datum → Option α) : Datum → Option (List α)
  | list items => items.mapM read
  | _ => none

/-- A tag stands alone, or before content that is nothing. -/
def tag? (l : Dialect) : Datum → Option String
  | text s => some s
  | fields [(s, content)] => if l.isNothing content then some s else none
  | _ => none

/-- A field of a record: its name, and whether it may be left out. -/
abbrev Field := String × Bool

def needed (name : String) : Field := (name, false)

def optional (name : String) : Field := (name, true)

/-- The fields of a record by name. A record may be written as the list of its fields, of which
the last ones may be left out if they are optional. A time has no fields. -/
def record? (l : Dialect) (shape : List Field) : Datum → Option (List (String × Datum))
  | fields entries => some entries
  | time _ => some []
  | list items =>
    if (shape.drop items.length).all (·.2) && (l.allowsSurplus || items.length ≤ shape.length) then
      some ((shape.map (·.1)).zip items)
    else none
  | _ => none

/-- The value of a field that must be there. -/
def need? {α : Type} (entries : List (String × Datum)) (name : String)
    (read : Datum → Option α) : Option α :=
  (entries.lookup name).bind read

/-- The value of a field, or `absent` where it is left out. -/
def get? {α : Type} (entries : List (String × Datum)) (name : String) (absent : α)
    (read : Datum → Option α) : Option α :=
  match entries.lookup name with
  | some d => read d
  | none => some absent

def ofWord (w : UInt32) : Datum := .integer w.toNat

def ofOption {α : Type} (write : α → Datum) : Option α → Datum
  | some a => write a
  | none => null

end Datum

end Landing
