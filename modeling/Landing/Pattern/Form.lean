import Landing.Pattern.Sets

/-! Patterns as they are written, before flags are applied. -/
namespace Landing.Pattern
open Landing.Unicode

/-- Settings that a pattern can change for a part of itself. -/
inductive Flag where
  | ignoreCase
  | multiLine
  | dotAll
  | swapGreed
  | unicode
  | ignoreBlank
  | crlf
  deriving DecidableEq, Repr

/-- Flags in the order in which they are written, switched on or off. -/
abbrev FlagChanges := List (Flag × Bool)

/-- A character; `byte` tells that two hexadecimal digits write it. -/
structure Literal where
  char : Char
  byte : Bool := false
  deriving DecidableEq, Repr

/-- Sets that have names, in classes and outside. -/
inductive NamedSet where
  | shorthand (s : Shorthand)
  | property (name : List Char)
  /-- The characters whose property has this value. -/
  | valued (property value : List Char)
  deriving DecidableEq, Repr

inductive SetOperation where
  | inter
  | diff
  | symmDiff
  deriving DecidableEq, Repr

/-- What stands in a class. -/
inductive ClassForm where
  | literal (l : Literal)
  | range (low high : Literal)
  /-- The part of ASCII with a name, or all but that. -/
  | ascii (negated : Bool) (s : CharSet)
  | named (negated : Bool) (s : NamedSet)
  | bracketed (negated : Bool) (form : ClassForm)
  | union (forms : List ClassForm)
  | operation (op : SetOperation) (lhs rhs : ClassForm)
  deriving Repr, Inhabited

/-- The ways in which a place between two characters is described. -/
inductive Place where
  | textStart
  | textEnd
  | lineStart
  | lineEnd
  | wordEdge
  | noWordEdge
  | wordStart
  | wordEnd
  | wordStartHalf
  | wordEndHalf
  deriving DecidableEq, Repr

inductive Form where
  | flags (changes : FlagChanges)
  | literal (l : Literal)
  | dot
  | place (p : Place)
  | named (negated : Bool) (s : NamedSet)
  | bracketed (negated : Bool) (form : ClassForm)
  /-- Not `eager`: a question mark follows the operator. -/
  | repetition (least : Nat) (most : Option Nat) (eager : Bool) (form : Form)
  | numbered (index : Nat) (form : Form)
  /-- A group without a number, under flags of its own. -/
  | unnumbered (changes : FlagChanges) (form : Form)
  | choice (forms : List Form)
  | sequence (forms : List Form)
  deriving Repr, Inhabited

namespace ClassForm

/-- A union of one form is that form. -/
def ofList : List ClassForm → ClassForm
  | [form] => form
  | forms => union forms

mutual

/-- How deeply classes, operations and unions of several forms are nested. -/
def height : ClassForm → Nat
  | literal _ | range _ _ | ascii _ _ | named _ _ | union [] => 0
  | bracketed _ form => form.height + 1
  | union forms => heights forms + 1
  | operation _ lhs rhs => max lhs.height rhs.height + 1

def heights : List ClassForm → Nat
  | [] => 0
  | form :: forms => max form.height (heights forms)

end

end ClassForm

namespace Form

/-- A sequence of one form is that form. -/
def ofSequence : List Form → Form
  | [form] => form
  | forms => sequence forms

def ofChoice : List Form → Form
  | [form] => form
  | forms => choice forms

mutual

/-- How deeply classes, groups, repetitions, and choices and sequences of several forms are
nested. -/
def height : Form → Nat
  | flags _ | literal _ | dot | place _ | named _ _ | choice [] | sequence [] => 0
  | bracketed _ form => form.height + 1
  | repetition _ _ _ form | numbered _ form | unnumbered _ form => form.height + 1
  | choice forms | sequence forms => heights forms + 1

def heights : List Form → Nat
  | [] => 0
  | form :: forms => max form.height (heights forms)

end

end Form

end Landing.Pattern
