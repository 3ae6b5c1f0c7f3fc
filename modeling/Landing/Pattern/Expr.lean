import Landing.Unicode.CharSet

/-! Patterns with groups, choices and repetitions. -/
namespace Landing.Pattern
open Landing.Unicode

/-- A condition on a place between two characters. -/
inductive Assertion where
  | textStart
  | textEnd
  /-- Start and end of a line; with `crlf` also a carriage return ends one. -/
  | lineStart (crlf : Bool)
  | lineEnd (crlf : Bool)
  /-- Edges of words; without `unicode` words are made of ASCII. -/
  | wordEdge (unicode : Bool)
  | noWordEdge (unicode : Bool)
  | wordStart (unicode : Bool)
  | wordEnd (unicode : Bool)
  | wordStartHalf (unicode : Bool)
  | wordEndHalf (unicode : Bool)
  deriving DecidableEq, Repr

inductive Expr where
  | empty
  /-- One character of a set. -/
  | one (s : CharSet)
  | assertion (a : Assertion)
  /-- A numbered group. -/
  | group (index : Nat) (e : Expr)
  | concat (e f : Expr)
  /-- `e` is preferred. -/
  | choice (e f : Expr)
  /-- Greedy repetitions prefer more of `e`, others fewer. -/
  | repetition (least : Nat) (most : Option Nat) (greedy : Bool) (e : Expr)
  deriving DecidableEq, Repr, Inhabited

namespace Expr

/-- Never takes a character. -/
def isZeroWidth : Expr → Bool
  | empty | assertion _ => true
  | one _ => false
  | group _ e => e.isZeroWidth
  | concat e f | choice e f => e.isZeroWidth && f.isZeroWidth
  | repetition _ _ _ e => e.isZeroWidth

/-- May take no character. -/
def isNullable : Expr → Bool
  | empty | assertion _ => true
  | one _ => false
  | group _ e => e.isNullable
  | concat e f => e.isNullable && f.isNullable
  | choice e f => e.isNullable || f.isNullable
  | repetition least _ _ e => least == 0 || e.isNullable

/-- A repetition in its simplest form: what takes no character is not worth repeating, none of
it is the empty pattern, and one of it is the pattern itself. -/
def repeated (least : Nat) (most : Option Nat) (greedy : Bool) (e : Expr) : Expr :=
  let least' := if e.isZeroWidth then min least 1 else least
  let most' := if e.isZeroWidth then some (min (most.getD 1) 1) else most
  if least' = 0 ∧ most' = some 0 then empty
  else if least' = 1 ∧ most' = some 1 then e
  else repetition least' most' greedy e

/-- The largest number of a group. -/
def lastGroup : Expr → Nat
  | empty | one _ | assertion _ => 0
  | group index e => max index e.lastGroup
  | concat e f | choice e f => max e.lastGroup f.lastGroup
  | repetition _ _ _ e => e.lastGroup

/-- How many choices and loops there are when repetitions are written out. -/
def labels : Expr → Nat
  | empty | one _ | assertion _ => 0
  | group _ e => e.labels
  | concat e f => e.labels + f.labels
  | choice e f => 1 + e.labels + f.labels
  | repetition least none _ e => max least 1 * e.labels + 2
  | repetition least (some most) _ e => max least most * e.labels + (most - least)

/-- One after the other; the empty pattern leaves no trace. -/
def andThen : Expr → Expr → Expr
  | empty, f => f
  | e, empty => e
  | e, f => concat e f

def ofSequence (es : List Expr) : Expr := es.foldr andThen empty

/-- The patterns between which `e` chooses. -/
def alternatives : Expr → List Expr
  | choice e f => e.alternatives ++ f.alternatives
  | e => [e]

/-- The set of a pattern that takes one character of it. -/
def set? : Expr → Option CharSet
  | one s => some s
  | _ => none

/-- The first of `es` is preferred to the second and so on; a choice between sets is their union. -/
def ofChoice (es : List Expr) : Expr :=
  let es := es.flatMap alternatives
  match es.mapM set?, es.reverse with
  | some sets, _ => one (sets.foldr .union .empty)
  | none, last :: others => others.foldl (fun f e => choice e f) last
  | none, [] => one .empty

end Expr

end Landing.Pattern
