import Landing.Unicode.Table

/-! Sets of characters as ranges of their numbers. -/
namespace Landing.Unicode

/-- Ranges in ascending order with gaps between them; both ends of each belong to it. -/
structure CharSet where
  ranges : List (Nat × Nat)
  deriving DecidableEq, Repr, Inhabited

namespace CharSet

def empty : CharSet := ⟨[]⟩

def full : CharSet := ⟨[(0, top)]⟩

def single (c : Char) : CharSet := ⟨[(c.toNat, c.toNat)]⟩

def hasNumber (s : CharSet) (n : Nat) : Bool := s.ranges.any fun r => r.1 ≤ n && n ≤ r.2

def contains (s : CharSet) (c : Char) : Bool := s.hasNumber c.toNat

/-- `r` among ascending ranges; those that it overlaps or touches are joined to it. -/
def insertRange (r : Nat × Nat) : List (Nat × Nat) → List (Nat × Nat)
  | [] => [r]
  | q :: rest =>
    if r.2 + 1 < q.1 then r :: q :: rest
    else if q.2 + 1 < r.1 then q :: insertRange r rest
    else insertRange (min r.1 q.1, max r.2 q.2) rest

/-- The set of all characters in some ranges. -/
def ofRanges (ranges : List (Nat × Nat)) : CharSet := ⟨ranges.foldr insertRange []⟩

def union (s t : CharSet) : CharSet := ⟨s.ranges.foldr insertRange t.ranges⟩

/-- The numbers from `low` on that lie in no range of an ascending list. -/
def gaps (low : Nat) : List (Nat × Nat) → List (Nat × Nat)
  | [] => if low ≤ top then [(low, top)] else []
  | r :: rest =>
    if low < r.1 then (low, r.1 - 1) :: gaps (max low (r.2 + 1)) rest
    else gaps (max low (r.2 + 1)) rest

def complement (s : CharSet) : CharSet := ⟨gaps 0 s.ranges⟩

def inter (s t : CharSet) : CharSet := (s.complement.union t.complement).complement

def diff (s t : CharSet) : CharSet := (s.complement.union t).complement

def symmDiff (s t : CharSet) : CharSet := (s.diff t).union (t.diff s)

/-- How many numbers the ranges count. -/
def count (s : CharSet) : Nat := s.ranges.foldl (fun n r => n + (r.2 + 1 - r.1)) 0

def members (s : CharSet) : List Nat :=
  s.ranges.flatMap fun r => (List.range (r.2 + 1 - r.1)).map (r.1 + ·)

/-- The one character of a set that has no other. -/
def onlyMember? (s : CharSet) : Option Nat :=
  match s.ranges with
  | [(low, high)] => if low = high then some low else none
  | _ => none

/-- Nothing beyond ASCII. -/
def isAscii (s : CharSet) : Bool := s.ranges.all fun r => r.2 < 0x80

end CharSet

end Landing.Unicode
