import Landing.Commit
import Landing.Error

/-! The commit history as it can be read at one moment, and questions about ancestry. -/
namespace Landing

/-- Reads a stored commit. -/
abbrev Reader := CommitId → Except Error Commit

namespace History

/-- A search went on for longer than the links of the history allow. -/
def endless : Error := .internal "the commit history has no end"

/-- Breadth-first search for `target`. A commit is compared before it is read, and read once. -/
def search (read : Reader) (target : CommitId) :
    (fuel : Nat) → (seen queue : List CommitId) → Except Error Bool
  | _, _, [] => .ok false
  | 0, _, _ :: _ => .error endless
  | fuel + 1, seen, id :: rest =>
    if id = target then .ok true
    else if seen.contains id then search read target fuel seen rest
    else match read id with
      | .error e => .error e
      | .ok c => search read target fuel (id :: seen) (rest ++ c.parents)

/-- All commits that can be reached from `queue`, latest found first. -/
def closure (read : Reader) : (fuel : Nat) → (seen queue : List CommitId) →
    Except Error (List CommitId)
  | _, seen, [] => .ok seen
  | 0, _, _ :: _ => .error endless
  | fuel + 1, seen, id :: rest =>
    if seen.contains id then closure read fuel seen rest
    else match read id with
      | .error e => .error e
      | .ok c => closure read fuel (id :: seen) (rest ++ c.parents)

end History

/-- What can be read of the history. `size` bounds the sum, over the commits that can be read,
of one plus the number of parents, so that searches know when they have seen every link. -/
structure History where
  size : Nat
  read : Reader
  isAncestor : (ancestor descendant : CommitId) → Except Error Bool

namespace History

/-- Ancestry by breadth-first search. -/
def ofReader (size : Nat) (read : Reader) : History where
  size := size
  read := read
  isAncestor ancestor descendant := search read ancestor (size + 1) [] [descendant]

/-- The commits that can be reached from `starts`. -/
def reachable (h : History) (starts : List CommitId) : Except Error (List CommitId) :=
  closure h.read (h.size + starts.length) [] starts

/-- `p` is recorded as a parent of `c`. -/
def Parent (h : History) (p c : CommitId) : Prop :=
  ∃ commit, h.read c = .ok commit ∧ p ∈ commit.parents

/-- `Reaches h x y`: `x` is `y` or an ancestor of it. -/
inductive Reaches (h : History) : CommitId → CommitId → Prop where
  | refl (x) : Reaches h x x
  | step {x p y} : Reaches h x p → h.Parent p y → Reaches h x y

theorem Reaches.trans {h : History} {x y z : CommitId} (hxy : h.Reaches x y)
    (hyz : h.Reaches y z) : h.Reaches x z := by
  induction hyz with
  | refl => exact hxy
  | step _ hp ih => exact .step ih hp

end History

end Landing
