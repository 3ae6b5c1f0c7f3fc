import Landing.History

/-! Walks over the history that give every commit after its parents, or before them. -/
namespace Landing

/-- A depth-first traversal on its way. A commit whose parents were pushed is marked, and is
emitted when it is met again. -/
structure Traversal where
  stack : List (CommitId × Bool)
  /-- Latest first. -/
  emitted : List CommitId
  deriving DecidableEq, Repr

namespace Traversal

def isVisible (hidden emitted : List CommitId) (id : CommitId) : Bool :=
  !hidden.contains id && !emitted.contains id

/-- Handles the top of the stack. Parents go on top of their commit, the first one topmost. -/
def step (read : Reader) (hidden : List CommitId) (t : Traversal) : Except Error Traversal :=
  match t.stack with
  | [] => .ok t
  | (id, expanded) :: rest =>
    if !isVisible hidden t.emitted id then .ok ⟨rest, t.emitted⟩
    else if expanded then .ok ⟨rest, id :: t.emitted⟩
    else match read id with
      | .error e => .error e
      | .ok c =>
        let parents := c.parents.filter (isVisible hidden t.emitted)
        .ok ⟨parents.map (·, false) ++ (id, true) :: rest, t.emitted⟩

/-- Steps until the stack is empty. -/
def run (read : Reader) (hidden : List CommitId) : (fuel : Nat) → Traversal →
    Except Error (List CommitId)
  | 0, t => if t.stack.isEmpty then .ok t.emitted else .error History.endless
  | fuel + 1, t =>
    if t.stack.isEmpty then .ok t.emitted
    else match t.step read hidden with
      | .error e => .error e
      | .ok t' => run read hidden fuel t'

end Traversal

namespace History

/-- Traverses from one start after the other, latest emitted commit first. -/
def traverse (h : History) (hidden : List CommitId) (emitted : List CommitId) :
    List CommitId → Except Error (List CommitId)
  | [] => .ok emitted
  | start :: rest =>
    match Traversal.run h.read hidden (h.size + 1) ⟨[(start, false)], emitted⟩ with
    | .error e => .error e
    | .ok emitted => h.traverse hidden emitted rest

/-- Which end of the history a walk starts at. -/
inductive Direction where
  | newestFirst
  | oldestFirst
  deriving DecidableEq, Repr, Inhabited

/-- The commits that some start reaches and no hidden commit reaches. -/
def order (h : History) (starts hidden : List CommitId) (d : Direction) :
    Except Error (List CommitId) :=
  match h.reachable hidden with
  | .error e => .error e
  | .ok covered =>
    match h.traverse covered [] starts with
    | .error e => .error e
    | .ok emitted =>
      .ok (match d with
        | .newestFirst => emitted
        | .oldestFirst => emitted.reverse)

/-- A walk with what it has still to give, once it knows. -/
structure Walk where
  starts : List CommitId := []
  hidden : List CommitId := []
  direction : Direction := .newestFirst
  queue : Option (List CommitId) := none
  deriving DecidableEq, Repr, Inhabited

namespace Walk

/-- The commits that the walk has still to give; none before it is ordered. -/
def remaining (w : Walk) : List CommitId := w.queue.getD []

/-- Orders a walk that has no order. -/
def ordered (w : Walk) (h : History) : Except Error Walk :=
  match w.queue with
  | some _ => .ok w
  | none =>
    match h.order w.starts w.hidden w.direction with
    | .error e => .error e
    | .ok queue => .ok { w with queue := some queue }

/-- Gives the next commit. One that cannot be read is lost to the walk. -/
def next (w : Walk) (h : History) : Except Error (Option Commit) × Walk :=
  match w.ordered h with
  | .error e => (.error e, w)
  | .ok w =>
    match w.remaining with
    | [] => (.ok none, w)
    | id :: rest =>
      match h.read id with
      | .error e => (.error e, { w with queue := some rest })
      | .ok c => (.ok (some c), { w with queue := some rest })

/-- Reads commits up to the first that cannot be read, which is lost. -/
def readAll (h : History) : List CommitId → Except Error (List Commit) × List CommitId
  | [] => (.ok [], [])
  | id :: rest =>
    match h.read id with
    | .error e => (.error e, rest)
    | .ok c =>
      match readAll h rest with
      | (.error e, left) => (.error e, left)
      | (.ok cs, left) => (.ok (c :: cs), left)

/-- Gives all commits that are left. -/
def collect (w : Walk) (h : History) : Except Error (List Commit) × Walk :=
  match w.ordered h with
  | .error e => (.error e, w)
  | .ok w =>
    match readAll h w.remaining with
    | (result, left) => (result, { w with queue := some left })

end Walk

end History

end Landing
