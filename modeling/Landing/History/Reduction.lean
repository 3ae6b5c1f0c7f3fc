import Landing.History.Walk
import Landing.Outcome.Ledger
import Landing.PendingSet
import Landing.Table

/-! Reducing a submission to the commits that have to be merged themselves. -/
namespace Landing

/-- Commits that another waiting commit covers, each with the waiting commit at the end of its
chain. -/
structure Reduction where
  folded : Table CommitId CommitId
  deriving DecidableEq, Repr, Inhabited

namespace Reduction

/-- The members of a list that pass a test which may fail. -/
def select (test : CommitId → Except Error Bool) : List CommitId → Except Error (List CommitId)
  | [] => .ok []
  | id :: rest =>
    match test id with
    | .error e => .error e
    | .ok keep =>
      match select test rest with
      | .error e => .error e
      | .ok ids => .ok (if keep then id :: ids else ids)

/-- Whether `id` needs a commit that is neither below `tip` nor in `batch`. -/
def needsMore (h : History) (tip : CommitId) (batch : List CommitId) (id : CommitId) :
    Except Error Bool :=
  match h.order [id] [tip] .newestFirst with
  | .error e => .error e
  | .ok needed => .ok (needed.any (!batch.contains ·))

/-- The first of `others` that covers `id` and is not covered itself so far. -/
def cover? (isAncestor : CommitId → CommitId → Except Error Bool)
    (folded : Table CommitId CommitId) (id : CommitId) :
    List CommitId → Except Error (Option CommitId)
  | [] => .ok none
  | other :: rest =>
    if other ≠ id ∧ folded.contains other = false then
      match isAncestor id other with
      | .error e => .error e
      | .ok true => .ok (some other)
      | .ok false => cover? isAncestor folded id rest
    else cover? isAncestor folded id rest

/-- Links each commit of a list to its cover among `candidates`. -/
def link (isAncestor : CommitId → CommitId → Except Error Bool) (candidates : List CommitId)
    (folded : Table CommitId CommitId) :
    List CommitId → Except Error (Table CommitId CommitId)
  | [] => .ok folded
  | id :: rest =>
    match cover? isAncestor folded id candidates with
    | .error e => .error e
    | .ok none => link isAncestor candidates folded rest
    | .ok (some other) => link isAncestor candidates (folded.insert id other) rest

/-- Follows links, at most `fuel` of them. -/
def headOf (folded : Table CommitId CommitId) : (fuel : Nat) → CommitId → CommitId
  | 0, id => id
  | fuel + 1, id =>
    match folded.get? id with
    | some next => headOf folded fuel next
    | none => id

/-- Every link points to the end of its chain. -/
def shorten (folded : Table CommitId CommitId) : Table CommitId CommitId :=
  ⟨folded.entries.map fun e => (e.1, headOf folded folded.size e.2)⟩

/-- What a reduction leaves behind, also one that failed half-way. -/
structure Progress where
  pending : PendingSet
  outcomes : Outcome.Ledger
  deriving DecidableEq, Repr

/-- Takes `ids` out and finalizes them. -/
def Progress.resolve (p : Progress) (ids : List CommitId) (o : Outcome) : Progress :=
  ⟨p.pending.without ids, p.outcomes.finalizeAll ids o⟩

/-- Folds the waiting commits into those that cover them. -/
def fold (h : History) (p : Progress) : Except Error Reduction × Progress :=
  match link h.isAncestor p.pending.ids .empty p.pending.ids with
  | .error e => (.error e, p)
  | .ok folded =>
    let heads := shorten folded
    (.ok ⟨heads⟩, { p with pending := (p.pending.extract (heads.contains ·.id)).2 })

/-- Resolves waiting commits that need a commit outside `batch`, then folds the others. -/
def resolveMissing (h : History) (tip : CommitId) (batch : List CommitId) (p : Progress) :
    Except Error Reduction × Progress :=
  match select (needsMore h tip batch) p.pending.ids with
  | .error e => (.error e, p)
  | .ok missing => fold h (p.resolve missing .missingDependency)

end Reduction

/-- Resolves the waiting commits that `tip` contains, then those that cannot be merged for want
of another commit, and folds what remains into the commits at its ends. -/
def History.reduce (h : History) (tip : CommitId) (p : Reduction.Progress) :
    Except Error Reduction × Reduction.Progress :=
  match Reduction.select (h.isAncestor · tip) p.pending.ids with
  | .error e => (.error e, p)
  | .ok merged =>
    Reduction.resolveMissing h tip p.pending.ids (p.resolve merged .alreadyMerged)

/-- The first of `ids` that `tip` can be moved to without losing a commit. -/
def History.forward? (h : History) (tip : CommitId) :
    List CommitId → Except Error (Option CommitId)
  | [] => .ok none
  | id :: rest =>
    match h.isAncestor tip id with
    | .error e => .error e
    | .ok true => .ok (some id)
    | .ok false => h.forward? tip rest

/-- Takes the first waiting commit that `tip` can be moved to; without one, stays at `tip`. -/
def History.firstFastForward (h : History) (tip : TrackedCommit) (pending : PendingSet) :
    Except Error TrackedCommit × PendingSet :=
  match h.forward? tip.id pending.ids with
  | .error e => (.error e, pending)
  | .ok none => (.ok tip, pending)
  | .ok (some id) =>
    match pending.take id with
    | (some c, rest) => (.ok c, rest)
    | (none, rest) => (.ok tip, rest)

end Landing
