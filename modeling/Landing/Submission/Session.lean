import Landing.History.Reduction
import Landing.Submission.Services

/-! The books of one submission: its batch, the outcomes so far and what was made known. -/
namespace Landing.Submission

/-- A submission on its way. The journal and the pushes only record what happened. -/
structure Session (σ : Type) where
  batch : Table CommitId TrackedCommit
  order : List CommitId
  outcomes : Outcome.Ledger := .empty
  /-- How many outcomes were made known. -/
  reported : Nat := 0
  journal : List Event := []
  /-- What the mirror was asked, and its answers. -/
  pushes : List (Mirror.Request × Option Mirror.Result) := []
  world : σ

namespace Session

variable {σ α : Type}

/-- Opens the books for a batch. -/
def start (pending : PendingSet) (world : σ) : Session σ where
  batch := .ofList (pending.commits.map fun c => (c.id, c))
  order := pending.ids
  world := world

/-- Asks a service. -/
def ask (x : Session σ) (query : σ → α × σ) : α × Session σ :=
  ((query x.world).1, { x with world := (query x.world).2 })

/-- Writes an observation into the journal and shows it. -/
def tell (s : Services σ) (x : Session σ) (e : Event) : Session σ :=
  { x with journal := x.journal ++ [e], world := s.notify e x.world }

def finalize (x : Session σ) (id : CommitId) (o : Outcome) : Session σ :=
  { x with outcomes := x.outcomes.finalize id o }

def finalizeAll (x : Session σ) (ids : List CommitId) (o : Outcome) : Session σ :=
  { x with outcomes := x.outcomes.finalizeAll ids o }

/-- Writes a message to the trail of the change of a commit. A commit without a change has no
trail, and a message that cannot be written is dropped. -/
def note (s : Services σ) (x : Session σ) (c : TrackedCommit) (body : String) : Session σ :=
  match c.patchSet with
  | none => x
  | some p =>
    let (stamp, x) := x.ask s.stamp
    let (written, x) := x.ask (s.insertMessage
      ⟨⟨p.change, stamp.1⟩, none, some p, stamp.2, body⟩)
    match written with
    | .error _ => x
    | .ok () => x.tell s (.message c.id body)

/-- Makes one outcome known, to those who watch and on the trail of the change. -/
def report (s : Services σ) (x : Session σ) (entry : CommitId × Outcome) : Session σ :=
  let x := x.tell s (.outcome entry.1 entry.2)
  match x.batch.get? entry.1 with
  | some c => x.note s c entry.2.message
  | none => x

/-- Makes every outcome known that was recorded since the last time. -/
def flush (s : Services σ) (x : Session σ) : Session σ :=
  (x.outcomes.entries.drop x.reported).foldl (report s) { x with reported := x.outcomes.size }

/-- The commits of the batch without an outcome, in the order of the batch. -/
def unsettled (x : Session σ) : List CommitId := x.order.filter (!x.outcomes.isFinal ·)

/-- Commits left over were folded into one that did not land; any other is a fault. -/
def resolveLeftovers (x : Session σ) (r : Reduction) : Session σ :=
  x.unsettled.foldl (fun x id =>
    x.finalize id (if r.folded.contains id then .dependencyBlocked else .internalError)) x

end Session

end Landing.Submission
