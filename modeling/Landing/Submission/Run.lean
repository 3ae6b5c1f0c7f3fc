import Landing.Submission.Mirroring

/-! A submission from its first phase to its last. -/
namespace Landing.Submission

/-- What happens between the choice of the new tip and the record of what landed. -/
inductive Policy where
  /-- The branch moves, nothing else. -/
  | localOnly
  /-- The mirror takes every commit before the branch may move past it. -/
  | mirrored (tickets : TicketMatcher)
  deriving DecidableEq, Repr

namespace Policy

def name : Policy → String
  | localOnly => "fast-forward-only"
  | mirrored _ => "fast-forward-with-external-sync"

def summary : Policy → String
  | localOnly => "LocalOnly"
  | mirrored tickets =>
    "WithExternalSync(ExternalSync \x7b ticket_pattern: " ++ Text.quoted tickets.pattern ++
      ", .. \x7d)"

end Policy

/-- Where a batch is to land and how. `accepted` counts as landed besides the tip. -/
structure Plan where
  branch : Branch
  policy : Policy := .localOnly
  accepted : List CommitId := []
  deriving DecidableEq, Repr

/-- What a submission computed: the tip that the branch should move to, every outcome, and the
approval to which the move is attributed. -/
structure Landed where
  newTip : TrackedCommit
  outcomes : Outcome.Ledger
  approval : Option SubmitApproval
  deriving DecidableEq, Repr

/-- How a submission ended, and the commits it left waiting. -/
structure Report (σ : Type) where
  result : Except Error Landed
  pending : PendingSet
  session : Session σ

namespace Session

variable {σ : Type}

/-- A lost race is not worth another try: the batch was computed for the old tip. -/
def retriesLostRace : Bool := false

/-- Finalizes the commits of the batch among `landed`. The first approval found is kept; one that
cannot be looked up is passed over. -/
def markEach (s : Services σ) : (approval : Option SubmitApproval) → Session σ → List CommitId →
    Option SubmitApproval × Session σ
  | approval, x, [] => (approval, x)
  | approval, x, id :: rest =>
    match x.batch.get? id, x.outcomes.isFinal id with
    | some c, false =>
      let x := x.finalize id .cleanMerge
      match approval, c.patchSet with
      | none, some p =>
        match x.ask (s.submitterOf p) with
        | (.ok found, x) => markEach s found x rest
        | (.error _, x) => markEach s none x rest
      | _, _ => markEach s approval x rest
    | _, _ => markEach s approval x rest

/-- Finalizes what `tip` reaches and no accepted commit does, oldest first. -/
def mark (s : Services σ) (x : Session σ) (tip : CommitId) (accepted : List CommitId) :
    Except Error (Option SubmitApproval) × Session σ :=
  match (s.history x.world).order [tip] accepted .oldestFirst with
  | .error e => (.error e, x)
  | .ok landed =>
    let (approval, x) := x.markEach s none landed
    (.ok approval, x)

/-- Records what landed with `newTip` and closes the books. -/
def conclude (s : Services σ) (plan : Plan) (tip : CommitId) (r : Reduction) (x : Session σ)
    (newTip : TrackedCommit) : Except Error Landed × Session σ :=
  let x := x.tell s (.phase .marking)
  match x.mark s newTip.id (plan.accepted ++ [tip]) with
  | (.error e, x) => (.error e, x)
  | (.ok approval, x) =>
    let x := ((x.resolveLeftovers r).flush s).tell s (.phase .done)
    (.ok ⟨newTip, x.outcomes, approval⟩, x)

/-- Brings the chosen tip in as the policy says. -/
def bringIn (s : Services σ) (plan : Plan) (x : Session σ) (r : Reduction)
    (tip chosen : TrackedCommit) : TrackedCommit × Session σ :=
  match plan.policy with
  | .localOnly => (chosen, x)
  | .mirrored tickets => x.mirrorRange s tickets plan.branch r tip chosen

/-- Chooses the new tip, turns the other heads away, brings the tip in and concludes. -/
def land (s : Services σ) (plan : Plan) (tip : TrackedCommit) (r : Reduction)
    (pending : PendingSet) (x : Session σ) : Report σ :=
  let x := x.tell s (.phase .selecting)
  match (s.history x.world).firstFastForward tip pending with
  | (.error e, pending) => ⟨.error e, pending, x⟩
  | (.ok chosen, pending) =>
    let (stragglers, pending) := pending.drain
    let x := (x.finalizeAll (stragglers.map (·.id)) .notFastForward).flush s
    let x := x.tell s (.phase .integrating)
    let (newTip, x) := x.bringIn s plan r tip chosen
    let (result, x) := x.conclude s plan tip.id r newTip
    ⟨result, pending, x⟩

end Session

variable {σ : Type}

/-- Computes how a batch lands on `tip`. Refusals are outcomes; an error means that the history
could not be read. -/
def run (s : Services σ) (plan : Plan) (tip : TrackedCommit) (pending : PendingSet)
    (world : σ) : Report σ :=
  let x := (Session.start pending world).tell s (.phase .reducing)
  match (s.history x.world).reduce tip.id ⟨pending, x.outcomes⟩ with
  | (.error e, p) => ⟨.error e, p.pending, { x with outcomes := p.outcomes }⟩
  | (.ok r, p) => Session.land s plan tip r p.pending { x with outcomes := p.outcomes }

/-- The branch was moved by someone else. -/
def lostRace (branch : String) (expected : CommitId) (actual : Option CommitId) : Error :=
  .lockFailure branch expected ((actual.map (·.hex)).getD "<none>") Session.retriesLostRace

/-- Moves the branch to the new tip, unless that is where it was computed for. -/
def moveBranch (s : Services σ) (plan : Plan) (tip : CommitId) (r : Report σ) : Report σ :=
  match r.result with
  | .error _ => r
  | .ok landed =>
    if landed.newTip.id = tip then r
    else
      match r.session.ask (s.moveRef plan.branch.name (some tip) landed.newTip.id) with
      | (.ok .updated, x) => { r with session := x }
      | (.ok (.lockFailure actual), x) =>
        { r with result := .error (lostRace plan.branch.name tip actual), session := x }
      | (.error e, x) => { r with result := .error e, session := x }

/-- Computes how a batch lands and moves the branch. -/
def integrate (s : Services σ) (plan : Plan) (tip : TrackedCommit) (pending : PendingSet)
    (world : σ) : Report σ :=
  moveBranch s plan tip.id (run s plan tip pending world)

/-- Whether `candidate` would land on `tip`. Only the history is read. -/
def dryRun (h : History) (tip candidate : CommitId) : Except Error Bool :=
  h.isAncestor tip candidate

end Landing.Submission
