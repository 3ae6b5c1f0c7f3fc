import Landing.Branch
import Landing.Submission.Session
import Landing.Ticket

/-! Taking a range of commits over to the mirror, one by one, parents first. -/
namespace Landing.Submission

/-- How a push of one commit went. -/
inductive Push where
  | accepted
  | refused (o : Outcome)
  deriving DecidableEq, Repr

/-- Who passes a commit on, and under which ticket. -/
structure Errand where
  patchSet : PatchSetId
  credentials : ExternalCredentials
  account : Account
  ticket : String
  deriving DecidableEq, Repr

/-- What is noted when the mirror cannot be asked. -/
def notAskedMessage : String := "Could not run external sync hook."

def announcement (id : CommitId) (e : Errand) : String :=
  "going to integrate commit " ++ id.hex ++ " under ticket " ++ e.ticket ++
    " as external user " ++ e.credentials.user

def refusalMessage (r : Mirror.Result) : String :=
  Text.trim r.output ++ "\nexternal-sync rc: " ++ toString r.exitCode

namespace Session

variable {σ : Type}

/-- The approval to submit a patch set and the credentials of the account that gave it. -/
def approver (s : Services σ) (x : Session σ) (p : PatchSetId) :
    Option (AccountId × ExternalCredentials) × Session σ :=
  match x.ask (s.submitterOf p) with
  | (.ok (some approval), x) =>
    match x.ask (s.credentials approval.account) with
    | (.ok (some credentials), x) => (some (approval.account, credentials), x)
    | (_, x) => (none, x)
  | (_, x) => (none, x)

/-- The messages of a change, none if they cannot be read. -/
def messagesOf (s : Services σ) (x : Session σ) (c : ChangeId) :
    List ChangeMessage × Session σ :=
  match x.ask (s.messages c) with
  | (.ok messages, x) => (messages, x)
  | (.error _, x) => ([], x)

/-- Finds out who passes a commit on and under which ticket. -/
def errand (s : Services σ) (tickets : TicketMatcher) (x : Session σ) (c : TrackedCommit) :
    Except Outcome Errand × Session σ :=
  match c.patchSet with
  | none => (.error .noPatchSet, x)
  | some p =>
    match x.approver s p with
    | (none, x) => (.error .noCredentials, x)
    | (some (id, credentials), x) =>
      match x.ask (s.account id) with
      | (.error _, x) => (.error .noCredentials, x)
      | (.ok account, x) =>
        let (messages, x) := x.messagesOf s p.change
        match tickets.extract c.message messages with
        | none => (.error .noTicket, x)
        | some ticket => (.ok ⟨p, credentials, account.getD ⟨id, none, none⟩, ticket⟩, x)

/-- The request to take `c` over on top of `current`. -/
def request (s : Services σ) (branch : Branch) (x : Session σ) (current : CommitId)
    (c : TrackedCommit) (e : Errand) : Mirror.Request where
  project := branch.project
  repoPath := s.location x.world
  changeRef := e.patchSet.refName
  branch := branch.name
  ticket := e.ticket
  account := e.account
  externalUser := e.credentials.user
  externalSecret := e.credentials.privateKey
  oldRev := current
  newRev := c.id

/-- Asks the mirror, with notice before and after. -/
def invoke (s : Services σ) (x : Session σ) (r : Mirror.Request) :
    Option Mirror.Result × Session σ :=
  let x := x.tell s (.hookStarted r.newRev r.ticket)
  let (answer, x) := x.ask (s.mirror r)
  let x := { x with pushes := x.pushes ++ [(r, answer)] }
  (answer, x.tell s (.hookFinished r.newRev answer))

/-- Notes the answer of the mirror and judges it. -/
def judge (s : Services σ) (x : Session σ) (c : TrackedCommit) :
    Option Mirror.Result → Push × Session σ
  | none => (.refused .externalSyncFailed, x.note s c notAskedMessage)
  | some r =>
    if r.isSuccess then
      let output := Text.trim r.output
      (.accepted, if output.isEmpty then x else x.note s c output)
    else (.refused .externalSyncFailed, x.note s c (refusalMessage r))

/-- Takes one commit over to the mirror. -/
def push (s : Services σ) (tickets : TicketMatcher) (branch : Branch) (x : Session σ)
    (current : CommitId) (c : TrackedCommit) : Push × Session σ :=
  match x.errand s tickets c with
  | (.error o, x) => (.refused o, x)
  | (.ok e, x) =>
    let x := x.note s c (announcement c.id e)
    let r := x.request s branch current c e
    match r.validate with
    | .error fault =>
      (.refused .externalSyncFailed, x.note s c (notAskedMessage ++ "\n" ++ fault.message))
    | .ok () =>
      let (answer, x) := x.invoke s r
      x.judge s c answer

/-- The commits of a halted range that were not taken over and have no outcome, in the order of
the batch. -/
def unresolved (x : Session σ) (remaining range taken : List CommitId) : List CommitId :=
  x.order.filter fun id =>
    (remaining.contains id || range.contains id) && !taken.contains id && !x.outcomes.isFinal id

/-- Gives what is left of a range an outcome and makes it known. -/
def halt (s : Services σ) (x : Session σ) (remaining range taken : List CommitId) (o : Outcome) :
    Session σ :=
  (x.finalizeAll (x.unresolved remaining range taken) o).flush s

/-- Takes the commits of a list over, each on top of the one before, up to the first that fails.
Gives the last one that was taken, at first `current`. -/
def pushEach (s : Services σ) (tickets : TicketMatcher) (branch : Branch)
    (range : List CommitId) : (taken : List CommitId) → (current : TrackedCommit) →
    Session σ → List CommitId → TrackedCommit × Session σ
  | _, current, x, [] => (current, x)
  | taken, current, x, id :: rest =>
    match (s.history x.world).read id with
    | .error _ => (current, x.halt s rest range taken .internalError)
    | .ok _ =>
      match x.batch.get? id with
      | none => (current, x.halt s rest range taken .internalError)
      | some c =>
        match x.push s tickets branch current.id c with
        | (.accepted, x) => pushEach s tickets branch range (c.id :: taken) c x rest
        | (.refused o, x) =>
          (current, (x.finalize c.id o).halt s rest range taken .dependencyBlocked)

/-- The commits of the batch that land with `tip`. -/
def range (x : Session σ) (r : Reduction) (tip : CommitId) : List CommitId :=
  x.order.filter fun id => id = tip || r.folded.get? id = some tip

/-- Takes the commits between two tips over to the mirror, if the branch is mirrored. Gives the
tip that the mirror has followed to. -/
def mirrorRange (s : Services σ) (tickets : TicketMatcher) (branch : Branch) (x : Session σ)
    (r : Reduction) (old new : TrackedCommit) : TrackedCommit × Session σ :=
  if new.id = old.id || !Branch.isMirrored branch.name then (new, x)
  else
    let range := x.range r new.id
    match (s.history x.world).order [new.id] [old.id] .oldestFirst with
    | .error _ => (old, x.halt s [] range [] .internalError)
    | .ok ids => pushEach s tickets branch range [] old x ids

end Session

end Landing.Submission
