import Landing.History.Graph
import Landing.Review.Store
import Landing.Submission.Run

/-! A submission rehearsed in memory: services that follow a script, with faults and a mirror
that may change anything while it runs. -/
namespace Landing.Rehearsal

open Submission (Event Phase Services)

/-- One change of the rehearsed state. -/
inductive Change where
  | addCommit (id : CommitId) (parents : List CommitId) (message : String)
  | setRef (name : String) (id : CommitId)
  | corrupt (id : CommitId)
  | addAccount (a : Account)
  | addApproval (a : SubmitApproval)
  | addMessage (m : ChangeMessage)
  | addCredentials (account : AccountId) (user privateKey : String)
  /-- What the mirror does from now on when it is asked for a commit. -/
  | setHook (commit : CommitId) (response : Option Mirror.Result) (effects : List Change)
  deriving Inhabited

/-- What the mirror does for a commit: the changes it makes, and its answer. -/
structure Script where
  response : Option Mirror.Result := some ⟨0, ""⟩
  effects : List Change := []
  deriving Inhabited

/-- Calls that fail, by the change or account they are made for. -/
structure Faults where
  approvals : List ChangeId := []
  /-- After so many lookups of approvals every further one fails. -/
  approvalsAfter : Option Nat := none
  accounts : List AccountId := []
  messages : List ChangeId := []
  inserts : List ChangeId := []
  credentials : List AccountId := []
  deriving DecidableEq, Repr, Inhabited

/-- What a rehearsal writes down. -/
inductive Entry where
  | event (e : Event)
  /-- The mirror was asked. -/
  | asked (r : Mirror.Request)
  /-- A scripted change was not possible. -/
  | fault (e : Error)
  deriving DecidableEq, Repr, Inhabited

/-- The rehearsed state. `now` is the time of every message that the submission writes. -/
structure World where
  graph : Graph
  store : Review.Store := {}
  credentials : Table AccountId ExternalCredentials := .empty
  hooks : Table CommitId Script := .empty
  onPhase : Phase → List Change := fun _ => []
  faults : Faults := {}
  /-- Whether events are written down and phases bring their changes. -/
  watched : Bool := true
  now : Instant
  approvalLookups : Nat := 0
  keysIssued : Nat := 0
  log : List Entry := []

namespace World

def apply (w : World) : Change → Except Error World
  | .addCommit id parents message =>
    .ok { w with graph := w.graph.addCommit id parents message }
  | .setRef name id => .ok { w with graph := w.graph.setRef name id }
  | .corrupt id => .ok { w with graph := w.graph.corruptCommit id }
  | .addAccount a => .ok { w with store := w.store.addAccount a }
  | .addApproval a => .ok { w with store := w.store.addApproval a }
  | .addMessage m => .ok { w with store := w.store.addMessage m }
  | .addCredentials account user privateKey =>
    match ExternalCredentials.make account user privateKey with
    | .ok c => .ok { w with credentials := w.credentials.insert account c }
    | .error e => .error e
  | .setHook commit response effects =>
    .ok { w with hooks := w.hooks.insert commit ⟨response, effects⟩ }

def write (w : World) (e : Entry) : World := { w with log := w.log ++ [e] }

/-- Applies changes; those that are not possible are written down. -/
def applyAll (w : World) (changes : List Change) : World :=
  changes.foldl (fun w c =>
    match w.apply c with
    | .ok w => w
    | .error e => w.write (.fault e)) w

def submitterOf (p : PatchSetId) (w : World) : Except Error (Option SubmitApproval) × World :=
  let late := match w.faults.approvalsAfter with
    | some n => decide (n ≤ w.approvalLookups)
    | none => false
  let answer :=
    if late || w.faults.approvals.contains p.change then
      .error (.store "approval table unavailable")
    else .ok (w.store.submitterOf p)
  (answer, { w with approvalLookups := w.approvalLookups + 1 })

def account (id : AccountId) (w : World) : Except Error (Option Account) × World :=
  if w.faults.accounts.contains id then (.error (.store "account table unavailable"), w)
  else (.ok (w.store.account id), w)

def messages (c : ChangeId) (w : World) : Except Error (List ChangeMessage) × World :=
  if w.faults.messages.contains c then (.error (.store "message table unavailable"), w)
  else (.ok (w.store.trail c), w)

def insertMessage (m : ChangeMessage) (w : World) : Except Error Unit × World :=
  if w.faults.inserts.contains m.key.change then (.error (.store "message table read-only"), w)
  else
    let (result, store) := w.store.insertMessage m
    (result, { w with store := store })

def credentialsOf (id : AccountId) (w : World) :
    Except Error (Option ExternalCredentials) × World :=
  if w.faults.credentials.contains id then
    (.error (.credentials "credential table unavailable"), w)
  else (.ok (w.credentials.get? id), w)

/-- The keys that a rehearsal gives to the messages of a submission begin so. -/
def keyLead : String := "rehearsed-"

def stamp (w : World) : (String × Instant) × World :=
  ((keyLead ++ toString w.keysIssued, w.now), { w with keysIssued := w.keysIssued + 1 })

/-- Follows the script for the commit; without one the mirror just takes it. -/
def mirror (r : Mirror.Request) (w : World) : Option Mirror.Result × World :=
  let script := (w.hooks.get? r.newRev).getD {}
  (script.response, (w.write (.asked r)).applyAll script.effects)

def notify (e : Event) (w : World) : World :=
  if w.watched then
    let w := w.write (.event e)
    match e with
    | .phase p => w.applyAll (w.onPhase p)
    | _ => w
  else w

def moveRef (name : String) (expected : Option CommitId) (new : CommitId) (w : World) :
    Except Error RefUpdate × World :=
  let (update, graph) := w.graph.compareAndSwap name expected new
  (.ok update, { w with graph := graph })

end World

/-- The services of a rehearsal. -/
def services : Services World where
  history w := w.graph.history
  location w := w.graph.path
  submitterOf := World.submitterOf
  account := World.account
  messages := World.messages
  insertMessage := World.insertMessage
  credentials := World.credentialsOf
  stamp := World.stamp
  mirror := World.mirror
  notify := World.notify
  moveRef := World.moveRef

end Landing.Rehearsal
