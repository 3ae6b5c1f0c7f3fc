import Landing.Branch
import Landing.FileTree
import Landing.History
import Landing.Records
import Landing.Review.Store
import Landing.Toml.Document

/-! Batches: approved submissions, described in a file. -/
namespace Landing.Review

open Datum (need? get? needed optional nullable?)

/-- A message that is already on a submitted change. -/
structure BatchMessage where
  author : Option AccountId
  writtenOn : Instant
  message : String
  deriving DecidableEq, Repr

/-- A submitted change. -/
structure BatchChange where
  id : ChangeId
  patchSet : UInt32
  commit : CommitId
  submitter : AccountId
  submittedAt : Option Instant
  messages : List BatchMessage
  deriving DecidableEq, Repr

/-- One approved submission. -/
structure Batch where
  project : String
  branch : String
  accounts : List Account
  changes : List BatchChange
  deriving DecidableEq, Repr

namespace BatchMessage

def ofDatum? (d : Datum) : Option BatchMessage := do
  let r ← d.record? .toml [optional "author", needed "written_on", needed "message"]
  some ⟨← get? r "author" none (nullable? AccountId.ofDatum?),
    ← need? r "written_on" Datum.instant?, ← need? r "message" Datum.text?⟩

end BatchMessage

namespace BatchChange

def ofDatum? (d : Datum) : Option BatchChange := do
  let r ← d.record? .toml
    [needed "id", needed "patch_set", needed "commit", needed "submitter",
     optional "submitted_at", optional "messages"]
  some ⟨← need? r "id" ChangeId.ofDatum?, ← need? r "patch_set" Datum.word?,
    ← need? r "commit" CommitId.ofDatum?, ← need? r "submitter" AccountId.ofDatum?,
    ← get? r "submitted_at" none (nullable? Datum.instant?),
    ← get? r "messages" [] (Datum.list? BatchMessage.ofDatum?)⟩

def patchSetId (c : BatchChange) : PatchSetId := ⟨c.id, c.patchSet⟩

/-- A message as the store keeps it; the key tells its place in the batch. -/
def storedMessage (c : BatchChange) (m : BatchMessage) (index : Nat) : ChangeMessage where
  key := ⟨c.id, "batch-" ++ toString c.id ++ "-" ++ toString index⟩
  author := m.author
  patchSet := some c.patchSetId
  writtenOn := m.writtenOn
  message := m.message

/-- Puts the approval and the messages of a change into a store. -/
def addTo (now : Instant) (s : Store) (c : BatchChange) : Store :=
  let s := s.addApproval ⟨c.patchSetId, c.submitter, c.submittedAt.getD now⟩
  (c.messages.mapIdx fun index m => c.storedMessage m index).foldl Store.addMessage s

end BatchChange

namespace Batch

def ofDatum? (d : Datum) : Option Batch := do
  let r ← d.record? .toml
    [needed "project", needed "branch", optional "accounts", optional "changes"]
  some ⟨← need? r "project" Datum.text?, ← need? r "branch" Datum.text?,
    ← get? r "accounts" [] (Datum.list? (Account.ofDatum? .toml)),
    ← get? r "changes" [] (Datum.list? BatchChange.ofDatum?)⟩

/-- Reads a batch from a text. A batch is for a project. -/
def parse (s : String) : Except Error Batch :=
  match Toml.decode ofDatum? s with
  | .error fault => .error (.parse fault.message)
  | .ok b => if Text.isBlankText b.project then .error (.parse "batch has no project") else .ok b

/-- Reads a batch from a file. -/
def load (path : String) : Reading → Except Error Batch
  | .absent =>
    .error (.parse ("failed to read " ++ path ++ ": No such file or directory (os error 2)"))
  | .unreadable reason => .error (.parse ("failed to read " ++ path ++ ": " ++ reason))
  | .text s =>
    match parse s with
    | .error e => .error (.parse ("failed to parse " ++ path ++ ": " ++ e.message))
    | .ok b => .ok b

def destination (b : Batch) : Branch := .named b.project b.branch

/-- A store with the records of a batch. Changes without a time were approved `now`. -/
def store (b : Batch) (now : Instant) : Store :=
  b.changes.foldl (BatchChange.addTo now) (b.accounts.foldl Store.addAccount {})

/-- The submitted commits, read in the order of submission. -/
def commits (b : Batch) (read : Reader) : Except Error (List TrackedCommit) :=
  b.changes.mapM fun c => (read c.commit).map (·.tracked (some c.patchSetId))

end Batch

end Landing.Review
