import Landing.Instant

/-! What the review system knows: changes, patch sets, accounts, messages and approvals. -/
namespace Landing

/-- The number of a change. -/
structure ChangeId where
  number : UInt32
  deriving DecidableEq, Repr, Inhabited

/-- The number of an account. -/
structure AccountId where
  number : UInt32
  deriving DecidableEq, Repr, Inhabited

instance : ToString ChangeId := ⟨fun c => toString c.number.toNat⟩

instance : ToString AccountId := ⟨fun a => toString a.number.toNat⟩

/-- One version of a change. -/
structure PatchSetId where
  change : ChangeId
  number : UInt32
  deriving DecidableEq, Repr, Inhabited

namespace PatchSetId

/-- Refs of changes are spread over a hundred directories by the last two digits. -/
def shard (c : ChangeId) : List Char := Instant.padded 2 (c.number.toNat % 100)

/-- The ref that holds the patch set. -/
def refName (p : PatchSetId) : String :=
  "refs/changes/" ++ String.ofList (shard p.change) ++ "/" ++ toString p.change ++ "/" ++
    toString p.number.toNat

def display (p : PatchSetId) : String := toString p.change ++ "," ++ toString p.number.toNat

end PatchSetId

/-- A person known to the review system. -/
structure Account where
  id : AccountId
  fullName : Option String := none
  preferredEmail : Option String := none
  deriving DecidableEq, Repr, Inhabited

/-- Identifies a message among those of its change. -/
structure MessageKey where
  change : ChangeId
  uuid : String
  deriving DecidableEq, Repr, Inhabited

/-- A message on a change; one without an author was written by a program. -/
structure ChangeMessage where
  key : MessageKey
  author : Option AccountId := none
  patchSet : Option PatchSetId := none
  writtenOn : Instant
  message : String
  deriving DecidableEq, Repr, Inhabited

/-- Who approved a patch set for submission, and when. -/
structure SubmitApproval where
  patchSet : PatchSetId
  account : AccountId
  granted : Instant
  deriving DecidableEq, Repr, Inhabited

end Landing
