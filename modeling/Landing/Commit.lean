import Landing.CommitId
import Landing.Review

/-! Commits as the history stores them and as the review system follows them. -/
namespace Landing

/-- A commit as stored. -/
structure Commit where
  id : CommitId
  parents : List CommitId
  message : String
  deriving DecidableEq, Repr, Inhabited

/-- A commit with the patch set it was uploaded as, if any. -/
structure TrackedCommit where
  id : CommitId
  parents : List CommitId
  message : String
  patchSet : Option PatchSetId := none
  deriving DecidableEq, Repr, Inhabited

/-- Follows a stored commit as `patchSet`. -/
def Commit.tracked (c : Commit) (patchSet : Option PatchSetId := none) : TrackedCommit :=
  ⟨c.id, c.parents, c.message, patchSet⟩

def TrackedCommit.change? (c : TrackedCommit) : Option ChangeId := c.patchSet.map (·.change)

end Landing
