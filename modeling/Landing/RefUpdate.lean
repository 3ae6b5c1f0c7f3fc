import Landing.CommitId

/-! What an attempt to move a ref came to. -/
namespace Landing

/-- A ref is moved only if it holds what is expected. -/
inductive RefUpdate where
  | updated
  /-- The ref held something else. -/
  | lockFailure (actual : Option CommitId)
  deriving DecidableEq, Repr

end Landing
