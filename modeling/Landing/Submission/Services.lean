import Landing.Credentials
import Landing.History
import Landing.RefUpdate
import Landing.Submission.Event

/-! What a submission asks of the systems around it. -/
namespace Landing.Submission

/-- The systems around a submission, over the states `σ` that they can be in. Every call may
depend on the state, change it and fail. -/
structure Services (σ : Type) where
  /-- The history as it can be read at this moment. -/
  history : σ → History
  /-- Where the repository is. -/
  location : σ → String
  /-- The approval to submit a patch set. -/
  submitterOf : PatchSetId → σ → Except Error (Option SubmitApproval) × σ
  account : AccountId → σ → Except Error (Option Account) × σ
  /-- The messages recorded for a change. -/
  messages : ChangeId → σ → Except Error (List ChangeMessage) × σ
  insertMessage : ChangeMessage → σ → Except Error Unit × σ
  credentials : AccountId → σ → Except Error (Option ExternalCredentials) × σ
  /-- A fresh message key and the current time. -/
  stamp : σ → (String × Instant) × σ
  /-- Asks the mirror to take a commit; without a result it could not be asked. -/
  mirror : Mirror.Request → σ → Option Mirror.Result × σ
  /-- Shows an observation to whoever watches. -/
  notify : Event → σ → σ
  /-- Moves a ref that holds what is expected. -/
  moveRef : (name : String) → (expected : Option CommitId) → (new : CommitId) → σ →
    Except Error RefUpdate × σ

end Landing.Submission
