import Landing.CommitId
import Landing.Mirror.Request
import Landing.Outcome

/-! What can be observed of a submission while it runs. -/
namespace Landing.Submission

/-- The stages of a submission. -/
inductive Phase where
  | reducing
  | selecting
  | integrating
  | marking
  | done
  deriving DecidableEq, Repr, Inhabited

def Phase.label : Phase → String
  | reducing => "Reducing batch"
  | selecting => "Selecting fast-forward"
  | integrating => "Integrating"
  | marking => "Marking merged commits"
  | done => "Done"

/-- One observation. -/
inductive Event where
  | phase (p : Phase)
  /-- A commit has its final outcome. -/
  | outcome (id : CommitId) (o : Outcome)
  /-- The mirror is about to be asked to take a commit. -/
  | hookStarted (id : CommitId) (ticket : String)
  /-- The mirror has answered; without a result it could not be asked. -/
  | hookFinished (id : CommitId) (result : Option Mirror.Result)
  /-- A message was written to the trail of a change. -/
  | message (id : CommitId) (body : String)
  deriving DecidableEq, Repr, Inhabited

end Landing.Submission
