import Landing.Config
import Landing.Credentials.Store
import Landing.Submission.Run

/-! What a configuration provides for the submissions of a project. -/
namespace Landing.Submission

/-- What it takes to have commits mirrored. -/
structure MirrorSetup where
  tickets : TicketMatcher
  /-- The program that takes a commit over. -/
  hook : String
  credentials : Credentials.Store
  deriving DecidableEq, Repr

/-- How a project submits, with all that this takes. -/
inductive Setup where
  | localOnly
  | mirrored (m : MirrorSetup)
  deriving DecidableEq, Repr

namespace Setup

def policy : Setup → Policy
  | localOnly => .localOnly
  | mirrored m => .mirrored m.tickets

/-- The setup for a project. `read` gives what is in a file. -/
def ofConfig (c : Config) (e : Environment) (read : String → Reading) (project : String) :
    Except Error Setup :=
  match c.submitTypeOf project, c.hook with
  | .fastForwardOnly, _ => .ok .localOnly
  | .mirrored, none =>
    .error (.config
      ("project " ++ project ++ " requires external sync but no [hook] external_sync is set"))
  | .mirrored, some hook => do
    let path := c.credentialsPath e
    let credentials ← Credentials.Store.load path (read path)
    return .mirrored ⟨← c.tickets, hook, credentials⟩

end Setup

end Landing.Submission
