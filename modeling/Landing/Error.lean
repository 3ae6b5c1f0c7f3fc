import Landing.CommitId

/-! Causes of failure and what is said about them. -/
namespace Landing

/-- Why an operation failed. -/
inductive Error where
  /-- A commit is not stored. -/
  | missingObject (id : CommitId)
  /-- A stored object cannot be read as a commit. -/
  | graph (detail : String)
  /-- A repository, revision or ref cannot be used. -/
  | git (detail : String)
  | store (detail : String)
  | credentials (detail : String)
  | invalidPrivateKey
  | invalidHookRequest (detail : String)
  | config (detail : String)
  | parse (detail : String)
  /-- The destination moved between computation and update. -/
  | lockFailure (branch : String) (expected : CommitId) (actual : String) (retryable : Bool)
  | io (detail : String)
  | internal (detail : String)
  deriving DecidableEq, Repr, Inhabited

namespace Error

def message : Error → String
  | missingObject id => "missing commit object: " ++ id.hex
  | graph detail => "commit graph error: " ++ detail
  | git detail => "git command failed: " ++ detail
  | store detail => "review store error: " ++ detail
  | credentials detail => "credential store error: " ++ detail
  | invalidPrivateKey =>
    "Invalid SSH Private Key (note that it should be private not public key)"
  | invalidHookRequest detail => "invalid hook request: " ++ detail
  | config detail => "configuration error: " ++ detail
  | parse detail => "parse error: " ++ detail
  | lockFailure branch expected actual _ =>
    "lock failure updating " ++ branch ++ ": expected " ++ expected.hex ++ ", found " ++ actual
  | io detail => "IO error: " ++ detail
  | internal detail => "internal error: " ++ detail

/-- Only a lost race can say that another try may help. -/
def isRetryable : Error → Bool
  | lockFailure _ _ _ retryable => retryable
  | _ => false

/-- An object that is there but cannot be read. -/
def corruptObject (id : CommitId) : Error := .graph ("corrupt commit object " ++ id.hex)

end Error

/-- Names of commits with a full object name, or a parse error that quotes the text. -/
def CommitId.parse (s : String) : Except Error CommitId :=
  match CommitId.parse? s with
  | some id => .ok id
  | none => .error (.parse ("not a commit id: " ++ Text.quoted (Text.trim s)))

end Landing
