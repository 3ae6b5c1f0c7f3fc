import Landing.Error
import Landing.Review

/-! What the mirror is asked to take, and what it answers. -/
namespace Landing.Mirror

/-- A request to take one commit over. -/
structure Request where
  project : String
  repoPath : String
  changeRef : String
  branch : String
  ticket : String
  account : Account
  externalUser : String
  externalSecret : String
  oldRev : CommitId
  newRev : CommitId
  deriving DecidableEq, Repr, Inhabited

namespace Request

/-- The texts that must not be blank, by name. -/
def required (r : Request) : List (String × String) :=
  [("project", r.project), ("branch", r.branch), ("change ref", r.changeRef),
   ("ticket", r.ticket), ("external user", r.externalUser), ("external secret", r.externalSecret)]

def revisions (r : Request) : List (String × CommitId) :=
  [("old rev", r.oldRev), ("new rev", r.newRev)]

/-- The first fault of a request: a blank text, or else a revision that is no object name. -/
def fault? (r : Request) : Option String :=
  match r.required.find? fun (_, value) => Text.isBlankText value with
  | some (field, _) => some (field ++ " is empty")
  | none =>
    match r.revisions.find? fun (_, rev) => !CommitId.isObjectName rev.hex with
    | some (field, rev) => some (field ++ " is not a commit id: " ++ rev.hex)
    | none => none

def validate (r : Request) : Except Error Unit :=
  match r.fault? with
  | some detail => .error (.invalidHookRequest detail)
  | none => .ok ()

/-- Shows all but the secret. -/
def summary (r : Request) : String :=
  let id (c : CommitId) := "CommitId(" ++ Text.quoted c.hex ++ ")"
  "HookRequest \x7b project: " ++ Text.quoted r.project ++
    ", repo_path: " ++ Text.quoted r.repoPath ++
    ", change_ref: " ++ Text.quoted r.changeRef ++
    ", branch: " ++ Text.quoted r.branch ++
    ", ticket: " ++ Text.quoted r.ticket ++
    ", account: AccountId(" ++ toString r.account.id ++
    "), external_user: " ++ Text.quoted r.externalUser ++
    ", external_secret: \"<redacted>\", old_rev: " ++ id r.oldRev ++
    ", new_rev: " ++ id r.newRev ++ " \x7d"

end Request

/-- How a hook ended and what it printed. -/
structure Result where
  exitCode : Int
  output : String
  deriving DecidableEq, Repr, Inhabited

def Result.isSuccess (r : Result) : Bool := r.exitCode == 0

end Landing.Mirror
