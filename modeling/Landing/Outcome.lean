/-! What can become of a submitted commit. -/
namespace Landing

/-- The final word on one submitted commit. -/
inductive Outcome where
  | cleanMerge | cleanPick | cleanRebase | alreadyMerged
  | pathConflict | missingDependency | noPatchSet | revisionGone | noSubmitType
  | manualRecursiveMerge | cannotCherryPickRoot | cannotRebaseRoot | notFastForward
  | noCredentials | noTicket | externalSyncFailed | dependencyBlocked
  | invalidProjectConfiguration | invalidProjectConfigurationParentNotFound
  | invalidProjectConfigurationRootCannotHaveParent | settingParentProjectOnlyAllowedByAdmin
  | internalError
  deriving DecidableEq, Repr, Inhabited

namespace Outcome

/-- The commit is on the destination branch. -/
def isSuccess : Outcome → Bool
  | cleanMerge | cleanPick | cleanRebase | alreadyMerged => true
  | _ => false

/-- Every outcome, in the order of declaration. -/
def all : List Outcome :=
  [cleanMerge, cleanPick, cleanRebase, alreadyMerged, pathConflict, missingDependency, noPatchSet,
   revisionGone, noSubmitType, manualRecursiveMerge, cannotCherryPickRoot, cannotRebaseRoot,
   notFastForward, noCredentials, noTicket, externalSyncFailed, dependencyBlocked,
   invalidProjectConfiguration, invalidProjectConfigurationParentNotFound,
   invalidProjectConfigurationRootCannotHaveParent, settingParentProjectOnlyAllowedByAdmin,
   internalError]

/-- The short name used in records and listings. -/
def tag : Outcome → String
  | cleanMerge => "clean-merge"
  | cleanPick => "clean-pick"
  | cleanRebase => "clean-rebase"
  | alreadyMerged => "already-merged"
  | pathConflict => "path-conflict"
  | missingDependency => "missing-dependency"
  | noPatchSet => "no-patch-set"
  | revisionGone => "revision-gone"
  | noSubmitType => "no-submit-type"
  | manualRecursiveMerge => "manual-recursive-merge"
  | cannotCherryPickRoot => "cannot-cherry-pick-root"
  | cannotRebaseRoot => "cannot-rebase-root"
  | notFastForward => "not-fast-forward"
  | noCredentials => "no-credentials"
  | noTicket => "no-ticket"
  | externalSyncFailed => "external-sync-failed"
  | dependencyBlocked => "dependency-blocked"
  | invalidProjectConfiguration => "invalid-project-configuration"
  | invalidProjectConfigurationParentNotFound =>
    "invalid-project-configuration-parent-not-found"
  | invalidProjectConfigurationRootCannotHaveParent =>
    "invalid-project-configuration-root-cannot-have-parent"
  | settingParentProjectOnlyAllowedByAdmin => "setting-parent-project-only-allowed-by-admin"
  | internalError => "internal-error"

def ofTag? (s : String) : Option Outcome := all.find? (·.tag == s)

/-- What the owner of the change is told. -/
def message : Outcome → String
  | cleanMerge => "Change has been successfully merged into the git repository."
  | cleanPick => "Change has been successfully cherry-picked"
  | cleanRebase => "Change has been successfully rebased"
  | alreadyMerged => "Change is already part of the destination branch."
  | pathConflict =>
    "The change could not be merged due to a path conflict.\n\n" ++
      "Please rebase the change locally and upload the rebased commit for review."
  | missingDependency => "The change depends on a commit that is neither merged nor submitted."
  | noPatchSet => "The change has no patch set for the submitted commit."
  | revisionGone => "The submitted revision no longer exists."
  | noSubmitType => "The project has no submit type configured."
  | manualRecursiveMerge =>
    "The change requires a local merge to resolve.\n\n" ++
      "Please merge (or rebase) the change locally and upload the resolution for review."
  | cannotCherryPickRoot =>
    "Cannot cherry-pick an initial commit onto an existing branch.\n\n" ++
      "Please merge the change locally and upload the merge commit for review."
  | cannotRebaseRoot =>
    "Cannot rebase an initial commit onto an existing branch.\n\n" ++
      "Please merge the change locally and upload the merge commit for review."
  | notFastForward =>
    "Project policy requires all submissions to be a fast-forward.\n\n" ++
      "Please rebase the change locally and upload again for review."
  | noCredentials =>
    "Target branch is strictly following the external repository branch with the same name.\n" ++
      "When you submit changes to this branch they are also committed to the external " ++
      "repository.\n" ++
      "Submitter should configure external username and private key in the account settings."
  | noTicket =>
    "Cannot merge the change, because no ticket was specified.\n" ++
      "Please add change comment with ticket number in format 'TICKET: <ticket number>' " ++
      "or add it in commit message."
  | externalSyncFailed =>
    "Could not merge the change to the external repository. " ++
      "See previous change message for details."
  | dependencyBlocked =>
    "An earlier change in the same submission could not be integrated; " ++
      "this change was not merged."
  | invalidProjectConfiguration => "Change contains an invalid project configuration."
  | invalidProjectConfigurationParentNotFound =>
    "Change contains an invalid project configuration:\nParent project does not exist."
  | invalidProjectConfigurationRootCannotHaveParent =>
    "Change contains an invalid project configuration:\nThe root project cannot have a parent."
  | settingParentProjectOnlyAllowedByAdmin =>
    "Change contains a project configuration that changes the parent project.\n" ++
      "The change must be submitted by an administrator."
  | internalError =>
    "The change could not be processed because of an internal error. " ++
      "Please contact an administrator."

end Outcome

end Landing
