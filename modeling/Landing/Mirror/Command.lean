import Landing.Mirror.Request
import Landing.Shell.Process

/-! A hook that is a program, started once for each commit. -/
namespace Landing.Mirror

/-- The program, where it is started, and what it finds there. -/
structure Command where
  program : String
  directory : String := "/"
  environment : List (String × String) := []
  deriving DecidableEq, Repr

namespace Command

/-- The request as named arguments. The secret is not among them. -/
def arguments (r : Request) : List String :=
  ["--project", r.project, "--repo-path", r.repoPath, "--change-ref", r.changeRef,
   "--branch", r.branch, "--ticket", r.ticket, "--account", toString r.account.id,
   "--account-name", r.account.fullName.getD "",
   "--account-email", r.account.preferredEmail.getD "",
   "--external-user", r.externalUser, "--old-rev", r.oldRev.hex, "--new-rev", r.newRev.hex]

/-- The process for a request. The secret is a line of its input. -/
def process (c : Command) (r : Request) : Shell.Process where
  program := c.program
  arguments := arguments r
  input := r.externalSecret ++ "\n"
  directory := c.directory
  environment := c.environment

/-- A process that ended by itself gives a result: its status and what it printed, first as
output, then as errors, without the blanks at the end. -/
def result? (e : Shell.Ending) : Option Result :=
  e.status.map fun status =>
    ⟨status, Text.trimEnd (Text.decodeLossy e.out ++ Text.decodeLossy e.err)⟩

/-- Starts the program for a request and waits for it. -/
def invoke (c : Command) (r : Request) (files : FileTree) : Option Result × FileTree :=
  let (ending, files) := (c.process r).run files
  (ending.bind result?, files)

end Command

end Landing.Mirror
