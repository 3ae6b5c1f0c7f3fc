import Landing.CommandLine.Terminal
import Landing.Submission.Run

/-! What people are told about a submission. -/
namespace Landing.CommandLine

open Submission (Event Landed)
open Terminal (Line Tone paint)

/-- How reports are written. -/
structure Style where
  color : Bool := false
  /-- Phases and messages are shown too. -/
  verbose : Bool := false
  deriving DecidableEq, Repr

namespace Style

def accent (y : Style) (s : String) : String := paint y.color .accent s

def muted (y : Style) (s : String) : String := paint y.color .muted s

def emphasis (y : Style) (s : String) : String := paint y.color .emphasis s

def warning (y : Style) (s : String) : String := paint y.color .warning s

def check (y : Style) : String := paint y.color .landed "✓"

def cross (y : Style) : String := paint y.color .rejected "✗"

def arrow (y : Style) : String := y.accent "→"

/-- A mark and the tag of an outcome, by whether the commit landed. -/
def outcomeMark (y : Style) (o : Outcome) : String := if o.isSuccess then y.check else y.cross

def outcomeTag (y : Style) (o : Outcome) : String :=
  paint y.color (if o.isSuccess then .landed else .rejected) o.tag

/-- The lines for an observation. -/
def eventLines (y : Style) : Event → List Line
  | .phase p => if y.verbose then [[y.emphasis p.label, "..."]] else []
  | .outcome id o => [["  ", y.outcomeMark o, " ", y.accent id.short, " ", y.outcomeTag o]]
  | .hookStarted id ticket =>
    [["  ", y.arrow, " Syncing ", y.accent id.short, " under ticket ", y.accent ticket]]
  | .hookFinished id none =>
    [["  ", y.cross, " Sync hook for ", y.accent id.short, " could not run"]]
  | .hookFinished id (some r) =>
    if r.isSuccess then [["  ", y.check, " Synced ", y.emphasis id.short]]
    else [["  ", y.cross, " Sync of ", y.accent id.short, " failed with exit code ",
      y.warning (toString r.exitCode)]]
  | .message id body =>
    if y.verbose then
      (Text.lines body).map fun line => ["    ", y.muted id.short, " ", y.muted line]
    else []

/-- The line above a submission. -/
def heading (y : Style) (total : Nat) (branch policy : String) : Line :=
  ["Submitting ", y.accent (toString total), " commit(s) to ", y.accent branch, " (",
    y.muted policy, ")"]

/-- The lines below a submission: where the branch is, and how many commits landed. -/
def summary (y : Style) (branch : String) (old new : CommitId) (landed total : Nat) :
    List Line :=
  [[],
   if new = old then [y.accent branch, " unchanged at ", old.short]
   else [y.check, " ", y.accent branch, " ", y.muted old.short, " -> ", y.emphasis new.short],
   [toString landed, "/", toString total, " commit(s) landed"]]

/-- The line that says that a race was lost. -/
def lostRace (y : Style) (branch : String) : Line :=
  [y.cross, " ", y.warning branch, " was updated by someone else; resubmit the batch"]

end Style

end Landing.CommandLine
