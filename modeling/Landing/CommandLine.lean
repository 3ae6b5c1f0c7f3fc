import Landing.CommandLine.Arguments
import Landing.CommandLine.Report
import Landing.Config
import Landing.OnDisk
import Landing.Repository
import Landing.Review.Batch
import Landing.Submission.Setup

/-! The program: from arguments and files to what is printed and what is left on disk. -/
namespace Landing.CommandLine

/-- What the program finds when it starts. -/
structure Surroundings where
  directory : String
  bindings : List (String × String)
  files : FileTree
  now : Instant
  /-- How repositories are opened. -/
  git : Git.Opener

/-- How a run of the program ended. -/
inductive Ending where
  | yes
  | no
  | failed (e : Error)
  /-- The arguments ask for nothing that there is. -/
  | misused
  deriving DecidableEq, Repr

/-- Success is a yes. -/
def Ending.status : Ending → UInt32
  | yes => 0
  | no | failed _ => 1
  | misused => 2

/-- What the program did: what it printed, how it ended, and the files as it left them. -/
structure Reply where
  out : String := ""
  err : String := ""
  ending : Ending
  files : FileTree

namespace Surroundings

def environment (s : Surroundings) : Environment :=
  ⟨s.bindings.lookup "HOME", s.bindings.lookup "XDG_CONFIG_HOME"⟩

/-- Color is for those who force it and do not refuse it. -/
def color (s : Surroundings) : Bool :=
  (s.bindings.lookup "NO_COLOR").getD "" = "" &&
    (match s.bindings.lookup "CLICOLOR_FORCE" with
      | some value => value ≠ "0"
      | none => false)

def read (s : Surroundings) (path : String) : Reading := s.files.readPath s.directory path

/-- The configuration, from the file that was named or from its usual place. -/
def config (s : Surroundings) (path : Option String) : Except Error Config :=
  let path := path.getD s.environment.configPath
  Config.load path (s.read path)

def reply (s : Surroundings) (ending : Ending) : Reply where
  ending := ending
  files := s.files

def answer (s : Surroundings) (yes : Bool) : Reply := s.reply (if yes then .yes else .no)

def repository (s : Surroundings) (path : String) : Except Error Git :=
  s.git.repository s.files s.directory path

end Surroundings

namespace Reply

/-- Adds lines to what was printed. -/
def say (r : Reply) (color : Bool) (lines : List Terminal.Line) : Reply :=
  { r with out := r.out ++ Terminal.lines color lines }

/-- As `say`, where errors are shown. -/
def complain (r : Reply) (color : Bool) (lines : List Terminal.Line) : Reply :=
  { r with err := r.err ++ Terminal.lines color lines }

/-- What is shown where errors are shown, the error at the end. -/
def errors (r : Reply) : String :=
  match r.ending with
  | .failed e => r.err ++ "Error: " ++ e.message ++ "\n"
  | _ => r.err

end Reply

/-! Submitting a batch. -/

/-- A submission that is ready to start. -/
structure Start where
  repository : Git
  branch : Branch
  tip : TrackedCommit
  pending : PendingSet
  setup : Submission.Setup
  store : Review.Store

namespace Start

/-- Reads all that a submission takes. -/
def prepare (s : Surroundings) (config : Option String) (repository batch : String) :
    Except Error Start := do
  let config ← s.config config
  let batch ← Review.Batch.load batch (s.read batch)
  let g ← s.repository repository
  let branch := batch.destination
  match ← g.readRef s.files branch.name with
  | none => .error (.git ("branch " ++ branch.name ++ " does not exist"))
  | some id =>
    let tip ← g.read s.files id
    let commits ← batch.commits (g.read s.files)
    let setup ← Submission.Setup.ofConfig config s.environment s.read branch.project
    return ⟨g, branch, tip.tracked, .ofList commits, setup, batch.store s.now⟩

def plan (p : Start) : Submission.Plan where
  branch := p.branch
  policy := p.setup.policy

/-- The world that a submission starts in. -/
def world (p : Start) (s : Surroundings) : OnDisk.World :=
  let w : OnDisk.World := { files := s.files, store := p.store, now := s.now }
  match p.setup with
  | .localOnly => w
  | .mirrored m =>
    { w with credentials := m.credentials, hook := some ⟨m.hook, s.directory, s.bindings⟩ }

def submit (p : Start) (s : Surroundings) : Submission.Report OnDisk.World :=
  Submission.integrate (OnDisk.services p.repository) p.plan p.tip p.pending (p.world s)

/-- The outcomes that count as landed. -/
def landed (l : Submission.Landed) : Nat :=
  (l.outcomes.entries.filter (·.2.isSuccess)).length

/-- Tells how a submission went. All commits of the batch have to land. -/
def tell (p : Start) (y : Style) (report : Submission.Report OnDisk.World) : Reply :=
  let branch := p.branch.name
  let total := p.pending.size
  let r : Reply :=
    { ending := .no, files := report.session.world.files }
  let r := r.say y.color
    (y.heading total branch p.plan.policy.name :: report.session.journal.flatMap y.eventLines)
  match report.result with
  | .error e =>
    let r := { r with ending := .failed e }
    match e with
    | .lockFailure .. => r.complain y.color [y.lostRace branch]
    | _ => r
  | .ok l =>
    { r with ending := if landed l = total then .yes else .no }.say y.color
      (y.summary branch p.tip.id l.newTip.id (landed l) total)

end Start

/-- Submits a batch. -/
def run (s : Surroundings) (i : Invocation) (repository batch : String) : Reply :=
  match Start.prepare s i.config repository batch with
  | .error e => s.reply (.failed e)
  | .ok p => p.tell ⟨s.color, i.verbose⟩ (p.submit s)

/-! Questions. -/

/-- Asks whether a commit would fast-forward a tip. -/
def dryRun (s : Surroundings) (repository tip candidate : String) : Reply :=
  let y : Style := { color := s.color }
  let answer : Except Error (Bool × Commit × Commit) := do
    let g ← s.repository repository
    let tip ← g.read s.files (← g.resolve s.files tip)
    let candidate ← g.read s.files (← g.resolve s.files candidate)
    return (← Submission.dryRun (g.history s.files) tip.id candidate.id, tip, candidate)
  match answer with
  | .error e => s.reply (.failed e)
  | .ok (yes, tip, candidate) =>
    let (mark, verb) :=
      if yes then (y.check, " fast-forwards ") else (y.cross, " does not fast-forward ")
    (s.answer yes).say y.color
      [[mark, " ", y.accent candidate.id.short, verb, y.accent tip.id.short]]

/-- Finds the ticket in a text. -/
def ticket (s : Surroundings) (config : Option String) (text : String) : Reply :=
  let y : Style := { color := s.color }
  match (s.config config).bind Config.tickets with
  | .error e => s.reply (.failed e)
  | .ok tickets =>
    match tickets.extract text [] with
    | some ticket => (s.answer true).say y.color [[ticket]]
    | none =>
      (s.answer false).complain y.color
        [[y.warning ("no ticket matching " ++ tickets.pattern)]]

/-- Looks whether a file holds a private key. -/
def checkKey (s : Surroundings) (file : String) : Reply :=
  let y : Style := { color := s.color }
  match s.read file with
  | .absent => s.reply (.failed (.io "No such file or directory (os error 2)"))
  | .unreadable reason => s.reply (.failed (.io reason))
  | .text key =>
    match PrivateKey.validate key with
    | .ok _ =>
      (s.answer true).say y.color [[y.check, " ", y.accent file, " is a private key"]]
    | .error e =>
      (s.answer false).complain y.color
        [[y.cross, " ", Terminal.paint y.color .rejected e.message]]

/-- Does what a command asks for. -/
def obey (s : Surroundings) (i : Invocation) : Reply :=
  match i.command with
  | .run repository batch => run s i repository batch
  | .dryRun repository _ tip candidate => dryRun s repository tip candidate
  | .ticket text => ticket s i.config text
  | .checkKey file => checkKey s file

def versionLine : String := "ff-submit 0.1.0-alpha.1"

def usage : List String :=
  ["Usage: ff-submit [-c FILE] [-v] COMMAND",
   "",
   "  run [--repo DIR] --batch FILE                          submit a batch",
   "  dry-run [--repo DIR] [--branch NAME] --tip REV COMMIT  ask for a fast-forward",
   "  ticket TEXT                                            find the ticket in a text",
   "  check-key FILE                                         look at a private key"]

/-- The directories that a repository lies in. -/
def repositorySources (s : Surroundings) (path : String) : List String :=
  path :: (Repository.elsewhere s.files s.directory path).map Path.ofPlace

/-- The files and directories that a command reads: those it names, and those that these name, as
far as they were read. -/
def sources (s : Surroundings) (i : Invocation) : List String :=
  let named := match i.command with
    | .run repository batch => batch :: repositorySources s repository
    | .dryRun repository _ _ _ => repositorySources s repository
    | .ticket _ => []
    | .checkKey file => [file]
  let configured := match s.config i.config with
    | .ok c => c.credentialsPath s.environment :: c.hook.toList
    | .error _ => []
  i.config.getD s.environment.configPath :: (named ++ configured)

/-- The program. -/
def start (s : Surroundings) (args : List String) : Reply :=
  match Arguments.parse? args with
  | some (.invoke i) => obey s i
  | some .help => (s.answer true).say s.color (usage.map ([·]))
  | some .version => (s.answer true).say s.color [[versionLine]]
  | none => (s.reply .misused).complain s.color (usage.map ([·]))

end Landing.CommandLine
