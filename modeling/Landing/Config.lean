import Landing.FileTree
import Landing.Ticket
import Landing.Toml.Document

/-! The configuration: how projects submit, and where hook and credentials are. -/
namespace Landing

open Datum (get? nullable? optional)

/-- How a project submits. -/
inductive SubmitType where
  | fastForwardOnly
  /-- The mirror takes each commit first. -/
  | mirrored
  deriving DecidableEq, Repr, Inhabited

namespace SubmitType

def tag : SubmitType → String
  | fastForwardOnly => "fast_forward_only"
  | mirrored => "fast_forward_with_external_sync"

def ofTag? (s : String) : Option SubmitType := [fastForwardOnly, mirrored].find? (·.tag == s)

def ofDatum? (l : Dialect) (d : Datum) : Option SubmitType := (d.tag? l).bind ofTag?

def toDatum (t : SubmitType) : Datum := .text t.tag

end SubmitType

/-- What the user's surroundings say about directories. -/
structure Environment where
  home : Option String := none
  configHome : Option String := none
  deriving DecidableEq, Repr, Inhabited

namespace Environment

/-- The home of the administrator, for users without another. -/
def fallbackHome : String := "/root"

/-- Where configuration is kept. A place that is not absolute does not count. -/
def configRoot (e : Environment) : String :=
  match e.configHome.filter Path.isAbsolute with
  | some dir => dir
  | none => Path.join ((e.home.filter (· ≠ "")).getD fallbackHome) ".config"

def configDir (e : Environment) : String := Path.join e.configRoot "ff-submit"

def configPath (e : Environment) : String := Path.join e.configDir "config.toml"

def credentialsPath (e : Environment) : String := Path.join e.configDir "credentials.toml"

end Environment

/-- The configuration. -/
structure Config where
  /-- The first group of this pattern is the ticket. -/
  ticketPattern : String := TicketMatcher.defaultPattern
  /-- For projects without an entry of their own. -/
  submitType : SubmitType := .fastForwardOnly
  /-- The program that takes a commit over to the mirror. -/
  hook : Option String := none
  credentials : Option String := none
  projects : Table String (Option SubmitType) := .empty
  deriving DecidableEq, Repr, Inhabited

namespace Config

/-- The configuration where none is given. -/
def default : Config := {}

/-- A section with a single path in it. -/
def section? (l : Dialect) (name : String) (d : Datum) : Option (Option String) := do
  let r ← d.record? l [optional name]
  get? r name none (nullable? Datum.text?)

def project? (l : Dialect) (d : Datum) : Option (Option SubmitType) := do
  let r ← d.record? l [optional "submit_type"]
  get? r "submit_type" none (nullable? (SubmitType.ofDatum? l))

def projects? (l : Dialect) : Datum → Option (Table String (Option SubmitType))
  | .fields entries =>
    (entries.mapM fun e => (project? l e.2).map fun t => (e.1, t)).map Table.ofList
  | _ => none

def ofDatum? (l : Dialect) (d : Datum) : Option Config := do
  let r ← d.record? l
    [optional "ticket_pattern", optional "default_submit_type", optional "hook",
     optional "credentials", optional "projects"]
  some ⟨← get? r "ticket_pattern" TicketMatcher.defaultPattern Datum.text?,
    ← get? r "default_submit_type" .fastForwardOnly (SubmitType.ofDatum? l),
    ← get? r "hook" none (section? l "external_sync"),
    ← get? r "credentials" none (section? l "path"),
    ← get? r "projects" .empty (projects? l)⟩

def toDatum (c : Config) : Datum :=
  .fields [("ticket_pattern", .text c.ticketPattern),
    ("default_submit_type", c.submitType.toDatum),
    ("hook", .fields [("external_sync", .ofOption .text c.hook)]),
    ("credentials", .fields [("path", .ofOption .text c.credentials)]),
    ("projects", .fields (c.projects.entries.map fun (name, t) =>
      (name, .fields [("submit_type", .ofOption SubmitType.toDatum t)])))]

/-- The matcher for the ticket pattern. -/
def tickets (c : Config) : Except Error TicketMatcher :=
  TicketMatcher.ofPattern c.ticketPattern

/-- A configuration is of use only if its ticket pattern is. -/
def checked (c : Config) : Except Error Config := c.tickets.map fun _ => c

/-- Reads a configuration from a text. -/
def parse (s : String) : Except Error Config :=
  match Toml.decode (ofDatum? .toml) s with
  | .error fault => .error (.config ("invalid TOML: " ++ fault.message))
  | .ok c => c.checked

/-- Reads a configuration from a file. Without the file the defaults hold. -/
def load (path : String) : Reading → Except Error Config
  | .absent => .ok default
  | .unreadable reason => .error (.config ("failed to read " ++ path ++ ": " ++ reason))
  | .text s =>
    match Toml.decode (ofDatum? .toml) s with
    | .error fault => .error (.config ("failed to parse " ++ path ++ ": " ++ fault.message))
    | .ok c => c.checked

/-- How a project submits. -/
def submitTypeOf (c : Config) (project : String) : SubmitType :=
  ((c.projects.get? project).bind id).getD c.submitType

/-- Where the credentials are. -/
def credentialsPath (c : Config) (e : Environment) : String :=
  c.credentials.getD e.credentialsPath

end Config

end Landing
