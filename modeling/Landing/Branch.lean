import Landing.Text.Blank

/-! Branches of a project. -/
namespace Landing

/-- Where the refs of branches live. -/
def branchSpace : String := "refs/heads/"

/-- A destination: a project and the full name of a ref in it. -/
structure Branch where
  project : String
  name : String
  deriving DecidableEq, Repr

namespace Branch

/-- A name that is no full ref name is the short name of a branch. -/
def named (project name : String) : Branch :=
  ⟨project, if Text.startsWith "refs/" name then name else branchSpace ++ name⟩

def shortName? (b : Branch) : Option String := Text.stripLead? branchSpace b.name

def display (b : Branch) : String := b.project ++ ":" ++ b.name

/-- Top-level branches are mirrored; branches with a slash in their short name and refs outside
the space of branches are not. -/
def isMirrored (ref : String) : Bool :=
  match Text.strip? branchSpace.toList ref.toList with
  | some short => !short.isEmpty && !short.contains '/'
  | none => false

end Branch

end Landing
