import Landing.History
import Landing.RefUpdate
import Landing.Table

/-! A commit graph with refs, held in memory. -/
namespace Landing

/-- Commits, refs and the commits whose objects are corrupt. -/
structure Graph where
  path : String
  commits : Table CommitId Commit := .empty
  refs : Table String CommitId := .empty
  corrupt : List CommitId := []
  deriving DecidableEq, Repr

namespace Graph

def addCommit (g : Graph) (id : CommitId) (parents : List CommitId) (message : String) : Graph :=
  { g with commits := g.commits.insert id ⟨id, parents, message⟩ }

def setRef (g : Graph) (name : String) (id : CommitId) : Graph :=
  { g with refs := g.refs.insert name id }

def corruptCommit (g : Graph) (id : CommitId) : Graph := { g with corrupt := id :: g.corrupt }

def read (g : Graph) (id : CommitId) : Except Error Commit :=
  if g.corrupt.contains id then .error (.corruptObject id)
  else match g.commits.get? id with
    | some c => .ok c
    | none => .error (.missingObject id)

/-- One for each commit, and one for each of its parents. -/
def size (g : Graph) : Nat := (g.commits.values.flatMap fun c => c.id :: c.parents).length

def history (g : Graph) : History := .ofReader g.size g.read

def readRef (g : Graph) (name : String) : Option CommitId := g.refs.get? name

/-- Moves a ref that holds what is expected. -/
def compareAndSwap (g : Graph) (name : String) (expected : Option CommitId) (new : CommitId) :
    RefUpdate × Graph :=
  let actual := g.readRef name
  if actual = expected then (.updated, g.setRef name new) else (.lockFailure actual, g)

end Graph

end Landing
