import Landing.FileTree
import Landing.History
import Landing.RefUpdate

/-! Repositories as a library answers for them, and what submissions make of the answers. How a
repository is stored, in loose files or in packs, is left to the library. -/
namespace Landing

namespace Git

/-- What comes of looking something up. -/
inductive Finding (α : Type) where
  | missing
  /-- What is there cannot be read. -/
  | damaged
  | found (a : α)
  deriving DecidableEq, Repr

def Finding.map {α β : Type} (f : α → β) : Finding α → Finding β
  | missing => missing
  | damaged => damaged
  | found a => found (f a)

/-- What an object is to the history. -/
inductive Content where
  /-- There is no message in a commit that is malformed. -/
  | commit (parents : List CommitId) (message : Option (List UInt8))
  | other
  deriving DecidableEq, Repr

/-- What a ref points at. -/
inductive Target where
  | object (name : CommitId)
  | ref (name : String)
  deriving DecidableEq, Repr

end Git

/-- An opened repository. Questions are answered for the files as they are at the time. -/
structure Git where
  path : String
  object : FileTree → CommitId → Git.Finding Git.Content
  /-- The names of all objects. They say how far a search can go. -/
  names : FileTree → List CommitId
  /-- The commits from one on, each in its turn, and `none` in the place of one that cannot be
  read. A walk need not begin at all. -/
  walk : FileTree → CommitId → Option (List (Option CommitId))
  ref? : FileTree → String → Git.Finding Git.Target
  /-- The object at the end of a chain of refs and tags. -/
  peel? : FileTree → Git.Target → Option CommitId
  /-- The object that a revision expression stands for. -/
  resolve? : FileTree → String → Option CommitId
  /-- Lets a ref name an object if it is as expected, and says whether that went well. -/
  update : FileTree → (name : String) → (expected : Option CommitId) → (new : CommitId) →
    Bool × FileTree

namespace Git

/-- Opens the repository at a path, as seen from a directory, if there is one. -/
def Opener := FileTree → (directory path : String) → Option Git

def Opener.repository (o : Opener) (files : FileTree) (directory path : String) :
    Except Error Git :=
  match o files directory path with
  | some g => .ok g
  | none => .error (.git (path ++ " is not a git repository"))

/-- The repository as shown to developers. -/
def summary (g : Git) : String :=
  "GitRepository \x7b git_dir: " ++ Text.quoted g.path ++ ", .. \x7d"

/-! Objects. -/

/-- Full names of objects have forty digits; they are kept in lower case. -/
def objectName? (id : CommitId) : Option CommitId :=
  if id.hex.length = 40 && id.hex.toList.all CommitId.isHexDigit then some (.normal id.hex)
  else none

def objectName (id : CommitId) : Except Error CommitId :=
  match objectName? id with
  | some name => .ok name
  | none => .error (.graph ("invalid object id " ++ id.hex))

/-- Reads a commit. The name is kept as it was given. -/
def read (g : Git) (files : FileTree) (id : CommitId) : Except Error Commit := do
  match g.object files (← objectName id) with
  | .missing => .error (.missingObject id)
  | .damaged => .error (.graph ("cannot read " ++ id.hex))
  | .found .other => .error (.graph (id.hex ++ " is not a commit"))
  | .found (.commit _ none) => .error (.graph ("malformed commit " ++ id.hex))
  | .found (.commit parents (some message)) => .ok ⟨id, parents, Text.decodeLossy message⟩

/-! History. -/

/-- Whether a walk comes to `target`, if it does not fail before. -/
def meets? (target : CommitId) : List (Option CommitId) → Option Bool
  | [] => some false
  | none :: _ => none
  | some name :: rest => if name = target then some true else meets? target rest

/-- A commit is an ancestor of itself, whether it can be read or not. -/
def isAncestor (g : Git) (files : FileTree) (ancestor descendant : CommitId) :
    Except Error Bool :=
  if ancestor = descendant then .ok true
  else do
    let target ← objectName ancestor
    match g.walk files (← objectName descendant) with
    | none => .error (.graph ("cannot walk from " ++ descendant.hex))
    | some visits =>
      match meets? target visits with
      | some met => .ok met
      | none => .error (.graph ("walk from " ++ descendant.hex ++ " failed"))

/-- The links of a commit, one of them for itself. -/
def links (object : CommitId → Finding Content) (name : CommitId) : List CommitId :=
  match object name with
  | .found (.commit parents _) => name :: parents
  | _ => []

def linkCount (names : List CommitId) (object : CommitId → Finding Content) : Nat :=
  (names.flatMap (links object)).length

/-- The history as the files tell it. -/
def history (g : Git) (files : FileTree) : History where
  size := linkCount (g.names files) (g.object files)
  read := g.read files
  isAncestor := g.isAncestor files

/-! Refs. -/

/-- The value of a ref. -/
def readRef (g : Git) (files : FileTree) (name : String) : Except Error (Option CommitId) :=
  match g.ref? files name with
  | .missing => .ok none
  | .damaged => .error (.git ("cannot read " ++ name))
  | .found t =>
    match g.peel? files t with
    | some id => .ok (some id)
    | none => .error (.git ("cannot peel " ++ name))

/-- Moves a ref that holds what is expected. One that cannot be moved though it does is an error. -/
def moveRef (g : Git) (files : FileTree) (name : String) (expected : Option CommitId)
    (new : CommitId) : Except Error RefUpdate × FileTree :=
  match (do return (← expected.mapM objectName, ← objectName new) : Except Error _) with
  | .error e => (.error e, files)
  | .ok (held, value) =>
    match g.update files name held value with
    | (true, files) => (.ok .updated, files)
    | (false, files) =>
      match g.readRef files name with
      | .error e => (.error e, files)
      | .ok actual =>
        if actual = expected then (.error (.git ("cannot update " ++ name)), files)
        else (.ok (.lockFailure actual), files)

/-! Expressions. -/

/-- What is put behind every expression, so that it stands for a commit. -/
def toCommit : String := "^\x7bcommit\x7d"

/-- The commit that an expression stands for. -/
def resolve (g : Git) (files : FileTree) (s : String) : Except Error CommitId :=
  match g.resolve? files (s ++ toCommit) with
  | some id => .ok id
  | none => .error (.git ("cannot resolve " ++ s))

end Git

end Landing
