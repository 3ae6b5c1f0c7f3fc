import Landing.Git
import Landing.Repository.Object
import Landing.Repository.Refname

/-! Repositories whose objects and refs lie in loose files, as an instance of `Git`. Packs are not
looked into; what is shown of submissions holds of any repository that is as documented. -/
namespace Landing

/-- Where a repository is: as a path, and as the names on the way. A work tree may share objects and
refs with others. -/
structure Repository where
  path : String
  place : List String
  shared : List String := place
  deriving DecidableEq, Repr, Inhabited

namespace Repository

open Git (Finding Target)

/-! Opening. -/

/-- The path in a file, behind `lead` and without blanks at its end. -/
def pathIn? (files : FileTree) (place : List String) (lead : String) : Option String :=
  match files.file? place with
  | none => none
  | some f => (Text.stripLead? lead (Text.decodeLossy f.bytes)).map Text.trimEnd

/-- The text in front of the path to a repository. -/
def linkLead : String := "gitdir: "

/-- The place of a repository: that of a directory, or the one that a file names. -/
def linked? (files : FileTree) (place : List String) : Option (List String) :=
  match files.file? place with
  | none => some place
  | some _ =>
    ((pathIn? files place linkLead).filter (!·.isEmpty)).map (Path.locateIn place.dropLast)

/-- What a work tree at `place` shares with others. A directory that is opened itself has to know
its work tree. -/
def sharedPlace (files : FileTree) (direct : Bool) (place : List String) : List String :=
  match pathIn? files (place ++ ["commondir"]) "" with
  | none => place
  | some path =>
    if direct && (files.file? (place ++ ["gitdir"])).isNone then place
    else Path.locateIn place path

/-- The repository at a place, if there is one. It has a head, objects and refs. -/
def at? (files : FileTree) (path : String) (place : List String) : Option Repository :=
  match linked? files place with
  | none => none
  | some own =>
    let direct := own == place
    let shared := sharedPlace files direct own
    if (files.file? (own ++ ["HEAD"])).isSome && files.isDirectory (shared ++ ["objects"]) &&
        files.isDirectory (shared ++ ["refs"]) then
      some ⟨if direct then path else Path.ofPlace own, own, shared⟩
    else none

/-- The directory that keeps the repository of a work tree. -/
def inside : String := ".git"

/-- Opens the repository at a path. A directory that is no repository may have one inside. -/
def open? (files : FileTree) (directory path : String) : Option Repository :=
  let at? (path : String) : Option Repository :=
    at? files (Path.absolute directory path) (Path.locate directory path)
  let direct := ((Path.names path).getLast?.getD "").endsWith inside
  if path.isEmpty then none
  else (if direct then none else at? (Path.join path inside)) <|> at? path

/-- The places that files at a path name as the repository there. -/
def elsewhere (files : FileTree) (directory path : String) : List (List String) :=
  [Path.locate directory (Path.join path inside), Path.locate directory path].flatMap fun place =>
    match linked? files place with
    | none => []
    | some own => [own, sharedPlace files (own == place) own].filter (· ≠ place)

/-! Objects. -/

/-- Objects lie in directories named by the first two digits. -/
def objectPlace (r : Repository) (name : CommitId) : List String :=
  r.shared ++ ["objects", String.ofList (name.hex.toList.take 2),
    String.ofList (name.hex.toList.drop 2)]

/-- What is stored under a name. -/
def stored (r : Repository) (files : FileTree) (name : CommitId) : Finding Object :=
  match files.file? (r.objectPlace name) with
  | none => .missing
  | some f =>
    match Object.ofFile? f.bytes with
    | none => .damaged
    | some o => .found o

/-- As `stored`, but the empty tree is always there. -/
def object (r : Repository) (files : FileTree) (name : CommitId) : Finding Object :=
  if name = Object.emptyTreeName then .found Object.emptyTree else r.stored files name

/-- Puts an object where it belongs. -/
def addObject (r : Repository) (files : FileTree) (o : Object) : FileTree :=
  files.put (r.objectPlace o.id) ⟨o.toFile, false⟩

/-- The name of the object that a file is for. -/
def nameOfPlace? (r : Repository) (place : List String) : Option CommitId :=
  if r.shared.isPrefixOf place then
    match place.drop r.shared.length with
    | ["objects", lead, rest] => (Git.objectName? ⟨lead ++ rest⟩).filter (r.objectPlace · = place)
    | _ => none
  else none

/-- The names of all stored objects. -/
def names (r : Repository) (files : FileTree) : List CommitId :=
  files.files.keys.filterMap r.nameOfPlace?

/-! History. -/

/-- What is under a name, as the history sees it. -/
def content (r : Repository) (files : FileTree) (name : CommitId) : Finding Git.Content :=
  (r.object files name).map Object.content

/-- The parents of a stored commit. Its message need not be readable. -/
def parents? (r : Repository) (files : FileTree) (name : CommitId) : Option (List CommitId) :=
  match r.stored files name with
  | .found o => o.authored?.map (·.1)
  | _ => none

/-- All links of stored commits. -/
def size (r : Repository) (files : FileTree) : Nat :=
  Git.linkCount (r.names files) (r.content files)

/-- The commits that are found breadth first, each once. Nothing comes after one that cannot be
read. -/
def visits (r : Repository) (files : FileTree) :
    (fuel : Nat) → (seen queue : List CommitId) → List (Option CommitId)
  | 0, _, _ | _, _, [] => []
  | fuel + 1, seen, name :: rest =>
    if seen.contains name then r.visits files fuel seen rest
    else match r.parents? files name with
      | none => [none]
      | some ids => some name :: r.visits files fuel (name :: seen) (rest ++ ids)

/-! Refs. -/

/-- The text in front of the name of another ref. -/
def refLead : String := "ref: "

/-- What the file of a ref says, up to the end of its first line. -/
def targetOf? (bytes : List UInt8) : Option Target :=
  match Text.strip? refLead.toList (Text.decodeLossy bytes).toList with
  | some cs =>
    let name := String.ofList ((cs.dropWhile (· = ' ')).takeWhile fun c => c ≠ '\r' && c ≠ '\n')
    if Refname.isFull name then some (.ref name) else none
  | none =>
    let cs := (Text.charsOfBytes bytes).take 40
    if Object.isName cs then some (.object ⟨String.ofList cs⟩) else none

def refPlace (r : Repository) (name : String) : List String :=
  let (own, name) := Refname.location name
  (if own then r.place else r.shared) ++ Text.split '/' name

/-- The file of the first of some refs that is there. A file in the place of a directory on the way
is an error. -/
def refFile? (r : Repository) (files : FileTree) : List String → Option (Option File)
  | [] => some none
  | name :: names =>
    let place := r.refPlace name
    if files.isBlocked place.dropLast then none
    else match files.file? place with
      | some f => some (some f)
      | none => r.refFile? files names

/-- The ref that a name stands for. -/
def ref? (r : Repository) (files : FileTree) (name : String) : Finding Target :=
  if !Refname.isValid name then .damaged
  else match r.refFile? files (Refname.candidates name) with
    | none => .damaged
    | some none => .missing
    | some (some f) =>
      match targetOf? f.bytes with
      | some t => .found t
      | none => .damaged

/-- Refs may point at refs this often. -/
def patience : Nat := 4

/-- The object at the end of a chain of refs. -/
def follow? (r : Repository) (files : FileTree) : (fuel : Nat) → Target → Option CommitId
  | _, .object name => some name
  | 0, .ref _ => none
  | fuel + 1, .ref name =>
    match r.ref? files name with
    | .found t => r.follow? files fuel t
    | _ => none

/-- The object at the end of a chain of tags. -/
def peel? (r : Repository) (files : FileTree) : (fuel : Nat) → CommitId → Option CommitId
  | 0, _ => none
  | fuel + 1, name =>
    match r.stored files name with
    | .found o =>
      if o.kind = .tag then o.tagged?.bind (r.peel? files fuel) else some name
    | _ => none

/-- The object that a ref stands for in the end. -/
def objectOf? (r : Repository) (files : FileTree) (t : Target) : Option CommitId :=
  (r.follow? files patience t).bind (r.peel? files ((r.names files).length + 1))

/-- A file with the suffix of locks can be made beside that of a ref. -/
def isLockable (files : FileTree) (place : List String) : Bool :=
  let lock := place.dropLast ++ [place.getLast?.getD "" ++ Refname.lockSuffix]
  !files.isBlocked place.dropLast && !files.contains lock

/-- The ref itself holds what is expected. One that is not to exist may have the new value. -/
def holds (r : Repository) (files : FileTree) (name : String) (expected : Option CommitId)
    (new : CommitId) : Bool :=
  let held := (files.file? (r.refPlace name)).bind fun f => targetOf? f.bytes
  match expected with
  | some old => held = some (.object old)
  | none => held = none || held = some (.object new)

/-- Writes the file of a ref that holds what is expected, unless someone has locked it. The new
value need not be there. -/
def update (r : Repository) (files : FileTree) (name : String) (expected : Option CommitId)
    (new : CommitId) : Bool × FileTree :=
  let place := r.refPlace name
  if Refname.isFull name && isLockable files place && r.holds files name expected new &&
      !files.hasFilesBelow place then
    (true, files.replace place (Text.encode new.hex))
  else (false, files)

end Repository

end Landing
