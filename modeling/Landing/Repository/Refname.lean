import Landing.Text.Blank

/-! Names of refs. -/
namespace Landing.Repository.Refname

/-- Characters that no name holds. -/
def isForbidden (c : Char) : Bool :=
  "\\^:[? ~*".toList.contains c || c.toNat < 0x20 || c = '\x7f'

/-- Two characters follow on each other somewhere. -/
def hasPair (a b : Char) (cs : List Char) : Bool := (cs.zip cs.tail).contains (a, b)

def lockSuffix : String := ".lock"

/-- What stands between slashes. -/
def isPart (part : String) : Bool :=
  part ≠ "" && part.toList.head? ≠ some '.' && !part.endsWith lockSuffix

/-- Names of refs, in full or in part. -/
def isValid (name : String) : Bool :=
  let cs := name.toList
  (Text.split '/' name).all isPart && !cs.any isForbidden && !hasPair '.' '.' cs &&
    !hasPair '@' '\x7b' cs && cs.getLast? ≠ some '.'

/-- Names as that of the head, outside the space of refs. -/
def isTopLevel (name : String) : Bool :=
  name.toList.all fun c => ('A' ≤ c && c ≤ 'Z') || c = '_'

/-- Names that say where a ref is. -/
def isFull (name : String) : Bool :=
  isValid name && (name.toList.contains '/' || isTopLevel name)

/-- The refs that each work tree has for itself. -/
def isPrivate (name : String) : Bool :=
  isTopLevel name ||
    ["refs/bisect/", "refs/worktree/", "refs/rewritten/"].any (Text.startsWith · name)

/-- The name of the main work tree, in front of names of refs. -/
def mainLead : String := "main-worktree/"

/-- The space of other work trees, each with a name, in front of names of refs. -/
def linkedLead : String := "worktrees/"

/-- Names in which a work tree stands in front of the name of a ref. -/
def hasWorkTree (name : String) : Bool :=
  Text.startsWith mainLead name || Text.startsWith linkedLead name

/-- Where a ref is kept: by the work tree itself or by all together, and under which name. Work
trees share what is not private. -/
def location (name : String) : Bool × String :=
  match Text.stripLead? mainLead name, Text.stripLead? linkedLead name with
  | some ref, _ =>
    (false, if Text.startsWith "refs/" ref || isTopLevel ref then ref else name)
  | none, some tree =>
    let ref := String.ofList ((tree.toList.dropWhile (· ≠ '/')).drop 1)
    (false, if Text.startsWith "refs/" ref && !isPrivate ref then ref else name)
  | none, none => (isPrivate name, name)

/-- Where refs without a full name are looked for, in this order. -/
def spaces : List String := ["", "tags/", "heads/", "remotes/"]

/-- The full names that a name can stand for, the first that is there counts. -/
def candidates (name : String) : List String :=
  let below (root : String) : List String := spaces.map fun space => root ++ space ++ name
  let root := if Text.startsWith "refs/" name || hasWorkTree name then "" else "refs/"
  (if isTopLevel name then name :: below root else below root) ++
    (if name = "HEAD" then [] else [root ++ "remotes/" ++ name ++ "/HEAD"])

end Landing.Repository.Refname
