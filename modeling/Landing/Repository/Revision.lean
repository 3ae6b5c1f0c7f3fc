import Landing.Repository

/-! Expressions that name a commit: a name, and steps from there into the history. With them loose
files answer all that a repository is asked. -/
namespace Landing.Repository

/-- A step from one object to another. -/
inductive Step where
  /-- The parent with this number, counted from one. -/
  | parent (n : Nat)
  /-- So many first parents back. -/
  | ancestor (n : Nat)
  /-- Down tags and commits to an object of a kind. -/
  | peel (k : Kind)
  /-- Down tags to what is none. -/
  | untag
  /-- To the object itself, which has to be there. -/
  | stay
  /-- To the youngest commit from here whose message holds a text, or does not. -/
  | search (text : List Char) (holds : Bool)
  deriving DecidableEq, Repr

inductive Revision where
  | path (name : String) (steps : List Step)
  /-- The youngest commit in reach of any ref whose message holds a text, or does not. -/
  | message (text : List Char) (holds : Bool)
  deriving DecidableEq, Repr

namespace Revision

/-- Whether the name ends in front of `c`, given what comes after `c`. -/
def isEnd (c : Char) (rest : List Char) : Bool :=
  match c, rest with
  | '~', _ | '^', _ | ':', _ | '.', '.' :: _ => true
  | '@', [] | '@', '.' :: '.' :: _ => true
  | '@', d :: _ => d = '\x7b' || d = '^' || d = ':' || d = '~'
  | _, _ => false

/-- The name in front, and the rest. -/
def splitName : List Char → List Char × List Char
  | [] => ([], [])
  | c :: rest =>
    if isEnd c rest then ([], c :: rest)
    else
      let (name, rest) := splitName rest
      (c :: name, rest)

/-- Reads up to the brace that closes. A backslash takes away the meaning of the next brace. -/
def braced? : (depth : Nat) → List Char → Option (List Char × List Char)
  | _, [] => none
  | depth, '\\' :: c :: rest =>
    if c = '\x7b' || c = '\x7d' || c = '\\' then
      (braced? depth rest).map fun (inner, rest) => (c :: inner, rest)
    else (braced? depth rest).map fun (inner, rest) => ('\\' :: c :: inner, rest)
  | depth, c :: rest =>
    let more (depth : Nat) := (braced? depth rest).map fun (inner, rest) => (c :: inner, rest)
    if c = '\x7d' then
      match depth with
      | 0 => some ([], rest)
      | depth + 1 => more depth
    else more (if c = '\x7b' then depth + 1 else depth)

/-- The text that a message is to hold, or not to hold, as written after a slash. -/
def messageText? : List Char → Option (List Char × Bool)
  | '!' :: '!' :: rest => some ('!' :: rest, true)
  | '!' :: '-' :: rest => some (rest, false)
  | '!' :: _ => none
  | text => some (text, true)

/-- The step to a message. Without a text no step is taken. -/
def search? (text : List Char) : Option (List Step) :=
  (messageText? text).map fun (text, holds) => if text.isEmpty then [] else [.search text holds]

/-- What stands in braces after a caret. -/
def inBraces? (inner : List Char) : Option (List Step) :=
  match inner with
  | [] => some [.untag]
  | '/' :: text => search? text
  | inner =>
    match Kind.ofName? (String.ofList inner) with
    | some k => some [.peel k]
    | none => if String.ofList inner = "object" then some [.stay] else none

/-- A number, one if there is none. -/
def count (digits : List Char) : Nat := if digits.isEmpty then 1 else Text.ofDigits 10 digits

/-- Reads steps to the end. -/
def steps? : (fuel : Nat) → List Char → Option (List Step)
  | _, [] => some []
  | 0, _ :: _ => none
  | fuel + 1, c :: rest =>
    let digits := rest.takeWhile (Text.isDigitIn 10)
    let after := rest.dropWhile (Text.isDigitIn 10)
    let n := count digits
    match c with
    | '~' => (steps? fuel after).map ((if n = 0 then [] else [.ancestor n]) ++ ·)
    | '^' =>
      match rest with
      | '-' :: _ | '!' :: _ | '@' :: _ => none
      | '\x7b' :: rest => do
        let (inner, rest) ← braced? 0 rest
        let step ← inBraces? inner
        (steps? fuel rest).map (step ++ ·)
      | _ => (steps? fuel after).map ((if n = 0 then .peel .commit else .parent n) :: ·)
    | _ => none

/-- Reads an expression for a commit. The sign for the head may stand in place of a name; ranges,
paths and earlier values of refs are not for a commit. A text to look for takes all that follows,
steps too. -/
def parse? (s : String) : Option Revision :=
  match splitName s.toList with
  | ([], ':' :: '/' :: text) =>
    (messageText? text).map fun (text, holds) => .message text holds
  | (name, rest) =>
    let start : Option (String × List Char) :=
      match name, rest with
      | [], '@' :: '\x7b' :: _ => none
      | [], '@' :: rest => some ("HEAD", rest)
      | [], _ => none
      | _, rest => some (String.ofList name, rest)
    start.bind fun (name, rest) => (steps? (rest.length + 1) rest).map (.path name)

/-- An abbreviated name of an object has at least this many digits. -/
def shortest : Nat := 4

def isAbbreviation (cs : List Char) : Bool :=
  shortest ≤ cs.length && cs.length ≤ 40 && cs.all CommitId.isHexDigit

/-- The abbreviation at the end of a description: after a dash, behind the letter for its kind. -/
def described? (cs : List Char) : Option (List Char) :=
  let pieces := (Text.splitAt '-' cs).reverse
  let isLast (piece : List Char) : Bool :=
    match piece with
    | 'g' :: digits => digits.all CommitId.isHexDigit
    | _ => false
  match pieces.dropWhile (!isLast ·) with
  | ('g' :: digits) :: before => if before.any (!·.isEmpty) then some digits else none
  | _ => none

/-- The abbreviation in front of a single dash. -/
def marked? (cs : List Char) : Option (List Char) :=
  match Text.splitAt '-' cs with
  | [digits, _] => if digits.all CommitId.isHexDigit then some digits else none
  | _ => none

end Revision

open Revision

/-- The objects that an abbreviation can stand for. -/
def abbreviated (r : Repository) (files : FileTree) (digits : List Char) : List CommitId :=
  let lead := digits.map Char.toLower
  if CommitId.mk (String.ofList lead) = Object.emptyTreeName then [Object.emptyTreeName]
  else (r.names files).filter fun name => lead.isPrefixOf name.hex.toList

/-- The object or, at the end of refs, the objects that a ref stands for. -/
def refObject? (r : Repository) (files : FileTree) (name : String) : Option CommitId :=
  match r.ref? files name with
  | .found (.object name) => some name
  | .found t => r.objectOf? files t
  | _ => none

/-- The objects that an abbreviation stands for. A ref of this name comes first, except before a
name in full. -/
def byDigits (r : Repository) (files : FileTree) (digits : List Char) : List CommitId :=
  if !isAbbreviation digits then []
  else
    let found := r.abbreviated files digits
    let named := r.ref? files (String.ofList (digits.map Char.toLower))
    match found, named with
    | [], _ => []
    | _, .found _ =>
      if digits.length = 40 then found
      else (r.refObject? files (String.ofList (digits.map Char.toLower))).toList
    | _, _ => found

/-- The objects that a name can stand for: by its digits, by those in a description, as a ref. -/
def named (r : Repository) (files : FileTree) (name : String) : List CommitId :=
  let cs := name.toList
  let byDescription (digits? : List Char → Option (List Char)) : List CommitId :=
    ((digits? cs).map (r.byDigits files)).getD []
  match r.byDigits files cs, byDescription described?, byDescription marked? with
  | [], [], [] => (r.refObject? files name).toList
  | [], [], found | [], found, _ | found, _, _ => found

/-- The parents of a commit, as far as they can be made out. -/
def parentsOf (r : Repository) (files : FileTree) (name : CommitId) : List CommitId :=
  match r.object files name with
  | .found o => (o.links?.map fun (_, parents, _) => parents).getD []
  | _ => []

/-- Goes back along first parents. The commit at the end has to be readable. -/
def ancestor? (r : Repository) (files : FileTree) : (n : Nat) → CommitId → Option CommitId
  | 0, name =>
    match r.parentsOf files name with
    | _ :: _ => some name
    | [] => (r.parents? files name).map fun _ => name
  | n + 1, name => (r.parentsOf files name).head?.bind (r.ancestor? files n)

/-- Goes down tags, and from commits to trees, to an object of a kind. -/
def peelTo? (r : Repository) (files : FileTree) (k : Kind) : (fuel : Nat) → CommitId →
    Option CommitId
  | 0, _ => none
  | fuel + 1, name =>
    match r.object files name with
    | .found o =>
      if o.kind = k then some name
      else match o.kind with
        | .tag => o.tagged?.bind (r.peelTo? files k fuel)
        | .commit => o.links?.bind fun (tree, _, _) => r.peelTo? files k fuel tree
        | _ => none
    | _ => none

/-- When a commit was committed; long ago if that cannot be read. -/
def age (r : Repository) (files : FileTree) (name : CommitId) : Nat :=
  match r.stored files name with
  | .found o => o.committed?.getD 0
  | _ => 0

/-- A text begins somewhere in another. -/
def occurs (part : List Char) : List Char → Bool
  | [] => part.isEmpty
  | c :: rest => part.isPrefixOf (c :: rest) || occurs part rest

/-- Whether a text stands below the headers of a commit. -/
def holdsText (r : Repository) (files : FileTree) (text : List Char) (name : CommitId) : Bool :=
  match r.stored files name with
  | .found o =>
    occurs (Text.charsOfBytes (Text.encode (String.ofList text))) (Object.belowHeaders o.text)
  | _ => false

/-- A commit whose committer can be read. -/
def isDated (r : Repository) (files : FileTree) (name : CommitId) : Bool :=
  match r.stored files name with
  | .found o => o.committed?.isSome
  | _ => false

/-- Looks at commits, the youngest of those in reach first, and counts those that cannot be read. -/
def searchFrom (r : Repository) (files : FileTree) (text : List Char) (holds : Bool) :
    (fuel faults : Nat) → (seen : List CommitId) → List CommitId → Option CommitId × Nat
  | 0, faults, _, _ | _, faults, _, [] => (none, faults)
  | fuel + 1, faults, seen, first :: rest =>
    let next := rest.foldl (fun a b => if r.age files a < r.age files b then b else a) first
    let others := (first :: rest).filter (· ≠ next)
    match r.parents? files next with
    | none => r.searchFrom files text holds fuel (faults + 1) seen others
    | some ids =>
      if r.holdsText files text next = holds then (some next, faults)
      else
        let new := (ids.filter (!seen.contains ·)).eraseDups
        r.searchFrom files text holds fuel faults (new ++ seen) (others ++ new)

/-- Looks at commits from some on, all of which have to be dated. -/
def searchMessages (r : Repository) (files : FileTree) (text : List Char) (holds : Bool)
    (starts : List CommitId) : Option CommitId × Nat :=
  if starts.all (r.isDated files) then
    r.searchFrom files text holds (r.size files + starts.length + 1) 0 starts starts
  else (none, 0)

/-- Takes a step, and counts what goes wrong on the way. -/
def step (r : Repository) (files : FileTree) (s : Step) (name : CommitId) :
    Option CommitId × Nat :=
  let depth := (r.names files).length + 2
  let counted (found : Option CommitId × Nat) : Option CommitId × Nat :=
    (found.1, if found.1.isSome then found.2 else found.2 + 1)
  match s with
  | .parent n => counted ((r.parentsOf files name)[n - 1]?, 0)
  | .ancestor n => counted (r.ancestor? files n name, 0)
  | .peel k => counted (r.peelTo? files k depth name, 0)
  | .untag => counted (r.peel? files depth name, 0)
  | .stay =>
    match r.object files name with
    | .found _ => (some name, 0)
    | _ => (none, 1)
  | .search text holds => counted (r.searchMessages files text holds [name])

/-- Takes a step from each object that an expression can still stand for. As many mistakes as
objects are too many. -/
def stepAll (r : Repository) (files : FileTree) (names : List CommitId) (s : Step) :
    List CommitId :=
  let found := names.map (r.step files s)
  if found.foldl (fun n f => n + f.2) 0 = names.length then []
  else (found.filterMap (·.1)).eraseDups

/-- The commits that refs stand for. -/
def tips (r : Repository) (files : FileTree) : List CommitId :=
  let root := r.shared ++ ["refs"]
  let places := files.files.keys.filter root.isPrefixOf
  let commits := places.filterMap fun place =>
    let name := "/".intercalate (place.drop r.shared.length)
    match r.ref? files name with
    | .found t => (r.objectOf? files t).filter fun id => (r.peelTo? files .commit 1 id).isSome
    | _ => none
  commits.eraseDups

/-- The objects that an expression can stand for. -/
def meant (r : Repository) (files : FileTree) : Revision → List CommitId
  | .path name steps => steps.foldl (r.stepAll files) (r.named files name)
  | .message text holds => (r.searchMessages files text holds (r.tips files)).1.toList

/-- The object that an expression stands for, if it is one. -/
def resolve? (r : Repository) (files : FileTree) (s : String) : Option CommitId :=
  match (Revision.parse? s).map (r.meant files) with
  | some [id] => some id
  | _ => none

/-- The repository as its files answer for it. -/
def git (r : Repository) : Git where
  path := r.path
  object := r.content
  names := r.names
  walk files name := some (r.visits files (r.size files + 1) [] [name])
  ref? := r.ref?
  peel? := r.objectOf?
  resolve? := r.resolve?
  update := r.update

/-- Opens repositories with loose files. -/
def opener : Git.Opener := fun files directory path => (open? files directory path).map git

end Landing.Repository
