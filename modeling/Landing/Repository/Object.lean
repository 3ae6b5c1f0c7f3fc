import Landing.Git
import Landing.Repository.Deflate
import Landing.Text.Digits
import Landing.Text.Utf8
import Landing.Text.Blank

/-! Stored objects: their form, their names, and what commits and tags say. -/
namespace Landing.Repository

inductive Kind where
  | commit
  | tree
  | blob
  | tag
  deriving DecidableEq, Repr, Inhabited

namespace Kind

def name : Kind → String
  | commit => "commit"
  | tree => "tree"
  | blob => "blob"
  | tag => "tag"

def ofName? (s : String) : Option Kind := [commit, tree, blob, tag].find? (·.name = s)

end Kind

/-- What is stored under a name. -/
structure Object where
  kind : Kind
  body : List UInt8
  deriving DecidableEq, Repr, Inhabited

namespace Object

/-- The bytes of an object: its kind and size, a zero, and the body. -/
def encode (o : Object) : List UInt8 :=
  Text.encode (o.kind.name ++ " " ++ toString o.body.length ++ "\x00") ++ o.body

def decode? (bytes : List UInt8) : Option Object :=
  let header := bytes.takeWhile (· ≠ 0)
  let body := bytes.drop (header.length + 1)
  match Text.split ' ' (Text.decodeLossy header) with
  | [kind, size] =>
    if Text.decimal? size = some body.length then (Kind.ofName? kind).map (⟨·, body⟩) else none
  | _ => none

/-- The file of an object. -/
def toFile (o : Object) : List UInt8 := Deflate.encode o.encode

def ofFile? (bytes : List UInt8) : Option Object := (Deflate.decode? bytes).bind decode?

/-- Objects are named by the digest of their bytes. -/
def id (o : Object) : CommitId := ⟨Digest.hex (Digest.sha1 o.encode)⟩

/-- The tree without entries. -/
def emptyTree : Object := ⟨.tree, []⟩

/-- The name of `emptyTree`. -/
def emptyTreeName : CommitId := ⟨"4b825dc642cb6eb9a060e54bf8d69288fbee4904"⟩

/-! Headers: lines with a name and a value, up to an empty line. -/

/-- The first line, if it ends, and the lines after it. -/
def line? (cs : List Char) : Option (List Char × List Char) :=
  match cs.dropWhile (· ≠ '\n') with
  | _ :: rest => some (cs.takeWhile (· ≠ '\n'), rest)
  | [] => none

/-- The value of the header `name`, if that is the first line, and the lines after it. -/
def header? (name : String) (cs : List Char) : Option (List Char × List Char) := do
  let (line, rest) ← line? cs
  let value ← Text.strip? (name.toList ++ [' ']) line
  some (value, rest)

def isLowerHex (c : Char) : Bool := ('0' ≤ c && c ≤ '9') || ('a' ≤ c && c ≤ 'f')

/-- Inside an object a name has forty digits in lower case. -/
def isName (cs : List Char) : Bool := cs.length = 40 && cs.all isLowerHex

/-- The value of a header that names an object. -/
def nameHeader? (name : String) (cs : List Char) : Option (CommitId × List Char) :=
  match header? name cs with
  | some (value, rest) => if isName value then some (⟨String.ofList value⟩, rest) else none
  | none => none

def isAsciiBlank (c : Char) : Bool :=
  c = ' ' || c = '\t' || c = '\n' || c = '\r' || c = '\x0c'

def isTimeMark (c : Char) : Bool :=
  c = '+' || c = '-' || c = ' ' || c = '\t' || Text.isDigitIn 10 c

/-- A person and a time: any name, a mail address in angle brackets, and what a time is written
with. The brackets are the first that opens and the last that closes; those inside count for the
address only if something is left between them. -/
def isSignature (cs : List Char) : Bool :=
  let time := cs.reverse.takeWhile (· ≠ '>')
  let person := ((cs.reverse.dropWhile (· ≠ '>')).drop 1).reverse
  let mail := person.dropWhile (· ≠ '<')
  let opening := mail.takeWhile fun c => c = '<' || isAsciiBlank c
  let closing := mail.reverse.takeWhile fun c => c = '>' || isAsciiBlank c
  cs.contains '>' && mail ≠ [] && opening.length + closing.length ≤ mail.length &&
    time.all isTimeMark

/-- The parents, and the lines after them. -/
def parentsFrom : (fuel : Nat) → List Char → List CommitId × List Char
  | 0, cs => ([], cs)
  | fuel + 1, cs =>
    match nameHeader? "parent" cs with
    | none => ([], cs)
    | some (id, rest) =>
      let (ids, rest) := parentsFrom fuel rest
      (id :: ids, rest)

/-- A name and a value. -/
def isHeader (line : List Char) : Bool :=
  match line.takeWhile (· ≠ ' '), line.dropWhile (· ≠ ' ') with
  | _ :: _, _ :: _ :: _ => true
  | _, _ => false

/-- The lines after headers of any name. A line that begins with a blank goes on with the header
above it. -/
def skipHeaders : (fuel : Nat) → (inHeader : Bool) → List Char → List Char
  | 0, _, cs => cs
  | fuel + 1, inHeader, cs =>
    match line? cs with
    | none => cs
    | some (line, rest) =>
      if isHeader line || (inHeader && line.head? = some ' ') then skipHeaders fuel true rest
      else cs

def text (o : Object) : List Char := Text.charsOfBytes o.body

/-- The tree of a commit, its parents, and the lines after them. -/
def links? (o : Object) : Option (CommitId × List CommitId × List Char) := do
  if o.kind ≠ .commit then none
  else
    let (tree, rest) ← nameHeader? "tree" o.text
    let (parents, rest) := parentsFrom rest.length rest
    some (tree, parents, rest)

/-- What `links?` says if the author comes next. -/
def authored? (o : Object) : Option (List CommitId × List Char) := do
  let (_, parents, rest) ← o.links?
  let (author, rest) ← header? "author" rest
  if isSignature author then some (parents, rest) else none

/-- The message: what comes after the empty line below the headers. -/
def message? (cs : List Char) : Option (List Char) := do
  let (committer, rest) ← header? "committer" cs
  if !isSignature committer then none
  else
    let rest := match header? "encoding" rest with
      | some (_ :: _, rest) => rest
      | _ => rest
    match skipHeaders rest.length false rest with
    | '\n' :: message => some message
    | _ => none

/-- What the history sees of an object: of a commit the parents, as far as they can be made out, and
the message if all is well above it. -/
def content (o : Object) : Git.Content :=
  if o.kind = .commit then
    .commit ((o.links?.map fun (_, parents, _) => parents).getD []) do
      let (_, rest) ← o.authored?
      some (Text.bytesOfChars (← message? rest))
  else .other

/-- What a tag names. -/
def tagged? (o : Object) : Option CommitId :=
  if o.kind = .tag then (nameHeader? "object" o.text).map (·.1) else none

/-- The seconds at which a commit was committed, none at all if its committer cannot be read. -/
def committed? (o : Object) : Option Nat := do
  let (_, rest) ← o.authored?
  let (committer, _) ← header? "committer" rest
  if !isSignature committer then none
  else
    let time := (committer.reverse.takeWhile (· ≠ '>')).reverse
    let seconds := (time.dropWhile (· = ' ')).takeWhile (· ≠ ' ')
    some ((Text.decimal? (String.ofList seconds)).getD 0)

/-- The lines below the first empty line. -/
def belowHeaders : List Char → List Char
  | '\n' :: '\n' :: rest => rest
  | _ :: rest => belowHeaders rest
  | [] => []

end Object

end Landing.Repository
