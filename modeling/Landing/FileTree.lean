import Landing.Path
import Landing.Table
import Landing.Text.Utf8

/-! Files and directories. -/
namespace Landing

/-- What a file holds, and whether it may be run. -/
structure File where
  bytes : List UInt8
  executable : Bool := false
  deriving DecidableEq, Repr, Inhabited

/-- What comes of reading a file as a text. -/
inductive Reading where
  | absent
  | unreadable (reason : String)
  | text (s : String)
  deriving DecidableEq, Repr, Inhabited

/-- Files by the names on the way down from the root, and directories that were made. -/
structure FileTree where
  files : Table (List String) File := .empty
  made : List (List String) := []
  deriving DecidableEq, Repr, Inhabited

namespace FileTree

def file? (t : FileTree) (place : List String) : Option File := t.files.get? place

/-- Some file lies below. -/
def hasFilesBelow (t : FileTree) (place : List String) : Bool :=
  t.files.keys.any fun k => k ≠ place && place.isPrefixOf k

/-- A directory was made, or something lies below it. -/
def isDirectory (t : FileTree) (place : List String) : Bool :=
  place.isEmpty || t.made.any (place.isPrefixOf ·) || t.hasFilesBelow place

def contains (t : FileTree) (place : List String) : Bool :=
  (t.file? place).isSome || t.isDirectory place

/-- Some name on the way down is that of a file. -/
def isBlocked (t : FileTree) (place : List String) : Bool :=
  t.files.keys.any (·.isPrefixOf place)

/-- Reads a file as a text. -/
def readText (t : FileTree) (place : List String) : Reading :=
  match t.file? place with
  | some f =>
    match Text.decode? f.bytes with
    | some s => .text s
    | none => .unreadable "stream did not contain valid UTF-8"
  | none => if t.isDirectory place then .unreadable "Is a directory (os error 21)" else .absent

/-- Reads the file at a path, as seen from the directory `base`. -/
def readPath (t : FileTree) (base path : String) : Reading :=
  let place := Path.locate base path
  if path.isEmpty || (Path.endsInSlash path && (t.file? place).isSome) then .absent
  else t.readText place

/-- Makes a directory and those on the way to it. -/
def makeDirectory (t : FileTree) (place : List String) : Except String FileTree :=
  if t.isBlocked place then .error "Not a directory (os error 20)"
  else .ok { t with made := place :: t.made }

/-- Writes a file into a directory that is there; a file that is there stays runnable or not. -/
def write (t : FileTree) (place : List String) (bytes : List UInt8) : Except String FileTree :=
  if t.isDirectory place then .error "Is a directory (os error 21)"
  else if t.isDirectory place.dropLast then
    let executable := ((t.file? place).map (·.executable)).getD false
    .ok { t with files := t.files.insert place ⟨bytes, executable⟩ }
  else .error "No such file or directory (os error 2)"

/-- Writes the file at a path, as seen from the directory `base`. -/
def writePath (t : FileTree) (base path : String) (bytes : List UInt8) :
    Except String FileTree :=
  if path.isEmpty then .error "No such file or directory (os error 2)"
  else if Path.endsInSlash path then .error "Is a directory (os error 21)"
  else t.write (Path.locate base path) bytes

/-- Puts a file where it belongs, with the directories on the way. -/
def put (t : FileTree) (place : List String) (f : File) : FileTree :=
  { t with files := t.files.insert place f }

/-- Puts a file in the place of empty directories. -/
def replace (t : FileTree) (place : List String) (bytes : List UInt8) : FileTree :=
  ⟨t.files.insert place ⟨bytes, false⟩, t.made.filter (!place.isPrefixOf ·)⟩

/-- Removes a file; the directory it lay in stays. -/
def remove (t : FileTree) (place : List String) : FileTree :=
  ⟨t.files.erase place, place.dropLast :: t.made⟩

/-- The names directly below a directory. -/
def list (t : FileTree) (place : List String) : List String :=
  ((t.files.keys ++ t.made).filterMap fun k =>
    if place.isPrefixOf k then k[place.length]? else none).eraseDups

end FileTree

end Landing
