import Landing.Text.Blank

/-! Paths to files, as texts with a slash between the names. -/
namespace Landing.Path

def isAbsolute (path : String) : Bool := Text.startsWith "/" path

/-- Whether a path can only be that of a directory. -/
def endsInSlash (path : String) : Bool := path.toList.getLast? = some '/'

/-- The path `name` seen from the directory `base`. -/
def join (base name : String) : String :=
  if isAbsolute name || base.isEmpty then name
  else if endsInSlash base then base ++ name
  else base ++ "/" ++ name

/-- The names on the way, with those that lead nowhere left out. -/
def names (path : String) : List String :=
  (Text.split '/' path).filter fun name => name ≠ "" && name ≠ "."

/-- Goes up where a name says so. -/
def resolve : (above : List String) → List String → List String
  | above, [] => above.reverse
  | above, name :: rest =>
    if name = ".." then resolve above.tail rest else resolve (name :: above) rest

/-- The names from the root down, seen from the directory `base`. -/
def locate (base path : String) : List String := resolve [] (names (join base path))

/-- As `locate`, seen from a directory whose names are known. -/
def locateIn (place : List String) (path : String) : List String :=
  resolve (if isAbsolute path then [] else place.reverse) (names path)

/-- The absolute path of a place. -/
def ofPlace (place : List String) : String := "/" ++ "/".intercalate place

/-- An absolute path, without the names that lead nowhere. -/
def absolute (base path : String) : String :=
  "/" ++ "/".intercalate (names (join base path)) ++ (if endsInSlash path then "/" else "")

/-- The directory that a path lies in. -/
def parent (path : String) : String :=
  let names := names path
  let lead := if isAbsolute path then "/" else ""
  lead ++ "/".intercalate names.dropLast

end Landing.Path
