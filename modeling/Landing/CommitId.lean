import Landing.Text.Quoted

/-! Names of commits. -/
namespace Landing

/-- The name of a commit, usually its full hexadecimal object name. -/
structure CommitId where
  hex : String
  deriving DecidableEq, Repr, Inhabited

namespace CommitId

/-- Names are compared in lower case. -/
def normal (hex : String) : CommitId := ⟨Text.lowerAscii hex⟩

instance : ToString CommitId := ⟨hex⟩

/-- The digits of an object name, in either case. -/
def isHexDigit (c : Char) : Bool :=
  ('0' ≤ c && c ≤ '9') || ('a' ≤ c && c ≤ 'f') || ('A' ≤ c && c ≤ 'F')

/-- A full object name has 40 or 64 hexadecimal digits. -/
def isObjectName (s : String) : Bool :=
  let cs := s.toList
  (cs.length == 40 || cs.length == 64) && cs.all isHexDigit

/-- The commit that a text names, blanks around the name aside. -/
def parse? (s : String) : Option CommitId :=
  let name := Text.trim s
  if isObjectName name then some (normal name) else none

/-- The characters in the first `n` bytes, if a character ends there. -/
def takeBytes? : Nat → List Char → Option (List Char)
  | _, [] => some []
  | n, c :: rest =>
    if n = 0 then some []
    else if c.utf8Size ≤ n then (takeBytes? (n - c.utf8Size) rest).map (c :: ·)
    else none

/-- The first eight bytes of the name. -/
def short? (id : CommitId) : Option String := (takeBytes? 8 id.hex.toList).map String.ofList

/-- The abbreviation shown to people; for an object name it is `short?`. -/
def short (id : CommitId) : String := id.short?.getD id.hex

end CommitId

end Landing
