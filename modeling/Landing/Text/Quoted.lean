import Landing.Unicode.Property

/-! Texts between double quotes, with what cannot be shown written as an escape. -/
namespace Landing.Text
open Landing.Unicode

/-- Characters that are drawn on the one before them: all marks without a width, and those with a
width that are listed. -/
def isExtender (c : Char) : Bool :=
  match latestCategory c with
  | .Mn | .Me => true
  | .Mc => (Property.ofList "Other_Grapheme_Extend").contains c
  | _ => false

/-- Letters that leave their place empty. -/
def isFiller (c : Char) : Bool := ['\u115f', '\u1160', '\u3164', '\uffa0'].contains c

/-- Characters with a shape of their own. -/
def isVisible (c : Char) : Bool :=
  let g := latestCategory c
  !(g.isOther || g.isSeparator || isFiller c)

/-- Lower-case hexadecimal digits of `n`, without leading zeros. -/
def hexText (n : Nat) : List Char := Nat.toDigits 16 n

/-- The character with this number between braces after a backslash and a `u`. -/
def escapeNumber (c : Char) : List Char := '\\' :: 'u' :: '\x7b' :: hexText c.toNat ++ ['\x7d']

def escape (c : Char) : List Char :=
  if c = '"' then ['\\', '"']
  else if c = '\\' then ['\\', '\\']
  else if c = '\n' then ['\\', 'n']
  else if c = '\r' then ['\\', 'r']
  else if c = '\t' then ['\\', 't']
  else if c = '\x00' then ['\\', '0']
  else if c.toNat < 0x7F && 0x20 ≤ c.toNat then [c]
  else if isExtender c || !isVisible c then escapeNumber c
  else [c]

/-- `s` between quotes; quotes, backslashes, controls, characters without a shape and those
drawn on the one before them are escaped. -/
def quoted (s : String) : String := String.ofList ('"' :: s.toList.flatMap escape ++ ['"'])

end Landing.Text
