/-! Blank characters, trimming and lines. -/
namespace Landing.Text

/-- The characters of the Unicode property White_Space. -/
def isBlank (c : Char) : Bool :=
  let n := c.toNat
  (9 ≤ n && n ≤ 13) || n == 0x20 || n == 0x85 || n == 0xA0 || n == 0x1680 ||
    (0x2000 ≤ n && n ≤ 0x200A) || n == 0x2028 || n == 0x2029 || n == 0x202F ||
    n == 0x205F || n == 0x3000

/-- Drops what satisfies `p` from the end. -/
def dropEndWhile (p : Char → Bool) (cs : List Char) : List Char :=
  (cs.reverse.dropWhile p).reverse

/-- A text without the blanks around it. -/
def trimChars (cs : List Char) : List Char :=
  dropEndWhile isBlank (cs.dropWhile isBlank)

def trim (s : String) : String := String.ofList (trimChars s.toList)

def trimEnd (s : String) : String := String.ofList (dropEndWhile isBlank s.toList)

/-- Nothing but blanks. -/
def isBlankText (s : String) : Bool := s.toList.all isBlank

/-- A line break is a line feed, with the carriage return in front of it if there is one.
The text after the last break is a line unless it is empty. -/
def linesFrom (line : List Char) : List Char → List (List Char)
  | [] => if line.isEmpty then [] else [line.reverse]
  | '\n' :: rest =>
    (match line with
      | '\r' :: body => body.reverse
      | body => body.reverse) :: linesFrom [] rest
  | c :: rest => linesFrom (c :: line) rest

def linesOf (cs : List Char) : List (List Char) := linesFrom [] cs

def lines (s : String) : List String := (linesOf s.toList).map String.ofList

/-- ASCII letters to lower case, all else as it is. -/
def lowerAscii (s : String) : String := String.ofList (s.toList.map Char.toLower)

/-- What follows `lead` in `cs`. -/
def strip? : (lead cs : List Char) → Option (List Char)
  | [], cs => some cs
  | _ :: _, [] => none
  | x :: lead, c :: cs => if x = c then strip? lead cs else none

theorem strip?_eq_some_iff {lead cs rest : List Char} :
    strip? lead cs = some rest ↔ cs = lead ++ rest := by
  fun_induction strip? lead cs with
  | case1 cs => simp
  | case2 => simp
  | case3 lead c cs ih => simpa using ih
  | case4 x lead c cs hne => simp [Ne.symm hne]

theorem isSome_strip?_iff {lead cs : List Char} : (strip? lead cs).isSome ↔ lead <+: cs := by
  rw [Option.isSome_iff_exists]
  exact exists_congr fun rest => strip?_eq_some_iff.trans eq_comm

/-- What follows `lead` in `s`. -/
def stripLead? (lead s : String) : Option String :=
  (strip? lead.toList s.toList).map String.ofList

def startsWith (lead s : String) : Bool := (strip? lead.toList s.toList).isSome

/-- Pieces between the characters equal to `sep`. -/
def splitAt (sep : Char) : List Char → List (List Char)
  | [] => [[]]
  | c :: rest =>
    if c = sep then [] :: splitAt sep rest
    else match splitAt sep rest with
      | [] => [[c]]
      | piece :: pieces => (c :: piece) :: pieces

def split (sep : Char) (s : String) : List String := (splitAt sep s.toList).map String.ofList

end Landing.Text
