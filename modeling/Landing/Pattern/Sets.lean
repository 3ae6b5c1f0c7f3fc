import Landing.Unicode.Property

/-! The sets of characters that patterns have names for, and the sets that case makes of others. -/
namespace Landing.Pattern
open Landing.Unicode

/-- Sets with a letter of their own. -/
inductive Shorthand where
  | digit
  | blank
  | word
  deriving DecidableEq, Repr

namespace Sets

def blank : CharSet :=
  ⟨[(9, 13), (0x20, 0x20), (0x85, 0x85), (0xA0, 0xA0), (0x1680, 0x1680), (0x2000, 0x200A),
    (0x2028, 0x2029), (0x202F, 0x202F), (0x205F, 0x205F), (0x3000, 0x3000)]⟩

def digit : CharSet := Property.ofCategories (· == .Nd)

/-- Alphabetic characters, marks, decimal digits, connectors and joiners. -/
def word : CharSet :=
  (Property.ofCategories fun g => g.isMark || g == .Nd || g == .Pc).union
    (CharSet.union ⟨[(0x200C, 0x200D)]⟩ Property.alphabetic)

def asciiDigit : CharSet := ⟨[(0x30, 0x39)]⟩

def asciiBlank : CharSet := ⟨[(9, 13), (0x20, 0x20)]⟩

def asciiWord : CharSet := ⟨[(0x30, 0x39), (0x41, 0x5A), (0x5F, 0x5F), (0x61, 0x7A)]⟩

/-- The sets that are written between `[:` and `:]`. -/
def ofAsciiName? : String → Option CharSet
  | "alnum" => some ⟨[(0x30, 0x39), (0x41, 0x5A), (0x61, 0x7A)]⟩
  | "alpha" => some ⟨[(0x41, 0x5A), (0x61, 0x7A)]⟩
  | "ascii" => some ⟨[(0, 0x7F)]⟩
  | "blank" => some ⟨[(9, 9), (0x20, 0x20)]⟩
  | "cntrl" => some ⟨[(0, 0x1F), (0x7F, 0x7F)]⟩
  | "digit" => some asciiDigit
  | "graph" => some ⟨[(0x21, 0x7E)]⟩
  | "lower" => some ⟨[(0x61, 0x7A)]⟩
  | "print" => some ⟨[(0x20, 0x7E)]⟩
  | "punct" => some ⟨[(0x21, 0x2F), (0x3A, 0x40), (0x5B, 0x60), (0x7B, 0x7E)]⟩
  | "space" => some asciiBlank
  | "upper" => some ⟨[(0x41, 0x5A)]⟩
  | "word" => some asciiWord
  | "xdigit" => some ⟨[(0x30, 0x39), (0x41, 0x46), (0x61, 0x66)]⟩
  | _ => none

end Sets

/-- The set behind a shorthand; without `unicode` it is made of ASCII. -/
def Shorthand.members (unicode : Bool) : Shorthand → CharSet
  | digit => if unicode then Sets.digit else Sets.asciiDigit
  | blank => if unicode then Sets.blank else Sets.asciiBlank
  | word => if unicode then Sets.word else Sets.asciiWord

/-- `s` and every character that differs from one of its members in case alone. Few members are
looked up one by one; of many, the groups are found that have one of them. -/
def foldUnicode (s : CharSet) : CharSet :=
  let groups :=
    if s.count ≤ 100 then s.members.map caseVariants
    else (foldTargets.map caseVariants).filter (·.any s.hasNumber)
  CharSet.union (.ofRanges (groups.flatMap (·.map fun n => (n, n)))) s

/-- `s` and, for every ASCII letter of it, the same letter in the other case. -/
def foldAscii (s : CharSet) : CharSet :=
  let letters := (List.range 26).flatMap fun i =>
    if s.hasNumber (0x41 + i) || s.hasNumber (0x61 + i) then
      [(0x41 + i, 0x41 + i), (0x61 + i, 0x61 + i)]
    else []
  CharSet.union ⟨letters⟩ s

end Landing.Pattern
