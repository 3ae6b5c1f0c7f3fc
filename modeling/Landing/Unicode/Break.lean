import Landing.Unicode.Property
import Landing.Unicode.Script

/-! The classes that decide where clusters, words and sentences may be divided. Each follows from
other properties. -/
namespace Landing.Unicode.Break

open Property

def marks : CharSet := ofCategories (· == .Mc)

def formats : CharSet := ofCategories (· == .Cf)

def joiners : CharSet := ⟨[(0x200C, 0x200D)]⟩

/-- Signs in front of numbers and names. -/
def prepended : CharSet := ofList "Prepended_Concatenation_Mark"

/-- Syllables of Hangul with a leading consonant and a vowel only. -/
def openSyllables : CharSet :=
  ⟨(List.range 399).map fun i => (0xAC00 + 28 * i, 0xAC00 + 28 * i)⟩

def syllables : CharSet := ⟨[(0xAC00, 0xD7A3)]⟩

/-- Spacing marks that stand alone. -/
def separateMarks : CharSet :=
  ⟨rangesOf ["102b-102c 1038 1062-1064 1067-106d 1083 1087-108c 108f 109a-109c 1a61 1a63-1a64",
    "aa7b aa7d 11720-11721"]⟩

/-- Classes of the borders between clusters. -/
def cluster : List (String × (Unit → CharSet)) :=
  [("CR", fun _ => ⟨[(0xD, 0xD)]⟩), ("LF", fun _ => ⟨[(0xA, 0xA)]⟩),
   ("Control", fun _ =>
     ((ofCategories fun g => g == .Zl || g == .Zp || g == .Cc || g == .Cf).diff
       ((graphemeExtend.union prepended).union
         (.ofRanges [(0xA, 0xA), (0xD, 0xD), (0x200C, 0x200D)]))).union
       ((ofCategories (· == .Cn)).inter defaultIgnorable)),
   ("Extend", fun _ => graphemeExtend.union (ofList "Emoji_Modifier")),
   ("L", fun _ => ⟨rangesOf ["1100-115f a960-a97c"]⟩),
   ("LV", fun _ => openSyllables), ("LVT", fun _ => syllables.diff openSyllables),
   ("Prepend", fun _ => prepended.union
     (.ofRanges (rangesOf ["d4e 111c2-111c3 113d1 1193f 11941 11a3a 11a84-11a89 11d46 11f02"]))),
   ("Regional_Indicator", fun _ => ofList "Regional_Indicator"),
   ("SpacingMark", fun _ =>
     ((marks.union (.ofRanges [(0xE33, 0xE33), (0xEB3, 0xEB3)])).diff graphemeExtend).diff
       separateMarks),
   ("T", fun _ => ⟨rangesOf ["11a8-11ff d7cb-d7fb"]⟩),
   ("V", fun _ => ⟨rangesOf ["1160-11a7 d7b0-d7c6 16d63 16d67-16d6a"]⟩),
   ("ZWJ", fun _ => ⟨[(0x200D, 0x200D)]⟩)]

/-- Numbers that Arabic and other signs introduce. -/
def numberSigns : CharSet := ⟨rangesOf ["600-605 6dd 890-891 8e2 110bd 110cd"]⟩

/-- What is drawn on the character before it. -/
def extending : CharSet := graphemeExtend.union marks

def katakana : CharSet :=
  ((Script.members "Kana").union
    (.ofRanges (rangesOf ["3031-3035 309b-309c 30a0 30fc ff70"]))).diff extending

/-- Scripts that need a dictionary to find words. -/
def unspaced : CharSet :=
  .ofRanges (["Thai", "Laoo", "Mymr", "Khmr", "Tale", "Talu", "Lana", "Tavt", "Ahom"].flatMap
    fun name => (Script.members name).ranges)

def hebrewLetters : CharSet := (Script.members "Hebr").inter (ofCategories (· == .Lo))

/-- Signs that are used like letters. -/
def letterLike : CharSet :=
  ⟨rangesOf ["2c2-2c5 2d2-2d7 2de-2df 2e5-2eb 2ed 2ef-2ff 55a-55c 55e 58a 5f3 70f a708-a716",
    "a720-a721 a789-a78a ab5b"]⟩

def decimalDigits : CharSet := ofCategories (· == .Nd)

/-- Classes of the borders between words. -/
def word : List (String × (Unit → CharSet)) :=
  [("ALetter", fun _ =>
     (alphabetic.union letterLike).diff ((((ofList "Ideographic").union katakana).union
       (unspaced.union (Script.members "Hira"))).union (extending.union hebrewLetters))),
   ("CR", fun _ => ⟨[(0xD, 0xD)]⟩), ("LF", fun _ => ⟨[(0xA, 0xA)]⟩),
   ("Double_Quote", fun _ => ⟨[(0x22, 0x22)]⟩), ("Single_Quote", fun _ => ⟨[(0x27, 0x27)]⟩),
   ("Extend", fun _ =>
     (extending.union (ofList "Emoji_Modifier")).diff ⟨[(0x200D, 0x200D)]⟩),
   ("ExtendNumLet", fun _ => ⟨rangesOf ["5f 202f 203f-2040 2054 fe33-fe34 fe4d-fe4f ff3f"]⟩),
   ("Format", fun _ =>
     formats.diff ((prepended.union graphemeExtend).union ⟨[(0x200B, 0x200D)]⟩)),
   ("Hebrew_Letter", fun _ => hebrewLetters), ("Katakana", fun _ => katakana),
   ("MidLetter", fun _ => ⟨rangesOf ["3a b7 387 55f 5f4 2027 fe13 fe55 ff1a"]⟩),
   ("MidNum", fun _ => ⟨rangesOf
     ["2c 3b 37e 589 60c-60d 66c 7f8 2044 fe10 fe14 fe50 fe54 ff0c ff1b"]⟩),
   ("MidNumLet", fun _ => ⟨rangesOf ["2e 2018-2019 2024 fe52 ff07 ff0e"]⟩),
   ("Newline", fun _ => ⟨rangesOf ["b-c 85 2028-2029"]⟩),
   ("Numeric", fun _ => (decimalDigits.union numberSigns).union ⟨[(0x66B, 0x66B)]⟩),
   ("Regional_Indicator", fun _ => ofList "Regional_Indicator"),
   ("WSegSpace", fun _ => ⟨rangesOf ["20 1680 2000-2006 2008-200a 205f 3000"]⟩),
   ("ZWJ", fun _ => ⟨[(0x200D, 0x200D)]⟩)]

def sentenceLower : CharSet :=
  (lowercase.diff graphemeExtend).diff ⟨[(0x10D0, 0x10FA), (0x10FD, 0x10FF)]⟩

def sentenceUpper : CharSet :=
  ((ofCategories (· == .Lt)).union uppercase).diff ⟨[(0x1C90, 0x1CBA), (0x1CBD, 0x1CBF)]⟩

def sentenceExtend : CharSet := extending.union ⟨[(0x200D, 0x200D)]⟩

/-- Full stops. -/
def fullStops : CharSet := ⟨rangesOf ["2e 2024 fe52 ff0e"]⟩

/-- Classes of the borders between sentences. -/
def sentence : List (String × (Unit → CharSet)) :=
  [("ATerm", fun _ => fullStops), ("CR", fun _ => ⟨[(0xD, 0xD)]⟩), ("LF", fun _ => ⟨[(0xA, 0xA)]⟩),
   ("Close", fun _ =>
     (ofCategories fun g => g == .Ps || g == .Pe || g == .Pi || g == .Pf).union
       (.ofRanges (rangesOf ["22 27 275b-2760 2e00-2e01 2e06-2e08 2e0b 1f676-1f678"]))),
   ("Extend", fun _ => sentenceExtend),
   ("Format", fun _ => formats.diff ((prepended.union graphemeExtend).union joiners)),
   ("Lower", fun _ => sentenceLower), ("Upper", fun _ => sentenceUpper),
   ("OLetter", fun _ =>
     (alphabetic.union ⟨[(0x5F3, 0x5F3)]⟩).diff
       ((sentenceLower.union sentenceUpper).union sentenceExtend)),
   ("Numeric", fun _ => (decimalDigits.union numberSigns).union ⟨[(0x66B, 0x66C)]⟩),
   ("SContinue", fun _ => ⟨rangesOf
     ["2c-2d 3a 55d 60c-60d 7f8 1802 1808 2013-2014 3001 fe10-fe11 fe13 fe31-fe32 fe50-fe51 fe55",
      "fe58 fe63 ff0c-ff0d ff1a ff64"]⟩),
   ("STerm", fun _ => (ofList "Sentence_Terminal").diff fullStops),
   ("Sep", fun _ => ⟨rangesOf ["85 2028-2029"]⟩),
   ("Sp", fun _ => (ofList "White_Space").diff ⟨rangesOf ["a d 85 2028-2029"]⟩)]

end Landing.Unicode.Break
