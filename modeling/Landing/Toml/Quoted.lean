import Landing.Text.Digits

/-! Strings of TOML, in their four forms. Every reader gives what it read and the rest. -/
namespace Landing.Toml

def isSpace (c : Char) : Bool := c == ' ' || c == '\t'

def skipSpace (cs : List Char) : List Char := cs.dropWhile isSpace

/-- Characters that may stand in a line: the tab and everything that is no control. -/
def isPlain (c : Char) : Bool := c == '\t' || (' ' ≤ c && c ≠ '\x7f')

/-- A line end is a line feed, with or without a carriage return. -/
def lineEnd? : List Char → Option (List Char)
  | '\n' :: rest => some rest
  | '\r' :: '\n' :: rest => some rest
  | _ => none

/-- Drops spaces and line ends. -/
def skipBreaks : List Char → List Char
  | ' ' :: rest => skipBreaks rest
  | '\t' :: rest => skipBreaks rest
  | '\n' :: rest => skipBreaks rest
  | '\r' :: '\n' :: rest => skipBreaks rest
  | cs => cs

/-- Drops spaces, line ends and comments. A comment ends at a character it may not hold. -/
def skipTrivia : (inComment : Bool) → List Char → List Char
  | _, '\n' :: rest => skipTrivia false rest
  | _, '\r' :: '\n' :: rest => skipTrivia false rest
  | true, c :: rest => if isPlain c then skipTrivia true rest else c :: rest
  | false, '#' :: rest => skipTrivia true rest
  | false, ' ' :: rest => skipTrivia false rest
  | false, '\t' :: rest => skipTrivia false rest
  | _, cs => cs

namespace Quoted

/-- The character with a number of exactly `count` hexadecimal digits. -/
def scalar? (count : Nat) (cs : List Char) : Option (Char × List Char) :=
  let digits := cs.take count
  let n := Text.ofDigits 16 digits
  if digits.length = count ∧ digits.all (Text.isDigitIn 16) ∧ n.isValidChar then
    some (Char.ofNat n, cs.drop count)
  else none

/-- The character that is written after a backslash. -/
def escape? : List Char → Option (Char × List Char)
  | 'b' :: rest => some ('\x08', rest)
  | 't' :: rest => some ('\t', rest)
  | 'n' :: rest => some ('\n', rest)
  | 'f' :: rest => some ('\x0c', rest)
  | 'r' :: rest => some ('\r', rest)
  | '"' :: rest => some ('"', rest)
  | '\\' :: rest => some ('\\', rest)
  | 'u' :: rest => scalar? 4 rest
  | 'U' :: rest => scalar? 8 rest
  | _ => none

/-- Puts a character in front of what was read. -/
def cons (c : Char) : Option (List Char × List Char) → Option (List Char × List Char) :=
  Option.map fun (cs, rest) => (c :: cs, rest)

/-- The rest of a one-line string with escapes. -/
def basic : (fuel : Nat) → List Char → Option (List Char × List Char)
  | 0, _ | _, [] => none
  | _, '"' :: rest => some ([], rest)
  | fuel + 1, '\\' :: rest => (escape? rest).bind fun (c, rest) => cons c (basic fuel rest)
  | fuel + 1, c :: rest => if isPlain c then cons c (basic fuel rest) else none

/-- The rest of a one-line string without escapes. -/
def literal : List Char → Option (List Char × List Char)
  | [] => none
  | '\'' :: rest => some ([], rest)
  | c :: rest => if isPlain c then cons c (literal rest) else none

/-- The end of a string of several lines: three marks, with at most two more that belong to
the string. -/
def close? (mark : Char) (cs : List Char) : Option (List Char × List Char) :=
  let count := (cs.takeWhile (· == mark)).length
  if 3 ≤ count then
    let own := min count 5 - 3
    some (List.replicate own mark, cs.drop (own + 3))
  else none

/-- After a backslash at the end of a line, the line end and all blanks that follow. -/
def joined? (cs : List Char) : Option (List Char) := (lineEnd? (skipSpace cs)).map skipBreaks

/-- The rest of a string of several lines; only with `escapes` is the backslash special. -/
def lines (mark : Char) (escapes : Bool) : (fuel : Nat) → List Char →
    Option (List Char × List Char)
  | 0, _ => none
  | fuel + 1, cs =>
    match close? mark cs with
    | some done => some done
    | none =>
      match lineEnd? cs with
      | some rest => cons '\n' (lines mark escapes fuel rest)
      | none =>
        match cs with
        | [] => none
        | c :: rest =>
          if escapes && c == '\\' then
            match joined? rest with
            | some rest => lines mark escapes fuel rest
            | none => (escape? rest).bind fun (c, rest) => cons c (lines mark escapes fuel rest)
          else if isPlain c then cons c (lines mark escapes fuel rest)
          else none

/-- A string of several lines may begin with a line end that does not belong to it. -/
def linesFrom (mark : Char) (escapes : Bool) (cs : List Char) :
    Option (List Char × List Char) :=
  lines mark escapes (cs.length + 1) ((lineEnd? cs).getD cs)

/-- A string on one line. -/
def oneLine? : List Char → Option (List Char × List Char)
  | '"' :: rest => basic (rest.length + 1) rest
  | '\'' :: rest => literal rest
  | _ => none

/-- A string in any form. -/
def any? : List Char → Option (List Char × List Char)
  | '"' :: '"' :: '"' :: rest => linesFrom '"' true rest
  | '\'' :: '\'' :: '\'' :: rest => linesFrom '\'' false rest
  | cs => oneLine? cs

/-- How a character is written in a one-line string with escapes. -/
def write (c : Char) : List Char :=
  if c = '"' then ['\\', '"']
  else if c = '\\' then ['\\', '\\']
  else if c = '\n' then ['\\', 'n']
  else if c = '\r' then ['\\', 'r']
  else if isPlain c then [c]
  else
    let digits := Nat.toDigits 16 c.toNat
    '\\' :: 'u' :: (List.replicate (4 - digits.length) '0' ++ digits)

/-- A string as one line with escapes, whatever it holds. A pretty writer puts a text of several
lines between triple quotes; the two agree when they are read, not letter by letter. -/
def ofText (s : String) : List Char := '"' :: (s.toList.flatMap write ++ ['"'])

end Quoted

end Landing.Toml
