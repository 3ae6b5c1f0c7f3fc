import Landing.Shell.Token
import Landing.Table
import Landing.Text.Blank

/-! A script while it is read: what is left of it, and the documents that are still to come. -/
namespace Landing.Shell

/-- A document that was announced; its text begins on the next line. -/
structure Due where
  number : Nat
  mark : Bytes
  /-- Nothing in it is replaced. -/
  isLiteral : Bool
  strips : Bool
  deriving DecidableEq, Repr

/-- What is left of a script. -/
structure Source where
  rest : List Char
  line : Nat := 1
  /-- A token that was read and put back. -/
  pushed : Option Token := none
  due : List Due := []
  /-- The documents, by the order in which they were announced. -/
  documents : Array Word := #[]
  /-- Texts that stand for the names of commands. -/
  aliases : Table String Bytes := .empty
  /-- Names that were replaced, and how much of the script was left behind each. -/
  replaced : List (String × Nat) := []

/-- Reads a part of a script; a fault comes with its line. -/
abbrev Reader (α : Type) := StateT Source (Except (Nat × Fault)) α

namespace Reader

variable {α : Type}

def refuse (f : Fault) : Reader α := do throw ((← get).line, f)

def isSpace (c : Char) : Bool := c == ' ' || c == '\t'

/-- Characters that end a word. -/
def isMeta (c : Char) : Bool :=
  isSpace c || c == '\n' || c == ';' || c == '&' || c == '|' || c == '<' || c == '>' ||
    c == '(' || c == ')'

def isNameStart (c : Char) : Bool :=
  c == '_' || ('a' ≤ c && c ≤ 'z') || ('A' ≤ c && c ≤ 'Z')

def isDigit (c : Char) : Bool := '0' ≤ c && c ≤ '9'

def isNameChar (c : Char) : Bool := isNameStart c || isDigit c

/-- Parameters with a name of one character that is no letter. -/
def isOddName (c : Char) : Bool :=
  c == '@' || c == '*' || c == '#' || c == '?' || c == '$' || c == '!' || c == '-' || isDigit c

/-- A name of a variable or a function. -/
def isName : List Char → Bool
  | [] => false
  | c :: cs => isNameStart c && cs.all isNameChar

/-- The name of a setting and its value. -/
def setting? (cs : List Char) : Option (String × List Char) :=
  let name := cs.takeWhile isNameChar
  match cs.drop name.length with
  | '=' :: value => if isName name then some (String.ofList name, value) else none
  | _ => none

/-- Takes a number of characters. -/
def drop (n : Nat) : Reader Unit :=
  modify fun s =>
    { s with rest := s.rest.drop n, line := s.line + (s.rest.take n).count '\n' }

/-- Takes characters as long as they fit. -/
def takeWhile (p : Char → Bool) : Reader (List Char) := do
  let run := (← get).rest.takeWhile p
  drop run.length
  pure run

/-- How many lines are joined here by a backslash at the end. -/
def joints : List Char → Nat
  | '\\' :: '\n' :: rest => joints rest + 1
  | _ => 0

/-- The next characters, behind joined lines. -/
def ahead : Reader (List Char) := do
  drop (2 * joints (← get).rest)
  pure (← get).rest

/-- Takes a character if it is the next one. -/
def takes (c : Char) : Reader Bool := do
  if (← ahead).head? = some c then
    drop 1
    pure true
  else pure false

/-- Takes a character that has no meaning where it stands. A line that ends there is not counted. -/
def skipMisfit : Reader Unit := do
  let rest ← ahead
  modify fun s => { s with rest := rest.tail }

/-- Takes the text up to a mark, and the mark. -/
def upTo (mark : Char) (missing : Fault) : Reader (List Char) := do
  let text ← takeWhile (· ≠ mark)
  if (← get).rest.isEmpty then refuse missing
  else
    drop 1
    pure text

/-- How many characters are spaces, joined lines and a comment. -/
def blankLength : (inComment : Bool) → List Char → Nat
  | true, '\n' :: _ => 0
  | true, _ :: rest => blankLength true rest + 1
  | false, ' ' :: rest => blankLength false rest + 1
  | false, '\t' :: rest => blankLength false rest + 1
  | false, '\\' :: '\n' :: rest => blankLength false rest + 2
  | false, '#' :: rest => blankLength true rest + 1
  | _, _ => 0

def skipBlank : Reader Unit := do drop (blankLength false (← get).rest)

/-- Reads the text that stands for a name, if there is one. Inside that text the name stands for
itself. -/
def replaces (w : Word) : Reader Bool := do
  let s ← get
  match w.plain? with
  | none => pure false
  | some bytes =>
    let name := String.ofList bytes
    let replaced := s.replaced.filter fun e => e.2 < s.rest.length
    match s.aliases.get? name, replaced.any (·.1 = name) with
    | some text, false =>
      set { s with rest := text ++ s.rest, replaced := (name, s.rest.length) :: replaced }
      pure true
    | _, _ => pure false

/-- Puts a token back. -/
def push (t : Token) : Reader Unit := modify fun s => { s with pushed := some t }

/-- The text between back quotes, without the backslashes that protect in it, and how many
characters it takes with the closing quote. -/
def backQuoted? (inQuotes : Bool) : List Char → Option (List Char × Nat)
  | [] => none
  | '\x60' :: _ => some ([], 1)
  | '\\' :: '\n' :: rest => (backQuoted? inQuotes rest).map fun (cs, n) => (cs, n + 2)
  | '\\' :: c :: rest =>
    (backQuoted? inQuotes rest).map fun (cs, n) =>
      (if c == '\x60' || c == '\\' || c == '$' || (inQuotes && c == '"') then (c :: cs, n + 2)
      else ('\\' :: c :: cs, n + 2))
  | c :: rest => (backQuoted? inQuotes rest).map fun (cs, n) => (c :: cs, n + 1)

/-- The use that is made of a parameter, by the marks after its name, and their number. -/
def use? : List Char → Option (Use × Nat)
  | ':' :: '-' :: _ => some (.default true, 2)
  | '-' :: _ => some (.default false, 1)
  | ':' :: '=' :: _ => some (.assign true, 2)
  | '=' :: _ => some (.assign false, 1)
  | ':' :: '+' :: _ => some (.alternative true, 2)
  | '+' :: _ => some (.alternative false, 1)
  | ':' :: '?' :: _ => some (.demand true, 2)
  | '?' :: _ => some (.demand false, 1)
  | '#' :: '#' :: _ => some (.dropHead true, 2)
  | '#' :: _ => some (.dropHead false, 1)
  | '%' :: '%' :: _ => some (.dropTail true, 2)
  | '%' :: _ => some (.dropTail false, 1)
  | _ => none

/-- Whether a use reads its word as a pattern. -/
def isCut : Use → Bool
  | .dropHead _ | .dropTail _ => true
  | _ => false

/-- What stands after the opening brace of a parameter: its name, whether its length is meant,
and the number of characters that say so. -/
def subject? (cs : List Char) : Option (String × Bool × Nat) :=
  let name (cs : List Char) : List Char :=
    match cs with
    | c :: _ => cs.takeWhile (if isDigit c then isDigit else isNameChar)
    | [] => []
  match cs with
  | '#' :: '\x7d' :: _ => some ("#", false, 1)
  | '#' :: c :: rest =>
    let measured := name (c :: rest)
    if !measured.isEmpty then
      if ((c :: rest).drop measured.length).head? = some '\x7d' then
        some (String.ofList measured, true, measured.length + 1)
      else none
    else if rest.head? = some '\x7d' then
      if isOddName c then some (String.ofList [c], true, 2) else none
    else some ("#", false, 1)
  | c :: _ =>
    if !(name cs).isEmpty then some (String.ofList (name cs), false, (name cs).length)
    else if isOddName c then some (String.ofList [c], false, 1)
    else none
  | [] => none

/-- A tilde in front stands for a home directory. What follows `bytes` decides whether the name of
the user ends with them. -/
def home (ends : Bool) (bytes : Bytes) : Word :=
  match bytes with
  | '~' :: rest =>
    let user := rest.takeWhile (· ≠ '/')
    let path := rest.drop user.length
    if path.isEmpty && !ends then [.text false bytes]
    else .home user :: (if path.isEmpty then [] else [.text false path])
  | bytes => [.text false bytes]

def withHome : Word → Word
  | .text false bytes :: rest => home rest.isEmpty bytes ++ rest
  | w => w

/-- The setting that a word is. In its value a tilde may also follow a colon. -/
def settingOf? : Word → Option (String × Word)
  | .text false bytes :: rest =>
    (setting? bytes).map fun (name, value) =>
      let parts := (Text.splitAt ':' value).map (home true)
      let start := (parts.intersperse [.text false [':']]).flatten
      (name, (if value.isEmpty then [] else start) ++ rest)
  | _ => none

end Reader

end Landing.Shell
