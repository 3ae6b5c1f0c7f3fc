import Landing.Shell.Glob

/-! From expanded words to fields: splitting where separators stand. -/
namespace Landing.Shell

/-- Where a character of an expanded word comes from. Only values are split, and only what is
not quoted can be a pattern. -/
inductive Origin where
  | quoted
  | literal
  | value
  deriving DecidableEq, Repr

/-- A part of an expanded word: a character, the end of a field, or a sign that there is a field
even if it is empty. -/
inductive Part where
  | char (c : Char) (origin : Origin)
  | gap
  | anchor
  deriving DecidableEq, Repr

namespace Part

def quoted (text : Bytes) : List Part := .anchor :: text.map (.char · .quoted)

/-- The value of a parameter, quoted or not. -/
def ofValue (isQuoted : Bool) (text : Bytes) : List Part :=
  if isQuoted then quoted text else text.map (.char · .value)

/-- Separators that count as one where several stand together. -/
def isBlank (c : Char) : Bool := c == ' ' || c == '\t' || c == '\n'

/-- The fields of an expanded word. Each separator ends a field, which may be empty unless the
separator is blank. `afterBlank` says that a blank ended the last field, so that a separator which
follows is part of the same end. -/
def fieldsFrom (separators : Bytes) : (current : Option (List Cell)) → (afterBlank : Bool) →
    List Part → List (List Cell)
  | current, _, [] => current.toList.map List.reverse
  | current, _, .gap :: rest =>
    current.toList.map List.reverse ++ fieldsFrom separators none false rest
  | current, _, .anchor :: rest => fieldsFrom separators (some (current.getD [])) false rest
  | current, afterBlank, .char c origin :: rest =>
    if origin = .value && separators.contains c then
      match current, isBlank c with
      | some cells, blank => cells.reverse :: fieldsFrom separators none blank rest
      | none, true => fieldsFrom separators none afterBlank rest
      | none, false =>
        if afterBlank then fieldsFrom separators none false rest
        else [] :: fieldsFrom separators none false rest
    else fieldsFrom separators (some ((c, origin = .quoted) :: current.getD [])) false rest

def fields (separators : Bytes) (parts : List Part) : List (List Cell) :=
  fieldsFrom separators none false parts

/-- All characters as one field, with `joint` where fields would meet. -/
def cells (joint : Bytes) (parts : List Part) : List Cell :=
  parts.flatMap fun
    | .char c origin => [(c, origin = .quoted)]
    | .gap => joint.map fun c => (c, false)
    | .anchor => []

end Part

/-! Giving the words of a line to variables. -/

namespace Field

def isSeparator (separators : Bytes) (c : Cell) : Bool := !c.2 && separators.contains c.1

def isBlankSeparator (separators : Bytes) (c : Cell) : Bool :=
  isSeparator separators c && Part.isBlank c.1

/-- The first word of a line, and what follows its separator. -/
def first (separators : Bytes) (cells : List Cell) : List Cell × List Cell :=
  let cells := cells.dropWhile (isBlankSeparator separators)
  let word := cells.takeWhile fun c => !isSeparator separators c
  let rest := (cells.drop word.length).dropWhile (isBlankSeparator separators)
  match rest with
  | c :: more =>
    if isSeparator separators c then (word, more.dropWhile (isBlankSeparator separators))
    else (word, rest)
  | [] => (word, [])

/-- What is left for the last variable: all of it without the blanks around it. A single word does
not keep the separator after it. -/
def last (separators : Bytes) (cells : List Cell) : List Cell :=
  let (word, rest) := first separators cells
  if rest.isEmpty then word
  else
    let cells := cells.dropWhile (isBlankSeparator separators)
    (cells.reverse.dropWhile (isBlankSeparator separators)).reverse

/-- The words of a line, as many as there are names for. -/
def distribute (separators : Bytes) : List String → List Cell → List (String × Bytes)
  | [], _ => []
  | [name], cells => [(name, (last separators cells).map (·.1))]
  | name :: names, cells =>
    let (word, rest) := first separators cells
    (name, word.map (·.1)) :: distribute separators names rest

end Field

end Landing.Shell
