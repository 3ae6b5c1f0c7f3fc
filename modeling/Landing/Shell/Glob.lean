import Landing.Shell.Script

/-! Patterns of the shell. -/
namespace Landing.Shell

/-- A character of an expanded word, and whether it was quoted. -/
abbrev Cell := Char × Bool

namespace Glob

/-- One item of a pattern. -/
inductive Item where
  | anything
  | anyOne
  | oneOf (negated : Bool) (ranges : List (Char × Char))
  | exactly (c : Char)
  deriving DecidableEq, Repr

/-- Named classes of characters. -/
def classRanges (name : String) : List (Char × Char) :=
  match name with
  | "digit" => [('0', '9')]
  | "lower" => [('a', 'z')]
  | "upper" => [('A', 'Z')]
  | "alpha" => [('a', 'z'), ('A', 'Z')]
  | "alnum" => [('a', 'z'), ('A', 'Z'), ('0', '9')]
  | "xdigit" => [('0', '9'), ('a', 'f'), ('A', 'F')]
  | "space" => [('\t', '\r'), (' ', ' ')]
  | "blank" => [('\t', '\t'), (' ', ' ')]
  | "punct" => [('!', '/'), (':', '@'), ('[', '\x60'), ('\x7b', '~')]
  | "print" => [(' ', '~')]
  | "graph" => [('!', '~')]
  | "cntrl" => [('\x00', '\x1f'), ('\x7f', '\x7f')]
  | _ => []

/-- The ranges of a set up to its closing bracket, which may also stand first. -/
def ranges? : (fuel : Nat) → (first : Bool) → List Cell → Option (List (Char × Char) × List Cell)
  | 0, _, _ | _, _, [] => none
  | fuel + 1, first, (c, isQuoted) :: rest =>
    if c == ']' && !isQuoted && !first then some ([], rest)
    else
      let more (rs : List (Char × Char)) (rest : List Cell) :=
        (ranges? fuel false rest).map fun (more, rest) => (rs ++ more, rest)
      match c, rest with
      | '[', (':', _) :: rest' =>
        let name := (rest'.takeWhile fun x => x.1.isAlpha).map (·.1)
        match rest'.drop name.length with
        | (':', _) :: (']', _) :: rest => more (classRanges (String.ofList name)) rest
        | _ => more [(c, c)] rest
      | _, ('-', false) :: (d, q) :: rest' =>
        if d == ']' && !q then more [(c, c)] rest else more [(c, d)] rest'
      | _, _ => more [(c, c)] rest

/-- The pattern that a word writes. -/
def ofCells : (fuel : Nat) → List Cell → List Item
  | 0, _ | _, [] => []
  | fuel + 1, (c, true) :: rest => .exactly c :: ofCells fuel rest
  | fuel + 1, ('*', false) :: rest => .anything :: ofCells fuel rest
  | fuel + 1, ('?', false) :: rest => .anyOne :: ofCells fuel rest
  | fuel + 1, ('[', false) :: rest =>
    let (negated, body) := match rest with
      | ('!', false) :: body => (true, body)
      | body => (false, body)
    match ranges? (body.length + 1) true body with
    | some (rs, rest) => .oneOf negated rs :: ofCells fuel rest
    | none => .exactly '[' :: ofCells fuel rest
  | fuel + 1, (c, false) :: rest => .exactly c :: ofCells fuel rest

def compile (cells : List Cell) : List Item := ofCells cells.length cells

/-- The whole text fits the pattern. -/
def fits : List Item → List Char → Bool
  | [], cs => cs.isEmpty
  | .anything :: items, cs => (List.range (cs.length + 1)).any fun n => fits items (cs.drop n)
  | .anyOne :: items, _ :: cs => fits items cs
  | .exactly x :: items, c :: cs => x == c && fits items cs
  | .oneOf negated rs :: items, c :: cs =>
    (rs.any fun r => r.1 ≤ c && c ≤ r.2) != negated && fits items cs
  | _, [] => false

/-- The text without the shortest or longest start that fits. -/
def dropHead (longest : Bool) (items : List Item) (cs : List Char) : List Char :=
  let cuts := (List.range (cs.length + 1)).filter fun n => fits items (cs.take n)
  match (if longest then cuts.getLast? else cuts.head?) with
  | some n => cs.drop n
  | none => cs

/-- The text without the shortest or longest end that fits. -/
def dropTail (longest : Bool) (items : List Item) (cs : List Char) : List Char :=
  let cuts := (List.range (cs.length + 1)).filter fun n => fits items (cs.drop n)
  match (if longest then cuts.head? else cuts.getLast?) with
  | some n => cs.take n
  | none => cs

/-- Whether an unquoted character of a word makes it a pattern. -/
def isPattern (cells : List Cell) : Bool :=
  cells.any fun (c, isQuoted) => !isQuoted && (c == '*' || c == '?' || c == '[')

end Glob

end Landing.Shell
