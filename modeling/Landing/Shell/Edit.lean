import Landing.Pattern
import Landing.Shell.Script
import Landing.Text.Digits

/-! Editing lines by expressions. -/
namespace Landing.Shell.Edit

/-- What stands between brackets, written so that only the bracket's own marks count. -/
def bracket : (fuel : Nat) → (first : Bool) → List Char → List Char × List Char
  | 0, _, cs => ([], cs)
  | _, _, [] => ([], [])
  | fuel + 1, first, c :: rest =>
    if c == ']' && !first then ([']'], rest)
    else if c == '[' && rest.head? == some ':' then
      let name := rest.takeWhile (· ≠ ']')
      let (more, left) := bracket fuel false (rest.drop (name.length + 1))
      ('[' :: name ++ ']' :: more, left)
    else
      let (more, left) := bracket fuel false rest
      if c == '\\' || c == '[' || c == ']' || c == '&' || c == '~' then ('\\' :: c :: more, left)
      else (c :: more, left)

/-- An expression in the form that patterns have. In the basic form brackets, braces and some
marks are special only after a backslash, anchors only at the ends. -/
def patternOf (extended : Bool) : (fuel : Nat) → (first : Bool) → List Char → List Char
  | 0, _, _ | _, _, [] => []
  | fuel + 1, _, '[' :: '^' :: rest =>
    let (set, left) := bracket rest.length true rest
    '[' :: '^' :: set ++ patternOf extended fuel false left
  | fuel + 1, _, '[' :: rest =>
    let (set, left) := bracket rest.length true rest
    '[' :: set ++ patternOf extended fuel false left
  | fuel + 1, _, '\\' :: c :: rest =>
    if !extended && "()\x7b\x7d|+?".toList.contains c then
      c :: patternOf extended fuel (c == '(' || c == '|') rest
    else '\\' :: c :: patternOf extended fuel false rest
  | fuel + 1, first, c :: rest =>
    let rest' := patternOf extended fuel (extended && (c == '(' || c == '|')) rest
    if !extended && "()\x7b\x7d|+?".toList.contains c then '\\' :: c :: rest'
    else if !extended && first && c == '*' then '\\' :: c :: rest'
    else if !extended && !first && c == '^' then '\\' :: c :: rest'
    else if !extended && c == '$' && !rest.isEmpty && !Text.startsWith "\\)" (String.ofList rest)
    then '\\' :: c :: rest'
    else c :: rest'

/-- A pattern whose first group is the whole match. -/
def ofText? (ignoresCase : Bool) (cs : List Char) : Option Pattern.Expr :=
  let flags := if ignoresCase then "(?i)".toList else []
  (Pattern.parse (String.ofList (flags ++ '(' :: cs ++ [')']))).toOption

/-- The pattern of an expression. -/
def compile? (extended ignoresCase : Bool) (cs : List Char) : Option Pattern.Expr :=
  ofText? ignoresCase (patternOf extended cs.length true cs)

def finds (e : Pattern.Expr) (text : Bytes) : Bool := (e.search none 0 ∅ text).isSome

/-- The text of a replacement. -/
def replacement (group : Nat → Bytes) : List Char → Bytes
  | [] => []
  | '&' :: rest => group 0 ++ replacement group rest
  | '\\' :: 'n' :: rest => '\n' :: replacement group rest
  | '\\' :: c :: rest =>
    (if Text.isDigitIn 10 c then group (c.toNat - '0'.toNat) else [c]) ++ replacement group rest
  | c :: rest => c :: replacement group rest

/-- Replaces matches: the one with a number, or all from it on. `skip` is how many are passed
over. -/
def substitute (e : Pattern.Expr) (new : List Char) (all : Bool) (text : Bytes) :
    (fuel skip : Nat) → (before : Option Char) → (position : Nat) → Bytes × Bool
  | 0, _, _, position => (text.drop position, false)
  | fuel + 1, skip, before, position =>
    match (e.search before position ∅ (text.drop position)).bind (·.ends? 1) with
    | none => (text.drop position, false)
    | some (start, stop) =>
      let captures := (e.search before position ∅ (text.drop position)).getD default
      let group (n : Nat) : Bytes :=
        match captures.ends? (n + 1) with
        | some (a, b) => (text.drop a).take (b - a)
        | none => []
      let found := (text.drop start).take (stop - start)
      let lead := (text.drop position).take (start - position) ++
        (if skip = 0 then replacement group new else found)
      if skip = 0 && !all then (lead ++ text.drop stop, true)
      else
        let (next, step) := if stop = start then (stop + 1, (text.drop stop).take 1)
          else (stop, [])
        if text.length < next then (lead, skip = 0)
        else
          let (rest, done) :=
            substitute e new all text fuel (skip - 1) (text.drop (next - 1)).head? next
          (lead ++ step ++ rest, skip = 0 || done)

inductive Address where
  | line (n : Nat)
  | last
  | matching (e : Pattern.Expr)

/-- The lines that an edit is for. -/
inductive Extent where
  | always
  | one (a : Address)
  | range (first final : Address)
  | not (e : Extent)

inductive Change where
  | substitute (e : Pattern.Expr) (new : List Char) (all shows : Bool) (skip : Nat)
  | exchange (old new : List Char)
  | delete
  | print
  | number
  | quit
  | before (text : Bytes)
  | after (text : Bytes)
  | instead (text : Bytes)

/-- An edit, and whether its range is open. -/
structure Step where
  extent : Extent
  change : Change
  isOpen : Bool := false

/-- The text up to a mark that no backslash protects; a protected mark loses the backslash. -/
def upTo? (mark : Char) : List Char → Option (List Char × List Char)
  | [] => none
  | '\\' :: c :: rest =>
    (upTo? mark rest).map fun (cs, rest) =>
      (if c = mark then c :: cs else '\\' :: c :: cs, rest)
  | c :: rest =>
    if c = mark then some ([], rest) else (upTo? mark rest).map fun (cs, rest) => (c :: cs, rest)

def address? (extended : Bool) (cs : List Char) : Option (Address × List Char) :=
  match cs with
  | '$' :: rest => some (.last, rest)
  | '/' :: rest => do
    let (e, rest) ← upTo? '/' rest
    some (.matching (← compile? extended false e), rest)
  | '\\' :: mark :: rest => do
    let (e, rest) ← upTo? mark rest
    some (.matching (← compile? extended false e), rest)
  | cs =>
    let digits := cs.takeWhile (Text.isDigitIn 10)
    if digits.isEmpty then none
    else some (.line (Text.ofDigits 10 digits), cs.drop digits.length)

/-- The addresses in front of an edit. -/
def extent (extended : Bool) (cs : List Char) : Extent × List Char :=
  let negated (e : Extent) (rest : List Char) : Extent × List Char :=
    match rest.dropWhile Text.isBlank with
    | '!' :: rest => (.not e, rest.dropWhile Text.isBlank)
    | rest => (e, rest)
  match address? extended cs with
  | none => negated .always cs
  | some (a, ',' :: rest) =>
    match address? extended rest with
    | some (b, rest) => negated (.range a b) rest
    | none => (.one a, ',' :: rest)
  | some (a, rest) => negated (.one a) rest

def steps? (extended : Bool) : (fuel : Nat) → List Char → Option (List Step)
  | 0, _ => none
  | fuel + 1, cs =>
    match cs.dropWhile fun c => Text.isBlank c || c == ';' with
    | [] => some []
    | cs => do
      let (e, rest) := extent extended cs
      let line (rest : List Char) : Bytes × List Char :=
        let rest := rest.dropWhile fun c => c == ' ' || c == '\\' || c == '\n'
        let text := rest.takeWhile (· ≠ '\n')
        (text ++ ['\n'], rest.drop text.length)
      match rest with
      | 'd' :: rest => (steps? extended fuel rest).map (⟨e, .delete, false⟩ :: ·)
      | 'p' :: rest => (steps? extended fuel rest).map (⟨e, .print, false⟩ :: ·)
      | '=' :: rest => (steps? extended fuel rest).map (⟨e, .number, false⟩ :: ·)
      | 'q' :: rest => (steps? extended fuel rest).map (⟨e, .quit, false⟩ :: ·)
      | 'i' :: rest =>
        let (text, rest) := line rest
        (steps? extended fuel rest).map (⟨e, .before text, false⟩ :: ·)
      | 'a' :: rest =>
        let (text, rest) := line rest
        (steps? extended fuel rest).map (⟨e, .after text, false⟩ :: ·)
      | 'c' :: rest =>
        let (text, rest) := line rest
        (steps? extended fuel rest).map (⟨e, .instead text, false⟩ :: ·)
      | 'y' :: mark :: rest =>
        let (old, rest) ← upTo? mark rest
        let (new, rest) ← upTo? mark rest
        (steps? extended fuel rest).map (⟨e, .exchange old new, false⟩ :: ·)
      | 's' :: mark :: rest =>
        let (old, rest) ← upTo? mark rest
        let (new, rest) ← upTo? mark rest
        let marks := rest.takeWhile fun c => "gpiI".toList.contains c || Text.isDigitIn 10 c
        let which := Text.ofDigits 10 (marks.filter (Text.isDigitIn 10))
        let p ← compile? extended (marks.contains 'i' || marks.contains 'I') old
        (steps? extended fuel (rest.drop marks.length)).map
          (⟨e, .substitute p new (marks.contains 'g') (marks.contains 'p') (which - 1), false⟩ :: ·)
      | _ => none

def Address.holds (a : Address) (number : Nat) (isLast : Bool) (text : Bytes) : Bool :=
  match a with
  | line n => n == number
  | last => isLast
  | matching p => finds p text

/-- Whether an edit is for a line, and whether its range is open after that. -/
def Extent.holds (number : Nat) (isLast : Bool) (text : Bytes) (isOpen : Bool) :
    Extent → Bool × Bool
  | always => (true, false)
  | one a => (a.holds number isLast text, false)
  | range first final =>
    if isOpen then
      match final with
      | .line n => (number ≤ n || first.holds number isLast text, number < n)
      | a => (true, !a.holds number isLast text)
    else if first.holds number isLast text then
      match final with
      | .line n => (true, number < n)
      | .last => (true, !isLast)
      | .matching _ => (true, true)
    else (false, false)
  | not e =>
    let (holds, isOpen) := e.holds number isLast text isOpen
    (!holds, isOpen)

/-- What the edits make of a line. -/
structure Outcome where
  /-- Printed before the line, and after it. -/
  before : Bytes := []
  after : Bytes := []
  /-- The line, unless it was deleted. -/
  text : Option Bytes
  stops : Bool := false

def editLine (number : Nat) (isLast : Bool) : List Step → Outcome → List Step × Outcome
  | [], o => ([], o)
  | s :: rest, o =>
    match o.text with
    | none => (s :: rest, o)
    | some text =>
      let (holds, isOpen) := s.extent.holds number isLast text s.isOpen
      let o' : Outcome :=
        if !holds || o.stops then o
        else match s.change with
          | .delete => { o with text := none }
          | .quit => { o with stops := true }
          | .print => { o with before := o.before ++ text ++ ['\n'] }
          | .number => { o with before := o.before ++ (toString number).toList ++ ['\n'] }
          | .before new => { o with before := o.before ++ new }
          | .after new => { o with after := o.after ++ new }
          | .instead new => { o with before := o.before ++ new, text := none }
          | .exchange old new =>
            { o with text := some (text.map fun c => ((old.idxOf? c).bind (new[·]?)).getD c) }
          | .substitute p new all shows skip =>
            let (text, done) := substitute p new all text (text.length + 2) skip none 0
            { o with
              text := some text
              before := if done && shows then o.before ++ text ++ ['\n'] else o.before }
      let (rest, o') := editLine number isLast rest o'
      ({ s with isOpen := isOpen } :: rest, o')

/-- Edits lines, which keep their line ends. -/
def editAll (quiet : Bool) : (number : Nat) → List Step → List Bytes → Bytes
  | _, _, [] => []
  | number, steps, line :: rest =>
    let lineEnd := line.filter (· == '\n')
    let (steps, o) := editLine number rest.isEmpty steps { text := some (line.filter (· ≠ '\n')) }
    let own := match o.text with
      | some text => if quiet then [] else text ++ lineEnd
      | none => []
    o.before ++ own ++ o.after ++ (if o.stops then [] else editAll quiet (number + 1) steps rest)

end Landing.Shell.Edit
