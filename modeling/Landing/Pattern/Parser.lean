import Landing.Pattern.Form

/-! The written form of patterns. -/
namespace Landing.Pattern
open Landing.Unicode

/-- Why a text is no pattern. -/
inductive Fault where
  | unclosedGroup | unopenedGroup | lookAround
  | invalidGroupName | duplicateGroupName | invalidFlags
  | unclosedClass | invalidClass
  | missingOperand | invalidCount
  | invalidEscape | unknownProperty
  /-- It could match a part of a character. -/
  | notText
  | tooDeep | tooLarge
  deriving DecidableEq, Repr

def Fault.message : Fault → String
  | unclosedGroup => "unclosed group"
  | unopenedGroup => "unopened group"
  | lookAround => "look-around is not supported"
  | invalidGroupName => "invalid group name"
  | duplicateGroupName => "duplicate group name"
  | invalidFlags => "invalid flags"
  | unclosedClass => "unclosed character class"
  | invalidClass => "invalid character class"
  | missingOperand => "repetition operator missing expression"
  | invalidCount => "invalid repetition count"
  | invalidEscape => "unrecognized escape sequence"
  | unknownProperty => "Unicode property not found"
  | notText => "pattern can match invalid UTF-8"
  | tooDeep => "pattern is nested too deeply"
  | tooLarge => "compiled pattern exceeds size limit"

/-- A pattern that is being read. Where `ignoreBlank` holds, blanks and comments do not count. -/
structure Reading where
  rest : List Char
  ignoreBlank : Bool := false
  groups : Nat := 0
  names : List (List Char) := []
  deriving Repr, Inhabited

abbrev Result (α : Type) := Except Fault (α × Reading)

/-- Forms may be nested this deep. -/
def deepest : Nat := 250

/-- Without blanks and comments at the front. -/
def skipRemarks : (inComment : Bool) → List Char → List Char
  | _, [] => []
  | true, c :: rest => skipRemarks (c != '\n') rest
  | false, c :: rest =>
    if c == '#' then skipRemarks true rest
    else if Text.isBlank c then skipRemarks false rest
    else c :: rest

namespace Reading

/-- The reading with `rest` still to come. -/
def moveTo (r : Reading) (rest : List Char) : Reading := { r with rest := rest }

/-- Where blanks do not count they are skipped. -/
def skip (r : Reading) : Reading :=
  if r.ignoreBlank then r.moveTo (skipRemarks false r.rest) else r

/-- After the next character and what is skipped behind it. -/
def advance (r : Reading) : Reading := (r.moveTo r.rest.tail).skip

end Reading

/-- The characters at the front that satisfy `p`, and the rest. With `ignoreBlank`, blanks and
comments behind each of them are skipped. -/
def collect (ignoreBlank : Bool) (p : Char → Bool) : (inComment : Bool) → List Char →
    List Char × List Char
  | _, [] => ([], [])
  | true, c :: rest => collect ignoreBlank p (c != '\n') rest
  | false, c :: rest =>
    if ignoreBlank && c == '#' then collect ignoreBlank p true rest
    else if ignoreBlank && Text.isBlank c then collect ignoreBlank p false rest
    else if p c then
      let (cs, after) := collect ignoreBlank p false rest
      (c :: cs, after)
    else ([], c :: rest)

def Reading.collect (r : Reading) (p : Char → Bool) : List Char × Reading :=
  let (cs, rest) := Pattern.collect r.ignoreBlank p false r.rest
  (cs, r.moveTo rest)

/-! Escapes. -/

def isMeta (c : Char) : Bool :=
  ['\\', '.', '+', '*', '?', '(', ')', '|', '[', ']', '\x7b', '\x7d', '^', '$', '#', '&', '-',
    '~'].contains c

/-- ASCII characters without a meaning of their own after a backslash. -/
def isPlainEscape (c : Char) : Bool :=
  isMeta c || (c.toNat < 0x80 && !c.isAlphanum && c != '<' && c != '>')

def hexValue? (c : Char) : Option Nat :=
  if '0' ≤ c && c ≤ '9' then some (c.toNat - '0'.toNat)
  else if 'a' ≤ c && c ≤ 'f' then some (c.toNat - 'a'.toNat + 10)
  else if 'A' ≤ c && c ≤ 'F' then some (c.toNat - 'A'.toNat + 10)
  else none

/-- The number that hexadecimal digits write. -/
def hexNumber? (cs : List Char) : Option Nat :=
  if cs.isEmpty then none
  else cs.foldlM (fun n c => (hexValue? c).map (16 * n + ·)) 0

/-- The character with this number. -/
def charOf? (n : Nat) : Option Char :=
  if n < 0xD800 || (0xDFFF < n && n ≤ 0x10FFFF) then some (Char.ofNat n) else none

/-- Exactly `width` characters, with what is skipped behind each. -/
def take? : (width : Nat) → Reading → Option (List Char × Reading)
  | 0, r => some ([], r)
  | width + 1, r =>
    match r.rest with
    | [] => none
    | c :: _ => (take? width r.advance).map fun (cs, after) => (c :: cs, after)

/-- After `\x`, `\u` or `\U`: digits between braces, or `width` digits. -/
def hexEscape (width : Nat) (r : Reading) : Result Literal :=
  match r.skip.rest with
  | '\x7b' :: _ =>
    let (digits, r) := r.skip.advance.collect (· != '\x7d')
    match r.rest, (hexNumber? digits).bind charOf? with
    | '\x7d' :: _, some c => .ok (⟨c, false⟩, r.advance)
    | _, _ => .error .invalidEscape
  | _ =>
    match take? width r.skip with
    | none => .error .invalidEscape
    | some (digits, r) =>
      match (hexNumber? digits).bind charOf? with
      | none => .error .invalidEscape
      | some c => .ok (⟨c, width == 2⟩, r)

/-- The texts around the first place in `cs` where `mark` stands. -/
def splitOnce? (mark : List Char) : List Char → Option (List Char × List Char)
  | [] => none
  | c :: rest =>
    match Text.strip? mark (c :: rest) with
    | some after => some ([], after)
    | none => (splitOnce? mark rest).map fun (before, after) => (c :: before, after)

/-- A property by its name, or by its name and one of its values; `!=` asks for all other values. -/
def propertyForm (negated : Bool) (name : List Char) : Bool × NamedSet :=
  match splitOnce? ['!', '='] name with
  | some (property, value) => (!negated, .valued property value)
  | none =>
    match (splitOnce? [':'] name).orElse fun _ => splitOnce? ['='] name with
    | some (property, value) => (negated, .valued property value)
    | none => (negated, .property name)

/-- After `\p` or `\P`. -/
def propertyEscape (negated : Bool) (r : Reading) : Result (Bool × NamedSet) :=
  match r.skip.rest with
  | [] | '\\' :: _ => .error .invalidEscape
  | '\x7b' :: _ =>
    let (name, r) := r.skip.advance.collect (· != '\x7d')
    match r.rest with
    | '\x7d' :: rest => .ok (propertyForm negated name, r.moveTo rest)
    | _ => .error .invalidEscape
  | c :: _ => .ok ((negated, .property [c]), r.skip.advance)

/-- The edges of words that have names. -/
def namedEdges : List (String × Place) :=
  [("start", .wordStart), ("end", .wordEnd), ("start-half", .wordStartHalf),
    ("end-half", .wordEndHalf)]

/-- After `\b`: a name between braces, or nothing. Braces that hold no name are left to be read as
a count. -/
def edgeEscape (r : Reading) : Result Place :=
  let inName (c : Char) : Bool := c.isAlpha || c == '-'
  match r.rest with
  | '\x7b' :: _ =>
    let inner := r.advance
    match inner.rest with
    | [] => .error .invalidEscape
    | c :: _ =>
      if !inName c then .ok (.wordEdge, r)
      else
        let (name, after) := inner.collect inName
        match after.rest, namedEdges.lookup (String.ofList name) with
        | '\x7d' :: rest, some place => .ok (place, r.moveTo rest)
        | _, _ => .error .invalidEscape
  | _ => .ok (.wordEdge, r)

/-- Controls with letters of their own. -/
def controls : List (Char × Char) :=
  [('a', '\x07'), ('f', '\x0c'), ('t', '\t'), ('n', '\n'), ('r', '\r'), ('v', '\x0b')]

/-- After a backslash. -/
def escape (r : Reading) : Result Form :=
  match r.rest with
  | [] => .error .invalidEscape
  | c :: rest =>
    let r := r.moveTo rest
    let shorthand (negated : Bool) (s : Shorthand) : Result Form :=
      .ok (.named negated (.shorthand s), r)
    let place (p : Place) : Result Form := .ok (.place p, r)
    if isPlainEscape c then .ok (.literal ⟨c, false⟩, r)
    else match controls.lookup c with
      | some control => .ok (.literal ⟨control, false⟩, r)
      | none =>
        match c with
        | 'x' => (hexEscape 2 r).map fun (l, r) => (.literal l, r)
        | 'u' => (hexEscape 4 r).map fun (l, r) => (.literal l, r)
        | 'U' => (hexEscape 8 r).map fun (l, r) => (.literal l, r)
        | 'p' => (propertyEscape false r).map fun (s, r) => (.named s.1 s.2, r)
        | 'P' => (propertyEscape true r).map fun (s, r) => (.named s.1 s.2, r)
        | 'd' => shorthand false .digit
        | 'D' => shorthand true .digit
        | 's' => shorthand false .blank
        | 'S' => shorthand true .blank
        | 'w' => shorthand false .word
        | 'W' => shorthand true .word
        | 'A' => place .textStart
        | 'z' => place .textEnd
        | 'b' => (edgeEscape r).map fun (p, r) => (.place p, r)
        | 'B' => place .noWordEdge
        | '<' => place .wordStart
        | '>' => place .wordEnd
        | _ => .error .invalidEscape

/-! Character classes. -/

/-- `[:name:]` or `[:^name:]` after its first bracket. -/
def asciiClass? (r : Reading) : Option (ClassForm × Reading) :=
  match r.rest with
  | ':' :: rest =>
    let (negated, rest) := match rest with
      | '^' :: rest => (true, rest)
      | rest => (false, rest)
    match rest.span (· != ':') with
    | (name, ':' :: ']' :: after) =>
      (Sets.ofAsciiName? (String.ofList name)).map fun s => (.ascii negated s, r.moveTo after)
    | _ => none
  | _ => none

/-- A character or a named set inside a class. -/
def classPrimitive (r : Reading) : Result ClassForm :=
  match r.rest with
  | [] => .error .unclosedClass
  | '\\' :: rest =>
    match escape (r.moveTo rest) with
    | .error fault => .error fault
    | .ok (.literal l, r) => .ok (.literal l, r)
    | .ok (.named negated s, r) => .ok (.named negated s, r)
    | .ok _ => .error .invalidClass
  | c :: rest => .ok (.literal ⟨c, false⟩, r.moveTo rest)

/-- The character that decides whether a hyphen in front of `cs` makes a range. Where blanks do not
count it is sought behind blanks and one number sign. -/
def decisive? (ignoreBlank : Bool) (cs : List Char) : Option Char :=
  if !ignoreBlank then cs.head?
  else match cs.dropWhile Text.isBlank with
    | '#' :: rest => (rest.dropWhile Text.isBlank).head?
    | rest => rest.head?

/-- A character, a named set or a range inside a class. -/
def classItem (r : Reading) : Result ClassForm :=
  match classPrimitive r with
  | .error fault => .error fault
  | .ok (first, r) =>
    let r := r.skip
    match r.rest with
    | [] => .error .unclosedClass
    | '-' :: rest =>
      let next := decisive? r.ignoreBlank rest
      if next == some ']' || next == some '-' then .ok (first, r)
      else match classPrimitive r.advance with
        | .error fault => .error fault
        | .ok (second, r) =>
          match first, second with
          | .literal low, .literal high =>
            if low.char ≤ high.char then .ok (.range low high, r) else .error .invalidClass
          | _, _ => .error .invalidClass
    | _ => .ok (first, r)

/-- How many hyphens stand at the front, and what follows them. -/
def leadingHyphens : (fuel : Nat) → Reading → Nat × Reading
  | 0, r => (0, r)
  | fuel + 1, r =>
    match r.rest with
    | '-' :: _ =>
      let (n, after) := leadingHyphens fuel r.advance
      (n + 1, after)
    | _ => (0, r)

/-- What waits on the left of an operation. -/
abbrev Waiting := Option (SetOperation × ClassForm)

/-- The forms of a part, latest first, with the operation that waits for them. -/
def operate (waiting : Waiting) (latest : List ClassForm) : ClassForm :=
  let form := ClassForm.ofList latest.reverse
  match waiting with
  | none => form
  | some (op, lhs) => .operation op lhs form

mutual

/-- A class at its opening bracket, in `depth` others. Hyphens at its front stand for themselves,
as does a closing bracket. -/
def classOpen : (fuel depth : Nat) → Reading → Result ClassForm
  | 0, _, _ => .error .tooDeep
  | fuel + 1, depth, r =>
    if deepest < depth then .error .tooDeep
    else
      let r := r.advance
      let (negated, r) := match r.rest with
        | '^' :: _ => (true, r.advance)
        | _ => (false, r)
      let (n, r) := leadingHyphens r.rest.length r
      let hyphens := List.replicate n (ClassForm.literal ⟨'-', false⟩)
      let (latest, r) := match n, r.rest with
        | 0, ']' :: _ => ([.literal ⟨']', false⟩], r.advance)
        | _, _ => (hyphens, r)
      (classBody fuel depth none latest r).map fun (form, r) => (.bracketed negated form, r)

/-- The rest of a class, with what was read of it. -/
def classBody : (fuel depth : Nat) → Waiting → (latest : List ClassForm) → Reading →
    Result ClassForm
  | 0, _, _, _, _ => .error .tooDeep
  | fuel + 1, depth, waiting, latest, r =>
    let r := r.skip
    let operation (op : SetOperation) (rest : List Char) : Result ClassForm :=
      classBody fuel depth (some (op, operate waiting latest)) [] (r.moveTo rest)
    match r.rest with
    | [] => .error .unclosedClass
    | ']' :: rest => .ok (operate waiting latest, r.moveTo rest)
    | '&' :: '&' :: rest => operation .inter rest
    | '-' :: '-' :: rest => operation .diff rest
    | '~' :: '~' :: rest => operation .symmDiff rest
    | '[' :: rest =>
      match asciiClass? (r.moveTo rest) with
      | some (form, r) => classBody fuel depth waiting (form :: latest) r
      | none =>
        match classOpen fuel (depth + 1) r with
        | .error fault => .error fault
        | .ok (form, r) => classBody fuel depth waiting (form :: latest) r
    | _ =>
      match classItem r with
      | .error fault => .error fault
      | .ok (form, r) => classBody fuel depth waiting (form :: latest) r

end

/-! Repetition. -/

/-- A decimal number with blanks around it. -/
def countNumber? (ignoreBlank : Bool) (cs : List Char) : Option Nat × List Char :=
  let (digits, rest) := collect ignoreBlank Char.isDigit false (cs.dropWhile Text.isBlank)
  let rest := rest.dropWhile Text.isBlank
  if digits.isEmpty then (none, rest)
  else (some (digits.foldl (fun n c => 10 * n + (c.toNat - '0'.toNat)) 0), rest)

/-- The bounds of a counted repetition at its opening brace. -/
def countBounds (r : Reading) : Result (Nat × Option Nat) :=
  let r := r.advance
  match countNumber? r.ignoreBlank r.rest with
  | (none, _) => .error .invalidCount
  | (some least, rest) =>
    let bounds := match rest with
      | ',' :: _ =>
        let r := (r.moveTo rest).advance
        match r.rest with
        | '\x7d' :: _ => some (none, r.rest)
        | rest =>
          match countNumber? r.ignoreBlank rest with
          | (none, _) => none
          | (some most, rest) => some (some most, rest)
      | rest => some (some least, rest)
    match bounds with
    | some (most, '\x7d' :: rest) =>
      if least < UInt32.size && most.all fun m => least ≤ m && m < UInt32.size then
        .ok ((least, most), (r.moveTo rest).skip)
      else .error .invalidCount
    | _ => .error .invalidCount

/-- The repetition operators after an operand. -/
def repetitions : (fuel : Nat) → Form → Reading → Result Form
  | 0, _, _ => .error .tooDeep
  | fuel + 1, form, r =>
    let r := r.skip
    let repeated (least : Nat) (most : Option Nat) (r : Reading) : Result Form :=
      match form with
      | .flags _ => .error .missingOperand
      | form =>
        match r.rest with
        | '?' :: rest => repetitions fuel (.repetition least most false form) (r.moveTo rest)
        | _ => repetitions fuel (.repetition least most true form) r
    match r.rest with
    | '*' :: rest => repeated 0 none (r.moveTo rest)
    | '+' :: rest => repeated 1 none (r.moveTo rest)
    | '?' :: rest => repeated 0 (some 1) (r.moveTo rest)
    | '\x7b' :: _ =>
      match countBounds r with
      | .error fault => .error fault
      | .ok ((least, most), r) => repeated least most r
    | _ => .ok (form, r)

/-! Groups and flags. -/

def flagOf? : Char → Option Flag
  | 'i' => some .ignoreCase
  | 'm' => some .multiLine
  | 's' => some .dotAll
  | 'U' => some .swapGreed
  | 'u' => some .unicode
  | 'x' => some .ignoreBlank
  | 'R' => some .crlf
  | _ => none

/-- Flags up to `:` or `)`, which is told with what follows it: each flag once, a hyphen once and
not at the end. -/
def readFlags (used : List Char) (on : Bool) : List Char →
    Except Fault (FlagChanges × Char × List Char)
  | [] => .error .invalidFlags
  | c :: rest =>
    if c == ':' || c == ')' then
      if used.head? == some '-' then .error .invalidFlags else .ok ([], c, rest)
    else if used.contains c then .error .invalidFlags
    else if c == '-' then readFlags (c :: used) false rest
    else match flagOf? c with
      | none => .error .invalidFlags
      | some flag =>
        (readFlags (c :: used) on rest).map fun (changes, after) => ((flag, on) :: changes, after)

/-- Whether blanks count after `changes`. -/
def blankAfter (changes : FlagChanges) (ignoreBlank : Bool) : Bool :=
  (changes.lookup .ignoreBlank).getD ignoreBlank

def isNameStart (c : Char) : Bool :=
  c == '_' || Property.alphabetic.contains c ||
    (latestCategory c).isLetter || latestCategory c == .Nl

def isNameChar (c : Char) : Bool :=
  isNameStart c || c == '.' || c == '[' || c == ']' || (latestCategory c).isNumber

/-- The name of a group up to `>`. -/
def groupName (r : Reading) : Result (List Char) :=
  match r.rest.span (· != '>') with
  | (c :: cs, '>' :: after) =>
    if !isNameStart c || !cs.all isNameChar then .error .invalidGroupName
    else if r.names.contains (c :: cs) then .error .duplicateGroupName
    else .ok (c :: cs, { r with rest := after, names := (c :: cs) :: r.names })
  | _ => .error .invalidGroupName

def isLookAround (cs : List Char) : Bool :=
  ["?=", "?!", "?<=", "?<!"].any fun mark => (Text.strip? mark.toList cs).isSome

/-- What an opening parenthesis begins: a group with or without a number, or flags for the rest of
the group around it. -/
inductive Opening where
  | numbered (index : Nat)
  | unnumbered (changes : FlagChanges)
  | flags (changes : FlagChanges)

/-- After an opening parenthesis. -/
def groupOpen (r : Reading) : Result Opening :=
  let r := r.skip
  let numbered (r : Reading) : Result Opening :=
    .ok (.numbered (r.groups + 1), { r with groups := r.groups + 1 })
  let name? := (Text.strip? "?P<".toList r.rest).orElse fun _ => Text.strip? "?<".toList r.rest
  if isLookAround r.rest then .error .lookAround
  else match name?, r.rest with
    | some after, _ =>
      match groupName (r.moveTo after) with
      | .error fault => .error fault
      | .ok (_, r) => numbered r
    | none, '?' :: rest =>
      match readFlags [] true rest with
      | .error fault => .error fault
      | .ok ([], ')', _) => .error .missingOperand
      | .ok (changes, ')', after) =>
        .ok (.flags changes,
          { r with rest := after, ignoreBlank := blankAfter changes r.ignoreBlank })
      | .ok (changes, _, after) =>
        .ok (.unnumbered changes,
          { r with rest := after, ignoreBlank := blankAfter changes r.ignoreBlank })
    | none, _ => numbered r

/-- A form that is no group. -/
def primitive (r : Reading) : Result Form :=
  match r.rest with
  | [] => .error .missingOperand
  | '\\' :: rest => escape (r.moveTo rest)
  | '[' :: rest =>
    match classOpen (2 * rest.length + 2) 1 r with
    | .ok (.bracketed negated form, r) => .ok (.bracketed negated form, r)
    | .ok _ => .error .invalidClass
    | .error fault => .error fault
  | '.' :: rest => .ok (.dot, r.moveTo rest)
  | '^' :: rest => .ok (.place .lineStart, r.moveTo rest)
  | '$' :: rest => .ok (.place .lineEnd, r.moveTo rest)
  | c :: rest => .ok (.literal ⟨c, false⟩, r.moveTo rest)

/-- All alternatives, of which `latest` is the last. -/
def choiceOf (earlier latest : List Form) : Form :=
  .ofChoice (.ofSequence latest.reverse :: earlier).reverse

mutual

/-- Alternatives up to a closing parenthesis or the end, inside `depth` groups. `earlier` holds
those before this one, and `latest` what was read of this one, both latest first. -/
def alternatives : (fuel depth : Nat) → (earlier latest : List Form) → Reading → Result Form
  | 0, _, _, _, _ => .error .tooDeep
  | fuel + 1, depth, earlier, latest, r =>
    let r := r.skip
    match r.rest with
    | [] => .ok (choiceOf earlier latest, r)
    | c :: rest =>
      if c == ')' then .ok (choiceOf earlier latest, r)
      else if c == '|' then
        alternatives fuel depth (.ofSequence latest.reverse :: earlier) [] (r.moveTo rest)
      else if c == '*' || c == '+' || c == '?' || c == '\x7b' then .error .missingOperand
      else match operand fuel depth r with
        | .error fault => .error fault
        | .ok (form, r) =>
          match repetitions fuel form r with
          | .error fault => .error fault
          | .ok (form, r) => alternatives fuel depth earlier (form :: latest) r

/-- A primitive, a group, or flags, which are no operand of a repetition. -/
def operand : (fuel depth : Nat) → Reading → Result Form
  | 0, _, _ => .error .tooDeep
  | fuel + 1, depth, r =>
    match r.rest with
    | '(' :: rest =>
      match groupOpen (r.moveTo rest) with
      | .error fault => .error fault
      | .ok (.flags changes, inner) => .ok (.flags changes, inner)
      | .ok (.numbered index, inner) =>
        (enclosed fuel (depth + 1) r.ignoreBlank inner).map fun (form, r) =>
          (.numbered index form, r)
      | .ok (.unnumbered changes, inner) =>
        (enclosed fuel (depth + 1) r.ignoreBlank inner).map fun (form, r) =>
          (.unnumbered changes form, r)
    | _ => primitive r

/-- The inside of a group and its closing parenthesis, after which blanks count as before. -/
def enclosed : (fuel depth : Nat) → (ignoreBlank : Bool) → Reading → Result Form
  | 0, _, _, _ => .error .tooDeep
  | fuel + 1, depth, ignoreBlank, r =>
    if deepest < depth then .error .tooDeep
    else match alternatives fuel depth [] [] r with
      | .error fault => .error fault
      | .ok (form, after) =>
        match after.rest with
        | ')' :: rest => .ok (form, { after with rest := rest, ignoreBlank := ignoreBlank })
        | _ => .error .unclosedGroup

end

/-- Reads a pattern. -/
def Form.parse (s : String) : Except Fault Form :=
  let cs := s.toList
  match alternatives (4 * cs.length + 4) 0 [] [] { rest := cs } with
  | .error fault => .error fault
  | .ok (form, r) =>
    if !r.rest.isEmpty then .error .unopenedGroup
    else if deepest < form.height then .error .tooDeep
    else .ok form

end Landing.Pattern
