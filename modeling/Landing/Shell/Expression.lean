import Landing.Shell.Edit
import Landing.Shell.Test

/-! Expressions whose words are arguments of a command. Every reader gives a value and the rest. -/
namespace Landing.Shell.Expression

inductive Fault where
  /-- The words end too soon. -/
  | unfinished
  | unclosed
  | notClosed (word : Bytes)
  | closing
  | unexpected (word : Bytes)
  | noInteger
  | divisionByZero
  deriving DecidableEq, Repr

/-- What is said about a fault. `last` is the last word. -/
def Fault.message (last : Bytes) : Fault → String
  | unfinished => "syntax error: missing argument after " ++ quoted last
  | unclosed => "syntax error: expecting ')' after " ++ quoted last
  | notClosed word => "syntax error: expecting ')' instead of " ++ quoted word
  | closing => "syntax error: unexpected ')'"
  | unexpected word => "syntax error: unexpected argument " ++ quoted word
  | noInteger => "non-integer argument"
  | divisionByZero => "division by zero"
where
  quoted (word : Bytes) : String := "'" ++ String.ofList word ++ "'"

/-- An integer has no blanks around it and no plus sign. -/
def integer? (a : Bytes) : Option Int :=
  if a.all fun c => Text.isDigitIn 10 c || c == '-' then Test.number? a else none

/-- Empty texts and zeros. -/
def isNull (a : Bytes) : Bool :=
  a.isEmpty || ((a.all fun c => c == '0' || c == '-') && integer? a = some 0)

def ofTruth (b : Bool) : Bytes := if b then ['1'] else ['0']

def ofNat (n : Nat) : Bytes := (toString n).toList

/-- Matches a pattern at the start: the text of its group, or the length of the match. -/
def fit (a pattern : Bytes) : Bytes :=
  let hasGroup := (pattern.zip pattern.tail).contains ('\\', '(')
  match (Edit.compile? false false ('^' :: pattern)).bind (·.search none 0 ∅ a) with
  | none => if hasGroup then [] else ['0']
  | some captures =>
    match captures.ends? 2, captures.ends? 1 with
    | some (x, y), _ => (a.drop x).take (y - x)
    | none, some (x, y) => if hasGroup then [] else ofNat (y - x)
    | none, none => ['0']

/-- The place of the first character that is one of some others. -/
def placeOf (a chars : Bytes) : Nat :=
  match a.findIdx? chars.contains with
  | some i => i + 1
  | none => 0

/-- A part of a text, from a place on. -/
def part (a start length : Bytes) : Bytes :=
  match integer? start, integer? length with
  | some i, some n => if 0 < i && 0 < n then (a.drop (i - 1).toNat).take n.toNat else []
  | _, _ => []

/-- How strongly an operator binds. Other words have no strength. -/
def strength (mark : Bytes) : Nat :=
  match String.ofList mark with
  | "|" => 1
  | "&" => 2
  | "<" | "<=" | "=" | "==" | "!=" | ">=" | ">" => 3
  | "+" | "-" => 4
  | "*" | "/" | "%" => 5
  | ":" => 6
  | _ => 0

/-- Numbers are compared as numbers, and else texts as texts. -/
def compare (f : Int → Int → Bool) (g : String → String → Bool) (a b : Bytes) : Bytes :=
  ofTruth (match integer? a, integer? b with
    | some n, some m => f n m
    | _, _ => g (String.ofList a) (String.ofList b))

def calculate (f : Int → Int → Except Fault Int) (a b : Bytes) : Except Fault Bytes :=
  match integer? a, integer? b with
  | some n, some m => (f n m).map fun r => (toString r).toList
  | _, _ => .error .noInteger

def combine (mark a b : Bytes) : Except Fault Bytes :=
  match String.ofList mark with
  | "|" => .ok (if isNull a then (if isNull b then ['0'] else b) else a)
  | "&" => .ok (if isNull a || isNull b then ['0'] else a)
  | "<" => .ok (compare (· < ·) (· < ·) a b)
  | "<=" => .ok (compare (· ≤ ·) (· ≤ ·) a b)
  | "=" | "==" => .ok (compare (· == ·) (· == ·) a b)
  | "!=" => .ok (compare (· != ·) (· != ·) a b)
  | ">=" => .ok (compare (fun n m => m ≤ n) (fun a b => b ≤ a) a b)
  | ">" => .ok (compare (fun n m => m < n) (fun a b => b < a) a b)
  | "+" => calculate (fun n m => .ok (n + m)) a b
  | "-" => calculate (fun n m => .ok (n - m)) a b
  | "*" => calculate (fun n m => .ok (n * m)) a b
  | "/" => calculate (fun n m => if m = 0 then .error .divisionByZero else .ok (n.tdiv m)) a b
  | "%" => calculate (fun n m => if m = 0 then .error .divisionByZero else .ok (n.tmod m)) a b
  | _ => .ok (fit a b)

mutual

/-- A text, a function of texts, or an expression between parentheses. -/
def term : (fuel : Nat) → List Bytes → Except Fault (Bytes × List Bytes)
  | 0, _ | _, [] => .error .unfinished
  | fuel + 1, word :: rest =>
    match String.ofList word with
    | "(" => do
      let (a, rest) ← operand fuel 0 rest
      match rest with
      | [] => .error .unclosed
      | w :: rest => if w = [')'] then pure (a, rest) else .error (.notClosed w)
    | ")" => .error .closing
    | "+" =>
      match rest with
      | [] => .error .unfinished
      | a :: rest => pure (a, rest)
    | "length" => do
      let (a, rest) ← term fuel rest
      pure (ofNat a.length, rest)
    | "match" => do
      let (a, rest) ← term fuel rest
      let (b, rest) ← term fuel rest
      pure (fit a b, rest)
    | "index" => do
      let (a, rest) ← term fuel rest
      let (b, rest) ← term fuel rest
      pure (ofNat (placeOf a b), rest)
    | "substr" => do
      let (a, rest) ← term fuel rest
      let (start, rest) ← term fuel rest
      let (length, rest) ← term fuel rest
      pure (part a start length, rest)
    | _ => pure (word, rest)

/-- Terms with operators between them that bind more strongly than `least`. -/
def operand : (fuel least : Nat) → List Bytes → Except Fault (Bytes × List Bytes)
  | 0, _, _ => .error .unfinished
  | fuel + 1, least, words => do
    let (a, rest) ← term fuel words
    further fuel least a rest

def further : (fuel least : Nat) → Bytes → List Bytes → Except Fault (Bytes × List Bytes)
  | 0, _, _, _ => .error .unfinished
  | _, _, a, [] => pure (a, [])
  | fuel + 1, least, a, mark :: rest => do
    if strength mark = 0 || strength mark ≤ least then pure (a, mark :: rest)
    else
      let (b, rest) ← operand fuel (strength mark) rest
      further fuel least (← combine mark a b) rest

end

/-- The value of all words. -/
def value (words : List Bytes) : Except Fault Bytes := do
  match ← operand (8 * words.length + 8) 0 words with
  | (a, []) => pure a
  | (_, word :: _) => .error (.unexpected word)

end Landing.Shell.Expression
