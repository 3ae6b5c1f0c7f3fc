import Landing.Shell.State

/-! The tests of scripts: conditions on files, texts and numbers. -/
namespace Landing.Shell.Test

/-- What makes a test fail to be one. -/
inductive Fault where
  | noNumber (word : Bytes)
  | noOperand (mark : Bytes)
  | unexpected (word : Bytes)
  | noBracket
  deriving DecidableEq, Repr

def Fault.message : Fault → String
  | noNumber word => "Illegal number: " ++ String.ofList word
  | noOperand mark => String.ofList mark ++ ": argument expected"
  | unexpected word => String.ofList word ++ ": unexpected operator"
  | noBracket => "closing paren expected"

/-- The number that a word writes. -/
def number? (cs : Bytes) : Option Int :=
  match Arithmetic.signed? cs with
  | some _ =>
    let digits := cs.dropWhile fun c => Text.isBlank c || c == '-' || c == '+'
    let run := digits.takeWhile (Text.isDigitIn 10)
    if !run.isEmpty && (digits.drop run.length).all Text.isBlank then
      some (if cs.contains '-' then -(Text.ofDigits 10 run) else Text.ofDigits 10 run)
    else none
  | none => none

def isUnary (word : Bytes) : Bool :=
  match word with
  | ['-', c] => "rwxefdcbpugkLhSstOGnz".toList.contains c
  | _ => false

/-- Whether a test of one operand holds. -/
def unary (s : State) (mark : Bytes) (a : Bytes) : Bool :=
  let file := s.file? a
  match mark with
  | ['-', 'n'] => !a.isEmpty
  | ['-', 'z'] => a.isEmpty
  | ['-', 'e'] | ['-', 'r'] | ['-', 'w'] | ['-', 'O'] | ['-', 'G'] => s.hasPath a
  | ['-', 'f'] => file.isSome || s.isProgram a
  | ['-', 'd'] => s.isDirectory a
  | ['-', 's'] =>
    file.any (!·.bytes.isEmpty) || s.isDirectory a || s.isProgram a
  | ['-', 'x'] => file.any (·.executable) || s.isDirectory a || s.isProgram a
  | ['-', 'c'] => a = "/dev/null".toList
  | _ => false

def isBinary (word : Bytes) : Bool :=
  ["=", "!=", "<", ">", "-eq", "-ne", "-lt", "-le", "-gt", "-ge", "-nt", "-ot", "-ef"].contains
    (String.ofList word)

/-- Whether a test of two operands holds. -/
def binary (s : State) (mark : Bytes) (a b : Bytes) : Except Fault Bool :=
  let compare (f : Int → Int → Bool) : Except Fault Bool :=
    match number? a, number? b with
    | none, _ => .error (.noNumber a)
    | _, none => .error (.noNumber b)
    | some n, some m => .ok (f n m)
  match String.ofList mark with
  | "=" => .ok (a == b)
  | "!=" => .ok (a != b)
  | "<" => .ok (a < b)
  | ">" => .ok (b < a)
  | "-eq" => compare (· == ·)
  | "-ne" => compare (· != ·)
  | "-lt" => compare (· < ·)
  | "-le" => compare (· ≤ ·)
  | "-gt" => compare (· > ·)
  | "-ge" => compare (· ≥ ·)
  | "-nt" => .ok (s.hasPath a && !s.hasPath b)
  | "-ot" => .ok (!s.hasPath a && s.hasPath b)
  | _ => .ok (s.hasPath a && s.place a = s.place b)

/-- A mark that stands where an operand is due is one if what follows says so. -/
def isOperand (rest : List Bytes) : Bool :=
  match rest with
  | [] => true
  | [_] => false
  | word :: _ :: _ => isBinary word

mutual

/-- Tests of which one has to hold, and the words behind them. -/
def anyOf (s : State) : (fuel : Nat) → List Bytes → Except Fault (Bool × List Bytes)
  | 0, _ => .error .noBracket
  | fuel + 1, words => do
    let (a, rest) ← allOf s fuel words
    match rest with
    | ['-', 'o'] :: rest =>
      let (b, rest) ← anyOf s fuel rest
      .ok (a || b, rest)
    | rest => .ok (a, rest)

/-- Tests that have to hold together. -/
def allOf (s : State) : (fuel : Nat) → List Bytes → Except Fault (Bool × List Bytes)
  | 0, _ => .error .noBracket
  | fuel + 1, words => do
    let (a, rest) ← single s fuel words
    match rest with
    | ['-', 'a'] :: rest =>
      let (b, rest) ← allOf s fuel rest
      .ok (a && b, rest)
    | rest => .ok (a, rest)

def single (s : State) : (fuel : Nat) → List Bytes → Except Fault (Bool × List Bytes)
  | 0, _ => .error .noBracket
  | fuel + 1, words =>
    match words with
    | [] => .ok (false, [])
    | ['!'] :: rest => do
      let (a, rest) ← single s fuel rest
      .ok (!a, rest)
    | ['('] :: [] => .ok (true, [])
    | ['('] :: [')'] :: rest => .ok (false, rest)
    | ['('] :: rest => do
      let (a, rest) ← anyOf s fuel rest
      match rest with
      | [')'] :: rest => .ok (a, rest)
      | _ => .error .noBracket
    | a :: rest =>
      if isUnary a && !isOperand rest then
        match rest with
        | b :: rest => .ok (unary s a b, rest)
        | [] => .error (.noOperand a)
      else
        match rest with
        | mark :: rest' =>
          if isBinary mark then
            match rest' with
            | b :: rest => do .ok (← binary s mark a b, rest)
            | [] => .error (.noOperand mark)
          else .ok (!a.isEmpty, rest)
        | [] => .ok (!a.isEmpty, [])

end

/-- A whole test with nothing left over. -/
def whole (s : State) (words : List Bytes) : Except Fault Bool := do
  let (a, rest) ← anyOf s (4 * words.length + 4) words
  match rest with
  | [] => .ok a
  | _ :: _ => .error (.unexpected (words.getD (words.length - rest.length - 1) []))

/-- Whether a test holds. How many words there are decides what is an operand. -/
def holds (s : State) : (fuel : Nat) → List Bytes → Except Fault Bool
  | 0, _ => .error .noBracket
  | fuel + 1, words =>
    match words with
    | [] => .ok false
    | [a] => .ok (!a.isEmpty)
    | [a, mark, b] =>
      if isBinary mark then binary s mark a b
      else if a = ['('] && b = [')'] then holds s fuel [mark]
      else if a = ['!'] then (!·) <$> holds s fuel [mark, b]
      else whole s words
    | [a, b, c, d] =>
      if a = ['('] && d = [')'] then holds s fuel [b, c]
      else if a = ['!'] then (!·) <$> holds s fuel [b, c, d]
      else whole s words
    | words => whole s words

end Landing.Shell.Test
