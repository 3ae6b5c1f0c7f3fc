import Landing.Shell.Script
import Landing.Table
import Landing.Text.Blank
import Landing.Text.Digits

/-! Arithmetic of scripts, on integers of 64 bits. -/
namespace Landing.Shell

/-- Operators between two values. -/
inductive Operator where
  | multiply | divide | remainder | add | subtract | shiftLeft | shiftRight
  | less | atMost | greater | atLeast | equal | unequal | bitAnd | bitXor | bitOr
  deriving DecidableEq, Repr

namespace Operator

/-- Keeps 64 bits. -/
def wrap (n : Int) : Int := n.bmod UInt64.size

/-- How far a shift goes: its low six bits count. -/
def distance (n : Int) : Nat := (n % 64).toNat

/-- How tight an operator binds. -/
def strength : Operator → Nat
  | multiply | divide | remainder => 8
  | add | subtract => 7
  | shiftLeft | shiftRight => 6
  | less | atMost | greater | atLeast => 5
  | equal | unequal => 4
  | bitAnd => 3
  | bitXor => 2
  | bitOr => 1

def truth (b : Bool) : Int := if b then 1 else 0

/-- The value of two operands; there is none where zero divides. -/
def result? (o : Operator) (a b : Int) : Option Int :=
  let bits (f : BitVec 64 → BitVec 64 → BitVec 64) : Option Int :=
    some (f (BitVec.ofInt 64 a) (BitVec.ofInt 64 b)).toInt
  match o with
  | multiply => some (wrap (a * b))
  | divide => if b = 0 then none else some (wrap (a.tdiv b))
  | remainder => if b = 0 then none else some (a.tmod b)
  | add => some (wrap (a + b))
  | subtract => some (wrap (a - b))
  | shiftLeft => some (wrap (a * Int.pow 2 (distance b)))
  | shiftRight => some (a >>> distance b)
  | less => some (truth (a < b))
  | atMost => some (truth (a ≤ b))
  | greater => some (truth (b < a))
  | atLeast => some (truth (b ≤ a))
  | equal => some (truth (a == b))
  | unequal => some (truth (a != b))
  | bitAnd => bits (· &&& ·)
  | bitXor => bits (· ^^^ ·)
  | bitOr => bits (· ||| ·)

end Operator

namespace Arithmetic

/-- A number in base ten, eight or sixteen, as its first digits say, and what follows it. A larger
one than 64 bits hold becomes the largest that they do. -/
def number? (cs : List Char) : Option (Int × List Char) :=
  let read (base : Nat) (cs : List Char) : Option (Int × List Char) :=
    let digits := cs.takeWhile (Text.isDigitIn base)
    if digits.isEmpty then none
    else some (min (Text.ofDigits base digits) Int64.maxValue.toInt, cs.drop digits.length)
  match cs with
  | '0' :: 'x' :: rest | '0' :: 'X' :: rest => (read 16 rest).or (some (0, cs.drop 1))
  | '0' :: _ => read 8 cs
  | cs => read 10 cs

/-- The number with its sign in front of a text, and what follows it. -/
def signed? (cs : List Char) : Option (Int × List Char) :=
  match cs.dropWhile Text.isBlank with
  | '-' :: rest => (number? rest).map fun (n, rest) => (-n, rest)
  | '+' :: rest => number? rest
  | cs => number? cs

/-- Pieces of an expression. -/
inductive Mark where
  | number (n : Int)
  | name (s : String)
  | operator (o : Operator)
  /-- Sets a variable, to what an operator makes of its value if there is one. -/
  | assign (o : Option Operator)
  | both
  | either
  | sign (c : Char)
  | opening
  | closing
  | choice
  | colon
  | unknown
  deriving DecidableEq, Repr

/-- How marks are written. A longer one stands before those it begins with. -/
def written : List (String × Mark) :=
  [("<<=", .assign (some .shiftLeft)), (">>=", .assign (some .shiftRight)),
   ("||", .either), ("&&", .both), ("==", .operator .equal), ("!=", .operator .unequal),
   ("<=", .operator .atMost), (">=", .operator .atLeast), ("<<", .operator .shiftLeft),
   (">>", .operator .shiftRight), ("+=", .assign (some .add)), ("-=", .assign (some .subtract)),
   ("*=", .assign (some .multiply)), ("/=", .assign (some .divide)),
   ("%=", .assign (some .remainder)), ("&=", .assign (some .bitAnd)),
   ("|=", .assign (some .bitOr)), ("^=", .assign (some .bitXor)), ("=", .assign none),
   ("<", .operator .less), (">", .operator .greater), ("|", .operator .bitOr),
   ("^", .operator .bitXor), ("&", .operator .bitAnd), ("+", .operator .add),
   ("-", .operator .subtract), ("*", .operator .multiply), ("/", .operator .divide),
   ("%", .operator .remainder), ("!", .sign '!'), ("~", .sign '~'), ("(", .opening),
   (")", .closing), ("?", .choice), (":", .colon)]

def isNameStart (c : Char) : Bool := c == '_' || c.isAlpha

def isNameChar (c : Char) : Bool := c == '_' || c.isAlphanum

/-- The marks of an expression. -/
def marks : (fuel : Nat) → List Char → List Mark
  | 0, _ => []
  | fuel + 1, cs =>
    match cs.dropWhile Text.isBlank with
    | [] => []
    | c :: rest =>
      let cs := c :: rest
      if isNameStart c then
        let name := cs.takeWhile isNameChar
        .name (String.ofList name) :: marks fuel (cs.drop name.length)
      else
        match number? cs, written.find? fun w => w.1.toList.isPrefixOf cs with
        | some (n, rest), _ => .number n :: marks fuel rest
        | none, some (text, mark) => mark :: marks fuel (cs.drop text.length)
        | none, none => [.unknown]

/-- What can be wrong with an expression. -/
inductive Fault where
  | noOperand
  | noBracket
  | noColon
  | leftOver
  | divisionByZero
  | noNumber (word : Bytes)
  | fixed (name : String)
  deriving DecidableEq, Repr

/-- The fault in an expression. -/
def Fault.message (expression : Bytes) (f : Fault) : String :=
  let about (text : String) : String :=
    "arithmetic expression: " ++ text ++ ": \"" ++ String.ofList expression ++ "\""
  match f with
  | noOperand => about "expecting primary"
  | noBracket => about "expecting ')'"
  | noColon => about "expecting ':'"
  | leftOver => about "expecting EOF"
  | divisionByZero => about "division by zero"
  | noNumber word => "Illegal number: " ++ String.ofList word
  | fixed name => name ++ ": is read only"

/-- An expression. -/
inductive Sum where
  | number (n : Int)
  | named (name : String)
  | signed (mark : Char) (a : Sum)
  | compute (o : Operator) (a b : Sum)
  | both (a b : Sum)
  | either (a b : Sum)
  | choice (condition a b : Sum)
  | assign (name : String) (o : Option Operator) (a : Sum)
  deriving DecidableEq, Repr, Inhabited

mutual

/-- A value with the signs and brackets around it. -/
def operand : (fuel : Nat) → List Mark → Except Fault (Sum × List Mark)
  | 0, _ => .error .noOperand
  | fuel + 1, ms =>
    match ms with
    | .number n :: rest => .ok (.number n, rest)
    | .name s :: rest => .ok (.named s, rest)
    | .operator .add :: rest => operand fuel rest
    | .operator .subtract :: rest => do
      let (a, rest) ← operand fuel rest
      .ok (.signed '-' a, rest)
    | .sign c :: rest => do
      let (a, rest) ← operand fuel rest
      .ok (.signed c a, rest)
    | .opening :: rest => do
      let (a, rest) ← expression fuel rest
      match rest with
      | .closing :: rest => .ok (a, rest)
      | _ => .error .noBracket
    | _ => .error .noOperand

/-- Values with operators between them that bind at least as tight as `least`. -/
def computation : (fuel least : Nat) → List Mark → Except Fault (Sum × List Mark)
  | 0, _, _ => .error .noOperand
  | fuel + 1, least, ms => do
    let (a, rest) ← operand fuel ms
    computationFrom fuel least a rest

def computationFrom : (fuel least : Nat) → Sum → List Mark → Except Fault (Sum × List Mark)
  | 0, _, _, _ => .error .noOperand
  | fuel + 1, least, a, ms =>
    match ms with
    | .operator o :: rest =>
      if o.strength < least then .ok (a, ms)
      else do
        let (b, rest) ← computation fuel (o.strength + 1) rest
        computationFrom fuel least (.compute o a b) rest
    | ms => .ok (a, ms)

def conjunction : (fuel : Nat) → List Mark → Except Fault (Sum × List Mark)
  | 0, _ => .error .noOperand
  | fuel + 1, ms => do
    let (a, rest) ← computation fuel 0 ms
    match rest with
    | .both :: rest =>
      let (b, rest) ← conjunction fuel rest
      .ok (.both a b, rest)
    | rest => .ok (a, rest)

def disjunction : (fuel : Nat) → List Mark → Except Fault (Sum × List Mark)
  | 0, _ => .error .noOperand
  | fuel + 1, ms => do
    let (a, rest) ← conjunction fuel ms
    match rest with
    | .either :: rest =>
      let (b, rest) ← disjunction fuel rest
      .ok (.either a b, rest)
    | rest => .ok (a, rest)

def conditional : (fuel : Nat) → List Mark → Except Fault (Sum × List Mark)
  | 0, _ => .error .noOperand
  | fuel + 1, ms => do
    let (a, rest) ← disjunction fuel ms
    match rest with
    | .choice :: rest =>
      let (b, rest) ← expression fuel rest
      match rest with
      | .colon :: rest =>
        let (c, rest) ← conditional fuel rest
        .ok (.choice a b c, rest)
      | _ => .error .noColon
    | rest => .ok (a, rest)

def expression : (fuel : Nat) → List Mark → Except Fault (Sum × List Mark)
  | 0, _ => .error .noOperand
  | fuel + 1, ms =>
    match ms with
    | .name s :: .assign o :: rest => do
      let (a, rest) ← expression fuel rest
      .ok (.assign s o a, rest)
    | ms => conditional fuel ms

end

/-- The expression that a text writes. -/
def parse (cs : List Char) : Except Fault Sum :=
  let ms := marks (cs.length + 1) cs
  match expression (8 * ms.length + 8) ms with
  | .ok (a, []) => .ok a
  | .ok _ => .error .leftOver
  | .error f => .error f

/-- The value of a variable; one that is not set is zero. -/
def stored (bindings : Table String Bytes) (name : String) : Except Fault Int :=
  let text := (bindings.get? name).getD []
  if text.all Text.isBlank then .ok 0
  else match signed? text with
    | some (n, rest) => if rest.all Text.isBlank then .ok n else .error (.noNumber text)
    | none => .error (.noNumber text)

def compute (o : Operator) (a b : Int) : Except Fault Int :=
  match o.result? a b with
  | some n => .ok n
  | none => .error .divisionByZero

namespace Sum

/-- The value of an expression, and what it sets. Variables in `fixed` stay as they are. -/
def value (fixed : List String) : Sum → StateT (Table String Bytes) (Except Fault) Int
  | number n => pure n
  | named name => do stored (← get) name
  | signed mark a => do
    let n ← a.value fixed
    pure (match mark with
      | '-' => Operator.wrap (-n)
      | '~' => -n - 1
      | _ => Operator.truth (n = 0))
  | compute o a b => do
    let n ← a.value fixed
    let m ← b.value fixed
    Arithmetic.compute o n m
  | both a b => do
    if (← a.value fixed) = 0 then pure 0 else pure (Operator.truth ((← b.value fixed) ≠ 0))
  | either a b => do
    if (← a.value fixed) ≠ 0 then pure 1 else pure (Operator.truth ((← b.value fixed) ≠ 0))
  | choice condition a b => do
    if (← condition.value fixed) ≠ 0 then a.value fixed else b.value fixed
  | assign name o a => do
    let n ← a.value fixed
    let n ← match o with
      | none => pure n
      | some o => do Arithmetic.compute o (← stored (← get) name) n
    if fixed.contains name then throw (.fixed name)
    modify (·.insert name (toString n).toList)
    pure n

end Sum

end Arithmetic

end Landing.Shell
