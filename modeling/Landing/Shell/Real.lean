import Landing.Shell.Script
import Landing.Text.Blank
import Landing.Text.Digits

/-! Numbers with a point, as `printf` reads and sets them. -/
namespace Landing.Shell

/-- A number without its sign, as a fraction. -/
structure Real where
  negative : Bool := false
  numerator : Nat
  denominator : Nat
  deriving DecidableEq, Repr, Inhabited

namespace Real

/-- The number of 64 bits that is nearest to digits with a power of ten. -/
def nearest (negative : Bool) (digits : Nat) (exponent : Int) : Real :=
  let bits := (Float.ofScientific digits (exponent < 0) exponent.natAbs).toBits.toNat
  let biased := bits / Nat.pow 2 52 % 2048
  let fraction := bits % Nat.pow 2 52
  let mantissa := if biased = 0 then fraction else fraction + Nat.pow 2 52
  let power : Int := (if biased = 0 then 1 else biased) - 1075
  if power < 0 then ⟨negative, mantissa, Nat.pow 2 power.natAbs⟩
  else ⟨negative, mantissa * Nat.pow 2 power.natAbs, 1⟩

/-- The number in front of a text, and what follows it. -/
def read? (cs : List Char) : Option (Real × List Char) :=
  let (negative, cs) := match cs.dropWhile Text.isBlank with
    | '-' :: rest => (true, rest)
    | '+' :: rest => (false, rest)
    | cs => (false, cs)
  let whole := cs.takeWhile (Text.isDigitIn 10)
  let (part, rest) := match cs.drop whole.length with
    | '.' :: rest =>
      let part := rest.takeWhile (Text.isDigitIn 10)
      if whole.isEmpty && part.isEmpty then ([], '.' :: rest) else (part, rest.drop part.length)
    | rest => ([], rest)
  if whole.isEmpty && part.isEmpty then none
  else
    let (exponent, rest) : Int × List Char := match rest with
      | 'e' :: more | 'E' :: more =>
        let (sign, digits) : Int × List Char := match more with
          | '-' :: digits => (-1, digits)
          | '+' :: digits => (1, digits)
          | digits => (1, digits)
        let run := digits.takeWhile (Text.isDigitIn 10)
        if run.isEmpty then (0, rest)
        else (sign * (min 5000 (Text.ofDigits 10 run) : Nat), digits.drop run.length)
      | rest => (0, rest)
    some (nearest negative (Text.ofDigits 10 (whole ++ part)) (exponent - part.length), rest)

/-- A quotient as a whole number; a half goes to the even neighbour. -/
def roundDiv (a b : Nat) : Nat :=
  let q := a / b
  let r := a % b
  if 2 * r < b then q else if b < 2 * r then q + 1 else q + q % 2

/-- The number times a power of ten, rounded. -/
def scaled (r : Real) (power : Int) : Nat :=
  if power < 0 then roundDiv r.numerator (r.denominator * Nat.pow 10 power.natAbs)
  else roundDiv (r.numerator * Nat.pow 10 power.natAbs) r.denominator

def digits (n : Nat) : List Char := Nat.toDigits 10 n

/-- Digits with a point in front of the last `places`. -/
def pointed (places n : Nat) : List Char :=
  let ds := digits n
  let ds := List.replicate (places + 1 - ds.length) '0' ++ ds
  let whole := ds.take (ds.length - places)
  if places = 0 then whole else whole ++ '.' :: ds.drop whole.length

/-- Without zeros at the end, and without a point at the end. -/
def trimmed (cs : List Char) : List Char :=
  if cs.contains '.' then
    match (cs.reverse.dropWhile (· == '0')) with
    | '.' :: rest => rest.reverse
    | rest => rest.reverse
  else cs

/-- The power of ten of the first digit. -/
def magnitude (r : Real) : Int :=
  if r.numerator = 0 then 0
  else if r.denominator ≤ r.numerator then
    ((digits (r.numerator / r.denominator)).length : Int) - 1
  else
    match (List.range 400).find? fun k => r.denominator ≤ r.numerator * Nat.pow 10 k with
    | some k => -k
    | none => 0

/-- The digits of a number with one in front of the point, and their power of ten. -/
def scientific (r : Real) (places : Nat) : Nat × Int :=
  let power := r.magnitude
  let n := r.scaled (places - power)
  if Nat.pow 10 (places + 1) ≤ n then (n / 10, power + 1) else (n, power)

def exponent (power : Int) : List Char :=
  let ds := digits power.natAbs
  'e' :: (if power < 0 then '-' else '+') :: (List.replicate (2 - ds.length) '0' ++ ds)

/-- The text of a number without its sign, under the letter of a conversion. -/
def text (r : Real) (letter : Char) (precision : Option Nat) : List Char :=
  let places := precision.getD 6
  match letter with
  | 'f' => pointed places (r.scaled places)
  | 'e' =>
    let (n, power) := r.scientific places
    pointed places n ++ exponent power
  | _ =>
    let count := max places 1
    let (n, power) := r.scientific (count - 1)
    if power < -4 || count ≤ power then trimmed (pointed (count - 1) n) ++ exponent power
    else
      let places := (count - 1 - power : Int).toNat
      trimmed (pointed places (r.scaled places))

end Real

end Landing.Shell
