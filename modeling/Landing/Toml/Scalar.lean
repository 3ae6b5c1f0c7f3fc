import Landing.Datum
import Landing.Text.Digits

/-! Numbers, truth values and times of TOML. Every reader gives what it read and the rest. -/
namespace Landing.Toml.Scalar

/-- Digits in a base with single underscores between them. -/
def digits (base : Nat) : (afterDigit : Bool) → List Char → List Char × List Char
  | true, '_' :: c :: rest =>
    if Text.isDigitIn base c then
      let (ds, rest) := digits base true rest
      (c :: ds, rest)
    else ([], '_' :: c :: rest)
  | _, c :: rest =>
    if Text.isDigitIn base c then
      let (ds, rest) := digits base true rest
      (c :: ds, rest)
    else ([], c :: rest)
  | _, [] => ([], [])

/-- At least one digit. -/
def digits? (base : Nat) (cs : List Char) : Option (List Char × List Char) :=
  match digits base false cs with
  | ([], _) => none
  | (ds, rest) => some (ds, rest)

def sign : List Char → Bool × List Char
  | '-' :: rest => (true, rest)
  | '+' :: rest => (false, rest)
  | cs => (false, cs)

/-- Decimal digits; a zero in front stands alone. -/
def whole? : List Char → Option (List Char × List Char)
  | '0' :: rest => some (['0'], rest)
  | cs => digits? 10 cs

/-- Integers have 64 bits. -/
def inRange (n : Int) : Bool := Int64.minValue.toInt ≤ n && n ≤ Int64.maxValue.toInt

def sized (n : Int) (rest : List Char) : Option (Datum × List Char) :=
  if inRange n then some (.integer n, rest) else none

/-- An integer, decimal with a sign or in another base without. -/
def integer? (cs : List Char) : Option (Datum × List Char) :=
  match cs with
  | '0' :: 'x' :: rest => (digits? 16 rest).bind fun (ds, rest) => sized (Text.ofDigits 16 ds) rest
  | '0' :: 'o' :: rest => (digits? 8 rest).bind fun (ds, rest) => sized (Text.ofDigits 8 ds) rest
  | '0' :: 'b' :: rest => (digits? 2 rest).bind fun (ds, rest) => sized (Text.ofDigits 2 ds) rest
  | cs =>
    let (negative, body) := sign cs
    (whole? body).bind fun (ds, rest) =>
      let n : Int := Text.ofDigits 10 ds
      sized (if negative then -n else n) rest

/-- Digits after a point. -/
def fraction? : List Char → Option (List Char × List Char)
  | '.' :: rest => digits? 10 rest
  | _ => none

/-- A power of ten: sign and digits. -/
def exponent? : List Char → Option (Int × List Char)
  | c :: rest =>
    if c == 'e' || c == 'E' then
      let (negative, body) := sign rest
      (digits? 10 body).map fun (ds, rest) =>
        let n : Int := Text.ofDigits 10 ds
        (if negative then -n else n, rest)
    else none
  | [] => none

/-- Whether `m * 10 ^ e` is too large for a binary number of 64 bits. -/
def overflows (m : Nat) (e : Int) : Bool :=
  let length : Int := (Nat.toDigits 10 m).length
  if m = 0 || e + length < 300 then false
  else if 400 < e + length then true
  else
    let limit := Nat.pow 2 1024 - Nat.pow 2 970
    if 0 ≤ e then limit ≤ m * Nat.pow 10 e.toNat else limit * Nat.pow 10 (-e).toNat ≤ m

/-- What is no number and what is without bound. -/
def special? : List Char → Option (List Char)
  | 'i' :: 'n' :: 'f' :: rest => some rest
  | 'n' :: 'a' :: 'n' :: rest => some rest
  | _ => none

/-- What was read to get from `cs` to `rest`. -/
def readUp (cs rest : List Char) : String :=
  String.ofList (cs.take (cs.length - rest.length))

/-- A number with a fraction, a power or both. One too large is refused if it is positive. -/
def decimal? (cs : List Char) : Option (Datum × List Char) :=
  let (negative, body) := sign cs
  match special? body with
  | some rest => some (.decimal (readUp cs rest), rest)
  | none =>
    (whole? body).bind fun (whole, rest) =>
      let (fraction, afterFraction) := match fraction? rest with
        | some (ds, rest) => (some ds, rest)
        | none => (none, rest)
      let (power, rest) := match exponent? afterFraction with
        | some (e, rest) => (some e, rest)
        | none => (none, afterFraction)
      let places := fraction.getD []
      if fraction.isNone && power.isNone then none
      else if !negative &&
          overflows (Text.ofDigits 10 (whole ++ places)) (power.getD 0 - places.length) then none
      else some (.decimal (readUp cs rest), rest)

/-- A number of exactly `count` digits between two bounds. -/
def part? (count least most : Nat) (cs : List Char) : Option (Nat × List Char) :=
  let ds := cs.take count
  let n := Text.ofDigits 10 ds
  if ds.length = count ∧ ds.all (Text.isDigitIn 10) ∧ least ≤ n ∧ n ≤ most then
    some (n, cs.drop count)
  else none

def mark? (c : Char) : List Char → Option (List Char)
  | x :: rest => if x = c then some rest else none
  | [] => none

def date? (cs : List Char) : Option (List Char) := do
  let (year, cs) ← part? 4 0 9999 cs
  let cs ← mark? '-' cs
  let (month, cs) ← part? 2 1 12 cs
  let cs ← mark? '-' cs
  let (day, cs) ← part? 2 1 31 cs
  if (Instant.Date.mk year month day).valid then some cs else none

/-- The digits after a point, if there is one. -/
def secondFraction? : List Char → Option (List Char)
  | '.' :: rest =>
    let rest' := rest.dropWhile (Text.isDigitIn 10)
    if rest'.length < rest.length then some rest' else none
  | cs => some cs

def clock? (cs : List Char) : Option (List Char) := do
  let (_, cs) ← part? 2 0 23 cs
  let cs ← mark? ':' cs
  let (_, cs) ← part? 2 0 59 cs
  let cs ← mark? ':' cs
  let (_, cs) ← part? 2 0 60 cs
  secondFraction? cs

def offset? (cs : List Char) : Option (List Char) :=
  match cs with
  | 'Z' :: rest | 'z' :: rest => some rest
  | '+' :: rest | '-' :: rest => do
    let (_, rest) ← part? 2 0 23 rest
    let rest ← mark? ':' rest
    let (_, rest) ← part? 2 0 59 rest
    some rest
  | cs => some cs

/-- A date, a time of day, or both with or without an offset. After a date and a space, digits
begin a time of day. -/
def time? (cs : List Char) : Option (Datum × List Char) :=
  let done (rest : List Char) := (Datum.time (readUp cs rest), rest)
  match date? cs with
  | none => (clock? cs).map done
  | some rest =>
    match rest with
    | c :: after =>
      if c == 'T' || c == 't' || (c == ' ' && (part? 2 0 23 after).isSome) then
        ((clock? after).bind offset?).map done
      else some (done rest)
    | [] => some (done rest)

def boolean? : List Char → Option (Datum × List Char)
  | 't' :: 'r' :: 'u' :: 'e' :: rest => some (.boolean true, rest)
  | 'f' :: 'a' :: 'l' :: 's' :: 'e' :: rest => some (.boolean false, rest)
  | _ => none

/-- A value that holds no other. -/
def any? (cs : List Char) : Option (Datum × List Char) :=
  (boolean? cs).or ((time? cs).or ((decimal? cs).or (integer? cs)))

end Landing.Toml.Scalar
