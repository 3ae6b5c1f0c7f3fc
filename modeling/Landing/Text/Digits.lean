/-! Digits and the numbers that they write. -/
namespace Landing.Text

/-- The value of a digit; letters in either case follow on nine. -/
def digitValue? (c : Char) : Option Nat :=
  if '0' ≤ c && c ≤ '9' then some (c.toNat - '0'.toNat)
  else if 'a' ≤ c && c ≤ 'z' then some (c.toNat - 'a'.toNat + 10)
  else if 'A' ≤ c && c ≤ 'Z' then some (c.toNat - 'A'.toNat + 10)
  else none

def isDigitIn (base : Nat) (c : Char) : Bool :=
  match digitValue? c with
  | some n => n < base
  | none => false

/-- The number that digits write in a base. -/
def ofDigits (base : Nat) (cs : List Char) : Nat :=
  cs.foldl (fun n c => base * n + (digitValue? c).getD 0) 0

/-- The number that a text of decimal digits writes. A plus sign may stand in front. -/
def decimal? (s : String) : Option Nat :=
  let digits := match s.toList with
    | '+' :: rest => rest
    | cs => cs
  if !digits.isEmpty && digits.all (isDigitIn 10) then some (ofDigits 10 digits) else none

/-- As `decimal?`, up to 32 bits. -/
def word? (s : String) : Option UInt32 :=
  match decimal? s with
  | some n => if n < UInt32.size then some (UInt32.ofNat n) else none
  | none => none

end Landing.Text
