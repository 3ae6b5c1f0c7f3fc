import Landing.Text.Blank

/-! Instants to the nanosecond, with the calendar and the text form of a date and a time. -/
namespace Landing

/-- Seconds since the start of 1970 in UTC, leap seconds not counted, and nanoseconds.
Within a leap second the nanoseconds go on from `10 ^ 9`. -/
structure Instant where
  seconds : Int
  nanos : Nat
  deriving DecidableEq, Repr, Inhabited

namespace Instant

/-- Earlier or equal. -/
def le (a b : Instant) : Bool :=
  a.seconds < b.seconds || (a.seconds == b.seconds && a.nanos ≤ b.nanos)

/-- A day of the calendar. -/
structure Date where
  year : Int
  month : Nat
  day : Nat
  deriving DecidableEq, Repr

def isLeapYear (year : Int) : Bool :=
  year % 4 == 0 && (year % 100 != 0 || year % 400 == 0)

def daysInMonth (year : Int) (month : Nat) : Nat :=
  match month with
  | 2 => if isLeapYear year then 29 else 28
  | 4 | 6 | 9 | 11 => 30
  | _ => 31

def Date.valid (d : Date) : Bool :=
  1 ≤ d.month && d.month ≤ 12 && 1 ≤ d.day && d.day ≤ daysInMonth d.year d.month

/-- Days from 1970-01-01. Years start in March here, so that leap days come last. -/
def Date.dayNumber (d : Date) : Int :=
  let year := if d.month ≤ 2 then d.year - 1 else d.year
  let month := (d.month + 9) % 12
  let era := year.fdiv 400
  let yearOfEra := year - era * 400
  let dayOfYear : Int := ((153 * month + 2) / 5 + d.day - 1 : Nat)
  let dayOfEra := yearOfEra * 365 + yearOfEra / 4 - yearOfEra / 100 + dayOfYear
  era * 146097 + dayOfEra - 719468

/-- The date with this number of days from 1970-01-01. -/
def Date.ofDayNumber (n : Int) : Date :=
  let z := n + 719468
  let era := z.fdiv 146097
  let dayOfEra := z - era * 146097
  let yearOfEra := (dayOfEra - dayOfEra / 1460 + dayOfEra / 36524 - dayOfEra / 146096) / 365
  let dayOfYear := (dayOfEra - (365 * yearOfEra + yearOfEra / 4 - yearOfEra / 100)).toNat
  let month := (5 * dayOfYear + 2) / 153
  let day := dayOfYear - (153 * month + 2) / 5 + 1
  let year := yearOfEra + era * 400
  if month < 10 then ⟨year, month + 3, day⟩ else ⟨year + 1, month - 9, day⟩

/-- The years an instant can fall in. -/
def firstYear : Int := -262143

def lastYear : Int := 262142

def inRange (i : Instant) : Bool :=
  let year := (Date.ofDayNumber (i.seconds.fdiv 86400)).year
  firstYear ≤ year && year ≤ lastYear

/-- Decimal digits of `n`, with zeros in front up to `width`. -/
def padded (width n : Nat) : List Char :=
  let digits := Nat.toDigits 10 n
  List.replicate (width - digits.length) '0' ++ digits

/-- Years outside four digits carry a sign. -/
def yearText (year : Int) : List Char :=
  if 0 ≤ year && year ≤ 9999 then padded 4 year.toNat
  else (if year < 0 then '-' else '+') :: padded 4 year.natAbs

/-- Three, six or nine digits of fraction, the fewest that lose nothing, and none for zero. -/
def fractionText (nanos : Nat) : List Char :=
  if nanos = 0 then []
  else if nanos % 1000000 = 0 then '.' :: padded 3 (nanos / 1000000)
  else if nanos % 1000 = 0 then '.' :: padded 6 (nanos / 1000)
  else '.' :: padded 9 nanos

/-- Date and time in UTC; a leap second is second 60. -/
def render (i : Instant) : String :=
  let date := Date.ofDayNumber (i.seconds.fdiv 86400)
  let time := (i.seconds.fmod 86400).toNat
  let (leap, nanos) := if 1000000000 ≤ i.nanos then (1, i.nanos - 1000000000) else (0, i.nanos)
  String.ofList <|
    yearText date.year ++ '-' :: padded 2 date.month ++ '-' :: padded 2 date.day ++
      'T' :: padded 2 (time / 3600) ++ ':' :: padded 2 (time / 60 % 60) ++
      ':' :: padded 2 (time % 60 + leap) ++ fractionText nanos ++ ['Z']

/-! Reading. Each step gives what it read and the rest. -/

/-- Up to `most` decimal digits, at least one. -/
def digits? (most : Nat) (cs : List Char) : Option (Nat × List Char) :=
  let run := (cs.takeWhile Char.isDigit).take most
  if run.isEmpty then none
  else some (run.foldl (fun n c => 10 * n + (c.toNat - '0'.toNat)) 0, cs.drop run.length)

/-- Blanks may stand in front of a number. -/
def field? (most : Nat) (cs : List Char) : Option (Nat × List Char) :=
  digits? most (cs.dropWhile Text.isBlank)

/-- A year with a sign may have any number of digits. -/
def year? (cs : List Char) : Option (Int × List Char) :=
  match cs.dropWhile Text.isBlank with
  | '-' :: rest => (digits? rest.length rest).map fun (n, rest) => (-(n : Int), rest)
  | '+' :: rest => (digits? rest.length rest).map fun (n, rest) => ((n : Int), rest)
  | rest => (digits? 4 rest).map fun (n, rest) => ((n : Int), rest)

/-- The character `c`, after blanks. -/
def mark? (c : Char) (cs : List Char) : Option (List Char) :=
  match cs.dropWhile Text.isBlank with
  | x :: rest => if x = c then some rest else none
  | [] => none

/-- Nanoseconds after a point; digits after the ninth are dropped. -/
def fraction? : List Char → Option (Nat × List Char)
  | '.' :: rest =>
    let run := rest.takeWhile Char.isDigit
    (digits? 9 rest).map fun (n, _) =>
      (n * Nat.pow 10 (9 - min 9 run.length), rest.drop run.length)
  | rest => some (0, rest)

def twoDigits? : List Char → Option (Nat × List Char)
  | a :: b :: rest =>
    if a.isDigit && b.isDigit then
      some (10 * (a.toNat - '0'.toNat) + (b.toNat - '0'.toNat), rest)
    else none
  | _ => none

/-- The offset from UTC in seconds: a zulu mark, `UTC`, or a sign, two digits of hours and two
of minutes with colons or blanks between them. -/
def offset? (cs : List Char) : Option (Int × List Char) :=
  match cs with
  | [] => none
  | c :: rest =>
    if (cs.take 3).map Char.toUpper == ['U', 'T', 'C'] then some (0, cs.drop 3)
    else if c == 'Z' || c == 'z' then some (0, rest)
    else if c == '+' || c == '-' || c == '\u2212' then do
      let (hours, rest) ← twoDigits? rest
      let (minutes, rest) ← twoDigits? (rest.dropWhile fun c => c == ':' || Text.isBlank c)
      if 60 ≤ minutes then none
      else
        let seconds : Int := (hours * 3600 + minutes * 60 : Nat)
        some (if c == '+' then seconds else -seconds, rest)
    else none

/-- A date, `T` or a space, a time and an offset from UTC. -/
def parse? (s : String) : Option Instant := do
  let (year, cs) ← year? s.toList
  let cs ← mark? '-' cs
  let (month, cs) ← field? 2 cs
  let cs ← mark? '-' cs
  let (day, cs) ← field? 2 cs
  let cs ← match cs with
    | 't' :: rest | 'T' :: rest | ' ' :: rest => some rest
    | _ => none
  let (hour, cs) ← field? 2 cs
  let cs ← mark? ':' cs
  let (minute, cs) ← field? 2 cs
  let cs ← mark? ':' cs
  let (second, cs) ← field? 2 cs
  let (nanos, cs) ← fraction? cs
  let (offset, cs) ← offset? (cs.dropWhile Text.isBlank)
  let date : Date := ⟨year, month, day⟩
  let local_ := date.dayNumber * 86400 + (hour * 3600 + minute * 60 + min second 59 : Nat)
  let instant : Instant :=
    ⟨local_ - offset, if second = 60 then nanos + 1000000000 else nanos⟩
  if cs.all Text.isBlank && date.valid && firstYear ≤ year && year ≤ lastYear && hour < 24 &&
      minute < 60 && second ≤ 60 && -86400 < offset && offset < 86400 && instant.inRange then
    some instant
  else none

end Instant

end Landing
