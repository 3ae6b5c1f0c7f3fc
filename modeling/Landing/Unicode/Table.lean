import Landing.Text.Blank

/-! Tables of characters, written as texts. Numbers are hexadecimal, in lower case. -/
namespace Landing.Unicode

/-- The largest number of a character. -/
def top : Nat := 0x10FFFF

/-- Tables write hexadecimal digits in lower case. -/
def tableDigit? (c : Char) : Option Nat :=
  if '0' ≤ c && c ≤ '9' then some (c.toNat - '0'.toNat)
  else if 'a' ≤ c && c ≤ 'f' then some (c.toNat - 'a'.toNat + 10)
  else none

/-- The value of the table digits that `cs` starts with, and the rest. -/
def leadingHex (value : Nat) : List Char → Nat × List Char
  | [] => (value, [])
  | c :: rest =>
    match tableDigit? c with
    | some d => leadingHex (16 * value + d) rest
    | none => (value, c :: rest)

/-- Both ends of one entry: `41` is one character, `41-5a` a range, and `100-12e/2` every second
character of a range. -/
def rangesOfEntry (entry : String) : List (Nat × Nat) :=
  match leadingHex 0 entry.toList with
  | (low, '-' :: rest) =>
    match leadingHex 0 rest with
    | (high, []) => [(low, high)]
    | (high, _) => (List.range ((high - low) / 2 + 1)).map fun i => (low + 2 * i, low + 2 * i)
  | (low, _) => [(low, low)]

/-- The ranges of a table, in its order. -/
def rangesOf (lines : List String) : List (Nat × Nat) :=
  (lines.flatMap (Text.split ' ')).flatMap rangesOfEntry

/-- The first character of each run in a table of runs, with the name of the run: an entry is the
length of the run and its name. The first run starts at U+0000. -/
def runStarts (start : Nat) : List String → List (Nat × String)
  | [] => []
  | run :: rest =>
    let (length, name) := leadingHex 0 run.toList
    (start, String.ofList name) :: runStarts (start + length) rest

def runsOf (lines : List String) : List (Nat × String) :=
  runStarts 0 (lines.flatMap (Text.split ' '))

/-- The ranges of the runs that `p` accepts. -/
def rangesWhere {α : Type} (p : α → Bool) : List (Nat × α) → List (Nat × Nat)
  | [] => []
  | (start, a) :: rest =>
    let last := match rest with
      | (next, _) :: _ => next - 1
      | [] => top
    if p a then (start, last) :: rangesWhere p rest else rangesWhere p rest

/-- The last run of `table` between `low` and `high` that starts at or below `n`. -/
def runBelow {α : Type} (table : Array (Nat × α)) (n : Nat) : (fuel low high : Nat) → Nat
  | 0, low, _ => low
  | fuel + 1, low, high =>
    if high ≤ low + 1 then low
    else
      let middle := (low + high) / 2
      match table[middle]? with
      | some (start, _) =>
        if start ≤ n then runBelow table n fuel middle high else runBelow table n fuel low middle
      | none => runBelow table n fuel low middle

/-- What the run of `n` is named. -/
def runAt? {α : Type} (table : Array (Nat × α)) (n : Nat) : Option α :=
  (table[runBelow table n 32 0 table.size]?).map (·.2)

end Landing.Unicode
