import Landing.Pattern.Expr

/-! The room that a pattern takes when every repetition is written out. Characters are taken byte by
byte, and a search forward and a search backward need a machine each. -/
namespace Landing.Pattern
open Landing.Unicode

/-- Ranges of bytes, one for each byte of a character. -/
abbrev ByteRanges := List (Nat × Nat)

/-- The sequences of bytes that write the numbers from `low` to `high`, all with as many bytes after
the first, to which `lead` is added. -/
def sequencesOf (lead : Nat) : (following low high : Nat) → List ByteRanges
  | 0, low, high => [[(lead + low, lead + high)]]
  | n + 1, low, high =>
    let endings (first last : Nat) (bytes : Nat × Nat) : List ByteRanges :=
      if last < first then []
      else (sequencesOf lead n first last).map (· ++ [(0x80 + bytes.1, 0x80 + bytes.2)])
    let first := low / 64
    let last := high / 64
    if first == last then endings first last (low % 64, high % 64)
    else
      let head := if low % 64 == 0 then [] else endings first first (low % 64, 63)
      let foot := if high % 64 == 63 then [] else endings last last (0, high % 64)
      let inner := endings (if low % 64 == 0 then first else first + 1)
        (if high % 64 == 63 then last else last - 1) (0, 63)
      head ++ inner ++ foot

/-- Characters by the number of bytes after the first, with what is added to the first. Surrogates
are no characters. -/
def lengths : List (Nat × Nat × Nat × Nat) :=
  [(0, 0x7F, 0, 0), (0x80, 0x7FF, 1, 0xC0), (0x800, 0xD7FF, 2, 0xE0), (0xE000, 0xFFFF, 2, 0xE0),
    (0x10000, top, 3, 0xF0)]

/-- The sequences of bytes that write the members of a set, in ascending order. -/
def sequences (s : CharSet) : List ByteRanges :=
  lengths.flatMap fun (least, most, following, lead) =>
    s.ranges.flatMap fun r =>
      if max r.1 least ≤ min r.2 most then
        sequencesOf lead following (max r.1 least) (min r.2 most)
      else []

/-- How many ranges two sequences share at the front. -/
def commonLength : ByteRanges → ByteRanges → Nat
  | a :: s, b :: t => if a = b then commonLength s t + 1 else 0
  | _, _ => 0

/-- How many steps a tree of sequences has that come after `earlier`: each shares what it can with
the one before it. -/
def steps (earlier : ByteRanges) : List ByteRanges → Nat
  | [] => 0
  | s :: rest => (s.length - commonLength earlier s) + steps s rest

/-- The sequences behind each first range. -/
def branches : List ByteRanges → List ((Nat × Nat) × List ByteRanges)
  | [] => []
  | [] :: rest => branches rest
  | (r :: s) :: rest =>
    match branches rest with
    | (q, tails) :: others =>
      if q = r then (q, s :: tails) :: others else (r, [s]) :: (q, tails) :: others
    | [] => [(r, [s])]

/-- The inner nodes of a tree of sequences; each stands for the sequences behind it. -/
def nodes : (depth : Nat) → List ByteRanges → List (List ByteRanges)
  | 0, _ => []
  | depth + 1, node =>
    if node.all (·.isEmpty) then []
    else node :: (branches node).flatMap fun branch => nodes depth branch.2

inductive Direction where
  | forward
  | backward
  deriving DecidableEq, Repr

/-- The size of a set. A single character is a sequence of bytes, and ASCII takes one step. Forward,
equal nodes are shared; backward, each sequence is a chain that shares its end. -/
def setSize (d : Direction) (s : CharSet) : Nat :=
  match s.onlyMember? with
  | some n => 32 * (Char.ofNat n).utf8Size
  | none =>
    if s.ranges.isEmpty then 32
    else if s.isAscii then 64 + 8 * s.ranges.length
    else match d with
      | .forward =>
        (nodes 4 (sequences s)).eraseDups.foldl
          (fun size node => size + 32 + 8 * (branches node).length) 32
      | .backward =>
        let sequences := sequences s
        64 + 4 * sequences.length + 32 * steps [] sequences

namespace Expr

def isChoice : Expr → Bool
  | choice _ _ => true
  | _ => false

/-- The size of a repetition of something with size `n`. -/
def repetitionSize (nullable : Bool) (n : Nat) : (least : Nat) → (most : Option Nat) → Nat
  | 0, none => if nullable then n + 112 else n + 40
  | least, none => least * n + 40
  | 0, some 1 => n + 72
  | least, some most =>
    (if least = 0 then 32 else least * n) +
      if most ≤ least then 0 else 32 + (most - least) * (n + 40)

/-- The size of the machine of a pattern. Groups matter only forward. -/
def size (d : Direction) : Expr → Nat
  | empty | assertion _ => 32
  | one s => setSize d s
  | group _ e => (if d = .forward then 64 else 0) + e.size d
  | concat e f => e.size d + f.size d
  | choice e f => e.size d + f.size d + if f.isChoice then 4 else 72
  | repetition least most _ e => repetitionSize e.isNullable (e.size d) least most

/-- What every machine has besides its pattern. -/
def baseSize : Nat := 256

/-- The room that a pattern may take. -/
def largest : Nat := 10485760

def fits (e : Expr) : Bool :=
  baseSize + e.size .forward ≤ largest && baseSize + e.size .backward ≤ largest

end Expr

end Landing.Pattern
