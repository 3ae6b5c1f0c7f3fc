import Landing.Shell.State

/-! The mask of rights that new files do not get. -/
namespace Landing.Shell.Mask

/-- All rights: to read, write and run, of the owner, the group and the others. -/
def everything : Nat := 0o777

/-- A right, for each of the three. -/
def right? : Char → Option Nat
  | 'r' => some 0o444
  | 'w' => some 0o222
  | 'x' | 'X' => some 0o111
  | 's' | 't' => some 0
  | _ => none

/-- Whose rights a letter stands for. -/
def class? : Char → Option Nat
  | 'u' => some 0o700
  | 'g' => some 0o070
  | 'o' => some 0o007
  | 'a' => some everything
  | _ => none

def without (rights gone : Nat) : Nat := rights - rights.land gone

/-- The rights that one class has, given to all. -/
def spread (rights : Nat) : Char → Option Nat
  | 'u' => some (rights / 64 % 8 * 0o111)
  | 'g' => some (rights / 8 % 8 * 0o111)
  | 'o' => some (rights % 8 * 0o111)
  | _ => none

/-- Follows a clause behind its classes. The last mark says what is done with a right. -/
def follow? (who : Nat) : (mark : Option Char) → (rights : Nat) → Bytes → Option Nat
  | _, rights, [] => some rights
  | mark, rights, c :: rest =>
    if c == '=' then follow? who (some c) (without rights who) rest
    else if c == '+' || c == '-' then follow? who (some c) rights rest
    else
      match mark, (right? c).or (spread rights c) with
      | some '-', some n => follow? who mark (without rights (n.land who)) rest
      | some _, some n => follow? who mark (rights.lor (n.land who)) rest
      | _, _ => none

/-- Follows clauses. The last one may be empty. -/
def clauses? : (rights : Nat) → List Bytes → Option Nat
  | rights, [] => some rights
  | rights, clause :: rest => do
    let classes := clause.takeWhile fun c => (class? c).isSome
    let who := (classes.filterMap class?).foldl Nat.lor 0
    if clause.isEmpty then none
    else
      let who := if classes.isEmpty then everything else who
      let rights ← follow? who none rights (clause.drop classes.length)
      if rest = [[]] then some rights else clauses? rights rest

/-- The mask that a word asks for. -/
def read? (mask : Nat) (word : Bytes) : Except String Nat :=
  if word.head?.any (Text.isDigitIn 10) then
    if word.all (Text.isDigitIn 8) then .ok (Text.ofDigits 8 word % (everything + 1))
    else .error ("Illegal number: " ++ String.ofList word)
  else
    match clauses? (everything - mask) (Text.splitAt ',' word) with
    | some rights => .ok (everything - rights)
    | none => .error ("Illegal mode: " ++ String.ofList word)

/-- Four digits. -/
def digits (mask : Nat) : Bytes :=
  let ds := Nat.toDigits 8 mask
  List.replicate (4 - ds.length) '0' ++ ds

/-- The rights that a mask leaves to each class. -/
def symbols (mask : Nat) : Bytes :=
  let rights := everything - mask
  let letters (n : Nat) : Bytes :=
    (if n / 4 % 2 = 1 then ['r'] else []) ++ (if n / 2 % 2 = 1 then ['w'] else []) ++
      (if n % 2 = 1 then ['x'] else [])
  "u=".toList ++ letters (rights / 64) ++ ",g=".toList ++ letters (rights / 8) ++
    ",o=".toList ++ letters rights

end Landing.Shell.Mask
