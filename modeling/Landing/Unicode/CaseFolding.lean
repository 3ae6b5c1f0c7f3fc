import Landing.Unicode.Table

/-! Simple case folding: the characters that differ only in case. -/
namespace Landing.Unicode

/-- Steps of characters with their foldings: first character, distance to the next, how many,
folding of the first. -/
def foldText : List String := [
  "41,1,1a,61 b5,2,1,3bc c0,1,17,e0 d8,1,7,f8 100,2,18,101 132,2,3,133 139,2,8,13a 14a,2,17,14b",
  "178,2,1,ff 179,2,3,17a 17f,2,1,73 181,2,1,253 182,2,2,183 186,2,1,254 187,2,1,188 189,1,2,256",
  "18b,2,1,18c 18e,2,1,1dd 18f,2,1,259 190,2,1,25b 191,2,1,192 193,2,1,260 194,2,1,263 196,2,1,269",
  "197,2,1,268 198,2,1,199 19c,2,1,26f 19d,2,1,272 19f,2,1,275 1a0,2,3,1a1 1a6,2,1,280 1a7,2,1,1a8",
  "1a9,2,1,283 1ac,2,1,1ad 1ae,2,1,288 1af,2,1,1b0 1b1,1,2,28a 1b3,2,2,1b4 1b7,2,1,292 1b8,2,1,1b9",
  "1bc,2,1,1bd 1c4,2,1,1c6 1c5,2,1,1c6 1c7,2,1,1c9 1c8,2,1,1c9 1ca,2,1,1cc 1cb,2,9,1cc 1de,2,9,1df",
  "1f1,2,1,1f3 1f2,2,2,1f3 1f6,2,1,195 1f7,2,1,1bf 1f8,2,14,1f9 220,2,1,19e 222,2,9,223",
  "23a,2,1,2c65 23b,2,1,23c 23d,2,1,19a 23e,2,1,2c66 241,2,1,242 243,2,1,180 244,2,1,289",
  "245,2,1,28c 246,2,5,247 345,2,1,3b9 370,2,2,371 376,2,1,377 37f,2,1,3f3 386,2,1,3ac 388,1,3,3ad",
  "38c,2,1,3cc 38e,1,2,3cd 391,1,11,3b1 3a3,1,9,3c3 3c2,2,1,3c3 3cf,2,1,3d7 3d0,2,1,3b2",
  "3d1,2,1,3b8 3d5,2,1,3c6 3d6,2,1,3c0 3d8,2,c,3d9 3f0,2,1,3ba 3f1,2,1,3c1 3f4,2,1,3b8 3f5,2,1,3b5",
  "3f7,2,1,3f8 3f9,2,1,3f2 3fa,2,1,3fb 3fd,1,3,37b 400,1,10,450 410,1,20,430 460,2,11,461",
  "48a,2,1b,48b 4c0,2,1,4cf 4c1,2,7,4c2 4d0,2,30,4d1 531,1,26,561 10a0,1,26,2d00 10c7,2,1,2d27",
  "10cd,2,1,2d2d 13f8,1,6,13f0 1c80,2,1,432 1c81,2,1,434 1c82,2,1,43e 1c83,1,2,441 1c85,2,1,442",
  "1c86,2,1,44a 1c87,2,1,463 1c88,2,1,a64b 1c89,2,1,1c8a 1c90,1,2b,10d0 1cbd,1,3,10fd",
  "1e00,2,4b,1e01 1e9b,2,1,1e61 1e9e,2,1,df 1ea0,2,30,1ea1 1f08,1,8,1f00 1f18,1,6,1f10",
  "1f28,1,8,1f20 1f38,1,8,1f30 1f48,1,6,1f40 1f59,2,4,1f51 1f68,1,8,1f60 1f88,1,8,1f80",
  "1f98,1,8,1f90 1fa8,1,8,1fa0 1fb8,1,2,1fb0 1fba,1,2,1f70 1fbc,2,1,1fb3 1fbe,2,1,3b9",
  "1fc8,1,4,1f72 1fcc,2,1,1fc3 1fd3,2,1,390 1fd8,1,2,1fd0 1fda,1,2,1f76 1fe3,2,1,3b0 1fe8,1,2,1fe0",
  "1fea,1,2,1f7a 1fec,2,1,1fe5 1ff8,1,2,1f78 1ffa,1,2,1f7c 1ffc,2,1,1ff3 2126,2,1,3c9 212a,2,1,6b",
  "212b,2,1,e5 2132,2,1,214e 2160,1,10,2170 2183,2,1,2184 24b6,1,1a,24d0 2c00,1,30,2c30",
  "2c60,2,1,2c61 2c62,2,1,26b 2c63,2,1,1d7d 2c64,2,1,27d 2c67,2,3,2c68 2c6d,2,1,251 2c6e,2,1,271",
  "2c6f,2,1,250 2c70,2,1,252 2c72,2,1,2c73 2c75,2,1,2c76 2c7e,1,2,23f 2c80,2,32,2c81 2ceb,2,2,2cec",
  "2cf2,2,1,2cf3 a640,2,17,a641 a680,2,e,a681 a722,2,7,a723 a732,2,1f,a733 a779,2,2,a77a",
  "a77d,2,1,1d79 a77e,2,5,a77f a78b,2,1,a78c a78d,2,1,265 a790,2,2,a791 a796,2,a,a797 a7aa,2,1,266",
  "a7ab,2,1,25c a7ac,2,1,261 a7ad,2,1,26c a7ae,2,1,26a a7b0,2,1,29e a7b1,2,1,287 a7b2,2,1,29d",
  "a7b3,2,1,ab53 a7b4,2,8,a7b5 a7c4,2,1,a794 a7c5,2,1,282 a7c6,2,1,1d8e a7c7,2,2,a7c8 a7cb,2,1,264",
  "a7cc,2,1,a7cd a7d0,2,1,a7d1 a7d6,2,3,a7d7 a7dc,2,1,19b a7f5,2,1,a7f6 ab70,1,50,13a0",
  "fb05,2,1,fb06 ff21,1,1a,ff41 10400,1,28,10428 104b0,1,24,104d8 10570,2,13,10597 10571,2,5,10598",
  "1057d,2,7,105a4 1058d,2,3,105b4 10595,2,1,105bc 10c80,1,33,10cc0 10d50,1,16,10d70",
  "118a0,1,20,118c0 16e40,1,20,16e60 1e900,1,22,1e922"]

/-- Evenly spaced characters that fold to equally spaced ones. -/
structure FoldRun where
  first : Nat
  step : Nat
  count : Nat
  target : Nat

def FoldRun.ofText (s : String) : FoldRun :=
  match (Text.split ',' s).map fun part => (leadingHex 0 part.toList).1 with
  | [first, step, count, target] => ⟨first, step, count, target⟩
  | _ => ⟨0, 1, 0, 0⟩

def foldRuns : List FoldRun := (foldText.flatMap (Text.split ' ')).map FoldRun.ofText

/-- The folding of `n` under one run. -/
def FoldRun.fold? (r : FoldRun) (n : Nat) : Option Nat :=
  if r.first ≤ n && (n - r.first) % r.step == 0 && (n - r.first) / r.step < r.count then
    some (r.target + (n - r.first))
  else none

/-- The character that stands for all those that differ from `n` in case alone. -/
def foldCase (n : Nat) : Nat := (foldRuns.findSome? (·.fold? n)).getD n

/-- The characters that one run folds to `n`. -/
def FoldRun.source? (r : FoldRun) (n : Nat) : Option Nat :=
  if r.target ≤ n && (n - r.target) % r.step == 0 && (n - r.target) / r.step < r.count then
    some (r.first + (n - r.target))
  else none

/-- All characters with the folding of `n`. -/
def caseVariants (n : Nat) : List Nat :=
  let f := foldCase n
  f :: foldRuns.filterMap (·.source? f)

/-- The characters that have a folding. -/
def folded : List Nat :=
  foldRuns.flatMap fun r => (List.range r.count).map (r.first + r.step * ·)

/-- The characters that others fold to. -/
def foldTargets : List Nat :=
  foldRuns.flatMap fun r => (List.range r.count).map (r.target + r.step * ·)

end Landing.Unicode
