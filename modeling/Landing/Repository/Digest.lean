/-! The digest that names stored objects: SHA-1. -/
namespace Landing.Repository.Digest

/-- The five words that a digest is made of. -/
structure State where
  a : UInt32
  b : UInt32
  c : UInt32
  d : UInt32
  e : UInt32
  deriving DecidableEq, Repr

def rotate (n x : UInt32) : UInt32 := (x <<< n) ||| (x >>> (32 - n))

/-- A number in `count` bytes, highest first. -/
def bytesOf (count n : Nat) : List UInt8 :=
  (List.range count).reverse.map fun i => UInt8.ofNat (n >>> (8 * i))

/-- The number that bytes write, highest first. -/
def ofBytes (bytes : List UInt8) : Nat := bytes.foldl (fun n b => 256 * n + b.toNat) 0

/-- Consecutive pieces of `size` elements. -/
def pieces {α : Type} (size : Nat) (xs : List α) : List (List α) :=
  (List.range (xs.length / size)).map fun i => (xs.drop (size * i)).take size

/-- A message filled up to whole blocks of 64 bytes, its length in bits at the end. -/
def pad (message : List UInt8) : List UInt8 :=
  message ++ [0x80] ++ List.replicate ((119 - message.length % 64) % 64) 0 ++
    bytesOf 8 (8 * message.length)

/-- Computes one more word from those so far, the latest in front. -/
def extend (latest : List UInt32) : List UInt32 :=
  let back (i : Nat) : UInt32 := latest.getD i 0
  rotate 1 (back 2 ^^^ back 7 ^^^ back 13 ^^^ back 15) :: latest

/-- The eighty words for a block. -/
def schedule (block : List UInt8) : List UInt32 :=
  let words := (pieces 4 block).map fun w => UInt32.ofNat (ofBytes w)
  (Nat.repeat extend 64 words.reverse).reverse

/-- The function and the constant of a round. -/
def round (t : Nat) (b c d : UInt32) : UInt32 :=
  if t < 20 then ((b &&& c) ||| (~~~b &&& d)) + 0x5A827999
  else if t < 40 then (b ^^^ c ^^^ d) + 0x6ED9EBA1
  else if t < 60 then ((b &&& c) ||| (b &&& d) ||| (c &&& d)) + 0x8F1BBCDC
  else (b ^^^ c ^^^ d) + 0xCA62C1D6

def step (s : State) (w : UInt32) (t : Nat) : State :=
  ⟨rotate 5 s.a + round t s.b s.c s.d + s.e + w, s.a, rotate 30 s.b, s.c, s.d⟩

def compress (s : State) (block : List UInt8) : State :=
  let r := (schedule block).zipIdx.foldl (fun s w => step s w.1 w.2) s
  ⟨s.a + r.a, s.b + r.b, s.c + r.c, s.d + r.d, s.e + r.e⟩

def initial : State := ⟨0x67452301, 0xEFCDAB89, 0x98BADCFE, 0x10325476, 0xC3D2E1F0⟩

/-- The digest of a message, in twenty bytes. -/
def sha1 (message : List UInt8) : List UInt8 :=
  let s := (pieces 64 (pad message)).foldl compress initial
  [s.a, s.b, s.c, s.d, s.e].flatMap fun w => bytesOf 4 w.toNat

/-- Bytes in lower-case hexadecimal digits. -/
def hex (bytes : List UInt8) : String :=
  String.ofList (bytes.flatMap fun b =>
    [Nat.digitChar (b.toNat / 16), Nat.digitChar (b.toNat % 16)])

end Landing.Repository.Digest
