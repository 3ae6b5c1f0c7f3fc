import Landing.Repository.Digest

/-! Compressed data: the deflate format, between a head and a checksum. All of it can be read; what
is written is stored as it is. -/
namespace Landing.Repository.Deflate

/-- Bits of bytes, each byte lowest bit first. -/
def bitsOf (bytes : List UInt8) : List Bool :=
  bytes.flatMap fun b => (List.range 8).map b.toNat.testBit

/-- A number of `count` bits, lowest first, and the bits after it. -/
def number? : (count : Nat) → List Bool → Option (Nat × List Bool)
  | 0, bits => some (0, bits)
  | _ + 1, [] => none
  | count + 1, b :: bits => (number? count bits).map fun (n, rest) => (2 * n + b.toNat, rest)

/-- Symbols by the length and the value of their code words. -/
abbrev Code := List ((Nat × Nat) × Nat)

/-- Longer code words are not in use. -/
def longest : Nat := 15

/-- Code words of one length, counted upwards from `first` in the order of their symbols. -/
def ofLength (lengths : List Nat) (length first : Nat) : Code :=
  ((lengths.zipIdx.filter (·.1 = length)).map (·.2)).zipIdx.map fun (symbol, i) =>
    ((length, first + i), symbol)

/-- The code with these lengths of code words, zero where a symbol is not in use. -/
def codeOf (lengths : List Nat) : Code :=
  ((List.range longest).foldl (fun (acc : Code × Nat) i =>
    let words := ofLength lengths (i + 1) (2 * acc.2)
    (acc.1 ++ words, 2 * acc.2 + words.length)) ([], 0)).1

/-- Reads the code word that goes on from `word`, and the bits after it. -/
def symbolFrom? (c : Code) : (length word : Nat) → List Bool → Option (Nat × List Bool)
  | _, _, [] => none
  | length, word, b :: bits =>
    let word := 2 * word + b.toNat
    match c.lookup (length + 1, word) with
    | some symbol => some (symbol, bits)
    | none => if longest ≤ length + 1 then none else symbolFrom? c (length + 1) word bits

def symbol? (c : Code) (bits : List Bool) : Option (Nat × List Bool) := symbolFrom? c 0 0 bits

/-- Base values and counts of extra bits for the symbols of lengths. -/
def lengthTable : List (Nat × Nat) :=
  [(3, 0), (4, 0), (5, 0), (6, 0), (7, 0), (8, 0), (9, 0), (10, 0), (11, 1), (13, 1), (15, 1),
   (17, 1), (19, 2), (23, 2), (27, 2), (31, 2), (35, 3), (43, 3), (51, 3), (59, 3), (67, 4),
   (83, 4), (99, 4), (115, 4), (131, 5), (163, 5), (195, 5), (227, 5), (258, 0)]

/-- Base values and counts of extra bits for the symbols of distances. -/
def distanceTable : List (Nat × Nat) :=
  [(1, 0), (2, 0), (3, 0), (4, 0), (5, 1), (7, 1), (9, 2), (13, 2), (17, 3), (25, 3), (33, 4),
   (49, 4), (65, 5), (97, 5), (129, 6), (193, 6), (257, 7), (385, 7), (513, 8), (769, 8),
   (1025, 9), (1537, 9), (2049, 10), (3073, 10), (4097, 11), (6145, 11), (8193, 12), (12289, 12),
   (16385, 13), (24577, 13)]

/-- A base value with its extra bits. -/
def valued? (table : List (Nat × Nat)) (symbol : Nat) (bits : List Bool) :
    Option (Nat × List Bool) := do
  let (base, extra) ← table[symbol]?
  let (n, bits) ← number? extra bits
  some (base + n, bits)

/-- Repeats what lies `distance` back. The latest byte is in front. -/
def copy? (distance : Nat) : (count : Nat) → List UInt8 → Option (List UInt8)
  | 0, out => some out
  | count + 1, out =>
    match distance, out[distance - 1]? with
    | 0, _ | _, none => none
    | _, some b => copy? distance count (b :: out)

/-- Reads the symbols of a block up to its end. -/
def symbols? (literals distances : Code) : (fuel : Nat) → List UInt8 → List Bool →
    Option (List UInt8 × List Bool)
  | 0, _, _ => none
  | fuel + 1, out, bits =>
    match symbol? literals bits with
    | none => none
    | some (symbol, bits) =>
      if symbol < 256 then symbols? literals distances fuel (UInt8.ofNat symbol :: out) bits
      else if symbol = 256 then some (out, bits)
      else do
        let (count, bits) ← valued? lengthTable (symbol - 257) bits
        let (symbol, bits) ← symbol? distances bits
        let (distance, bits) ← valued? distanceTable symbol bits
        symbols? literals distances fuel (← copy? distance count out) bits

/-- The lengths that hold where a block brings none of its own. -/
def fixedLengths : List Nat :=
  List.replicate 144 8 ++ List.replicate 112 9 ++ List.replicate 24 7 ++ List.replicate 8 8

/-- The order in which the lengths of the code for lengths come. -/
def lengthOrder : List Nat := [16, 17, 18, 0, 8, 7, 9, 6, 10, 5, 11, 4, 12, 3, 13, 2, 14, 1, 15]

/-- Reads `missing` more lengths; three symbols repeat. -/
def lengths? (c : Code) : (fuel missing : Nat) → List Nat → List Bool →
    Option (List Nat × List Bool)
  | _, 0, out, bits => some (out, bits)
  | 0, _ + 1, _, _ => none
  | fuel + 1, missing + 1, out, bits => do
    let (symbol, bits) ← symbol? c bits
    let (values, bits) ←
      if symbol < 16 then some ([symbol], bits)
      else if symbol = 16 then do
        let (n, bits) ← number? 2 bits
        some (List.replicate (n + 3) (← out.getLast?), bits)
      else do
        let (n, bits) ← number? (if symbol = 17 then 3 else 7) bits
        some (List.replicate (n + (if symbol = 17 then 3 else 11)) 0, bits)
    if missing + 1 < values.length then none
    else lengths? c fuel (missing + 1 - values.length) (out ++ values) bits

/-- Reads `count` lengths of three bits. -/
def shortLengths? : (count : Nat) → List Bool → Option (List Nat × List Bool)
  | 0, bits => some ([], bits)
  | count + 1, bits => do
    let (n, bits) ← number? 3 bits
    let (ns, bits) ← shortLengths? count bits
    some (n :: ns, bits)

/-- The codes that a block brings. -/
def ownCodes? (bits : List Bool) : Option ((Code × Code) × List Bool) := do
  let (literals, bits) ← number? 5 bits
  let (distances, bits) ← number? 5 bits
  let (count, bits) ← number? 4 bits
  let (short, bits) ← shortLengths? (count + 4) bits
  let forLengths := codeOf ((List.range 19).map fun i => ((lengthOrder.zip short).lookup i).getD 0)
  let total := literals + 257 + (distances + 1)
  let (lengths, bits) ← lengths? forLengths total total [] bits
  some ((codeOf (lengths.take (literals + 257)), codeOf (lengths.drop (literals + 257))), bits)

/-- The bits from the next whole byte on. -/
def aligned (bits : List Bool) : List Bool := bits.drop (bits.length % 8)

/-- Reads `count` whole bytes. -/
def bytes? : (count : Nat) → List UInt8 → List Bool → Option (List UInt8 × List Bool)
  | 0, out, bits => some (out, bits)
  | count + 1, out, bits => do
    let (n, bits) ← number? 8 bits
    bytes? count (UInt8.ofNat n :: out) bits

/-- Reads a block. -/
def block? (kind : Nat) (out : List UInt8) (bits : List Bool) :
    Option (List UInt8 × List Bool) :=
  match kind with
  | 0 => do
    let (count, bits) ← number? 16 (aligned bits)
    let (check, bits) ← number? 16 bits
    if count + check = 65535 then bytes? count out bits else none
  | 1 => symbols? (codeOf fixedLengths) (codeOf (List.replicate 30 5)) (bits.length + 1) out bits
  | 2 => do
    let ((literals, distances), bits) ← ownCodes? bits
    symbols? literals distances (bits.length + 1) out bits
  | _ => none

/-- Reads blocks up to the one marked as the last. -/
def blocks? : (fuel : Nat) → List UInt8 → List Bool → Option (List UInt8 × List Bool)
  | 0, _, _ => none
  | fuel + 1, out, bits => do
    let (last, bits) ← number? 1 bits
    let (kind, bits) ← number? 2 bits
    let (out, bits) ← block? kind out bits
    if last = 1 then some (out, bits) else blocks? fuel out bits

/-- The checksum Adler-32. -/
def checksum (bytes : List UInt8) : Nat :=
  let (low, high) := bytes.foldl (fun (s : Nat × Nat) b =>
    let low := (s.1 + b.toNat) % 65521
    (low, (s.2 + low) % 65521)) (1, 0)
  65536 * high + low

/-- Reads compressed data. What comes after it is left aside. -/
def decode? : List UInt8 → Option (List UInt8)
  | method :: flags :: rest => do
    let header := 256 * method.toNat + flags.toNat
    if method.toNat % 16 ≠ 8 || 7 < method.toNat / 16 || header % 31 ≠ 0 ||
        flags.toNat.testBit 5 then none
    else
      let (out, bits) ← blocks? (8 * rest.length + 1) [] (bitsOf rest)
      let (sum, _) ← bytes? 4 [] (aligned bits)
      if Digest.ofBytes sum.reverse = checksum out.reverse then some out.reverse else none
  | _ => none

/-- Blocks hold at most this many bytes. -/
def capacity : Nat := 65535

/-- Bytes in blocks that hold them as they are. -/
def storedBlocks : (fuel : Nat) → List UInt8 → List UInt8
  | 0, _ => []
  | fuel + 1, bytes =>
    let (now, later) := bytes.splitAt capacity
    let size := Digest.bytesOf 2 now.length
    let check := Digest.bytesOf 2 (capacity - now.length)
    (if later.isEmpty then [1] else [0]) ++ size.reverse ++ check.reverse ++ now ++
      (if later.isEmpty then [] else storedBlocks fuel later)

/-- Writes bytes as compressed data, without making them shorter. -/
def encode (bytes : List UInt8) : List UInt8 :=
  [0x78, 0x01] ++ storedBlocks (bytes.length + 1) bytes ++ Digest.bytesOf 4 (checksum bytes)

end Landing.Repository.Deflate
