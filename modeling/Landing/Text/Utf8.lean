/-! Texts as bytes in UTF-8. -/
namespace Landing.Text

/-- The bytes of a text. -/
def encode (s : String) : List UInt8 := s.toList.flatMap String.utf8EncodeChar

/-- What a first byte promises: how many bytes follow, the bits it brings, and the bounds of the
byte after it. -/
structure Lead where
  count : Nat
  bits : Nat
  least : Nat
  most : Nat

/-- Sequences are as short as possible and write no surrogate and nothing above U+10FFFF. -/
def lead? (b : Nat) : Option Lead :=
  if 0xC2 ≤ b && b ≤ 0xDF then some ⟨1, b - 0xC0, 0x80, 0xBF⟩
  else if b == 0xE0 then some ⟨2, 0, 0xA0, 0xBF⟩
  else if b == 0xED then some ⟨2, 0xD, 0x80, 0x9F⟩
  else if 0xE1 ≤ b && b ≤ 0xEF then some ⟨2, b - 0xE0, 0x80, 0xBF⟩
  else if b == 0xF0 then some ⟨3, 0, 0x90, 0xBF⟩
  else if b == 0xF4 then some ⟨3, 4, 0x80, 0x8F⟩
  else if 0xF1 ≤ b && b ≤ 0xF3 then some ⟨3, b - 0xF0, 0x80, 0xBF⟩
  else none

/-- The bytes that continue a sequence, up to the first that cannot: the bits so far, and how many
bytes are still missing. -/
def follow : (missing bits least most : Nat) → List UInt8 → (Nat × Nat) × List UInt8
  | 0, bits, _, _, rest => ((0, bits), rest)
  | missing + 1, bits, _, _, [] => ((missing + 1, bits), [])
  | missing + 1, bits, least, most, b :: rest =>
    if least ≤ b.toNat && b.toNat ≤ most then
      follow missing (64 * bits + (b.toNat - 0x80)) 0x80 0xBF rest
    else ((missing + 1, bits), b :: rest)

/-- Reads bytes as characters. A sequence that breaks off is `none` once, as is a byte that
begins none. -/
def decodeFrom : (fuel : Nat) → List UInt8 → List (Option Char)
  | 0, _ | _, [] => []
  | fuel + 1, b :: rest =>
    if b.toNat < 0x80 then some (Char.ofNat b.toNat) :: decodeFrom fuel rest
    else match lead? b.toNat with
      | none => none :: decodeFrom fuel rest
      | some l =>
        match follow l.count l.bits l.least l.most rest with
        | ((0, n), rest) => some (Char.ofNat n) :: decodeFrom fuel rest
        | (_, rest) => none :: decodeFrom fuel rest

/-- Bytes as the characters of the same numbers. -/
def charsOfBytes (bytes : List UInt8) : List Char := bytes.map fun b => Char.ofNat b.toNat

/-- The bytes behind characters that stand for bytes. -/
def bytesOfChars (cs : List Char) : List UInt8 := cs.map fun c => UInt8.ofNat c.toNat

def decodeEach (bytes : List UInt8) : List (Option Char) := decodeFrom bytes.length bytes

/-- The text that bytes write, if they write one. -/
def decode? (bytes : List UInt8) : Option String :=
  ((decodeEach bytes).mapM id).map String.ofList

/-- The text that bytes write, with a mark in place of what is none. -/
def decodeLossy (bytes : List UInt8) : String :=
  String.ofList ((decodeEach bytes).map (·.getD '\ufffd'))

end Landing.Text
