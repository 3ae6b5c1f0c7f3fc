import Landing.Text.Utf8
import Mathlib.Order.Basic

/-! ASCII texts: each character is written in one byte. -/
namespace Landing.Text
variable {cs : List Char}

theorem utf8EncodeChar_ascii {c : Char} (hc : c.toNat < 128) :
    String.utf8EncodeChar c = [UInt8.ofNat c.toNat] := by
  have hle : c.val.toNat ≤ 0x7f := Nat.le_of_lt_succ hc
  simp only [String.utf8EncodeChar, if_pos hle]
  rfl

theorem flatMap_utf8EncodeChar (hcs : ∀ c ∈ cs, c.toNat < 128) :
    cs.flatMap String.utf8EncodeChar = bytesOfChars cs := by
  induction cs with
  | nil => rfl
  | cons c cs ih =>
    rw [List.forall_mem_cons] at hcs
    rw [List.flatMap_cons, utf8EncodeChar_ascii hcs.1, ih hcs.2]
    rfl

theorem toNat_ofNat_byte (b : UInt8) : (Char.ofNat b.toNat).toNat = b.toNat := by
  have hvalid : b.toNat.isValidChar := .inl (Nat.lt_trans b.toNat_lt (by decide))
  rw [Char.ofNat, dif_pos hvalid]
  exact UInt32.toNat_ofNatLT ..

theorem toNat_ofNat_small {c : Char} (hc : c.toNat < 128) :
    (UInt8.ofNat c.toNat).toNat = c.toNat :=
  UInt8.toNat_ofNat_of_lt' (Nat.lt_trans hc (by decide))

theorem charsOfBytes_bytesOfChars (hcs : ∀ c ∈ cs, c.toNat < 128) :
    charsOfBytes (bytesOfChars cs) = cs := by
  rw [charsOfBytes, bytesOfChars, List.map_map]
  refine (List.map_congr_left fun c hc => ?_).trans (List.map_id _)
  rw [Function.comp_apply, toNat_ofNat_small (hcs c hc), Char.ofNat_toNat, id]

end Landing.Text
