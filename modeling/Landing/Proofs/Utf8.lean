import Landing.Text.Utf8
import Mathlib.Order.Basic

/-! Texts are read from the bytes in which they are written. Main statement: `decode?_encode`. -/
namespace Landing.Text
variable {bytes : List UInt8} {v fuel : Nat}

/-- A byte that continues a sequence brings six bits. -/
theorem follow_tail {x bits least most missing : Nat} (hx : x < 64) (hleast : least ≤ x + 128)
    (hmost : x + 128 ≤ most) :
    follow (missing + 1) bits least most (UInt8.ofNat (x + 128) :: bytes) =
      follow missing (64 * bits + x) 0x80 0xBF bytes := by
  have hbyte : (UInt8.ofNat (x + 128)).toNat = x + 128 :=
    UInt8.toNat_ofNat_of_lt' (Nat.lt_of_lt_of_le (Nat.add_lt_add_right hx 128) (by decide))
  rw [follow, hbyte, if_pos (by simp [hleast, hmost]), Nat.add_sub_cancel]

/-- A first byte with all that it promises writes one character. -/
theorem decodeFrom_lead {b n count bits least most : Nat} {rest : List UInt8} (hb : 0x80 ≤ b)
    (hb' : b < 256) (hlead : lead? b = some ⟨count, bits, least, most⟩)
    (hfollow : follow count bits least most bytes = ((0, n), rest)) :
    decodeFrom (fuel + 1) (UInt8.ofNat b :: bytes) =
      some (Char.ofNat n) :: decodeFrom fuel rest := by
  have hbyte : (UInt8.ofNat b).toNat = b := UInt8.toNat_ofNat_of_lt' hb'
  rw [decodeFrom, hbyte, if_neg (Nat.not_lt.2 hb), hlead]
  simp only [hfollow]

theorem decodeFrom_one (hv : v < 0x80) :
    decodeFrom (fuel + 1) (UInt8.ofNat v :: bytes) =
      some (Char.ofNat v) :: decodeFrom fuel bytes := by
  have hbyte : (UInt8.ofNat v).toNat = v :=
    UInt8.toNat_ofNat_of_lt' (Nat.lt_trans hv (by decide))
  rw [decodeFrom, hbyte, if_pos hv]

theorem decodeFrom_two (hlow : 0x80 ≤ v) (hhigh : v ≤ 0x7FF) :
    decodeFrom (fuel + 1)
      (UInt8.ofNat (v / 64 % 32 + 192) :: UInt8.ofNat (v % 64 + 128) :: bytes) =
        some (Char.ofNat v) :: decodeFrom fuel bytes := by
  have hlead : lead? (v / 64 % 32 + 192) = some ⟨1, v / 64 % 32, 0x80, 0xBF⟩ := by
    rw [lead?, if_pos (by simp; omega)]
    simp
  apply decodeFrom_lead (by omega) (by omega) hlead
  have hv : 64 * (v / 64 % 32) + v % 64 = v := by omega
  rw [follow_tail (by omega) (by omega) (by omega), follow, hv]

/-- The first of three bytes narrows the second one where a shorter sequence or a surrogate would
come of it. -/
theorem lead?_three (hlow : 0x800 ≤ v) (hhigh : v ≤ 0xFFFF) (hv : v < 0xD800 ∨ 0xDFFF < v) :
    ∃ least most, lead? (v / 4096 % 16 + 224) = some ⟨2, v / 4096 % 16, least, most⟩ ∧
      least ≤ v / 64 % 64 + 128 ∧ v / 64 % 64 + 128 ≤ most := by
  obtain ⟨x, hx⟩ : ∃ x, x = v / 4096 % 16 := ⟨_, rfl⟩
  rw [← hx]
  by_cases hzero : x = 0
  · exact ⟨0xA0, 0xBF, by rw [hzero]; rfl, by omega, by omega⟩
  by_cases hmiddle : x = 13
  · exact ⟨0x80, 0x9F, by rw [hmiddle]; rfl, by omega, by omega⟩
  refine ⟨0x80, 0xBF, ?_, by omega, by omega⟩
  rw [lead?, if_neg (by simp), if_neg (by simpa using hzero), if_neg (by simp; omega),
    if_pos (by simp; omega), Nat.add_sub_cancel]

theorem decodeFrom_three (hlow : 0x800 ≤ v) (hhigh : v ≤ 0xFFFF) (hv : v < 0xD800 ∨ 0xDFFF < v) :
    decodeFrom (fuel + 1) (UInt8.ofNat (v / 4096 % 16 + 224) :: UInt8.ofNat (v / 64 % 64 + 128) ::
      UInt8.ofNat (v % 64 + 128) :: bytes) = some (Char.ofNat v) :: decodeFrom fuel bytes := by
  obtain ⟨least, most, hlead, hleast, hmost⟩ := lead?_three hlow hhigh hv
  apply decodeFrom_lead (by omega) (by omega) hlead
  have hsum : 64 * (64 * (v / 4096 % 16) + v / 64 % 64) + v % 64 = v := by omega
  rw [follow_tail (by omega) hleast hmost, follow_tail (by omega) (by omega) (by omega), follow,
    hsum]

/-- The first of four bytes narrows the second one where a shorter sequence or too large a number
would come of it. -/
theorem lead?_four (hlow : 0x10000 ≤ v) (hhigh : v < 0x110000) :
    ∃ least most, lead? (v / 262144 % 8 + 240) = some ⟨3, v / 262144 % 8, least, most⟩ ∧
      least ≤ v / 4096 % 64 + 128 ∧ v / 4096 % 64 + 128 ≤ most := by
  obtain ⟨x, hx⟩ : ∃ x, x = v / 262144 % 8 := ⟨_, rfl⟩
  rw [← hx]
  by_cases hzero : x = 0
  · exact ⟨0x90, 0xBF, by rw [hzero]; rfl, by omega, by omega⟩
  by_cases hlast : x = 4
  · exact ⟨0x80, 0x8F, by rw [hlast]; rfl, by omega, by omega⟩
  refine ⟨0x80, 0xBF, ?_, by omega, by omega⟩
  rw [lead?, if_neg (by simp), if_neg (by simp), if_neg (by simp), if_neg (by simp),
    if_neg (by simpa using hzero), if_neg (by simp; omega), if_pos (by simp; omega),
    Nat.add_sub_cancel]

theorem decodeFrom_four (hlow : 0x10000 ≤ v) (hhigh : v < 0x110000) :
    decodeFrom (fuel + 1) (UInt8.ofNat (v / 262144 % 8 + 240) ::
      UInt8.ofNat (v / 4096 % 64 + 128) :: UInt8.ofNat (v / 64 % 64 + 128) ::
      UInt8.ofNat (v % 64 + 128) :: bytes) = some (Char.ofNat v) :: decodeFrom fuel bytes := by
  obtain ⟨least, most, hlead, hleast, hmost⟩ := lead?_four hlow hhigh
  apply decodeFrom_lead (by omega) (by omega) hlead
  have hsum : 64 * (64 * (64 * (v / 262144 % 8) + v / 4096 % 64) + v / 64 % 64) + v % 64 = v := by
    omega
  rw [follow_tail (by omega) hleast hmost, follow_tail (by omega) (by omega) (by omega),
    follow_tail (by omega) (by omega) (by omega), follow, hsum]

/-- The bytes of a character, however many they are. -/
theorem decodeFrom_utf8EncodeChar (c : Char) :
    decodeFrom (fuel + 1) (String.utf8EncodeChar c ++ bytes) = some c :: decodeFrom fuel bytes := by
  have hc : Char.ofNat c.val.toNat = c := Char.ofNat_toNat c
  have hvalid : c.val.toNat < 0xD800 ∨ 0xDFFF < c.val.toNat ∧ c.val.toNat < 0x110000 := c.valid
  simp only [String.utf8EncodeChar]
  split
  · rw [List.singleton_append, decodeFrom_one (by omega), hc]
  split
  · rw [List.cons_append, List.singleton_append, decodeFrom_two (by omega) (by omega), hc]
  split
  · rw [List.cons_append, List.cons_append, List.singleton_append,
      decodeFrom_three (by omega) (by omega) (by omega), hc]
  · rw [List.cons_append, List.cons_append, List.cons_append, List.singleton_append,
      decodeFrom_four (by omega) (by omega), hc]

theorem decodeFrom_flatMap {cs : List Char} (hfuel : cs.length ≤ fuel) :
    decodeFrom fuel (cs.flatMap String.utf8EncodeChar) = cs.map some := by
  induction cs generalizing fuel with
  | nil => cases fuel <;> rfl
  | cons c cs ih =>
    obtain ⟨fuel, rfl⟩ := Nat.exists_eq_add_of_le' (Nat.lt_of_lt_of_le (Nat.succ_pos _) hfuel)
    rw [List.flatMap_cons, decodeFrom_utf8EncodeChar, ih (Nat.le_of_succ_le_succ hfuel),
      List.map_cons]

theorem length_le_encode (cs : List Char) :
    cs.length ≤ (cs.flatMap String.utf8EncodeChar).length := by
  induction cs with
  | nil => exact Nat.le_refl 0
  | cons c cs ih =>
    have hpos : 1 ≤ (String.utf8EncodeChar c).length := by
      simp only [String.utf8EncodeChar]
      split
      · simp
      split
      · simp
      split <;> simp
    rw [List.flatMap_cons, List.length_append, List.length_cons]
    omega

theorem decodeEach_encode (s : String) : decodeEach (encode s) = s.toList.map some :=
  decodeFrom_flatMap (length_le_encode s.toList)

theorem decodeLossy_encode (s : String) : decodeLossy (encode s) = s := by
  rw [decodeLossy, decodeEach_encode, List.map_map]
  have hid : ((·.getD '\ufffd') ∘ some : Char → Char) = id := rfl
  rw [hid, List.map_id, String.ofList_toList]

/-- A text is read from its bytes. -/
theorem decode?_encode (s : String) : decode? (encode s) = some s := by
  have hall : ∀ cs : List Char, (cs.map some).mapM id = some cs := by
    intro cs
    induction cs with
    | nil => rfl
    | cons c cs ih => simp [ih]
  rw [decode?, decodeEach_encode, hall, Option.map_some, String.ofList_toList]

end Landing.Text
