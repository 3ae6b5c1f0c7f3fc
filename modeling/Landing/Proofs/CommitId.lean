import Landing.Error
import Mathlib.Data.List.TakeWhile

/-! Names of commits in lower case. However the letters of a name are written, it becomes the same
name, if it is made by `normal` or `parse`. -/
namespace Landing

namespace Text

/-- Letters in upper case move by 32, all other characters stay. -/
theorem toLower_cases (c : Char) :
    (c.toLower = c ∧ ¬ (65 ≤ c.toNat ∧ c.toNat ≤ 90)) ∨
      (65 ≤ c.toNat ∧ c.toNat ≤ 90 ∧ c.toLower.toNat = c.toNat + 32) := by
  by_cases hc : c.val ≥ 'A'.val ∧ c.val ≤ 'Z'.val
  · right
    have hlow : 65 ≤ c.val.toNat := UInt32.le_iff_toNat_le.1 hc.1
    have hhigh : c.val.toNat ≤ 90 := UInt32.le_iff_toNat_le.1 hc.2
    have hstep : ('a'.val - 'A'.val).toNat = 32 := rfl
    have hmoved : c.toLower.val = c.val + ('a'.val - 'A'.val) := congrArg Char.val (dif_pos hc)
    refine ⟨hlow, hhigh, ?_⟩
    simp only [Char.toNat, hmoved, UInt32.toNat_add]
    omega
  · refine .inl ⟨dif_neg hc, fun hrange => hc ?_⟩
    exact ⟨UInt32.le_iff_toNat_le.2 hrange.1, UInt32.le_iff_toNat_le.2 hrange.2⟩

/-- What holds of letters in lower case if and only if it holds of them in upper case. -/
theorem apply_toLower {p : Nat → Bool} (hp : ∀ n, 65 ≤ n → n ≤ 90 → p (n + 32) = p n) (c : Char) :
    p c.toLower.toNat = p c.toNat := by
  rcases toLower_cases c with ⟨hc, _⟩ | ⟨hlow, hhigh, hc⟩
  · rw [hc]
  · rw [hc, hp c.toNat hlow hhigh]

theorem toLower_toLower (c : Char) : c.toLower.toLower = c.toLower := by
  rcases toLower_cases c.toLower with ⟨hc, _⟩ | ⟨_, hhigh, _⟩
  · exact hc
  · rcases toLower_cases c with ⟨hc, _⟩ | ⟨hlow, _, hc⟩
    · rw [hc, hc]
    · omega

@[simp] theorem isBlank_toLower (c : Char) : isBlank c.toLower = isBlank c := by
  refine apply_toLower (p := fun n => (9 ≤ n && n ≤ 13) || n == 0x20 || n == 0x85 || n == 0xA0 ||
    n == 0x1680 || (0x2000 ≤ n && n ≤ 0x200A) || n == 0x2028 || n == 0x2029 || n == 0x202F ||
    n == 0x205F || n == 0x3000) (fun n hlow hhigh => ?_) c
  rw [Bool.eq_iff_iff]
  simp only [Bool.or_eq_true, Bool.and_eq_true, decide_eq_true_eq, beq_iff_eq]
  omega

theorem trimChars_map_toLower (cs : List Char) :
    trimChars (cs.map Char.toLower) = (trimChars cs).map Char.toLower := by
  have hblank : isBlank ∘ Char.toLower = isBlank := funext isBlank_toLower
  simp only [trimChars, dropEndWhile, List.dropWhile_map, ← List.map_reverse, hblank]

theorem trim_lowerAscii (s : String) : trim (lowerAscii s) = lowerAscii (trim s) := by
  simp only [trim, lowerAscii, String.toList_ofList, trimChars_map_toLower]

@[simp] theorem lowerAscii_lowerAscii (s : String) : lowerAscii (lowerAscii s) = lowerAscii s := by
  simp only [lowerAscii, String.toList_ofList, List.map_map, Function.comp_def, toLower_toLower]

end Text

namespace CommitId

/-- In lower case. -/
def IsNormal (id : CommitId) : Prop := normal id.hex = id

instance (id : CommitId) : Decidable id.IsNormal := inferInstanceAs (Decidable (_ = _))

theorem isNormal_normal (hex : String) : (normal hex).IsNormal :=
  congrArg mk (Text.lowerAscii_lowerAscii hex)

theorem isNormal_iff {id : CommitId} : id.IsNormal ↔ ∀ c ∈ id.hex.toList, c.toLower = c := by
  rw [← List.map_inj_left, List.map_id', IsNormal, normal, mk.injEq, Text.lowerAscii,
    ← String.toList_inj, String.toList_ofList]

/-- Digits of an object name by their numbers. -/
theorem isHexDigit_iff {c : Char} : isHexDigit c = true ↔ (48 ≤ c.toNat ∧ c.toNat ≤ 57) ∨
    (97 ≤ c.toNat ∧ c.toNat ≤ 102) ∨ (65 ≤ c.toNat ∧ c.toNat ≤ 70) := by
  simp only [isHexDigit, Bool.or_eq_true, Bool.and_eq_true, decide_eq_true_eq, or_assoc]
  exact Iff.rfl

@[simp] theorem isHexDigit_toLower (c : Char) : isHexDigit c.toLower = isHexDigit c := by
  refine Text.apply_toLower (p := fun n => (48 ≤ n && n ≤ 57) || (97 ≤ n && n ≤ 102) ||
    (65 ≤ n && n ≤ 70)) (fun n hlow hhigh => ?_) c
  rw [Bool.eq_iff_iff]
  simp only [Bool.or_eq_true, Bool.and_eq_true, decide_eq_true_eq]
  omega

theorem isObjectName_lowerAscii (s : String) :
    isObjectName (Text.lowerAscii s) = isObjectName s := by
  simp only [isObjectName, Text.lowerAscii, String.toList_ofList, List.length_map, List.all_map,
    Function.comp_def, isHexDigit_toLower]

/-- Names that differ only in the case of letters are read as the same. -/
theorem parse?_lowerAscii (s : String) : parse? (Text.lowerAscii s) = parse? s := by
  simp only [parse?, Text.trim_lowerAscii, isObjectName_lowerAscii, normal,
    Text.lowerAscii_lowerAscii]

theorem isNormal_of_parse? {s : String} {id : CommitId} (h : parse? s = some id) :
    id.IsNormal := by
  simp only [parse?, Option.ite_none_right_eq_some, Option.some.injEq] at h
  exact h.2 ▸ isNormal_normal _

end CommitId

end Landing
