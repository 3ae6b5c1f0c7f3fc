import Landing.Proofs.Digits
import Landing.Review
import Mathlib.Algebra.GroupWithZero.Nat
import Mathlib.Data.List.DropRight

/-! The refs of patch sets: no two patch sets have the same, and each is read back from its own.
Main statement: `refName_splits`. -/
namespace Landing

namespace Text

section Split
variable {sep : Char}

theorem splitAt_eq_splitOn (sep : Char) (cs : List Char) : splitAt sep cs = cs.splitOn sep := by
  induction cs with
  | nil => rfl
  | cons c rest ih =>
    rw [splitAt, List.splitOn_cons_eq_if_modifyHead, ih]
    simp only [beq_iff_eq]
    split
    · rfl
    · cases h : rest.splitOn sep with
      | nil => exact absurd h (List.splitOn_ne_nil sep rest)
      | cons piece pieces => rfl

/-- Parts that do not hold the separator are found again where they were joined. -/
theorem split_intercalate {parts : List String} (hne : parts ≠ [])
    (hparts : ∀ part ∈ parts, sep ∉ part.toList) :
    split sep (String.intercalate (String.singleton sep) parts) = parts := by
  have hclear : ∀ l ∈ parts.map String.toList, sep ∉ l := by simpa using hparts
  rw [split, splitAt_eq_splitOn, String.toList_intercalate, String.toList_singleton,
    List.splitOn_intercalate sep hclear (by simpa using hne), List.map_map]
  simp [Function.comp_def]

end Split

/-- The last digits, as many as there are places. In places that are left stand zeros. -/
def lastDigits (width : Nat) (digits : List Char) : List Char :=
  (digits.rtake width).leftpad width '0'

section LastDigits
variable {width : Nat}

theorem lastDigits_concat (digits : List Char) (d : Char) :
    lastDigits (width + 1) (digits ++ [d]) = lastDigits width digits ++ [d] := by
  simp [lastDigits, List.rtake_concat_succ, List.leftpad]

@[simp] theorem lastDigits_zero (digits : List Char) : lastDigits 0 digits = [] := by
  simp [lastDigits]

/-- Zeros are all there is without digits, and for the number zero. -/
theorem lastDigits_nil (width : Nat) : lastDigits width [] = lastDigits width ['0'] := by
  cases width with
  | zero => simp
  | succ width =>
    rw [← List.nil_append ['0'], lastDigits_concat]
    simp [lastDigits, List.replicate_succ']

/-- In the last place stands the remainder, in the ones before it the quotient. -/
theorem lastDigits_succ (width n : Nat) : lastDigits (width + 1) (Nat.toDigits 10 n) =
    lastDigits width (Nat.toDigits 10 (n / 10)) ++ [Nat.digitChar (n % 10)] := by
  rcases Nat.lt_or_ge n 10 with hn | hn
  · rw [Nat.toDigits_of_lt_base hn, Nat.div_eq_of_lt hn, Nat.mod_eq_of_lt hn, Nat.toDigits_zero,
      ← lastDigits_nil, ← lastDigits_concat, List.nil_append]
  · rw [Nat.toDigits_of_base_le (by decide) hn, lastDigits_concat]

theorem lastDigits_mod (width n : Nat) : lastDigits width (Nat.toDigits 10 (n % 10 ^ width)) =
    lastDigits width (Nat.toDigits 10 n) := by
  induction width generalizing n with
  | zero => simp
  | succ width ih =>
    have hdiv : n % 10 ^ (width + 1) / 10 = n / 10 % 10 ^ width := by
      rw [Nat.pow_succ, Nat.mod_mul_left_div_self]
    have hmod : n % 10 ^ (width + 1) % 10 = n % 10 := by
      rw [Nat.pow_succ, Nat.mod_mul_left_mod]
    rw [lastDigits_succ, lastDigits_succ, hdiv, hmod, ih]

/-- Nothing is cut off a number that fits into its places. -/
theorem padded_eq_lastDigits {n : Nat} (hwidth : 0 < width) (hn : n < 10 ^ width) :
    Instant.padded width n = lastDigits width (Nat.toDigits 10 n) := by
  have hlength := (Nat.length_toDigits_le_iff (by decide) hwidth).2 hn
  rw [lastDigits, List.rtake, Nat.sub_eq_zero_of_le hlength, List.drop_zero]
  rfl

theorem padded_mod (hwidth : 0 < width) (n : Nat) :
    Instant.padded width (n % 10 ^ width) = lastDigits width (Nat.toDigits 10 n) := by
  rw [padded_eq_lastDigits hwidth (Nat.mod_lt n (Nat.pow_pos (by decide))), lastDigits_mod]

theorem isDigitIn_padded (width n : Nat) :
    ∀ c ∈ Instant.padded width n, isDigitIn 10 c = true := by
  intro c hc
  rcases List.mem_append.1 hc with hc | hc
  · rw [List.eq_of_mem_replicate hc]
    decide
  · exact isDigitIn_toDigits (by decide) (by decide) n c hc

end LastDigits

end Text

namespace PatchSetId
open Text

/-- The patch set that a ref holds by its name. The shard says nothing more than the change. -/
def ofRefName? (ref : String) : Option PatchSetId :=
  match split '/' ref with
  | ["refs", "changes", _, change, number] => do
    let change ← word? change
    let number ← word? number
    some ⟨⟨change⟩, number⟩
  | _ => none

theorem shard_eq_lastDigits (c : ChangeId) : shard c = lastDigits 2 (toString c).toList := by
  have hdigits : (toString c).toList = Nat.toDigits 10 c.number.toNat := toList_toString _
  rw [hdigits, ← padded_mod (by decide)]
  rfl

theorem refName_eq_intercalate (p : PatchSetId) : p.refName =
    String.intercalate (String.singleton '/') ["refs", "changes", String.ofList (shard p.change),
      toString p.change, toString p.number.toNat] := by
  have hname : p.refName = "refs/changes/" ++ String.ofList (shard p.change) ++ "/" ++
      toString p.change ++ "/" ++ toString p.number.toNat := rfl
  rw [hname, ← String.toList_inj]
  simp

/-- What differs from ref to ref is digits, so no part holds a slash. -/
theorem split_refName (p : PatchSetId) : split '/' p.refName =
    ["refs", "changes", String.ofList (shard p.change), toString p.change,
      toString p.number.toNat] := by
  have hslash {cs : List Char} (hcs : ∀ c ∈ cs, isDigitIn 10 c = true) : '/' ∉ cs :=
    fun hmem => absurd (hcs '/' hmem) (by decide)
  have hnumber (n : Nat) : '/' ∉ (toString n).toList := by
    rw [toList_toString]
    exact hslash (isDigitIn_toDigits (by decide) (by decide) n)
  have hshard : '/' ∉ (String.ofList (shard p.change)).toList := by
    rw [String.toList_ofList]
    exact hslash (isDigitIn_padded 2 _)
  rw [refName_eq_intercalate, split_intercalate (List.cons_ne_nil _ _)]
  simp only [List.forall_mem_cons]
  exact ⟨by decide, by decide, hshard, hnumber _, hnumber _, by simp⟩

theorem ofRefName?_refName (p : PatchSetId) : ofRefName? p.refName = some p := by
  have hchange : word? (toString p.change) = some p.change.number := word?_toString _
  rw [ofRefName?, split_refName]
  simp only [hchange, word?_toString]
  rfl

/-- No two patch sets have the same ref. Slashes part a ref into the shard, which is the last two
digits of the change, the change and the number; so the patch set is read back from it. -/
theorem refName_splits : Function.Injective refName ∧ ∀ p : PatchSetId,
    split '/' p.refName =
      ["refs", "changes", String.ofList (lastDigits 2 (toString p.change).toList),
        toString p.change, toString p.number.toNat] ∧
    ofRefName? p.refName = some p := by
  refine ⟨fun p q hpq => ?_, fun p =>
    ⟨shard_eq_lastDigits p.change ▸ split_refName p, ofRefName?_refName p⟩⟩
  have hread := congrArg ofRefName? hpq
  rw [ofRefName?_refName, ofRefName?_refName] at hread
  exact Option.some.inj hread

example : refName ⟨⟨7⟩, 1⟩ = "refs/changes/07/7/1" := by decide

end PatchSetId

end Landing
