import Landing.Text.Digits
import Mathlib.Data.Nat.Notation

/-! Digits that are written for a number are read as that number. Main statement:
`word?_toString`. -/
namespace Landing.Text
variable {base : Nat}

theorem digitValue?_digitChar : ∀ d < 16, digitValue? (Nat.digitChar d) = some d := by decide

theorem isDigitIn_digitChar {d : Nat} (hd : d < base) (hbase : base ≤ 16) :
    isDigitIn base (Nat.digitChar d) = true := by
  rw [isDigitIn, digitValue?_digitChar d (Nat.lt_of_lt_of_le hd hbase)]
  exact decide_eq_true hd

theorem ofDigits_append_digit (cs : List Char) {c : Char} {d : Nat} (hc : digitValue? c = some d) :
    ofDigits base (cs ++ [c]) = base * ofDigits base cs + d := by
  simp [ofDigits, List.foldl_append, hc]

theorem isDigitIn_toDigits (hlow : 1 < base) (hhigh : base ≤ 16) (n : Nat) :
    ∀ c ∈ Nat.toDigits base n, isDigitIn base c = true := by
  induction n using Nat.strongRecOn with
  | ind n ih =>
    intro c hc
    rcases Nat.lt_or_ge n base with hn | hn
    · rw [Nat.toDigits_of_lt_base hn, List.mem_singleton] at hc
      rw [hc]
      exact isDigitIn_digitChar hn hhigh
    · rw [Nat.toDigits_of_base_le hlow hn, List.mem_append, List.mem_singleton] at hc
      rcases hc with hc | rfl
      · exact ih (n / base) (Nat.div_lt_self (by omega) hlow) c hc
      · exact isDigitIn_digitChar (Nat.mod_lt n (by omega)) hhigh

theorem ofDigits_toDigits (hlow : 1 < base) (hhigh : base ≤ 16) (n : Nat) :
    ofDigits base (Nat.toDigits base n) = n := by
  induction n using Nat.strongRecOn with
  | ind n ih =>
    rcases Nat.lt_or_ge n base with hn | hn
    · rw [Nat.toDigits_of_lt_base hn]
      simp [ofDigits, digitValue?_digitChar n (by omega)]
    · have hlast : n % base < 16 := Nat.lt_of_lt_of_le (Nat.mod_lt n (by omega)) hhigh
      rw [Nat.toDigits_of_base_le hlow hn, ofDigits_append_digit _ (digitValue?_digitChar _ hlast),
        ih (n / base) (Nat.div_lt_self (by omega) hlow), Nat.div_add_mod]

theorem toList_toString (n : Nat) : (toString n).toList = Nat.toDigits 10 n := String.toList_ofList

theorem decimal?_of_digits {s : String} (hs : s.toList ≠ [])
    (hdigits : ∀ c ∈ s.toList, isDigitIn 10 c = true) :
    decimal? s = some (ofDigits 10 s.toList) := by
  unfold decimal?
  extract_lets digits
  have hplain : digits = s.toList := by
    simp only [digits]
    split
    · rename_i hplus
      rw [hplus] at hdigits
      exact absurd (hdigits '+' List.mem_cons_self) (by decide)
    · rfl
  simp [hplain, hs, List.all_eq_true.2 hdigits]

/-- A number is read from its decimal digits. -/
theorem decimal?_toString (n : Nat) : decimal? (toString n) = some n := by
  have hdigits := isDigitIn_toDigits (by decide : 1 < 10) (by decide) n
  rw [← toList_toString] at hdigits
  rw [decimal?_of_digits (toList_toString n ▸ Nat.toDigits_ne_nil) hdigits, toList_toString,
    ofDigits_toDigits (by decide) (by decide)]

/-- A word is read from its decimal digits. -/
theorem word?_toString (w : UInt32) : word? (toString w.toNat) = some w := by
  have hsize : w.toNat < UInt32.size := w.toNat_lt
  rw [word?, decimal?_toString]
  simp [hsize]

end Landing.Text
