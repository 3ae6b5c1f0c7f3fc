import Landing.Proofs.Digits
import Landing.Toml.Quoted

/-! A text that is written as a string of TOML is read as that text, whatever follows it. Main
statement: `any?_ofText`. -/
namespace Landing.Toml.Quoted
variable {c : Char} {more : List Char} {fuel : Nat}

/-- Only some small characters cannot stand in a string as they are. -/
theorem isPlain_of_le (hc : 128 ≤ c.toNat) : isPlain c = true := by
  have hblank : ' ' ≤ c := by
    rw [Char.le_def, UInt32.le_iff_toNat_le]
    exact Nat.le_trans (by decide) hc
  have hdelete : c ≠ '\x7f' := by
    rintro rfl
    exact absurd hc (by decide)
  simp [isPlain, hblank, hdelete]

/-- Four digits write any of the small numbers. -/
theorem fourDigits : ∀ n < 128,
    (List.replicate (4 - (Nat.toDigits 16 n).length) '0' ++ Nat.toDigits 16 n).length = 4 ∧
    (List.replicate (4 - (Nat.toDigits 16 n).length) '0' ++ Nat.toDigits 16 n).all
      (Text.isDigitIn 16) = true ∧
    Text.ofDigits 16
      (List.replicate (4 - (Nat.toDigits 16 n).length) '0' ++ Nat.toDigits 16 n) = n := by
  decide

theorem scalar?_append {ds : List Char} {count n : Nat} (hlength : ds.length = count)
    (hdigits : ds.all (Text.isDigitIn 16) = true) (hn : Text.ofDigits 16 ds = n)
    (hvalid : n.isValidChar) : scalar? count (ds ++ more) = some (Char.ofNat n, more) := by
  subst hlength
  rw [scalar?, List.take_left, List.drop_left, hn, if_pos ⟨rfl, hdigits, hvalid⟩]

theorem basic_plain (hc : isPlain c = true) (hquote : c ≠ '"') (hslash : c ≠ '\\') :
    basic (fuel + 1) (c :: more) = cons c (basic fuel more) := by
  rw [basic]
  · rw [if_pos hc]
  · exact hquote
  · exact hslash

theorem basic_escape {cs rest : List Char} (h : escape? cs = some (c, rest)) :
    basic (fuel + 1) ('\\' :: cs) = cons c (basic fuel rest) := by
  rw [basic, h]
  rfl

/-- The way a character is written, it is read. -/
theorem basic_write : basic (fuel + 1) (write c ++ more) = cons c (basic fuel more) := by
  rw [write]
  split
  · subst_vars
    rfl
  split
  · subst_vars
    rfl
  split
  · subst_vars
    rfl
  split
  · subst_vars
    rfl
  split
  · exact basic_plain ‹_› ‹_› ‹_›
  · have hsmall : c.toNat < 128 := Nat.lt_of_not_le fun hc => ‹¬_› (isPlain_of_le hc)
    obtain ⟨hlength, hdigits, hn⟩ := fourDigits c.toNat hsmall
    apply basic_escape
    change scalar? 4 (_ ++ more) = _
    rw [scalar?_append hlength hdigits hn c.valid, Char.ofNat_toNat]

theorem basic_flatMap_write {cs : List Char} (hfuel : cs.length < fuel) (more : List Char) :
    basic fuel (cs.flatMap write ++ '"' :: more) = some (cs, more) := by
  induction cs generalizing fuel with
  | nil =>
    obtain ⟨fuel, rfl⟩ := Nat.exists_eq_add_one_of_ne_zero (Nat.ne_zero_of_lt hfuel)
    rfl
  | cons c cs ih =>
    obtain ⟨fuel, rfl⟩ := Nat.exists_eq_add_one_of_ne_zero (Nat.ne_zero_of_lt hfuel)
    rw [List.flatMap_cons, List.append_assoc, basic_write, ih (Nat.lt_of_succ_lt_succ hfuel)]
    rfl

theorem write_ne_nil (c : Char) : ∃ d ds, write c = d :: ds ∧ d ≠ '"' := by
  rw [write]
  split
  · exact ⟨_, _, rfl, by decide⟩
  split
  · exact ⟨_, _, rfl, by decide⟩
  split
  · exact ⟨_, _, rfl, by decide⟩
  split
  · exact ⟨_, _, rfl, by decide⟩
  split
  · exact ⟨_, _, rfl, ‹_›⟩
  · exact ⟨_, _, rfl, by decide⟩

theorem length_le_flatMap_write (cs : List Char) : cs.length ≤ (cs.flatMap write).length := by
  induction cs with
  | nil => exact Nat.le_refl 0
  | cons c cs ih =>
    obtain ⟨d, ds, hwrite, -⟩ := write_ne_nil c
    rw [List.flatMap_cons, hwrite, List.length_append, List.length_cons, List.length_cons]
    omega

theorem oneLine?_ofText (s : String) (more : List Char) :
    oneLine? (ofText s ++ more) = some (s.toList, more) := by
  have hfuel := length_le_flatMap_write s.toList
  have htext : ofText s ++ more = '"' :: (s.toList.flatMap write ++ '"' :: more) := by
    simp [ofText]
  rw [htext, oneLine?]
  apply basic_flatMap_write
  rw [List.length_append]
  omega

theorem any?_of_short {body : List Char} (hbody : ∀ rest, body ≠ '"' :: '"' :: rest) :
    any? ('"' :: body) = oneLine? ('"' :: body) := by
  rw [any?]
  · intro rest hrest
    exact hbody rest (List.cons.inj hrest).2
  · intro rest hrest
    exact absurd (List.cons.inj hrest).1 (by decide)

/-- A text is read as it was written, if no quote follows it. -/
theorem any?_ofText (s : String) {more : List Char} (hmore : more.head? ≠ some '"') :
    any? (ofText s ++ more) = some (s.toList, more) := by
  have hshort : any? (ofText s ++ more) = oneLine? (ofText s ++ more) := by
    apply any?_of_short
    intro rest hrest
    cases hs : s.toList with
    | nil =>
      rw [hs] at hrest
      obtain rfl := (List.cons.inj hrest).2
      exact hmore rfl
    | cons c cs =>
      obtain ⟨d, ds, hwrite, hd⟩ := write_ne_nil c
      rw [hs, List.flatMap_cons, hwrite] at hrest
      exact hd (List.cons.inj hrest).1
  rw [hshort, oneLine?_ofText]

end Landing.Toml.Quoted
