import Landing.Proofs.Pattern.Match
import Landing.Ticket

/-! What the default pattern finds in a message. Main statement: `find_default`. -/
namespace Landing

namespace Pattern.Sets
open Unicode

theorem contains_blank : blank.contains = Text.isBlank := by
  funext c
  rw [Bool.eq_iff_iff]
  simp only [CharSet.contains, CharSet.hasNumber, blank, Text.isBlank, List.any_cons, List.any_nil,
    Bool.or_false, Bool.or_eq_true, Bool.and_eq_true, decide_eq_true_eq, beq_iff_eq]
  omega

theorem contains_asciiDigit_iff {c : Char} :
    asciiDigit.contains c = true ↔ 48 ≤ c.toNat ∧ c.toNat ≤ 57 := by
  simp [CharSet.contains, CharSet.hasNumber, asciiDigit]

theorem contains_asciiDigit : asciiDigit.contains = Char.isDigit := by
  funext c
  rw [Bool.eq_iff_iff, contains_asciiDigit_iff]
  simp only [Char.isDigit, Bool.and_eq_true, decide_eq_true_eq, UInt32.le_iff_toNat_le]
  rfl

theorem not_asciiDigit_of_blank (c : Char) (h : blank.contains c = true) :
    asciiDigit.contains c = false := by
  rw [← Bool.not_eq_true, contains_asciiDigit_iff]
  rw [contains_blank, Text.isBlank] at h
  simp only [Bool.or_eq_true, Bool.and_eq_true, decide_eq_true_eq, beq_iff_eq] at h
  omega

end Pattern.Sets

namespace TicketMatcher
open Pattern

theorem expr_default :
    default.expr = numbered "TICKET:".toList Sets.blank Sets.asciiDigit := by decide +kernel

/-- `TICKET:`, at most one white-space character and an ASCII digit stand at the front. -/
def Mentions (cs : List Char) : Prop :=
  ∃ gap digit after, cs = "TICKET:".toList ++ (gap ++ digit :: after) ∧ gap.length ≤ 1 ∧
    (∀ c ∈ gap, Text.isBlank c = true) ∧ digit.isDigit = true

/-- Where a digit stands, all digits that stand there can be taken. -/
theorem mentions_iff_starts {cs : List Char} :
    Mentions cs ↔ Starts "TICKET:".toList Text.isBlank Char.isDigit cs := by
  constructor
  · rintro ⟨gap, digit, after, hsplit, hshort, hgap, hdigit⟩
    exact starts_of_takeWhile gap hsplit hshort hgap (by simp [hdigit])
  · rintro ⟨gap, digits, hshort, hgap, hdigits, hne, after, hsplit, -⟩
    cases digits with
    | nil => exact absurd rfl hne
    | cons digit digits =>
      exact ⟨gap, digit, digits ++ after, hsplit, hshort, hgap, hdigits digit List.mem_cons_self⟩

variable {text : String}

theorem find_of_takes {cs gap digits : List Char} (hcs : cs <:+ text.toList)
    (htakes : Takes "TICKET:".toList Text.isBlank Char.isDigit cs gap digits)
    (hfirst : ∀ cs', cs' <:+ text.toList → Mentions cs' → cs'.length ≤ cs.length) :
    default.find text = some (String.ofList digits) := by
  obtain ⟨earlier, hearlier⟩ := hcs
  simp only [mentions_iff_starts] at hfirst
  rw [← Sets.contains_blank, ← Sets.contains_asciiDigit] at htakes hfirst
  rw [← hearlier] at hfirst
  rw [find, expr_default, ← hearlier, capture?_of_takes Sets.not_asciiDigit_of_blank htakes hfirst]
  rfl

theorem find_eq_none (hnone : ∀ cs, cs <:+ text.toList → ¬Mentions cs) :
    default.find text = none := by
  simp only [mentions_iff_starts] at hnone
  rw [← Sets.contains_blank, ← Sets.contains_asciiDigit] at hnone
  rw [find, expr_default, capture?_eq_none hnone]
  rfl

theorem exists_first_mention (h : ∃ cs, cs <:+ text.toList ∧ Mentions cs) :
    ∃ cs gap digits, cs <:+ text.toList ∧
      Takes "TICKET:".toList Text.isBlank Char.isDigit cs gap digits ∧
      ∀ cs', cs' <:+ text.toList → Mentions cs' → cs'.length ≤ cs.length := by
  obtain ⟨cs, hcs, hmentions, hfirst⟩ := exists_first h
  obtain ⟨gap, digits, htakes⟩ := mentions_iff_starts.1 hmentions
  exact ⟨cs, gap, digits, hcs, htakes, hfirst⟩

/-- There is a ticket exactly in a text with `TICKET:`, at most one white-space character and an
ASCII digit. It consists of all ASCII digits that stand behind the first such place. -/
theorem find_default (text : String) :
    ((default.find text).isSome ↔ ∃ cs, cs <:+ text.toList ∧ Mentions cs) ∧
    ∀ ticket, default.find text = some ticket ↔
      ∃ cs gap, cs <:+ text.toList ∧
        Takes "TICKET:".toList Text.isBlank Char.isDigit cs gap ticket.toList ∧
        ∀ cs', cs' <:+ text.toList → Mentions cs' → cs'.length ≤ cs.length := by
  by_cases hmentions : ∃ cs, cs <:+ text.toList ∧ Mentions cs
  · obtain ⟨cs, gap, digits, hcs, htakes, hfirst⟩ := exists_first_mention hmentions
    have hfind := find_of_takes hcs htakes hfirst
    refine ⟨by simp [hfind, hmentions], fun ticket => ⟨fun hticket => ?_, ?_⟩⟩
    · obtain rfl : String.ofList digits = ticket := Option.some.inj (hfind ▸ hticket)
      exact ⟨cs, gap, hcs, (String.toList_ofList (l := digits)).symm ▸ htakes, hfirst⟩
    · rintro ⟨cs, gap, hcs, htakes, hfirst⟩
      rw [find_of_takes hcs htakes hfirst, String.ofList_toList]
  · have hnone : ∀ cs, cs <:+ text.toList → ¬Mentions cs := by simpa using hmentions
    have hfind := find_eq_none hnone
    refine ⟨by simp [hfind, hmentions], fun ticket => ⟨fun hticket => ?_, ?_⟩⟩
    · rw [hfind] at hticket
      cases hticket
    · rintro ⟨cs, gap, hcs, htakes, -⟩
      exact absurd (mentions_iff_starts.2 ⟨gap, _, htakes⟩) (hnone cs hcs)

end TicketMatcher

end Landing
