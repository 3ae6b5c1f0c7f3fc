import Landing.Review.Store

/-! Trails of messages in the order of time. -/
namespace Landing

theorem Instant.le_iff (a b : Instant) : a.le b = true ↔
    a.seconds < b.seconds ∨ a.seconds = b.seconds ∧ a.nanos ≤ b.nanos := by
  simp [Instant.le]

theorem Instant.le_trans {a b c : Instant} (hab : a.le b = true) (hbc : b.le c = true) :
    a.le c = true := by
  rw [le_iff] at *
  omega

theorem Instant.le_total (a b : Instant) : (a.le b || b.le a) = true := by
  rw [Bool.or_eq_true, le_iff, le_iff]
  omega

namespace Review.Store

/-- No message comes after a later one. -/
def Chronological (trail : List ChangeMessage) : Prop :=
  trail.Pairwise fun a b => a.writtenOn.le b.writtenOn = true

theorem chronological_sorted (trail : List ChangeMessage) :
    Chronological (chronological trail) := by
  unfold Chronological chronological
  apply List.pairwise_mergeSort
  · exact fun _ _ _ => Instant.le_trans
  · exact fun _ _ => Instant.le_total _ _

/-- A message in front of others goes behind the older ones of them. -/
theorem chronological_cons (a : ChangeMessage) (trail : List ChangeMessage) :
    ∃ older newer, chronological (a :: trail) = older ++ a :: newer ∧
      chronological trail = older ++ newer ∧
      ∀ b ∈ older, (!a.writtenOn.le b.writtenOn) = true := by
  unfold chronological
  apply List.mergeSort_cons
  · exact fun _ _ _ => Instant.le_trans
  · exact fun _ _ => Instant.le_total _ _

/-- The place of a message among others depends on the times alone. -/
private theorem older_eq {a : ChangeMessage} {older newer : List ChangeMessage}
    (hsorted : Chronological (older ++ a :: newer))
    (holder : ∀ b ∈ older, (!a.writtenOn.le b.writtenOn) = true) :
    older = (older ++ newer).takeWhile fun b => !a.writtenOn.le b.writtenOn := by
  rw [List.takeWhile_append_of_pos holder]
  cases newer with
  | nil => simp
  | cons b newer =>
    rw [Chronological, List.pairwise_append, List.pairwise_cons] at hsorted
    have hab : a.writtenOn.le b.writtenOn = true := hsorted.2.1.1 b List.mem_cons_self
    simp [hab]

/-- To put some of the messages in order is to take them from all in order. -/
theorem filter_chronological (p : ChangeMessage → Bool) (trail : List ChangeMessage) :
    (chronological trail).filter p = chronological (trail.filter p) := by
  induction trail with
  | nil => simp [chronological]
  | cons a trail ih =>
    obtain ⟨older, newer, hall, hrest, holder⟩ := chronological_cons a trail
    rw [hrest, List.filter_append] at ih
    rw [hall, List.filter_append, List.filter_cons, List.filter_cons]
    split
    · obtain ⟨older', newer', hall', hrest', holder'⟩ := chronological_cons a (trail.filter p)
      have hsorted : Chronological (older.filter p ++ a :: newer.filter p) :=
        (hall ▸ chronological_sorted (a :: trail)).sublist
          (List.filter_sublist.append (List.filter_sublist.cons_cons a))
      have hsorted' : Chronological (older' ++ a :: newer') :=
        hall' ▸ chronological_sorted (a :: trail.filter p)
      have hfront := older_eq hsorted fun b hb => holder b (List.mem_filter.1 hb).1
      rw [hrest'] at ih
      rw [ih, ← older_eq hsorted' holder'] at hfront
      rw [hfront] at ih ⊢
      rw [hall', List.append_cancel_left ih]
    · exact ih

theorem any_chronological (p : ChangeMessage → Bool) (trail : List ChangeMessage) :
    (chronological trail).any p = trail.any p :=
  (List.mergeSort_perm trail _).any_eq

end Review.Store

end Landing
