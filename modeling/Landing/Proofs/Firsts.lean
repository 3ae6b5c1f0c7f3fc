import Mathlib.Data.List.Induction
import Mathlib.Data.List.Nodup

/-! Lists without what repeats an earlier key. -/
namespace Landing
variable {α κ : Type} [DecidableEq κ] {key : α → κ}

/-- Of the members with one key only the first, in their order. -/
def firstsBy (key : α → κ) : List α → List α
  | [] => []
  | a :: rest => a :: (firstsBy key rest).filter (key · ≠ key a)

theorem nodup_firstsBy (l : List α) : ((firstsBy key l).map key).Nodup := by
  induction l with
  | nil => exact List.nodup_nil
  | cons a rest ih =>
    rw [firstsBy, List.map_cons, List.nodup_cons]
    exact ⟨by simp, ih.sublist (List.filter_sublist.map key)⟩

/-- A loop that appends what has a new key makes one step. -/
theorem append_firstsBy_cons (kept : List α) (a : α) (rest : List α) :
    kept ++ (firstsBy key (a :: rest)).filter (key · ∉ kept.map key) =
      if key a ∈ kept.map key then kept ++ (firstsBy key rest).filter (key · ∉ kept.map key)
      else (kept ++ [a]) ++ (firstsBy key rest).filter (key · ∉ (kept ++ [a]).map key) := by
  rw [firstsBy, List.filter_cons, List.filter_filter]
  by_cases ha : key a ∈ kept.map key
  · rw [if_neg (by simpa using ha), if_pos ha]
    congr 1
    refine List.filter_congr fun b _ => ?_
    by_cases hb : key b = key a
    · simp [hb, ha]
    · simp [hb]
  · rw [if_pos (by simpa using ha), if_neg ha, List.append_assoc, List.singleton_append]
    congr 2
    refine List.filter_congr fun b _ => ?_
    rw [List.map_append, List.map_singleton]
    simp only [List.mem_append, List.mem_singleton, not_or, Bool.decide_and]

theorem firstsBy_append (l l' : List α) : firstsBy key (l ++ l') =
    firstsBy key l ++ (firstsBy key l').filter (key · ∉ l.map key) := by
  induction l with
  | nil => simp [firstsBy]
  | cons a rest ih =>
    rw [List.cons_append, firstsBy, firstsBy, ih, List.filter_append, List.filter_filter,
      List.cons_append]
    congr 2
    refine List.filter_congr fun b _ => ?_
    simp [not_or]

theorem find?_firstsBy (l : List α) (k : κ) :
    (firstsBy key l).find? (key · = k) = l.find? (key · = k) := by
  induction l with
  | nil => rfl
  | cons a rest ih =>
    rw [firstsBy, List.find?_cons, List.find?_cons]
    by_cases ha : key a = k
    · simp [ha]
    · simp only [ha, decide_false, List.find?_filter, ← ih]
      congr 1
      funext b
      by_cases hb : key b = k
      · simp [hb, Ne.symm ha]
      · simp [hb]

theorem map_firstsBy (l : List α) : (firstsBy key l).map key = (l.map key).eraseDups := by
  induction l using List.reverseRecOn with
  | nil => rfl
  | append_singleton l a ih =>
    have hone : firstsBy key [a] = [a] := rfl
    rw [firstsBy_append, List.map_append, List.map_append, List.eraseDups_append, ih, hone,
      List.removeAll]
    by_cases ha : key a ∈ l.map key
    · simp only [List.map_singleton, List.filter_cons, List.filter_nil, ha, not_true_eq_false,
        decide_false, List.elem_eq_mem, decide_true]
      rfl
    · simp only [List.map_singleton, List.filter_cons, List.filter_nil, ha, not_false_eq_true,
        decide_true, List.elem_eq_mem, decide_false]
      rfl

end Landing
