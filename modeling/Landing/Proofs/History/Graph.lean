import Landing.History.Graph
import Landing.Proofs.History.Ending
import Mathlib.Algebra.Order.BigOperators.Group.List
import Mathlib.Algebra.Order.Group.Nat

/-! Graphs in memory: a graph without cycles is intact below the commits whose history is there. A
graph that got every commit after its parents is seen to be so by a look at its table. -/
namespace Landing.Graph
open History
variable {g : Graph} {ids : List CommitId}

private theorem sum_single_le {a : CommitId} (n : Nat) {l : List CommitId} (hl : l.Nodup) :
    (l.map fun id => if a = id then n else 0).sum ≤ n := by
  induction l with
  | nil => simp
  | cons id l ih =>
    rw [List.nodup_cons] at hl
    rw [List.map_cons, List.sum_cons]
    split
    · rename_i he
      have hzero : (l.map fun id => if a = id then n else 0).sum = 0 := by
        rw [List.sum_eq_zero]
        intro m hm
        obtain ⟨id', hid', rfl⟩ := List.mem_map.1 hm
        exact if_neg fun ha => hl.1 (by rwa [← he, ha])
      omega
    · have := ih hl.2
      omega

/-- Different keys find different entries. -/
private theorem sum_found_le (entries : List (CommitId × Commit)) {l : List CommitId}
    (hl : l.Nodup) :
    (l.map fun id => ((entries.find? (·.1 = id)).map (·.2.parents.length + 1)).getD 0).sum ≤
      (entries.map (·.2.parents.length + 1)).sum := by
  induction entries with
  | nil => simp
  | cons e rest ih =>
    rw [List.map_cons, List.sum_cons]
    calc
      _ ≤ (l.map fun id => (if e.1 = id then e.2.parents.length + 1 else 0) +
            ((rest.find? (·.1 = id)).map (·.2.parents.length + 1)).getD 0).sum := by
        apply List.sum_le_sum
        intro id _
        rw [List.find?_cons]
        split <;> simp_all
      _ = (l.map fun id => if e.1 = id then e.2.parents.length + 1 else 0).sum + _ :=
        List.sum_map_add
      _ ≤ _ := Nat.add_le_add (sum_single_le _ hl) ih

/-- What is read comes from the entry of its key. -/
private theorem weight_le (g : Graph) (id : CommitId) : g.history.weight id ≤
    ((g.commits.entries.find? (·.1 = id)).map (·.2.parents.length + 1)).getD 0 := by
  rw [weight]
  split
  · rename_i c hc
    simp only [history, ofReader, read, Table.get?] at hc
    split at hc
    · cases hc
    · split at hc
      · rename_i d hd
        cases hc
        obtain ⟨e, he, rfl⟩ := Option.map_eq_some_iff.1 hd
        simp [he]
      · cases hc
  · exact Nat.zero_le _

theorem bounded (g : Graph) (ids : List CommitId) : g.history.Bounded ids := by
  intro l hl _
  calc
    g.history.cost l ≤ (l.map fun id =>
        ((g.commits.entries.find? (·.1 = id)).map (·.2.parents.length + 1)).getD 0).sum :=
      List.sum_le_sum fun id _ => g.weight_le id
    _ ≤ _ := sum_found_le g.commits.entries hl
    _ = g.history.size := by
      simp [history, ofReader, size, Table.values, List.length_flatMap, Function.comp_def]

/-- A graph is finite, so it has an end if it has no cycles. -/
theorem ends (ha : g.history.Acyclic) : g.history.Ends := ⟨ha, g.bounded⟩

/-- In a graph a question about ancestry fails only at a commit that cannot be read. -/
theorem ancestry_error {x y : CommitId} {e : Error} (he : g.history.isAncestor x y = .error e) :
    ∃ id, g.read id = .error e :=
  (History.ancestry_error he).resolve_right fun hend => hend.2 (g.bounded [y])

/-- Refs are no part of the history. -/
theorem history_setRef (g : Graph) (name : String) (id : CommitId) :
    (g.setRef name id).history = g.history := rfl

/-- The graph is legible where it can be read. -/
theorem legible (hr : ∀ x, g.history.Below ids x → g.history.Readable x) :
    g.history.Legible ids :=
  legible_ofReader (g.bounded ids) hr

/-- The graph is intact where it has no cycles and can be read. -/
theorem intact (ha : g.history.Acyclic)
    (hr : ∀ x, g.history.Below ids x → g.history.Readable x) : g.history.Intact ids :=
  intact_ofReader ha (g.bounded ids) hr

/-- Each commit of the list can be read and has its parents further on in it. -/
def isStacked (g : Graph) : List CommitId → Bool
  | [] => true
  | id :: l =>
    match g.read id with
    | .ok c => !l.contains id && c.parents.all l.contains && isStacked g l
    | .error _ => false

/-- The graph got every commit after its parents, and none is corrupt. -/
def isGrown (g : Graph) : Bool := g.isStacked g.commits.keys.reverse

private theorem stacked_of_isStacked {l : List CommitId} (hl : g.isStacked l = true) :
    g.history.Stacked (fun _ => False) l := by
  induction l with
  | nil => exact .nil
  | cons id l ih =>
    rw [isStacked] at hl
    split at hl
    · rename_i c hc
      simp only [Bool.and_eq_true, Bool.not_eq_true', List.all_eq_true] at hl
      obtain ⟨⟨hid, hparents⟩, hl⟩ := hl
      exact .cons hc not_false (by simpa using hid)
        (fun p hp => .inr (List.contains_iff_mem.1 (hparents p hp))) (ih hl)
    · cases hl

private theorem mem_keys_of_readable {id : CommitId} (hr : g.history.Readable id) :
    id ∈ g.commits.keys := by
  obtain ⟨c, hc⟩ := hr
  simp only [history, ofReader, read] at hc
  split at hc
  · cases hc
  · split at hc
    · rename_i hd
      rw [Table.mem_keys_iff, hd]
      rfl
    · cases hc

private theorem acyclic_of_stacked {h : History} {l : List CommitId}
    (hl : h.Stacked (fun _ => False) l) (hall : ∀ x, h.Readable x → x ∈ l) : h.Acyclic :=
  fun _ c hp => hl.not_reaches_parent (fun _ hf => hf) (hall c hp.readable) hp

theorem intact_of_isGrown (hg : g.isGrown = true) (hids : ids ⊆ g.commits.keys) :
    g.history.Intact ids := by
  have hl : g.history.Stacked (fun _ => False) g.commits.keys.reverse := stacked_of_isStacked hg
  apply intact
  · exact acyclic_of_stacked hl fun x hx => List.mem_reverse.2 (mem_keys_of_readable hx)
  · rintro x ⟨id, hid, hx⟩
    have hid : id ∈ g.commits.keys.reverse := List.mem_reverse.2 (hids hid)
    exact hl.readable ((hl.reaches_mem (fun _ hf => hf) hx hid).resolve_left not_false)

end Landing.Graph
