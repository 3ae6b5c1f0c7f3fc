import Landing.Proofs.History.Walk

/-! Searches and walks come to an end, whatever can be read: in a finite history without cycles they
fail only at a commit that cannot be read, and so they succeed where all can be read. -/
namespace Landing.History
variable {h : History} {e : Error}

/-- From every commit the way from parent to parent ends, and `size` allows for all of it. -/
structure Ends (h : History) : Prop where
  acyclic : h.Acyclic
  bounded : ∀ ids, h.Bounded ids

theorem Ends.past (hh : h.Ends) (hidden starts : List CommitId) :
    h.Bounded hidden ∧ h.Bounded starts ∧ h.AcyclicPast (h.Below hidden) starts :=
  ⟨hh.bounded hidden, hh.bounded starts, hh.acyclic.past _ starts⟩

@[simp] theorem cost_append (l l' : List CommitId) : h.cost (l ++ l') = h.cost l + h.cost l' := by
  simp [cost]

/-- Where ancestry is searched for, a question about it fails only at a commit that cannot be
read, or in an infinite history. -/
theorem ancestry_error {size : Nat} {read : Reader} {x y : CommitId}
    (he : (ofReader size read).isAncestor x y = .error e) :
    (∃ id, read id = .error e) ∨ e = endless ∧ ¬ (ofReader size read).Bounded [y] := by
  rcases search_cases (ofReader size read) x y with ⟨hok, _⟩ | ⟨hok, _⟩ | ⟨e', herror, hfail⟩
  · cases hok.symm.trans he
  · cases hok.symm.trans he
  · cases herror.symm.trans he
    exact hfail.imp_left fun ⟨z, _, hread⟩ => ⟨z, hread⟩

end Landing.History

/-! Walks. -/

namespace Landing.Traversal
open History
variable {h : History} {hidden ids : List CommitId} {n : Nat} {t t' : Traversal} {e : Error}

/-- The commits that are marked on a stack. -/
def marked (stack : List (CommitId × Bool)) : List CommitId := (stack.filter (·.2)).map (·.1)

@[simp] theorem marked_unmarked (ids : List CommitId) (stack : List (CommitId × Bool)) :
    marked (ids.map (·, false) ++ stack) = marked stack := by
  simp [marked, List.filter_map, Function.comp_def]

@[simp] theorem marked_cons_true (id : CommitId) (stack : List (CommitId × Bool)) :
    marked ((id, true) :: stack) = id :: marked stack := rfl

@[simp] theorem marked_cons_false (id : CommitId) (stack : List (CommitId × Bool)) :
    marked ((id, false) :: stack) = marked stack := rfl

theorem mem_marked_iff {id : CommitId} {stack : List (CommitId × Bool)} :
    id ∈ marked stack ↔ (id, true) ∈ stack := by
  simp [marked]

/-- A traversal on its way below `ids`, whose fuel covers the stack and all that was neither marked
nor emitted. What lies above a mark on the stack is a proper ancestor of the marked commit. -/
structure Fueled (h : History) (hidden ids : List CommitId) (n : Nat) (t : Traversal) : Prop where
  marked_nodup : (marked t.stack).Nodup
  emitted_nodup : t.emitted.Nodup
  visible : ∀ id ∈ marked t.stack, id ∉ hidden ∧ id ∉ t.emitted
  climbs : t.stack.Pairwise fun a b => b.2 = true → ∃ p, h.Parent p b.1 ∧ h.Reaches a.1 p
  below_stack : ∀ a ∈ t.stack, h.Below ids a.1
  below_emitted : ∀ id ∈ t.emitted, h.Below ids id
  fuel : t.stack.length + h.size ≤ n + (h.cost (marked t.stack) + h.cost t.emitted)

namespace Fueled
variable {id : CommitId} {rest : List (CommitId × Bool)} {emitted : List CommitId}

theorem start (hid : h.Below ids id) (hn : emitted.Nodup)
    (hbelow : ∀ x ∈ emitted, h.Below ids x) :
    Fueled h hidden ids (h.size + 1) ⟨[(id, false)], emitted⟩ where
  marked_nodup := List.nodup_nil
  emitted_nodup := hn
  visible := by simp [marked]
  climbs := List.pairwise_singleton ..
  below_stack := by simpa using hid
  below_emitted := hbelow
  fuel := by simp [marked]; omega

theorem pop (hf : Fueled h hidden ids (n + 1) ⟨(id, false) :: rest, emitted⟩) :
    Fueled h hidden ids n ⟨rest, emitted⟩ where
  marked_nodup := hf.marked_nodup
  emitted_nodup := hf.emitted_nodup
  visible := hf.visible
  climbs := (List.pairwise_cons.1 hf.climbs).2
  below_stack := (List.forall_mem_cons.1 hf.below_stack).2
  below_emitted := hf.below_emitted
  fuel := by
    have hfuel := hf.fuel
    simp only [List.length_cons, marked_cons_false] at hfuel ⊢
    omega

theorem emit (hf : Fueled h hidden ids (n + 1) ⟨(id, true) :: rest, emitted⟩) :
    Fueled h hidden ids n ⟨rest, id :: emitted⟩ where
  marked_nodup := (List.nodup_cons.1 hf.marked_nodup).2
  emitted_nodup := List.nodup_cons.2 ⟨(hf.visible id List.mem_cons_self).2, hf.emitted_nodup⟩
  visible x hx := by
    have hvisible := hf.visible x (List.mem_cons_of_mem id hx)
    refine ⟨hvisible.1, fun hmem => ?_⟩
    rcases List.mem_cons.1 hmem with rfl | hmem
    · exact (List.nodup_cons.1 hf.marked_nodup).1 hx
    · exact hvisible.2 hmem
  climbs := (List.pairwise_cons.1 hf.climbs).2
  below_stack := (List.forall_mem_cons.1 hf.below_stack).2
  below_emitted := List.forall_mem_cons.2
    ⟨(List.forall_mem_cons.1 hf.below_stack).1, hf.below_emitted⟩
  fuel := by
    have hfuel := hf.fuel
    simp only [List.length_cons, marked_cons_true, cost_cons] at hfuel ⊢
    omega

/-- Without cycles a commit is not met again above its own mark. -/
theorem not_marked (ha : h.AcyclicPast (· ∈ hidden) ids)
    (hf : Fueled h hidden ids n t) (htop : t.stack = (id, false) :: rest) (hid : id ∉ hidden) :
    id ∉ marked rest := by
  intro hmem
  have hclimbs := hf.climbs
  have hbelow := hf.below_stack
  rw [htop] at hclimbs hbelow
  obtain ⟨p, hpid, hreach⟩ := (List.pairwise_cons.1 hclimbs).1 _ (mem_marked_iff.1 hmem) rfl
  exact ha p id (hbelow _ List.mem_cons_self) hid hpid hreach

theorem expand (hfresh : id ∉ marked rest)
    (hf : Fueled h hidden ids (n + 1) ⟨(id, false) :: rest, emitted⟩)
    (hid : id ∉ hidden ∧ id ∉ emitted) {c : Commit} (hc : h.read id = .ok c)
    {parents : List CommitId} (hp : parents.Sublist c.parents) :
    Fueled h hidden ids n ⟨parents.map (·, false) ++ (id, true) :: rest, emitted⟩ := by
  obtain ⟨htop, hclimbs⟩ := List.pairwise_cons.1 hf.climbs
  have hparent : ∀ p ∈ parents, h.Parent p id := fun p hmem => (parent_iff hc).2 (hp.subset hmem)
  have hbelow : h.Below ids id := hf.below_stack _ List.mem_cons_self
  refine ⟨?_, hf.emitted_nodup, ?_, ?_, ?_, hf.below_emitted, ?_⟩
  · rw [marked_unmarked, marked_cons_true]
    exact List.nodup_cons.2 ⟨hfresh, hf.marked_nodup⟩
  · rw [marked_unmarked, marked_cons_true]
    exact List.forall_mem_cons.2 ⟨hid, hf.visible⟩
  · refine List.pairwise_append.2 ⟨?_, List.pairwise_cons.2 ⟨htop, hclimbs⟩, ?_⟩
    · exact List.pairwise_map.2 (List.pairwise_of_forall fun _ _ htrue => by cases htrue)
    · intro a ha b hb htrue
      obtain ⟨p, hmem, rfl⟩ := List.mem_map.1 ha
      rcases List.mem_cons.1 hb with rfl | hb
      · exact ⟨p, hparent p hmem, .refl p⟩
      · obtain ⟨q, hq, hreach⟩ := htop b hb htrue
        exact ⟨q, hq, (hparent p hmem).reaches.trans hreach⟩
  · intro a ha
    rcases List.mem_append.1 ha with ha | ha
    · obtain ⟨p, hmem, rfl⟩ := List.mem_map.1 ha
      exact hbelow.trans (hparent p hmem).reaches
    · rcases List.mem_cons.1 ha with rfl | ha
      · exact hbelow
      · exact hf.below_stack a (List.mem_cons_of_mem _ ha)
  · have hfuel := hf.fuel
    have hlength := hp.length_le
    simp only [marked_unmarked, marked_cons_true, marked_cons_false, List.length_append,
      List.length_map, List.length_cons, cost_cons, weight_of_read hc] at hfuel ⊢
    omega

theorem step
    (hfresh : ∀ id rest, t.stack = (id, false) :: rest → id ∉ hidden → id ∉ marked rest)
    (hf : Fueled h hidden ids (n + 1) t) (hstack : t.stack ≠ [])
    (ht : t.step h.read hidden = .ok t') : Fueled h hidden ids n t' := by
  obtain ⟨_ | ⟨⟨id, expanded⟩, rest⟩, emitted⟩ := t
  · exact absurd rfl hstack
  rw [Traversal.step] at ht
  dsimp only at ht
  cases expanded with
  | true =>
    have hvisible := hf.visible id List.mem_cons_self
    rw [if_neg (by simpa [isVisible] using hvisible)] at ht
    cases ht
    exact hf.emit
  | false =>
    split at ht
    · cases ht
      exact hf.pop
    · rename_i hvisible
      split at ht
      · contradiction
      · split at ht
        · cases ht
        · rename_i c hc
          cases ht
          have hid := isVisible_iff.1 (by simpa using hvisible)
          exact hf.expand (hfresh id rest rfl hid.1) hid hc List.filter_sublist

theorem not_bounded (hf : Fueled h hidden ids 0 t) (hstack : t.stack ≠ []) : ¬ h.Bounded ids := by
  intro hb
  have hnodup : (marked t.stack ++ t.emitted).Nodup :=
    List.nodup_append.2 ⟨hf.marked_nodup, hf.emitted_nodup, fun x hx y hy he =>
      (hf.visible x hx).2 (he ▸ hy)⟩
  have hcost := hb _ hnodup fun x hx => (List.mem_append.1 hx).elim
    (fun hx => hf.below_stack _ (mem_marked_iff.1 hx)) (hf.below_emitted x)
  have hlength := List.length_pos_of_ne_nil hstack
  have hfuel := hf.fuel
  rw [cost_append] at hcost
  omega

end Fueled

theorem step_error (ht : t.step h.read hidden = .error e) :
    ∃ x, h.Below (t.stack.map (·.1)) x ∧ x ∉ hidden ∧ h.read x = .error e := by
  obtain ⟨_ | ⟨⟨id, expanded⟩, rest⟩, emitted⟩ := t
  · cases ht
  rw [Traversal.step] at ht
  dsimp only at ht
  split at ht
  · cases ht
  · rename_i hvisible
    split at ht
    · cases ht
    · split at ht
      · rename_i hread
        cases ht
        exact ⟨id, .of_mem List.mem_cons_self,
          (isVisible_iff.1 (by simpa using hvisible)).1, hread⟩
      · cases ht

theorem run_error (he : run h.read hidden n t = .error e) :
    (∃ x, h.Below (t.stack.map (·.1)) x ∧ x ∉ hidden ∧ h.read x = .error e) ∨
      e = endless ∧ ∀ ids, h.AcyclicPast (· ∈ hidden) ids → Fueled h hidden ids n t →
        ¬ h.Bounded ids := by
  induction n generalizing t with
  | zero =>
    rw [run] at he
    split at he
    · cases he
    · rename_i hstack
      cases he
      exact .inr ⟨rfl, fun _ _ hf => hf.not_bounded (by simpa using hstack)⟩
  | succ n ih =>
    rw [run] at he
    split at he
    · cases he
    · rename_i hstack
      split at he
      · rename_i hstep
        cases he
        exact .inl (step_error hstep)
      · rename_i hstep
        rcases ih he with ⟨x, hx, hread⟩ | ⟨hend, hfuel⟩
        · exact .inl ⟨x, hx.of_below (below_of_step hstep).2, hread⟩
        · exact .inr ⟨hend, fun ids ha hf =>
            hfuel ids ha (hf.step (fun _ _ => hf.not_marked ha) (by simpa using hstack) hstep)⟩

end Landing.Traversal

namespace Landing.History
open Traversal
variable {h : History} {hidden : List CommitId} {e : Error}

theorem traverse_error {emitted starts : List CommitId}
    (he : h.traverse hidden emitted starts = .error e) :
    (∃ x, h.Below starts x ∧ x ∉ hidden ∧ h.read x = .error e) ∨
      e = endless ∧ ∀ ids, h.AcyclicPast (· ∈ hidden) ids → starts ⊆ ids →
        h.Stacked (· ∈ hidden) emitted → (∀ id ∈ emitted, h.Below ids id) → ¬ h.Bounded ids := by
  induction starts generalizing emitted with
  | nil => cases he
  | cons start rest ih =>
    rw [traverse] at he
    split at he
    · rename_i hrun
      cases he
      rcases run_error hrun with ⟨x, hx, hread⟩ | ⟨hend, hfuel⟩
      · exact .inl ⟨x, hx.mono (by simp), hread⟩
      · refine .inr ⟨hend, fun ids ha hids hs hbelow => ?_⟩
        exact hfuel ids ha (.start (.of_mem (hids List.mem_cons_self)) hs.nodup hbelow)
    · rename_i l hrun
      rcases ih he with ⟨x, hx, hread⟩ | ⟨hend, hfuel⟩
      · exact .inl ⟨x, hx.mono (List.subset_cons_self start rest), hread⟩
      · refine .inr ⟨hend, fun ids ha hids hs hbelow => ?_⟩
        rw [List.cons_subset] at hids
        refine hfuel ids ha hids.2 ((Climbing.start hs start).run hrun).1 fun x hx => ?_
        rcases below_of_run hrun x hx with hx | hx
        · exact hbelow x hx
        · exact hx.mono (by simpa using hids.1)

/-- A walk fails only at a commit that it has to read and cannot, unless it has no end. -/
theorem order_error {starts : List CommitId} {d : Direction}
    (he : h.order starts hidden d = .error e) :
    (∃ x, (h.Below hidden x ∨ h.Below starts x ∧ ¬ h.Below hidden x) ∧ h.read x = .error e) ∨
      e = endless ∧ ¬ (h.Bounded hidden ∧ h.Bounded starts ∧
        h.AcyclicPast (h.Below hidden) starts) := by
  rw [order] at he
  split at he
  · rename_i hreach
    cases he
    rcases reachable_error hreach with ⟨x, hx, hread⟩ | ⟨hend, hn⟩
    · exact .inl ⟨x, .inl hx, hread⟩
    · exact .inr ⟨hend, fun hh => hn hh.1⟩
  · rename_i covered hcovered
    split at he
    · rename_i htraverse
      cases he
      have hmem := (reachable_of_ok hcovered).1
      rcases traverse_error htraverse with ⟨x, hx, hvisible, hread⟩ | ⟨hend, hfuel⟩
      · rw [hmem] at hvisible
        exact .inl ⟨x, .inr ⟨hx, hvisible⟩, hread⟩
      · refine .inr ⟨hend, fun hh => ?_⟩
        obtain ⟨_, hb, ha⟩ := hh
        have hpast : h.AcyclicPast (· ∈ covered) starts :=
          ha.mono (fun _ hid => .of_mem hid) fun x hx => (hmem x).2 hx
        exact hfuel starts hpast (List.Subset.refl starts) .nil (by simp) hb
    · cases he

/-- A walk succeeds where it can read. It gives each commit that the starts reach and the hidden
commits do not, once and after all of its parents. -/
theorem order_ok {starts hidden : List CommitId} (ha : h.AcyclicPast (h.Below hidden) starts)
    (hs : h.Bounded starts) (hh : h.Bounded hidden)
    (hr : ∀ x, h.Below starts x → ¬ h.Below hidden x → h.Readable x)
    (hrh : ∀ x, h.Below hidden x → h.Readable x) :
    ∃ l, h.order starts hidden .newestFirst = .ok l ∧
      h.order starts hidden .oldestFirst = .ok l.reverse ∧
      h.Stacked (h.Below hidden) l ∧ ∀ x, x ∈ l ↔ h.Below starts x ∧ ¬ h.Below hidden x := by
  cases hl : h.order starts hidden .newestFirst with
  | ok l =>
    obtain ⟨hstacked, hmem, _⟩ := stacked_of_order hl
    exact ⟨l, rfl, by rw [order_oldestFirst, hl]; rfl, hstacked, hmem⟩
  | error e =>
    rcases order_error hl with ⟨x, hx | ⟨hx, hvisible⟩, hread⟩ | ⟨_, hend⟩
    · exact absurd hread (hrh x hx).read_ne_error
    · exact absurd hread (hr x hx hvisible).read_ne_error
    · exact absurd ⟨hh, hs, ha⟩ hend

end Landing.History
