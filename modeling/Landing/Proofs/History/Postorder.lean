import Landing.Proofs.History.Ending

/-! The walk as a recursion. The stack of a traversal is what the recursion has still to do, so that
both give the same list. Of a merge they give the side of the first parent first, and of each later
parent what is new. Main statement: `postorder_iff_of_order`. -/
namespace Landing.History

/-- The recursion over the parents, and the list that it comes to. It visits the commits `todo` one
after the other, when the commits `given` have been given. A commit that is hidden or was given is
passed over; of any other the parents are visited, the first one first, and then it is given. -/
inductive Postorder (h : History) (hidden : List CommitId) :
    (given todo l : List CommitId) → Prop where
  | nil {given} : Postorder h hidden given [] given
  | done {given id rest l} : id ∈ hidden ∨ id ∈ given →
    Postorder h hidden given rest l → Postorder h hidden given (id :: rest) l
  | read {given id rest c m l} : ¬ (id ∈ hidden ∨ id ∈ given) → h.read id = .ok c →
    Postorder h hidden given c.parents m → Postorder h hidden (m ++ [id]) rest l →
    Postorder h hidden given (id :: rest) l

namespace Postorder
variable {h : History} {hidden hidden' given m todo todo' l l' : List CommitId}

/-- The recursion comes to one list only. -/
theorem unique (hl : h.Postorder hidden given todo l) (hl' : h.Postorder hidden given todo l') :
    l = l' := by
  induction hl generalizing l' with
  | nil =>
    cases hl'
    rfl
  | done hid _ ih =>
    cases hl' with
    | done _ hrest => exact ih hrest
    | read hid' => exact absurd hid hid'
  | read hid hc _ _ ihparents ihrest =>
    cases hl' with
    | done hid' => exact absurd hid' hid
    | read _ hc' hparents hrest =>
      cases hc.symm.trans hc'
      exact ihrest (ihparents hparents ▸ hrest)

theorem append (hm : h.Postorder hidden given todo m) (hl : h.Postorder hidden m todo' l) :
    h.Postorder hidden given (todo ++ todo') l := by
  induction hm with
  | nil => exact hl
  | done hid _ ih => exact .done hid (ih hl)
  | read hid hc hparents _ _ ih => exact .read hid hc hparents (ih hl)

theorem of_cons {id : CommitId} (hl : h.Postorder hidden given (id :: todo) l) :
    ∃ m, h.Postorder hidden given [id] m ∧ h.Postorder hidden m todo l := by
  cases hl with
  | done hid hrest => exact ⟨given, .done hid .nil, hrest⟩
  | read hid hc hparents hrest => exact ⟨_, .read hid hc hparents .nil, hrest⟩

/-- What was given stays, and more comes after it. -/
theorem isPrefix (hl : h.Postorder hidden given todo l) : given <+: l := by
  induction hl with
  | nil => exact List.prefix_refl _
  | done _ _ ih => exact ih
  | read _ _ _ _ ihparents ihrest => exact ihparents.trans ((List.prefix_append ..).trans ihrest)

theorem given_or_below (hl : h.Postorder hidden given todo l) :
    ∀ x ∈ l, x ∈ given ∨ h.Below todo x := by
  induction hl with
  | nil => exact fun _ hx => .inl hx
  | done _ _ ih => exact fun x hx => (ih x hx).imp_right (.mono (List.subset_cons_self ..))
  | @read given id rest c m l _ hc _ _ ihparents ihrest =>
    intro x hx
    have hid : h.Below (id :: rest) id := .of_mem List.mem_cons_self
    rcases ihrest x hx with hx | hx
    · rcases List.mem_append.1 hx with hx | hx
      · refine (ihparents x hx).imp_right fun hx => hx.of_below fun p hp => ?_
        exact hid.trans ((parent_iff hc).2 hp).reaches
      · exact .inr (List.mem_singleton.1 hx ▸ hid)
    · exact .inr (hx.mono (List.subset_cons_self id rest))

/-- All that was visited is done with. -/
theorem all_done (hl : h.Postorder hidden given todo l) : ∀ id ∈ todo, id ∈ hidden ∨ id ∈ l := by
  induction hl with
  | nil => simp
  | done hid hrest ih =>
    exact List.forall_mem_cons.2 ⟨hid.imp_right (hrest.isPrefix.subset ·), ih⟩
  | read _ _ _ hrest _ ih =>
    exact List.forall_mem_cons.2 ⟨.inr (hrest.isPrefix.subset (by simp)), ih⟩

/-- Commits that are done with at the start can be left out. -/
theorem of_filter {p : CommitId → Bool} (hp : ∀ id, p id = false → id ∈ hidden ∨ id ∈ given)
    (hl : h.Postorder hidden given (todo.filter p) l) : h.Postorder hidden given todo l := by
  induction todo generalizing given with
  | nil => exact hl
  | cons id rest ih =>
    cases hkeep : p id with
    | false =>
      rw [List.filter_cons_of_neg (by simp [hkeep])] at hl
      exact .done (hp id hkeep) (ih hp hl)
    | true =>
      rw [List.filter_cons_of_pos hkeep] at hl
      cases hl with
      | done hid hrest => exact .done hid (ih hp hrest)
      | read hid hc hparents hrest =>
        refine .read hid hc hparents (ih (fun x hx => (hp x hx).imp_right fun hx => ?_) hrest)
        exact List.mem_append_left [id] (hparents.isPrefix.subset hx)

/-- It does not matter in which order the hidden commits are listed. -/
theorem congr (hsame : ∀ x, x ∈ hidden ↔ x ∈ hidden') (hl : h.Postorder hidden given todo l) :
    h.Postorder hidden' given todo l := by
  induction hl with
  | nil => exact .nil
  | done hid _ ih => exact .done (by rwa [← hsame]) ih
  | read hid hc _ _ ihparents ihrest => exact .read (by rwa [← hsame]) hc ihparents ihrest

end Postorder

end Landing.History

/-! The stack of a traversal as the calls of the recursion that have not come to their end. -/

namespace Landing.Traversal
open History

/-- The list that is come to if what is left on a stack is done: a commit is visited, and a marked
one is given, whose parents were visited. -/
inductive Resumes (h : History) (hidden : List CommitId) :
    (given : List CommitId) → List (CommitId × Bool) → (l : List CommitId) → Prop where
  | nil {given} : Resumes h hidden given [] given
  | visit {given id m rest l} : h.Postorder hidden given [id] m →
    Resumes h hidden m rest l → Resumes h hidden given ((id, false) :: rest) l
  | skip {given id rest l} : id ∈ hidden ∨ id ∈ given →
    Resumes h hidden given rest l → Resumes h hidden given ((id, true) :: rest) l
  | emit {given id rest l} : ¬ (id ∈ hidden ∨ id ∈ given) →
    Resumes h hidden (given ++ [id]) rest l → Resumes h hidden given ((id, true) :: rest) l

namespace Resumes
variable {h : History} {hidden given ids l : List CommitId} {t t' : Traversal} {n : Nat}

theorem of_push {rest : List (CommitId × Bool)}
    (hl : Resumes h hidden given (ids.map (·, false) ++ rest) l) :
    ∃ m, h.Postorder hidden given ids m ∧ Resumes h hidden m rest l := by
  induction ids generalizing given with
  | nil => exact ⟨given, .nil, hl⟩
  | cons id ids ih =>
    cases hl with
    | visit hfirst hl =>
      obtain ⟨m, hm, hrest⟩ := ih hl
      exact ⟨m, hfirst.append hm, hrest⟩

/-- A commit that is on the stack twice is passed over the second time. -/
theorem done {id : CommitId} (hid : id ∈ hidden ∨ id ∈ given) (expanded : Bool)
    {rest : List (CommitId × Bool)} (hl : Resumes h hidden given rest l) :
    Resumes h hidden given ((id, expanded) :: rest) l := by
  cases expanded with
  | false => exact .visit (.done hid .nil) hl
  | true => exact .skip hid hl

/-- To push the parents of a commit above its mark is to call the recursion for them. Without
cycles these calls do not give the commit itself. -/
theorem of_expand (ha : h.AcyclicPast (· ∈ hidden) ids) {emitted : List CommitId}
    {id : CommitId} (hid : ¬ (id ∈ hidden ∨ id ∈ emitted.reverse)) (hbelow : h.Below ids id)
    {c : Commit} (hc : h.read id = .ok c) {rest : List (CommitId × Bool)}
    (hl : Resumes h hidden emitted.reverse
      ((c.parents.filter (isVisible hidden emitted)).map (·, false) ++ (id, true) :: rest) l) :
    Resumes h hidden emitted.reverse ((id, false) :: rest) l := by
  have hdone : ∀ x, isVisible hidden emitted x = false → x ∈ hidden ∨ x ∈ emitted.reverse := by
    intro x hx
    rw [List.mem_reverse]
    exact not_isVisible_iff.1 (by simp [hx])
  obtain ⟨m, hm, hl⟩ := hl.of_push
  have hparents : h.Postorder hidden emitted.reverse c.parents m := hm.of_filter hdone
  have hfresh : ¬ (id ∈ hidden ∨ id ∈ m) := by
    rintro (hmem | hmem)
    · exact hid (.inl hmem)
    · rcases hparents.given_or_below id hmem with hmem | ⟨p, hp, hreach⟩
      · exact hid (.inr hmem)
      · exact ha p id hbelow (fun hh => hid (.inl hh)) ((parent_iff hc).2 hp) hreach
  cases hl with
  | skip hmem => exact absurd hmem hfresh
  | emit _ hl => exact .visit (.read hid hc hparents .nil) hl

/-- What is left to do after a step was left to do before it. -/
theorem of_step (ha : h.AcyclicPast (· ∈ hidden) ids)
    (hbelow : ∀ x ∈ t.stack.map (·.1), h.Below ids x) (ht : t.step h.read hidden = .ok t')
    (hl : Resumes h hidden t'.emitted.reverse t'.stack l) :
    Resumes h hidden t.emitted.reverse t.stack l := by
  obtain ⟨_ | ⟨⟨id, expanded⟩, rest⟩, emitted⟩ := t
  · cases ht
    exact hl
  rw [Traversal.step] at ht
  dsimp only at ht ⊢
  split at ht
  · rename_i hid
    have hid : id ∈ hidden ∨ id ∈ emitted := not_isVisible_iff.1 (by simpa using hid)
    cases ht
    exact hl.done (by rwa [List.mem_reverse]) expanded
  · rename_i hid
    have hid : ¬ (id ∈ hidden ∨ id ∈ emitted.reverse) := by
      rw [List.mem_reverse, ← not_isVisible_iff, not_not]
      simpa using hid
    split at ht
    · rename_i hexpanded
      subst hexpanded
      cases ht
      rw [List.reverse_cons] at hl
      exact .emit hid hl
    · rename_i hexpanded
      rw [Bool.not_eq_true] at hexpanded
      subst hexpanded
      split at ht
      · cases ht
      · rename_i c hc
        cases ht
        exact hl.of_expand ha hid (hbelow id List.mem_cons_self) hc

/-- A run comes to the list that the recursion comes to, which has the stack to do. -/
theorem of_run (ha : h.AcyclicPast (· ∈ hidden) ids)
    (hbelow : ∀ x ∈ t.stack.map (·.1), h.Below ids x) (hl : run h.read hidden n t = .ok l) :
    Resumes h hidden t.emitted.reverse t.stack l.reverse := by
  have hend {t : Traversal} (ht : t.stack.isEmpty = true) :
      Resumes h hidden t.emitted.reverse t.stack t.emitted.reverse := by
    rw [List.isEmpty_iff.1 ht]
    exact .nil
  induction n generalizing t with
  | zero =>
    rw [run] at hl
    split at hl
    · rename_i ht
      cases hl
      exact hend ht
    · cases hl
  | succ n ih =>
    rw [run] at hl
    split at hl
    · rename_i ht
      cases hl
      exact hend ht
    · split at hl
      · cases hl
      · rename_i t' ht
        have hbelow' : ∀ x ∈ t'.stack.map (·.1), h.Below ids x :=
          fun x hx => ((below_of_step ht).2 x hx).of_below hbelow
        exact (ih hbelow' hl).of_step ha hbelow ht

end Resumes

end Landing.Traversal

namespace Landing.History
open Traversal
variable {h : History} {hidden given marked starts ids l l' : List CommitId}

theorem postorder_of_traverse (ha : h.AcyclicPast (· ∈ hidden) ids) (hsub : starts ⊆ ids)
    (hl : h.traverse hidden l starts = .ok l') :
    h.Postorder hidden l.reverse starts l'.reverse := by
  induction starts generalizing l with
  | nil =>
    cases hl
    exact .nil
  | cons start rest ih =>
    rw [List.cons_subset] at hsub
    rw [traverse] at hl
    split at hl
    · cases hl
    · rename_i m hrun
      have hbelow : h.Below ids start := .of_mem hsub.1
      have hresumes : Resumes h hidden l.reverse [(start, false)] m.reverse :=
        .of_run (t := ⟨[(start, false)], l⟩) ha (by simpa using hbelow) hrun
      cases hresumes with
      | visit hfirst hrest =>
        cases hrest
        exact hfirst.append (ih hsub.2 hl)

/-- A walk that comes to its end gives the commits in the order of the recursion. -/
theorem postorder_iff_of_order (hhidden : ∀ x, x ∈ hidden ↔ h.Below marked x)
    (hl : h.order starts marked .newestFirst = .ok l) :
    h.Postorder hidden [] starts l' ↔ l' = l.reverse := by
  have hpast := acyclicPast_of_order hl
  rw [order] at hl
  split at hl
  · cases hl
  rename_i covered hcovered
  split at hl
  · cases hl
  rename_i m htraverse
  cases hl
  have hmem := (reachable_of_ok hcovered).1
  have ha : h.AcyclicPast (· ∈ covered) starts :=
    hpast.mono (fun _ hid => .of_mem hid) fun x hx => (hmem x).2 hx
  have hl : h.Postorder covered [] starts m.reverse :=
    postorder_of_traverse ha (List.Subset.refl starts) htraverse
  have hl : h.Postorder hidden [] starts m.reverse :=
    hl.congr fun x => (hmem x).trans (hhidden x).symm
  exact ⟨fun hl' => hl'.unique hl, fun he => he ▸ hl⟩

/-! What the recursion gives of a merge. -/

/-- What the parents of a merge bring in, one after the other: each of them all that it reaches,
save what is hidden and what came before. -/
inductive Sides (h : History) (hidden : List CommitId) :
    (before parents sides : List CommitId) → Prop where
  | nil {before} : Sides h hidden before [] []
  | cons {before p parents side rest} :
      (∀ x, x ∈ side ↔ h.Reaches x p ∧ x ∉ hidden ∧ x ∉ before) →
      Sides h hidden (before ++ side) parents rest →
      Sides h hidden before (p :: parents) (side ++ rest)

theorem sides_of_postorder (hclosed : ∀ {x y}, h.Reaches x y → y ∈ hidden → x ∈ hidden)
    (hs : h.Stacked (· ∈ hidden) l.reverse) {parents : List CommitId}
    (hl : h.Postorder hidden given parents l) :
    ∃ sides, l = given ++ sides ∧ Sides h hidden given parents sides := by
  induction parents generalizing given with
  | nil =>
    cases hl
    exact ⟨[], (List.append_nil _).symm, .nil⟩
  | cons p parents ih =>
    obtain ⟨m, hm, hl⟩ := hl.of_cons
    obtain ⟨side, rfl⟩ := hm.isPrefix
    obtain ⟨rest, rfl, hrest⟩ := ih hl
    have hs : h.Stacked (· ∈ hidden) (given ++ side).reverse :=
      hs.of_suffix (List.reverse_suffix.2 (List.prefix_append _ rest))
    have hfresh : ∀ x ∈ side, x ∉ given := by
      have hnodup := List.nodup_append.1 (List.nodup_reverse.1 hs.nodup)
      exact fun x hx hgiven => hnodup.2.2 x hgiven x hx rfl
    refine ⟨side ++ rest, by rw [List.append_assoc], .cons (fun x => ⟨fun hx => ?_, ?_⟩) hrest⟩
    · have hmem : x ∈ given ++ side := List.mem_append_right given hx
      have hbelow := (hm.given_or_below x hmem).resolve_left (hfresh x hx)
      exact ⟨below_singleton.1 hbelow, hs.not_hidden x (List.mem_reverse.2 hmem), hfresh x hx⟩
    · rintro ⟨hreach, hvisible, hgiven⟩
      have hp : p ∈ given ++ side :=
        (hm.all_done p List.mem_cons_self).resolve_left fun hp => hvisible (hclosed hreach hp)
      have hx := (hs.reaches_mem hclosed hreach (List.mem_reverse.2 hp)).resolve_left hvisible
      exact (List.mem_append.1 (List.mem_reverse.1 hx)).resolve_left hgiven

/-- A visit to a merge gives the sides of its parents, and right after them the merge. -/
theorem sides_of_visit (hclosed : ∀ {x y}, h.Reaches x y → y ∈ hidden → x ∈ hidden)
    (hs : h.Stacked (· ∈ hidden) l.reverse) {m : CommitId} {rest : List CommitId}
    (hl : h.Postorder hidden given (m :: rest) l) (hm : ¬ (m ∈ hidden ∨ m ∈ given))
    {c : Commit} (hc : h.read m = .ok c) :
    ∃ sides after, l = given ++ sides ++ m :: after ∧ Sides h hidden given c.parents sides := by
  cases hl with
  | done hid => exact absurd hid hm
  | @read _ _ _ c' n _ _ hc' hparents hrest =>
    cases hc.symm.trans hc'
    obtain ⟨after, rfl⟩ := hrest.isPrefix
    rw [List.append_assoc, List.singleton_append] at hs ⊢
    have hs : h.Stacked (· ∈ hidden) n.reverse :=
      hs.of_suffix (List.reverse_suffix.2 (List.prefix_append n _))
    obtain ⟨sides, rfl, hsides⟩ := sides_of_postorder hclosed hs hparents
    exact ⟨sides, after, rfl, hsides⟩

end Landing.History
