import Landing.History.Walk
import Landing.Proofs.History.Search

/-! A walk that comes to its end gives what its starts reach and its hidden commits do not, parents
before children. It met no cycle, since a commit of a cycle is met again and again above its own
mark. -/
namespace Landing.History
variable {h : History} {hidden : CommitId → Prop}

/-- Commits, latest first, each with all its parents further on in the list or hidden. -/
inductive Stacked (h : History) (hidden : CommitId → Prop) : List CommitId → Prop where
  | nil : Stacked h hidden []
  | cons {id c l} : h.read id = .ok c → ¬ hidden id → id ∉ l →
      (∀ p ∈ c.parents, hidden p ∨ p ∈ l) → Stacked h hidden l → Stacked h hidden (id :: l)

namespace Stacked
variable {l : List CommitId}

theorem nodup (hs : h.Stacked hidden l) : l.Nodup := by
  induction hs with
  | nil => exact List.nodup_nil
  | cons _ _ hid _ _ ih => exact List.nodup_cons.2 ⟨hid, ih⟩

theorem readable (hs : h.Stacked hidden l) {x : CommitId} (hx : x ∈ l) : h.Readable x := by
  induction hs with
  | nil => simp at hx
  | cons hc _ _ _ _ ih =>
    rcases List.mem_cons.1 hx with rfl | hx
    · exact ⟨_, hc⟩
    · exact ih hx

theorem not_hidden (hs : h.Stacked hidden l) : ∀ x ∈ l, ¬ hidden x := by
  induction hs with
  | nil => simp
  | cons _ hid _ _ _ ih => exact List.forall_mem_cons.2 ⟨hid, ih⟩

theorem of_suffix {l' : List CommitId} (hs : h.Stacked hidden l) (hsuffix : l' <:+ l) :
    h.Stacked hidden l' := by
  induction hs with
  | nil => rw [List.suffix_nil.1 hsuffix]; exact .nil
  | cons hc hid hl hp hs ih =>
    rcases List.suffix_cons_iff.1 hsuffix with rfl | hsuffix
    · exact .cons hc hid hl hp hs
    · exact ih hsuffix

theorem parent_mem (hs : h.Stacked hidden l) {p c : CommitId} (hc : c ∈ l)
    (hp : h.Parent p c) : hidden p ∨ p ∈ l := by
  induction hs with
  | nil => simp at hc
  | cons hread _ _ hparents _ ih =>
    rcases List.mem_cons.1 hc with rfl | hc
    · exact (hparents p ((parent_iff hread).1 hp)).imp_right (List.mem_cons_of_mem _)
    · exact (ih hc).imp_right (List.mem_cons_of_mem _)

/-- Ancestors of a listed commit are listed, save what is hidden. -/
theorem reaches_mem (hs : h.Stacked hidden l)
    (hclosed : ∀ {x y}, h.Reaches x y → hidden y → hidden x) {x y : CommitId}
    (hxy : h.Reaches x y) (hy : y ∈ l) : hidden x ∨ x ∈ l := by
  induction hxy with
  | refl => exact .inr hy
  | step hx hp ih =>
    rcases hs.parent_mem hy hp with hp | hp
    · exact .inl (hclosed hx hp)
    · exact ih hp

/-- A listed commit is no ancestor of its parents. -/
theorem not_reaches_parent (hs : h.Stacked hidden l)
    (hclosed : ∀ {x y}, h.Reaches x y → hidden y → hidden x) {p c : CommitId} (hc : c ∈ l)
    (hp : h.Parent p c) : ¬ h.Reaches c p := by
  induction hs with
  | nil => simp at hc
  | cons hread hid hl hparents hs ih =>
    rcases List.mem_cons.1 hc with rfl | hc
    · intro hreach
      rcases hparents p ((parent_iff hread).1 hp) with hhidden | hmem
      · exact hid (hclosed hreach hhidden)
      · exact (hs.reaches_mem hclosed hreach hmem).elim hid hl
    · exact ih hc

/-- No listed commit is an ancestor of one further on. -/
theorem pairwise (hs : h.Stacked hidden l)
    (hclosed : ∀ {x y}, h.Reaches x y → hidden y → hidden x) :
    l.Pairwise fun x y => ¬ h.Reaches x y := by
  induction hs with
  | nil => exact .nil
  | cons _ hid hl _ hs ih =>
    refine .cons (fun y hy hxy => ?_) ih
    rcases hs.reaches_mem hclosed hxy hy with hx | hx
    · exact hid hx
    · exact hl hx

end Stacked

end Landing.History

namespace Landing.Traversal
open History
variable {h : History} {hidden l : List CommitId} {t t' : Traversal} {n : Nat}

theorem isVisible_iff {emitted : List CommitId} {id : CommitId} :
    isVisible hidden emitted id = true ↔ id ∉ hidden ∧ id ∉ emitted := by
  simp [isVisible]

theorem not_isVisible_iff {emitted : List CommitId} {id : CommitId} :
    ¬ isVisible hidden emitted id = true ↔ id ∈ hidden ∨ id ∈ emitted := by
  rw [isVisible_iff, not_and_or, not_not, not_not]

/-- A step stays below the stack. -/
theorem below_of_step (ht : t.step h.read hidden = .ok t') :
    (∀ x ∈ t'.emitted, x ∈ t.emitted ∨ h.Below (t.stack.map (·.1)) x) ∧
      ∀ x ∈ t'.stack.map (·.1), h.Below (t.stack.map (·.1)) x := by
  obtain ⟨_ | ⟨⟨id, expanded⟩, rest⟩, emitted⟩ := t
  · cases ht
    exact ⟨fun x hx => .inl hx, fun x hx => .of_mem hx⟩
  have htop : h.Below (((id, expanded) :: rest).map (·.1)) id := .of_mem List.mem_cons_self
  have hrest : ∀ x ∈ rest.map (·.1), h.Below (((id, expanded) :: rest).map (·.1)) x :=
    fun x hx => .of_mem (List.mem_cons_of_mem id hx)
  rw [Traversal.step] at ht
  dsimp only at ht
  split at ht
  · cases ht
    exact ⟨fun x hx => .inl hx, hrest⟩
  · split at ht
    · cases ht
      refine ⟨fun x hx => ?_, hrest⟩
      rcases List.mem_cons.1 hx with rfl | hx
      · exact .inr htop
      · exact .inl hx
    · split at ht
      · cases ht
      · rename_i c hc
        cases ht
        refine ⟨fun x hx => .inl hx, fun x hx => ?_⟩
        simp only [List.map_append, List.map_map, List.map_cons, List.mem_append, List.mem_cons,
          List.mem_map, List.mem_filter, Function.comp_apply] at hx
        rcases hx with ⟨p, ⟨hp, _⟩, rfl⟩ | rfl | ⟨a, ha, rfl⟩
        · exact htop.trans ((parent_iff hc).2 hp).reaches
        · exact htop
        · exact hrest _ (List.mem_map_of_mem ha)

theorem below_of_run (hl : run h.read hidden n t = .ok l) :
    ∀ x ∈ l, x ∈ t.emitted ∨ h.Below (t.stack.map (·.1)) x := by
  induction n generalizing t with
  | zero =>
    rw [run] at hl
    split at hl
    · cases hl
      exact fun x hx => .inl hx
    · cases hl
  | succ n ih =>
    rw [run] at hl
    split at hl
    · cases hl
      exact fun x hx => .inl hx
    · split at hl
      · cases hl
      · rename_i hstep
        obtain ⟨hemitted, hstack⟩ := below_of_step hstep
        intro x hx
        rcases ih hl x hx with hx | hx
        · exact hemitted x hx
        · exact .inr (hx.of_below hstack)

/-- Of each marked commit on a stack all parents are done with, or wait above the mark. -/
inductive Marked (h : History) : (done : CommitId → Prop) → List (CommitId × Bool) → Prop where
  | nil {done} : Marked h done []
  | waiting {done id rest} : Marked h (fun x => done x ∨ x = id) rest →
      Marked h done ((id, false) :: rest)
  | marked {done id c rest} : h.read id = .ok c → (∀ p ∈ c.parents, done p) →
      Marked h (fun x => done x ∨ x = id) rest → Marked h done ((id, true) :: rest)

namespace Marked
variable {done done' : CommitId → Prop} {stack : List (CommitId × Bool)}

theorem mono (hm : Marked h done stack) (hs : ∀ x, done x → done' x) : Marked h done' stack := by
  induction hm generalizing done' with
  | nil => exact .nil
  | waiting _ ih => exact .waiting (ih fun x => Or.imp_left (hs x))
  | marked hc hp _ ih =>
    exact .marked hc (fun p hmem => hs p (hp p hmem)) (ih fun x => Or.imp_left (hs x))

theorem tail {e : CommitId × Bool} (hm : Marked h done (e :: stack)) :
    Marked h (fun x => done x ∨ x = e.1) stack := by
  cases hm <;> assumption

theorem push {ids : List CommitId} (hm : Marked h (fun x => done x ∨ x ∈ ids) stack) :
    Marked h done (ids.map (·, false) ++ stack) := by
  induction ids generalizing done with
  | nil => exact hm.mono (by simp)
  | cons id ids ih => exact .waiting (ih (hm.mono (by simp [or_assoc])))

end Marked

/-- A traversal on its way: what it emitted is stacked, and it comes to the parents of a commit
before it meets the mark of the commit again. -/
structure Climbing (h : History) (hidden : List CommitId) (t : Traversal) : Prop where
  stacked : h.Stacked (· ∈ hidden) t.emitted
  marked : Marked h (fun x => x ∈ hidden ∨ x ∈ t.emitted) t.stack

namespace Climbing
variable {id : CommitId} {rest : List (CommitId × Bool)} {emitted : List CommitId}

theorem start (hl : h.Stacked (· ∈ hidden) l) (id : CommitId) :
    Climbing h hidden ⟨[(id, false)], l⟩ := ⟨hl, .waiting .nil⟩

theorem skip {b : Bool} (hc : Climbing h hidden ⟨(id, b) :: rest, emitted⟩)
    (hid : id ∈ hidden ∨ id ∈ emitted) : Climbing h hidden ⟨rest, emitted⟩ := by
  refine ⟨hc.stacked, hc.marked.tail.mono ?_⟩
  rintro x (hx | rfl)
  · exact hx
  · exact hid

theorem emit (hc : Climbing h hidden ⟨(id, true) :: rest, emitted⟩)
    (hid : id ∉ hidden ∧ id ∉ emitted) : Climbing h hidden ⟨rest, id :: emitted⟩ := by
  cases hc.marked with
  | marked hread hparents hrest =>
    refine ⟨.cons hread hid.1 hid.2 hparents hc.stacked, hrest.mono ?_⟩
    rintro x ((hx | hx) | rfl)
    · exact .inl hx
    · exact .inr (List.mem_cons_of_mem id hx)
    · exact .inr List.mem_cons_self

/-- A parent that is not put on the stack is hidden, or was emitted before. -/
theorem expand (hc : Climbing h hidden ⟨(id, false) :: rest, emitted⟩) {c : Commit}
    (hread : h.read id = .ok c) : Climbing h hidden
      ⟨(c.parents.filter (isVisible hidden emitted)).map (·, false) ++ (id, true) :: rest,
        emitted⟩ := by
  refine ⟨hc.stacked, .push (.marked hread (fun p hp => ?_) (hc.marked.tail.mono ?_))⟩
  · by_cases hvisible : isVisible hidden emitted p = true
    · exact .inr (List.mem_filter.2 ⟨hp, hvisible⟩)
    · exact .inl (not_isVisible_iff.1 hvisible)
  · exact fun x hx => hx.imp_left .inl

/-- Each commit on the stack stays there, or is done with. -/
theorem step (hc : Climbing h hidden t) (ht : t.step h.read hidden = .ok t') :
    Climbing h hidden t' ∧ t.emitted ⊆ t'.emitted ∧
      ∀ e ∈ t.stack, e.1 ∈ hidden ∨ e.1 ∈ t'.emitted ∨ e.1 ∈ t'.stack.map (·.1) := by
  obtain ⟨_ | ⟨⟨id, expanded⟩, rest⟩, emitted⟩ := t
  · cases ht
    exact ⟨hc, List.Subset.refl _, by simp⟩
  have hkept : ∀ e ∈ rest, e.1 ∈ rest.map (·.1) := fun e he => List.mem_map_of_mem he
  rw [Traversal.step] at ht
  dsimp only at ht
  split at ht
  · rename_i hid
    have hid : id ∈ hidden ∨ id ∈ emitted := not_isVisible_iff.1 (by simpa using hid)
    cases ht
    exact ⟨hc.skip hid, List.Subset.refl _, List.forall_mem_cons.2
      ⟨hid.imp_right .inl, fun e he => .inr (.inr (hkept e he))⟩⟩
  · rename_i hid
    split at ht
    · rename_i hexpanded
      subst hexpanded
      cases ht
      refine ⟨hc.emit (isVisible_iff.1 (by simpa using hid)), List.subset_cons_self .., ?_⟩
      exact List.forall_mem_cons.2
        ⟨.inr (.inl List.mem_cons_self), fun e he => .inr (.inr (hkept e he))⟩
    · rename_i hexpanded
      rw [Bool.not_eq_true] at hexpanded
      subst hexpanded
      split at ht
      · cases ht
      · rename_i c hread
        cases ht
        refine ⟨hc.expand hread, List.Subset.refl _, fun e he => .inr (.inr ?_)⟩
        rw [List.map_append, List.map_cons]
        exact List.mem_append_right _ (List.mem_map_of_mem (f := Prod.fst) he)

private theorem done (hc : Climbing h hidden t) (ht : t.stack.isEmpty = true) :
    h.Stacked (· ∈ hidden) t.emitted ∧ t.emitted ⊆ t.emitted ∧
      ∀ e ∈ t.stack, e.1 ∈ hidden ∨ e.1 ∈ t.emitted := by
  rw [List.isEmpty_iff.1 ht]
  exact ⟨hc.stacked, List.Subset.refl _, by simp⟩

/-- At its end a traversal has emitted all that was on the stack, save what is hidden. -/
theorem run (hc : Climbing h hidden t) (hl : Traversal.run h.read hidden n t = .ok l) :
    h.Stacked (· ∈ hidden) l ∧ t.emitted ⊆ l ∧ ∀ e ∈ t.stack, e.1 ∈ hidden ∨ e.1 ∈ l := by
  induction n generalizing t with
  | zero =>
    rw [Traversal.run] at hl
    split at hl
    · rename_i ht
      cases hl
      exact hc.done ht
    · cases hl
  | succ n ih =>
    rw [Traversal.run] at hl
    split at hl
    · rename_i ht
      cases hl
      exact hc.done ht
    · split at hl
      · cases hl
      · rename_i t' ht
        obtain ⟨hc', hemitted, hstack⟩ := hc.step ht
        obtain ⟨hl', hemitted', hstack'⟩ := ih hc' hl
        refine ⟨hl', fun x hx => hemitted' (hemitted hx), fun e he => ?_⟩
        rcases hstack e he with hhidden | hmem | hmem
        · exact .inl hhidden
        · exact .inr (hemitted' hmem)
        · obtain ⟨e', he', hsame⟩ := List.mem_map.1 hmem
          exact hsame ▸ hstack' e' he'

end Climbing

end Landing.Traversal

namespace Landing.History
open Traversal
variable {h : History} {hidden starts l l' : List CommitId}

theorem below_of_traverse {emitted : List CommitId}
    (hl : h.traverse hidden emitted starts = .ok l) : ∀ x ∈ l, x ∈ emitted ∨ h.Below starts x := by
  induction starts generalizing emitted with
  | nil =>
    cases hl
    exact fun x hx => .inl hx
  | cons start rest ih =>
    rw [traverse] at hl
    split at hl
    · cases hl
    · rename_i hrun
      intro x hx
      rcases ih hl x hx with hx | hx
      · exact (below_of_run hrun x hx).imp_right (.mono (by simp))
      · exact .inr (hx.mono (List.subset_cons_self start rest))

theorem stacked_of_traverse (hl : h.Stacked (· ∈ hidden) l)
    (ht : h.traverse hidden l starts = .ok l') :
    h.Stacked (· ∈ hidden) l' ∧ l ⊆ l' ∧ ∀ id ∈ starts, id ∈ hidden ∨ id ∈ l' := by
  induction starts generalizing l with
  | nil =>
    cases ht
    exact ⟨hl, List.Subset.refl _, by simp⟩
  | cons start rest ih =>
    rw [traverse] at ht
    split at ht
    · cases ht
    · rename_i m hrun
      obtain ⟨hm, hsub, hstart⟩ := (Climbing.start hl start).run hrun
      obtain ⟨hl', hsub', hrest⟩ := ih hm ht
      refine ⟨hl', fun x hx => hsub' (hsub hx), List.forall_mem_cons.2 ⟨?_, hrest⟩⟩
      exact (hstart _ List.mem_cons_self).imp_right fun hmem => hsub' hmem

theorem order_oldestFirst (h : History) (starts hidden : List CommitId) :
    h.order starts hidden .oldestFirst =
      (h.order starts hidden .newestFirst).map List.reverse := by
  rw [order, order]
  cases h.reachable hidden with
  | error => rfl
  | ok covered =>
    dsimp only
    cases h.traverse covered [] starts <;> rfl

/-- Whatever the history is like, a walk that comes to its end gives what its starts reach and its
hidden commits do not, children before parents, and has read all of it. -/
theorem stacked_of_order (hl : h.order starts hidden .newestFirst = .ok l) :
    h.Stacked (h.Below hidden) l ∧
      (∀ x, x ∈ l ↔ h.Below starts x ∧ ¬ h.Below hidden x) ∧
      ∀ x, h.Below hidden x → h.Readable x := by
  have hclosed : ∀ {x y}, h.Reaches x y → h.Below hidden y → h.Below hidden x := .trans
  rw [order] at hl
  split at hl
  · cases hl
  rename_i covered hcovered
  obtain ⟨hmem, hreadable⟩ := reachable_of_ok hcovered
  have hsame : (· ∈ covered) = h.Below hidden := funext fun x => propext (hmem x)
  split at hl
  · cases hl
  rename_i m htraverse
  cases hl
  obtain ⟨hstacked, _, hstarts⟩ := stacked_of_traverse .nil htraverse
  rw [hsame] at hstacked
  refine ⟨hstacked, fun x => ⟨fun hx => ?_, ?_⟩, fun x hx => hreadable x ((hmem x).2 hx)⟩
  · exact ⟨(below_of_traverse htraverse x hx).resolve_left List.not_mem_nil,
      hstacked.not_hidden x hx⟩
  · rintro ⟨⟨start, hstart, hx⟩, hvisible⟩
    have hmem : start ∈ m :=
      (hstarts start hstart).resolve_left fun hs => hvisible (hclosed hx ((hmem start).1 hs))
    exact (hstacked.reaches_mem hclosed hx hmem).resolve_left hvisible

/-- A walk gives no commit twice. -/
theorem nodup_of_order {d : Direction} (hl : h.order starts hidden d = .ok l) : l.Nodup := by
  cases d with
  | newestFirst => exact (stacked_of_order hl).1.nodup
  | oldestFirst =>
    rw [order_oldestFirst] at hl
    cases hm : h.order starts hidden .newestFirst with
    | error => rw [hm] at hl; cases hl
    | ok m =>
      rw [hm] at hl
      cases hl
      exact List.nodup_reverse.2 (stacked_of_order hm).1.nodup

/-- What a walk has gone over has no cycles, as far as it is not hidden. -/
theorem acyclicPast_of_order (hl : h.order starts hidden .newestFirst = .ok l) :
    h.AcyclicPast (h.Below hidden) starts := by
  obtain ⟨hstacked, hmem, _⟩ := stacked_of_order hl
  exact fun p c hc hvisible hp =>
    hstacked.not_reaches_parent .trans ((hmem c).2 ⟨hc, hvisible⟩) hp

end Landing.History
