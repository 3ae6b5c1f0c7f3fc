import Landing.Proofs.Rehearsal

/-! What a walk over an unchanging history gives from its first commit to its last. -/
namespace Landing.History
variable {h : History} {starts hidden l : List CommitId} {e : Error}

/-- `l` has what the starts reach and the hidden commits do not, each commit once and after all of
its ancestors. -/
structure Ascending (h : History) (starts hidden l : List CommitId) : Prop where
  nodup : l.Nodup
  mem_iff : ∀ x, x ∈ l ↔ h.Below starts x ∧ ¬ h.Below hidden x
  sorted : l.Pairwise fun x y => ¬ h.Reaches y x

theorem Stacked.ascending (hs : h.Stacked (h.Below hidden) l)
    (hmem : ∀ x, x ∈ l ↔ h.Below starts x ∧ ¬ h.Below hidden x) :
    h.Ascending starts hidden l.reverse where
  nodup := List.nodup_reverse.2 hs.nodup
  mem_iff x := by rw [List.mem_reverse, hmem]
  sorted := List.pairwise_reverse.2 (hs.pairwise .trans)

theorem ascending_of_order (hl : h.order starts hidden .oldestFirst = .ok l) :
    h.Ascending starts hidden l := by
  rw [order_oldestFirst] at hl
  cases hm : h.order starts hidden .newestFirst with
  | error e =>
    rw [hm] at hl
    cases hl
  | ok m =>
    rw [hm] at hl
    cases hl
    obtain ⟨hstacked, hmem, _⟩ := stacked_of_order hm
    exact hstacked.ascending hmem

/-- Commits that can be read are stored somehow. -/
theorem exists_stored (hr : ∀ x ∈ l, h.Readable x) :
    ∃ cs, l.Forall₂ (fun id c => h.read id = .ok c) cs := by
  induction l with
  | nil => exact ⟨[], .nil⟩
  | cons id rest ih =>
    rw [List.forall_mem_cons] at hr
    obtain ⟨c, hc⟩ := hr.1
    obtain ⟨cs, hcs⟩ := ih hr.2
    exact ⟨c :: cs, .cons hc hcs⟩

namespace Walk

theorem readAll_of_stored {cs : List Commit} (hcs : l.Forall₂ (fun id c => h.read id = .ok c) cs) :
    readAll h l = (.ok cs, []) := by
  induction hcs with
  | nil => rfl
  | cons hread _ ih => simp only [readAll, hread, ih]

theorem exists_queue {v w : Walk} (hv : w.ordered h = .ok v) :
    ∃ l, v = { w with queue := some l } := by
  obtain ⟨_, _, _, queue⟩ := w
  cases queue with
  | some l =>
    cases hv
    exact ⟨l, rfl⟩
  | none =>
    rw [ordered] at hv
    dsimp only at hv
    split at hv
    · cases hv
    · cases hv
      exact ⟨_, rfl⟩

/-- To collect a walk is to ask for the next commit until there is none, or one cannot be read. -/
theorem collect_eq_next (w : Walk) (h : History) : w.collect h =
    match w.next h with
    | (.error e, w) => (.error e, w)
    | (.ok none, w) => (.ok [], w)
    | (.ok (some c), w) =>
      match w.collect h with
      | (.error e, w) => (.error e, w)
      | (.ok cs, w) => (.ok (c :: cs), w) := by
  rw [collect, next]
  cases hw : w.ordered h with
  | error e => rfl
  | ok v =>
    obtain ⟨l, rfl⟩ := exists_queue hw
    cases l with
    | nil => rfl
    | cons id rest =>
      simp only [remaining, Option.getD_some, readAll]
      cases h.read id with
      | error e => rfl
      | ok c =>
        simp only [collect, ordered, remaining, Option.getD_some]
        cases readAll h rest with
        | mk r left => cases r <;> rfl

/-- An order that is found once comes out reversed for the other direction, and can be read. -/
theorem collect_of_order (hl : h.order starts hidden .newestFirst = .ok l) :
    ∃ cs, l.reverse.Forall₂ (fun id c => h.read id = .ok c) cs ∧
      (collect ⟨starts, hidden, .oldestFirst, none⟩ h).1 = .ok cs ∧
      (collect ⟨starts, hidden, .newestFirst, none⟩ h).1 = .ok cs.reverse := by
  obtain ⟨hstacked, _⟩ := stacked_of_order hl
  obtain ⟨cs, hcs⟩ := exists_stored fun x hx => hstacked.readable hx
  have holdest : h.order starts hidden .oldestFirst = .ok l.reverse := by
    rw [order_oldestFirst, hl]
    rfl
  have hreversed : l.reverse.Forall₂ (fun id c => h.read id = .ok c) cs.reverse :=
    List.forall₂_reverse_iff.2 hcs
  refine ⟨cs.reverse, hreversed, ?_, ?_⟩
  · simp only [collect, ordered, holdest, remaining, Option.getD_some, readAll_of_stored hreversed]
  · simp only [collect, ordered, hl, remaining, Option.getD_some, readAll_of_stored hcs,
      List.reverse_reverse]

theorem collect_of_order_error (hl : h.order starts hidden .newestFirst = .error e)
    (d : Direction) : (collect ⟨starts, hidden, d, none⟩ h).1 = .error e := by
  cases d with
  | newestFirst => simp only [collect, ordered, hl]
  | oldestFirst => simp only [collect, ordered, order_oldestFirst, hl, Except.map]

/-- A walk over a history that has an end comes to its end if all can be read that it is about: what
the hidden commits reach, and what the starts reach and they do not. Nothing else makes it fail.
Then it gives what is not hidden, and the other direction gives the reverse. -/
theorem collect_exact (hh : h.Ends) (starts hidden : List CommitId) :
    let walk (d : Direction) : Walk := ⟨starts, hidden, d, none⟩
    let oldest := ((walk .oldestFirst).collect h).1
    ((∃ cs, oldest = .ok cs) ↔ (∀ x, h.Below hidden x → h.Readable x) ∧
      ∀ x, h.Below starts x → ¬ h.Below hidden x → h.Readable x) ∧
    (∀ e, oldest = .error e → ∃ x,
      (h.Below hidden x ∨ h.Below starts x ∧ ¬ h.Below hidden x) ∧ h.read x = .error e) ∧
    (∀ cs, oldest = .ok cs → ∃ l, h.Ascending starts hidden l ∧
      l.Forall₂ (fun id c => h.read id = .ok c) cs) ∧
    ((walk .newestFirst).collect h).1 = oldest.map List.reverse := by
  intro walk oldest
  cases hl : h.order starts hidden .newestFirst with
  | ok l =>
    obtain ⟨hstacked, hmem, hreadable⟩ := stacked_of_order hl
    obtain ⟨cs, hcs, holdest, hnewest⟩ := collect_of_order hl
    have holdest : oldest = .ok cs := holdest
    rw [holdest]
    refine ⟨⟨fun _ => ⟨hreadable, fun x hx hvisible => ?_⟩, fun _ => ⟨cs, rfl⟩⟩, nofun,
      fun cs' hcs' => ?_, hnewest⟩
    · exact hstacked.readable ((hmem x).2 ⟨hx, hvisible⟩)
    · cases hcs'
      exact ⟨l.reverse, hstacked.ascending hmem, hcs⟩
  | error e =>
    have holdest : oldest = .error e := collect_of_order_error hl .oldestFirst
    obtain ⟨x, hx, hread⟩ :=
      (order_error hl).resolve_right fun hend => hend.2 (hh.past hidden starts)
    rw [holdest]
    refine ⟨⟨nofun, fun ⟨hhidden, hvisible⟩ => ?_⟩, fun e' he' => ?_, nofun,
      collect_of_order_error hl .newestFirst⟩
    · have hr : h.Readable x := hx.elim (hhidden x) fun hx => hvisible x hx.1 hx.2
      exact absurd hread hr.read_ne_error
    · cases he'
      exact ⟨x, hx, hread⟩

open Rehearsal.Crossing (root base above beside merge graph intact)

/-- From the merge, given twice, and one of its parents the walk gives three commits. -/
theorem collect_exact_crossing :
    graph.history.Ends ∧ ∃ cs l,
      (collect ⟨[merge, beside, merge], [base, root], .oldestFirst, none⟩ graph.history).1 =
        .ok cs ∧
      (collect ⟨[merge, beside, merge], [base, root], .newestFirst, none⟩ graph.history).1 =
        .ok cs.reverse ∧
      graph.history.Ascending [merge, beside, merge] [base, root] l ∧
      l.Forall₂ (fun id c => graph.history.read id = .ok c) cs ∧
      cs.map (·.id) = [above, beside, merge] := by
  have hends : graph.history.Ends := Graph.ends intact.acyclic
  obtain ⟨_, _, hok, hnewest⟩ := collect_exact hends [merge, beside, merge] [base, root]
  let cs : List Commit :=
    [⟨above, [base], "TICKET: 1"⟩, ⟨beside, [root], "TICKET: 1"⟩,
      ⟨merge, [above, beside], "TICKET: 1"⟩]
  have hcs : (collect ⟨[merge, beside, merge], [base, root], .oldestFirst, none⟩ graph.history).1 =
      .ok cs := by decide
  obtain ⟨l, hl, hstored⟩ := hok cs hcs
  rw [hcs] at hnewest
  exact ⟨hends, cs, l, hcs, hnewest, hl, hstored, rfl⟩

end Walk

end Landing.History
