import Landing.Proofs.History.Postorder
import Landing.Proofs.Submission.Mirrored
import Landing.Proofs.Submission.Protocol

/-! The order of a walk, and so of the pushes, is that of a recursion over the parents: first the
side of the first parent. -/
namespace Landing.Submission
open History
open Rehearsal (services)
open Rehearsal.Crossing (root base above beside merge old batch world sync calm intact
  intact_of_subset)

/-- A walk with a stack is the recursion. Where all can be read and there are no cycles, the walk
succeeds, and gives the one list that the recursion comes to. Each visit to a merge gives the side
of the first parent first, then of each later parent what is new, and then the merge. The commits
for which the mirror is asked are the first of this list, in its order. -/
theorem walk_eq_postorder {h : History} {starts marked hidden : List CommitId}
    (hhidden : ∀ x, x ∈ hidden ↔ h.Below marked x)
    (ha : h.AcyclicPast (h.Below marked) starts) (hb : h.Bounded (starts ++ marked))
    (hr : ∀ x, h.Below (starts ++ marked) x → h.Readable x) :
    ∃ l, h.order starts marked .oldestFirst = .ok l ∧
      (∀ l', h.Postorder hidden [] starts l' ↔ l' = l) ∧
      (∀ before m rest l' c, h.Postorder hidden before (m :: rest) l' → l' <+: l →
        ¬ (m ∈ hidden ∨ m ∈ before) → h.read m = .ok c →
        ∃ sides after, l = before ++ sides ++ m :: after ∧ Sides h hidden before c.parents sides) ∧
      ∀ {σ : Type} (s : Services σ) (plan : Plan) (tip : TrackedCommit) (pending : PendingSet)
        (w : σ) (r : Reduction) (chosen : TrackedCommit) (x : Session σ),
        opening s tip pending w = .ok (r, chosen, x) → s.history x.world = h →
        starts = [chosen.id] → marked = [tip.id] →
        (run s plan tip pending w).session.pushes.map (·.1.newRev) <+: l := by
  have hsub : ∀ {ids : List CommitId}, ids ⊆ starts ++ marked →
      ∀ id ∈ ids, h.Below (starts ++ marked) id := fun hids id hid => .of_mem (hids hid)
  obtain ⟨l, hl, holdest, hstacked, _⟩ := order_ok ha
    (hb.mono (hsub (List.subset_append_left starts marked)))
    (hb.mono (hsub (List.subset_append_right starts marked)))
    (fun x hx _ => hr x (hx.mono (List.subset_append_left starts marked)))
    (fun x hx => hr x (hx.mono (List.subset_append_right starts marked)))
  have hsame : h.Below marked = (· ∈ hidden) := funext fun x => propext (hhidden x).symm
  have hclosed : ∀ {x y}, h.Reaches x y → y ∈ hidden → x ∈ hidden :=
    fun hxy hy => (hhidden _).2 (.trans hxy ((hhidden _).1 hy))
  refine ⟨l.reverse, holdest, fun _ => postorder_iff_of_order hhidden hl, ?_, ?_⟩
  · intro before m rest l' c hvisit hpre hm hc
    have hs : h.Stacked (· ∈ hidden) l'.reverse := by
      rw [← hsame]
      exact hstacked.of_suffix (List.reverse_prefix.1 (by rwa [List.reverse_reverse]))
    obtain ⟨sides, after, rfl, hsides⟩ := sides_of_visit hclosed hs hvisit hm hc
    obtain ⟨new, hnew⟩ := hpre
    exact ⟨sides, after ++ new, by simp [← hnew], hsides⟩
  · intro σ s plan tip pending w r chosen x hopening hhistory hstarts hmarked
    rcases calls_of_opening hopening plan with hnone | ⟨ids, horder, horderly⟩
    · rw [hnone]
      exact List.nil_prefix
    · rw [hhistory, ← hstarts, ← hmarked, holdest] at horder
      cases horder
      exact horderly.followed

/-- The commit above the tip is on the side of the first parent of the merge, the one beside the tip
on the other side. Both are new, and they are pushed in this order. -/
theorem walk_eq_postorder_crossing :
    (services.history world).order [merge] [base] .oldestFirst = .ok [above, beside, merge] ∧
    (services.history world).Postorder [root, base] [] [merge] [above, beside, merge] ∧
    Sides (services.history world) [root, base] [] [above, beside] [above, beside] ∧
    (run services sync old batch world).session.pushes.map (·.1.newRev) <+:
      [above, beside, merge] := by
  have hhidden : ∀ x, x ∈ [root, base] ↔ (services.history world).Below [base] x :=
    (@reachable_of_ok (services.history world) [base] _ (by decide +kernel)).1
  have hi : (services.history world).Intact ([merge] ++ [base]) := intact_of_subset (by decide)
  obtain ⟨l, hl, hpost, hsides, hpushes⟩ := @walk_eq_postorder _ [merge] [base] _ hhidden
    (hi.acyclic.past _ _) hi.bounded hi.readable
  have horder : (services.history world).order [merge] [base] .oldestFirst =
      .ok [above, beside, merge] := by decide +kernel
  obtain rfl : l = [above, beside, merge] := Except.ok.inj (hl.symm.trans horder)
  have hpost : (services.history world).Postorder [root, base] [] [merge] [above, beside, merge] :=
    (hpost _).2 rfl
  obtain ⟨r, x, hopening, ho⟩ := opening_ok calm.steady intact.above
  obtain ⟨sides, after, hsplit, hmerge⟩ := hsides [] merge [] _
    ⟨merge, [above, beside], "TICKET: 1"⟩ hpost (List.prefix_refl _) (by decide) rfl
  obtain ⟨rfl, rfl⟩ : sides = [above, beside] ∧ after = [] := by
    have hne : above ≠ merge ∧ beside ≠ merge := by decide
    rcases sides with _ | ⟨a, _ | ⟨b, _ | ⟨c, sides⟩⟩⟩ <;> simp_all
  refine ⟨horder, hpost, hmerge, ?_⟩
  refine hpushes services sync old batch world r _ x hopening (calm.steady x.world ho.leads) ?_ rfl
  rw [Crossing.choice_id]

end Landing.Submission
