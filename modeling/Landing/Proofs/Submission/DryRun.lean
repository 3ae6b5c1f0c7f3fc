import Landing.Proofs.Submission.Local

/-! Whether a commit would land: the answer of a dry run, and what comes of a submission. -/
namespace Landing.Submission
open History Reduction
open Rehearsal (services)
open Rehearsal.Crossing (base merge old batch world main calm intact_of_subset)
variable {σ : Type} {s : Services σ} {h : History} {tip : TrackedCommit} {pending : PendingSet}
  {c : CommitId}

/-- The batch is what `c` has and the tip has not. -/
def Between (h : History) (tip c : CommitId) (pending : PendingSet) : Prop :=
  ∀ x, x ∈ pending.ids ↔ h.Reaches x c ∧ ¬ h.Reaches x tip

/-- Such a batch needs nothing else. -/
theorem Between.mergeable_iff (hp : Between h tip.id c pending) {x : CommitId} :
    Mergeable h tip.id pending.ids x ↔ x ∈ pending.ids := by
  refine ⟨fun hx => hx.1, fun hx => ⟨hx, ((hp x).1 hx).2, fun y hy => ?_⟩⟩
  by_cases htip : h.Reaches y tip.id
  · exact .inl htip
  · exact .inr ((hp y).2 ⟨hy.trans ((hp x).1 hx).1, htip⟩)

/-- Its only head is the commit that all of it is below. -/
theorem Between.head_iff (ha : h.Acyclic) (hp : Between h tip.id c pending) {x : CommitId} :
    Head h tip.id pending.ids x ↔ x = c ∧ ¬ h.Reaches c tip.id := by
  constructor
  · rintro ⟨hx, hlast⟩
    obtain ⟨hxc, htip⟩ := (hp x).1 hx.1
    have hc : ¬ h.Reaches c tip.id := fun hc => htip (hxc.trans hc)
    exact ⟨(hlast c (hp.mergeable_iff.2 ((hp c).2 ⟨.refl c, hc⟩)) hxc).symm, hc⟩
  · rintro ⟨rfl, htip⟩
    refine ⟨hp.mergeable_iff.2 ((hp x).2 ⟨.refl x, htip⟩), fun d hd hxd => ?_⟩
    exact ha.antisymm ((hp d).1 hd.1).1 hxd

/-- The commit is chosen if it is above the tip. Otherwise the tip stays, which is not the commit
then. -/
theorem Between.choice_id_iff (ha : h.Acyclic) (hp : Between h tip.id c pending) :
    (choice h tip pending).id = c ↔ h.Reaches tip.id c := by
  refine ⟨fun he => he ▸ reaches_choice h tip pending, fun hc => ?_⟩
  by_cases htip : h.Reaches c tip.id
  · rcases choice_cases h tip pending with he | ⟨_, hhead, _⟩
    · rw [he]
      exact ha.antisymm hc htip
    · exact absurd htip ((hp.head_iff ha).1 hhead).2
  · exact ((hp.head_iff ha).1 (head_of_above ((hp.head_iff ha).2 ⟨rfl, htip⟩) hc)).1

/-- A dry run foretells a submission. On an intact history that stays as it is both come to an end,
and the answer is that `c` would land exactly if a submission of all that `c` has and the tip has
not, in any order, moves the branch to `c`. -/
theorem dryRun_eq_true_iff {w : σ} (hs : s.Steady w)
    (hi : (s.history w).Intact (tip.id :: c :: pending.ids))
    (hp : Between (s.history w) tip.id c pending) (branch : Branch) :
    ∃ b landed, dryRun (s.history w) tip.id c = .ok b ∧
      (run s ⟨branch, .localOnly, []⟩ tip pending w).result = .ok landed ∧
      (b = true ↔ landed.newTip.id = c) := by
  have hbatch : (s.history w).Intact (tip.id :: pending.ids) :=
    hi.mono (List.cons_subset_cons _ (List.subset_cons_self ..))
  obtain ⟨b, hb, hreach⟩ := hi.ancestry tip.id (by simp) c (by simp)
  obtain ⟨_, _, _, landed, _, _, hok, _⟩ := run_ok ⟨branch, .localOnly, []⟩ hs hbatch rfl
  refine ⟨b, landed, hb, hok, ?_⟩
  rw [hreach, choice_of_localOnly hs hbatch hok]
  exact (hp.choice_id_iff hi.acyclic).symm

/-- The merge would land, and does when it is submitted with the two commits that it is made of. -/
theorem dryRun_eq_true_iff_crossing :
    Between (services.history world) old.id merge batch ∧ ∃ b landed,
      dryRun (services.history world) old.id merge = .ok b ∧
        (run services ⟨main, .localOnly, []⟩ old batch world).result = .ok landed ∧
        (b = true ↔ landed.newTip.id = merge) ∧ b = true := by
  have hi : (services.history world).Intact (old.id :: merge :: batch.ids) :=
    intact_of_subset (by decide)
  have hends : (services.history world).Intact [base, merge] := intact_of_subset (by decide)
  obtain ⟨l, horder, _, hmem⟩ := range_ok hends.above
  have hwalk : (services.history world).order [merge] [base] .oldestFirst = .ok batch.ids := by
    decide
  obtain rfl : batch.ids = l := Except.ok.inj (hwalk.symm.trans horder)
  obtain ⟨b, landed, hb, hok, hiff⟩ := dryRun_eq_true_iff calm.steady hi hmem main
  have htrue : dryRun (services.history world) old.id merge = .ok true := by decide
  exact ⟨hmem, b, landed, hb, hok, hiff, Except.ok.inj (hb.symm.trans htrue)⟩

end Landing.Submission
