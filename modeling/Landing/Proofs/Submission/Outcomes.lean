import Landing.Proofs.Submission.Mirrored

/-! The outcomes of a submission, whatever the systems around it answer: every commit of the batch
gets one. A commit that landed is told so, unless it counts as landed for another reason than the
tip. -/
namespace Landing.Submission
open History Reduction
open Rehearsal (services)
open Rehearsal.Crossing (root above old batch world main digit calm intact intact_of_subset)
variable {σ : Type} {s : Services σ} {w : σ} {plan : Plan} {tip : TrackedCommit}
  {pending : PendingSet} {landed : Landed}

/-- Whatever stores, credentials and the mirror answer, a submission on an intact history ends well.
It gives one outcome to each commit of the batch and none to others, and leaves nothing waiting. -/
theorem outcomes_perm (plan : Plan) (hs : s.Steady w)
    (hi : (s.history w).Intact (tip.id :: (pending.ids ++ plan.accepted))) :
    ∃ landed, (run s plan tip pending w).result = .ok landed ∧
      landed.outcomes.order.Perm pending.ids ∧ (run s plan tip pending w).pending = {} := by
  obtain ⟨r, x, y, landed, _, ho, hbring, hok, hpending, _, hget⟩ := run_closed plan hs hi
  have hbatch : (s.history w).Intact (tip.id :: pending.ids) :=
    hi.mono (List.cons_subset_cons _ (List.subset_append_left ..))
  refine ⟨landed, hok, (List.perm_ext_iff_of_nodup landed.outcomes.distinct pending.distinct).2
    fun c => ?_, hpending⟩
  change c ∈ landed.outcomes.order ↔ c ∈ pending.ids
  rw [Outcome.Ledger.mem_order_iff, Outcome.Ledger.isFinal, hget]
  obtain ⟨o, hy, hsome⟩ := ho.get?_bringIn (hs x.world ho.leads) hbatch hbring c
  by_cases hc : c ∈ pending.ids
  · rw [if_pos hc, ← apply_ite some]
    simp [hc]
  · have hnone : o = none := by
      by_contra hne
      exact hc (mergeable_of_reaches_choice (hsome hne).1.1 (hsome hne).1.2).1
    rw [hy, if_neg hc, if_neg hc, hnone]
    simp [hc]

theorem outcomes_perm_crossing :
    ∃ landed, (run services ⟨main, .mirrored digit, [root]⟩ old batch world).result = .ok landed ∧
      landed.outcomes.order.Perm batch.ids ∧
      (run services ⟨main, .mirrored digit, [root]⟩ old batch world).pending = {} :=
  outcomes_perm ⟨main, .mirrored digit, [root]⟩ calm.steady (intact_of_subset (by decide))

/-- What becomes of a commit of the batch that comes in with the new tip. It has landed with it,
unless it counted as landed before for another reason than the tip: it is taken for left over
then. -/
theorem get?_of_reaches_new (hs : s.Steady w)
    (hi : (s.history w).Intact (tip.id :: (pending.ids ++ plan.accepted)))
    (hok : (run s plan tip pending w).result = .ok landed) {c : CommitId} (hc : c ∈ pending.ids)
    (hnew : (s.history w).Reaches c landed.newTip.id) :
    landed.outcomes.get? c = some (open Classical in
      if (s.history w).Reaches c tip.id then .alreadyMerged
      else if ¬ (s.history w).Below plan.accepted c then .cleanMerge
      else if c = (choice (s.history w) tip pending).id then .internalError
      else .dependencyBlocked) := by
  obtain ⟨r, x, y, landed', _, ho, hbring, hok', _, _, hget⟩ := run_closed plan hs hi
  obtain rfl : landed' = landed := Except.ok.inj (hok'.symm.trans hok)
  have hbatch : (s.history w).Intact (tip.id :: pending.ids) :=
    hi.mono (List.cons_subset_cons _ (List.subset_append_left ..))
  obtain ⟨o, hy, hsome⟩ := ho.get?_bringIn (hs x.world ho.leads) hbatch hbring c
  have hnone : o = none := by
    by_contra hne
    exact (hsome hne).2 hnew
  rw [hget, hy, if_pos hc, if_pos hc, hnone, Option.or_none]
  by_cases htip : (s.history w).Reaches c tip.id
  · simp [settled, htip]
  have hreach := hnew.trans (ho.new_reaches (hs x.world ho.leads) hbatch hbring)
  rw [settled_eq_none hreach htip, Option.none_or, if_neg htip, below_append, below_singleton]
  by_cases hother : (s.history w).Below plan.accepted c
  · have hleft : Session.leftover r c =
        if c = (choice (s.history w) tip pending).id then .internalError else .dependencyBlocked :=
      ho.leftover_of_reaches hreach htip
    simp [hother, hleft]
  · simp [hother, htip, hnew]

/-- When a commit that landed is told so. A commit of the batch that comes in with the new tip has
an outcome, and this is a success exactly if the tip had the commit before, or no other commit that
counts as landed is built on it. -/
theorem landed_isSuccess_iff (hs : s.Steady w)
    (hi : (s.history w).Intact (tip.id :: (pending.ids ++ plan.accepted)))
    (hok : (run s plan tip pending w).result = .ok landed) {c : CommitId} (hc : c ∈ pending.ids)
    (hnew : (s.history w).Reaches c landed.newTip.id) :
    ∃ o, landed.outcomes.get? c = some o ∧ (o.isSuccess = true ↔
      (s.history w).Reaches c tip.id ∨ ¬ (s.history w).Below plan.accepted c) := by
  refine ⟨_, get?_of_reaches_new hs hi hok hc hnew, ?_⟩
  by_cases htip : (s.history w).Reaches c tip.id
  · simp [htip, Outcome.isSuccess]
  by_cases hother : (s.history w).Below plan.accepted c
  · by_cases hchosen : c = (choice (s.history w) tip pending).id
    · rw [if_neg htip, if_neg (not_not.2 hother), if_pos hchosen]
      simp [htip, hother, Outcome.isSuccess]
    · rw [if_neg htip, if_neg (not_not.2 hother), if_neg hchosen]
      simp [htip, hother, Outcome.isSuccess]
  · simp [htip, hother, Outcome.isSuccess]

/-- The commit above the tip counts as landed, and comes in with the merge. -/
theorem landed_isSuccess_iff_crossing :
    ∃ landed o, (run services ⟨main, .localOnly, [above]⟩ old batch world).result = .ok landed ∧
      (services.history world).Reaches above landed.newTip.id ∧
      landed.outcomes.get? above = some o ∧ o.isSuccess = false := by
  have hi : (services.history world).Intact (old.id :: (batch.ids ++ [above])) :=
    intact_of_subset (by decide)
  obtain ⟨_, _, _, landed, _, _, _, hok, _⟩ :=
    run_closed ⟨main, .localOnly, [above]⟩ calm.steady hi
  have hreach : (services.history world).Reaches above landed.newTip.id := by
    rw [choice_of_localOnly calm.steady intact hok, Crossing.choice_id]
    exact Crossing.above_reaches
  obtain ⟨o, ho, hsuccess⟩ := landed_isSuccess_iff calm.steady hi hok (by decide) hreach
  have hbelow : (services.history world).Below [above] above := .of_mem (by simp)
  refine ⟨landed, o, hok, hreach, ho, ?_⟩
  rw [Bool.eq_false_iff, Ne, hsuccess, not_or, not_not]
  exact ⟨Crossing.not_above_reaches, hbelow⟩

end Landing.Submission
