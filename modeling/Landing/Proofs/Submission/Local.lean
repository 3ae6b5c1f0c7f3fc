import Landing.Proofs.Rehearsal
import Landing.Proofs.Submission.Course

/-! Submissions without a mirror: where they land, and every outcome. -/
namespace Landing.Submission
open History Reduction
open Rehearsal (services)
open Rehearsal.Crossing (base old batch world main calm intact)
variable {σ : Type} {s : Services σ} {h : History} {tip : TrackedCommit} {pending : PendingSet}

open Classical in
/-- The outcome of a commit of `batch` when a branch moves from `tip` to `new`. -/
noncomputable def verdict (h : History) (tip : CommitId) (batch : List CommitId)
    (new c : CommitId) : Outcome :=
  if h.Reaches c tip then .alreadyMerged
  else if ¬ Mergeable h tip batch c then .missingDependency
  else if h.Reaches c new then .cleanMerge
  else if Head h tip batch c then .notFastForward
  else .dependencyBlocked

namespace Opened
variable {w : σ} {r : Reduction} {x : Session σ}

/-- The books once all has landed that the chosen tip brings in. -/
theorem verdict_ok (ho : Opened s h tip pending w r x) (c : CommitId) :
    (settled h tip pending c).or (open Classical in
      if h.Reaches c (choice h tip pending).id ∧ ¬ h.Reaches c tip.id then some .cleanMerge
      else some (Session.leftover r c)) =
      some (verdict h tip.id pending.ids (choice h tip pending).id c) := by
  by_cases htip : h.Reaches c tip.id
  · simp [settled, verdict, htip]
  by_cases hmerge : Mergeable h tip.id pending.ids c
  · by_cases hnew : h.Reaches c (choice h tip pending).id
    · rw [settled_eq_none hnew htip]
      simp [verdict, htip, hmerge, hnew]
    · by_cases hhead : Head h tip.id pending.ids c
      · have hne : c ≠ (choice h tip pending).id := fun he => hnew (he ▸ .refl c)
        simp [settled, verdict, htip, hmerge, hnew, hhead, hne]
      · have hfolded : r.folded.contains c = true := (ho.contains_iff c).2 ⟨hmerge, hhead⟩
        simp [settled, verdict, htip, hmerge, hnew, hhead, Session.leftover, hfolded]
  · simp [settled, verdict, htip, hmerge]

end Opened

/-- A submission without a mirror that ends well moves to the chosen tip and gives each commit of
the batch its verdict. That it ends well says that the batch has no cycles. -/
theorem verdicts_of_ok {w : σ} {branch : Branch} {landed : Landed} (hs : s.Steady w)
    (hi : (s.history w).Legible (tip.id :: pending.ids))
    (hok : (run s ⟨branch, .localOnly, []⟩ tip pending w).result = .ok landed) :
    landed.newTip = choice (s.history w) tip pending ∧ ∀ c, landed.outcomes.get? c =
      if c ∈ pending.ids then
        some (verdict (s.history w) tip.id pending.ids (choice (s.history w) tip pending).id c)
      else none := by
  obtain ⟨r, chosen, x, hopening⟩ := opening_of_ok hok
  have habove := intactAbove_of_opening hs hi hopening
  obtain ⟨_, _, hopening', ho⟩ := opening_ok hs habove
  cases hopening.symm.trans hopening'
  rw [run_of_opening hopening] at hok
  have hbring : x.bringIn s ⟨branch, .localOnly, []⟩ r tip (choice (s.history w) tip pending) =
      (choice (s.history w) tip pending, x) := rfl
  obtain ⟨hnew, w', l, hleads, horder, hget⟩ := Session.close_ok hbring hok
  obtain ⟨l', horder', _, hmem⟩ :=
    range_ok (habove.of_mem (choice_id_mem (s.history w) tip pending))
  rw [hs w' (ho.leads.trans hleads)] at horder
  obtain rfl : l' = l := Except.ok.inj (horder'.symm.trans horder)
  refine ⟨hnew, fun c => ?_⟩
  rw [hget, ho.outcomes, ho.order]
  by_cases hc : c ∈ pending.ids
  · have hlanded : x.batch.contains c = true ∧ c ∈ l' ↔
        (s.history w).Reaches c (choice (s.history w) tip pending).id ∧
          ¬ (s.history w).Reaches c tip.id := by
      rw [ho.contains_batch, hmem, and_iff_right hc]
    rw [if_pos hc, if_pos hc, if_pos hc, ← ho.verdict_ok c]
    by_cases hl : x.batch.contains c = true ∧ c ∈ l'
    · rw [if_pos hl, if_pos (hlanded.1 hl)]
    · rw [if_neg hl, if_neg (fun hr => hl (hlanded.2 hr))]
  · have hlanded : ¬ (x.batch.contains c = true ∧ c ∈ l') :=
      fun hl => hc ((ho.contains_batch c).1 hl.1)
    rw [if_neg hc, if_neg hlanded, if_neg hc, if_neg hc, Option.none_or]

/-- If nothing but the tip counts as landed, a submission without a mirror moves to the chosen tip
and gives each commit of the batch its verdict. -/
theorem verdicts_of_localOnly {w : σ} {branch : Branch} {landed : Landed} (hs : s.Steady w)
    (hi : (s.history w).Intact (tip.id :: pending.ids))
    (hok : (run s ⟨branch, .localOnly, []⟩ tip pending w).result = .ok landed) :
    landed.newTip = choice (s.history w) tip pending ∧ ∀ c ∈ pending.ids,
      landed.outcomes.get? c =
        some (verdict (s.history w) tip.id pending.ids landed.newTip.id c) := by
  obtain ⟨hnew, hget⟩ := verdicts_of_ok hs hi.above.toLegible hok
  refine ⟨hnew, fun c hc => ?_⟩
  rw [hget, if_pos hc, hnew]

/-- A commit is told that it landed exactly if the new tip has it. -/
theorem isSuccess_verdict_iff (h : History) (tip : TrackedCommit) (pending : PendingSet)
    (c : CommitId) :
    (verdict h tip.id pending.ids (choice h tip pending).id c).isSuccess = true ↔
      h.Reaches c (choice h tip pending).id := by
  by_cases htip : h.Reaches c tip.id
  · have hnew := htip.trans (reaches_choice h tip pending)
    simp [verdict, htip, hnew, Outcome.isSuccess]
  by_cases hnew : h.Reaches c (choice h tip pending).id
  · have hmerge := mergeable_of_reaches_choice hnew htip
    simp [verdict, htip, hnew, hmerge, Outcome.isSuccess]
  · by_cases hmerge : Mergeable h tip.id pending.ids c <;>
      by_cases hhead : Head h tip.id pending.ids c <;>
      simp [verdict, htip, hnew, hmerge, hhead, Outcome.isSuccess]

/-- Without a mirror a submission fails only where it meets a cycle above the tip. -/
theorem ok_of_intactAbove {w : σ} (hs : s.Steady w)
    (hi : (s.history w).IntactAbove tip.id pending.ids) (branch : Branch) :
    ∃ landed, (run s ⟨branch, .localOnly, []⟩ tip pending w).result = .ok landed := by
  obtain ⟨r, x, hopening, ho⟩ := opening_ok hs hi
  obtain ⟨result, y, hconclude⟩ : ∃ result y, x.conclude s ⟨branch, .localOnly, []⟩ tip.id r
      (choice (s.history w) tip pending) = (result, y) := ⟨_, _, rfl⟩
  have hresult : (run s ⟨branch, .localOnly, []⟩ tip pending w).result = result := by
    rw [run_of_opening hopening]
    simp only [Session.close, Session.bringIn, hconclude]
  rcases (Session.conclude_cases hconclude).2.2 with ⟨e, _, horder⟩ | ⟨_, _, _, _, _, hok⟩
  · have hworld : s.history (x.tell s (.phase .marking)).world = s.history w :=
      hs _ (ho.leads.trans (.notify _ .refl))
    obtain ⟨l, hl, _⟩ := range_ok (hi.of_mem (choice_id_mem (s.history w) tip pending))
    rw [hworld] at horder
    cases hl.symm.trans horder
  · exact ⟨_, hresult.trans hok⟩

/-- A batch that the tip has can be submitted, so that one that fails has a commit that the tip
lacks. -/
theorem exists_not_reaches_of_error {w : σ} {branch : Branch} {e : Error} (hs : s.Steady w)
    (hi : (s.history w).Legible (tip.id :: pending.ids))
    (he : (run s ⟨branch, .localOnly, []⟩ tip pending w).result = .error e) :
    ∃ c ∈ pending.ids, ¬ (s.history w).Reaches c tip.id := by
  by_contra hall
  simp only [not_exists, not_and, not_not] at hall
  have habove : (s.history w).IntactAbove tip.id pending.ids := by
    refine ⟨hi, ?_⟩
    rintro _ c ⟨id, hid, hc⟩ hvisible
    exact absurd (hc.trans (hall id hid)) hvisible
  obtain ⟨landed, hok⟩ := ok_of_intactAbove hs habove branch
  rw [he] at hok
  cases hok

/-- Without a mirror a submission on an intact history moves to the first head of the batch that is
above the tip. Every commit of the batch gets its verdict, no other commit gets one, and nothing is
left waiting. -/
theorem run_localOnly {w : σ} (hs : s.Steady w)
    (hi : (s.history w).Intact (tip.id :: pending.ids)) (branch : Branch) :
    ∃ landed, (run s ⟨branch, .localOnly, []⟩ tip pending w).result = .ok landed ∧
      landed.newTip = choice (s.history w) tip pending ∧
      (∀ c, landed.outcomes.get? c = if c ∈ pending.ids then
        some (verdict (s.history w) tip.id pending.ids landed.newTip.id c) else none) ∧
      (run s ⟨branch, .localOnly, []⟩ tip pending w).pending = {} := by
  obtain ⟨r, x, y, landed, ho, hbring, hok, hpending, _, hget⟩ :=
    run_ok ⟨branch, .localOnly, []⟩ hs hi rfl
  have hlocal : (choice (s.history w) tip pending, x) = (landed.newTip, y) := hbring
  obtain ⟨hnew, rfl⟩ := Prod.mk.inj hlocal
  refine ⟨landed, hok, hnew.symm, fun c => ?_, hpending⟩
  rw [hget, ho.outcomes, ← hnew]
  by_cases hc : c ∈ pending.ids
  · simp only [hc, if_true]
    exact ho.verdict_ok c
  · simp [hc]

theorem run_localOnly_crossing :
    ∃ landed, (run services ⟨main, .localOnly, []⟩ old batch world).result = .ok landed ∧
      landed.newTip = choice (services.history world) old batch ∧
      (∀ c, landed.outcomes.get? c = if c ∈ batch.ids then
        some (verdict (services.history world) base batch.ids landed.newTip.id c) else none) ∧
      (run services ⟨main, .localOnly, []⟩ old batch world).pending = {} :=
  run_localOnly calm.steady intact main

end Landing.Submission
