import Landing.Proofs.Submission.Local

/-! A batch that is submitted once more, on the tip that it led to before. -/
namespace Landing.Submission
open History Reduction
open Rehearsal (services)
open Rehearsal.Crossing (base merge further old wider world main forked resting calm calm_resting
  forked_intact)
variable {σ : Type} {s : Services σ} {h : History} {tip : TrackedCommit} {pending : PendingSet}
  {c : CommitId}

/-- What a commit with this outcome is told when its batch is submitted once more. -/
def again : Outcome → Outcome
  | .cleanMerge | .alreadyMerged => .alreadyMerged
  | o => o

/-- All that the chosen tip brings in is of the batch, so nothing more can do without. -/
theorem complete_choice_iff :
    Complete h (choice h tip pending).id pending.ids c ↔ Complete h tip.id pending.ids c := by
  refine ⟨fun hc x hx => ?_, fun hc x hx =>
    (hc x hx).imp_left fun htip => htip.trans (reaches_choice h tip pending)⟩
  by_cases htip : h.Reaches x tip.id
  · exact .inl htip
  · exact .inr ((hc x hx).elim (fun hnew => (mergeable_of_reaches_choice hnew htip).1) id)

/-- A commit that the chosen tip leaves behind is as mergeable as before. -/
theorem mergeable_choice_iff (hnew : ¬ h.Reaches c (choice h tip pending).id) :
    Mergeable h (choice h tip pending).id pending.ids c ↔ Mergeable h tip.id pending.ids c := by
  have htip : ¬ h.Reaches c tip.id := fun htip => hnew (htip.trans (reaches_choice h tip pending))
  simp only [Mergeable, complete_choice_iff, hnew, htip]

theorem head_choice_iff (hnew : ¬ h.Reaches c (choice h tip pending).id) :
    Head h (choice h tip pending).id pending.ids c ↔ Head h tip.id pending.ids c := by
  have habove : ∀ d, h.Reaches c d →
      (Mergeable h (choice h tip pending).id pending.ids d ↔ Mergeable h tip.id pending.ids d) :=
    fun d hd => mergeable_choice_iff fun hback => hnew (hd.trans hback)
  rw [Head, Head, habove c (.refl c)]
  refine and_congr_right fun _ => forall_congr' fun d => ⟨fun hd hm hr => ?_, fun hd hm hr => ?_⟩
  · exact hd ((habove d hr).2 hm) hr
  · exact hd ((habove d hr).1 hm) hr

/-- The chosen tip is as far as the batch leads: a head above it would have been a head above the
old tip, and the chosen tip none. -/
theorem choice_choice : choice h (choice h tip pending) pending = choice h tip pending := by
  rcases choice_cases h (choice h tip pending) pending with he | ⟨_, hhead, hreach⟩
  · exact he
  · have hold := (head_choice_iff hhead.1.2.1).1 hhead
    have hchosen := head_of_above hold ((reaches_choice h tip pending).trans hreach)
    exact absurd (hchosen.2 _ hold.1 hreach ▸ .refl _) hhead.1.2.1

/-- What the new tip contains was merged already then. All else gets its old verdict. -/
theorem verdict_choice (c : CommitId) :
    verdict h (choice h tip pending).id pending.ids (choice h tip pending).id c =
      again (verdict h tip.id pending.ids (choice h tip pending).id c) := by
  by_cases hnew : h.Reaches c (choice h tip pending).id
  · by_cases htip : h.Reaches c tip.id
    · simp [verdict, again, hnew, htip]
    · simp [verdict, again, hnew, htip, mergeable_of_reaches_choice hnew htip]
  · have htip : ¬ h.Reaches c tip.id := fun htip => hnew (htip.trans (reaches_choice h tip pending))
    have hmerge := mergeable_choice_iff hnew
    have hhead := head_choice_iff hnew
    by_cases hm : Mergeable h tip.id pending.ids c
    · by_cases hh : Head h tip.id pending.ids c <;>
        simp [verdict, again, hnew, htip, hmerge.2 hm, hhead, hm, hh]
    · simp [verdict, again, hnew, htip, hmerge, hm]

/-- To submit a batch once more on the tip that it led to changes nothing. The branch stays where it
is, all that landed or had been merged counts as merged already, and each other commit of the batch
is told the same as before. -/
theorem run_again {w w' : σ} {branch : Branch} {landed : Landed} (hs : s.Steady w)
    (hi : (s.history w).Intact (tip.id :: pending.ids))
    (hok : (run s ⟨branch, .localOnly, []⟩ tip pending w).result = .ok landed)
    (hs' : s.Steady w') (hsame : s.history w' = s.history w) :
    ∃ next, (run s ⟨branch, .localOnly, []⟩ landed.newTip pending w').result = .ok next ∧
      next.newTip = landed.newTip ∧
      ∀ c ∈ pending.ids, ∃ o, landed.outcomes.get? c = some o ∧
        next.outcomes.get? c = some (again o) := by
  obtain ⟨hnew, hget⟩ := verdicts_of_localOnly hs hi hok
  have hi' : (s.history w').Intact (landed.newTip.id :: pending.ids) := by
    rw [hsame, hnew]
    exact hi.mono (List.cons_subset.2 ⟨choice_id_mem .., List.subset_cons_self ..⟩)
  obtain ⟨_, _, _, next, _, _, hok', _⟩ := run_ok ⟨branch, .localOnly, []⟩ hs' hi' rfl
  obtain ⟨hnew', hget'⟩ := verdicts_of_localOnly hs' hi' hok'
  have hstay : next.newTip = landed.newTip := by rw [hnew', hsame, hnew, choice_choice]
  refine ⟨next, hok', hstay, fun c hc => ⟨_, hget c hc, ?_⟩⟩
  rw [hget' c hc, hstay, hsame, hnew, verdict_choice]

/-- The branch moves from the tip to the merge. The commit beside the merge is turned away both
times. -/
theorem run_again_forked : ∃ landed next,
    (run services ⟨main, .localOnly, []⟩ old wider (resting world base)).result = .ok landed ∧
      (run services ⟨main, .localOnly, []⟩ landed.newTip wider (resting world merge)).result =
        .ok next ∧ next.newTip = landed.newTip ∧
      landed.outcomes.get? further = some .notFastForward ∧
      next.outcomes.get? further = some .notFastForward := by
  have hs : services.Steady (resting world base) := (calm_resting calm base).steady
  have hforked : ∀ id, services.history (resting world id) = forked.history :=
    fun id => forked.history_setRef main.name id
  have hi : (services.history (resting world base)).Intact (old.id :: wider.ids) :=
    hforked base ▸ forked_intact (by decide)
  obtain ⟨_, _, _, landed, _, _, hok, _⟩ := run_ok ⟨main, .localOnly, []⟩ hs hi rfl
  have hs' : services.Steady (resting world merge) := (calm_resting calm merge).steady
  obtain ⟨next, hnext, hstay, hall⟩ :=
    run_again hs hi hok hs' ((hforked merge).trans (hforked base).symm)
  obtain ⟨o, ho, hagain⟩ := hall further (by decide)
  have hfirst :
      (run services ⟨main, .localOnly, []⟩ old wider (resting world base)).result.toOption.bind
        (·.outcomes.get? further) = some .notFastForward := by decide
  rw [hok] at hfirst
  obtain rfl : o = .notFastForward := Option.some.inj (ho.symm.trans hfirst)
  exact ⟨landed, next, hok, hnext, hstay, ho, hagain⟩

end Landing.Submission
