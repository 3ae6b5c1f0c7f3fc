import Landing.Proofs.Submission.Course

/-! Wherever a range can end: a mirror that takes a whole range may as well refuse one of its
commits, and what came before goes as it went. -/
namespace Landing.Submission
open History Reduction
variable {σ : Type} {s : Services σ} {refused : CommitId → Bool}

/-- The same systems with a mirror that refuses some commits, and a branch that can be moved. -/
def Services.halting (s : Services σ) (refused : CommitId → Bool) : Services σ :=
  s.answering (fun r w => if refused r.newRev then (some ⟨1, ""⟩, w) else s.mirror r w)
    (fun _ _ _ w => (.ok .updated, w))

theorem Services.Leads.of_halting {v w : σ} (hl : (s.halting refused).Leads v w) :
    s.Leads v w := by
  induction hl with
  | refl => exact .refl
  | submitterOf p _ ih => exact .submitterOf p ih
  | account id _ ih => exact .account id ih
  | messages c _ ih => exact .messages c ih
  | insertMessage m _ ih => exact .insertMessage m ih
  | credentials id _ ih => exact .credentials id ih
  | stamp _ ih => exact .stamp ih
  | @mirror w r _ ih =>
    simp only [halting, answering]
    split
    · exact ih
    · exact .mirror r ih
  | notify e _ ih => exact .notify e ih

theorem Services.Steady.halting {w : σ} (hs : s.Steady w) (refused : CommitId → Bool) :
    (s.halting refused).Steady w :=
  fun w' hw' => hs w' hw'.of_halting

namespace Session
variable {x y : Session σ} {c current tip : TrackedCommit} {tickets : TicketMatcher}
  {branch : Branch} {range taken done rest : List CommitId}

private theorem invoke_halting {r : Mirror.Request} (hr : refused r.newRev = false) :
    x.invoke (s.halting refused) r = x.invoke s r := by
  simp only [invoke, ask, tell, Services.halting, Services.answering, hr]
  rfl

/-- A commit that is not refused is pushed as before. -/
theorem push_halting (hc : refused c.id = false) (current : CommitId) :
    x.push (s.halting refused) tickets branch current c = x.push s tickets branch current c := by
  have herrand : x.errand (s.halting refused) tickets c = x.errand s tickets c := rfl
  rw [push, push, herrand]
  split
  · rfl
  · rename_i e x' _
    have hnote : x'.note (s.halting refused) c (announcement c.id e) =
        x'.note s c (announcement c.id e) := rfl
    dsimp only
    rw [hnote]
    generalize x'.note s c (announcement c.id e) = z
    have hrequest : z.request (s.halting refused) branch current c e =
        z.request s branch current c e := rfl
    rw [hrequest]
    split
    · rfl
    · rw [invoke_halting hc]
      rfl

/-- A refused commit is not accepted. -/
theorem push_refused (hc : refused c.id = true) {p : Push} {current : CommitId}
    (he : x.push (s.halting refused) tickets branch current c = (p, y)) : p ≠ .accepted := by
  rintro rfl
  rcases push_cases he with ⟨_, hp, _⟩ | ⟨r, answer, ⟨_, _, rfl, _⟩, _, ⟨w, rfl⟩, hp, _⟩
  · cases hp
  · have hanswer := hp.1 rfl
    simp [Services.halting, Services.answering, request, hc, Mirror.Result.isSuccess] at hanswer

/-- Where the first commit is refused, the mirror takes none. -/
private theorem mirrored_of_refused (hbatch : ∀ id c, x.batch.get? id = some c → c.id = id)
    {id : CommitId} {ids : List CommitId} (hid : refused id = true)
    (he : pushEach (s.halting refused) tickets branch range taken current x (id :: ids) =
      (tip, y)) : y.mirrored = x.mirrored := by
  rw [pushEach] at he
  split at he
  · cases he
    exact mirrored_halt ..
  · split at he
    · cases he
      exact mirrored_halt ..
    · rename_i c hc
      split at he <;> rename_i hpush
      · exact absurd rfl (push_refused (hbatch id c hc ▸ hid) hpush)
      · cases he
        rename_i _ z
        have hsame : z.mirrored = x.mirrored := by simpa using (push_spec hpush).2
        rw [mirrored_halt]
        exact hsame

/-- A range that the mirror takes as a whole goes over up to the first commit that is refused. -/
theorem pushEach_halting (hbatch : ∀ id c, x.batch.get? id = some c → c.id = id)
    (hnodup : (done ++ rest).Nodup)
    (he : pushEach s tickets branch range taken current x (done ++ rest) = (tip, y))
    (hfull : y.mirrored = x.mirrored ++ (done ++ rest)) :
    (pushEach (s.halting rest.contains) tickets branch range taken current x
      (done ++ rest)).2.mirrored = x.mirrored ++ done := by
  induction done generalizing taken current x with
  | nil =>
    rw [List.append_nil, List.nil_append]
    cases rest with
    | nil => rfl
    | cons id rest => exact mirrored_of_refused hbatch (by simp) rfl
  | cons id done ih =>
    rw [List.cons_append, List.nodup_cons] at hnodup
    rw [List.cons_append] at he hfull ⊢
    rw [pushEach] at he
    have hshort : y.mirrored ≠ x.mirrored := fun hsame => by simp [hsame] at hfull
    split at he
    · cases he
      exact absurd (mirrored_halt ..) hshort
    · rename_i hread
      split at he
      · cases he
        exact absurd (mirrored_halt ..) hshort
      · rename_i c hc
        obtain rfl := hbatch id c hc
        split at he <;> rename_i hpush
        · rename_i z
          have hkept : rest.contains c.id = false := by
            simpa using fun hmem => hnodup.1 (List.mem_append_right done hmem)
          have hz := push_spec hpush
          have hbatch' : z.batch = x.batch := hz.1.batch
          have hmirrored : z.mirrored = x.mirrored ++ [c.id] := by simpa using hz.2
          have hrest := ih (hbatch' ▸ hbatch) hnodup.2 he (by simp [hfull, hmirrored])
          have hread' : ((s.halting rest.contains).history x.world).read c.id = .ok _ := hread
          have hpush' := (push_halting hkept current.id).trans hpush
          simp only [pushEach, hread', hc, hpush']
          rw [hrest, hmirrored, List.append_assoc, List.singleton_append]
        · cases he
          rename_i o z
          have hsame : (z.finalize c.id o).mirrored = x.mirrored := by
            have hz : z.mirrored = x.mirrored := by simpa using (push_spec hpush).2
            exact hz
          exact absurd ((mirrored_halt ..).trans hsame) hshort

end Session

variable {w : σ} {plan : Plan} {tip : TrackedCommit} {pending : PendingSet}
  {tickets : TicketMatcher} {done rest : List CommitId}

private theorem mirrored_halting (hs : s.Steady w)
    (hi : (s.history w).Intact (tip.id :: pending.ids)) (hp : plan.policy = .mirrored tickets)
    (hb : Branch.isMirrored plan.branch.name = true)
    (hne : (choice (s.history w) tip pending).id ≠ tip.id)
    (hl : (s.history w).order [(choice (s.history w) tip pending).id] [tip.id] .oldestFirst =
      .ok (done ++ rest))
    (hfull : (run s plan tip pending w).session.mirrored = done ++ rest) :
    (run (s.halting rest.contains) plan tip pending w).session.mirrored = done := by
  obtain ⟨r, x, ho, hrun, hanswering⟩ := run_opened hs hi plan
  have hrun' : run (s.halting rest.contains) plan tip pending w =
      x.close (s.halting rest.contains) plan tip (choice (s.history w) tip pending) r :=
    hanswering _ _
  have hnodup : (done ++ rest).Nodup := by
    obtain ⟨l, horder, hstacked, _⟩ := range_ok (intact_choice hi)
    rw [hl] at horder
    cases horder
    exact List.nodup_reverse.1 hstacked.nodup
  have hworld : (s.history x.world).order [(choice (s.history w) tip pending).id] [tip.id]
      .oldestFirst = .ok (done ++ rest) := by
    rw [hs x.world ho.leads]
    exact hl
  rw [hrun, Session.close_mirrored, Session.bringIn_eq hp hb hne hworld] at hfull
  rw [hrun', Session.close_mirrored,
    Session.bringIn_eq (s := s.halting rest.contains) hp hb hne hworld]
  have hhalt := Session.pushEach_halting ho.batch_id hnodup rfl
    (by rw [ho.mirrored, hfull, List.nil_append])
  rw [hhalt, ho.mirrored, List.nil_append]

/-- Where the mirror took the chosen commit, it took the whole range. -/
theorem mirrored_all (hs : s.Steady w) (hi : (s.history w).Intact (tip.id :: pending.ids))
    (ha : plan.accepted = [])
    (hall : (choice (s.history w) tip pending).id ∈ (run s plan tip pending w).session.mirrored) :
    ∃ tickets, plan.policy = .mirrored tickets ∧ Branch.isMirrored plan.branch.name = true ∧
      (choice (s.history w) tip pending).id ≠ tip.id ∧
      (s.history w).order [(choice (s.history w) tip pending).id] [tip.id] .oldestFirst =
        .ok (run s plan tip pending w).session.mirrored := by
  obtain ⟨_, _, _, landed, _, _, hok, _⟩ := run_ok plan hs hi ha
  rcases run_cases hs hi hok with ⟨_, hnone, _⟩ | ⟨tickets, done, rest, hp, hb, hne, hf, hdone⟩
  · rw [hnone] at hall
    simp at hall
  · rw [hdone] at hall ⊢
    obtain rfl := hf.rest_eq_nil hall
    have horder := hf.order
    rw [List.append_nil] at horder
    exact ⟨tickets, hp, hb, hne, horder⟩

theorem mem_mirrored_iff_of_all (hs : s.Steady w)
    (hi : (s.history w).Intact (tip.id :: pending.ids)) (ha : plan.accepted = [])
    (hall : (choice (s.history w) tip pending).id ∈ (run s plan tip pending w).session.mirrored)
    (c : CommitId) : c ∈ (run s plan tip pending w).session.mirrored ↔
      (s.history w).Reaches c (choice (s.history w) tip pending).id ∧
        ¬ (s.history w).Reaches c tip.id := by
  obtain ⟨_, _, _, _, hl⟩ := mirrored_all hs hi ha hall
  obtain ⟨l, horder, _, hmem⟩ := range_ok (intact_choice hi)
  rw [Except.ok.inj (hl.symm.trans horder)]
  exact hmem c

/-- A mirror that can take the chosen commit can stop anywhere on the way, and the branch goes to
the last commit that it took. -/
theorem run_halting (hs : s.Steady w) (hi : (s.history w).Intact (tip.id :: pending.ids))
    (ha : plan.accepted = [])
    (hall : (choice (s.history w) tip pending).id ∈ (run s plan tip pending w).session.mirrored)
    (hl : (s.history w).order [(choice (s.history w) tip pending).id] [tip.id] .oldestFirst =
      .ok (done ++ rest)) :
    ∃ landed, (run (s.halting rest.contains) plan tip pending w).result = .ok landed ∧
      (run (s.halting rest.contains) plan tip pending w).session.mirrored = done ∧
      Followed (s.history w) tip.id (choice (s.history w) tip pending).id landed.newTip.id
        done rest := by
  obtain ⟨tickets, hp, hb, hne, hfull⟩ := mirrored_all hs hi ha hall
  have hs' := hs.halting rest.contains
  obtain ⟨_, _, _, landed, _, _, hok, _⟩ := run_ok plan hs' hi ha
  have hmirrored := mirrored_halting hs hi hp hb hne hl (Except.ok.inj (hfull.symm.trans hl))
  refine ⟨landed, hok, hmirrored, ?_⟩
  rcases run_cases hs' hi hok with ⟨_, _, hskip⟩ | ⟨_, done', rest', _, _, _, hf, hdone⟩
  · have hcase := hskip tickets hp
    rw [hb] at hcase
    exact absurd (hcase.resolve_right (by simp)) hne
  · rw [hmirrored] at hdone
    subst hdone
    have horder := hf.order.symm.trans hl
    rw [← List.append_cancel_left (Except.ok.inj horder)]
    exact hf

end Landing.Submission
