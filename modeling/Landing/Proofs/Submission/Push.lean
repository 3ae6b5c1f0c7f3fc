import Landing.Proofs.History.Ancestry
import Landing.Proofs.Submission.Frame

/-! Pushes to the mirror: what one push does, and how far a range of pushes gets. -/
namespace Landing.Submission.Session
variable {σ : Type} {s : Services σ} {x y : Session σ} {c : TrackedCommit}

/-- The commits that the mirror took, in the order of the pushes. -/
def mirrored (x : Session σ) : List CommitId :=
  x.pushes.filterMap fun e => if e.2.any (·.isSuccess) then some e.1.newRev else none

theorem mem_mirrored_iff {id : CommitId} : id ∈ x.mirrored ↔
    ∃ r a, (r, some a) ∈ x.pushes ∧ r.newRev = id ∧ a.exitCode = 0 := by
  simp only [mirrored, List.mem_filterMap, Option.ite_none_right_eq_some, Option.some.injEq,
    Prod.exists]
  constructor
  · rintro ⟨r, answer, hmem, hsuccess, hr⟩
    cases answer with
    | none => cases hsuccess
    | some a => exact ⟨r, a, hmem, hr, by simpa [Mirror.Result.isSuccess] using hsuccess⟩
  · rintro ⟨r, a, hmem, hr, ha⟩
    exact ⟨r, some a, hmem, by simp [Mirror.Result.isSuccess, ha], hr⟩

/-- A push that gets as far as the mirror is written down with the answer, and accepted if the
answer says so. -/
theorem invoke_spec {r : Mirror.Request} {answer : Option Mirror.Result}
    (he : x.invoke s r = (answer, y)) :
    (∃ w, answer = (s.mirror r w).1) ∧ y.pushes = x.pushes ++ [(r, answer)] ∧
      Quiet s { x with pushes := y.pushes } y := by
  cases he
  exact ⟨⟨_, rfl⟩, rfl, rfl, rfl, rfl, rfl, .notify _ (.mirror r (.notify _ .refl))⟩

theorem judge_accepted_iff {answer : Option Mirror.Result} {p : Push}
    (he : x.judge s c answer = (p, y)) : p = .accepted ↔ answer.any (·.isSuccess) = true := by
  rw [judge.eq_def] at he
  split at he
  · cases he
    simp
  · split at he <;> cases he <;> simp_all

/-- The books when a push looks up the messages of the change that it is for. -/
def reading (s : Services σ) (x : Session σ) (p : PatchSetId) : Session σ :=
  match x.approver s p with
  | (some (id, _), x) => (x.ask (s.account id)).2
  | (none, x) => x

/-- Whoever passes a commit on does so under the ticket that was found in the messages. -/
theorem errand_ok {tickets : TicketMatcher} {e : Errand}
    (he : x.errand s tickets c = (.ok e, y)) : c.patchSet = some e.patchSet ∧
      tickets.extract c.message
        ((x.reading s e.patchSet).messagesOf s e.patchSet.change).1 = some e.ticket := by
  rw [errand] at he
  split at he
  · cases he
  · rename_i p hpatch
    split at he
    · cases he
    · rename_i id _ x' happrover
      split at he
      · cases he
      · rename_i account x'' hask
        dsimp only at he
        split at he <;> cases he
        rename_i hticket
        have hreading : x.reading s p = x'' := by simp only [reading, happrover, hask]
        rw [hreading]
        exact ⟨hpatch, hticket⟩

/-- A push either comes to nothing before the mirror is asked, or asks it to take `c` on top of
`current`, for the patch set of `c` and under the ticket that was found. -/
theorem push_cases {tickets : TicketMatcher} {branch : Branch} {current : CommitId} {p : Push}
    (he : x.push s tickets branch current c = (p, y)) :
    (∃ o, p = .refused o ∧ Quiet s x y) ∨
    ∃ r answer, (∃ z e, r = request s branch z current c e ∧ c.patchSet = some e.patchSet ∧
        tickets.extract c.message
          ((x.reading s e.patchSet).messagesOf s e.patchSet.change).1 = some e.ticket) ∧
      r.validate = .ok () ∧ (∃ w, answer = (s.mirror r w).1) ∧
      (p = .accepted ↔ answer.any (·.isSuccess) = true) ∧
      y.pushes = x.pushes ++ [(r, answer)] ∧ Quiet s { x with pushes := y.pushes } y := by
  rw [push] at he
  split at he
  · rename_i o _ herrand
    cases he
    exact .inl ⟨o, rfl, quiet_errand herrand⟩
  · rename_i e x' herrand
    have hnote := (quiet_errand herrand).trans (quiet_note s x' c (announcement c.id e))
    dsimp only at he
    split at he
    · cases he
      exact .inl ⟨_, rfl, hnote.trans (quiet_note s _ c _)⟩
    · rename_i hvalid
      right
      generalize x'.note s c (announcement c.id e) = x'' at he hnote hvalid
      generalize hr : x''.request s branch current c e = r at he hvalid
      obtain ⟨answer, z, hinvoke⟩ : ∃ answer z, x''.invoke s r = (answer, z) := ⟨_, _, rfl⟩
      rw [hinvoke] at he
      obtain ⟨hanswer, hpushes, hz⟩ := invoke_spec hinvoke
      have hjudge := quiet_judge he
      have hy : y.pushes = x.pushes ++ [(r, answer)] := by
        rw [hjudge.pushes, hpushes, hnote.pushes]
      refine ⟨r, answer, ⟨x'', e, hr.symm, errand_ok herrand⟩, hvalid, hanswer,
        judge_accepted_iff he, hy, ?_⟩
      exact ⟨(hz.trans hjudge).batch.trans hnote.batch, (hz.trans hjudge).order.trans hnote.order,
        (hz.trans hjudge).outcomes.trans hnote.outcomes, rfl,
        hnote.leads.trans (hz.trans hjudge).leads⟩

theorem mirrored_of_quiet (hq : Quiet s x y) : y.mirrored = x.mirrored := by
  rw [mirrored, mirrored, hq.pushes]

/-- A push changes nothing in the books but the list of pushes, and there it shows whether the
mirror took the commit. -/
theorem push_spec {tickets : TicketMatcher} {branch : Branch} {current : CommitId} {p : Push}
    (he : x.push s tickets branch current c = (p, y)) :
    Quiet s { x with pushes := y.pushes } y ∧
      y.mirrored = x.mirrored ++ (if p = .accepted then [c.id] else []) := by
  rcases push_cases he with ⟨o, rfl, hq⟩ |
    ⟨r, answer, ⟨_, _, rfl, _⟩, _, _, hp, hpushes, hq⟩
  · refine ⟨⟨hq.batch, hq.order, hq.outcomes, rfl, hq.leads⟩, ?_⟩
    simpa using mirrored_of_quiet hq
  · refine ⟨hq, ?_⟩
    by_cases ha : answer.any (·.isSuccess) = true
    · simp [mirrored, hpushes, hp.2 ha, ha, request]
    · have hne : p ≠ .accepted := fun he => ha (hp.1 he)
      simp [mirrored, hpushes, hne, ha]

/-- Halting writes one outcome for the rest of a range. -/
theorem quiet_halt (s : Services σ) (x : Session σ) (rest range taken : List CommitId)
    (o : Outcome) :
    Quiet s (x.finalizeAll (x.unresolved rest range taken) o) (x.halt s rest range taken o) :=
  quiet_flush s _

theorem mirrored_halt (s : Services σ) (x : Session σ) (rest range taken : List CommitId)
    (o : Outcome) : (x.halt s rest range taken o).mirrored = x.mirrored := by
  have hsame := mirrored_of_quiet (quiet_halt s x rest range taken o)
  exact hsame

theorem get?_halt (s : Services σ) (x : Session σ) (rest range taken : List CommitId)
    (o : Outcome) (id : CommitId) : (x.halt s rest range taken o).outcomes.get? id =
      (x.outcomes.get? id).or
        (if id ∈ x.order ∧ (id ∈ rest ∨ id ∈ range) ∧ id ∉ taken then some o else none) := by
  rw [(quiet_halt s x rest range taken o).outcomes, finalizeAll, Outcome.Ledger.get?_finalizeAll]
  cases hid : x.outcomes.get? id with
  | some o' => rfl
  | none => simp [unresolved, Outcome.Ledger.isFinal, hid]

/-! Pushes of a range. -/

/-- The mirror takes commits one after the other, each on top of the one before. -/
inductive Passes (s : Services σ) (tickets : TicketMatcher) (branch : Branch) :
    TrackedCommit → Session σ → List CommitId → TrackedCommit → Session σ → Prop where
  | nil (current x) : Passes s tickets branch current x [] current x
  | cons {current c last x y z id ids} : (s.history x.world).Readable id →
      x.batch.get? id = some c → x.push s tickets branch current.id c = (.accepted, y) →
      Passes s tickets branch c y ids last z → Passes s tickets branch current x (id :: ids) last z

/-- How pushing ends in front of `rest`: nothing is left, or the next commit cannot be read, is none
of the batch or is refused. -/
inductive Ends (s : Services σ) (tickets : TicketMatcher) (branch : Branch)
    (range taken : List CommitId) (current : TrackedCommit) (x : Session σ) :
    List CommitId → Session σ → Prop where
  | passed : Ends s tickets branch range taken current x [] x
  | unread {id rest e} : (s.history x.world).read id = .error e →
      Ends s tickets branch range taken current x (id :: rest)
        (x.halt s rest range taken .internalError)
  | unknown {id rest} : x.batch.get? id = none →
      Ends s tickets branch range taken current x (id :: rest)
        (x.halt s rest range taken .internalError)
  | refused {id rest c o y} : x.batch.get? id = some c →
      x.push s tickets branch current.id c = (.refused o, y) →
      Ends s tickets branch range taken current x (id :: rest)
        ((y.finalize id o).halt s rest range taken .dependencyBlocked)

variable {z : Session σ} {tickets : TicketMatcher} {branch : Branch} {range taken : List CommitId}
  {current tip : TrackedCommit} {ids rest : List CommitId}

/-- Pushes that are accepted change nothing in the books but the list of pushes. -/
theorem Passes.quiet (hp : Passes s tickets branch current x ids tip y) :
    Quiet s { x with pushes := y.pushes } y := by
  induction hp with
  | nil => exact .refl s _
  | cons _ _ hpush _ ih =>
    have hq := (push_spec hpush).1
    exact ⟨ih.batch.trans hq.batch, ih.order.trans hq.order, ih.outcomes.trans hq.outcomes, rfl,
      hq.leads.trans ih.leads⟩

theorem Passes.mirrored (hbatch : ∀ id c, x.batch.get? id = some c → c.id = id)
    (hp : Passes s tickets branch current x ids tip y) : y.mirrored = x.mirrored ++ ids := by
  induction hp with
  | nil => simp
  | @cons _ c _ x y z id ids _ hc hpush _ ih =>
    have hq := push_spec hpush
    have hy : y.batch = x.batch := hq.1.batch
    rw [ih (hy ▸ hbatch), hq.2, hbatch id c hc]
    simp

theorem Passes.last_id (hbatch : ∀ id c, x.batch.get? id = some c → c.id = id)
    (hp : Passes s tickets branch current x ids tip y) :
    tip.id = ids.getLast?.getD current.id := by
  induction hp with
  | nil => rfl
  | @cons _ c _ x y z id ids _ hc hpush _ ih =>
    have hy : y.batch = x.batch := (push_spec hpush).1.batch
    rw [ih (hy ▸ hbatch), hbatch id c hc, List.getLast?_cons, Option.getD_some]

/-- Where pushes are accepted, the loop goes on with what follows. -/
theorem Passes.pushEach_append (hbatch : ∀ id c, x.batch.get? id = some c → c.id = id)
    (hp : Passes s tickets branch current x ids tip y) (rest : List CommitId) :
    pushEach s tickets branch range taken current x (ids ++ rest) =
      pushEach s tickets branch range (ids.reverse ++ taken) tip y rest := by
  induction hp generalizing taken with
  | nil => rfl
  | @cons _ c _ x y z id ids hread hc hpush _ ih =>
    obtain ⟨commit, hread⟩ := hread
    have hy : y.batch = x.batch := (push_spec hpush).1.batch
    rw [List.cons_append, pushEach]
    simp only [hread, hc, hpush]
    rw [ih (hy ▸ hbatch), hbatch id c hc, List.reverse_cons, List.append_assoc]
    rfl

/-- Halting leaves the batch alone. -/
theorem Ends.keeps (he : Ends s tickets branch range taken current x rest y) :
    y.batch = x.batch ∧ y.order = x.order ∧ y.mirrored = x.mirrored ∧ s.Leads x.world y.world := by
  have hhalt : ∀ (z : Session σ) (ids : List CommitId) (o : Outcome),
      z.batch = x.batch ∧ z.order = x.order ∧ z.mirrored = x.mirrored ∧
        s.Leads x.world z.world →
      (z.halt s ids range taken o).batch = x.batch ∧ (z.halt s ids range taken o).order = x.order ∧
        (z.halt s ids range taken o).mirrored = x.mirrored ∧
        s.Leads x.world (z.halt s ids range taken o).world := by
    rintro z ids o ⟨hbatch, horder, hmirrored, hleads⟩
    have hq := quiet_halt s z ids range taken o
    exact ⟨hq.batch.trans hbatch, hq.order.trans horder, (mirrored_halt ..).trans hmirrored,
      hleads.trans hq.leads⟩
  cases he with
  | passed => exact ⟨rfl, rfl, rfl, .refl⟩
  | unread _ => exact hhalt x _ _ ⟨rfl, rfl, rfl, .refl⟩
  | unknown _ => exact hhalt x _ _ ⟨rfl, rfl, rfl, .refl⟩
  | @refused id _ _ o z _ hpush =>
    have hz := push_spec hpush
    have hmirrored : z.mirrored = x.mirrored := by simpa using hz.2
    exact hhalt (z.finalize id o) _ _ ⟨hz.1.batch, hz.1.order, hmirrored, hz.1.leads⟩

theorem get?_refused {id : CommitId} {o : Outcome}
    (hpush : x.push s tickets branch current.id c = (.refused o, y)) (id' : CommitId) :
    ((y.finalize id o).halt s rest range taken .dependencyBlocked).outcomes.get? id' =
      (x.outcomes.get? id').or (if id' = id then some o
        else if id' ∈ x.order ∧ (id' ∈ rest ∨ id' ∈ range) ∧ id' ∉ taken then
          some .dependencyBlocked
        else none) := by
  have hy := (push_spec hpush).1
  have houtcomes : y.outcomes = x.outcomes := hy.outcomes
  have horder : y.order = x.order := hy.order
  rw [get?_halt, finalize, Outcome.Ledger.get?_finalize, houtcomes]
  dsimp only
  rw [horder]
  by_cases hid : id' = id
  · subst hid
    cases x.outcomes.get? id' <;> simp
  · simp only [if_neg hid]

/-- What has an outcome keeps it. Others get one only if they were to go over and did not. -/
theorem Ends.get?_eq (he : Ends s tickets branch range taken current x rest y) (id : CommitId) :
    ∃ o, y.outcomes.get? id = (x.outcomes.get? id).or o ∧
      (o ≠ none → id ∈ rest ∨ id ∈ range ∧ id ∉ taken) := by
  cases he with
  | passed => exact ⟨none, by simp, by simp⟩
  | unread _ => exact ⟨_, get?_halt .., by grind⟩
  | unknown _ => exact ⟨_, get?_halt .., by grind⟩
  | refused _ hpush => exact ⟨_, get?_refused hpush id, by grind⟩

/-- The mirror took `done` of a range and not `rest`. -/
def Passage (s : Services σ) (tickets : TicketMatcher) (branch : Branch)
    (range taken : List CommitId) (current : TrackedCommit) (x y : Session σ)
    (tip : TrackedCommit) (done rest : List CommitId) : Prop :=
  ∃ z, Passes s tickets branch current x done tip z ∧
    Ends s tickets branch range (done.reverse ++ taken) tip z rest y

namespace Passage
variable {done : List CommitId}

theorem keeps (h : Passage s tickets branch range taken current x y tip done rest) :
    y.batch = x.batch ∧ y.order = x.order ∧ s.Leads x.world y.world := by
  obtain ⟨z, hpasses, hends⟩ := h
  obtain ⟨hbatch, horder, _, hleads⟩ := hends.keeps
  have hz := hpasses.quiet
  exact ⟨hbatch.trans hz.batch, horder.trans hz.order, hz.leads.trans hleads⟩

theorem mirrored (hbatch : ∀ id c, x.batch.get? id = some c → c.id = id)
    (h : Passage s tickets branch range taken current x y tip done rest) :
    y.mirrored = x.mirrored ++ done := by
  obtain ⟨z, hpasses, hends⟩ := h
  rw [hends.keeps.2.2.1, hpasses.mirrored hbatch]

theorem tip_id (hbatch : ∀ id c, x.batch.get? id = some c → c.id = id)
    (h : Passage s tickets branch range taken current x y tip done rest) :
    tip.id = done.getLast?.getD current.id := by
  obtain ⟨z, hpasses, _⟩ := h
  exact hpasses.last_id hbatch

theorem get?_eq (h : Passage s tickets branch range taken current x y tip done rest)
    (id : CommitId) : ∃ o, y.outcomes.get? id = (x.outcomes.get? id).or o ∧
      (o ≠ none → id ∈ rest ∨ id ∈ range ∧ id ∉ done) := by
  obtain ⟨z, hpasses, hends⟩ := h
  have houtcomes : z.outcomes = x.outcomes := hpasses.quiet.outcomes
  obtain ⟨o, ho, hnone⟩ := hends.get?_eq id
  refine ⟨o, houtcomes ▸ ho, fun hne => (hnone hne).imp_right fun hid => ⟨hid.1, fun hmem => ?_⟩⟩
  exact hid.2 (List.mem_append_left _ (List.mem_reverse.2 hmem))

/-- What the mirror took gets no outcome from the rest. -/
theorem get?_of_mem (h : Passage s tickets branch range taken current x y tip done rest)
    (hnodup : (done ++ rest).Nodup) {id : CommitId} (hid : id ∈ done) :
    y.outcomes.get? id = x.outcomes.get? id := by
  have hrest : id ∉ rest := fun hmem => (List.nodup_append.1 hnodup).2.2 id hid id hmem rfl
  obtain ⟨o, ho, hnone⟩ := h.get?_eq id
  have ho' : o = none := by
    by_contra hne
    rcases hnone hne with hmem | ⟨_, hmem⟩
    · exact hrest hmem
    · exact hmem hid
  rw [ho, ho', Option.or_none]

end Passage

/-- A range goes over up to the first commit that fails. -/
theorem pushEach_passage {ids : List CommitId}
    (hbatch : ∀ id c, x.batch.get? id = some c → c.id = id)
    (he : pushEach s tickets branch range taken current x ids = (tip, y)) :
    ∃ done rest, ids = done ++ rest ∧
      Passage s tickets branch range taken current x y tip done rest := by
  induction ids generalizing taken current x with
  | nil =>
    cases he
    exact ⟨[], [], rfl, _, .nil _ _, .passed⟩
  | cons id ids ih =>
    rw [pushEach] at he
    split at he
    · rename_i hread
      cases he
      exact ⟨[], id :: ids, rfl, x, .nil _ _, .unread hread⟩
    · rename_i commit hread
      split at he
      · rename_i hnone
        cases he
        exact ⟨[], id :: ids, rfl, x, .nil _ _, .unknown hnone⟩
      · rename_i c hc
        obtain rfl := hbatch id c hc
        split at he
        · rename_i z hpush
          have hz : z.batch = x.batch := (push_spec hpush).1.batch
          obtain ⟨done, rest, rfl, y', hpasses, hends⟩ := ih (hz ▸ hbatch) he
          refine ⟨c.id :: done, rest, rfl, y', .cons ⟨commit, hread⟩ hc hpush hpasses, ?_⟩
          rw [List.reverse_cons, List.append_assoc]
          exact hends
        · rename_i o z hpush
          cases he
          exact ⟨[], c.id :: ids, rfl, _, .nil _ _, .refused hc hpush⟩

end Landing.Submission.Session
