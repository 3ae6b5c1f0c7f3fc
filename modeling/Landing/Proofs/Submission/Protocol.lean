import Landing.Proofs.Submission.Course

/-! What the mirror is asked, whatever it does to the systems around a submission: for one commit of
the walk after the other, each on top of the one before, and for nothing after a call that
failed. -/
namespace Landing.Submission
open History
variable {σ : Type} {s : Services σ}

/-- A call of the mirror to take `c` on top of `current`. -/
structure Asks (current : CommitId) (c : TrackedCommit) (r : Mirror.Request) : Prop where
  oldRev : r.oldRev = current
  newRev : r.newRev = c.id
  valid : r.validate = .ok ()
  changeRef : ∃ p, c.patchSet = some p ∧ r.changeRef = p.refName

/-- Calls of the mirror, with their answers, for the first of the commits `ids`. Each is for a
commit of `batch`, on top of the one before, at first on top of `current`. All but the last
succeeded. -/
structure Orderly (batch : List TrackedCommit) (current : CommitId) (ids : List CommitId)
    (calls : List (Mirror.Request × Option Mirror.Result)) : Prop where
  followed : calls.map (·.1.newRev) <+: ids
  stacked : calls.map (·.1.oldRev) = (current :: calls.map (·.1.newRev)).dropLast
  taken : ∀ e ∈ calls.dropLast, ∃ a, e.2 = some a ∧ a.exitCode = 0
  valid : ∀ e ∈ calls, e.1.validate = .ok ()
  changeRef : ∀ e ∈ calls, ∃ c ∈ batch, c.id = e.1.newRev ∧
    ∃ p, c.patchSet = some p ∧ e.1.changeRef = p.refName

namespace Orderly
variable {batch : List TrackedCommit} {current id : CommitId} {ids : List CommitId}
  {calls : List (Mirror.Request × Option Mirror.Result)}

theorem nil (batch : List TrackedCommit) (current : CommitId) (ids : List CommitId) :
    Orderly batch current ids [] :=
  ⟨List.nil_prefix, rfl, by simp, by simp, by simp⟩

theorem cons {c : TrackedCommit} {r : Mirror.Request} {answer : Option Mirror.Result}
    (hc : c ∈ batch) (hr : Asks current c r)
    (hcalls : calls = [] ∨ ∃ a, answer = some a ∧ a.exitCode = 0)
    (ho : Orderly batch c.id ids calls) : Orderly batch current (c.id :: ids) ((r, answer) :: calls)
    where
  followed := by
    rw [List.map_cons, hr.newRev, List.prefix_cons_inj]
    exact ho.followed
  stacked := by
    simp only [List.map_cons, hr.newRev, hr.oldRev, ho.stacked, List.dropLast_cons_cons]
  taken e he := by
    cases calls with
    | nil => simp at he
    | cons e' calls =>
      rw [List.dropLast_cons_cons, List.mem_cons] at he
      rcases he with rfl | he
      · exact hcalls.resolve_left (by simp)
      · exact ho.taken e he
  valid := List.forall_mem_cons.2 ⟨hr.valid, ho.valid⟩
  changeRef := List.forall_mem_cons.2 ⟨⟨c, hc, hr.newRev.symm, hr.changeRef⟩, ho.changeRef⟩

end Orderly

namespace Session
variable {x y : Session σ} {tickets : TicketMatcher} {branch : Branch}

/-- A push calls the mirror at most once, and before it succeeds. -/
theorem push_asks {current : CommitId} {c : TrackedCommit} {p : Push}
    (he : x.push s tickets branch current c = (p, y)) :
    (∃ o, p = .refused o) ∧ y.pushes = x.pushes ∨
    ∃ r answer, y.pushes = x.pushes ++ [(r, answer)] ∧ Asks current c r ∧
      (p = .accepted → ∃ a, answer = some a ∧ a.exitCode = 0) := by
  rcases push_cases he with ⟨o, rfl, hq⟩ |
    ⟨r, answer, ⟨z, e, rfl, hpatch, _⟩, hvalid, _, hp, hpushes, _⟩
  · exact .inl ⟨⟨o, rfl⟩, hq.pushes⟩
  · refine .inr ⟨_, answer, hpushes, ⟨rfl, rfl, hvalid, _, hpatch, rfl⟩, fun haccepted => ?_⟩
    simpa [Option.any_eq_true, Mirror.Result.isSuccess] using hp.1 haccepted

theorem pushes_halt (s : Services σ) (x : Session σ) (rest range taken : List CommitId)
    (o : Outcome) : (x.halt s rest range taken o).pushes = x.pushes :=
  (quiet_halt s x rest range taken o).pushes

private theorem no_calls (hy : y.pushes = x.pushes) (batch : List TrackedCommit)
    (current : CommitId) (ids : List CommitId) :
    ∃ calls, y.pushes = x.pushes ++ calls ∧ Orderly batch current ids calls :=
  ⟨[], by rw [hy, List.append_nil], .nil batch current ids⟩

variable {batch : List TrackedCommit} {range taken ids : List CommitId}
  {current tip old new : TrackedCommit}

/-- By induction on the range: a push that is accepted is one call, and the others follow it. -/
theorem pushEach_orderly (hbatch : ∀ id c, x.batch.get? id = some c → c ∈ batch ∧ c.id = id)
    (he : pushEach s tickets branch range taken current x ids = (tip, y)) :
    ∃ calls, y.pushes = x.pushes ++ calls ∧ Orderly batch current.id ids calls := by
  induction ids generalizing taken current x with
  | nil =>
    cases he
    exact no_calls rfl ..
  | cons id ids ih =>
    rw [pushEach] at he
    split at he
    · cases he
      exact no_calls (pushes_halt ..) ..
    · split at he
      · cases he
        exact no_calls (pushes_halt ..) ..
      · rename_i c hc
        obtain ⟨hmem, rfl⟩ := hbatch id c hc
        split at he
        · rename_i z hpush
          have hz : z.batch = x.batch := (push_spec hpush).1.batch
          obtain ⟨calls, hcalls, horderly⟩ := ih (hz ▸ hbatch) he
          rcases push_asks hpush with ⟨⟨o, ho⟩, _⟩ | ⟨r, answer, hone, hr, htaken⟩
          · cases ho
          · refine ⟨(r, answer) :: calls, ?_, .cons hmem hr (.inr (htaken rfl)) horderly⟩
            rw [hcalls, hone, List.append_assoc, List.singleton_append]
        · rename_i o z hpush
          cases he
          have hhalt := pushes_halt s (z.finalize c.id o) ids range taken .dependencyBlocked
          rcases push_asks hpush with ⟨_, hnone⟩ | ⟨r, answer, hone, hr, _⟩
          · exact no_calls (hhalt.trans hnone) ..
          · exact ⟨[(r, answer)], hhalt.trans hone, .cons hmem hr (.inl rfl) (.nil ..)⟩

/-- The mirror is asked for nothing, or for the first commits of the walk between two tips. -/
theorem bringIn_orderly {plan : Plan} {r : Reduction}
    (hbatch : ∀ id c, x.batch.get? id = some c → c ∈ batch ∧ c.id = id)
    (he : x.bringIn s plan r old new = (tip, y)) :
    y.pushes = x.pushes ∨ ∃ ids calls,
      (s.history x.world).order [new.id] [old.id] .oldestFirst = .ok ids ∧
      y.pushes = x.pushes ++ calls ∧ Orderly batch old.id ids calls := by
  rcases bringIn_inv he with ⟨_, rfl, _⟩ | ⟨_, _, _, _, ⟨_, _, _, rfl⟩ | ⟨ids, horder, hpush⟩⟩
  · exact .inl rfl
  · exact .inl (pushes_halt ..)
  · obtain ⟨calls, hcalls, horderly⟩ := pushEach_orderly hbatch hpush
    exact .inr ⟨ids, calls, horder, hcalls, horderly⟩

end Session

/-- Once a tip is chosen, the mirror is asked for nothing, or for the walk to it. -/
theorem calls_of_opening {tip chosen : TrackedCommit} {pending : PendingSet} {w : σ}
    {r : Reduction} {x : Session σ} (ho : opening s tip pending w = .ok (r, chosen, x))
    (plan : Plan) : (run s plan tip pending w).session.pushes = [] ∨ ∃ ids,
      (s.history x.world).order [chosen.id] [tip.id] .oldestFirst = .ok ids ∧
      Orderly pending.commits tip.id ids (run s plan tip pending w).session.pushes := by
  obtain ⟨hbooks, _, hpushes, _⟩ := opening_books ho
  have hbatch : ∀ id c, x.batch.get? id = some c → c ∈ pending.commits ∧ c.id = id := by
    intro id c hc
    rw [hbooks] at hc
    exact (Session.start_batch pending w id c).1 hc
  obtain ⟨new, y, hbring⟩ : ∃ new y, x.bringIn s plan r tip chosen = (new, y) := ⟨_, _, rfl⟩
  rw [run_of_opening ho plan, Session.close_pushes, hbring]
  rcases Session.bringIn_orderly hbatch hbring with hnone | ⟨ids, calls, horder, hcalls, horderly⟩
  · exact .inl (hnone.trans hpushes)
  · rw [hpushes, List.nil_append] at hcalls
    rw [hcalls]
    exact .inr ⟨ids, horder, horderly⟩

/-- What the mirror is asked in a submission, whatever the mirror and all other systems do on the
way. If it is asked for anything at all, a tip was chosen and the walk to it was ordered when the
policy came to act. The calls are orderly for this walk, and no commit is asked for twice. -/
theorem run_orderly (s : Services σ) (plan : Plan) (tip : TrackedCommit) (pending : PendingSet)
    (w : σ) : (run s plan tip pending w).session.pushes = [] ∨ ∃ r chosen x ids,
      opening s tip pending w = .ok (r, chosen, x) ∧
      (s.history x.world).order [chosen.id] [tip.id] .oldestFirst = .ok ids ∧
      Orderly pending.commits tip.id ids (run s plan tip pending w).session.pushes ∧
      ((run s plan tip pending w).session.pushes.map (·.1.newRev)).Nodup := by
  cases ho : opening s tip pending w with
  | error e => exact .inl (run_of_opening_error ho plan).2
  | ok o =>
    obtain ⟨r, chosen, x⟩ := o
    refine (calls_of_opening ho plan).imp_right ?_
    rintro ⟨ids, horder, horderly⟩
    exact ⟨r, chosen, x, ids, rfl, horder, horderly,
      (nodup_of_order horder).sublist horderly.followed.sublist⟩

end Landing.Submission
