import Landing.Proofs.Rehearsal
import Landing.Proofs.Submission.Protocol

/-! The pushes that a submission attempts, and the tickets under which commits go to the mirror. -/
namespace Landing.Submission
open Rehearsal (services World)
open Rehearsal.Crossing (above old batch world main digit)
variable {σ : Type} {s : Services σ}

/-- An attempt to push `commit` on top of `last`, with the books as they are when it begins. -/
structure Attempt (σ : Type) where
  commit : TrackedCommit
  last : TrackedCommit
  books : Session σ

namespace Session
variable {x y : Session σ} {c tip chosen newTip : TrackedCommit} {tickets : TicketMatcher}
  {branch : Branch} {plan : Plan}

/-- The pushes that are attempted while the commits of a list are taken over. -/
def attemptEach (s : Services σ) (tickets : TicketMatcher) (branch : Branch) :
    (current : TrackedCommit) → Session σ → List CommitId → List (Attempt σ)
  | _, _, [] => []
  | current, x, id :: rest =>
    match (s.history x.world).read id, x.batch.get? id with
    | .ok _, some c =>
      ⟨c, current, x⟩ ::
        match x.push s tickets branch current.id c with
        | (.accepted, x) => attemptEach s tickets branch c x rest
        | (.refused _, _) => []
    | _, _ => []

/-- The pushes that are attempted between two tips. -/
def attemptRange (s : Services σ) (tickets : TicketMatcher) (branch : Branch) (x : Session σ)
    (old new : TrackedCommit) : List (Attempt σ) :=
  if new.id = old.id || !Branch.isMirrored branch.name then []
  else match (s.history x.world).order [new.id] [old.id] .oldestFirst with
    | .error _ => []
    | .ok ids => attemptEach s tickets branch old x ids

/-- The pushes that are attempted while the chosen tip comes in. -/
def attempted (s : Services σ) (plan : Plan) (x : Session σ) (tip chosen : TrackedCommit) :
    List (Attempt σ) :=
  match plan.policy with
  | .localOnly => []
  | .mirrored tickets => x.attemptRange s tickets plan.branch tip chosen

variable {range taken ids : List CommitId} {current : TrackedCommit}
  {call : Mirror.Request × Option Mirror.Result}

/-- Attempts are made for the first commits of the list, before any outcome is recorded. -/
theorem attemptEach_spec (s : Services σ) (tickets : TicketMatcher) (branch : Branch)
    (current : TrackedCommit) (ids : List CommitId)
    (hbatch : ∀ id c, x.batch.get? id = some c → c.id = id) :
    (attemptEach s tickets branch current x ids).map (·.commit.id) <+: ids ∧
      ∀ a ∈ attemptEach s tickets branch current x ids, a.books.outcomes = x.outcomes := by
  induction ids generalizing current x with
  | nil => exact ⟨List.nil_prefix, by simp [attemptEach]⟩
  | cons id ids ih =>
    rw [attemptEach]
    split
    · rename_i c _ hc
      obtain rfl := hbatch id c hc
      rw [List.map_cons, List.prefix_cons_inj, List.forall_mem_cons]
      split
      · rename_i y hpush
        obtain ⟨hquiet, _⟩ := push_spec hpush
        obtain ⟨hinitial, houtcomes⟩ := ih c (hquiet.batch ▸ hbatch)
        exact ⟨hinitial, rfl, fun a ha => (houtcomes a ha).trans hquiet.outcomes⟩
      · exact ⟨List.nil_prefix, rfl, by simp⟩
    · exact ⟨List.nil_prefix, by simp⟩

/-- While commits are taken over, every call of the mirror is made by an attempt. -/
theorem pushEach_calls (he : pushEach s tickets branch range taken current x ids = (tip, y))
    (hcall : call ∈ y.pushes) : call ∈ x.pushes ∨
      ∃ a ∈ attemptEach s tickets branch current x ids,
        (a.books.push s tickets branch a.last.id a.commit).2.pushes = a.books.pushes ++ [call] := by
  induction ids generalizing taken current x with
  | nil =>
    cases he
    exact .inl hcall
  | cons id ids ih =>
    rw [pushEach] at he
    rw [attemptEach]
    split at he
    · cases he
      rw [pushes_halt] at hcall
      exact .inl hcall
    · rename_i commit hread
      split at he
      · cases he
        rw [pushes_halt] at hcall
        exact .inl hcall
      · rename_i c hc
        simp only [hread, hc, List.mem_cons, exists_eq_or_imp]
        -- what this push adds, if the call is not one of a later attempt
        have hpush : ∀ {p z}, x.push s tickets branch current.id c = (p, z) →
            call ∈ z.pushes → call ∈ x.pushes ∨
              (x.push s tickets branch current.id c).2.pushes = x.pushes ++ [call] := by
          intro p z hz hmem
          rcases push_cases hz with ⟨_, _, hquiet⟩ | ⟨r, a, _, _, _, _, hone, _⟩
          · exact .inl (hquiet.pushes ▸ hmem)
          · rw [hz]
            rw [hone, List.mem_append, List.mem_singleton] at hmem
            rcases hmem with hmem | rfl
            · exact .inl hmem
            · exact .inr hone
        split at he
        · rename_i z hz
          rw [hz]
          rcases ih he with hmem | hlater
          · exact (hpush hz hmem).imp_right fun h => .inl (hz ▸ h)
          · exact .inr (.inr hlater)
        · rename_i o z hz
          cases he
          rw [pushes_halt] at hcall
          exact (hpush hz hcall).imp_right .inl

theorem attempted_eq (hpolicy : plan.policy = .mirrored tickets)
    (hsync : Branch.isMirrored plan.branch.name = true) (hne : chosen.id ≠ tip.id)
    (horder : (s.history x.world).order [chosen.id] [tip.id] .oldestFirst = .ok ids) :
    x.attempted s plan tip chosen = attemptEach s tickets plan.branch tip x ids := by
  simp only [attempted, hpolicy, attemptRange, hne, hsync, horder]
  rfl

/-- Every call that is made while the chosen tip comes in is made by an attempt. -/
theorem bringIn_calls {r : Reduction} (hpolicy : plan.policy = .mirrored tickets)
    (he : x.bringIn s plan r tip chosen = (newTip, y)) (hcall : call ∈ y.pushes) :
    call ∈ x.pushes ∨ ∃ a ∈ x.attempted s plan tip chosen,
      (a.books.push s tickets plan.branch a.last.id a.commit).2.pushes =
        a.books.pushes ++ [call] := by
  rcases bringIn_inv he with ⟨_, rfl, _⟩ | ⟨tickets', hpolicy', hsync, hne, hwalk⟩
  · exact .inl hcall
  · obtain rfl : tickets = tickets' := by
      rw [hpolicy] at hpolicy'
      exact Policy.mirrored.inj hpolicy'
    rcases hwalk with ⟨_, _, _, rfl⟩ | ⟨ids, horder, hpush⟩
    · rw [pushes_halt] at hcall
      exact .inl hcall
    · rw [attempted_eq hpolicy hsync hne horder]
      exact pushEach_calls hpush hcall

end Session

/-- The pushes that a submission attempts, in their order. -/
def attempts (s : Services σ) (plan : Plan) (tip : TrackedCommit) (pending : PendingSet) (w : σ) :
    List (Attempt σ) :=
  match opening s tip pending w with
  | .error _ => []
  | .ok (_, chosen, x) => x.attempted s plan tip chosen

theorem batch_id_start (pending : PendingSet) (w : σ) (id : CommitId) (c : TrackedCommit)
    (hc : (Session.start pending w).batch.get? id = some c) : c.id = id :=
  ((Session.start_batch pending w id c).1 hc).2

/-- An attempt is one of the walk that was ordered when the policy came to act. -/
theorem attempts_cases (s : Services σ) (plan : Plan) (tip : TrackedCommit) (pending : PendingSet)
    (w : σ) : attempts s plan tip pending w = [] ∨ ∃ r chosen x ids,
      opening s tip pending w = .ok (r, chosen, x) ∧
      (s.history x.world).order [chosen.id] [tip.id] .oldestFirst = .ok ids ∧
      (attempts s plan tip pending w).map (·.commit.id) <+: ids ∧
      ∀ a ∈ attempts s plan tip pending w, a.books.outcomes = x.outcomes := by
  rw [attempts]
  split
  · exact .inl rfl
  · rename_i r chosen x ho
    rw [Session.attempted]
    split
    · exact .inl rfl
    · rename_i tickets _
      rw [Session.attemptRange]
      split
      · exact .inl rfl
      · split
        · exact .inl rfl
        · rename_i ids horder
          obtain ⟨hinitial, houtcomes⟩ := Session.attemptEach_spec s tickets plan.branch tip
            ids ((opening_books ho).1 ▸ batch_id_start pending w)
          exact .inr ⟨r, chosen, x, ids, ho, horder, hinitial, houtcomes⟩

/-- Attempts leave the outcomes as the first half recorded them. -/
theorem attempts_books {plan : Plan} {tip chosen : TrackedCommit} {pending : PendingSet} {w : σ}
    {r : Reduction} {x : Session σ} (ho : opening s tip pending w = .ok (r, chosen, x))
    {a : Attempt σ} (hmem : a ∈ attempts s plan tip pending w) : a.books.outcomes = x.outcomes := by
  rcases attempts_cases s plan tip pending w with hnone | ⟨_, _, x', _, ho', _, _, houtcomes⟩
  · rw [hnone] at hmem
    cases hmem
  · obtain ⟨rfl, rfl, rfl⟩ : r = _ ∧ chosen = _ ∧ x = x' := by simpa [ho] using ho'
    exact houtcomes a hmem

/-- What can be read of the messages of a change are all that `recorded` has. -/
def Services.Records (s : Services σ) (recorded : ChangeId → σ → List ChangeMessage) : Prop :=
  ∀ c v messages, (s.messages c v).1 = .ok messages → messages = recorded c v

variable {tip : TrackedCommit} {pending : PendingSet} {w : σ} {branch : Branch}
  {tickets : TicketMatcher} {accepted : List CommitId}

/-- Every call of the mirror is made by an attempt. -/
theorem calls_of_attempts {call : Mirror.Request × Option Mirror.Result}
    (hcall : call ∈ (run s ⟨branch, .mirrored tickets, accepted⟩ tip pending w).session.pushes) :
    ∃ a ∈ attempts s ⟨branch, .mirrored tickets, accepted⟩ tip pending w,
      (a.books.push s tickets branch a.last.id a.commit).2.pushes = a.books.pushes ++ [call] := by
  cases ho : opening s tip pending w with
  | error e =>
    rw [(run_of_opening_error ho _).2] at hcall
    cases hcall
  | ok o =>
    obtain ⟨r, chosen, x⟩ := o
    obtain ⟨newTip, y, hbring⟩ : ∃ newTip y,
        x.bringIn s ⟨branch, .mirrored tickets, accepted⟩ r tip chosen = (newTip, y) := ⟨_, _, rfl⟩
    rw [run_of_opening ho, Session.close_pushes, hbring] at hcall
    have hnone : call ∉ x.pushes := by simp [(opening_books ho).2.2.1]
    rw [attempts, ho]
    exact (Session.bringIn_calls rfl hbring hcall).resolve_left hnone

/-- The ticket that is found counts as current if the messages could be read, or make no
difference. If they cannot be read, it is that of the commit message. -/
theorem found_current_iff {recorded : ChangeId → σ → List ChangeMessage} (hr : s.Records recorded)
    {x : Session σ} {change : ChangeId} {message ticket : String}
    (hfound : tickets.extract message (x.messagesOf s change).1 = some ticket) :
    (some ticket = tickets.extract message (recorded change x.world) ↔
      (∃ messages, (s.messages change x.world).1 = .ok messages) ∨
        tickets.find message = tickets.extract message (recorded change x.world)) ∧
    ((∀ messages, (s.messages change x.world).1 ≠ .ok messages) →
      some ticket = tickets.find message) := by
  rw [Session.messagesOf] at hfound
  cases hread : (s.messages change x.world).1 with
  | ok messages =>
    obtain rfl := hr _ _ _ hread
    simp only [Session.ask, hread] at hfound
    simp [hfound]
  | error e =>
    simp only [Session.ask, hread] at hfound
    have hown : tickets.find message = some ticket := by
      simpa [TicketMatcher.extract, Ticket.extract, Ticket.authored] using hfound
    simp [hown]

/-- When the mirror is given the current ticket. The ticket of a call is the one that the commit
message and all messages of the change give at the time of the push, exactly if the messages could
be read then, or make no difference. If they could not be read, the commit goes out under the ticket
of its own message. -/
theorem ticket_current_iff {recorded : ChangeId → σ → List ChangeMessage}
    (hr : s.Records recorded) {r : Mirror.Request} {answer : Option Mirror.Result}
    (hcall : (r, answer) ∈
      (run s ⟨branch, .mirrored tickets, accepted⟩ tip pending w).session.pushes) :
    ∃ a ∈ attempts s ⟨branch, .mirrored tickets, accepted⟩ tip pending w, ∃ p,
      a.commit.patchSet = some p ∧ r.newRev = a.commit.id ∧
      (some r.ticket = tickets.extract a.commit.message
          (recorded p.change (a.books.reading s p).world) ↔
        (∃ messages, (s.messages p.change (a.books.reading s p).world).1 = .ok messages) ∨
          tickets.find a.commit.message = tickets.extract a.commit.message
            (recorded p.change (a.books.reading s p).world)) ∧
      ((∀ messages, (s.messages p.change (a.books.reading s p).world).1 ≠ .ok messages) →
        some r.ticket = tickets.find a.commit.message) := by
  obtain ⟨a, hmem, hpush⟩ := calls_of_attempts hcall
  refine ⟨a, hmem, ?_⟩
  obtain ⟨answered, y, hy⟩ : ∃ answered y,
      a.books.push s tickets branch a.last.id a.commit = (answered, y) := ⟨_, _, rfl⟩
  rw [hy] at hpush
  rcases Session.push_cases hy with ⟨_, _, hquiet⟩ |
    ⟨_, _, ⟨z, e, rfl, hpatch, hfound⟩, _, _, _, hone, _⟩
  · rw [hquiet.pushes] at hpush
    simp at hpush
  · rw [hone] at hpush
    have hsame := List.append_cancel_left hpush
    obtain ⟨rfl, rfl⟩ := Prod.mk.inj (List.singleton_inj.1 hsame)
    exact ⟨e.patchSet, hpatch, rfl, found_current_iff hr hfound⟩

/-- The messages of the first change cannot be read, and one of them has another ticket. -/
def overridden : World :=
  { world with
    store := world.store.addMessage ⟨⟨⟨1⟩, "later"⟩, some ⟨7⟩, none, ⟨1, 0⟩, "TICKET: 9"⟩
    faults := { messages := [⟨1⟩] } }

theorem records_trail : services.Records fun c v => v.store.trail c := by
  intro c v messages hread
  simp only [services, World.messages] at hread
  split at hread
  · cases hread
  · exact (Except.ok.inj hread).symm

/-- The later ticket stands in the messages, and the commit goes out under the earlier one. -/
theorem ticket_current_iff_overridden : ∃ r answer,
    (r, answer) ∈ (run services ⟨main, .mirrored digit, []⟩ old batch overridden).session.pushes ∧
      r.ticket = "1" ∧
      ∃ a ∈ attempts services ⟨main, .mirrored digit, []⟩ old batch overridden, ∃ p,
        a.commit.patchSet = some p ∧ r.newRev = a.commit.id ∧
        digit.extract a.commit.message ((a.books.reading services p).world.store.trail p.change) =
          some "9" := by
  have hcall : ∃ call ∈
      (run services ⟨main, .mirrored digit, []⟩ old batch overridden).session.pushes,
      call.1.newRev = above ∧ call.1.ticket = "1" := by decide +kernel
  have hattempt : ∀ a ∈ attempts services ⟨main, .mirrored digit, []⟩ old batch overridden,
      a.commit.id = above → a.commit.patchSet = some ⟨⟨1⟩, 1⟩ ∧
        digit.extract a.commit.message
          ((a.books.reading services ⟨⟨1⟩, 1⟩).world.store.trail ⟨1⟩) = some "9" := by
    decide +kernel
  obtain ⟨⟨r, answer⟩, hmem, hnew, hticket⟩ := hcall
  obtain ⟨a, ha, p, hpatch, hid, _⟩ := ticket_current_iff records_trail hmem
  obtain ⟨hfirst, hlater⟩ := hattempt a ha (hid.symm.trans hnew)
  obtain rfl := Option.some.inj (hfirst.symm.trans hpatch)
  exact ⟨r, answer, hmem, hticket, a, ha, _, hpatch, hid, hlater⟩

end Landing.Submission
