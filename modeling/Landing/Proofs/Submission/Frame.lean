import Landing.Proofs.History.Agreement
import Landing.Submission.Run

/-! Calls to the systems around a submission, and the books that they leave as they are. -/
namespace Landing.Submission
variable {σ α : Type} {s : Services σ}

/-- Calls that are made while a submission is computed can take the systems from `v` to `w`. -/
inductive Services.Leads (s : Services σ) (v : σ) : σ → Prop where
  | refl : s.Leads v v
  | submitterOf {w} (p) : s.Leads v w → s.Leads v (s.submitterOf p w).2
  | account {w} (id) : s.Leads v w → s.Leads v (s.account id w).2
  | messages {w} (c) : s.Leads v w → s.Leads v (s.messages c w).2
  | insertMessage {w} (m) : s.Leads v w → s.Leads v (s.insertMessage m w).2
  | credentials {w} (id) : s.Leads v w → s.Leads v (s.credentials id w).2
  | stamp {w} : s.Leads v w → s.Leads v (s.stamp w).2
  | mirror {w} (r) : s.Leads v w → s.Leads v (s.mirror r w).2
  | notify {w} (e) : s.Leads v w → s.Leads v (s.notify e w)

theorem Services.Leads.trans {u v w : σ} (huv : s.Leads u v) (hvw : s.Leads v w) :
    s.Leads u w := by
  induction hvw with
  | refl => exact huv
  | submitterOf p _ ih => exact .submitterOf p ih
  | account id _ ih => exact .account id ih
  | messages c _ ih => exact .messages c ih
  | insertMessage m _ ih => exact .insertMessage m ih
  | credentials id _ ih => exact .credentials id ih
  | stamp _ ih => exact .stamp ih
  | mirror r _ ih => exact .mirror r ih
  | notify e _ ih => exact .notify e ih

/-- The history stays as it is while a submission is computed. -/
def Services.Steady (s : Services σ) (v : σ) : Prop :=
  ∀ w, s.Leads v w → s.history w = s.history v

/-- Approvals are as `f` has them while a submission is computed. -/
def Services.Approves (s : Services σ) (v : σ)
    (f : PatchSetId → Except Error (Option SubmitApproval)) : Prop :=
  ∀ p w, s.Leads v w → (s.submitterOf p w).1 = f p

theorem Services.Approves.of_leads {v w : σ}
    {f : PatchSetId → Except Error (Option SubmitApproval)} (hf : s.Approves v f)
    (hl : s.Leads v w) : s.Approves w f :=
  fun p w' hw' => hf p w' (hl.trans hw')

/-- `ref` shows where the branch called `name` is. It stays there while a submission is computed,
and can be moved from there. -/
structure Services.Holds (s : Services σ) (name : String) (ref : σ → Option CommitId) (v : σ) :
    Prop where
  kept : ∀ w, s.Leads v w → ref w = ref v
  moved : ∀ w old new, s.Leads v w → ref w = some old →
    (s.moveRef name (some old) new w).1 = .ok .updated ∧
      ref (s.moveRef name (some old) new w).2 = some new

/-- While a submission is computed, objects of `h` can be lost and others added, but none
changes. -/
def Services.Agrees (s : Services σ) (v : σ) (h : History) : Prop :=
  ∀ w, s.Leads v w → h.Agree (s.history w)

/-- Writes a message without an author for a patch set, under a fresh key. -/
def Services.write (s : Services σ) (p : PatchSetId) (body : String) (w : σ) :
    Except Error Unit × σ :=
  s.insertMessage ⟨⟨p.change, (s.stamp w).1.1⟩, none, some p, (s.stamp w).1.2, body⟩ (s.stamp w).2

theorem Services.leads_write (s : Services σ) (p : PatchSetId) (body : String) (w : σ) :
    s.Leads w (s.write p body w).2 :=
  .insertMessage _ (.stamp .refl)

namespace Session

/-- A note is written, and told if that went well. -/
theorem note_eq (s : Services σ) (x : Session σ) (c : TrackedCommit) (body : String) :
    x.note s c body = match c.patchSet with
      | none => x
      | some p =>
        match x.ask (s.write p body) with
        | (.error _, y) => y
        | (.ok (), y) => y.tell s (.message c.id body) := by
  rw [note]
  cases c.patchSet with
  | none => rfl
  | some p =>
    dsimp only [ask, Services.write]
    split <;> rename_i hwritten <;> rw [hwritten]

/-- From `x` to `y` only calls were made, and what they told was written down. -/
structure Quiet (s : Services σ) (x y : Session σ) : Prop where
  batch : y.batch = x.batch
  order : y.order = x.order
  outcomes : y.outcomes = x.outcomes
  pushes : y.pushes = x.pushes
  leads : s.Leads x.world y.world

namespace Quiet
variable {x y z : Session σ}

theorem refl (s : Services σ) (x : Session σ) : Quiet s x x := ⟨rfl, rfl, rfl, rfl, .refl⟩

theorem trans (hxy : Quiet s x y) (hyz : Quiet s y z) : Quiet s x z where
  batch := hyz.batch.trans hxy.batch
  order := hyz.order.trans hxy.order
  outcomes := hyz.outcomes.trans hxy.outcomes
  pushes := hyz.pushes.trans hxy.pushes
  leads := hxy.leads.trans hyz.leads

theorem ask {a : α} {query : σ → α × σ} (he : x.ask query = (a, y))
    (hq : s.Leads x.world (query x.world).2) : Quiet s x y := by
  cases he
  exact ⟨rfl, rfl, rfl, rfl, hq⟩

theorem tell (s : Services σ) (x : Session σ) (e : Event) : Quiet s x (x.tell s e) :=
  ⟨rfl, rfl, rfl, rfl, .notify e .refl⟩

end Quiet

theorem quiet_note (s : Services σ) (x : Session σ) (c : TrackedCommit) (body : String) :
    Quiet s x (x.note s c body) := by
  rw [note_eq]
  split
  · exact .refl s x
  · rename_i p _
    split <;> rename_i hask
    · exact .ask hask (s.leads_write p body _)
    · exact (Quiet.ask hask (s.leads_write p body _)).trans (.tell s _ _)

theorem quiet_report (s : Services σ) (x : Session σ) (e : CommitId × Outcome) :
    Quiet s x (x.report s e) := by
  rw [report]
  split
  · exact (Quiet.tell s x _).trans (quiet_note s _ _ _)
  · exact .tell s x _

theorem quiet_flush (s : Services σ) (x : Session σ) : Quiet s x (x.flush s) := by
  rw [flush]
  have hstart : Quiet s x { x with reported := x.outcomes.size } := ⟨rfl, rfl, rfl, rfl, .refl⟩
  generalize { x with reported := x.outcomes.size } = y at hstart
  induction x.outcomes.entries.drop x.reported generalizing y with
  | nil => exact hstart
  | cons e rest ih => exact ih _ (hstart.trans (quiet_report s y e))

variable {x y : Session σ} {c : TrackedCommit}

/-- What four lookups leave as it is, an errand leaves as it is. -/
theorem errand_keeps {P : Session σ → Prop} (hx : P x)
    (hsubmitter : ∀ p x, P x → P (x.ask (s.submitterOf p)).2)
    (hcredentials : ∀ id x, P x → P (x.ask (s.credentials id)).2)
    (haccount : ∀ id x, P x → P (x.ask (s.account id)).2)
    (hmessages : ∀ id x, P x → P (x.ask (s.messages id)).2)
    (tickets : TicketMatcher) (c : TrackedCommit) : P (x.errand s tickets c).2 := by
  have happrover : ∀ p, P (x.approver s p).2 := by
    intro p
    have hfirst := hsubmitter p x hx
    rw [approver]
    split
    · rename_i approval _ hask
      rw [hask] at hfirst
      have hnext := hcredentials approval.account _ hfirst
      split <;> rename_i hask' <;> rw [hask'] at hnext <;> exact hnext
    · rename_i hask
      rw [hask] at hfirst
      exact hfirst
  have hread : ∀ id x, P x → P (x.messagesOf s id).2 := by
    intro id x hx
    have hnext := hmessages id x hx
    rw [messagesOf]
    split <;> rename_i hask <;> rw [hask] at hnext <;> exact hnext
  rw [errand]
  split
  · exact hx
  · rename_i p _
    have hfound := happrover p
    split
    · rename_i hask
      rw [hask] at hfound
      exact hfound
    · rename_i id _ _ hask
      rw [hask] at hfound
      have hnext := haccount id _ hfound
      split <;> rename_i hask' <;> rw [hask'] at hnext
      · exact hnext
      · dsimp only
        split <;> exact hread p.change _ hnext

theorem quiet_errand {tickets : TicketMatcher} {e : Except Outcome Errand}
    (he : x.errand s tickets c = (e, y)) : Quiet s x y := by
  have hkeeps := errand_keeps (P := Quiet s x) (s := s) (.refl s x)
    (fun p _ h => h.trans (.ask rfl (.submitterOf p .refl)))
    (fun id _ h => h.trans (.ask rfl (.credentials id .refl)))
    (fun id _ h => h.trans (.ask rfl (.account id .refl)))
    (fun id _ h => h.trans (.ask rfl (.messages id .refl))) tickets c
  rw [he] at hkeeps
  exact hkeeps

theorem quiet_judge {answer : Option Mirror.Result} {p : Push}
    (he : x.judge s c answer = (p, y)) : Quiet s x y := by
  rw [judge.eq_def] at he
  split at he
  · cases he
    exact quiet_note s x c _
  · split at he
    · dsimp only at he
      cases he
      split
      · exact .refl s x
      · exact quiet_note s x c _
    · cases he
      exact quiet_note s x c _

end Session

end Landing.Submission
