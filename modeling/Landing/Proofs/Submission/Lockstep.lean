import Landing.Proofs.Submission.Frame
import Mathlib.Data.List.Forall2

/-! Two submissions side by side. As long as the systems around them answer alike they go the same
way: what they decide, tell and ask is the same but for keys in the requests, and messages without
an author make no difference. -/
namespace Landing

/-- Credentials that differ at most in the key, and there only within `K`. -/
structure ExternalCredentials.Alike (K : String → String → Prop) (a b : ExternalCredentials) :
    Prop where
  account : a.account = b.account
  user : a.user = b.user
  key : K a.privateKey b.privateKey

/-- Requests that differ at most in the secret, and there only within `K`. -/
structure Mirror.Request.Alike (K : String → String → Prop) (a b : Mirror.Request) : Prop where
  same : { a with externalSecret := b.externalSecret } = b
  secret : K a.externalSecret b.externalSecret

/-- Where no keys are told apart from each other but by being equal, requests are equal. -/
theorem Mirror.Request.Alike.eq {a b : Mirror.Request} (h : a.Alike Eq b) : a = b := by
  rw [← h.same, ← h.secret]

/-- A fault is none of the secret, which is only looked at for being blank. -/
theorem Mirror.Request.Alike.validate_eq {K : String → String → Prop}
    (hK : ∀ a b, K a b → Text.isBlankText a = Text.isBlankText b) {a b : Mirror.Request}
    (h : a.Alike K b) : a.validate = b.validate := by
  obtain ⟨hsame, hsecret⟩ := h
  have hblank := hK _ _ hsecret
  generalize b.externalSecret = secret at hsame hblank
  subst hsame
  simp only [validate, fault?, required, revisions, List.find?_cons, hblank]
  cases Text.isBlankText a.project <;> cases Text.isBlankText a.branch <;>
    cases Text.isBlankText a.changeRef <;> cases Text.isBlankText a.ticket <;>
    cases Text.isBlankText a.externalUser <;> cases Text.isBlankText secret <;> rfl

namespace Submission

/-- Messages that differ at most in those without an author. -/
def SameAuthored (a b : List ChangeMessage) : Prop :=
  a.filter (·.author.isSome) = b.filter (·.author.isSome)

/-- Only messages with an author are searched for tickets. -/
theorem SameAuthored.extract_eq {a b : List ChangeMessage} (h : SameAuthored a b)
    (tickets : TicketMatcher) (message : String) :
    tickets.extract message a = tickets.extract message b := by
  rw [TicketMatcher.extract, TicketMatcher.extract, Ticket.extract, Ticket.extract,
    Ticket.authored, Ticket.authored, h]

/-- Answers that are both faults, or both good and related. -/
inductive Answers {α : Type} (P : α → α → Prop) : Except Error α → Except Error α → Prop where
  | ok {a b} : P a b → Answers P (.ok a) (.ok b)
  | error (e e') : Answers P (.error e) (.error e')

theorem Answers.refl {α : Type} {P : α → α → Prop} (hP : ∀ a, P a a) (a : Except Error α) :
    Answers P a a := by
  cases a with
  | ok a => exact .ok (hP a)
  | error e => exact .error e e

/-- In states that are related, two systems around a submission answer alike: messages without an
author may differ, and so may the keys of credentials, within `K`. What they do keeps the states
related. -/
structure Services.Alongside {σ τ : Type} (s : Services σ) (s' : Services τ)
    (K : String → String → Prop) (R : σ → τ → Prop) : Prop where
  history {v w} : R v w → s.history v = s'.history w
  location {v w} : R v w → s.location v = s'.location w
  submitterOf (p) {v w} : R v w → (s.submitterOf p v).1 = (s'.submitterOf p w).1 ∧
    R (s.submitterOf p v).2 (s'.submitterOf p w).2
  account (id) {v w} : R v w →
    (s.account id v).1 = (s'.account id w).1 ∧ R (s.account id v).2 (s'.account id w).2
  messages (c) {v w} : R v w → Answers SameAuthored (s.messages c v).1 (s'.messages c w).1 ∧
    R (s.messages c v).2 (s'.messages c w).2
  write (p body) {v w} : R v w → (s.write p body v).1 = (s'.write p body w).1 ∧
    R (s.write p body v).2 (s'.write p body w).2
  credentials (id) {v w} : R v w →
    Answers (Option.Rel (ExternalCredentials.Alike K)) (s.credentials id v).1
      (s'.credentials id w).1 ∧ R (s.credentials id v).2 (s'.credentials id w).2
  mirror {r r'} : r.Alike K r' → ∀ {v w}, R v w →
    (s.mirror r v).1 = (s'.mirror r' w).1 ∧ R (s.mirror r v).2 (s'.mirror r' w).2
  notify (e) {v w} : R v w → R (s.notify e v) (s'.notify e w)

/-- The systems answer alike in states that are related. -/
abbrev Services.Alike {σ : Type} (s : Services σ) (K : String → String → Prop)
    (R : σ → σ → Prop) : Prop := s.Alongside s K R

namespace Session
variable {σ τ α : Type} {s : Services σ} {s' : Services τ} {K : String → String → Prop}
  {R : σ → τ → Prop}

/-- Books that differ at most in the secrets of the pushes, over states that are related. -/
structure Alike (K : String → String → Prop) (R : σ → τ → Prop) (x : Session σ)
    (y : Session τ) : Prop where
  batch : x.batch = y.batch
  order : x.order = y.order
  outcomes : x.outcomes = y.outcomes
  reported : x.reported = y.reported
  journal : x.journal = y.journal
  pushes : List.Forall₂ (fun e f => e.1.Alike K f.1 ∧ e.2 = f.2) x.pushes y.pushes
  world : R x.world y.world

namespace Alike
variable {x : Session σ} {y : Session τ}

/-- What is asked in both gets answers that are related, and leaves the books alike. -/
theorem ask {P : α → α → Prop} {query : σ → α × σ} {query' : τ → α × τ} (h : Alike K R x y)
    (hq : P (query x.world).1 (query' y.world).1 ∧ R (query x.world).2 (query' y.world).2) :
    ∃ a b x' y', x.ask query = (a, x') ∧ y.ask query' = (b, y') ∧ P a b ∧ Alike K R x' y' :=
  ⟨_, _, _, _, rfl, rfl, hq.1, { h with world := hq.2 }⟩

theorem tell (hs : s.Alongside s' K R) (h : Alike K R x y) (e : Event) :
    Alike K R (x.tell s e) (y.tell s' e) :=
  { h with journal := congrArg (· ++ [e]) h.journal, world := hs.notify e h.world }

theorem with_outcomes (h : Alike K R x y) (l : Outcome.Ledger) :
    Alike K R { x with outcomes := l } { y with outcomes := l } :=
  { h with outcomes := rfl }

theorem finalizeAll (h : Alike K R x y) (ids : List CommitId) (o : Outcome) :
    Alike K R (x.finalizeAll ids o) (y.finalizeAll ids o) :=
  { h with outcomes := congrArg (·.finalizeAll ids o) h.outcomes }

theorem finalize (h : Alike K R x y) (id : CommitId) (o : Outcome) :
    Alike K R (x.finalize id o) (y.finalize id o) :=
  { h with outcomes := congrArg (·.finalize id o) h.outcomes }

theorem note (hs : s.Alongside s' K R) (h : Alike K R x y) (c : TrackedCommit) (body : String) :
    Alike K R (x.note s c body) (y.note s' c body) := by
  rw [note_eq, note_eq]
  split
  · exact h
  · rename_i p _
    obtain ⟨written, _, x₁, y₁, hx, hy, rfl, h₁⟩ := h.ask (hs.write p body h.world)
    rw [hx, hy]
    cases written with
    | error _ => exact h₁
    | ok _ => exact h₁.tell hs _

theorem report (hs : s.Alongside s' K R) (h : Alike K R x y) (e : CommitId × Outcome) :
    Alike K R (x.report s e) (y.report s' e) := by
  have htold := h.tell hs (.outcome e.1 e.2)
  rw [Session.report, Session.report, htold.batch]
  split
  · exact htold.note hs _ _
  · exact htold

theorem flush (hs : s.Alongside s' K R) (h : Alike K R x y) :
    Alike K R (x.flush s) (y.flush s') := by
  have hfold : ∀ (entries : List (CommitId × Outcome)) {x : Session σ} {y : Session τ},
      Alike K R x y → Alike K R (entries.foldl (Session.report s) x)
        (entries.foldl (Session.report s') y) := by
    intro entries
    induction entries with
    | nil => exact id
    | cons e rest ih => exact fun h => ih (h.report hs e)
  rw [Session.flush, Session.flush, ← h.outcomes, ← h.reported]
  exact hfold _ { h with outcomes := rfl, reported := rfl }

/-! Pushes. -/

theorem approver (hs : s.Alongside s' K R) (h : Alike K R x y) (p : PatchSetId) :
    ∃ a b x' y', x.approver s p = (a, x') ∧ y.approver s' p = (b, y') ∧
      Option.Rel (fun a b => a.1 = b.1 ∧ a.2.Alike K b.2) a b ∧ Alike K R x' y' := by
  obtain ⟨found, _, x₁, y₁, hx, hy, rfl, h₁⟩ := h.ask (hs.submitterOf p h.world)
  rw [Session.approver, Session.approver, hx, hy]
  rcases found with e | _ | approval
  · exact ⟨_, _, _, _, rfl, rfl, .none, h₁⟩
  · exact ⟨_, _, _, _, rfl, rfl, .none, h₁⟩
  · obtain ⟨a, b, x₂, y₂, hx, hy, hab, h₂⟩ := h₁.ask (hs.credentials approval.account h₁.world)
    dsimp only
    rw [hx, hy]
    cases hab with
    | error _ _ => exact ⟨_, _, _, _, rfl, rfl, .none, h₂⟩
    | ok hab =>
      cases hab with
      | none => exact ⟨_, _, _, _, rfl, rfl, .none, h₂⟩
      | some hab => exact ⟨_, _, _, _, rfl, rfl, .some ⟨rfl, hab⟩, h₂⟩

theorem messagesOf (hs : s.Alongside s' K R) (h : Alike K R x y) (c : ChangeId) :
    ∃ a b x' y', x.messagesOf s c = (a, x') ∧ y.messagesOf s' c = (b, y') ∧ SameAuthored a b ∧
      Alike K R x' y' := by
  obtain ⟨a, b, x₁, y₁, hx, hy, hab, h₁⟩ := h.ask (hs.messages c h.world)
  rw [Session.messagesOf, Session.messagesOf, hx, hy]
  cases hab with
  | ok hab => exact ⟨_, _, _, _, rfl, rfl, hab, h₁⟩
  | error _ _ => exact ⟨_, _, _, _, rfl, rfl, rfl, h₁⟩

end Alike

end Session

/-- Errands that differ at most in the key of the credentials. -/
structure Errand.Alike (K : String → String → Prop) (a b : Errand) : Prop where
  patchSet : a.patchSet = b.patchSet
  credentials : a.credentials.Alike K b.credentials
  account : a.account = b.account
  ticket : a.ticket = b.ticket

/-- Both refused for the same reason, or both with an errand. -/
inductive SameErrand (K : String → String → Prop) :
    Except Outcome Errand → Except Outcome Errand → Prop where
  | ok {a b} : a.Alike K b → SameErrand K (.ok a) (.ok b)
  | error (o) : SameErrand K (.error o) (.error o)

namespace Session.Alike
variable {σ τ : Type} {s : Services σ} {s' : Services τ} {K : String → String → Prop}
  {R : σ → τ → Prop} {x : Session σ} {y : Session τ}

theorem errand (hs : s.Alongside s' K R) (h : Alike K R x y) (tickets : TicketMatcher)
    (c : TrackedCommit) : ∃ a b x' y', x.errand s tickets c = (a, x') ∧
      y.errand s' tickets c = (b, y') ∧ SameErrand K a b ∧ Alike K R x' y' := by
  rw [Session.errand, Session.errand]
  cases c.patchSet with
  | none => exact ⟨_, _, _, _, rfl, rfl, .error _, h⟩
  | some p =>
    obtain ⟨a, b, x₁, y₁, hx, hy, hab, h₁⟩ := h.approver hs p
    dsimp only
    rw [hx, hy]
    cases hab with
    | none => exact ⟨_, _, _, _, rfl, rfl, .error _, h₁⟩
    | @some a b hab =>
      obtain ⟨id, credentials⟩ := a
      obtain ⟨id', credentials'⟩ := b
      obtain ⟨rfl, hcredentials⟩ := hab
      obtain ⟨account, _, x₂, y₂, hx, hy, rfl, h₂⟩ := h₁.ask (hs.account id h₁.world)
      dsimp only
      rw [hx, hy]
      cases account with
      | error _ => exact ⟨_, _, _, _, rfl, rfl, .error _, h₂⟩
      | ok account =>
        obtain ⟨_, _, x₃, y₃, hx, hy, hmessages, h₃⟩ := h₂.messagesOf hs p.change
        dsimp only
        rw [hx, hy, hmessages.extract_eq]
        cases tickets.extract c.message _ with
        | none => exact ⟨_, _, _, _, rfl, rfl, .error _, h₃⟩
        | some ticket =>
          exact ⟨_, _, _, _, rfl, rfl, .ok ⟨rfl, hcredentials, rfl, rfl⟩, h₃⟩

theorem request (hs : s.Alongside s' K R) (h : Alike K R x y) {a b : Errand} (hab : a.Alike K b)
    (branch : Branch) (current : CommitId) (c : TrackedCommit) :
    (x.request s branch current c a).Alike K (y.request s' branch current c b) where
  same := by
    simp only [Session.request, hs.location h.world, hab.patchSet, hab.ticket, hab.account,
      hab.credentials.user]
  secret := hab.credentials.key

theorem invoke (hs : s.Alongside s' K R) (h : Alike K R x y) {r r' : Mirror.Request}
    (hr : r.Alike K r') : ∃ a x' y', x.invoke s r = (a, x') ∧ y.invoke s' r' = (a, y') ∧
      Alike K R x' y' := by
  have hnew : r.newRev = r'.newRev := by rw [← hr.same]
  have hticket : r.ticket = r'.ticket := by rw [← hr.same]
  have hstart := h.tell hs (.hookStarted r.newRev r.ticket)
  obtain ⟨answer, _, x₁, y₁, hx, hy, rfl, h₁⟩ := hstart.ask (hs.mirror hr hstart.world)
  rw [Session.invoke, Session.invoke, ← hnew, ← hticket]
  dsimp only
  rw [hx, hy]
  refine ⟨_, _, _, rfl, rfl, .tell hs ?_ _⟩
  exact { h₁ with pushes := List.rel_append h₁.pushes (.cons ⟨hr, rfl⟩ .nil) }

theorem judge (hs : s.Alongside s' K R) (h : Alike K R x y) (c : TrackedCommit)
    (answer : Option Mirror.Result) : ∃ p x' y', x.judge s c answer = (p, x') ∧
      y.judge s' c answer = (p, y') ∧ Alike K R x' y' := by
  rw [Session.judge.eq_def, Session.judge.eq_def]
  cases answer with
  | none => exact ⟨_, _, _, rfl, rfl, h.note hs _ _⟩
  | some r =>
    dsimp only
    split
    · refine ⟨_, _, _, rfl, rfl, ?_⟩
      split
      · exact h
      · exact h.note hs _ _
    · exact ⟨_, _, _, rfl, rfl, h.note hs _ _⟩

/-- Requests are looked through for faults, so blank keys must only be related to blank ones. -/
theorem push (hs : s.Alongside s' K R)
    (hK : ∀ a b, K a b → Text.isBlankText a = Text.isBlankText b) (h : Alike K R x y)
    (tickets : TicketMatcher) (branch : Branch) (current : CommitId) (c : TrackedCommit) :
    ∃ p x' y', x.push s tickets branch current c = (p, x') ∧
      y.push s' tickets branch current c = (p, y') ∧ Alike K R x' y' := by
  obtain ⟨a, b, x₁, y₁, hx, hy, hab, h₁⟩ := h.errand hs tickets c
  rw [Session.push, Session.push, hx, hy]
  cases hab with
  | error o => exact ⟨_, _, _, rfl, rfl, h₁⟩
  | @ok a b hab =>
    have hsame : announcement c.id a = announcement c.id b := by
      unfold announcement
      rw [hab.ticket, hab.credentials.user]
    have h₂ := h₁.note hs c (announcement c.id a)
    dsimp only
    rw [← hsame]
    generalize x₁.note s c (announcement c.id a) = x₂ at h₂
    generalize y₁.note s' c (announcement c.id a) = y₂ at h₂
    have hrequest := h₂.request hs hab branch current c
    rw [← hrequest.validate_eq hK]
    cases (x₂.request s branch current c a).validate with
    | error fault =>
      exact ⟨_, _, _, rfl, rfl, h₂.note hs c (notAskedMessage ++ "\n" ++ fault.message)⟩
    | ok _ =>
      obtain ⟨answer, x₃, y₃, hx, hy, h₃⟩ := h₂.invoke hs hrequest
      dsimp only
      rw [hx, hy]
      exact h₃.judge hs c answer

theorem halt (hs : s.Alongside s' K R) (h : Alike K R x y) (rest range taken : List CommitId)
    (o : Outcome) : Alike K R (x.halt s rest range taken o) (y.halt s' rest range taken o) := by
  have hsame : x.unresolved rest range taken = y.unresolved rest range taken := by
    rw [unresolved, unresolved, h.order, h.outcomes]
  rw [Session.halt, Session.halt, hsame]
  exact (h.finalizeAll _ o).flush hs

/-- By induction on the range: the same commits can be read, and their pushes go the same way. -/
theorem pushEach (hs : s.Alongside s' K R)
    (hK : ∀ a b, K a b → Text.isBlankText a = Text.isBlankText b) (tickets : TicketMatcher)
    (branch : Branch) (range : List CommitId) {taken ids : List CommitId}
    {current : TrackedCommit} (h : Alike K R x y) :
    ∃ tip x' y', pushEach s tickets branch range taken current x ids = (tip, x') ∧
      Session.pushEach s' tickets branch range taken current y ids = (tip, y') ∧
      Alike K R x' y' := by
  induction ids generalizing taken current x y with
  | nil => exact ⟨_, _, _, rfl, rfl, h⟩
  | cons id rest ih =>
    rw [Session.pushEach, Session.pushEach, ← hs.history h.world, ← h.batch]
    cases (s.history x.world).read id with
    | error e => exact ⟨_, _, _, rfl, rfl, h.halt hs _ _ _ _⟩
    | ok commit =>
      cases x.batch.get? id with
      | none => exact ⟨_, _, _, rfl, rfl, h.halt hs _ _ _ _⟩
      | some c =>
        obtain ⟨p, x₁, y₁, hx, hy, h₁⟩ := h.push hs hK tickets branch current.id c
        dsimp only
        rw [hx, hy]
        cases p with
        | accepted => exact ih h₁
        | refused o => exact ⟨_, _, _, rfl, rfl, (h₁.finalize c.id o).halt hs _ _ _ _⟩

theorem bringIn (hs : s.Alongside s' K R)
    (hK : ∀ a b, K a b → Text.isBlankText a = Text.isBlankText b) (h : Alike K R x y)
    (plan : Plan) (r : Reduction) (tip chosen : TrackedCommit) :
    ∃ new x' y', x.bringIn s plan r tip chosen = (new, x') ∧
      y.bringIn s' plan r tip chosen = (new, y') ∧ Alike K R x' y' := by
  rw [Session.bringIn, Session.bringIn]
  cases plan.policy with
  | localOnly => exact ⟨_, _, _, rfl, rfl, h⟩
  | mirrored tickets =>
    have hrange : x.range r chosen.id = y.range r chosen.id := by
      rw [Session.range, Session.range, h.order]
    dsimp only
    rw [mirrorRange, mirrorRange, ← hs.history h.world, hrange]
    split
    · exact ⟨_, _, _, rfl, rfl, h⟩
    · dsimp only
      cases (s.history x.world).order [chosen.id] [tip.id] .oldestFirst with
      | error e => exact ⟨_, _, _, rfl, rfl, h.halt hs _ _ _ _⟩
      | ok ids => exact h.pushEach hs hK tickets _ _

/-! The end of a submission. -/

theorem markEach (hs : s.Alongside s' K R) (h : Alike K R x y) (approval : Option SubmitApproval)
    (landed : List CommitId) : ∃ a x' y', markEach s approval x landed = (a, x') ∧
      Session.markEach s' approval y landed = (a, y') ∧ Alike K R x' y' := by
  induction landed generalizing approval x y with
  | nil => exact ⟨_, _, _, rfl, rfl, h⟩
  | cons id rest ih =>
    rw [Session.markEach, Session.markEach, ← h.batch, ← h.outcomes]
    split
    · have h₁ := h.finalize id .cleanMerge
      dsimp only
      split
      · rename_i p _
        obtain ⟨found, _, x₂, y₂, hx, hy, rfl, h₂⟩ := h₁.ask (hs.submitterOf p h₁.world)
        rw [hx, hy]
        cases found with
        | ok found => exact ih h₂ found
        | error e => exact ih h₂ none
      · exact ih h₁ _
    · exact ih h approval

theorem mark (hs : s.Alongside s' K R) (h : Alike K R x y) (tip : CommitId)
    (accepted : List CommitId) : ∃ a x' y', x.mark s tip accepted = (a, x') ∧
      y.mark s' tip accepted = (a, y') ∧ Alike K R x' y' := by
  rw [Session.mark, Session.mark, ← hs.history h.world]
  cases (s.history x.world).order [tip] accepted .oldestFirst with
  | error e => exact ⟨_, _, _, rfl, rfl, h⟩
  | ok landed =>
    obtain ⟨a, x', y', hx, hy, h'⟩ := h.markEach hs none landed
    dsimp only
    rw [hx, hy]
    exact ⟨_, _, _, rfl, rfl, h'⟩

theorem resolveLeftovers (h : Alike K R x y) (r : Reduction) :
    Alike K R (x.resolveLeftovers r) (y.resolveLeftovers r) := by
  have hfold : ∀ (ids : List CommitId) (f : CommitId → Outcome) {x : Session σ} {y : Session τ},
      Alike K R x y → Alike K R (ids.foldl (fun x id => x.finalize id (f id)) x)
        (ids.foldl (fun x id => x.finalize id (f id)) y) := by
    intro ids f
    induction ids with
    | nil => exact id
    | cons id ids ih => exact fun h => ih (h.finalize id (f id))
  have hsame : x.unsettled = y.unsettled := by rw [unsettled, unsettled, h.order, h.outcomes]
  rw [Session.resolveLeftovers, Session.resolveLeftovers, hsame]
  exact hfold _ _ h

theorem conclude (hs : s.Alongside s' K R) (h : Alike K R x y) (plan : Plan) (tip : CommitId)
    (r : Reduction) (new : TrackedCommit) : ∃ result x' y',
      x.conclude s plan tip r new = (result, x') ∧ y.conclude s' plan tip r new = (result, y') ∧
      Alike K R x' y' := by
  obtain ⟨a, x₁, y₁, hx, hy, h₁⟩ :=
    (h.tell hs (.phase .marking)).mark hs new.id (plan.accepted ++ [tip])
  rw [Session.conclude, Session.conclude]
  dsimp only
  rw [hx, hy]
  cases a with
  | error e => exact ⟨_, _, _, rfl, rfl, h₁⟩
  | ok approval =>
    have h₂ := ((h₁.resolveLeftovers r).flush hs).tell hs (.phase .done)
    dsimp only
    rw [h₂.outcomes]
    exact ⟨_, _, _, rfl, rfl, h₂⟩

theorem land (hs : s.Alongside s' K R)
    (hK : ∀ a b, K a b → Text.isBlankText a = Text.isBlankText b) (h : Alike K R x y)
    (plan : Plan) (tip : TrackedCommit) (r : Reduction) (pending : PendingSet) :
    (x.land s plan tip r pending).result = (y.land s' plan tip r pending).result ∧
      (x.land s plan tip r pending).pending = (y.land s' plan tip r pending).pending ∧
      Alike K R (x.land s plan tip r pending).session (y.land s' plan tip r pending).session := by
  have hstart := h.tell hs (.phase .selecting)
  rw [Session.land, Session.land]
  dsimp only
  rw [← hs.history hstart.world]
  split
  · exact ⟨rfl, rfl, hstart⟩
  · rename_i chosen pending _
    have hopen := (((hstart.finalizeAll (pending.drain.1.map (·.id)) .notFastForward).flush
      hs).tell hs (.phase .integrating))
    obtain ⟨new, x₁, y₁, hx, hy, h₁⟩ := hopen.bringIn hs hK plan r tip chosen
    obtain ⟨result, x₂, y₂, hx', hy', h₂⟩ := h₁.conclude hs plan tip.id r new
    rw [hx, hy]
    dsimp only
    rw [hx', hy']
    exact ⟨rfl, rfl, h₂⟩

end Session.Alike

variable {σ τ : Type} {s : Services σ} {s' : Services τ} {K : String → String → Prop}
  {R : σ → τ → Prop} {v : σ} {w : τ}

theorem Session.alike_start (hR : R v w) (pending : PendingSet) :
    Session.Alike K R (Session.start pending v) (Session.start pending w) :=
  ⟨rfl, rfl, rfl, rfl, rfl, .nil, hR⟩

/-- Submissions that start from related states end alike, with the same result. -/
theorem run_alike (hs : s.Alongside s' K R)
    (hK : ∀ a b, K a b → Text.isBlankText a = Text.isBlankText b) (hR : R v w) (plan : Plan)
    (tip : TrackedCommit) (pending : PendingSet) :
    (run s plan tip pending v).result = (run s' plan tip pending w).result ∧
      (run s plan tip pending v).pending = (run s' plan tip pending w).pending ∧
      Session.Alike K R (run s plan tip pending v).session (run s' plan tip pending w).session := by
  have hstart := (Session.alike_start (K := K) hR pending).tell hs (.phase .reducing)
  rw [run, run, ← hs.history hstart.world, ← hstart.outcomes]
  split
  · exact ⟨rfl, rfl, hstart.with_outcomes _⟩
  · exact (hstart.with_outcomes _).land hs hK plan tip _ _

end Submission

end Landing
