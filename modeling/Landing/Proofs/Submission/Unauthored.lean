import Landing.Proofs.Rehearsal
import Landing.Proofs.Review
import Landing.Proofs.Submission.Lockstep

/-! Messages without an author never steer a submission: they may be any number, say anything and be
of any time, the submission goes as without them. -/
namespace Landing.Rehearsal
open Submission Review

/-- Trails of one change that differ at most in messages without an author, none of which has a key
that a rehearsal gives out. -/
structure SameTrail (c : ChangeId) (a b : List ChangeMessage) : Prop where
  authored : SameAuthored a b
  issued : ∀ n : Nat, a.any (·.key = ⟨c, World.keyLead ++ toString n⟩) =
    b.any (·.key = ⟨c, World.keyLead ++ toString n⟩)

theorem SameTrail.append {c : ChangeId} {a b : List ChangeMessage} (h : SameTrail c a b)
    (m : ChangeMessage) : SameTrail c (a ++ [m]) (b ++ [m]) where
  authored := by
    have hsame := h.authored
    unfold SameAuthored at hsame ⊢
    rw [List.filter_append, List.filter_append, hsame]
  issued n := by rw [List.any_append, List.any_append, h.issued n]

theorem SameTrail.chronological {c : ChangeId} {a b : List ChangeMessage} (h : SameTrail c a b) :
    SameTrail c (Store.chronological a) (Store.chronological b) where
  authored := by
    have hsame := h.authored
    unfold SameAuthored at hsame ⊢
    rw [Store.filter_chronological, Store.filter_chronological, hsame]
  issued n := by rw [Store.any_chronological, Store.any_chronological, h.issued n]

/-- The trails of all changes differ at most in messages without an author. -/
def SameTrails (a b : Table ChangeId (List ChangeMessage)) : Prop :=
  ∀ c, SameTrail c ((a.get? c).getD []) ((b.get? c).getD [])

theorem SameTrails.insert {a b : Table ChangeId (List ChangeMessage)} (h : SameTrails a b)
    {c : ChangeId} {trail trail' : List ChangeMessage} (hc : SameTrail c trail trail') :
    SameTrails (a.insert c trail) (b.insert c trail') := by
  intro c'
  rw [Table.get?_insert, Table.get?_insert]
  split
  · rename_i he
    exact he ▸ hc
  · exact h c'

namespace World
variable {v w : World}

/-- The same but for the trails. -/
def withTrails (w : World) (trails : Table ChangeId (List ChangeMessage)) : World :=
  { w with store := { w.store with messages := trails } }

/-- Rehearsals that differ at most in messages without an author. -/
def SameButUnauthored (v w : World) : Prop :=
  ∃ trails, w = v.withTrails trails ∧ SameTrails v.store.messages trails

namespace SameButUnauthored

theorem write (h : SameButUnauthored v w) (e : Entry) :
    SameButUnauthored (v.write e) (w.write e) := by
  obtain ⟨trails, rfl, hsame⟩ := h
  exact ⟨trails, rfl, hsame⟩

/-- A scripted change is possible in both or in none, and keeps them the same. -/
theorem apply (h : SameButUnauthored v w) (c : Change) :
    (∃ v' w', v.apply c = .ok v' ∧ w.apply c = .ok w' ∧ SameButUnauthored v' w') ∨
      ∃ e, v.apply c = .error e ∧ w.apply c = .error e := by
  obtain ⟨trails, rfl, hsame⟩ := h
  cases c with
  | addMessage m =>
    exact .inl ⟨_, _, rfl, rfl, _, rfl, hsame.insert ((hsame m.key.change).append m).chronological⟩
  | addCredentials account user privateKey =>
    simp only [World.apply, withTrails]
    cases ExternalCredentials.make account user privateKey with
    | ok c => exact .inl ⟨_, _, rfl, rfl, trails, rfl, hsame⟩
    | error e => exact .inr ⟨e, rfl, rfl⟩
  | _ => exact .inl ⟨_, _, rfl, rfl, trails, rfl, hsame⟩

theorem applyAll (h : SameButUnauthored v w) (changes : List Change) :
    SameButUnauthored (v.applyAll changes) (w.applyAll changes) := by
  induction changes generalizing v w with
  | nil => exact h
  | cons c changes ih =>
    rw [World.applyAll, World.applyAll, List.foldl_cons, List.foldl_cons]
    rcases h.apply c with ⟨v', w', hv, hw, hsame⟩ | ⟨e, hv, hw⟩
    · rw [hv, hw]
      exact ih hsame
    · rw [hv, hw]
      exact ih (h.write _)

theorem trail (h : SameButUnauthored v w) (c : ChangeId) :
    SameTrail c (v.store.trail c) (w.store.trail c) := by
  obtain ⟨trails, rfl, hsame⟩ := h
  exact hsame c

/-- Trails of one change that are replaced alike. -/
theorem insert (h : SameButUnauthored v w) {c : ChangeId} {a b : List ChangeMessage}
    (hab : SameTrail c a b) :
    SameButUnauthored (v.withTrails (v.store.messages.insert c a))
      (w.withTrails (w.store.messages.insert c b)) := by
  obtain ⟨trails, rfl, hsame⟩ := h
  exact ⟨trails.insert c b, rfl, hsame.insert hab⟩

theorem faults_eq (h : SameButUnauthored v w) : v.faults = w.faults := by
  obtain ⟨trails, rfl, _⟩ := h
  rfl

theorem messages (h : SameButUnauthored v w) (c : ChangeId) :
    Answers SameAuthored (v.messages c).1 (w.messages c).1 ∧
      SameButUnauthored (v.messages c).2 (w.messages c).2 := by
  rw [World.messages, World.messages, h.faults_eq]
  split
  · exact ⟨.error _ _, h⟩
  · exact ⟨.ok (h.trail c).authored, h⟩

/-- A message whose key is new in both or in none. -/
theorem insertMessage (h : SameButUnauthored v w) {m : ChangeMessage}
    (hm : (v.store.trail m.key.change).any (·.key = m.key) =
      (w.store.trail m.key.change).any (·.key = m.key)) :
    (v.insertMessage m).1 = (w.insertMessage m).1 ∧
      SameButUnauthored (v.insertMessage m).2 (w.insertMessage m).2 := by
  have hfault : v.faults.inserts.contains m.key.change = w.faults.inserts.contains m.key.change :=
    by rw [h.faults_eq]
  rw [World.insertMessage, World.insertMessage, Store.insertMessage, Store.insertMessage, hfault,
    hm]
  cases w.faults.inserts.contains m.key.change with
  | true => exact ⟨rfl, h⟩
  | false =>
    cases (w.store.trail m.key.change).any (·.key = m.key) with
    | true => exact ⟨rfl, h⟩
    | false => exact ⟨rfl, h.insert ((h.trail m.key.change).append m)⟩

/-- A message with a key that the rehearsal gives out. -/
theorem writeMessage (h : SameButUnauthored v w) (p : PatchSetId) (body : String) :
    (services.write p body v).1 = (services.write p body w).1 ∧
      SameButUnauthored (services.write p body v).2 (services.write p body w).2 := by
  have hstamp : v.stamp.1 = w.stamp.1 ∧ SameButUnauthored v.stamp.2 w.stamp.2 := by
    obtain ⟨trails, rfl, hsame⟩ := h
    exact ⟨rfl, trails, rfl, hsame⟩
  rw [Services.write, Services.write]
  simp only [services]
  rw [hstamp.1]
  exact hstamp.2.insertMessage ((hstamp.2.trail p.change).issued w.keysIssued)

theorem account (h : SameButUnauthored v w) (id : AccountId) :
    (v.account id).1 = (w.account id).1 ∧
      SameButUnauthored (v.account id).2 (w.account id).2 := by
  have haccounts : v.store.accounts = w.store.accounts := by
    obtain ⟨trails, rfl, _⟩ := h
    rfl
  rw [World.account, World.account, h.faults_eq, Store.account, Store.account, haccounts]
  split <;> exact ⟨rfl, h⟩

theorem credentials (h : SameButUnauthored v w) (id : AccountId) :
    Answers (Option.Rel (ExternalCredentials.Alike Eq)) (v.credentialsOf id).1
        (w.credentialsOf id).1 ∧
      SameButUnauthored (v.credentialsOf id).2 (w.credentialsOf id).2 := by
  have hcredentials : v.credentials = w.credentials := by
    obtain ⟨trails, rfl, _⟩ := h
    rfl
  rw [World.credentialsOf, World.credentialsOf, h.faults_eq, hcredentials]
  split
  · exact ⟨.error _ _, h⟩
  · refine ⟨.ok ?_, h⟩
    cases w.credentials.get? id with
    | none => exact .none
    | some c => exact .some ⟨rfl, rfl, rfl⟩

theorem mirror (h : SameButUnauthored v w) (r : Mirror.Request) :
    (v.mirror r).1 = (w.mirror r).1 ∧ SameButUnauthored (v.mirror r).2 (w.mirror r).2 := by
  have hhooks : v.hooks = w.hooks := by
    obtain ⟨trails, rfl, _⟩ := h
    rfl
  rw [World.mirror, World.mirror, hhooks]
  exact ⟨rfl, (h.write _).applyAll _⟩

theorem notify (h : SameButUnauthored v w) (e : Event) :
    SameButUnauthored (v.notify e) (w.notify e) := by
  have hsame : v.watched = w.watched ∧ v.onPhase = w.onPhase := by
    obtain ⟨trails, rfl, _⟩ := h
    exact ⟨rfl, rfl⟩
  rw [World.notify, World.notify, hsame.1]
  split
  · cases e with
    | phase p =>
      have hphase : (v.write (.event (.phase p))).onPhase p =
          (w.write (.event (.phase p))).onPhase p := congrFun hsame.2 p
      dsimp only
      rw [hphase]
      exact (h.write _).applyAll _
    | _ => exact h.write _
  · exact h

end SameButUnauthored

/-- Whatever the scripts do and whichever calls fail, messages without an author make no difference
to the answers that a rehearsal gives. -/
theorem alike_unauthored : services.Alike Eq SameButUnauthored where
  history := by
    rintro v _ ⟨trails, rfl, _⟩
    rfl
  location := by
    rintro v _ ⟨trails, rfl, _⟩
    rfl
  submitterOf p := by
    rintro v _ ⟨trails, rfl, hsame⟩
    exact ⟨rfl, trails, rfl, hsame⟩
  account id _ _ h := h.account id
  messages c _ _ h := h.messages c
  write p body _ _ h := h.writeMessage p body
  credentials id _ _ h := h.credentials id
  mirror hr _ _ h := by
    obtain rfl := hr.eq
    exact h.mirror _
  notify e _ _ h := h.notify e

end World

end Landing.Rehearsal

namespace Landing.Submission
open Rehearsal (services World SameTrail)
open Rehearsal.Crossing (old batch world sync)
variable {σ : Type} {s : Services σ} {R : σ → σ → Prop} {v w : σ}

/-- Where the states of the systems around a submission differ at most in messages without an
author, the submission goes the same way: with the same result, the same requests to the mirror and
answers, the same events, and so the same messages written. In the end the states differ in no
more. -/
theorem run_eq_of_unauthored (hs : s.Alike Eq R) (hR : R v w) (plan : Plan) (tip : TrackedCommit)
    (pending : PendingSet) :
    (run s plan tip pending v).result = (run s plan tip pending w).result ∧
      (run s plan tip pending v).pending = (run s plan tip pending w).pending ∧
      (run s plan tip pending v).session.pushes = (run s plan tip pending w).session.pushes ∧
      (run s plan tip pending v).session.journal = (run s plan tip pending w).session.journal ∧
      R (run s plan tip pending v).session.world (run s plan tip pending w).session.world := by
  have hblank : ∀ a b : String, a = b → Text.isBlankText a = Text.isBlankText b :=
    fun _ _ => congrArg Text.isBlankText
  obtain ⟨hresult, hpending, h⟩ := run_alike hs hblank hR plan tip pending
  have hpushes : (run s plan tip pending v).session.pushes =
      (run s plan tip pending w).session.pushes := by
    rw [← List.forall₂_eq_eq_eq]
    exact h.pushes.imp fun e f he => Prod.ext he.1.eq he.2
  exact ⟨hresult, hpending, hpushes, h.journal, h.world⟩

/-- A program left a message with another ticket on the first change. -/
def noted : World :=
  world.withTrails (world.store.messages.insert ⟨1⟩
    [⟨⟨⟨1⟩, "note"⟩, none, none, ⟨1, 0⟩, "locked by ticket 9"⟩])

theorem sameButUnauthored_noted : world.SameButUnauthored noted := by
  refine ⟨_, rfl, fun c => ?_⟩
  rw [Table.get?_insert]
  split
  · rename_i he
    subst he
    refine ⟨rfl, fun n => ?_⟩
    have hkey : "note" ≠ World.keyLead ++ n.repr := fun he => by
      have hlists := congrArg String.toList he
      simp [World.keyLead] at hlists
    change false = _
    simpa using hkey
  · exact ⟨rfl, fun _ => rfl⟩

/-- The ticket stays that of the commit message. -/
theorem run_eq_of_unauthored_noted : world.SameButUnauthored noted ∧
    (run services sync old batch world).result = (run services sync old batch noted).result ∧
      (run services sync old batch noted).session.pushes.map (·.1.ticket) = ["1", "1", "1"] := by
  obtain ⟨hresult, _, hpushes, _⟩ :=
    run_eq_of_unauthored World.alike_unauthored sameButUnauthored_noted sync old batch
  refine ⟨sameButUnauthored_noted, hresult, ?_⟩
  rw [← hpushes]
  decide +kernel

end Landing.Submission
