import Landing.Proofs.History.Agreement
import Landing.Proofs.History.Reduction
import Landing.Proofs.Submission.Frame

/-! The first half of a submission: the batch is reduced and the new tip is chosen. -/
namespace Landing.Submission
open History Reduction
variable {σ : Type} {s : Services σ} {h : History} {tip : TrackedCommit} {pending : PendingSet}

open Classical in
/-- The first head of the batch that the tip can be moved to, else the tip. -/
noncomputable def choice (h : History) (tip : TrackedCommit) (pending : PendingSet) :
    TrackedCommit :=
  (pending.commits.find? fun c =>
    Head h tip.id pending.ids c.id ∧ h.Reaches tip.id c.id).getD tip

open Classical in
/-- The outcomes that a commit of the batch has when the tip is chosen. -/
noncomputable def settled (h : History) (tip : TrackedCommit) (pending : PendingSet)
    (c : CommitId) : Option Outcome :=
  if h.Reaches c tip.id then some .alreadyMerged
  else if ¬ Mergeable h tip.id pending.ids c then some .missingDependency
  else if Head h tip.id pending.ids c ∧ c ≠ (choice h tip pending).id then some .notFastForward
  else none

open Classical in
/-- The books when the tip is chosen, after calls that started from `w`. -/
structure Opened (s : Services σ) (h : History) (tip : TrackedCommit) (pending : PendingSet)
    (w : σ) (r : Reduction) (x : Session σ) : Prop where
  batch : ∀ id c, x.batch.get? id = some c ↔ c ∈ pending.commits ∧ c.id = id
  order : x.order = pending.ids
  pushes : x.pushes = []
  leads : s.Leads w x.world
  contains_iff : ∀ c, r.folded.contains c = true ↔
    Mergeable h tip.id pending.ids c ∧ ¬ Head h tip.id pending.ids c
  covers : ∀ c d, r.folded.get? c = some d → Head h tip.id pending.ids d ∧ h.Reaches c d
  outcomes : ∀ c, x.outcomes.get? c = if c ∈ pending.ids then settled h tip pending c else none

namespace Opened
variable {w : σ} {r : Reduction} {x : Session σ}

theorem contains_batch (ho : Opened s h tip pending w r x) (c : CommitId) :
    x.batch.contains c = true ↔ c ∈ pending.ids := by
  rw [Table.contains, Option.isSome_iff_exists]
  simp only [ho.batch, PendingSet.mem_ids_iff]

theorem batch_id (ho : Opened s h tip pending w r x) (id : CommitId) (c : TrackedCommit)
    (hc : x.batch.get? id = some c) : c.id = id := ((ho.batch id c).1 hc).2

end Opened

/-- The tip is chosen among itself and the heads above it. -/
theorem choice_cases (h : History) (tip : TrackedCommit) (pending : PendingSet) :
    choice h tip pending = tip ∨
      choice h tip pending ∈ pending.commits ∧
        Head h tip.id pending.ids (choice h tip pending).id ∧
        h.Reaches tip.id (choice h tip pending).id := by
  classical
  rw [choice]
  cases hfind : pending.commits.find? fun c =>
      Head h tip.id pending.ids c.id ∧ h.Reaches tip.id c.id with
  | none => exact .inl rfl
  | some c =>
    have hc := List.find?_some hfind
    exact .inr ⟨List.mem_of_find?_eq_some hfind, of_decide_eq_true hc⟩

theorem head_choice (hne : (choice h tip pending).id ≠ tip.id) :
    Head h tip.id pending.ids (choice h tip pending).id := by
  rcases choice_cases h tip pending with he | ⟨_, hhead, _⟩
  · exact absurd (congrArg TrackedCommit.id he) hne
  · exact hhead

/-- If a head is above the tip, a head is chosen. -/
theorem head_of_above {c : CommitId} (hc : Head h tip.id pending.ids c)
    (htip : h.Reaches tip.id c) : Head h tip.id pending.ids (choice h tip pending).id := by
  classical
  obtain ⟨d, hd, rfl⟩ := PendingSet.mem_ids_iff.1 hc.1.1
  rw [choice]
  cases hfind : pending.commits.find? fun c =>
      Head h tip.id pending.ids c.id ∧ h.Reaches tip.id c.id with
  | none =>
    have hnone := List.find?_eq_none.1 hfind d hd
    exact absurd (decide_eq_true ⟨hc, htip⟩) hnone
  | some e =>
    have he := List.find?_some hfind
    exact (of_decide_eq_true he).1

theorem reaches_choice (h : History) (tip : TrackedCommit) (pending : PendingSet) :
    h.Reaches tip.id (choice h tip pending).id := by
  rcases choice_cases h tip pending with he | ⟨_, _, hreach⟩
  · rw [he]
    exact .refl tip.id
  · exact hreach

theorem choice_id_mem (h : History) (tip : TrackedCommit) (pending : PendingSet) :
    (choice h tip pending).id ∈ tip.id :: pending.ids := by
  rcases choice_cases h tip pending with he | ⟨hmem, _⟩
  · rw [he]
    exact List.mem_cons_self ..
  · exact List.mem_cons_of_mem _ (List.mem_map_of_mem hmem)

/-- What the chosen tip brings in is mergeable. -/
theorem mergeable_of_reaches_choice {c : CommitId} (hc : h.Reaches c (choice h tip pending).id)
    (htip : ¬ h.Reaches c tip.id) : Mergeable h tip.id pending.ids c := by
  rcases choice_cases h tip pending with he | ⟨_, hhead, _⟩
  · rw [he] at hc
    exact absurd hc htip
  · exact hhead.1.of_reaches hc htip

/-- A head that comes in with the chosen tip is the chosen tip. -/
theorem eq_choice {c : CommitId} (hhead : Head h tip.id pending.ids c)
    (hc : h.Reaches c (choice h tip pending).id) : c = (choice h tip pending).id := by
  rcases choice_cases h tip pending with he | ⟨_, hchosen, _⟩
  · rw [he] at hc
    exact absurd hc hhead.1.2.1
  · exact (hhead.2 _ hchosen.1 hc).symm

/-- What the chosen tip brings in has no outcome when it is chosen. -/
theorem settled_eq_none {c : CommitId} (hc : h.Reaches c (choice h tip pending).id)
    (htip : ¬ h.Reaches c tip.id) : settled h tip pending c = none := by
  have hmerge := mergeable_of_reaches_choice hc htip
  have hopen : ¬ (Head h tip.id pending.ids c ∧ c ≠ (choice h tip pending).id) :=
    fun hhead => hhead.2 (eq_choice hhead.1 hc)
  simp [settled, htip, hmerge, hopen]

theorem Session.start_batch (pending : PendingSet) (w : σ) (id : CommitId) (c : TrackedCommit) :
    (Session.start pending w).batch.get? id = some c ↔ c ∈ pending.commits ∧ c.id = id := by
  have hkeys : ((pending.commits.map fun c => (c.id, c)).map (·.1)).Nodup := by
    rw [List.map_map]
    exact pending.distinct
  rw [Session.start, Table.get?_ofList hkeys, List.find?_map]
  simp only [Function.comp_def, Option.map_map]
  rw [Option.map_id']
  constructor
  · intro hfind
    have hid := List.find?_some hfind
    exact ⟨List.mem_of_find?_eq_some hfind, of_decide_eq_true hid⟩
  · rintro ⟨hc, rfl⟩
    exact pending.find?_id hc

open Classical in
theorem choice_of_reduced {folded : Table CommitId CommitId} {left : PendingSet}
    (hr : Reduced h tip.id pending folded left) :
    (left.commits.find? (h.Reaches tip.id ·.id)).getD tip = choice h tip pending := by
  rw [hr.heads, List.find?_filter, choice]
  simp only [Bool.decide_and, decide_eq_true_eq]

open Classical in
/-- Turning the heads away that were not chosen settles what can be settled now. -/
theorem settled_of_reduced {folded : Table CommitId CommitId} {left rest : PendingSet}
    (hr : Reduced h tip.id pending folded left)
    (hrest : rest.commits = left.commits.filter (·.id ≠ (choice h tip pending).id))
    {l : Outcome.Ledger} (hl : ∀ c, l.get? c = if c ∈ pending.ids then
      if h.Reaches c tip.id then some .alreadyMerged
      else if Mergeable h tip.id pending.ids c then none else some .missingDependency
      else none) (c : CommitId) :
    (l.finalizeAll (rest.commits.map (·.id)) .notFastForward).get? c =
      if c ∈ pending.ids then settled h tip pending c else none := by
  have hmem : c ∈ rest.commits.map (·.id) ↔
      Head h tip.id pending.ids c ∧ c ≠ (choice h tip pending).id := by
    rw [← hr.mem_left_iff]
    simp only [hrest, PendingSet.ids, List.mem_map, List.mem_filter, decide_eq_true_eq]
    constructor
    · rintro ⟨d, ⟨hd, hne⟩, rfl⟩
      exact ⟨⟨d, hd, rfl⟩, hne⟩
    · rintro ⟨⟨d, hd, rfl⟩, hne⟩
      exact ⟨d, ⟨hd, hne⟩, rfl⟩
  have hhead : Head h tip.id pending.ids c →
      c ∈ pending.ids ∧ ¬ h.Reaches c tip.id ∧ Mergeable h tip.id pending.ids c :=
    fun hc => ⟨hc.1.1, hc.1.2.1, hc.1⟩
  rw [Outcome.Ledger.get?_finalizeAll, hl, settled]
  by_cases hc : Head h tip.id pending.ids c ∧ c ≠ (choice h tip pending).id
  · obtain ⟨hids, htip, hmerge⟩ := hhead hc.1
    simp [hmem, hc, hids, htip, hmerge]
  · simp only [hmem, if_neg hc, Option.or_none]
    simp only [ite_not]

/-- Brings the chosen tip in and closes the books. -/
def Session.close (s : Services σ) (plan : Plan) (tip chosen : TrackedCommit) (r : Reduction)
    (x : Session σ) : Report σ :=
  let (newTip, x) := x.bringIn s plan r tip chosen
  let (result, x) := x.conclude s plan tip.id r newTip
  ⟨result, {}, x⟩

/-- The same systems with another mirror, and with other answers to those who move a ref. -/
def Services.answering (s : Services σ)
    (mirror : Mirror.Request → σ → Option Mirror.Result × σ)
    (moveRef : String → Option CommitId → CommitId → σ → Except Error RefUpdate × σ) :
    Services σ :=
  { s with mirror := mirror, moveRef := moveRef }

/-- Turns the heads of `rest` away, and goes on to bring the chosen tip in. -/
def Session.turnAway (s : Services σ) (x : Session σ) (rest : PendingSet) : Session σ :=
  ((x.finalizeAll (rest.commits.map (·.id)) .notFastForward).flush s).tell s (.phase .integrating)

/-- The systems after phases were announced, and nothing else was done. -/
def announced (s : Services σ) (phases : List Phase) (w : σ) : σ :=
  phases.foldl (fun w p => s.notify (.phase p) w) w

theorem leads_announced (s : Services σ) (phases : List Phase) (w : σ) :
    s.Leads w (announced s phases w) := by
  induction phases generalizing w with
  | nil => exact .refl
  | cons p phases ih => exact Services.Leads.trans (.notify _ .refl) (ih _)

/-- In `x` phases were announced, and nothing else was done since `w`. -/
structure Announces (s : Services σ) (w : σ) (phases : List Phase) (x : Session σ) : Prop where
  journal : x.journal = phases.map .phase
  pushes : x.pushes = []
  world : x.world = announced s phases w

/-- The first half of a submission, in which the policy has no part: what was folded, the chosen
tip, and the books when it is to come in. -/
def opening (s : Services σ) (tip : TrackedCommit) (pending : PendingSet) (w : σ) :
    Except Error (Reduction × TrackedCommit × Session σ) :=
  let x := (Session.start pending w).tell s (.phase .reducing)
  match (s.history x.world).reduce tip.id ⟨pending, .empty⟩ with
  | (.error e, _) => .error e
  | (.ok r, p) =>
    let x := Session.tell s { x with outcomes := p.outcomes } (.phase .selecting)
    match (s.history x.world).firstFastForward tip p.pending with
    | (.error e, _) => .error e
    | (.ok chosen, rest) => .ok (r, chosen, x.turnAway s rest)

section Opening
variable {w : σ} {r : Reduction} {chosen : TrackedCommit} {x : Session σ} {p : Progress}
  {rest : PendingSet}

/-- The books after a reduction to `p`. -/
private abbrev reduced (s : Services σ) (pending : PendingSet) (w : σ) (p : Progress) :
    Session σ :=
  Session.tell s { (Session.start pending w).tell s (.phase .reducing) with outcomes := p.outcomes }
    (.phase .selecting)

private theorem opening_inv (ho : opening s tip pending w = .ok (r, chosen, x)) : ∃ p rest,
    (s.history (s.notify (.phase .reducing) w)).reduce tip.id ⟨pending, .empty⟩ = (.ok r, p) ∧
    (s.history (reduced s pending w p).world).firstFastForward tip p.pending =
      (.ok chosen, rest) ∧
    x = (reduced s pending w p).turnAway s rest := by
  rw [opening] at ho
  dsimp only at ho
  split at ho
  · cases ho
  · rename_i p hreduce
    split at ho
    · cases ho
    · rename_i rest hforward
      cases ho
      exact ⟨p, rest, hreduce, hforward, rfl⟩

/-- The first half fails where one of the two decisions fails. -/
theorem opening_error_iff {e : Error} : opening s tip pending w = .error e ↔
    ((s.history (announced s [.reducing] w)).reduce tip.id ⟨pending, .empty⟩).1 = .error e ∨
    ∃ r p, (s.history (announced s [.reducing] w)).reduce tip.id ⟨pending, .empty⟩ = (.ok r, p) ∧
      ((s.history (announced s [.reducing, .selecting] w)).firstFastForward tip p.pending).1 =
        .error e := by
  have hopening : opening s tip pending w =
      match (s.history (announced s [.reducing] w)).reduce tip.id ⟨pending, .empty⟩ with
      | (.error e, _) => .error e
      | (.ok r, p) =>
        match (s.history (announced s [.reducing, .selecting] w)).firstFastForward tip
            p.pending with
        | (.error e, _) => .error e
        | (.ok chosen, rest) => .ok (r, chosen, (reduced s pending w p).turnAway s rest) := rfl
  rw [hopening]
  obtain ⟨e' | r, p⟩ := (s.history (announced s [.reducing] w)).reduce tip.id ⟨pending, .empty⟩
  · simp
  · cases hforward : (s.history (announced s [.reducing, .selecting] w)).firstFastForward tip
      p.pending with
    | mk chosen rest => cases chosen <;> simp [hforward]

/-- The first half makes calls, and asks nothing of the mirror. -/
private theorem turnAway_books (s : Services σ) (pending : PendingSet) (w : σ) (p : Progress)
    (rest : PendingSet) : let x := (reduced s pending w p).turnAway s rest
    x.batch = (Session.start pending w).batch ∧ x.order = pending.ids ∧ x.pushes = [] ∧
      x.outcomes = p.outcomes.finalizeAll (rest.commits.map (·.id)) .notFastForward ∧
      s.Leads w x.world := by
  -- calls only follow when the other heads were turned away
  have hx : Session.Quiet s
      ((reduced s pending w p).finalizeAll (rest.commits.map (·.id)) .notFastForward)
      ((reduced s pending w p).turnAway s rest) :=
    (Session.quiet_flush s _).trans (.tell s _ _)
  have hleads : s.Leads w (reduced s pending w p).world := .notify _ (.notify _ .refl)
  exact ⟨hx.batch, hx.order, hx.pushes, hx.outcomes, hleads.trans hx.leads⟩

theorem opening_books (ho : opening s tip pending w = .ok (r, chosen, x)) :
    x.batch = (Session.start pending w).batch ∧ x.order = pending.ids ∧ x.pushes = [] ∧
      s.Leads w x.world := by
  obtain ⟨p, rest, _, _, rfl⟩ := opening_inv ho
  obtain ⟨hbatch, horder, hpushes, _, hleads⟩ := turnAway_books s pending w p rest
  exact ⟨hbatch, horder, hpushes, hleads⟩

/-- A submission is its first half, then the chosen tip is brought in and the books are closed. -/
theorem run_of_opening (ho : opening s tip pending w = .ok (r, chosen, x)) (plan : Plan) :
    run s plan tip pending w = x.close s plan tip chosen r := by
  obtain ⟨p, rest, hreduce, hforward, rfl⟩ := opening_inv ho
  have hstart : run s plan tip pending w = Session.land s plan tip r p.pending
      { (Session.start pending w).tell s (.phase .reducing) with outcomes := p.outcomes } := by
    simp only [run, Session.tell, Session.start]
    rw [hreduce]
  rw [hstart, Session.land]
  dsimp only
  rw [hforward]
  rfl

/-- A submission whose first half fails with `e`. -/
inductive Undecided (s : Services σ) (tip : TrackedCommit) (pending : PendingSet) (w : σ)
    (e : Error) : Report σ → Prop where
  | reducing {p : Progress} {x : Session σ} :
    (s.history (announced s [.reducing] w)).reduce tip.id ⟨pending, .empty⟩ = (.error e, p) →
    Announces s w [.reducing] x → Undecided s tip pending w e ⟨.error e, p.pending, x⟩
  | selecting {r : Reduction} {p : Progress} {rest : PendingSet} {x : Session σ} :
    (s.history (announced s [.reducing] w)).reduce tip.id ⟨pending, .empty⟩ = (.ok r, p) →
    (s.history (announced s [.reducing, .selecting] w)).firstFastForward tip p.pending =
      (.error e, rest) →
    Announces s w [.reducing, .selecting] x → Undecided s tip pending w e ⟨.error e, rest, x⟩

theorem Undecided.result {e : Error} {rep : Report σ} (hu : Undecided s tip pending w e rep) :
    rep.result = .error e := by
  cases hu <;> rfl

/-- The first phases were announced, and no more was done. -/
theorem Undecided.announces {e : Error} {rep : Report σ} (hu : Undecided s tip pending w e rep) :
    ∃ phases, phases <+: [.reducing, .selecting] ∧ Announces s w phases rep.session := by
  cases hu with
  | reducing _ hx => exact ⟨_, ⟨[.selecting], rfl⟩, hx⟩
  | selecting _ _ hx => exact ⟨_, List.prefix_rfl, hx⟩

theorem undecided_of_opening {e : Error} (ho : opening s tip pending w = .error e) (plan : Plan) :
    Undecided s tip pending w e (run s plan tip pending w) := by
  rw [opening] at ho
  dsimp only at ho
  split at ho
  · rename_i hreduce
    cases ho
    simp only [run, Session.tell, Session.start] at hreduce ⊢
    rw [hreduce]
    exact .reducing hreduce ⟨rfl, rfl, rfl⟩
  · rename_i hreduce
    split at ho
    · rename_i hforward
      cases ho
      simp only [run, Session.land, Session.tell, Session.start] at hreduce hforward ⊢
      rw [hreduce]
      dsimp only
      rw [hforward]
      exact .selecting hreduce hforward ⟨rfl, rfl, rfl⟩
    · cases ho

/-- A submission that does not get through its first half fails, and asks nothing of the mirror. -/
theorem run_of_opening_error {e : Error} (ho : opening s tip pending w = .error e) (plan : Plan) :
    (run s plan tip pending w).result = .error e ∧
      (run s plan tip pending w).session.pushes = [] := by
  have hu := undecided_of_opening ho plan
  obtain ⟨_, _, hx⟩ := hu.announces
  exact ⟨hu.result, hx.pushes⟩

/-- A submission that ends well got through its first half. -/
theorem opening_of_ok {plan : Plan} {landed : Landed}
    (hok : (run s plan tip pending w).result = .ok landed) :
    ∃ r chosen x, opening s tip pending w = .ok (r, chosen, x) := by
  cases ho : opening s tip pending w with
  | error e =>
    rw [(run_of_opening_error ho plan).1] at hok
    cases hok
  | ok o => exact ⟨o.1, o.2.1, o.2.2, rfl⟩

/-- On an intact history both decisions can be made. -/
private theorem decisions_ok (hi : h.IntactAbove tip.id pending.ids) : ∃ r p chosen rest,
    h.reduce tip.id ⟨pending, .empty⟩ = (.ok r, p) ∧
    h.firstFastForward tip p.pending = (.ok chosen, rest) ∧
    chosen = choice h tip pending ∧
    ∀ w, Opened s h tip pending w r ((reduced s pending w p).turnAway s rest) := by
  obtain ⟨r, p, hreduce, hreduced, houtcomes⟩ := reduce_ok hi .empty
  have hsub : ∀ c ∈ p.pending.ids, c ∈ tip.id :: pending.ids :=
    fun c hc => List.mem_cons_of_mem _ (hreduced.mem_left_iff.1 hc).1.1
  have hold : tip.id ∉ p.pending.ids :=
    fun hmem => (hreduced.mem_left_iff.1 hmem).1.2.1 (.refl _)
  obtain ⟨chosen, rest, hforward, hchosen, hrest⟩ := firstFastForward_ok hold
    fun c hc => hi.ancestry tip.id (List.mem_cons_self ..) c (hsub c hc)
  rw [choice_of_reduced hreduced] at hchosen
  subst hchosen
  refine ⟨r, p, _, rest, hreduce, hforward, rfl, fun w => ?_⟩
  obtain ⟨hbatch, horder, hpushes, hwritten, hleads⟩ := turnAway_books s pending w p rest
  refine ⟨fun id c => ?_, horder, hpushes, hleads, hreduced.contains_iff, hreduced.covers,
    fun c => ?_⟩
  · rw [hbatch]
    exact Session.start_batch pending w id c
  · rw [hwritten]
    exact settled_of_reduced (l := p.outcomes) hreduced hrest (by simpa using houtcomes) c

/-- On an intact history that stays as it is a submission gets through its first half. -/
theorem opening_ok (hs : s.Steady w) (hi : (s.history w).IntactAbove tip.id pending.ids) :
    ∃ r x, opening s tip pending w = .ok (r, choice (s.history w) tip pending, x) ∧
      Opened s (s.history w) tip pending w r x := by
  obtain ⟨r, p, chosen, rest, hreduce, hforward, rfl, hopened⟩ := decisions_ok (s := s) hi
  refine ⟨r, (reduced s pending w p).turnAway s rest, ?_, hopened w⟩
  have hstart : s.history (s.notify (.phase .reducing) w) = s.history w := hs _ (.notify _ .refl)
  have hnext : s.history (reduced s pending w p).world = s.history w :=
    hs _ (.notify _ (.notify _ .refl))
  rw [← hstart] at hreduce
  simp only [opening, Session.tell, Session.start] at hnext ⊢
  rw [hreduce]
  dsimp only
  rw [hnext, hforward]

/-- A submission that gets through its first half met no cycles. -/
theorem intactAbove_of_opening (hs : s.Steady w)
    (hi : (s.history w).Legible (tip.id :: pending.ids))
    (ho : opening s tip pending w = .ok (r, chosen, x)) :
    (s.history w).IntactAbove tip.id pending.ids := by
  obtain ⟨p, rest, hreduce, _, _⟩ := opening_inv ho
  rw [hs _ (.notify _ .refl)] at hreduce
  exact intactAbove_of_reduce hi hreduce

/-- Where no object of an intact history changes, a first half that comes to its end decided as that
history has it. -/
theorem opening_of_agrees (ha : s.Agrees w h) (hi : h.Intact (tip.id :: pending.ids))
    (ho : opening s tip pending w = .ok (r, chosen, x)) :
    chosen = choice h tip pending ∧ Opened s h tip pending w r x := by
  obtain ⟨p, rest, hreduce, hforward, rfl⟩ := opening_inv ho
  obtain ⟨r', p', chosen', rest', hreduce', hforward', rfl, hopened⟩ :=
    decisions_ok (s := s) hi.above
  obtain ⟨rfl, rfl⟩ := reduce_eq_of_agree (ha _ (.notify _ .refl)) hreduce' hreduce
  obtain ⟨rfl, rfl⟩ :=
    firstFastForward_eq_of_agree (ha _ (.notify _ (.notify _ .refl))) hforward' hforward
  exact ⟨rfl, hopened w⟩

end Opening

/-- On an intact history a submission comes as far as the choice of the new tip, and the mirror has
no part in that. -/
theorem run_opened {w : σ} (hs : s.Steady w)
    (hi : (s.history w).Intact (tip.id :: pending.ids)) (plan : Plan) :
    ∃ r x, Opened s (s.history w) tip pending w r x ∧
      run s plan tip pending w = x.close s plan tip (choice (s.history w) tip pending) r ∧
      ∀ mirror moveRef, run (s.answering mirror moveRef) plan tip pending w =
        x.close (s.answering mirror moveRef) plan tip (choice (s.history w) tip pending) r := by
  obtain ⟨r, x, hopening, ho⟩ := opening_ok hs hi.above
  refine ⟨r, x, ho, run_of_opening hopening plan, fun mirror moveRef => ?_⟩
  have hsame : opening (s.answering mirror moveRef) tip pending w = opening s tip pending w := rfl
  exact run_of_opening (hsame.trans hopening) plan

end Landing.Submission
