import Landing.Proofs.Submission.Failure
import Landing.Proofs.Submission.Trail

/-! What becomes of the commits of a batch when a submission fails. Each step of a reduction takes
commits out of the batch, and what it found of them is lost with an error in a later step. -/
namespace Landing.Reduction
variable {h : History} {tip : CommitId} {pending : PendingSet} {e : Error}

/-- A reduction found that the tip contains `c`, or that `c` needs a commit from elsewhere. -/
def Resolved (h : History) (tip : CommitId) (batch : List CommitId) (c : CommitId) : Prop :=
  h.isAncestor c tip = .ok true ∨ needsMore h tip batch c = .ok true

/-- A reduction of `pending` that fails with `e`, and what it has taken out by then. -/
inductive Interrupted (h : History) (tip : CommitId) (pending : PendingSet) (e : Error) :
    (CommitId → Prop) → Prop where
  /-- All of the batch is compared with the tip before anything is taken out. -/
  | comparing : select (h.isAncestor · tip) pending.ids = .error e →
    Interrupted h tip pending e fun _ => False
  | missing {merged} : select (h.isAncestor · tip) pending.ids = .ok merged →
    select (needsMore h tip pending.ids) (pending.without merged).ids = .error e →
    Interrupted h tip pending e fun c => h.isAncestor c tip = .ok true
  | folding {merged missing} : select (h.isAncestor · tip) pending.ids = .ok merged →
    select (needsMore h tip pending.ids) (pending.without merged).ids = .ok missing →
    link h.isAncestor ((pending.without merged).without missing).ids .empty
      ((pending.without merged).without missing).ids = .error e →
    Interrupted h tip pending e (Resolved h tip pending.ids)

variable {l : Outcome.Ledger} {q : Progress}

theorem mem_ids_resolved {merged missing : List CommitId}
    (hmerged : select (h.isAncestor · tip) pending.ids = .ok merged)
    (hmissing : select (needsMore h tip pending.ids) (pending.without merged).ids = .ok missing)
    {c : CommitId} (hc : c ∈ pending.ids) :
    c ∈ ((pending.without merged).without missing).ids ↔ ¬ Resolved h tip pending.ids c := by
  rw [PendingSet.mem_ids_without, mem_select hmissing, PendingSet.mem_ids_without,
    mem_select hmerged, Resolved]
  simp only [hc, true_and]
  tauto

/-- A reduction leaves what it has not taken out: if it comes to its end, what is neither resolved
nor folded. -/
theorem reduce_cases {result : Except Error Reduction}
    (hq : h.reduce tip ⟨pending, l⟩ = (result, q)) :
    (∃ e taken, result = .error e ∧ Interrupted h tip pending e taken ∧
      ∀ c ∈ pending.ids, c ∈ q.pending.ids ↔ ¬ taken c) ∨
    ∃ r, result = .ok r ∧ ∀ c ∈ pending.ids,
      c ∈ q.pending.ids ↔ ¬ (Resolved h tip pending.ids c ∨ r.folded.contains c = true) := by
  rw [History.reduce] at hq
  split at hq
  · rename_i e hmerged
    cases hq
    exact .inl ⟨e, _, rfl, .comparing hmerged, fun c hc => by simp [hc]⟩
  rename_i merged hmerged
  rw [resolveMissing] at hq
  split at hq
  · rename_i e hmissing
    cases hq
    refine .inl ⟨e, _, rfl, .missing hmerged hmissing, fun c hc => ?_⟩
    change c ∈ (pending.without merged).ids ↔ _
    rw [PendingSet.mem_ids_without, mem_select hmerged]
    simp [hc]
  rename_i missing hmissing
  have hresolved : ∀ c ∈ pending.ids,
      c ∈ ((pending.without merged).without missing).ids ↔ ¬ Resolved h tip pending.ids c :=
    fun c => mem_ids_resolved hmerged hmissing
  rw [fold] at hq
  split at hq
  · rename_i e hlink
    cases hq
    exact .inl ⟨e, _, rfl, .folding hmerged hmissing hlink, hresolved⟩
  · rename_i folded _
    cases hq
    refine .inr ⟨_, rfl, fun c hc => ?_⟩
    have hleft := PendingSet.mem_ids_of_filter
      (q := (((pending.without merged).without missing).extract ((shorten folded).contains ·.id)).2)
      (!(shorten folded).contains ·) rfl c
    rw [not_or, ← hresolved c hc, Bool.not_eq_true, ← Bool.not_eq_true']
    exact hleft

theorem firstFastForward_error {old : TrackedCommit} {rest : PendingSet}
    (hrest : h.firstFastForward old pending = (.error e, rest)) : rest = pending := by
  rw [History.firstFastForward] at hrest
  split at hrest
  · cases hrest
    rfl
  · cases hrest
  · split at hrest <;> cases hrest

end Landing.Reduction

namespace Landing.Submission
open History Reduction
open Rehearsal (services)
open Rehearsal.Crossing (above beside merge batch sync advanced torn)
variable {σ : Type} {s : Services σ} {plan : Plan} {tip : TrackedCommit} {pending : PendingSet}
  {w : σ} {e : Error}

/-- A commit is still waiting, or an outcome was made known for it. -/
def Report.Accounted (rep : Report σ) (c : CommitId) : Prop :=
  c ∈ rep.pending.ids ∨ ∃ o, (c, o) ∈ rep.session.told

/-- A submission that fails with `e`, and the commits that it drops. -/
inductive Drops (s : Services σ) (plan : Plan) (tip : TrackedCommit) (pending : PendingSet) (w : σ)
    (e : Error) : (CommitId → Prop) → Prop where
  | reducing {taken} :
    Interrupted (s.history (announced s [.reducing] w)) tip.id pending e taken →
    Drops s plan tip pending w e taken
  /-- The outcomes of what was resolved were not made known. -/
  | selecting {r p} :
    (s.history (announced s [.reducing] w)).reduce tip.id ⟨pending, .empty⟩ = (.ok r, p) →
    ((s.history (announced s [.reducing, .selecting] w)).firstFastForward tip p.pending).1 =
      .error e →
    Drops s plan tip pending w e fun c =>
      Resolved (s.history (announced s [.reducing] w)) tip.id pending.ids c ∨
        r.folded.contains c = true
  /-- Nothing is waiting any more, and the outcomes so far were made known. -/
  | marking {r chosen x newTip y} : opening s tip pending w = .ok (r, chosen, x) →
    x.bringIn s plan r tip chosen = (newTip, y) →
    (s.history (y.tell s (.phase .marking)).world).order [newTip.id] (plan.accepted ++ [tip.id])
      .oldestFirst = .error e →
    Drops s plan tip pending w e fun c => y.outcomes.get? c = none

/-- Where phases were announced and nothing else was done, no outcome was made known. -/
theorem Announces.accounted_iff {phases : List Phase} {rep : Report σ}
    (hx : Announces s w phases rep.session) (c : CommitId) :
    rep.Accounted c ↔ c ∈ rep.pending.ids := by
  have htold : rep.session.told = [] := by
    simp [Session.told, hx.journal]
  simp [Report.Accounted, htold]

theorem Session.Complete.mem_told_iff {x : Session σ} (hx : x.Complete) (c : CommitId) :
    (∃ o, (c, o) ∈ x.told) ↔ x.outcomes.get? c ≠ none := by
  simp only [hx.told, Outcome.Ledger.mem_entries_iff, Option.ne_none_iff_exists', eq_comm]

/-- When a submission fails, exactly those commits of the batch are still waiting, or were told an
outcome, that it does not drop. It drops what a reduction has taken out when a later read fails,
and, if what landed cannot be put in order, all that has no outcome by then. -/
theorem accounted_iff_of_error (he : (run s plan tip pending w).result = .error e) :
    ∃ dropped, Drops s plan tip pending w e dropped ∧
      ∀ c ∈ pending.ids, (run s plan tip pending w).Accounted c ↔ ¬ dropped c := by
  have hfailure := failure_of_error he
  generalize run s plan tip pending w = rep at hfailure
  cases hfailure with
  | opening hu =>
    cases hu with
    | reducing hreduce hx =>
      rcases reduce_cases hreduce with ⟨_, taken, he, htaken, hleft⟩ | ⟨_, hr, _⟩
      · cases he
        exact ⟨taken, .reducing htaken, fun c hc => (hx.accounted_iff c).trans (hleft c hc)⟩
      · cases hr
    | selecting hreduce hforward hx =>
      rcases reduce_cases hreduce with ⟨_, _, he, _⟩ | ⟨_, hr, hleft⟩
      · cases he
      · cases hr
        refine ⟨_, .selecting hreduce (congrArg Prod.fst hforward), fun c hc => ?_⟩
        rw [hx.accounted_iff, firstFastForward_error hforward]
        exact hleft c hc
  | @marking r chosen x newTip y ho hbring horder =>
    refine ⟨_, .marking ho hbring horder, fun c hc => ?_⟩
    obtain ⟨_, hopened⟩ := accounts_opening (.never s) ho
    obtain ⟨_, hin⟩ := Session.accounts_bringIn (.never s)
      (hopened.batch ▸ batch_id_start pending w) hopened.complete hbring
    have hlast : (y.tell s (.phase .marking)).Complete :=
      hin.complete.of_logs (.tell (.never s) y (by simp) (by simp)) rfl
    have hempty : c ∉ ({} : PendingSet).ids := List.not_mem_nil
    rw [Report.Accounted, hlast.mem_told_iff, or_iff_right hempty]
    rfl

/-- The tip contains the first commit of the batch, and the last one cannot be read. The first one
is neither waiting after that nor told an outcome. -/
theorem accounted_iff_of_error_torn :
    (run services sync advanced batch torn).result = .error (.corruptObject merge) ∧
    (run services sync advanced batch torn).pending.ids = [beside, merge] ∧
    (run services sync advanced batch torn).session.told = [] ∧
    ∃ dropped, Drops services sync advanced batch torn (.corruptObject merge) dropped ∧
      dropped above := by
  have hresult : (run services sync advanced batch torn).result =
      .error (.corruptObject merge) := by decide
  have hpending : (run services sync advanced batch torn).pending.ids = [beside, merge] := by
    decide
  have htold : (run services sync advanced batch torn).session.told = [] := by decide
  obtain ⟨dropped, hdrops, hiff⟩ := accounted_iff_of_error hresult
  have hlost : ¬ (run services sync advanced batch torn).Accounted above := by
    rw [Report.Accounted, hpending, htold]
    rintro (hwaiting | ⟨o, htell⟩)
    · exact absurd hwaiting (by decide)
    · cases htell
  exact ⟨hresult, hpending, htold, dropped, hdrops,
    not_not.1 (mt (hiff above (by decide)).2 hlost)⟩

end Landing.Submission
