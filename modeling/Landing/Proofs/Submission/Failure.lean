import Landing.Proofs.History.Reading
import Landing.Proofs.Rehearsal
import Landing.Proofs.Submission.Opening

/-! Submissions that fail: where that can happen, and what was done by then. -/
namespace Landing.Submission
open History
open Rehearsal (World services)
open Rehearsal.Crossing (graph merge old batch sync calm torn)
variable {σ : Type} {s : Services σ} {plan : Plan} {tip : TrackedCommit} {pending : PendingSet}
  {w : σ} {e : Error}

/-- How a submission ends with `e`: no tip can be chosen, or what landed not be put in order. -/
inductive Failure (s : Services σ) (plan : Plan) (tip : TrackedCommit) (pending : PendingSet)
    (w : σ) (e : Error) : Report σ → Prop where
  | opening {rep} : Undecided s tip pending w e rep → Failure s plan tip pending w e rep
  | marking {r chosen x newTip y} : opening s tip pending w = .ok (r, chosen, x) →
    x.bringIn s plan r tip chosen = (newTip, y) →
    (s.history (y.tell s (.phase .marking)).world).order [newTip.id] (plan.accepted ++ [tip.id])
      .oldestFirst = .error e →
    Failure s plan tip pending w e ⟨.error e, {}, y.tell s (.phase .marking)⟩

/-- A submission fails in its first half, or when it marks what landed. -/
theorem failure_of_error (he : (run s plan tip pending w).result = .error e) :
    Failure s plan tip pending w e (run s plan tip pending w) := by
  cases ho : opening s tip pending w with
  | error e' =>
    obtain rfl : e' = e := Except.error.inj ((run_of_opening_error ho plan).1.symm.trans he)
    exact .opening (undecided_of_opening ho plan)
  | ok o =>
    obtain ⟨r, chosen, x⟩ := o
    obtain ⟨newTip, y, hbring⟩ : ∃ newTip y, x.bringIn s plan r tip chosen = (newTip, y) :=
      ⟨_, _, rfl⟩
    rw [run_of_opening ho, Session.close, hbring] at he ⊢
    dsimp only at he ⊢
    rw [Session.conclude, Session.mark] at he ⊢
    cases horder : (s.history (y.tell s (.phase .marking)).world).order [newTip.id]
        (plan.accepted ++ [tip.id]) .oldestFirst with
    | error e' =>
      simp only [horder] at he ⊢
      cases he
      exact .marking ho hbring horder
    | ok l =>
      simp only [horder] at he
      cases he

/-- A read that fails with `e` has a part in the choice of the new tip: with other answers the batch
would be reduced otherwise, or another of what is left be chosen. -/
inductive Breaks (s : Services σ) (tip : TrackedCommit) (pending : PendingSet) (w : σ) (e : Error) :
    Prop where
  | reducing : Decisive (·.reduce tip.id ⟨pending, .empty⟩) e
      (s.history (announced s [.reducing] w)) → Breaks s tip pending w e
  | selecting {r p} :
    (s.history (announced s [.reducing] w)).reduce tip.id ⟨pending, .empty⟩ = (.ok r, p) →
    Decisive (·.firstFastForward tip p.pending) e
      (s.history (announced s [.reducing, .selecting] w)) → Breaks s tip pending w e

theorem Breaks.opening (hb : Breaks s tip pending w e) : opening s tip pending w = .error e := by
  rw [opening_error_iff]
  cases hb with
  | reducing hd => exact .inl ((Prompt.reduce _ _).error_of_decisive hd)
  | selecting hreduce hd =>
    exact .inr ⟨_, _, hreduce, (Prompt.firstFastForward _ _).error_of_decisive hd⟩

/-- Except in a history without an end, a first half fails at no other read. -/
theorem breaks_iff (he : e ≠ endless) :
    Breaks s tip pending w e ↔ opening s tip pending w = .error e := by
  refine ⟨Breaks.opening, fun ho => ?_⟩
  rcases opening_error_iff.1 ho with hreduce | ⟨r, p, hreduce, hforward⟩
  · exact .reducing (((Prompt.reduce _ _).decisive_iff he).2 hreduce)
  · exact .selecting hreduce (((Prompt.firstFastForward _ _).decisive_iff he).2 hforward)

/-- Nothing is done before the new tip is chosen. If a read fails by then, a submission fails for
the same reason, has announced its first phases and has done no more, and the branch is not moved.
Conversely, whatever the systems around it answer, it fails only where the history cannot be read at
last, for the reason that is given, or has no end. -/
theorem run_fault (s : Services σ) (plan : Plan) (tip : TrackedCommit) (pending : PendingSet)
    (w : σ) :
    (∀ e, Breaks s tip pending w e → (run s plan tip pending w).result = .error e ∧
      (∃ phases, phases <+: [.reducing, .selecting] ∧
        Announces s w phases (run s plan tip pending w).session) ∧
      integrate s plan tip pending w = run s plan tip pending w) ∧
    ∀ e, (run s plan tip pending w).result = .error e →
      (s.history (run s plan tip pending w).session.world).Fails e ∨
        e = endless ∧ ¬ (s.history (run s plan tip pending w).session.world).Ends := by
  refine ⟨fun e hb => ?_, fun e he => ?_⟩
  · have hu := undecided_of_opening hb.opening plan
    refine ⟨hu.result, hu.announces, ?_⟩
    rw [integrate, moveBranch, hu.result]
  · have hfailure := failure_of_error he
    generalize run s plan tip pending w = rep at hfailure
    cases hfailure with
    | opening hu =>
      cases hu with
      | reducing hreduce hx =>
        rw [hx.world]
        exact (Prompt.reduce _ _).cause (congrArg Prod.fst hreduce)
      | selecting _ hforward hx =>
        rw [hx.world]
        exact (Prompt.firstFastForward _ _).cause (congrArg Prod.fst hforward)
    | marking _ _ horder => exact (Prompt.order _ _ _).cause horder

/-- In a calm rehearsal phases are written down at most. -/
theorem announced_calm {w : World} (hw : w.Calm) (phases : List Phase) :
    ∃ log, announced services phases w = { w with log := log } := by
  induction phases generalizing w with
  | nil => exact ⟨w.log, rfl⟩
  | cons p phases ih =>
    have hnotify : ∃ log, services.notify (.phase p) w = { w with log := log } := by
      simp only [services, World.notify]
      split
      · have hnone : (w.write (.event (.phase p))).onPhase p = [] := hw.phases p
        rw [hnone]
        exact ⟨_, rfl⟩
      · exact ⟨w.log, rfl⟩
    obtain ⟨log, hlog⟩ := hnotify
    obtain ⟨last, hlast⟩ := ih (w := { w with log := log }) ⟨hw.hooks, hw.phases⟩
    refine ⟨last, ?_⟩
    rw [announced, List.foldl_cons, hlog]
    exact hlast

/-- The merge cannot be read, so neither the trails of changes nor any ref is touched. -/
theorem run_fault_torn :
    (run services sync old batch torn).result = .error (.corruptObject merge) ∧
    (run services sync old batch torn).session.world.store = torn.store ∧
    (integrate services sync old batch torn).session.world.graph = torn.graph ∧
    torn.graph.history.Fails (.corruptObject merge) := by
  have hbreaks : Breaks services old batch torn (.corruptObject merge) :=
    .reducing ⟨graph.history, graph.mended_corruptCommit merge, by decide⟩
  obtain ⟨hfault, hcause⟩ := run_fault services sync old batch torn
  obtain ⟨hresult, ⟨phases, _, hx⟩, hsame⟩ := hfault _ hbreaks
  obtain ⟨log, hlog⟩ := announced_calm (w := torn) ⟨calm.hooks, calm.phases⟩ phases
  have hfails := hcause _ hresult
  rw [hx.world, hlog] at hfails
  refine ⟨hresult, ?_, ?_, hfails.resolve_right fun hend => ?_⟩
  · rw [hx.world, hlog]
  · rw [hsame, hx.world, hlog]
  · cases hend.1

end Landing.Submission
