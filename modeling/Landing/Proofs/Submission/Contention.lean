import Landing.Proofs.Rehearsal
import Landing.Proofs.Submission.Frame

/-! Submissions that contend for one branch: each computes for as long as it takes, and then moves
the branch if that is still where it was. No update gets lost. -/
namespace Landing.Submission
open Rehearsal (services World)
open Rehearsal.Crossing
variable {σ ι : Type}

/-- The same systems with other answers to those who move a ref. -/
def Services.moving (s : Services σ)
    (moveRef : String → Option CommitId → CommitId → σ → Except Error RefUpdate × σ) :
    Services σ :=
  { s with moveRef := moveRef }

section Moving
variable (s : Services σ)
  (moveRef : String → Option CommitId → CommitId → σ → Except Error RefUpdate × σ)

/-- To push a range no ref is moved. By induction on the range: no push moves one, nor does a
halt. -/
theorem Session.pushEach_moving (tickets : TicketMatcher) (branch : Branch)
    (range taken : List CommitId) (current : TrackedCommit) (x : Session σ) (ids : List CommitId) :
    pushEach (s.moving moveRef) tickets branch range taken current x ids =
      pushEach s tickets branch range taken current x ids := by
  have hpush : ∀ (x : Session σ) current c,
      x.push (s.moving moveRef) tickets branch current c = x.push s tickets branch current c :=
    fun _ _ _ => rfl
  have hhalt : ∀ (x : Session σ) rest taken o,
      x.halt (s.moving moveRef) rest range taken o = x.halt s rest range taken o :=
    fun _ _ _ _ => rfl
  have hhistory : (s.moving moveRef).history = s.history := rfl
  induction ids generalizing taken current x with
  | nil => rfl
  | cons id ids ih => simp only [pushEach, hpush, hhalt, hhistory, ih]

theorem Session.markEach_moving (approval : Option SubmitApproval) (x : Session σ)
    (landed : List CommitId) :
    markEach (s.moving moveRef) approval x landed = markEach s approval x landed := by
  have hsubmitter : (s.moving moveRef).submitterOf = s.submitterOf := rfl
  induction landed generalizing approval x with
  | nil => rfl
  | cons id rest ih => simp only [markEach, hsubmitter, ih]

/-- A submission is computed without moving a ref. -/
theorem run_moving (plan : Plan) (tip : TrackedCommit) (pending : PendingSet) (w : σ) :
    run (s.moving moveRef) plan tip pending w = run s plan tip pending w := by
  have htell : ∀ (x : Session σ) e, x.tell (s.moving moveRef) e = x.tell s e := fun _ _ => rfl
  have hflush : ∀ x : Session σ, x.flush (s.moving moveRef) = x.flush s := fun _ => rfl
  have hhalt : ∀ (x : Session σ) rest range taken o,
      x.halt (s.moving moveRef) rest range taken o = x.halt s rest range taken o :=
    fun _ _ _ _ _ => rfl
  have hhistory : (s.moving moveRef).history = s.history := rfl
  simp only [run, Session.land, Session.bringIn, Session.mirrorRange, Session.conclude,
    Session.mark, htell, hflush, hhalt, hhistory, Session.pushEach_moving,
    Session.markEach_moving]

end Moving

/-- Any number of submissions to the branch `name` of a graph in memory, each with a tip, a batch
and a plan of its own. -/
structure Contest (σ ι : Type) where
  services : Services σ
  graph : σ → Graph
  name : String
  plan : ι → Plan
  tip : ι → TrackedCommit
  pending : ι → PendingSet
  on_branch : ∀ i, (plan i).branch.name = name
  swaps : ∀ old new w,
    (services.moveRef name old new w).1 = .ok ((graph w).compareAndSwap name old new).1 ∧
      graph (services.moveRef name old new w).2 = ((graph w).compareAndSwap name old new).2

/-- What can happen in a contest, at any time and in any order. -/
inductive Act (ι : Type) where
  /-- A hook, someone who watches, or anyone else writes. -/
  | write
  /-- A submission is computed. -/
  | finish (i : ι)
  /-- A submission that is computed moves the branch, if it does, and ends. -/
  | swap (i : ι)

/-- How far a contest is: the systems as they are, what was computed, and how submissions ended. -/
structure Standing (σ ι : Type) where
  world : σ
  computed : ι → Option (Except Error Landed) := fun _ => none
  results : ι → Option (Except Error Landed) := fun _ => none

namespace Contest
variable (c : Contest σ ι)

def ref (x : Standing σ ι) : Option CommitId := (c.graph x.world).readRef c.name

/-- What a submission can compute. Others act in the meantime, so any systems may answer it. -/
def Computes (i : ι) (result : Except Error Landed) : Prop :=
  ∃ (τ : Type) (s : Services τ) (v : τ),
    (run s (c.plan i) (c.tip i) (c.pending i) v).result = result

/-- How a submission ends that finds the contest at `x` and leaves it at `y`. -/
inductive Verdict (i : ι) (x y : Standing σ ι) : Prop where
  | moved {landed} : c.Computes i (.ok landed) → landed.newTip.id ≠ (c.tip i).id →
      c.ref x = some (c.tip i).id → c.ref y = some landed.newTip.id →
      c.graph y.world = (c.graph x.world).setRef c.name landed.newTip.id →
      y.results i = some (.ok landed) → Verdict i x y
  | stayed {landed} : c.Computes i (.ok landed) → landed.newTip.id = (c.tip i).id →
      c.graph y.world = c.graph x.world → y.results i = some (.ok landed) → Verdict i x y
  | failed {e} : c.Computes i (.error e) → c.graph y.world = c.graph x.world →
      y.results i = some (.error e) → Verdict i x y
  | lost {landed} : c.Computes i (.ok landed) → landed.newTip.id ≠ (c.tip i).id →
      c.ref x ≠ some (c.tip i).id → c.graph y.world = c.graph x.world →
      y.results i = some (.error (.lockFailure c.name (c.tip i).id
        (((c.ref x).map (·.hex)).getD "<none>") false)) → Verdict i x y

/-- After the submission `i`, with the report `r`, has tried to move the branch. -/
def swapped [DecidableEq ι] (x : Standing σ ι) (i : ι) (r : Report σ) : Standing σ ι :=
  let r := moveBranch c.services (c.plan i) (c.tip i).id r
  { x with world := r.session.world, results := Function.update x.results i (some r.result) }

/-- A submission is computed once, and ends once. What is written while it is computed counts as
written by others. To swap is one act: the graph is locked meanwhile. -/
inductive Step [DecidableEq ι] : Standing σ ι → Act ι → Standing σ ι → Prop where
  | write {x} (w : σ) : Step x .write { x with world := w }
  | finish {x i result} : x.computed i = none → c.Computes i result →
      Step x (.finish i) { x with computed := Function.update x.computed i (some result) }
  | swap {x i} {r : Report σ} : x.computed i = some r.result → x.results i = none →
      r.session.world = x.world → Step x (.swap i) (c.swapped x i r)

/-- One act after the other. -/
inductive Execution [DecidableEq ι] : Standing σ ι → List (Act ι) → Standing σ ι → Prop where
  | nil {x} : Execution x [] x
  | cons {x a y acts z} : c.Step x a y → Execution y acts z → Execution x (a :: acts) z

variable {c} {i : ι} {x y : Standing σ ι}

/-- Nothing counts as computed but what a submission can compute. -/
def Sound (c : Contest σ ι) (x : Standing σ ι) : Prop :=
  ∀ i result, x.computed i = some result → c.Computes i result

theorem sound_start (w : σ) : c.Sound { world := w } := by
  intro i result hfound
  cases hfound

/-- A submission that changes the branch takes it away from its own tip. -/
theorem Verdict.left (hv : c.Verdict i x y) (hne : c.ref y ≠ c.ref x) :
    c.ref x = some (c.tip i).id ∧ c.ref y ≠ some (c.tip i).id := by
  have hkept : c.graph y.world = c.graph x.world → c.ref y = c.ref x :=
    congrArg fun g : Graph => g.readRef c.name
  cases hv with
  | moved _ hnew hheld hmoved _ _ =>
    rw [hmoved]
    exact ⟨hheld, fun he => hnew (Option.some.inj he)⟩
  | stayed _ _ hgraph _ => exact absurd (hkept hgraph) hne
  | failed _ hgraph _ => exact absurd (hkept hgraph) hne
  | lost _ _ _ hgraph _ => exact absurd (hkept hgraph) hne

variable [DecidableEq ι]

theorem Sound.step {a : Act ι} (hx : c.Sound x) (hstep : c.Step x a y) : c.Sound y := by
  cases hstep with
  | write w => exact hx
  | @finish i result _ hcomputes =>
    intro k found hfound
    dsimp only at hfound
    obtain rfl | hne := eq_or_ne k i
    · rw [Function.update_self, Option.some.injEq] at hfound
      exact hfound ▸ hcomputes
    · rw [Function.update_of_ne hne] at hfound
      exact hx k found hfound
  | swap _ _ _ => exact hx

theorem Sound.execution {acts : List (Act ι)} (hx : c.Sound x) (h : c.Execution x acts y) :
    c.Sound y := by
  induction h with
  | nil => exact hx
  | cons hstep _ ih => exact ih (hx.step hstep)

/-- A submission that swaps ends in one of four ways. -/
theorem Sound.verdict (hx : c.Sound x) (hstep : c.Step x (.swap i) y) : c.Verdict i x y := by
  cases hstep with | @swap _ r hcomputed _ hworld
  have hcomputes := hx i r.result hcomputed
  have hresult : (c.swapped x i r).results i =
      some (moveBranch c.services (c.plan i) (c.tip i).id r).result := Function.update_self ..
  have hgraph : c.graph (c.swapped x i r).world =
      c.graph (moveBranch c.services (c.plan i) (c.tip i).id r).session.world := rfl
  rw [moveBranch, c.on_branch] at hresult hgraph
  -- the branch is asked for only if there is a new tip
  cases hr : r.result with
  | error e =>
    simp only [hr, hworld] at hresult hgraph hcomputes
    exact .failed hcomputes hgraph hresult
  | ok landed =>
    rw [hr] at hcomputes
    by_cases hsame : landed.newTip.id = (c.tip i).id
    · simp only [hr, hsame, if_true, hworld] at hresult hgraph
      exact .stayed hcomputes hsame hgraph hresult
    obtain ⟨hanswer, hafter⟩ := c.swaps (some (c.tip i).id) landed.newTip.id x.world
    simp only [hr, if_neg hsame, Session.ask, hworld, hanswer] at hresult hgraph
    by_cases hheld : c.ref x = some (c.tip i).id
    · have hswap : (c.graph x.world).compareAndSwap c.name (some (c.tip i).id) landed.newTip.id =
          (.updated, (c.graph x.world).setRef c.name landed.newTip.id) := if_pos hheld
      rw [hswap] at hresult hgraph hafter
      have hmoved := hgraph.trans hafter
      refine .moved hcomputes hsame hheld ?_ hmoved hresult
      rw [ref, hmoved]
      exact Table.get?_insert_self _ _ _
    · have hswap : (c.graph x.world).compareAndSwap c.name (some (c.tip i).id) landed.newTip.id =
          (.lockFailure (c.ref x), c.graph x.world) := if_neg hheld
      rw [hswap] at hresult hgraph hafter
      exact .lost hcomputes hsame hheld (hgraph.trans hafter) hresult

/-- What has ended stays so. -/
theorem Step.unended {a : Act ι} (hstep : c.Step x a y) (hy : y.results i = none) :
    x.results i = none ∧ a ≠ .swap i := by
  cases hstep with
  | write w => exact ⟨hy, nofun⟩
  | finish _ _ => exact ⟨hy, nofun⟩
  | @swap k r _ _ _ =>
    dsimp only [swapped] at hy
    have hne : i ≠ k := by
      rintro rfl
      rw [Function.update_self] at hy
      cases hy
    rw [Function.update_of_ne hne] at hy
    exact ⟨hy, fun he => hne (Act.swap.inj he).symm⟩

/-- A submission that has not ended has not swapped. -/
theorem Execution.unended {acts : List (Act ι)} (h : c.Execution x acts y)
    (hy : y.results i = none) : x.results i = none ∧ .swap i ∉ acts := by
  induction h with
  | nil => exact ⟨hy, List.not_mem_nil⟩
  | cons hstep _ ih =>
    obtain ⟨hnone, hmem⟩ := ih hy
    obtain ⟨hnone, hne⟩ := hstep.unended hnone
    exact ⟨hnone, fun h => (List.mem_cons.1 h).elim (fun he => hne he.symm) hmem⟩

/-- The branch is put back to `id` by another write alone: not by a submission that was computed for
`id`. -/
theorem Sound.back {a : Act ι} {id : CommitId} (hx : c.Sound x) (hstep : c.Step x a y)
    (hne : c.ref x ≠ some id) (hback : c.ref y = some id) :
    a = .write ∨ ∃ k, a = .swap k ∧ (c.tip k).id ≠ id := by
  have hchanged : c.ref y ≠ c.ref x := fun he => hne (he ▸ hback)
  cases a with
  | write => exact .inl rfl
  | finish k =>
    cases hstep
    exact absurd rfl hchanged
  | swap k =>
    refine .inr ⟨k, rfl, ?_⟩
    rintro rfl
    exact hne ((hx.verdict hstep).left hchanged).1

/-- If the branch comes to be at `id`, some act takes it there. By induction on the execution: it is
the first act, unless the branch is not at `id` after it. -/
theorem Sound.put_back {acts : List (Act ι)} {id : CommitId} (hx : c.Sound x)
    (h : c.Execution x acts y) (hne : c.ref x ≠ some id) (hback : c.ref y = some id) :
    ∃ before a after u v, acts = before ++ a :: after ∧ c.Execution x before u ∧
      c.Step u a v ∧ c.Execution v after y ∧ c.ref u ≠ some id ∧ c.ref v = some id ∧
      (a = .write ∨ ∃ k, a = .swap k ∧ (c.tip k).id ≠ id) := by
  induction h with
  | nil => exact absurd hback hne
  | @cons x a v acts z hstep h ih =>
    by_cases hv : c.ref v = some id
    · exact ⟨[], a, acts, x, v, rfl, .nil, hstep, h, hne, hv, hx.back hstep hne hv⟩
    · obtain ⟨before, b, after, u, u', rfl, hbefore, hrest⟩ := ih (hx.step hstep) hv hback
      exact ⟨a :: before, b, after, u, u', rfl, .cons hstep hbefore, hrest⟩

/-- Whatever others do, a submission that is computed can end. -/
theorem exists_swap {result : Except Error Landed} (hcomputed : x.computed i = some result)
    (hunended : x.results i = none) : ∃ y, c.Step x (.swap i) y :=
  ⟨_, .swap (r := ⟨result, {}, .start (c.pending i) x.world⟩) hcomputed hunended rfl⟩

/-- A submission that nobody interrupts ends as if there were no contest. -/
theorem execution_integrate (c : Contest σ ι) (i : ι) (w : σ) :
    ∃ y, c.Execution { world := w } [.finish i, .write, .swap i] y ∧
      y.world = (integrate c.services (c.plan i) (c.tip i) (c.pending i) w).session.world ∧
      y.results i =
        some (integrate c.services (c.plan i) (c.tip i) (c.pending i) w).result := by
  let r := run c.services (c.plan i) (c.tip i) (c.pending i) w
  have hcomputes : c.Computes i r.result := ⟨σ, c.services, w, rfl⟩
  refine ⟨_, .cons (.finish rfl hcomputes) (.cons (.write r.session.world)
    (.cons (.swap (r := r) ?_ rfl rfl) .nil)), rfl, Function.update_self ..⟩
  exact Function.update_self ..

end Contest

/-- No update gets lost. Whatever has happened before, a submission swaps once: it takes the branch
from its own tip to its own new tip, or it writes nothing and says why. If a submission for the same
tip moves the branch after it, another write has put the branch back to that tip in between. And to
compute a submission moves no ref. -/
theorem no_update_lost [DecidableEq ι] (c : Contest σ ι) {w : σ} {i : ι} {acts : List (Act ι)}
    {x y : Standing σ ι} (hx : c.Execution { world := w } acts x) (hy : c.Step x (.swap i) y) :
    c.Verdict i x y ∧ .swap i ∉ acts ∧
    (∀ j acts' u v, (c.tip j).id = (c.tip i).id → c.Execution y acts' u →
      c.Step u (.swap j) v → c.ref y ≠ c.ref x → c.ref v ≠ c.ref u →
      ∃ before a after p q, acts' = before ++ a :: after ∧ c.Execution y before p ∧
        c.Step p a q ∧ c.Execution q after u ∧ c.ref p ≠ some (c.tip i).id ∧
        c.ref q = some (c.tip i).id ∧
        (a = .write ∨ ∃ k, a = .swap k ∧ (c.tip k).id ≠ (c.tip i).id)) ∧
    (∀ (τ : Type) (s : Services τ) moveRef v,
      run (s.moving moveRef) (c.plan i) (c.tip i) (c.pending i) v =
        run s (c.plan i) (c.tip i) (c.pending i) v) := by
  have hsound : c.Sound x := (Contest.sound_start w).execution hx
  have hverdict := hsound.verdict hy
  have hunended : x.results i = none := by
    cases hy
    assumption
  refine ⟨hverdict, (hx.unended hunended).2, fun j acts' u v htip hu hv hfirst hsecond => ?_,
    fun τ s moveRef v => run_moving s moveRef ..⟩
  have hleft := (hverdict.left hfirst).2
  have hback := ((hsound.step hy).execution hu).verdict hv
  exact (hsound.step hy).put_back hu hleft (htip ▸ (hback.left hsecond).1)

namespace Crossing

/-- Two submissions of a batch for one tip, one of them with a mirror. -/
def contest : Contest World Bool where
  services := services
  graph := World.graph
  name := main.name
  plan mirrored := if mirrored then sync else ⟨main, .localOnly, []⟩
  tip _ := old
  pending _ := batch
  on_branch mirrored := by cases mirrored <;> rfl
  swaps _ _ _ := ⟨rfl, rfl⟩

/-- What a submission computes that nobody interrupts. -/
@[irreducible]
def result (mirrored : Bool) : Except Error Landed :=
  (run services (contest.plan mirrored) (contest.tip mirrored) (contest.pending mirrored)
    (resting world base)).result

theorem computes_result (mirrored : Bool) : contest.Computes mirrored (result mirrored) :=
  ⟨World, services, resting world base, by rw [result]⟩

def reported (mirrored : Bool) (w : World) : Report World :=
  ⟨result mirrored, {}, .start batch w⟩

/-- Both submissions are computed. -/
def ready : Standing World Bool where
  world := resting world base
  computed := Function.update (Function.update (fun _ => none) false (some (result false))) true
    (some (result true))

theorem computed_ready (mirrored : Bool) : ready.computed mirrored = some (result mirrored) := by
  cases mirrored <;> rfl

/-- The first has moved the branch. -/
def ahead : Standing World Bool := contest.swapped ready false (reported false ready.world)

/-- Someone has put the branch back. -/
def back : Standing World Bool := { ahead with world := resting world base }

theorem execution_ready :
    contest.Execution { world := resting world base } [.finish false, .finish true] ready :=
  .cons (.finish rfl (computes_result false)) (.cons (.finish rfl (computes_result true)) .nil)

theorem step_ahead : contest.Step ready (.swap false) ahead :=
  .swap (computed_ready false) rfl rfl

end Crossing

open Crossing in
/-- Both submissions move the branch; in between it is put back. -/
theorem no_update_lost_twice :
    contest.Verdict false ready ahead ∧ ∃ before a after p q, [Act.write] = before ++ a :: after ∧
      contest.Execution ahead before p ∧ contest.Step p a q ∧ contest.Execution q after back ∧
      contest.ref p ≠ some base ∧ contest.ref q = some base ∧
      (a = .write ∨ ∃ k, a = .swap k ∧ (contest.tip k).id ≠ base) := by
  obtain ⟨hverdict, _, hput, _⟩ := no_update_lost contest execution_ready step_ahead
  have hsecond : contest.Step back (.swap true)
      (contest.swapped back true (reported true back.world)) :=
    .swap (computed_ready true) rfl rfl
  exact ⟨hverdict, hput true [.write] back _ rfl (.cons (.write _) .nil) hsecond
    (by decide +kernel) (by decide +kernel)⟩

end Landing.Submission
