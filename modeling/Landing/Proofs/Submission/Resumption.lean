import Landing.Proofs.Rehearsal
import Landing.Proofs.Submission.Course

/-! A line of commits that is submitted again and again, each time on top of where the branch is by
then: whatever fails on the way, the mirror takes every commit once, and in order. -/
namespace Landing.Submission
open History Reduction
open Rehearsal (services)
open Rehearsal.Crossing (root beside further world main sync digit forked beyond resting approved
  calm calm_resting forked_intact forked_line)
variable {σ : Type} {s : Services σ} {h : History} {w : σ} {ref : σ → Option CommitId}
  {tip : TrackedCommit} {pending : PendingSet} {base : CommitId}
  {done rest accepted : List CommitId}

/-- A line of commits is submitted to a branch that has `done` of it, but not `rest`. -/
structure Partway (h : History) (base : CommitId) (done rest : List CommitId) (tip : CommitId)
    (pending : PendingSet) : Prop where
  line : h.Line base (done ++ rest)
  tip_eq : tip = done.getLast?.getD base
  submitted : pending.ids.Perm (done ++ rest)

namespace Partway

theorem left (hp : Partway h base done rest tip.id pending) : h.Line tip.id rest := by
  rw [hp.tip_eq]
  exact hp.line.drop

theorem tip_mem (hp : Partway h base done rest tip.id pending) :
    tip.id ∈ base :: (done ++ rest) := by
  rw [hp.tip_eq]
  cases hlast : done.getLast? with
  | none => exact List.mem_cons_self
  | some d =>
    exact List.mem_cons_of_mem base (List.mem_append_left rest (List.mem_of_getLast? hlast))

theorem reaches_tip (hp : Partway h base done rest tip.id pending) {c : CommitId}
    (hc : c ∈ base :: done) : h.Reaches c tip.id := by
  rw [hp.tip_eq]
  exact hp.line.take.reaches_last hc

/-- Above the tip a line has no cycles, whatever is below. -/
theorem intactAbove (hp : Partway h base done rest tip.id pending)
    (hi : h.Legible (base :: (done ++ rest))) : h.IntactAbove tip.id pending.ids where
  toLegible := hi.mono (List.cons_subset.2
    ⟨hp.tip_mem, fun _ hc => List.mem_cons_of_mem base (hp.submitted.subset hc)⟩)
  acyclic := by
    rintro p c ⟨d, hd, hcd⟩ hc hparent
    refine hp.line.not_reaches_parent ?_ hparent
    exact (hp.line.reaches_cases (hp.submitted.subset hd) hcd).resolve_right
      fun hbase => hc (hbase.trans (hp.reaches_tip List.mem_cons_self))

/-- What is left of the line can be merged, and nothing else. -/
theorem mergeable_iff (hp : Partway h base done rest tip.id pending) (c : CommitId) :
    Mergeable h tip.id pending.ids c ↔ c ∈ rest := by
  constructor
  · rintro ⟨hc, habove, _⟩
    refine (List.mem_append.1 (hp.submitted.subset hc)).resolve_left fun hdone => ?_
    exact habove (hp.reaches_tip (List.mem_cons_of_mem base hdone))
  · intro hc
    have hbatch : ∀ {d}, d ∈ rest → d ∈ pending.ids :=
      fun hd => hp.submitted.symm.subset (List.mem_append_right done hd)
    exact ⟨hbatch hc, hp.left.above c hc,
      fun x hx => (hp.left.reaches_cases hc hx).symm.imp_right hbatch⟩

/-- If a commit is chosen it is the last, and the walk goes through all that is left. -/
theorem walk_eq (hp : Partway h base done rest tip.id pending)
    (hne : (choice h tip pending).id ≠ tip.id) {new : CommitId} {taken left : List CommitId}
    (hf : Followed h tip.id (choice h tip pending).id new taken left) : taken ++ left = rest := by
  have hhead := head_choice hne
  have hchosen : (choice h tip pending).id ∈ rest := (hp.mergeable_iff _).1 hhead.1
  have hlast : rest.getLast?.getD tip.id = (choice h tip pending).id := by
    obtain ⟨d, hd⟩ : ∃ d, rest.getLast? = some d := Followed.exists_last hchosen
    have hreach := hp.left.reaches_last (List.mem_cons_of_mem tip.id hchosen)
    rw [hd, Option.getD_some] at hreach ⊢
    exact hhead.2 d ((hp.mergeable_iff d).2 (List.mem_of_getLast? hd)) hreach
  have hperm : (taken ++ left).Perm rest :=
    (List.perm_ext_iff_of_nodup hf.nodup hp.left.nodup).2 fun c => by
      rw [hf.mem_iff, hp.left.mem_iff, hlast]
  exact hp.left.eq_of_perm hperm hf.pairwise

variable {x y : Session σ} {r : Reduction} {new : TrackedCommit} {branch : Branch}
  {tickets : TicketMatcher}

/-- The mirror follows the line for some way, and the new tip is where it stops. -/
theorem bringIn (hp : Partway (s.history w) base done rest tip.id pending) (hs : s.Steady w)
    (hi : (s.history w).Legible (base :: (done ++ rest)))
    (hb : Branch.isMirrored branch.name = true)
    (ho : Opened s (s.history w) tip pending w r x)
    (he : x.bringIn s ⟨branch, .mirrored tickets, accepted⟩ r tip
      (choice (s.history w) tip pending) = (new, y)) :
    y.mirrored <+: rest ∧ new.id = y.mirrored.getLast?.getD tip.id ∧ s.Leads w y.world := by
  have hchoice := (hp.intactAbove hi).of_mem (choice_id_mem (s.history w) tip pending)
  rcases Session.bringIn_cases (hs x.world ho.leads) hchoice ho.batch_id he with
    ⟨rfl, rfl, hskip⟩ | ⟨_, taken, left, _, _, hne, hf, hpassage⟩
  · have hsame := (hskip tickets rfl).resolve_right (by simp [hb])
    rw [ho.mirrored]
    exact ⟨List.nil_prefix, hsame, ho.leads⟩
  · rw [hpassage.mirrored ho.batch_id, ho.mirrored, List.nil_append]
    exact ⟨⟨left, hp.walk_eq hne hf⟩, hf.new_eq, ho.leads.trans hpassage.keeps.2.2⟩

/-- What comes in with a commit of the line can be ordered. -/
theorem order_ok (hp : Partway h base done rest tip.id pending)
    (hi : h.Legible (base :: (done ++ rest ++ accepted))) {id : CommitId}
    (hid : id ∈ tip.id :: rest) :
    ∃ l, h.order [id] (accepted ++ [tip.id]) .oldestFirst = .ok l := by
  have hline : base :: (done ++ rest) ⊆ base :: (done ++ rest ++ accepted) :=
    List.cons_subset_cons _ (List.subset_append_left ..)
  have hnew : id ∈ tip.id :: pending.ids :=
    (List.mem_cons.1 hid).elim (fun he => List.mem_cons.2 (.inl he)) fun hid =>
      List.mem_cons_of_mem _ (hp.submitted.symm.subset (List.mem_append_right done hid))
  have habove := (hp.intactAbove (hi.mono hline)).of_mem hnew
  have hid : h.Legible [id] := habove.toLegible.mono (by simp)
  have hhidden : h.Legible (accepted ++ [tip.id]) := by
    refine hi.mono (List.append_subset.2 ⟨fun c hc => ?_, ?_⟩)
    · exact List.mem_cons_of_mem base (List.mem_append_right (done ++ rest) hc)
    · simpa using hline hp.tip_mem
  obtain ⟨l, _, hl, _⟩ := History.order_ok
    (habove.acyclic.mono (fun _ => .of_mem)
      fun c hc => below_append.2 (.inr (below_singleton.2 hc)))
    hid.bounded hhidden.bounded (fun c hc _ => hid.readable c hc) hhidden.readable
  exact ⟨_, hl⟩

end Partway

/-- A submission that ended well moves the branch from where it was to the new tip. -/
theorem ref_moveBranch (plan : Plan) {id : CommitId} {r : Report σ} {landed : Landed}
    (href : s.Holds plan.branch.name ref w) (hw : ref w = some id)
    (hleads : s.Leads w r.session.world) (hok : r.result = .ok landed) :
    (moveBranch s plan id r).session.pushes = r.session.pushes ∧
      ref (moveBranch s plan id r).session.world = some landed.newTip.id := by
  have hheld : ref r.session.world = some id := (href.kept _ hleads).trans hw
  rw [moveBranch, hok]
  dsimp only
  split
  · rename_i hsame
    exact ⟨rfl, hsame ▸ hheld⟩
  · obtain ⟨hupdated, hmoved⟩ := href.moved _ id landed.newTip.id hleads hheld
    have hask : r.session.ask (s.moveRef plan.branch.name (some id) landed.newTip.id) =
        (.ok .updated, (r.session.ask (s.moveRef plan.branch.name (some id) landed.newTip.id)).2) :=
      Prod.ext hupdated rfl
    rw [hask]
    exact ⟨rfl, hmoved⟩

/-- One submission. The mirror takes some more of the line, and the branch goes to the last commit
that it took. -/
theorem integrate_partway (hp : Partway (s.history w) base done rest tip.id pending)
    (hs : s.Steady w) (hi : (s.history w).Legible (base :: (done ++ rest ++ accepted)))
    {branch : Branch} (hb : Branch.isMirrored branch.name = true)
    (href : s.Holds branch.name ref w) (hw : ref w = some tip.id) (tickets : TicketMatcher) :
    let r := integrate s ⟨branch, .mirrored tickets, accepted⟩ tip pending w
    r.session.mirrored <+: rest ∧
      ref r.session.world = some (r.session.mirrored.getLast?.getD tip.id) := by
  have hi' : (s.history w).Legible (base :: (done ++ rest)) :=
    hi.mono (List.cons_subset_cons _ (List.subset_append_left ..))
  obtain ⟨r, x, hopening, ho⟩ := opening_ok hs (hp.intactAbove hi')
  obtain ⟨new, y, hbring⟩ : ∃ new y, x.bringIn s ⟨branch, .mirrored tickets, accepted⟩ r tip
      (choice (s.history w) tip pending) = (new, y) := ⟨_, _, rfl⟩
  obtain ⟨hfront, hnew, hy⟩ := hp.bringIn hs hi' hb ho hbring
  obtain ⟨result, z, hconclude⟩ : ∃ result z,
      y.conclude s ⟨branch, .mirrored tickets, accepted⟩ tip.id r new = (result, z) := ⟨_, _, rfl⟩
  obtain ⟨hpushes, hz, hcases⟩ := Session.conclude_cases hconclude
  have hmem : new.id ∈ tip.id :: rest := by
    rw [hnew]
    cases hlast : y.mirrored.getLast? with
    | none => exact List.mem_cons_self
    | some d => exact List.mem_cons_of_mem _ (hfront.subset (List.mem_of_getLast? hlast))
  obtain ⟨l, hl⟩ := hp.order_ok hi hmem
  have hrun : run s ⟨branch, .mirrored tickets, accepted⟩ tip pending w = ⟨result, {}, z⟩ := by
    rw [run_of_opening hopening]
    simp only [Session.close, hbring, hconclude]
  have hworld : s.history (y.tell s (.phase .marking)).world = s.history w := hs _ (.notify _ hy)
  rcases hcases with ⟨e, _, horder⟩ | ⟨_, _, _, _, _, rfl⟩
  · rw [hworld, hl] at horder
    cases horder
  · have hmirrored : z.mirrored = y.mirrored := by rw [Session.mirrored, hpushes, Session.mirrored]
    obtain ⟨hsame, hmoved⟩ := ref_moveBranch ⟨branch, .mirrored tickets, accepted⟩
      (r := ⟨.ok _, {}, z⟩) href hw (hy.trans hz) rfl
    dsimp only
    rw [integrate, hrun, hmoved, hnew, Session.mirrored, hsame, ← Session.mirrored, hmirrored]
    exact ⟨hfront, rfl⟩

/-- A line of commits on `base` is submitted some number of times. Every time it is given in any
order, on top of where the branch is, and the systems around the submission are new but for the
history and the branch. The mirror took `taken` in all, and the branch is now at `held`. -/
inductive Retried (h : History) (branch : Branch) (base : CommitId) (line : List CommitId) :
    (taken : List CommitId) → (held : Option CommitId) → Prop where
  | start : Retried h branch base line [] (some base)
  | again {σ : Type} {s : Services σ} {ref : σ → Option CommitId} {w : σ} {taken : List CommitId}
      {tip : TrackedCommit} {pending : PendingSet} {tickets : TicketMatcher}
      {accepted : List CommitId} : Retried h branch base line taken (some tip.id) →
      s.history w = h → s.Steady w → h.Legible (base :: (line ++ accepted)) →
      s.Holds branch.name ref w → ref w = some tip.id → pending.ids.Perm line →
      Retried h branch base line
        (taken ++
          (integrate s ⟨branch, .mirrored tickets, accepted⟩ tip pending w).session.mirrored)
        (ref (integrate s ⟨branch, .mirrored tickets, accepted⟩ tip pending w).session.world)

/-- However often a line is submitted, and whatever fails on the way, the mirror has taken the first
commits of the line, each once and in order, and the branch is at the last of them. -/
theorem taken_of_retried {branch : Branch} {line taken : List CommitId} {held : Option CommitId}
    (hl : h.Line base line) (hb : Branch.isMirrored branch.name = true)
    (hr : Retried h branch base line taken held) :
    taken <+: line ∧ taken.Nodup ∧ held = some (taken.getLast?.getD base) := by
  suffices hfront : taken <+: line ∧ held = some (taken.getLast?.getD base) from
    ⟨hfront.1, hl.nodup.sublist hfront.1.sublist, hfront.2⟩
  induction hr with
  | start => exact ⟨List.nil_prefix, rfl⟩
  | @again σ s ref w taken tip pending tickets accepted _ hw hs hi href hat hp ih =>
    subst hw
    obtain ⟨⟨rest, rfl⟩, htip⟩ := ih
    obtain ⟨⟨left, hleft⟩, hheld⟩ := integrate_partway ⟨hl, Option.some.inj htip, hp⟩ hs hi hb href
      hat tickets
    refine ⟨⟨left, by rw [List.append_assoc, hleft]⟩, ?_⟩
    rw [hheld, Option.some.inj htip, List.getLast?_append]
    cases List.getLast? _ <;> rfl

/-- Once more, in a calm rehearsal. -/
private theorem retried_resting {w : Rehearsal.World} (hw : w.Calm) (id : CommitId)
    (parents : List CommitId) {taken : List CommitId}
    (hr : Retried forked.history main root [beside, further] taken (some id)) :
    let r := integrate services sync ⟨id, parents, "TICKET: 1", none⟩ beyond (resting w id)
    Retried forked.history main root [beside, further] (taken ++ r.session.mirrored)
      (r.session.world.graph.readRef main.name) := by
  have hp : beyond.ids.Perm [beside, further] := List.Perm.swap beside further []
  have hi : forked.history.Legible (root :: ([beside, further] ++ [])) :=
    (forked_intact (by decide +kernel)).above.toLegible
  have hcalm := calm_resting hw id
  have hat : (resting w id).graph.readRef main.name = some id := by
    simp [resting, Graph.setRef, Graph.readRef]
  exact .again hr (forked.history_setRef main.name id) hcalm.steady hi (hcalm.holds main.name)
    hat hp

/-- At first nobody approved the last commit, and the mirror takes the one below it. Then it takes
the last. -/
theorem taken_of_retried_forked : ∃ taken held,
    Retried forked.history main root [beside, further] taken held ∧ taken = [beside, further] ∧
      taken.Nodup ∧ held = some (taken.getLast?.getD root) := by
  have hfirst : Retried forked.history main root [beside, further] [beside] (some beside) := by
    have hstep := retried_resting calm root [] .start
    have htaken : (integrate services sync ⟨root, [], "TICKET: 1", none⟩ beyond
        (resting world root)).session.mirrored = [beside] := by decide +kernel
    have hheld : (integrate services sync ⟨root, [], "TICKET: 1", none⟩ beyond
        (resting world root)).session.world.graph.readRef main.name = some beside := by
      decide +kernel
    dsimp only at hstep
    rwa [htaken, hheld] at hstep
  have happroved : (approved world 4).Calm := ⟨calm.hooks, calm.phases⟩
  have hlast := retried_resting happroved beside [root] hfirst
  have htaken : (integrate services sync ⟨beside, [root], "TICKET: 1", none⟩ beyond
      (resting (approved world 4) beside)).session.mirrored = [further] := by decide +kernel
  dsimp only at hlast
  rw [htaken] at hlast
  exact ⟨_, _, hlast, rfl, (taken_of_retried forked_line (by decide +kernel) hlast).2⟩

end Landing.Submission
