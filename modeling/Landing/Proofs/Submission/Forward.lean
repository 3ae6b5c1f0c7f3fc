import Landing.Proofs.Submission.Mirrored
import Landing.Proofs.Submission.Protocol

/-! When the mirror moves by fast-forwards alone. A walk gives parents before children, but a commit
of the walk need not be built on the one before it. -/
namespace Landing.Submission
open History Reduction
open Rehearsal (services)
open Rehearsal.Crossing (above beside merge old batch world sync calm intact)
variable {σ : Type} {s : Services σ} {h : History} {w : σ} {tip : TrackedCommit}
  {pending : PendingSet}

/-- Every call asks the mirror to move to a commit that is built on the one where it is. -/
def Forward (h : History) (calls : List (Mirror.Request × Option Mirror.Result)) : Prop :=
  ∀ e ∈ calls, h.Reaches e.1.oldRev e.1.newRev

/-- Calls on top of each other go forward exactly if each commit is built on all before it. -/
theorem Orderly.forward_iff {commits : List TrackedCommit} {current : CommitId}
    {ids : List CommitId} {calls : List (Mirror.Request × Option Mirror.Result)}
    (ho : Orderly commits current ids calls) :
    Forward h calls ↔ (current :: calls.map (·.1.newRev)).Pairwise h.Reaches := by
  have hstacked := ho.stacked
  clear ho
  induction calls generalizing current with
  | nil => simp [Forward]
  | cons e calls ih =>
    rw [List.map_cons, List.map_cons, List.dropLast_cons_cons, List.cons.injEq] at hstacked
    obtain ⟨hold, hstacked⟩ := hstacked
    rw [List.map_cons, List.pairwise_cons, Forward, List.forall_mem_cons, hold]
    constructor
    · rintro ⟨hfirst, hrest⟩
      have hline := (ih hstacked).1 hrest
      refine ⟨List.forall_mem_cons.2 ⟨hfirst, fun c hc => ?_⟩, hline⟩
      exact hfirst.trans (List.rel_of_pairwise_cons hline hc)
    · rintro ⟨hall, hline⟩
      exact ⟨hall _ List.mem_cons_self, (ih hstacked).2 hline⟩

/-- The calls of a submission on an intact history follow the walk to the chosen commit. -/
theorem calls_of_run (hs : s.Steady w) (hi : (s.history w).Intact (tip.id :: pending.ids))
    (plan : Plan) : ∃ rest new,
      Followed (s.history w) tip.id (choice (s.history w) tip pending).id new
        ((run s plan tip pending w).session.pushes.map (·.1.newRev)) rest ∧
      ∃ ids, Orderly pending.commits tip.id ids (run s plan tip pending w).session.pushes := by
  obtain ⟨ids, horder, hstacked, hmem⟩ := range_ok (intact_choice hi)
  obtain ⟨r, x, hopening, ho⟩ := opening_ok hs hi.above
  rcases calls_of_opening hopening plan with hnone | ⟨ids', hwalk, horderly⟩
  · rw [hnone]
    exact ⟨ids, tip.id, ⟨horder, hstacked, hmem, rfl⟩, ids, .nil _ _ _⟩
  · rw [hs x.world ho.leads, horder] at hwalk
    cases hwalk
    obtain ⟨rest, hrest⟩ := horderly.followed
    refine ⟨rest, _, ⟨?_, ?_, ?_, rfl⟩, ids, horderly⟩
    · rw [hrest]
      exact horder
    · rw [hrest]
      exact hstacked
    · rw [hrest]
      exact hmem

/-- In a chain, the walk goes up. -/
theorem Followed.sorted {tip chosen new : CommitId} {done rest : List CommitId}
    (hf : Followed h tip chosen new done rest) (hchain : Chain h tip chosen) :
    (done ++ rest).Pairwise h.Reaches := by
  refine hf.pairwise.imp_of_mem fun {c d} hc hd hdc => ?_
  have hrange := (hf.mem_iff c).1 hc
  have hrange' := (hf.mem_iff d).1 hd
  exact (hchain c d hrange.1 hrange.2 hrange'.1 hrange'.2).resolve_right hdc

/-- When every push is a fast-forward. In any run, this is so exactly if all that the mirror is
asked for is one line above the tip. So it is whenever the commits on the way are such a line;
and where they are not, and the mirror is asked for all of them, some push is none. -/
theorem pushes_forward_iff (hs : s.Steady w) (hi : (s.history w).Intact (tip.id :: pending.ids))
    (plan : Plan) :
    (Forward (s.history w) (run s plan tip pending w).session.pushes ↔
      (tip.id :: (run s plan tip pending w).session.pushes.map (·.1.newRev)).Pairwise
        (s.history w).Reaches) ∧
    (Ahead (s.history w) tip.id (choice (s.history w) tip pending).id →
      Chain (s.history w) tip.id (choice (s.history w) tip pending).id →
      Forward (s.history w) (run s plan tip pending w).session.pushes) ∧
    ((choice (s.history w) tip pending).id ∈
        (run s plan tip pending w).session.pushes.map (·.1.newRev) →
      Forward (s.history w) (run s plan tip pending w).session.pushes →
      Ahead (s.history w) tip.id (choice (s.history w) tip pending).id ∧
        Chain (s.history w) tip.id (choice (s.history w) tip pending).id) := by
  obtain ⟨rest, new, hf, ids, horderly⟩ := calls_of_run hs hi plan
  refine ⟨horderly.forward_iff, fun hahead hchain => ?_, fun hall hforward => ?_⟩
  · rw [horderly.forward_iff, List.pairwise_cons]
    refine ⟨fun c hc => hahead c (hf.mem_range hc).1 (hf.mem_range hc).2, ?_⟩
    exact (List.pairwise_append.1 (hf.sorted hchain)).1
  · obtain rfl := hf.rest_eq_nil hall
    have hmem := hf.mem_iff
    rw [List.append_nil] at hmem
    rw [horderly.forward_iff, List.pairwise_cons] at hforward
    exact ⟨fun c hc htip => hforward.1 c ((hmem c).2 ⟨hc, htip⟩),
      chain_of_pairwise hforward.2 hmem⟩

/-- All is pushed, and the commit beside the tip goes on top of one on which it is not built. -/
theorem pushes_forward_iff_crossing :
    merge ∈ (run services sync old batch world).session.pushes.map (·.1.newRev) ∧
      ¬ Forward (services.history world) (run services sync old batch world).session.pushes := by
  have hall : merge ∈ (run services sync old batch world).session.pushes.map (·.1.newRev) := by
    decide +kernel
  refine ⟨hall, fun hforward => Crossing.not_ahead ?_⟩
  rw [← Crossing.choice_id] at hall
  exact ((pushes_forward_iff calm.steady intact sync).2.2 hall hforward).1

end Landing.Submission
