import Landing.Proofs.Submission.Marking
import Landing.Proofs.Submission.Push

/-! The end of a submission: what landed is marked, and no commit of the batch is left over. -/
namespace Landing.Submission.Session
open History
variable {σ : Type} {s : Services σ} {x y : Session σ}

/-- The last outcome for a commit that was left over. -/
def leftover (r : Reduction) (id : CommitId) : Outcome :=
  if r.folded.contains id then .dependencyBlocked else .internalError

/-- A ledger in which each commit of `order` that has no outcome gets the one for commits left
over. -/
def closed (r : Reduction) (order : List CommitId) (l : Outcome.Ledger) : Outcome.Ledger :=
  (order.filter (!l.isFinal ·)).foldl (fun l id => l.finalize id (leftover r id)) l

theorem resolveLeftovers_eq (x : Session σ) (r : Reduction) :
    x.resolveLeftovers r = { x with outcomes := closed r x.order x.outcomes } := by
  have hfold : ∀ (ids : List CommitId) (x : Session σ),
      ids.foldl (fun x id => x.finalize id (leftover r id)) x =
        { x with
          outcomes := ids.foldl (fun l id => l.finalize id (leftover r id)) x.outcomes } := by
    intro ids
    induction ids with
    | nil => exact fun _ => rfl
    | cons id ids ih => exact fun x => ih (x.finalize id (leftover r id))
  exact hfold x.unsettled x

theorem get?_closed (r : Reduction) (order : List CommitId) (l : Outcome.Ledger) (c : CommitId) :
    (closed r order l).get? c =
      (l.get? c).or (if c ∈ order then some (leftover r c) else none) := by
  have hfold : ∀ (ids : List CommitId) (l : Outcome.Ledger),
      (ids.foldl (fun l id => l.finalize id (leftover r id)) l).get? c =
        (l.get? c).or (if c ∈ ids then some (leftover r c) else none) := by
    intro ids
    induction ids with
    | nil => simp
    | cons id ids ih =>
      intro l
      rw [List.foldl_cons, ih, Outcome.Ledger.get?_finalize]
      by_cases hc : c = id
      · subst hc
        cases l.get? c <;> simp
      · simp [hc]
  rw [closed, hfold]
  cases hc : l.get? c <;> simp [Outcome.Ledger.isFinal, hc]

/-- The last outcomes when `landed` came in: of the other commits of the batch without an outcome,
those that were folded are blocked. -/
theorem get?_closed_landed (r : Reduction) (x : Session σ) (landed : List CommitId)
    (c : CommitId) :
    (closed r x.order
        (x.outcomes.finalizeAll (landed.filter x.batch.contains) .cleanMerge)).get? c =
      (x.outcomes.get? c).or (if x.batch.contains c ∧ c ∈ landed then some .cleanMerge
        else if c ∈ x.order then some (leftover r c) else none) := by
  have hlanded : c ∈ landed.filter x.batch.contains ↔ x.batch.contains c = true ∧ c ∈ landed := by
    rw [List.mem_filter, and_comm]
  rw [get?_closed, Outcome.Ledger.get?_finalizeAll, Option.or_assoc]
  congr 1
  by_cases hc : x.batch.contains c = true ∧ c ∈ landed
  · rw [if_pos hc, if_pos (hlanded.2 hc), Option.some_or]
  · rw [if_neg hc, if_neg (fun hm => hc (hlanded.1 hm)), Option.none_or]

variable {plan : Plan} {tip : CommitId} {r : Reduction} {newTip : TrackedCommit}

/-- However a submission ends, it asks the mirror for nothing more. It fails in the end only if it
cannot order what landed. Otherwise outcomes are given for all of the batch. -/
theorem conclude_cases {result : Except Error Landed}
    (he : x.conclude s plan tip r newTip = (result, y)) :
    y.pushes = x.pushes ∧ s.Leads x.world y.world ∧
    ((∃ e, result = .error e ∧ (s.history (x.tell s (.phase .marking)).world).order [newTip.id]
      (plan.accepted ++ [tip]) .oldestFirst = .error e) ∨
    ∃ l, (s.history (x.tell s (.phase .marking)).world).order [newTip.id] (plan.accepted ++ [tip])
        .oldestFirst = .ok l ∧
      ∃ a w, Attributed s (x.patchSets (x.unmarked l)) (x.tell s (.phase .marking)).world a w ∧
      result = .ok ⟨newTip,
        closed r x.order (x.outcomes.finalizeAll (l.filter x.batch.contains) .cleanMerge), a⟩) := by
  have hx := Quiet.tell s x (.phase .marking)
  rw [conclude] at he
  dsimp only at he
  rcases (x.tell s (.phase .marking)).mark_cases s newTip.id (plan.accepted ++ [tip]) with
    ⟨e, horder, hmark⟩ | ⟨l, a, w, horder, hmark, hattributed⟩
  · rw [hmark] at he
    cases he
    exact ⟨rfl, hx.leads, .inl ⟨e, rfl, horder⟩⟩
  · have hclosed : Quiet s { x with
          outcomes := closed r x.order
            (x.outcomes.finalizeAll (l.filter x.batch.contains) .cleanMerge) }
        (((x.tell s (.phase .marking)).merged
          ((x.tell s (.phase .marking)).unmarked l) w).resolveLeftovers r) := by
      rw [resolveLeftovers_eq, merged, finalizeAll_unmarked (nodup_of_order horder)]
      exact ⟨rfl, rfl, rfl, rfl, hx.leads.trans hattributed.leads⟩
    rw [hmark] at he
    dsimp only at he
    generalize ((x.tell s (.phase .marking)).merged _ w).resolveLeftovers r = z at he hclosed
    cases he
    have hend := hclosed.trans ((quiet_flush s z).trans (.tell s _ (.phase .done)))
    exact ⟨hend.pushes, hend.leads, .inr ⟨l, horder, a, w, hattributed, by rw [hend.outcomes]⟩⟩

/-- Where the history can be read, a submission ends well. Of the commits of the batch that have no
outcome, those have landed that the new tip brings in. -/
theorem conclude_ok (plan : Plan) (tip : CommitId) (r : Reduction) {h : History}
    (hh : ∀ w, s.Leads x.world w → s.history w = h) (ha : h.Acyclic)
    (hb : h.Bounded [newTip.id]) (hr : ∀ c, h.Reaches c newTip.id → h.Readable c)
    (hba : h.Bounded (plan.accepted ++ [tip]))
    (hra : ∀ c, h.Below (plan.accepted ++ [tip]) c → h.Readable c) :
    ∃ landed y, x.conclude s plan tip r newTip = (.ok landed, y) ∧ landed.newTip = newTip ∧
      ∀ c, landed.outcomes.get? c = (x.outcomes.get? c).or (open Classical in
        if x.batch.contains c ∧ h.Reaches c newTip.id ∧ ¬ h.Below (plan.accepted ++ [tip]) c
        then some .cleanMerge
        else if c ∈ x.order then some (leftover r c) else none) := by
  classical
  obtain ⟨l, _, hl, _, hmem⟩ := order_ok (ha.past _ _) hb hba
    (fun c hc _ => hr c (below_singleton.1 hc)) hra
  have hworld : s.history (x.tell s (.phase .marking)).world = h := hh _ (.notify _ .refl)
  obtain ⟨result, y, he⟩ : ∃ result y, x.conclude s plan tip r newTip = (result, y) :=
    ⟨_, _, rfl⟩
  rcases (conclude_cases he).2.2 with ⟨e, _, horder⟩ | ⟨l', horder, _, _, _, rfl⟩
  · rw [hworld, hl] at horder
    cases horder
  · rw [hworld, hl] at horder
    cases horder
    refine ⟨_, y, he, rfl, fun c => ?_⟩
    have hlanded : c ∈ l.reverse ↔
        h.Reaches c newTip.id ∧ ¬ h.Below (plan.accepted ++ [tip]) c := by
      rw [List.mem_reverse, hmem, below_singleton]
    simp only [get?_closed_landed, hlanded]

end Landing.Submission.Session
