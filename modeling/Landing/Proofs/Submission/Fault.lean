import Landing.Proofs.Submission.Mirrored

/-! Submissions whose walk to the mirror breaks off: commits that could be read when the tip was
chosen cannot be read when their turn comes. -/
namespace Landing.Submission
open History Reduction
open Rehearsal (services)
open Rehearsal.Crossing (base above beside merge further old wider wearing main sync digit
  wearing_agrees wearing_intact)
variable {σ : Type} {s : Services σ} {w : σ} {h : History} {plan : Plan}
  {tip chosen : TrackedCommit} {pending : PendingSet} {r : Reduction} {x : Session σ}
  {landed : Landed} {branch : Branch} {tickets : TicketMatcher} {done rest : List CommitId}

namespace Session

/-- The walk from `tip` to `chosen` breaks off. Either it cannot be ordered, or the mirror takes
`done`, and then a commit in front of `rest` cannot be read. -/
inductive WalkFault (s : Services σ) (tickets : TicketMatcher) (branch : Branch)
    (tip chosen : TrackedCommit) (x : Session σ) : List CommitId → List CommitId → Prop where
  | unordered {e} : (s.history x.world).order [chosen.id] [tip.id] .oldestFirst = .error e →
      WalkFault s tickets branch tip chosen x [] []
  | unread {done id rest last y e} :
      (s.history x.world).order [chosen.id] [tip.id] .oldestFirst = .ok (done ++ id :: rest) →
      Passes s tickets branch tip x done last y → (s.history y.world).read id = .error e →
      WalkFault s tickets branch tip chosen x done rest

/-- Of a walk that breaks off, what the mirror took comes in. The rest is given up, and so are the
commits that the range stands for. -/
theorem WalkFault.bringIn (hf : x.WalkFault s tickets plan.branch tip chosen done rest)
    (ha : h.Agree (s.history x.world)) (hi : h.IntactAbove tip.id [chosen.id])
    (hbatch : ∀ id c, x.batch.get? id = some c → c.id = id)
    (hp : plan.policy = .mirrored tickets) (hb : Branch.isMirrored plan.branch.name = true)
    (hne : chosen.id ≠ tip.id) : ∃ last y ahead, Passes s tickets plan.branch tip x done last y ∧
      Followed h tip.id chosen.id last.id done ahead ∧ x.bringIn s plan r tip chosen =
        (last, y.halt s rest (x.range r chosen.id) done.reverse .internalError) := by
  obtain ⟨l, horder, hstacked, hmem⟩ := range_ok hi
  cases hf with
  | unordered hfail =>
    refine ⟨tip, x, l, .nil tip x, ⟨horder, hstacked, hmem, rfl⟩, ?_⟩
    simp only [Session.bringIn, hp, mirrorRange, hne, hb, hfail]
    rfl
  | @unread _ id _ last y e hwalk hpasses hread =>
    obtain rfl := ha.order_eq horder hwalk
    refine ⟨last, y, id :: rest, hpasses, ⟨horder, hstacked, hmem, hpasses.last_id hbatch⟩, ?_⟩
    rw [bringIn_eq hp hb hne hwalk, hpasses.pushEach_append hbatch, pushEach, List.append_nil]
    simp only [hread]

end Session

namespace Opened

/-- The books when a walk has broken off. Of the commits that the mirror did not take, those have an
outcome that the walk had still to give, or that the range stands for. -/
theorem bringIn_of_walkFault (plan : Plan) (ho : Opened s h tip pending w r x)
    (ha : s.Agrees w h) (hi : h.Intact (tip.id :: pending.ids))
    (hp : plan.policy = .mirrored tickets)
    (hb : Branch.isMirrored plan.branch.name = true) (hne : (choice h tip pending).id ≠ tip.id)
    (hf : x.WalkFault s tickets plan.branch tip (choice h tip pending) done rest) :
    ∃ last y, x.bringIn s plan r tip (choice h tip pending) = (last, y) ∧ s.Leads w y.world ∧
      y.mirrored = done ∧ y.order = pending.ids ∧ last.id ∈ tip.id :: pending.ids ∧
      ∀ c, h.Reaches c (choice h tip pending).id → ¬ h.Reaches c tip.id → c ∉ done →
        ¬ h.Reaches c last.id ∧ y.outcomes.get? c =
          if c ∈ rest ∨ c = (choice h tip pending).id ∨
            r.folded.get? c = some (choice h tip pending).id then some .internalError
          else none := by
  obtain ⟨last, y, ahead, hpasses, hfollowed, hbring⟩ :=
    hf.bringIn (r := r) (ha _ ho.leads) (intact_choice hi) ho.batch_id hp hb hne
  have hquiet := hpasses.quiet
  have hhalt := Session.quiet_halt s y rest (x.range r (choice h tip pending).id) done.reverse
    .internalError
  have horder : y.order = pending.ids := hquiet.order.trans ho.order
  refine ⟨last, _, hbring, (ho.leads.trans hquiet.leads).trans hhalt.leads, ?_,
    hhalt.order.trans horder, ?_, fun c hc htip hdone => ⟨?_, ?_⟩⟩
  · rw [Session.mirrored_halt, hpasses.mirrored ho.batch_id, ho.mirrored, List.nil_append]
  · rcases List.mem_cons.1 hfollowed.new_mem with he | hmem
    · exact List.mem_cons.2 (.inl he)
    · exact List.mem_cons_of_mem _ (hfollowed.mem_batch (List.mem_append_left ahead hmem))
  · exact fun hreach => hdone (hfollowed.mem_of_reaches_new hreach htip)
  · have hbatch := (mergeable_of_reaches_choice hc htip).1
    have houtcomes : y.outcomes = x.outcomes := hquiet.outcomes
    rw [Session.get?_halt, houtcomes, ho.get?_of_between hc htip, Option.none_or, horder]
    simp [Session.range, ho.order, hbatch, hdone]

/-- A commit on which no other head is built is the chosen one, or was folded into it. -/
theorem folded_of_sole_head (ho : Opened s h tip pending w r x) {c : CommitId}
    (hc : Mergeable h tip.id pending.ids c)
    (hall : ∀ d, Head h tip.id pending.ids d → h.Reaches c d → d = (choice h tip pending).id) :
    c = (choice h tip pending).id ∨ r.folded.get? c = some (choice h tip pending).id := by
  by_cases hhead : Head h tip.id pending.ids c
  · exact .inl (hall c hhead (.refl c))
  · obtain ⟨d, hd⟩ := Option.isSome_iff_exists.1 ((ho.contains_iff c).2 ⟨hc, hhead⟩)
    obtain ⟨hhead, hreach⟩ := ho.covers c d hd
    rw [hd, hall d hhead hreach]
    exact .inr rfl

end Opened

/-- What becomes of the commits that a walk leaves behind when it breaks off. Those that the walk
had still to give are told of a fault, and so are the chosen commit and those that were folded into
it. Any other counts as blocked, and so does the commit that could not be read if it was folded into
another head of the batch. All are told of a fault whenever no other head is built on them. -/
theorem outcome_of_walkFault (ha : s.Agrees w h) (hi : h.Intact (tip.id :: pending.ids))
    (ho : opening s tip pending w = .ok (r, chosen, x))
    (hb : Branch.isMirrored branch.name = true)
    (hf : x.WalkFault s tickets branch tip chosen done rest)
    (hok : (run s ⟨branch, .mirrored tickets, []⟩ tip pending w).result = .ok landed)
    {c : CommitId} (hc : h.Reaches c chosen.id) (htip : ¬ h.Reaches c tip.id)
    (hout : c ∉ (run s ⟨branch, .mirrored tickets, []⟩ tip pending w).session.mirrored) :
    landed.outcomes.get? c = some
      (if c ∈ rest ∨ c = chosen.id ∨ r.folded.get? c = some chosen.id then .internalError
      else .dependencyBlocked) ∧
    ((∀ d, Head h tip.id pending.ids d → h.Reaches c d → d = chosen.id) →
      landed.outcomes.get? c = some .internalError) := by
  obtain ⟨rfl, hopened⟩ := opening_of_agrees ha hi ho
  have hmerge := mergeable_of_reaches_choice hc htip
  obtain ⟨last, y, hbring, hleads, hmirrored, horder, hlast, hbooks⟩ :=
    hopened.bringIn_of_walkFault ⟨branch, .mirrored tickets, []⟩ ha hi rfl hb
      (fun he => htip (he ▸ hc)) hf
  rw [run_of_opening ho] at hok hout
  rw [Session.close_mirrored, hbring, hmirrored] at hout
  obtain ⟨hnew, hget⟩ := hbooks c hc htip hout
  obtain ⟨_, w', l, hleads', hmarked, hclose⟩ := Session.close_ok hbring hok
  -- the fault does not hide from the last walk what the new tip leaves out
  have hunmarked : c ∉ l := by
    have hends : [tip.id, last.id] ⊆ tip.id :: pending.ids := by simpa using hlast
    obtain ⟨l', hl', _, hmem⟩ := range_ok (hi.mono hends).above
    obtain rfl := (ha w' (hleads.trans hleads')).order_eq hl' hmarked
    exact fun hc => hnew ((hmem c).1 hc).1
  have hformula : landed.outcomes.get? c = some (if c ∈ rest ∨ c = (choice h tip pending).id ∨
      r.folded.get? c = some (choice h tip pending).id then .internalError
      else .dependencyBlocked) := by
    rw [hclose, if_neg fun hmarked => hunmarked hmarked.2, if_pos (horder ▸ hmerge.1),
      hopened.leftover_of_reaches hc htip, hget]
    split
    · rfl
    · rename_i hother
      rw [if_neg fun he => hother (.inr (.inl he)), Option.none_or]
  refine ⟨hformula, fun hall => ?_⟩
  rw [hformula, if_pos (.inr (hopened.folded_of_sole_head hmerge hall))]

namespace Crossing

/-- The commit above the tip, as the batch has it. -/
def first : TrackedCommit := ⟨above, [base], "TICKET: 1", some ⟨⟨1⟩, 1⟩⟩

/-- The merge is chosen, and the commit beside the tip is folded into the other head. -/
theorem opening_wearing : (opening services old wider wearing).toOption.map
    (fun o => (o.2.1.id, o.1.folded.get? beside)) = some (merge, some further) := by
  decide

theorem order_wearing : (opening services old wider wearing).toOption.map
    (fun o => (services.history o.2.2.world).order [merge] [base] .oldestFirst) =
      some (.ok [above, beside, merge]) := by decide

/-- The mirror takes the commit above the tip, and then the one beside it cannot be read. -/
theorem push_wearing : (opening services old wider wearing).toOption.map
    (fun o => ((services.history o.2.2.world).read above, o.2.2.batch.get? above,
      (o.2.2.push services digit main base first).1,
      (services.history (o.2.2.push services digit main base first).2.world).read beside)) =
    some (.ok ⟨above, [base], "TICKET: 1"⟩, some first, .accepted,
      .error (.corruptObject beside)) := by decide +kernel

end Crossing

/-- The commit that could not be read is told that it was blocked. -/
theorem outcome_of_walkFault_crossing : ∃ landed,
    (run services sync old wider wearing).result = .ok landed ∧
    beside ∉ (run services sync old wider wearing).session.mirrored ∧
    landed.outcomes.get? beside = some .dependencyBlocked := by
  obtain ⟨landed, hok⟩ : ∃ landed, (run services sync old wider wearing).result = .ok landed := by
    have hsome : (run services sync old wider wearing).result.toOption.isSome = true := by
      decide +kernel
    cases hresult : (run services sync old wider wearing).result with
    | ok landed => exact ⟨landed, rfl⟩
    | error e => simp [hresult, Except.toOption] at hsome
  obtain ⟨r, chosen, x, ho⟩ := opening_of_ok hok
  have hopening := Crossing.opening_wearing
  have horder := Crossing.order_wearing
  have hpush := Crossing.push_wearing
  rw [ho] at hopening horder hpush
  obtain ⟨hchosen, hfolded⟩ := Prod.mk.inj (Option.some.inj hopening)
  have hwalk : x.WalkFault services digit main old chosen [above] [merge] := by
    simp only [Except.toOption, Option.map_some, Option.some.injEq, Prod.mk.injEq] at hpush
    obtain ⟨hread, hbatch, hpush, hfault⟩ := hpush
    have horder : (services.history x.world).order [chosen.id] [old.id] .oldestFirst =
        .ok ([above] ++ beside :: [merge]) := by
      rw [hchosen]
      exact Option.some.inj horder
    exact .unread horder (.cons ⟨_, hread⟩ hbatch (Prod.ext hpush rfl) (.nil _ _)) hfault
  have hout : beside ∉ (run services sync old wider wearing).session.mirrored := by
    decide +kernel
  have hreach : wearing.graph.history.Reaches beside chosen.id := by
    rw [hchosen]
    exact (wearing_intact.reaches_iff (by decide) (by decide)).2 (by decide +kernel)
  have hnew : ¬ wearing.graph.history.Reaches beside old.id := fun hc =>
    absurd ((wearing_intact.reaches_iff (by decide) (by decide)).1 hc) (by decide +kernel)
  refine ⟨landed, hok, hout, ?_⟩
  dsimp only at hchosen hfolded
  rw [(outcome_of_walkFault wearing_agrees wearing_intact ho (by decide +kernel) hwalk hok hreach
    hnew hout).1, hfolded, hchosen]
  decide

end Landing.Submission
