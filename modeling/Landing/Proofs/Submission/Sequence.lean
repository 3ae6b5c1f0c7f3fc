import Landing.Proofs.Submission.Mirrored

/-! Every outcome of a submission with a mirror, whichever push of the range is the first to
fail. -/
namespace Landing.Submission
open History Reduction
open Rehearsal (services)
open Rehearsal.Crossing (above beside merge old batch world main sync digit calm intact)
variable {σ : Type} {s : Services σ} {w : σ} {h : History} {plan : Plan} {tip : TrackedCommit}
  {pending : PendingSet} {r : Reduction} {x y : Session σ} {landed : Landed} {branch : Branch}
  {tickets : TicketMatcher}

open Classical in
/-- What is given out when the commits `ids` are pushed one after the other on top of `tip`, from
the books `x` on. Either the mirror takes all, and all have landed. Or it takes `done`, and the next
push fails. -/
inductive Pushed (s : Services σ) (tickets : TicketMatcher) (branch : Branch) (h : History)
    (tip chosen : TrackedCommit) (x : Session σ) (ids : List CommitId) (landed : Landed) :
    Prop where
  | through {y : Session σ} : Session.Passes s tickets branch tip x ids landed.newTip y →
      landed.newTip.id = chosen.id →
      (∀ c ∈ ids, landed.outcomes.get? c = some .cleanMerge) →
      Pushed s tickets branch h tip chosen x ids landed
  | halted {done id rest c o} {y z : Session σ} : ids = done ++ id :: rest →
      Session.Passes s tickets branch tip x done landed.newTip y →
      x.batch.get? id = some c →
      y.push s tickets branch landed.newTip.id c = (.refused o, z) →
      landed.newTip.id = done.getLast?.getD tip.id →
      landed.outcomes.get? id = some o →
      (∀ d ∈ rest, landed.outcomes.get? d = some .dependencyBlocked) →
      (∀ d ∈ done, landed.outcomes.get? d = some
        (if h.Reaches d landed.newTip.id then .cleanMerge else .dependencyBlocked)) →
      Pushed s tickets branch h tip chosen x ids landed

/-- Commits that are not between the tip and the chosen commit are told what was settled before, or
that they were left over, with a mirror or without. -/
theorem get?_of_outside (hs : s.Steady w) (hi : (s.history w).Intact (tip.id :: pending.ids))
    (ha : plan.accepted = []) (hok : (run s plan tip pending w).result = .ok landed)
    (ho : opening s tip pending w = .ok (r, choice (s.history w) tip pending, x)) {c : CommitId}
    (hc : c ∈ pending.ids)
    (hout : ¬ ((s.history w).Reaches c (choice (s.history w) tip pending).id ∧
      ¬ (s.history w).Reaches c tip.id)) :
    landed.outcomes.get? c =
      (settled (s.history w) tip pending c).or (some (Session.leftover r c)) := by
  obtain ⟨r', x', y, landed', ho', hopened, hbring, hok', _, _, hget⟩ :=
    run_closed plan hs (by rwa [ha, List.append_nil])
  obtain rfl : landed' = landed := Except.ok.inj (hok'.symm.trans hok)
  rw [ho] at ho'
  cases ho'
  have hworld : s.history x.world = s.history w := hs x.world hopened.leads
  obtain ⟨o, hy, hsome⟩ := hopened.get?_bringIn hworld hi hbring c
  have hnone : o = none := by
    by_contra hne
    exact hout (hsome hne).1
  have hnew : ¬ ((s.history w).Reaches c landed'.newTip.id ∧
      ¬ (s.history w).Below (plan.accepted ++ [tip.id]) c) := by
    rintro ⟨hnew, hbelow⟩
    rw [ha, List.nil_append, below_singleton] at hbelow
    exact hout ⟨hnew.trans (hopened.new_reaches hworld hi hbring), hbelow⟩
  rw [hget, hy, if_pos hc, if_pos hc, hnone, Option.or_none, if_neg hnew]

/-- On an intact history the next commit can always be read, and is one of the batch. -/
theorem pushable (hi : h.Intact (tip.id :: pending.ids))
    (ho : Opened s h tip pending w r x) {new id : CommitId} {done rest : List CommitId}
    (hf : Followed h tip.id (choice h tip pending).id new done rest) (hid : id ∈ done ++ rest) :
    h.Readable id ∧ ∃ c, x.batch.get? id = some c := by
  obtain ⟨c, hc, he⟩ := PendingSet.mem_ids_iff.1 (hf.mem_batch hid)
  exact ⟨hi.readable id ⟨_, choice_id_mem h tip pending, ((hf.mem_iff id).1 hid).1⟩, c,
    (ho.batch id c).2 ⟨hc, he⟩⟩

/-- Nothing but a refusal ends the pushes before all is taken: a commit that cannot be read, or is
none of the batch, does not come up. -/
theorem ends_cases (hs : s.Steady w) (hi : (s.history w).Intact (tip.id :: pending.ids))
    (ho : Opened s (s.history w) tip pending w r x) {new : TrackedCommit} {z : Session σ}
    {done rest range taken : List CommitId}
    (hf : Followed (s.history w) tip.id (choice (s.history w) tip pending).id new.id done rest)
    (hz : Session.Quiet s { x with pushes := z.pushes } z)
    (he : Session.Ends s tickets branch range taken new z rest y) :
    rest = [] ∧ y = z ∨ ∃ id left c o z', rest = id :: left ∧ x.batch.get? id = some c ∧
      z.push s tickets branch new.id c = (.refused o, z') ∧
      y = (z'.finalize id o).halt s left range taken .dependencyBlocked := by
  have hbatch : z.batch = x.batch := hz.batch
  cases he with
  | passed => exact .inl ⟨rfl, rfl⟩
  | @unread id rest e hread =>
    have hworld : s.history z.world = s.history w := hs z.world (ho.leads.trans hz.leads)
    obtain ⟨⟨commit, hcommit⟩, _⟩ :=
      pushable hi ho hf (List.mem_append_right done List.mem_cons_self)
    rw [hworld, hcommit] at hread
    cases hread
  | @unknown id rest hnone =>
    obtain ⟨_, c, hc⟩ := pushable hi ho hf (List.mem_append_right done List.mem_cons_self)
    rw [hbatch, hc] at hnone
    cases hnone
  | @refused id rest c o z' hc hpush =>
    exact .inr ⟨id, rest, c, o, z', rfl, hbatch ▸ hc, hpush, rfl⟩

private theorem pushed_of_passage (hs : s.Steady w)
    (hi : (s.history w).Intact (tip.id :: pending.ids)) (ha : plan.accepted = [])
    (hok : (run s plan tip pending w).result = .ok landed)
    (hne : (choice (s.history w) tip pending).id ≠ tip.id)
    (ho : Opened s (s.history w) tip pending w r x) {done rest : List CommitId}
    (hf : Followed (s.history w) tip.id (choice (s.history w) tip pending).id landed.newTip.id
      done rest) (hmirrored : (run s plan tip pending w).session.mirrored = done)
    (hp : Session.Passage s tickets branch (x.range r (choice (s.history w) tip pending).id) []
      tip x y landed.newTip done rest)
    (hkept : ∀ c o, y.outcomes.get? c = some o → landed.outcomes.get? c = some o) :
    Pushed s tickets branch (s.history w) tip (choice (s.history w) tip pending) x (done ++ rest)
      landed := by
  classical
  obtain ⟨z, hpasses, hends⟩ := hp
  have hz := hpasses.quiet
  have hbetween : ∀ c ∈ done ++ rest, (s.history w).Reaches c
      (choice (s.history w) tip pending).id ∧ ¬ (s.history w).Reaches c tip.id :=
    fun c hc => (hf.mem_iff c).1 hc
  have hbatch : ∀ c ∈ done ++ rest, c ∈ pending.ids := fun _ => hf.mem_batch
  have htaken : ∀ c ∈ done, landed.outcomes.get? c = some
      (if (s.history w).Reaches c landed.newTip.id then .cleanMerge else .dependencyBlocked) :=
    fun c hc => (outcome_of_mirrored hs hi ha hok (hmirrored ▸ hc)).1
  rcases ends_cases hs hi ho hf hz hends with
    ⟨rfl, rfl⟩ | ⟨id, rest, c, o, z', rfl, hc, hpush, rfl⟩
  · rw [List.append_nil] at hbetween ⊢
    have hchosen : (choice (s.history w) tip pending).id ∈ done := by
      simpa using (hf.mem_iff _).2 ⟨.refl _, (head_choice hne).1.2.1⟩
    have hnew := hf.new_eq_chosen hchosen
    refine .through hpasses hnew fun c hc => ?_
    rw [htaken c hc, hnew, if_pos (hbetween c hc).1]
  · have hnodup := List.nodup_append.1 hf.nodup
    have hid : id ∉ rest := (List.nodup_cons.1 hnodup.2.1).1
    have hopen : ∀ d ∈ done ++ id :: rest, z.outcomes.get? d = none := by
      intro d hd
      have houtcomes : z.outcomes = x.outcomes := hz.outcomes
      rw [houtcomes, ho.get?_of_between (hbetween d hd).1 (hbetween d hd).2]
    refine .halted rfl hpasses hc hpush hf.new_eq (hkept _ _ ?_)
      (fun d hd => hkept _ _ ?_) htaken
    · rw [Session.get?_refused hpush, hopen id (by simp), if_pos rfl, Option.none_or]
    · have hmem : d ∈ done ++ id :: rest := by simp [hd]
      have horder : z.order = pending.ids := hz.order.trans ho.order
      have hdone : d ∉ done.reverse ++ [] := by
        rw [List.append_nil, List.mem_reverse]
        exact fun hdone => hnodup.2.2 d hdone d (List.mem_cons_of_mem id hd) rfl
      rw [Session.get?_refused hpush, hopen d hmem, Option.none_or,
        if_neg (fun he : d = id => hid (he ▸ hd)),
        if_pos ⟨horder ▸ hbatch d hmem, .inl hd, hdone⟩]

/-- The halting rule. On a mirrored branch the commits between the tip and the chosen commit are all
of the batch, and the chosen commit comes last. They are pushed up to the first whose push fails,
and told of it. All other commits of the batch are told what they would be told without a
mirror. -/
theorem run_pushed (hs : s.Steady w) (hi : (s.history w).Intact (tip.id :: pending.ids))
    (branch : Branch) (tickets : TicketMatcher) (hb : Branch.isMirrored branch.name = true)
    (hne : (choice (s.history w) tip pending).id ≠ tip.id) :
    ∃ ids r x landed other,
      (s.history w).order [(choice (s.history w) tip pending).id] [tip.id] .oldestFirst =
        .ok ids ∧
      (∀ c ∈ ids, c ∈ pending.ids) ∧
      ids.getLast? = some (choice (s.history w) tip pending).id ∧
      opening s tip pending w = .ok (r, choice (s.history w) tip pending, x) ∧
      (run s ⟨branch, .mirrored tickets, []⟩ tip pending w).result = .ok landed ∧
      Pushed s tickets branch (s.history w) tip (choice (s.history w) tip pending) x ids landed ∧
      (run s ⟨branch, .localOnly, []⟩ tip pending w).result = .ok other ∧
      ∀ c ∈ pending.ids, c ∉ ids → landed.outcomes.get? c = other.outcomes.get? c := by
  have hi' : (s.history w).Intact (tip.id :: (pending.ids ++ [])) := by rwa [List.append_nil]
  obtain ⟨_, _, _, other, _, _, _, hother, _⟩ := run_closed ⟨branch, .localOnly, []⟩ hs hi'
  obtain ⟨r, x, y, landed, hopening, ho, hbring, hok, _, hmirrored, hget⟩ :=
    run_closed ⟨branch, .mirrored tickets, []⟩ hs hi'
  have hworld : s.history x.world = s.history w := hs x.world ho.leads
  rcases Session.bringIn_cases hworld (intact_choice hi) ho.batch_id hbring with
    ⟨_, _, hskip⟩ | ⟨_, done, rest, hpolicy, _, _, hf, hpassage⟩
  · rcases hskip tickets rfl with he | hno
    · exact absurd he hne
    · rw [hb] at hno
      cases hno
  obtain rfl : tickets = _ := Policy.mirrored.inj hpolicy
  refine ⟨done ++ rest, r, x, landed, other, hf.order, fun _ => hf.mem_batch,
    hf.last_eq_chosen (head_choice hne).1.2.1, hopening, hok, ?_, hother, fun c hc hout => ?_⟩
  · have hsame : (run s ⟨branch, .mirrored tickets, []⟩ tip pending w).session.mirrored = done := by
      rw [hmirrored, hpassage.mirrored ho.batch_id, ho.mirrored, List.nil_append]
    refine pushed_of_passage hs hi rfl hok hne ho hf hsame hpassage fun c o hc => ?_
    rw [hget, hc, Option.some_or]
  · rw [hf.mem_iff] at hout
    rw [get?_of_outside hs hi rfl hok hopening hc hout,
      get?_of_outside hs hi rfl hother hopening hc hout]

/-- The mirror refuses the merge. The branch then ends beside the tip, and the commit above the tip
is told that it was blocked. -/
theorem run_pushed_crossing : ∃ x landed,
    (run (services.halting (· == merge)) sync old batch world).result = .ok landed ∧
    Pushed (services.halting (· == merge)) digit main (services.history world) old
      (choice (services.history world) old batch) x [above, beside, merge] landed ∧
    landed.newTip.id = beside ∧ landed.outcomes.get? above = some .dependencyBlocked := by
  have hne : (choice (services.history world) old batch).id ≠ old.id := by
    rw [Crossing.choice_id]
    decide
  obtain ⟨ids, r, x, landed, _, horder, _, _, _, hok, hpushed, _⟩ :=
    run_pushed (calm.steady.halting (· == merge)) intact main digit (by decide +kernel) hne
  have hids : (services.history world).order [(choice (services.history world) old batch).id]
      [old.id] .oldestFirst = .ok [above, beside, merge] := by
    rw [Crossing.choice_id]
    decide +kernel
  obtain rfl : ids = _ := Except.ok.inj (horder.symm.trans hids)
  have hok : (run (services.halting (· == merge)) sync old batch world).result = .ok landed := hok
  have hlast : (run (services.halting (· == merge)) sync old batch world).result.toOption.map
      (fun landed => (landed.newTip.id, landed.outcomes.get? above)) =
        some (beside, some .dependencyBlocked) := by decide +kernel
  rw [hok] at hlast
  exact ⟨x, landed, hok, hpushed, (Prod.mk.inj (Option.some.inj hlast)).1,
    (Prod.mk.inj (Option.some.inj hlast)).2⟩

end Landing.Submission
