import Landing.Proofs.Submission.Conclude
import Landing.Proofs.Submission.Opening

/-! How far the mirror follows a submission, and where the branch goes then. -/
namespace Landing.Submission
open History Reduction
variable {σ : Type} {s : Services σ} {h : History}

/-- Of the commits between `tip` and `chosen`, parents first, the mirror took `done` and not `rest`.
The branch goes to the last that was taken. -/
structure Followed (h : History) (tip chosen new : CommitId) (done rest : List CommitId) :
    Prop where
  order : h.order [chosen] [tip] .oldestFirst = .ok (done ++ rest)
  stacked : h.Stacked (h.Reaches · tip) (done ++ rest).reverse
  mem_iff : ∀ c, c ∈ done ++ rest ↔ h.Reaches c chosen ∧ ¬ h.Reaches c tip
  new_eq : new = done.getLast?.getD tip

namespace Followed
variable {tip chosen new : CommitId} {done rest : List CommitId}

theorem nodup (hf : Followed h tip chosen new done rest) : (done ++ rest).Nodup :=
  List.nodup_reverse.1 hf.stacked.nodup

/-- Of two commits of the walk the later one is not below the other. -/
theorem pairwise (hf : Followed h tip chosen new done rest) :
    (done ++ rest).Pairwise fun c d => ¬ h.Reaches d c :=
  List.pairwise_reverse.1 (hf.stacked.pairwise fun hxy hy => hxy.trans hy)

theorem mem_range (hf : Followed h tip chosen new done rest) {c : CommitId} (hc : c ∈ done) :
    h.Reaches c chosen ∧ ¬ h.Reaches c tip :=
  (hf.mem_iff c).1 (List.mem_append_left rest hc)

/-- With a commit the mirror took what it is built on. -/
theorem closed (hf : Followed h tip chosen new done rest) {c d : CommitId} (hd : d ∈ done)
    (hcd : h.Reaches c d) (htip : ¬ h.Reaches c tip) : c ∈ done := by
  have hsuffix : done.reverse <:+ (done ++ rest).reverse := by
    rw [List.reverse_append]
    exact List.suffix_append ..
  have hdone := (hf.stacked.of_suffix hsuffix).reaches_mem (fun hxy hy => hxy.trans hy) hcd
    (List.mem_reverse.2 hd)
  exact List.mem_reverse.1 (hdone.resolve_left htip)

/-- The branch stays below the chosen commit, as the tip does. -/
theorem new_reaches (hf : Followed h tip chosen new done rest) (htip : h.Reaches tip chosen) :
    h.Reaches new chosen := by
  rw [hf.new_eq]
  cases hlast : done.getLast? with
  | none => exact htip
  | some d => exact (hf.mem_range (List.mem_of_getLast? hlast)).1

theorem exists_last {c : CommitId} (hc : c ∈ done) : ∃ d, done.getLast? = some d :=
  ⟨_, List.getLast?_eq_some_getLast (List.ne_nil_of_mem hc)⟩

theorem new_of_last (hf : Followed h tip chosen new done rest) {d : CommitId}
    (hd : done.getLast? = some d) : new = d := by
  rw [hf.new_eq, hd, Option.getD_some]

theorem new_mem (hf : Followed h tip chosen new done rest) : new ∈ tip :: done := by
  rw [hf.new_eq]
  cases hlast : done.getLast? with
  | none => exact List.mem_cons_self
  | some d => exact List.mem_cons_of_mem tip (List.mem_of_getLast? hlast)

/-- The branch goes past nothing that the mirror did not take. -/
theorem mem_of_reaches_new (hf : Followed h tip chosen new done rest) {c : CommitId}
    (hc : h.Reaches c new) (htip : ¬ h.Reaches c tip) : c ∈ done := by
  cases hlast : done.getLast? with
  | none =>
    rw [hf.new_eq, hlast, Option.getD_none] at hc
    exact absurd hc htip
  | some d =>
    rw [hf.new_of_last hlast] at hc
    exact hf.closed (List.mem_of_getLast? hlast) hc htip

/-- The walk could have ended earlier. -/
theorem shorter {last : List CommitId} (hf : Followed h tip chosen new (done ++ last) rest) :
    Followed h tip chosen (done.getLast?.getD tip) done (last ++ rest) := by
  have hassoc : done ++ last ++ rest = done ++ (last ++ rest) := List.append_assoc ..
  exact ⟨hassoc ▸ hf.order, hassoc ▸ hf.stacked, hassoc ▸ hf.mem_iff, rfl⟩

/-- The chosen commit comes last. -/
theorem rest_eq_nil (hf : Followed h tip chosen new done rest) (hchosen : chosen ∈ done) :
    rest = [] := by
  rw [List.eq_nil_iff_forall_not_mem]
  intro c hc
  obtain ⟨hreach, htip⟩ := (hf.mem_iff c).1 (List.mem_append_right done hc)
  have hdone := hf.closed hchosen hreach htip
  exact (List.nodup_append.1 hf.nodup).2.2 c hdone c hc rfl

/-- If the mirror took the chosen commit, the branch goes there. -/
theorem new_eq_chosen (hf : Followed h tip chosen new done rest) (hchosen : chosen ∈ done) :
    new = chosen := by
  obtain ⟨init, d, rfl⟩ : ∃ init d, done = init ++ [d] :=
    ⟨_, _, (List.dropLast_append_getLast (List.ne_nil_of_mem hchosen)).symm⟩
  rw [hf.new_of_last (List.getLast?_concat ..)]
  rcases List.mem_append.1 hchosen with hmem | hmem
  · have hnil := hf.shorter.rest_eq_nil hmem
    simp at hnil
  · exact (List.mem_singleton.1 hmem).symm

theorem last_eq_chosen (hf : Followed h tip chosen new done rest) (htip : ¬ h.Reaches chosen tip) :
    (done ++ rest).getLast? = some chosen := by
  have hmem : chosen ∈ done ++ rest := (hf.mem_iff chosen).2 ⟨.refl _, htip⟩
  have hall : Followed h tip chosen ((done ++ rest).getLast?.getD tip) (done ++ rest) [] := by
    refine ⟨?_, ?_, ?_, rfl⟩
    · rw [List.append_nil]; exact hf.order
    · rw [List.append_nil]; exact hf.stacked
    · rw [List.append_nil]; exact hf.mem_iff
  obtain ⟨d, hd⟩ := exists_last hmem
  rw [hd, ← hall.new_of_last hd, hall.new_eq_chosen hmem]

/-- No other commit that the mirror took is built on the last. -/
theorem eq_of_last_reaches (hf : Followed h tip chosen new done rest) {c d : CommitId}
    (hd : done.getLast? = some d) (hc : c ∈ done) (hdc : h.Reaches d c) : c = d := by
  obtain ⟨a, b, rfl⟩ := List.append_of_mem hc
  have hmem : d ∈ a ++ [c] := by
    rw [← List.singleton_append, ← List.append_assoc] at hf
    refine hf.shorter.closed (List.mem_append_right a (List.mem_singleton_self c)) hdc ?_
    exact (hf.mem_range (by simpa using List.mem_of_getLast? hd)).2
  have hnodup := (List.nodup_append.1 hf.nodup).1
  rw [List.getLast?_append, List.getLast?_cons] at hd
  cases hb : b.getLast? with
  | none => simpa [hb] using hd
  | some e =>
    have he : e = d := by simpa [hb] using hd
    have hdb : d ∈ b := he ▸ List.mem_of_getLast? hb
    rw [List.nodup_append, List.nodup_cons] at hnodup
    rcases List.mem_append.1 hmem with hmem | hmem
    · exact absurd rfl (hnodup.2.2 d hmem d (List.mem_cons_of_mem c hdb))
    · exact (List.mem_singleton.1 hmem).symm

/-- The branch keeps what it has, if the last commit that the mirror took is built on it. -/
theorem reaches_new_iff (hf : Followed h tip chosen new done rest) :
    h.Reaches tip new ↔ ∀ d, done.getLast? = some d → h.Reaches tip d := by
  cases hlast : done.getLast? with
  | none =>
    rw [hf.new_eq, hlast, Option.getD_none]
    simpa using Reaches.refl tip
  | some d =>
    rw [hf.new_of_last hlast]
    simp

end Followed

/-- The walk that the mirror follows. -/
theorem range_ok {tip chosen : CommitId} (hi : h.IntactAbove tip [chosen]) :
    ∃ l, h.order [chosen] [tip] .oldestFirst = .ok l ∧ h.Stacked (h.Reaches · tip) l.reverse ∧
      ∀ c, c ∈ l ↔ h.Reaches c chosen ∧ ¬ h.Reaches c tip := by
  have htip : [tip] ⊆ [tip, chosen] := by simp
  have hchosen : [chosen] ⊆ [tip, chosen] := by simp
  have hpast : h.AcyclicPast (h.Below [tip]) [chosen] :=
    hi.acyclic.mono (fun _ => .of_mem) fun _ => below_singleton.2
  obtain ⟨l, _, hl, hstacked, hmem⟩ := order_ok hpast (hi.mono hchosen).bounded
    (hi.mono htip).bounded (fun x hx _ => (hi.mono hchosen).readable x hx) (hi.mono htip).readable
  have hbelow : h.Below [tip] = (h.Reaches · tip) := funext fun _ => propext below_singleton
  refine ⟨l.reverse, hl, ?_, fun c => ?_⟩
  · rw [List.reverse_reverse, ← hbelow]
    exact hstacked
  · rw [List.mem_reverse, hmem, below_singleton, below_singleton]

namespace Session
variable {x y : Session σ} {plan : Plan} {r : Reduction} {tip chosen newTip : TrackedCommit}

/-- The chosen tip comes in as it is, or the walk to it cannot be ordered, or it is taken over. -/
theorem bringIn_inv (he : x.bringIn s plan r tip chosen = (newTip, y)) :
    (newTip = chosen ∧ y = x ∧ ∀ tickets, plan.policy = .mirrored tickets →
      chosen.id = tip.id ∨ Branch.isMirrored plan.branch.name = false) ∨
    ∃ tickets, plan.policy = .mirrored tickets ∧ Branch.isMirrored plan.branch.name = true ∧
      chosen.id ≠ tip.id ∧
      ((∃ e, (s.history x.world).order [chosen.id] [tip.id] .oldestFirst = .error e ∧
          newTip = tip ∧ y = x.halt s [] (x.range r chosen.id) [] .internalError) ∨
        ∃ ids, (s.history x.world).order [chosen.id] [tip.id] .oldestFirst = .ok ids ∧
          pushEach s tickets plan.branch (x.range r chosen.id) [] tip x ids = (newTip, y)) := by
  rw [bringIn] at he
  split at he
  · rename_i hpolicy
    cases he
    exact .inl ⟨rfl, rfl, by simp [hpolicy]⟩
  · rename_i tickets hpolicy
    rw [mirrorRange] at he
    split at he
    · rename_i hskip
      cases he
      refine .inl ⟨rfl, rfl, fun _ _ => ?_⟩
      simpa using hskip
    · rename_i hsync
      have hcond : chosen.id ≠ tip.id ∧ Branch.isMirrored plan.branch.name = true := by
        simpa using hsync
      refine .inr ⟨tickets, hpolicy, hcond.2, hcond.1, ?_⟩
      dsimp only at he
      split at he
      · rename_i e horder
        cases he
        exact .inl ⟨e, horder, rfl, rfl⟩
      · rename_i ids horder
        exact .inr ⟨ids, horder, he⟩

/-- Whatever comes of it, the batch stays as it is. -/
theorem bringIn_keeps (hbatch : ∀ id c, x.batch.get? id = some c → c.id = id)
    (he : x.bringIn s plan r tip chosen = (newTip, y)) :
    y.batch = x.batch ∧ y.order = x.order ∧ s.Leads x.world y.world := by
  rcases bringIn_inv he with ⟨_, rfl, _⟩ | ⟨_, _, _, _, ⟨_, _, _, rfl⟩ | ⟨ids, _, hpush⟩⟩
  · exact ⟨rfl, rfl, .refl⟩
  · have hq := quiet_halt s x [] (x.range r chosen.id) [] .internalError
    exact ⟨hq.batch, hq.order, hq.leads⟩
  · obtain ⟨_, _, _, hpassage⟩ := pushEach_passage hbatch hpush
    exact hpassage.keeps

/-- The chosen tip comes in as it is, or as far as the mirror follows. -/
theorem bringIn_cases (hx : s.history x.world = h) (hi : h.IntactAbove tip.id [chosen.id])
    (hbatch : ∀ id c, x.batch.get? id = some c → c.id = id)
    (he : x.bringIn s plan r tip chosen = (newTip, y)) :
    (newTip = chosen ∧ y = x ∧ ∀ tickets, plan.policy = .mirrored tickets →
      chosen.id = tip.id ∨ Branch.isMirrored plan.branch.name = false) ∨
    ∃ tickets done rest, plan.policy = .mirrored tickets ∧
      Branch.isMirrored plan.branch.name = true ∧ chosen.id ≠ tip.id ∧
      Followed h tip.id chosen.id newTip.id done rest ∧
      Passage s tickets plan.branch (x.range r chosen.id) [] tip x y newTip done rest := by
  obtain ⟨l, horder, hstacked, hmem⟩ := range_ok hi
  rw [← hx] at horder
  rcases bringIn_inv he with hskip | ⟨tickets, hpolicy, hsync, hne, hwalk⟩
  · exact .inl hskip
  rcases hwalk with ⟨e, hfault, _⟩ | ⟨ids, hids, hpush⟩
  · rw [horder] at hfault
    cases hfault
  · obtain rfl : l = ids := Except.ok.inj (horder.symm.trans hids)
    obtain ⟨done, rest, rfl, hpassage⟩ := pushEach_passage hbatch hpush
    exact .inr ⟨tickets, done, rest, hpolicy, hsync, hne,
      ⟨hx ▸ horder, hstacked, hmem, hpassage.tip_id hbatch⟩, hpassage⟩

theorem bringIn_eq {tickets : TicketMatcher} {l : List CommitId}
    (hp : plan.policy = .mirrored tickets) (hb : Branch.isMirrored plan.branch.name = true)
    (hne : chosen.id ≠ tip.id)
    (hl : (s.history x.world).order [chosen.id] [tip.id] .oldestFirst = .ok l) :
    x.bringIn s plan r tip chosen =
      pushEach s tickets plan.branch (x.range r chosen.id) [] tip x l := by
  simp only [bringIn, hp, mirrorRange, hne, hb, hl]
  rfl

/-- To close the books the mirror is asked for nothing more. -/
theorem close_pushes (s : Services σ) (plan : Plan) (tip chosen : TrackedCommit) (r : Reduction)
    (x : Session σ) : (x.close s plan tip chosen r).session.pushes =
      (x.bringIn s plan r tip chosen).2.pushes :=
  (conclude_cases rfl).1

theorem close_mirrored (s : Services σ) (plan : Plan) (tip chosen : TrackedCommit) (r : Reduction)
    (x : Session σ) : (x.close s plan tip chosen r).session.mirrored =
      (x.bringIn s plan r tip chosen).2.mirrored := by
  rw [mirrored, close_pushes, mirrored]

/-- Outcomes that the books have when the tip is in are given out with it. Others depend on what
landed, in the history of that time. -/
theorem close_ok {landed : Landed} (hbring : x.bringIn s plan r tip chosen = (newTip, y))
    (hok : (x.close s plan tip chosen r).result = .ok landed) : landed.newTip = newTip ∧
    ∃ w l, s.Leads y.world w ∧ (s.history w).order [newTip.id] (plan.accepted ++ [tip.id])
      .oldestFirst = .ok l ∧ ∀ c, landed.outcomes.get? c = (y.outcomes.get? c).or
        (if y.batch.contains c ∧ c ∈ l then some .cleanMerge
        else if c ∈ y.order then some (leftover r c) else none) := by
  obtain ⟨result, z, hconclude⟩ : ∃ result z, y.conclude s plan tip.id r newTip = (result, z) :=
    ⟨_, _, rfl⟩
  simp only [close, hbring, hconclude] at hok
  subst hok
  rcases (conclude_cases hconclude).2.2 with ⟨_, he, _⟩ | ⟨l, horder, _, _, _, hok⟩
  · cases he
  · cases hok
    exact ⟨rfl, _, l, .notify _ .refl, horder, fun c => get?_closed_landed r y l c⟩

end Session

variable {tip : TrackedCommit} {pending : PendingSet} {w : σ} {plan : Plan} {landed : Landed}

theorem Opened.mirrored {r : Reduction} {x : Session σ} (ho : Opened s h tip pending w r x) :
    x.mirrored = [] := by
  simp [Session.mirrored, ho.pushes]

theorem intact_choice (hi : h.Intact (tip.id :: pending.ids)) :
    h.IntactAbove tip.id [(choice h tip pending).id] :=
  hi.above.of_mem (choice_id_mem h tip pending)

/-- The mirror is asked for commits of the batch alone. -/
theorem Followed.mem_batch {new : CommitId} {done rest : List CommitId}
    (hf : Followed h tip.id (choice h tip pending).id new done rest) {c : CommitId}
    (hc : c ∈ done ++ rest) : c ∈ pending.ids :=
  (mergeable_of_reaches_choice ((hf.mem_iff c).1 hc).1 ((hf.mem_iff c).1 hc).2).1

namespace Opened
variable {r : Reduction} {x y : Session σ} {newTip : TrackedCommit}

/-- What lies between the tip and the chosen commit has no outcome yet. -/
theorem get?_of_between (ho : Opened s h tip pending w r x) {c : CommitId}
    (hc : h.Reaches c (choice h tip pending).id) (htip : ¬ h.Reaches c tip.id) :
    x.outcomes.get? c = none := by
  rw [ho.outcomes, if_pos (mergeable_of_reaches_choice hc htip).1, settled_eq_none hc htip]

/-- The commits that a range stands for lie between the tip and the chosen commit. -/
theorem range_between (ho : Opened s h tip pending w r x) {c : CommitId}
    (hc : c ∈ x.range r (choice h tip pending).id)
    (hne : (choice h tip pending).id ≠ tip.id) :
    h.Reaches c (choice h tip pending).id ∧ ¬ h.Reaches c tip.id := by
  rw [Session.range, List.mem_filter] at hc
  simp only [Bool.or_eq_true, decide_eq_true_eq] at hc
  rcases hc.2 with rfl | hfolded
  · exact ⟨.refl _, (head_choice hne).1.2.1⟩
  · have hcontains : r.folded.contains c = true := by simp [Table.contains, hfolded]
    exact ⟨(ho.covers c _ hfolded).2, ((ho.contains_iff c).1 hcontains).1.2.1⟩

/-- Of what the chosen tip brings in, only itself is left over as a fault. -/
theorem leftover_of_reaches (ho : Opened s h tip pending w r x) {c : CommitId}
    (hc : h.Reaches c (choice h tip pending).id) (htip : ¬ h.Reaches c tip.id) :
    Session.leftover r c =
      if c = (choice h tip pending).id then .internalError else .dependencyBlocked := by
  have hmerge := mergeable_of_reaches_choice hc htip
  have hhead : Head h tip.id pending.ids c ↔ c = (choice h tip pending).id := by
    refine ⟨fun hhead => eq_choice hhead hc, ?_⟩
    rintro rfl
    exact head_choice fun he => htip (he ▸ .refl _)
  by_cases he : c = (choice h tip pending).id
  · have hfolded : ¬ r.folded.contains c = true :=
      fun hfolded => ((ho.contains_iff c).1 hfolded).2 (hhead.2 he)
    rw [Session.leftover, if_neg hfolded, if_pos he]
  · have hfolded : r.folded.contains c = true :=
      (ho.contains_iff c).2 ⟨hmerge, fun hc => he (hhead.1 hc)⟩
    rw [Session.leftover, if_pos hfolded, if_neg he]

theorem new_reaches (ho : Opened s h tip pending w r x) (hx : s.history x.world = h)
    (hi : h.Intact (tip.id :: pending.ids))
    (he : x.bringIn s plan r tip (choice h tip pending) = (newTip, y)) :
    h.Reaches newTip.id (choice h tip pending).id := by
  rcases Session.bringIn_cases hx (intact_choice hi) ho.batch_id he with
    ⟨rfl, _⟩ | ⟨_, done, rest, _, _, _, hf, _⟩
  · exact .refl _
  · exact hf.new_reaches (reaches_choice h tip pending)

/-- While the chosen tip comes in, outcomes are kept, and only commits of its range get one that the
new tip leaves behind. -/
theorem get?_bringIn (ho : Opened s h tip pending w r x) (hx : s.history x.world = h)
    (hi : h.Intact (tip.id :: pending.ids))
    (he : x.bringIn s plan r tip (choice h tip pending) = (newTip, y)) (c : CommitId) :
    ∃ o, y.outcomes.get? c = (if c ∈ pending.ids then settled h tip pending c else none).or o ∧
      (o ≠ none → (h.Reaches c (choice h tip pending).id ∧ ¬ h.Reaches c tip.id) ∧
        ¬ h.Reaches c newTip.id) := by
  rw [← ho.outcomes]
  rcases Session.bringIn_cases hx (intact_choice hi) ho.batch_id he with
    ⟨_, rfl, _⟩ | ⟨_, done, rest, _, _, hne, hf, hpassage⟩
  · exact ⟨none, by simp, by simp⟩
  · obtain ⟨o, hget, hrest⟩ := hpassage.get?_eq c
    refine ⟨o, hget, fun hsome => ?_⟩
    have hout : c ∉ done ∧ h.Reaches c (choice h tip pending).id ∧ ¬ h.Reaches c tip.id := by
      rcases hrest hsome with hmem | ⟨hmem, hdone⟩
      · exact ⟨fun hdone => (List.nodup_append.1 hf.nodup).2.2 c hdone c hmem rfl,
          (hf.mem_iff c).1 (List.mem_append_right done hmem)⟩
      · exact ⟨hdone, ho.range_between hmem hne⟩
    exact ⟨hout.2, fun hnew => hout.1 (hf.mem_of_reaches_new hnew hout.2.2)⟩

end Opened

/-- A submission on an intact history ends well, with nothing left waiting. Commits of the batch
that have no outcome when the tip is in get one then. -/
theorem run_closed (plan : Plan) (hs : s.Steady w)
    (hi : (s.history w).Intact (tip.id :: (pending.ids ++ plan.accepted))) :
    ∃ r x y landed, opening s tip pending w = .ok (r, choice (s.history w) tip pending, x) ∧
      Opened s (s.history w) tip pending w r x ∧
      x.bringIn s plan r tip (choice (s.history w) tip pending) = (landed.newTip, y) ∧
      (run s plan tip pending w).result = .ok landed ∧ (run s plan tip pending w).pending = {} ∧
      (run s plan tip pending w).session.mirrored = y.mirrored ∧
      ∀ c, landed.outcomes.get? c = (y.outcomes.get? c).or (open Classical in
        if c ∈ pending.ids then
          if (s.history w).Reaches c landed.newTip.id ∧
            ¬ (s.history w).Below (plan.accepted ++ [tip.id]) c
          then some .cleanMerge else some (Session.leftover r c)
        else none) := by
  classical
  have hbatch : (s.history w).Intact (tip.id :: pending.ids) :=
    hi.mono (List.cons_subset_cons _ (List.subset_append_left ..))
  have hhidden : plan.accepted ++ [tip.id] ⊆ tip.id :: (pending.ids ++ plan.accepted) := by simp
  obtain ⟨r, x, hopening, ho⟩ := opening_ok hs hbatch.above
  have hrun := run_of_opening hopening plan
  obtain ⟨newTip, y, hbring⟩ : ∃ newTip y,
      x.bringIn s plan r tip (choice (s.history w) tip pending) = (newTip, y) := ⟨_, _, rfl⟩
  have hcases := Session.bringIn_cases (hs x.world ho.leads) (intact_choice hbatch)
    ho.batch_id hbring
  have hnew := ho.new_reaches (hs x.world ho.leads) hbatch hbring
  have hy : y.batch = x.batch ∧ y.order = x.order ∧ s.Leads x.world y.world := by
    rcases hcases with ⟨_, rfl, _⟩ | ⟨_, done, rest, _, _, _, _, hp⟩
    · exact ⟨rfl, rfl, .refl⟩
    · exact hp.keeps
  have hbelow : ∀ c, (s.history w).Reaches c newTip.id →
      (s.history w).Below (tip.id :: pending.ids) c :=
    fun c hc => ⟨_, choice_id_mem (s.history w) tip pending, hc.trans hnew⟩
  have hbounded : (s.history w).Bounded [newTip.id] :=
    hbatch.bounded.mono fun c hc => hbelow c (by rw [List.mem_singleton.1 hc]; exact .refl _)
  obtain ⟨landed, z, hconclude, hlanded, hget⟩ := Session.conclude_ok plan tip.id r
    (fun w' hw' => hs w' ((ho.leads.trans hy.2.2).trans hw')) hi.acyclic hbounded
    (fun c hc => hbatch.readable c (hbelow c hc)) (hi.mono hhidden).bounded
    (hi.mono hhidden).readable
  have hreport : run s plan tip pending w = ⟨.ok landed, {}, z⟩ := by
    rw [hrun]
    simp only [Session.close, hbring, hconclude]
  have hmirrored : (run s plan tip pending w).session.mirrored = y.mirrored := by
    rw [hrun, Session.close_mirrored, hbring]
  refine ⟨r, x, y, landed, hopening, ho, by rw [hlanded]; exact hbring, by rw [hreport],
    by rw [hreport], hmirrored, fun c => ?_⟩
  rw [hget, hlanded, hy.2.1, ho.order]
  congr 1
  have hbatch : y.batch.contains c = true ↔ c ∈ pending.ids := by
    rw [hy.1, ho.contains_batch]
  by_cases hc : c ∈ pending.ids
  · simp only [hc, hbatch, true_and, if_true]
  · rw [if_neg (fun hm => hc (hbatch.1 hm.1)), if_neg hc, if_neg hc]

/-- If nothing but the tip counts as landed, all lands that the new tip brings in. -/
theorem run_ok (plan : Plan) (hs : s.Steady w)
    (hi : (s.history w).Intact (tip.id :: pending.ids)) (ha : plan.accepted = []) :
    ∃ r x y landed, Opened s (s.history w) tip pending w r x ∧
      x.bringIn s plan r tip (choice (s.history w) tip pending) = (landed.newTip, y) ∧
      (run s plan tip pending w).result = .ok landed ∧ (run s plan tip pending w).pending = {} ∧
      (run s plan tip pending w).session.mirrored = y.mirrored ∧
      ∀ c, landed.outcomes.get? c = (y.outcomes.get? c).or (open Classical in
        if c ∈ pending.ids then
          if (s.history w).Reaches c landed.newTip.id ∧ ¬ (s.history w).Reaches c tip.id
          then some .cleanMerge else some (Session.leftover r c)
        else none) := by
  obtain ⟨r, x, y, landed, _, ho, hbring, hok, hpending, hmirrored, hget⟩ :=
    run_closed plan hs (by rwa [ha, List.append_nil])
  refine ⟨r, x, y, landed, ho, hbring, hok, hpending, hmirrored, fun c => ?_⟩
  rw [hget, ha, List.nil_append, below_singleton]

/-- A submission that ends well moved to the chosen tip without the mirror, or it went as far as
the mirror followed. -/
theorem run_cases (hs : s.Steady w) (hi : (s.history w).Intact (tip.id :: pending.ids))
    (hok : (run s plan tip pending w).result = .ok landed) :
    (landed.newTip = choice (s.history w) tip pending ∧
      (run s plan tip pending w).session.mirrored = [] ∧
      ∀ tickets, plan.policy = .mirrored tickets →
        (choice (s.history w) tip pending).id = tip.id ∨
          Branch.isMirrored plan.branch.name = false) ∨
    ∃ tickets done rest, plan.policy = .mirrored tickets ∧
      Branch.isMirrored plan.branch.name = true ∧
      (choice (s.history w) tip pending).id ≠ tip.id ∧
      Followed (s.history w) tip.id (choice (s.history w) tip pending).id landed.newTip.id
        done rest ∧ (run s plan tip pending w).session.mirrored = done := by
  obtain ⟨r, x, ho, hrun, _⟩ := run_opened hs hi plan
  obtain ⟨newTip, y, hbring⟩ : ∃ newTip y,
      x.bringIn s plan r tip (choice (s.history w) tip pending) = (newTip, y) := ⟨_, _, rfl⟩
  rw [hrun] at hok
  rw [hrun, Session.close_mirrored, (Session.close_ok hbring hok).1, hbring]
  rcases Session.bringIn_cases (hs x.world ho.leads) (intact_choice hi)
    ho.batch_id hbring with
    ⟨rfl, rfl, hskip⟩ | ⟨tickets, done, rest, hpolicy, hsync, hne, hfollowed, hpassage⟩
  · exact .inl ⟨rfl, ho.mirrored, hskip⟩
  · refine .inr ⟨tickets, done, rest, hpolicy, hsync, hne, hfollowed, ?_⟩
    rw [hpassage.mirrored ho.batch_id, ho.mirrored, List.nil_append]

/-- Without a mirror the branch goes to the chosen tip. -/
theorem choice_of_localOnly (hs : s.Steady w) (hi : (s.history w).Intact (tip.id :: pending.ids))
    {branch : Branch} {accepted : List CommitId}
    (hok : (run s ⟨branch, .localOnly, accepted⟩ tip pending w).result = .ok landed) :
    landed.newTip = choice (s.history w) tip pending := by
  rcases run_cases hs hi hok with ⟨hnew, _⟩ | ⟨_, _, _, hp, _⟩
  · exact hnew
  · cases hp

/-- A submission makes no other calls than those by which it is computed. -/
theorem leads_run (s : Services σ) (plan : Plan) (tip : TrackedCommit) (pending : PendingSet)
    (w : σ) : s.Leads w (run s plan tip pending w).session.world := by
  cases ho : opening s tip pending w with
  | error e =>
    obtain ⟨phases, _, hx⟩ := (undecided_of_opening ho plan).announces
    rw [hx.world]
    exact leads_announced s phases w
  | ok decided =>
    obtain ⟨r, chosen, x⟩ := decided
    obtain ⟨hbatch, _, _, hx⟩ := opening_books ho
    obtain ⟨newTip, y, hbring⟩ : ∃ newTip y, x.bringIn s plan r tip chosen = (newTip, y) :=
      ⟨_, _, rfl⟩
    obtain ⟨result, z, hconclude⟩ : ∃ result z, y.conclude s plan tip.id r newTip = (result, z) :=
      ⟨_, _, rfl⟩
    have hy := (Session.bringIn_keeps (fun id c hc =>
      ((Session.start_batch pending w id c).1 (hbatch ▸ hc)).2) hbring).2.2
    have hz := (Session.conclude_cases hconclude).2.1
    rw [run_of_opening ho]
    simp only [Session.close, hbring, hconclude]
    exact (hx.trans hy).trans hz

end Landing.Submission
