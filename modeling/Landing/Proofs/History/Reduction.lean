import Landing.Proofs.History.Ending
import Landing.Proofs.History.Folding

/-! Reduction leaves the heads of what can be merged, and folds everything else that can be merged
into a head above it. One that comes to its end rests on no commits that go round in circles. -/
namespace Landing.Reduction
open History
variable {h : History} {tip : CommitId} {batch : List CommitId}

/-- All that a commit reaches is in the tip or in the batch. -/
def Complete (h : History) (tip : CommitId) (batch : List CommitId) (c : CommitId) : Prop :=
  ∀ x, h.Reaches x c → h.Reaches x tip ∨ x ∈ batch

/-- A commit of the batch that the tip lacks, and that needs nothing but the tip and the batch. -/
def Mergeable (h : History) (tip : CommitId) (batch : List CommitId) (c : CommitId) : Prop :=
  c ∈ batch ∧ ¬ h.Reaches c tip ∧ Complete h tip batch c

/-- A mergeable commit with no mergeable descendant but itself. -/
def Head (h : History) (tip : CommitId) (batch : List CommitId) (c : CommitId) : Prop :=
  Mergeable h tip batch c ∧ ∀ d, Mergeable h tip batch d → h.Reaches c d → d = c

/-- No two different commits of a list are ancestors of each other. -/
def Ranked (h : History) (l : List CommitId) : Prop :=
  ∀ x ∈ l, ∀ y ∈ l, h.Reaches x y → h.Reaches y x → x = y

/-- In a finite part of a history without cycles one can go up until it ends. -/
private theorem exists_last {merge : List CommitId} (ha : Ranked h merge) {l : List CommitId}
    (hl : l ⊆ merge) (c : CommitId) :
    ∃ m, (m = c ∨ m ∈ l) ∧ h.Reaches c m ∧ ∀ d ∈ l, h.Reaches m d → d = m := by
  induction l with
  | nil => exact ⟨c, .inl rfl, .refl c, by simp⟩
  | cons a l ih =>
    rw [List.cons_subset] at hl
    obtain ⟨m, hm, hcm, hlast⟩ := ih hl.2
    by_cases hma : h.Reaches m a
    · refine ⟨a, .inr (List.mem_cons_self ..), hcm.trans hma, ?_⟩
      intro d hd had
      rcases List.mem_cons.1 hd with rfl | hd
      · rfl
      · have he := hlast d hd (hma.trans had)
        subst he
        exact ha d (hl.2 hd) a hl.1 hma had
    · refine ⟨m, hm.imp_right (List.mem_cons_of_mem _), hcm, ?_⟩
      intro d hd hmd
      rcases List.mem_cons.1 hd with rfl | hd
      · exact absurd hmd hma
      · exact hlast d hd hmd

/-- What a mergeable commit reaches is mergeable, if the tip lacks it. -/
theorem Mergeable.of_reaches {c x : CommitId} (hc : Mergeable h tip batch c)
    (hx : h.Reaches x c) (htip : ¬ h.Reaches x tip) : Mergeable h tip batch x :=
  ⟨(hc.2.2 x hx).resolve_left htip, htip, fun y hy => hc.2.2 y (hy.trans hx)⟩

theorem select_ok {test : CommitId → Except Error Bool} {p : CommitId → Prop} [DecidablePred p]
    {ids : List CommitId} (ht : ∀ id ∈ ids, ∃ b, test id = .ok b ∧ (b = true ↔ p id)) :
    select test ids = .ok (ids.filter p) := by
  induction ids with
  | nil => rfl
  | cons id ids ih =>
    rw [List.forall_mem_cons] at ht
    obtain ⟨⟨b, hb, hp⟩, ht⟩ := ht
    simp only [select, hb, ih ht, List.filter_cons]
    by_cases hid : p id <;> simp_all

theorem test_of_select {test : CommitId → Except Error Bool} {ids l : List CommitId}
    (hl : select test ids = .ok l) : ∀ id ∈ ids, ∃ b, test id = .ok b := by
  induction ids generalizing l with
  | nil => simp
  | cons id ids ih =>
    rw [select] at hl
    split at hl
    · cases hl
    · rename_i b hb
      split at hl
      · cases hl
      · rename_i hrest
        exact List.forall_mem_cons.2 ⟨⟨b, hb⟩, ih hrest⟩

theorem mem_select {test : CommitId → Except Error Bool} {ids l : List CommitId}
    (hl : select test ids = .ok l) (c : CommitId) : c ∈ l ↔ c ∈ ids ∧ test c = .ok true := by
  induction ids generalizing l with
  | nil =>
    cases hl
    simp
  | cons id rest ih =>
    rw [select] at hl
    split at hl
    · cases hl
    · rename_i keep hkeep
      split at hl
      · cases hl
      · rename_i ids hids
        cases hl
        have hrest := ih hids
        by_cases hc : c = id
        · subst hc
          cases keep <;> simp_all
        · cases keep <;> simp_all

theorem needsMore_ok (hi : h.IntactAbove tip batch) {c : CommitId} (hc : c ∈ batch) :
    ∃ b, needsMore h tip batch c = .ok b ∧ (b = true ↔ ¬ Complete h tip batch c) := by
  have hsub : [c] ⊆ tip :: batch := by simp [hc]
  have htip : [tip] ⊆ tip :: batch := by simp
  have hpast : h.AcyclicPast (h.Below [tip]) [c] :=
    hi.acyclic.mono (by simpa using Below.of_mem hc) fun _ => below_singleton.2
  obtain ⟨l, hl, _, _, hmem⟩ := order_ok hpast (hi.mono hsub).bounded (hi.mono htip).bounded
    (fun x hx _ => (hi.mono hsub).readable x hx) (hi.mono htip).readable
  refine ⟨_, by rw [needsMore, hl], ?_⟩
  simp only [below_singleton] at hmem
  simp only [List.any_eq_true, Bool.not_eq_true', List.contains_eq_mem, decide_eq_false_iff_not,
    hmem, Complete, not_forall, not_or, exists_prop, and_assoc]

/-! Folding. Here `merge` are the mergeable commits in the order of the batch. -/

section Fold
variable {merge : List CommitId} {folded : Table CommitId CommitId}

/-- A table of links from commits of `merge` up to others. -/
def Upward (h : History) (merge : List CommitId) (folded : Table CommitId CommitId) : Prop :=
  ∀ c d, folded.get? c = some d → c ∈ merge ∧ d ∈ merge ∧ d ≠ c ∧ h.Reaches c d

/-- No other commit of `merge` is above. -/
def Last (h : History) (merge : List CommitId) (c : CommitId) : Prop :=
  ∀ d ∈ merge, h.Reaches c d → d = c

/-- Every commit that is not the last is linked. -/
def Linked (h : History) (merge : List CommitId) (folded : Table CommitId CommitId)
    (c : CommitId) : Prop := folded.contains c = true ∨ Last h merge c

theorem cover?_ok (folded : Table CommitId CommitId)
    {isAncestor : CommitId → CommitId → Except Error Bool} {c : CommitId}
    {others : List CommitId}
    (ht : ∀ d ∈ others, ∃ b, isAncestor c d = .ok b ∧ (b = true ↔ h.Reaches c d)) :
    ∃ found, cover? isAncestor folded c others = .ok found ∧
      (∀ d, found = some d → d ∈ others ∧ d ≠ c ∧ h.Reaches c d) ∧
      (found = none → ∀ d ∈ others, d ≠ c → folded.contains d = false → ¬ h.Reaches c d) := by
  induction others with
  | nil => exact ⟨none, rfl, by simp, by simp⟩
  | cons d others ih =>
    rw [List.forall_mem_cons] at ht
    obtain ⟨⟨b, hb, hreach⟩, ht⟩ := ht
    obtain ⟨found, hfound, hsome, hnone⟩ := ih ht
    have hlater : ∀ e, found = some e → e ∈ d :: others ∧ e ≠ c ∧ h.Reaches c e :=
      fun e he => ⟨List.mem_cons_of_mem _ (hsome e he).1, (hsome e he).2⟩
    by_cases hcond : d ≠ c ∧ folded.contains d = false
    · cases b with
      | true =>
        refine ⟨some d, by simp [cover?, hcond, hb], ?_, by simp⟩
        rintro e ⟨⟩
        exact ⟨List.mem_cons_self .., hcond.1, hreach.1 rfl⟩
      | false =>
        refine ⟨found, by simp [cover?, hcond, hb, hfound], hlater, fun hn => ?_⟩
        rw [List.forall_mem_cons]
        exact ⟨fun _ _ hr => by simpa using hreach.2 hr, hnone hn⟩
    · refine ⟨found, by simp only [cover?, if_neg hcond, hfound], hlater, fun hn => ?_⟩
      rw [List.forall_mem_cons]
      exact ⟨fun hd hc => absurd ⟨hd, hc⟩ hcond, hnone hn⟩

/-- A commit that is not the last has one above that is, and this one is never linked. -/
private theorem last_of_uncovered (ha : Ranked h merge) (hup : Upward h merge folded) {c : CommitId}
    (hnone : ∀ d ∈ merge, d ≠ c → folded.contains d = false → ¬ h.Reaches c d) :
    Last h merge c := by
  obtain ⟨m, hm, hcm, hlast⟩ := exists_last ha (List.Subset.refl merge) c
  rcases hm with rfl | hm
  · exact hlast
  · have hfree : folded.contains m = false := by
      rw [Table.contains, Option.isSome_eq_false_iff, Option.isNone_iff_eq_none]
      cases hget : folded.get? m with
      | none => rfl
      | some d =>
        obtain ⟨_, hd, hne, hmd⟩ := hup m d hget
        exact absurd (hlast d hd hmd) hne
    by_cases he : m = c
    · exact he ▸ hlast
    · exact absurd hcm (hnone m hm he hfree)

private theorem contains_insert {c d k : CommitId} (hk : folded.contains k = true) :
    (folded.insert c d).contains k = true := by
  simp only [Table.contains, Table.get?_insert] at hk ⊢
  split <;> simp_all

theorem link_ok (ha : Ranked h merge)
    (ht : ∀ c ∈ merge, ∀ d ∈ merge, ∃ b, h.isAncestor c d = .ok b ∧ (b = true ↔ h.Reaches c d))
    (hup : Upward h merge folded) {todo : List CommitId} (hsub : todo ⊆ merge)
    (hdone : ∀ c ∈ merge, c ∈ todo ∨ Linked h merge folded c) :
    ∃ folded', link h.isAncestor merge folded todo = .ok folded' ∧ Upward h merge folded' ∧
      ∀ c ∈ merge, Linked h merge folded' c := by
  induction todo generalizing folded with
  | nil => exact ⟨folded, rfl, hup, fun c hc => (hdone c hc).resolve_left (by simp)⟩
  | cons c todo ih =>
    rw [List.cons_subset] at hsub
    obtain ⟨found, hfound, hsome, hnone⟩ := cover?_ok folded (ht c hsub.1)
    cases found with
    | none =>
      have hlast : Last h merge c := last_of_uncovered ha hup (hnone rfl)
      obtain ⟨folded', hlink, hfinal⟩ := ih hup hsub.2 fun d hd => by
        rcases hdone d hd with hd | hd
        · rcases List.mem_cons.1 hd with rfl | hd
          · exact .inr (.inr hlast)
          · exact .inl hd
        · exact .inr hd
      exact ⟨folded', by simp only [link, hfound, hlink], hfinal⟩
    | some d =>
      obtain ⟨hd, hne, hreach⟩ := hsome d rfl
      have hup' : Upward h merge (folded.insert c d) := by
        intro k e hk
        rw [Table.get?_insert] at hk
        split at hk
        · rename_i hck
          subst hck
          cases hk
          exact ⟨hsub.1, hd, hne, hreach⟩
        · exact hup k e hk
      obtain ⟨folded', hlink, hfinal⟩ := ih hup' hsub.2 fun e he => by
        rcases hdone e he with he | he | he
        · rcases List.mem_cons.1 he with rfl | he
          · exact .inr (.inl (by simp [Table.contains]))
          · exact .inl he
        · exact .inr (.inl (contains_insert he))
        · exact .inr (.inr he)
      exact ⟨folded', by simp only [link, hfound, hlink], hfinal⟩

/-- After folding every link leads to a last commit. -/
theorem shorten_last (hg : Grounded merge merge folded) (hup : Upward h merge folded)
    (hlinked : ∀ c ∈ merge, Linked h merge folded c) {c d : CommitId}
    (hget : (shorten folded).get? c = some d) :
    c ∈ merge ∧ d ∈ merge ∧ h.Reaches c d ∧ Last h merge d := by
  obtain ⟨hcontains, hleads⟩ := (hg.get?_shorten_iff c d).1 hget
  obtain ⟨e, he⟩ := Option.isSome_iff_exists.1 hcontains
  have hc : c ∈ merge := (hup c e he).1
  have hend : d ∈ merge ∧ h.Reaches c d := by
    refine hleads.ends_in (p := fun x => x ∈ merge ∧ h.Reaches c x) ?_ ⟨hc, .refl c⟩
    rintro x y hxy ⟨_, hcx⟩
    obtain ⟨_, hy, _, hreach⟩ := hup x y hxy
    exact ⟨hy, hcx.trans hreach⟩
  refine ⟨hc, hend.1, hend.2, (hlinked d hend.1).resolve_left ?_⟩
  simp [Table.contains, hleads.get?_eq_none]

theorem shorten_contains_iff (hup : Upward h merge folded)
    (hlinked : ∀ c ∈ merge, Linked h merge folded c) (c : CommitId) :
    (shorten folded).contains c = true ↔ c ∈ merge ∧ ¬ Last h merge c := by
  rw [Table.contains, get?_shorten, Option.isSome_map, ← Table.contains]
  constructor
  · intro hc
    obtain ⟨d, hd⟩ := Option.isSome_iff_exists.1 hc
    obtain ⟨hc, hd, hne, hcd⟩ := hup c d hd
    exact ⟨hc, fun hlast => hne (hlast d hd hcd)⟩
  · rintro ⟨hc, hlast⟩
    exact (hlinked c hc).resolve_right hlast

end Fold

open Classical in
/-- What reduction makes of the waiting commits: `left` keeps the heads, `folded` sends all other
mergeable commits to a head above them. -/
structure Reduced (h : History) (tip : CommitId) (pending : PendingSet)
    (folded : Table CommitId CommitId) (left : PendingSet) : Prop where
  heads : left.commits = pending.commits.filter (Head h tip pending.ids ·.id)
  contains_iff : ∀ c, folded.contains c = true ↔
    Mergeable h tip pending.ids c ∧ ¬ Head h tip pending.ids c
  covers : ∀ c d, folded.get? c = some d → Head h tip pending.ids d ∧ h.Reaches c d

theorem Reduced.mem_left_iff {folded : Table CommitId CommitId} {pending left : PendingSet}
    (hr : Reduced h tip pending folded left) {c : CommitId} :
    c ∈ left.ids ↔ Head h tip pending.ids c := by
  classical
  rw [PendingSet.mem_ids_of_filter (Head h tip pending.ids ·) hr.heads, decide_eq_true_eq]
  exact and_iff_right_of_imp fun hc => hc.1.1

open Classical in
private theorem fold_ok {pending : PendingSet} (hi : h.IntactAbove tip pending.ids)
    {p : Progress}
    (hp : p.pending.commits = pending.commits.filter (Mergeable h tip pending.ids ·.id)) :
    ∃ r left, fold h p = (.ok r, ⟨left, p.outcomes⟩) ∧ Reduced h tip pending r.folded left := by
  have hmem : ∀ c, c ∈ p.pending.ids ↔ Mergeable h tip pending.ids c := by
    intro c
    rw [PendingSet.mem_ids_of_filter (Mergeable h tip pending.ids ·) hp, decide_eq_true_eq]
    exact and_iff_right_of_imp And.left
  have hlast : ∀ c, Mergeable h tip pending.ids c →
      (Last h p.pending.ids c ↔ Head h tip pending.ids c) := by
    intro c hc
    simp only [Last, hmem, Head, hc, true_and]
  have hids : ∀ {c}, c ∈ p.pending.ids → c ∈ tip :: pending.ids :=
    fun hc => List.mem_cons_of_mem _ ((hmem _).1 hc).1
  have hnone : Upward h p.pending.ids .empty := by simp [Upward]
  have hranked : Ranked h p.pending.ids := fun c hc d _ hcd hdc =>
    hi.acyclic.antisymm (.of_mem ((hmem c).1 hc).1) ((hmem c).1 hc).2.1 hcd hdc
  obtain ⟨folded, hlink, hup, hlinked⟩ := link_ok hranked
    (fun c hc d hd => hi.ancestry c (hids hc) d (hids hd)) hnone (List.Subset.refl p.pending.ids)
    (fun _ hc => .inl hc)
  have hcontains : ∀ c, (shorten folded).contains c = true ↔
      Mergeable h tip pending.ids c ∧ ¬ Head h tip pending.ids c := by
    intro c
    rw [shorten_contains_iff hup hlinked, hmem]
    exact and_congr_right fun hc => not_congr (hlast c hc)
  refine ⟨⟨shorten folded⟩, (p.pending.extract ((shorten folded).contains ·.id)).2,
    by simp only [fold, hlink], ?_, hcontains, ?_⟩
  · simp only [PendingSet.extract, hp, List.filter_filter]
    refine List.filter_congr fun c _ => ?_
    rw [Bool.eq_iff_iff]
    simp only [Bool.and_eq_true, Bool.not_eq_true', decide_eq_true_eq, ← Bool.not_eq_true,
      hcontains, not_and, not_not]
    exact ⟨fun hc => hc.1 hc.2, fun hc => ⟨fun _ => hc, hc.1⟩⟩
  · intro c d hget
    have hg : Grounded p.pending.ids p.pending.ids folded :=
      Grounded.empty.link (List.Subset.refl _) hlink
    obtain ⟨_, hd, hreach, hend⟩ := shorten_last hg hup hlinked hget
    exact ⟨(hlast d ((hmem d).1 hd)).1 hend, hreach⟩

open Classical in
/-- Reduction succeeds on an intact history. It turns away what the tip has and what needs more
than the tip and the batch. -/
theorem reduce_ok {pending : PendingSet} (hi : h.IntactAbove tip pending.ids)
    (outcomes : Outcome.Ledger) :
    ∃ r p, h.reduce tip ⟨pending, outcomes⟩ = (.ok r, p) ∧
      Reduced h tip pending r.folded p.pending ∧
      ∀ c, p.outcomes.get? c = (outcomes.get? c).or (if c ∈ pending.ids then
        if h.Reaches c tip then some .alreadyMerged
        else if Mergeable h tip pending.ids c then none else some .missingDependency
        else none) := by
  have hids : ∀ {c}, c ∈ pending.ids → c ∈ tip :: pending.ids := List.mem_cons_of_mem _
  have hmerged : select (h.isAncestor · tip) pending.ids =
      .ok (pending.ids.filter (h.Reaches · tip)) :=
    select_ok fun c hc => hi.ancestry c (hids hc) tip (List.mem_cons_self ..)
  let p : Progress :=
    Progress.resolve ⟨pending, outcomes⟩ (pending.ids.filter (h.Reaches · tip)) .alreadyMerged
  have hp : p.pending.commits = pending.commits.filter (¬ h.Reaches ·.id tip) := by
    simp only [p, Progress.resolve, PendingSet.commits_without]
    refine List.filter_congr fun c hc => ?_
    have hc : c.id ∈ pending.ids := List.mem_map_of_mem hc
    simp [hc]
  have hpids : ∀ c, c ∈ p.pending.ids ↔ c ∈ pending.ids ∧ ¬ h.Reaches c tip := by
    intro c
    rw [PendingSet.mem_ids_of_filter (¬ h.Reaches · tip) hp, decide_eq_true_eq]
  have hmissing : select (needsMore h tip pending.ids) p.pending.ids =
      .ok (p.pending.ids.filter (¬ Complete h tip pending.ids ·)) :=
    select_ok fun c hc => needsMore_ok hi ((hpids c).1 hc).1
  let q : Progress :=
    p.resolve (p.pending.ids.filter (¬ Complete h tip pending.ids ·)) .missingDependency
  have hq : q.pending.commits = pending.commits.filter (Mergeable h tip pending.ids ·.id) := by
    simp only [q, Progress.resolve, PendingSet.commits_without, hp, List.filter_filter]
    refine List.filter_congr fun c hc => ?_
    have hc : c.id ∈ pending.ids := List.mem_map_of_mem hc
    rw [Bool.eq_iff_iff]
    simp only [Bool.and_eq_true, decide_eq_true_eq, List.mem_filter, hpids, hc, true_and, Mergeable]
    by_cases htip : h.Reaches c.id tip <;> simp [htip]
  obtain ⟨r, left, hfold, hreduced⟩ := fold_ok hi hq
  refine ⟨r, ⟨left, q.outcomes⟩, ?_, hreduced, fun c => ?_⟩
  · simp only [reduce, hmerged, resolveMissing, hmissing, q, p, hfold]
  · have hpget : p.outcomes.get? c = (outcomes.get? c).or
        (if c ∈ pending.ids ∧ h.Reaches c tip then some .alreadyMerged else none) := by
      simp [p, Progress.resolve, Outcome.Ledger.get?_finalizeAll]
    simp only [q, Progress.resolve, Outcome.Ledger.get?_finalizeAll, hpget, List.mem_filter, hpids,
      decide_eq_true_eq, Mergeable]
    by_cases hc : c ∈ pending.ids <;> by_cases htip : h.Reaches c tip <;>
      by_cases hcomplete : Complete h tip pending.ids c <;> simp [hc, htip, hcomplete]

open Classical in
theorem forward?_ok {ids : List CommitId}
    (ht : ∀ c ∈ ids, ∃ b, h.isAncestor tip c = .ok b ∧ (b = true ↔ h.Reaches tip c)) :
    h.forward? tip ids = .ok (ids.find? (h.Reaches tip ·)) := by
  induction ids with
  | nil => rfl
  | cons c ids ih =>
    rw [List.forall_mem_cons] at ht
    obtain ⟨⟨b, hb, hreach⟩, ht⟩ := ht
    by_cases hc : h.Reaches tip c <;> simp_all [forward?]

open Classical in
/-- The first waiting commit above the tip is taken, else the tip. All others keep waiting. -/
theorem firstFastForward_ok {old : TrackedCommit} {p : PendingSet} (hold : old.id ∉ p.ids)
    (ht : ∀ c ∈ p.ids, ∃ b, h.isAncestor old.id c = .ok b ∧ (b = true ↔ h.Reaches old.id c)) :
    ∃ chosen rest, h.firstFastForward old p = (.ok chosen, rest) ∧
      chosen = (p.commits.find? (h.Reaches old.id ·.id)).getD old ∧
      rest.commits = p.commits.filter (·.id ≠ chosen.id) := by
  have hforward := forward?_ok ht
  rw [PendingSet.ids, List.find?_map, Function.comp_def] at hforward
  rw [firstFastForward, PendingSet.ids, hforward]
  cases hfind : p.commits.find? (h.Reaches old.id ·.id) with
  | none =>
    refine ⟨old, p, rfl, rfl, (List.filter_eq_self.2 fun c hc => ?_).symm⟩
    rw [decide_eq_true_eq]
    exact fun he => hold (he ▸ List.mem_map_of_mem hc)
  | some c =>
    have hfst : (p.take c.id).1 = some c :=
      (PendingSet.takeFirst_fst c.id p.commits).trans
        (p.find?_id (List.mem_of_find?_eq_some hfind))
    have htake : p.take c.id = (some c, (p.take c.id).2) := Prod.ext hfst rfl
    refine ⟨c, (p.take c.id).2, ?_, rfl, p.commits_take c.id⟩
    rw [Option.map_some]
    dsimp only
    rw [htake]

theorem order_of_needsMore {c : CommitId} {b : Bool} (hb : needsMore h tip batch c = .ok b) :
    ∃ l, h.order [c] [tip] .newestFirst = .ok l := by
  rw [needsMore] at hb
  split at hb
  · cases hb
  · rename_i l hl
    exact ⟨l, hl⟩

/-- A reduction that comes to its end walked over all that the tip lacks. -/
theorem intactAbove_of_reduce {p q : Progress} {r : Reduction}
    (hi : h.Legible (tip :: p.pending.ids))
    (hr : h.reduce tip p = (.ok r, q)) : h.IntactAbove tip p.pending.ids where
  toLegible := hi
  acyclic := by
    classical
    have hmerged : select (h.isAncestor · tip) p.pending.ids =
        .ok (p.pending.ids.filter (h.Reaches · tip)) :=
      select_ok fun c hc => hi.ancestry c (List.mem_cons_of_mem tip hc) tip List.mem_cons_self
    rw [reduce, hmerged] at hr
    dsimp only at hr
    rw [resolveMissing] at hr
    split at hr
    · cases hr
    · rename_i missing hmissing
      rintro x c ⟨id, hid, hc⟩ hvisible
      have hleft : id ∈ (p.resolve (p.pending.ids.filter (h.Reaches · tip))
          .alreadyMerged).pending.ids := by
        refine (PendingSet.mem_ids_without id).2 ⟨hid, fun hmem => ?_⟩
        exact hvisible (hc.trans (of_decide_eq_true (List.mem_filter.1 hmem).2))
      obtain ⟨b, hb⟩ := test_of_select hmissing id hleft
      obtain ⟨l, hl⟩ := order_of_needsMore hb
      refine acyclicPast_of_order hl x c ⟨id, by simp, hc⟩ ?_
      rwa [below_singleton]

end Landing.Reduction
