import Landing.Proofs.Rehearsal
import Landing.Proofs.Submission.Halting

/-! Submissions with a mirror: nothing lands that the mirror did not take. What the mirror took
lands too, and the branch keeps what it had, unless the commits on the way are no chain. -/
namespace Landing.Submission
open History Reduction
open Rehearsal (services)
open Rehearsal.Crossing (base above beside merge old batch world main sync calm intact reaches_iff
  not_reaches)
variable {σ : Type} {s : Services σ} {h : History} {w : σ} {plan : Plan} {tip : TrackedCommit}
  {pending : PendingSet} {landed : Landed}

/-- Every commit between `tip` and `chosen` is built on `tip`. -/
def Ahead (h : History) (tip chosen : CommitId) : Prop :=
  ∀ c, h.Reaches c chosen → ¬ h.Reaches c tip → h.Reaches tip c

/-- Of any two commits between `tip` and `chosen` one is built on the other. -/
def Chain (h : History) (tip chosen : CommitId) : Prop :=
  ∀ c d, h.Reaches c chosen → ¬ h.Reaches c tip → h.Reaches d chosen → ¬ h.Reaches d tip →
    h.Reaches c d ∨ h.Reaches d c

/-- A submission to a mirrored branch brings in no commit that the mirror did not take. -/
theorem pushed_of_landed {tickets : TicketMatcher} (hs : s.Steady w)
    (hi : (s.history w).Intact (tip.id :: pending.ids)) (hp : plan.policy = .mirrored tickets)
    (hb : Branch.isMirrored plan.branch.name = true)
    (hok : (run s plan tip pending w).result = .ok landed) {c : CommitId}
    (hc : (s.history w).Reaches c landed.newTip.id) (htip : ¬ (s.history w).Reaches c tip.id) :
    ∃ r a, (r, some a) ∈ (run s plan tip pending w).session.pushes ∧ r.newRev = c ∧
      a.exitCode = 0 := by
  apply Session.mem_mirrored_iff.1
  rcases run_cases hs hi hok with ⟨hnew, _, hskip⟩ | ⟨_, done, rest, _, _, _, hf, hdone⟩
  · have hcase := hskip tickets hp
    rw [hb] at hcase
    rw [hnew, hcase.resolve_right (by simp)] at hc
    exact absurd hc htip
  · rw [hdone]
    exact hf.mem_of_reaches_new hc htip

namespace Crossing

/-- The merge is chosen. -/
theorem choice_id : (choice (services.history world) old batch).id = merge := by
  obtain ⟨_, _, _, landed, _, _, hok, _⟩ := run_ok ⟨main, .localOnly, []⟩ calm.steady intact rfl
  have hnew : (run services ⟨main, .localOnly, []⟩ old batch world).result.toOption.map
      (·.newTip.id) = some merge := by decide
  rw [hok] at hnew
  rw [← choice_of_localOnly calm.steady intact hok]
  exact Option.some.inj hnew

/-- The mirror takes all, the commit beside the tip after the one above it. -/
theorem run_sync : (run services sync old batch world).session.mirrored = [above, beside, merge] ∧
    (run services sync old batch world).result.toOption.map (·.newTip.id) = some merge := by
  decide +kernel

theorem choice_mem : (choice (services.history world) old batch).id ∈
    (run services sync old batch world).session.mirrored := by
  rw [choice_id, run_sync.1]
  decide

theorem above_reaches : (services.history world).Reaches above merge :=
  (reaches_iff (by decide) (by decide)).2 (by decide)

theorem not_above_reaches : ¬ (services.history world).Reaches above base :=
  not_reaches (by decide) (by decide) (by decide)

theorem beside_reaches : (services.history world).Reaches beside merge :=
  (reaches_iff (by decide) (by decide)).2 (by decide)

theorem not_beside_reaches : ¬ (services.history world).Reaches beside base :=
  not_reaches (by decide) (by decide) (by decide)

theorem not_ahead : ¬ Ahead (services.history world) base
    (choice (services.history world) old batch).id := by
  rw [choice_id]
  intro hahead
  have hc := hahead beside beside_reaches not_beside_reaches
  exact not_reaches (by decide) (by decide) (by decide) hc

theorem not_chain : ¬ Chain (services.history world) base
    (choice (services.history world) old batch).id := by
  rw [choice_id]
  intro hchain
  rcases hchain above beside above_reaches not_above_reaches beside_reaches not_beside_reaches
    with hc | hc
  · exact not_reaches (by decide) (by decide) (by decide) hc
  · exact not_reaches (by decide) (by decide) (by decide) hc

end Crossing

theorem pushed_of_landed_crossing :
    ∃ r a, (r, some a) ∈ (run services sync old batch world).session.pushes ∧
      r.newRev = beside ∧ a.exitCode = 0 := by
  obtain ⟨_, _, _, landed, _, _, hok, _⟩ := run_ok sync calm.steady intact rfl
  have hnew : landed.newTip.id = merge := by
    have he := Crossing.run_sync.2
    rw [hok] at he
    exact Option.some.inj he
  have hreach : (services.history world).Reaches beside landed.newTip.id := by
    rw [hnew]
    exact Crossing.beside_reaches
  exact pushed_of_landed calm.steady intact rfl (by decide +kernel) hok hreach
    Crossing.not_beside_reaches

/-! The move of the branch. -/

theorem moveBranch_ok {id : CommitId} {r r' : Report σ} (he : moveBranch s plan id r = r')
    (hok : r'.result = .ok landed) :
    r.result = .ok landed ∧ r'.session.mirrored = r.session.mirrored := by
  rw [moveBranch] at he
  split at he
  · subst he
    exact ⟨hok, rfl⟩
  · rename_i landed' hresult
    split at he
    · subst he
      exact ⟨hok, rfl⟩
    · split at he
      · rename_i x hask
        subst he
        have hx : (r.session.ask (s.moveRef plan.branch.name (some id) landed'.newTip.id)).2 = x :=
          congrArg Prod.snd hask
        subst hx
        exact ⟨hok, rfl⟩
      · subst he
        cases hok
      · subst he
        cases hok

/-- A run that ends where the mirror stops is followed by the branch. -/
theorem integrate_halting {refused : CommitId → Bool}
    (hok : (run (s.halting refused) plan tip pending w).result = .ok landed) :
    (integrate (s.halting refused) plan tip pending w).result = .ok landed := by
  rw [integrate, moveBranch, hok]
  dsimp only
  split
  · exact hok
  · rfl

theorem forward_iff (hs : s.Steady w) (hi : (s.history w).Intact (tip.id :: pending.ids))
    (hok : (run s plan tip pending w).result = .ok landed) :
    (s.history w).Reaches tip.id landed.newTip.id ↔
      ∀ c, (run s plan tip pending w).session.mirrored.getLast? = some c →
        (s.history w).Reaches tip.id c := by
  rcases run_cases hs hi hok with ⟨hnew, hnone, _⟩ | ⟨_, done, rest, _, _, _, hf, hdone⟩
  · rw [hnew, hnone]
    simpa using reaches_choice (s.history w) tip pending
  · rw [hdone]
    exact hf.reaches_new_iff

theorem forward_of_ahead (hs : s.Steady w) (hi : (s.history w).Intact (tip.id :: pending.ids))
    (ha : Ahead (s.history w) tip.id (choice (s.history w) tip pending).id)
    (hok : (run s plan tip pending w).result = .ok landed) :
    (s.history w).Reaches tip.id landed.newTip.id := by
  rw [forward_iff hs hi hok]
  intro c hc
  rcases run_cases hs hi hok with ⟨_, hnone, _⟩ | ⟨_, done, rest, _, _, _, hf, hdone⟩
  · simp [hnone] at hc
  · rw [hdone] at hc
    obtain ⟨hreach, htip⟩ := hf.mem_range (List.mem_of_getLast? hc)
    exact ha c hreach htip

/-- A mirror that can take the chosen commit can stop at any other, and the branch goes there. -/
theorem exists_halt (hs : s.Steady w) (hi : (s.history w).Intact (tip.id :: pending.ids))
    (ha : plan.accepted = [])
    (hall : (choice (s.history w) tip pending).id ∈ (run s plan tip pending w).session.mirrored)
    {a b : List CommitId} {c : CommitId}
    (hsplit : (run s plan tip pending w).session.mirrored = a ++ c :: b) :
    ∃ landed, (run (s.halting b.contains) plan tip pending w).result = .ok landed ∧
      (run (s.halting b.contains) plan tip pending w).session.mirrored = a ++ [c] ∧
      landed.newTip.id = c := by
  obtain ⟨_, _, _, _, hl⟩ := mirrored_all hs hi ha hall
  rw [hsplit, List.append_cons] at hl
  obtain ⟨landed, hok, hmirrored, hf⟩ := run_halting hs hi ha hall hl
  exact ⟨landed, hok, hmirrored, hf.new_of_last (List.getLast?_concat ..)⟩

/-- When the branch moves forward. In any run that moves it, it keeps what it had exactly if the
last commit that the mirror took is built on it. So it does whenever all that comes in is built on
it; and where that is not so, and the mirror could take all of it, the mirror can stop so that
the branch loses what it had. -/
theorem integrate_forward_iff (hs : s.Steady w)
    (hi : (s.history w).Intact (tip.id :: pending.ids)) (plan : Plan) :
    (∀ landed, (integrate s plan tip pending w).result = .ok landed →
      ((s.history w).Reaches tip.id landed.newTip.id ↔
        ∀ c, (integrate s plan tip pending w).session.mirrored.getLast? = some c →
          (s.history w).Reaches tip.id c)) ∧
    (Ahead (s.history w) tip.id (choice (s.history w) tip pending).id →
      ∀ landed, (integrate s plan tip pending w).result = .ok landed →
        (s.history w).Reaches tip.id landed.newTip.id) ∧
    (plan.accepted = [] →
      (choice (s.history w) tip pending).id ∈ (run s plan tip pending w).session.mirrored →
      ¬ Ahead (s.history w) tip.id (choice (s.history w) tip pending).id →
      ∃ refused landed, (integrate (s.halting refused) plan tip pending w).result = .ok landed ∧
        ¬ (s.history w).Reaches tip.id landed.newTip.id) := by
  refine ⟨fun landed hok => ?_, fun hahead landed hok => ?_, fun ha hall hahead => ?_⟩
  · obtain ⟨hok, hmirrored⟩ := moveBranch_ok rfl hok
    rw [integrate, hmirrored]
    exact forward_iff hs hi hok
  · exact forward_of_ahead hs hi hahead (moveBranch_ok rfl hok).1
  · simp only [Ahead, not_forall] at hahead
    obtain ⟨c, hc, htip, hlost⟩ := hahead
    have hmem : c ∈ (run s plan tip pending w).session.mirrored :=
      (mem_mirrored_iff_of_all hs hi ha hall c).2 ⟨hc, htip⟩
    obtain ⟨a, b, hsplit⟩ := List.append_of_mem hmem
    obtain ⟨landed, hok, _, hnew⟩ := exists_halt hs hi ha hall hsplit
    exact ⟨b.contains, landed, integrate_halting hok, by rw [hnew]; exact hlost⟩

theorem integrate_forward_iff_crossing :
    ∃ refused landed,
      (integrate (services.halting refused) sync old batch world).result = .ok landed ∧
        ¬ (services.history world).Reaches base landed.newTip.id :=
  (integrate_forward_iff calm.steady intact sync).2.2 rfl Crossing.choice_mem Crossing.not_ahead

/-! What the mirror took. -/

/-- What the mirror took has landed, or waits for the rest of its way. It has landed if the last
commit that the mirror took is built on it. -/
theorem outcome_of_mirrored (hs : s.Steady w)
    (hi : (s.history w).Intact (tip.id :: pending.ids)) (ha : plan.accepted = [])
    (hok : (run s plan tip pending w).result = .ok landed) {c : CommitId}
    (hc : c ∈ (run s plan tip pending w).session.mirrored) :
    (open Classical in landed.outcomes.get? c = some (if (s.history w).Reaches c landed.newTip.id
      then .cleanMerge else .dependencyBlocked)) ∧
    ((s.history w).Reaches c landed.newTip.id ↔
      ∀ d, (run s plan tip pending w).session.mirrored.getLast? = some d →
        (s.history w).Reaches c d) := by
  obtain ⟨r, x, y, landed', ho, hbring, hok', _, hmirrored, hget⟩ := run_ok plan hs hi ha
  obtain rfl : landed' = landed := Except.ok.inj (hok'.symm.trans hok)
  rw [hmirrored] at hc ⊢
  rcases Session.bringIn_cases (hs x.world ho.leads) (intact_choice hi)
    ho.batch_id hbring with
    ⟨_, rfl, _⟩ | ⟨_, done, rest, _, _, _, hf, hpassage⟩
  · simp [ho.mirrored] at hc
  · rw [hpassage.mirrored ho.batch_id, ho.mirrored, List.nil_append] at hc ⊢
    obtain ⟨hreach, htip⟩ := hf.mem_range hc
    have hmerge := mergeable_of_reaches_choice hreach htip
    have hopen : y.outcomes.get? c = none := by
      rw [hpassage.get?_of_mem hf.nodup hc, ho.get?_of_between hreach htip]
    constructor
    · rw [hget, hopen, Option.none_or, if_pos hmerge.1]
      by_cases hnew : (s.history w).Reaches c landed'.newTip.id
      · rw [if_pos ⟨hnew, htip⟩, if_pos hnew]
      · have hhead : ¬ Head (s.history w) tip.id pending.ids c := by
          intro hhead
          obtain rfl := eq_choice hhead hreach
          rw [hf.new_eq_chosen hc] at hnew
          exact hnew (.refl _)
        have hfolded : r.folded.contains c = true := (ho.contains_iff c).2 ⟨hmerge, hhead⟩
        rw [if_neg (fun hm => hnew hm.1), if_neg hnew, Session.leftover, if_pos hfolded]
    · obtain ⟨d, hd⟩ := Followed.exists_last hc
      rw [hf.new_of_last hd, hd]
      simp

/-- In a chain the last commit that the mirror took is built on the others. -/
theorem landed_of_chain (hs : s.Steady w) (hi : (s.history w).Intact (tip.id :: pending.ids))
    (hchain : Chain (s.history w) tip.id (choice (s.history w) tip pending).id)
    (hok : (run s plan tip pending w).result = .ok landed) {c : CommitId}
    (hc : c ∈ (run s plan tip pending w).session.mirrored) :
    (s.history w).Reaches c landed.newTip.id := by
  rcases run_cases hs hi hok with ⟨_, hnone, _⟩ | ⟨_, done, rest, _, _, _, hf, hdone⟩
  · simp [hnone] at hc
  · rw [hdone] at hc
    obtain ⟨d, hd⟩ := Followed.exists_last hc
    have hrangec := hf.mem_range hc
    have hranged := hf.mem_range (List.mem_of_getLast? hd)
    rw [hf.new_of_last hd]
    rcases hchain c d hrangec.1 hrangec.2 hranged.1 hranged.2 with hcd | hdc
    · exact hcd
    · rw [hf.eq_of_last_reaches hd hc hdc]
      exact .refl d

/-- Where a list is not sorted, some member is not above one in front of it. -/
private theorem exists_unsorted {R : CommitId → CommitId → Prop} {l : List CommitId}
    (hl : ¬ l.Pairwise R) : ∃ a d b c, l = a ++ d :: b ∧ c ∈ a ∧ ¬ R c d := by
  simp only [List.pairwise_iff_forall_sublist, not_forall] at hl
  obtain ⟨c, d, hsub, hcd⟩ := hl
  obtain ⟨l₁, l₂, rfl, hc, hd⟩ := List.cons_sublist_iff.1 hsub
  obtain ⟨a, b, rfl⟩ := List.append_of_mem (List.singleton_sublist.1 hd)
  exact ⟨l₁ ++ a, d, b, c, by rw [List.append_assoc], List.mem_append_left a hc, hcd⟩

theorem chain_of_pairwise {tip chosen : CommitId} {l : List CommitId} (hl : l.Pairwise h.Reaches)
    (hmem : ∀ c, c ∈ l ↔ h.Reaches c chosen ∧ ¬ h.Reaches c tip) : Chain h tip chosen := by
  intro c d hc htip hd htip'
  have hall := List.Pairwise.forall_of_forall_of_flip
    (R := fun x y => h.Reaches x y ∨ h.Reaches y x) (fun x _ => .inl (.refl x))
    (hl.imp Or.inl) (hl.imp Or.inr)
  exact hall ((hmem c).2 ⟨hc, htip⟩) ((hmem d).2 ⟨hd, htip'⟩)

/-- When all that the mirror took lands. In any run, what it took has landed exactly if the last
commit that it took is built on it, and is blocked otherwise. So all of it lands whenever the
commits on the way are a chain; and where they are none, and the mirror could take them all, it
can stop so that some commit that it took is left off the branch. -/
theorem mirrored_landed_iff (hs : s.Steady w) (hi : (s.history w).Intact (tip.id :: pending.ids))
    (ha : plan.accepted = []) :
    (∀ landed, (run s plan tip pending w).result = .ok landed →
      ∀ c ∈ (run s plan tip pending w).session.mirrored,
        (open Classical in landed.outcomes.get? c =
          some (if (s.history w).Reaches c landed.newTip.id then .cleanMerge
            else .dependencyBlocked)) ∧
        ((s.history w).Reaches c landed.newTip.id ↔
          ∀ d, (run s plan tip pending w).session.mirrored.getLast? = some d →
            (s.history w).Reaches c d)) ∧
    (Chain (s.history w) tip.id (choice (s.history w) tip pending).id →
      ∀ landed, (run s plan tip pending w).result = .ok landed →
        ∀ c ∈ (run s plan tip pending w).session.mirrored,
          (s.history w).Reaches c landed.newTip.id ∧
            landed.outcomes.get? c = some .cleanMerge) ∧
    ((choice (s.history w) tip pending).id ∈ (run s plan tip pending w).session.mirrored →
      ¬ Chain (s.history w) tip.id (choice (s.history w) tip pending).id →
      ∃ refused landed c, (run (s.halting refused) plan tip pending w).result = .ok landed ∧
        c ∈ (run (s.halting refused) plan tip pending w).session.mirrored ∧
        ¬ (s.history w).Reaches c landed.newTip.id ∧
        landed.outcomes.get? c = some .dependencyBlocked) := by
  refine ⟨fun landed hok c hc => outcome_of_mirrored hs hi ha hok hc,
    fun hchain landed hok c hc => ?_, fun hall hchain => ?_⟩
  · have hreach := landed_of_chain hs hi hchain hok hc
    refine ⟨hreach, ?_⟩
    rw [(outcome_of_mirrored hs hi ha hok hc).1, if_pos hreach]
  · have hunsorted : ¬ (run s plan tip pending w).session.mirrored.Pairwise
        (s.history w).Reaches :=
      fun hl => hchain (chain_of_pairwise hl (mem_mirrored_iff_of_all hs hi ha hall))
    obtain ⟨a, d, b, c, hsplit, hc, hcd⟩ := exists_unsorted hunsorted
    obtain ⟨landed, hok, hmirrored, hnew⟩ := exists_halt hs hi ha hall hsplit
    have hmem : c ∈ (run (s.halting b.contains) plan tip pending w).session.mirrored := by
      rw [hmirrored]
      exact List.mem_append_left [d] hc
    have hleft : ¬ (s.history w).Reaches c landed.newTip.id := by
      rw [hnew]
      exact hcd
    refine ⟨b.contains, landed, c, hok, hmem, hleft, ?_⟩
    rw [(outcome_of_mirrored (hs.halting b.contains) hi ha hok hmem).1]
    exact congrArg some (if_neg hleft)

theorem mirrored_landed_iff_crossing :
    ∃ refused landed c, (run (services.halting refused) sync old batch world).result = .ok landed ∧
      c ∈ (run (services.halting refused) sync old batch world).session.mirrored ∧
      ¬ (services.history world).Reaches c landed.newTip.id ∧
      landed.outcomes.get? c = some .dependencyBlocked :=
  (mirrored_landed_iff calm.steady intact rfl).2.2 Crossing.choice_mem Crossing.not_chain

end Landing.Submission
