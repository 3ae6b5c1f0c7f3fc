import Landing.Proofs.History.Reduction
import Landing.Proofs.Rehearsal

/-! Reduction parts the waiting commits into those that the tip has, those that need a commit that
is missing, those that another one covers, and those that keep waiting. -/
namespace Landing.Reduction
open History
variable {h : History} {tip : CommitId} {batch : List CommitId}

/-- Some other mergeable commit is a descendant. -/
def Surpassed (h : History) (tip : CommitId) (batch : List CommitId) (c : CommitId) : Prop :=
  ∃ d, Mergeable h tip batch d ∧ d ≠ c ∧ h.Reaches c d

theorem head_iff {c : CommitId} :
    Head h tip batch c ↔ Mergeable h tip batch c ∧ ¬ Surpassed h tip batch c := by
  refine and_congr_right fun _ => ⟨?_, ?_⟩
  · rintro hhead ⟨d, hd, hne, hcd⟩
    exact hne (hhead d hd hcd)
  · intro hn d hd hcd
    by_contra hne
    exact hn ⟨d, hd, hne, hcd⟩

theorem not_complete_iff {c : CommitId} :
    ¬ Complete h tip batch c ↔ ∃ x, h.Reaches x c ∧ ¬ h.Reaches x tip ∧ x ∉ batch := by
  simp only [Complete, not_forall, not_or, exists_prop]

theorem Reduced.ne_of_get? {folded : Table CommitId CommitId} {pending left : PendingSet}
    (hr : Reduced h tip pending folded left) {c d : CommitId} (hget : folded.get? c = some d) :
    d ≠ c := by
  rintro rfl
  have hcontains : folded.contains d = true := by rw [Table.contains, hget, Option.isSome_some]
  exact ((hr.contains_iff d).1 hcontains).2 (hr.covers d d hget).1

open Classical in
/-- What reduction does to commits that have no outcome yet. -/
structure Parted (h : History) (tip : CommitId) (before : Progress)
    (folded : Table CommitId CommitId) (after : Progress) : Prop where
  alreadyMerged : ∀ c ∈ before.pending.ids,
    after.outcomes.get? c = some .alreadyMerged ↔ h.Reaches c tip
  missingDependency : ∀ c ∈ before.pending.ids,
    after.outcomes.get? c = some .missingDependency ↔ ¬ h.Reaches c tip ∧
      ∃ x, h.Reaches x c ∧ ¬ h.Reaches x tip ∧ x ∉ before.pending.ids
  /-- No other outcome is recorded. -/
  unrecorded : ∀ c, c ∉ before.pending.ids ∨ Mergeable h tip before.pending.ids c →
    after.outcomes.get? c = before.outcomes.get? c
  contains_iff : ∀ c, folded.contains c = true ↔
    Mergeable h tip before.pending.ids c ∧ Surpassed h tip before.pending.ids c
  covers : ∀ c d, folded.get? c = some d → d ∈ after.pending.ids ∧ d ≠ c ∧ h.Reaches c d
  /-- The others keep waiting, in the order they have. -/
  left : after.pending.commits = before.pending.commits.filter fun c =>
    Mergeable h tip before.pending.ids c.id ∧ ¬ Surpassed h tip before.pending.ids c.id
  antichain : ∀ c ∈ after.pending.ids, ∀ d ∈ after.pending.ids, h.Reaches c d → c = d

/-- On an intact history reduction succeeds and parts the waiting commits. -/
theorem reduce_parted (before : Progress) (hi : h.Intact (tip :: before.pending.ids))
    (hnone : ∀ c ∈ before.pending.ids, before.outcomes.get? c = none) :
    ∃ r after, h.reduce tip before = (.ok r, after) ∧ Parted h tip before r.folded after := by
  obtain ⟨r, after, hreduce, hr, hget⟩ := reduce_ok hi.above before.outcomes
  refine ⟨r, after, hreduce, ?_⟩
  have hverdict : ∀ c ∈ before.pending.ids, ∀ o, after.outcomes.get? c = some o ↔
      h.Reaches c tip ∧ o = .alreadyMerged ∨
        ¬ h.Reaches c tip ∧ ¬ Complete h tip before.pending.ids c ∧ o = .missingDependency := by
    intro c hc o
    rw [hget, hnone c hc, Option.none_or, if_pos hc]
    by_cases htip : h.Reaches c tip <;> by_cases hcomplete : Complete h tip before.pending.ids c <;>
      simp [htip, hcomplete, hc, Mergeable, eq_comm]
  constructor
  case alreadyMerged =>
    intro c hc
    simp [hverdict c hc]
  case missingDependency =>
    intro c hc
    simp [hverdict c hc, not_complete_iff]
  case unrecorded =>
    rintro c (hc | hc)
    · rw [hget, if_neg hc, Option.or_none]
    · rw [hget, if_pos hc.1, if_neg hc.2.1, if_pos hc, Option.or_none]
  case contains_iff =>
    intro c
    rw [hr.contains_iff, head_iff]
    tauto
  case covers =>
    intro c d hcd
    obtain ⟨hd, hreach⟩ := hr.covers c d hcd
    exact ⟨hr.mem_left_iff.2 hd, hr.ne_of_get? hcd, hreach⟩
  case left =>
    rw [hr.heads]
    exact List.filter_congr fun c _ => decide_eq_decide.2 head_iff
  case antichain =>
    intro c hc d hd hcd
    exact ((hr.mem_left_iff.1 hc).2 d (hr.mem_left_iff.1 hd).1 hcd).symm

open Rehearsal.Crossing in
/-- The tip has one of the waiting commits; one of the other three covers another. -/
theorem reduce_parted_forked :
    let before : Progress := ⟨wider, .empty⟩
    ∃ r after, forked.history.reduce above before = (.ok r, after) ∧
      Parted forked.history above before r.folded after ∧ r.folded.get? beside = some further := by
  have hi : forked.history.Intact (above :: wider.ids) := forked_intact (by decide)
  obtain ⟨r, after, hreduce, hparted⟩ := reduce_parted ⟨wider, .empty⟩ hi fun _ _ => rfl
  refine ⟨r, after, hreduce, hparted, ?_⟩
  have hfolded : (forked.history.reduce above ⟨wider, .empty⟩).1.toOption.bind
      (·.folded.get? beside) = some further := by decide +kernel
  rwa [hreduce] at hfolded

end Landing.Reduction
