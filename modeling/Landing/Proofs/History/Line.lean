import Landing.Proofs.History.Ancestry
import Mathlib.Data.List.Chain

/-! Lines of commits, one on top of the other with no other parent, and how they divide. -/
namespace Landing.History
variable {h : History} {base c p : CommitId} {l done rest : List CommitId}

/-- `p` is the parent of `c`, and the only one. -/
def SoleParent (h : History) (p c : CommitId) : Prop :=
  ∃ commit, h.read c = .ok commit ∧ commit.parents = [p]

/-- Commits on top of each other and of `base`, and none of them below it. -/
structure Line (h : History) (base : CommitId) (l : List CommitId) : Prop where
  linked : (base :: l).IsChain h.SoleParent
  above : ∀ c ∈ l, ¬ h.Reaches c base

theorem SoleParent.parent_iff (hp : h.SoleParent p c) {q : CommitId} :
    h.Parent q c ↔ q = p := by
  obtain ⟨commit, hread, hparents⟩ := hp
  rw [History.parent_iff hread, hparents, List.mem_singleton]

theorem SoleParent.reaches (hp : h.SoleParent p c) : h.Reaches p c :=
  (hp.parent_iff.2 rfl).reaches

/-- What reaches a commit is the commit, or reaches its only parent. -/
theorem SoleParent.reaches_cases (hp : h.SoleParent p c) {x : CommitId} (hx : h.Reaches x c) :
    x = c ∨ h.Reaches x p := by
  refine hx.eq_or_parent.imp_right ?_
  rintro ⟨q, hxq, hq⟩
  rwa [hp.parent_iff.1 hq] at hxq

private theorem exists_parent (hl : (base :: l).IsChain h.SoleParent) (hc : c ∈ l) :
    ∃ p ∈ base :: l, h.SoleParent p c := by
  induction l generalizing base with
  | nil => simp at hc
  | cons d l ih =>
    obtain ⟨hp, hl⟩ := List.isChain_cons_cons.1 hl
    rcases List.mem_cons.1 hc with rfl | hc
    · exact ⟨base, List.mem_cons_self, hp⟩
    · obtain ⟨p, hmem, hp⟩ := ih hl hc
      exact ⟨p, List.mem_cons_of_mem base hmem, hp⟩

namespace Line

theorem pairwise (hl : h.Line base l) : (base :: l).Pairwise h.Reaches := by
  have htrans : Trans h.Reaches h.Reaches h.Reaches := ⟨Reaches.trans⟩
  exact List.isChain_iff_pairwise.1 (hl.linked.imp fun _ _ => SoleParent.reaches)

theorem reaches_cases (hl : h.Line base l) {x : CommitId} (hc : c ∈ l) (hx : h.Reaches x c) :
    x ∈ l ∨ h.Reaches x base := by
  have hlinked := hl.linked
  clear hl
  induction l generalizing base c with
  | nil => simp at hc
  | cons d l ih =>
    obtain ⟨hp, hlinked⟩ := List.isChain_cons_cons.1 hlinked
    have hfirst : h.Reaches x d → x ∈ d :: l ∨ h.Reaches x base := fun hd =>
      (hp.reaches_cases hd).imp_left fun he => List.mem_cons.2 (.inl he)
    rcases List.mem_cons.1 hc with rfl | hc
    · exact hfirst hx
    · rcases ih hc hx hlinked with hmem | hd
      · exact .inl (List.mem_cons_of_mem d hmem)
      · exact hfirst hd

theorem reaches_last (hl : h.Line base l) (hc : c ∈ base :: l) :
    h.Reaches c (l.getLast?.getD base) := by
  cases hlast : l.getLast? with
  | none =>
    rw [List.getLast?_eq_none_iff] at hlast
    subst hlast
    rw [List.mem_singleton.1 hc]
    exact .refl base
  | some d =>
    obtain ⟨a, rfl⟩ := List.getLast?_eq_some_iff.1 hlast
    have hpairs := hl.pairwise
    rw [← List.cons_append, List.pairwise_append] at hpairs
    rw [← List.cons_append, List.mem_append, List.mem_singleton] at hc
    rcases hc with hc | rfl
    · exact hpairs.2.2 c hc d (List.mem_singleton_self d)
    · exact .refl c

theorem take (hl : h.Line base (done ++ rest)) : h.Line base done where
  linked := by
    have hlinked : (base :: done ++ rest).IsChain h.SoleParent := hl.linked
    exact hlinked.left_of_append
  above c hc := hl.above c (List.mem_append_left rest hc)

/-- The rest of a line is a line. A commit that came again would have the base for its parent
again, and the base would be one of those above it. -/
private theorem tail {d : CommitId} (hl : h.Line base (d :: l)) : h.Line d l := by
  obtain ⟨hp, hlinked⟩ := List.isChain_cons_cons.1 hl.linked
  refine ⟨hlinked, fun c hc hreach => ?_⟩
  rcases hp.reaches_cases hreach with rfl | hbase
  · obtain ⟨q, hmem, hq⟩ := exists_parent hlinked hc
    obtain rfl : q = base := hp.parent_iff.1 (hq.parent_iff.2 rfl)
    exact hl.above q hmem (.refl q)
  · exact hl.above c (List.mem_cons_of_mem d hc) hbase

theorem drop (hl : h.Line base (done ++ rest)) : h.Line (done.getLast?.getD base) rest := by
  induction done generalizing base with
  | nil => exact hl
  | cons d done ih =>
    rw [List.getLast?_cons, Option.getD_some]
    exact ih (tail hl)

/-- What comes later in a line is not below what comes before. -/
theorem sorted (hl : h.Line base l) : l.Pairwise fun c d => ¬ h.Reaches d c := by
  induction l generalizing base with
  | nil => exact .nil
  | cons d l ih => exact .cons (tail hl).above (ih (tail hl))

theorem nodup (hl : h.Line base l) : l.Nodup :=
  hl.sorted.imp fun {c d} hdc (he : c = d) => hdc (he ▸ .refl c)

theorem mem_iff (hl : h.Line base l) :
    c ∈ l ↔ h.Reaches c (l.getLast?.getD base) ∧ ¬ h.Reaches c base := by
  refine ⟨fun hc => ⟨hl.reaches_last (List.mem_cons_of_mem base hc), hl.above c hc⟩, ?_⟩
  rintro ⟨hlast, hbase⟩
  cases hd : l.getLast? with
  | none =>
    rw [hd] at hlast
    exact absurd hlast hbase
  | some d =>
    rw [hd] at hlast
    exact (hl.reaches_cases (List.mem_of_getLast? hd) hlast).resolve_right hbase

/-- There is but one order in which no commit of a line is in front of what it is built on. -/
theorem eq_of_perm (hl : h.Line base l) {l' : List CommitId} (hp : l'.Perm l)
    (hs : l'.Pairwise fun c d => ¬ h.Reaches d c) : l' = l := by
  have hpairs := (List.pairwise_cons.1 hl.pairwise).2
  have htotal := List.Pairwise.forall_of_forall_of_flip
    (R := fun x y => h.Reaches x y ∨ h.Reaches y x) (fun x _ => .inl (.refl x))
    (hpairs.imp Or.inl) (hpairs.imp Or.inr)
  refine hp.eq_of_pairwise (fun a b ha hb hba hab => ?_) hs hl.sorted
  exact (htotal (hp.subset ha) hb).elim (absurd · hab) (absurd · hba)

/-- No commit of a line is an ancestor of its parent. -/
theorem not_reaches_parent (hl : h.Line base l) (hc : c ∈ l) (hp : h.Parent p c) :
    ¬ h.Reaches c p := by
  induction l generalizing base with
  | nil => simp at hc
  | cons d l ih =>
    rcases List.mem_cons.1 hc with rfl | hc
    · rw [(List.isChain_cons_cons.1 hl.linked).1.parent_iff.1 hp]
      exact hl.above c List.mem_cons_self
    · exact ih (tail hl) hc

end Line

end Landing.History
