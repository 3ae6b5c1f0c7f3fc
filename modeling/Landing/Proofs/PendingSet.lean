import Landing.PendingSet
import Landing.Proofs.Firsts
import Mathlib.Algebra.GroupWithZero.Nat
import Mathlib.Data.List.Perm.Basic

/-! Waiting commits are neither lost nor made: each is left waiting, or was handed out once. Main
statement: `removeAll_conserves`. -/
namespace Landing.PendingSet

theorem keepFirst_eq (kept commits : List TrackedCommit) :
    keepFirst kept commits =
      kept ++ (firstsBy (·.id) commits).filter (·.id ∉ kept.map (·.id)) := by
  induction commits generalizing kept with
  | nil => exact (List.append_nil kept).symm
  | cons c rest ih =>
    have hany : kept.any (·.id = c.id) = true ↔ c.id ∈ kept.map (·.id) := by simp
    rw [append_firstsBy_cons, keepFirst, ih, ih]
    simp only [hany]

theorem commits_ofList (commits : List TrackedCommit) :
    (ofList commits).commits = firstsBy (·.id) commits :=
  (keepFirst_eq [] commits).trans (by simp)

/-- A call that takes commits out. Since no two waiting commits are the same, the answers of a test
that remembers what it was asked are those of a test of the commit alone. -/
inductive Removal where
  | take (id : CommitId)
  | drain
  | extract (pred : TrackedCommit → Bool)

/-- What a call hands out, and what it leaves. -/
def remove (p : PendingSet) : Removal → List TrackedCommit × PendingSet
  | .take id => ((p.take id).1.toList, (p.take id).2)
  | .drain => p.drain
  | .extract pred => p.extract pred

/-- What each of several calls hands out, one after the other, and what they leave. -/
def removeAll (p : PendingSet) : List Removal → List (List TrackedCommit) × PendingSet
  | [] => ([], p)
  | call :: rest =>
    let (taken, p) := p.remove call
    let (others, p) := p.removeAll rest
    (taken :: others, p)

theorem toList_take (p : PendingSet) (id : CommitId) :
    (p.take id).1.toList = p.commits.filter (·.id = id) := by
  have h := p.distinct
  rw [take, takeFirst_fst]
  generalize p.commits = commits at h ⊢
  induction commits with
  | nil => rfl
  | cons c rest ih =>
    rw [List.map_cons, List.nodup_cons] at h
    rw [List.find?_cons, List.filter_cons]
    by_cases hc : c.id = id
    · have hnone : rest.filter (·.id = id) = [] := by
        rw [List.filter_eq_nil_iff]
        intro d hd hid
        exact h.1 (hc ▸ of_decide_eq_true hid ▸ List.mem_map_of_mem hd)
      simp [hc, hnone]
    · simp only [hc, decide_false, ih h.2]
      rfl

/-- Whatever the call is, it parts the waiting commits by a test. -/
theorem remove_eq_filter (p : PendingSet) (call : Removal) : ∃ pred : TrackedCommit → Bool,
    (p.remove call).1 = p.commits.filter pred ∧
      (p.remove call).2.commits = p.commits.filter (!pred ·) := by
  cases call with
  | take id =>
    refine ⟨(·.id = id), p.toList_take id, (p.commits_take id).trans ?_⟩
    exact List.filter_congr fun c _ => decide_not
  | drain => exact ⟨fun _ => true, by simp [remove, drain]⟩
  | extract pred => exact ⟨pred, rfl, rfl⟩

theorem remove_perm (p : PendingSet) (call : Removal) :
    ((p.remove call).1 ++ (p.remove call).2.commits).Perm p.commits := by
  obtain ⟨pred, htaken, hleft⟩ := p.remove_eq_filter call
  rw [htaken, hleft]
  simpa using List.filter_append_perm pred p.commits

theorem remove_sublist (p : PendingSet) (call : Removal) :
    (p.remove call).1.Sublist p.commits ∧ (p.remove call).2.commits.Sublist p.commits := by
  obtain ⟨pred, htaken, hleft⟩ := p.remove_eq_filter call
  rw [htaken, hleft]
  exact ⟨List.filter_sublist, List.filter_sublist⟩

theorem removeAll_perm (p : PendingSet) (calls : List Removal) :
    ((p.removeAll calls).1.flatten ++ (p.removeAll calls).2.commits).Perm p.commits := by
  induction calls generalizing p with
  | nil => exact .refl _
  | cons call rest ih =>
    rw [removeAll, List.flatten_cons, List.append_assoc]
    exact ((ih _).append_left _).trans (p.remove_perm call)

theorem removeAll_sublist (p : PendingSet) (calls : List Removal) :
    (∀ taken ∈ (p.removeAll calls).1, taken.Sublist p.commits) ∧
      (p.removeAll calls).2.commits.Sublist p.commits := by
  induction calls generalizing p with
  | nil => exact ⟨by simp [removeAll], .refl _⟩
  | cons call rest ih =>
    obtain ⟨htaken, hleft⟩ := p.remove_sublist call
    obtain ⟨hothers, hrest⟩ := ih (p.remove call).2
    exact ⟨List.forall_mem_cons.2 ⟨htaken, fun taken hmem => (hothers taken hmem).trans hleft⟩,
      hrest.trans hleft⟩

/-- Of the commits `all`, some were handed out, call by call, and the others are left. -/
structure Conserved (all : List TrackedCommit) (handed : List (List TrackedCommit))
    (left : PendingSet) : Prop where
  left_sublist : left.commits.Sublist all
  left_distinct : left.ids.Nodup
  handed_sublist : ∀ taken ∈ handed, taken.Sublist all
  /-- Nothing but what was submitted is handed out or left. -/
  perm : (handed.flatten ++ left.commits).Perm all
  /-- Each is in one place, and there once: with what is left, or with what one call handed out. -/
  once : ∀ c ∈ all, left.commits.count c + (handed.map (·.count c)).sum = 1

/-- Of a list of commits the first of each id are submitted. After any calls that take commits out,
each of these is either left, or was handed out by one call, once; all in the order of the list. -/
theorem removeAll_conserves (commits : List TrackedCommit) (calls : List Removal) :
    Conserved (firstsBy (·.id) commits) ((ofList commits).removeAll calls).1
      ((ofList commits).removeAll calls).2 := by
  have hperm := (ofList commits).removeAll_perm calls
  obtain ⟨hhanded, hleft⟩ := (ofList commits).removeAll_sublist calls
  rw [commits_ofList] at hperm hhanded hleft
  refine ⟨hleft, PendingSet.distinct _, hhanded, hperm, fun c hc => ?_⟩
  have hone : (firstsBy (·.id) commits).count c = 1 :=
    List.count_eq_one_of_mem (nodup_firstsBy commits).of_map hc
  rw [← hone, ← hperm.count_eq, List.count_append, List.count_flatten, Nat.add_comm]

end Landing.PendingSet
