import Landing.Commit

/-! Commits that wait for a decision. -/
namespace Landing

/-- Waiting commits in the order of submission, no two with one id. -/
structure PendingSet where
  commits : List TrackedCommit := []
  distinct : (commits.map (·.id)).Nodup := by exact List.nodup_nil
  deriving DecidableEq, Repr

namespace PendingSet

instance : Inhabited PendingSet := ⟨{}⟩

/-- Of several commits with one id the first counts. -/
def keepFirst (kept : List TrackedCommit) : List TrackedCommit → List TrackedCommit
  | [] => kept
  | c :: rest =>
    if kept.any (·.id = c.id) then keepFirst kept rest else keepFirst (kept ++ [c]) rest

theorem nodup_keepFirst (kept commits : List TrackedCommit) (h : (kept.map (·.id)).Nodup) :
    ((keepFirst kept commits).map (·.id)).Nodup := by
  induction commits generalizing kept with
  | nil => exact h
  | cons c rest ih =>
    rw [keepFirst]
    split
    · exact ih kept h
    · rename_i hc
      apply ih
      rw [List.map_append, List.nodup_append]
      refine ⟨h, by simp, fun a ha b hb => ?_⟩
      simp only [List.map_cons, List.map_nil, List.mem_singleton] at hb
      simp only [List.any_eq_true, decide_eq_true_eq, not_exists, not_and] at hc
      obtain ⟨d, hd, rfl⟩ := List.mem_map.1 ha
      exact fun he => hc d hd (he.trans hb)

def ofList (commits : List TrackedCommit) : PendingSet :=
  ⟨keepFirst [] commits, nodup_keepFirst [] commits List.nodup_nil⟩

def ids (p : PendingSet) : List CommitId := p.commits.map (·.id)

def contains (p : PendingSet) (id : CommitId) : Bool := p.commits.any (·.id = id)

def size (p : PendingSet) : Nat := p.commits.length

def isEmpty (p : PendingSet) : Bool := p.commits.isEmpty

/-- Takes out the first commit called `id`. -/
def takeFirst (id : CommitId) : List TrackedCommit → Option TrackedCommit × List TrackedCommit
  | [] => (none, [])
  | c :: rest =>
    if c.id = id then (some c, rest)
    else ((takeFirst id rest).1, c :: (takeFirst id rest).2)

theorem takeFirst_sublist (id : CommitId) (commits : List TrackedCommit) :
    (takeFirst id commits).2.Sublist commits := by
  induction commits with
  | nil => exact List.Sublist.slnil
  | cons c rest ih =>
    rw [takeFirst]
    split
    · exact List.sublist_cons_self c rest
    · exact ih.cons_cons c

def take (p : PendingSet) (id : CommitId) : Option TrackedCommit × PendingSet :=
  ((takeFirst id p.commits).1, ⟨(takeFirst id p.commits).2,
    p.distinct.sublist ((takeFirst_sublist id p.commits).map _)⟩)

/-- What is left after taking each of `ids`. -/
def without (p : PendingSet) (ids : List CommitId) : PendingSet :=
  ids.foldl (fun p id => (p.take id).2) p

/-- Takes out everything. -/
def drain (p : PendingSet) : List TrackedCommit × PendingSet := (p.commits, {})

/-- Takes out the commits that satisfy `pred`. -/
def extract (p : PendingSet) (pred : TrackedCommit → Bool) : List TrackedCommit × PendingSet :=
  (p.commits.filter pred, ⟨p.commits.filter (!pred ·),
    p.distinct.sublist (List.filter_sublist.map _)⟩)

theorem mem_ids_iff {p : PendingSet} {id : CommitId} : id ∈ p.ids ↔ ∃ c ∈ p.commits, c.id = id :=
  List.mem_map

theorem takeFirst_fst (id : CommitId) (commits : List TrackedCommit) :
    (takeFirst id commits).1 = commits.find? (·.id = id) := by
  induction commits with
  | nil => rfl
  | cons c rest ih =>
    rw [takeFirst, List.find?_cons]
    split <;> simp_all

theorem takeFirst_snd (id : CommitId) {commits : List TrackedCommit}
    (h : (commits.map (·.id)).Nodup) :
    (takeFirst id commits).2 = commits.filter (·.id ≠ id) := by
  induction commits with
  | nil => rfl
  | cons c rest ih =>
    rw [List.map_cons, List.nodup_cons] at h
    rw [takeFirst, List.filter_cons]
    split
    · rename_i he
      subst he
      have hall : ∀ d ∈ rest, d.id ≠ c.id := fun d hd he => h.1 (he ▸ List.mem_map_of_mem hd)
      simpa using (List.filter_eq_self.2 (by simpa using hall)).symm
    · simp_all

/-- No other waiting commit has the id. -/
theorem find?_id (p : PendingSet) {c : TrackedCommit} (hc : c ∈ p.commits) :
    p.commits.find? (·.id = c.id) = some c := by
  have h := p.distinct
  generalize p.commits = commits at hc h ⊢
  induction commits with
  | nil => simp at hc
  | cons d rest ih =>
    rw [List.map_cons, List.nodup_cons] at h
    rw [List.find?_cons]
    rcases List.mem_cons.1 hc with rfl | hc
    · simp
    · have hne : d.id ≠ c.id := fun he => h.1 (he ▸ List.mem_map_of_mem hc)
      simp [hne, ih hc h.2]

theorem commits_take (p : PendingSet) (id : CommitId) :
    (p.take id).2.commits = p.commits.filter (·.id ≠ id) := takeFirst_snd id p.distinct

theorem commits_without (p : PendingSet) (ids : List CommitId) :
    (p.without ids).commits = p.commits.filter (·.id ∉ ids) := by
  induction ids generalizing p with
  | nil => exact (List.filter_eq_self.2 (by simp)).symm
  | cons id ids ih =>
    have ih := ih (p.take id).2
    simp only [without, List.foldl_cons] at ih ⊢
    rw [ih, commits_take, List.filter_filter]
    simp [Bool.and_comm]

theorem mem_ids_of_filter {p q : PendingSet} (f : CommitId → Bool)
    (hq : q.commits = p.commits.filter (f ·.id)) (id : CommitId) :
    id ∈ q.ids ↔ id ∈ p.ids ∧ f id = true := by
  have hids : q.ids = p.ids.filter f := by
    rw [ids, hq, ids, List.filter_map]
    rfl
  rw [hids, List.mem_filter]

theorem mem_ids_without {p : PendingSet} {ids : List CommitId} (id : CommitId) :
    id ∈ (p.without ids).ids ↔ id ∈ p.ids ∧ id ∉ ids := by
  rw [mem_ids_of_filter (· ∉ ids) (p.commits_without ids), decide_eq_true_eq]

theorem mem_keepFirst (kept commits : List TrackedCommit) (id : CommitId) :
    id ∈ (keepFirst kept commits).map (·.id) ↔
      id ∈ kept.map (·.id) ∨ id ∈ commits.map (·.id) := by
  induction commits generalizing kept with
  | nil => simp [keepFirst]
  | cons c rest ih =>
    rw [keepFirst, List.map_cons, List.mem_cons]
    split
    · rename_i hc
      obtain ⟨d, hd, hsame⟩ := List.any_eq_true.1 hc
      have hid : id = c.id → id ∈ kept.map (·.id) :=
        fun he => he ▸ of_decide_eq_true hsame ▸ List.mem_map_of_mem hd
      rw [ih]
      exact ⟨fun h => h.imp_right .inr, fun h => h.elim .inl fun h => h.imp_left hid⟩
    · rw [ih, List.map_append, List.mem_append, List.map_singleton, List.mem_singleton, or_assoc]

theorem mem_ids_ofList (commits : List TrackedCommit) (id : CommitId) :
    id ∈ (ofList commits).ids ↔ id ∈ commits.map (·.id) :=
  (mem_keepFirst [] commits id).trans (by simp)

end PendingSet

end Landing
