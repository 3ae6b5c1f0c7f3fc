import Landing.Proofs.CommitId
import Landing.Proofs.Git
import Landing.Repository.Revision

/-! Commits in loose files. They are listed under full names, and a walk comes to all that they
reach. -/
namespace Landing.Repository
open History
open Git (IsFull)
variable {r : Repository} {files : FileTree} {id : CommitId} {c : Commit} {o : Object}
  {ids : List CommitId}

/-- Digits in lower case by their numbers. -/
theorem isLowerHex_iff {c : Char} : Object.isLowerHex c = true ↔
    (48 ≤ c.toNat ∧ c.toNat ≤ 57) ∨ (97 ≤ c.toNat ∧ c.toNat ≤ 102) := by
  simp only [Object.isLowerHex, Bool.or_eq_true, Bool.and_eq_true, decide_eq_true_eq]
  exact Iff.rfl

theorem isLowerHex_iff_isHexDigit {c : Char} :
    Object.isLowerHex c = true ↔ CommitId.isHexDigit c = true ∧ c.toLower = c := by
  rw [isLowerHex_iff, CommitId.isHexDigit_iff]
  rcases Text.toLower_cases c with ⟨hc, hrange⟩ | ⟨hlow, hhigh, hc⟩
  · simp only [hc, and_true]
    omega
  · have hne : c.toLower ≠ c := fun he => by
      rw [he] at hc
      omega
    simp only [hne, and_false, iff_false]
    omega

/-- Full names are as names are written inside objects. -/
theorem isFull_iff_isName : IsFull id ↔ Object.isName id.hex.toList = true := by
  have hnormal : CommitId.normal id.hex = id ↔ ∀ c ∈ id.hex.toList, c.toLower = c :=
    CommitId.isNormal_iff
  simp only [IsFull, Git.objectName?, Object.isName, ← String.length_toList, Bool.and_eq_true,
    decide_eq_true_eq, List.all_eq_true, isLowerHex_iff_isHexDigit, Option.ite_none_right_eq_some,
    Option.some.injEq, hnormal, and_assoc, forall₂_and]

theorem isFull_of_nameHeader? {name : String} {cs rest : List Char}
    (hc : Object.nameHeader? name cs = some (id, rest)) : IsFull id := by
  rw [Object.nameHeader?] at hc
  split at hc
  · split at hc
    · rename_i hname
      cases hc
      rwa [isFull_iff_isName, String.toList_ofList]
    · cases hc
  · cases hc

theorem isFull_of_parentsFrom {n : Nat} {cs rest : List Char}
    (hc : Object.parentsFrom n cs = (ids, rest)) : ∀ id ∈ ids, IsFull id := by
  induction n generalizing cs rest ids with
  | zero =>
    cases hc
    simp
  | succ n ih =>
    rw [Object.parentsFrom] at hc
    split at hc
    · cases hc
      simp
    · rename_i id cs' hid
      cases hc
      exact List.forall_mem_cons.2 ⟨isFull_of_nameHeader? hid, ih rfl⟩

theorem links?_of_authored? {rest : List Char} (ho : o.authored? = some (ids, rest)) :
    ∃ tree rest', o.links? = some (tree, ids, rest') := by
  simp only [Object.authored?, Option.bind_eq_bind, Option.bind_eq_some_iff] at ho
  obtain ⟨⟨tree, parents, rest'⟩, hlinks, ⟨author, rest''⟩, _, hauthor⟩ := ho
  dsimp only at hauthor
  split at hauthor
  · cases hauthor
    exact ⟨tree, rest', hlinks⟩
  · cases hauthor

/-- Commits name their parents in full. -/
theorem isFull_of_links? {tree : CommitId} {rest : List Char}
    (ho : o.links? = some (tree, ids, rest)) : ∀ id ∈ ids, IsFull id := by
  rw [Object.links?] at ho
  split at ho
  · cases ho
  · simp only [Option.bind_eq_bind, Option.bind_eq_some_iff] at ho
    obtain ⟨⟨tree', rest'⟩, _, hparents⟩ := ho
    cases hparents
    exact isFull_of_parentsFrom rfl

theorem authored?_of_content {message : List UInt8}
    (ho : o.content = .commit ids (some message)) : ∃ rest, o.authored? = some (ids, rest) := by
  rw [Object.content] at ho
  split at ho
  · injection ho with hids hmessage
    simp only [Option.bind_eq_bind, Option.bind_eq_some_iff] at hmessage
    obtain ⟨⟨parents, rest⟩, hauthored, _⟩ := hmessage
    obtain ⟨tree, rest', hlinks⟩ := links?_of_authored? hauthored
    rw [hlinks] at hids
    exact ⟨rest, hids ▸ hauthored⟩
  · cases ho

/-- What the history takes for a commit is stored, and is one. -/
theorem stored_of_content {message : Option (List UInt8)}
    (hc : r.content files id = .found (.commit ids message)) :
    ∃ o, r.stored files id = .found o ∧ o.kind = .commit ∧ o.content = .commit ids message := by
  rw [content, object] at hc
  split at hc
  · cases hc
  · cases hs : r.stored files id with
    | missing => simp [hs, Git.Finding.map] at hc
    | damaged => simp [hs, Git.Finding.map] at hc
    | found o =>
      rw [hs] at hc
      injection hc with ho
      refine ⟨o, rfl, ?_, ho⟩
      rw [Object.content] at ho
      split at ho
      · assumption
      · cases ho

theorem read_of_stored {message : List UInt8} (hid : IsFull id) (hne : id ≠ Object.emptyTreeName)
    (hs : r.stored files id = .found o) (ho : o.content = .commit ids (some message)) :
    r.git.read files id = .ok ⟨id, ids, Text.decodeLossy message⟩ := by
  have hcontent : r.git.object files id = .found (.commit ids (some message)) := by
    simp only [git, content, object, if_neg hne, hs, Git.Finding.map, ho]
  rw [Git.read, Git.objectName_of_isFull hid]
  simp only [bind, Except.bind, hcontent]

theorem isFull_of_content {message : Option (List UInt8)}
    (hc : r.content files id = .found (.commit ids message)) : ∀ p ∈ ids, IsFull p := by
  obtain ⟨o, _, hkind, ho⟩ := stored_of_content hc
  rw [Object.content, if_pos hkind] at ho
  injection ho with hids
  rw [← hids]
  cases hlinks : o.links? with
  | none => simp
  | some links => exact isFull_of_links? hlinks

theorem parents?_of_read (hid : IsFull id) (hc : r.git.read files id = .ok c) :
    r.parents? files id = some c.parents := by
  obtain ⟨_, message, hcontent⟩ := Git.object_of_read hid hc
  obtain ⟨o, hs, _, ho⟩ := stored_of_content hcontent
  obtain ⟨rest, hauthored⟩ := authored?_of_content ho
  simp only [parents?, hs, hauthored, Option.map_some]

/-- The file of an object tells the name of the object. -/
theorem nameOfPlace?_objectPlace (r : Repository) (hid : IsFull id) :
    r.nameOfPlace? (r.objectPlace id) = some id := by
  have hname : (⟨String.ofList (id.hex.toList.take 2) ++ String.ofList (id.hex.toList.drop 2)⟩ :
      CommitId) = id := by
    rw [← String.ofList_append, List.take_append_drop, String.ofList_toList]
  have hprefix : r.shared.isPrefixOf (r.objectPlace id) = true :=
    List.isPrefixOf_iff_prefix.2 (List.prefix_append ..)
  have hdrop : (r.objectPlace id).drop r.shared.length = ["objects",
      String.ofList (id.hex.toList.take 2), String.ofList (id.hex.toList.drop 2)] :=
    List.drop_left ..
  have hfull : Git.objectName? id = some id := hid
  rw [nameOfPlace?, if_pos hprefix, hdrop]
  simp [hname, hfull]

theorem mem_names (hid : IsFull id) (hs : r.stored files id = .found o) :
    id ∈ r.names files := by
  refine List.mem_filterMap.2 ⟨r.objectPlace id, ?_, nameOfPlace?_objectPlace r hid⟩
  rw [Table.mem_keys_iff]
  rw [stored] at hs
  split at hs
  · cases hs
  · rename_i f hf
    rw [FileTree.file?] at hf
    rw [hf, Option.isSome_some]

theorem git_named (r : Repository) : r.git.Named where
  listed hid hc := by
    obtain ⟨o, hs, _⟩ := stored_of_content hc
    exact mem_names hid hs
  parents := isFull_of_content

/-- The walk finds what the closure collects. -/
theorem visits_of_closure {n : Nat} {seen queue l : List CommitId}
    (hqueue : ∀ x ∈ queue, IsFull x) (hl : closure (r.git.read files) n seen queue = .ok l) :
    ∃ l' : List CommitId, r.visits files n seen queue = l'.map some ∧
      l = l'.reverse ++ seen := by
  fun_induction closure (r.git.read files) n seen queue with
  | case1 n seen =>
    cases hl
    exact ⟨[], by cases n <;> rfl, rfl⟩
  | case2 => cases hl
  | case3 n seen id rest hid ih =>
    rw [visits, if_pos hid]
    exact ih (List.forall_mem_cons.1 hqueue).2 hl
  | case4 => cases hl
  | case5 n seen id rest hid c hc ih =>
    rw [List.forall_mem_cons] at hqueue
    obtain ⟨_, _, hcontent⟩ := Git.object_of_read hqueue.1 hc
    obtain ⟨l', hvisits, rfl⟩ :=
      ih (List.forall_mem_append.2 ⟨hqueue.2, isFull_of_content hcontent⟩) hl
    refine ⟨id :: l', ?_, by simp⟩
    rw [visits, if_neg hid, parents?_of_read hqueue.1 hc]
    exact congrArg (some id :: ·) hvisits

theorem exists_walk (hid : IsFull id)
    (hr : ∀ x, (r.git.history files).Reaches x id → (r.git.history files).Readable x) :
    ∃ l : List CommitId, r.git.walk files id = some (l.map some) ∧
      ∀ x, x ∈ l ↔ (r.git.history files).Reaches x id := by
  have hfull : ∀ x ∈ [id], IsFull x := List.forall_mem_singleton.2 hid
  have hbelow : ∀ x, (r.git.history files).Below [id] x → (r.git.history files).Readable x := by
    simpa using hr
  obtain ⟨l, hl, hmem⟩ := exists_reachable (r.git_named.bounded hfull hbelow) hbelow
  obtain ⟨l', hvisits, rfl⟩ := visits_of_closure hfull hl
  exact ⟨l', congrArg some hvisits, fun x => by simpa using hmem x⟩

end Landing.Repository
