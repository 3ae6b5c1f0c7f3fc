import Landing.Git
import Landing.Proofs.History.Search
import Mathlib.Algebra.Order.BigOperators.Group.List
import Mathlib.Algebra.Order.Group.Nat
import Mathlib.Data.List.Perm.Subperm

/-! What the documentation of the library promises of a repository, however it is stored. A history
that can be read is then legible, and a ref is moved or all stays as it is. -/
namespace Landing.Git
open History
variable {g : Git} {files files' : FileTree} {name : String} {id x y old new : CommitId}
  {c : Commit} {ids : List CommitId}

/-- A name in full, and in lower case. -/
def IsFull (id : CommitId) : Prop := objectName? id = some id

instance (id : CommitId) : Decidable (IsFull id) := inferInstanceAs (Decidable (_ = _))

theorem objectName_of_isFull (hid : IsFull id) : objectName id = .ok id := by
  rw [objectName, hid]

@[simp] theorem history_read (g : Git) (files : FileTree) :
    (g.history files).read = g.read files := rfl

/-- Names of objects are full, and known. -/
structure Named (g : Git) : Prop where
  /-- To list the objects is to list all. -/
  listed {files : FileTree} {id : CommitId} {parents : List CommitId}
    {message : Option (List UInt8)} : IsFull id →
    g.object files id = .found (.commit parents message) → id ∈ g.names files
  parents {files : FileTree} {id : CommitId} {parents : List CommitId}
    {message : Option (List UInt8)} : g.object files id = .found (.commit parents message) →
    ∀ p ∈ parents, IsFull p

/-- The same objects and refs. -/
structure Same (g : Git) (files files' : FileTree) : Prop where
  object : g.object files' = g.object files
  ref : g.ref? files' = g.ref? files

/-- The same objects, and a ref that names one of them. -/
structure Arrived (g : Git) (name : String) (new : CommitId) (files files' : FileTree) : Prop where
  object : g.object files' = g.object files
  ref : g.ref? files' name = .found (.object new)

/-- What is documented of a repository. -/
structure Lawful (g : Git) : Prop extends Named g where
  /-- A walk comes to all that a commit reaches and to nothing else, if all of it can be read. -/
  walk {files : FileTree} {id : CommitId} : IsFull id →
    (∀ x, (g.history files).Reaches x id → (g.history files).Readable x) →
    ∃ l : List CommitId, g.walk files id = some (l.map some) ∧
      ∀ x, x ∈ l ↔ (g.history files).Reaches x id
  /-- A commit is the end of a chain of tags. -/
  peel {files : FileTree} {id : CommitId} {parents : List CommitId}
    {message : Option (List UInt8)} : g.object files id = .found (.commit parents message) →
    g.peel? files (.object id) = some id
  target {files : FileTree} {name : String} {id : CommitId} :
    g.ref? files name = .found (.object id) → IsFull id
  /-- A ref that was updated names the new object. An update does not touch objects. -/
  updated {files files' : FileTree} {name : String} {old new : CommitId} :
    Text.startsWith "refs/" name = true → IsFull new →
    g.update files name (some old) new = (true, files') → g.Arrived name new files files'
  /-- An update that fails has no effect. -/
  refused {files files' : FileTree} {name : String} {expected : Option CommitId}
    {new : CommitId} : g.update files name expected new = (false, files') → g.Same files files'

/-! Objects and history. -/

/-- A commit that is read under a full name is stored under that name. -/
theorem object_of_read (hid : IsFull id) (hc : g.read files id = .ok c) :
    c.id = id ∧ ∃ message, g.object files id = .found (.commit c.parents (some message)) := by
  rw [read, objectName_of_isFull hid] at hc
  dsimp only [bind, Except.bind] at hc
  split at hc
  · cases hc
  · cases hc
  · cases hc
  · cases hc
  · rename_i parents message hobject
    cases hc
    exact ⟨rfl, message, hobject⟩

theorem links_of_read (hid : IsFull id) (hc : g.read files id = .ok c) :
    links (g.object files) id = id :: c.parents := by
  obtain ⟨_, message, hobject⟩ := object_of_read hid hc
  rw [links, hobject]

theorem read_congr (hobject : g.object files' = g.object files) :
    (g.history files').read = (g.history files).read := by
  funext id
  simp only [history_read, read, hobject]

namespace Named

theorem isFull_of_reaches (hg : g.Named) (hxy : (g.history files).Reaches x y) (hy : IsFull y) :
    IsFull x := by
  induction hxy with
  | refl => exact hy
  | step _ hp ih =>
    obtain ⟨c, hc, hmem⟩ := hp
    obtain ⟨_, message, hobject⟩ := object_of_read hy hc
    exact ih (hg.parents hobject _ hmem)

theorem isFull_of_below (hg : g.Named) (hids : ∀ id ∈ ids, IsFull id)
    (hx : (g.history files).Below ids x) : IsFull x := by
  obtain ⟨id, hid, hreach⟩ := hx
  exact hg.isFull_of_reaches hreach (hids id hid)

/-- What can be read below full names is listed, and counted. -/
theorem bounded (hg : g.Named) (hids : ∀ id ∈ ids, IsFull id)
    (hr : ∀ x, (g.history files).Below ids x → (g.history files).Readable x) :
    (g.history files).Bounded ids := by
  intro l hl hbelow
  have hcounted : ∀ x ∈ l, x ∈ g.names files ∧
      (g.history files).weight x = (links (g.object files) x).length := by
    intro x hx
    have hfull := hg.isFull_of_below hids (hbelow x hx)
    obtain ⟨c, hc⟩ := hr x (hbelow x hx)
    obtain ⟨_, message, hobject⟩ := object_of_read hfull hc
    refine ⟨hg.listed hfull hobject, ?_⟩
    rw [weight_of_read hc, links_of_read hfull hc, List.length_cons]
  obtain ⟨l', hperm, hsub⟩ := hl.subperm fun x hx => (hcounted x hx).1
  calc
    (g.history files).cost l = (l.map fun x => (links (g.object files) x).length).sum := by
      rw [cost, List.map_congr_left fun x hx => (hcounted x hx).2]
    _ = (l'.map fun x => (links (g.object files) x).length).sum := (hperm.map _).sum_eq.symm
    _ ≤ ((g.names files).map fun x => (links (g.object files) x).length).sum :=
      (hsub.map _).sum_le_sum fun _ _ => Nat.zero_le _
    _ = (g.history files).size := List.length_flatMap.symm

end Named

theorem meets?_map_some (target : CommitId) (l : List CommitId) :
    meets? target (l.map some) = some (decide (target ∈ l)) := by
  induction l with
  | nil => rfl
  | cons x rest ih =>
    rw [List.map_cons, meets?]
    split
    · rename_i hx
      simp [hx]
    · rename_i hx
      simp [ih, Ne.symm hx]

namespace Lawful

/-- Below full names all is legible that can be read. -/
theorem legible (hg : g.Lawful) (hids : ∀ id ∈ ids, IsFull id)
    (hr : ∀ x, (g.history files).Below ids x → (g.history files).Readable x) :
    (g.history files).Legible ids where
  bounded := hg.bounded hids hr
  readable := hr
  ancestry x hx y hy := by
    change ∃ b, g.isAncestor files x y = .ok b ∧ _
    rw [isAncestor]
    split
    · rename_i hxy
      exact ⟨true, rfl, iff_of_true rfl (hxy ▸ .refl x)⟩
    · obtain ⟨l, hwalk, hl⟩ := hg.walk (hids y hy) fun z hz => hr z ⟨y, hy, hz⟩
      refine ⟨decide (x ∈ l), ?_, by rw [decide_eq_true_iff, hl]⟩
      simp only [objectName_of_isFull (hids x hx), objectName_of_isFull (hids y hy), bind,
        Except.bind, hwalk, meets?_map_some]

/-! Refs. -/

/-- The value of a ref that names a commit. -/
theorem readRef_of_ref? (hg : g.Lawful) (href : g.ref? files name = .found (.object id))
    (hr : (g.history files).Readable id) : g.readRef files name = .ok (some id) := by
  obtain ⟨c, hc⟩ := hr
  obtain ⟨_, message, hobject⟩ := object_of_read (hg.target href) hc
  simp only [readRef, href, hg.peel hobject]

/-- To move a ref is to let it name another object. If that fails, all stays as it is. -/
theorem moveRef_cases (hg : g.Lawful) (files : FileTree)
    (hname : Text.startsWith "refs/" name = true) (hold : IsFull old) (hnew : IsFull new) :
    (g.moveRef files name (some old) new).1 = .ok .updated ∧
        g.Arrived name new files (g.moveRef files name (some old) new).2 ∨
      (g.moveRef files name (some old) new).1 ≠ .ok .updated ∧
        g.Same files (g.moveRef files name (some old) new).2 := by
  have hnames : (do return (← (some old).mapM objectName, ← objectName new) :
      Except Error (Option CommitId × CommitId)) = .ok (some old, new) := by
    rw [Option.mapM_some, objectName_of_isFull hold, objectName_of_isFull hnew]
    rfl
  rw [moveRef, hnames]
  dsimp only
  split
  · rename_i hupdate
    exact .inl ⟨rfl, hg.updated hname hnew hupdate⟩
  · rename_i hupdate
    have hsame := hg.refused hupdate
    right
    split
    · exact ⟨by simp, hsame⟩
    · split <;> exact ⟨by simp, hsame⟩

end Lawful

theorem Same.refl (g : Git) (files : FileTree) : g.Same files files := ⟨rfl, rfl⟩

theorem Same.arrived (hs : g.Same files files') (href : g.ref? files name = .found (.object id)) :
    g.Arrived name id files files' := ⟨hs.object, by rw [hs.ref, href]⟩

namespace Arrived

theorem reaches_iff (ha : g.Arrived name new files files') :
    (g.history files').Reaches x y ↔ (g.history files).Reaches x y :=
  reaches_congr (read_congr ha.object)

theorem readRef (ha : g.Arrived name new files files') (hg : g.Lawful)
    (hr : (g.history files).Readable new) : g.readRef files' name = .ok (some new) := by
  refine hg.readRef_of_ref? ha.ref ?_
  rw [Readable, read_congr ha.object]
  exact hr

end Arrived

end Landing.Git
