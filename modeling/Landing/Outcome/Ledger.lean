import Landing.CommitId
import Landing.Outcome
import Landing.Table

/-! The outcomes of a submission, each written once, in the order of writing. -/
namespace Landing.Outcome

/-- The outcomes of commits, and the commits that have one, in the order of writing, none twice. -/
structure Ledger where
  table : Table CommitId Outcome := .empty
  order : List CommitId := []
  distinct : order.Nodup := by exact List.nodup_nil
  listed : ∀ id, id ∈ order ↔ table.contains id = true := by simp [Table.contains]
  deriving DecidableEq, Repr

namespace Ledger

instance : Inhabited Ledger := ⟨{}⟩

def empty : Ledger := {}

def get? (l : Ledger) (id : CommitId) : Option Outcome := l.table.get? id

def isFinal (l : Ledger) (id : CommitId) : Bool := (l.get? id).isSome

theorem mem_order_iff (l : Ledger) (id : CommitId) : id ∈ l.order ↔ l.isFinal id = true :=
  l.listed id

/-- The commits with their outcomes, oldest entry first. Whatever is listed has an outcome. -/
def entries (l : Ledger) : List (CommitId × Outcome) :=
  l.order.pmap (fun id (h : l.isFinal id = true) => (id, (l.get? id).get h))
    fun id => (l.mem_order_iff id).1

theorem nodup_append {l : Ledger} {id : CommitId} (h : ¬ l.isFinal id = true) :
    (l.order ++ [id]).Nodup := by
  rw [List.nodup_append]
  refine ⟨l.distinct, by simp, fun a ha b hb hab => h ?_⟩
  rw [← l.mem_order_iff, ← List.mem_singleton.1 hb, ← hab]
  exact ha

theorem mem_append_iff (l : Ledger) (id : CommitId) (o : Outcome) (id' : CommitId) :
    id' ∈ l.order ++ [id] ↔ (l.table.insert id o).contains id' = true := by
  rw [List.mem_append, List.mem_singleton, l.listed, Table.contains, Table.contains,
    Table.get?_insert]
  by_cases he : id = id'
  · simp [he]
  · simp [he, Ne.symm he]

/-- Writes an outcome unless the commit has one, and says whether it was written. -/
def write (l : Ledger) (id : CommitId) (o : Outcome) : Bool × Ledger :=
  if h : l.isFinal id then (false, l)
  else (true, ⟨l.table.insert id o, l.order ++ [id], nodup_append h, l.mem_append_iff id o⟩)

/-- Writes an outcome unless the commit has one. -/
def finalize (l : Ledger) (id : CommitId) (o : Outcome) : Ledger := (l.write id o).2

/-- Writes one outcome for each commit of a list. -/
def finalizeAll (l : Ledger) (ids : List CommitId) (o : Outcome) : Ledger :=
  ids.foldl (·.finalize · o) l

def size (l : Ledger) : Nat := l.order.length

def isEmpty (l : Ledger) : Bool := l.order.isEmpty

@[simp] theorem get?_empty (id : CommitId) : empty.get? id = none := rfl

theorem write_fst (l : Ledger) (id : CommitId) (o : Outcome) :
    (l.write id o).1 = !l.isFinal id := by
  rw [write]
  split <;> simp_all

theorem finalize_of_isFinal {l : Ledger} {id : CommitId} (h : l.isFinal id = true) (o : Outcome) :
    l.finalize id o = l := by
  rw [finalize, write, dif_pos h]

theorem get?_finalize (l : Ledger) (id id' : CommitId) (o : Outcome) :
    (l.finalize id o).get? id' = if id' = id then some ((l.get? id).getD o) else l.get? id' := by
  by_cases h : l.isFinal id = true
  · obtain ⟨x, hx⟩ := Option.isSome_iff_exists.1 h
    rw [finalize_of_isFinal h]
    split <;> simp_all
  · have hnone : l.get? id = none := by simpa [isFinal] using h
    rw [finalize, write, dif_neg h, get?, Table.get?_insert, hnone]
    by_cases he : id = id'
    · rw [if_pos he, if_pos he.symm, Option.getD_none]
    · rw [if_neg he, if_neg (Ne.symm he), get?]

theorem isFinal_finalize (l : Ledger) (id id' : CommitId) (o : Outcome) :
    (l.finalize id o).isFinal id' = (decide (id' = id) || l.isFinal id') := by
  simp only [isFinal, get?_finalize]
  split <;> simp [*]

/-- What was written first stays. -/
theorem get?_finalizeAll (l : Ledger) (ids : List CommitId) (o : Outcome) (id : CommitId) :
    (l.finalizeAll ids o).get? id = (l.get? id).or (if id ∈ ids then some o else none) := by
  induction ids generalizing l with
  | nil => simp [finalizeAll]
  | cons id' ids ih =>
    have ih := ih (l.finalize id' o)
    simp only [finalizeAll, List.foldl_cons] at ih ⊢
    rw [ih, get?_finalize]
    by_cases he : id = id'
    · subst he
      cases l.get? id <;> simp
    · simp [he]

@[simp] theorem map_fst_entries (l : Ledger) : l.entries.map (·.1) = l.order := by
  rw [entries, List.map_pmap, List.pmap_eq_map, List.map_id']

@[simp] theorem length_entries (l : Ledger) : l.entries.length = l.size := List.length_pmap ..

/-- A ledger holds an entry exactly if it gives the outcome. -/
theorem mem_entries_iff (l : Ledger) (id : CommitId) (o : Outcome) :
    (id, o) ∈ l.entries ↔ l.get? id = some o := by
  rw [entries, List.mem_pmap]
  constructor
  · rintro ⟨id', _, he⟩
    cases he
    exact (Option.some_get _).symm
  · intro ho
    have hid : id ∈ l.order := (l.mem_order_iff id).2 (by rw [isFinal, ho, Option.isSome_some])
    exact ⟨id, hid, by simp [ho]⟩

theorem find?_entries (l : Ledger) (id : CommitId) :
    l.entries.find? (·.1 = id) = (l.get? id).map (id, ·) := by
  cases hfind : l.entries.find? (·.1 = id) with
  | some e =>
    have he : e.1 = id := by simpa using List.find?_some hfind
    have ho : l.get? id = some e.2 :=
      (l.mem_entries_iff id e.2).1 (he ▸ List.mem_of_find?_eq_some hfind)
    rw [ho, ← he]
    rfl
  | none =>
    cases hget : l.get? id with
    | none => rfl
    | some o => simpa using List.find?_eq_none.1 hfind (id, o) ((l.mem_entries_iff id o).2 hget)

theorem entries_finalize (l : Ledger) (id : CommitId) (o : Outcome) :
    (l.finalize id o).entries =
      if l.isFinal id then l.entries else l.entries ++ [(id, o)] := by
  by_cases h : l.isFinal id = true
  · rw [if_pos h, finalize_of_isFinal h]
  · have hwrite : l.finalize id o = ⟨l.table.insert id o, l.order ++ [id], nodup_append h,
        l.mem_append_iff id o⟩ := by rw [finalize, write, dif_neg h]
    rw [if_neg h, hwrite, entries, List.pmap_append]
    congr 1
    · refine List.pmap_congr_left l.order fun id' hid' _ _ => ?_
      have hne : id ≠ id' := fun he => h ((l.mem_order_iff id).1 (he ▸ hid'))
      simp only [get?, Table.get?_insert, if_neg hne]
    · simp [get?]

/-- Entries only come in at the end. -/
theorem entries_foldl (l : Ledger) (ids : List CommitId) (f : CommitId → Outcome) :
    ∃ new, (ids.foldl (fun l id => l.finalize id (f id)) l).entries = l.entries ++ new := by
  induction ids generalizing l with
  | nil => exact ⟨[], (List.append_nil _).symm⟩
  | cons id ids ih =>
    obtain ⟨new, hnew⟩ := ih (l.finalize id (f id))
    rw [List.foldl_cons, hnew]
    by_cases hid : l.isFinal id = true
    · exact ⟨new, by rw [finalize_of_isFinal hid]⟩
    · exact ⟨(id, f id) :: new, by simp [entries_finalize, hid]⟩

theorem entries_finalizeAll {l : Ledger} {ids : List CommitId} (hn : ids.Nodup)
    (hopen : ∀ id ∈ ids, l.isFinal id = false) (o : Outcome) :
    (l.finalizeAll ids o).entries = l.entries ++ ids.map (·, o) := by
  induction ids generalizing l with
  | nil => exact (List.append_nil _).symm
  | cons id rest ih =>
    rw [List.nodup_cons] at hn
    rw [List.forall_mem_cons] at hopen
    have hrest : ∀ id' ∈ rest, (l.finalize id o).isFinal id' = false := by
      intro id' hid'
      have hne : id' ≠ id := fun he => hn.1 (he ▸ hid')
      rw [isFinal_finalize, hopen.2 id' hid', Bool.or_false, decide_eq_false hne]
    have hfirst : (l.finalize id o).entries = l.entries ++ [(id, o)] := by
      simp [entries_finalize, hopen.1]
    have htail : (l.finalizeAll (id :: rest) o).entries =
        (l.finalize id o).entries ++ rest.map (·, o) := ih hn.2 hrest
    rw [htail, hfirst, List.append_assoc, List.singleton_append, List.map_cons]

/-- Commits that have an outcome can be left out. -/
theorem finalizeAll_filter_open {l : Ledger} {ids : List CommitId} (hn : ids.Nodup) (o : Outcome) :
    l.finalizeAll (ids.filter (!l.isFinal ·)) o = l.finalizeAll ids o := by
  induction ids generalizing l with
  | nil => rfl
  | cons id rest ih =>
    obtain ⟨hid, hn⟩ := List.nodup_cons.1 hn
    cases hfinal : l.isFinal id with
    | true =>
      have hsame : l.finalize id o = l := finalize_of_isFinal hfinal o
      rw [List.filter_cons_of_neg (by simp [hfinal]), ih hn]
      exact congrArg (finalizeAll · rest o) hsame.symm
    | false =>
      have hrest : rest.filter (!l.isFinal ·) = rest.filter (!(l.finalize id o).isFinal ·) := by
        refine List.filter_congr fun c hc => ?_
        have hne : c ≠ id := fun he => hid (he ▸ hc)
        simp [isFinal_finalize, hne]
      rw [List.filter_cons_of_pos (by simp [hfinal]), hrest]
      exact ih hn

end Ledger

end Landing.Outcome
