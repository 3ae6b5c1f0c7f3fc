/-! Finite tables that keep the order in which their keys came in. -/
namespace Landing

/-- Keys with their values, each key once if built by `insert`. -/
structure Table (κ α : Type) where
  entries : List (κ × α) := []
  deriving DecidableEq, Repr, Inhabited

namespace Table

variable {κ α β : Type} [DecidableEq κ]

def empty : Table κ α := ⟨[]⟩

def get? (t : Table κ α) (k : κ) : Option α := (t.entries.find? (·.1 = k)).map (·.2)

def contains (t : Table κ α) (k : κ) : Bool := (t.get? k).isSome

/-- Writes `a` at the place of `k`. -/
def replace (k : κ) (a : α) : List (κ × α) → List (κ × α)
  | [] => []
  | e :: rest => if e.1 = k then (k, a) :: rest else e :: replace k a rest

/-- A new key goes to the end, a known one keeps its place. -/
def insert (t : Table κ α) (k : κ) (a : α) : Table κ α :=
  if t.contains k then ⟨replace k a t.entries⟩ else ⟨t.entries ++ [(k, a)]⟩

def erase (t : Table κ α) (k : κ) : Table κ α := ⟨t.entries.filter (·.1 ≠ k)⟩

def keys (t : Table κ α) : List κ := t.entries.map (·.1)

def values (t : Table κ α) : List α := t.entries.map (·.2)

def size (t : Table κ α) : Nat := t.entries.length

/-- Of two pairs with one key the later one counts. -/
def ofList (pairs : List (κ × α)) : Table κ α :=
  pairs.foldl (fun t e => t.insert e.1 e.2) empty

@[simp] theorem get?_empty (k : κ) : (empty : Table κ α).get? k = none := rfl

theorem find?_replace (k k' : κ) (a : α) (l : List (κ × α)) :
    (replace k a l).find? (·.1 = k') =
      if k = k' then (l.find? (·.1 = k)).map (fun _ => (k, a)) else l.find? (·.1 = k') := by
  induction l with
  | nil => split <;> rfl
  | cons e rest ih => grind [replace]

theorem get?_insert (t : Table κ α) (k k' : κ) (a : α) :
    (t.insert k a).get? k' = if k = k' then some a else t.get? k' := by
  unfold insert
  split <;> rename_i h
  · simp only [contains, get?, Option.isSome_map] at h
    simp only [get?, find?_replace]
    split
    · obtain ⟨e, he⟩ := Option.isSome_iff_exists.1 h
      simp [he]
    · rfl
  · simp only [contains, get?, Option.isSome_map, Bool.not_eq_true, Option.isSome_eq_false_iff,
      Option.isNone_iff_eq_none] at h
    simp only [get?, List.find?_append]
    split
    · subst_vars
      simp [h]
    · rename_i hk
      simp [hk]

@[simp] theorem get?_insert_self (t : Table κ α) (k : κ) (a : α) :
    (t.insert k a).get? k = some a := by
  simp [get?_insert]

/-- Where no key comes twice, the entries are the pairs of the list. -/
theorem get?_ofList {pairs : List (κ × α)} (h : (pairs.map (·.1)).Nodup) (k : κ) :
    (ofList pairs).get? k = (pairs.find? (·.1 = k)).map (·.2) := by
  suffices hs : ∀ t : Table κ α, (pairs.foldl (fun t e => t.insert e.1 e.2) t).get? k =
      ((pairs.find? (·.1 = k)).map (·.2)).or (t.get? k) by simpa [ofList] using hs empty
  induction pairs with
  | nil => simp
  | cons e rest ih =>
    intro t
    rw [List.map_cons, List.nodup_cons] at h
    rw [List.foldl_cons, ih h.2, get?_insert, List.find?_cons]
    by_cases he : e.1 = k
    · subst he
      have hnone : rest.find? (·.1 = e.1) = none := by
        rw [List.find?_eq_none]
        exact fun x hx hk => h.1 (List.mem_map.2 ⟨x, hx, of_decide_eq_true hk⟩)
      simp [hnone]
    · simp [he]

theorem mem_keys_iff (t : Table κ α) (k : κ) : k ∈ t.keys ↔ (t.get? k).isSome := by
  simp [keys, get?]

theorem map_fst_replace (k : κ) (a : α) (l : List (κ × α)) :
    (replace k a l).map (·.1) = l.map (·.1) := by
  induction l with
  | nil => rfl
  | cons e rest ih =>
    rw [replace]
    split <;> simp_all

/-- A known key keeps its place. -/
theorem keys_insert {t : Table κ α} {k : κ} (hk : t.contains k = true) (a : α) :
    (t.insert k a).keys = t.keys := by
  rw [insert, if_pos hk, keys, keys, map_fst_replace]

theorem mem_replace {k : κ} {a : α} {e : κ × α} {l : List (κ × α)} (h : e ∈ replace k a l) :
    e = (k, a) ∨ e ∈ l := by
  induction l with
  | nil => cases h
  | cons e' rest ih =>
    rw [replace] at h
    split at h
    · rcases List.mem_cons.1 h with rfl | h
      · exact .inl rfl
      · exact .inr (List.mem_cons_of_mem _ h)
    · rcases List.mem_cons.1 h with rfl | h
      · exact .inr List.mem_cons_self
      · exact (ih h).imp id (List.mem_cons_of_mem _)

theorem mem_insert {t : Table κ α} {k : κ} {a : α} {e : κ × α} (h : e ∈ (t.insert k a).entries) :
    e = (k, a) ∨ e ∈ t.entries := by
  rw [insert] at h
  split at h
  · exact mem_replace h
  · rcases List.mem_append.1 h with h | h
    · exact .inr h
    · exact .inl (List.mem_singleton.1 h)

/-- No key comes twice. -/
theorem nodup_keys_insert {t : Table κ α} (h : t.keys.Nodup) (k : κ) (a : α) :
    (t.insert k a).keys.Nodup := by
  by_cases hk : t.contains k = true
  · rw [keys_insert hk]
    exact h
  · rw [insert, if_neg hk, keys, List.map_append, List.nodup_append]
    refine ⟨h, by simp, fun k' hk' k'' hk'' he => hk ?_⟩
    obtain rfl := List.mem_singleton.1 hk''
    rw [contains, ← mem_keys_iff]
    exact he ▸ hk'

end Table

end Landing
