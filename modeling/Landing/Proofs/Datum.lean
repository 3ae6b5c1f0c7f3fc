import Landing.Datum
import Mathlib.Data.List.Nodup

/-! Data are compared, and records in which one field is changed are read. -/
namespace Landing.Datum

mutual

/-- Whether two data are the same. -/
def same : Datum → Datum → Bool
  | null, null => true
  | boolean b, boolean b' => b == b'
  | integer n, integer n' => n == n'
  | decimal s, decimal s' => s == s'
  | text s, text s' => s == s'
  | time s, time s' => s == s'
  | list l, list l' => sameItems l l'
  | fields l, fields l' => sameFields l l'
  | _, _ => false

def sameItems : List Datum → List Datum → Bool
  | [], [] => true
  | d :: l, d' :: l' => same d d' && sameItems l l'
  | _, _ => false

def sameFields : List (String × Datum) → List (String × Datum) → Bool
  | [], [] => true
  | (k, d) :: l, (k', d') :: l' => k == k' && same d d' && sameFields l l'
  | _, _ => false

end

mutual

theorem same_iff : ∀ a b : Datum, same a b = true ↔ a = b
  | list l, b => by
    cases b with
    | list l' => rw [same, sameItems_iff l l', list.injEq]
    | _ => simp [same]
  | fields l, b => by
    cases b with
    | fields l' => rw [same, sameFields_iff l l', fields.injEq]
    | _ => simp [same]
  | null, b => by cases b <;> simp [same]
  | boolean _, b => by cases b <;> simp [same]
  | integer _, b => by cases b <;> simp [same]
  | decimal _, b => by cases b <;> simp [same]
  | text _, b => by cases b <;> simp [same]
  | time _, b => by cases b <;> simp [same]

theorem sameItems_iff : ∀ l l' : List Datum, sameItems l l' = true ↔ l = l'
  | [], l' => by cases l' <;> simp [sameItems]
  | d :: l, [] => by simp [sameItems]
  | d :: l, d' :: l' => by
    rw [sameItems, Bool.and_eq_true, same_iff d d', sameItems_iff l l', List.cons.injEq]

theorem sameFields_iff : ∀ l l' : List (String × Datum), sameFields l l' = true ↔ l = l'
  | [], l' => by cases l' <;> simp [sameFields]
  | (k, d) :: l, [] => by simp [sameFields]
  | (k, d) :: l, (k', d') :: l' => by
    rw [sameFields, Bool.and_eq_true, Bool.and_eq_true, same_iff d d', sameFields_iff l l',
      List.cons.injEq, Prod.mk.injEq, beq_iff_eq]

end

instance : DecidableEq Datum := fun a b => decidable_of_iff _ (same_iff a b)

/-- Changes the value of one field of a record, which stands at `index` where the record is written
as a list. -/
def mapField (name : String) (index : Nat) (f : Datum → Datum) : Datum → Datum
  | fields entries => fields (entries.map fun e => (e.1, if e.1 = name then f e.2 else e.2))
  | list items => list (items.modify index f)
  | d => d

def mapItems (f : Datum → Datum) : Datum → Datum
  | list items => list (items.map f)
  | d => d

def lowerText : Datum → Datum
  | text s => text (Text.lowerAscii s)
  | d => d

section
variable {α : Type} {name : String} {f : Datum → Datum}

theorem lookup_map (entries : List (String × Datum)) (key : String) :
    (entries.map fun e => (e.1, if e.1 = name then f e.2 else e.2)).lookup key =
      (entries.lookup key).map fun d => if key = name then f d else d := by
  induction entries with
  | nil => rfl
  | cons e entries ih =>
    obtain ⟨k, d⟩ := e
    by_cases hk : key = k
    · subst hk
      simp
    · have hk : (key == k) = false := by simpa using hk
      simp only [List.map_cons, List.lookup_cons, hk, ih]

theorem zip_modify {names : List String} {index : Nat} (hname : names[index]? = some name)
    (hnodup : names.Nodup) (items : List Datum) :
    names.zip (items.modify index f) =
      (names.zip items).map fun e => (e.1, if e.1 = name then f e.2 else e.2) := by
  induction names generalizing index items with
  | nil => rfl
  | cons n names ih =>
    rw [List.nodup_cons] at hnodup
    cases items with
    | nil => cases index <;> rfl
    | cons d items =>
      cases index with
      | zero =>
        obtain rfl : n = name := by simpa using hname
        have hrest : ∀ e ∈ names.zip items, (e.1, if e.1 = n then f e.2 else e.2) = e := by
          intro e he
          have hmem : e.1 ∈ names := (List.of_mem_zip he).1
          rw [if_neg fun hn : e.1 = n => hnodup.1 (hn ▸ hmem)]
        rw [List.modify_zero_cons, List.zip_cons_cons, List.zip_cons_cons, List.map_cons,
          List.map_congr_left hrest, List.map_id']
        simp
      | succ index =>
        have hmem : name ∈ names := List.mem_of_getElem? (by simpa using hname)
        have hne : n ≠ name := fun hn => hnodup.1 (hn ▸ hmem)
        rw [List.modify_succ_cons, List.zip_cons_cons, List.zip_cons_cons, List.map_cons,
          ih (by simpa using hname) hnodup.2, if_neg hne]

/-- The fields of a record in which one was changed. -/
theorem record?_mapField {l : Dialect} {shape : List Field} {index : Nat}
    (hname : (shape.map (·.1))[index]? = some name) (hnodup : (shape.map (·.1)).Nodup)
    (d : Datum) : (d.mapField name index f).record? l shape = (d.record? l shape).map
      (List.map fun e => (e.1, if e.1 = name then f e.2 else e.2)) := by
  cases d with
  | list items =>
    simp only [mapField, record?, List.length_modify, zip_modify hname hnodup]
    split <;> rfl
  | _ => rfl

theorem need?_map (entries : List (String × Datum)) (key : String) (read : Datum → Option α) :
    need? (entries.map fun e => (e.1, if e.1 = name then f e.2 else e.2)) key read =
      need? entries key fun d => read (if key = name then f d else d) := by
  rw [need?, need?, lookup_map, Option.bind_map]
  rfl

theorem get?_map (entries : List (String × Datum)) (key : String) (absent : α)
    (read : Datum → Option α) :
    get? (entries.map fun e => (e.1, if e.1 = name then f e.2 else e.2)) key absent read =
      get? entries key absent fun d => read (if key = name then f d else d) := by
  rw [get?, get?, lookup_map]
  cases entries.lookup key <;> rfl

/-- What was read is changed after it was read. -/
theorem need?_comp_map {β : Type} (entries : List (String × Datum)) (key : String)
    (read : Datum → Option α) (g : α → β) :
    need? entries key (fun d => (read d).map g) = (need? entries key read).map g := by
  rw [need?, need?, Option.map_bind]
  rfl

theorem get?_comp_map {β : Type} (entries : List (String × Datum)) (key : String) (absent : α)
    (read : Datum → Option α) (g : α → β) :
    get? entries key (g absent) (fun d => (read d).map g) =
      (get? entries key absent read).map g := by
  rw [get?, get?]
  cases entries.lookup key <;> rfl

end

end Landing.Datum
