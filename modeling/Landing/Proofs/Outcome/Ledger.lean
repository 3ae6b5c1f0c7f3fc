import Landing.Outcome.Ledger
import Landing.Proofs.Firsts
import Mathlib.Data.Set.Card

/-! Outcomes are written once. After any writes the books hold the first one for each commit, in the
order in which these came, and later writes only add to them. Main statement:
`writeAll_recorded`. -/
namespace Landing.Outcome.Ledger

/-- What each of several writes answers, one after the other, and what they leave. -/
def writeAll (l : Ledger) : List (CommitId × Outcome) → List Bool × Ledger
  | [] => ([], l)
  | w :: rest =>
    let (written, l) := l.write w.1 w.2
    let (others, l) := l.writeAll rest
    (written :: others, l)

/-- By induction on the writes: each adds its entry, unless its commit has one. -/
theorem entries_writeAll (l : Ledger) (ws : List (CommitId × Outcome)) :
    (l.writeAll ws).2.entries =
      l.entries ++ (firstsBy (·.1) ws).filter (·.1 ∉ l.entries.map (·.1)) := by
  induction ws generalizing l with
  | nil => exact (List.append_nil l.entries).symm
  | cons w rest ih =>
    have hstep : (l.writeAll (w :: rest)).2 = ((l.finalize w.1 w.2).writeAll rest).2 := rfl
    have hmem : w.1 ∈ l.entries.map (·.1) ↔ l.isFinal w.1 = true := by
      rw [map_fst_entries, mem_order_iff]
    rw [hstep, ih, append_firstsBy_cons, entries_finalize]
    by_cases hfinal : l.isFinal w.1 = true
    · rw [if_pos hfinal, if_pos (hmem.2 hfinal)]
    · rw [if_neg hfinal, if_neg (mt hmem.1 hfinal)]

/-- A write is answered by whether it is the first one for its commit. -/
theorem answers_writeAll (l : Ledger) (ws : List (CommitId × Outcome)) :
    (l.writeAll ws).1 = ws.mapIdx fun i w =>
      !l.isFinal w.1 && decide (w.1 ∉ (ws.take i).map (·.1)) := by
  induction ws generalizing l with
  | nil => rfl
  | cons w rest ih =>
    have hstep : (l.writeAll (w :: rest)).1 =
        (l.write w.1 w.2).1 :: ((l.finalize w.1 w.2).writeAll rest).1 := rfl
    rw [hstep, write_fst, ih, List.mapIdx_cons]
    congr 1
    · simp
    · congr 1
      funext i v
      rw [isFinal_finalize, List.take_succ_cons, List.map_cons]
      by_cases hv : v.1 = w.1 <;> simp [hv]

theorem entries_writeAll_empty (ws : List (CommitId × Outcome)) :
    (empty.writeAll ws).2.entries = firstsBy (·.1) ws := by
  have hnil : empty.entries = [] := rfl
  simp [entries_writeAll, hnil]

theorem get?_writeAll_empty (ws : List (CommitId × Outcome)) (id : CommitId) :
    (empty.writeAll ws).2.get? id = (ws.find? (·.1 = id)).map (·.2) := by
  rw [← find?_firstsBy, ← entries_writeAll_empty, find?_entries, Option.map_map]
  exact Option.map_id'.symm

theorem size_eq_ncard (l : Ledger) : l.size = {id | l.table.contains id = true}.ncard := by
  have hset : {id | l.table.contains id = true} = ↑l.order.toFinset := by
    ext id
    simp [l.listed]
  rw [hset, Set.ncard_coe_finset, List.toFinset_card_of_nodup l.distinct, size]

/-- What `answers` says about the writes `ws`, and what `l` holds after them. -/
structure Recorded (ws : List (CommitId × Outcome)) (answers : List Bool) (l : Ledger) : Prop where
  /-- The list holds what the table holds, in the order in which it came, and nothing twice. -/
  distinct : l.order.Nodup
  listed : ∀ id, id ∈ l.order ↔ id ∈ l.table.keys
  size : l.size = {id | l.table.contains id = true}.ncard
  order : l.order = (ws.map (·.1)).eraseDups
  /-- An entry is a commit of the list with what the table has for it. -/
  entered : l.entries.map (·.1) = l.order ∧ ∀ e ∈ l.entries, l.get? e.1 = some e.2
  /-- The first write for each commit is the one that counts. -/
  entries : l.entries = firstsBy (·.1) ws
  answers : answers = ws.mapIdx fun i w => decide (w.1 ∉ (ws.take i).map (·.1))
  get : ∀ id, l.get? id = (ws.find? (·.1 = id)).map (·.2)

theorem recorded_writeAll (ws : List (CommitId × Outcome)) :
    Recorded ws (empty.writeAll ws).1 (empty.writeAll ws).2 where
  distinct := Ledger.distinct _
  listed id := (Ledger.listed _ id).trans (Table.mem_keys_iff _ id).symm
  size := size_eq_ncard _
  order := by rw [← map_fst_entries, entries_writeAll_empty, map_firstsBy]
  entered := ⟨map_fst_entries _, fun e => (mem_entries_iff _ e.1 e.2).1⟩
  entries := entries_writeAll_empty ws
  answers := by simp [answers_writeAll, isFinal]
  get := get?_writeAll_empty ws

/-- Books that were opened empty, after any writes. Each commit has the outcome of its first write,
which alone was answered with yes, and the entries stand in the order of these writes. Whatever is
written later, these entries come first, and every outcome stays what it is. -/
theorem writeAll_recorded (ws later : List (CommitId × Outcome)) :
    Recorded ws (empty.writeAll ws).1 (empty.writeAll ws).2 ∧
    (empty.writeAll ws).2.entries <+: (empty.writeAll (ws ++ later)).2.entries ∧
    ∀ id o, (empty.writeAll ws).2.get? id = some o →
      (empty.writeAll (ws ++ later)).2.get? id = some o := by
  refine ⟨recorded_writeAll ws, ?_, fun id o hget => ?_⟩
  · rw [entries_writeAll_empty, entries_writeAll_empty, firstsBy_append]
    exact List.prefix_append _ _
  · rw [get?_writeAll_empty] at hget ⊢
    rw [List.find?_append, Option.map_or, hget, Option.some_or]

end Landing.Outcome.Ledger
