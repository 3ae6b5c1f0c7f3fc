import Landing.Proofs.Review
import Mathlib.Data.List.Induction

/-! The order of the messages on a change after any number of writes. A message that is put where
its time belongs brings the whole trail into the order of time, one that is appended stays behind
later ones. Main statement: `trail_chronological_iff`. -/
namespace Landing.Review
open Store (Chronological chronological)

/-- A message on its way into a store. -/
inductive Write where
  /-- It is put where its time belongs. -/
  | add (m : ChangeMessage)
  /-- It is appended, if its key is new. -/
  | insert (m : ChangeMessage)

namespace Write

def apply (s : Store) : Write → Store
  | add m => s.addMessage m
  | insert m => (s.insertMessage m).2

/-- What comes of writes to an empty store. -/
def run (ws : List Write) : Store := ws.foldl apply {}

/-- The messages on `c` by the order in which they came, when one more is written. -/
def record (c : ChangeId) (kept : List ChangeMessage) : Write → List ChangeMessage
  | add m => if m.key.change = c then kept ++ [m] else kept
  | insert m =>
    if m.key.change = c ∧ kept.any (·.key = m.key) = false then kept ++ [m] else kept

/-- The messages on `c` by the order in which they came. -/
def recorded (c : ChangeId) (ws : List Write) : List ChangeMessage := ws.foldl (record c) []

/-- The write puts the messages on `c` into the order of time. -/
def Orders (c : ChangeId) : Write → Prop
  | add m => m.key.change = c
  | insert _ => False

/-- The write appends a message on `c` behind a later one of those kept. -/
def Lags (c : ChangeId) (kept : List ChangeMessage) : Write → Prop
  | add _ => False
  | insert m => m.key.change = c ∧ kept.any (·.key = m.key) = false ∧
      ∃ n ∈ kept, ¬n.writtenOn.le m.writtenOn = true

/-- Some message on `c` was appended behind a later one, and none was put in order since. -/
def Lagging (c : ChangeId) (ws : List Write) : Prop :=
  ∃ before w after, ws = before ++ w :: after ∧ w.Lags c (recorded c before) ∧
    ∀ v ∈ after, ¬v.Orders c

variable {c : ChangeId} {ws : List Write} {w : Write}

@[simp] theorem run_append : run (ws ++ [w]) = w.apply (run ws) := by simp [run]

@[simp] theorem recorded_append : recorded c (ws ++ [w]) = w.record c (recorded c ws) := by
  simp [recorded]

theorem lagging_append_iff : Lagging c (ws ++ [w]) ↔
    w.Lags c (recorded c ws) ∨ Lagging c ws ∧ ¬w.Orders c := by
  constructor
  · rintro ⟨before, v, after, hws, hv, hafter⟩
    rcases List.eq_nil_or_concat after with rfl | ⟨after, u, rfl⟩
    · obtain ⟨rfl, hw⟩ := List.append_inj' hws rfl
      obtain rfl := List.singleton_inj.1 hw
      exact .inl hv
    · rw [List.concat_eq_append, ← List.cons_append, ← List.append_assoc] at hws
      obtain ⟨rfl, hw⟩ := List.append_inj' hws rfl
      obtain rfl := List.singleton_inj.1 hw
      rw [List.concat_eq_append, List.forall_mem_append] at hafter
      exact .inr ⟨⟨before, v, after, rfl, hv, hafter.1⟩, hafter.2 w List.mem_cons_self⟩
  · rintro (hw | ⟨⟨before, v, after, rfl, hv, hafter⟩, hw⟩)
    · exact ⟨ws, w, [], rfl, hw, by simp⟩
    · refine ⟨before, v, after ++ [w], by simp, hv, ?_⟩
      rw [List.forall_mem_append]
      exact ⟨hafter, by simpa using hw⟩

theorem trail_add (c : ChangeId) (s : Store) (m : ChangeMessage) : ((add m).apply s).trail c =
    if m.key.change = c then chronological (s.trail c ++ [m]) else s.trail c := by
  simp only [apply, Store.addMessage, Store.trail, Table.get?_insert]
  split
  · simp_all
  · rfl

theorem trail_insert (c : ChangeId) (s : Store) (m : ChangeMessage) :
    ((insert m).apply s).trail c = (insert m).record c (s.trail c) := by
  simp only [apply, Store.insertMessage, record]
  by_cases hc : m.key.change = c
  · subst hc
    cases hknown : (s.trail m.key.change).any (·.key = m.key) <;> simp [Store.trail]
  · cases hknown : (s.trail m.key.change).any (·.key = m.key) <;>
      simp [Store.trail, Table.get?_insert, hc]

theorem record_perm {kept kept' : List ChangeMessage} (h : kept.Perm kept') (c : ChangeId)
    (w : Write) : (w.record c kept).Perm (w.record c kept') := by
  cases w with
  | add m =>
    simp only [record]
    split
    · exact h.append_right _
    · exact h
  | insert m =>
    simp only [record, h.any_eq]
    split
    · exact h.append_right _
    · exact h

theorem lags_congr {kept kept' : List ChangeMessage} (h : kept.Perm kept') (c : ChangeId)
    (w : Write) : w.Lags c kept ↔ w.Lags c kept' := by
  cases w with
  | add m => rfl
  | insert m => simp only [Lags, h.any_eq, h.mem_iff]

theorem not_orders_of_lags {kept : List ChangeMessage} (h : w.Lags c kept) : ¬w.Orders c := by
  cases w with
  | add m => exact h.elim
  | insert m => exact id

/-- A write loses no message and invents none. -/
theorem trail_perm (c : ChangeId) (ws : List Write) :
    ((run ws).trail c).Perm (recorded c ws) := by
  induction ws using List.reverseRecOn with
  | nil => exact .refl _
  | append_singleton ws w ih =>
    rw [run_append, recorded_append]
    refine .trans ?_ (record_perm ih c w)
    cases w with
    | add m =>
      rw [trail_add, record]
      split
      · exact List.mergeSort_perm _ _
      · exact .refl _
    | insert m => rw [trail_insert]

theorem chronological_append_iff (kept : List ChangeMessage) (m : ChangeMessage) :
    Chronological (kept ++ [m]) ↔
      Chronological kept ∧ ∀ n ∈ kept, n.writtenOn.le m.writtenOn = true := by
  simp [Chronological, List.pairwise_append]

/-- What one write does to the order of the messages on `c`. -/
theorem chronological_apply_iff (c : ChangeId) (s : Store) (w : Write) :
    Chronological ((w.apply s).trail c) ↔
      w.Orders c ∨ Chronological (s.trail c) ∧ ¬w.Lags c (s.trail c) := by
  cases w with
  | add m =>
    rw [trail_add]
    split
    · rename_i hc
      exact iff_of_true (Store.chronological_sorted _) (.inl hc)
    · rename_i hc
      simp [Orders, Lags, hc]
  | insert m =>
    rw [trail_insert, record]
    split
    · rename_i hnew
      simp [chronological_append_iff, Orders, Lags, hnew]
    · rename_i hnew
      have hstays : ¬(insert m).Lags c (s.trail c) := fun h => hnew ⟨h.1, h.2.1⟩
      simp [Orders, hstays]

end Write

/-- A trail holds the messages that were recorded, and it is in the order of time exactly if none of
them was appended behind a later one since the last that was put where its time belongs. -/
theorem trail_chronological_iff (c : ChangeId) (ws : List Write) :
    ((Write.run ws).trail c).Perm (Write.recorded c ws) ∧
      (Chronological ((Write.run ws).trail c) ↔ ¬Write.Lagging c ws) := by
  refine ⟨Write.trail_perm c ws, ?_⟩
  induction ws using List.reverseRecOn with
  | nil =>
    refine iff_of_true List.Pairwise.nil ?_
    rintro ⟨before, w, after, hws, -⟩
    simp at hws
  | append_singleton ws w ih =>
    rw [Write.run_append, Write.chronological_apply_iff, ih,
      Write.lags_congr (Write.trail_perm c ws), Write.lagging_append_iff]
    have hapart := @Write.not_orders_of_lags c w (Write.recorded c ws)
    tauto

/-- A message of the second 20, and one of the second 10 that is appended after it. -/
theorem trail_chronological_iff_lagging :
    ¬Chronological ((Write.run [.insert ⟨⟨⟨1⟩, "first"⟩, none, none, ⟨20, 0⟩, "later"⟩,
      .insert ⟨⟨⟨1⟩, "second"⟩, none, none, ⟨10, 0⟩, "earlier"⟩]).trail ⟨1⟩) := by
  rw [(trail_chronological_iff ..).2, not_not]
  exact ⟨[_], _, [], rfl, ⟨rfl, by decide, _, List.mem_cons_self, by decide⟩, by simp⟩

end Landing.Review
