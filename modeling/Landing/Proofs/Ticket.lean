import Landing.Proofs.Review
import Landing.Ticket
import Mathlib.Data.List.Pairwise

/-! Which of the messages on a change decides on its ticket. Main statement: `extract_exact`. -/
namespace Landing

theorem Instant.le_antisymm {a b : Instant} (hab : a.le b = true) (hba : b.le a = true) :
    a = b := by
  rw [le_iff] at *
  obtain ⟨s, n⟩ := a
  obtain ⟨t, m⟩ := b
  simp only [mk.injEq] at *
  omega

theorem Instant.le_refl (a : Instant) : a.le a = true := by
  rw [le_iff]
  omega

theorem Instant.le_or_le (a b : Instant) : a.le b = true ∨ b.le a = true := by
  rw [← Bool.or_eq_true]
  exact le_total a b

namespace Review.Store
variable {m : ChangeMessage} {older newer : List ChangeMessage}

/-- The last message in the order of time is one of the latest, and of these the one that came
last. -/
theorem getLast?_chronological (holder : ∀ b ∈ older, b.writtenOn.le m.writtenOn = true)
    (hnewer : ∀ n ∈ newer, ¬m.writtenOn.le n.writtenOn = true) :
    (chronological (older ++ m :: newer)).getLast? = some m := by
  induction older with
  | nil =>
    obtain ⟨before, after, hall, hrest, -⟩ := chronological_cons m newer
    have hsorted : Chronological (before ++ m :: after) :=
      hall ▸ chronological_sorted (m :: newer)
    have hafter : after = [] := by
      apply List.eq_nil_iff_forall_not_mem.2
      intro n hn
      have hmem : n ∈ chronological newer := hrest ▸ List.mem_append_right before hn
      apply hnewer n (List.mem_mergeSort.1 hmem)
      exact List.rel_of_pairwise_cons (List.pairwise_append.1 hsorted).2.1 hn
    rw [List.nil_append, hall, hafter]
    simp
  | cons a older ih =>
    rw [List.forall_mem_cons] at holder
    obtain ⟨before, after, hall, hrest, hbefore⟩ := chronological_cons a (older ++ m :: newer)
    have hlast := ih holder.2
    rw [hrest] at hlast
    rw [List.cons_append, hall]
    cases after with
    | nil =>
      -- `a` would be the last, so that `m` lies among those that are older than `a`
      rw [List.append_nil] at hlast
      have hstrict := hbefore m (List.mem_of_getLast? hlast)
      rw [holder.1] at hstrict
      exact absurd hstrict (by decide)
    | cons n after =>
      rw [List.getLast?_append] at hlast ⊢
      simpa using hlast

/-- Messages of different times have one order. -/
theorem chronological_eq_of_perm {trail trail' : List ChangeMessage} (hperm : trail.Perm trail')
    (htimes : trail.Pairwise fun a b => a.writtenOn ≠ b.writtenOn) :
    chronological trail = chronological trail' := by
  have hsame : (chronological trail).Perm (chronological trail') :=
    (List.mergeSort_perm trail _).trans (hperm.trans (List.mergeSort_perm trail' _).symm)
  apply hsame.eq_of_pairwise _ (chronological_sorted trail) (chronological_sorted trail')
  intro a b ha hb hab hba
  have hmem : b ∈ trail := hperm.mem_iff.2 (List.mem_mergeSort.1 hb)
  have : Std.Symm fun a b : ChangeMessage => a.writtenOn ≠ b.writtenOn := ⟨fun _ _ => Ne.symm⟩
  by_contra hne
  exact htimes.forall (List.mem_mergeSort.1 ha) hmem hne (Instant.le_antisymm hab hba)

end Review.Store

namespace Ticket
open Review
open Review.Store (chronological)
variable {find : String → Option String} {messages : List ChangeMessage}

/-- The message has an author and names a ticket. -/
def Names (find : String → Option String) (m : ChangeMessage) : Prop :=
  m.author.isSome ∧ (find m.message).isSome

instance : DecidablePred (Names find) := fun _ => inferInstanceAs (Decidable (_ ∧ _))

/-- The message at `index` names a ticket, and time and place of no other that does are
greater. -/
structure Decides (find : String → Option String) (messages : List ChangeMessage) (index : Nat)
    (m : ChangeMessage) : Prop where
  here : messages[index]? = some m
  names : Names find m
  latest : ∀ j n, messages[j]? = some n → Names find n →
    n.writtenOn.le m.writtenOn = true ∧ (n.writtenOn = m.writtenOn → j ≤ index)

/-- Only messages that name a ticket matter. -/
theorem filterMap_authored (find : String → Option String) (messages : List ChangeMessage) :
    (authored messages).filterMap (find ·.message) =
      (chronological (messages.filter (Names find ·))).filterMap (find ·.message) := by
  have hauthored : authored messages = chronological (messages.filter (·.author.isSome)) := rfl
  have hnames : messages.filter (Names find ·) =
      (messages.filter (·.author.isSome)).filter fun m => (find m.message).isSome := by
    rw [List.filter_filter]
    simp [Names, and_comm]
  rw [hauthored, hnames, ← Store.filter_chronological fun m => (find m.message).isSome,
    List.filterMap_filter]
  congr 1
  funext m
  cases find m.message <;> rfl

theorem extract_eq_or (find : String → Option String) (commitMessage : String)
    (messages : List ChangeMessage) : extract find commitMessage messages =
      ((chronological (messages.filter (Names find ·))).filterMap (find ·.message)).getLast?.or
        (find commitMessage) := by
  have htexts : ((authored messages).map (·.message)).filterMap find =
      (authored messages).filterMap (find ·.message) := List.filterMap_map
  rw [← filterMap_authored, extract, List.filterMap_cons, htexts]
  cases find commitMessage with
  | none => simp
  | some ticket =>
    rw [List.getLast?_cons]
    cases ((authored messages).filterMap (find ·.message)).getLast? <;> rfl

/-- A message that decides stands behind those that are no later and in front of others that are
older. -/
theorem Decides.split {index : Nat} {m : ChangeMessage} (h : Decides find messages index m) :
    ∃ before after, messages = before ++ m :: after ∧
      (∀ b ∈ before, Names find b → b.writtenOn.le m.writtenOn = true) ∧
      ∀ n ∈ after, Names find n → ¬m.writtenOn.le n.writtenOn = true := by
  obtain ⟨hlt, hget⟩ := List.getElem?_eq_some_iff.1 h.here
  refine ⟨messages.take index, messages.drop (index + 1), ?_, ?_, ?_⟩
  · rw [← hget, ← List.drop_eq_getElem_cons hlt, List.take_append_drop]
  · intro b hb hnames
    obtain ⟨j, hj⟩ := List.mem_iff_getElem?.1 (List.mem_of_mem_take hb)
    exact (h.latest j b hj hnames).1
  · intro n hn hnames hle
    obtain ⟨j, hj⟩ := List.mem_iff_getElem?.1 hn
    rw [List.getElem?_drop] at hj
    obtain ⟨hle', hplace⟩ := h.latest _ n hj hnames
    have := hplace (Instant.le_antisymm hle' hle)
    omega

theorem Decides.extract_eq {index : Nat} {m : ChangeMessage} (h : Decides find messages index m)
    (commitMessage : String) : extract find commitMessage messages = find m.message := by
  obtain ⟨before, after, rfl, hbefore, hafter⟩ := h.split
  have hlast : (chronological (before.filter (Names find ·) ++
      m :: after.filter (Names find ·))).getLast? = some m :=
    Store.getLast?_chronological (by simpa using hbefore) (by simpa using hafter)
  obtain ⟨init, hinit⟩ := List.getLast?_eq_some_iff.1 hlast
  obtain ⟨ticket, hticket⟩ := Option.isSome_iff_exists.1 h.names.2
  have hnames : decide (Names find m) = true := decide_eq_true h.names
  rw [extract_eq_or, List.filter_append, List.filter_cons, if_pos hnames, hinit,
    List.filterMap_append]
  simp [hticket]

theorem extract_eq_of_none {find : String → Option String}
    (hnone : ∀ m ∈ messages, ¬Names find m) (commitMessage : String) :
    extract find commitMessage messages = find commitMessage := by
  have hempty : messages.filter (Names find ·) = [] := by simpa using hnone
  rw [extract_eq_or, hempty]
  simp [Store.chronological]

theorem decides_of_split {before after : List ChangeMessage} {m : ChangeMessage}
    (hm : Names find m) (hbefore : ∀ b ∈ before, Names find b → b.writtenOn.le m.writtenOn = true)
    (hafter : ∀ n ∈ after, Names find n → ¬m.writtenOn.le n.writtenOn = true) :
    Decides find (before ++ m :: after) before.length m where
  here := by simp
  names := hm
  latest j n hj hn := by
    rcases Nat.lt_trichotomy j before.length with hlt | rfl | hlt
    · rw [List.getElem?_append_left hlt] at hj
      exact ⟨hbefore n (List.mem_of_getElem? hj) hn, fun _ => Nat.le_of_lt hlt⟩
    · obtain rfl : m = n := by simpa using hj
      exact ⟨Instant.le_refl _, fun _ => Nat.le_refl _⟩
    · obtain ⟨i, rfl⟩ := Nat.exists_eq_add_of_lt hlt
      rw [List.getElem?_append_right (by omega)] at hj
      have hmem : n ∈ after := by
        apply List.mem_of_getElem? (i := i)
        simpa [Nat.add_assoc] using hj
      have holder := hafter n hmem hn
      refine ⟨(Instant.le_or_le n.writtenOn m.writtenOn).resolve_right holder, fun he => ?_⟩
      exact absurd (he ▸ Instant.le_refl _) holder

/-- Among messages of which some name a ticket, one decides. -/
theorem exists_split (hsome : ∃ m ∈ messages, Names find m) :
    ∃ before m after, messages = before ++ m :: after ∧ Names find m ∧
      (∀ b ∈ before, Names find b → b.writtenOn.le m.writtenOn = true) ∧
      ∀ n ∈ after, Names find n → ¬m.writtenOn.le n.writtenOn = true := by
  induction messages with
  | nil => simp at hsome
  | cons a messages ih =>
    by_cases hrest : ∃ m ∈ messages, Names find m
    · obtain ⟨before, m, after, rfl, hm, hbefore, hafter⟩ := ih hrest
      by_cases ha : Names find a → a.writtenOn.le m.writtenOn = true
      · exact ⟨a :: before, m, after, rfl, hm, List.forall_mem_cons.2 ⟨ha, hbefore⟩, hafter⟩
      · -- the first message is later than the one that decides among the rest
        rw [Classical.not_imp] at ha
        refine ⟨[], a, _, rfl, ha.1, by simp, fun n hn hnames hle => ha.2 ?_⟩
        have hlast := (decides_of_split hm hbefore hafter).latest
        obtain ⟨j, hj⟩ := List.mem_iff_getElem?.1 hn
        exact Instant.le_trans hle (hlast j n hj hnames).1
    · refine ⟨[], a, messages, rfl, ?_, by simp, fun n hn hnames => absurd ⟨n, hn, hnames⟩ hrest⟩
      obtain ⟨m, hm, hnames⟩ := hsome
      rcases List.mem_cons.1 hm with rfl | hm
      · exact hnames
      · exact absurd ⟨m, hm, hnames⟩ hrest

/-- The ticket is that of the latest authored message that names one, of equally late ones the one
furthest back, else that of the commit message, if it has one. Where the authored messages are of
different times, their order in the list does not matter. -/
theorem extract_exact (find : String → Option String) (commitMessage : String)
    (messages : List ChangeMessage) :
    ((∃ index m, Decides find messages index m ∧
        extract find commitMessage messages = find m.message) ∨
      (∀ m ∈ messages, m.author.isSome → find m.message = none) ∧
        extract find commitMessage messages = find commitMessage) ∧
    ∀ messages', messages.Perm messages' →
      ((messages.filter (·.author.isSome)).Pairwise fun a b => a.writtenOn ≠ b.writtenOn) →
      extract find commitMessage messages' = extract find commitMessage messages := by
  constructor
  · by_cases hsome : ∃ m ∈ messages, Names find m
    · obtain ⟨before, m, after, rfl, hm, hbefore, hafter⟩ := exists_split hsome
      have hdecides := decides_of_split hm hbefore hafter
      exact .inl ⟨_, m, hdecides, hdecides.extract_eq commitMessage⟩
    · have hnone : ∀ m ∈ messages, ¬Names find m := fun m hm hnames => hsome ⟨m, hm, hnames⟩
      refine .inr ⟨fun m hm hauthor => ?_, extract_eq_of_none hnone commitMessage⟩
      rw [← Option.not_isSome_iff_eq_none]
      exact fun hfound => hnone m hm ⟨hauthor, hfound⟩
  · intro messages' hperm htimes
    have hsame : authored messages = authored messages' :=
      Store.chronological_eq_of_perm (hperm.filter _) htimes
    rw [extract, extract, hsame]

/-- What the first account says on the first change. -/
def remark (seconds : Int) (message : String) : ChangeMessage :=
  ⟨⟨⟨1⟩, message⟩, some ⟨1⟩, none, ⟨seconds, 0⟩, message⟩

/-- Remarks that name a ticket by a hash mark, and a later one that does not, in two orders. -/
theorem extract_exact_remarks :
    extract (Text.stripLead? "#") "#4521" [remark 20 "#9001", remark 30 "fine", remark 10 "#12"] =
        some "9001" ∧
      extract (Text.stripLead? "#") "#4521"
        [remark 10 "#12", remark 20 "#9001", remark 30 "fine"] = some "9001" := by
  have hdecides : Decides (Text.stripLead? "#")
      ([] ++ remark 20 "#9001" :: [remark 30 "fine", remark 10 "#12"]) 0 (remark 20 "#9001") :=
    decides_of_split (by decide) (by simp) (by decide)
  have hfirst := (hdecides.extract_eq "#4521").trans (by decide : _ = some "9001")
  have hmoved : [remark 20 "#9001", remark 30 "fine", remark 10 "#12"].Perm
      [remark 10 "#12", remark 20 "#9001", remark 30 "fine"] :=
    @List.perm_append_comm _ [remark 20 "#9001", remark 30 "fine"] _
  have hother := (extract_exact (Text.stripLead? "#") "#4521" _).2 _ hmoved (by decide)
  exact ⟨hfirst, hother.trans hfirst⟩

end Ticket

end Landing
