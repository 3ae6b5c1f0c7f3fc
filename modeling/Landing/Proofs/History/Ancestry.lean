import Landing.History
import Mathlib.Algebra.GroupWithZero.Nat
import Mathlib.Data.List.Nodup

/-! Ancestry in a history. A history that is legible below some commits is finite and can be read
there, and answers questions about those commits rightly. One that is intact has no cycles either,
at least not above the tip to which commits are submitted. -/
namespace Landing.History
variable {h : History} {ids : List CommitId}

def Readable (h : History) (id : CommitId) : Prop := ∃ c, h.read id = .ok c

/-- No commit is an ancestor of one of its parents. -/
def Acyclic (h : History) : Prop := ∀ p c, h.Parent p c → ¬ h.Reaches c p

/-- Some commit of `ids` is `x` or a descendant of it. -/
def Below (h : History) (ids : List CommitId) (x : CommitId) : Prop := ∃ id ∈ ids, h.Reaches x id

/-- Below `ids`, no commit that is not hidden is an ancestor of one of its parents. -/
def AcyclicPast (h : History) (hidden : CommitId → Prop) (ids : List CommitId) : Prop :=
  ∀ p c, h.Below ids c → ¬ hidden c → h.Parent p c → ¬ h.Reaches c p

/-- One for a commit that can be read and one for each of its parents. -/
def weight (h : History) (id : CommitId) : Nat :=
  match h.read id with
  | .ok c => c.parents.length + 1
  | .error _ => 0

def cost (h : History) (ids : List CommitId) : Nat := (ids.map h.weight).sum

/-- `size` covers the weight of all that `ids` reach. -/
def Bounded (h : History) (ids : List CommitId) : Prop :=
  ∀ l : List CommitId, l.Nodup → (∀ x ∈ l, h.Below ids x) → h.cost l ≤ h.size

/-- What a submission relies on when it looks at a history from `ids`. -/
structure Intact (h : History) (ids : List CommitId) : Prop where
  acyclic : h.Acyclic
  bounded : h.Bounded ids
  readable : ∀ x, h.Below ids x → h.Readable x
  /-- Questions about ancestry are answered, and rightly. -/
  ancestry : ∀ x ∈ ids, ∀ y ∈ ids, ∃ b, h.isAncestor x y = .ok b ∧ (b = true ↔ h.Reaches x y)

/-- All below `ids` can be read, and asked about. -/
structure Legible (h : History) (ids : List CommitId) : Prop where
  bounded : h.Bounded ids
  readable : ∀ x, h.Below ids x → h.Readable x
  ancestry : ∀ x ∈ ids, ∀ y ∈ ids, ∃ b, h.isAncestor x y = .ok b ∧ (b = true ↔ h.Reaches x y)

/-- What a submission of `ids` to `tip` relies on. What the tip has may go round in circles. -/
structure IntactAbove (h : History) (tip : CommitId) (ids : List CommitId) : Prop extends
    h.Legible (tip :: ids) where
  acyclic : h.AcyclicPast (h.Reaches · tip) ids

theorem Parent.reaches {p c : CommitId} (hp : h.Parent p c) : h.Reaches p c := .step (.refl p) hp

theorem Parent.readable {p c : CommitId} (hp : h.Parent p c) : h.Readable c := by
  obtain ⟨c, hc, _⟩ := hp
  exact ⟨c, hc⟩

theorem parent_iff {c : Commit} {id p : CommitId} (hc : h.read id = .ok c) :
    h.Parent p id ↔ p ∈ c.parents := by
  constructor
  · rintro ⟨d, hd, hp⟩
    rw [hc] at hd
    cases hd
    exact hp
  · exact fun hp => ⟨c, hc, hp⟩

theorem Reaches.eq_or_parent {x y : CommitId} (hr : h.Reaches x y) :
    x = y ∨ ∃ p, h.Reaches x p ∧ h.Parent p y := by
  cases hr with
  | refl => exact .inl rfl
  | step hx hp => exact .inr ⟨_, hx, hp⟩

/-- Ancestry is what can be read. -/
theorem reaches_congr {h' : History} (hread : h'.read = h.read) {x y : CommitId} :
    h'.Reaches x y ↔ h.Reaches x y := by
  have hparent : ∀ p c, h'.Parent p c ↔ h.Parent p c := fun p c => by
    rw [Parent, Parent, hread]
  constructor <;> intro hxy <;> induction hxy with
  | refl => exact .refl _
  | step _ hp ih => exact ih.step (by simpa only [hparent] using hp)

theorem Acyclic.antisymm (ha : h.Acyclic) {x y : CommitId} (hxy : h.Reaches x y)
    (hyx : h.Reaches y x) : x = y := by
  rcases hyx.eq_or_parent with he | ⟨p, hyp, hp⟩
  · exact he.symm
  · exact absurd (hxy.trans hyp) (ha p x hp)

theorem Acyclic.past (ha : h.Acyclic) (hidden : CommitId → Prop) (ids : List CommitId) :
    h.AcyclicPast hidden ids := fun p c _ _ => ha p c

theorem AcyclicPast.antisymm {hidden : CommitId → Prop} (ha : h.AcyclicPast hidden ids)
    {x y : CommitId} (hx : h.Below ids x) (hvisible : ¬ hidden x) (hxy : h.Reaches x y)
    (hyx : h.Reaches y x) : x = y := by
  rcases hyx.eq_or_parent with he | ⟨p, hyp, hp⟩
  · exact he.symm
  · exact absurd (hxy.trans hyp) (ha p x hx hvisible hp)

theorem Below.of_mem {x : CommitId} (hx : x ∈ ids) : h.Below ids x := ⟨x, hx, .refl x⟩

theorem Below.trans {x y : CommitId} (hxy : h.Reaches x y) : h.Below ids y → h.Below ids x
  | ⟨id, hid, hy⟩ => ⟨id, hid, hxy.trans hy⟩

theorem Below.mono {ids' : List CommitId} (hs : ids ⊆ ids') {x : CommitId} :
    h.Below ids x → h.Below ids' x
  | ⟨id, hid, hx⟩ => ⟨id, hs hid, hx⟩

theorem Below.of_below {ids' : List CommitId} (hs : ∀ id ∈ ids, h.Below ids' id) {x : CommitId} :
    h.Below ids x → h.Below ids' x
  | ⟨id, hid, hx⟩ => (hs id hid).trans hx

@[simp] theorem not_below_nil (x : CommitId) : ¬ h.Below [] x := by simp [Below]

@[simp] theorem below_singleton {id x : CommitId} : h.Below [id] x ↔ h.Reaches x id := by
  simp [Below]

theorem below_append {ids' : List CommitId} {x : CommitId} :
    h.Below (ids ++ ids') x ↔ h.Below ids x ∨ h.Below ids' x := by
  simp only [Below, List.mem_append, or_and_right, exists_or]

theorem weight_of_read {id : CommitId} {c : Commit} (hc : h.read id = .ok c) :
    h.weight id = c.parents.length + 1 := by
  rw [weight, hc]

@[simp] theorem cost_nil : h.cost [] = 0 := rfl

@[simp] theorem cost_cons (id : CommitId) (l : List CommitId) :
    h.cost (id :: l) = h.weight id + h.cost l := by
  simp [cost]

theorem Bounded.mono {ids' : List CommitId} (hb : h.Bounded ids')
    (hs : ∀ id ∈ ids, h.Below ids' id) : h.Bounded ids :=
  fun l hl hbelow => hb l hl fun x hx => (hbelow x hx).of_below hs

theorem Intact.mono {ids' : List CommitId} (hi : h.Intact ids') (hs : ids ⊆ ids') :
    h.Intact ids where
  acyclic := hi.acyclic
  bounded := hi.bounded.mono fun _ hid => .of_mem (hs hid)
  readable x hx := hi.readable x (hx.mono hs)
  ancestry x hx y hy := hi.ancestry x (hs hx) y (hs hy)

theorem AcyclicPast.mono {hidden hidden' : CommitId → Prop} {ids' : List CommitId}
    (ha : h.AcyclicPast hidden' ids') (hs : ∀ id ∈ ids, h.Below ids' id)
    (hh : ∀ c, hidden' c → hidden c) : h.AcyclicPast hidden ids :=
  fun p c hc hvisible => ha p c (hc.of_below hs) fun hc => hvisible (hh c hc)

theorem Intact.above {tip : CommitId} (hi : h.Intact (tip :: ids)) : h.IntactAbove tip ids where
  bounded := hi.bounded
  readable := hi.readable
  ancestry := hi.ancestry
  acyclic := hi.acyclic.past _ ids

theorem Legible.mono {ids' : List CommitId} (hl : h.Legible ids') (hs : ids ⊆ ids') :
    h.Legible ids where
  bounded := hl.bounded.mono fun _ hid => .of_mem (hs hid)
  readable x hx := hl.readable x (hx.mono hs)
  ancestry x hx y hy := hl.ancestry x (hs hx) y (hs hy)

theorem IntactAbove.of_mem {tip id : CommitId} (hi : h.IntactAbove tip ids)
    (hid : id ∈ tip :: ids) : h.IntactAbove tip [id] where
  toLegible := hi.toLegible.mono (by simpa using hid)
  acyclic := by
    intro p c hc htip
    rw [below_singleton] at hc
    rcases List.mem_cons.1 hid with rfl | hid
    · exact absurd hc htip
    · exact hi.acyclic p c ⟨id, hid, hc⟩ htip

theorem Intact.reaches_iff (hi : h.Intact ids) {x y : CommitId} (hx : x ∈ ids) (hy : y ∈ ids) :
    h.Reaches x y ↔ h.isAncestor x y = .ok true := by
  obtain ⟨b, hb, hreach⟩ := hi.ancestry x hx y hy
  rw [hb, ← hreach]
  simp

end Landing.History
