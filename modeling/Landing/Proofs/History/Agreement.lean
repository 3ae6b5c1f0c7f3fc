import Landing.Proofs.History.Reading
import Landing.Proofs.History.Reduction

/-! Histories in which objects are lost and others added, but none changes: what gets an answer in
two of them gets the same answer. -/
namespace Landing.History
variable {h h' part whole : History} {read read' : Reader}

/-- Some objects of `whole` cannot be read in `part`. All else is the same. -/
structure PartOf (part whole : History) : Prop where
  size_le : part.size ≤ whole.size
  read : ∀ id c, part.read id = .ok c → whole.read id = .ok c
  ancestry : ∀ x y b, part.isAncestor x y = .ok b → whole.isAncestor x y = .ok b

/-- From one history to the other objects are lost and others added, but none changes. -/
def Agree (h h' : History) : Prop := ∃ whole, h.PartOf whole ∧ h'.PartOf whole

theorem failed_or_eq {α : Type} {r r' : Except Error α} (hr : ∀ a, r = .ok a → r' = .ok a) :
    Failed (fun _ => True) r ∨ r' = r := by
  cases r with
  | error e => exact .inl ⟨e, trivial, rfl⟩
  | ok a => exact .inr (hr a rfl)

/-- A part fails where it does not answer as the whole. -/
theorem PartOf.mended (hp : part.PartOf whole) : Mended (fun _ => True) part whole where
  size := .inr ⟨trivial, hp.size_le⟩
  read id := failed_or_eq (hp.read id)
  ancestry x y := failed_or_eq (hp.ancestry x y)

theorem partOf_ofReader {m n : Nat} (hmn : m ≤ n)
    (hread : ∀ id c, read' id = .ok c → read id = .ok c) :
    (ofReader m read').PartOf (ofReader n read) := by
  have hm : Mended (fun _ => True) (ofReader m read') (ofReader n read) :=
    .ofReader (.inr ⟨trivial, hmn⟩) fun id => failed_or_eq (hread id)
  refine ⟨hmn, hread, fun x y b hb => ?_⟩
  rcases hm.ancestry x y with ⟨e, _, he⟩ | hsame
  · cases hb.symm.trans he
  · exact hsame.trans hb

/-- Histories that search for their answers agree where no commit reads differently in them. -/
theorem agree_ofReader (m n : Nat)
    (hread : ∀ id c c', read id = .ok c → read' id = .ok c' → c = c') :
    Agree (ofReader m read) (ofReader n read') := by
  -- the whole holds what either of them has
  let both : Reader := fun id => read id <|> read' id
  refine ⟨ofReader (max m n) both, partOf_ofReader (Nat.le_max_left m n) fun id c hc => ?_,
    partOf_ofReader (Nat.le_max_right m n) fun id c hc => ?_⟩
  · simp only [both, hc]
    rfl
  · simp only [both]
    cases hd : read id with
    | ok d =>
      rw [hread id d c hd hc]
      rfl
    | error e => exact hc

section Agree
variable {α β : Type} {result : β → Except Error α} {k : History → β} {a a' : α}

/-- What succeeds in a part comes out of the whole as well. -/
theorem Stops.eq_of_partOf (hk : Stops result k) (hp : part.PartOf whole)
    (ha : result (k part) = .ok a) : k whole = k part := by
  rcases hk.stops hp.mended with ⟨e, _, he⟩ | hsame
  · cases ha.symm.trans he
  · exact hsame

/-- What succeeds in both comes out as one. -/
theorem Stops.eq_of_agree (hk : Stops result k) (ha : h.Agree h') (hh : result (k h) = .ok a)
    (hh' : result (k h') = .ok a') : k h = k h' := by
  obtain ⟨whole, hp, hp'⟩ := ha
  exact (hk.eq_of_partOf hp hh).symm.trans (hk.eq_of_partOf hp' hh')

end Agree

/-- A walk that can be ordered in both has one order. -/
theorem Agree.order_eq (ha : h.Agree h') {starts hidden l l' : List CommitId} {d : Direction}
    (hl : h.order starts hidden d = .ok l) (hl' : h'.order starts hidden d = .ok l') : l = l' := by
  have hsame := (Prompt.order starts hidden d).eq_of_agree ha hl hl'
  exact Except.ok.inj (hl.symm.trans (hsame.trans hl'))

end Landing.History

/-- Graphs in memory agree where no commit of the one was replaced in the other. -/
theorem Landing.Graph.agree {g g' : Graph}
    (hg : ∀ id c c', g.commits.get? id = some c → g'.commits.get? id = some c' → c = c') :
    g.history.Agree g'.history := by
  have hread : ∀ {g : Graph} {id c}, g.read id = .ok c → g.commits.get? id = some c := by
    intro g id c hc
    rw [Graph.read] at hc
    split at hc
    · cases hc
    · split at hc <;> cases hc
      assumption
  exact History.agree_ofReader _ _ fun id c c' hc hc' => hg id c c' (hread hc) (hread hc')

namespace Landing.Reduction
open History
variable {h h' : History}

/-- A reduction that succeeds in both comes to one end. -/
theorem reduce_eq_of_agree (ha : h.Agree h') {tip : CommitId} {p q q' : Progress}
    {r r' : Reduction} (hr : h.reduce tip p = (.ok r, q)) (hr' : h'.reduce tip p = (.ok r', q')) :
    r = r' ∧ q = q' := by
  have hsame := (Prompt.reduce tip p).eq_of_agree ha (congrArg Prod.fst hr) (congrArg Prod.fst hr')
  simpa using hr.symm.trans (hsame.trans hr')

/-- A choice that succeeds in both is one. -/
theorem firstFastForward_eq_of_agree (ha : h.Agree h') {tip chosen chosen' : TrackedCommit}
    {pending rest rest' : PendingSet} (hf : h.firstFastForward tip pending = (.ok chosen, rest))
    (hf' : h'.firstFastForward tip pending = (.ok chosen', rest')) :
    chosen = chosen' ∧ rest = rest' := by
  have hsame := (Prompt.firstFastForward tip pending).eq_of_agree ha (congrArg Prod.fst hf)
    (congrArg Prod.fst hf')
  simpa using hf.symm.trans (hsame.trans hf')

end Landing.Reduction
