import Landing.Proofs.Rehearsal

/-! Questions about ancestry in histories that may have cycles, and commits that are missing or
corrupt. -/
namespace Landing.History

/-- An answer is right whatever else the history holds, and that a commit is no ancestor is only
said where all that could be one was read. Without an answer, one of these commits could not be
read. -/
theorem isAncestor_exact {size : Nat} {read : Reader} (a d : CommitId)
    (hb : (ofReader size read).Bounded [d]) :
    let h := ofReader size read
    (h.isAncestor a d = .ok true → h.Reaches a d) ∧
    (h.isAncestor a d = .ok false → ¬ h.Reaches a d ∧ ∀ x, h.Reaches x d → h.Readable x) ∧
    (∀ e, h.isAncestor a d = .error e → ∃ x, h.Reaches x d ∧ h.read x = .error e) ∧
    ((∀ x, h.Reaches x d → h.Readable x) →
      ∃ b, h.isAncestor a d = .ok b ∧ (b = true ↔ h.Reaches a d)) := by
  intro h
  have hanswer : h.isAncestor a d = search h.read a (h.size + 1) [] [d] := rfl
  rw [hanswer]
  rcases search_cases h a d with ⟨htrue, hreach⟩ | ⟨hfalse, hreach, hreadable⟩ | ⟨e, herror, hfail⟩
  · simp [htrue, hreach]
  · simpa [hfalse, hreach] using hreadable
  · obtain ⟨x, hx, hread⟩ := hfail.resolve_right fun hend => hend.2 hb
    have hunread : ¬ ∀ x, h.Reaches x d → h.Readable x := fun hr =>
      (hr x hx).read_ne_error hread
    rw [herror]
    refine ⟨nofun, nofun, fun e' he' => ?_, fun hr => absurd hr hunread⟩
    cases he'
    exact ⟨x, hx, hread⟩

open Rehearsal.Crossing (root base above beside merge further)

/-- Two commits that are parents of each other. One more commit lies on a commit that is missing,
and a last one, which is corrupt, on none. -/
def circling : Graph :=
  [(above, [beside]), (beside, [above]), (further, [beside, merge]), (base, [])].foldl
    (fun g c => g.addCommit c.1 c.2 "") ⟨"/repo", .empty, .empty, [base]⟩

/-- The search ends in the circle, and fails where a commit is missing or corrupt. -/
theorem isAncestor_exact_circling :
    (∀ d, circling.history.Bounded [d]) ∧
    circling.history.Reaches above beside ∧
    ¬ circling.history.Reaches root beside ∧
    (∃ x, circling.history.Reaches x further ∧ circling.read x = .error (.missingObject merge)) ∧
    ∃ x, circling.history.Reaches x base ∧ circling.read x = .error (.corruptObject base) := by
  have hb : ∀ d, circling.history.Bounded [d] := fun d => circling.bounded [d]
  have hinside := (isAncestor_exact above beside (hb beside)).1
  have houtside := (isAncestor_exact root beside (hb beside)).2.1
  have hmissing := (isAncestor_exact root further (hb further)).2.2.1
  have hcorrupt := (isAncestor_exact root base (hb base)).2.2.1
  exact ⟨hb, hinside (by decide), (houtside (by decide)).1, hmissing _ (by decide),
    hcorrupt _ (by decide)⟩

end Landing.History
