import Landing.Proofs.History.Collection

/-! What is marked as landed: which commits, in which order, and to whose approval the landing is
attributed. -/
namespace Landing.Submission
variable {σ : Type} {s : Services σ}

/-- Of the approvals for some patch sets, looked up from `w` on one after the other, `a` is the
first that is found, and `v` is where its lookup leads. -/
inductive Attributed (s : Services σ) :
    List PatchSetId → (w : σ) → (a : Option SubmitApproval) → (v : σ) → Prop where
  | nobody {w} : Attributed s [] w none w
  | found {p rest w a v} : s.submitterOf p w = (.ok (some a), v) →
      Attributed s (p :: rest) w (some a) v
  | unapproved {p rest w u a v} : s.submitterOf p w = (.ok none, u) → Attributed s rest u a v →
      Attributed s (p :: rest) w a v
  | failed {p rest w e u a v} : s.submitterOf p w = (.error e, u) → Attributed s rest u a v →
      Attributed s (p :: rest) w a v

namespace Attributed
variable {ps : List PatchSetId} {w v : σ} {a : Option SubmitApproval}

/-- What lookups of approvals keep holds in the end. -/
theorem keeps {P : σ → Prop} (hp : ∀ p u, P u → P (s.submitterOf p u).2)
    (h : Attributed s ps w a v) (hw : P w) : P v := by
  have hnext {p u answer u'} (hask : s.submitterOf p u = (answer, u')) (hu : P u) : P u' := by
    have hu' := hp p u hu
    rwa [hask] at hu'
  induction h with
  | nobody => exact hw
  | found hask => exact hnext hask hw
  | unapproved hask _ ih => exact ih (hnext hask hw)
  | failed hask _ ih => exact ih (hnext hask hw)

theorem leads (h : Attributed s ps w a v) : s.Leads w v :=
  h.keeps (fun p _ => .submitterOf p) .refl

/-- Where it is fixed who approved what, the first who did is found. -/
theorem eq_head? {f : PatchSetId → Except Error (Option SubmitApproval)}
    (h : Attributed s ps w a v) (hf : s.Approves w f) :
    a = (ps.filterMap fun p => (f p).toOption.join).head? := by
  have hnext {p w answer u} (hf : s.Approves w f) (hask : s.submitterOf p w = (answer, u)) :
      f p = answer ∧ s.Approves u f := by
    have hanswer := hf p w .refl
    have hu := hf.of_leads (.submitterOf p .refl)
    rw [hask] at hanswer hu
    exact ⟨hanswer.symm, hu⟩
  induction h with
  | nobody => rfl
  | found hask => simp [(hnext hf hask).1, Except.toOption]
  | unapproved hask _ ih =>
    obtain ⟨hfp, hf⟩ := hnext hf hask
    simpa [hfp, Except.toOption] using ih hf
  | failed hask _ ih =>
    obtain ⟨hfp, hf⟩ := hnext hf hask
    simpa [hfp, Except.toOption] using ih hf

end Attributed

namespace Session
variable {x y : Session σ} {id : CommitId} {ids rest : List CommitId} {a : Option SubmitApproval}

/-- Those of some commits that are in the batch and have no outcome. -/
def unmarked (x : Session σ) (ids : List CommitId) : List CommitId :=
  ids.filter fun id => x.batch.contains id && !x.outcomes.isFinal id

/-- The patch sets that some commits were uploaded as. -/
def patchSets (x : Session σ) (ids : List CommitId) : List PatchSetId :=
  ids.filterMap fun id => (x.batch.get? id).bind (·.patchSet)

theorem mem_unmarked : id ∈ x.unmarked ids ↔
    id ∈ ids ∧ x.batch.contains id = true ∧ x.outcomes.isFinal id = false := by
  simp [unmarked]

theorem unmarked_finalize (hid : id ∉ rest) (o : Outcome) :
    (x.finalize id o).unmarked rest = x.unmarked rest := by
  refine List.filter_congr fun c hc => ?_
  have hne : c ≠ id := fun he => hid (he ▸ hc)
  simp [finalize, Outcome.Ledger.isFinal_finalize, hne]

theorem unmarked_cons_open {c : TrackedCommit} (hc : x.batch.get? id = some c)
    (hopen : x.outcomes.isFinal id = false) : x.unmarked (id :: rest) = id :: x.unmarked rest :=
  List.filter_cons_of_pos (by simp [Table.contains, hc, hopen])

theorem unmarked_cons_skip
    (hskip : ∀ c, x.batch.get? id = some c → ¬ x.outcomes.isFinal id = false) :
    x.unmarked (id :: rest) = x.unmarked rest := by
  refine List.filter_cons_of_neg ?_
  rw [Bool.and_eq_true, Bool.not_eq_true', Table.contains, Option.isSome_iff_exists]
  rintro ⟨⟨c, hc⟩, hopen⟩
  exact hskip c hc hopen

theorem patchSets_cons {c : TrackedCommit} (hc : x.batch.get? id = some c) :
    x.patchSets (id :: rest) = c.patchSet.toList ++ x.patchSets rest := by
  rw [patchSets, List.filterMap_cons, hc, Option.bind_some]
  cases c.patchSet <;> rfl

/-- The books with clean merges for some commits, in another world. -/
def merged (x : Session σ) (ids : List CommitId) (w : σ) : Session σ :=
  { x with outcomes := x.outcomes.finalizeAll ids .cleanMerge, world := w }

theorem finalizeAll_unmarked (hn : ids.Nodup) (o : Outcome) :
    x.outcomes.finalizeAll (x.unmarked ids) o =
      x.outcomes.finalizeAll (ids.filter x.batch.contains) o := by
  have hsame : x.unmarked ids = (ids.filter x.batch.contains).filter (!x.outcomes.isFinal ·) := by
    simp only [unmarked, List.filter_filter, Bool.and_comm]
  rw [hsame, Outcome.Ledger.finalizeAll_filter_open (hn.filter _)]

/-- Marking writes one outcome for each commit that has none. Approvals are looked up until one is
found. -/
theorem markEach_eq (a : Option SubmitApproval) (x : Session σ) {landed : List CommitId}
    (hn : landed.Nodup) : ∃ b w,
      markEach s a x landed = (b, x.merged (x.unmarked landed) w) ∧
      (a = none → Attributed s (x.patchSets (x.unmarked landed)) x.world b w) ∧
      (∀ found, a = some found → b = some found ∧ w = x.world) := by
  induction landed generalizing a x with
  | nil => exact ⟨a, x.world, rfl, fun ha => ha ▸ .nobody, fun _ ha => ⟨ha, rfl⟩⟩
  | cons id rest ih =>
    obtain ⟨hid, hn⟩ := List.nodup_cons.1 hn
    rw [markEach]
    split
    · rename_i c hc hopen
      have hnext (b : Option SubmitApproval) (u : σ) : ∃ b' w,
          markEach s b { x.finalize id .cleanMerge with world := u } rest =
            (b', x.merged (id :: x.unmarked rest) w) ∧
          (b = none → Attributed s (x.patchSets (x.unmarked rest)) u b' w) ∧
          ∀ found, b = some found → b' = some found ∧ w = u :=
        unmarked_finalize hid .cleanMerge ▸ ih b { x.finalize id .cleanMerge with world := u } hn
      rw [unmarked_cons_open hc hopen, patchSets_cons hc]
      cases a with
      | some found =>
        obtain ⟨b, w, hmark, _, hkept⟩ := hnext (some found) x.world
        exact ⟨b, w, hmark, nofun, hkept⟩
      | none =>
        cases c.patchSet with
        | none => exact hnext none x.world
        | some p =>
          obtain ⟨answer, u, hanswer⟩ : ∃ answer u, s.submitterOf p x.world = (answer, u) :=
            ⟨_, _, rfl⟩
          have hask : (x.finalize id .cleanMerge).ask (s.submitterOf p) =
              (answer, { x.finalize id .cleanMerge with world := u }) := by
            simp only [ask, finalize, hanswer]
          simp only [hask]
          cases answer with
          | error e =>
            obtain ⟨b, w, hmark, hrest, _⟩ := hnext none u
            exact ⟨b, w, hmark, fun _ => .failed hanswer (hrest rfl), nofun⟩
          | ok answer =>
            obtain ⟨b, w, hmark, hrest, hkept⟩ := hnext answer u
            refine ⟨b, w, hmark, fun _ => ?_, nofun⟩
            cases answer with
            | none => exact .unapproved hanswer (hrest rfl)
            | some found =>
              obtain ⟨rfl, rfl⟩ := hkept found rfl
              exact .found hanswer
    · rename_i hskip
      rw [unmarked_cons_skip hskip]
      exact ih a x hn

/-- Marking fails where it cannot be known what landed. -/
theorem mark_cases (s : Services σ) (x : Session σ) (tip : CommitId) (accepted : List CommitId) :
    (∃ e, (s.history x.world).order [tip] accepted .oldestFirst = .error e ∧
      x.mark s tip accepted = (.error e, x)) ∨
    ∃ l a w, (s.history x.world).order [tip] accepted .oldestFirst = .ok l ∧
      x.mark s tip accepted = (.ok a, x.merged (x.unmarked l) w) ∧
      Attributed s (x.patchSets (x.unmarked l)) x.world a w := by
  rw [mark]
  cases hl : (s.history x.world).order [tip] accepted .oldestFirst with
  | error e => exact .inl ⟨e, rfl, rfl⟩
  | ok l =>
    obtain ⟨a, w, hmark, hattributed, _⟩ :=
      markEach_eq (s := s) none x (History.nodup_of_order hl)
    exact .inr ⟨l, a, w, rfl, by simp only [hmark], hattributed rfl⟩

/-- Marking fails with the books as they were, and in a history that has an end only at a commit
that it has to read. Otherwise clean merges come in at the end of the books: for the commits of the
batch without an outcome that the tip reaches and no accepted commit does, each after its
ancestors. -/
theorem mark_exact (s : Services σ) (x : Session σ) (tip : CommitId) (accepted : List CommitId) :
    let h := s.history x.world
    (∃ e, x.mark s tip accepted = (.error e, x) ∧ (h.Ends → ∃ c,
      (h.Below accepted c ∨ h.Reaches c tip ∧ ¬ h.Below accepted c) ∧ h.read c = .error e)) ∨
    ∃ new approval y, x.mark s tip accepted = (.ok approval, y) ∧
      y = { x with outcomes := y.outcomes, world := y.world } ∧
      y.outcomes.entries = x.outcomes.entries ++ new.map (·, .cleanMerge) ∧
      (∀ c, c ∈ new ↔ x.batch.contains c = true ∧ h.Reaches c tip ∧ ¬ h.Below accepted c ∧
        x.outcomes.isFinal c = false) ∧
      new.Pairwise (fun c d => ¬ h.Reaches d c) ∧
      Attributed s (x.patchSets new) x.world approval y.world := by
  intro h
  rcases x.mark_cases s tip accepted with ⟨e, hl, hmark⟩ | ⟨l, approval, w, hl, hmark, hattributed⟩
  · refine .inl ⟨e, hmark, fun hh => ?_⟩
    obtain ⟨c, hc, hread⟩ :=
      (History.order_error hl).resolve_right fun hend => hend.2 (hh.past accepted [tip])
    exact ⟨c, by simpa using hc, hread⟩
  · have ha := History.ascending_of_order hl
    refine .inr ⟨x.unmarked l, approval, x.merged (x.unmarked l) w, hmark, rfl, ?_, fun c => ?_,
      ha.sorted.filter _, hattributed⟩
    · exact Outcome.Ledger.entries_finalizeAll (ha.nodup.filter _)
        (fun c hc => (mem_unmarked.1 hc).2.2) .cleanMerge
    · rw [mem_unmarked, ha.mem_iff, History.below_singleton]
      tauto

end Session

end Landing.Submission
