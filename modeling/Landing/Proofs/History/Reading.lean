import Landing.History.Reduction
import Landing.Proofs.History.Graph

/-! What a read that fails does to a decision about the history: it is never passed over, and
nothing else makes a decision fail. -/
namespace Landing.History
variable {h h' : History} {e : Error} {α β γ : Type}

/-- Some commit cannot be read, or some question of ancestry not be answered, for the reason `e`. -/
def Fails (h : History) (e : Error) : Prop :=
  (∃ id, h.read id = .error e) ∨ ∃ x y, h.isAncestor x y = .error e

/-- A result is an error of `E`. -/
def Failed (E : Error → Prop) (r : Except Error α) : Prop := ∃ e, E e ∧ r = .error e

/-- `h'` answers as `h` does, save where `h` fails with an error of `E`. -/
structure Mended (E : Error → Prop) (h h' : History) : Prop where
  /-- What did not come to an end in `h` may do so in `h'`. -/
  size : h'.size = h.size ∨ E endless ∧ h.size ≤ h'.size
  read : ∀ id, Failed E (h.read id) ∨ h'.read id = h.read id
  ancestry : ∀ x y, Failed E (h.isAncestor x y) ∨ h'.isAncestor x y = h.isAncestor x y

/-! With more fuel a search takes the same steps, and only what ran out of fuel may end
otherwise. -/

private theorem search_more {read : Reader} {target : CommitId} {m n : Nat} (hmn : m ≤ n)
    (seen queue : List CommitId) : search read target m seen queue = .error endless ∨
      search read target n seen queue = search read target m seen queue := by
  induction m generalizing n seen queue with
  | zero =>
    cases queue with
    | nil => exact .inr (by cases n <;> rfl)
    | cons => exact .inl rfl
  | succ m ih =>
    obtain ⟨n, rfl⟩ := Nat.exists_eq_add_of_le' (Nat.lt_of_lt_of_le m.succ_pos hmn)
    have hmn : m ≤ n := Nat.le_of_succ_le_succ hmn
    cases queue with
    | nil => exact .inr rfl
    | cons c rest =>
      rw [search, search]
      split
      · exact .inr rfl
      split
      · exact ih hmn seen rest
      cases read c with
      | error _ => exact .inr rfl
      | ok commit => exact ih hmn (c :: seen) (rest ++ commit.parents)

private theorem closure_more {read : Reader} {m n : Nat} (hmn : m ≤ n)
    (seen queue : List CommitId) : closure read m seen queue = .error endless ∨
      closure read n seen queue = closure read m seen queue := by
  induction m generalizing n seen queue with
  | zero =>
    cases queue with
    | nil => exact .inr (by cases n <;> rfl)
    | cons => exact .inl rfl
  | succ m ih =>
    obtain ⟨n, rfl⟩ := Nat.exists_eq_add_of_le' (Nat.lt_of_lt_of_le m.succ_pos hmn)
    have hmn : m ≤ n := Nat.le_of_succ_le_succ hmn
    cases queue with
    | nil => exact .inr rfl
    | cons c rest =>
      rw [closure, closure]
      split
      · exact ih hmn seen rest
      cases read c with
      | error _ => exact .inr rfl
      | ok commit => exact ih hmn (c :: seen) (rest ++ commit.parents)

private theorem run_more {read : Reader} {hidden : List CommitId} {m n : Nat} (hmn : m ≤ n)
    (t : Traversal) : Traversal.run read hidden m t = .error endless ∨
      Traversal.run read hidden n t = Traversal.run read hidden m t := by
  induction m generalizing n t with
  | zero =>
    rw [Traversal.run]
    split
    · rename_i ht
      exact .inr (by cases n <;> rw [Traversal.run, if_pos ht])
    · exact .inl rfl
  | succ m ih =>
    obtain ⟨n, rfl⟩ := Nat.exists_eq_add_of_le' (Nat.lt_of_lt_of_le m.succ_pos hmn)
    have hmn : m ≤ n := Nat.le_of_succ_le_succ hmn
    rw [Traversal.run, Traversal.run]
    split
    · exact .inr rfl
    cases t.step read hidden with
    | error _ => exact .inr rfl
    | ok t' => exact ih hmn t'

/-! Computations on a history. -/

/-- A computation, of which `result` shows whether it failed, does not go on after a read that
fails: unless it ends with the error of the read, another answer would have made no difference. -/
structure Stops (result : β → Except Error α) (k : History → β) : Prop where
  stops : ∀ {E h h'}, Mended E h h' → Failed E (result (k h)) ∨ k h' = k h

/-- A computation that stops at a read that fails, and fails for no other reason in a history that
has an end. -/
structure Prompt (result : β → Except Error α) (k : History → β) : Prop extends
    Stops result k where
  cause : ∀ {h e}, result (k h) = .error e → h.Fails e ∨ e = endless ∧ ¬ h.Ends

section Steps
variable {result : β → Except Error α} {f : History → Except Error γ} {g : γ → History → β}
  {k : History → β}

theorem Stops.const (b : β) : Stops result fun _ => b := ⟨fun _ => .inr rfl⟩

theorem Stops.congr (hk : Stops result k) {k' : History → β} (hsame : ∀ h, k' h = k h) :
    Stops result k' := by
  obtain rfl : k' = k := funext hsame
  exact hk

/-- `k` passes an error of `f` on, and else goes on as `g`. -/
theorem Stops.bind (hf : Stops id f) (hg : ∀ a, Stops result (g a))
    (hfail : ∀ e, ∃ b, result b = .error e ∧ ∀ h, f h = .error e → k h = b)
    (hok : ∀ h a, f h = .ok a → k h = g a h) : Stops result k where
  stops {E h h'} hm := by
    rcases hf.stops hm with ⟨e, hE, he⟩ | hsame
    · obtain ⟨b, hb, hk⟩ := hfail e
      exact .inl ⟨e, hE, hk h he ▸ hb⟩
    · cases hfh : f h with
      | error e =>
        obtain ⟨b, _, hk⟩ := hfail e
        exact .inr ((hk h' (hsame.trans hfh)).trans (hk h hfh).symm)
      | ok a =>
        rw [hok h a hfh, hok h' a (hsame.trans hfh)]
        exact (hg a).stops hm

/-- The size of a history says how far a computation goes. It only matters to one that does not
come to an end. -/
theorem Stops.fuel {k : Nat → History → β} (hk : ∀ n, Stops result (k n))
    (hmore : ∀ {m n h}, m ≤ n → result (k m h) = .error endless ∨ k n h = k m h) (m : Nat) :
    Stops result fun h => k (h.size + m) h where
  stops {E h h'} hm := by
    rcases (hk (h.size + m)).stops hm with hfail | hsame
    · exact .inl hfail
    rcases hm.size with hsize | ⟨hend, hsize⟩
    · rw [hsize]
      exact .inr hsame
    · rcases hmore (h := h') (Nat.add_le_add_right hsize m) with he | hlong
      · exact .inl ⟨endless, hend, hsame ▸ he⟩
      · exact .inr (hlong.trans hsame)

theorem Prompt.const {b : β} (hb : ∀ e, result b ≠ .error e) : Prompt result fun _ => b :=
  ⟨.const b, fun he => absurd he (hb _)⟩

theorem Prompt.congr (hk : Prompt result k) {k' : History → β} (hsame : ∀ h, k' h = k h) :
    Prompt result k' := by
  obtain rfl : k' = k := funext hsame
  exact hk

theorem Prompt.bind (hf : Prompt id f) (hg : ∀ a, Prompt result (g a))
    (hfail : ∀ e, ∃ b, result b = .error e ∧ ∀ h, f h = .error e → k h = b)
    (hok : ∀ h a, f h = .ok a → k h = g a h) : Prompt result k where
  toStops := .bind hf.toStops (fun a => (hg a).toStops) hfail hok
  cause {h e} he := by
    cases hfh : f h with
    | error e' =>
      obtain ⟨b, hb, hk⟩ := hfail e'
      obtain rfl : e' = e := Except.error.inj (hb.symm.trans (hk h hfh ▸ he))
      exact hf.cause hfh
    | ok a =>
      rw [hok h a hfh] at he
      exact (hg a).cause he

/-- A result is worked on, which cannot fail. -/
theorem Stops.map (hf : Stops id f) (v : γ → α) : Stops id fun h => (f h).map v :=
  .bind hf (fun a => .const (.ok (v a)))
    (fun e => ⟨.error e, rfl, fun h he => by rw [he]; rfl⟩) fun h a ha => by rw [ha]; rfl

theorem Prompt.map (hf : Prompt id f) (v : γ → α) : Prompt id fun h => (f h).map v :=
  .bind hf (fun a => .const (b := .ok (v a)) fun _ he => by cases he)
    (fun e => ⟨.error e, rfl, fun h he => by rw [he]; rfl⟩) fun h a ha => by rw [ha]; rfl

/-- A read that fails with `e` has a part in what is computed: if the history answered otherwise
there, something else would come out. -/
def Decisive (k : History → β) (e : Error) (h : History) : Prop :=
  ∃ h', Mended (· = e) h h' ∧ k h' ≠ k h

theorem Stops.error_of_decisive (hk : Stops result k) (hd : Decisive k e h) :
    result (k h) = .error e := by
  obtain ⟨h', hm, hne⟩ := hd
  obtain ⟨_, rfl, he⟩ := (hk.stops hm).resolve_right hne
  exact he

/-- The history where all that failed with `e` is a commit without parents or ancestors. -/
def filled (h : History) (e : Error) : History where
  size := h.size
  read c := if h.read c = .error e then .ok ⟨c, [], ""⟩ else h.read c
  isAncestor x y := if h.isAncestor x y = .error e then .ok false else h.isAncestor x y

theorem mended_filled (h : History) (e : Error) : Mended (· = e) h (h.filled e) where
  size := .inl rfl
  read _ := or_iff_not_imp_left.2 fun hc => if_neg fun he => hc ⟨e, rfl, he⟩
  ancestry _ _ := or_iff_not_imp_left.2 fun hc => if_neg fun he => hc ⟨e, rfl, he⟩

theorem not_fails_filled (h : History) (e : Error) : ¬ (h.filled e).Fails e := by
  rintro (⟨c, hc⟩ | ⟨x, y, hc⟩) <;> simp only [filled] at hc <;> split at hc <;> simp_all

/-- What fails fails at a read that is decisive. -/
theorem Prompt.decisive_iff (hk : Prompt result k) (he : e ≠ endless) :
    Decisive k e h ↔ result (k h) = .error e := by
  refine ⟨hk.error_of_decisive, fun herror => ⟨h.filled e, h.mended_filled e, fun hsame => ?_⟩⟩
  rcases hk.cause (hsame ▸ herror) with hfails | ⟨hend, _⟩
  · exact h.not_fails_filled e hfails
  · exact he hend

end Steps

/-! Reads, searches and walks. -/

theorem Stops.read (c : CommitId) : Stops id fun h => h.read c := ⟨fun hm => hm.read c⟩

theorem Prompt.isAncestor (x y : CommitId) : Prompt id fun h => h.isAncestor x y :=
  ⟨⟨fun hm => hm.ancestry x y⟩, fun he => .inl (.inr ⟨x, y, he⟩)⟩

theorem Stops.search (target : CommitId) (n : Nat) (seen queue : List CommitId) :
    Stops id fun h => search h.read target n seen queue := by
  induction n generalizing seen queue with
  | zero => cases queue <;> exact .const _
  | succ n ih =>
    cases queue with
    | nil => exact .const _
    | cons c rest =>
      by_cases htarget : c = target
      · exact Stops.congr (.const (.ok true)) fun h => by rw [History.search, if_pos htarget]
      by_cases hc : seen.contains c = true
      · exact (ih seen rest).congr fun h => by rw [History.search, if_neg htarget, if_pos hc]
      · exact .bind (.read c) (fun commit => ih (c :: seen) (rest ++ commit.parents))
          (fun e => ⟨.error e, rfl, fun h he => by
            simp only [History.search, if_neg htarget, if_neg hc, he]⟩)
          fun h a ha => by simp only [History.search, if_neg htarget, if_neg hc, ha]

theorem Stops.closure (n : Nat) (seen queue : List CommitId) :
    Stops id fun h => closure h.read n seen queue := by
  induction n generalizing seen queue with
  | zero => cases queue <;> exact .const _
  | succ n ih =>
    cases queue with
    | nil => exact .const _
    | cons c rest =>
      by_cases hc : seen.contains c = true
      · exact (ih seen rest).congr fun h => by rw [History.closure, if_pos hc]
      · exact .bind (.read c) (fun commit => ih (c :: seen) (rest ++ commit.parents))
          (fun e => ⟨.error e, rfl, fun h he => by simp only [History.closure, if_neg hc, he]⟩)
          fun h a ha => by simp only [History.closure, if_neg hc, ha]

theorem Stops.reachable (starts : List CommitId) : Stops id fun h => h.reachable starts :=
  .fuel (fun n => .closure n [] starts) (closure_more · [] starts) starts.length

theorem Stops.step (hidden : List CommitId) (t : Traversal) :
    Stops id fun h => t.step h.read hidden := by
  obtain ⟨_ | ⟨⟨c, expanded⟩, rest⟩, emitted⟩ := t
  · exact .const _
  by_cases hc : Traversal.isVisible hidden emitted c = true
  · cases expanded with
    | true =>
      refine Stops.congr (.const (.ok ⟨rest, c :: emitted⟩)) fun h => ?_
      simp [Traversal.step, hc]
    | false =>
      exact .bind (.read c) (fun commit => .const (.ok
        ⟨(commit.parents.filter (Traversal.isVisible hidden emitted)).map (·, false) ++
          (c, true) :: rest, emitted⟩))
        (fun e => ⟨.error e, rfl, fun h he => by simp [Traversal.step, hc, he]⟩)
        fun h a ha => by simp [Traversal.step, hc, ha]
  · refine Stops.congr (.const (.ok ⟨rest, emitted⟩)) fun h => ?_
    simp [Traversal.step, hc]

theorem Stops.run (hidden : List CommitId) (n : Nat) (t : Traversal) :
    Stops id fun h => Traversal.run h.read hidden n t := by
  induction n generalizing t with
  | zero => exact .const _
  | succ n ih =>
    by_cases ht : t.stack.isEmpty = true
    · refine Stops.congr (.const (.ok t.emitted)) fun h => ?_
      rw [Traversal.run, if_pos ht]
    · exact .bind (.step hidden t) ih
        (fun e => ⟨.error e, rfl, fun h he => by simp only [Traversal.run, if_neg ht, he]⟩)
        fun h a ha => by simp only [Traversal.run, if_neg ht, ha]

theorem Stops.traverse (hidden emitted starts : List CommitId) :
    Stops id fun h => h.traverse hidden emitted starts := by
  induction starts generalizing emitted with
  | nil => exact .const _
  | cons start rest ih =>
    have hrun : Stops id fun h =>
        Traversal.run h.read hidden (h.size + 1) ⟨[(start, false)], emitted⟩ :=
      .fuel (fun n => .run hidden n _) (run_more · _) 1
    exact .bind hrun ih
      (fun e => ⟨.error e, rfl, fun h he => by simp only [History.traverse, he]⟩)
      fun h a ha => by simp only [History.traverse, ha]

theorem Prompt.order (starts hidden : List CommitId) (d : Direction) :
    Prompt id fun h => h.order starts hidden d where
  toStops := by
    refine .bind (.reachable hidden) (fun covered => (Stops.traverse covered [] starts).map
      fun emitted => if d = .newestFirst then emitted else emitted.reverse)
      (fun e => ⟨.error e, rfl, fun h he => by simp only [History.order, he]⟩)
      fun h covered hc => ?_
    simp only [History.order, hc]
    cases h.traverse covered [] starts <;> cases d <;> rfl
  cause he := (order_error he).imp (fun ⟨x, _, hread⟩ => .inl ⟨x, hread⟩)
    fun hend => ⟨hend.1, fun hh => hend.2 (hh.past hidden starts)⟩

/-- Where ancestry is searched for, only reads matter. -/
theorem Mended.ofReader {E : Error → Prop} {m n : Nat} {read read' : Reader}
    (hsize : n = m ∨ E endless ∧ m ≤ n)
    (hread : ∀ id, Failed E (read id) ∨ read' id = read id) :
    Mended E (.ofReader m read) (.ofReader n read') where
  size := hsize
  read := hread
  ancestry x y := by
    have hbare : Mended E ⟨m, read, fun _ _ => .ok false⟩ ⟨n, read', fun _ _ => .ok false⟩ :=
      ⟨hsize, hread, fun _ _ => .inr rfl⟩
    have hsearch : Stops id fun h => History.search h.read x (h.size + 1) [] [y] :=
      .fuel (fun k => .search x k [] [y]) (search_more · [] [y]) 1
    exact hsearch.stops hbare

/-! Reductions and the choice of a tip. -/

open Reduction

theorem Prompt.select {test : History → CommitId → Except Error Bool}
    (ht : ∀ c, Prompt id fun h => test h c) (ids : List CommitId) :
    Prompt id fun h => select (test h) ids := by
  induction ids with
  | nil => exact .const fun _ he => by cases he
  | cons c rest ih =>
    refine .bind (ht c) (fun keep => ih.map fun ids => if keep then c :: ids else ids)
      (fun e => ⟨.error e, rfl, fun h he => by simp only [Reduction.select, he]⟩)
      fun h keep hk => ?_
    simp only [Reduction.select, hk]
    cases Reduction.select (test h) rest <;> rfl

theorem Prompt.needsMore (tip : CommitId) (batch : List CommitId) (c : CommitId) :
    Prompt id fun h => needsMore h tip batch c := by
  refine ((Prompt.order [c] [tip] .newestFirst).map (·.any (!batch.contains ·))).congr fun h => ?_
  rw [Reduction.needsMore]
  cases h.order [c] [tip] .newestFirst <;> rfl

theorem Prompt.cover? (folded : Table CommitId CommitId) (c : CommitId) (others : List CommitId) :
    Prompt id fun h => cover? h.isAncestor folded c others := by
  induction others with
  | nil => exact .const fun _ he => by cases he
  | cons other rest ih =>
    by_cases hc : other ≠ c ∧ folded.contains other = false
    · refine .bind (.isAncestor c other) (g := fun found h =>
        if found then .ok (some other) else Reduction.cover? h.isAncestor folded c rest) ?_
        (fun e => ⟨.error e, rfl, fun h he => by simp only [Reduction.cover?, if_pos hc, he]⟩) ?_
      · intro found
        cases found with
        | true => exact .const fun _ he => by cases he
        | false => exact ih
      · intro h found hfound
        cases found <;> simp only [Reduction.cover?, if_pos hc, hfound] <;> rfl
    · exact ih.congr fun h => by rw [Reduction.cover?, if_neg hc]

theorem Prompt.link (candidates : List CommitId) (folded : Table CommitId CommitId)
    (ids : List CommitId) : Prompt id fun h => link h.isAncestor candidates folded ids := by
  induction ids generalizing folded with
  | nil => exact .const fun _ he => by cases he
  | cons c rest ih =>
    refine .bind (.cover? folded c candidates)
      (fun cover => ih (cover.elim folded (folded.insert c)))
      (fun e => ⟨.error e, rfl, fun h he => by simp only [Reduction.link, he]⟩) ?_
    intro h cover hcover
    cases cover <;> simp only [Reduction.link, hcover] <;> rfl

theorem Prompt.fold (p : Progress) : Prompt Prod.fst fun h => fold h p :=
  .bind (.link p.pending.ids .empty p.pending.ids)
    (fun folded => .const (b := (.ok ⟨shorten folded⟩,
      ⟨(p.pending.extract ((shorten folded).contains ·.id)).2, p.outcomes⟩))
      fun _ he => by cases he)
    (fun e => ⟨(.error e, p), rfl, fun h he => by simp only [Reduction.fold, he]⟩)
    fun h a ha => by simp only [Reduction.fold, ha]

theorem Prompt.resolveMissing (tip : CommitId) (batch : List CommitId) (p : Progress) :
    Prompt Prod.fst fun h => resolveMissing h tip batch p :=
  .bind (.select (.needsMore tip batch) p.pending.ids)
    (fun missing => .fold (p.resolve missing .missingDependency))
    (fun e => ⟨(.error e, p), rfl, fun h he => by simp only [Reduction.resolveMissing, he]⟩)
    fun h a ha => by simp only [Reduction.resolveMissing, ha]

/-- A reduction fails where a read fails, and nowhere else. -/
theorem Prompt.reduce (tip : CommitId) (p : Progress) : Prompt Prod.fst fun h => h.reduce tip p :=
  .bind (.select (.isAncestor · tip) p.pending.ids)
    (fun merged => .resolveMissing tip p.pending.ids (p.resolve merged .alreadyMerged))
    (fun e => ⟨(.error e, p), rfl, fun h he => by simp only [History.reduce, he]⟩)
    fun h a ha => by simp only [History.reduce, ha]

theorem Prompt.forward? (tip : CommitId) (ids : List CommitId) :
    Prompt id fun h => h.forward? tip ids := by
  induction ids with
  | nil => exact .const fun _ he => by cases he
  | cons c rest ih =>
    refine .bind (.isAncestor tip c) (g := fun found h =>
      if found then .ok (some c) else h.forward? tip rest) ?_
      (fun e => ⟨.error e, rfl, fun h he => by simp only [History.forward?, he]⟩) ?_
    · intro found
      cases found with
      | true => exact .const fun _ he => by cases he
      | false => exact ih
    · intro h found hfound
      cases found <;> simp only [History.forward?, hfound] <;> rfl

/-- The choice of a tip fails where a read fails, and nowhere else. -/
theorem Prompt.firstFastForward (tip : TrackedCommit) (pending : PendingSet) :
    Prompt Prod.fst fun h => h.firstFastForward tip pending := by
  refine .bind (.forward? tip.id pending.ids) (g := fun found _ =>
    found.elim (.ok tip, pending) fun c => (.ok ((pending.take c).1.getD tip), (pending.take c).2))
    ?_ (fun e => ⟨(.error e, pending), rfl, fun h he => by
      simp only [History.firstFastForward, he]⟩) ?_
  · intro found
    cases found <;> exact .const fun _ he => by cases he
  · intro h found hfound
    cases found with
    | none => simp only [History.firstFastForward, hfound, Option.elim_none]
    | some c =>
      simp only [History.firstFastForward, hfound, Option.elim_some]
      split <;> rename_i htake <;> simp [htake]

end Landing.History

/-- Apart from what cannot be read any more, a graph with a corrupt commit reads as before. -/
theorem Landing.Graph.mended_corruptCommit (g : Graph) (c : CommitId) :
    History.Mended (· = .corruptObject c) (g.corruptCommit c).history g.history := by
  refine .ofReader (.inl rfl) fun x => ?_
  by_cases hx : x = c
  · subst hx
    exact .inl ⟨_, rfl, by simp [Graph.read, Graph.corruptCommit]⟩
  · exact .inr (by simp [Graph.read, Graph.corruptCommit, hx])
