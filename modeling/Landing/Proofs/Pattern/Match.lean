import Landing.Pattern.Match
import Mathlib.Data.List.TakeWhile

/-! How a search goes through a pattern that consists of a text, perhaps one character, and a group
of one or more characters. Main statements: `capture?_of_takes` and `capture?_eq_none`. -/
namespace Landing.Pattern
open Landing.Unicode

namespace Cursor

/-- The place behind the next `n` characters. -/
def skip : Nat → Cursor → Cursor
  | 0, c => c
  | n + 1, c =>
    match c.rest with
    | [] => c
    | x :: rest => skip n ⟨some x, rest, c.position + 1⟩

variable {c : Cursor} {n : Nat}

@[simp] theorem skip_zero : c.skip 0 = c := rfl

@[simp] theorem rest_skip : (c.skip n).rest = c.rest.drop n := by
  fun_induction skip n c <;> simp_all

theorem position_skip (h : n ≤ c.rest.length) : (c.skip n).position = c.position + n := by
  fun_induction skip n c with
  | case1 => rfl
  | case2 n c hrest => simp [hrest] at h
  | case3 n c x rest hrest ih =>
    rw [hrest, List.length_cons] at h
    rw [ih (Nat.le_of_succ_le_succ h)]
    exact Nat.add_right_comm c.position 1 n

theorem skip_succ (c : Cursor) (n : Nat) : c.skip (n + 1) = (c.skip 1).skip n := by
  cases hrest : c.rest with
  | nil =>
    have hone : c.skip 1 = c := by simp [skip, hrest]
    cases n with
    | zero => rfl
    | succ n => rw [hone, skip, skip, hrest]
  | cons x rest => simp [skip, hrest]

variable {x : Char} {rest : List Char}

theorem rest_skip_one (hrest : c.rest = x :: rest) : (c.skip 1).rest = rest := by simp [hrest]

theorem position_skip_one (hrest : c.rest = x :: rest) : (c.skip 1).position = c.position + 1 :=
  position_skip (by simp [hrest])

theorem skip_takeWhile {p : Char → Bool} (hrest : c.rest = x :: rest) (hx : p x = true) :
    (c.skip 1).skip ((c.skip 1).rest.takeWhile p).length =
      c.skip (c.rest.takeWhile p).length := by
  rw [rest_skip_one hrest, hrest, List.takeWhile_cons_of_pos hx, List.length_cons,
    skip_succ c (rest.takeWhile p).length]

end Cursor

/-- No label was entered at `position` or behind it. -/
def Unentered (seen : Seen) (position : Nat) : Prop :=
  ∀ label p, position ≤ p → (label, p) ∉ seen

namespace Unentered
variable {seen : Seen} {position : Nat}

theorem empty (position : Nat) : Unentered ∅ position := fun _ _ _ => Std.HashSet.not_mem_empty

theorem mono {position' : Nat} (h : Unentered seen position) (hle : position ≤ position') :
    Unentered seen position' := fun label p hp => h label p (Nat.le_trans hle hp)

theorem insert (h : Unentered seen position) (label : Nat) :
    Unentered (seen.insert (label, position)) (position + 1) := by
  intro label' p hp hmem
  rcases Std.HashSet.mem_insert.1 hmem with heq | hmem
  · simp only [beq_iff_eq, Prod.mk.injEq] at heq
    omega
  · exact h label' p (by omega) hmem

theorem contains_eq_false (h : Unentered seen position) (label : Nat) :
    seen.contains (label, position) = false := by
  rw [← Bool.not_eq_true]
  exact h label position (Nat.le_refl _)

end Unentered

variable {s gap : CharSet} {c : Cursor} {captures : Captures} {seen : Seen}
  {k : Continuation} {label : Nat}

@[simp] theorem Attempt.found_orElse (b : Seen → Attempt) :
    (Attempt.found captures).orElse b = .found captures := rfl

@[simp] theorem Attempt.failed_orElse (b : Seen → Attempt) :
    (Attempt.failed seen).orElse b = b seen := rfl

theorem contains_single {a x : Char} : (CharSet.single a).contains x = true ↔ a = x := by
  simp only [CharSet.contains, CharSet.hasNumber, CharSet.single, List.any_cons, List.any_nil,
    Bool.or_false, Bool.and_eq_true, decide_eq_true_eq]
  rw [← Char.toNat_inj]
  omega

theorem exec_one : (Expr.one s).exec label c captures seen k =
    if c.rest.head?.any s.contains then k (c.skip 1) captures seen else .failed seen := by
  cases hrest : c.rest with
  | nil => simp [Expr.exec, hrest]
  | cons x rest => simp [Expr.exec, Cursor.skip, hrest]

/-- A text, then `e`. -/
def literal (cs : List Char) (e : Expr) : Expr :=
  cs.foldr (fun a e => .concat (.one (.single a)) e) e

/-- A text stands at the front, or the match fails. -/
theorem exec_literal (cs : List Char) : (literal cs e).exec label c captures seen k =
    if cs <+: c.rest then e.exec label (c.skip cs.length) captures seen k else .failed seen := by
  induction cs generalizing c with
  | nil => simp [literal]
  | cons a cs ih =>
    have hcons : (literal (a :: cs) e).exec label c captures seen k =
        (Expr.one (.single a)).exec label c captures seen fun c captures seen =>
          (literal cs e).exec label c captures seen k := rfl
    rw [hcons, exec_one, ih, List.length_cons, Cursor.skip_succ c cs.length]
    cases hrest : c.rest with
    | nil => simp
    | cons x rest =>
      simp only [List.head?_cons, Option.any_some, contains_single, List.cons_prefix_cons,
        Cursor.rest_skip, hrest, List.drop_succ_cons, List.drop_zero]
      by_cases hx : a = x <;> simp [hx]

/-- One character or none; what follows is tried behind it first. -/
theorem exec_optional (hseen : Unentered seen c.position) :
    (Expr.repetition 0 (some 1) true (.one s)).exec label c captures seen k =
      ((Expr.one s).exec (label + 1) c captures (seen.insert (label, c.position)) k).orElse
        (k c captures) := by
  have hexec : (Expr.repetition 0 (some 1) true (.one s)).exec label c captures seen k =
      optional label true ((Expr.one s).exec (label + 1)) c captures seen k := by
    simp [Expr.exec, copies, atMost, Expr.labels]
  rw [hexec, optional, hseen.contains_eq_false]
  rfl

/-- A loop over the characters of a set takes all that stand at the front, where what follows never
fails. -/
theorem iterate_one {f : Cursor → Captures → Captures} {fuel : Nat} (hfuel : c.rest.length < fuel)
    (hseen : Unentered seen c.position) {label' : Nat} :
    iterate label true ((Expr.one s).exec label') (fun c captures _ => .found (f c captures)) fuel c
      captures seen = .found (f (c.skip (c.rest.takeWhile s.contains).length) captures) := by
  induction fuel generalizing c seen with
  | zero => omega
  | succ fuel ih =>
    rw [iterate, hseen.contains_eq_false]
    simp only [Bool.false_eq_true, if_false, if_true, exec_one]
    cases hrest : c.rest with
    | nil => simp
    | cons x rest =>
      by_cases hx : s.contains x = true
      · have hlength : (c.skip 1).rest.length < fuel := by
          rw [hrest, List.length_cons] at hfuel
          rw [Cursor.rest_skip_one hrest]
          omega
        have hnext := ih hlength (Cursor.position_skip_one hrest ▸ hseen.insert label)
        rw [hnext, Cursor.skip_takeWhile hrest hx, hrest]
        simp [hx]
      · simp [hx]

/-- One or more characters of a set. -/
theorem exec_run {f : Cursor → Captures → Captures} (hseen : Unentered seen (c.position + 1)) :
    (Expr.repetition 1 none true (.one s)).exec label c captures seen
        (fun c captures _ => .found (f c captures)) =
      if c.rest.takeWhile s.contains = [] then .failed seen
      else .found (f (c.skip (c.rest.takeWhile s.contains).length) captures) := by
  have hexec : (Expr.repetition 1 none true (.one s)).exec label c captures seen
        (fun c captures _ => .found (f c captures)) =
      oneOrMore label true ((Expr.one s).exec (label + 1)) c captures seen
        (fun c captures _ => .found (f c captures)) := by
    simp [Expr.exec, copies, Expr.labels]
  rw [hexec, oneOrMore, exec_one]
  cases hrest : c.rest with
  | nil => simp
  | cons x rest =>
    by_cases hx : s.contains x = true
    · have hlength : (c.skip 1).rest.length < (x :: rest).length + 2 := by
        rw [Cursor.rest_skip_one hrest, List.length_cons]
        omega
      rw [iterate_one hlength (Cursor.position_skip_one hrest ▸ hseen),
        Cursor.skip_takeWhile hrest hx, hrest]
      simp [hx]
    · simp [hx]

/-- A text, perhaps a character of `gap`, and a group of characters of `run`. -/
def numbered (lead : List Char) (gap run : CharSet) : Expr :=
  literal lead (.concat (.repetition 0 (some 1) true (.one gap))
    (.group 1 (.repetition 1 none true (.one run))))

/-- What such a pattern takes at the front of `cs`: the text, at most one character, and all
characters of `run` behind it, of which there are some. -/
structure Takes (lead : List Char) (gap run : Char → Bool) (cs between taken : List Char) :
    Prop where
  short : between.length ≤ 1
  between_mem : ∀ x ∈ between, gap x = true
  taken_mem : ∀ x ∈ taken, run x = true
  ne_nil : taken ≠ []
  split : ∃ after, cs = lead ++ (between ++ (taken ++ after)) ∧ ∀ x ∈ after.head?, run x = false

/-- Such a pattern takes something at the front of `cs`. -/
def Starts (lead : List Char) (gap run : Char → Bool) (cs : List Char) : Prop :=
  ∃ between taken, Takes lead gap run cs between taken

section Numbered
variable {lead cs between taken : List Char} {run : CharSet}

theorem takeWhile_append_of_maximal {p : Char → Bool} {after : List Char}
    (htaken : ∀ x ∈ taken, p x = true) (hafter : ∀ x ∈ after.head?, p x = false) :
    (taken ++ after).takeWhile p = taken := by
  rw [List.takeWhile_append_of_pos htaken]
  cases after with
  | nil => simp
  | cons x after => simp [hafter x rfl]

/-- What stands in front of a place is taken as far as it goes. -/
theorem takes_takeWhile {p q : Char → Bool} (hshort : between.length ≤ 1)
    (hgap : ∀ x ∈ between, p x = true) (hrun : cs.takeWhile q ≠ []) :
    Takes lead p q (lead ++ (between ++ cs)) between (cs.takeWhile q) where
  short := hshort
  between_mem := hgap
  taken_mem _ hx := List.mem_takeWhile_imp hx
  ne_nil := hrun
  split := by
    refine ⟨cs.dropWhile q, by rw [List.takeWhile_append_dropWhile], fun x hx => ?_⟩
    have hnot := List.head?_dropWhile_not q cs
    rw [Option.mem_def.1 hx] at hnot
    exact hnot

theorem starts_of_takeWhile {p q : Char → Bool} {rest : List Char} (between : List Char)
    (hsplit : cs = lead ++ (between ++ rest)) (hshort : between.length ≤ 1)
    (hgap : ∀ x ∈ between, p x = true) (hrun : rest.takeWhile q ≠ []) : Starts lead p q cs :=
  ⟨between, _, hsplit ▸ takes_takeWhile hshort hgap hrun⟩

theorem exec_group_run {index : Nat} (hseen : Unentered seen (c.position + 1)) :
    (Expr.group index (.repetition 1 none true (.one run))).exec label c captures seen
        (fun _ captures _ => .found captures) =
      if c.rest.takeWhile run.contains = [] then .failed seen
      else .found ((index, c.position, c.position + (c.rest.takeWhile run.contains).length) ::
        captures) := by
  have hlength : (c.rest.takeWhile run.contains).length ≤ c.rest.length :=
    (List.takeWhile_sublist _).length_le
  rw [← Cursor.position_skip hlength]
  exact exec_run (f := fun c' captures => (index, c.position, c'.position) :: captures) hseen

/-- The group is tried behind one character, then behind none. -/
theorem exec_gap_run (hseen : Unentered seen c.position) :
    (Expr.concat (.repetition 0 (some 1) true (.one gap))
        (.group 1 (.repetition 1 none true (.one run)))).exec 0 c [] seen
        (fun _ captures _ => .found captures) =
      if c.rest.head?.any gap.contains ∧ (c.rest.drop 1).takeWhile run.contains ≠ [] then
        .found [(1, c.position + 1,
          c.position + 1 + ((c.rest.drop 1).takeWhile run.contains).length)]
      else if c.rest.takeWhile run.contains = [] then .failed (seen.insert (0, c.position))
      else .found [(1, c.position, c.position + (c.rest.takeWhile run.contains).length)] := by
  have hconcat (a b : Expr) :
      (Expr.concat a b).exec 0 c [] seen (fun _ captures _ => .found captures) =
        a.exec 0 c [] seen fun c captures seen =>
          b.exec (0 + a.labels) c captures seen (fun _ captures _ => .found captures) := rfl
  have hinsert := hseen.insert 0
  rw [hconcat, exec_optional hseen, exec_one]
  cases hrest : c.rest with
  | nil => simp [exec_group_run hinsert, hrest]
  | cons b cs =>
    have hposition := Cursor.position_skip_one hrest
    have hmono : Unentered (seen.insert (0, c.position)) ((c.skip 1).position + 1) :=
      hposition ▸ hinsert.mono (Nat.le_succ _)
    rw [exec_group_run hmono, Cursor.rest_skip_one hrest, hposition]
    by_cases hb : gap.contains b = true <;> by_cases hnext : cs.takeWhile run.contains = [] <;>
      simp [hb, hnext, exec_group_run hinsert, hrest]

theorem exec_numbered (hseen : Unentered seen (c.position + lead.length))
    (hrest : c.rest = lead ++ cs) :
    (numbered lead gap run).exec 0 c [] seen (fun _ captures _ => .found captures) =
      if cs.head?.any gap.contains ∧ (cs.drop 1).takeWhile run.contains ≠ [] then
        .found [(1, c.position + lead.length + 1,
          c.position + lead.length + 1 + ((cs.drop 1).takeWhile run.contains).length)]
      else if cs.takeWhile run.contains = [] then
        .failed (seen.insert (0, c.position + lead.length))
      else
        .found [(1, c.position + lead.length,
          c.position + lead.length + (cs.takeWhile run.contains).length)] := by
  have hlead : lead <+: c.rest := ⟨cs, hrest.symm⟩
  have hbehind : (c.skip lead.length).rest = cs := by rw [Cursor.rest_skip, hrest, List.drop_left]
  have hposition : (c.skip lead.length).position = c.position + lead.length :=
    Cursor.position_skip hlead.length_le
  rw [numbered, exec_literal, if_pos hlead, exec_gap_run (hposition ▸ hseen), hbehind, hposition]

theorem exec_of_takes (hdisjoint : ∀ x, gap.contains x = true → run.contains x = false)
    (hseen : Unentered seen (c.position + lead.length))
    (h : Takes lead gap.contains run.contains c.rest between taken) :
    (numbered lead gap run).exec 0 c [] seen (fun _ captures _ => .found captures) =
      .found [(1, c.position + (lead.length + between.length),
        c.position + (lead.length + between.length) + taken.length)] := by
  obtain ⟨hshort, hgap, htaken, hne, after, hsplit, hafter⟩ := h
  have hrun := takeWhile_append_of_maximal htaken hafter
  rw [exec_numbered hseen hsplit]
  match between, hshort with
  | [], _ =>
    -- the first character of the run is none of `gap`, so nothing is taken before it
    have hhead : ¬(([] ++ (taken ++ after)).head?.any gap.contains = true) := by
      cases taken with
      | nil => exact absurd rfl hne
      | cons x taken =>
        intro hgap
        have hrun := hdisjoint x (by simpa using hgap)
        exact absurd (htaken x List.mem_cons_self) (by simp [hrun])
    rw [if_neg fun hboth => hhead hboth.1, List.nil_append, hrun, if_neg hne]
    rfl
  | [b], _ =>
    have hb : gap.contains b = true := hgap b List.mem_cons_self
    rw [List.singleton_append, List.drop_succ_cons, List.drop_zero, hrun, if_pos ⟨hb, hne⟩]
    rfl

theorem exec_of_not_starts (hseen : Unentered seen (c.position + lead.length))
    (h : ¬Starts lead gap.contains run.contains c.rest) :
    ∃ seen', (numbered lead gap run).exec 0 c [] seen (fun _ captures _ => .found captures) =
      .failed seen' ∧ Unentered seen' (c.position + 1 + lead.length) := by
  by_cases hlead : lead <+: c.rest
  · obtain ⟨cs, hrest⟩ := hlead
    have hnone : cs.takeWhile run.contains = [] := by
      by_contra hrun
      exact h (starts_of_takeWhile [] hrest.symm (Nat.zero_le 1) (by simp) hrun)
    have hnext : ¬(cs.head?.any gap.contains ∧ (cs.drop 1).takeWhile run.contains ≠ []) := by
      rintro ⟨hgap, hrun⟩
      cases cs with
      | nil => cases hgap
      | cons b cs =>
        exact h (starts_of_takeWhile [b] hrest.symm (Nat.le_refl 1) (by simpa using hgap) hrun)
    refine ⟨_, by rw [exec_numbered hseen hrest.symm, if_neg hnext, if_pos hnone], ?_⟩
    exact Nat.add_right_comm .. ▸ hseen.insert 0
  · exact ⟨seen, by rw [numbered, exec_literal, if_neg hlead], hseen.mono (by omega)⟩

/-- Of the places in a text that have a property, one is the first. -/
theorem exists_first {P : List Char → Prop} {text : List Char} (h : ∃ cs, cs <:+ text ∧ P cs) :
    ∃ cs, cs <:+ text ∧ P cs ∧ ∀ cs', cs' <:+ text → P cs' → cs'.length ≤ cs.length := by
  induction text with
  | nil =>
    obtain ⟨cs, hcs, hP⟩ := h
    exact ⟨cs, hcs, hP, fun cs' hcs' _ => by simp [List.suffix_nil.1 hcs']⟩
  | cons x rest ih =>
    by_cases hhere : P (x :: rest)
    · exact ⟨x :: rest, List.suffix_rfl, hhere, fun cs' hcs' _ => hcs'.length_le⟩
    · have hrest {cs : List Char} (hcs : cs <:+ x :: rest) (hP : P cs) : cs <:+ rest := by
        rcases List.suffix_cons_iff.1 hcs with rfl | hcs
        · exact absurd hP hhere
        · exact hcs
      obtain ⟨cs, hcs, hP⟩ := h
      obtain ⟨cs, hcs, hP, hfirst⟩ := ih ⟨cs, hrest hcs hP, hP⟩
      exact ⟨cs, hcs.trans (List.suffix_cons x rest), hP, fun cs' hcs' hP' =>
        hfirst cs' (hrest hcs' hP') hP'⟩

/-- A search that finds the pattern stops at the first place where it takes something. -/
theorem search_of_takes (hdisjoint : ∀ x, gap.contains x = true → run.contains x = false)
    {earlier : List Char} (before : Option Char) {position : Nat}
    (hseen : Unentered seen (position + lead.length))
    (htakes : Takes lead gap.contains run.contains cs between taken)
    (hfirst : ∀ cs', cs' <:+ earlier ++ cs → Starts lead gap.contains run.contains cs' →
      cs'.length ≤ cs.length) :
    (numbered lead gap run).search before position seen (earlier ++ cs) =
      some [(1, position + earlier.length + (lead.length + between.length),
        position + earlier.length + (lead.length + between.length) + taken.length)] := by
  induction earlier generalizing before position seen with
  | nil =>
    have hexec := exec_of_takes (c := ⟨before, cs, position⟩) hdisjoint hseen htakes
    rw [List.nil_append]
    cases cs <;> rw [Expr.search, hexec] <;> rfl
  | cons x earlier ih =>
    have hnot : ¬Starts lead gap.contains run.contains (x :: (earlier ++ cs)) := fun hstarts => by
      have hlength := hfirst _ List.suffix_rfl hstarts
      simp only [List.length_cons, List.length_append] at hlength
      omega
    obtain ⟨seen', hexec, hseen'⟩ :=
      exec_of_not_starts (c := ⟨before, x :: (earlier ++ cs), position⟩) hseen hnot
    have hrest := ih (some x) hseen' fun cs' hcs' =>
      hfirst cs' (hcs'.trans (List.suffix_cons x _))
    rw [List.cons_append, Expr.search, hexec]
    dsimp only at hrest ⊢
    rw [hrest, List.length_cons, Nat.add_right_comm position 1, Nat.add_assoc position]

theorem search_eq_none (text : List Char) {before : Option Char} {position : Nat}
    (hseen : Unentered seen (position + lead.length))
    (hnone : ∀ cs, cs <:+ text → ¬Starts lead gap.contains run.contains cs) :
    (numbered lead gap run).search before position seen text = none := by
  induction text generalizing before position seen with
  | nil =>
    obtain ⟨seen', hexec, -⟩ :=
      exec_of_not_starts (c := ⟨before, [], position⟩) hseen (hnone _ List.suffix_rfl)
    rw [Expr.search, hexec]
  | cons x rest ih =>
    obtain ⟨seen', hexec, hseen'⟩ :=
      exec_of_not_starts (c := ⟨before, x :: rest, position⟩) hseen (hnone _ List.suffix_rfl)
    rw [Expr.search, hexec]
    exact ih hseen' fun cs hcs => hnone cs (hcs.trans (List.suffix_cons x rest))

/-- The group takes the characters of `run` behind the first place where the text stands. -/
theorem capture?_of_takes (hdisjoint : ∀ x, gap.contains x = true → run.contains x = false)
    {earlier : List Char} (htakes : Takes lead gap.contains run.contains cs between taken)
    (hfirst : ∀ cs', cs' <:+ earlier ++ cs → Starts lead gap.contains run.contains cs' →
      cs'.length ≤ cs.length) :
    (numbered lead gap run).capture? 1 (earlier ++ cs) = some taken := by
  have hsearch := search_of_takes hdisjoint none (Unentered.empty (0 + lead.length)) htakes hfirst
  obtain ⟨after, hsplit, -⟩ := htakes.split
  have hprefix : (earlier ++ (lead ++ between)).length =
      0 + earlier.length + (lead.length + between.length) := by simp
  have htext : earlier ++ cs = (earlier ++ (lead ++ between)) ++ (taken ++ after) := by
    simp [hsplit]
  rw [Expr.capture?, hsearch, ← hprefix]
  simp only [Captures.ends?, List.lookup_cons_self, Option.map_some, htext, List.drop_left,
    Nat.add_sub_cancel_left, List.take_left]

theorem capture?_eq_none {text : List Char} {index : Nat}
    (hnone : ∀ cs, cs <:+ text → ¬Starts lead gap.contains run.contains cs) :
    (numbered lead gap run).capture? index text = none := by
  rw [Expr.capture?, search_eq_none text (Unentered.empty _) hnone]

end Numbered

end Landing.Pattern
