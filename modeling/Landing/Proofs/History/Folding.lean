import Landing.History.Reduction
import Mathlib.Data.List.Perm.Subperm
import Mathlib.Logic.Relation

/-! Chains of folded commits, whatever is answered about ancestry. A commit is only ever folded into
one that is not folded itself so far, so that no chain comes back to where it was, and each can be
followed to its end. Main statement: `link_forest`. -/
namespace Landing.Reduction
open Relation

/-- The chain of links from a commit ends at another one, which is not folded. -/
inductive Leads (folded : Table CommitId CommitId) : CommitId → CommitId → Prop where
  | done {c} : folded.get? c = none → Leads folded c c
  | link {c d e} : folded.get? c = some d → Leads folded d e → Leads folded c e

variable {folded : Table CommitId CommitId} {c d : CommitId}

namespace Leads

theorem get?_eq_none (hl : Leads folded c d) : folded.get? d = none := by
  induction hl with
  | done hc => exact hc
  | link _ _ ih => exact ih

/-- What holds of a commit and passes along the links holds of the end. -/
theorem ends_in {p : CommitId → Prop} (hl : Leads folded c d)
    (hp : ∀ x y, folded.get? x = some y → p x → p y) (hc : p c) : p d := by
  induction hl with
  | done => exact hc
  | link hget _ ih => exact ih (hp _ _ hget hc)

/-- A chain that ends does not come back. -/
theorem not_circular (hl : Leads folded c d) : ¬ TransGen (folded.get? · = some ·) c c := by
  induction hl with
  | done hc =>
    intro hround
    obtain ⟨x, hx, _⟩ := TransGen.head'_iff.1 hround
    cases hc.symm.trans hx
  | link hget _ ih =>
    intro hround
    obtain ⟨x, hx, hback⟩ := TransGen.head'_iff.1 hround
    cases hget.symm.trans hx
    exact ih (TransGen.tail' hback hget)

/-- A new link to a commit that is not folded cuts a chain short, or leads it on by one. -/
theorem insert (hl : Leads folded c d) {k v : CommitId} (hne : v ≠ k)
    (hv : folded.contains v = false) : ∃ d', Leads (folded.insert k v) c d' := by
  have hend : Leads (folded.insert k v) v v := by
    refine .done ?_
    rw [Table.get?_insert, if_neg hne.symm]
    simpa [Table.contains] using hv
  have hk : Leads (folded.insert k v) k v := .link (Table.get?_insert_self ..) hend
  induction hl with
  | @done x hx =>
    by_cases he : k = x
    · exact ⟨v, he ▸ hk⟩
    · exact ⟨x, .done (by rw [Table.get?_insert, if_neg he, hx])⟩
  | @link x y z hxy _ ih =>
    by_cases he : k = x
    · exact ⟨v, he ▸ hk⟩
    · obtain ⟨d', hd'⟩ := ih
      exact ⟨d', .link (by rw [Table.get?_insert, if_neg he, hxy]) hd'⟩

/-- The commits that were passed are keys, and they are different ones, so that there are no more of
them than links. -/
private theorem headOf_passed (hl : Leads folded c d) {n : Nat} {passed : List CommitId}
    (hnodup : passed.Nodup) (hkeys : passed ⊆ folded.keys)
    (hpassed : ∀ k ∈ passed, TransGen (folded.get? · = some ·) k c)
    (hn : folded.size ≤ n + passed.length) : headOf folded n c = d := by
  induction hl generalizing n passed with
  | done hc =>
    cases n with
    | zero => rfl
    | succ n => rw [headOf, hc]
  | @link c e d hget hrest ih =>
    have hfresh : c ∉ passed := fun hmem => (Leads.link hget hrest).not_circular (hpassed c hmem)
    have hnodup : (c :: passed).Nodup := List.nodup_cons.2 ⟨hfresh, hnodup⟩
    have hkey : c ∈ folded.keys := (Table.mem_keys_iff folded c).2 (by simp [hget])
    have hkeys : c :: passed ⊆ folded.keys := List.cons_subset.2 ⟨hkey, hkeys⟩
    have hlength : (c :: passed).length ≤ folded.size := by
      have hle := (List.Nodup.subperm hnodup hkeys).length_le
      rwa [Table.keys, List.length_map] at hle
    rw [List.length_cons] at hlength
    cases n with
    | zero => omega
    | succ n =>
      rw [headOf, hget]
      refine ih hnodup hkeys (List.forall_mem_cons.2 ⟨.single hget, fun k hk => ?_⟩) ?_
      · exact (hpassed k hk).tail hget
      · rw [List.length_cons]
        omega

/-- As many links are followed as the chain has. -/
theorem headOf_eq (hl : Leads folded c d) {n : Nat} (hn : folded.size ≤ n) :
    headOf folded n c = d :=
  hl.headOf_passed List.nodup_nil (List.nil_subset _) (by simp) (by simpa using hn)

end Leads

variable {test : CommitId → CommitId → Except Error Bool} {candidates todo others : List CommitId}

/-- A commit is folded into another candidate that is not folded. -/
theorem cover?_free (hc : cover? test folded c others = .ok (some d)) :
    d ∈ others ∧ d ≠ c ∧ folded.contains d = false := by
  induction others with
  | nil => cases hc
  | cons other rest ih =>
    rw [cover?] at hc
    split at hc
    · rename_i hfree
      split at hc
      · cases hc
      · cases hc
        exact ⟨List.mem_cons_self, hfree⟩
      · exact (ih hc).imp_left (List.mem_cons_of_mem other)
    · exact (ih hc).imp_left (List.mem_cons_of_mem other)

theorem cover?_error {e : Error} (he : cover? test folded c others = .error e) :
    ∃ d ∈ others, test c d = .error e := by
  induction others with
  | nil => cases he
  | cons other rest ih =>
    have hlater (he : cover? test folded c rest = .error e) :
        ∃ d ∈ other :: rest, test c d = .error e := by
      obtain ⟨d, hd, htest⟩ := ih he
      exact ⟨d, List.mem_cons_of_mem other hd, htest⟩
    rw [cover?] at he
    split at he
    · split at he
      · rename_i htest
        cases he
        exact ⟨other, List.mem_cons_self, htest⟩
      · cases he
      · exact hlater he
    · exact hlater he

theorem link_error {e : Error} (he : link test candidates folded todo = .error e) :
    ∃ c ∈ todo, ∃ d ∈ candidates, test c d = .error e := by
  induction todo generalizing folded with
  | nil => cases he
  | cons id rest ih =>
    rw [link] at he
    split at he
    · rename_i hcover
      cases he
      exact ⟨id, List.mem_cons_self, cover?_error hcover⟩
    · obtain ⟨c, hc, htest⟩ := ih he
      exact ⟨c, List.mem_cons_of_mem id hc, htest⟩
    · obtain ⟨c, hc, htest⟩ := ih he
      exact ⟨c, List.mem_cons_of_mem id hc, htest⟩

/-- Folds commits of a list into candidates, where every chain can be followed to its end. -/
structure Grounded (candidates todo : List CommitId) (folded : Table CommitId CommitId) : Prop where
  leads : ∀ c, ∃ d, Leads folded c d
  entries : ∀ e ∈ folded.entries, e.1 ∈ todo ∧ e.2 ∈ candidates

namespace Grounded

theorem empty : Grounded candidates todo .empty where
  leads c := ⟨c, .done rfl⟩
  entries _ he := by cases he

theorem mem_of_get? (hg : Grounded candidates todo folded) (hget : folded.get? c = some d) :
    c ∈ todo ∧ d ∈ candidates := by
  obtain ⟨e, he, rfl⟩ := Option.map_eq_some_iff.1 hget
  have hkey : e.1 = c := by simpa using List.find?_some he
  exact hkey ▸ hg.entries e (List.mem_of_find?_eq_some he)

theorem insert (hg : Grounded candidates todo folded) (hc : c ∈ todo) (hd : d ∈ candidates)
    (hne : d ≠ c) (hfree : folded.contains d = false) :
    Grounded candidates todo (folded.insert c d) where
  leads x := by
    obtain ⟨y, hy⟩ := hg.leads x
    exact hy.insert hne hfree
  entries e he := by
    rcases Table.mem_insert he with rfl | he
    · exact ⟨hc, hd⟩
    · exact hg.entries e he

/-- By induction on the commits to fold: each link keeps the chains grounded. -/
theorem link {keys : List CommitId} (hg : Grounded candidates keys folded) (hsub : todo ⊆ keys)
    {folded' : Table CommitId CommitId} (hl : link test candidates folded todo = .ok folded') :
    Grounded candidates keys folded' := by
  induction todo generalizing folded with
  | nil =>
    cases hl
    exact hg
  | cons id rest ih =>
    rw [List.cons_subset] at hsub
    rw [Reduction.link] at hl
    split at hl
    · cases hl
    · exact ih hg hsub.2 hl
    · rename_i other hcover
      obtain ⟨hmem, hne, hfree⟩ := cover?_free hcover
      exact ih (hg.insert hsub.1 hmem hne hfree) hsub.2 hl

end Grounded

theorem get?_shorten (folded : Table CommitId CommitId) (k : CommitId) :
    (shorten folded).get? k = (folded.get? k).map (headOf folded folded.size) := by
  simp only [shorten, Table.get?, List.find?_map, Function.comp_def, Option.map_map]

theorem keys_shorten (folded : Table CommitId CommitId) : (shorten folded).keys = folded.keys := by
  simp only [shorten, Table.keys, List.map_map, Function.comp_def]

/-- The links of a fold, and what becomes of them when each is led on to the end of its chain. -/
structure Forest (candidates : List CommitId) (folded : Table CommitId CommitId) : Prop where
  acyclic : ∀ c, ¬ TransGen (folded.get? · = some ·) c c
  /-- Every chain is followed to its end, however many links more one is ready to follow. -/
  ends : ∀ c ∈ candidates, ∃ d ∈ candidates, Leads folded c d ∧
    ∀ n, folded.size ≤ n → headOf folded n c = d
  unfolded : candidates ≠ [] → ∃ c ∈ candidates, folded.contains c = false
  shortened : ∀ c d, (shorten folded).get? c = some d ↔
    folded.contains c = true ∧ Leads folded c d
  keys : (shorten folded).keys = folded.keys ∧ folded.keys ⊆ candidates
  values : ∀ d ∈ (shorten folded).values, d ∈ candidates ∧ d ∉ (shorten folded).keys

namespace Grounded

theorem exists_end (hg : Grounded candidates candidates folded) (hc : c ∈ candidates) :
    ∃ d ∈ candidates, Leads folded c d := by
  obtain ⟨d, hd⟩ := hg.leads c
  exact ⟨d, hd.ends_in (fun _ _ hget _ => (hg.mem_of_get? hget).2) hc, hd⟩

theorem get?_shorten_iff (hg : Grounded candidates todo folded) (c d : CommitId) :
    (shorten folded).get? c = some d ↔ folded.contains c = true ∧ Leads folded c d := by
  rw [get?_shorten, Table.contains]
  cases hget : folded.get? c with
  | none => simp
  | some x =>
    obtain ⟨e, he⟩ := hg.leads x
    rw [Option.map_some, he.headOf_eq (Nat.le_refl _)]
    refine ⟨fun hd => ⟨rfl, ?_⟩, fun ⟨_, hd⟩ => ?_⟩
    · cases hd
      exact .link hget he
    · cases hd with
      | done hnone => cases hget.symm.trans hnone
      | link hget' hd =>
        cases hget.symm.trans hget'
        rw [← he.headOf_eq (Nat.le_refl _), hd.headOf_eq (Nat.le_refl _)]

theorem forest (hg : Grounded candidates candidates folded) : Forest candidates folded where
  acyclic c := by
    obtain ⟨d, hd⟩ := hg.leads c
    exact hd.not_circular
  ends c hc := by
    obtain ⟨d, hd, hleads⟩ := hg.exists_end hc
    exact ⟨d, hd, hleads, fun n => hleads.headOf_eq⟩
  unfolded hne := by
    obtain ⟨c, hc⟩ := List.exists_mem_of_ne_nil candidates hne
    obtain ⟨d, hd, hleads⟩ := hg.exists_end hc
    exact ⟨d, hd, by rw [Table.contains, hleads.get?_eq_none, Option.isSome_none]⟩
  shortened := hg.get?_shorten_iff
  keys := by
    refine ⟨keys_shorten folded, fun c hc => ?_⟩
    obtain ⟨e, he, rfl⟩ := List.mem_map.1 hc
    exact (hg.entries e he).1
  values d hd := by
    simp only [shorten, Table.values, List.map_map, List.mem_map, Function.comp_apply] at hd
    obtain ⟨e, he, rfl⟩ := hd
    obtain ⟨d, hd, hleads⟩ := hg.exists_end (hg.entries e he).2
    rw [hleads.headOf_eq (Nat.le_refl _), keys_shorten, Table.mem_keys_iff, hleads.get?_eq_none]
    exact ⟨hd, by simp⟩

end Grounded

/-- Whatever is answered about ancestry, folding gives no cycle. Every chain of links ends at a
candidate that is not folded, there is one if there are candidates at all, and once every link is
led on to the end of its chain no commit is both folded and folded into. It only fails with a
question that does. -/
theorem link_forest (test : CommitId → CommitId → Except Error Bool) (candidates : List CommitId) :
    match link test candidates .empty candidates with
    | .ok folded => Forest candidates folded
    | .error e => ∃ c ∈ candidates, ∃ d ∈ candidates, test c d = .error e := by
  split
  · rename_i folded hl
    exact (Grounded.empty.link (List.Subset.refl candidates) hl).forest
  · rename_i e hl
    exact link_error hl

end Landing.Reduction
