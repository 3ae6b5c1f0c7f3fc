import Landing.Toml.Document
import Mathlib.Data.List.Nodup

/-! A document defines no key of a table twice, however its tables are written. Main statement:
`distinct_of_parse`. -/
namespace Landing

namespace Datum

/-- A value that holds no other. -/
def isLeaf : Datum → Bool
  | list _ | fields _ => false
  | _ => true

/-- Each table in a value has each of its keys once. -/
inductive Distinct : Datum → Prop where
  | leaf {d : Datum} (hd : d.isLeaf = true) : Distinct d
  | list {items : List Datum} (hitems : ∀ d ∈ items, Distinct d) : Distinct (.list items)
  | fields {entries : List (String × Datum)} (keys : (entries.map (·.1)).Nodup)
    (values : ∀ e ∈ entries, Distinct e.2) : Distinct (.fields entries)

/-- The fields of a record are values in it. -/
theorem Distinct.record? {l : Dialect} {shape : List Field} {d : Datum}
    {entries : List (String × Datum)} (hd : d.Distinct) (h : d.record? l shape = some entries) :
    ∀ e ∈ entries, e.2.Distinct := by
  cases hd with
  | leaf hd =>
    cases d with
    | time _ =>
      cases h
      simp
    | list _ | fields _ => cases hd
    | _ => cases h
  | list hitems =>
    obtain ⟨-, hzip⟩ := Option.ite_none_right_eq_some.1 h
    cases hzip
    exact fun e he => hitems e.2 (List.of_mem_zip he).2
  | fields _ values =>
    cases h
    exact values

end Datum

namespace Toml

namespace Tree

/-- Each table in a tree has each of its keys once. -/
inductive Distinct : Tree → Prop where
  | value {d : Datum} (hd : d.Distinct) : Distinct (.value d)
  | table {origin : Origin} {entries : Entries} (keys : (entries.map (·.1)).Nodup)
    (trees : ∀ e ∈ entries, Distinct e.2) : Distinct (.table origin entries)
  | tables {items : List Entries} (keys : ∀ entries ∈ items, (entries.map (·.1)).Nodup)
    (trees : ∀ entries ∈ items, ∀ e ∈ entries, Distinct e.2) : Distinct (.tables items)

/-- Each table in a table has each of its keys once, and so has the table. -/
structure DistinctEntries (entries : Entries) : Prop where
  keys : (entries.map (·.1)).Nodup
  trees : ∀ e ∈ entries, Distinct e.2

variable {key : String} {path : List String} {entries entries' : Entries}
  {f : Option Tree → Option Tree} {g : Entries → Option Entries}

theorem distinctEntries_nil : DistinctEntries [] := ⟨List.nodup_nil, by simp⟩

theorem put_new {t : Tree} (hkey : key ∉ entries.map (·.1)) (hf : f none = some t) :
    put key f entries = some (entries ++ [(key, t)]) := by
  induction entries with
  | nil => simp [put, hf]
  | cons e entries ih =>
    rw [List.map_cons, List.mem_cons, not_or] at hkey
    rw [put, if_neg (Ne.symm hkey.1), ih hkey.2]
    rfl

theorem put_last {t t' : Tree} (hkey : key ∉ entries.map (·.1)) (hf : f (some t) = some t') :
    put key f (entries ++ [(key, t)]) = some (entries ++ [(key, t')]) := by
  induction entries with
  | nil => simp [put, hf]
  | cons e entries ih =>
    rw [List.map_cons, List.mem_cons, not_or] at hkey
    rw [List.cons_append, put, if_neg (Ne.symm hkey.1), ih hkey.2]
    rfl

/-- What was put into a table stands at its end or in the place of what was there before. -/
theorem put_cases (hput : put key f entries = some entries') :
    (∃ t, key ∉ entries.map (·.1) ∧ f none = some t ∧ entries' = entries ++ [(key, t)]) ∨
      ∃ before t t' after, entries = before ++ (key, t) :: after ∧ f (some t) = some t' ∧
        entries' = before ++ (key, t') :: after := by
  induction entries generalizing entries' with
  | nil =>
    obtain ⟨t, hf, rfl⟩ := Option.map_eq_some_iff.1 hput
    exact .inl ⟨t, by simp, hf, rfl⟩
  | cons e entries ih =>
    obtain ⟨k, t⟩ := e
    rw [put] at hput
    split at hput
    · rename_i hk
      subst hk
      obtain ⟨t', hf, rfl⟩ := Option.map_eq_some_iff.1 hput
      exact .inr ⟨[], t, t', entries, rfl, hf, rfl⟩
    · rename_i hk
      obtain ⟨rest, hrest, rfl⟩ := Option.map_eq_some_iff.1 hput
      rcases ih hrest with ⟨u, hnew, hf, rfl⟩ | ⟨before, u, u', after, rfl, hf, rfl⟩
      · exact .inl ⟨u, by simpa [Ne.symm hk] using hnew, hf, rfl⟩
      · exact .inr ⟨(k, t) :: before, u, u', after, rfl, hf, rfl⟩

/-- To put something into a table keeps its keys apart. -/
theorem DistinctEntries.put (h : DistinctEntries entries)
    (hnew : ∀ t, f none = some t → t.Distinct)
    (hold : ∀ t t', t.Distinct → f (some t) = some t' → t'.Distinct)
    (hput : put key f entries = some entries') : DistinctEntries entries' := by
  rcases put_cases hput with ⟨t, hkey, hf, rfl⟩ | ⟨before, t, t', after, rfl, hf, rfl⟩
  · constructor
    · rw [List.map_append, List.nodup_append]
      refine ⟨h.keys, by simp, fun a ha b hb => ?_⟩
      obtain rfl := List.mem_singleton.1 hb
      exact fun he => hkey (he ▸ ha)
    · rw [List.forall_mem_append]
      exact ⟨h.trees, by simpa using hnew t hf⟩
  · constructor
    · simpa using h.keys
    · have htrees := h.trees
      rw [List.forall_mem_append, List.forall_mem_cons] at htrees ⊢
      exact ⟨htrees.1, hold t t' htrees.2.1 hf, htrees.2.2⟩

theorem onLast_mem {items items' : List Entries} (hlast : onLast g items = some items') :
    ∀ e' ∈ items', e' ∈ items ∨ ∃ e ∈ items, g e = some e' := by
  induction items generalizing items' with
  | nil => cases hlast
  | cons e items ih =>
    cases items with
    | nil =>
      obtain ⟨e', he, rfl⟩ := Option.map_eq_some_iff.1 hlast
      simpa using .inr he
    | cons e₂ items =>
      obtain ⟨rest, hrest, rfl⟩ := Option.map_eq_some_iff.1 hlast
      intro x hx
      rcases List.mem_cons.1 hx with rfl | hx
      · exact .inl List.mem_cons_self
      · rcases ih hrest x hx with hx | ⟨y, hy, hg⟩
        · exact .inl (List.mem_cons_of_mem _ hx)
        · exact .inr ⟨y, List.mem_cons_of_mem _ hy, hg⟩

theorem Distinct.onLast {items items' : List Entries} (h : (Tree.tables items).Distinct)
    (hg : ∀ e e', DistinctEntries e → g e = some e' → DistinctEntries e')
    (hlast : Tree.onLast g items = some items') : (Tree.tables items').Distinct := by
  cases h with
  | tables keys trees =>
    have hitems : ∀ e' ∈ items', DistinctEntries e' := by
      intro e' he'
      rcases onLast_mem hlast e' he' with he | ⟨e, he, hge⟩
      · exact ⟨keys e' he, trees e' he⟩
      · exact hg e e' ⟨keys e he, trees e he⟩ hge
    exact .tables (fun e he => (hitems e he).keys) fun e he => (hitems e he).trees

theorem DistinctEntries.within (h : DistinctEntries entries)
    (hg : ∀ e e', DistinctEntries e → g e = some e' → DistinctEntries e')
    (hwithin : within g path entries = some entries') : DistinctEntries entries' := by
  induction path generalizing entries entries' with
  | nil => exact hg entries entries' h hwithin
  | cons key path ih =>
    apply h.put _ _ hwithin
    · intro t ht
      obtain ⟨inner, hinner, rfl⟩ := Option.map_eq_some_iff.1 ht
      have hd := ih distinctEntries_nil hinner
      exact .table hd.keys hd.trees
    · intro t t' ht hf
      cases ht with
      | value _ => cases hf
      | table keys trees =>
        obtain ⟨inner, hinner, rfl⟩ := Option.map_eq_some_iff.1 hf
        have hd := ih ⟨keys, trees⟩ hinner
        exact .table hd.keys hd.trees
      | tables keys trees =>
        obtain ⟨items, hitems, rfl⟩ := Option.map_eq_some_iff.1 hf
        exact Distinct.onLast (.tables keys trees) (fun e e' he hge => ih he hge) hitems

theorem DistinctEntries.head (h : DistinctEntries entries)
    (hhead : head key entries = some entries') : DistinctEntries entries' := by
  apply h.put _ _ hhead
  · intro t ht
    obtain rfl := Option.some.inj ht
    exact .table List.nodup_nil (by simp)
  · intro t t' ht hf
    split at hf
    · cases hf
      exact .table List.nodup_nil (by simp)
    · rename_i inner hinner
      obtain rfl := Option.some.inj hinner
      cases hf
      cases ht with
      | table keys trees => exact .table keys trees
    · cases hf

theorem DistinctEntries.append (h : DistinctEntries entries)
    (happend : append key entries = some entries') : DistinctEntries entries' := by
  apply h.put _ _ happend
  · intro t ht
    obtain rfl := Option.some.inj ht
    exact .tables (by simp) (by simp)
  · intro t t' ht hf
    split at hf
    · cases hf
      exact .tables (by simp) (by simp)
    · rename_i items hitems
      obtain rfl := Option.some.inj hitems
      cases hf
      cases ht with
      | tables keys trees =>
        exact .tables (List.forall_mem_append.2 ⟨keys, by simp⟩)
          (List.forall_mem_append.2 ⟨trees, by simp⟩)
    · cases hf

theorem DistinctEntries.assign {d : Datum} (hd : d.Distinct) (h : DistinctEntries entries)
    (hassign : assign d path entries = some entries') : DistinctEntries entries' := by
  induction path generalizing entries entries' with
  | nil => cases hassign
  | cons key path ih =>
    rw [Tree.assign.eq_def] at hassign
    dsimp only at hassign
    split at hassign
    · apply h.put _ _ hassign
      · intro t ht
        obtain rfl := Option.some.inj ht
        exact .value hd
      · exact fun t t' ht hf => nomatch hf
    · rename_i next rest
      apply h.put _ _ hassign
      · intro t ht
        obtain ⟨inner, hinner, rfl⟩ := Option.map_eq_some_iff.1 ht
        have hentries := ih distinctEntries_nil hinner
        exact .table hentries.keys hentries.trees
      · intro t t' ht hf
        split at hf
        · rename_i hnone
          cases hnone
        · cases hf
        · rename_i origin inner _ htable
          obtain rfl := Option.some.inj htable
          cases ht with
          | table keys trees =>
            split at hf
            · cases hf
            · obtain ⟨inner', hinner, rfl⟩ := Option.map_eq_some_iff.1 hf
              have hentries := ih ⟨keys, trees⟩ hinner
              exact .table hentries.keys hentries.trees
        · rename_i items htables
          obtain rfl := Option.some.inj htables
          split at hf
          · cases hf
          · obtain ⟨items', hitems, rfl⟩ := Option.map_eq_some_iff.1 hf
            exact ht.onLast (fun e e' he hge => ih he hge) hitems
        · cases hf

theorem entriesToData_eq_map (entries : Entries) :
    entriesToData entries = entries.map fun e => (e.1, e.2.toDatum) := by
  induction entries with
  | nil => rfl
  | cons e entries ih => rw [entriesToData, ih, List.map_cons]

theorem itemsToData_eq_map (items : List Entries) :
    itemsToData items = items.map fun entries => .fields (entriesToData entries) := by
  induction items with
  | nil => rfl
  | cons entries items ih => rw [itemsToData, ih, List.map_cons]

theorem fields_distinct (hkeys : (entries.map (·.1)).Nodup)
    (hvalues : ∀ e ∈ entries, e.2.toDatum.Distinct) :
    (Datum.fields (entriesToData entries)).Distinct := by
  rw [entriesToData_eq_map]
  refine .fields (by simpa [Function.comp_def] using hkeys) ?_
  rw [List.forall_mem_map]
  exact hvalues

theorem Distinct.toDatum {t : Tree} (h : t.Distinct) : t.toDatum.Distinct := by
  induction h with
  | value hd => exact hd
  | table keys trees ih => exact fields_distinct keys ih
  | tables keys trees ih =>
    rw [Tree.toDatum, itemsToData_eq_map]
    refine .list ?_
    rw [List.forall_mem_map]
    exact fun entries hentries => fields_distinct (keys entries hentries) (ih entries hentries)

theorem DistinctEntries.toData (h : DistinctEntries entries) :
    (Datum.fields (entriesToData entries)).Distinct :=
  fields_distinct h.keys fun e he => (h.trees e he).toDatum

end Tree

namespace Scalar
variable {cs rest : List Char} {d : Datum}

theorem isLeaf_of_sized {n : Int} (h : sized n cs = some (d, rest)) : d.isLeaf = true := by
  rw [sized] at h
  split at h
  · cases h
    rfl
  · cases h

theorem isLeaf_of_integer? (h : integer? cs = some (d, rest)) : d.isLeaf = true := by
  rw [integer?.eq_def] at h
  split at h
  all_goals
    obtain ⟨_, _, hsized⟩ := Option.bind_eq_some_iff.1 h
    exact isLeaf_of_sized hsized

theorem isLeaf_of_decimal? (h : decimal? cs = some (d, rest)) : d.isLeaf = true := by
  rw [decimal?] at h
  dsimp only at h
  split at h
  · cases h
    rfl
  · obtain ⟨_, _, hbody⟩ := Option.bind_eq_some_iff.1 h
    obtain ⟨-, hsized⟩ := Option.ite_none_left_eq_some.1 hbody
    obtain ⟨-, hd⟩ := Option.ite_none_left_eq_some.1 hsized
    cases hd
    rfl

theorem isLeaf_of_time? (h : time? cs = some (d, rest)) : d.isLeaf = true := by
  rw [time?] at h
  split at h
  · obtain ⟨_, _, hdone⟩ := Option.map_eq_some_iff.1 h
    cases hdone
    rfl
  split at h
  · split at h
    · obtain ⟨_, _, hdone⟩ := Option.map_eq_some_iff.1 h
      cases hdone
      rfl
    · cases h
      rfl
  · cases h
    rfl

theorem isLeaf_of_boolean? (h : boolean? cs = some (d, rest)) : d.isLeaf = true := by
  rw [boolean?.eq_def] at h
  split at h <;> cases h <;> rfl

theorem isLeaf_of_any? (h : any? cs = some (d, rest)) : d.isLeaf = true := by
  rw [any?] at h
  rcases Option.or_eq_some_iff.1 h with h | ⟨-, h⟩
  · exact isLeaf_of_boolean? h
  rcases Option.or_eq_some_iff.1 h with h | ⟨-, h⟩
  · exact isLeaf_of_time? h
  rcases Option.or_eq_some_iff.1 h with h | ⟨-, h⟩
  · exact isLeaf_of_decimal? h
  · exact isLeaf_of_integer? h

end Scalar

namespace Value
open Toml.Tree (DistinctEntries distinctEntries_nil)

/-- No value defines a key of a table twice. Lists and tables on one line are read with less
fuel. -/
theorem distinct_of_fuel (fuel : Nat) :
    (∀ {depth cs d rest}, any? fuel depth cs = some (d, rest) → d.Distinct) ∧
    (∀ {depth cs ds rest}, items? fuel depth cs = some (ds, rest) → ∀ d ∈ ds, d.Distinct) ∧
    ∀ {depth cs entries entries' rest}, DistinctEntries entries →
      pairs? fuel depth entries cs = some (entries', rest) → DistinctEntries entries' := by
  induction fuel with
  | zero =>
    refine ⟨fun h => ?_, fun h => ?_, fun _ h => ?_⟩
    · rw [any?] at h
      cases h
    · rw [items?] at h
      cases h
    · rw [pairs?] at h
      cases h
  | succ fuel ih =>
    obtain ⟨hany, hitems, hpairs⟩ := ih
    refine ⟨fun h => ?_, fun h => ?_, fun hentries h => ?_⟩
    · rw [any?.eq_def] at h
      dsimp only at h
      split at h
      · obtain ⟨-, h⟩ := Option.ite_none_left_eq_some.1 h
        split at h
        · cases h
          exact .list (by simp)
        · obtain ⟨⟨ds, _⟩, hds, hd⟩ := Option.map_eq_some_iff.1 h
          cases hd
          exact .list (hitems hds)
      · obtain ⟨-, h⟩ := Option.ite_none_left_eq_some.1 h
        split at h
        · cases h
          exact .fields List.nodup_nil (by simp)
        · obtain ⟨⟨entries, _⟩, hread, hd⟩ := Option.map_eq_some_iff.1 h
          cases hd
          exact (hpairs distinctEntries_nil hread).toData
      · split at h
        · cases h
          exact .leaf rfl
        · exact .leaf (Scalar.isLeaf_of_any? h)
    · rw [items?.eq_def] at h
      dsimp only at h
      split at h
      · cases h
      · rename_i d rest hd
        have hfirst : d.Distinct := hany hd
        split at h
        · cases h
          simpa using hfirst
        · split at h
          · cases h
            simpa using hfirst
          · obtain ⟨⟨ds, _⟩, hds, he⟩ := Option.map_eq_some_iff.1 h
            cases he
            exact List.forall_mem_cons.2 ⟨hfirst, hitems hds⟩
        · cases h
    · rw [pairs?.eq_def] at h
      dsimp only at h
      split at h
      · split at h
        · cases h
        · rename_i d rest hd
          split at h
          · cases h
          · rename_i entries hassign
            have hnext : DistinctEntries entries := hentries.assign (hany hd) hassign
            split at h
            · cases h
              exact hnext
            · exact hpairs hnext h
            · cases h
      · cases h

theorem distinct_of_read? {cs rest : List Char} {d : Datum} (h : read? cs = some (d, rest)) :
    d.Distinct :=
  (distinct_of_fuel _).1 h

end Value

namespace Document
open Toml.Tree (DistinctEntries distinctEntries_nil)
variable {d d' : Document} {cs rest : List Char}

theorem distinct_of_header? (hd : DistinctEntries d.entries) (h : d.header? cs = some (d', rest)) :
    DistinctEntries d'.entries := by
  rw [header?] at h
  split at h
  · split at h
    · rename_i entries hentries
      cases h
      exact hd.within (fun _ _ he hhead => he.head hhead) hentries
    · cases h
  · cases h

theorem distinct_of_listHeader? (hd : DistinctEntries d.entries)
    (h : d.listHeader? cs = some (d', rest)) : DistinctEntries d'.entries := by
  rw [listHeader?] at h
  split at h
  · split at h
    · rename_i entries hentries
      cases h
      exact hd.within (fun _ _ he happend => he.append happend) hentries
    · cases h
  · cases h

theorem distinct_of_pair? (hd : DistinctEntries d.entries) (h : d.pair? cs = some (d', rest)) :
    DistinctEntries d'.entries := by
  rw [pair?] at h
  split at h
  · split at h
    · cases h
    · rename_i v rest hv
      obtain ⟨entries, hentries, he⟩ := Option.map_eq_some_iff.1 h
      cases he
      have hvalue := Value.distinct_of_read? hv
      exact hd.within (fun _ _ he hassign => he.assign hvalue hassign) hentries
  · cases h

theorem distinct_of_statement? (hd : DistinctEntries d.entries)
    (h : d.statement? cs = some (d', rest)) : DistinctEntries d'.entries := by
  rw [statement?] at h
  split at h
  · exact distinct_of_listHeader? hd h
  · exact distinct_of_header? hd h
  · split at h
    · cases h
      exact hd
    · exact distinct_of_pair? hd h

theorem distinct_of_read {fuel : Nat} (hd : DistinctEntries d.entries)
    (h : read fuel d cs = .ok d') : DistinctEntries d'.entries := by
  induction fuel generalizing d cs with
  | zero =>
    cases cs with
    | nil =>
      cases h
      exact hd
    | cons c cs => cases h
  | succ fuel ih =>
    cases cs with
    | nil =>
      cases h
      exact hd
    | cons c cs =>
      rw [read] at h
      · split at h
        · cases h
        · rename_i next rest hstatement
          split at h
          · cases h
          · exact ih (distinct_of_statement? hd hstatement) h
      · exact List.cons_ne_nil _ _

end Document

/-- A document has each key of a table once. -/
theorem distinct_of_parse {s : String} {d : Datum} (h : parse s = .ok d) : d.Distinct := by
  rw [parse] at h
  split at h
  · rename_i document hread
    cases h
    exact (Document.distinct_of_read Tree.distinctEntries_nil hread).toData
  · cases h

end Toml

end Landing
