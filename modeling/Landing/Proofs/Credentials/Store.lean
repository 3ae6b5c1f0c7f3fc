import Landing.Proofs.Credentials.Rendered
import Landing.Proofs.Utf8
import Mathlib.Data.List.DropRight

/-! What a store of credentials holds after it was loaded, and what is in its file. Main statements:
`lookup_foldlM` and `nodup_of_held?`. -/
namespace Landing

namespace Text

theorem trimChars_trimChars (cs : List Char) : trimChars (trimChars cs) = trimChars cs := by
  have hfront : (trimChars cs).dropWhile isBlank = trimChars cs := by
    rw [List.dropWhile_eq_self_iff]
    intro hlength
    have hlead : trimChars cs <+: cs.dropWhile isBlank := List.rdropWhile_prefix isBlank _
    rw [hlead.getElem hlength]
    exact List.dropWhile_get_zero_not isBlank cs (Nat.lt_of_lt_of_le hlength hlead.length_le)
  rw [trimChars, hfront, trimChars]
  exact List.rdropWhile_idempotent isBlank _

/-- A text without blanks around it is not trimmed further. -/
theorem trim_trim (s : String) : trim (trim s) = trim s := by
  rw [trim, trim, String.toList_ofList, trimChars_trimChars]

end Text

/-- A text that was written is read. -/
theorem FileTree.readPath_writePath {t t' : FileTree} {base path s : String}
    (h : t.writePath base path (Text.encode s) = .ok t') : t'.readPath base path = .text s := by
  rw [writePath] at h
  split at h
  · cases h
  split at h
  · cases h
  rename_i hempty hslash
  rw [write] at h
  split at h
  · cases h
  split at h
  · cases h
    simp [readPath, hempty, hslash, readText, file?, Text.decode?_encode]
  · cases h

section
variable {κ α : Type} [BEq κ] [LawfulBEq κ] {l l' : List (κ × α)}

theorem lookup_eq_some_iff_mem (hnodup : (l.map (·.1)).Nodup) {k : κ} {a : α} :
    l.lookup k = some a ↔ (k, a) ∈ l := by
  rw [List.lookup_eq_some_iff]
  constructor
  · rintro ⟨before, after, rfl, -⟩
    simp
  · intro hmem
    obtain ⟨before, after, rfl⟩ := List.append_of_mem hmem
    refine ⟨before, after, rfl, fun e he => ?_⟩
    rw [List.map_append, List.nodup_append] at hnodup
    have hne := hnodup.2.2 e.1 (List.mem_map_of_mem he) k List.mem_cons_self
    simpa using Ne.symm hne

/-- Where no key comes twice, the order does not matter. -/
theorem lookup_eq_of_perm (h : l.Perm l') (hnodup : (l.map (·.1)).Nodup) (k : κ) :
    l.lookup k = l'.lookup k := by
  have hnodup' : (l'.map (·.1)).Nodup := (h.map _).nodup_iff.1 hnodup
  ext a
  rw [lookup_eq_some_iff_mem hnodup, lookup_eq_some_iff_mem hnodup', h.mem_iff]

end

namespace ExternalCredentials
variable {account : AccountId} {user privateKey : String} {c : ExternalCredentials}
  {record record' : String × String}

/-- What of a record can be used: a user name that is not blank, without the blanks around it, and
a private key. -/
def usable? (record : String × String) : Option (String × String) :=
  if (Text.trim record.1).isEmpty then none
  else if PrivateKey.isValid record.2 then some (Text.trim record.1, record.2)
  else none

theorem make_eq_ok_iff : make account user privateKey = .ok c ↔
    c.account = account ∧ usable? (user, privateKey) = some (c.user, c.privateKey) := by
  obtain ⟨a, u, k⟩ := c
  rw [make, usable?]
  dsimp only
  split
  · simp
  split
  · simp [eq_comm]
  · simp

theorem eq_of_usable? (h : usable? record = some record') :
    record' = (Text.trim record.1, record.2) := by
  rw [usable?] at h
  split at h
  · cases h
  split at h
  · exact (Option.some.inj h).symm
  · cases h

/-- What can be used is not changed further. -/
theorem usable?_usable? (h : usable? record = some record') : usable? record' = some record' := by
  have hrecord := eq_of_usable? h
  subst hrecord
  rw [usable?, Text.trim_trim]
  exact h

/-- Credentials can be made again from themselves. -/
theorem make_again (h : make account user privateKey = .ok c) :
    make account c.user c.privateKey = .ok c := by
  obtain ⟨haccount, husable⟩ := make_eq_ok_iff.1 h
  exact make_eq_ok_iff.2 ⟨haccount, usable?_usable? husable⟩

theorem toOption_make (account : AccountId) (user privateKey : String) :
    (make account user privateKey).toOption =
      (usable? (user, privateKey)).map fun record => ⟨account, record.1, record.2⟩ := by
  rw [make, usable?]
  dsimp only
  split
  · rfl
  split <;> rfl

end ExternalCredentials

namespace Credentials.Store
open ExternalCredentials (make usable?)

variable {s s' : Store} {account : AccountId} {user privateKey cwd path : String}
  {files : FileTree} {c : ExternalCredentials} {reading : Reading}
  {record : String × String × String} {records : List (String × String × String)}

/-- A record either brings credentials or leaves the store as it is. -/
theorem addRecord_cases (h : s.addRecord record = .ok s') :
    ∃ number, Text.word? record.1 = some number ∧
      ((∃ c, make ⟨number⟩ record.2.1 record.2.2 = .ok c ∧
          s' = { s with entries := s.entries.insert ⟨number⟩ c }) ∨
        (make ⟨number⟩ record.2.1 record.2.2).toOption = none ∧ s' = s) := by
  rw [addRecord] at h
  split at h
  · cases h
  · rename_i number hnumber
    refine ⟨number, hnumber, ?_⟩
    split at h
    · rename_i c hc
      cases h
      exact .inl ⟨c, hc, rfl⟩
    · rename_i e he
      cases h
      exact .inr ⟨by rw [he]; rfl, rfl⟩

theorem foldlM_cons_ok (h : (record :: records).foldlM addRecord s = .ok s') :
    ∃ next, s.addRecord record = .ok next ∧ records.foldlM addRecord next = .ok s' := by
  rw [List.foldlM_cons] at h
  cases hnext : s.addRecord record with
  | error e =>
    rw [hnext] at h
    cases h
  | ok next =>
    rw [hnext] at h
    exact ⟨next, rfl, h⟩

/-- What each record keeps, all of them keep. -/
theorem foldlM_keeps {P : Store → Prop}
    (hstep : ∀ {s record s'}, P s → s.addRecord record = .ok s' → P s') (hs : P s)
    (h : records.foldlM addRecord s = .ok s') : P s' := by
  induction records generalizing s with
  | nil =>
    cases h
    exact hs
  | cons record records ih =>
    obtain ⟨next, hadd, hrest⟩ := foldlM_cons_ok h
    exact ih (hstep hs hadd) hrest

/-- The records in a file; without the file there are none. -/
def held? : Reading → Option (List (String × String × String))
  | .absent => some []
  | .unreadable _ => none
  | .text text => (Toml.decode document? text).toOption

/-- A store that was loaded has taken over the records of its file. -/
theorem exists_held_of_load (h : load path reading = .ok s) :
    ∃ records, held? reading = some records ∧
      (sorted records).foldlM addRecord ⟨path, .empty⟩ = .ok s := by
  unfold load at h
  split at h
  · refine ⟨[], rfl, ?_⟩
    rw [sorted, List.mergeSort_nil]
    exact h
  · cases h
  · split at h
    · cases h
    · rename_i records hrecords
      exact ⟨records, by rw [held?, hrecords, Except.toOption], h⟩

theorem path_of_load (h : load path reading = .ok s) : s.path = path := by
  obtain ⟨records, -, hfold⟩ := exists_held_of_load h
  apply foldlM_keeps (P := fun s => s.path = path) _ rfl hfold
  intro s record s' hs hadd
  obtain ⟨number, -, ⟨c, -, rfl⟩ | ⟨-, rfl⟩⟩ := addRecord_cases hadd
  · exact hs
  · exact hs

/-- Each account comes once, with credentials of its own that can be used. -/
structure Sound (s : Store) : Prop where
  keys : s.entries.keys.Nodup
  made : ∀ e ∈ s.entries.entries, make e.1 e.2.user e.2.privateKey = .ok e.2

namespace Sound

theorem empty (path : String) : Sound ⟨path, .empty⟩ := ⟨List.nodup_nil, nofun⟩

theorem account_eq (h : s.Sound) : ∀ e ∈ s.entries.entries, e.2.account = e.1 :=
  fun e he => (ExternalCredentials.make_eq_ok_iff.1 (h.made e he)).1

theorem insert (h : s.Sound) (hc : make account user privateKey = .ok c) :
    Sound { s with entries := s.entries.insert account c } where
  keys := Table.nodup_keys_insert h.keys account c
  made e he := by
    rcases Table.mem_insert he with rfl | he
    · exact ExternalCredentials.make_again hc
    · exact h.made e he

theorem addRecord (h : s.Sound) (hadd : s.addRecord record = .ok s') : s'.Sound := by
  obtain ⟨number, -, ⟨c, hc, rfl⟩ | ⟨-, rfl⟩⟩ := addRecord_cases hadd
  · exact h.insert hc
  · exact h

theorem load (h : load path reading = .ok s) : s.Sound := by
  obtain ⟨records, -, hfold⟩ := exists_held_of_load h
  exact foldlM_keeps Sound.addRecord (.empty path) hfold

theorem set (h : s.Sound) : (s.set account user privateKey cwd files).store.Sound := by
  rw [Store.set]
  split
  · exact h
  · exact h.insert ‹_›

end Sound

/-- A record of an account brings its credentials if they can be used. -/
theorem lookup_addRecord {a : AccountId} {r : String × String}
    (h : s.addRecord (toString a, r) = .ok s') (other : AccountId) :
    s'.lookup other =
      if a = other then (make a r.1 r.2).toOption.or (s.lookup other) else s.lookup other := by
  obtain ⟨number, hnumber, hcases⟩ := addRecord_cases h
  rw [a.word?_toString] at hnumber
  obtain rfl := Option.some.inj hnumber
  rcases hcases with ⟨c, hc, rfl⟩ | ⟨hnone, rfl⟩
  · simp only [lookup, Table.get?_insert, hc, Except.toOption, Option.some_or]
  · simp [hnone]

/-- What records bring, each of an account of its own. -/
theorem lookup_foldlM (hnames : ∀ record ∈ records, ∃ a : AccountId, record.1 = toString a)
    (hnodup : (records.map (·.1)).Nodup) (h : records.foldlM addRecord s = .ok s')
    (other : AccountId) :
    s'.lookup other = ((records.lookup (toString other)).bind fun r =>
      (make other r.1 r.2).toOption).or (s.lookup other) := by
  induction records generalizing s with
  | nil =>
    cases h
    rfl
  | cons record records ih =>
    obtain ⟨next, hadd, hrest⟩ := foldlM_cons_ok h
    obtain ⟨key, r⟩ := record
    obtain ⟨⟨a, rfl⟩, hothers⟩ := List.forall_mem_cons.1 hnames
    rw [List.map_cons, List.nodup_cons] at hnodup
    rw [ih hothers hnodup.2 hrest, lookup_addRecord hadd, List.lookup_cons]
    by_cases ha : a = other
    · subst ha
      have hnone : records.lookup (toString a) = none := by
        rw [List.lookup_eq_none_iff]
        intro p hp
        have hne : toString a ≠ p.1 := fun he => hnodup.1 (List.mem_map.2 ⟨p, hp, he.symm⟩)
        simpa using hne
      simp [hnone]
    · have hkey : (toString other == toString a) = false := by
        simpa [AccountId.toString_inj] using Ne.symm ha
      simp [ha, hkey]

/-- Records have the keys of their table. -/
theorem map_fst_of_records? {entries : List (String × Datum)}
    (h : records? (.fields entries) = some records) :
    records.map (·.1) = entries.map (·.1) := by
  rw [records?] at h
  induction entries generalizing records with
  | nil =>
    cases h
    rfl
  | cons entry entries ih =>
    rw [List.mapM_cons] at h
    obtain ⟨record, hrecord, h⟩ := Option.bind_eq_some_iff.1 h
    obtain ⟨rest, hrest, h⟩ := Option.bind_eq_some_iff.1 h
    obtain ⟨r, -, rfl⟩ := Option.map_eq_some_iff.1 hrecord
    cases h
    rw [List.map_cons, List.map_cons, ih hrest]

theorem nodup_of_records? {d : Datum} (hd : d.Distinct) (h : records? d = some records) :
    (records.map (·.1)).Nodup := by
  cases hd with
  | leaf hd => cases d <;> cases hd <;> cases h
  | list _ => cases h
  | fields keys _ =>
    rw [map_fst_of_records? h]
    exact keys

theorem nodup_of_document? {d : Datum} (hd : d.Distinct) (h : document? d = some records) :
    (records.map (·.1)).Nodup := by
  obtain ⟨entries, hentries, hget⟩ := Option.bind_eq_some_iff.1 h
  rw [Datum.get?] at hget
  split at hget
  · rename_i accounts haccounts
    obtain ⟨before, after, rfl, -⟩ := List.lookup_eq_some_iff.1 haccounts
    have hmem : ("accounts", accounts) ∈ before ++ ("accounts", accounts) :: after := by simp
    exact nodup_of_records? (hd.record? hentries _ hmem) hget
  · cases hget
    exact List.nodup_nil

/-- No account comes twice in a file. -/
theorem nodup_of_held? (h : held? reading = some records) : (records.map (·.1)).Nodup := by
  cases reading with
  | absent =>
    cases h
    exact List.nodup_nil
  | unreadable reason => cases h
  | text text =>
    rw [held?, Toml.decode] at h
    split at h
    · cases h
    · rename_i d hd
      split at h
      · rename_i held hheld
        cases h
        exact nodup_of_document? (Toml.distinct_of_parse hd) hheld
      · cases h

end Credentials.Store

end Landing
