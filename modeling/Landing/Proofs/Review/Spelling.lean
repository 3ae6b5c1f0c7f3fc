import Landing.History.Graph
import Landing.Proofs.CommitId
import Landing.Proofs.Datum
import Landing.Review.Batch

/-! Spelling commit names in a batch. They are taken as written, so that a name that is not in lower
case names no commit, though the same name would if it came in any other way. -/
namespace Landing

namespace Review
open Datum (mapField mapItems lowerText)

/-- The document of a batch with all commit names in lower case. -/
def lowerNames : Datum → Datum :=
  mapField "changes" 3 (mapItems (mapField "commit" 2 lowerText))

def BatchChange.lowered (c : BatchChange) : BatchChange := { c with commit := .normal c.commit.hex }

def Batch.lowered (b : Batch) : Batch := { b with changes := b.changes.map BatchChange.lowered }

theorem BatchChange.ofDatum?_lowered (d : Datum) :
    ofDatum? (mapField "commit" 2 lowerText d) = (ofDatum? d).map lowered := by
  have hid : (fun d => CommitId.ofDatum? (lowerText d)) =
      fun d => (CommitId.ofDatum? d).map fun id => .normal id.hex := by
    funext d
    cases d <;> rfl
  rw [ofDatum?, ofDatum?, Datum.record?_mapField rfl (by decide)]
  cases d.record? .toml _ with
  | none => rfl
  | some r =>
    simp only [Option.map_some, Option.bind_eq_bind, Option.bind_some, Datum.need?_map,
      Datum.get?_map, if_true, String.reduceEq, if_false, hid, Datum.need?_comp_map,
      Option.map_bind, Option.bind_map, Function.comp_def, lowered]

theorem Batch.ofDatum?_lowered (d : Datum) :
    ofDatum? (lowerNames d) = (ofDatum? d).map lowered := by
  have hitems : ∀ items : List Datum,
      (items.map (mapField "commit" 2 lowerText)).mapM BatchChange.ofDatum? =
        (items.mapM BatchChange.ofDatum?).map (List.map BatchChange.lowered) := by
    intro items
    induction items with
    | nil => rfl
    | cons d items ih =>
      rw [List.map_cons, List.mapM_cons, List.mapM_cons, ih, BatchChange.ofDatum?_lowered]
      cases BatchChange.ofDatum? d with
      | none => rfl
      | some c => cases items.mapM BatchChange.ofDatum? <;> rfl
  have hchanges : (fun d => Datum.list? BatchChange.ofDatum?
      (mapItems (mapField "commit" 2 lowerText) d)) = fun d =>
        (Datum.list? BatchChange.ofDatum? d).map (List.map BatchChange.lowered) := by
    funext d
    cases d with
    | list items => exact hitems items
    | _ => rfl
  rw [ofDatum?, ofDatum?, lowerNames, Datum.record?_mapField rfl (by decide)]
  cases d.record? .toml _ with
  | none => rfl
  | some r =>
    have hget := Datum.get?_comp_map r "changes" [] (Datum.list? BatchChange.ofDatum?)
      (List.map BatchChange.lowered)
    rw [List.map_nil] at hget
    simp only [Option.map_some, Option.bind_eq_bind, Option.bind_some, Datum.need?_map,
      Datum.get?_map, if_true, String.reduceEq, if_false, hchanges, hget, Option.map_bind,
      Option.bind_map, Function.comp_def, lowered]

end Review

/-- All names that the graph knows are in lower case. -/
structure Graph.IsNormal (g : Graph) : Prop where
  commits : ∀ id, (g.commits.get? id).isSome = true → id.IsNormal
  corrupt : ∀ id ∈ g.corrupt, id.IsNormal

namespace Graph.IsNormal
variable {g : Graph}

theorem empty (path : String) : Graph.IsNormal ⟨path, .empty, .empty, []⟩ := by
  constructor <;> rintro _ ⟨⟩

theorem addCommit (hg : g.IsNormal) (hex : String) (parents : List CommitId) (message : String) :
    (g.addCommit (.normal hex) parents message).IsNormal := by
  refine ⟨fun id hid => ?_, hg.corrupt⟩
  rw [Graph.addCommit, Table.get?_insert] at hid
  split at hid
  · rename_i he
    exact he ▸ CommitId.isNormal_normal hex
  · exact hg.commits id hid

theorem corruptCommit (hg : g.IsNormal) (hex : String) :
    (g.corruptCommit (.normal hex)).IsNormal :=
  ⟨hg.commits, List.forall_mem_cons.2 ⟨CommitId.isNormal_normal hex, hg.corrupt⟩⟩

theorem setRef (hg : g.IsNormal) (name : String) (id : CommitId) : (g.setRef name id).IsNormal :=
  ⟨hg.commits, hg.corrupt⟩

theorem read_eq (hg : g.IsNormal) {id : CommitId} (hid : ¬ id.IsNormal) :
    g.read id = .error (.missingObject id) := by
  have hcorrupt : g.corrupt.contains id = false := by
    simpa using fun hmem => hid (hg.corrupt id hmem)
  have hcommits : g.commits.get? id = none := by
    rw [← Option.isNone_iff_eq_none, ← Option.isSome_eq_false_iff]
    exact Bool.eq_false_iff.2 fun hsome => hid (hg.commits id hsome)
  rw [Graph.read, hcorrupt, hcommits]
  rfl

end Graph.IsNormal

namespace Review
open Datum (mapField mapItems lowerText)

/-- Some name is not in lower case, and all before it name commits that can be read, or would if
they were in lower case. -/
def Spoiled (read : Reader) : List BatchChange → Prop
  | [] => False
  | c :: rest => ¬ c.commit.IsNormal ∨ (∃ d, read c.lowered.commit = .ok d) ∧ Spoiled read rest

/-- The commit of a change, if its name were parsed. -/
def BatchChange.parsed? (c : BatchChange) : Option CommitId := CommitId.parse? c.commit.hex

theorem BatchChange.parsed?_lowered (c : BatchChange) : c.lowered.parsed? = c.parsed? :=
  CommitId.parse?_lowerAscii c.commit.hex

theorem BatchChange.lowered_eq {c : BatchChange} (hc : c.commit.IsNormal) : c.lowered = c := by
  rw [lowered, hc]

theorem not_spoiled_of_isNormal (read : Reader) {l : List BatchChange}
    (hl : ∀ c ∈ l, c.commit.IsNormal) : ¬ Spoiled read l := by
  induction l with
  | nil => exact id
  | cons c l ih =>
    rw [List.forall_mem_cons] at hl
    rintro (hn | ⟨_, hrest⟩)
    · exact hn hl.1
    · exact ih hl.2 hrest

theorem commits_of_not_spoiled {read : Reader} {b : Batch} (hb : ¬ Spoiled read b.changes) :
    b.commits read = b.lowered.commits read := by
  rw [Batch.commits, Batch.commits, Batch.lowered]
  generalize b.changes = l at hb
  induction l with
  | nil => rfl
  | cons c l ih =>
    rw [Spoiled, not_or, not_not, not_and] at hb
    obtain ⟨hc, hrest⟩ := hb
    rw [BatchChange.lowered_eq hc] at hrest
    rw [List.map_cons, List.mapM_cons, List.mapM_cons, BatchChange.lowered_eq hc]
    cases hread : read c.commit with
    | error e => rfl
    | ok d => rw [ih (hrest ⟨d, hread⟩)]

theorem commits_of_spoiled {g : Graph} (hg : g.IsNormal) {b : Batch}
    (hb : Spoiled g.read b.changes) :
    ∃ id, b.commits g.read = .error (.missingObject id) := by
  rw [Batch.commits]
  generalize b.changes = l at hb
  induction l with
  | nil => cases hb
  | cons c l ih =>
    rw [List.mapM_cons]
    by_cases hc : c.commit.IsNormal
    · rw [Spoiled, BatchChange.lowered_eq hc] at hb
      obtain ⟨⟨d, hread⟩, hrest⟩ := hb.resolve_left (not_not.2 hc)
      obtain ⟨id, hid⟩ := ih hrest
      rw [hread, hid]
      exact ⟨id, rfl⟩
    · rw [hg.read_eq hc]
      exact ⟨c.commit, rfl⟩

/-- The same is read, or both fail for reasons of the same kind. -/
inductive SameKind {α : Type} : Except Error α → Except Error α → Prop where
  | ok (a) : SameKind (.ok a) (.ok a)
  | error {e e'} : e.ctorIdx = e'.ctorIdx → SameKind (.error e) (.error e')

namespace SameKind
variable {α : Type} {a b : Except Error α}

theorem refl (a : Except Error α) : SameKind a a := by
  cases a with
  | ok a => exact .ok a
  | error e => exact .error rfl

theorem symm (h : SameKind a b) : SameKind b a := by
  cases h with
  | ok a => exact .ok a
  | error he => exact .error he.symm

theorem missingObject_iff {id : CommitId} :
    SameKind (.error (.missingObject id)) a ↔ ∃ id, a = .error (.missingObject id) := by
  constructor
  · rintro ⟨⟩
    rename_i e he
    cases e <;> cases he
    exact ⟨_, rfl⟩
  · rintro ⟨id, rfl⟩
    exact .error rfl

end SameKind

/-- Reads the commits that a text lists. -/
def pending (g : Graph) (s : String) : Except Error (List TrackedCommit) :=
  (Batch.parse s).bind (·.commits g.read)

/-- Documents with the same names in lower case are read alike. -/
theorem parse_of_lowerNames {s s' : String} {d d' : Datum} (hs : Toml.parse s = .ok d)
    (hs' : Toml.parse s' = .ok d') (hd : lowerNames d = lowerNames d') :
    (∃ e e', Batch.parse s = .error (.parse e) ∧ Batch.parse s' = .error (.parse e')) ∨
      ∃ b b', Batch.parse s = .ok b ∧ Batch.parse s' = .ok b' ∧ b.lowered = b'.lowered := by
  have hsame : (Batch.ofDatum? d).map Batch.lowered = (Batch.ofDatum? d').map Batch.lowered := by
    rw [← Batch.ofDatum?_lowered, ← Batch.ofDatum?_lowered, hd]
  simp only [Batch.parse, Toml.decode, hs, hs']
  cases hb : Batch.ofDatum? d with
  | none =>
    rw [hb, Option.map_none, eq_comm, Option.map_eq_none_iff] at hsame
    rw [hsame]
    exact .inl ⟨_, _, rfl, rfl⟩
  | some b =>
    rw [hb, Option.map_some, eq_comm, Option.map_eq_some_iff] at hsame
    obtain ⟨b', hb', hlowered⟩ := hsame
    have hproject : b'.lowered.project = b.lowered.project := congrArg Batch.project hlowered
    rw [Batch.lowered, Batch.lowered] at hproject
    rw [hb']
    dsimp only
    rw [hproject]
    split
    · exact .inl ⟨_, _, rfl, rfl⟩
    · exact .inr ⟨b, b', rfl, rfl, hlowered.symm⟩

/-- Batches with the same names in lower case. -/
theorem commits_sameKind_iff {g : Graph} (hg : g.IsNormal) {b b' : Batch}
    (hb : b.lowered = b'.lowered) : SameKind (b.commits g.read) (b'.commits g.read) ↔
      (Spoiled g.read b.changes ↔ Spoiled g.read b'.changes) ∨
        ∃ id, b.lowered.commits g.read = .error (.missingObject id) := by
  by_cases hspoiled : Spoiled g.read b.changes <;>
    by_cases hspoiled' : Spoiled g.read b'.changes <;> simp only [hspoiled, hspoiled', true_or,
      iff_true, iff_false, not_true_eq_false, false_or]
  · obtain ⟨id, hid⟩ := commits_of_spoiled hg hspoiled
    obtain ⟨id', hid'⟩ := commits_of_spoiled hg hspoiled'
    rw [hid, hid']
    exact .error rfl
  · obtain ⟨id, hid⟩ := commits_of_spoiled hg hspoiled
    rw [hid, commits_of_not_spoiled hspoiled', hb, SameKind.missingObject_iff]
  · obtain ⟨id', hid'⟩ := commits_of_spoiled hg hspoiled'
    rw [hid', commits_of_not_spoiled hspoiled, ← SameKind.missingObject_iff]
    exact ⟨.symm, .symm⟩
  · rw [commits_of_not_spoiled hspoiled, commits_of_not_spoiled hspoiled', hb]
    exact .refl _

/-- For texts that differ in nothing but the case of letters in commit names, the same commits are
read, or reading fails in the same way, unless one of them is spoiled alone. -/
theorem pending_sameKind_iff {g : Graph} (hg : g.IsNormal) {s s' : String} {d d' : Datum}
    (hs : Toml.parse s = .ok d) (hs' : Toml.parse s' = .ok d') (hd : lowerNames d = lowerNames d') :
    SameKind (pending g s) (pending g s') ↔
      ∀ b b', Batch.parse s = .ok b → Batch.parse s' = .ok b' →
        (Spoiled g.read b.changes ↔ Spoiled g.read b'.changes) ∨
          ∃ id, b.lowered.commits g.read = .error (.missingObject id) := by
  rcases parse_of_lowerNames hs hs' hd with ⟨e, e', he, he'⟩ | ⟨b, b', hb, hb', hlowered⟩
  · rw [pending, pending, he, he']
    exact iff_of_true (.error rfl) (by rintro b b' ⟨⟩)
  · rw [pending, pending, hb, hb']
    refine (commits_sameKind_iff hg hlowered).trans ⟨?_, fun h => h b b' rfl rfl⟩
    rintro h _ _ ⟨⟩ ⟨⟩
    exact h

/-- If names were parsed, such texts would list the same commits, and none could be spoiled. -/
theorem parsed?_of_lowerNames {s s' : String} {d d' : Datum} {b b' : Batch}
    (hs : Toml.parse s = .ok d) (hs' : Toml.parse s' = .ok d') (hd : lowerNames d = lowerNames d')
    (hb : Batch.parse s = .ok b) (hb' : Batch.parse s' = .ok b') :
    b.changes.map BatchChange.parsed? = b'.changes.map BatchChange.parsed? ∧
      ∀ read l, l.map (some ·.commit) = b.changes.map BatchChange.parsed? → ¬ Spoiled read l := by
  constructor
  · rcases parse_of_lowerNames hs hs' hd with ⟨e, _, he, _⟩ | ⟨c, c', hc, hc', hlowered⟩
    · cases hb.symm.trans he
    · cases hb.symm.trans hc
      cases hb'.symm.trans hc'
      have hsame : ∀ b : Batch, b.lowered.changes.map BatchChange.parsed? =
          b.changes.map BatchChange.parsed? := fun b => by
        simp only [Batch.lowered, List.map_map, Function.comp_def, BatchChange.parsed?_lowered]
      rw [← hsame b, hlowered, hsame b']
  · intro read l hl
    refine not_spoiled_of_isNormal read fun c hc => ?_
    have hmem : some c.commit ∈ b.changes.map BatchChange.parsed? :=
      hl ▸ List.mem_map_of_mem (f := (some ·.commit)) hc
    obtain ⟨d, _, hparse⟩ := List.mem_map.1 hmem
    exact CommitId.isNormal_of_parse? hparse

/-! A batch of a single commit, its name written in lower case and in upper case. -/

namespace Single

def text (commit : String) : String :=
  "project = \"p\"\nbranch = \"main\"\n[[changes]]\nid = 1\npatch_set = 1\ncommit = \"" ++ commit ++
    "\"\nsubmitter = 7\n"

def document (commit : String) : Datum :=
  .fields [("project", .text "p"), ("branch", .text "main"), ("changes", .list [.fields
    [("id", .integer 1), ("patch_set", .integer 1), ("commit", .text commit),
      ("submitter", .integer 7)]])]

def batch (commit : String) : Batch := ⟨"p", "main", [], [⟨⟨1⟩, 1, ⟨commit⟩, ⟨7⟩, none, []⟩]⟩

def lower : String := "abcdefabcdefabcdefabcdefabcdefabcdefabcd"

def upper : String := "ABCDEFABCDEFABCDEFABCDEFABCDEFABCDEFABCD"

def graph : Graph :=
  (⟨"/repo", .empty, .empty, []⟩ : Graph).addCommit (.normal lower) [] "A commit"

theorem parse_text {commit : String} (h : Toml.parse (text commit) = .ok (document commit))
    (hd : Batch.ofDatum? (document commit) = some (batch commit)) :
    Batch.parse (text commit) = .ok (batch commit) := by
  simp only [Batch.parse, Toml.decode, h, hd]
  exact if_neg (by decide : ¬ Text.isBlankText "p" = true)

theorem not_spoiled : ¬ Spoiled graph.read (batch lower).changes :=
  not_spoiled_of_isNormal graph.read (by decide)

end Single

open Single in
/-- The commit is found by its name in lower case alone. -/
theorem pending_sameKind_iff_upper :
    ¬ SameKind (pending graph (text lower)) (pending graph (text upper)) := by
  have hg : graph.IsNormal := (Graph.IsNormal.empty "/repo").addCommit lower [] "A commit"
  have hlower : Toml.parse (text lower) = .ok (document lower) := by decide +kernel
  have hupper : Toml.parse (text upper) = .ok (document upper) := by decide +kernel
  rw [pending_sameKind_iff hg hlower hupper (by decide +kernel)]
  intro h
  rcases h _ _ (parse_text hlower (by decide +kernel)) (parse_text hupper (by decide +kernel))
    with h | ⟨id, hid⟩
  · exact not_spoiled (h.2 (.inl (by decide)))
  · have hread : ((batch lower).lowered.commits graph.read).toOption.isSome = true := by decide
    rw [hid] at hread
    cases hread

end Review

end Landing
