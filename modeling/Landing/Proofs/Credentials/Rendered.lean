import Landing.Credentials.Store
import Landing.Proofs.Toml.Document
import Landing.Proofs.Toml.Tree

/-! The text that a store writes is read as the records of its credentials. Main statement:
`decode_render`. -/
namespace Landing

theorem AccountId.word?_toString (a : AccountId) : Text.word? (toString a) = some a.number :=
  Text.word?_toString a.number

theorem AccountId.bare_toString (a : AccountId) : Toml.Bare (toString a).toList :=
  Toml.bare_toString a.number.toNat

/-- Accounts are told apart by the way they are written. -/
theorem AccountId.toString_inj {a b : AccountId} : toString a = toString b ↔ a = b := by
  constructor
  · intro h
    have hword := a.word?_toString
    rw [h, b.word?_toString] at hword
    cases a
    cases b
    cases hword
    rfl
  · rintro rfl
    rfl

namespace Credentials.Store

open Toml (Bare Document Tree)
open Toml.Tree (within head assign put)

variable {done cs : List ExternalCredentials} {c : ExternalCredentials}
  {tables inner : Tree.Entries} {key name : String} {path current : List String}
  {more : List Char} {fuel : Nat} {g : Tree.Entries → Option Tree.Entries}

/-- The tables of accounts within a document. Without accounts nothing is there. -/
def holding : Tree.Entries → Tree.Entries
  | [] => []
  | tables => [("accounts", .table .implied tables)]

/-- The table of one account within the document. -/
def tableOf (c : ExternalCredentials) : String × Tree :=
  (toString c.account, .table .headed
    [("external_user", .value (.text c.user)), ("private_key", .value (.text c.privateKey))])

/-- What the file holds for an account. -/
def recordOf (c : ExternalCredentials) : String × String × String :=
  (toString c.account, c.user, c.privateKey)

theorem within_holding :
    within g ("accounts" :: path) (holding tables) =
      (within g path tables).map fun inner => [("accounts", .table .implied inner)] := by
  cases tables <;> simp [within, holding, put, Function.comp_def]

theorem holding_append (e : String × Tree) :
    holding (tables ++ [e]) = [("accounts", .table .implied (tables ++ [e]))] := by
  cases tables <;> rfl

theorem open_table (hkey : key ∉ tables.map (·.1)) :
    within (head key) ["accounts"] (holding tables) =
      some (holding (tables ++ [(key, .table .headed [])])) := by
  rw [within_holding, within, head, Tree.put_new hkey rfl, holding_append]
  rfl

theorem fill_table {d : Datum} (hkey : key ∉ tables.map (·.1)) (hname : name ∉ inner.map (·.1)) :
    within (assign d [name]) ["accounts", key]
        (holding (tables ++ [(key, .table .headed inner)])) =
      some (holding (tables ++ [(key, .table .headed (inner ++ [(name, .value d)]))])) := by
  have hassign : assign d [name] inner = some (inner ++ [(name, .value d)]) :=
    Tree.put_new hname rfl
  have hfill : within (assign d [name]) [key] (tables ++ [(key, .table .headed inner)]) =
      some (tables ++ [(key, .table .headed (inner ++ [(name, .value d)]))]) := by
    apply Tree.put_last hkey
    simp only [within, hassign, Option.map_some]
  rw [within_holding, hfill, holding_append]
  rfl

/-- The lines of one account. -/
theorem renderEntry_append : renderEntry c ++ more =
    '[' :: ("accounts".toList ++ '.' :: ((toString c.account).toList ++ ']' :: '\n' ::
      ("external_user".toList ++ ' ' :: '=' :: ' ' :: (Toml.Quoted.ofText c.user ++ '\n' ::
        ("private_key".toList ++ ' ' :: '=' :: ' ' ::
          (Toml.Quoted.ofText c.privateKey ++ '\n' :: more)))))) := by
  have hheader : "[accounts.".toList = '[' :: ("accounts".toList ++ ['.']) := rfl
  have huser : "]\nexternal_user = ".toList =
      ']' :: '\n' :: ("external_user".toList ++ [' ', '=', ' ']) := rfl
  have hprivate : "\nprivate_key = ".toList =
      '\n' :: ("private_key".toList ++ [' ', '=', ' ']) := rfl
  unfold renderEntry
  rw [hheader, huser, hprivate]
  simp only [List.append_assoc, List.cons_append, List.nil_append]

theorem read_renderEntry (hnew : c.account ∉ done.map (·.account)) :
    Document.read (fuel + 3) ⟨holding (done.map tableOf), current⟩ (renderEntry c ++ more) =
      Document.read fuel
        ⟨holding ((done ++ [c]).map tableOf), ["accounts", toString c.account]⟩ more := by
  have hkey : toString c.account ∉ (done.map tableOf).map (·.1) := by
    simpa [tableOf, AccountId.toString_inj] using hnew
  rw [renderEntry_append,
    Document.read_header (by decide) c.account.bare_toString (open_table hkey),
    Document.read_text _ (by decide) (fill_table hkey (by simp)),
    Document.read_text _ (by decide) (fill_table hkey (by simp)), List.map_append]
  rfl

/-- The lines of all accounts, where no account comes twice. -/
theorem read_flatMap_renderEntry (fuel : Nat) (done cs : List ExternalCredentials)
    (current : List String) (hnodup : ((done ++ cs).map (·.account)).Nodup) :
    ∃ last, Document.read (3 * cs.length + fuel) ⟨holding (done.map tableOf), current⟩
      (cs.flatMap renderEntry) = .ok ⟨holding ((done ++ cs).map tableOf), last⟩ := by
  induction cs generalizing done current with
  | nil =>
    refine ⟨current, ?_⟩
    rw [List.append_nil, List.flatMap_nil, Document.read]
  | cons c cs ih =>
    have hnew : c.account ∉ done.map (·.account) := by
      rw [List.map_append, List.nodup_append] at hnodup
      exact fun hc => hnodup.2.2 _ hc _ List.mem_cons_self rfl
    rw [List.append_cons] at hnodup ⊢
    have hfuel : 3 * (c :: cs).length + fuel = 3 * cs.length + fuel + 3 := by
      rw [List.length_cons]
      omega
    rw [List.flatMap_cons, hfuel, read_renderEntry hnew]
    exact ih (done ++ [c]) _ hnodup

/-- Each account takes more room than lines. -/
theorem length_flatMap_renderEntry (cs : List ExternalCredentials) :
    3 * cs.length ≤ (cs.flatMap renderEntry).length := by
  induction cs with
  | nil => exact Nat.le_refl 0
  | cons c cs ih =>
    rw [List.flatMap_cons, renderEntry_append]
    simp only [List.length_cons, List.length_append]
    omega

/-- Two lines of comments and an empty one. -/
theorem toList_heading : heading.toList =
    '#' :: (" ff-submit external credentials".toList ++ '\n' :: '#' ::
      (" Contains private keys - keep this file private".toList ++ ['\n', '\n'])) := by
  decide +kernel

theorem read_heading {d : Document} :
    Document.read (fuel + 3) d (heading.toList ++ more) = Document.read fuel d more := by
  rw [toList_heading]
  simp only [List.cons_append, List.append_assoc, List.nil_append]
  rw [Document.read_comment (by decide +kernel), Document.read_comment (by decide +kernel),
    Document.read_break]

theorem record?_tableOf (c : ExternalCredentials) :
    record? (tableOf c).2.toDatum = some (c.user, c.privateKey) := rfl

theorem records?_tableOf (cs : List ExternalCredentials) :
    records? (.fields (Tree.entriesToData (cs.map tableOf))) = some (cs.map recordOf) := by
  rw [records?, Tree.entriesToData_eq_map, List.map_map]
  induction cs with
  | nil => rfl
  | cons c cs ih =>
    rw [List.map_cons, List.mapM_cons, ih]
    simp only [Function.comp_apply, record?_tableOf]
    rfl

theorem document?_holding (cs : List ExternalCredentials) :
    document? (.fields (Tree.entriesToData (holding (cs.map tableOf)))) =
      some (cs.map recordOf) := by
  cases cs with
  | nil => rfl
  | cons c cs => exact records?_tableOf (c :: cs)

/-- The lines of accounts are read as their records, where no account comes twice. -/
theorem decode_entries (hnodup : (cs.map (·.account)).Nodup) :
    Toml.decode document? (String.ofList (heading.toList ++ cs.flatMap renderEntry)) =
      .ok (cs.map recordOf) := by
  obtain ⟨text, htext⟩ : ∃ text, text = heading.toList ++ cs.flatMap renderEntry := ⟨_, rfl⟩
  have hroom := length_flatMap_renderEntry cs
  have hheading : 3 ≤ heading.toList.length := by decide +kernel
  -- the heading takes three units of fuel, as does each account; the rest is to spare
  obtain ⟨spare, hspare⟩ : ∃ spare, text.length + 1 = 3 * cs.length + spare + 3 := by
    refine ⟨text.length + 1 - 3 - 3 * cs.length, ?_⟩
    rw [htext, List.length_append]
    omega
  obtain ⟨last, hread⟩ := read_flatMap_renderEntry spare [] cs [] hnodup
  have hfirst : ∃ rest, text = '#' :: rest := by
    rw [htext, toList_heading]
    exact ⟨_, List.cons_append⟩
  obtain ⟨rest, hrest⟩ := hfirst
  have hlines : Document.read (text.length + 1) {} text = .ok ⟨holding (cs.map tableOf), last⟩ := by
    rw [hspare, htext, read_heading]
    exact hread
  rw [← htext, Toml.decode, Toml.parse_of_read (String.toList_ofList.trans hrest) (by decide)
    (by rw [String.toList_ofList]; exact hlines)]
  simp only [document?_holding]

theorem sorted_perm {α : Type} (records : List (String × α)) : (sorted records).Perm records :=
  List.mergeSort_perm _ _

/-- Credentials are put in the same order as their records. -/
theorem sorted_map_recordOf (cs : List ExternalCredentials) :
    (sorted (cs.map fun c => (toString c.account, c))).map (fun e => recordOf e.2) =
      sorted (cs.map recordOf) := by
  rw [sorted, List.map_mergeSort, List.map_map]
  · rfl
  · intro a ha b hb
    obtain ⟨c, -, rfl⟩ := List.mem_map.1 ha
    obtain ⟨c', -, rfl⟩ := List.mem_map.1 hb
    rfl

/-- The file of a store is read as the records of its credentials. -/
theorem decode_render {s : Store} (hnodup : (s.entries.values.map (·.account)).Nodup) :
    Toml.decode document? s.render = .ok (sorted (s.entries.values.map recordOf)) := by
  obtain ⟨named, hnamed⟩ : ∃ named, named =
      s.entries.values.map fun c => (toString c.account, c) := ⟨_, rfl⟩
  have hvalues : named.map (·.2) = s.entries.values := by
    rw [hnamed, List.map_map]
    exact List.map_id _
  have haccounts : (((sorted named).map (·.2)).map (·.account)).Nodup := by
    rw [(((sorted_perm named).map _).map _).nodup_iff, hvalues]
    exact hnodup
  have hrender : s.render =
      String.ofList (heading.toList ++ ((sorted named).map (·.2)).flatMap renderEntry) := by
    rw [List.flatMap_map, render, hnamed]
  rw [hrender, decode_entries haccounts, List.map_map, ← sorted_map_recordOf, hnamed]
  rfl

end Credentials.Store

end Landing
