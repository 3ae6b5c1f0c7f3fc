import Landing.Proofs.Ascii
import Landing.Proofs.Utf8
import Landing.Proofs.Repository.Objects

/-! Refs that name an object in a file of their own. To move one is to write another name into that
file, and no object is lost or made by it. -/
namespace Landing.Repository
open Git (IsFull)
variable {r : Repository} {files files' : FileTree} {name : String} {old new id : CommitId}
  {bytes : List UInt8}

/-- What is written for a ref is read again. -/
theorem targetOf?_encode (hid : IsFull id) :
    targetOf? (Text.encode id.hex) = some (.object id) := by
  have hname := isFull_iff_isName.1 hid
  obtain ⟨hlength, hdigits⟩ : id.hex.toList.length = 40 ∧
      ∀ c ∈ id.hex.toList, Object.isLowerHex c = true := by
    rwa [Object.isName, Bool.and_eq_true, decide_eq_true_eq, List.all_eq_true] at hname
  have hsmall : ∀ c ∈ id.hex.toList, c.toNat < 128 := by
    intro c hc
    have hrange := isLowerHex_iff.1 (hdigits c hc)
    omega
  have hlead : Text.strip? refLead.toList id.hex.toList = none := by
    obtain ⟨c, cs, hcs⟩ := List.exists_cons_of_length_pos (by omega : 0 < id.hex.toList.length)
    rw [hcs] at hdigits ⊢
    have hne : 'r' ≠ c := by
      rintro rfl
      exact absurd (hdigits 'r' List.mem_cons_self) (by decide)
    exact if_neg hne
  have hbytes : Text.encode id.hex = Text.bytesOfChars id.hex.toList :=
    Text.flatMap_utf8EncodeChar hsmall
  rw [targetOf?, Text.decodeLossy_encode, hlead]
  dsimp only
  rw [hbytes, Text.charsOfBytes_bytesOfChars hsmall,
    List.take_of_length_le (Nat.le_of_eq hlength), if_pos hname, String.ofList_toList]

theorem targetOf?_inv (hb : targetOf? bytes = some (.object id)) :
    Object.isName ((Text.charsOfBytes bytes).take 40) = true ∧
      id = ⟨String.ofList ((Text.charsOfBytes bytes).take 40)⟩ := by
  rw [targetOf?] at hb
  split at hb
  · dsimp only at hb
    split at hb <;> cases hb
  · dsimp only at hb
    split at hb
    · rename_i hname
      cases hb
      exact ⟨hname, rfl⟩
    · cases hb

theorem isFull_of_targetOf? (hb : targetOf? bytes = some (.object id)) : IsFull id := by
  obtain ⟨hname, rfl⟩ := targetOf?_inv hb
  rwa [isFull_iff_isName, String.toList_ofList]

/-- A file that holds a name holds no object: its second byte, a digit, calls for a dictionary. -/
theorem ofFile?_eq_none (hb : targetOf? bytes = some (.object id)) :
    Object.ofFile? bytes = none := by
  obtain ⟨hname, _⟩ := targetOf?_inv hb
  rw [Object.isName, Bool.and_eq_true, decide_eq_true_eq, List.all_eq_true] at hname
  obtain _ | ⟨method, _ | ⟨flags, rest⟩⟩ := bytes
  · cases hname.1
  · cases hname.1
  · have hdigit : Object.isLowerHex (Char.ofNat flags.toNat) = true :=
      hname.2 _ (List.mem_cons_of_mem _ List.mem_cons_self)
    have hrange := isLowerHex_iff.1 hdigit
    rw [Text.toNat_ofNat_byte] at hrange
    have hbit : flags.toNat.testBit 5 = true := by
      have hall : ∀ n < 103, (48 ≤ n ∧ n ≤ 57) ∨ (97 ≤ n ∧ n ≤ 102) → n.testBit 5 = true := by
        decide
      exact hall _ (by omega) hrange
    simp only [Object.ofFile?, Deflate.decode?, hbit, Bool.or_true, if_true, Option.bind_none]

/-- A ref names an object in the file of its own. -/
structure DirectRef (r : Repository) (files : FileTree) (name : String) (id : CommitId) : Prop where
  valid : Refname.isValid name = true
  /-- No file is in the place of a directory on the way. -/
  reachable : files.isBlocked (r.refPlace name).dropLast = false
  file : ∃ f, files.file? (r.refPlace name) = some f ∧ targetOf? f.bytes = some (.object id)

namespace DirectRef

/-- The files once the ref was moved. -/
abbrev moved (r : Repository) (files : FileTree) (name : String) (new : CommitId) : FileTree :=
  files.replace (r.refPlace name) (Text.encode new.hex)

theorem file?_moved (place : List String) : (moved r files name new).file? place =
    if r.refPlace name = place then some ⟨Text.encode new.hex, false⟩ else files.file? place :=
  Table.get?_insert ..

theorem keys_moved (hd : DirectRef r files name old) :
    (moved r files name new).files.keys = files.files.keys := by
  obtain ⟨f, hf, _⟩ := hd.file
  refine Table.keys_insert ?_ _
  rw [FileTree.file?] at hf
  rw [Table.contains, hf, Option.isSome_some]

theorem move (hd : DirectRef r files name old) (hnew : IsFull new) :
    DirectRef r (moved r files name new) name new where
  valid := hd.valid
  reachable := by
    rw [FileTree.isBlocked, hd.keys_moved]
    exact hd.reachable
  file := ⟨⟨Text.encode new.hex, false⟩, by rw [file?_moved, if_pos rfl], targetOf?_encode hnew⟩

/-- Neither before nor after is there an object in the file of the ref. -/
theorem content_moved (hd : DirectRef r files name old) (hnew : IsFull new) :
    r.content (moved r files name new) = r.content files := by
  have hstored : r.stored (moved r files name new) = r.stored files := by
    funext id
    rw [stored, stored, file?_moved]
    by_cases hplace : r.refPlace name = r.objectPlace id
    · obtain ⟨f, hf, htarget⟩ := hd.file
      rw [if_pos hplace, ← hplace, hf]
      dsimp only
      rw [ofFile?_eq_none htarget, ofFile?_eq_none (targetOf?_encode hnew)]
    · rw [if_neg hplace]
  funext id
  simp only [content, object, hstored]

/-- A full name stands for the ref itself, if there is one. -/
theorem ref?_eq (hd : DirectRef r files name id) (hname : Text.startsWith "refs/" name = true) :
    r.ref? files name = .found (.object id) := by
  obtain ⟨f, hf, htarget⟩ := hd.file
  obtain ⟨rest, hrest⟩ : ∃ rest, Refname.candidates name = name :: rest := by
    rw [Refname.candidates, hname]
    split <;> simp [Refname.spaces]
  have hfile : r.refFile? files (Refname.candidates name) = some (some f) := by
    simp [hrest, refFile?, hd.reachable, hf]
  simp [ref?, hd.valid, hfile, htarget]

end DirectRef

theorem isFull_of_ref? (href : r.ref? files name = .found (.object id)) : IsFull id := by
  rw [ref?] at href
  split at href
  · cases href
  · split at href
    · cases href
    · cases href
    · split at href
      · rename_i t ht
        cases href
        exact isFull_of_targetOf? ht
      · cases href

/-- What is done to a ref that holds what is expected. -/
theorem update_eq_true (hu : r.update files name (some old) new = (true, files')) :
    DirectRef r files name old ∧ files' = DirectRef.moved r files name new := by
  rw [update] at hu
  split at hu
  · rename_i hmove
    simp only [Bool.and_eq_true, Bool.not_eq_true', Refname.isFull, isLockable, holds,
      decide_eq_true_eq, Option.bind_eq_some_iff] at hmove
    obtain ⟨⟨⟨⟨hvalid, _⟩, hreachable, _⟩, f, hf, htarget⟩, _⟩ := hmove
    exact ⟨⟨hvalid, hreachable, f, hf, htarget⟩, (congrArg Prod.snd hu).symm⟩
  · cases hu

theorem update_eq_false {expected : Option CommitId}
    (hu : r.update files name expected new = (false, files')) : files' = files := by
  rw [update] at hu
  split at hu
  · cases hu
  · exact (congrArg Prod.snd hu).symm

/-- Loose files make a repository as it is documented. -/
theorem git_lawful (r : Repository) : r.git.Lawful where
  toNamed := r.git_named
  walk := exists_walk
  peel hc := by
    obtain ⟨o, hs, hkind, _⟩ := stored_of_content hc
    simp [git, objectOf?, follow?, peel?, hs, hkind]
  target := isFull_of_ref?
  updated hname hnew hu := by
    obtain ⟨hdirect, rfl⟩ := update_eq_true hu
    exact ⟨hdirect.content_moved hnew, (hdirect.move hnew).ref?_eq hname⟩
  refused hu := by
    cases update_eq_false hu
    exact .refl _ _

end Landing.Repository
