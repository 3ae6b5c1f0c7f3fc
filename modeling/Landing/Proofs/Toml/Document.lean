import Landing.Proofs.Toml.Quoted
import Landing.Toml.Document

/-! How the lines of a document are read: comments, blank lines, headers with two names, and names
with a text. -/
namespace Landing.Toml
variable {bare more rest : List Char} {mark : Char}

/-- The characters of a key that needs no quotes. -/
structure Bare (cs : List Char) : Prop where
  ne_nil : cs ≠ []
  all : cs.all isBareKeyChar = true

instance (cs : List Char) : Decidable (Bare cs) :=
  decidable_of_iff (cs ≠ [] ∧ cs.all isBareKeyChar = true)
    ⟨fun h => ⟨h.1, h.2⟩, fun h => ⟨h.ne_nil, h.all⟩⟩

theorem Bare.exists_cons (h : Bare bare) : ∃ c cs, bare = c :: cs ∧ isBareKeyChar c = true := by
  obtain ⟨c, cs, rfl⟩ := List.exists_cons_of_ne_nil h.ne_nil
  exact ⟨c, cs, rfl, List.all_eq_true.1 h.all c List.mem_cons_self⟩

/-- A character of a bare key is none that stands for something else. -/
theorem ne_of_isBareKeyChar {c d : Char} (hc : isBareKeyChar c = true)
    (hd : isBareKeyChar d = false) : c ≠ d := by
  rintro rfl
  rw [hc] at hd
  cases hd

theorem skipSpace_cons {c : Char} (hc : isSpace c = false) : skipSpace (c :: more) = c :: more :=
  List.dropWhile_cons_of_neg (by simp [hc])

theorem isSpace_of_isBareKeyChar {c : Char} (hc : isBareKeyChar c = true) : isSpace c = false := by
  have hblank := ne_of_isBareKeyChar hc (by decide : isBareKeyChar ' ' = false)
  have htab := ne_of_isBareKeyChar hc (by decide : isBareKeyChar '\t' = false)
  simp [isSpace, hblank, htab]

theorem skipSpace_bare (h : Bare bare) : skipSpace (bare ++ more) = bare ++ more := by
  obtain ⟨c, cs, rfl, hc⟩ := h.exists_cons
  exact skipSpace_cons (isSpace_of_isBareKeyChar hc)

theorem isBareKeyChar_of_isDigitIn {base : Nat} {c : Char} (hc : Text.isDigitIn base c = true) :
    isBareKeyChar c = true := by
  rw [Text.isDigitIn, Text.digitValue?] at hc
  rw [isBareKeyChar]
  split at hc
  · rename_i n hn
    split at hn
    · simp_all
    split at hn
    · simp_all
    split at hn
    · simp_all
    · cases hn
  · cases hc

/-- The digits of a number need no quotes. -/
theorem bare_toString (n : Nat) : Bare (toString n).toList where
  ne_nil := by
    rw [Text.toList_toString]
    exact Nat.toDigits_ne_nil
  all := by
    rw [Text.toList_toString, List.all_eq_true]
    intro c hc
    exact isBareKeyChar_of_isDigitIn (Text.isDigitIn_toDigits (by decide) (by decide) n c hc)

namespace Key

theorem part?_bare (h : Bare bare) (hmark : isBareKeyChar mark = false) :
    part? (bare ++ mark :: more) = some (String.ofList bare, mark :: more) := by
  have hquoted : Quoted.oneLine? (bare ++ mark :: more) = none := by
    obtain ⟨c, cs, rfl, hc⟩ := h.exists_cons
    rw [List.cons_append, Quoted.oneLine?]
    · exact fun rest hrest => ne_of_isBareKeyChar hc (by decide) (List.cons.inj hrest).1
    · exact fun rest hrest => ne_of_isBareKeyChar hc (by decide) (List.cons.inj hrest).1
  have htake : (bare ++ mark :: more).takeWhile isBareKeyChar = bare := by
    rw [List.takeWhile_append_of_pos (List.all_eq_true.1 h.all),
      List.takeWhile_cons_of_neg (by simp [hmark]), List.append_nil]
  have hempty : bare.isEmpty = false := by simpa using h.ne_nil
  rw [part?, hquoted]
  simp [htake, hempty]

/-- A name that ends the key, in front of its mark, with or without spaces. -/
theorem parts?_last {limit : Nat} {c : Char} (h : Bare bare) (hc : isBareKeyChar c = false)
    (hrest : skipSpace (c :: more) = mark :: rest) (hmark : mark ≠ '.') :
    parts? (limit + 1) (bare ++ c :: more) = some ([String.ofList bare], mark :: rest) := by
  rw [parts?, skipSpace_bare h, part?_bare h hc]
  simp only [hrest]
  split
  · rename_i hdot
    exact absurd (List.cons.inj hdot).1 hmark
  · rfl

theorem parts?_cons {limit : Nat} (h : Bare bare) :
    parts? (limit + 1) (bare ++ '.' :: more) =
      (parts? limit more).map fun (parts, rest) => (String.ofList bare :: parts, rest) := by
  rw [parts?, skipSpace_bare h, part?_bare h (by decide)]
  rfl

end Key

/-- A text is read as a value. -/
theorem Value.read?_ofText (s : String) (hmore : more.head? ≠ some '"') :
    Value.read? (Quoted.ofText s ++ more) = some (.text s, more) := by
  have hvalue := Quoted.any?_ofText s hmore
  rw [read?, any?]
  · simp [hvalue]
  · exact fun rest hrest => absurd (List.cons.inj hrest).1 (by decide)
  · exact fun rest hrest => absurd (List.cons.inj hrest).1 (by decide)

namespace Document
variable {d d' : Document} {cs : List Char} {fuel : Nat}

@[simp] theorem endOfLine?_break : endOfLine? ('\n' :: more) = some more := rfl

theorem endOfLine?_comment (hplain : bare.all isPlain = true) :
    endOfLine? ('#' :: (bare ++ '\n' :: more)) = some more := by
  have hrest : (bare ++ '\n' :: more).dropWhile isPlain = '\n' :: more := by
    rw [List.dropWhile_append_of_pos (List.all_eq_true.1 hplain)]
    rfl
  rw [endOfLine?, skipSpace_cons (by decide)]
  simp only [hrest]
  rfl

theorem read_line (hcs : cs ≠ []) (hstatement : d.statement? cs = some (d', rest))
    (hend : endOfLine? rest = some more) : read (fuel + 1) d cs = read fuel d' more := by
  rw [read]
  · simp only [hstatement, hend]
  · exact hcs

/-- A line on which nothing stands but perhaps a comment. -/
theorem read_silent {c : Char} (hspace : isSpace c = false) (hheader : c ≠ '[')
    (hend : endOfLine? (c :: cs) = some more) : read (fuel + 1) d (c :: cs) = read fuel d more := by
  apply read_line (List.cons_ne_nil _ _) _ hend
  rw [statement?, skipSpace_cons hspace]
  split
  · rename_i h
    exact absurd (List.cons.inj h).1 hheader
  · rename_i h
    exact absurd (List.cons.inj h).1 hheader
  · rw [hend]

theorem read_comment (hplain : bare.all isPlain = true) :
    read (fuel + 1) d ('#' :: (bare ++ '\n' :: more)) = read fuel d more :=
  read_silent (by decide) (by decide) (endOfLine?_comment hplain)

theorem read_break : read (fuel + 1) d ('\n' :: more) = read fuel d more :=
  read_silent (by decide) (by decide) endOfLine?_break

/-- The header of a table within a table. -/
theorem read_header {outer inner : String} {entries : Tree.Entries} (houter : Bare outer.toList)
    (hinner : Bare inner.toList)
    (hentries : Tree.within (Tree.head inner) [outer] d.entries = some entries) :
    read (fuel + 1) d ('[' :: (outer.toList ++ '.' :: (inner.toList ++ ']' :: '\n' :: more))) =
      read fuel ⟨entries, [outer, inner]⟩ more := by
  have hkey : Key.any? (outer.toList ++ '.' :: (inner.toList ++ ']' :: '\n' :: more)) =
      some ([outer, inner], ']' :: '\n' :: more) := by
    rw [Key.any?, Key.depthLimit, Key.parts?_cons houter,
      Key.parts?_last hinner (by decide) (skipSpace_cons (by decide)) (by decide)]
    simp only [String.ofList_toList, Option.map_some]
  have hheader : d.header? (outer.toList ++ '.' :: (inner.toList ++ ']' :: '\n' :: more)) =
      some (⟨entries, [outer, inner]⟩, '\n' :: more) := by
    rw [header?, hkey]
    simp [hentries]
  apply read_line (List.cons_ne_nil _ _) _ endOfLine?_break
  rw [statement?, skipSpace_cons (by decide)]
  split
  · rename_i hlist
    obtain ⟨c, cs, hcons, hc⟩ := houter.exists_cons
    rw [hcons] at hlist
    exact absurd (List.cons.inj (List.cons.inj hlist).2).1 (ne_of_isBareKeyChar hc (by decide))
  · rename_i hone
    obtain rfl := (List.cons.inj hone).2
    exact hheader
  · rename_i _ hnone
    exact absurd rfl (hnone _)

theorem endOfLine?_bare (h : Bare bare) : endOfLine? (bare ++ more) = none := by
  obtain ⟨c, cs, rfl, hc⟩ := h.exists_cons
  have hline : lineEnd? (c :: (cs ++ more)) = none := by
    rw [lineEnd?]
    · exact fun rest hrest => ne_of_isBareKeyChar hc (by decide) (List.cons.inj hrest).1
    · exact fun rest hrest => ne_of_isBareKeyChar hc (by decide) (List.cons.inj hrest).1
  rw [endOfLine?, skipSpace_bare h, List.cons_append]
  split
  · rename_i hcomment
    exact absurd (List.cons.inj hcomment).1 (ne_of_isBareKeyChar hc (by decide))
  · simp [hline]

/-- A name with a text. -/
theorem read_text {name : String} {entries : Tree.Entries} (s : String) (hname : Bare name.toList)
    (hentries : Tree.within (Tree.assign (.text s) [name]) d.current d.entries = some entries) :
    read (fuel + 1) d (name.toList ++ ' ' :: '=' :: ' ' :: (Quoted.ofText s ++ '\n' :: more)) =
      read fuel ⟨entries, d.current⟩ more := by
  have hkey : Key.any? (name.toList ++ ' ' :: '=' :: ' ' :: (Quoted.ofText s ++ '\n' :: more)) =
      some ([name], '=' :: ' ' :: (Quoted.ofText s ++ '\n' :: more)) := by
    rw [Key.any?, Key.depthLimit, Key.parts?_last hname (by decide) rfl (by decide),
      String.ofList_toList]
  have hskip : skipSpace (' ' :: (Quoted.ofText s ++ '\n' :: more)) =
      Quoted.ofText s ++ '\n' :: more := rfl
  have hvalue : Value.read? (Quoted.ofText s ++ '\n' :: more) = some (.text s, '\n' :: more) :=
    Value.read?_ofText s (by simp)
  apply read_line (by simp) _ endOfLine?_break
  rw [statement?, skipSpace_bare hname]
  obtain ⟨c, cs, hcons, hc⟩ := hname.exists_cons
  split
  · rename_i hlist
    rw [hcons] at hlist
    exact absurd (List.cons.inj hlist).1 (ne_of_isBareKeyChar hc (by decide))
  · rename_i hone
    rw [hcons] at hone
    exact absurd (List.cons.inj hone).1 (ne_of_isBareKeyChar hc (by decide))
  · rw [endOfLine?_bare hname]
    simp only [pair?, hkey, hskip, hvalue, hentries]
    rfl

end Document

/-- A text without a byte order mark is the document that its lines make. -/
theorem parse_of_read {s : String} {c : Char} {cs : List Char} {d : Document}
    (hs : s.toList = c :: cs) (hc : c ≠ '\ufeff')
    (hread : Document.read (s.toList.length + 1) {} s.toList = .ok d) :
    parse s = .ok (.fields (Tree.entriesToData d.entries)) := by
  unfold parse
  extract_lets text
  have htext : text = s.toList := by
    simp only [text]
    split
    · rename_i hmark
      rw [hs] at hmark
      exact absurd (List.cons.inj hmark).1 hc
    · rfl
  rw [htext, hread]

end Landing.Toml
