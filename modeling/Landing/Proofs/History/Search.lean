import Landing.Proofs.History.Ancestry

/-! Breadth-first searches see what their starts reach, within the fuel they are given. -/
namespace Landing.History
variable {h : History} {ids : List CommitId}

/-- A search on its way. Parents of what was seen were seen too or wait in the queue, and all of it
lies below `ids`. -/
structure Frontier (h : History) (ids seen queue : List CommitId) : Prop where
  nodup : seen.Nodup
  parents : ∀ c ∈ seen, ∀ p, h.Parent p c → p ∈ seen ∨ p ∈ queue
  below_seen : ∀ x ∈ seen, h.Below ids x
  below_queue : ∀ x ∈ queue, h.Below ids x

namespace Frontier
variable {seen queue rest : List CommitId} {id : CommitId}

theorem start (h : History) (ids : List CommitId) : h.Frontier ids [] ids :=
  ⟨List.nodup_nil, by simp, by simp, fun _ hx => .of_mem hx⟩

theorem skip (hf : h.Frontier ids seen (id :: rest)) (hid : id ∈ seen) :
    h.Frontier ids seen rest where
  nodup := hf.nodup
  parents c hc p hp := by
    rcases hf.parents c hc p hp with hp | hp
    · exact .inl hp
    · rcases List.mem_cons.1 hp with rfl | hp
      · exact .inl hid
      · exact .inr hp
  below_seen := hf.below_seen
  below_queue x hx := hf.below_queue x (List.mem_cons_of_mem _ hx)

theorem expand (hf : h.Frontier ids seen (id :: rest)) (hid : id ∉ seen) {c : Commit}
    (hc : h.read id = .ok c) : h.Frontier ids (id :: seen) (rest ++ c.parents) where
  nodup := List.nodup_cons.2 ⟨hid, hf.nodup⟩
  parents d hd p hp := by
    rcases List.mem_cons.1 hd with rfl | hd
    · exact .inr (List.mem_append_right _ ((parent_iff hc).1 hp))
    · rcases hf.parents d hd p hp with hp | hp
      · exact .inl (List.mem_cons_of_mem _ hp)
      · rcases List.mem_cons.1 hp with rfl | hp
        · exact .inl (List.mem_cons_self ..)
        · exact .inr (List.mem_append_left _ hp)
  below_seen x hx := by
    rcases List.mem_cons.1 hx with rfl | hx
    · exact hf.below_queue x (List.mem_cons_self ..)
    · exact hf.below_seen x hx
  below_queue x hx := by
    rcases List.mem_append.1 hx with hx | hx
    · exact hf.below_queue x (List.mem_cons_of_mem _ hx)
    · exact (hf.below_queue id (List.mem_cons_self ..)).trans ((parent_iff hc).2 hx).reaches

/-- With an empty queue everything below was seen. -/
theorem mem_of_reaches (hf : h.Frontier ids seen []) {x y : CommitId} (hxy : h.Reaches x y)
    (hy : y ∈ seen) : x ∈ seen := by
  induction hxy with
  | refl => exact hy
  | step _ hp ih =>
    rcases hf.parents _ hy _ hp with hp | hp
    · exact ih hp
    · simp at hp

end Frontier

/-- A search whose fuel covers the queue and all that was not seen. -/
structure Frontier.Fueled (h : History) (ids : List CommitId) (n : Nat)
    (seen queue : List CommitId) : Prop extends h.Frontier ids seen queue where
  fuel : queue.length + h.size ≤ n + h.cost seen

namespace Frontier.Fueled
variable {n : Nat} {seen rest : List CommitId} {id : CommitId}

theorem skip (hf : Fueled h ids (n + 1) seen (id :: rest)) (hid : id ∈ seen) :
    Fueled h ids n seen rest where
  toFrontier := hf.toFrontier.skip hid
  fuel := by
    have hfuel := hf.fuel
    rw [List.length_cons] at hfuel
    omega

theorem expand (hf : Fueled h ids (n + 1) seen (id :: rest)) (hid : id ∉ seen) {c : Commit}
    (hc : h.read id = .ok c) : Fueled h ids n (id :: seen) (rest ++ c.parents) where
  toFrontier := hf.toFrontier.expand hid hc
  fuel := by
    have hfuel := hf.fuel
    simp only [List.length_cons, List.length_append, cost_cons, weight_of_read hc] at hfuel ⊢
    omega

theorem not_bounded (hf : Fueled h ids 0 seen (id :: rest)) : ¬ h.Bounded ids := by
  intro hb
  have hcost := hb seen hf.nodup hf.below_seen
  have hfuel := hf.fuel
  rw [List.length_cons] at hfuel
  omega

end Frontier.Fueled

open Frontier (Fueled)
variable {n : Nat} {seen queue l : List CommitId} {target : CommitId} {e : Error}

/-- A parent of the first commit of a queue waits at the end of the next queue. -/
private theorem below_queue {id x : CommitId} {rest : List CommitId} {c : Commit}
    (hc : h.read id = .ok c) (hx : h.Below (rest ++ c.parents) x) : h.Below (id :: rest) x := by
  refine hx.of_below fun y hy => ?_
  rcases List.mem_append.1 hy with hy | hy
  · exact .of_mem (List.mem_cons_of_mem id hy)
  · exact ⟨id, List.mem_cons_self, ((parent_iff hc).2 hy).reaches⟩

private theorem closure_of_ok (hf : h.Frontier ids seen queue) (hr : ∀ x ∈ seen, h.Readable x)
    (hl : closure h.read n seen queue = .ok l) :
    h.Frontier ids l [] ∧ seen ⊆ l ∧ queue ⊆ l ∧ ∀ x ∈ l, h.Readable x := by
  fun_induction closure h.read n seen queue with
  | case1 n seen =>
    cases hl
    exact ⟨hf, List.Subset.refl _, List.nil_subset _, hr⟩
  | case2 => cases hl
  | case3 n seen id rest hid ih =>
    have hid : id ∈ seen := List.contains_iff_mem.1 hid
    obtain ⟨hfl, hseen, hrest, hreadable⟩ := ih (hf.skip hid) hr hl
    exact ⟨hfl, hseen, List.cons_subset.2 ⟨hseen hid, hrest⟩, hreadable⟩
  | case4 => cases hl
  | case5 n seen id rest hid c hc ih =>
    have hid : id ∉ seen := fun hm => hid (List.contains_iff_mem.2 hm)
    obtain ⟨hfl, hseen, hrest, hreadable⟩ :=
      ih (hf.expand hid hc) (List.forall_mem_cons.2 ⟨⟨c, hc⟩, hr⟩) hl
    rw [List.cons_subset] at hseen
    rw [List.append_subset] at hrest
    exact ⟨hfl, hseen.2, List.cons_subset.2 ⟨hseen.1, hrest.1⟩, hreadable⟩

private theorem closure_error (he : closure h.read n seen queue = .error e) :
    (∃ x, h.Below queue x ∧ h.read x = .error e) ∨
      e = endless ∧ ∀ ids, Fueled h ids n seen queue → ¬ h.Bounded ids := by
  fun_induction closure h.read n seen queue with
  | case1 => cases he
  | case2 =>
    cases he
    exact .inr ⟨rfl, fun _ => Fueled.not_bounded⟩
  | case3 n seen id rest hid ih =>
    have hid : id ∈ seen := List.contains_iff_mem.1 hid
    rcases ih he with ⟨x, hx, hread⟩ | ⟨hend, hfuel⟩
    · exact .inl ⟨x, hx.mono (List.subset_cons_self id rest), hread⟩
    · exact .inr ⟨hend, fun ids hf => hfuel ids (hf.skip hid)⟩
  | case4 n seen id rest hid e' hread =>
    cases he
    exact .inl ⟨id, .of_mem List.mem_cons_self, hread⟩
  | case5 n seen id rest hid c hc ih =>
    have hid : id ∉ seen := fun hm => hid (List.contains_iff_mem.2 hm)
    rcases ih he with ⟨x, hx, hread⟩ | ⟨hend, hfuel⟩
    · exact .inl ⟨x, below_queue hc hx, hread⟩
    · exact .inr ⟨hend, fun ids hf => hfuel ids (hf.expand hid hc)⟩

/-- What is found is all that some commits reach, and was read. -/
theorem reachable_of_ok (hl : h.reachable ids = .ok l) :
    (∀ x, x ∈ l ↔ h.Below ids x) ∧ ∀ x ∈ l, h.Readable x := by
  obtain ⟨hf, _, hids, hr⟩ := closure_of_ok (.start h ids) (by simp) hl
  refine ⟨fun x => ⟨hf.below_seen x, ?_⟩, hr⟩
  rintro ⟨id, hid, hx⟩
  exact hf.mem_of_reaches hx (hids hid)

/-- What some commits reach is found, if it is finite and all of it can be read. -/
theorem reachable_error (he : h.reachable ids = .error e) :
    (∃ x, h.Below ids x ∧ h.read x = .error e) ∨ e = endless ∧ ¬ h.Bounded ids :=
  (closure_error he).imp_right fun hend => ⟨hend.1, hend.2 ids ⟨.start h ids, by simp; omega⟩⟩

theorem Readable.read_ne_error {x : CommitId} (hr : h.Readable x) : h.read x ≠ .error e := by
  obtain ⟨c, hc⟩ := hr
  simp [hc]

theorem exists_reachable (hb : h.Bounded ids) (hr : ∀ x, h.Below ids x → h.Readable x) :
    ∃ l, h.reachable ids = .ok l ∧ ∀ x, x ∈ l ↔ h.Below ids x := by
  cases hl : h.reachable ids with
  | ok l => exact ⟨l, rfl, (reachable_of_ok hl).1⟩
  | error e =>
    rcases reachable_error hl with ⟨x, hx, hread⟩ | ⟨_, hn⟩
    · exact absurd hread (hr x hx).read_ne_error
    · exact absurd hb hn

private theorem below_of_search (hs : search h.read target n seen queue = .ok true) :
    h.Below queue target := by
  fun_induction search h.read target n seen queue with
  | case1 => cases hs
  | case2 => cases hs
  | case3 n seen rest => exact .of_mem List.mem_cons_self
  | case4 n seen id rest hne hid ih => exact (ih hs).mono (List.subset_cons_self id rest)
  | case5 => cases hs
  | case6 n seen id rest hne hid c hc ih => exact below_queue hc (ih hs)

/-- A search that does not find its target goes where the closure goes. -/
private theorem search_eq_closure {read : Reader} (htarget : target ∉ seen)
    (hs : search read target n seen queue ≠ .ok true) :
    search read target n seen queue = (closure read n seen queue).map (fun _ => false) ∧
      ∀ l, closure read n seen queue = .ok l → target ∉ l := by
  fun_induction search read target n seen queue with
  | case1 n seen =>
    rw [closure]
    refine ⟨rfl, fun l hl => ?_⟩
    cases hl
    exact htarget
  | case2 => exact ⟨rfl, fun _ hl => by cases hl⟩
  | case3 => exact absurd rfl hs
  | case4 n seen id rest hne hid ih =>
    rw [closure, if_pos hid]
    exact ih htarget hs
  | case5 n seen id rest hne hid e hread =>
    simp only [closure, if_neg hid, hread]
    exact ⟨rfl, fun _ hl => by cases hl⟩
  | case6 n seen id rest hne hid c hc ih =>
    simp only [closure, if_neg hid, hc]
    exact ih (fun hm => (List.mem_cons.1 hm).elim (fun he => hne he.symm) htarget) hs

/-- What a search from a commit comes to. It does not fail but at a commit that it should read, if
`size` allows for all of them. -/
theorem search_cases (h : History) (x y : CommitId) :
    search h.read x (h.size + 1) [] [y] = .ok true ∧ h.Reaches x y ∨
    (search h.read x (h.size + 1) [] [y] = .ok false ∧ ¬ h.Reaches x y ∧
      ∀ z, h.Reaches z y → h.Readable z) ∨
    ∃ e, search h.read x (h.size + 1) [] [y] = .error e ∧
      ((∃ z, h.Reaches z y ∧ h.read z = .error e) ∨ e = endless ∧ ¬ h.Bounded [y]) := by
  by_cases hs : search h.read x (h.size + 1) [] [y] = .ok true
  · exact .inl ⟨hs, below_singleton.1 (below_of_search hs)⟩
  have hsame : closure h.read (h.size + 1) [] [y] = h.reachable [y] := rfl
  obtain ⟨hsearch, hfresh⟩ := search_eq_closure List.not_mem_nil hs
  rw [hsame] at hsearch hfresh
  cases hl : h.reachable [y] with
  | ok l =>
    obtain ⟨hmem, hr⟩ := reachable_of_ok hl
    simp only [below_singleton] at hmem
    exact .inr (.inl ⟨by rw [hsearch, hl]; rfl, fun hx => hfresh l hl ((hmem x).2 hx),
      fun z hz => hr z ((hmem z).2 hz)⟩)
  | error e =>
    refine .inr (.inr ⟨e, by rw [hsearch, hl]; rfl, ?_⟩)
    simpa using reachable_error hl

/-- A history that asks by searching answers rightly, so that it is legible where its size covers
what is there, and all of it can be read. -/
theorem legible_of_search (hb : h.Bounded ids) (hr : ∀ x, h.Below ids x → h.Readable x)
    (hs : ∀ x ∈ ids, ∀ y ∈ ids, h.isAncestor x y = search h.read x (h.size + 1) [] [y]) :
    h.Legible ids where
  bounded := hb
  readable := hr
  ancestry x hx y hy := by
    rw [hs x hx y hy]
    have hbelow : ∀ {z}, h.Reaches z y → h.Below ids z := fun hz => ⟨y, hy, hz⟩
    rcases search_cases h x y with ⟨htrue, hreach⟩ | ⟨hfalse, hreach, _⟩ | ⟨e, _, hfail⟩
    · exact ⟨true, htrue, by simpa using hreach⟩
    · exact ⟨false, hfalse, by simpa using hreach⟩
    · rcases hfail with ⟨z, hz, hread⟩ | ⟨_, hn⟩
      · exact absurd hread (hr z (hbelow hz)).read_ne_error
      · exact absurd (hb.mono (by simpa using Below.of_mem hy)) hn

theorem legible_ofReader {size : Nat} {read : Reader} (hb : (ofReader size read).Bounded ids)
    (hr : ∀ x, (ofReader size read).Below ids x → (ofReader size read).Readable x) :
    (ofReader size read).Legible ids :=
  legible_of_search hb hr fun _ _ _ _ => rfl

theorem intact_ofReader {size : Nat} {read : Reader} (ha : (ofReader size read).Acyclic)
    (hb : (ofReader size read).Bounded ids)
    (hr : ∀ x, (ofReader size read).Below ids x → (ofReader size read).Readable x) :
    (ofReader size read).Intact ids where
  acyclic := ha
  bounded := hb
  readable := hr
  ancestry := (legible_ofReader hb hr).ancestry

end Landing.History
