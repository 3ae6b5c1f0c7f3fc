import Landing.Proofs.History.Graph
import Mathlib.Logic.Relation

/-! Walks without an end. A commit is done with only when its mark is met, so a traversal that comes
to a commit above its own mark expands it again, and goes round for ever. No other traversal of a
finite history does. Main statement: `order_endless_iff`. -/
namespace Landing.Traversal
open History Relation

section Loop
variable {read : Reader} {hidden : List CommitId} {t t' : Traversal}

/-- `n` turns of the loop. -/
def steps (read : Reader) (hidden : List CommitId) : (n : Nat) → Traversal → Except Error Traversal
  | 0, t => .ok t
  | n + 1, t =>
    match t.step read hidden with
    | .error e => .error e
    | .ok t' => steps read hidden n t'

/-- No turn fails, and none empties the stack. -/
def Forever (read : Reader) (hidden : List CommitId) (t : Traversal) : Prop :=
  ∀ n, ∃ t', t.steps read hidden n = .ok t' ∧ t'.stack ≠ []

namespace Forever

theorem stack_ne_nil (hf : Forever read hidden t) : t.stack ≠ [] := by
  obtain ⟨t', ht, hstack⟩ := hf 0
  cases ht
  exact hstack

theorem step (hf : Forever read hidden t) :
    ∃ t', t.step read hidden = .ok t' ∧ Forever read hidden t' := by
  cases ht : t.step read hidden with
  | error e =>
    obtain ⟨t', hsteps, _⟩ := hf 1
    rw [steps, ht] at hsteps
    cases hsteps
  | ok t' =>
    refine ⟨t', rfl, fun n => ?_⟩
    have hsteps := hf (n + 1)
    rwa [steps, ht] at hsteps

theorem of_step (hstack : t.stack ≠ []) (ht : t.step read hidden = .ok t')
    (hf : Forever read hidden t') : Forever read hidden t := by
  intro n
  cases n with
  | zero => exact ⟨t, rfl, hstack⟩
  | succ n =>
    rw [steps, ht]
    exact hf n

/-- No fuel is enough. -/
theorem run (hf : Forever read hidden t) (n : Nat) : run read hidden n t = .error endless := by
  have hstack {t : Traversal} (hf : Forever read hidden t) : ¬ t.stack.isEmpty = true := by
    simpa using hf.stack_ne_nil
  induction n generalizing t with
  | zero => rw [Traversal.run, if_neg (hstack hf)]
  | succ n ih =>
    obtain ⟨t', ht, hf'⟩ := hf.step
    rw [Traversal.run, if_neg (hstack hf), ht]
    exact ih hf'

end Forever

/-- A traversal goes on from `c` to `p`, the first of its parents that is not done with. -/
def Next (read : Reader) (hidden emitted : List CommitId) (c p : CommitId) : Prop :=
  ∃ commit, read c = .ok commit ∧
    (commit.parents.filter (isVisible hidden emitted)).head? = some p

/-- From the commit on top a traversal comes back to it. -/
def Trapped (read : Reader) (hidden : List CommitId) (t : Traversal) : Prop :=
  ∃ c rest, t.stack = (c, false) :: rest ∧ TransGen (Next read hidden t.emitted) c c

theorem Next.isVisible {emitted : List CommitId} {c p : CommitId}
    (hn : Next read hidden emitted c p) : isVisible hidden emitted p = true := by
  obtain ⟨commit, _, hhead⟩ := hn
  exact (List.mem_filter.1 (List.mem_of_head? hhead)).2

theorem Trapped.step (ht : Trapped read hidden t) :
    ∃ t', t.step read hidden = .ok t' ∧ Trapped read hidden t' := by
  obtain ⟨c, rest, hstack, hround⟩ := ht
  obtain ⟨stack, emitted⟩ := t
  obtain rfl : stack = (c, false) :: rest := hstack
  obtain ⟨b, _, hlast⟩ := TransGen.tail'_iff.1 hround
  obtain ⟨p, hnext, hback⟩ := TransGen.head'_iff.1 hround
  have hround' : TransGen (Next read hidden emitted) p p := TransGen.tail' hback hnext
  obtain ⟨commit, hread, hhead⟩ := hnext
  obtain ⟨ps, hparents⟩ := List.head?_eq_some_iff.1 hhead
  refine ⟨⟨(p :: ps).map (·, false) ++ (c, true) :: rest, emitted⟩, ?_, p, _, rfl, hround'⟩
  rw [Traversal.step]
  simp only [hlast.isVisible, hread, hparents]
  rfl

theorem Trapped.forever (ht : Trapped read hidden t) : Forever read hidden t := by
  intro n
  induction n generalizing t with
  | zero =>
    obtain ⟨c, rest, hstack, _⟩ := ht
    exact ⟨t, rfl, by simp [hstack]⟩
  | succ n ih =>
    obtain ⟨t', hstep, ht'⟩ := ht.step
    rw [steps, hstep]
    exact ih ht'

/-- The parents of a marked commit that are not done with are those above its mark, up to the next
mark, whose commit is one of them. `above` are those met before the stack. -/
inductive Threaded (read : Reader) (visible : CommitId → Bool) :
    (above : List CommitId) → List (CommitId × Bool) → Prop where
  | nil {above} : Threaded read visible above []
  | waiting {above id rest} : Threaded read visible (above ++ [id]) rest →
      Threaded read visible above ((id, false) :: rest)
  | expanded {above id commit rest} : read id = .ok commit →
      commit.parents.filter visible = above.filter visible → Threaded read visible [id] rest →
      Threaded read visible above ((id, true) :: rest)

namespace Threaded
variable {visible visible' : CommitId → Bool} {above above' : List CommitId}
  {stack : List (CommitId × Bool)}

theorem congr (ht : Threaded read visible above stack)
    (hsame : above.filter visible = above'.filter visible) :
    Threaded read visible above' stack := by
  induction ht generalizing above' with
  | nil => exact .nil
  | waiting _ ih => exact .waiting (ih (by rw [List.filter_append, List.filter_append, hsame]))
  | expanded hread hparents hrest _ => exact .expanded hread (hparents.trans hsame) hrest

/-- Fewer commits may be left to do. -/
theorem mono (ht : Threaded read visible above stack)
    (hless : ∀ x, visible' x = true → visible x = true) :
    Threaded read visible' above stack := by
  have hfilter (l : List CommitId) : (l.filter visible).filter visible' = l.filter visible' := by
    rw [List.filter_filter]
    refine List.filter_congr fun x _ => ?_
    cases hx : visible' x with
    | false => rfl
    | true => rw [hless x hx]; rfl
  induction ht with
  | nil => exact .nil
  | waiting _ ih => exact .waiting ih
  | expanded hread hparents _ ih =>
    exact .expanded hread (by rw [← hfilter, hparents, hfilter]) ih

theorem tail {id : CommitId} {expanded : Bool}
    (ht : Threaded read visible [] ((id, expanded) :: stack)) :
    Threaded read visible [id] stack := by
  cases ht <;> assumption

theorem push {ids : List CommitId} (ht : Threaded read visible (above ++ ids) stack) :
    Threaded read visible above (ids.map (·, false) ++ stack) := by
  induction ids generalizing above with
  | nil => exact List.append_nil above ▸ ht
  | cons id ids ih => exact .waiting (ih (List.append_assoc above [id] ids ▸ ht))

theorem start (id : CommitId) : Threaded read visible [] [(id, false)] := .waiting .nil

theorem step (ht : Threaded read (isVisible hidden t.emitted) [] t.stack)
    (hstep : t.step read hidden = .ok t') :
    Threaded read (isVisible hidden t'.emitted) [] t'.stack := by
  obtain ⟨_ | ⟨⟨id, expanded⟩, rest⟩, emitted⟩ := t
  · cases hstep
    exact ht
  rw [Traversal.step] at hstep
  dsimp only at hstep ht
  split at hstep
  · rename_i hid
    cases hstep
    exact ht.tail.congr (by simpa using hid)
  · split at hstep
    · -- a commit that is emitted is done with
      cases hstep
      have hless (x : CommitId) (hx : isVisible hidden (id :: emitted) x = true) :
          isVisible hidden emitted x = true :=
        isVisible_iff.2 ((isVisible_iff.1 hx).imp_right fun hx hmem =>
          hx (List.mem_cons_of_mem id hmem))
      exact (ht.tail.mono hless).congr (by simp [isVisible])
    · split at hstep
      · cases hstep
      · rename_i commit hread
        cases hstep
        exact .push (.expanded hread (by simp [List.filter_filter]) ht.tail)

/-- From a marked commit a traversal has come to the first that is not done with. -/
theorem next {emitted : List CommitId} {x y : CommitId}
    (ht : Threaded read (isVisible hidden emitted) above stack)
    (hmarked : ∀ z ∈ marked stack, isVisible hidden emitted z = true) (hx : x ∈ marked stack)
    (hy : (above.filter (isVisible hidden emitted)).head? = some y) :
    TransGen (Next read hidden emitted) x y := by
  induction ht generalizing y with
  | nil => cases hx
  | waiting _ ih =>
    refine ih hmarked hx ?_
    rw [List.filter_append, List.head?_append, hy]
    rfl
  | @expanded above id commit rest hread hparents _ ih =>
    have hnext : Next read hidden emitted id y := ⟨commit, hread, hparents ▸ hy⟩
    rw [marked_cons_true] at hmarked hx
    rcases List.mem_cons.1 hx with rfl | hx
    · exact .single hnext
    · obtain ⟨hid, hmarked⟩ := List.forall_mem_cons.1 hmarked
      exact (ih hmarked hx (by simp [hid])).tail hnext

end Threaded

end Loop

section Fuel
variable {h : History} {hidden ids emitted : List CommitId} {n : Nat} {t : Traversal}

/-- A traversal that is met above a mark of its own is trapped there. -/
theorem trapped_of_marked {id : CommitId} {rest : List (CommitId × Bool)}
    (hf : Fueled h hidden ids n t) (ht : Threaded h.read (isVisible hidden t.emitted) [] t.stack)
    (htop : t.stack = (id, false) :: rest) (hid : id ∈ marked rest) :
    Trapped h.read hidden t := by
  have hvisible := hf.visible
  rw [htop] at ht hvisible
  have hmarked : ∀ z ∈ marked rest, isVisible hidden t.emitted z = true :=
    fun z hz => isVisible_iff.2 (hvisible z hz)
  exact ⟨id, rest, htop, ht.tail.next hmarked hid (by simp [hmarked id hid])⟩

/-- In a finite history a traversal uses up its fuel only where no fuel is enough. -/
theorem forever_of_run (hb : h.Bounded ids) (hread : ∀ x, h.read x ≠ .error endless)
    (hf : Fueled h hidden ids n t) (ht : Threaded h.read (isVisible hidden t.emitted) [] t.stack)
    (he : run h.read hidden n t = .error endless) : Forever h.read hidden t := by
  induction n generalizing t with
  | zero =>
    rw [run] at he
    split at he
    · cases he
    · rename_i hstack
      exact absurd hb (hf.not_bounded (by simpa using hstack))
  | succ n ih =>
    rw [run] at he
    split at he
    · cases he
    rename_i hstack
    replace hstack : t.stack ≠ [] := by simpa using hstack
    split at he
    · rename_i hstep
      obtain ⟨x, _, _, hx⟩ := step_error hstep
      cases he
      exact absurd hx (hread x)
    · rename_i t' hstep
      by_cases hmet : ∃ id rest, t.stack = (id, false) :: rest ∧ id ∈ marked rest
      · obtain ⟨id, rest, htop, hid⟩ := hmet
        exact (trapped_of_marked hf ht htop hid).forever
      · have hfresh : ∀ id rest, t.stack = (id, false) :: rest → id ∉ hidden → id ∉ marked rest :=
          fun id rest htop _ hid => hmet ⟨id, rest, htop, hid⟩
        exact .of_step hstack hstep (ih (hf.step hfresh hstack hstep) (ht.step hstep) he)

theorem run_endless_iff (hidden : List CommitId) (hb : ∀ ids, h.Bounded ids)
    (hread : ∀ x, h.read x ≠ .error endless) (hemitted : emitted.Nodup) (start : CommitId) :
    run h.read hidden (h.size + 1) ⟨[(start, false)], emitted⟩ = .error endless ↔
      Forever h.read hidden ⟨[(start, false)], emitted⟩ := by
  refine ⟨fun he => ?_, fun hf => hf.run _⟩
  have hfueled : Fueled h hidden (start :: emitted) (h.size + 1) ⟨[(start, false)], emitted⟩ :=
    .start (.of_mem List.mem_cons_self) hemitted fun x hx => .of_mem (List.mem_cons_of_mem _ hx)
  exact forever_of_run (hb _) hread hfueled (.start start) he

end Fuel

end Landing.Traversal

namespace Landing.History
open Traversal
variable {h : History} {hidden emitted : List CommitId}

/-- The starts are traversed one after the other up to one at which the traversal has no end. -/
def GoesOn (h : History) (hidden emitted starts : List CommitId) : Prop :=
  ∃ before start after emitted', starts = before ++ start :: after ∧
    h.traverse hidden emitted before = .ok emitted' ∧
    Forever h.read hidden ⟨[(start, false)], emitted'⟩

theorem traverse_endless_iff (starts : List CommitId) (hb : ∀ ids, h.Bounded ids)
    (hread : ∀ x, h.read x ≠ .error endless) (hs : h.Stacked (· ∈ hidden) emitted) :
    h.traverse hidden emitted starts = .error endless ↔ h.GoesOn hidden emitted starts := by
  induction starts generalizing emitted with
  | nil => simp [traverse, GoesOn]
  | cons start rest ih =>
    have hloop := run_endless_iff hidden hb hread hs.nodup start
    constructor
    · intro he
      rw [traverse] at he
      split at he
      · rename_i e hrun
        cases he
        exact ⟨[], start, rest, emitted, rfl, rfl, hloop.1 hrun⟩
      · rename_i l hrun
        obtain ⟨before, start', after, emitted', rfl, hbefore, hforever⟩ :=
          (ih ((Climbing.start hs start).run hrun).1).1 he
        exact ⟨start :: before, start', after, emitted', rfl, by rw [traverse, hrun]; exact hbefore,
          hforever⟩
    · rintro ⟨_ | ⟨_, before⟩, start', after, emitted', hstarts, hbefore, hforever⟩
      · cases hstarts
        cases hbefore
        rw [traverse, hloop.2 hforever]
      · cases hstarts
        rw [traverse] at hbefore ⊢
        split at hbefore
        · cases hbefore
        · rename_i l hrun
          exact (ih ((Climbing.start hs start).run hrun).1).2
            ⟨before, start', after, emitted', rfl, hbefore, hforever⟩

end Landing.History

namespace Landing.Graph
open History
variable {g : Graph}

private theorem read_ne_endless (g : Graph) (id : CommitId) :
    g.history.read id ≠ .error endless := by
  have hread : g.history.read id = g.read id := rfl
  rw [hread, read]
  split
  · rw [Error.corruptObject, endless]
    simp
  · split <;> simp [endless]

theorem reachable_ne_endless (g : Graph) (ids : List CommitId) :
    g.history.reachable ids ≠ .error endless := by
  intro he
  rcases reachable_error he with ⟨x, _, hread⟩ | ⟨_, hn⟩
  · exact g.read_ne_endless x hread
  · exact hn (g.bounded ids)

theorem isAncestor_ne_endless (g : Graph) (x y : CommitId) :
    g.history.isAncestor x y ≠ .error endless := by
  intro he
  obtain ⟨id, hread⟩ := ancestry_error he
  exact g.read_ne_endless id hread

theorem order_eq_endless_iff {starts hidden : List CommitId} {d : Direction} :
    g.history.order starts hidden d = .error endless ↔
      ∃ covered, g.history.reachable hidden = .ok covered ∧
        g.history.GoesOn covered [] starts := by
  rw [order]
  split
  · rename_i e hreach
    simp only [hreach, reduceCtorEq, false_and, exists_false, iff_false]
    exact hreach ▸ g.reachable_ne_endless hidden
  · rename_i covered hreach
    have htraverse := traverse_endless_iff starts g.bounded g.read_ne_endless
      (.nil : g.history.Stacked (· ∈ covered) [])
    simp only [hreach, Except.ok.injEq, exists_eq_left', ← htraverse]
    split <;> simp_all

theorem not_acyclicPast_of_endless {starts hidden : List CommitId} {d : Direction}
    (he : g.history.order starts hidden d = .error endless) :
    ¬ g.history.AcyclicPast (g.history.Below hidden) starts := by
  rcases order_error he with ⟨x, _, hread⟩ | ⟨_, hn⟩
  · exact absurd hread (g.read_ne_endless x)
  · exact fun ha => hn ⟨g.bounded hidden, g.bounded starts, ha⟩

theorem order_eq_endless {starts hidden : List CommitId}
    (hr : ∀ x, g.history.Below (starts ++ hidden) x → g.history.Readable x)
    (hcycle : ¬ g.history.AcyclicPast (g.history.Below hidden) starts) :
    g.history.order starts hidden .newestFirst = .error endless := by
  cases ho : g.history.order starts hidden .newestFirst with
  | ok l => exact absurd (acyclicPast_of_order ho) hcycle
  | error e =>
    rcases order_error ho with ⟨x, hx, hread⟩ | ⟨rfl, _⟩
    · have hbelow : g.history.Below (starts ++ hidden) x :=
        below_append.2 (hx.symm.imp_left (·.1))
      exact absurd hread (hr x hbelow).read_ne_error
    · rfl

/-- Searches in a graph end, whatever it holds, and so does a walk unless the loop at one of its
starts goes on for ever. That takes a cycle that is not hidden. Where all commits can be read, each
such cycle is enough. -/
theorem order_endless_iff (g : Graph) (starts hidden : List CommitId) (d : Direction) :
    (g.history.order starts hidden d = .error endless ↔
      ∃ covered, g.history.reachable hidden = .ok covered ∧ g.history.GoesOn covered [] starts) ∧
    (g.history.order starts hidden d = .error endless →
      ¬ g.history.AcyclicPast (g.history.Below hidden) starts) ∧
    ((∀ x, g.history.Below (starts ++ hidden) x → g.history.Readable x) →
      (g.history.order starts hidden d = .error endless ↔
        ¬ g.history.AcyclicPast (g.history.Below hidden) starts)) ∧
    g.history.reachable starts ≠ .error endless ∧
    ∀ x y, g.history.isAncestor x y ≠ .error endless := by
  refine ⟨order_eq_endless_iff, not_acyclicPast_of_endless, fun hr => ?_,
    g.reachable_ne_endless starts, g.isAncestor_ne_endless⟩
  refine ⟨not_acyclicPast_of_endless, fun hcycle => ?_⟩
  have hnewest := order_eq_endless hr hcycle
  rw [order_eq_endless_iff] at hnewest ⊢
  exact hnewest

def knot : CommitId := ⟨"0101010101010101010101010101010101010101"⟩

/-- A commit that is its own parent. -/
def knotted : Graph := Graph.addCommit ⟨"/repo", .empty, .empty, []⟩ knot [knot] "own parent"

private theorem eq_knot {x y : CommitId} (hx : knotted.history.Reaches x y) (hy : y = knot) :
    x = knot := by
  induction hx with
  | refl => exact hy
  | step _ hp ih =>
    subst hy
    obtain ⟨commit, hread, hmem⟩ := hp
    cases hread
    exact ih (List.mem_singleton.1 hmem)

/-- The only commit can be read, and a walk that starts there meets it for ever. -/
theorem order_endless_iff_knotted :
    (∀ x, knotted.history.Below ([knot] ++ []) x → knotted.history.Readable x) ∧
    ¬ knotted.history.AcyclicPast (knotted.history.Below []) [knot] ∧
    Traversal.Forever knotted.read [] ⟨[(knot, false)], []⟩ := by
  have hreadable : ∀ x, knotted.history.Below ([knot] ++ []) x → knotted.history.Readable x := by
    intro x hx
    rw [eq_knot (below_singleton.1 hx) rfl]
    exact ⟨_, rfl⟩
  have hcycle : ¬ knotted.history.AcyclicPast (knotted.history.Below []) [knot] := fun ha =>
    ha knot knot (.of_mem List.mem_cons_self) (not_below_nil knot)
      ⟨_, rfl, List.mem_singleton.2 rfl⟩ (.refl knot)
  obtain ⟨hloop, _, hiff, _⟩ := order_endless_iff knotted [knot] [] .newestFirst
  obtain ⟨covered, hcovered, before, start, after, emitted, hstarts, hbefore, hforever⟩ :=
    hloop.1 ((hiff hreadable).2 hcycle)
  refine ⟨hreadable, hcycle, ?_⟩
  cases hcovered
  cases before with
  | nil =>
    cases hstarts
    cases hbefore
    exact hforever
  | cons => simp at hstarts

end Landing.Graph
