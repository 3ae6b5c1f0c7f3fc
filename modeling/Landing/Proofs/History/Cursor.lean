import Landing.Proofs.History.Walk
import Landing.Proofs.Rehearsal

/-! What becomes of the commits of a walk that is asked for one after the other, while objects of
the history come and go. A commit that cannot be read when its turn comes is lost. -/
namespace Landing.History

/-- Each commit is stored under its own name. -/
def Named (h : History) : Prop := ∀ id c, h.read id = .ok c → c.id = id

theorem named_of_entries {g : Graph} (hg : ∀ e ∈ g.commits.entries, e.2.id = e.1) :
    g.history.Named := by
  intro id c hc
  simp only [Graph.history, ofReader, Graph.read, Table.get?] at hc
  split at hc
  · cases hc
  · split at hc
    · rename_i d hd
      cases hc
      obtain ⟨e, he, rfl⟩ := Option.map_eq_some_iff.1 hd
      have hkey : e.1 = id := by simpa using List.find?_some he
      rw [hg e (List.mem_of_find?_eq_some he), hkey]
    · cases hc

namespace Walk

/-- Asks for the next commit once in each of the histories. -/
def nexts (w : Walk) : List History → List (Except Error (Option Commit)) × Walk
  | [] => ([], w)
  | h :: rest =>
    ((w.next h).1 :: ((w.next h).2.nexts rest).1, ((w.next h).2.nexts rest).2)

variable {w : Walk} {h : History} {order rest left : List CommitId} {id : CommitId} {e : Error}
  {answers : List (Except Error (Option Commit))}

/-- The commits that were given as answers. -/
def given (answers : List (Except Error (Option Commit))) : List CommitId :=
  answers.filterMap fun r => r.toOption.join.map (·.id)

/-- The commits whose turn came in a call that failed. -/
def lost (order : List CommitId) (answers : List (Except Error (Option Commit))) :
    List CommitId :=
  ((order.zip answers).filter (!·.2.isOk)).map (·.1)

@[simp] theorem given_error (e : Error) : given (.error e :: answers) = given answers := rfl

@[simp] theorem given_none : given (.ok none :: answers) = given answers := rfl

@[simp] theorem given_some (c : Commit) :
    given (.ok (some c) :: answers) = c.id :: given answers := rfl

@[simp] theorem lost_error (id : CommitId) (e : Error) :
    lost (id :: order) (.error e :: answers) = id :: lost order answers := rfl

@[simp] theorem lost_ok (id : CommitId) (c : Option Commit) :
    lost (id :: order) (.ok c :: answers) = lost order answers := rfl

/-- Of the commits of `order`, those that were neither given nor lost are left. -/
structure Course (order : List CommitId) (answers : List (Except Error (Option Commit)))
    (left : List CommitId) : Prop where
  perm : order.Perm (given answers ++ lost order answers ++ left)
  lost_ne_nil : ∀ e, .error e ∈ answers → lost order answers ≠ []
  whole : (∀ e, .error e ∉ answers) → given answers ++ left = order

namespace Course

theorem start (order : List CommitId) : Course order [] order :=
  ⟨by simp [given, lost], by simp, fun _ => rfl⟩

theorem ended (hc : Course [] answers left) : Course [] (.ok none :: answers) left where
  perm := by simpa [lost] using hc.perm
  lost_ne_nil e he := by
    rcases List.mem_cons.1 he with he | he
    · cases he
    · exact hc.lost_ne_nil e he
  whole hok := hc.whole fun e he => hok e (List.mem_cons_of_mem _ he)

theorem gives (hc : Course rest answers left) (c : Commit) :
    Course (c.id :: rest) (.ok (some c) :: answers) left where
  perm := by simpa using hc.perm
  lost_ne_nil e he := by
    rcases List.mem_cons.1 he with he | he
    · cases he
    · simpa using hc.lost_ne_nil e he
  whole hok := by
    rw [given_some, List.cons_append, hc.whole fun e he => hok e (List.mem_cons_of_mem _ he)]

theorem loses (hc : Course rest answers left) (id : CommitId) (e : Error) :
    Course (id :: rest) (.error e :: answers) left where
  perm := by
    rw [given_error, lost_error]
    have hmiddle : (given answers ++ id :: lost rest answers ++ left).Perm
        (id :: (given answers ++ lost rest answers ++ left)) := by
      rw [List.append_assoc, List.append_assoc]
      exact List.perm_middle
    exact (hc.perm.cons id).trans hmiddle.symm
  lost_ne_nil _ _ := by simp
  whole hok := absurd List.mem_cons_self (hok e)

/-- Nothing is lost but in a call that fails. -/
theorem eq_iff (hc : Course order answers left) :
    given answers ++ left = order ↔ ∀ e, .error e ∉ answers := by
  refine ⟨fun heq e he => hc.lost_ne_nil e he ?_, hc.whole⟩
  have hlength := congrArg List.length heq
  have hall := hc.perm.length_eq
  simp only [List.length_append] at hlength hall
  exact List.eq_nil_of_length_eq_zero (by omega)

theorem left_iff (hc : Course order answers left) (hn : order.Nodup) :
    (∀ x ∈ order, x ∉ given answers → x ∈ left) ↔ ∀ e, .error e ∉ answers := by
  constructor
  · intro hleft e he
    obtain ⟨x, hx⟩ := List.exists_mem_of_ne_nil _ (hc.lost_ne_nil e he)
    obtain ⟨hnodup, _, hapart⟩ := List.nodup_append.1 (hc.perm.nodup_iff.1 hn)
    have hgiven : x ∉ given answers := fun hg => (List.nodup_append.1 hnodup).2.2 x hg x hx rfl
    have horder : x ∈ order := hc.perm.mem_iff.2 (by simp [hx])
    exact hapart x (List.mem_append_right _ hx) x (hleft x horder hgiven) rfl
  · intro hok x hx hgiven
    rw [← hc.whole hok] at hx
    exact (List.mem_append.1 hx).resolve_left hgiven

end Course

theorem next_of_queue (w : Walk) (h : History) (id : CommitId) (rest : List CommitId) :
    next { w with queue := some (id :: rest) } h =
      ((h.read id).map some, { w with queue := some rest }) := by
  simp only [next, ordered, remaining, Option.getD_some]
  cases h.read id <;> rfl

/-- Once a walk has an order, its calls follow it. -/
theorem course_of_queue (w : Walk) (order : List CommitId) {hs : List History}
    (hn : ∀ h ∈ hs, h.Named) : ∃ answers left,
      nexts { w with queue := some order } hs = (answers, { w with queue := some left }) ∧
        Course order answers left := by
  induction hs generalizing order with
  | nil => exact ⟨[], order, rfl, .start order⟩
  | cons h hs ih =>
    rw [List.forall_mem_cons] at hn
    cases order with
    | nil =>
      obtain ⟨answers, left, hnexts, hc⟩ := ih [] hn.2
      have hnext : next { w with queue := some [] } h =
          (.ok none, { w with queue := some [] }) := rfl
      exact ⟨.ok none :: answers, left, by simp only [nexts, hnext, hnexts], hc.ended⟩
    | cons id rest =>
      obtain ⟨answers, left, hnexts, hc⟩ := ih rest hn.2
      refine ⟨(h.read id).map some :: answers, left,
        by simp only [nexts, next_of_queue, hnexts], ?_⟩
      cases hread : h.read id with
      | error e => exact hc.loses id e
      | ok c => exact hn.1 id c hread ▸ hc.gives c

theorem next_of_order (hw : w.queue = none)
    (ho : h.order w.starts w.hidden w.direction = .ok order) :
    w.next h = next { w with queue := some order } h := by
  simp only [next, ordered, hw, ho]

/-- A call that cannot order a walk leaves it as it is. -/
theorem next_of_order_error (hw : w.queue = none)
    (he : h.order w.starts w.hidden w.direction = .error e) : w.next h = (.error e, w) := by
  simp only [next, ordered, hw, he]

theorem nexts_of_order_error {hs : List History} (hw : w.queue = none)
    (he : ∀ h ∈ hs, ∃ e, h.order w.starts w.hidden w.direction = .error e) (after : List History) :
    ∃ answers, answers.length = hs.length ∧ given answers = [] ∧
      w.nexts (hs ++ after) = (answers ++ (w.nexts after).1, (w.nexts after).2) := by
  induction hs with
  | nil => exact ⟨[], rfl, rfl, rfl⟩
  | cons h hs ih =>
    rw [List.forall_mem_cons] at he
    obtain ⟨e, hfail⟩ := he.1
    obtain ⟨answers, hlength, hgiven, hnexts⟩ := ih he.2
    refine ⟨.error e :: answers, by rw [List.length_cons, hlength, List.length_cons],
      by rw [given_error, hgiven], ?_⟩
    simp only [List.cons_append, nexts, next_of_order_error hw hfail, hnexts]

/-- From the call that orders a walk on, the commits given so far and those that remain are all of
the order exactly if no call fails. The commit that a failing call came to is in neither, so that a
commit which was not given need not remain. -/
theorem given_append_remaining_iff (before after : List History) (hw : w.queue = none)
    (hbefore : ∀ g ∈ before, ∃ e, g.order w.starts w.hidden w.direction = .error e)
    (ho : h.order w.starts w.hidden w.direction = .ok order)
    (hn : ∀ g ∈ h :: after, g.Named) :
    let answers := (w.nexts (before ++ h :: after)).1
    let since := answers.drop before.length
    let left := (w.nexts (before ++ h :: after)).2.remaining
    order.Perm (given answers ++ lost order since ++ left) ∧
    (given answers ++ left = order ↔ ∀ e, .error e ∉ since) ∧
    ((∀ x ∈ order, x ∉ given answers → x ∈ left) ↔ ∀ e, .error e ∉ since) := by
  obtain ⟨failed, hlength, hgiven, hnexts⟩ := nexts_of_order_error hw hbefore (h :: after)
  obtain ⟨since, left, hsince, hc⟩ := course_of_queue w order hn
  have hordered : w.nexts (h :: after) = nexts { w with queue := some order } (h :: after) := by
    rw [nexts, nexts, next_of_order hw ho]
  rw [hnexts, hordered, hsince]
  have hboth : given (failed ++ since) = given since := by
    rw [given, List.filterMap_append]
    exact congrArg (· ++ given since) hgiven
  have hdrop : (failed ++ since).drop before.length = since := by
    rw [← hlength, List.drop_left]
  dsimp only [remaining, Option.getD_some]
  rw [hboth, hdrop]
  exact ⟨hc.perm, hc.eq_iff, hc.left_iff (nodup_of_order ho)⟩

open Rehearsal.Crossing (base above beside merge graph)

/-- The second commit is corrupt when its turn comes: it is not given and does not remain. -/
theorem given_append_remaining_iff_torn :
    let w : Walk := ⟨[merge], [base], .oldestFirst, none⟩
    let unordered := (graph.corruptCommit merge).history
    let torn := (graph.corruptCommit beside).history
    (∃ e, unordered.order w.starts w.hidden w.direction = .error e) ∧
    graph.history.order w.starts w.hidden w.direction = .ok [above, beside, merge] ∧
    graph.history.Named ∧ torn.Named ∧
    given (w.nexts [unordered, graph.history, torn]).1 = [above] ∧
    (w.nexts [unordered, graph.history, torn]).2.remaining = [merge] ∧
    ¬ ∀ x ∈ [above, beside, merge], x ∉ given (w.nexts [unordered, graph.history, torn]).1 →
      x ∈ (w.nexts [unordered, graph.history, torn]).2.remaining := by
  intro w unordered torn
  have hunordered : unordered.order w.starts w.hidden w.direction =
      .error (.corruptObject merge) := by decide
  have ho : graph.history.order w.starts w.hidden w.direction = .ok [above, beside, merge] := by
    decide
  have hgraph : graph.history.Named := named_of_entries (by decide)
  have htorn : torn.Named := named_of_entries (by decide)
  obtain ⟨_, _, hiff⟩ := given_append_remaining_iff [unordered] [torn] rfl
    (by simpa using ⟨_, hunordered⟩) ho (by simpa using ⟨hgraph, htorn⟩)
  have hfailed : .error (.corruptObject beside) ∈
      (w.nexts [unordered, graph.history, torn]).1.drop 1 := by decide
  exact ⟨⟨_, hunordered⟩, ho, hgraph, htorn, by decide, by decide,
    fun hall => hiff.1 hall _ hfailed⟩

end Walk

end Landing.History
