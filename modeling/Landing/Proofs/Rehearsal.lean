import Landing.Proofs.History.Graph
import Landing.Proofs.History.Line
import Landing.Proofs.Submission.Frame
import Landing.Rehearsal

/-! Rehearsals in which the scripts leave the graph alone, or do no more than to corrupt it. -/
namespace Landing.Rehearsal
open Submission

namespace World
variable {v w : World} {R : Graph → Prop}

/-- Neither the mirror nor those who watch change anything. -/
structure Calm (w : World) : Prop where
  hooks : ∀ id script, w.hooks.get? id = some script → script.effects = []
  phases : ∀ p, w.onPhase p = []

/-- Since `w` books were kept, and the graph was changed within `R`. -/
structure Kept (R : Graph → Prop) (w v : World) : Prop where
  graph : R v.graph
  hooks : v.hooks = w.hooks
  onPhase : v.onPhase = w.onPhase

/-- The mirror and those who watch change nothing but the graph, and that within `R`. -/
structure Confined (R : Graph → Prop) (w : World) : Prop where
  start : R w.graph
  hooks : ∀ id script, w.hooks.get? id = some script →
    ∀ v, Kept R w v → Kept R w (v.applyAll script.effects)
  phases : ∀ p v, Kept R w v → Kept R w (v.applyAll (w.onPhase p))

theorem Kept.insertMessage (h : Kept R w v) (m : ChangeMessage) :
    Kept R w (v.insertMessage m).2 := by
  rw [World.insertMessage]
  split
  · exact h
  · exact ⟨h.graph, h.hooks, h.onPhase⟩

theorem Kept.write (h : Kept R w v) (e : Entry) : Kept R w (v.write e) :=
  ⟨h.graph, h.hooks, h.onPhase⟩

theorem Kept.mirror (hw : w.Confined R) (h : Kept R w v) (r : Mirror.Request) :
    Kept R w (v.mirror r).2 := by
  rw [World.mirror, h.hooks]
  cases hget : w.hooks.get? r.newRev with
  | none => exact h.write _
  | some script => exact hw.hooks r.newRev script hget _ (h.write _)

theorem Kept.notify (hw : w.Confined R) (h : Kept R w v) (e : Event) :
    Kept R w (v.notify e) := by
  rw [World.notify]
  split
  · cases e with
    | phase p =>
      have hphase : (v.write (.event (.phase p))).onPhase = w.onPhase := h.onPhase
      dsimp only
      rw [hphase]
      exact hw.phases p _ (h.write _)
    | _ => exact h.write _
  · exact h

theorem Kept.account (h : Kept R w v) (id : AccountId) : Kept R w (v.account id).2 := by
  rw [World.account]
  split <;> exact h

theorem Kept.messages (h : Kept R w v) (c : ChangeId) : Kept R w (v.messages c).2 := by
  rw [World.messages]
  split <;> exact h

theorem Kept.credentialsOf (h : Kept R w v) (id : AccountId) :
    Kept R w (v.credentialsOf id).2 := by
  rw [World.credentialsOf]
  split <;> exact h

theorem Confined.kept (hw : w.Confined R) (hl : services.Leads w v) : Kept R w v := by
  induction hl with
  | refl => exact ⟨hw.start, rfl, rfl⟩
  | submitterOf p _ ih => exact ⟨ih.graph, ih.hooks, ih.onPhase⟩
  | account id _ ih => exact ih.account id
  | messages c _ ih => exact ih.messages c
  | insertMessage m _ ih => exact ih.insertMessage m
  | credentials id _ ih => exact ih.credentialsOf id
  | stamp _ ih => exact ⟨ih.graph, ih.hooks, ih.onPhase⟩
  | mirror r _ ih => exact ih.mirror hw r
  | notify e _ ih => exact ih.notify hw e

theorem Calm.confined (hw : w.Calm) : w.Confined (· = w.graph) := by
  refine ⟨rfl, fun id script hget v hv => ?_, fun p v hv => ?_⟩
  · rw [hw.hooks id script hget]
    exact hv
  · rw [hw.phases p]
    exact hv

/-- In a calm rehearsal the history stays as it is while a submission is computed. -/
theorem Calm.steady (hw : w.Calm) : services.Steady w :=
  fun _ hv => congrArg Graph.history (hw.confined.kept hv).graph

/-- In a calm rehearsal approvals stay, and so do the faults in looking them up. -/
private theorem Calm.approvals (hw : w.Calm) (hl : services.Leads w v) :
    v.store.approvals = w.store.approvals ∧ v.faults = w.faults := by
  induction hl with
  | refl => exact ⟨rfl, rfl⟩
  | submitterOf p _ ih => exact ih
  | account id _ ih =>
    simp only [services, World.account]
    split <;> exact ih
  | messages c _ ih =>
    simp only [services, World.messages]
    split <;> exact ih
  | insertMessage m _ ih =>
    simp only [services, World.insertMessage, Review.Store.insertMessage]
    split
    · exact ih
    · split <;> exact ih
  | credentials id _ ih =>
    simp only [services, World.credentialsOf]
    split <;> exact ih
  | stamp _ ih => exact ih
  | @mirror v r hl ih =>
    have hhooks := (hw.confined.kept hl).hooks
    simp only [services, World.mirror, hhooks]
    cases hget : w.hooks.get? r.newRev with
    | none => exact ih
    | some script =>
      rw [Option.getD_some, hw.hooks r.newRev script hget]
      exact ih
  | @notify v e hl ih =>
    have hphases := (hw.confined.kept hl).onPhase
    simp only [services, World.notify]
    split
    · cases e with
      | phase p =>
        have hnone : (v.write (.event (.phase p))).onPhase p = [] :=
          (congrFun hphases p).trans (hw.phases p)
        dsimp only
        rw [hnone]
        exact ih
      | _ => exact ih
    · exact ih

/-- In a calm rehearsal in which lookups do not fail late, approvals are fixed. -/
theorem Calm.approves (hw : w.Calm) (hn : w.faults.approvalsAfter = none) :
    services.Approves w fun p => (services.submitterOf p w).1 := by
  intro p v hv
  obtain ⟨happrovals, hfaults⟩ := hw.approvals hv
  simp only [services, World.submitterOf, Review.Store.submitterOf, happrovals, hfaults, hn]

/-- In a calm rehearsal the refs stay, until one is moved that holds what is expected. -/
theorem Calm.holds (hw : w.Calm) (name : String) :
    services.Holds name (fun v => v.graph.readRef name) w where
  kept v hv := congrArg (·.readRef name) (hw.confined.kept hv).graph
  moved v old new hv hold := by
    have hold : v.graph.refs.get? name = some old := hold
    simp [services, World.moveRef, Graph.compareAndSwap, Graph.setRef, Graph.readRef, hold]

theorem Kept.corrupt (h : Kept (·.commits = w.graph.commits) w v) (ids : List CommitId) :
    Kept (·.commits = w.graph.commits) w (v.applyAll (ids.map .corrupt)) := by
  induction ids generalizing v with
  | nil => exact h
  | cons id ids ih =>
    have hnext : Kept (·.commits = w.graph.commits) w
        { v with graph := v.graph.corruptCommit id } := ⟨h.graph, h.hooks, h.onPhase⟩
    exact ih hnext

/-- In a rehearsal that corrupts objects and adds none, the rest of the history stays as it is. -/
theorem Confined.agrees (hw : w.Confined (·.commits = w.graph.commits)) :
    services.Agrees w w.graph.history := by
  intro v hv
  apply Graph.agree
  intro id c c' hc hc'
  rw [(hw.kept hv).graph, hc] at hc'
  exact Option.some.inj hc'

/-- In a calm rehearsal no object changes. -/
theorem Calm.agrees (hw : w.Calm) : services.Agrees w w.graph.history := by
  refine Confined.agrees ⟨rfl, fun id script hget v hv => ?_, fun p v hv => ?_⟩
  · rw [hw.hooks id script hget]
    exact hv
  · rw [hw.phases p]
    exact hv

end World

/-! A merge of a commit on the tip of a branch with one beside it. -/
namespace Crossing

def name (digit : Char) : CommitId := ⟨String.ofList (List.replicate 40 digit)⟩

def root : CommitId := name '0'
def base : CommitId := name '1'
def above : CommitId := name 'a'
def beside : CommitId := name 'b'
def merge : CommitId := name 'c'

def graph : Graph :=
  [(root, []), (base, [root]), (above, [base]), (beside, [root]), (merge, [above, beside])].foldl
    (fun g c => g.addCommit c.1 c.2 "TICKET: 1") ⟨"/repo", .empty, .empty, []⟩

def old : TrackedCommit := ⟨base, [root], "TICKET: 1", none⟩

/-- The commits to submit, each as the patch set of a change of its own. -/
def batch : PendingSet :=
  ⟨[⟨above, [base], "TICKET: 1", some ⟨⟨1⟩, 1⟩⟩, ⟨beside, [root], "TICKET: 1", some ⟨⟨2⟩, 1⟩⟩,
    ⟨merge, [above, beside], "TICKET: 1", some ⟨⟨3⟩, 1⟩⟩], by decide⟩

def approved (w : World) (change : UInt32) : World :=
  { w with store := w.store.addApproval ⟨⟨⟨change⟩, 1⟩, ⟨7⟩, ⟨0, 0⟩⟩ }

/-- All is approved, by an account that is known at the mirror. -/
def world : World :=
  [1, 2, 3].foldl approved { graph := graph
                             credentials := Table.empty.insert ⟨7⟩ ⟨⟨7⟩, "user", "key"⟩
                             now := ⟨0, 0⟩ }

def main : Branch := .named "project" "main"

/-- Tickets of one digit. -/
def digit : TicketMatcher := ⟨"([0-9])", .group 1 (.one (.ofRanges [(0x30, 0x39)]))⟩

def sync : Plan := ⟨main, .mirrored digit, []⟩

theorem calm : world.Calm := ⟨by simp [world, approved], fun _ => rfl⟩

theorem intact_of_subset {ids : List CommitId} (hids : ids ⊆ graph.commits.keys) :
    (services.history world).Intact ids :=
  Graph.intact_of_isGrown (g := graph) (by decide) hids

theorem intact : (services.history world).Intact (old.id :: batch.ids) :=
  intact_of_subset (by decide)

theorem reaches_iff {x y : CommitId} (hx : x ∈ old.id :: batch.ids)
    (hy : y ∈ old.id :: batch.ids) :
    (services.history world).Reaches x y ↔ graph.history.isAncestor x y = .ok true :=
  intact.reaches_iff hx hy

theorem not_reaches {x y : CommitId} (hx : x ∈ old.id :: batch.ids)
    (hy : y ∈ old.id :: batch.ids) (hn : graph.history.isAncestor x y ≠ .ok true) :
    ¬ (services.history world).Reaches x y := fun hc => hn ((reaches_iff hx hy).1 hc)

/-- A tip that the commit above the old one has reached. -/
def advanced : TrackedCommit := ⟨above, [base], "TICKET: 1", none⟩

/-- The same where the merge cannot be read. -/
def torn : World := { world with graph := graph.corruptCommit merge }

/-! The same with one more commit on the one beside the tip. -/

def further : CommitId := name 'd'

def wider : PendingSet :=
  ⟨⟨further, [beside], "TICKET: 1", some ⟨⟨4⟩, 1⟩⟩ :: batch.commits, by decide⟩

/-- The mirror corrupts the commit beside the tip when it takes the one above it. -/
def wearing : World :=
  { world with graph := graph.addCommit further [beside] "TICKET: 1"
               hooks := Table.empty.insert above ⟨some ⟨0, ""⟩, [.corrupt beside]⟩ }

theorem wearing_agrees : services.Agrees wearing wearing.graph.history := by
  apply World.Confined.agrees
  refine ⟨rfl, fun id script hget v hv => ?_, fun _ _ hv => hv⟩
  have hscript : script.effects = [beside].map .corrupt := by
    rw [wearing, Table.get?_insert] at hget
    split at hget
    · cases hget
      rfl
    · cases hget
  rw [hscript]
  exact hv.corrupt [beside]

theorem wearing_intact : wearing.graph.history.Intact (old.id :: wider.ids) :=
  Graph.intact_of_isGrown (by decide) (by decide)

/-! The two commits beside the tip alone, for a branch that holds less than the tip. -/

def forked : Graph := graph.addCommit further [beside] "TICKET: 1"

/-- The last one comes first. -/
def beyond : PendingSet :=
  ⟨[⟨further, [beside], "TICKET: 1", some ⟨⟨4⟩, 1⟩⟩, ⟨beside, [root], "TICKET: 1", some ⟨⟨2⟩, 1⟩⟩],
    by decide⟩

/-- The branch is at `id`. -/
def resting (w : World) (id : CommitId) : World :=
  { w with graph := forked.setRef main.name id }

theorem calm_resting {w : World} (hw : w.Calm) (id : CommitId) : (resting w id).Calm :=
  ⟨hw.hooks, hw.phases⟩

theorem forked_intact {ids : List CommitId} (hids : ids ⊆ forked.commits.keys) :
    forked.history.Intact ids :=
  Graph.intact_of_isGrown (by decide) hids

theorem forked_line : forked.history.Line root [beside, further] where
  linked := .cons_cons ⟨⟨beside, [root], "TICKET: 1"⟩, by decide, rfl⟩
    (.cons_cons ⟨⟨further, [beside], "TICKET: 1"⟩, by decide, rfl⟩ (.singleton further))
  above c hc hreach := by
    have hi : forked.history.Intact (root :: [beside, further]) :=
      forked_intact (by decide)
    have hanswer : ∀ c ∈ [beside, further], forked.history.isAncestor c root ≠ .ok true := by
      decide
    exact hanswer c hc
      ((hi.reaches_iff (List.mem_cons_of_mem root hc) List.mem_cons_self).1 hreach)

end Crossing

end Landing.Rehearsal
