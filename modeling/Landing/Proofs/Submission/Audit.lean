import Landing.Proofs.Submission.Trail

/-! The audit of submissions that end well: what they told, and what stands on the trails. -/

namespace Landing.Rehearsal
open Submission

/-- Only the graph is changed. -/
def Change.OnGraph : Change → Prop
  | .addCommit .. | .setRef .. | .corrupt _ => True
  | _ => False

namespace World
variable {v : World} {changes : List Change}

/-- Messages can be written: no write fails, no key that will be given out is in use, and scripts
change no more than the graph. -/
structure Writable (v : World) : Prop where
  hooks : ∀ id script, v.hooks.get? id = some script → ∀ c ∈ script.effects, c.OnGraph
  phases : ∀ p, ∀ c ∈ v.onPhase p, c.OnGraph
  inserts : v.faults.inserts = []
  fresh : ∀ n, v.keysIssued ≤ n → ∀ c, ∀ m ∈ v.store.trail c, m.key.uuid ≠ keyLead ++ n.repr

/-- No key is given out twice. -/
theorem key_injective : Function.Injective fun n : Nat => keyLead ++ n.repr := by
  intro a b hkey
  have hdigits : Nat.toDigits 10 a = Nat.toDigits 10 b :=
    String.ofList_injective ((String.append_right_inj keyLead).1 hkey)
  calc
    a = Nat.ofDigitChars 10 (Nat.toDigits 10 a) 0 := Nat.ofDigitChars_ten_toDigits.symm
    _ = Nat.ofDigitChars 10 (Nat.toDigits 10 b) 0 := by rw [hdigits]
    _ = b := Nat.ofDigitChars_ten_toDigits

theorem applyAll_onGraph (v : World) (h : ∀ c ∈ changes, c.OnGraph) :
    ∃ g, v.applyAll changes = { v with graph := g } := by
  induction changes generalizing v with
  | nil => exact ⟨v.graph, rfl⟩
  | cons c rest ih =>
    obtain ⟨hc, hrest⟩ := List.forall_mem_cons.1 h
    obtain ⟨g, hg⟩ : ∃ g, v.apply c = .ok { v with graph := g } := by
      cases c with
      | addCommit id parents message => exact ⟨v.graph.addCommit id parents message, rfl⟩
      | setRef name id => exact ⟨v.graph.setRef name id, rfl⟩
      | corrupt id => exact ⟨v.graph.corruptCommit id, rfl⟩
      | _ => exact hc.elim
    obtain ⟨g', hg'⟩ := ih { v with graph := g } hrest
    refine ⟨g', ?_⟩
    rw [← hg']
    simp only [applyAll, List.foldl_cons, hg]

namespace Writable

theorem write (h : v.Writable) (e : Entry) : (v.write e).Writable :=
  ⟨h.hooks, h.phases, h.inserts, h.fresh⟩

theorem applyAll (h : v.Writable) (hc : ∀ c ∈ changes, c.OnGraph) :
    (v.applyAll changes).Writable := by
  obtain ⟨g, hg⟩ := v.applyAll_onGraph hc
  rw [hg]
  exact ⟨h.hooks, h.phases, h.inserts, h.fresh⟩

theorem mirror (h : v.Writable) (r : Mirror.Request) : (v.mirror r).2.Writable := by
  rw [World.mirror]
  cases hget : v.hooks.get? r.newRev with
  | none => exact h.write _
  | some script => exact (h.write _).applyAll (h.hooks _ script hget)

theorem notify (h : v.Writable) (e : Event) : (v.notify e).Writable := by
  rw [World.notify]
  split
  · cases e with
    | phase p => exact (h.write _).applyAll (h.phases p)
    | _ => exact h.write _
  · exact h

/-- A message with a new key is written at the end of its trail. -/
theorem insertMessage (h : v.Writable) {m : ChangeMessage}
    (hnew : ∀ m' ∈ v.store.trail m.key.change, m'.key ≠ m.key) :
    v.insertMessage m = (.ok (), { v with
      store := { v.store with
        messages := v.store.messages.insert m.key.change
          (v.store.trail m.key.change ++ [m]) } }) := by
  have hfault : v.faults.inserts.contains m.key.change = false := by simp [h.inserts]
  have hany : (v.store.trail m.key.change).any (·.key = m.key) = false := by simpa using hnew
  rw [World.insertMessage, Review.Store.insertMessage, hfault, hany]
  rfl

/-- A message gets a key that is not in use, and the next one another. -/
theorem writeMessage (h : v.Writable) (p : PatchSetId) (body : String) :
    (services.write p body v).1 = .ok () ∧ (services.write p body v).2.Writable := by
  have hstamp : v.stamp.2.Writable :=
    ⟨h.hooks, h.phases, h.inserts, fun n hn => h.fresh n (Nat.le_of_succ_le hn)⟩
  have hinsert := hstamp.insertMessage
    (m := ⟨⟨p.change, keyLead ++ v.keysIssued.repr⟩, none, some p, v.now, body⟩)
    fun m hm hkey => h.fresh v.keysIssued le_rfl p.change m hm (congrArg MessageKey.uuid hkey)
  have hwrite : services.write p body v = v.stamp.2.insertMessage
      ⟨⟨p.change, keyLead ++ v.keysIssued.repr⟩, none, some p, v.now, body⟩ := rfl
  rw [hwrite, hinsert]
  refine ⟨rfl, h.hooks, h.phases, h.inserts, fun n hn c m hm => ?_⟩
  simp only [Review.Store.trail, Table.get?_insert] at hm
  split at hm
  · rcases List.mem_append.1 hm with hm | hm
    · exact hstamp.fresh n hn p.change m hm
    · obtain rfl := List.mem_singleton.1 hm
      exact fun hkey => Nat.ne_of_lt hn (key_injective hkey)
  · exact hstamp.fresh n hn c m hm

/-- So all that is to be written is written. -/
theorem writes : services.Writes World.Writable where
  submitterOf _ _ h := ⟨h.hooks, h.phases, h.inserts, h.fresh⟩
  account id v h := by
    simp only [services, World.account]
    split <;> exact h
  messages c v h := by
    simp only [services, World.messages]
    split <;> exact h
  credentials id v h := by
    simp only [services, World.credentialsOf]
    split <;> exact h
  write p body _ h := h.writeMessage p body
  mirror r _ h := h.mirror r
  notify e _ h := h.notify e

end Writable

end World

end Landing.Rehearsal

namespace Landing.Submission
open Rehearsal (services World)
open Rehearsal.Crossing
variable {σ : Type} {s : Services σ} {G : σ → Prop} {w : σ} {plan : Plan}
  {tip chosen : TrackedCommit} {pending : PendingSet} {r : Reduction} {x : Session σ}
  {landed : Landed}

/-- A submission that ends well made its outcomes known at the end of its first half, and the others
after its pushes were noted. -/
theorem accounts_run (hw : s.Writes G) (hok : (run s plan tip pending w).result = .ok landed) :
    ∃ r chosen x, opening s tip pending w = .ok (r, chosen, x) ∧
      landed.outcomes = (run s plan tip pending w).session.outcomes ∧
      ∃ new new', Session.Accounts G (Session.start pending w) x new (fun _ => []) ∧
        Session.Accounts G x (run s plan tip pending w).session new'
          (notesFor s plan (attempts s plan tip pending w)) := by
  obtain ⟨r, chosen, x, ho⟩ := opening_of_ok hok
  obtain ⟨new, hopening⟩ := accounts_opening hw ho
  have hbatch : ∀ id c, x.batch.get? id = some c → c.id = id :=
    hopening.batch ▸ batch_id_start pending w
  obtain ⟨newTip, y, hbring⟩ : ∃ newTip y, x.bringIn s plan r tip chosen = (newTip, y) :=
    ⟨_, _, rfl⟩
  obtain ⟨result, z, hconclude⟩ : ∃ result z, y.conclude s plan tip.id r newTip = (result, z) :=
    ⟨_, _, rfl⟩
  have hrun : run s plan tip pending w = ⟨result, {}, z⟩ := by
    rw [run_of_opening ho, Session.close, hbring]
    dsimp only
    rw [hconclude]
  rw [hrun] at hok ⊢
  obtain rfl : result = .ok landed := hok
  obtain ⟨pushed, hpushed⟩ := Session.accounts_bringIn hw hbatch hopening.complete hbring
  obtain ⟨hsame, last, hlast⟩ :=
    Session.accounts_conclude hw (hpushed.batch ▸ hbatch) hpushed.complete hconclude
  have hattempts : attempts s plan tip pending w = x.attempted s plan tip chosen := by
    simp only [attempts, ho]
  rw [hattempts]
  exact ⟨r, chosen, x, ho, hsame, new, pushed ++ last, hopening, hpushed.trans hlast⟩

/-- Of the attempts of a submission one at most is for a commit. -/
theorem notesFor_attempts (s : Services σ) (plan : Plan) (tip : TrackedCommit)
    (pending : PendingSet) (w : σ) (id : CommitId) :
    notesFor s plan (attempts s plan tip pending w) id =
      (((attempts s plan tip pending w).find? (·.commit.id = id)).map
        (·.notes s plan)).getD [] := by
  have hnodup : ((attempts s plan tip pending w).map (·.commit.id)).Nodup := by
    rcases attempts_cases s plan tip pending w with hnone | ⟨_, _, _, ids, _, horder, hinitial, _⟩
    · rw [hnone]
      exact List.nodup_nil
    · exact (History.nodup_of_order horder).sublist hinitial.sublist
  rw [notesFor, filter_eq_toList_find? hnodup]
  cases (attempts s plan tip pending w).find? (·.commit.id = id) <;> simp

/-- Whatever the systems around a submission do, if it ends well each commit of the batch has an
outcome. -/
theorem exists_outcome (hok : (run s plan tip pending w).result = .ok landed) {id : CommitId}
    (hid : id ∈ pending.ids) : ∃ o, landed.outcomes.get? id = some o := by
  obtain ⟨r, chosen, x, ho⟩ := opening_of_ok hok
  obtain ⟨hbatch, horder, _, _⟩ := opening_books ho
  obtain ⟨newTip, y, hbring⟩ : ∃ newTip y, x.bringIn s plan r tip chosen = (newTip, y) :=
    ⟨_, _, rfl⟩
  have hy := Session.bringIn_keeps (hbatch ▸ batch_id_start pending w) hbring
  rw [run_of_opening ho] at hok
  obtain ⟨_, _, l, _, _, hget⟩ := Session.close_ok hbring hok
  rw [hget, hy.2.1, horder, if_pos hid, ← apply_ite some]
  cases y.outcomes.get? id <;> simp

/-- If messages can always be written, a commit with a change gets the notes of its push and the
message of its outcome. Its outcome is among those of the first half, or comes later: so it is known
which comes first. -/
theorem trail_of_writes (hok : (run s plan tip pending w).result = .ok landed) (hw : s.Writes G)
    (hG : G w) {c : TrackedCommit} (hc : c ∈ pending.commits) (hp : c.patchSet ≠ none) :
    ∃ o, landed.outcomes.get? c.id = some o ∧
      (run s plan tip pending w).session.trail c.id =
        match (attempts s plan tip pending w).find? (·.commit.id = c.id) with
        | none => [o.message]
        | some a =>
          if a.books.outcomes.isFinal c.id then o.message :: a.notes s plan
          else a.notes s plan ++ [o.message] := by
  obtain ⟨r, chosen, x, ho, hsame, new, new', hopening, hrun⟩ := accounts_run hw hok
  obtain ⟨o, hget⟩ := exists_outcome hok (PendingSet.mem_ids_iff.2 ⟨c, hc, rfl⟩)
  refine ⟨o, hget, ?_⟩
  have hstart : (Session.start pending w).batch.get? c.id = some c :=
    (Session.start_batch pending w c.id c).2 ⟨hc, rfl⟩
  have htrail : (run s plan tip pending w).session.trail c.id =
      messagesFor new c.id ++ (notesFor s plan (attempts s plan tip pending w) c.id ++
        messagesFor new' c.id) := by
    rw [hrun.trail (hopening.good hG) c.id c (hopening.batch ▸ hstart) hp,
      hopening.trail hG c.id c hstart hp]
    rfl
  have hearly : messagesFor new c.id = ((x.outcomes.get? c.id).map (·.message)).toList := by
    rw [← messagesFor_entries, hopening.entries]
    rfl
  have hboth : messagesFor new c.id ++ messagesFor new' c.id = [o.message] := by
    have hentries : landed.outcomes.entries = new ++ new' := by
      rw [hsame, hrun.entries, hopening.entries]
      rfl
    rw [← messagesFor_append, ← hentries, messagesFor_entries, hget]
    rfl
  rw [htrail, notesFor_attempts]
  cases hfind : (attempts s plan tip pending w).find? (·.commit.id = c.id) with
  | none => simpa using hboth
  | some a =>
    dsimp only
    rw [attempts_books ho (List.mem_of_find?_eq_some hfind), Outcome.Ledger.isFinal, hearly]
    rw [hearly] at hboth
    cases hx : x.outcomes.get? c.id with
    | none =>
      have hlate : messagesFor new' c.id = [o.message] := by simpa [hx] using hboth
      simp [hlate]
    | some o' =>
      obtain ⟨hmessage, hlate⟩ : o'.message = o.message ∧ messagesFor new' c.id = [] := by
        simpa [hx] using hboth
      simp [hmessage, hlate]

/-- On an intact history of which no object changes, no commit has an outcome when its push is
attempted. -/
theorem unsettled_of_attempts {h : History} (ha : s.Agrees w h)
    (hi : h.Intact (tip.id :: pending.ids)) {a : Attempt σ}
    (hmem : a ∈ attempts s plan tip pending w) : a.books.outcomes.isFinal a.commit.id = false := by
  rcases attempts_cases s plan tip pending w with
    hnone | ⟨r, chosen, x, ids, ho, horder, hinitial, _⟩
  · rw [hnone] at hmem
    cases hmem
  · obtain ⟨rfl, hopened⟩ := opening_of_agrees ha hi ho
    obtain ⟨l, hl, _, hbetween⟩ := range_ok (intact_choice hi)
    obtain rfl := (ha x.world hopened.leads).order_eq hl horder
    have hwalk := (hbetween a.commit.id).1 (hinitial.subset (List.mem_map_of_mem hmem))
    rw [attempts_books ho hmem, Outcome.Ledger.isFinal, hopened.get?_of_between hwalk.1 hwalk.2]
    rfl

/-- What is told and what is written in a submission that ends well, whatever the systems around it
do. Its outcomes are made known in the order of recording, each commit once. If messages can always
be written, a commit of the batch that has a change gets the notes of its push, if one was
attempted, and then the message of its outcome; only where the commit had an outcome before it was
pushed does that message come first. This does not happen on an intact history of which no object
changes. -/
theorem trail_of_run (hok : (run s plan tip pending w).result = .ok landed) :
    (run s plan tip pending w).session.told = landed.outcomes.entries ∧
    landed.outcomes.order.Nodup ∧
    (∀ G : σ → Prop, s.Writes G → G w → ∀ c ∈ pending.commits, c.patchSet ≠ none →
      ∃ o, landed.outcomes.get? c.id = some o ∧
        (run s plan tip pending w).session.trail c.id =
          match (attempts s plan tip pending w).find? (·.commit.id = c.id) with
          | none => [o.message]
          | some a =>
            if a.books.outcomes.isFinal c.id then o.message :: a.notes s plan
            else a.notes s plan ++ [o.message]) ∧
    (∀ h, s.Agrees w h → h.Intact (tip.id :: pending.ids) →
      ∀ a ∈ attempts s plan tip pending w, a.books.outcomes.isFinal a.commit.id = false) := by
  refine ⟨?_, landed.outcomes.distinct, fun G hw hG c hc hp => trail_of_writes hok hw hG hc hp,
    fun h ha hi a hmem => unsettled_of_attempts ha hi hmem⟩
  obtain ⟨_, _, _, _, hsame, _, _, _, haccounts⟩ := accounts_run (.never s) hok
  rw [haccounts.complete.told, hsame]

theorem writable : world.Writable :=
  ⟨by simp [world, approved], by simp [world, approved], rfl, by simp [world, approved,
    Review.Store.trail, Review.Store.addApproval]⟩

/-- The commit above the tip gets the one note of its push, then the message of its outcome. -/
theorem trail_of_run_crossing : ∃ landed o, ∃ a ∈ attempts services sync old batch world,
    (run services sync old batch world).result = .ok landed ∧
      (run services sync old batch world).session.told = landed.outcomes.entries ∧
      a.commit.id = above ∧ landed.outcomes.get? above = some o ∧
      (run services sync old batch world).session.trail above =
        a.notes services sync ++ [o.message] := by
  obtain ⟨_, _, _, landed, _, _, hok, _⟩ := run_ok sync calm.steady intact rfl
  have hmember : ⟨above, [base], "TICKET: 1", some ⟨⟨1⟩, 1⟩⟩ ∈ batch.commits := by decide
  obtain ⟨htold, _, htrails, hopen⟩ := trail_of_run hok
  obtain ⟨o, hget, htrail⟩ := htrails _ World.Writable.writes writable _ hmember (by simp)
  have hpushed : ((attempts services sync old batch world).find? (·.commit.id = above)).isSome := by
    decide +kernel
  obtain ⟨a, ha⟩ := Option.isSome_iff_exists.1 hpushed
  have hmem := List.mem_of_find?_eq_some ha
  have hfound := List.find?_some ha
  have hid : a.commit.id = above := of_decide_eq_true hfound
  have hfresh := hopen _ calm.agrees intact a hmem
  rw [hid] at hfresh
  simp only [ha, hfresh, Bool.false_eq_true, if_false] at htrail
  exact ⟨landed, o, a, hmem, hok, htold, hid, hget, htrail⟩

/-- Two commits on the tip. While the second is already turned away, the first is put on top of
it. -/
def reparented : World :=
  { world with
    graph := graph.addCommit further [base] "TICKET: 1"
    onPhase := fun
      | .integrating => [.addCommit above [further] "TICKET: 1"]
      | _ => [] }

def siblings : PendingSet :=
  ⟨[⟨above, [base], "TICKET: 1", some ⟨⟨1⟩, 1⟩⟩, ⟨further, [base], "TICKET: 1", some ⟨⟨2⟩, 1⟩⟩],
    by decide⟩

theorem writable_reparented : reparented.Writable := by
  refine ⟨by simp [reparented, world, approved], fun p c hc => ?_, rfl, by simp [reparented, world,
    approved, Review.Store.trail, Review.Store.addApproval]⟩
  cases p <;> simp [reparented] at hc
  simp [hc, Rehearsal.Change.OnGraph]

/-- The notes of a push do not come first in every case: the second commit is told that it does not
land, and goes over to the mirror then. -/
theorem notes_not_first : ¬ ∀ (w : World) (plan : Plan) (tip : TrackedCommit)
    (pending : PendingSet) (landed : Landed), w.Writable →
    (run services plan tip pending w).result = .ok landed →
    ∀ c ∈ pending.commits, c.patchSet ≠ none → ∃ o, landed.outcomes.get? c.id = some o ∧
      (run services plan tip pending w).session.trail c.id =
        notesFor services plan (attempts services plan tip pending w) c.id ++ [o.message] := by
  intro hall
  have hmember : ⟨further, [base], "TICKET: 1", some ⟨⟨2⟩, 1⟩⟩ ∈ siblings.commits := by decide
  have hok : ((run services sync old siblings reparented).result.toOption).isSome := by
    decide +kernel
  have htrail : (run services sync old siblings reparented).session.trail further =
      [Outcome.notFastForward.message, "going to integrate commit " ++ further.hex ++
        " under ticket 1 as external user user"] := by decide +kernel
  have hnotes : notesFor services sync (attempts services sync old siblings reparented) further =
      ["going to integrate commit " ++ further.hex ++
        " under ticket 1 as external user user"] := by decide +kernel
  cases hresult : (run services sync old siblings reparented).result with
  | error e =>
    rw [hresult] at hok
    cases hok
  | ok landed =>
    obtain ⟨o, _, hclaimed⟩ := hall reparented sync old siblings landed writable_reparented hresult
      _ hmember (by simp)
    rw [htrail, hnotes] at hclaimed
    have hfirst := (List.cons.inj hclaimed).1
    exact absurd hfirst (by decide)

end Landing.Submission
