import Landing.Proofs.Submission.Attempt
import Landing.Proofs.Submission.Lockstep

/-! What a submission leaves in the journal and on the trails of changes: every outcome is made
known once, in the order of the ledger, and what is written for a commit are the notes of its push
and the message of its outcome. -/
namespace Landing.Submission
variable {σ : Type} {s : Services σ} {G : σ → Prop}

/-- From states in `G` the calls of a submission lead to states in `G`, and there every message can
be written. -/
structure Services.Writes (s : Services σ) (G : σ → Prop) : Prop where
  submitterOf (p) {v} : G v → G (s.submitterOf p v).2
  account (id) {v} : G v → G (s.account id v).2
  messages (c) {v} : G v → G (s.messages c v).2
  credentials (id) {v} : G v → G (s.credentials id v).2
  write (p body) {v} : G v → (s.write p body v).1 = .ok () ∧ G (s.write p body v).2
  mirror (r) {v} : G v → G (s.mirror r v).2
  notify (e) {v} : G v → G (s.notify e v)

/-- About states that do not occur there is nothing to say. -/
theorem Services.Writes.never (s : Services σ) : s.Writes fun _ => False where
  submitterOf _ _ h := h.elim
  account _ _ h := h.elim
  messages _ _ h := h.elim
  credentials _ _ h := h.elim
  write _ _ _ h := h.elim
  mirror _ _ h := h.elim
  notify _ _ h := h.elim

/-- Where keys are distinct, one entry at most has a key. -/
theorem filter_eq_toList_find? {α : Type} {f : α → CommitId} {l : List α} (hl : (l.map f).Nodup)
    (id : CommitId) : l.filter (f · = id) = (l.find? (f · = id)).toList := by
  induction l with
  | nil => rfl
  | cons a rest ih =>
    rw [List.map_cons, List.nodup_cons] at hl
    rw [List.filter_cons, List.find?_cons]
    by_cases ha : f a = id
    · have hrest : rest.filter (f · = id) = [] := by
        rw [List.filter_eq_nil_iff]
        intro b hb hid
        exact hl.1 (ha ▸ of_decide_eq_true hid ▸ List.mem_map_of_mem hb)
      simp [ha, hrest]
    · simpa [ha] using ih hl.2

/-- The messages of outcomes that are written for a commit. -/
def messagesFor (outcomes : List (CommitId × Outcome)) (id : CommitId) : List String :=
  (outcomes.filter (·.1 = id)).map (·.2.message)

theorem messagesFor_append (l l' : List (CommitId × Outcome)) (id : CommitId) :
    messagesFor (l ++ l') id = messagesFor l id ++ messagesFor l' id := by
  simp only [messagesFor, List.filter_append, List.map_append]

/-- A ledger has one message for a commit with an outcome. -/
theorem messagesFor_entries (l : Outcome.Ledger) (id : CommitId) :
    messagesFor l.entries id = ((l.get? id).map (·.message)).toList := by
  have hdistinct : (l.entries.map (·.1)).Nodup := l.map_fst_entries ▸ l.distinct
  rw [messagesFor, filter_eq_toList_find? hdistinct, l.find?_entries]
  cases l.get? id <;> rfl

/-- What is noted about an answer of the mirror. -/
def answerNotes : Option Mirror.Result → List String
  | none => [notAskedMessage]
  | some r =>
    if r.isSuccess then
      if (Text.trim r.output).isEmpty then [] else [Text.trim r.output]
    else [refusalMessage r]

namespace Session
variable {x y z : Session σ} {c : TrackedCommit} {new new' : List (CommitId × Outcome)}
  {texts texts' : CommitId → List String}

/-- The outcomes that were made known. -/
def told (x : Session σ) : List (CommitId × Outcome) :=
  x.journal.filterMap fun
    | .outcome id o => some (id, o)
    | _ => none

/-- What was written for a commit. -/
def trail (x : Session σ) (id : CommitId) : List String :=
  x.journal.filterMap fun
    | .message id' body => if id' = id then some body else none
    | _ => none

/-- The messages of a journal are the bodies of those that the store took: a note tells its body if
that was written, else nothing. -/
theorem trail_note (s : Services σ) (x : Session σ) (c : TrackedCommit) (body : String)
    (id : CommitId) : (x.note s c body).trail id = x.trail id ++
      match c.patchSet with
      | none => []
      | some p => if c.id = id ∧ (s.write p body x.world).1.isOk then [body] else [] := by
  rw [note_eq]
  cases c.patchSet with
  | none => exact (List.append_nil _).symm
  | some p =>
    simp only [ask]
    cases (s.write p body x.world).1 with
    | error e => simp [trail, Except.isOk, Except.toBool]
    | ok _ => by_cases hid : c.id = id <;> simp [trail, tell, hid, Except.isOk, Except.toBool]

/-- What a push writes for its commit: nothing until a ticket is found, then that it goes over, and
why it was not asked for or what the mirror had to say. -/
def notes (s : Services σ) (tickets : TicketMatcher) (branch : Branch) (x : Session σ)
    (current : CommitId) (c : TrackedCommit) : List String :=
  match x.errand s tickets c with
  | (.error _, _) => []
  | (.ok e, x) =>
    let x := x.note s c (announcement c.id e)
    let r := x.request s branch current c e
    announcement c.id e ::
      match r.validate with
      | .error fault => [notAskedMessage ++ "\n" ++ fault.message]
      | .ok () => answerNotes (x.invoke s r).1

/-- From `x` to `y` the outcomes `new` were made known, and `texts` written for commits that have a
change. -/
structure Logs (G : σ → Prop) (x y : Session σ) (new : List (CommitId × Outcome))
    (texts : CommitId → List String) : Prop where
  batch : y.batch = x.batch
  reported : y.reported = x.reported
  told : y.told = x.told ++ new
  good : G x.world → G y.world
  trail : G x.world → ∀ id c, x.batch.get? id = some c → c.patchSet ≠ none →
    y.trail id = x.trail id ++ texts id

namespace Logs

theorem trans (h : Logs G x y new texts) (h' : Logs G y z new' texts') :
    Logs G x z (new ++ new') fun id => texts id ++ texts' id where
  batch := h'.batch.trans h.batch
  reported := h'.reported.trans h.reported
  told := by rw [h'.told, h.told, List.append_assoc]
  good hx := h'.good (h.good hx)
  trail hx id c hc hp := by
    rw [h'.trail (h.good hx) id c (h.batch ▸ hc) hp, h.trail hx id c hc hp, List.append_assoc]

theorem congr (h : Logs G x y new texts) (htexts : ∀ id c, x.batch.get? id = some c →
    c.patchSet ≠ none → texts id = texts' id) : Logs G x y new texts' :=
  { h with trail := fun hx id c hc hp => htexts id c hc hp ▸ h.trail hx id c hc hp }

/-- Nothing is told. -/
theorem silent (hbatch : y.batch = x.batch) (hreported : y.reported = x.reported)
    (hjournal : y.journal = x.journal) (hgood : G x.world → G y.world) :
    Logs G x y [] fun _ => [] where
  batch := hbatch
  reported := hreported
  told := by rw [Session.told, Session.told, hjournal, List.append_nil]
  good := hgood
  trail _ id _ _ _ := by rw [Session.trail, Session.trail, hjournal, List.append_nil]

theorem refl (G : σ → Prop) (x : Session σ) : Logs G x x [] fun _ => [] :=
  silent rfl rfl rfl id

/-- What is told besides outcomes and messages. -/
theorem tell (hw : s.Writes G) (x : Session σ) {e : Event} (ho : ∀ id o, e ≠ .outcome id o)
    (hm : ∀ id body, e ≠ .message id body) : Logs G x (x.tell s e) [] fun _ => [] where
  batch := rfl
  reported := rfl
  told := by cases e <;> simp_all [Session.told, Session.tell]
  good := hw.notify e
  trail _ id _ _ _ := by cases e <;> simp_all [Session.trail, Session.tell]

theorem tell_outcome (hw : s.Writes G) (x : Session σ) (e : CommitId × Outcome) :
    Logs G x (x.tell s (.outcome e.1 e.2)) [e] fun _ => [] where
  batch := rfl
  reported := rfl
  told := by simp [Session.told, Session.tell]
  good := hw.notify _
  trail _ id _ _ _ := by simp [Session.trail, Session.tell]

/-- A note is written for the commit that it is about, if it has a change. -/
theorem note (hw : s.Writes G) (x : Session σ) (c : TrackedCommit) (body : String) :
    Logs G x (x.note s c body) []
      fun id => if c.id = id ∧ c.patchSet ≠ none then [body] else [] := by
  have htrail : G x.world → ∀ id, (x.note s c body).trail id =
      x.trail id ++ if c.id = id ∧ c.patchSet ≠ none then [body] else [] := by
    intro hx id
    rw [trail_note]
    cases c.patchSet with
    | none => simp
    | some p => simp [(hw.write p body hx).1, Except.isOk, Except.toBool]
  rw [note_eq] at htrail ⊢
  cases hp : c.patchSet with
  | none => exact (refl G x).congr (by simp)
  | some p =>
    rw [hp] at htrail
    simp only [ask] at htrail ⊢
    cases hwrite : (s.write p body x.world).1 with
    | error e =>
      rw [hwrite] at htrail
      exact ⟨rfl, rfl, by simp [Session.told], fun hx => (hw.write p body hx).2,
        fun hx id _ _ _ => htrail hx id⟩
    | ok _ =>
      rw [hwrite] at htrail
      exact ⟨rfl, rfl, by simp [Session.told, Session.tell],
        fun hx => hw.notify _ (hw.write p body hx).2, fun hx id _ _ _ => htrail hx id⟩

/-- To look something up tells nothing. -/
theorem ask {α : Type} {query : σ → α × σ} (hq : ∀ {v}, G v → G (query v).2) (x : Session σ) :
    Logs G x (x.ask query).2 [] fun _ => [] :=
  silent rfl rfl rfl hq

theorem errand (hw : s.Writes G) (tickets : TicketMatcher) (x : Session σ) (c : TrackedCommit) :
    Logs G x (x.errand s tickets c).2 [] fun _ => [] :=
  errand_keeps (P := fun y => Logs G x y [] fun _ => []) (refl G x)
    (fun p y h => h.trans (.ask (hw.submitterOf p) y))
    (fun id y h => h.trans (.ask (hw.credentials id) y))
    (fun id y h => h.trans (.ask (hw.account id) y))
    (fun id y h => h.trans (.ask (hw.messages id) y)) tickets c

theorem invoke (hw : s.Writes G) (x : Session σ) (r : Mirror.Request) :
    Logs G x (x.invoke s r).2 [] fun _ => [] where
  batch := rfl
  reported := rfl
  told := by simp [Session.told, Session.invoke, Session.tell, Session.ask]
  good hx := hw.notify _ (hw.mirror r (hw.notify _ hx))
  trail _ id _ _ _ := by simp [Session.trail, Session.invoke, Session.tell, Session.ask]

theorem judge (hw : s.Writes G) (x : Session σ) (c : TrackedCommit)
    (answer : Option Mirror.Result) : Logs G x (x.judge s c answer).2 []
      fun id => if c.id = id ∧ c.patchSet ≠ none then answerNotes answer else [] := by
  rw [Session.judge.eq_def]
  cases answer with
  | none => exact .note hw x c _
  | some r =>
    rw [answerNotes]
    dsimp only
    split
    · split
      · exact (refl G x).congr (by simp)
      · exact .note hw x c _
    · exact .note hw x c _

/-- A push writes its notes, and these for its own commit alone. -/
theorem push (hw : s.Writes G) (tickets : TicketMatcher) (branch : Branch) (x : Session σ)
    (current : CommitId) (c : TrackedCommit) : Logs G x (x.push s tickets branch current c).2 []
      fun id => if c.id = id then x.notes s tickets branch current c else [] := by
  have herrand := Logs.errand hw tickets x c
  rw [Session.push, notes]
  obtain ⟨found, y, hfound⟩ : ∃ found y, x.errand s tickets c = (found, y) := ⟨_, _, rfl⟩
  rw [hfound] at herrand ⊢
  cases found with
  | error o => exact herrand.congr (by simp)
  | ok e =>
    have hpatch : c.patchSet ≠ none := by simp [(errand_ok hfound).1]
    have hnote := herrand.trans (.note hw y c (announcement c.id e))
    dsimp only at hnote ⊢
    generalize y.note s c (announcement c.id e) = y' at hnote ⊢
    cases (y'.request s branch current c e).validate with
    | error fault =>
      refine (hnote.trans (.note hw y' c _)).congr fun id _ _ _ => ?_
      by_cases hid : c.id = id <;> simp [hid, hpatch]
    | ok _ =>
      refine ((hnote.trans (.invoke hw y' _)).trans (.judge hw _ c _)).congr fun id _ _ _ => ?_
      by_cases hid : c.id = id <;> simp [hid, hpatch]

/-! Outcomes that are made known. -/

/-- An outcome is written for its commit, if that has a change. -/
theorem report (hw : s.Writes G) (hbatch : ∀ id c, x.batch.get? id = some c → c.id = id)
    (e : CommitId × Outcome) : Logs G x (x.report s e) [e] (messagesFor [e]) := by
  have htold := tell_outcome hw x e
  rw [Session.report]
  have hsame : (x.tell s (.outcome e.1 e.2)).batch = x.batch := rfl
  rw [hsame]
  cases hc : x.batch.get? e.1 with
  | none =>
    refine htold.congr fun id c hid _ => ?_
    have hne : e.1 ≠ id := by
      rintro rfl
      simp [hc] at hid
    simp [messagesFor, hne]
  | some c =>
    refine (htold.trans (.note hw _ c e.2.message)).congr fun id c' hid hp => ?_
    by_cases he : e.1 = id
    · subst he
      obtain rfl := Option.some.inj (hc.symm.trans hid)
      simp [messagesFor, hbatch _ _ hc, hp]
    · simp [messagesFor, he, hbatch _ _ hc]

theorem reports (hw : s.Writes G) (hbatch : ∀ id c, x.batch.get? id = some c → c.id = id)
    (entries : List (CommitId × Outcome)) :
    Logs G x (entries.foldl (Session.report s) x) entries (messagesFor entries) := by
  induction entries generalizing x with
  | nil => exact refl G x
  | cons e rest ih =>
    have hone := Logs.report hw hbatch e
    refine (hone.trans (ih (hone.batch ▸ hbatch))).congr fun id _ _ _ => ?_
    exact (messagesFor_append [e] rest id).symm

/-- To mark what landed tells nothing. -/
theorem merged (hw : s.Writes G) {ids : List CommitId} {ps : List PatchSetId}
    {a : Option SubmitApproval} {v : σ} (ha : Attributed s ps x.world a v) :
    Logs G x (x.merged ids v) [] fun _ => [] :=
  silent rfl rfl rfl (ha.keeps fun p _ => hw.submitterOf p)

end Logs

/-! The books when all outcomes are made known. -/

/-- Every outcome is made known. -/
structure Complete (x : Session σ) : Prop where
  told : x.told = x.outcomes.entries
  reported : x.reported = x.outcomes.size

/-- From `x` on the outcomes `new` were recorded, and all are made known in `y`. `texts` were
written for commits, and then the messages of their new outcomes. -/
structure Accounts (G : σ → Prop) (x y : Session σ) (new : List (CommitId × Outcome))
    (texts : CommitId → List String) : Prop where
  complete : y.Complete
  batch : y.batch = x.batch
  entries : y.outcomes.entries = x.outcomes.entries ++ new
  good : G x.world → G y.world
  trail : G x.world → ∀ id c, x.batch.get? id = some c → c.patchSet ≠ none →
    y.trail id = x.trail id ++ (texts id ++ messagesFor new id)

/-- As long as no outcome is recorded, all are known. -/
theorem Complete.of_logs (hx : x.Complete) (h : Logs G x y [] texts)
    (hsame : y.outcomes = x.outcomes) : y.Complete where
  told := by rw [h.told, List.append_nil, hx.told, hsame]
  reported := by rw [h.reported, hx.reported, hsame]

namespace Accounts

theorem refl (G : σ → Prop) (hx : x.Complete) : Accounts G x x [] fun _ => [] where
  complete := hx
  batch := rfl
  entries := (List.append_nil _).symm
  good := id
  trail _ _ _ _ _ := (List.append_nil _).symm

/-- What is written before the first outcome is recorded. -/
theorem after (h : Logs G x y [] texts) (hsame : y.outcomes = x.outcomes)
    (h' : Accounts G y z new texts') : Accounts G x z new fun id => texts id ++ texts' id where
  complete := h'.complete
  batch := h'.batch.trans h.batch
  entries := hsame ▸ h'.entries
  good hx := h'.good (h.good hx)
  trail hx id c hc hp := by
    rw [h'.trail (h.good hx) id c (h.batch ▸ hc) hp, h.trail hx id c hc hp, List.append_assoc,
      List.append_assoc]

theorem before (h : Accounts G x y new texts) (h' : Logs G y z [] fun _ => [])
    (hsame : z.outcomes = y.outcomes) : Accounts G x z new texts where
  complete := h.complete.of_logs h' hsame
  batch := h'.batch.trans h.batch
  entries := hsame ▸ h.entries
  good hx := h'.good (h.good hx)
  trail hx id c hc hp := by
    rw [h'.trail (h.good hx) id c (h.batch ▸ hc) hp, h.trail hx id c hc hp, List.append_nil]

theorem trans (h : Accounts G x y new texts) (h' : Accounts G y z new' fun _ => []) :
    Accounts G x z (new ++ new') texts where
  complete := h'.complete
  batch := h'.batch.trans h.batch
  entries := by rw [h'.entries, h.entries, List.append_assoc]
  good hx := h'.good (h.good hx)
  trail hx id c hc hp := by
    rw [h'.trail (h.good hx) id c (h.batch ▸ hc) hp, h.trail hx id c hc hp, messagesFor_append,
      List.nil_append, List.append_assoc, List.append_assoc]

theorem congr (h : Accounts G x y new texts) (htexts : ∀ id, texts id = texts' id) :
    Accounts G x y new texts' := by
  obtain rfl : texts = texts' := funext htexts
  exact h

/-- The new entries of a ledger are made known, each once. -/
theorem flush (hw : s.Writes G) (hbatch : ∀ id c, x.batch.get? id = some c → c.id = id)
    (hx : x.Complete) {l : Outcome.Ledger} (hl : l.entries = x.outcomes.entries ++ new) :
    Accounts G x (Session.flush s { x with outcomes := l }) new fun _ => [] := by
  have hfresh : l.entries.drop x.reported = new := by
    rw [hx.reported, hl, ← Outcome.Ledger.length_entries]
    exact List.drop_left
  have hreports : Logs G { x with outcomes := l, reported := l.size }
      (Session.flush s { x with outcomes := l }) new (messagesFor new) := by
    rw [Session.flush]
    dsimp only
    rw [hfresh]
    exact Logs.reports (x := { x with outcomes := l, reported := l.size }) hw hbatch new
  have houtcomes : (Session.flush s { x with outcomes := l }).outcomes = l :=
    (quiet_flush s _).outcomes
  have htold : x.told ++ new = l.entries := by rw [hx.told, hl]
  have hcomplete : (Session.flush s { x with outcomes := l }).Complete := by
    refine ⟨?_, ?_⟩
    · rw [houtcomes, ← htold]
      exact hreports.told
    · rw [houtcomes]
      exact hreports.reported
  exact ⟨hcomplete, hreports.batch, by rw [houtcomes, hl], hreports.good, hreports.trail⟩

theorem halt (hw : s.Writes G) (hbatch : ∀ id c, x.batch.get? id = some c → c.id = id)
    (hx : x.Complete) {l : Outcome.Ledger} (hl : l.entries = x.outcomes.entries ++ new)
    (rest range taken : List CommitId) (o : Outcome) : ∃ new',
    Accounts G x (Session.halt s { x with outcomes := l } rest range taken o) new'
      fun _ => [] := by
  obtain ⟨more, hmore⟩ := l.entries_foldl
    (Session.unresolved { x with outcomes := l } rest range taken) fun _ => o
  rw [hl, List.append_assoc] at hmore
  exact ⟨_, flush hw hbatch hx hmore⟩

end Accounts

end Session

/-- What a push that was attempted writes for its commit. -/
def Attempt.notes (s : Services σ) (plan : Plan) (a : Attempt σ) : List String :=
  match plan.policy with
  | .localOnly => []
  | .mirrored tickets => a.books.notes s tickets plan.branch a.last.id a.commit

/-- What the pushes of a list write for a commit. -/
def notesFor (s : Services σ) (plan : Plan) (attempts : List (Attempt σ)) (id : CommitId) :
    List String :=
  (attempts.filter (·.commit.id = id)).flatMap (·.notes s plan)

namespace Session
variable {x y : Session σ} {tickets : TicketMatcher} {plan : Plan} {range taken ids : List CommitId}
  {current tip chosen newTip : TrackedCommit} {r : Reduction}

/-- By induction on the range: each push is noted for its commit alone, and what remains when one
fails is made known at the end. -/
theorem accounts_pushEach (hw : s.Writes G) (hpolicy : plan.policy = .mirrored tickets)
    (hbatch : ∀ id c, x.batch.get? id = some c → c.id = id) (hx : x.Complete)
    (he : pushEach s tickets plan.branch range taken current x ids = (tip, y)) :
    ∃ new, Accounts G x y new
      (notesFor s plan (attemptEach s tickets plan.branch current x ids)) := by
  induction ids generalizing taken current x with
  | nil =>
    cases he
    exact ⟨[], .refl G hx⟩
  | cons id ids ih =>
    have hsame : x.outcomes.entries = x.outcomes.entries ++ [] := (List.append_nil _).symm
    rw [pushEach] at he
    rw [attemptEach]
    split at he
    · rename_i hread
      cases he
      simp only [hread]
      exact Accounts.halt hw hbatch hx hsame ids range taken .internalError
    · rename_i commit hread
      split at he
      · rename_i hc
        cases he
        simp only [hread, hc]
        exact Accounts.halt hw hbatch hx hsame ids range taken .internalError
      · rename_i c hc
        simp only [hread, hc]
        have hlog := Logs.push hw tickets plan.branch x current.id c
        have hcons : ∀ (rest : List (Attempt σ)) id',
            (if c.id = id' then x.notes s tickets plan.branch current.id c else []) ++
                notesFor s plan rest id' =
              notesFor s plan (⟨c, current, x⟩ :: rest) id' := by
          intro rest id'
          by_cases hid : c.id = id' <;> simp [notesFor, Attempt.notes, hpolicy, hid]
        cases hz : x.push s tickets plan.branch current.id c with | mk answer z
        rw [hz] at he hlog
        obtain ⟨hquiet, _⟩ := push_spec hz
        have hcomplete : z.Complete := hx.of_logs hlog hquiet.outcomes
        cases answer with
        | accepted =>
          obtain ⟨new, hrest⟩ := ih (hquiet.batch ▸ hbatch) hcomplete he
          exact ⟨new, (hrest.after hlog hquiet.outcomes).congr (hcons _)⟩
        | refused o =>
          cases he
          obtain ⟨first, hfirst⟩ := z.outcomes.entries_foldl [c.id] fun _ => o
          obtain ⟨new, hrest⟩ := Accounts.halt hw (hquiet.batch ▸ hbatch) hcomplete hfirst ids
            range taken .dependencyBlocked
          exact ⟨new, (hrest.after hlog hquiet.outcomes).congr (hcons [])⟩

/-- While the chosen tip comes in, the pushes are noted that are attempted. -/
theorem accounts_bringIn (hw : s.Writes G)
    (hbatch : ∀ id c, x.batch.get? id = some c → c.id = id) (hx : x.Complete)
    (he : x.bringIn s plan r tip chosen = (newTip, y)) :
    ∃ new, Accounts G x y new (notesFor s plan (x.attempted s plan tip chosen)) := by
  rcases bringIn_inv he with ⟨_, rfl, hskip⟩ | ⟨tickets, hpolicy, hsync, hne, hwalk⟩
  · have hnone : y.attempted s plan tip chosen = [] := by
      rw [attempted]
      split
      · rfl
      · rename_i tickets hpolicy
        rw [attemptRange, if_pos]
        simpa using hskip tickets hpolicy
    rw [hnone]
    exact ⟨[], .refl G hx⟩
  · rcases hwalk with ⟨e, horder, _, rfl⟩ | ⟨ids, horder, hpush⟩
    · have hnone : x.attempted s plan tip chosen = [] := by
        simp only [attempted, hpolicy, attemptRange, horder, ite_self]
      rw [hnone]
      exact Accounts.halt hw hbatch hx (List.append_nil _).symm [] _ [] .internalError
    · rw [attempted_eq hpolicy hsync hne horder]
      exact accounts_pushEach hw hpolicy hbatch hx hpush

/-- At the end the last outcomes are made known, and what is made known is what is given out. -/
theorem accounts_conclude (hw : s.Writes G)
    (hbatch : ∀ id c, x.batch.get? id = some c → c.id = id) (hx : x.Complete)
    {landed : Landed} (he : x.conclude s plan tip.id r newTip = (.ok landed, y)) :
    landed.outcomes = y.outcomes ∧ ∃ new, Accounts G x y new fun _ => [] := by
  rw [conclude] at he
  dsimp only at he
  split at he
  · cases he
  · rename_i approval z hmark
    cases he
    refine ⟨rfl, ?_⟩
    rcases (x.tell s (.phase .marking)).mark_cases s newTip.id (plan.accepted ++ [tip.id]) with
      ⟨_, _, hfail⟩ | ⟨l, a, w, _, hdone, hattributed⟩
    · cases hfail.symm.trans hmark
    · have hz : (x.tell s (.phase .marking)).merged (x.unmarked l) w = z :=
        congrArg Prod.snd (hdone.symm.trans hmark)
      have houtcomes : z.outcomes = x.outcomes.finalizeAll (x.unmarked l) .cleanMerge := hz ▸ rfl
      have hlog : Logs G x z [] fun _ => [] :=
        hz ▸ (Logs.tell hw x (by simp) (by simp)).trans (.merged hw hattributed)
      -- the books as they would be without the outcomes that were added
      have hbase : Logs G x { z with outcomes := x.outcomes } [] fun _ => [] :=
        ⟨hlog.batch, hlog.reported, hlog.told, hlog.good, hlog.trail⟩
      obtain ⟨first, hfirst⟩ := x.outcomes.entries_foldl (x.unmarked l) fun _ => .cleanMerge
      obtain ⟨second, hsecond⟩ :=
        z.outcomes.entries_foldl (z.order.filter (!z.outcomes.isFinal ·)) (leftover r)
      have hentries : (closed r z.order z.outcomes).entries =
          x.outcomes.entries ++ (first ++ second) := by
        rw [← List.append_assoc, ← hfirst]
        exact hsecond.trans (congrArg (·.entries ++ second) houtcomes)
      have hflush := Accounts.flush (x := { z with outcomes := x.outcomes }) hw
        (hlog.batch ▸ hbatch) (hx.of_logs hbase rfl) hentries
      rw [resolveLeftovers_eq]
      exact ⟨_, (hflush.after hbase rfl).before (.tell hw _ (by simp) (by simp)) rfl⟩

end Session

variable {w : σ} {plan : Plan} {tip chosen : TrackedCommit} {pending : PendingSet}
  {r : Reduction} {x : Session σ} {landed : Landed}

/-- The outcomes that the first half records are made known at its end. -/
theorem accounts_opening (hw : s.Writes G) (ho : opening s tip pending w = .ok (r, chosen, x)) :
    ∃ new, Session.Accounts G (Session.start pending w) x new fun _ => [] := by
  have hlog : Session.Logs G (Session.start pending w)
      (((Session.start pending w).tell s (.phase .reducing)).tell s (.phase .selecting)) []
      fun _ => [] :=
    (Session.Logs.tell hw _ (by simp) (by simp)).trans (.tell hw _ (by simp) (by simp))
  have hstart : (Session.start pending w).Complete := ⟨rfl, rfl⟩
  have hcomplete := hstart.of_logs hlog rfl
  rw [opening] at ho
  dsimp only at ho
  split at ho
  · cases ho
  · rename_i p _
    split at ho
    · cases ho
    · rename_i rest _
      cases ho
      have hflush := Session.Accounts.flush
        (x := ((Session.start pending w).tell s (.phase .reducing)).tell s (.phase .selecting))
        (l := p.outcomes.finalizeAll (rest.commits.map (·.id)) .notFastForward) hw
        (batch_id_start pending w) hcomplete rfl
      exact ⟨_, (hflush.after hlog rfl).before (.tell hw _ (by simp) (by simp)) rfl⟩

end Landing.Submission
