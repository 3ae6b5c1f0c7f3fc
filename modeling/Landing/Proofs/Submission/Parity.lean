import Landing.Proofs.Rehearsal
import Landing.Proofs.Submission.Sequence

/-! A mirror that takes everything changes nothing: the same commits land, with the same outcomes,
and the move of the branch is attributed to the same approval. -/
namespace Landing.Submission
open History Reduction
open Rehearsal (services)
open Rehearsal.Crossing (above beside merge old batch world main sync digit calm intact)
variable {σ : Type} {s : Services σ} {h : History} {w : σ} {tip : TrackedCommit}
  {pending : PendingSet} {r : Reduction} {branch : Branch} {tickets : TicketMatcher}
  {f : PatchSetId → Except Error (Option SubmitApproval)}

namespace Session
variable {x y : Session σ}

/-! The end of a submission depends on the books alone. -/

/-- The approval of a commit of the batch that has no outcome yet. -/
def approvalOf (f : PatchSetId → Except Error (Option SubmitApproval))
    (batch : Table CommitId TrackedCommit) (l : Outcome.Ledger) (id : CommitId) :
    Option SubmitApproval := do
  let c ← if l.isFinal id then none else batch.get? id
  let p ← c.patchSet
  (f p).toOption.join

/-- The first approval of the commits that land. -/
def attribution (f : PatchSetId → Except Error (Option SubmitApproval))
    (batch : Table CommitId TrackedCommit) (l : Outcome.Ledger) (landed : List CommitId) :
    Option SubmitApproval :=
  (landed.filterMap (approvalOf f batch l)).head?

/-- Patch sets are looked up for commits of the batch that have no outcome. -/
theorem attribution_eq (x : Session σ) (landed : List CommitId) :
    attribution f x.batch x.outcomes landed =
      ((x.patchSets (x.unmarked landed)).filterMap fun p => (f p).toOption.join).head? := by
  rw [attribution, patchSets, unmarked, List.filterMap_filterMap, List.filterMap_filter]
  refine congrArg List.head? (List.filterMap_congr fun id _ => ?_)
  cases hfinal : x.outcomes.isFinal id with
  | true => simp [approvalOf, hfinal]
  | false => cases hc : x.batch.get? id <;> simp [approvalOf, Table.contains, hfinal, hc]

/-- What is given out in the end, once it is known that `l` comes in. -/
theorem conclude_eq {plan : Plan} {old : CommitId} {new : TrackedCommit} {l : List CommitId}
    (hf : s.Approves x.world f)
    (hl : (s.history (x.tell s (.phase .marking)).world).order [new.id] (plan.accepted ++ [old])
      .oldestFirst = .ok l) :
    (x.conclude s plan old r new).1 = .ok ⟨new,
      closed r x.order (x.outcomes.finalizeAll (l.filter x.batch.contains) .cleanMerge),
      attribution f x.batch x.outcomes l⟩ := by
  obtain ⟨result, y, he⟩ : ∃ result y, x.conclude s plan old r new = (result, y) := ⟨_, _, rfl⟩
  rcases (conclude_cases he).2.2 with ⟨e, _, horder⟩ | ⟨l', horder, a, _, hattributed, rfl⟩
  · rw [hl] at horder
    cases horder
  · rw [hl] at horder
    cases horder
    rw [he, attribution_eq, hattributed.eq_head? (hf.of_leads (Quiet.tell s x _).leads)]

/-- Where a tip comes in without more than pushes, what is given out depends on the books before. -/
theorem close_eq {plan : Plan} {old chosen new : TrackedCommit} {l : List CommitId}
    (hs : ∀ v, s.Leads x.world v → s.history v = h) (hf : s.Approves x.world f)
    (hl : h.order [new.id] (plan.accepted ++ [old.id]) .oldestFirst = .ok l)
    (he : x.bringIn s plan r old chosen = (new, y))
    (hy : Quiet s { x with pushes := y.pushes } y) :
    (x.close s plan old chosen r).result = .ok ⟨new,
      closed r x.order (x.outcomes.finalizeAll (l.filter x.batch.contains) .cleanMerge),
      attribution f x.batch x.outcomes l⟩ := by
  have hbatch : y.batch = x.batch := hy.batch
  have horder : y.order = x.order := hy.order
  have houtcomes : y.outcomes = x.outcomes := hy.outcomes
  have hworld : s.history (y.tell s (.phase .marking)).world = h := hs _ (.notify _ hy.leads)
  rw [← hworld] at hl
  rw [close, he]
  dsimp only
  rw [conclude_eq (hf.of_leads hy.leads) hl, hbatch, horder, houtcomes]

/-! Pushes of a range, one on top of the other. -/

/-- Every push that is made of the commits `ids` is accepted. -/
def Unrefused (s : Services σ) (tickets : TicketMatcher) (branch : Branch)
    (current : TrackedCommit) (x : Session σ) (ids : List CommitId) : Prop :=
  ∀ done id rest last y c, ids = done ++ id :: rest →
    Passes s tickets branch current x done last y → y.batch.get? id = some c →
    (y.push s tickets branch last.id c).1 = .accepted

variable {current last : TrackedCommit} {ids : List CommitId}

/-- A range that was taken as a whole had no push refused. -/
theorem Passes.unrefused (hp : Passes s tickets branch current x ids last y) :
    Unrefused s tickets branch current x ids := by
  rintro done id rest last' z c rfl hdone hc
  induction hdone with
  | nil =>
    cases hp with
    | cons _ hc' hpush _ =>
      obtain rfl := Option.some.inj (hc.symm.trans hc')
      rw [hpush]
  | cons _ hc' hpush' _ ih =>
    cases hp with
    | cons _ hc'' hpush hp =>
      obtain rfl := Option.some.inj (hc'.symm.trans hc'')
      obtain rfl := (Prod.mk.inj (hpush'.symm.trans hpush)).2
      exact ih hp hc

/-- The record of the last commit that was taken is that of the batch. -/
theorem Passes.get?_last (hp : Passes s tickets branch current x ids last y) {id : CommitId}
    (hid : ids.getLast? = some id) : x.batch.get? id = some last := by
  induction hp with
  | nil => cases hid
  | @cons current c last x y z id' ids _ hc hpush hp ih =>
    have hy : y.batch = x.batch := (push_spec hpush).1.batch
    cases ids with
    | nil =>
      cases hp
      cases hid
      exact hc
    | cons id'' ids =>
      rw [List.getLast?_cons_cons] at hid
      rw [← hy, ih hid]

end Session

/-- Where no push is refused the chosen tip comes in as it is, and the books only show the
pushes. -/
theorem bringIn_of_unrefused {x : Session σ} (branch : Branch) (tickets : TicketMatcher)
    (hs : s.Steady w)
    (hi : (s.history w).Intact (tip.id :: pending.ids))
    (ho : Opened s (s.history w) tip pending w r x)
    (hu : Branch.isMirrored branch.name = true → ∀ ids,
      (s.history x.world).order [(choice (s.history w) tip pending).id] [tip.id] .oldestFirst =
        .ok ids → x.Unrefused s tickets branch tip ids) :
    ∃ y, x.bringIn s ⟨branch, .mirrored tickets, []⟩ r tip (choice (s.history w) tip pending) =
        (choice (s.history w) tip pending, y) ∧
      Session.Quiet s { x with pushes := y.pushes } y := by
  have hworld := hs x.world ho.leads
  obtain ⟨new, y, hbring⟩ : ∃ new y, x.bringIn s ⟨branch, .mirrored tickets, []⟩ r tip
      (choice (s.history w) tip pending) = (new, y) := ⟨_, _, rfl⟩
  rcases Session.bringIn_cases hworld (intact_choice hi) ho.batch_id hbring with
    ⟨rfl, rfl, _⟩ | ⟨_, done, rest, hpolicy, hb, hne, hf, z, hpasses, hends⟩
  · exact ⟨y, hbring, .refl s _⟩
  obtain rfl : tickets = _ := Policy.mirrored.inj hpolicy
  have hz := hpasses.quiet
  rcases ends_cases hs hi ho hf hz hends with
    ⟨rfl, rfl⟩ | ⟨id, left, c, o, z', rfl, hc, hpush, _⟩
  · have hlast := hf.last_eq_chosen (head_choice hne).1.2.1
    rw [List.append_nil] at hlast
    have hchosen : x.batch.get? (choice (s.history w) tip pending).id =
        some (choice (s.history w) tip pending) := by
      refine (ho.batch _ _).2 ⟨?_, rfl⟩
      exact ((choice_cases (s.history w) tip pending).resolve_left
        fun he => hne (congrArg TrackedCommit.id he)).1
    obtain rfl : choice (s.history w) tip pending = new :=
      Option.some.inj (hchosen.symm.trans (hpasses.get?_last hlast))
    exact ⟨y, hbring, hz⟩
  · have hbatch : z.batch = x.batch := hz.batch
    have haccepted := hu hb _ (by rw [hworld]; exact hf.order) done id left new z c rfl hpasses
      (hbatch ▸ hc)
    rw [hpush] at haccepted
    cases haccepted

/-- If the mirror took the chosen commit, no push was refused. -/
theorem unrefused_of_mirrored (plan : Plan) (hs : s.Steady w)
    (hi : (s.history w).Intact (tip.id :: pending.ids))
    (hall : (choice (s.history w) tip pending).id ∈ (run s plan tip pending w).session.mirrored)
    {chosen : TrackedCommit} {x : Session σ} {ids : List CommitId}
    (hopening : opening s tip pending w = .ok (r, chosen, x))
    (hids : (s.history x.world).order [chosen.id] [tip.id] .oldestFirst = .ok ids) :
    ∃ tickets, plan.policy = .mirrored tickets ∧ x.Unrefused s tickets plan.branch tip ids := by
  obtain ⟨r', x', hopening', ho⟩ := opening_ok hs hi.above
  obtain ⟨rfl, rfl, rfl⟩ : r = r' ∧ chosen = choice (s.history w) tip pending ∧ x = x' := by
    simpa using hopening.symm.trans hopening'
  have hworld := hs x.world ho.leads
  obtain ⟨new, y, hbring⟩ : ∃ new y, x.bringIn s plan r tip
      (choice (s.history w) tip pending) = (new, y) := ⟨_, _, rfl⟩
  rw [run_of_opening hopening, Session.close_mirrored, hbring] at hall
  rcases Session.bringIn_cases hworld (intact_choice hi) ho.batch_id hbring with
    ⟨_, rfl, _⟩ | ⟨tickets, done, rest, hpolicy, _, _, hf, hpassage⟩
  · simp [ho.mirrored] at hall
  rw [hpassage.mirrored ho.batch_id, ho.mirrored, List.nil_append] at hall
  obtain rfl := hf.rest_eq_nil hall
  obtain ⟨z, hpasses, _⟩ := hpassage
  rw [hworld, hf.order, List.append_nil] at hids
  cases hids
  exact ⟨tickets, hpolicy, hpasses.unrefused⟩

/-- On a branch that is not mirrored the policy makes no difference. -/
theorem run_of_not_mirrored {branch : Branch} (hb : Branch.isMirrored branch.name = false)
    (s : Services σ) (tickets : TicketMatcher) (accepted : List CommitId) (tip : TrackedCommit)
    (pending : PendingSet) (w : σ) :
    run s ⟨branch, .mirrored tickets, accepted⟩ tip pending w =
      run s ⟨branch, .localOnly, accepted⟩ tip pending w := by
  have hbring : ∀ (x : Session σ) (r : Reduction) (chosen : TrackedCommit),
      x.bringIn s ⟨branch, .mirrored tickets, accepted⟩ r tip chosen =
        x.bringIn s ⟨branch, .localOnly, accepted⟩ r tip chosen := by
    intro x r chosen
    simp [Session.bringIn, Session.mirrorRange, hb]
  have hconclude : ∀ (x : Session σ) (r : Reduction) (new : TrackedCommit),
      x.conclude s ⟨branch, .mirrored tickets, accepted⟩ tip.id r new =
        x.conclude s ⟨branch, .localOnly, accepted⟩ tip.id r new := fun _ _ _ => rfl
  simp only [run, Session.land, hbring, hconclude]

/-- Without a mirror nothing is asked of it. -/
theorem pushes_of_localOnly (s : Services σ) (branch : Branch) (accepted : List CommitId)
    (tip : TrackedCommit) (pending : PendingSet) (w : σ) :
    (run s ⟨branch, .localOnly, accepted⟩ tip pending w).session.pushes = [] := by
  cases ho : opening s tip pending w with
  | error e => exact (run_of_opening_error ho _).2
  | ok o =>
    obtain ⟨r, chosen, x⟩ := o
    rw [run_of_opening ho, Session.close_pushes]
    exact (opening_books ho).2.2.1

/-- A mirror that takes everything changes nothing that lands. On an intact history that stays as it
is, with approvals that stay too, a submission to a mirrored branch of which no push is refused
gives out what it would without a mirror: the new tip, all outcomes in the same order, and the
approval. On a branch that is not mirrored, nothing is asked of the mirror, and the whole submission
goes as without it. -/
theorem run_mirrored_eq_localOnly (branch : Branch) (tickets : TicketMatcher) (hs : s.Steady w)
    (hi : (s.history w).Intact (tip.id :: pending.ids)) (hf : s.Approves w f)
    (hu : Branch.isMirrored branch.name = true → ∀ r chosen x ids,
      opening s tip pending w = .ok (r, chosen, x) →
      (s.history x.world).order [chosen.id] [tip.id] .oldestFirst = .ok ids →
      x.Unrefused s tickets branch tip ids) :
    (∃ landed, (run s ⟨branch, .mirrored tickets, []⟩ tip pending w).result = .ok landed ∧
      (run s ⟨branch, .localOnly, []⟩ tip pending w).result = .ok landed) ∧
    (Branch.isMirrored branch.name = false →
      (run s ⟨branch, .mirrored tickets, []⟩ tip pending w).session.pushes = [] ∧
      run s ⟨branch, .mirrored tickets, []⟩ tip pending w =
        run s ⟨branch, .localOnly, []⟩ tip pending w) := by
  constructor
  · obtain ⟨r, x, hopening, ho⟩ := opening_ok hs hi.above
    obtain ⟨y, hbring, hy⟩ := bringIn_of_unrefused branch tickets hs hi ho
      fun hb ids => hu hb r _ x ids hopening
    obtain ⟨l, hl, _⟩ := range_ok (intact_choice hi)
    have hworld : ∀ v, s.Leads x.world v → s.history v = s.history w :=
      fun v hv => hs v (ho.leads.trans hv)
    have hx := hf.of_leads ho.leads
    rw [run_of_opening hopening, run_of_opening hopening]
    exact ⟨_, Session.close_eq hworld hx hl hbring hy,
      Session.close_eq hworld hx hl rfl (.refl s _)⟩
  · intro hb
    have hsame := run_of_not_mirrored hb s tickets [] tip pending w
    exact ⟨hsame ▸ pushes_of_localOnly s branch [] tip pending w, hsame⟩

/-- The mirror takes all, the commit beside the tip too, and the merge lands as without it. -/
theorem run_mirrored_eq_localOnly_crossing :
    (run services sync old batch world).session.mirrored = [above, beside, merge] ∧
    ∃ landed, (run services sync old batch world).result = .ok landed ∧
      (run services ⟨main, .localOnly, []⟩ old batch world).result = .ok landed := by
  refine ⟨Crossing.run_sync.1, (run_mirrored_eq_localOnly main digit calm.steady intact
    (calm.approves rfl) fun _ r chosen x ids hopening hids => ?_).1⟩
  obtain ⟨tickets, hpolicy, hx⟩ :=
    unrefused_of_mirrored sync calm.steady intact Crossing.choice_mem hopening hids
  obtain rfl : digit = tickets := Policy.mirrored.inj hpolicy
  exact hx

end Landing.Submission
