import Landing.OnDisk
import Landing.Proofs.Git
import Landing.Proofs.Submission.Local

/-! Submissions to a repository on disk without a program for the mirror. Nothing but the branch
changes, and that only if all goes well. -/
namespace Landing.OnDisk
open History Submission
open Git (IsFull)
variable {g : Git} {w w' : World} {tip : TrackedCommit} {pending : PendingSet}
  {branch : Branch}

theorem files_of_leads (hw : w.hook = none) (hl : (services g).Leads w w') :
    w'.hook = none ∧ w'.files = w.files := by
  induction hl with
  | refl => exact ⟨hw, rfl⟩
  | submitterOf _ _ ih => exact ih
  | account _ _ ih => exact ih
  | messages _ _ ih => exact ih
  | insertMessage _ _ ih => exact ih
  | credentials _ _ ih => exact ih
  | stamp _ ih => exact ih
  | @mirror v q _ ih =>
    have hsame : (World.mirror q v).2 = v := by rw [World.mirror, ih.1]
    change (World.mirror q v).2.hook = none ∧ (World.mirror q v).2.files = w.files
    rw [hsame]
    exact ih
  | notify _ _ ih => exact ih

theorem steady (hw : w.hook = none) : (services g).Steady w :=
  fun _ hl => congrArg g.history (files_of_leads hw hl).2

/-- How a submission ends: with the branch at the chosen tip, or with an error and all objects and
refs as they were. -/
inductive Ended (g : Git) (w : World) (branch : Branch) (tip : TrackedCommit)
    (pending : PendingSet) (report : Report World) : Prop where
  | landed (l : Landed) : report.result = .ok l →
    l.newTip = choice (g.history w.files) tip pending →
    (∀ c, l.outcomes.get? c = if c ∈ pending.ids then some (verdict (g.history w.files) tip.id
      pending.ids (choice (g.history w.files) tip pending).id c) else none) →
    g.Arrived branch.name l.newTip.id w.files report.session.world.files →
    Ended g w branch tip pending report
  /-- Something was to land. -/
  | failed (e : Error) (c : CommitId) : report.result = .error e →
    g.Same w.files report.session.world.files → c ∈ pending.ids →
    ¬ (g.history w.files).Reaches c tip.id → Ended g w branch tip pending report

/-- What comes of moving the branch after a submission that ended well. -/
theorem moveBranch_cases (hg : g.Lawful) (plan : Plan) {report : Report World} {l : Landed}
    {old : CommitId} (hname : Text.startsWith "refs/" plan.branch.name = true)
    (hok : report.result = .ok l)
    (hbranch : g.ref? report.session.world.files plan.branch.name = .found (.object old))
    (hnew : IsFull l.newTip.id) :
    (moveBranch (services g) plan old report).result = .ok l ∧
      g.Arrived plan.branch.name l.newTip.id report.session.world.files
        (moveBranch (services g) plan old report).session.world.files ∨
    (∃ e, (moveBranch (services g) plan old report).result = .error e) ∧ l.newTip.id ≠ old ∧
      g.Same report.session.world.files
        (moveBranch (services g) plan old report).session.world.files := by
  rw [moveBranch, hok]
  dsimp only
  split
  · rename_i hsame
    exact .inl ⟨hok, hsame ▸ (Git.Same.refl ..).arrived hbranch⟩
  · rename_i hne
    simp only [Session.ask, services, World.moveRef]
    rcases hg.moveRef_cases report.session.world.files hname (hg.target hbranch) hnew with
      ⟨hmoved, harrived⟩ | ⟨hlost, hsame⟩
    · rw [hmoved]
      exact .inl ⟨rfl, harrived⟩
    · right
      split <;> rename_i hask <;> obtain ⟨hresult, rfl⟩ := Prod.mk.inj hask
      · exact absurd hresult hlost
      · exact ⟨⟨_, rfl⟩, hne, hsame⟩
      · exact ⟨⟨_, rfl⟩, hne, hsame⟩

/-- A submission that is not to land all of its batch may fail, but then all stays as it is. -/
theorem integrate_ended (hg : g.Lawful) (hw : w.hook = none)
    (hfull : ∀ id ∈ pending.ids, IsFull id)
    (hi : (g.history w.files).Legible (tip.id :: pending.ids))
    (hname : Text.startsWith "refs/" branch.name = true)
    (hbranch : g.ref? w.files branch.name = .found (.object tip.id)) :
    Ended g w branch tip pending
      (integrate (services g) ⟨branch, .localOnly, []⟩ tip pending w) := by
  have hfiles := (files_of_leads hw
    (leads_run (services g) ⟨branch, .localOnly, []⟩ tip pending w)).2
  rw [integrate]
  cases hrun : (run (services g) ⟨branch, .localOnly, []⟩ tip pending w).result with
  | error e =>
    obtain ⟨c, hc, htip⟩ := exists_not_reaches_of_error (steady hw) hi hrun
    have hstay : moveBranch (services g) ⟨branch, .localOnly, []⟩ tip.id
        (run (services g) ⟨branch, .localOnly, []⟩ tip pending w) =
        run (services g) ⟨branch, .localOnly, []⟩ tip pending w := by rw [moveBranch, hrun]
    rw [hstay]
    exact .failed e c hrun (hfiles ▸ .refl ..) hc htip
  | ok l =>
    obtain ⟨hnew, hget⟩ := verdicts_of_ok (steady hw) hi hrun
    have hnew' : l.newTip = choice (g.history w.files) tip pending := hnew
    have hmem : l.newTip.id ∈ tip.id :: pending.ids := hnew' ▸ choice_id_mem ..
    have hfull' : IsFull l.newTip.id :=
      (List.mem_cons.1 hmem).elim (fun he => he ▸ hg.target hbranch) (hfull _)
    rw [← hfiles] at hbranch
    rcases moveBranch_cases hg ⟨branch, .localOnly, []⟩ hname hrun hbranch hfull' with
      ⟨hok, harrived⟩ | ⟨⟨e, he⟩, hne, hsame⟩
    · rw [hfiles] at harrived
      exact .landed l hok hnew hget harrived
    · rw [hnew'] at hmem hne
      rw [hfiles] at hsame
      exact .failed e _ he hsame ((List.mem_cons.1 hmem).resolve_left hne)
        (head_choice hne).1.2.1

end Landing.OnDisk
