import Landing.CommandLine
import Landing.Proofs.OnDisk
import Landing.Proofs.Repository.Refs
import Landing.Proofs.Review.Spelling

/-! The command that submits a batch: what its exit status says about the branch. -/
namespace Landing

/-- The name of a branch says where it is kept. -/
theorem Branch.startsWith_named (project name : String) :
    Text.startsWith "refs/" (Branch.named project name).name = true := by
  rw [Branch.named]
  dsimp only
  split
  · assumption
  · rw [Text.startsWith, String.toList_append]
    rfl

namespace Review.Batch
variable {b : Batch}

theorem commits_ok (read : Reader)
    (hread : ∀ c ∈ b.changes, ∃ d, read c.commit = .ok d ∧ d.id = c.commit) :
    ∃ l, b.commits read = .ok l ∧ l.map (·.id) = b.changes.map (·.commit) := by
  rw [commits]
  generalize b.changes = changes at hread
  induction changes with
  | nil => exact ⟨[], rfl, rfl⟩
  | cons c rest ih =>
    rw [List.forall_mem_cons] at hread
    obtain ⟨⟨d, hd, hid⟩, hrest⟩ := hread
    obtain ⟨l, hl, hids⟩ := ih hrest
    refine ⟨d.tracked (some c.patchSetId) :: l, ?_, ?_⟩
    · rw [List.mapM_cons, hd, hl]
      rfl
    · rw [List.map_cons, List.map_cons, hids, ← hid]
      rfl

end Review.Batch

namespace CommandLine
open History Submission
open Git (IsFull)

section
variable {s : Surroundings} {args : List String} {i : Invocation} {repository batch : String}
  {c : Config} {b : Review.Batch} {g : Git} {old : CommitId}

/-- What a submission without a mirror finds where nothing is missing: the branch is a ref that
names a commit, and all can be read that this commit and those of the batch are built on. -/
structure Ready (s : Surroundings) (configPath : Option String) (repository batch : String)
    (c : Config) (b : Review.Batch) (g : Git) (old : CommitId) : Prop where
  config : s.config configPath = .ok c
  policy : c.submitTypeOf b.project = .fastForwardOnly
  batch : Review.Batch.load batch (s.read batch) = .ok b
  repository : s.repository repository = .ok g
  branch : g.ref? s.files b.destination.name = .found (.object old)
  full : ∀ change ∈ b.changes, IsFull change.commit
  readable : ∀ x, (g.history s.files).Below (old :: b.changes.map (·.commit)) x →
    (g.history s.files).Readable x

namespace Ready
variable {configPath : Option String}

theorem isFull (hr : Ready s configPath repository batch c b g old) (hg : g.Lawful) :
    ∀ id ∈ old :: b.changes.map (·.commit), IsFull id := by
  refine List.forall_mem_cons.2 ⟨hg.target hr.branch, ?_⟩
  simpa using hr.full

theorem read_ok (hr : Ready s configPath repository batch c b g old) (hg : g.Lawful)
    {id : CommitId} (hid : id ∈ old :: b.changes.map (·.commit)) :
    ∃ c, g.read s.files id = .ok c ∧ c.id = id := by
  obtain ⟨c, hc⟩ := hr.readable id (.of_mem hid)
  exact ⟨c, hc, (Git.object_of_read (hr.isFull hg id hid) hc).1⟩

/-- All that the submission takes is there. -/
theorem prepare (hr : Ready s configPath repository batch c b g old) (hg : g.Lawful) :
    ∃ p, Start.prepare s configPath repository batch = .ok p ∧ p.repository = g ∧
      p.branch = b.destination ∧ p.tip.id = old ∧ p.setup = .localOnly ∧
      ∀ id, id ∈ p.pending.ids ↔ id ∈ b.changes.map (·.commit) := by
  have href : g.readRef s.files b.destination.name = .ok (some old) :=
    hg.readRef_of_ref? hr.branch (hr.readable old (.of_mem List.mem_cons_self))
  obtain ⟨tip, htip, hid⟩ := hr.read_ok hg List.mem_cons_self
  obtain ⟨l, hl, hids⟩ := Review.Batch.commits_ok (g.read s.files) fun c hc =>
    hr.read_ok hg (List.mem_cons_of_mem old (List.mem_map_of_mem hc))
  have hsetup : Setup.ofConfig c s.environment s.read b.project = .ok .localOnly := by
    rw [Setup.ofConfig, hr.policy]
  have hproject : b.destination.project = b.project := rfl
  refine ⟨⟨g, b.destination, tip.tracked, .ofList l, .localOnly, b.store s.now⟩, ?_, rfl, rfl,
    hid, rfl, fun id => by rw [← hids]; exact PendingSet.mem_ids_ofList l id⟩
  simp only [Start.prepare, hr.config, hr.batch, hr.repository, bind, Except.bind, href, htip, hl,
    hproject, hsetup]
  rfl

end Ready

/-- All outcomes of a batch count as landed exactly if each of them does. -/
theorem landed_eq_size_iff {l : Landed} {p : PendingSet} {f : CommitId → Outcome}
    (hl : ∀ c, l.outcomes.get? c = if c ∈ p.ids then some (f c) else none) :
    Start.landed l = p.size ↔ ∀ c ∈ p.ids, (f c).isSuccess = true := by
  have hentries : ∀ c o, (c, o) ∈ l.outcomes.entries ↔ c ∈ p.ids ∧ f c = o := by
    intro c o
    rw [Outcome.Ledger.mem_entries_iff, hl]
    split <;> simp_all
  have horder : l.outcomes.order.Perm p.ids :=
    (List.perm_ext_iff_of_nodup l.outcomes.distinct p.distinct).2 fun c => by
      change c ∈ l.outcomes.order ↔ c ∈ p.ids
      rw [Outcome.Ledger.mem_order_iff, Outcome.Ledger.isFinal, hl]
      split <;> simp_all
  have hsize : p.size = l.outcomes.entries.length :=
    calc
      p.size = p.ids.length := (List.length_map _).symm
      _ = l.outcomes.order.length := horder.length_eq.symm
      _ = l.outcomes.entries.length := l.outcomes.length_entries.symm
  rw [Start.landed, hsize, List.length_filter_eq_length_iff]
  constructor
  · exact fun hall c hc => hall (c, f c) ((hentries c (f c)).2 ⟨hc, rfl⟩)
  · rintro hall ⟨c, o⟩ he
    obtain ⟨hc, rfl⟩ := (hentries c o).1 he
    exact hall c hc

namespace Start
variable {p : Start} {y : Style} {report : Report OnDisk.World}

theorem tell_error {e : Error} (he : report.result = .error e) :
    (p.tell y report).ending = .failed e ∧
      (p.tell y report).files = report.session.world.files := by
  rw [tell, he]
  cases e <;> exact ⟨rfl, rfl⟩

theorem tell_ok {l : Landed} (hl : report.result = .ok l) :
    (p.tell y report).ending = (if landed l = p.pending.size then .yes else .no) ∧
      (p.tell y report).files = report.session.world.files := by
  rw [tell, hl]
  exact ⟨rfl, rfl⟩

end Start

theorem Ending.status_ite (yes : Prop) [Decidable yes] :
    (if yes then Ending.yes else .no).status = 0 ↔ yes := by
  split <;> simp_all [status]

/-- A command that finds all it takes tells what comes of the submission. -/
theorem start_of_prepare {p : Start} (hargs : Arguments.parse? args = some (.invoke i))
    (hrun : i.command = .run repository batch)
    (hp : Start.prepare s i.config repository batch = .ok p) (hsetup : p.setup = .localOnly) :
    start s args = p.tell ⟨s.color, i.verbose⟩ (integrate (OnDisk.services p.repository)
      ⟨p.branch, .localOnly, []⟩ p.tip p.pending
      { files := s.files, store := p.store, now := s.now }) := by
  simp only [start, hargs, obey, hrun, run, hp, Start.submit, Start.plan, Start.world, hsetup]
  rfl

/-- How a reply leaves the branch of a batch, in terms of the history before the submission. -/
structure Concluded (g : Git) (b : Review.Batch) (files : FileTree) (old new : CommitId)
    (r : Reply) : Prop where
  arrived : g.Arrived b.destination.name new files r.files
  kept : (g.history files).Reaches old new
  status : r.ending.status = 0 ↔
    ∀ change ∈ b.changes, (g.history files).Reaches change.commit new
  failed : ∀ e, r.ending = .failed e → new = old ∧ g.Same files r.files

/-- What is told of a submission is how it leaves the branch. -/
theorem concluded_tell {p : Start} {report : Report OnDisk.World} (y : Style) (w : OnDisk.World)
    (hended : OnDisk.Ended g w b.destination p.tip p.pending report)
    (hids : ∀ id, id ∈ p.pending.ids ↔ id ∈ b.changes.map (·.commit))
    (hbranch : g.ref? w.files b.destination.name = .found (.object p.tip.id)) :
    ∃ new ∈ p.tip.id :: p.pending.ids, Concluded g b w.files p.tip.id new (p.tell y report) := by
  have hall : ∀ new, (∀ change ∈ b.changes, (g.history w.files).Reaches change.commit new) ↔
      ∀ id ∈ p.pending.ids, (g.history w.files).Reaches id new := by
    intro new
    simp only [hids, List.forall_mem_map]
  cases hended with
  | landed l hok hnew hget harrived =>
    obtain ⟨hending, htold⟩ := Start.tell_ok (p := p) (y := y) hok
    refine ⟨l.newTip.id, hnew ▸ choice_id_mem .., ?_, hnew ▸ reaches_choice .., ?_, fun e he => ?_⟩
    · rw [htold]
      exact harrived
    · rw [hending, Ending.status_ite, landed_eq_size_iff hget, hall, hnew]
      exact forall₂_congr fun id _ => isSuccess_verdict_iff _ p.tip p.pending id
    · rw [hending] at he
      split at he <;> cases he
  | failed e id he hsame hid htip =>
    obtain ⟨hending, htold⟩ := Start.tell_error (p := p) (y := y) he
    rw [← htold] at hsame
    refine ⟨p.tip.id, List.mem_cons_self, hsame.arrived hbranch, .refl _, ?_,
      fun _ _ => ⟨rfl, hsame⟩⟩
    have hzero : (p.tell y report).ending.status ≠ 0 := by simp [hending, Ending.status]
    exact iff_of_false hzero fun hin => htip ((hall p.tip.id).1 hin id hid)

/-- The exit status of a submission without a mirror, to any repository that is as documented. It
tells success exactly if the branch has all of the batch in the end. The branch keeps what it has,
and an error leaves all as it is. -/
theorem run_status_iff (hargs : Arguments.parse? args = some (.invoke i))
    (hrun : i.command = .run repository batch)
    (hr : Ready s i.config repository batch c b g old) (hg : g.Lawful) :
    ∃ new, g.readRef (start s args).files b.destination.name = .ok (some new) ∧
      (g.history (start s args).files).Reaches old new ∧
      ((start s args).ending.status = 0 ↔
        ∀ change ∈ b.changes, (g.history (start s args).files).Reaches change.commit new) ∧
      ∀ e, (start s args).ending = .failed e → new = old ∧ g.Same s.files (start s args).files := by
  obtain ⟨p, hp, rfl, hbranch, rfl, hsetup, hids⟩ := hr.prepare hg
  have hsub : p.tip.id :: p.pending.ids ⊆ p.tip.id :: b.changes.map (·.commit) :=
    List.cons_subset_cons _ fun id hid => (hids id).1 hid
  have hfull : ∀ id ∈ p.pending.ids, IsFull id :=
    fun id hid => hr.isFull hg id (hsub (List.mem_cons_of_mem _ hid))
  have hi := (hg.legible (hr.isFull hg) hr.readable).mono hsub
  have hname : Text.startsWith "refs/" b.destination.name = true := Branch.startsWith_named ..
  obtain ⟨new, hmem, hdone⟩ : ∃ new ∈ p.tip.id :: p.pending.ids,
      Concluded p.repository b s.files p.tip.id new (start s args) := by
    rw [start_of_prepare hargs hrun hp hsetup, hbranch]
    exact concluded_tell _ { files := s.files, store := p.store, now := s.now }
      (OnDisk.integrate_ended hg rfl hfull hi hname hr.branch) hids hr.branch
  simp only [hdone.arrived.reaches_iff]
  exact ⟨new, hdone.arrived.readRef hg (hi.readable new (.of_mem hmem)), hdone.kept, hdone.status,
    hdone.failed⟩

end

/-! A branch at a first commit, and a batch of one commit on top of it. -/

namespace Ahead
open Repository (Object)

def root : CommitId := ⟨"7195a4bb068d0e3d49bd08d3fd4d6478ea42eb8a"⟩

def above : CommitId := ⟨"22db9d6c80d5a02531c3c7c411c0f956502151b6"⟩

/-- A commit of the empty tree. -/
def object (parent : Option CommitId) (message : String) : Object where
  kind := .commit
  body := Text.encode ("tree " ++ Object.emptyTreeName.hex ++ "\n" ++
    (parent.elim "" fun p => "parent " ++ p.hex ++ "\n") ++
    "author A <a> 0\ncommitter A <a> 0\n\n" ++ message)

def repository : Repository := { path := "/w/.git", place := ["w", ".git"] }

def files : FileTree where
  files := ⟨[(["w", ".git", "HEAD"], ⟨Text.encode "ref: refs/heads/main\n", false⟩),
    (["w", ".git", "refs", "heads", "main"], ⟨Text.encode root.hex, false⟩),
    (repository.objectPlace root, ⟨(object none "One").toFile, false⟩),
    (repository.objectPlace above, ⟨(object (some root) "Two").toFile, false⟩),
    (["w", "batch.toml"], ⟨Text.encode (Review.Single.text above.hex), false⟩)]⟩

def workspace : Surroundings where
  directory := "/w"
  bindings := []
  files := files
  now := ⟨0, 0⟩
  git := Repository.opener

def args : List String := ["run", "--batch", "batch.toml"]

def invocation : Invocation := ⟨none, false, .run "." "batch.toml"⟩

theorem read_root : (repository.git.history files).read root = .ok ⟨root, [], "One"⟩ := by
  have hmessage : Text.decodeLossy (Text.encode "One") = "One" := Text.decodeLossy_encode _
  rw [Git.history_read, ← hmessage]
  exact Repository.read_of_stored (o := object none "One") (by decide +kernel) (by decide +kernel)
    (by decide +kernel) (by decide +kernel)

theorem read_above :
    (repository.git.history files).read above = .ok ⟨above, [root], "Two"⟩ := by
  have hmessage : Text.decodeLossy (Text.encode "Two") = "Two" := Text.decodeLossy_encode _
  rw [Git.history_read, ← hmessage]
  exact Repository.read_of_stored (o := object (some root) "Two") (by decide +kernel)
    (by decide +kernel) (by decide +kernel) (by decide +kernel)

theorem parse_args : Arguments.parse? args = some (.invoke invocation) := by decide +kernel

theorem load_batch : Review.Batch.load "batch.toml" (workspace.read "batch.toml") =
    .ok (Review.Single.batch above.hex) := by
  have hread : workspace.read "batch.toml" = .text (Review.Single.text above.hex) := by
    have hfile : workspace.files.file? (Path.locate workspace.directory "batch.toml") =
        some ⟨Text.encode (Review.Single.text above.hex), false⟩ := rfl
    simp only [Surroundings.read, FileTree.readPath, FileTree.readText, hfile,
      Text.decode?_encode]
    rfl
  have hparse : Toml.parse (Review.Single.text above.hex) =
      .ok (Review.Single.document above.hex) := by decide +kernel
  rw [hread, Review.Batch.load, Review.Single.parse_text hparse (by decide +kernel)]

theorem ready : Ready workspace none "." "batch.toml" .default (Review.Single.batch above.hex)
    repository.git root where
  config := by decide +kernel
  policy := rfl
  batch := load_batch
  repository := by
    have hopen : Repository.open? files "/w" "." = some repository := by decide +kernel
    simp only [Surroundings.repository, workspace, Git.Opener.repository, Repository.opener, hopen,
      Option.map_some]
  branch := by decide +kernel
  full := by decide +kernel
  readable := by
    rintro x ⟨id, hid, hx⟩
    have hl : (repository.git.history files).Stacked (fun _ => False) [above, root] :=
      .cons read_above not_false (by decide) (by simp)
        (.cons read_root not_false (by simp) (by simp) .nil)
    have hmem : id ∈ [above, root] := by simpa [Review.Single.batch, above, or_comm] using hid
    exact hl.readable ((hl.reaches_mem (fun _ hf => hf) hx hmem).resolve_left not_false)

end Ahead

open Ahead in
theorem run_status_iff_ahead :
    ∃ new, repository.git.readRef (start workspace args).files "refs/heads/main" =
        .ok (some new) ∧
      (repository.git.history (start workspace args).files).Reaches root new ∧
      ((start workspace args).ending.status = 0 ↔
        (repository.git.history (start workspace args).files).Reaches above new) ∧
      ∀ e, (start workspace args).ending = .failed e →
        new = root ∧ repository.git.Same files (start workspace args).files := by
  obtain ⟨new, hnew, hkept, hstatus, herror⟩ :=
    run_status_iff parse_args rfl ready repository.git_lawful
  exact ⟨new, hnew, hkept, hstatus.trans (by simp [Review.Single.batch]), herror⟩

end CommandLine

end Landing
