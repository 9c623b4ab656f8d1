import OmniSupport.Foundation.History
import OmniSupport.Report.ReportJobs

/-! The state machine of report jobs over all interleavings of workers and requesters: which
moves a status makes, who writes an outcome, and that no two claims of a job share a start. -/
namespace OmniSupport.Report
open Foundation Database

abbrev ReportPool := Pool ReportStore ReportWorker

abbrev ReportLabel := Move ReportStep ReportMove

namespace ReportTask

/-- The run that a worker has claimed. -/
def run : ReportTask → Option ReportRun
  | .authorizing run _ | .reading run .. | .checking run .. | .uploading run ..
  | .completing run .. | .deletingUpload run .. | .auditing run _ | .failing run .. => some run
  | .idle | .findingExpired | .deletingFile .. | .expiring .. | .purging | .listing | .next ..
  | .claiming .. => none

/-- When the jobs were listed that the worker goes through. -/
def listedAt : ReportTask → Option Time
  | .next listedAt _ => some listedAt
  | .claiming run _ => some run.listedAt
  | task => task.run.map ReportRun.listedAt

end ReportTask

/-- What one step of the machine does to a row. -/
inductive JobStep (c : ReportPool) : ReportLabel → JobRow → JobRow → Prop where
  | same (i r) : JobStep c i r r
  | claimed (w run rest r) (hw : (c.locals w).task = .claiming run rest) (hid : r.id = run.job.id)
      (h : r.claimable run.listedAt) :
      JobStep c (.act w .go) r (r.claim c.shared.now run.startedAt)
  | completed (w run rest role records path r)
      (hw : (c.locals w).task = .completing run rest role records path) (h : r.heldBy run) :
      JobStep c (.act w .go) r (r.complete c.shared.now path records.length
        ((c.locals w).clock + reportLifetimeMs))
  | failed (w run rest error r) (hw : (c.locals w).task = .failing run rest error)
      (h : r.heldBy run) : JobStep c (.act w .go) r (r.fail c.shared.now error)
  | cancelled (id tenantId requesterId r) (h : r.cancellable id tenantId requesterId) :
      JobStep c (.env (.cancel id tenantId requesterId)) r (r.cancel c.shared.now)
  | expired (w job rest r) (hw : (c.locals w).task = .expiring job rest) (hid : r.id = job.id)
      (h : r.status = .completed) : JobStep c (.act w .go) r (r.expire c.shared.now)

/-- A row the purge may delete. -/
def ended (r : JobRow) : Prop := r.status = .expired ∨ r.status = .failed ∨ r.status = .cancelled

structure NewJob (r : JobRow) : Prop where
  status : r.status = .pending
  startedAt : r.startedAt = none
  storagePath : r.storagePath = none

abbrev ReportStore.Keyed (s : ReportStore) : Prop := Table.Keyed JobRow.id s.jobs s.ids

structure ReportStore.RowStep (T : JobRow → JobRow → Prop) (s s' : ReportStore) : Prop where
  moved : Table.Moved JobRow.id T ended NewJob s.jobs s.ids s'.jobs s'.ids
  now : s.now ≤ s'.now

namespace ReportService
variable {c c' : ReportPool} {i : ReportLabel} {s' : ReportStore} {task' : ReportTask} {w : Nat}
  {worker' : ReportWorker}

theorem rowStep_refl {T : JobRow → JobRow → Prop} (hk : c.shared.Keyed)
    (hT : ∀ r, T r r) : c.shared.RowStep T c.shared :=
  ⟨.refl hk hT, le_rfl⟩

theorem rowStep_update {T : JobRow → JobRow → Prop} {p : JobRow → Prop} [DecidablePred p]
    {f : JobRow → JobRow} (hk : c.shared.Keyed)
    (hT : ∀ r, T r r) (hid : ∀ r, (f r).id = r.id) (hf : ∀ r ∈ c.shared.jobs, p r → T r (f r)) :
    c.shared.RowStep T (c.shared.updateJobs p f) :=
  ⟨.updateMany hk hT hid hf, le_rfl⟩

/-- The rows after a step of a worker. -/
theorem go_rowStep (hk : c.shared.Keyed)
    (h : go c.shared (c.locals w) = some (s', task')) :
    c.shared.RowStep (JobStep c (.act w .go)) s' := by
  have hsame : ∀ r, JobStep c (.act w .go) r r := fun r => .same _ r
  unfold go at h
  cases hw : (c.locals w).task with
  | idle | findingExpired | listing | authorizing | uploading =>
    rw [hw] at h
    cases h
  | deletingFile | reading | checking | deletingUpload | auditing =>
    rw [hw] at h
    cases h
    exact ⟨.refl hk hsame, le_rfl⟩
  | next listedAt jobs =>
    rw [hw] at h
    cases jobs <;> cases h <;> exact rowStep_refl hk hsame
  | purging =>
    rw [hw] at h
    cases h
    exact ⟨.deleteMany hk hsame fun r _ hp => hp.1, le_rfl⟩
  | expiring job rest =>
    rw [hw] at h
    cases h
    exact rowStep_update hk hsame (fun _ => rfl) fun r _ hp => .expired w job rest r hw hp.1 hp.2
  | claiming run rest =>
    rw [hw] at h
    cases h
    exact rowStep_update hk hsame (fun _ => rfl) fun r _ hp =>
      .claimed w run rest r hw hp.1 hp.2
  | completing run rest role records path =>
    rw [hw] at h
    cases h
    exact rowStep_update hk hsame (fun _ => rfl) fun r _ hp =>
      .completed w run rest role records path r hw hp
  | failing run rest error =>
    rw [hw] at h
    cases h
    exact rowStep_update hk hsame (fun _ => rfl) fun r _ hp => .failed w run rest error r hw hp

theorem act_rowStep {step : ReportStep} (hk : c.shared.Keyed)
    (h : act w c.shared (c.locals w) step = some (s', worker')) :
    c.shared.RowStep (JobStep c (.act w step)) s' := by
  have hsame : ∀ r, JobStep c (.act w step) r r := fun r => .same _ r
  cases step with
  | go =>
    obtain ⟨r, hr, he⟩ := Option.map_eq_some_iff.mp h
    cases he
    exact go_rowStep hk hr
  | look time =>
    simp only [act] at h
    split at h <;> cases h
    exact rowStep_refl hk hsame
  | start =>
    simp only [act] at h
    split at h <;> cases h
    exact rowStep_refl hk hsame
  | crash =>
    cases h
    exact rowStep_refl hk hsame
  | found | authorize | throws =>
    obtain ⟨task, -, he⟩ := Option.map_eq_some_iff.mp h
    cases he
    exact rowStep_refl hk hsame
  | upload path =>
    obtain ⟨r, hr, he⟩ := Option.map_eq_some_iff.mp h
    cases he
    cases hw : (c.locals w).task with
    | uploading run rest role records =>
      rw [hw] at hr
      simp only [upload] at hr
      split at hr <;> cases hr
      exact ⟨.refl hk hsame, le_rfl⟩
    | _ =>
      rw [hw] at hr
      cases hr

theorem move_rowStep {m : ReportMove} (hk : c.shared.Keyed)
    (h : move c.shared m = some s') : c.shared.RowStep (JobStep c (.env m)) s' := by
  have hsame : ∀ r, JobStep c (.env m) r r := fun r => .same _ r
  cases m with
  | create id job filters =>
    simp only [move] at h
    split at h
    · cases h
    · rename_i hfresh
      cases h
      exact ⟨.insert hk hsame hfresh ⟨rfl, rfl, rfl⟩, le_rfl⟩
  | cancel id tenantId requesterId =>
    cases h
    exact rowStep_update hk hsame (fun _ => rfl) fun r _ hp =>
      .cancelled id tenantId requesterId r hp
  | rewriteTickets | rewriteCustomers =>
    simp only [move] at h
    split at h <;> cases h
    exact ⟨.refl hk hsame, le_rfl⟩
  | tick ms =>
    cases h
    exact ⟨.refl hk hsame, Nat.le_add_right _ _⟩

theorem step_rowStep (hk : c.shared.Keyed)
    (h : machine.step c i = some c') : c.shared.RowStep (JobStep c i) c'.shared := by
  cases i with
  | act w step =>
    obtain ⟨s', worker', ha, rfl⟩ := program.step_act.mp h
    exact act_rowStep hk ha
  | env m =>
    obtain ⟨s', hm, rfl⟩ := program.step_env.mp h
    exact move_rowStep hk hm

/-- How a worker comes to its run, its listing and its claim. -/
structure TaskStep (step : ReportStep) (s : ReportStore) (worker worker' : ReportWorker) : Prop where
  clock : worker.clock ≤ worker'.clock
  run : ∀ run, worker'.task.run = some run → worker.task.run = some run ∨
    ∃ rest, worker.task = .claiming run rest ∧ step = .go ∧
      Table.count (fun r => r.id = run.job.id ∧ r.claimable run.listedAt) s.jobs = 1
  listedAt : ∀ t, worker'.task.listedAt = some t →
    worker.task.listedAt = some t ∨ t = worker.clock
  claiming : ∀ run rest, worker'.task = .claiming run rest → worker.task = .claiming run rest ∨
    worker.task.listedAt = some run.listedAt ∧ run.startedAt = worker.clock

theorem TaskStep.free {step : ReportStep} {s : ReportStore} {worker worker' : ReportWorker}
    (hclock : worker.clock ≤ worker'.clock) (hlisted : worker'.task.listedAt = none) :
    TaskStep step s worker worker' where
  clock := hclock
  run run hrun := by
    cases htask : worker'.task <;> rw [htask] at hrun hlisted <;> cases hrun <;> cases hlisted
  listedAt t ht := by
    rw [hlisted] at ht
    cases ht
  claiming run rest hclaim := by
    rw [hclaim] at hlisted
    cases hlisted

/-- Within a run, or back in the loop behind it. -/
theorem TaskStep.goesOn {step : ReportStep} {s : ReportStore} {worker worker' : ReportWorker}
    {run : ReportRun} (hclock : worker'.clock = worker.clock)
    (hrun : worker.task.run = some run) (hlisted : worker.task.listedAt = some run.listedAt)
    (hlisted' : worker'.task.listedAt = some run.listedAt)
    (hrun' : worker'.task.run = some run ∨ worker'.task.run = none)
    (hclaiming : ∀ run rest, worker'.task ≠ .claiming run rest) :
    TaskStep step s worker worker' where
  clock := hclock.ge
  run other hother := by
    rcases hrun' with hsame | hnone
    · rw [hsame] at hother
      cases hother
      exact .inl hrun
    · rw [hnone] at hother
      cases hother
  listedAt t ht := by
    rw [hlisted'] at ht
    exact .inl (hlisted.trans ht)
  claiming other rest hclaim := absurd hclaim (hclaiming other rest)

/-- Where a run may go on: the run itself, or the next job. -/
def Onward (run : ReportRun) (task : ReportTask) : Prop :=
  task.listedAt = some run.listedAt ∧ (task.run = some run ∨ task.run = none) ∧
    ∀ other rest, task ≠ .claiming other rest

theorem onward_next (run : ReportRun) (rest : List JobRow) : Onward run (.next run.listedAt rest) :=
  ⟨rfl, .inr rfl, fun _ _ h => by cases h⟩

theorem onward_afterPage (run : ReportRun) (rest : List JobRow) (role : UserRole)
    (records page : List ReportRow) : Onward run (afterPage run rest role records page) := by
  unfold afterPage
  split
  · exact ⟨rfl, .inl rfl, fun _ _ h => by cases h⟩
  · split <;> exact ⟨rfl, .inl rfl, fun _ _ h => by cases h⟩

theorem onward_afterCheck (run : ReportRun) (rest : List JobRow) (role : UserRole)
    (records page : List ReportRow) : Onward run (afterCheck run rest role records page) := by
  unfold afterCheck
  split <;> exact ⟨rfl, .inl rfl, fun _ _ h => by cases h⟩

theorem TaskStep.onward {step : ReportStep} {s : ReportStore} {worker : ReportWorker}
    {task : ReportTask} {run : ReportRun} (hrun : worker.task.run = some run)
    (honward : Onward run task) : TaskStep step s worker { worker with task := task } := by
  have hlisted : worker.task.listedAt = some run.listedAt := by
    cases htask : worker.task <;> rw [htask] at hrun <;> cases hrun <;> rfl
  exact .goesOn rfl hrun hlisted honward.1 honward.2.1 honward.2.2

theorem expireNext_listedAt (jobs : List JobRow) : (expireNext jobs).listedAt = none := by
  cases jobs with
  | nil => rfl
  | cons job rest =>
    simp only [expireNext]
    split <;> rfl

theorem go_taskStep {s : ReportStore} {worker : ReportWorker}
    (h : go s worker = some (s', task')) : TaskStep .go s worker { worker with task := task' } := by
  unfold go at h
  cases htask : worker.task with
  | idle | findingExpired | listing | authorizing | uploading =>
    rw [htask] at h
    cases h
  | deletingFile path job rest =>
    rw [htask] at h
    cases h
    exact .free le_rfl rfl
  | expiring job rest =>
    rw [htask] at h
    cases h
    exact .free le_rfl (expireNext_listedAt rest)
  | purging =>
    rw [htask] at h
    cases h
    exact .free le_rfl rfl
  | next listedAt jobs =>
    rw [htask] at h
    cases jobs with
    | nil =>
      cases h
      exact .free le_rfl rfl
    | cons job rest =>
      cases h
      refine ⟨le_rfl, fun _ hrun => (by cases hrun), fun t ht => ?_, fun run jobs hclaim => ?_⟩
      · rw [htask]
        exact .inl ht
      · cases hclaim
        rw [htask]
        exact .inr ⟨rfl, rfl⟩
  | claiming run rest =>
    rw [htask] at h
    cases h
    by_cases hcount : Table.count (fun r => r.id = run.job.id ∧ r.claimable run.listedAt) s.jobs = 1
    · refine ⟨le_rfl, fun other hrun => ?_, fun t ht => ?_, fun other jobs hclaim => ?_⟩
      · simp only [hcount, if_true] at hrun
        cases hrun
        exact .inr ⟨rest, htask, rfl, hcount⟩
      · simp only [hcount, if_true] at ht
        rw [htask]
        exact .inl ht
      · simp only [hcount, if_true] at hclaim
        cases hclaim
    · refine ⟨le_rfl, fun other hrun => ?_, fun t ht => ?_, fun other jobs hclaim => ?_⟩
      · simp only [hcount, if_false] at hrun
        cases hrun
      · simp only [hcount, if_false] at ht
        rw [htask]
        exact .inl ht
      · simp only [hcount, if_false] at hclaim
        cases hclaim
  | reading run rest role records cursor =>
    have hrun : worker.task.run = some run := by rw [htask]; rfl
    rw [htask] at h
    cases h
    refine .onward hrun ?_
    split
    · exact ⟨rfl, .inl rfl, fun _ _ h => by cases h⟩
    · exact onward_afterPage ..
  | checking run rest role records page =>
    have hrun : worker.task.run = some run := by rw [htask]; rfl
    rw [htask] at h
    cases h
    refine .onward hrun ?_
    split
    · exact onward_afterCheck ..
    · exact onward_next run rest
  | completing run rest role records path =>
    have hrun : worker.task.run = some run := by rw [htask]; rfl
    rw [htask] at h
    cases h
    refine .onward hrun ?_
    split <;> exact ⟨rfl, .inl rfl, fun _ _ h => by cases h⟩
  | deletingUpload run rest path | auditing run rest | failing run rest error =>
    have hrun : worker.task.run = some run := by rw [htask]; rfl
    rw [htask] at h
    cases h
    exact .onward hrun (onward_next run rest)

theorem act_taskStep {step : ReportStep} {s : ReportStore} {worker : ReportWorker}
    (h : act w s worker step = some (s', worker')) : TaskStep step s worker worker' := by
  cases step with
  | go =>
    obtain ⟨r, hr, he⟩ := Option.map_eq_some_iff.mp h
    cases he
    exact go_taskStep hr
  | look time =>
    simp only [act] at h
    split at h
    · rename_i htime
      cases h
      exact ⟨htime.1, fun _ hrun => .inl hrun, fun _ ht => .inl ht, fun _ _ hclaim => .inl hclaim⟩
    · cases h
  | start =>
    simp only [act] at h
    split at h <;> cases h
    exact .free le_rfl rfl
  | crash =>
    cases h
    exact .free le_rfl rfl
  | found picked =>
    obtain ⟨task, ht, he⟩ := Option.map_eq_some_iff.mp h
    cases he
    unfold found at ht
    cases htask : worker.task with
    | findingExpired =>
      rw [htask] at ht
      simp only at ht
      split at ht <;> cases ht
      exact .free le_rfl (expireNext_listedAt picked)
    | listing =>
      rw [htask] at ht
      simp only at ht
      split at ht <;> cases ht
      refine ⟨le_rfl, fun _ hrun => (by cases hrun), fun t ht => ?_, fun _ _ hclaim => by cases hclaim⟩
      exact .inr (Option.some.inj ht).symm
    | _ =>
      rw [htask] at ht
      cases ht
  | authorize answer =>
    obtain ⟨task, ht, he⟩ := Option.map_eq_some_iff.mp h
    cases he
    cases htask : worker.task with
    | authorizing run rest =>
      have hrun : worker.task.run = some run := by rw [htask]; rfl
      rw [htask] at ht
      cases ht
      refine .onward hrun ?_
      cases answer <;> exact ⟨rfl, .inl rfl, fun _ _ h => by cases h⟩
    | _ =>
      rw [htask] at ht
      cases ht
  | throws =>
    obtain ⟨task, ht, he⟩ := Option.map_eq_some_iff.mp h
    cases he
    cases htask : worker.task with
    | idle | next =>
      rw [htask] at ht
      cases ht
    | findingExpired | deletingFile | expiring | purging | listing | claiming | failing =>
      rw [htask] at ht
      cases ht
      exact .free le_rfl rfl
    | authorizing run | reading run | checking run | uploading run | completing run
    | deletingUpload run =>
      have hrun : worker.task.run = some run := by rw [htask]; rfl
      rw [htask] at ht
      cases ht
      exact .onward hrun ⟨rfl, .inl rfl, fun _ _ h => by cases h⟩
    | auditing run rest =>
      have hrun : worker.task.run = some run := by rw [htask]; rfl
      rw [htask] at ht
      cases ht
      exact .onward hrun (onward_next run rest)
  | upload path =>
    obtain ⟨r, hr, he⟩ := Option.map_eq_some_iff.mp h
    cases he
    cases htask : worker.task with
    | uploading run rest role records =>
      have hrun : worker.task.run = some run := by rw [htask]; rfl
      rw [htask] at hr
      simp only [upload] at hr
      split at hr <;> cases hr
      exact .onward hrun ⟨rfl, .inl rfl, fun _ _ h => by cases h⟩
    | _ =>
      rw [htask] at hr
      cases hr

end ReportService

open ReportService

/-- The start `t` was stored by a claim of job `id`, and later claims stored later ones. -/
def Claimed (s : ReportStore) (id : Uuid) (t : Time) : Prop :=
  id ∈ s.ids ∧ ∀ r ∈ s.jobs, r.id = id → r.status ≠ .pending ∧ ∃ t₀, r.startedAt = some t₀ ∧ t ≤ t₀

/-- What a worker knows of its clock and its run. -/
structure Runs (worker : ReportWorker) (s : ReportStore) : Prop where
  clock : worker.clock ≤ s.now
  listedAt : ∀ t, worker.task.listedAt = some t → t ≤ worker.clock
  claiming : ∀ run rest, worker.task = .claiming run rest →
    run.listedAt ≤ run.startedAt ∧ run.startedAt ≤ worker.clock
  claimed : ∀ run, worker.task.run = some run → Claimed s run.job.id run.startedAt

/-- Runs of one job have different starts. -/
def Apart (worker worker' : ReportWorker) : Prop :=
  ∀ run run', worker.task.run = some run → worker'.task.run = some run' →
    run.job.id = run'.job.id → run.startedAt ≠ run'.startedAt

abbrev runOutline : Program.Outline ReportStore ReportWorker where
  inv := ReportStore.Keyed
  own _ := Runs
  pair := Apart

section runs
variable {c c' : ReportPool} {i : ReportLabel} {s' : ReportStore} {task' : ReportTask} {w : Nat}

theorem JobStep.id_eq {r r' : JobRow} (h : JobStep c i r r') : r'.id = r.id := by
  cases h <;> rfl

/-- A claim stores a start behind the one it finds, by more than the time a run may take. -/
theorem JobStep.startedAt {r r' : JobRow} (h : JobStep c i r r')
    (hruns : ∀ w, Runs (c.locals w) c.shared) :
    r'.startedAt = r.startedAt ∧ (r.status ≠ .pending → r'.status ≠ .pending) ∨
      (∃ w run rest, i = .act w .go ∧ (c.locals w).task = .claiming run rest ∧ r.id = run.job.id ∧
        r'.startedAt = some run.startedAt ∧ r'.status = .running ∧ run.startedAt ≤ c.shared.now ∧
        (r.status = .pending ∨ r.status = .running ∧
          ∃ t, r.startedAt = some t ∧ t + staleRunMs < run.startedAt)) := by
  cases h with
  | same => exact .inl ⟨rfl, id⟩
  | completed | failed | cancelled | expired => exact .inl ⟨rfl, fun _ h => by cases h⟩
  | claimed w run rest r hw hid h =>
    obtain ⟨hlisted, hclock⟩ := (hruns w).claiming run rest hw
    refine .inr ⟨w, run, rest, rfl, hw, hid, rfl, rfl, hclock.trans (hruns w).clock, ?_⟩
    rcases h with hpending | ⟨hrunning, hstale⟩
    · exact .inl hpending
    · obtain ⟨t, ht, hlate⟩ := (Option.any_eq_true _ _).mp hstale
      have hbehind : t + staleRunMs < run.listedAt := of_decide_eq_true hlate
      exact .inr ⟨hrunning, t, ht, hbehind.trans_le hlisted⟩

theorem Claimed.step {id : Uuid} {t : Time} (h : Claimed c.shared id t)
    (hruns : ∀ w, Runs (c.locals w) c.shared) (hs : c.shared.RowStep (JobStep c i) s') :
    Claimed s' id t := by
  refine ⟨hs.moved.grows h.1, hs.moved.under (fun _ _ => JobStep.id_eq) ?_ h.1 h.2⟩
  rintro r r' hstep ⟨hstatus, t₀, ht₀, hle⟩
  rcases hstep.startedAt hruns with ⟨hsame, hkept⟩ | ⟨-, run, -, -, -, -, hnew, hrunning, -, hwas⟩
  · exact ⟨hkept hstatus, t₀, hsame.trans ht₀, hle⟩
  · rcases hwas with hpending | ⟨-, t₁, ht₁, hlate⟩
    · exact absurd hpending hstatus
    · rw [ht₀] at ht₁
      cases ht₁
      have hbehind : t₀ ≤ run.startedAt := (Nat.le_add_right _ _).trans hlate.le
      exact ⟨by simp [hrunning], run.startedAt, hnew, hle.trans hbehind⟩

/-- A claim that found its row has stored its start, behind those of all runs of the job. -/
theorem claimed_of_go {run : ReportRun} {rest : List JobRow} (hk : c.shared.Keyed)
    (hw : (c.locals w).task = .claiming run rest)
    (hcount : Table.count (fun r => r.id = run.job.id ∧ r.claimable run.listedAt) c.shared.jobs = 1)
    (hgo : go c.shared (c.locals w) = some (s', task')) (hruns : ∀ w, Runs (c.locals w) c.shared) :
    Claimed s' run.job.id run.startedAt ∧
      ∀ t, Claimed c.shared run.job.id t → t + staleRunMs < run.startedAt := by
  have hpos : 0 < Table.count (fun r => r.id = run.job.id ∧ r.claimable run.listedAt)
      c.shared.jobs := by omega
  obtain ⟨r, hr, hid, hclaimable⟩ := Table.count_pos.mp hpos
  have hs := go_rowStep hk hgo
  unfold go at hgo
  rw [hw] at hgo
  cases hgo
  constructor
  · refine ⟨hid ▸ hk.known r hr, fun r' hr' hid' => ?_⟩
    rcases Table.mem_updateMany.mp hr' with ⟨r₀, hr₀, hp, rfl⟩ | ⟨hr₀, hp⟩
    · exact ⟨by simp [JobRow.claim], run.startedAt, rfl, le_rfl⟩
    · rw [hk.eq hr₀ hr (hid'.trans hid.symm)] at hp
      exact absurd ⟨hid, hclaimable⟩ hp
  · intro t ht
    obtain ⟨hstatus, t₀, ht₀, hle⟩ := ht.2 r hr hid
    have hlisted := ((hruns w).claiming run rest hw).1
    rcases hclaimable with hpending | ⟨-, hstale⟩
    · exact absurd hpending hstatus
    · rw [ht₀, Option.any_some, decide_eq_true_eq] at hstale
      have hbehind : t₀ + staleRunMs < run.startedAt := hstale.trans_le hlisted
      exact (Nat.add_le_add_right hle _).trans_lt hbehind

theorem act_clock {step : ReportStep} {s s' : ReportStore} {worker worker' : ReportWorker}
    (h : act w s worker step = some (s', worker')) (hclock : worker.clock ≤ s'.now)
    (hnow : s.now ≤ s'.now) : worker'.clock ≤ s'.now := by
  cases step with
  | look time =>
    simp only [act] at h
    split at h
    · rename_i htime
      cases h
      exact htime.2
    · cases h
  | start =>
    simp only [act] at h
    split at h <;> cases h
    exact hclock
  | crash =>
    cases h
    exact hclock
  | found | authorize | throws | go | upload =>
    obtain ⟨r, -, he⟩ := Option.map_eq_some_iff.mp h
    cases he
    exact hclock

theorem runOutline_valid : runOutline.Valid program fun _ _ => True where
  symm worker worker' h run run' hrun hrun' hid := (h run' run hrun' hrun hid.symm).symm
  act c w step s worker h _ ha := by
    have hs := act_rowStep h.inv ha
    have htask := act_taskStep (w := w) ha
    have hown := h.own w
    refine ⟨hs.moved.keyed, act_clock (w := w) ha (hown.clock.trans hs.now) hs.now, fun t ht => ?_,
      fun run rest hclaim => ?_, fun run hrun => ?_⟩
    · rcases htask.listedAt t ht with hold | rfl
      · exact (hown.listedAt t hold).trans htask.clock
      · exact htask.clock
    · rcases htask.claiming run rest hclaim with hold | ⟨hlisted, hnew⟩
      · obtain ⟨hbefore, hclock⟩ := hown.claiming run rest hold
        exact ⟨hbefore, hclock.trans htask.clock⟩
      · rw [hnew]
        exact ⟨hown.listedAt _ hlisted, htask.clock⟩
    · rcases htask.run run hrun with hold | ⟨rest, hclaim, rfl, hcount⟩
      · exact (hown.claimed run hold).step h.own hs
      · obtain ⟨r, hgo, he⟩ := Option.map_eq_some_iff.mp ha
        cases he
        exact (claimed_of_go h.inv hclaim hcount hgo h.own).1
  others c w step s worker h _ ha q hq := by
    have hs := act_rowStep h.inv ha
    have hother := h.own q
    refine ⟨⟨hother.clock.trans hs.now, hother.listedAt, hother.claiming,
      fun run hrun => (hother.claimed run hrun).step h.own hs⟩, fun run run' hrun hrun' hid => ?_⟩
    rcases (act_taskStep (w := w) ha).run run hrun with hold | ⟨rest, hclaim, rfl, hcount⟩
    · exact h.pair w q (Ne.symm hq) run run' hold hrun' hid
    · obtain ⟨r, hgo, he⟩ := Option.map_eq_some_iff.mp ha
      cases he
      have hbehind := (claimed_of_go h.inv hclaim hcount hgo h.own).2 run'.startedAt
      have hlate := hbehind (hid ▸ hother.claimed run' hrun')
      exact ((Nat.le_add_right _ _).trans_lt hlate).ne'
  env c m s h _ hm := by
    have hs := move_rowStep h.inv hm
    refine ⟨hs.moved.keyed, fun q => ?_⟩
    have hown := h.own q
    exact ⟨hown.clock.trans hs.now, hown.listedAt, hown.claiming,
      fun run hrun => (hown.claimed run hrun).step h.own hs⟩

end runs

abbrev ReportHistoryStep := Machine.Step ReportPool ReportLabel

/-- The moves of a status; a running job may change hands 15 minutes after its start. -/
inductive StatusMove (now : Time) (r r' : JobRow) : Prop where
  | unchanged (hs : r'.status = r.status) (ht : r'.startedAt = r.startedAt)
  | started (hs : r.status = .pending) (hs' : r'.status = .running)
  | reclaimed (t t' : Time) (hs : r.status = .running) (hs' : r'.status = .running)
      (ht : r.startedAt = some t) (ht' : r'.startedAt = some t') (hlate : t + staleRunMs < t')
      (hnow : t' ≤ now)
  | ended (hs : r.status = .running)
      (hs' : r'.status = .completed ∨ r'.status = .failed ∨ r'.status = .cancelled)
  | withdrawn (hs : r.status = .pending) (hs' : r'.status = .cancelled)
  | expired (hs : r.status = .completed) (hs' : r'.status = .expired)

/-- The step makes job `id` enter the status. -/
def Enters (status : ReportStatus) (id : Uuid) (step : ReportHistoryStep) : Prop :=
  ∃ r ∈ step.before.shared.jobs, ∃ r' ∈ step.after.shared.jobs,
    r.id = id ∧ r'.id = id ∧ r.status ≠ status ∧ r'.status = status

/-- The step is a claim of job `id` that found its row and stored the start `t`. -/
def Claims (id : Uuid) (t : Time) (step : ReportHistoryStep) : Prop :=
  ∃ w run rest, step.label = .act w .go ∧ (step.before.locals w).task = .claiming run rest ∧
    run.job.id = id ∧ run.startedAt = t ∧
    Table.count (fun r => r.id = run.job.id ∧ r.claimable run.listedAt) step.before.shared.jobs = 1

/-- The step is one of the only worker whose run has the start that the row stores. -/
def ByHolder (step : ReportHistoryStep) (r : JobRow) : Prop :=
  ∃ w run, step.label = .act w .go ∧ (step.before.locals w).task.run = some run ∧
    run.job.id = r.id ∧ r.startedAt = some run.startedAt ∧
    ∀ w' run', (step.before.locals w').task.run = some run' → run'.job.id = r.id →
      run'.startedAt = run.startedAt → w' = w

section results
variable {c c' : ReportPool} {i : ReportLabel} {r r' : JobRow} {id : Uuid}

theorem JobStep.statusMove (h : JobStep c i r r') (hruns : ∀ w, Runs (c.locals w) c.shared) :
    StatusMove c.shared.now r r' := by
  cases h with
  | same => exact .unchanged rfl rfl
  | completed w run rest role records path r hw h => exact .ended h.2.1 (.inl rfl)
  | failed w run rest error r hw h => exact .ended h.2.1 (.inr (.inl rfl))
  | cancelled id tenantId requesterId r h =>
    rcases h.2.2.2 with hpending | hrunning
    · exact .withdrawn hpending rfl
    · exact .ended hrunning (.inr (.inr rfl))
  | expired w job rest r hw hid h => exact .expired h rfl
  | claimed w run rest r hw hid h =>
    obtain ⟨hlisted, hclock⟩ := (hruns w).claiming run rest hw
    rcases h with hpending | ⟨hrunning, hstale⟩
    · exact .started hpending rfl
    · obtain ⟨t, ht, hlate⟩ := (Option.any_eq_true _ _).mp hstale
      have hbehind : t + staleRunMs < run.listedAt := of_decide_eq_true hlate
      exact .reclaimed t run.startedAt hrunning rfl ht rfl (hbehind.trans_le hlisted)
        (hclock.trans (hruns w).clock)

theorem StatusMove.cancelled {now : Time} (h : StatusMove now r r')
    (hr : r.status = .cancelled) : r'.status = .cancelled := by
  cases h with
  | unchanged hs => exact hs.trans hr
  | started hs | reclaimed t t' hs | ended hs | withdrawn hs | expired hs =>
    rw [hr] at hs
    cases hs

theorem StatusMove.stays_finished {now : Time} (h : StatusMove now r r')
    (hr : r.status = .completed ∨ r.status = .expired) :
    r'.status = .completed ∨ r'.status = .expired := by
  cases h with
  | unchanged hs => rwa [hs]
  | expired hs hs' => exact .inr hs'
  | started hs | reclaimed t t' hs | ended hs | withdrawn hs =>
    rw [hs] at hr
    rcases hr with hr | hr <;> cases hr

/-- A job that was completed is not completed again. -/
theorem StatusMove.finished {now : Time} (h : StatusMove now r r')
    (hr : r.status = .completed ∨ r.status = .expired) (hne : r.status ≠ .completed) :
    r'.status ≠ .completed := by
  have hexpired : r.status = .expired := hr.resolve_left hne
  cases h with
  | unchanged hs =>
    rw [hs, hexpired]
    exact fun h => by cases h
  | started hs | reclaimed t t' hs | ended hs | withdrawn hs | expired hs =>
    rw [hexpired] at hs
    cases hs

/-- Only the holder of a job writes its outcome. -/
theorem JobStep.byHolder (h : JobStep c i r r') (hholds : runOutline.Holds c)
    (hchanged : r'.status ≠ r.status) (houtcome : r'.status = .completed ∨ r'.status = .failed) :
    ByHolder ⟨c, i, c'⟩ r := by
  have honly : ∀ w run, (c.locals w).task.run = some run → run.job.id = r.id →
      ∀ w' run', (c.locals w').task.run = some run' → run'.job.id = r.id →
        run'.startedAt = run.startedAt → w' = w := by
    intro w run hrun hid w' run' hrun' hid' hsame
    by_contra hne
    exact hholds.pair w' w hne run' run hrun' hrun (hid'.trans hid.symm) hsame
  cases h with
  | same => exact absurd rfl hchanged
  | claimed | cancelled | expired => rcases houtcome with h | h <;> cases h
  | completed w run rest role records path r hw h =>
    have hrun : (c.locals w).task.run = some run := by rw [hw]; rfl
    exact ⟨w, run, rfl, hrun, h.1.symm, h.2.2, honly w run hrun h.1.symm⟩
  | failed w run rest error r hw h =>
    have hrun : (c.locals w).task.run = some run := by rw [hw]; rfl
    exact ⟨w, run, rfl, hrun, h.1.symm, h.2.2, honly w run hrun h.1.symm⟩

theorem row_step (hholds : runOutline.Holds c) (h : machine.step c i = some c')
    (hr : r ∈ c.shared.jobs) (hr' : r' ∈ c'.shared.jobs) (hid : r'.id = r.id) : JobStep c i r r' := by
  rcases (step_rowStep hholds.inv h).moved.source r' hr' with ⟨r₀, hr₀, hstep⟩ | ⟨hfresh, -⟩
  · rwa [hholds.inv.eq hr hr₀ (hid.symm.trans hstep.id_eq)]
  · exact absurd (hid ▸ hholds.inv.known r hr) hfresh

/-- A finished status is never left for another outcome. -/
def Settled (id : Uuid) (s : ReportStore) (settled : ReportStatus → Prop) : Prop :=
  id ∈ s.ids ∧ ∀ r ∈ s.jobs, r.id = id → settled r.status

theorem Settled.step {settled : ReportStatus → Prop} (h : Settled id c.shared settled)
    (hholds : runOutline.Holds c) (hs : machine.step c i = some c')
    (hkept : ∀ now r r', StatusMove now r r' → settled r.status → settled r'.status) :
    Settled id c'.shared settled := by
  have hrows := step_rowStep hholds.inv hs
  refine ⟨hrows.moved.grows h.1, hrows.moved.under (fun _ _ => JobStep.id_eq) ?_ h.1 h.2⟩
  exact fun r r' hstep => hkept _ r r' (hstep.statusMove hholds.own)

theorem settled_of_enters {status : ReportStatus} (hholds : runOutline.Holds c)
    (hs : machine.step c i = some c') (h : Enters status id ⟨c, i, c'⟩) :
    Settled id c'.shared (· = status) := by
  obtain ⟨r, hr, r', hr', hid, hid', -, hstatus⟩ := h
  have hrows := step_rowStep hholds.inv hs
  refine ⟨hrows.moved.grows (hid ▸ hholds.inv.known r hr), fun r₁ hr₁ hid₁ => ?_⟩
  rw [hrows.moved.keyed.eq hr₁ hr' (hid₁.trans hid'.symm)]
  exact hstatus

theorem not_enters {status : ReportStatus} {settled : ReportStatus → Prop}
    (hsettled : Settled id c.shared settled) (hholds : runOutline.Holds c)
    (hs : machine.step c i = some c')
    (hnever : ∀ now r r', StatusMove now r r' → settled r.status → r.status ≠ status →
      r'.status ≠ status) : ¬ Enters status id ⟨c, i, c'⟩ := by
  rintro ⟨r, hr, r', hr', hid, hid', hbefore, hafter⟩
  have hstep := row_step hholds hs hr hr' (hid'.trans hid.symm)
  exact hnever _ r r' (hstep.statusMove hholds.own) (hsettled.2 r hr hid) hbefore hafter

theorem claimed_of_claims {t : Time} (hholds : runOutline.Holds c)
    (hs : machine.step c i = some c') (h : Claims id t ⟨c, i, c'⟩) :
    Claimed c'.shared id t ∧ ∀ t₀, Claimed c.shared id t₀ → t₀ + staleRunMs < t := by
  obtain ⟨w, run, rest, hlabel, hw, hid, ht, hcount⟩ := h
  cases hlabel
  obtain ⟨s', worker', ha, rfl⟩ := program.step_act.mp hs
  obtain ⟨r, hgo, he⟩ := Option.map_eq_some_iff.mp ha
  cases he
  rw [← hid, ← ht]
  exact claimed_of_go hholds.inv hw hcount hgo hholds.own

end results

/-- Every step of every interleaving moves the jobs along their state machine, and only the
holder of a job writes its outcome. No job is completed twice or after it was cancelled, and
each claim of a job starts more than 15 minutes after the one before. -/
theorem report_job_lifecycle {now : Time} {moves : List ReportLabel} {c : ReportPool}
    (hrun : machine.run (init now) moves = some c) :
    (∀ step ∈ machine.history (init now) moves,
      (∀ r ∈ step.before.shared.jobs, ∀ r' ∈ step.after.shared.jobs, r'.id = r.id →
        StatusMove step.before.shared.now r r' ∧
          (r'.status ≠ r.status → r'.status = .completed ∨ r'.status = .failed →
            ByHolder step r)) ∧
      ∀ r' ∈ step.after.shared.jobs, (∀ r ∈ step.before.shared.jobs, r.id ≠ r'.id) →
        r'.status = .pending) ∧
    (machine.history (init now) moves).Pairwise fun earlier later => ∀ id,
      (Enters .completed id earlier → ¬ Enters .completed id later) ∧
      (Enters .cancelled id earlier → ¬ Enters .completed id later) ∧
      ∀ t t', Claims id t earlier → Claims id t' later → t + staleRunMs < t' := by
  have hinit : runOutline.Holds (init now) := by
    refine ⟨⟨List.nodup_nil, fun _ h => by cases h⟩, fun w => ?_, fun w v _ => ?_⟩
    · exact ⟨Nat.zero_le _, fun _ h => (by cases h), fun _ _ h => (by cases h), fun _ h => by cases h⟩
    · exact fun _ _ h => by cases h
  have hholds : ∀ c i c', runOutline.Holds c → machine.step c i = some c' → runOutline.Holds c' :=
    fun c i c' h hs => runOutline_valid.step c i c' h trivial hs
  constructor
  · refine Machine.history_forall machine (fun c i c' h hs => ⟨hholds c i c' h hs, ?_, ?_⟩) hinit hrun
    · intro r hr r' hr' hid
      have hstep := row_step h hs hr hr' hid
      exact ⟨hstep.statusMove h.own, hstep.byHolder h⟩
    · intro r' hr' hnew
      rcases (step_rowStep h.inv hs).moved.source r' hr' with ⟨r, hr, hstep⟩ | ⟨-, hjob⟩
      · exact absurd hstep.id_eq.symm (hnew r hr)
      · exact hjob.status
  · refine Machine.history_pairwise machine (J := fun earlier c => ∀ id,
      (Enters .completed id earlier →
        Settled id c.shared fun status => status = .completed ∨ status = .expired) ∧
      (Enters .cancelled id earlier → Settled id c.shared (· = .cancelled)) ∧
      ∀ t, Claims id t earlier → Claimed c.shared id t)
      (fun c i c' h hs => ⟨hholds c i c' h hs, fun id => ?_⟩)
      (fun earlier c i c' h hmark hs => ⟨fun id => ?_, fun id => ?_⟩) hinit hrun
    · refine ⟨fun henters => ?_, fun henters => settled_of_enters h hs henters, fun t hclaim => ?_⟩
      · obtain ⟨hid, hstatus⟩ := settled_of_enters h hs henters
        exact ⟨hid, fun r hr hr' => .inl (hstatus r hr hr')⟩
      · exact (claimed_of_claims h hs hclaim).1
    · obtain ⟨hcompleted, hcancelled, hclaimed⟩ := hmark id
      refine ⟨fun henters => ?_, fun henters => ?_, fun t t' ht ht' => ?_⟩
      · exact not_enters (hcompleted henters) h hs fun _ _ _ => StatusMove.finished
      · exact not_enters (hcancelled henters) h hs fun _ _ _ hmove hstatus _ => by
          rw [hmove.cancelled hstatus]
          exact fun h => by cases h
      · exact (claimed_of_claims h hs ht').2 t (hclaimed t ht)
    · obtain ⟨hcompleted, hcancelled, hclaimed⟩ := hmark id
      refine ⟨fun henters => ?_, fun henters => ?_, fun t hclaim => ?_⟩
      · exact (hcompleted henters).step h hs fun _ _ _ => StatusMove.stays_finished
      · exact (hcancelled henters).step h hs fun _ _ _ => StatusMove.cancelled
      · exact (hclaimed t hclaim).step h.own (step_rowStep h.inv hs)

section demo

def demoJob : JobRow := newJob 1 ⟨7, 9, .tickets⟩ {} 0

def acts (w : Nat) (steps : List ReportStep) : List ReportLabel := steps.map fun step => .act w step

/-- A worker claims the job and hangs. Another takes the job over and fails it, and then the
first one comes back. -/
def takenOver : List ReportLabel :=
  .env (.create 1 ⟨7, 9, .tickets⟩ {}) ::
    acts 0 [.start, .found [], .go, .found [demoJob], .go, .go] ++
    .env (.tick 900001) :: acts 1 [.look 900001, .start, .found [], .go,
      .found [demoJob.claim 0 0], .go, .go, .throws, .go] ++
    acts 0 [.throws, .go]

theorem report_job_lifecycle_taken_over :
    ∃ c, machine.run (init 0) takenOver = some c ∧
      (machine.history (init 0) takenOver).Pairwise fun earlier later => ∀ id,
        (Enters .completed id earlier → ¬ Enters .completed id later) ∧
        (Enters .cancelled id earlier → ¬ Enters .completed id later) ∧
        ∀ t t', Claims id t earlier → Claims id t' later → t + staleRunMs < t' := by
  have hsome : (machine.run (init 0) takenOver).isSome = true := by decide
  obtain ⟨c, hrun⟩ := Option.isSome_iff_exists.mp hsome
  exact ⟨c, hrun, (report_job_lifecycle hrun).2⟩

end demo
end OmniSupport.Report
