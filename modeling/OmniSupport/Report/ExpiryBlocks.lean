import OmniSupport.Report.ReportFiles

/-! Expiry before the claims: a pass whose `expireFiles` throws lists no job, and with the local
storage a completed job whose file is gone makes every pass throw that comes upon it. -/
namespace OmniSupport.Report
open Foundation Database ReportService

namespace ReportTask

/-- The file that the next statement deletes. -/
def deletes : ReportTask → Option StoragePath
  | .deletingFile path .. | .deletingUpload _ _ path => some path
  | _ => none

/-- The job that the next statement expires. -/
def expires : ReportTask → Option JobRow
  | .expiring job _ => some job
  | _ => none

/-- The listed jobs whose claim is still to come. -/
def unclaimed : ReportTask → Option (List JobRow)
  | .next _ jobs => some jobs
  | .claiming run rest => some (run.job :: rest)
  | .authorizing _ rest | .reading _ rest .. | .checking _ rest .. | .uploading _ rest ..
  | .completing _ rest .. | .deletingUpload _ rest _ | .auditing _ rest | .failing _ rest _ =>
    some rest
  | .idle | .findingExpired | .deletingFile .. | .expiring .. | .purging | .listing => none

end ReportTask

/-- `LocalStorageProvider.delete` throws when the file does not exist. -/
def LocalStorage (c : ReportPool) : ReportLabel → Prop
  | .act w .go => ∀ path ∈ (c.locals w).task.deletes, path ∈ c.shared.files
  | _ => True

instance (c : ReportPool) : DecidablePred (LocalStorage c)
  | .act w .go =>
    inferInstanceAs (Decidable (∀ path ∈ (c.locals w).task.deletes, path ∈ c.shared.files))
  | .act _ (.look _) | .act _ .start | .act _ (.found _) | .act _ (.authorize _)
  | .act _ (.upload _) | .act _ .throws | .act _ .crash | .env _ => isTrue trivial

/-- What a worker has done in its latest `processPending`. -/
structure Pass where
  listed : Option (List JobRow)
  attempted : List JobRow

namespace Pass

def start : Pass := ⟨none, []⟩

def after (pass : Pass) (task : ReportTask) : ReportStep → Pass
  | .start => start
  | .found picked =>
    match task with
    | .listing => { pass with listed := some picked }
    | _ => pass
  | .go =>
    match task with
    | .claiming run _ => { pass with attempted := pass.attempted ++ [run.job] }
    | _ => pass
  | .look _ | .authorize _ | .upload _ | .throws | .crash => pass

/-- The oldest claimable jobs were listed, and the claim of each was attempted. -/
def Complete (pass : Pass) : Prop :=
  ∃ jobs, pass.listed = some jobs ∧ ∀ job ∈ jobs, job ∈ pass.attempted

end Pass

def recordPass (passes : Nat → Pass) (step : ReportHistoryStep) : Nat → Pass :=
  match step.label with
  | .act w i => Function.update passes w ((passes w).after (step.before.locals w).task i)
  | .env _ => passes

/-- The latest pass of each worker after these steps. -/
def passes (steps : List ReportHistoryStep) : Nat → Pass := steps.foldl recordPass fun _ => .start

/-- A pass is over: it returns, or a deletion or an update of `expireFiles` throws. -/
structure Returns (w : Nat) (step : ReportHistoryStep) : Prop where
  working : (step.before.locals w).task ≠ .idle
  idles : (step.after.locals w).task = .idle
  lives : step.label ≠ .act w .crash
  throws : step.label = .act w .throws → (step.before.locals w).task.overdue ≠ []

/-- A completed job past its time whose file does not exist. -/
structure FileGone (c : ReportPool) (r : JobRow) : Prop where
  mem : r ∈ c.shared.jobs
  overdue : r.overdue c.shared.now
  gone : ∃ p, r.storagePath = some p ∧ p ∉ c.shared.files

def CanExpire (c : ReportPool) : Prop :=
  ∀ r, FileGone c r → ∃ labels c', machine.Within LocalStorage c labels ∧
    machine.run c labels = some c' ∧ ∃ r' ∈ c'.shared.jobs, r'.id = r.id ∧ r'.status = .expired

/-- No deletion and no update of `expireFiles` throws, and no worker crashes between the deletion
of a file and the update of its job. -/
def ExpiresCleanly (c : ReportPool) : ReportLabel → Prop
  | .act w .throws => (c.locals w).task.overdue = []
  | .act w .crash => (c.locals w).task.expires = none
  | _ => True

instance (c : ReportPool) : DecidablePred (ExpiresCleanly c)
  | .act w .throws => inferInstanceAs (Decidable ((c.locals w).task.overdue = []))
  | .act w .crash => inferInstanceAs (Decidable ((c.locals w).task.expires = none))
  | .act _ (.look _) | .act _ .start | .act _ (.found _) | .act _ (.authorize _)
  | .act _ (.upload _) | .act _ .go | .env _ => isTrue trivial

section passes
variable {c c' : ReportPool} {s s' : ReportStore} {worker worker' : ReportWorker}
  {step : ReportStep} {pass : Pass} {task task' : ReportTask} {w : Nat}

/-- Before the listing a pass has listed nothing, and after it each listed job was attempted or
is still to come. -/
structure Tracks (pass : Pass) (task : ReportTask) : Prop where
  before : task ≠ .idle → task.unclaimed = none → pass.listed = none
  after : ∀ rest, task.unclaimed = some rest → ∃ jobs, pass.listed = some jobs ∧
    ∀ job ∈ jobs, job ∈ pass.attempted ∨ job ∈ rest

theorem Tracks.idle : Tracks pass .idle :=
  ⟨fun h => absurd rfl h, fun _ h => by cases h⟩

theorem Tracks.same (h : Tracks pass task) (hworks : task ≠ .idle)
    (hsame : task'.unclaimed = task.unclaimed) : Tracks pass task' where
  before _ hnone := h.before hworks (hsame ▸ hnone)
  after rest hrest := h.after rest (hsame ▸ hrest)

theorem expireNext_unclaimed (jobs : List JobRow) : (expireNext jobs).unclaimed = none := by
  cases jobs with
  | nil => rfl
  | cons job rest =>
    simp only [expireNext]
    split <;> rfl

theorem expireNext_ne_idle (jobs : List JobRow) : expireNext jobs ≠ .idle := by
  cases jobs with
  | nil => simp [expireNext]
  | cons job rest =>
    simp only [expireNext]
    split <;> simp

theorem afterPage_unclaimed (run : ReportRun) (rest : List JobRow) (role : UserRole)
    (records page : List ReportRow) :
    (afterPage run rest role records page).unclaimed = some rest := by
  unfold afterPage
  split
  · rfl
  · split <;> rfl

theorem afterCheck_unclaimed (run : ReportRun) (rest : List JobRow) (role : UserRole)
    (records page : List ReportRow) :
    (afterCheck run rest role records page).unclaimed = some rest := by
  unfold afterCheck
  split <;> rfl

theorem go_tracks (h : Tracks pass worker.task) (hgo : go s worker = some (s', task')) :
    Tracks (pass.after worker.task .go) task' := by
  unfold go at hgo
  cases htask : worker.task with
  | idle | findingExpired | listing | authorizing | uploading =>
    rw [htask] at hgo
    cases hgo
  | deletingFile | purging | deletingUpload | auditing | failing =>
    rw [htask] at h hgo
    cases hgo
    exact h.same (by simp) rfl
  | expiring job rest =>
    rw [htask] at h hgo
    cases hgo
    exact h.same (by simp) (expireNext_unclaimed rest)
  | next listedAt jobs =>
    rw [htask] at h hgo
    cases jobs with
    | nil =>
      cases hgo
      exact .idle
    | cons job rest =>
      cases hgo
      exact h.same (by simp) rfl
  | claiming run rest =>
    rw [htask] at h hgo
    cases hgo
    obtain ⟨jobs, hlisted, hjobs⟩ := h.after _ rfl
    have hafter : ∃ jobs, pass.listed = some jobs ∧
        ∀ job ∈ jobs, job ∈ pass.attempted ++ [run.job] ∨ job ∈ rest := by
      refine ⟨jobs, hlisted, fun job hjob => ?_⟩
      rcases hjobs job hjob with hdone | hcomes
      · exact .inl (List.mem_append_left _ hdone)
      · rcases List.mem_cons.mp hcomes with rfl | hrest
        · exact .inl (List.mem_append_right _ List.mem_cons_self)
        · exact .inr hrest
    split
    · exact ⟨fun _ h => (by cases h), fun rest' h => by cases h; exact hafter⟩
    · exact ⟨fun _ h => (by cases h), fun rest' h => by cases h; exact hafter⟩
  | reading run rest role records cursor =>
    rw [htask] at h hgo
    cases hgo
    split
    · exact h.same (by simp) rfl
    · exact h.same (by simp) (afterPage_unclaimed ..)
  | checking run rest role records page =>
    rw [htask] at h hgo
    cases hgo
    split
    · exact h.same (by simp) (afterCheck_unclaimed ..)
    · exact h.same (by simp) rfl
  | completing run rest role records path =>
    rw [htask] at h hgo
    cases hgo
    split <;> exact h.same (by simp) rfl

theorem act_tracks (h : Tracks pass worker.task)
    (ha : act w s worker step = some (s', worker')) :
    Tracks (pass.after worker.task step) worker'.task := by
  cases step with
  | go =>
    obtain ⟨r, hgo, he⟩ := Option.map_eq_some_iff.mp ha
    cases he
    exact go_tracks h hgo
  | look time =>
    simp only [act] at ha
    split at ha <;> cases ha
    exact h
  | start =>
    simp only [act] at ha
    split at ha <;> cases ha
    exact ⟨fun _ _ => rfl, fun _ h => by cases h⟩
  | crash =>
    cases ha
    exact .idle
  | found picked =>
    obtain ⟨task, ht, he⟩ := Option.map_eq_some_iff.mp ha
    cases he
    unfold found at ht
    cases htask : worker.task with
    | findingExpired =>
      rw [htask] at h ht
      simp only at ht
      split at ht <;> cases ht
      exact h.same (by simp) (expireNext_unclaimed picked)
    | listing =>
      rw [htask] at ht
      simp only at ht
      split at ht <;> cases ht
      refine ⟨fun _ h => (by cases h), fun rest h => ?_⟩
      cases h
      exact ⟨picked, rfl, fun job hjob => .inr hjob⟩
    | _ =>
      rw [htask] at ht
      cases ht
  | authorize answer =>
    obtain ⟨task, ht, he⟩ := Option.map_eq_some_iff.mp ha
    cases he
    cases htask : worker.task with
    | authorizing run rest =>
      rw [htask] at h ht
      cases ht
      cases answer <;> exact h.same (by simp) rfl
    | _ =>
      rw [htask] at ht
      cases ht
  | throws =>
    obtain ⟨task, ht, he⟩ := Option.map_eq_some_iff.mp ha
    cases he
    cases htask : worker.task <;> rw [htask] at h ht <;> cases ht <;>
      first | exact .idle | exact h.same (by simp) rfl
  | upload path =>
    obtain ⟨r, hr, he⟩ := Option.map_eq_some_iff.mp ha
    cases he
    cases htask : worker.task with
    | uploading run rest role records =>
      rw [htask] at h hr
      simp only [upload] at hr
      split at hr <;> cases hr
      exact h.same (by simp) rfl
    | _ =>
      rw [htask] at hr
      cases hr

/-- A pass goes on until its last job is claimed. -/
theorem go_idle (hgo : go s worker = some (s', task')) (hidle : task' = .idle) :
    worker.task.unclaimed = some [] := by
  unfold go at hgo
  cases htask : worker.task with
  | idle | findingExpired | listing | authorizing | uploading =>
    rw [htask] at hgo
    cases hgo
  | deletingFile | purging | deletingUpload | auditing | failing =>
    rw [htask] at hgo
    cases hgo
    cases hidle
  | expiring job rest =>
    rw [htask] at hgo
    cases hgo
    exact absurd hidle (expireNext_ne_idle rest)
  | next listedAt jobs =>
    rw [htask] at hgo
    cases jobs <;> cases hgo
    · rfl
    · cases hidle
  | claiming | completing =>
    rw [htask] at hgo
    cases hgo
    split at hidle <;> cases hidle
  | reading run rest role records cursor =>
    rw [htask] at hgo
    cases hgo
    split at hidle
    · cases hidle
    · have hunclaimed := afterPage_unclaimed run rest role records (by assumption)
      rw [hidle] at hunclaimed
      cases hunclaimed
  | checking run rest role records page =>
    rw [htask] at hgo
    cases hgo
    split at hidle
    · have hunclaimed := afterCheck_unclaimed run rest role records page
      rw [hidle] at hunclaimed
      cases hunclaimed
    · cases hidle

/-- How a pass comes to its end. -/
theorem act_idle (ha : act w s worker step = some (s', worker')) (hworks : worker.task ≠ .idle)
    (hidle : worker'.task = .idle) :
    step = .crash ∨ step = .throws ∨ worker.task.unclaimed = some [] := by
  cases step with
  | crash => exact .inl rfl
  | throws => exact .inr (.inl rfl)
  | look time =>
    simp only [act] at ha
    split at ha <;> cases ha
    exact absurd hidle hworks
  | start =>
    simp only [act] at ha
    cases ha
  | found picked =>
    obtain ⟨task, ht, he⟩ := Option.map_eq_some_iff.mp ha
    cases he
    unfold found at ht
    split at ht
    · split at ht <;> cases ht
      exact absurd hidle (expireNext_ne_idle picked)
    · split at ht <;> cases ht
      cases hidle
    · cases ht
  | authorize answer =>
    obtain ⟨task, ht, he⟩ := Option.map_eq_some_iff.mp ha
    cases he
    unfold authorize at ht
    split at ht
    · cases ht
      cases answer <;> cases hidle
    · cases ht
  | upload path =>
    obtain ⟨r, hr, he⟩ := Option.map_eq_some_iff.mp ha
    cases he
    unfold upload at hr
    split at hr
    · split at hr <;> cases hr
      cases hidle
    · cases hr
  | go =>
    obtain ⟨r, hgo, he⟩ := Option.map_eq_some_iff.mp ha
    cases he
    exact .inr (.inr (go_idle hgo hidle))

theorem overdue_ne_nil (h : task.overdue ≠ []) :
    (∃ path job rest, task = .deletingFile path job rest) ∨
      ∃ job rest, task = .expiring job rest := by
  cases task with
  | deletingFile path job rest => exact .inl ⟨path, job, rest, rfl⟩
  | expiring job rest => exact .inr ⟨job, rest, rfl⟩
  | _ => exact absurd rfl h

/-- The passes that a step ends are complete exactly when it is no failure of `expireFiles`. -/
theorem complete_iff {passes : Nat → Pass} {i : ReportLabel}
    (h : ∀ w, Tracks (passes w) (c.locals w).task) (hs : machine.step c i = some c') :
    (∀ w, Returns w ⟨c, i, c'⟩ → (passes w).Complete) ↔
      ∀ w, i = .act w .throws → (c.locals w).task.overdue = [] := by
  constructor
  · intro hall w hi
    subst hi
    by_contra hoverdue
    obtain ⟨s', worker', ha, rfl⟩ := program.step_act.mp hs
    obtain ⟨task, hthrows, he⟩ := Option.map_eq_some_iff.mp ha
    cases he
    have hworks : (c.locals w).task ≠ .idle ∧ (c.locals w).task.unclaimed = none ∧
        task = .idle := by
      rcases overdue_ne_nil hoverdue with ⟨path, job, rest, htask⟩ | ⟨job, rest, htask⟩
      · rw [htask] at hthrows ⊢
        cases hthrows
        exact ⟨by simp, rfl, rfl⟩
      · rw [htask] at hthrows ⊢
        cases hthrows
        exact ⟨by simp, rfl, rfl⟩
    have hidle : ((c.put w c.shared { c.locals w with task := task }).locals w).task = .idle := by
      rw [c.put_locals_self]
      exact hworks.2.2
    obtain ⟨jobs, hlisted, -⟩ := hall w ⟨hworks.1, hidle, by simp, fun _ => hoverdue⟩
    rw [(h w).before hworks.1 hworks.2.1] at hlisted
    cases hlisted
  · intro hclean w hreturns
    cases i with
    | env m =>
      obtain ⟨s', -, rfl⟩ := program.step_env.mp hs
      exact absurd hreturns.idles hreturns.working
    | act v step =>
      obtain ⟨s', worker', ha, rfl⟩ := program.step_act.mp hs
      by_cases hv : w = v
      · subst hv
        have hidle : worker'.task = .idle := by
          have hput := hreturns.idles
          rwa [c.put_locals_self] at hput
        rcases act_idle (w := w) ha hreturns.working hidle with rfl | rfl | hdone
        · exact absurd rfl hreturns.lives
        · exact absurd (hclean w rfl) (hreturns.throws rfl)
        · obtain ⟨jobs, hlisted, hjobs⟩ := (h w).after [] hdone
          exact ⟨jobs, hlisted, fun job hjob => by simpa using hjobs job hjob⟩
      · have hsame := hreturns.idles
        rw [c.put_locals_of_ne s' worker' hv] at hsame
        exact absurd hsame hreturns.working

theorem tracks_step {passes : Nat → Pass} {i : ReportLabel}
    (h : ∀ w, Tracks (passes w) (c.locals w).task) (hs : machine.step c i = some c') (w : Nat) :
    Tracks (recordPass passes ⟨c, i, c'⟩ w) (c'.locals w).task := by
  cases i with
  | env m =>
    obtain ⟨s', -, rfl⟩ := program.step_env.mp hs
    exact h w
  | act v step =>
    obtain ⟨s', worker', ha, rfl⟩ := program.step_act.mp hs
    by_cases hv : w = v
    · subst hv
      simp only [recordPass, Function.update_self]
      rw [c.put_locals_self]
      exact act_tracks (w := w) (h w) ha
    · simp only [recordPass, Function.update_of_ne hv]
      rw [c.put_locals_of_ne s' worker' hv]
      exact h w

end passes

/-- What a worker knows of the jobs it is to expire. -/
structure Deleting (worker : ReportWorker) (s : ReportStore) : Prop where
  stored : ∀ job ∈ worker.task.overdue, ∃ p, job.storagePath = some p
  row : ∀ job ∈ worker.task.overdue, ∀ p, job.storagePath = some p → p ∈ s.files →
    ∃ r ∈ s.jobs, r.id = job.id ∧ r.status = .completed
  expires : ∀ job, worker.task.expires = some job →
    ∃ r ∈ s.jobs, r.id = job.id ∧ r.status = .completed

/-- No two workers have deleted the file of one job. -/
def ExpiresApart (worker worker' : ReportWorker) : Prop :=
  ∀ job job', worker.task.expires = some job → worker'.task.expires = some job' → job.id ≠ job'.id

abbrev expiryOutline : Program.Outline ReportStore ReportWorker where
  inv := FilesKept
  own _ worker s := HoldsFiles worker s ∧ Deleting worker s
  pair worker worker' := FilesApart worker worker' ∧ ExpiresApart worker worker'

section outline
variable {c c' : ReportPool} {i : ReportLabel} {s s' : ReportStore} {worker worker' : ReportWorker}
  {step : ReportStep} {w : Nat} {job r : JobRow} {p : StoragePath}

theorem files_holds (h : expiryOutline.Holds c) : fileOutline.Holds c where
  inv := h.inv
  own w := (h.own w).1
  pair w v hne := (h.pair w v hne).1

theorem expires_eq {task : ReportTask} (h : task.expires = some job) :
    ∃ rest, task = .expiring job rest := by
  cases task with
  | expiring job' rest =>
    cases h
    exact ⟨rest, rfl⟩
  | _ => cases h

theorem expires_mem {task : ReportTask} (h : task.expires = some job) : job ∈ task.overdue := by
  obtain ⟨rest, rfl⟩ := expires_eq h
  exact List.mem_cons_self

theorem expireNext_expires {jobs : List JobRow} (h : (expireNext jobs).expires = some job) :
    job.storagePath = none := by
  cases jobs with
  | nil => cases h
  | cons head rest =>
    simp only [expireNext] at h
    split at h
    · cases h
    · cases h
      assumption

/-- A worker comes to expire a job by deleting its file. -/
theorem act_expires (ha : act w s worker step = some (s', worker'))
    (hjob : worker'.task.expires = some job) (hstored : job.storagePath ≠ none) :
    worker.task.expires = some job ∧ step ≠ .go ∧ s' = s ∨
      ∃ path rest, worker.task = .deletingFile path job rest ∧ step = .go ∧
        s' = s.deleteFile path := by
  cases step with
  | look time =>
    simp only [act] at ha
    split at ha <;> cases ha
    exact .inl ⟨hjob, by simp, rfl⟩
  | start =>
    simp only [act] at ha
    split at ha <;> cases ha
    cases hjob
  | crash =>
    cases ha
    cases hjob
  | found picked =>
    obtain ⟨task, ht, he⟩ := Option.map_eq_some_iff.mp ha
    cases he
    unfold found at ht
    split at ht
    · split at ht <;> cases ht
      exact absurd (expireNext_expires hjob) hstored
    · split at ht <;> cases ht
      cases hjob
    · cases ht
  | authorize answer =>
    obtain ⟨task, ht, he⟩ := Option.map_eq_some_iff.mp ha
    cases he
    unfold authorize at ht
    split at ht
    · cases ht
      cases answer <;> cases hjob
    · cases ht
  | throws =>
    obtain ⟨task, ht, he⟩ := Option.map_eq_some_iff.mp ha
    cases he
    unfold throws at ht
    split at ht <;> cases ht <;> cases hjob
  | upload path =>
    obtain ⟨r, hr, he⟩ := Option.map_eq_some_iff.mp ha
    cases he
    unfold upload at hr
    split at hr
    · split at hr <;> cases hr
      cases hjob
    · cases hr
  | go =>
    obtain ⟨r, hgo, he⟩ := Option.map_eq_some_iff.mp ha
    cases he
    have hhand := (go_handStep hgo).expiring
    obtain ⟨rest, htask⟩ := expires_eq hjob
    rcases hhand job rest htask with hsame | hnone | ⟨path, hdeleting, hfiles⟩
    · rw [htask] at hsame
      unfold go at hgo
      rw [← show _ = worker.task from hsame] at hgo
      cases hgo
      exact absurd (expireNext_expires hjob) hstored
    · exact absurd hnone hstored
    · exact .inr ⟨path, rest, hdeleting, rfl, hfiles⟩

/-- A completed row stays as it is, unless its job is expired. -/
theorem completed_kept (hs : c.shared.RowStep (JobStep c i) s') (hr : r ∈ c.shared.jobs)
    (hstatus : r.status = .completed)
    (hnot : ∀ w job, i = .act w .go → (c.locals w).task.expires = some job → r.id ≠ job.id) :
    r ∈ s'.jobs := by
  rcases hs.moved.kept r hr with hended | ⟨r', hr', hstep⟩
  · rcases hended with hended | hended | hended <;> rw [hstatus] at hended <;> cases hended
  · rcases hstep.of_finished (.inl hstatus) with rfl | ⟨-, -, w, job, rest, hi, hw, hid⟩
    · exact hr'
    · have hexpires : (c.locals w).task.expires = some job := by rw [hw]; rfl
      exact absurd hid (hnot w job hi hexpires)

/-- The file of a completed job that a worker is about to expire does not exist. -/
theorem expires_gone (h : expiryOutline.Holds c) {v : Nat}
    (hv : (c.locals v).task.expires = some job) (hr : r ∈ c.shared.jobs) (hid : r.id = job.id)
    (hstatus : r.status = .completed) (hp : r.storagePath = some p) : p ∉ c.shared.files := by
  obtain ⟨rest, htask⟩ := expires_eq hv
  have hsame := ((h.own v).1.overdue job (expires_mem hv)).same r hr hid hstatus
  exact (h.own v).1.expiring job rest htask p (hsame.1 ▸ hp)

/-- While its file exists, a job that a worker has found overdue stays completed. -/
theorem row_step_kept (h : expiryOutline.Holds c) (hs : c.shared.RowStep (JobStep c i) s')
    (hf : FileStep c i s') {q : Nat} (hjob : job ∈ (c.locals q).task.overdue)
    (hp : job.storagePath = some p) (hfile : p ∈ s'.files) :
    ∃ r ∈ s'.jobs, r.id = job.id ∧ r.status = .completed := by
  have hoverdue := (h.own q).1.overdue job hjob
  have hold : p ∈ c.shared.files :=
    (hf.new p hfile).resolve_right fun hnew => hnew.1 (hoverdue.path p hp)
  obtain ⟨r, hr, hid, hstatus⟩ := (h.own q).2.row job hjob p hp hold
  have hpath : r.storagePath = some p := (hoverdue.same r hr hid hstatus).1.trans hp
  refine ⟨r, completed_kept hs hr hstatus fun v job' _ hv hid' => ?_, hid, hstatus⟩
  exact expires_gone h hv hr hid' hstatus hpath hold

/-- A worker that takes no part in the step. -/
theorem deleting_other (h : expiryOutline.Holds c) (hs : c.shared.RowStep (JobStep c i) s')
    (hf : FileStep c i s') {q : Nat} (hq : ∀ step, i ≠ .act q step) :
    Deleting (c.locals q) s' where
  stored := (h.own q).2.stored
  row _ hjob _ hp hfile := row_step_kept h hs hf hjob hp hfile
  expires job hjob := by
    obtain ⟨r, hr, hid, hstatus⟩ := (h.own q).2.expires job hjob
    refine ⟨r, completed_kept hs hr hstatus fun v job' hi hv hid' => ?_, hid, hstatus⟩
    by_cases hvq : v = q
    · exact hq .go (hvq ▸ hi)
    · exact (h.pair v q hvq).2 job' job hv hjob (hid'.symm.trans hid)

theorem deleting_actor (h : expiryOutline.Holds c) (hlocal : LocalStorage c (.act w step))
    (ha : act w c.shared (c.locals w) step = some (s', worker')) : Deleting worker' s' := by
  have hs := act_rowStep h.inv.keys ha
  have hf := act_fileStep ha
  have hhand := act_handStep ha
  have hstored : ∀ job ∈ worker'.task.overdue, ∃ p, job.storagePath = some p := by
    intro job hjob
    rcases hhand.overdue job hjob with hold | ⟨hrow, hoverdue, -⟩
    · exact (h.own w).2.stored job hold
    · obtain ⟨p, t, hp, -⟩ := h.inv.completed job hrow hoverdue.1
      exact ⟨p, hp⟩
  refine ⟨hstored, fun job hjob p hp hfile => ?_, fun job hjob => ?_⟩
  · rcases hhand.overdue job hjob with hold | ⟨hrow, hoverdue, rfl⟩
    · exact row_step_kept h hs hf hold hp hfile
    · exact ⟨job, hrow, rfl, hoverdue.1⟩
  · obtain ⟨p, hp⟩ := hstored job (expires_mem hjob)
    have hsome : job.storagePath ≠ none := by simp [hp]
    rcases act_expires ha hjob hsome with ⟨hold, -, rfl⟩ | ⟨path, rest, htask, rfl, rfl⟩
    · exact (h.own w).2.expires job hold
    · have hpath := (h.own w).1.deleting path job rest htask
      have hmem : job ∈ (c.locals w).task.overdue := by
        rw [htask]
        exact List.mem_cons_self
      have hfile : path ∈ c.shared.files := hlocal path (by rw [htask]; rfl)
      exact (h.own w).2.row job hmem path hpath hfile

theorem expiresApart_actor (h : expiryOutline.Holds c) (hlocal : LocalStorage c (.act w step))
    (ha : act w c.shared (c.locals w) step = some (s', worker')) {q : Nat} (hq : q ≠ w) :
    ExpiresApart worker' (c.locals q) := by
  intro job job' hjob hjob' hid
  obtain ⟨p, hp⟩ := (deleting_actor h hlocal ha).stored job (expires_mem hjob)
  have hsome : job.storagePath ≠ none := by simp [hp]
  rcases act_expires ha hjob hsome with ⟨hold, -, -⟩ | ⟨path, rest, htask, rfl, -⟩
  · exact (h.pair w q (Ne.symm hq)).2 job job' hold hjob' hid
  · have hpath := (h.own w).1.deleting path job rest htask
    have hmem : job ∈ (c.locals w).task.overdue := by
      rw [htask]
      exact List.mem_cons_self
    have hfile : path ∈ c.shared.files := hlocal path (by rw [htask]; rfl)
    obtain ⟨r, hr, hrid, hstatus⟩ := (h.own w).2.row job hmem path hpath hfile
    have hrp := (((h.own w).1.overdue job hmem).same r hr hrid hstatus).1.trans hpath
    exact expires_gone h hjob' hr (hrid.trans hid) hstatus hrp hfile

theorem expiryOutline_valid : expiryOutline.Valid program LocalStorage where
  symm _ _ h :=
    ⟨fileOutline_valid.symm _ _ h.1, fun job job' hjob hjob' => (h.2 job' job hjob' hjob).symm⟩
  act c w step s worker h hlocal ha := by
    obtain ⟨hinv, hown⟩ := fileOutline_valid.act c w step s worker (files_holds h) trivial ha
    exact ⟨hinv, hown, deleting_actor h hlocal ha⟩
  others c w step s worker h hlocal ha q hq := by
    obtain ⟨hown, hpair⟩ := fileOutline_valid.others c w step s worker (files_holds h) trivial ha
      q hq
    refine ⟨⟨hown, deleting_other h (act_rowStep h.inv.keys ha) (act_fileStep ha) ?_⟩,
      hpair, expiresApart_actor h hlocal ha hq⟩
    intro step' hi
    cases hi
    exact hq rfl
  env c m s h _ hm := by
    obtain ⟨hinv, hown⟩ := fileOutline_valid.env c m s (files_holds h) trivial hm
    refine ⟨hinv, fun q => ⟨hown q, ?_⟩⟩
    exact deleting_other h (move_rowStep h.inv.keys hm) (move_fileStep hm) fun _ hi => by cases hi

theorem expiryOutline_init (now : Time) : expiryOutline.Holds (init now) := by
  have hfiles := fileOutline_init now
  refine ⟨hfiles.inv, fun w => ⟨hfiles.own w, ?_⟩, fun w v hne => ⟨hfiles.pair w v hne, ?_⟩⟩
  · exact ⟨fun _ h => (by cases h), fun _ h => (by cases h), fun _ h => by cases h⟩
  · exact fun _ _ h => by cases h

end outline

/-- Some worker has deleted the file of the job and is about to expire it. -/
def AboutToExpire (c : ReportPool) (id : Uuid) : Prop :=
  ∃ w job, (c.locals w).task.expires = some job ∧ job.id = id

/-- A completed job that nobody is about to expire and whose file does not exist. -/
structure Stuck (r : JobRow) (p : StoragePath) (c : ReportPool) : Prop where
  holds : expiryOutline.Holds c
  mem : r ∈ c.shared.jobs
  status : r.status = .completed
  path : r.storagePath = some p
  gone : p ∉ c.shared.files
  alone : ¬ AboutToExpire c r.id

section expiring
variable {c c' : ReportPool} {i : ReportLabel} {r : JobRow} {p : StoragePath}

/-- The local storage never deletes the file of such a job, so that it stays completed. -/
theorem Stuck.step (h : Stuck r p c) (hlocal : LocalStorage c i)
    (hs : machine.step c i = some c') : Stuck r p c' := by
  have hholds := expiryOutline_valid.step c i c' h.holds hlocal hs
  refine ⟨hholds, ?_, h.status, h.path, ?_, ?_⟩
  · refine completed_kept (step_rowStep h.holds.inv.keys hs) h.mem h.status ?_
    exact fun w job _ hw hid => h.alone ⟨w, job, hw, hid.symm⟩
  · intro hfile
    rcases (step_fileStep hs).new p hfile with hold | ⟨hfresh, -⟩
    · exact h.gone hold
    · exact hfresh (h.holds.inv.path r h.mem p h.path).2
  · rintro ⟨v, job, hv, hid⟩
    cases i with
    | env m =>
      obtain ⟨s', -, rfl⟩ := program.step_env.mp hs
      exact h.alone ⟨v, job, hv, hid⟩
    | act w step =>
      obtain ⟨s', worker', ha, rfl⟩ := program.step_act.mp hs
      by_cases hvw : v = w
      · subst hvw
        obtain ⟨path, hpath⟩ := (hholds.own v).2.stored job (expires_mem hv)
        rw [c.put_locals_self] at hv
        rcases act_expires (w := v) ha hv (by simp [hpath]) with
          ⟨hold, -, -⟩ | ⟨path', rest, htask, rfl, -⟩
        · exact h.alone ⟨v, job, hold, hid⟩
        · have hmem : job ∈ (c.locals v).task.overdue := by
            rw [htask]
            exact List.mem_cons_self
          have hsame := ((h.holds.own v).1.overdue job hmem).same r h.mem hid.symm h.status
          have hdeleting := (h.holds.own v).1.deleting path' job rest htask
          rw [← hsame.1, h.path] at hdeleting
          cases hdeleting
          exact h.gone (hlocal p (by rw [htask]; rfl))
      · rw [c.put_locals_of_ne s' worker' hvw] at hv
        exact h.alone ⟨v, job, hv, hid⟩

/-- A job whose file is gone may expire exactly when a worker is about to expire it. -/
theorem canExpire_iff (h : expiryOutline.Holds c) :
    CanExpire c ↔ ∀ r, FileGone c r → AboutToExpire c r.id := by
  constructor
  · intro hcan r hgone
    by_contra halone
    obtain ⟨p, hp, hfile⟩ := hgone.gone
    obtain ⟨labels, c', hlocal, hr, r', hr', hid, hexpired⟩ := hcan r hgone
    have hstuck : Stuck r p c := ⟨h, hgone.mem, hgone.overdue.1, hp, hfile, halone⟩
    have hend : Stuck r p c' :=
      machine.run_preserves_within (fun c i c' h hlocal hs => h.step hlocal hs) hstuck hlocal hr
    rw [hend.holds.inv.keys.eq hr' hend.mem hid, hend.status] at hexpired
    cases hexpired
  · intro hall r hgone
    obtain ⟨w, job, hw, hid⟩ := hall r hgone
    obtain ⟨rest, htask⟩ := expires_eq hw
    have hgo : program.act w c.shared (c.locals w) .go = some
        (c.shared.updateJobs (fun r => r.id = job.id ∧ r.status = .completed)
          (JobRow.expire c.shared.now), { c.locals w with task := expireNext rest }) := by
      simp only [program, act, go, htask, Option.map_some]
    obtain ⟨c', hs, hshared, -⟩ := program.step_of_act hgo
    have hlocal : LocalStorage c (.act w .go) := by
      intro path hpath
      rw [htask] at hpath
      cases hpath
    refine ⟨[.act w .go], c', ⟨hlocal, fun _ _ => trivial⟩, ?_, r.expire c.shared.now, ?_, rfl, rfl⟩
    · exact (machine.run_cons).mpr ⟨c', hs, rfl⟩
    · rw [hshared]
      exact Table.mem_updateMany.mpr (.inl ⟨r, hgone.mem, ⟨hid.symm, hgone.overdue.1⟩, rfl⟩)

theorem overdue_of_gone {s : ReportStore} (h : FilesKept s) (hr : r ∈ s.jobs)
    (hstatus : r.status = .completed) (hp : r.storagePath = some p) (hfile : p ∉ s.files) :
    r.overdue s.now := by
  obtain ⟨p', t, hp', ht, hlate⟩ := h.completed r hr hstatus
  cases hp.symm.trans hp'
  exact ⟨hstatus, by simp [ht, hlate.resolve_right hfile]⟩

/-- How a worker leaves a job that it is about to expire. -/
theorem expires_left {s s' : ReportStore} {worker worker' : ReportWorker} {step : ReportStep}
    {w : Nat} {job : JobRow} (ha : act w s worker step = some (s', worker'))
    (hjob : worker.task.expires = some job) :
    worker'.task = worker.task ∨ (step = .throws ∨ step = .crash) ∧ worker'.task = .idle ∧ s' = s ∨
      s' = s.updateJobs (fun r => r.id = job.id ∧ r.status = .completed) (JobRow.expire s.now) := by
  obtain ⟨rest, htask⟩ := expires_eq hjob
  cases step with
  | look time =>
    simp only [act] at ha
    split at ha <;> cases ha
    exact .inl rfl
  | crash =>
    cases ha
    exact .inr (.inl ⟨.inr rfl, rfl, rfl⟩)
  | start =>
    simp only [act, htask] at ha
    cases ha
  | throws =>
    obtain ⟨task, ht, he⟩ := Option.map_eq_some_iff.mp ha
    cases he
    rw [htask] at ht
    cases ht
    exact .inr (.inl ⟨.inl rfl, rfl, rfl⟩)
  | go =>
    obtain ⟨result, hgo, he⟩ := Option.map_eq_some_iff.mp ha
    cases he
    unfold go at hgo
    rw [htask] at hgo
    cases hgo
    exact .inr (.inr rfl)
  | found | authorize | upload =>
    obtain ⟨result, hresult, -⟩ := Option.map_eq_some_iff.mp ha
    simp only [found, htask] at hresult
    cases hresult

/-- A worker that fails or crashes about to expire its job leaves the job behind. -/
theorem leaves_behind (h : expiryOutline.Holds c) (hs : machine.step c i = some c') {w : Nat}
    {job : JobRow} (hi : i = .act w .throws ∨ i = .act w .crash)
    (hjob : (c.locals w).task.expires = some job) :
    ∃ r, FileGone c' r ∧ ¬ AboutToExpire c' r.id := by
  obtain ⟨r, hr, hid, hstatus⟩ := (h.own w).2.expires job hjob
  obtain ⟨p, -, hp, -⟩ := h.inv.completed r hr hstatus
  have hfile := expires_gone h hjob hr hid hstatus hp
  obtain ⟨rest, htask⟩ := expires_eq hjob
  have hleft : ∃ worker', worker'.task.expires = none ∧ c' = c.put w c.shared worker' := by
    rcases hi with rfl | rfl
    · obtain ⟨s', worker', ha, rfl⟩ := program.step_act.mp hs
      obtain ⟨task, ht, he⟩ := Option.map_eq_some_iff.mp ha
      cases he
      rw [htask] at ht
      cases ht
      exact ⟨_, rfl, rfl⟩
    · obtain ⟨s', worker', ha, rfl⟩ := program.step_act.mp hs
      cases ha
      exact ⟨_, rfl, rfl⟩
  obtain ⟨worker', hnone, rfl⟩ := hleft
  refine ⟨r, ⟨hr, overdue_of_gone h.inv hr hstatus hp hfile, p, hp, hfile⟩, ?_⟩
  rintro ⟨v, job', hv, hid'⟩
  by_cases hvw : v = w
  · subst hvw
    rw [c.put_locals_self, hnone] at hv
    cases hv
  · rw [c.put_locals_of_ne _ _ hvw] at hv
    exact (h.pair v w hvw).2 job' job hv hjob (hid'.trans hid)

/-- A job that is found without its file was there before the step. -/
theorem gone_mem (h : expiryOutline.Holds c) (hs : machine.step c i = some c')
    (hr : r ∈ c'.shared.jobs) (hp : r.storagePath = some p) (hfile : p ∉ c'.shared.files) :
    r ∈ c.shared.jobs := by
  rcases path_source (files_holds h) (step_rowStep h.inv.keys hs) hr hp with hold | hnew
  · exact hold
  · obtain ⟨r₀, -, w, run, rest, role, records, hi, hw, -⟩ := hnew
    have huploaded : (c.locals w).task.uploaded = some p := by rw [hw]; rfl
    refine absurd (uploaded_kept (files_holds h) (step_fileStep hs) huploaded ?_) hfile
    intro run' rest' hw'
    rw [hw] at hw'
    cases hw'

/-- The worker that deletes the file of a job is about to expire the job. -/
theorem deleted_aboutToExpire (h : expiryOutline.Holds c) (hs : machine.step c i = some c')
    (hr : r ∈ c.shared.jobs) (hp : r.storagePath = some p) (hbefore : p ∈ c.shared.files)
    (hfile : p ∉ c'.shared.files) : AboutToExpire c' r.id := by
  obtain ⟨w, rfl, ⟨run, rest, hw⟩ | ⟨job, rest, hw⟩⟩ := (step_fileStep hs).lost p hbefore hfile
  · have huploaded : (c.locals w).task.uploaded = some p := by rw [hw]; rfl
    exact absurd hp (((h.own w).1.uploaded p huploaded).2 r hr)
  · have hmem : job ∈ (c.locals w).task.overdue := by
      rw [hw]
      exact List.mem_cons_self
    have hpath := (h.own w).1.deleting p job rest hw
    have hid := ((h.own w).1.overdue job hmem).owner r hr p hp hpath
    obtain ⟨s', worker', ha, rfl⟩ := program.step_act.mp hs
    obtain ⟨result, hgo, he⟩ := Option.map_eq_some_iff.mp ha
    cases he
    unfold go at hgo
    rw [hw] at hgo
    cases hgo
    exact ⟨w, job, by rw [c.put_locals_self]; rfl, hid.symm⟩

/-- A worker goes on to expire its job unless the step is its failure or crash. -/
theorem stays_aboutToExpire (hclean : ∀ w, i = .act w .throws ∨ i = .act w .crash →
      (c.locals w).task.expires = none) (hs : machine.step c i = some c')
    (hr : r ∈ c'.shared.jobs) (hstatus : r.status = .completed)
    (habout : AboutToExpire c r.id) : AboutToExpire c' r.id := by
  obtain ⟨w, job, hw, hid⟩ := habout
  refine ⟨w, job, ?_, hid⟩
  cases i with
  | env m =>
    obtain ⟨s', -, rfl⟩ := program.step_env.mp hs
    exact hw
  | act v step =>
    obtain ⟨s', worker', ha, rfl⟩ := program.step_act.mp hs
    by_cases hwv : w = v
    · subst hwv
      rcases expires_left (w := w) ha hw with hsame | ⟨hfails, -, -⟩ | rfl
      · rwa [c.put_locals_self, hsame]
      · have hnone := hclean w (hfails.imp (fun h => by rw [h]) fun h => by rw [h])
        rw [hw] at hnone
        cases hnone
      · rcases Table.mem_updateMany.mp hr with ⟨r₀, -, -, rfl⟩ | ⟨-, hnot⟩
        · cases hstatus
        · exact absurd ⟨hid.symm, hstatus⟩ hnot
    · rwa [c.put_locals_of_ne s' worker' hwv]

/-- A step leaves no job behind exactly when it is no failure or crash of a worker about to
expire its job. -/
theorem aboutToExpire_step (h : expiryOutline.Holds c)
    (hall : ∀ r, FileGone c r → AboutToExpire c r.id) (hs : machine.step c i = some c') :
    (∀ r, FileGone c' r → AboutToExpire c' r.id) ↔
      ∀ w, i = .act w .throws ∨ i = .act w .crash → (c.locals w).task.expires = none := by
  constructor
  · intro hafter w hi
    by_contra hsome
    obtain ⟨job, hjob⟩ := Option.ne_none_iff_exists'.mp hsome
    obtain ⟨r, hgone, hnot⟩ := leaves_behind h hs hi hjob
    exact hnot (hafter r hgone)
  · intro hclean r hgone
    obtain ⟨p, hp, hfile⟩ := hgone.gone
    have hstatus := hgone.overdue.1
    have hrow := gone_mem h hs hgone.mem hp hfile
    by_cases hbefore : p ∈ c.shared.files
    · exact deleted_aboutToExpire h hs hrow hp hbefore hfile
    · have hoverdue := overdue_of_gone h.inv hrow hstatus hp hbefore
      exact stays_aboutToExpire hclean hs hgone.mem hstatus
        (hall r ⟨hrow, hoverdue, p, hp, hbefore⟩)

theorem expiresCleanly_iff : ExpiresCleanly c i ↔
    (∀ w, i = .act w .throws → (c.locals w).task.overdue = []) ∧
      ∀ w, i = .act w .throws ∨ i = .act w .crash → (c.locals w).task.expires = none := by
  have hnone : ∀ w, (c.locals w).task.overdue = [] → (c.locals w).task.expires = none := by
    intro w hoverdue
    by_contra hsome
    obtain ⟨job, hjob⟩ := Option.ne_none_iff_exists'.mp hsome
    have hmem := expires_mem hjob
    rw [hoverdue] at hmem
    cases hmem
  constructor
  · intro h
    refine ⟨fun w hi => ?_, fun w hi => ?_⟩
    · subst hi
      exact h
    · rcases hi with rfl | rfl
      · exact hnone w h
      · exact h
  · intro h
    cases i with
    | env m => trivial
    | act w step =>
      cases step with
      | throws => exact h.1 w rfl
      | crash => exact h.2 w (.inr rfl)
      | look | start | found | authorize | upload | go => trivial

end expiring

/-- Over every interleaving with the local storage: every pass lists and claims, and every
completed job whose file is gone can still expire, exactly when no deletion and no update of
`expireFiles` fails and no worker crashes between the two. -/
theorem expiry_spares_claims_iff {now : Time} {labels : List ReportLabel} {c : ReportPool}
    (hr : machine.run (init now) labels = some c)
    (hlocal : machine.Within LocalStorage (init now) labels) :
    (∀ earlier step later, machine.history (init now) labels = earlier ++ step :: later →
        (∀ w, Returns w step → (passes earlier w).Complete) ∧ CanExpire step.after) ↔
      machine.Within ExpiresCleanly (init now) labels := by
  refine machine.history_record_iff (f := recordPass) (D := LocalStorage)
    (R := fun passes step => (∀ w, Returns w step → (passes w).Complete) ∧ CanExpire step.after)
    (I := fun passes c => (∀ w, Tracks (passes w) (c.locals w).task) ∧ expiryOutline.Holds c ∧
      ∀ r, FileGone c r → AboutToExpire c r.id)
    (fun passes c i c' h hlocal hs => ?_) ⟨fun w => ?_, expiryOutline_init now, ?_⟩ hlocal hr
  · obtain ⟨htracks, hholds, hall⟩ := h
    have hholds' := expiryOutline_valid.step c i c' hholds hlocal hs
    have hstep := aboutToExpire_step hholds hall hs
    refine ⟨?_, fun hclean => ⟨tracks_step htracks hs, hholds', ?_⟩⟩
    · rw [expiresCleanly_iff, complete_iff htracks hs, canExpire_iff hholds', hstep]
    · exact hstep.mpr (expiresCleanly_iff.mp hclean).2
  · exact .idle
  · intro r hgone
    cases hgone.mem

section runs

def completedJob : JobRow := (demoJob.claim 0 0).complete 0 demoFile 0 reportLifetimeMs

/-- The job is completed, and a day later a worker finds it overdue. -/
def overdueFound (rest : List ReportStep) : List ReportLabel :=
  stored (acts 0 [.go, .go, .go] ++ .env (.tick reportLifetimeMs) ::
    acts 0 ([.look reportLifetimeMs, .start, .found [completedJob]] ++ rest))

/-- Its update fails after the deletion of the file, and so does the deletion of the next pass. -/
def updateFails (rest : List ReportStep) : List ReportLabel :=
  overdueFound ([.go, .throws, .start, .found [completedJob]] ++ rest)

end runs

theorem expiry_spares_claims_iff_expired :
    ∃ c, machine.run (init 0) (overdueFound [.go, .go, .go, .found [], .go]) = some c ∧
      ∀ earlier step later,
        machine.history (init 0) (overdueFound [.go, .go, .go, .found [], .go]) =
            earlier ++ step :: later →
          (∀ w, Returns w step → (passes earlier w).Complete) ∧ CanExpire step.after := by
  have hsome : (machine.run (init 0)
      (overdueFound [.go, .go, .go, .found [], .go])).isSome := by decide +kernel
  have hr := (Option.some_get hsome).symm
  exact ⟨_, hr, (expiry_spares_claims_iff hr (by decide +kernel)).mpr (by decide +kernel)⟩

/-- A worker whose deletion or update throws is idle, and nothing is stored. -/
theorem overdue_throws {c : ReportPool} {w : Nat} (h : (c.locals w).task.overdue ≠ []) :
    machine.step c (.act w .throws) =
      some (c.put w c.shared { c.locals w with task := .idle }) := by
  refine program.step_act.mpr ⟨c.shared, { c.locals w with task := .idle }, ?_, rfl⟩
  rcases overdue_ne_nil h with ⟨path, job, rest, htask⟩ | ⟨job, rest, htask⟩
  · simp only [program, act, htask, throws, Option.map_some]
  · simp only [program, act, htask, throws, Option.map_some]

/-- Only the first worker has done anything. -/
theorem others_idle {labels : List ReportLabel} {c : ReportPool}
    (hr : machine.run (init 0) labels = some c) (hone : ∀ i ∈ labels, Program.ActorsBelow 1 i)
    {w : Nat} (hw : 1 ≤ w) : (c.locals w).task = .idle := by
  have hall : ∀ q, 1 ≤ q → (c.locals q).task = .idle :=
    machine.run_preserves_within (P := fun c => ∀ q, 1 ≤ q → (c.locals q).task = .idle)
      (fun c i c' h hi hs q hq => by
        rw [program.locals_of_actorsBelow hi hq hs]
        exact h q hq)
      (fun _ _ => rfl) (machine.within_of_labels hone) hr
  exact hall w hw

/-- The next pass of the worker throws before it lists a job, and the job never expires. -/
theorem failed_update_blocks :
    ∃ c, machine.run (init 0) (updateFails [.throws]) = some c ∧
      machine.Within LocalStorage (init 0) (updateFails [.throws]) ∧
      (∃ earlier step, machine.history (init 0) (updateFails [.throws]) = earlier ++ [step] ∧
        Returns 0 step ∧ ¬ (passes earlier 0).Complete) ∧ ¬ CanExpire c := by
  have hsome : (machine.run (init 0) (updateFails [])).isSome := by decide +kernel
  obtain ⟨c, hr⟩ := Option.isSome_iff_exists.mp hsome
  have hblocked : (machine.run (init 0) (updateFails [])).all (fun c =>
      (c.locals 0).task.overdue = [completedJob] ∧ c.shared.jobs = [completedJob] ∧
        c.shared.files = [] ∧ c.shared.now = reportLifetimeMs) = true := by decide +kernel
  rw [hr] at hblocked
  obtain ⟨hoverdue, hjobs, hfiles, hnow⟩ := of_decide_eq_true hblocked
  have hworks : (c.locals 0).task.overdue ≠ [] := by simp [hoverdue]
  have hstep := overdue_throws hworks
  have hlabels : updateFails [.throws] = updateFails [] ++ [.act 0 .throws] := rfl
  have hrun : machine.run (init 0) (updateFails [.throws]) =
      some (c.put 0 c.shared { c.locals 0 with task := .idle }) := by
    rw [hlabels]
    exact (machine.run_snoc).mpr ⟨c, hr, hstep⟩
  have hlocal : machine.Within LocalStorage (init 0) (updateFails [.throws]) := by decide +kernel
  have hlisted : (passes (machine.history (init 0) (updateFails [])) 0).listed = none := by
    decide +kernel
  refine ⟨_, hrun, hlocal, ⟨machine.history (init 0) (updateFails []),
    ⟨c, .act 0 .throws, c.put 0 c.shared { c.locals 0 with task := .idle }⟩, ?_, ?_, ?_⟩, ?_⟩
  · rw [hlabels, machine.history_append hr, machine.history_cons hstep]
    rfl
  · refine ⟨fun hidle => hworks ?_, ?_, by simp, fun _ => hworks⟩
    · rw [show (c.locals 0).task = .idle from hidle]
      rfl
    · rw [c.put_locals_self]
  · rintro ⟨jobs, hjobs, -⟩
    rw [hlisted] at hjobs
    cases hjobs
  · have hholds := expiryOutline_valid.run_within (expiryOutline_init 0) hlocal hrun
    intro hcan
    have hgone : FileGone (c.put 0 c.shared { c.locals 0 with task := .idle }) completedJob := by
      refine ⟨by simp [hjobs], ?_, demoFile, rfl, by simp [hfiles]⟩
      rw [c.put_shared, hnow]
      decide
    obtain ⟨w, job, hw, -⟩ := (canExpire_iff hholds).mp hcan _ hgone
    rcases Nat.eq_zero_or_pos w with rfl | hpos
    · rw [c.put_locals_self] at hw
      cases hw
    · rw [others_idle hrun (by decide +kernel) hpos] at hw
      cases hw

end OmniSupport.Report
