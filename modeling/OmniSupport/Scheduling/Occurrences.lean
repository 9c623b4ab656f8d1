import OmniSupport.Foundation.History
import OmniSupport.Scheduling.SchedulerService

/-! When a scheduled occurrence runs at most once in the cluster: while no process asks for the
lock of an occurrence that has run after that lock has expired. -/
namespace OmniSupport.Scheduling
open Foundation

abbrev SchedulerPool := Pool SchedulerStore SchedulerProcess

abbrev SchedulerLabel := Move SchedulerStep SchedulerMove

namespace SchedulerTask

/-- The jobs of the tick in flight that are not done. -/
def jobs : SchedulerTask → List CronJobDefinition
  | .idle => []
  | .acquiring _ job rest | .handling _ job rest _ => job :: rest

/-- The occurrence that a handler begins: its lock was asked for before, and it runs after. -/
def started : SchedulerTask → SchedulerTask → Option (String × Nat)
  | .acquiring minute job _, .handling .. => some (job.name, minute)
  | _, _ => none

end SchedulerTask

/-- The occurrence whose handler the step starts. -/
def startedBy (step : Machine.Step SchedulerPool SchedulerLabel) : Option (String × Nat) :=
  match step.label with
  | .act w (.acquire _) => (step.before.locals w).task.started (step.after.locals w).task
  | _ => none

/-- If the occurrence that the process asks for was started, then less than the lifetime of its
lock ago, or of the last extension of the lock. -/
def SchedulerTask.InTime (s : SchedulerStore) : SchedulerTask → Prop
  | .acquiring minute job _ => ∀ run ∈ s.runs, run.job.name = job.name → run.minute = minute →
      s.now < run.extendedAt + lockTtlMs
  | _ => True

instance (s : SchedulerStore) : ∀ task : SchedulerTask, Decidable (task.InTime s)
  | .acquiring minute job _ => inferInstanceAs (Decidable (∀ run ∈ s.runs,
      run.job.name = job.name → run.minute = minute → s.now < run.extendedAt + lockTtlMs))
  | .idle | .handling .. => isTrue trivial

def AsksInTime (c : SchedulerPool) : SchedulerLabel → Prop
  | .act w (.acquire _) => (c.locals w).task.InTime c.shared
  | _ => True

instance (c : SchedulerPool) : DecidablePred (AsksInTime c)
  | .act w (.acquire _) => inferInstanceAs (Decidable ((c.locals w).task.InTime c.shared))
  | .act _ .start | .act _ .fire | .act _ .fails | .act _ .renew | .act _ .finish | .act _ .stop
  | .act _ .crash | .env _ => isTrue trivial

/-- Each handler that was started has its lock, until it expires. -/
structure LocksKept (registry : CronRegistry) (s : SchedulerStore) : Prop where
  bounded : ∀ lock ∈ s.locks, lock.expiresAt ≤ s.now + lockTtlMs
  jobs : ∀ run ∈ s.runs, run.job ∈ registry.jobs
  values : ∀ run ∈ s.runs, run.value ∈ s.values
  locked : ∀ run ∈ s.runs, ∃ lock ∈ s.locks, lock.key = run.job.occurrenceKey run.minute ∧
    run.extendedAt + lockTtlMs ≤ lock.expiresAt

/-- What a process knows of its tick. -/
structure TickKept (registry : CronRegistry) (task : SchedulerTask) (s : SchedulerStore) : Prop where
  jobs : ∀ job ∈ task.jobs, job ∈ registry.jobs
  handled : ∀ minute job rest value, task = .handling minute job rest value → value ∈ s.values ∧
    ∀ run ∈ s.runs, run.value = value → run.job = job ∧ run.minute = minute

namespace SchedulerProcess
variable {process : SchedulerProcess} {minute : Nat} {due : List CronJobDefinition}

theorem runNext_task (process : SchedulerProcess) (minute : Nat) (due : List CronJobDefinition) :
    (process.runNext minute due).task = .idle ∨
      ∃ job rest, (process.runNext minute due).task = .acquiring minute job rest ∧
        (job :: rest).Sublist due := by
  induction due with
  | nil => exact .inl rfl
  | cons job rest ih =>
    unfold runNext
    split
    · rcases ih with hidle | ⟨next, later, htask, hsub⟩
      · exact .inl hidle
      · exact .inr ⟨next, later, htask, hsub.cons job⟩
    · exact .inr ⟨job, rest, rfl, List.Sublist.refl _⟩

end SchedulerProcess

theorem TickKept.runNext {registry : CronRegistry} {s : SchedulerStore}
    (process : SchedulerProcess) (minute : Nat) {due : List CronJobDefinition}
    (hdue : ∀ job ∈ due, job ∈ registry.jobs) :
    TickKept registry (process.runNext minute due).task s := by
  rcases process.runNext_task minute due with hidle | ⟨job, rest, htask, hsub⟩
  · rw [hidle]
    exact ⟨fun _ h => (by cases h), fun _ _ _ _ h => by cases h⟩
  · rw [htask]
    exact ⟨fun other hother => hdue other (hsub.subset hother), fun _ _ _ _ h => by cases h⟩

theorem TickKept.tick {registry : CronRegistry} {s : SchedulerStore} {process : SchedulerProcess}
    (h : TickKept registry process.task s) (date : Time) :
    TickKept registry (process.tick registry date).task s := by
  unfold SchedulerProcess.tick
  cases htask : process.task with
  | idle =>
    simp only [SchedulerProcess.runDueJobs]
    cases hdue : registry.getDueJobs date with
    | none => exact h
    | some due =>
      exact .runNext process _ fun job hjob => CronRegistry.mem_of_getDueJobs hdue hjob
  | acquiring | handling => exact h

/-- A step leaves each run what it was, but for the extension of its lock, and new runs have new
values. -/
structure RunsKept (s s' : SchedulerStore) : Prop where
  values : s.values ⊆ s'.values
  source : ∀ run' ∈ s'.runs, run'.value ∈ s.values →
    ∃ run ∈ s.runs, run.value = run'.value ∧ run.job = run'.job ∧ run.minute = run'.minute
  kept : ∀ run ∈ s.runs, ∃ run' ∈ s'.runs, run'.job = run.job ∧ run'.minute = run.minute

theorem RunsKept.same {s s' : SchedulerStore} (hvalues : s.values ⊆ s'.values)
    (hruns : s'.runs = s.runs) : RunsKept s s' := by
  refine ⟨hvalues, fun run hrun _ => ?_, fun run hrun => ?_⟩
  · exact ⟨run, hruns ▸ hrun, rfl, rfl, rfl⟩
  · exact ⟨run, hruns ▸ hrun, rfl, rfl⟩

theorem TickKept.later {registry : CronRegistry} {task : SchedulerTask} {s s' : SchedulerStore}
    (h : TickKept registry task s) (hruns : RunsKept s s') : TickKept registry task s' := by
  refine ⟨h.jobs, fun minute job rest value htask => ?_⟩
  obtain ⟨hvalue, hknown⟩ := h.handled minute job rest value htask
  refine ⟨hruns.values hvalue, fun run' hrun' hsame => ?_⟩
  obtain ⟨run, hrun, hv, hjob, hminute⟩ := hruns.source run' hrun' (hsame ▸ hvalue)
  rw [← hjob, ← hminute]
  exact hknown run hrun (hv.trans hsame)

namespace SchedulerStore
variable {registry : CronRegistry} {s : SchedulerStore} {key : String} {value minute : Nat}
  {job : CronJobDefinition}

theorem mem_setLock {lock : RedisLock} : lock ∈ s.setLock key value ↔
    lock = ⟨key, value, s.now + lockTtlMs⟩ ∨ (lock ∈ s.locks ∧ lock.key ≠ key) := by
  rw [setLock, List.mem_cons, List.mem_filter, decide_eq_true_eq]

/-- A lock that is set takes the place of those of its key. -/
theorem setLock_covers (hbounded : ∀ lock ∈ s.locks, lock.expiresAt ≤ s.now + lockTtlMs)
    {lock : RedisLock} (hlock : lock ∈ s.locks) :
    ∃ lock' ∈ s.setLock key value, lock'.key = lock.key ∧ lock.expiresAt ≤ lock'.expiresAt := by
  by_cases hkey : lock.key = key
  · exact ⟨_, mem_setLock.mpr (.inl rfl), hkey.symm, hbounded lock hlock⟩
  · exact ⟨lock, mem_setLock.mpr (.inr ⟨hlock, hkey⟩), rfl, le_rfl⟩

theorem locksKept_acquired (h : LocksKept registry s) (hjob : job ∈ registry.jobs) :
    LocksKept registry { s with
      locks := s.setLock (job.occurrenceKey minute) value
      values := value :: s.values
      runs := ⟨job, minute, value, s.now⟩ :: s.runs } := by
  refine ⟨fun lock hlock => ?_, fun run hrun => ?_, fun run hrun => ?_, fun run hrun => ?_⟩
  · rcases mem_setLock.mp hlock with rfl | ⟨hold, -⟩
    · exact le_rfl
    · exact h.bounded lock hold
  · rcases List.mem_cons.mp hrun with rfl | hold
    · exact hjob
    · exact h.jobs run hold
  · rcases List.mem_cons.mp hrun with rfl | hold
    · exact List.mem_cons_self
    · exact List.mem_cons_of_mem _ (h.values run hold)
  · rcases List.mem_cons.mp hrun with rfl | hold
    · exact ⟨_, mem_setLock.mpr (.inl rfl), rfl, le_rfl⟩
    · obtain ⟨lock, hlock, hkey, hle⟩ := h.locked run hold
      obtain ⟨lock', hlock', hkey', hle'⟩ := setLock_covers h.bounded hlock
      exact ⟨lock', hlock', hkey'.trans hkey, hle.trans hle'⟩

theorem runsKept_acquired (hfresh : value ∉ s.values) {locks : List RedisLock} :
    RunsKept s { s with
      locks := locks
      values := value :: s.values
      runs := ⟨job, minute, value, s.now⟩ :: s.runs } := by
  refine ⟨List.subset_cons_self _ _, fun run hrun hvalue => ?_, fun run hrun => ?_⟩
  · rcases List.mem_cons.mp hrun with rfl | hold
    · exact absurd hvalue hfresh
    · exact ⟨run, hold, rfl, rfl, rfl⟩
  · exact ⟨run, List.mem_cons_of_mem _ hrun, rfl, rfl⟩

theorem runsKept_extend (s : SchedulerStore) (key : String) (value : Nat) :
    RunsKept s (s.extend key value) := by
  unfold extend
  split
  · refine ⟨List.Subset.refl _, fun run' hrun' _ => ?_, fun run hrun => ?_⟩
    · rcases Table.mem_updateMany.mp hrun' with ⟨run, hrun, -, rfl⟩ | ⟨hrun, -⟩
      · exact ⟨run, hrun, rfl, rfl, rfl⟩
      · exact ⟨run', hrun, rfl, rfl, rfl⟩
    · by_cases hvalue : run.value = value
      · exact ⟨_, Table.mem_updateMany.mpr (.inl ⟨run, hrun, hvalue, rfl⟩), rfl, rfl⟩
      · exact ⟨run, Table.mem_updateMany.mpr (.inr ⟨hrun, hvalue⟩), rfl, rfl⟩
  · exact .same (List.Subset.refl _) rfl

/-- An extension covers the runs whose lock it extends. -/
theorem locksKept_extend (h : LocksKept registry s)
    (hown : ∀ run ∈ s.runs, run.value = value → run.job.occurrenceKey run.minute = key) :
    LocksKept registry (s.extend key value) := by
  unfold extend
  split
  · rename_i howned
    have hcovers : ∀ lock ∈ s.locks, ∃ lock' ∈ Table.updateMany (s.owns key value)
        (fun lock => { lock with expiresAt := s.now + lockTtlMs }) s.locks,
        lock'.key = lock.key ∧ lock.expiresAt ≤ lock'.expiresAt := by
      intro lock hlock
      by_cases howns : s.owns key value lock
      · exact ⟨_, Table.mem_updateMany.mpr (.inl ⟨lock, hlock, howns, rfl⟩), rfl, h.bounded lock hlock⟩
      · exact ⟨lock, Table.mem_updateMany.mpr (.inr ⟨hlock, howns⟩), rfl, le_rfl⟩
    refine ⟨fun lock hlock => ?_, fun run hrun => ?_, fun run hrun => ?_, fun run hrun => ?_⟩
    · rcases Table.mem_updateMany.mp hlock with ⟨_, -, -, rfl⟩ | ⟨hold, -⟩
      · exact le_rfl
      · exact h.bounded lock hold
    · rcases Table.mem_updateMany.mp hrun with ⟨run₀, hold, -, rfl⟩ | ⟨hold, -⟩
      · exact h.jobs run₀ hold
      · exact h.jobs run hold
    · rcases Table.mem_updateMany.mp hrun with ⟨run₀, hold, -, rfl⟩ | ⟨hold, -⟩
      · exact h.values run₀ hold
      · exact h.values run hold
    · rcases Table.mem_updateMany.mp hrun with ⟨run₀, hold, hvalue, rfl⟩ | ⟨hold, -⟩
      · obtain ⟨lock, hlock, howns⟩ := howned
        refine ⟨_, Table.mem_updateMany.mpr (.inl ⟨lock, hlock, howns, rfl⟩), ?_, le_rfl⟩
        exact howns.1.trans (hown run₀ hold hvalue).symm
      · obtain ⟨lock, hlock, hkey, hle⟩ := h.locked run hold
        obtain ⟨lock', hlock', hkey', hle'⟩ := hcovers lock hlock
        exact ⟨lock', hlock', hkey'.trans hkey, hle.trans hle'⟩
  · exact h

end SchedulerStore

namespace SchedulerService
variable {registry : CronRegistry} {s s' : SchedulerStore} {process process' : SchedulerProcess}
  {step : SchedulerStep} {w : Nat}

theorem locksKept_later (h : LocksKept registry s) (hlocks : s'.locks = s.locks)
    (hruns : s'.runs = s.runs) (hvalues : s.values ⊆ s'.values) (hnow : s.now ≤ s'.now) :
    LocksKept registry s' := by
  refine ⟨?_, ?_, ?_, ?_⟩
  · rw [hlocks]
    exact fun lock hlock => (h.bounded lock hlock).trans (Nat.add_le_add_right hnow _)
  · rw [hruns]
    exact h.jobs
  · rw [hruns]
    exact fun run hrun => hvalues (h.values run hrun)
  · rw [hruns, hlocks]
    exact h.locked

/-- What a step of a process keeps. -/
theorem act_kept (h : LocksKept registry s) (htick : TickKept registry process.task s)
    (hact : act registry w s process step = some (s', process')) :
    LocksKept registry s' ∧ RunsKept s s' ∧ TickKept registry process'.task s' := by
  have hsame : RunsKept s s := .same (List.Subset.refl _) rfl
  cases step with
  | start =>
    simp only [act] at hact
    split at hact <;> cases hact
    · exact ⟨h, hsame, htick⟩
    · have hstarted : TickKept registry { process with running := true }.task s := htick
      exact ⟨h, hsame, hstarted.tick _⟩
  | fire =>
    simp only [act] at hact
    split at hact <;> cases hact
    exact ⟨h, hsame, htick.tick _⟩
  | acquire value =>
    simp only [act, acquire] at hact
    cases htask : process.task with
    | acquiring minute job rest =>
      rw [htask] at hact htick
      have hjob := htick.jobs job List.mem_cons_self
      have hrest : ∀ other ∈ rest, other ∈ registry.jobs := fun other hother =>
        htick.jobs other (List.mem_cons_of_mem _ hother)
      simp only at hact
      split at hact
      · cases hact
      rename_i hfresh
      split at hact <;> cases hact
      · have hvalues : s.values ⊆ value :: s.values := List.subset_cons_self _ _
        exact ⟨locksKept_later h rfl rfl hvalues le_rfl, .same hvalues rfl, .runNext process _ hrest⟩
      · refine ⟨SchedulerStore.locksKept_acquired h hjob, SchedulerStore.runsKept_acquired hfresh,
          htick.jobs, fun minute' job' rest' value' he => ?_⟩
        cases he
        refine ⟨List.mem_cons_self, fun run hrun hvalue => ?_⟩
        rcases List.mem_cons.mp hrun with rfl | hold
        · exact ⟨rfl, rfl⟩
        · exact absurd (hvalue ▸ h.values run hold) hfresh
    | idle | handling =>
      rw [htask] at hact
      cases hact
  | fails =>
    cases htask : process.task with
    | acquiring minute job rest =>
      simp only [act, htask] at hact
      cases hact
      rw [htask] at htick
      exact ⟨h, hsame, .runNext process _ fun other hother =>
        htick.jobs other (List.mem_cons_of_mem _ hother)⟩
    | idle | handling =>
      simp only [act, htask] at hact
      cases hact
  | renew =>
    cases htask : process.task with
    | handling minute job rest value =>
      simp only [act, htask] at hact
      cases hact
      have hown : ∀ run ∈ s.runs, run.value = value →
          run.job.occurrenceKey run.minute = job.occurrenceKey minute := by
        intro run hrun hvalue
        obtain ⟨hjob, hminute⟩ := (htick.handled minute job rest value htask).2 run hrun hvalue
        rw [hjob, hminute]
      have hruns := SchedulerStore.runsKept_extend s (job.occurrenceKey minute) value
      exact ⟨SchedulerStore.locksKept_extend h hown, hruns, htick.later hruns⟩
    | idle | acquiring =>
      simp only [act, htask] at hact
      cases hact
  | finish =>
    cases htask : process.task with
    | handling minute job rest value =>
      simp only [act, htask] at hact
      cases hact
      rw [htask] at htick
      exact ⟨h, hsame, .runNext process _ fun other hother =>
        htick.jobs other (List.mem_cons_of_mem _ hother)⟩
    | idle | acquiring =>
      simp only [act, htask] at hact
      cases hact
  | stop =>
    cases hact
    exact ⟨h, hsame, htick⟩
  | crash =>
    cases hact
    exact ⟨h, hsame, fun _ hnone => (by cases hnone), fun _ _ _ _ hnone => by cases hnone⟩

def lockOutline (registry : CronRegistry) : Program.Outline SchedulerStore SchedulerProcess where
  inv := LocksKept registry
  own _ process s := TickKept registry process.task s
  pair _ _ := True

theorem lockOutline_valid (registry : CronRegistry) :
    (lockOutline registry).Valid (program registry) fun _ _ => True where
  symm _ _ _ := trivial
  act _ w _ _ _ h _ ha :=
    have hkept := act_kept (w := w) h.inv (h.own w) ha
    ⟨hkept.1, hkept.2.2⟩
  others _ w _ _ _ h _ ha q _ :=
    ⟨(h.own q).later (act_kept (w := w) h.inv (h.own w) ha).2.1, trivial⟩
  env c m s h _ hm := by
    cases m with
    | tick ms =>
      cases hm
      refine ⟨locksKept_later h.inv rfl rfl (List.Subset.refl _) (Nat.le_add_right _ _), ?_⟩
      exact fun q => (h.own q).later (.same (List.Subset.refl _) rfl)

theorem lockOutline_init (registry : CronRegistry) (now : Time) :
    (lockOutline registry).Holds (init now) := by
  refine ⟨⟨?_, ?_, ?_, ?_⟩, fun _ => ⟨?_, ?_⟩, fun _ _ _ => trivial⟩
  · exact fun _ h => by cases h
  · exact fun _ h => by cases h
  · exact fun _ h => by cases h
  · exact fun _ h => by cases h
  · exact fun _ h => by cases h
  · exact fun _ _ _ _ h => by cases h

theorem step_runs {c c' : SchedulerPool} {i : SchedulerLabel} (h : (lockOutline registry).Holds c)
    (hs : (machine registry).step c i = some c') : RunsKept c.shared c'.shared := by
  cases i with
  | act v step =>
    obtain ⟨s', process', ha, rfl⟩ := (program registry).step_act.mp hs
    exact (act_kept (w := v) h.inv (h.own v) ha).2.1
  | env m =>
    obtain ⟨s', hm, rfl⟩ := (program registry).step_env.mp hs
    cases m with
    | tick ms =>
      cases hm
      exact .same (List.Subset.refl _) rfl

/-- A handler starts with a run of its own, and under a lock that was free. -/
theorem startedBy_step {c c' : SchedulerPool} {i : SchedulerLabel} {name : String} {minute : Nat}
    (hs : (machine registry).step c i = some c')
    (hstarted : startedBy ⟨c, i, c'⟩ = some (name, minute)) :
    ∃ w value job rest, i = .act w (.acquire value) ∧ job.name = name ∧
      (c.locals w).task = .acquiring minute job rest ∧
      ¬ c.shared.held (job.occurrenceKey minute) ∧
      ∃ run ∈ c'.shared.runs, run.job = job ∧ run.minute = minute := by
  cases i with
  | env m => cases hstarted
  | act w step =>
    obtain ⟨s', process', ha, rfl⟩ := (program registry).step_act.mp hs
    cases step with
    | acquire value =>
      simp only [startedBy, c.put_locals_self] at hstarted
      have hacquire : acquire c.shared (c.locals w) value = some (s', process') := ha
      unfold acquire at hacquire
      cases htask : (c.locals w).task with
      | acquiring minute' job rest =>
        rw [htask] at hacquire hstarted
        simp only at hacquire
        split at hacquire
        · cases hacquire
        split at hacquire <;> cases hacquire
        · rcases (c.locals w).runNext_task minute' rest with hidle | ⟨next, later, hnext, -⟩
          · rw [hidle] at hstarted
            cases hstarted
          · rw [hnext] at hstarted
            cases hstarted
        · rename_i hfree
          cases hstarted
          exact ⟨w, value, job, rest, rfl, rfl, htask, hfree, _, List.mem_cons_self, rfl, rfl⟩
      | idle | handling =>
        rw [htask] at hacquire
        cases hacquire
    | _ => cases hstarted

/-- No other handler of the occurrence was started before. -/
theorem not_started_before {c c' : SchedulerPool} {i : SchedulerLabel} {name : String}
    {minute : Nat} (h : (lockOutline registry).Holds c) (hasks : AsksInTime c i)
    (hs : (machine registry).step c i = some c')
    (hstarted : startedBy ⟨c, i, c'⟩ = some (name, minute)) :
    ∀ run ∈ c.shared.runs, run.job.name = name → run.minute ≠ minute := by
  obtain ⟨w, value, job, rest, rfl, rfl, htask, hfree, -⟩ := startedBy_step hs hstarted
  rintro run hrun hname rfl
  have hjob : run.job = job :=
    CronRegistry.eq_of_name (h.inv.jobs run hrun)
      ((h.own w).jobs job (htask ▸ List.mem_cons_self)) hname
  have hlive : c.shared.now < run.extendedAt + lockTtlMs := by
    have hasked : (c.locals w).task.InTime c.shared := hasks
    rw [htask] at hasked
    exact hasked run hrun hname rfl
  obtain ⟨lock, hlock, hkey, hle⟩ := h.inv.locked run hrun
  exact hfree ⟨lock, hlock, hjob ▸ hkey, hlive.trans_le hle⟩

/-- While no process asks for the lock of an occurrence after its handler was started and the lock
has expired, no occurrence is started twice. -/
theorem occurrence_once {now : Time} {moves : List SchedulerLabel} {c : SchedulerPool}
    (hasks : (machine registry).Within AsksInTime (init now) moves)
    (hrun : (machine registry).run (init now) moves = some c) :
    (((machine registry).history (init now) moves).filterMap startedBy).Nodup := by
  rw [List.Nodup, List.pairwise_filterMap]
  refine (machine registry).history_pairwise_within (I := (lockOutline registry).Holds)
    (J := fun step c => ∀ name minute, startedBy step = some (name, minute) →
      ∃ run ∈ c.shared.runs, run.job.name = name ∧ run.minute = minute)
    (fun c i c' h _ hs => ⟨?_, fun name minute hstarted => ?_⟩)
    (fun earlier c i c' h hc hmark hs => ⟨?_, fun name minute hstarted => ?_⟩)
    (lockOutline_init registry now) hasks hrun
  · exact (lockOutline_valid registry).step c i c' h trivial hs
  · obtain ⟨w, value, job, rest, -, rfl, -, -, run, hrun, rfl, rfl⟩ := startedBy_step hs hstarted
    exact ⟨run, hrun, rfl, rfl⟩
  · rintro ⟨name, minute⟩ hearlier _ hlater rfl
    obtain ⟨run, hrun, hname, hminute⟩ := hmark name minute hearlier
    exact not_started_before h hc hs hlater run hrun hname hminute
  · obtain ⟨run, hrun, hname, hminute⟩ := hmark name minute hstarted
    obtain ⟨run', hrun', hjob, hminute'⟩ := (step_runs h hs).kept run hrun
    exact ⟨run', hrun', hjob ▸ hname, hminute'.trans hminute⟩

section demo

def demoRegistry : CronRegistry :=
  ⟨[⟨"rollup", "* * * * *", none⟩, ⟨"cleanup", "* * * * *", none⟩], by decide⟩

def acts (w : Nat) (steps : List SchedulerStep) : List SchedulerLabel :=
  steps.map fun step => .act w step

/-- Two processes tick in the same minute. One runs the first job, the other the second. -/
def sharedMinute : List SchedulerLabel :=
  .env (.tick 60000) :: acts 0 [.start, .acquire 1] ++
    acts 1 [.start, .acquire 2, .acquire 3, .finish]

theorem occurrence_once_shared :
    (((machine demoRegistry).history (init 0)
      (sharedMinute ++ acts 0 [.renew, .finish, .acquire 4])).filterMap startedBy).Nodup := by
  have hsome : ((machine demoRegistry).run (init 0)
      (sharedMinute ++ acts 0 [.renew, .finish, .acquire 4])).isSome = true := by decide +kernel
  obtain ⟨c, hrun⟩ := Option.isSome_iff_exists.mp hsome
  exact occurrence_once (by decide +kernel) hrun

/-- The first job takes longer than the lock of the second lives. -/
def slowJob : List SchedulerLabel :=
  sharedMinute ++ [.env (.tick 40000), .act 0 .renew, .env (.tick 40000), .act 0 .renew,
    .env (.tick 40000), .act 0 .renew, .env (.tick 10000)] ++ acts 0 [.finish, .acquire 4]

theorem occurrence_twice :
    (((machine demoRegistry).history (init 0) slowJob).filterMap startedBy).count ("cleanup", 1) =
      2 := by
  decide +kernel

end demo
end SchedulerService
end OmniSupport.Scheduling
