import OmniSupport.Scheduling.Occurrences

/-! Which due minutes a scheduler covers: a job is run for a minute if and only if the timer fires
in that minute while no tick is in flight, and the tick comes to the job. -/
namespace OmniSupport.Scheduling
open Foundation

namespace SchedulerTask

/-- The minute of the tick in flight. -/
def minute : SchedulerTask → Option Nat
  | .idle => none
  | .acquiring minute _ _ | .handling minute _ _ _ => some minute

/-- The jobs that the tick in flight has not come to. -/
def rest : SchedulerTask → List CronJobDefinition
  | .idle => []
  | .acquiring _ _ rest | .handling _ _ rest _ => rest

/-- The job and the minute for which `runJob` is called. -/
def called (before after : SchedulerTask) : Option (String × Nat) :=
  match after with
  | .acquiring minute job _ => if before = after then none else some (job.name, minute)
  | _ => none

end SchedulerTask

/-- The call of `runJob` that process `w` makes in this step. -/
def calledBy (w : Nat) (step : Machine.Step SchedulerPool SchedulerLabel) : Option (String × Nat) :=
  match step.label with
  | .act v _ => if v = w then (step.before.locals w).task.called (step.after.locals w).task else none
  | .env _ => none

/-- The minute in which the timer of process `w` fires, or its first tick begins, while no tick is
in flight. -/
def ticksBy (w : Nat) (step : Machine.Step SchedulerPool SchedulerLabel) : Option Nat :=
  match step.label with
  | .act v .fire =>
    if v = w ∧ (step.before.locals w).task = .idle then some (step.before.shared.now / 60000)
    else none
  | .act v .start =>
    if v = w ∧ (step.before.locals w).task = .idle ∧ (step.before.locals w).running = false then
      some (step.before.shared.now / 60000)
    else none
  | _ => none

/-- The tick in flight is one of the minute and has not come to the job. -/
def Waiting (minute : Nat) (job : CronJobDefinition) (process : SchedulerProcess) : Prop :=
  process.task.minute = some minute ∧ job ∈ process.task.rest ∧
    process.lastRunMinute job.name ≠ some minute

instance (minute : Nat) (job : CronJobDefinition) (process : SchedulerProcess) :
    Decidable (Waiting minute job process) :=
  inferInstanceAs (Decidable (_ ∧ _ ∧ _))

/-- The timer of process `w` fires at least once in every `period`, the last time `gap` ago. -/
def FiresEvery (w period : Nat) : Nat → List SchedulerLabel → Prop
  | _, [] => True
  | gap, .env (.tick ms) :: rest => gap + ms ≤ period ∧ FiresEvery w period (gap + ms) rest
  | gap, .act v step :: rest =>
    FiresEvery w period (if v = w ∧ step = .fire then 0 else gap) rest

/-- What a step of a process does to its tick. -/
inductive TickStep (registry : CronRegistry) (now : Time) (process process' : SchedulerProcess) :
    SchedulerStep → Prop where
  | keeps (step) (htask : process'.task = process.task)
      (hlast : process'.lastRunMinute = process.lastRunMinute)
      (hidle : (step = .fire ∨ step = .start ∧ process.running = false) → process.task = .idle →
        registry.getDueJobs now = none) : TickStep registry now process process' step
  | handles (value minute job rest) (htask : process.task = .acquiring minute job rest)
      (htask' : process'.task = .handling minute job rest value)
      (hlast : process'.lastRunMinute = process.lastRunMinute) :
      TickStep registry now process process' (.acquire value)
  | next (step minute) (hminute : process.task.minute = some minute)
      (htask : process'.task = (process.runNext minute process.task.rest).task)
      (hlast : process'.lastRunMinute = (process.runNext minute process.task.rest).lastRunMinute) :
      TickStep registry now process process' step
  | ticks (step due) (hidle : process.task = .idle) (hdue : registry.getDueJobs now = some due)
      (hstep : step = .fire ∧ process.running = true ∨ step = .start ∧ process.running = false)
      (htask : process'.task = (process.runNext (now / 60000) due).task)
      (hlast : process'.lastRunMinute = (process.runNext (now / 60000) due).lastRunMinute) :
      TickStep registry now process process' step
  | crash (h : process' = SchedulerService.fresh) : TickStep registry now process process' .crash

namespace SchedulerProcess
variable {process : SchedulerProcess} {minute : Nat} {due : List CronJobDefinition}
  {job : CronJobDefinition}

theorem runNext_running (process : SchedulerProcess) (running : Bool) (minute : Nat)
    (due : List CronJobDefinition) :
    ({ process with running := running }.runNext minute due) =
      { process.runNext minute due with running := running } := by
  induction due with
  | nil => rfl
  | cons job rest ih =>
    simp only [runNext]
    split
    · exact ih
    · rfl

/-- A tick goes on to a job and remembers the minute for it, or is over. -/
theorem runNext_cases (process : SchedulerProcess) (minute : Nat) (due : List CronJobDefinition) :
    ((process.runNext minute due).task = .idle ∧
      (process.runNext minute due).lastRunMinute = process.lastRunMinute) ∨
    ∃ job rest, (process.runNext minute due).task = .acquiring minute job rest ∧
      (job :: rest).Sublist due ∧ (process.runNext minute due).lastRunMinute =
        Function.update process.lastRunMinute job.name (some minute) := by
  induction due with
  | nil => exact .inl ⟨rfl, rfl⟩
  | cons job rest ih =>
    simp only [runNext]
    split
    · rcases ih with hidle | ⟨next, later, htask, hsub, hlast⟩
      · exact .inl hidle
      · exact .inr ⟨next, later, htask, hsub.cons job, hlast⟩
    · exact .inr ⟨job, rest, rfl, List.Sublist.refl _, rfl⟩

theorem runNext_minute {m : Nat} (h : (process.runNext minute due).task.minute = some m) :
    m = minute := by
  rcases process.runNext_cases minute due with ⟨hidle, -⟩ | ⟨next, later, htask, -, -⟩
  · rw [hidle] at h
    cases h
  · rw [htask] at h
    cases h
    rfl

/-- A job that did not run in this minute is run next, or the tick is still to come to it. -/
theorem runNext_reaches (hnames : (due.map CronJobDefinition.name).Nodup) (hjob : job ∈ due)
    (hlast : process.lastRunMinute job.name ≠ some minute) :
    (∃ rest, (process.runNext minute due).task = .acquiring minute job rest ∧
      (job :: rest).Sublist due) ∨ Waiting minute job (process.runNext minute due) := by
  induction due with
  | nil => cases hjob
  | cons first rest ih =>
    obtain ⟨hfirst, hrest⟩ := List.nodup_cons.mp hnames
    simp only [runNext]
    split
    · rename_i hran
      rcases List.mem_cons.mp hjob with rfl | hlater
      · exact absurd hran hlast
      · exact (ih hrest hlater).imp_left fun ⟨later, htask, hsub⟩ => ⟨later, htask, hsub.cons first⟩
    · rcases List.mem_cons.mp hjob with rfl | hlater
      · exact .inl ⟨rest, rfl, List.Sublist.refl _⟩
      · have hne : job.name ≠ first.name := fun he =>
          hfirst (List.mem_map.mpr ⟨job, hlater, he⟩)
        refine .inr ⟨rfl, hlater, ?_⟩
        simp only [Function.update_of_ne hne]
        exact hlast

end SchedulerProcess

namespace SchedulerService
variable {registry : CronRegistry} {s s' : SchedulerStore} {process process' : SchedulerProcess}
  {step : SchedulerStep} {w : Nat}

theorem tick_tickStep {running : Bool}
    (hstep : step = .fire ∧ process.running = true ∨ step = .start ∧ process.running = false)
    (date : Time) :
    TickStep registry date process ({ process with running := running }.tick registry date) step := by
  obtain ⟨running₀, last, task⟩ := process
  cases task with
  | idle =>
    unfold SchedulerProcess.tick SchedulerProcess.runDueJobs
    cases hdue : registry.getDueJobs date with
    | none => exact .keeps _ rfl rfl fun _ _ => hdue
    | some due =>
      have hsame := SchedulerProcess.runNext_running ⟨running₀, last, .idle⟩ running
        (date / 60000) due
      refine .ticks _ due rfl hdue hstep ?_ ?_
      · simp only
        rw [hsame]
      · simp only
        rw [hsame]
  | acquiring | handling => exact .keeps _ rfl rfl fun _ hidle => by cases hidle

theorem act_tickStep (h : act registry w s process step = some (s', process')) :
    TickStep registry s.now process process' step := by
  cases step with
  | start =>
    simp only [act] at h
    split at h <;> cases h
    · rename_i hrunning
      refine .keeps _ rfl rfl fun hstart _ => ?_
      rcases hstart with hfire | ⟨-, hstopped⟩
      · cases hfire
      · rw [hrunning] at hstopped
        cases hstopped
    · rename_i hstopped
      exact tick_tickStep (.inr ⟨rfl, Bool.not_eq_true _ ▸ hstopped⟩) s.now
  | fire =>
    simp only [act] at h
    split at h <;> cases h
    rename_i hrunning
    have htick : TickStep registry s.now process
        ({ process with running := process.running }.tick registry s.now) .fire :=
      tick_tickStep (.inl ⟨rfl, hrunning⟩) s.now
    exact htick
  | acquire value =>
    simp only [act, acquire] at h
    cases htask : process.task with
    | acquiring minute job rest =>
      rw [htask] at h
      simp only at h
      split at h
      · cases h
      split at h <;> cases h
      · exact .next _ minute (by rw [htask]; rfl) (by rw [htask]; rfl) (by rw [htask]; rfl)
      · exact .handles value minute job rest htask rfl rfl
    | idle | handling =>
      rw [htask] at h
      cases h
  | fails =>
    cases htask : process.task with
    | acquiring minute job rest =>
      simp only [act, htask] at h
      cases h
      exact .next _ minute (by rw [htask]; rfl) (by rw [htask]; rfl) (by rw [htask]; rfl)
    | idle | handling =>
      simp only [act, htask] at h
      cases h
  | renew =>
    cases htask : process.task with
    | handling minute job rest value =>
      simp only [act, htask] at h
      cases h
      exact .keeps _ rfl rfl fun hfire _ => by rcases hfire with he | ⟨he, -⟩ <;> cases he
    | idle | acquiring =>
      simp only [act, htask] at h
      cases h
  | finish =>
    cases htask : process.task with
    | handling minute job rest value =>
      simp only [act, htask] at h
      cases h
      exact .next _ minute (by rw [htask]; rfl) (by rw [htask]; rfl) (by rw [htask]; rfl)
    | idle | acquiring =>
      simp only [act, htask] at h
      cases h
  | stop =>
    cases h
    exact .keeps _ rfl rfl fun hfire _ => by rcases hfire with he | ⟨he, -⟩ <;> cases he
  | crash =>
    cases h
    exact .crash rfl

/-- The order of a tick: no job comes twice, and no minute before the one of the tick. -/
structure TickOrder (now : Time) (process : SchedulerProcess) : Prop where
  names : (process.task.jobs.map CronJobDefinition.name).Nodup
  begun : ∀ minute, process.task.minute = some minute → minute ≤ now / 60000
  last : ∀ name k, process.lastRunMinute name = some k →
    k ≤ process.task.minute.getD (now / 60000)

theorem TickOrder.rest_names {now : Time} (h : TickOrder now process) :
    (process.task.rest.map CronJobDefinition.name).Nodup := by
  have hnames := h.names
  cases htask : process.task with
  | idle => exact List.nodup_nil
  | acquiring | handling =>
    rw [htask] at hnames
    exact (List.nodup_cons.mp hnames).2

/-- A tick of a minute that none is after. -/
theorem runNext_order {now : Time} {minute : Nat} {due : List CronJobDefinition}
    (hnames : (due.map CronJobDefinition.name).Nodup) (hminute : minute ≤ now / 60000)
    (hlast : ∀ name k, process.lastRunMinute name = some k → k ≤ minute) :
    TickOrder now (process.runNext minute due) := by
  have hlast' : ∀ name k, (process.runNext minute due).lastRunMinute name = some k → k ≤ minute := by
    intro name k hk
    rcases process.runNext_cases minute due with ⟨-, hsame⟩ | ⟨job, rest, -, -, hupdate⟩
    · rw [hsame] at hk
      exact hlast name k hk
    · rw [hupdate] at hk
      by_cases hname : name = job.name
      · rw [hname, Function.update_self] at hk
        cases hk
        exact le_rfl
      · rw [Function.update_of_ne hname] at hk
        exact hlast name k hk
  rcases process.runNext_task minute due with hidle | ⟨job, rest, htask, hsub⟩
  · refine ⟨?_, ?_, ?_⟩
    · rw [hidle]
      exact List.nodup_nil
    · rw [hidle]
      exact fun _ h => by cases h
    · rw [hidle]
      exact fun name k hk => (hlast' name k hk).trans hminute
  · refine ⟨?_, ?_, ?_⟩
    · rw [htask]
      exact hnames.sublist (hsub.map _)
    · rw [htask]
      intro m hm
      cases hm
      exact hminute
    · rw [htask]
      exact hlast'

theorem TickOrder.of_eq {now : Time} (h : TickOrder now process)
    (htask : process'.task = process.task)
    (hlast : process'.lastRunMinute = process.lastRunMinute) : TickOrder now process' := by
  refine ⟨?_, ?_, ?_⟩
  · rw [htask]
    exact h.names
  · rw [htask]
    exact h.begun
  · rw [htask, hlast]
    exact h.last

theorem tickStep_order {now : Time} (h : TickOrder now process)
    (hs : TickStep registry now process process' step) : TickOrder now process' := by
  cases hs with
  | keeps _ htask hlast hidle => exact h.of_eq htask hlast
  | handles value minute job rest htask htask' hlast =>
    refine ⟨?_, ?_, ?_⟩
    · have hnames := h.names
      rw [htask] at hnames
      rw [htask']
      exact hnames
    · have hbegun := h.begun
      rw [htask] at hbegun
      rw [htask']
      exact hbegun
    · have hbefore := h.last
      rw [htask] at hbefore
      rw [htask', hlast]
      exact hbefore
  | next _ minute hminute htask hlast =>
    have hbefore : ∀ name k, process.lastRunMinute name = some k → k ≤ minute := by
      intro name k hk
      have hle := h.last name k hk
      rwa [hminute] at hle
    exact (runNext_order h.rest_names (h.begun minute hminute) hbefore).of_eq htask hlast
  | ticks _ due hidle hdue hstep htask hlast =>
    have hbefore : ∀ name k, process.lastRunMinute name = some k → k ≤ now / 60000 := by
      intro name k hk
      have hle := h.last name k hk
      rwa [hidle] at hle
    exact (runNext_order (CronRegistry.getDueJobs_names hdue) le_rfl hbefore).of_eq htask hlast
  | crash hfresh =>
    rw [hfresh]
    exact ⟨List.nodup_nil, fun _ h => (by cases h), fun _ _ h => by cases h⟩

theorem TickOrder.later {now now' : Time} (h : TickOrder now process) (hnow : now ≤ now') :
    TickOrder now' process := by
  have hminutes : now / 60000 ≤ now' / 60000 := Nat.div_le_div_right hnow
  refine ⟨h.names, fun m hm => (h.begun m hm).trans hminutes, fun name k hk => ?_⟩
  have hle := h.last name k hk
  cases hminute : process.task.minute with
  | none =>
    rw [hminute] at hle
    exact hle.trans hminutes
  | some m =>
    rw [hminute] at hle
    exact hle

section steps
variable {now : Time} {minute : Nat} {job : CronJobDefinition} {name : String}

/-- The call that a tick makes next is a new one. -/
theorem called_of_acquiring {task : SchedulerTask} {rest : List CronJobDefinition}
    (hsub : (job :: rest).Sublist task.rest ∨ task = .idle) :
    task.called (.acquiring minute job rest) = some (job.name, minute) := by
  have hne : task ≠ .acquiring minute job rest := by
    rintro rfl
    rcases hsub with hsub | hidle
    · have hlength := hsub.length_le
      simp only [SchedulerTask.rest, List.length_cons] at hlength
      omega
    · cases hidle
  simp only [SchedulerTask.called, hne, if_false]

/-- A waiting job waits on, until it is its turn. -/
theorem waiting_step (h : TickOrder now process)
    (hs : TickStep registry now process process' step) (hwaiting : Waiting minute job process) :
    Waiting minute job process' ∨
      process.task.called process'.task = some (job.name, minute) ∨ step = .crash := by
  obtain ⟨hminute, hjob, hlastRun⟩ := hwaiting
  cases hs with
  | keeps _ htask hlast hidle =>
    left
    unfold Waiting
    rw [htask, hlast]
    exact ⟨hminute, hjob, hlastRun⟩
  | handles value minute' job' rest htask htask' hlast =>
    left
    rw [htask] at hminute hjob
    unfold Waiting
    rw [htask', hlast]
    exact ⟨hminute, hjob, hlastRun⟩
  | next _ minute' hminute' htask hlast =>
    rw [hminute] at hminute'
    cases hminute'
    have hreaches := SchedulerProcess.runNext_reaches h.rest_names hjob hlastRun
    rcases hreaches with ⟨rest, hnext, hsub⟩ | hwaits
    · right
      left
      rw [htask, hnext]
      exact called_of_acquiring (.inl hsub)
    · left
      unfold Waiting at hwaits ⊢
      rw [htask, hlast]
      exact hwaits
  | ticks _ due hidle hdue hstep htask hlast =>
    rw [hidle] at hminute
    cases hminute
  | crash hfresh => exact .inr (.inr rfl)

/-- A minute is remembered only for a job that is called. -/
theorem last_step (hs : TickStep registry now process process' step)
    (hlastRun : process'.lastRunMinute name = some minute) :
    process.lastRunMinute name = some minute ∨
      process.task.called process'.task = some (name, minute) := by
  have hnext : ∀ m due, process'.task = (process.runNext m due).task →
      process'.lastRunMinute = (process.runNext m due).lastRunMinute →
      (due = process.task.rest ∨ process.task = .idle) →
      process.lastRunMinute name = some minute ∨
        process.task.called process'.task = some (name, minute) := by
    intro m due htask hlast hdue
    rw [hlast] at hlastRun
    rcases process.runNext_cases m due with ⟨-, hsame⟩ | ⟨job, rest, hnext, hsub, hupdate⟩
    · rw [hsame] at hlastRun
      exact .inl hlastRun
    · rw [hupdate] at hlastRun
      by_cases hname : name = job.name
      · rw [hname, Function.update_self] at hlastRun
        cases hlastRun
        right
        rw [htask, hnext, hname]
        refine called_of_acquiring (hdue.imp_left ?_)
        rintro rfl
        exact hsub
      · rw [Function.update_of_ne hname] at hlastRun
        exact .inl hlastRun
  cases hs with
  | keeps _ htask hlast hidle =>
    rw [hlast] at hlastRun
    exact .inl hlastRun
  | handles value minute' job' rest htask htask' hlast =>
    rw [hlast] at hlastRun
    exact .inl hlastRun
  | next _ m hm htask hlast => exact hnext m _ htask hlast (.inl rfl)
  | ticks _ due hidle hdue hstep htask hlast => exact hnext _ due htask hlast (.inr hidle)
  | crash hfresh =>
    rw [hfresh] at hlastRun
    cases hlastRun

/-- What has run in a minute or after it has done so ever since. -/
theorem past_step (h : TickOrder now process) (hs : TickStep registry now process process' step)
    (hpast : ∃ k, minute ≤ k ∧ process.lastRunMinute name = some k) :
    (∃ k, minute ≤ k ∧ process'.lastRunMinute name = some k) ∨ step = .crash := by
  obtain ⟨k, hle, hk⟩ := hpast
  have hnext : ∀ m due, process'.lastRunMinute = (process.runNext m due).lastRunMinute → k ≤ m →
      ∃ k, minute ≤ k ∧ process'.lastRunMinute name = some k := by
    intro m due hlast hkm
    rw [hlast]
    rcases process.runNext_cases m due with ⟨-, hsame⟩ | ⟨job, rest, -, -, hupdate⟩
    · rw [hsame]
      exact ⟨k, hle, hk⟩
    · rw [hupdate]
      by_cases hname : name = job.name
      · rw [hname, Function.update_self]
        exact ⟨m, hle.trans hkm, rfl⟩
      · rw [Function.update_of_ne hname]
        exact ⟨k, hle, hk⟩
  have hbefore := h.last name k hk
  cases hs with
  | keeps _ htask hlast hidle => exact .inl ⟨k, hle, hlast ▸ hk⟩
  | handles value minute' job' rest htask htask' hlast => exact .inl ⟨k, hle, hlast ▸ hk⟩
  | next _ m hm htask hlast =>
    rw [hm] at hbefore
    exact .inl (hnext m _ hlast hbefore)
  | ticks _ due hidle hdue hstep htask hlast =>
    rw [hidle] at hbefore
    exact .inl (hnext _ due hlast hbefore)
  | crash hfresh => exact .inr rfl

/-- A call is made in the minute of the tick, and the minute is remembered. -/
theorem called_step (hs : TickStep registry now process process' step)
    (hcalled : process.task.called process'.task = some (name, minute)) :
    process'.task.minute = some minute ∧ process'.lastRunMinute name = some minute := by
  have hnext : ∀ m due, process'.task = (process.runNext m due).task →
      process'.lastRunMinute = (process.runNext m due).lastRunMinute →
      process'.task.minute = some minute ∧ process'.lastRunMinute name = some minute := by
    intro m due htask hlast
    rcases process.runNext_cases m due with ⟨hidle, -⟩ | ⟨job, rest, hnext, -, hupdate⟩
    · rw [htask, hidle] at hcalled
      cases hcalled
    · rw [htask, hnext] at hcalled ⊢
      simp only [SchedulerTask.called] at hcalled
      split at hcalled
      · cases hcalled
      · cases hcalled
        refine ⟨rfl, ?_⟩
        rw [hlast, hupdate, Function.update_self]
  cases hs with
  | keeps _ htask hlast hidle =>
    rw [htask] at hcalled
    cases hsame : process.task with
    | acquiring => simp [hsame, SchedulerTask.called] at hcalled
    | idle | handling =>
      rw [hsame] at hcalled
      cases hcalled
  | handles value minute' job' rest htask htask' hlast =>
    rw [htask'] at hcalled
    cases hcalled
  | next _ m hm htask hlast => exact hnext m _ htask hlast
  | ticks _ due hidle hdue hstep htask hlast => exact hnext _ due htask hlast
  | crash hfresh =>
    rw [hfresh] at hcalled
    cases hcalled

/-- A tick keeps its minute, and begins in the current one. -/
theorem minute_step (hs : TickStep registry now process process' step)
    (hminute : process'.task.minute = some minute) :
    process.task.minute = some minute ∨
      process.task = .idle ∧ now / 60000 = minute ∧
        (step = .fire ∨ step = .start ∧ process.running = false) := by
  cases hs with
  | keeps _ htask hlast hidle => exact .inl (htask ▸ hminute)
  | handles value minute' job' rest htask htask' hlast =>
    rw [htask'] at hminute
    rw [htask]
    exact .inl hminute
  | next _ m hm htask hlast =>
    rw [htask] at hminute
    rw [SchedulerProcess.runNext_minute hminute]
    exact .inl hm
  | ticks _ due hidle hdue hstep htask hlast =>
    rw [htask] at hminute
    exact .inr ⟨hidle, (SchedulerProcess.runNext_minute hminute).symm, hstep.imp_left And.left⟩
  | crash hfresh =>
    rw [hfresh] at hminute
    cases hminute

end steps

theorem act_now (h : act registry w s process step = some (s', process')) : s'.now = s.now := by
  cases step with
  | start =>
    simp only [act] at h
    split at h <;> cases h <;> rfl
  | fire =>
    simp only [act] at h
    split at h <;> cases h
    rfl
  | acquire value =>
    simp only [act, acquire] at h
    split at h
    · split at h
      · cases h
      split at h <;> cases h <;> rfl
    · cases h
  | fails | finish =>
    simp only [act] at h
    split at h <;> cases h
    rfl
  | renew =>
    simp only [act] at h
    split at h <;> cases h
    unfold SchedulerStore.extend
    split <;> rfl
  | stop | crash =>
    cases h
    rfl

section run
variable {c c' : SchedulerPool} {i : SchedulerLabel} {minute : Nat} {job : CronJobDefinition}

/-- A step of the pool is one of the process, or leaves it what it was. -/
theorem step_tickStep (w : Nat) (hs : (machine registry).step c i = some c') :
    c'.locals w = c.locals w ∨ ∃ step, i = .act w step ∧
      TickStep registry c.shared.now (c.locals w) (c'.locals w) step := by
  cases i with
  | act v step =>
    obtain ⟨s', process', ha, rfl⟩ := (program registry).step_act.mp hs
    by_cases hv : w = v
    · rw [hv, c.put_locals_self]
      exact .inr ⟨step, rfl, act_tickStep (w := v) ha⟩
    · exact .inl (c.put_locals_of_ne _ _ hv)
  | env m =>
    obtain ⟨s', hm, rfl⟩ := (program registry).step_env.mp hs
    exact .inl rfl

theorem step_now (hs : (machine registry).step c i = some c') : c.shared.now ≤ c'.shared.now := by
  cases i with
  | act v step =>
    obtain ⟨s', process', ha, rfl⟩ := (program registry).step_act.mp hs
    exact (act_now (w := v) ha).ge
  | env m =>
    obtain ⟨s', hm, rfl⟩ := (program registry).step_env.mp hs
    cases m with
    | tick ms =>
      cases hm
      exact Nat.le_add_right _ _

/-- The order of the ticks of process `w`. -/
def Ordered (w : Nat) (c : SchedulerPool) : Prop := TickOrder c.shared.now (c.locals w)

theorem ordered_step (h : Ordered w c) (hs : (machine registry).step c i = some c') :
    Ordered w c' := by
  refine TickOrder.later ?_ (step_now hs)
  rcases step_tickStep w hs with hsame | ⟨step, -, htick⟩
  · exact h.of_eq (by rw [hsame]) (by rw [hsame])
  · exact tickStep_order h htick

theorem ordered_init (now : Time) : Ordered w (init now) :=
  ⟨List.nodup_nil, fun _ h => (by cases h), fun _ _ h => by cases h⟩

/-- A due minute in which the timer fires while no tick is in flight: the job has run in it, or is
called by the tick that begins, or that tick is still to come to it. -/
theorem ticksBy_step (hdue : registry.DueIn minute job)
    (hs : (machine registry).step c i = some c') (hticks : ticksBy w ⟨c, i, c'⟩ = some minute) :
    (c.locals w).lastRunMinute job.name = some minute ∨
      calledBy w ⟨c, i, c'⟩ = some (job.name, minute) ∨ Waiting minute job (c'.locals w) := by
  have hlabel : ∃ step, i = .act w step ∧ (c.locals w).task = .idle ∧
      c.shared.now / 60000 = minute ∧
      (step = .fire ∨ step = .start ∧ (c.locals w).running = false) := by
    unfold ticksBy at hticks
    split at hticks
    · rename_i v hi
      split at hticks
      · rename_i hidle
        cases hticks
        exact ⟨.fire, hidle.1 ▸ hi, hidle.2, rfl, .inl rfl⟩
      · cases hticks
    · rename_i v hi
      split at hticks
      · rename_i hidle
        cases hticks
        exact ⟨.start, hidle.1 ▸ hi, hidle.2.1, rfl, .inr ⟨rfl, hidle.2.2⟩⟩
      · cases hticks
    · cases hticks
  obtain ⟨step, rfl, hidle, hnow, hbegins⟩ := hlabel
  obtain ⟨s', process', ha, rfl⟩ := (program registry).step_act.mp hs
  rw [c.put_locals_self]
  obtain ⟨due, hgot, hjob⟩ := hdue
  rw [← hnow, ← CronRegistry.getDueJobs_minute] at hgot
  by_cases hlast : (c.locals w).lastRunMinute job.name = some minute
  · exact .inl hlast
  right
  cases act_tickStep (w := w) ha with
  | keeps _ htask hlast' hidle' =>
    rw [hidle' hbegins hidle] at hgot
    cases hgot
  | handles value minute' job' rest htask htask' hlast' =>
    rw [hidle] at htask
    cases htask
  | next _ m hm htask hlast' =>
    rw [hidle] at hm
    cases hm
  | ticks _ due' hidle' hdue' hstep htask hlast' =>
    rw [hgot] at hdue'
    cases hdue'
    have hreaches := SchedulerProcess.runNext_reaches (CronRegistry.getDueJobs_names hgot) hjob hlast
    rw [← hnow] at hreaches ⊢
    rcases hreaches with ⟨rest, hnext, -⟩ | hwaits
    · left
      simp only [calledBy, if_true, c.put_locals_self]
      rw [htask, hnext, hidle]
      exact called_of_acquiring (.inr rfl)
    · right
      unfold Waiting at hwaits ⊢
      rw [htask, hlast']
      exact hwaits
  | crash hfresh => rcases hbegins with he | ⟨he, -⟩ <;> cases he

theorem calledBy_step (hs : (machine registry).step c i = some c') {name : String}
    (hcalled : calledBy w ⟨c, i, c'⟩ = some (name, minute)) :
    ((c'.locals w).task.minute = some minute ∧ (c'.locals w).lastRunMinute name = some minute) := by
  cases i with
  | env m => cases hcalled
  | act v step =>
    simp only [calledBy] at hcalled
    split at hcalled
    · rename_i hv
      subst hv
      obtain ⟨s', process', ha, rfl⟩ := (program registry).step_act.mp hs
      rw [c.put_locals_self] at hcalled ⊢
      exact called_step (act_tickStep (w := v) ha) hcalled
    · cases hcalled

/-- A tick in flight began in its minute. -/
theorem exists_tick {now : Time} {moves : List SchedulerLabel}
    (hrun : (machine registry).run (init now) moves = some c)
    (hminute : (c.locals w).task.minute = some minute) :
    ∃ step ∈ (machine registry).history (init now) moves, ticksBy w step = some minute := by
  have hsource := (machine registry).history_source
    (Q := fun c => (c.locals w).task.minute = some minute)
    (P := fun step => ticksBy w step = some minute) (fun c i c' _ hs hafter => ?_)
    ((machine registry).within_true _ _) hrun hminute
  · rcases hsource with hfirst | htick
    · cases hfirst
    · exact htick
  · rcases step_tickStep w hs with hsame | ⟨step, rfl, htick⟩
    · exact .inl (hsame ▸ hafter)
    · rcases minute_step htick hafter with hbefore | ⟨hidle, hnow, hbegins⟩
      · exact .inl hbefore
      · right
        rcases hbegins with rfl | ⟨rfl, hstopped⟩
        · simp only [ticksBy, hidle, and_self, if_true, hnow]
        · simp only [ticksBy, hidle, hstopped, and_self, if_true, hnow]

/-- A minute is remembered for a job only when the job was called in it. -/
theorem exists_call_of_last {now : Time} {moves : List SchedulerLabel} {name : String}
    (hrun : (machine registry).run (init now) moves = some c)
    (hlast : (c.locals w).lastRunMinute name = some minute) :
    ∃ step ∈ (machine registry).history (init now) moves,
      calledBy w step = some (name, minute) := by
  have hsource := (machine registry).history_source
    (Q := fun c => (c.locals w).lastRunMinute name = some minute)
    (P := fun step => calledBy w step = some (name, minute)) (fun c i c' _ hs hafter => ?_)
    ((machine registry).within_true _ _) hrun hlast
  · rcases hsource with hfirst | hcall
    · cases hfirst
    · exact hcall
  · rcases step_tickStep w hs with hsame | ⟨step, rfl, htick⟩
    · exact .inl (hsame ▸ hafter)
    · refine (last_step htick hafter).imp_right fun hcalled => ?_
      simp only [calledBy, if_true]
      exact hcalled

section uncrashed
variable {moves : List SchedulerLabel} (h : Ordered w c) (hcrash : .act w .crash ∉ moves)
include h hcrash

theorem within_uncrashed :
    (machine registry).Within (fun c i => Ordered w c ∧ i ≠ .act w .crash) c moves := by
  have hlabels := (machine registry).within_of_labels (D := fun i => i ≠ .act w .crash) (s := c)
    fun i hi he => hcrash (he ▸ hi)
  exact Machine.Within.of_invariant _ hlabels h (fun _ _ => trivial)
    (fun _ _ _ h _ hs => ordered_step h hs) fun _ _ h hc => ⟨h, hc⟩

variable (hrun : (machine registry).run c moves = some c')
include hrun

/-- What has run in a minute never waits for it again. -/
theorem not_waiting_of_last (hlast : (c.locals w).lastRunMinute job.name = some minute) :
    ¬ Waiting minute job (c'.locals w) := by
  have hpast := (machine registry).run_preserves_within
    (P := fun c => Ordered w c ∧ ∃ k, minute ≤ k ∧ (c.locals w).lastRunMinute job.name = some k)
    (fun c i c' h hc hs => ⟨ordered_step h.1 hs, ?_⟩) ⟨h, minute, le_rfl, hlast⟩
    (within_uncrashed h hcrash) hrun
  · rintro ⟨hagain, -, hnotRun⟩
    obtain ⟨hend, k, hle, hk⟩ := hpast
    have hbound := hend.last job.name k hk
    rw [hagain] at hbound
    have hsame : k = minute := Nat.le_antisymm hbound hle
    exact hnotRun (hsame ▸ hk)
  · rcases step_tickStep w hs with hsame | ⟨step, rfl, htick⟩
    · rw [hsame]
      exact h.2
    · rcases past_step h.1 htick h.2 with hkept | rfl
      · exact hkept
      · exact absurd rfl hc.2

/-- A job that no longer waits has been called. -/
theorem exists_call_of_waiting (hwaits : Waiting minute job (c.locals w))
    (hend : ¬ Waiting minute job (c'.locals w)) :
    ∃ step ∈ (machine registry).history c moves, calledBy w step = some (job.name, minute) := by
  have hsource := (machine registry).history_source
    (Q := fun c => ¬ Waiting minute job (c.locals w))
    (P := fun step => calledBy w step = some (job.name, minute)) (fun c i c' hc hs hafter => ?_)
    (within_uncrashed h hcrash) hrun hend
  · rcases hsource with hfirst | hcall
    · exact absurd hwaits hfirst
    · exact hcall
  · by_cases hbefore : Waiting minute job (c.locals w)
    · right
      rcases step_tickStep w hs with hsame | ⟨step, rfl, htick⟩
      · exact absurd (hsame ▸ hbefore) hafter
      · rcases waiting_step hc.1 htick hbefore with hstill | hcalled | rfl
        · exact absurd hstill hafter
        · simp only [calledBy, if_true]
          exact hcalled
        · exact absurd rfl hc.2
    · exact .inl hbefore

end uncrashed
end run

/-- For a job and a minute it is due in, `runJob` is called if and only if the timer fires, or the
scheduler starts, in that minute with no tick in flight, and the tick comes to the job. -/
theorem minute_covered {now : Time} {moves : List SchedulerLabel} {c : SchedulerPool} {minute : Nat}
    {job : CronJobDefinition} (hcrash : .act w .crash ∉ moves)
    (hrun : (machine registry).run (init now) moves = some c) (hdue : registry.DueIn minute job) :
    (∃ step ∈ (machine registry).history (init now) moves,
      calledBy w step = some (job.name, minute)) ↔
    (∃ step ∈ (machine registry).history (init now) moves, ticksBy w step = some minute) ∧
      ¬ Waiting minute job (c.locals w) := by
  have hordered : ∀ {js c₁}, (machine registry).run (init now) js = some c₁ → Ordered w c₁ :=
    fun hjs => (machine registry).run_preserves (fun _ _ _ => ordered_step) (ordered_init now) hjs
  constructor
  · rintro ⟨⟨c₁, i, c₂⟩, hmem, hcalled⟩
    obtain ⟨js, ks, rfl, hjs, hstep, hks⟩ := (machine registry).split_of_mem_history hrun hmem
    obtain ⟨hminute, hlast⟩ := calledBy_step hstep hcalled
    have hcall := (machine registry).run_snoc.mpr ⟨c₁, hjs, hstep⟩
    have hall : (machine registry).history (init now) (js ++ [i] ++ ks) = _ :=
      (machine registry).history_append hcall
    rw [List.append_assoc, List.singleton_append] at hall
    constructor
    · obtain ⟨step, hbefore, htick⟩ := exists_tick hcall hminute
      exact ⟨step, hall ▸ List.mem_append_left _ hbefore, htick⟩
    · have hlater : .act w .crash ∉ ks := fun hmem => hcrash (by simp [hmem])
      exact not_waiting_of_last (hordered hcall) hlater hks hlast
  · rintro ⟨⟨⟨c₁, i, c₂⟩, hmem, hticks⟩, hend⟩
    obtain ⟨js, ks, rfl, hjs, hstep, hks⟩ := (machine registry).split_of_mem_history hrun hmem
    have hall : (machine registry).history (init now) (js ++ i :: ks) = _ :=
      (machine registry).history_append hjs
    rw [(machine registry).history_cons hstep] at hall
    rw [hall]
    rcases ticksBy_step hdue hstep hticks with hlast | hcalled | hwaits
    · obtain ⟨step, hbefore, hcalled⟩ := exists_call_of_last hjs hlast
      exact ⟨step, List.mem_append_left _ hbefore, hcalled⟩
    · exact ⟨_, List.mem_append_right _ List.mem_cons_self, hcalled⟩
    · have hbegun := hordered ((machine registry).run_snoc.mpr ⟨c₁, hjs, hstep⟩)
      have hlater : .act w .crash ∉ ks := fun hmem => hcrash (by simp [hmem])
      obtain ⟨step, hafter, hcalled⟩ := exists_call_of_waiting hbegun hlater hks hwaits hend
      exact ⟨step, List.mem_append_right _ (List.mem_cons_of_mem _ hafter), hcalled⟩

section demo

def backup : CronJobDefinition := ⟨"backup", "1 * * * *", none⟩

def digest : CronJobDefinition := ⟨"digest", "2 * * * *", none⟩

def hourlyRegistry : CronRegistry := ⟨[backup, digest], by decide⟩

def wait (ms : Nat) : SchedulerLabel := .env (.tick ms)

/-- The scheduler up to the first minute, in which the backup begins. -/
def upToBackup : List SchedulerLabel :=
  [.act 0 .start, wait 30000, .act 0 .fire, wait 30000] ++ acts 0 [.fire, .acquire 1]

/-- The backup is done within its minute. -/
def shortBackup : List SchedulerLabel :=
  upToBackup ++ [wait 20000, .act 0 .finish, wait 10000, .act 0 .fire, wait 30000] ++
    acts 0 [.fire, .acquire 2, .finish] ++ [wait 30000, .act 0 .fire, wait 30000, .act 0 .fire]

theorem minute_covered_short : ∃ step ∈ (machine hourlyRegistry).history (init 0) shortBackup,
    calledBy 0 step = some ("digest", 2) := by
  have hsome : ((machine hourlyRegistry).run (init 0) shortBackup).any
      (fun c => ¬ Waiting 2 digest (c.locals 0)) = true := by decide +kernel
  obtain ⟨c, hrun, hend⟩ := (Option.any_eq_true _ _).mp hsome
  have htick : ∃ step ∈ (machine hourlyRegistry).history (init 0) shortBackup,
      ticksBy 0 step = some 2 := by decide +kernel
  have hdue : hourlyRegistry.DueIn 2 digest := ⟨[digest], by decide +kernel, by decide⟩
  exact (minute_covered (by decide) hrun hdue).mpr ⟨htick, of_decide_eq_true hend⟩

/-- The backup lasts until the third minute. -/
def longBackup : List SchedulerLabel :=
  upToBackup ++ [wait 30000, .act 0 .fire, wait 10000, .act 0 .renew, wait 20000, .act 0 .fire,
    wait 20000, .act 0 .renew, wait 10000, .act 0 .fire, wait 30000] ++
    acts 0 [.renew, .finish, .fire] ++ [wait 30000, .act 0 .fire]

/-- The timer fires every 30 s, from before the second minute to after it, and the digest is not
run in that minute. -/
theorem minute_skipped : FiresEvery 0 30000 0 longBackup ∧ hourlyRegistry.DueIn 2 digest ∧
    .act 0 .crash ∉ longBackup ∧ .act 0 .stop ∉ longBackup ∧
    ((machine hourlyRegistry).run (init 0) longBackup).any
      (fun c => 180000 < c.shared.now ∧ (c.locals 0).task = .idle) ∧
    ∀ step ∈ (machine hourlyRegistry).history (init 0) longBackup,
      calledBy 0 step ≠ some ("digest", 2) := by
  refine ⟨?_, ⟨[digest], ?_, ?_⟩, ?_, ?_, ?_, ?_⟩
  · simp [FiresEvery, longBackup, upToBackup, wait, acts]
  · decide +kernel
  · decide
  · decide
  · decide
  · decide +kernel
  · decide +kernel

end demo
end SchedulerService
end OmniSupport.Scheduling
