import OmniSupport.Foundation.Pool
import OmniSupport.Scheduling.CronRegistry

/-! Scheduler processes over one Redis: a tick runs the jobs due in its minute one after the
other, each under a lock for the job and the minute. -/
namespace OmniSupport.Scheduling
open Foundation

def lockTtlMs : Nat := 120000

/-- A key that expires. -/
structure RedisLock where
  key : String
  value : Nat
  expiresAt : Time
  deriving DecidableEq

/-- A handler that was started for a minute, and when its lock was last set or extended: no
statement reads it. -/
structure JobRun where
  job : CronJobDefinition
  minute : Nat
  value : Nat
  extendedAt : Time
  deriving DecidableEq

structure SchedulerStore where
  now : Time
  locks : List RedisLock
  values : List Nat
  runs : List JobRun

/-- Where the tick in flight stands, when there is one. -/
inductive SchedulerTask where
  | idle
  | acquiring (minute : Nat) (job : CronJobDefinition) (rest : List CronJobDefinition)
  | handling (minute : Nat) (job : CronJobDefinition) (rest : List CronJobDefinition) (value : Nat)
  deriving DecidableEq

structure SchedulerProcess where
  running : Bool
  lastRunMinute : String → Option Nat
  task : SchedulerTask

/-- `acquire` draws the value of the lock, and `fails` is a `set` that throws. -/
inductive SchedulerStep where
  | start
  | fire
  | acquire (value : Nat)
  | fails
  | renew
  | finish
  | stop
  | crash
  deriving DecidableEq

inductive SchedulerMove where
  | tick (ms : Nat)
  deriving DecidableEq

def CronJobDefinition.baseKey (job : CronJobDefinition) : String :=
  job.lockKey.getD ("scheduler:lock:" ++ job.name)

/-- The lock key includes the scheduled minute. -/
def CronJobDefinition.occurrenceKey (job : CronJobDefinition) (minute : Nat) : String :=
  job.baseKey ++ ":" ++ toString minute

namespace SchedulerStore

def held (s : SchedulerStore) (key : String) : Prop :=
  ∃ lock ∈ s.locks, lock.key = key ∧ s.now < lock.expiresAt

instance (s : SchedulerStore) (key : String) : Decidable (s.held key) :=
  inferInstanceAs (Decidable (∃ lock ∈ s.locks, _ ∧ _))

/-- `NX`, when no key is in the way, and `PX`. -/
def setLock (s : SchedulerStore) (key : String) (value : Nat) : List RedisLock :=
  ⟨key, value, s.now + lockTtlMs⟩ :: s.locks.filter fun lock => lock.key ≠ key

/-- The lock is still owned by this holder. -/
def owns (s : SchedulerStore) (key : String) (value : Nat) (lock : RedisLock) : Prop :=
  lock.key = key ∧ lock.value = value ∧ s.now < lock.expiresAt

instance (s : SchedulerStore) (key : String) (value : Nat) : DecidablePred (s.owns key value) :=
  fun _ => inferInstanceAs (Decidable (_ ∧ _))

/-- The script that extends the lock. -/
def extend (s : SchedulerStore) (key : String) (value : Nat) : SchedulerStore :=
  if ∃ lock ∈ s.locks, s.owns key value lock then
    { s with
      locks := Table.updateMany (s.owns key value)
        (fun lock => { lock with expiresAt := s.now + lockTtlMs }) s.locks
      runs := Table.updateMany (fun run => run.value = value)
        (fun run => { run with extendedAt := s.now }) s.runs }
  else s

end SchedulerStore

namespace SchedulerProcess

/-- On to the next of the due jobs that did not run in this minute. -/
def runNext (process : SchedulerProcess) (minute : Nat) :
    List CronJobDefinition → SchedulerProcess
  | [] => { process with task := .idle }
  | job :: rest =>
    if process.lastRunMinute job.name = some minute then process.runNext minute rest
    else { process with
      lastRunMinute := Function.update process.lastRunMinute job.name (some minute)
      task := .acquiring minute job rest }

def runDueJobs (process : SchedulerProcess) (registry : CronRegistry) (referenceDate : Time) :
    SchedulerProcess :=
  match registry.getDueJobs referenceDate with
  | some dueJobs => process.runNext (referenceDate / 60000) dueJobs
  | none => process

/-- Ticks never overlap inside one process. -/
def tick (process : SchedulerProcess) (registry : CronRegistry) (referenceDate : Time) :
    SchedulerProcess :=
  match process.task with
  | .idle => process.runDueJobs registry referenceDate
  | _ => process

end SchedulerProcess

namespace SchedulerService

def fresh : SchedulerProcess := ⟨false, fun _ => none, .idle⟩

/-- `runJob` up to its handler. -/
def acquire (s : SchedulerStore) (process : SchedulerProcess) (value : Nat) :
    Option (SchedulerStore × SchedulerProcess) :=
  match process.task with
  | .acquiring minute job rest =>
    if value ∈ s.values then none
    else if s.held (job.occurrenceKey minute) then
      some ({ s with values := value :: s.values }, process.runNext minute rest)
    else
      some ({ s with
        locks := s.setLock (job.occurrenceKey minute) value
        values := value :: s.values
        runs := ⟨job, minute, value, s.now⟩ :: s.runs },
        { process with task := .handling minute job rest value })
  | _ => none

def act (registry : CronRegistry) (_ : Nat) (s : SchedulerStore) (process : SchedulerProcess) :
    SchedulerStep → Option (SchedulerStore × SchedulerProcess)
  | .start =>
    if process.running then some (s, process)
    else some (s, { process with running := true }.tick registry s.now)
  | .fire => if process.running then some (s, process.tick registry s.now) else none
  | .acquire value => acquire s process value
  | .fails =>
    match process.task with
    | .acquiring minute _ rest => some (s, process.runNext minute rest)
    | _ => none
  | .renew =>
    match process.task with
    | .handling minute job _ value => some (s.extend (job.occurrenceKey minute) value, process)
    | _ => none
  | .finish =>
    match process.task with
    | .handling minute _ rest _ => some (s, process.runNext minute rest)
    | _ => none
  | .stop => some (s, { process with running := false })
  | .crash => some (s, fresh)

def move (s : SchedulerStore) : SchedulerMove → Option SchedulerStore
  | .tick ms => some { s with now := s.now + ms }

def program (registry : CronRegistry) :
    Program SchedulerStore SchedulerProcess SchedulerStep SchedulerMove where
  act := act registry
  env := move

def machine (registry : CronRegistry) :
    Machine (Pool SchedulerStore SchedulerProcess) (Move SchedulerStep SchedulerMove) :=
  (program registry).machine

/-- No process is started. -/
def init (now : Time) : Pool SchedulerStore SchedulerProcess := ⟨⟨now, [], [], []⟩, fun _ => fresh⟩

end SchedulerService
end OmniSupport.Scheduling
