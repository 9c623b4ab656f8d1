import OmniSupport.Outbox.OutboxEvent
import OmniSupport.Foundation.Pool
import OmniSupport.Foundation.Table
import Mathlib.Data.List.Sort

/-! The outbox at work: any number of workers that claim batches and deliver them row by
row through the event bus, and operators that retry, cancel and replay rows. -/
namespace OmniSupport.Outbox
open Foundation

variable {Payload : Type}

/-- A handler as the event bus identifies it for one event. -/
structure HandlerKey where
  eventId : EventId
  eventType : String
  index : Nat
  deriving DecidableEq

/-- `${eventId}:${eventType}:${index}`. -/
def HandlerKey.text (k : HandlerKey) : String :=
  k.eventId.text ++ ":" ++ k.eventType ++ ":" ++ toString k.index

/-- `subscribed` lists the event types of the `subscribe` calls in their order, which all
workers share. -/
structure OutboxConfig where
  subscribed : List String
  leaseMs : Nat
  batchSize : Nat

def OutboxConfig.handlerCount (config : OutboxConfig) (eventType : String) : Nat :=
  config.subscribed.countP fun t => t = eventType

/-- `uuids` and `completed` record what happened: the row ids drawn so far, and each
successful completion of a handler. No statement reads `completed`. -/
structure OutboxStore (Payload : Type) where
  rows : List (OutboxEvent Payload)
  now : Time
  ledger : List String
  uuids : List Uuid
  completed : List HandlerKey
  deriving DecidableEq

namespace OutboxStore

def init (now : Time) : OutboxStore Payload := ⟨[], now, [], [], []⟩

def find (s : OutboxStore Payload) (id : Uuid) : Option (OutboxEvent Payload) :=
  s.rows.find? fun r => r.id = id

def updateRows (p : OutboxEvent Payload → Prop) [DecidablePred p]
    (f : OutboxEvent Payload → OutboxEvent Payload) (s : OutboxStore Payload) :
    OutboxStore Payload :=
  { s with rows := Table.updateMany p f s.rows }

def deleteRows (p : OutboxEvent Payload → Prop) [DecidablePred p] (s : OutboxStore Payload) :
    OutboxStore Payload :=
  { s with rows := Table.deleteMany p s.rows }

def insertRow (r : OutboxEvent Payload) (s : OutboxStore Payload) : OutboxStore Payload :=
  { s with rows := s.rows ++ [r], uuids := r.id :: s.uuids }

/-- `createMany` with `skipDuplicates`: an event id already stored makes it a no-op. -/
def enqueue (id : Uuid) (event : OutboxPayload Payload) (s : OutboxStore Payload) :
    OutboxStore Payload :=
  if ∃ r ∈ s.rows, r.eventId = event.eventId then s
  else s.insertRow (toCreateInput id s.now event)

/-- The first statement of `claimBatch`. -/
def deadLetterExpired (leaseMs : Nat) (s : OutboxStore Payload) : OutboxStore Payload :=
  s.updateRows (fun r => r.leaseExpired s.now leaseMs ∧ r.maxAttempts ≤ r.attempts)
    (OutboxEvent.deadLetterExpired s.now)

/-- The rows the second statement of `claimBatch` may take: up to a batch of claimable
ones. `SKIP LOCKED` can pass over any row that another statement holds. -/
def canClaim (config : OutboxConfig) (s : OutboxStore Payload) (picked : List Uuid) : Prop :=
  picked.length ≤ config.batchSize ∧
    ∀ id ∈ picked, ∃ r ∈ s.rows, r.id = id ∧ r.claimable s.now config.leaseMs

instance (config : OutboxConfig) (s : OutboxStore Payload) (picked : List Uuid) :
    Decidable (s.canClaim config picked) :=
  inferInstanceAs (Decidable (_ ∧ _))

def claim (w : WorkerId) (picked : List Uuid) (s : OutboxStore Payload) : OutboxStore Payload :=
  s.updateRows (fun r => r.id ∈ picked) (OutboxEvent.claim s.now w)

/-- What the claim returns: the rows it took, oldest event first. -/
def claimed (w : WorkerId) (picked : List Uuid) (s : OutboxStore Payload) :
    List (OutboxEvent Payload) :=
  ((s.claim w picked).rows.filter fun r => r.id ∈ picked).insertionSort
    fun a b => a.occurredAt ≤ b.occurredAt

def markProcessed (id : Uuid) (w : WorkerId) (s : OutboxStore Payload) : OutboxStore Payload :=
  s.updateRows (OutboxEvent.heldBy id w) (OutboxEvent.processed s.now)

def markFailed (record : OutboxEvent Payload) (w : WorkerId) (error : String)
    (s : OutboxStore Payload) : OutboxStore Payload :=
  s.updateRows (OutboxEvent.heldBy record.id w) (OutboxEvent.failed s.now record error)

/-- The partial unique index `outbox_events_active_replay_key`. -/
def activeReplayUnique (rows : List (OutboxEvent Payload)) : Prop :=
  ∀ r ∈ rows, Table.count (fun r' => r'.activeReplay ∧ r'.replayOfId = r.replayOfId) rows ≤ 1

instance (rows : List (OutboxEvent Payload)) : Decidable (activeReplayUnique rows) :=
  inferInstanceAs (Decidable (∀ _ ∈ _, _))

/-- A statement that would break the index fails and changes nothing. -/
def guardReplay (s s' : OutboxStore Payload) : OutboxStore Payload :=
  if activeReplayUnique s'.rows then s' else s

def retryOutbox (id : Uuid) (maxAttempts : Nat) (s : OutboxStore Payload) :
    OutboxStore Payload :=
  s.guardReplay (s.updateRows (fun r => r.id = id ∧ r.retryable)
    (OutboxEvent.retry s.now maxAttempts))

def cancelOutbox (id : Uuid) (s : OutboxStore Payload) : OutboxStore Payload :=
  s.updateRows (fun r => r.id = id ∧ r.cancellable) (OutboxEvent.cancel s.now)

def replayOutbox (id : Uuid) (eventId : EventId) (retryMaxAttempts : Nat)
    (original : OutboxEvent Payload) (s : OutboxStore Payload) : OutboxStore Payload :=
  if ∃ r ∈ s.rows, r.eventId = eventId then s
  else s.guardReplay (s.insertRow (original.replay id eventId s.now retryMaxAttempts))

def purge (retentionMs : Nat) (s : OutboxStore Payload) : OutboxStore Payload :=
  s.deleteRows fun r =>
    (r.status = .processed ∨ r.status = .cancelled) ∧ r.updatedAt + retentionMs < s.now

/-- `deleteProcessed` takes the oldest processed rows up to its limit: here, any of them. -/
def deleteProcessed (ids : List Uuid) (s : OutboxStore Payload) : OutboxStore Payload :=
  s.deleteRows fun r => r.status = .processed ∧ r.id ∈ ids

end OutboxStore

/-- A handler inside one delivery: before `isDone`, inside the handler, before
`markDone`, settled. -/
inductive HandlerRun where
  | started
  | running
  | ran
  | settled (ok : Bool)
  deriving DecidableEq

inductive Task (Payload : Type) where
  | idle
  | claiming
  | delivering (record : OutboxEvent Payload) (runs : List HandlerRun)
      (rest : List (OutboxEvent Payload))
  | completing (record : OutboxEvent Payload) (rest : List (OutboxEvent Payload))
  | failing (record : OutboxEvent Payload) (error : String) (rest : List (OutboxEvent Payload))
  | retrying (id : Uuid) (attempts retryMaxAttempts : Nat)
  | cancelling (id : Uuid)
  | replaying (original : OutboxEvent Payload) (retryMaxAttempts : Nat)
  | crashed

inductive HandlerStep where
  | check
  | checkThrows
  | succeed
  | throw
  | record
  | recordThrows
  deriving DecidableEq

/-- `poll` to `crash` are the steps of a worker, the others those of an operator, whose
calls read a row and then write in a second statement. -/
inductive OutboxStep where
  | poll
  | claim (picked : List Uuid)
  | handler (index : Nat) (step : HandlerStep)
  | settle
  | mark
  | markThrows (message : String)
  | crash
  | retry (id : Uuid) (retryMaxAttempts : Nat)
  | cancel (id : Uuid)
  | replay (id : Uuid) (retryMaxAttempts : Nat)
  | apply
  | applyReplay (id : Uuid) (eventId : EventId)
  | throws

inductive OutboxMove (Payload : Type) where
  | enqueue (id : Uuid) (event : OutboxPayload Payload)
  | purge (retentionMs : Nat)
  | deleteProcessed (ids : List Uuid)
  | forget (key : String)
  | tick (ms : Nat)

namespace OutboxProcessor
variable (config : OutboxConfig)

/-- The loop of `processBatch` at the head of the rows still to deliver. -/
def deliver : List (OutboxEvent Payload) → Task Payload
  | [] => .idle
  | record :: rest =>
    .delivering record (List.replicate (config.handlerCount record.eventType) .started) rest

def handlerKey (record : OutboxEvent Payload) (index : Nat) : HandlerKey :=
  ⟨record.eventId, record.eventType, index⟩

/-- One step of `runOnce`. -/
def runOnce (key : HandlerKey) (s : OutboxStore Payload) :
    HandlerRun → HandlerStep → Option (OutboxStore Payload × HandlerRun)
  | .started, .check =>
    some (s, if key.text ∈ s.ledger then .settled true else .running)
  | .started, .checkThrows => some (s, .settled false)
  | .running, .succeed => some ({ s with completed := key :: s.completed }, .ran)
  | .running, .throw => some (s, .settled false)
  | .ran, .record => some ({ s with ledger := key.text :: s.ledger }, .settled true)
  | .ran, .recordThrows => some (s, .settled false)
  | _, _ => none

def stepHandler (s : OutboxStore Payload) (index : Nat) (step : HandlerStep) :
    Task Payload → Option (OutboxStore Payload × Task Payload)
  | .delivering record runs rest =>
    runs[index]?.bind fun run =>
      (runOnce (handlerKey record index) s run step).map fun r =>
        (r.1, .delivering record (runs.set index r.2) rest)
  | _ => none

def failures (runs : List HandlerRun) : Nat := runs.countP fun r => r = .settled false

/-- `allSettled`, then the rejection with the failures it found. -/
def settle : Task Payload → Option (Task Payload)
  | .delivering record runs rest =>
    if ∃ r ∈ runs, r = .started ∨ r = .running ∨ r = .ran then none
    else if failures runs = 0 then some (.completing record rest)
    else some (.failing record
      (toString (failures runs) ++ " handler(s) failed for " ++ record.eventType) rest)
  | _ => none

def mark (w : WorkerId) (s : OutboxStore Payload) :
    Task Payload → Option (OutboxStore Payload × Task Payload)
  | .completing record rest => some (s.markProcessed record.id w, deliver config rest)
  | .failing record error rest => some (s.markFailed record w error, deliver config rest)
  | _ => none

/-- `markProcessed` throws into the `catch`; `markFailed` throws out of the batch. -/
def markThrows (message : String) : Task Payload → Option (Task Payload)
  | .completing record rest => some (.failing record message rest)
  | .failing .. => some .idle
  | _ => none

/-- The first statement of an operator's call. -/
def read (s : OutboxStore Payload) (id : Uuid) (found : OutboxEvent Payload → Task Payload) :
    Task Payload → Option (Task Payload)
  | .idle => some (match s.find id with
    | none => .idle
    | some row => found row)
  | _ => none

def apply (s : OutboxStore Payload) : Task Payload → Option (OutboxStore Payload × Task Payload)
  | .retrying id attempts retryMaxAttempts =>
    some (s.retryOutbox id (attempts + retryMaxAttempts), .idle)
  | .cancelling id => some (s.cancelOutbox id, .idle)
  | _ => none

def applyReplay (s : OutboxStore Payload) (id : Uuid) (eventId : EventId) :
    Task Payload → Option (OutboxStore Payload × Task Payload)
  | .replaying original retryMaxAttempts =>
    if id ∈ s.uuids then none
    else some (s.replayOutbox id eventId retryMaxAttempts original, .idle)
  | _ => none

def throws : Task Payload → Option (Task Payload)
  | .claiming | .retrying .. | .cancelling _ | .replaying .. => some .idle
  | _ => none

def act (w : WorkerId) (s : OutboxStore Payload) (task : Task Payload) :
    OutboxStep → Option (OutboxStore Payload × Task Payload)
  | .poll => match task with
    | .idle => some (s.deadLetterExpired config.leaseMs, .claiming)
    | _ => none
  | .claim picked => match task with
    | .claiming =>
      if s.canClaim config picked then
        some (s.claim w picked, deliver config (s.claimed w picked))
      else none
    | _ => none
  | .handler index step => stepHandler s index step task
  | .settle => (settle task).map fun t => (s, t)
  | .mark => mark config w s task
  | .markThrows message => (markThrows message task).map fun t => (s, t)
  | .crash => some (s, .crashed)
  | .retry id retryMaxAttempts =>
    (read s id (fun row => .retrying id row.attempts retryMaxAttempts) task).map fun t => (s, t)
  | .cancel id => (read s id (fun _ => .cancelling id) task).map fun t => (s, t)
  | .replay id retryMaxAttempts =>
    (read s id (fun row => if row.replayable then .replaying row retryMaxAttempts else .idle)
      task).map fun t => (s, t)
  | .apply => apply s task
  | .applyReplay id eventId => applyReplay s id eventId task
  | .throws => (throws task).map fun t => (s, t)

def move (s : OutboxStore Payload) : OutboxMove Payload → Option (OutboxStore Payload)
  | .enqueue id event => if id ∈ s.uuids then none else some (s.enqueue id event)
  | .purge retentionMs => some (s.purge retentionMs)
  | .deleteProcessed ids => some (s.deleteProcessed ids)
  | .forget key => some { s with ledger := s.ledger.filter fun k => k ≠ key }
  | .tick ms => some { s with now := s.now + ms }

def program : Program (OutboxStore Payload) (Task Payload) OutboxStep (OutboxMove Payload) where
  act := act config
  env := move

def machine : Machine (Pool (OutboxStore Payload) (Task Payload))
    (Move OutboxStep (OutboxMove Payload)) :=
  (program config).machine

def init (now : Time) : Pool (OutboxStore Payload) (Task Payload) :=
  ⟨OutboxStore.init now, fun _ => .idle⟩

end OutboxProcessor
end OmniSupport.Outbox
