import OmniSupport.Shared.Base

/-! The rows of `outbox_events`: what the repository and the operator service select and
what their updates write. -/
namespace OmniSupport.Outbox

variable {Payload : Type}

inductive OutboxStatus where
  | pending
  | processing
  | processed
  | failed
  | deadLetter
  | cancelled
  deriving DecidableEq, Repr

abbrev WorkerId := Nat

structure OutboxEvent (Payload : Type) where
  id : Uuid
  tenantId : Option Uuid
  aggregateType : Option String
  aggregateId : Option Uuid
  eventType : String
  eventId : EventId
  occurredAt : Time
  payload : Payload
  status : OutboxStatus
  attempts : Nat
  maxAttempts : Nat
  availableAt : Time
  lockedAt : Option Time
  lockedBy : Option WorkerId
  processedAt : Option Time
  failedAt : Option Time
  deadLetterReason : Option String
  replayOfId : Option Uuid
  createdAt : Time
  updatedAt : Time
  deriving DecidableEq

/-- A domain event as `toPayload` describes it. -/
structure OutboxPayload (Payload : Type) where
  eventId : EventId
  eventType : String
  occurredAt : Time
  tenantId : Option Uuid
  aggregateId : Option Uuid
  aggregateType : Option String
  payload : Payload
  deriving DecidableEq

def defaultMaxAttempts : Nat := 5
def defaultBatchSize : Nat := 100
def defaultLeaseMs : Nat := 5 * 60 * 1000
def baseRetryDelayMs : Nat := 5000
def maxRetryDelayMs : Nat := 60 * 60 * 1000

def computeRetryDelayMs (attempts : Nat) : Nat :=
  min (baseRetryDelayMs * Nat.pow 2 (attempts - 1)) maxRetryDelayMs

/-- The row of a new event; columns it does not name take their defaults. -/
def toCreateInput (id : Uuid) (now : Time) (event : OutboxPayload Payload) :
    OutboxEvent Payload where
  id := id
  tenantId := event.tenantId
  aggregateType := event.aggregateType
  aggregateId := event.aggregateId
  eventType := event.eventType
  eventId := event.eventId
  occurredAt := event.occurredAt
  payload := event.payload
  status := .pending
  attempts := 0
  maxAttempts := defaultMaxAttempts
  availableAt := now
  lockedAt := none
  lockedBy := none
  processedAt := none
  failedAt := none
  deadLetterReason := none
  replayOfId := none
  createdAt := now
  updatedAt := now

namespace OutboxEvent

/-- `locked_at < NOW() - lease`; false when the row is not locked. -/
def leaseExpired (now leaseMs : Nat) (r : OutboxEvent Payload) : Prop :=
  r.status = .processing ∧ r.lockedAt.any fun lockedAt => lockedAt + leaseMs < now

instance (now leaseMs : Nat) (r : OutboxEvent Payload) : Decidable (r.leaseExpired now leaseMs) :=
  inferInstanceAs (Decidable (_ ∧ _))

def claimable (now leaseMs : Nat) (r : OutboxEvent Payload) : Prop :=
  (r.status = .pending ∨ r.status = .failed) ∧ r.availableAt ≤ now ∨ r.leaseExpired now leaseMs

instance (now leaseMs : Nat) (r : OutboxEvent Payload) : Decidable (r.claimable now leaseMs) :=
  inferInstanceAs (Decidable (_ ∨ _))

/-- Row `id` while worker `w` holds its lease. -/
def heldBy (id : Uuid) (w : WorkerId) (r : OutboxEvent Payload) : Prop :=
  r.id = id ∧ r.lockedBy = some w ∧ r.status = .processing

instance (id : Uuid) (w : WorkerId) (r : OutboxEvent Payload) : Decidable (r.heldBy id w) :=
  inferInstanceAs (Decidable (_ ∧ _))

def deadLetterExpired (now : Time) (r : OutboxEvent Payload) : OutboxEvent Payload :=
  { r with
    status := .deadLetter
    deadLetterReason := some "Processing lease expired after maximum attempts"
    lockedAt := none
    lockedBy := none
    failedAt := some now
    updatedAt := now }

def claim (now : Time) (w : WorkerId) (r : OutboxEvent Payload) : OutboxEvent Payload :=
  { r with
    status := .processing
    attempts := r.attempts + 1
    lockedAt := some now
    lockedBy := some w
    updatedAt := now }

def processed (now : Time) (r : OutboxEvent Payload) : OutboxEvent Payload :=
  { r with
    status := .processed
    processedAt := some now
    lockedAt := none
    lockedBy := none
    updatedAt := now }

/-- The update of `markFailed`; `record` is the copy of the row the claim returned. -/
def failed (now : Time) (record : OutboxEvent Payload) (error : String)
    (r : OutboxEvent Payload) : OutboxEvent Payload :=
  let isDeadLetter := record.maxAttempts ≤ record.attempts
  { r with
    status := if isDeadLetter then .deadLetter else .failed
    deadLetterReason := if isDeadLetter then some (String.ofList (error.toList.take 2000)) else none
    failedAt := some now
    availableAt := now + computeRetryDelayMs record.attempts
    lockedAt := none
    lockedBy := none
    updatedAt := now }

def retryable (r : OutboxEvent Payload) : Prop :=
  r.status = .failed ∨ r.status = .deadLetter

instance (r : OutboxEvent Payload) : Decidable r.retryable :=
  inferInstanceAs (Decidable (_ ∨ _))

def cancellable (r : OutboxEvent Payload) : Prop :=
  r.status = .pending ∨ r.status = .failed ∨ r.status = .deadLetter

instance (r : OutboxEvent Payload) : Decidable r.cancellable :=
  inferInstanceAs (Decidable (_ ∨ _))

def replayable (r : OutboxEvent Payload) : Prop :=
  r.status = .processed ∨ r.status = .deadLetter ∨ r.status = .cancelled

instance (r : OutboxEvent Payload) : Decidable r.replayable :=
  inferInstanceAs (Decidable (_ ∨ _))

def retry (now : Time) (maxAttempts : Nat) (r : OutboxEvent Payload) : OutboxEvent Payload :=
  { r with
    status := .pending
    availableAt := now
    maxAttempts := maxAttempts
    deadLetterReason := none
    failedAt := none
    updatedAt := now }

def cancel (now : Time) (r : OutboxEvent Payload) : OutboxEvent Payload :=
  { r with status := .cancelled, lockedAt := none, lockedBy := none, updatedAt := now }

/-- The row an operator replay creates: a new event id, the original left alone. -/
def replay (id : Uuid) (eventId : EventId) (now : Time) (retryMaxAttempts : Nat)
    (original : OutboxEvent Payload) : OutboxEvent Payload where
  id := id
  tenantId := original.tenantId
  aggregateType := original.aggregateType
  aggregateId := original.aggregateId
  eventType := original.eventType
  eventId := eventId
  occurredAt := original.occurredAt
  payload := original.payload
  status := .pending
  attempts := 0
  maxAttempts := retryMaxAttempts
  availableAt := now
  lockedAt := none
  lockedBy := none
  processedAt := none
  failedAt := none
  deadLetterReason := none
  replayOfId := some original.id
  createdAt := now
  updatedAt := now

/-- The rows the partial unique index on `replay_of_id` covers. -/
def activeReplay (r : OutboxEvent Payload) : Prop :=
  r.replayOfId.isSome ∧ (r.status = .pending ∨ r.status = .processing ∨ r.status = .failed)

instance (r : OutboxEvent Payload) : Decidable r.activeReplay :=
  inferInstanceAs (Decidable (_ ∧ _))

end OutboxEvent
end OmniSupport.Outbox
