import OmniSupport.Shared.Base
import OmniSupport.Foundation.Table

/-! The rows of `webhook_events`: the states of a stored event and what the updates of the
processing service and of the operators write. -/
namespace OmniSupport.Messaging
open Foundation

variable {Payload : Type}

inductive WebhookEventType where
  | whatsappInbound
  | whatsappStatus
  | emailBounce
  | emailDelivered
  deriving DecidableEq, Repr

inductive WebhookStatus where
  | received
  | processing
  | processed
  | skipped
  | failed
  | cancelled
  deriving DecidableEq, Repr

/-- `randomUUID()` of a `process` call, for which the number of the call stands. -/
abbrev WorkerId := Nat

structure WebhookEvent (Payload : Type) where
  id : Uuid
  tenantId : Option Uuid
  eventType : WebhookEventType
  provider : String
  payload : Payload
  signature : Option String
  processed : Bool
  processedAt : Option Time
  error : Option String
  retryCount : Nat
  status : WebhookStatus
  lockedAt : Option Time
  lockedBy : Option WorkerId
  replayOfId : Option Uuid
  createdAt : Time
  deriving DecidableEq

/-- `LEASE_MS`. -/
def leaseMs : Nat := 5 * 60 * 1000

/-- What `process` makes of a row it has claimed. -/
inductive ProcessingOutcome where
  | processed
  | skipped (detail : String)
  | failed (detail : String)
  deriving DecidableEq

namespace ProcessingOutcome

def status : ProcessingOutcome → WebhookStatus
  | .processed => .processed
  | .skipped _ => .skipped
  | .failed _ => .failed

def detail : ProcessingOutcome → Option String
  | .processed => none
  | .skipped detail | .failed detail => some detail

end ProcessingOutcome

/-- The row `recordEvent` of the webhook routes stores. -/
def recordEvent (id : Uuid) (now : Time) (eventType : WebhookEventType) (payload : Payload)
    (signature : String) : WebhookEvent Payload where
  id := id
  tenantId := none
  eventType := eventType
  provider := "twilio"
  payload := payload
  signature := some signature
  processed := false
  processedAt := none
  error := none
  retryCount := 0
  status := .received
  lockedAt := none
  lockedBy := none
  replayOfId := none
  createdAt := now

namespace WebhookEvent

/-- `RETRYABLE_WEBHOOK_STATUSES`. -/
def retryable (r : WebhookEvent Payload) : Prop :=
  r.status = .received ∨ r.status = .skipped ∨ r.status = .failed

instance (r : WebhookEvent Payload) : Decidable r.retryable :=
  inferInstanceAs (Decidable (_ ∨ _))

/-- `WEBHOOK_REPLAYABLE`. -/
def replayable (r : WebhookEvent Payload) : Prop :=
  r.status = .processed ∨ r.status = .skipped ∨ r.status = .cancelled

instance (r : WebhookEvent Payload) : Decidable r.replayable :=
  inferInstanceAs (Decidable (_ ∨ _))

/-- `lockedAt < staleBefore` for the `staleBefore` of a call that started at `startedAt`. -/
def stale (startedAt : Time) (r : WebhookEvent Payload) : Prop :=
  r.status = .processing ∧ r.lockedAt.any fun lockedAt => lockedAt + leaseMs < startedAt

instance (startedAt : Time) (r : WebhookEvent Payload) : Decidable (r.stale startedAt) :=
  inferInstanceAs (Decidable (_ ∧ _))

/-- The filter of the claim. -/
def claimable (id : Uuid) (startedAt : Time) (r : WebhookEvent Payload) : Prop :=
  r.id = id ∧ r.eventType = .whatsappInbound ∧ (r.retryable ∨ r.stale startedAt)

instance (id : Uuid) (startedAt : Time) (r : WebhookEvent Payload) :
    Decidable (r.claimable id startedAt) :=
  inferInstanceAs (Decidable (_ ∧ _))

def claim (lockedAt : Time) (w : WorkerId) (r : WebhookEvent Payload) : WebhookEvent Payload :=
  { r with status := .processing, lockedAt := some lockedAt, lockedBy := some w }

/-- Row `id` while `w` is the worker in `lockedBy`. -/
def heldBy (id : Uuid) (w : WorkerId) (r : WebhookEvent Payload) : Prop :=
  r.id = id ∧ r.lockedBy = some w

instance (id : Uuid) (w : WorkerId) (r : WebhookEvent Payload) : Decidable (r.heldBy id w) :=
  inferInstanceAs (Decidable (_ ∧ _))

/-- The outcome write of `process`. -/
def complete (now : Time) (outcome : ProcessingOutcome) (r : WebhookEvent Payload) :
    WebhookEvent Payload :=
  { r with
    status := outcome.status
    processed := outcome.status = .processed
    processedAt := some now
    error := outcome.detail.map fun detail => String.ofList (detail.toList.take 2000)
    lockedAt := none
    lockedBy := none
    retryCount := if outcome.status = .failed then r.retryCount + 1 else r.retryCount }

def cancel (r : WebhookEvent Payload) : WebhookEvent Payload :=
  { r with status := .cancelled }

/-- The row an operator replay creates. -/
def replay (id : Uuid) (now : Time) (original : WebhookEvent Payload) :
    WebhookEvent Payload where
  id := id
  tenantId := original.tenantId
  eventType := original.eventType
  provider := original.provider
  payload := original.payload
  signature := original.signature
  processed := false
  processedAt := none
  error := none
  retryCount := 0
  status := .received
  lockedAt := none
  lockedBy := none
  replayOfId := some original.id
  createdAt := now

/-- The rows of the partial unique index `webhook_events_active_replay_key`. -/
def activeReplay (r : WebhookEvent Payload) : Prop :=
  r.replayOfId.isSome ∧ (r.status = .received ∨ r.status = .processing ∨ r.status = .failed)

instance (r : WebhookEvent Payload) : Decidable r.activeReplay :=
  inferInstanceAs (Decidable (_ ∧ _))

/-- The rows retention may delete. -/
def purgeable (retentionMs now : Nat) (r : WebhookEvent Payload) : Prop :=
  (r.status = .processed ∨ r.status = .skipped ∨ r.status = .cancelled) ∧
    r.createdAt + retentionMs < now

instance (retentionMs now : Nat) (r : WebhookEvent Payload) :
    Decidable (r.purgeable retentionMs now) :=
  inferInstanceAs (Decidable (_ ∧ _))

end WebhookEvent
end OmniSupport.Messaging
