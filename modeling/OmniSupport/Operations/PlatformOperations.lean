import OmniSupport.Operations.OperationsStore

/-! The calls of platform administrators by their statements: rows of the outbox and stored
webhook events are retried, cancelled and replayed, settings are changed, and each intervention
is recorded. -/
namespace OmniSupport.Operations
open Foundation Outbox Messaging Database

/-- `cached` is what a call of `get` finds in the cache of its process, and `execute` what
becomes of a message in the inbound handler. -/
structure OperationsEnv (Inbound Message : Type) where
  clock : Nat → Time
  uuid : Nat → Uuid
  eventId : Nat → EventId
  cached : Nat → Option OperationalSettings
  parseInboundMessage : Inbound → Option Message
  execute : Nat → Message → ProcessingOutcome

structure OperatorActor where
  id : Uuid
  role : String
  deriving DecidableEq

variable {Payload Inbound Message : Type}

abbrev OperationsProcess (Payload Inbound Message : Type) :=
  Process (OperationsEnv Inbound Message) (OperationsStore Payload Inbound)
    (OperationsStatement Payload Inbound) AppError

def outboxStatusText : OutboxStatus → String
  | .pending => "PENDING"
  | .processing => "PROCESSING"
  | .processed => "PROCESSED"
  | .failed => "FAILED"
  | .deadLetter => "DEAD_LETTER"
  | .cancelled => "CANCELLED"

def webhookStatusText : WebhookStatus → String
  | .received => "RECEIVED"
  | .processing => "PROCESSING"
  | .processed => "PROCESSED"
  | .skipped => "SKIPPED"
  | .failed => "FAILED"
  | .cancelled => "CANCELLED"

/-- `error.slice(0, 2000)`. -/
def truncated (error : String) : String := String.ofList (error.toList.take 2000)

def OperationsEnv.received (payload : Inbound) (env : OperationsEnv Inbound Message) (n : Nat) :
    ProcessingOutcome :=
  match env.parseInboundMessage payload with
  | none => .skipped "Payload is not an inbound message"
  | some message => env.execute n message

namespace OperationalSettingsService
open Process

def read : OperationsProcess Payload Inbound Message OperationalSettings :=
  statement .findSettings fun s => OperationalSettings.stored s.settings

def get : OperationsProcess Payload Inbound Message OperationalSettings := do
  let cached ← drawn OperationsEnv.cached
  match cached with
  | some value => return value
  | none => read

/-- The cache is empty when the settings are read again. -/
def update (changes : List (String × SettingValue)) (actorId : Uuid) :
    OperationsProcess Payload Inbound Message (OperationalSettings × OperationalSettings) := do
  let before ← get
  execute (.upsertSettings changes actorId)
  let after ← read
  return (before, after)

end OperationalSettingsService

namespace WebhookProcessingService
open Process

/-- `process` after its claim. -/
def processClaimed (id : Uuid) (worker : Messaging.WorkerId) :
    OperationsProcess Payload Inbound Message ProcessingOutcome := do
  let found ← statement (.readWebhook id) fun s => s.webhooks.find id
  let event ← lift (orThrow .database found)
  let outcome ← drawn (OperationsEnv.received event.payload)
  execute (.completeWebhook id worker outcome)
  return outcome

/-- `NOT_CLAIMED` is `none`. -/
def process (id : Uuid) :
    OperationsProcess Payload Inbound Message (Option ProcessingOutcome) := do
  let worker ← drawn OperationsEnv.uuid
  let startedAt ← drawn OperationsEnv.clock
  let lockedAt ← drawn OperationsEnv.clock
  let count ← statement (.claimWebhook id startedAt lockedAt worker) fun s =>
    s.claimCount id startedAt
  if count = 1 then some <$> processClaimed id worker else return none

end WebhookProcessingService

structure InterventionResult where
  outcome : InterventionOutcome
  resultId : Option Uuid := none
  error : Option String := none
  detail : Option InterventionDetail := none

namespace PlatformOperationsService
open Process

def intervention (target : Target) (targetId : Option Uuid) (action : Action)
    (actor : OperatorActor) (reason : String) (result : InterventionResult) (id : Uuid)
    (createdAt : Time) : OperationalIntervention where
  id := id
  targetType := target
  targetId := targetId
  action := action
  reason := reason
  actorId := actor.id
  resultId := result.resultId
  outcome := result.outcome
  error := result.error.map truncated
  createdAt := createdAt

def interventionAudit (target : Target) (targetId : Option Uuid) (action : Action)
    (actor : OperatorActor) (reason : String) (result : InterventionResult) (id : Uuid) :
    InterventionAudit where
  actorId := actor.id
  actorRole := actor.role
  action := if action = .cancel then .delete else .update
  resource := "operations." ++ target.text
  resourceId := targetId
  metadata := ⟨id, action, reason, result.outcome, result.resultId, result.detail⟩

/-- The failure of the audit insert is only logged. -/
def record (target : Target) (targetId : Option Uuid) (action : Action) (actor : OperatorActor)
    (reason : String) (result : InterventionResult) :
    OperationsProcess Payload Inbound Message OperationalIntervention := do
  let id ← drawn OperationsEnv.uuid
  let createdAt ← drawn OperationsEnv.clock
  let row := intervention target targetId action actor reason result id createdAt
  execute (.createIntervention row)
  tryExecute (.createAudit (interventionAudit target targetId action actor reason result row.id))
  return row

def findOutbox (id : Uuid) :
    OperationsProcess Payload Inbound Message (OutboxEvent Payload) := do
  let found ← statement (.findOutbox id) fun s => s.outbox.find id
  lift (orThrow (.notFound "Outbox event" id) found)

def findWebhook (id : Uuid) :
    OperationsProcess Payload Inbound Message (WebhookEvent Inbound) := do
  let found ← statement (.findWebhook id) fun s => s.webhooks.find id
  lift (orThrow (.notFound "Webhook event" id) found)

def retryOutbox (id : Uuid) (actor : OperatorActor) (reason : String) :
    OperationsProcess Payload Inbound Message OperationalIntervention := do
  let settings ← OperationalSettingsService.get
  let row ← findOutbox id
  let count ← statement (.retryOutbox id (row.attempts + settings.retryMaxAttempts)) fun s =>
    s.retryCount id
  lift (require (count = 1)
    (.conflict ("Outbox events in status " ++ outboxStatusText row.status ++ " cannot be retried")))
  record .outbox (some id) .retry actor reason { outcome := .accepted }

def cancelOutbox (id : Uuid) (actor : OperatorActor) (reason : String) :
    OperationsProcess Payload Inbound Message OperationalIntervention := do
  let row ← findOutbox id
  let count ← statement (.cancelOutbox id) fun s => s.cancelCount id
  lift (require (count = 1) (.conflict
    ("Outbox events in status " ++ outboxStatusText row.status ++ " cannot be cancelled")))
  record .outbox (some id) .cancel actor reason { outcome := .succeeded }

def replayOutbox (id : Uuid) (actor : OperatorActor) (reason : String) :
    OperationsProcess Payload Inbound Message OperationalIntervention := do
  let original ← findOutbox id
  lift (require original.replayable (.conflict
    ("Outbox events in status " ++ outboxStatusText original.status ++ " cannot be replayed")))
  let settings ← OperationalSettingsService.get
  let replayId ← drawn OperationsEnv.uuid
  let eventId ← drawn OperationsEnv.eventId
  execute (.createOutboxReplay replayId eventId settings.retryMaxAttempts original)
  record .outbox (some id) .replay actor reason { outcome := .accepted, resultId := some replayId }

def retryWebhook (id : Uuid) (actor : OperatorActor) (reason : String) :
    OperationsProcess Payload Inbound Message OperationalIntervention := do
  let row ← findWebhook id
  let result ← WebhookProcessingService.process id
  let outcome ← lift (orThrow (.conflict ("Webhook events in status " ++
    webhookStatusText row.status ++ " cannot be retried (or are being processed)")) result)
  record .webhook (some id) .retry actor reason {
    outcome := if outcome = .processed then .succeeded else .failed
    error := outcome.detail }

/-- What `replayWebhook` records; the replay may have been claimed by another worker. -/
def replayResult (replayId : Uuid) (result : Option ProcessingOutcome) : InterventionResult where
  outcome := if result = some .processed then .succeeded else .failed
  resultId := some replayId
  error := match result with
    | none => some "Replay was claimed elsewhere"
    | some outcome => outcome.detail

def replayWebhook (id : Uuid) (actor : OperatorActor) (reason : String) :
    OperationsProcess Payload Inbound Message OperationalIntervention := do
  let original ← findWebhook id
  lift (require (original.eventType = .whatsappInbound)
    (.conflict "Only inbound message events can be replayed"))
  lift (require original.replayable (.conflict
    ("Webhook events in status " ++ webhookStatusText original.status ++ " cannot be replayed")))
  let replayId ← drawn OperationsEnv.uuid
  execute (.createWebhookReplay replayId original)
  let result ← WebhookProcessingService.process replayId
  record .webhook (some id) .replay actor reason (replayResult replayId result)

def cancelWebhook (id : Uuid) (actor : OperatorActor) (reason : String) :
    OperationsProcess Payload Inbound Message OperationalIntervention := do
  let row ← findWebhook id
  let count ← statement (.cancelWebhook id) fun s => s.cancelWebhookCount id
  lift (require (count = 1) (.conflict
    ("Webhook events in status " ++ webhookStatusText row.status ++ " cannot be cancelled")))
  record .webhook (some id) .cancel actor reason { outcome := .succeeded }

def updateSettings (changes : List (String × SettingValue)) (actor : OperatorActor)
    (reason : String) : OperationsProcess Payload Inbound Message OperationalSettings := do
  let update ← OperationalSettingsService.update changes actor.id
  let _ ← record .settings none .configure actor reason {
    outcome := .succeeded, detail := some (.changed update.1 update.2) }
  return update.2

end PlatformOperationsService
end OmniSupport.Operations
