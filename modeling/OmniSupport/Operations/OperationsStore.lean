import OmniSupport.Database.Repositories
import OmniSupport.Foundation.Refusal
import OmniSupport.Messaging.WebhookProcessing
import OmniSupport.Outbox.RowTransitions

/-! The tables that platform administrators act on, and the statements of their calls. -/
namespace OmniSupport.Operations
open Foundation Outbox Messaging

variable {Payload Inbound : Type}

/-- A value of the column `value`; whatever is neither a boolean nor an integer is `other`. -/
inductive SettingValue where
  | bool (b : Bool)
  | number (n : Int)
  | other
  deriving DecidableEq

structure OperationalSettings where
  outboxPaused : Bool
  retryMaxAttempts : Nat
  outboxRetentionDays : Nat
  webhookRetentionDays : Nat
  deriving DecidableEq

structure OperationalSetting where
  key : String
  value : SettingValue
  updatedById : Option Uuid
  deriving DecidableEq

namespace OperationalSettings

/-- `DEFAULT_OPERATIONAL_SETTINGS`. -/
def default : OperationalSettings := ⟨false, 5, 14, 30⟩

def within (low high : Int) : SettingValue → Bool
  | .number n => low ≤ n && n ≤ high
  | _ => false

/-- One entry of `operationalSettingsSchema.partial()`; a key it does not know is refused. -/
def valid (key : String) (value : SettingValue) : Bool :=
  if key = "outboxPaused" then value matches .bool _
  else if key = "retryMaxAttempts" then within 1 20 value
  else if key = "outboxRetentionDays" ∨ key = "webhookRetentionDays" then within 1 365 value
  else false

def set (settings : OperationalSettings) (key : String) : SettingValue → OperationalSettings
  | .bool b => if key = "outboxPaused" then { settings with outboxPaused := b } else settings
  | .number n =>
    if key = "retryMaxAttempts" then { settings with retryMaxAttempts := n.toNat }
    else if key = "outboxRetentionDays" then { settings with outboxRetentionDays := n.toNat }
    else if key = "webhookRetentionDays" then { settings with webhookRetentionDays := n.toNat }
    else settings
  | .other => settings

/-- The defaults with what is stored, if all of it is valid. -/
def stored (rows : List OperationalSetting) : OperationalSettings :=
  if rows.all fun row => valid row.key row.value then
    rows.foldl (fun settings row => settings.set row.key row.value) default
  else default

end OperationalSettings

inductive Target where
  | outbox
  | webhook
  | settings
  deriving DecidableEq

def Target.text : Target → String
  | .outbox => "outbox"
  | .webhook => "webhook"
  | .settings => "settings"

inductive Action where
  | retry
  | replay
  | cancel
  | configure
  | purge
  deriving DecidableEq

inductive InterventionOutcome where
  | accepted
  | succeeded
  | failed
  deriving DecidableEq

/-- What `updateSettings` and `purge` add to the audit record. -/
inductive InterventionDetail where
  | changed (before after : OperationalSettings)
  | purged (outboxDeleted webhooksDeleted : Nat)
  deriving DecidableEq

structure OperationalIntervention where
  id : Uuid
  targetType : Target
  targetId : Option Uuid
  action : Action
  reason : String
  actorId : Uuid
  resultId : Option Uuid
  outcome : InterventionOutcome
  error : Option String
  createdAt : Time
  deriving DecidableEq

structure InterventionMetadata where
  intervention : Uuid
  action : Action
  reason : String
  outcome : InterventionOutcome
  resultId : Option Uuid
  detail : Option InterventionDetail
  deriving DecidableEq

/-- A row of `audit_logs` as `record` writes it. -/
structure InterventionAudit where
  actorId : Uuid
  actorRole : String
  action : Database.AuditAction
  resource : String
  resourceId : Option Uuid
  metadata : InterventionMetadata
  deriving DecidableEq

/-- `written` counts the outbox rows, webhook rows and settings that statements of operators
have written or deleted. No statement reads it. -/
structure OperationsStore (Payload Inbound : Type) where
  outbox : OutboxStore Payload
  webhooks : WebhookStore Inbound Unit
  settings : List OperationalSetting
  interventions : List OperationalIntervention
  audits : List InterventionAudit
  written : Nat

inductive OperationsStatement (Payload Inbound : Type) where
  | findSettings
  | upsertSettings (changes : List (String × SettingValue)) (actorId : Uuid)
  | findOutbox (id : Uuid)
  | retryOutbox (id : Uuid) (maxAttempts : Nat)
  | cancelOutbox (id : Uuid)
  | createOutboxReplay (id : Uuid) (eventId : EventId) (retryMaxAttempts : Nat)
      (original : OutboxEvent Payload)
  | findWebhook (id : Uuid)
  | createWebhookReplay (id : Uuid) (original : WebhookEvent Inbound)
  | claimWebhook (id : Uuid) (startedAt lockedAt : Time) (worker : Messaging.WorkerId)
  | readWebhook (id : Uuid)
  | completeWebhook (id : Uuid) (worker : Messaging.WorkerId) (outcome : ProcessingOutcome)
  | cancelWebhook (id : Uuid)
  | purgeOutbox (retentionMs : Nat)
  | purgeWebhooks (retentionMs : Nat)
  | createIntervention (row : OperationalIntervention)
  | createAudit (row : InterventionAudit)

namespace OperationsStore

def retryable (id : Uuid) (r : OutboxEvent Payload) : Prop := r.id = id ∧ r.retryable

instance (id : Uuid) (r : OutboxEvent Payload) : Decidable (retryable id r) :=
  inferInstanceAs (Decidable (_ ∧ _))

def cancellable (id : Uuid) (r : OutboxEvent Payload) : Prop := r.id = id ∧ r.cancellable

instance (id : Uuid) (r : OutboxEvent Payload) : Decidable (cancellable id r) :=
  inferInstanceAs (Decidable (_ ∧ _))

def cancellableWebhook (id : Uuid) (r : WebhookEvent Inbound) : Prop := r.id = id ∧ r.retryable

instance (id : Uuid) (r : WebhookEvent Inbound) : Decidable (cancellableWebhook id r) :=
  inferInstanceAs (Decidable (_ ∧ _))

/-- The filter of the purge. -/
def purgeable (retentionMs now : Nat) (r : OutboxEvent Payload) : Prop :=
  (r.status = .processed ∨ r.status = .cancelled) ∧ r.updatedAt + retentionMs < now

instance (retentionMs now : Nat) (r : OutboxEvent Payload) :
    Decidable (purgeable retentionMs now r) :=
  inferInstanceAs (Decidable (_ ∧ _))

variable (s : OperationsStore Payload Inbound)

/-- The `count` that an update or a deletion returns. -/
def retryCount (id : Uuid) : Nat := Table.count (retryable id) s.outbox.rows

def cancelCount (id : Uuid) : Nat := Table.count (cancellable id) s.outbox.rows

def claimCount (id : Uuid) (startedAt : Time) : Nat := s.webhooks.claimCount id startedAt

def completeCount (id : Uuid) (worker : Messaging.WorkerId) : Nat :=
  Table.count (WebhookEvent.heldBy id worker) s.webhooks.rows

def cancelWebhookCount (id : Uuid) : Nat := Table.count (cancellableWebhook id) s.webhooks.rows

def purgeCount (retentionMs : Nat) : Nat :=
  Table.count (purgeable retentionMs s.outbox.now) s.outbox.rows

def purgeWebhookCount (retentionMs : Nat) : Nat :=
  Table.count (WebhookEvent.purgeable retentionMs s.webhooks.now) s.webhooks.rows

def setOutbox (outbox : OutboxStore Payload) (count : Nat) : OperationsStore Payload Inbound :=
  { s with outbox := outbox, written := s.written + count }

def setWebhooks (webhooks : WebhookStore Inbound Unit) (count : Nat) :
    OperationsStore Payload Inbound :=
  { s with webhooks := webhooks, written := s.written + count }

def upsert (actorId : Uuid) (rows : List OperationalSetting) (change : String × SettingValue) :
    List OperationalSetting :=
  if rows.any fun row => row.key = change.1 then
    Table.updateMany (fun row => row.key = change.1)
      (fun row => { row with value := change.2, updatedById := some actorId }) rows
  else rows ++ [⟨change.1, change.2, some actorId⟩]

end OperationsStore

namespace OperationsStatement
open OperationsStore

def replayExists : AppError := .conflict "A replay of this event is still in progress"

/-- A statement that breaks a unique index fails. The inserts of replays turn this failure
into a conflict, the updates do not. -/
def exec (st : OperationsStatement Payload Inbound) (s : OperationsStore Payload Inbound) :
    Except AppError (OperationsStore Payload Inbound) :=
  match st with
  | .findSettings | .findOutbox _ | .findWebhook _ | .readWebhook _ => .ok s
  | .upsertSettings changes actorId =>
    .ok { s with
      settings := changes.foldl (upsert actorId) s.settings
      written := s.written + changes.length }
  | .retryOutbox id maxAttempts =>
    let rows := Table.updateMany (retryable id) (OutboxEvent.retry s.outbox.now maxAttempts)
      s.outbox.rows
    if OutboxStore.activeReplayUnique rows then
      .ok (s.setOutbox { s.outbox with rows := rows } (s.retryCount id))
    else .error .database
  | .cancelOutbox id =>
    .ok (s.setOutbox
      (s.outbox.updateRows (cancellable id) (OutboxEvent.cancel s.outbox.now)) (s.cancelCount id))
  | .createOutboxReplay id eventId retryMaxAttempts original =>
    let row := original.replay id eventId s.outbox.now retryMaxAttempts
    if (∀ r ∈ s.outbox.rows, r.id ≠ id ∧ r.eventId ≠ eventId) ∧
        OutboxStore.activeReplayUnique (s.outbox.rows ++ [row]) then
      .ok (s.setOutbox (s.outbox.insertRow row) 1)
    else .error replayExists
  | .createWebhookReplay id original =>
    let row := original.replay id s.webhooks.now
    if (∀ r ∈ s.webhooks.rows, r.id ≠ id) ∧
        WebhookStore.activeReplayUnique (s.webhooks.rows ++ [row]) then
      .ok (s.setWebhooks (s.webhooks.insertRow row) 1)
    else .error replayExists
  | .claimWebhook id startedAt lockedAt worker =>
    let rows := Table.updateMany (WebhookEvent.claimable id startedAt)
      (WebhookEvent.claim lockedAt worker) s.webhooks.rows
    if WebhookStore.activeReplayUnique rows then
      .ok (s.setWebhooks { s.webhooks with rows := rows } (s.claimCount id startedAt))
    else .error .database
  | .completeWebhook id worker outcome =>
    .ok (s.setWebhooks (s.webhooks.complete id worker outcome) (s.completeCount id worker))
  | .cancelWebhook id =>
    .ok (s.setWebhooks (s.webhooks.updateRows (cancellableWebhook id) WebhookEvent.cancel)
      (s.cancelWebhookCount id))
  | .purgeOutbox retentionMs =>
    .ok (s.setOutbox (s.outbox.deleteRows (purgeable retentionMs s.outbox.now))
      (s.purgeCount retentionMs))
  | .purgeWebhooks retentionMs =>
    .ok (s.setWebhooks (s.webhooks.purge retentionMs) (s.purgeWebhookCount retentionMs))
  | .createIntervention row => .ok { s with interventions := s.interventions ++ [row] }
  | .createAudit row => .ok { s with audits := s.audits ++ [row] }

def client : OperationsStatement Payload Inbound → Client
  | .createAudit _ => .ambient
  | _ => .root

end OperationsStatement

/-- Each statement counts as itself in the log of the calls. -/
def operationsStatements : Statements (OperationsStore Payload Inbound)
    (OperationsStatement Payload Inbound) (OperationsStatement Payload Inbound) AppError where
  exec := OperationsStatement.exec
  kind st := st
  client := OperationsStatement.client
  error := .database

end OmniSupport.Operations
