import OmniSupport.Messaging.WebhookEvent
import OmniSupport.Foundation.Pool
import OmniSupport.Foundation.Rows

/-! Stored webhook events at work: any number of `process` calls, from the inbound route and
from operators, that claim a row, read it, run the handler and write the outcome. -/
namespace OmniSupport.Messaging
open Foundation

variable {Payload Message ω lo η ε : Type}

/-- What the processing service is constructed with: the parser of the provider and the
handler, whose steps work on `ω`. `elsewhere` is what the rest of the system does to it. -/
structure InboundHandler (Payload Message ω lo η ε : Type) where
  parseInboundMessage : Payload → Option Message
  execute : Message → lo
  step : η → ω → lo → Option (ω × lo)
  outcome : lo → Option ProcessingOutcome
  elsewhere : ε → ω → Option ω

/-- `uuids` records the row ids drawn so far. -/
structure WebhookStore (Payload ω : Type) where
  rows : List (WebhookEvent Payload)
  now : Time
  uuids : List Uuid
  base : ω

namespace WebhookStore

def find (s : WebhookStore Payload ω) (id : Uuid) : Option (WebhookEvent Payload) :=
  s.rows.find? fun r => r.id = id

def updateRows (p : WebhookEvent Payload → Prop) [DecidablePred p]
    (f : WebhookEvent Payload → WebhookEvent Payload) (s : WebhookStore Payload ω) :
    WebhookStore Payload ω :=
  { s with rows := Table.updateMany p f s.rows }

def insertRow (r : WebhookEvent Payload) (s : WebhookStore Payload ω) : WebhookStore Payload ω :=
  { s with rows := s.rows ++ [r], uuids := r.id :: s.uuids }

/-- The partial unique index `webhook_events_active_replay_key`. -/
def activeReplayUnique (rows : List (WebhookEvent Payload)) : Prop :=
  ∀ r ∈ rows, Table.count (fun r' => r'.activeReplay ∧ r'.replayOfId = r.replayOfId) rows ≤ 1

instance (rows : List (WebhookEvent Payload)) : Decidable (activeReplayUnique rows) :=
  inferInstanceAs (Decidable (∀ _ ∈ _, _))

/-- A statement that would break the index fails. -/
def indexed (s : WebhookStore Payload ω) : Option (WebhookStore Payload ω) :=
  if activeReplayUnique s.rows then some s else none

def claim (id : Uuid) (startedAt lockedAt : Time) (w : WorkerId) (s : WebhookStore Payload ω) :
    Option (WebhookStore Payload ω) :=
  (s.updateRows (WebhookEvent.claimable id startedAt) (WebhookEvent.claim lockedAt w)).indexed

/-- `count` of the claim. -/
def claimCount (id : Uuid) (startedAt : Time) (s : WebhookStore Payload ω) : Nat :=
  Table.count (WebhookEvent.claimable id startedAt) s.rows

def complete (id : Uuid) (w : WorkerId) (outcome : ProcessingOutcome)
    (s : WebhookStore Payload ω) : WebhookStore Payload ω :=
  s.updateRows (WebhookEvent.heldBy id w) (WebhookEvent.complete s.now outcome)

def cancelWebhook (id : Uuid) (s : WebhookStore Payload ω) : WebhookStore Payload ω :=
  s.updateRows (fun r => r.id = id ∧ r.retryable) WebhookEvent.cancel

def purge (retentionMs : Nat) (s : WebhookStore Payload ω) : WebhookStore Payload ω :=
  { s with rows := Table.deleteMany (WebhookEvent.purgeable retentionMs s.now) s.rows }

end WebhookStore

/-- Where a call stands: it is about to run the statement its constructor names. From
`reading` on it holds a claim whose lease began at `lockedAt`. -/
inductive WebhookTask (Payload lo : Type) where
  | idle
  | retrying (id : Uuid)
  | replaying (id : Uuid)
  | creating (original : WebhookEvent Payload)
  | cancelling (id : Uuid)
  | cancellingRow (id : Uuid)
  | starting (id : Uuid)
  | stamping (id : Uuid) (startedAt : Time)
  | claiming (id : Uuid) (startedAt lockedAt : Time)
  | reading (id : Uuid) (lockedAt : Time)
  | handling (id : Uuid) (lockedAt : Time) (run : lo)
  | completing (id : Uuid) (lockedAt : Time) (outcome : ProcessingOutcome)
  | ended

/-- `process` to `cancel` begin a call, `create` inserts the row of a replay, `handler` is a
step inside the handler; `throws` is what the statement that is due does instead. -/
inductive WebhookStep (η : Type) where
  | process (id : Uuid)
  | retry (id : Uuid)
  | replay (id : Uuid)
  | cancel (id : Uuid)
  | next
  | create (id : Uuid)
  | handler (step : η)
  | throws
  | crash

inductive WebhookMove (Payload ε : Type) where
  | receive (id : Uuid) (eventType : WebhookEventType) (payload : Payload) (signature : String)
  | purge (retentionMs : Nat)
  | tick (ms : Nat)
  | elsewhere (step : ε)

namespace WebhookProcessing
variable (H : InboundHandler Payload Message ω lo η ε)

/-- `process` after the claim and the read: the payload goes to the handler. -/
def received (id : Uuid) (lockedAt : Time) (payload : Payload) : WebhookTask Payload lo :=
  match H.parseInboundMessage payload with
  | none => .completing id lockedAt (.skipped "Payload is not an inbound message")
  | some message => .handling id lockedAt (H.execute message)

/-- The next statement of a call, or the next thing it does. -/
def next (w : WorkerId) (s : WebhookStore Payload ω) :
    WebhookTask Payload lo → Option (WebhookStore Payload ω × WebhookTask Payload lo)
  | .retrying id => some (s, if (s.find id).isSome then .starting id else .ended)
  | .replaying id => some (s, match s.find id with
    | none => .ended
    | some original =>
      if original.eventType = .whatsappInbound ∧ original.replayable then .creating original
      else .ended)
  | .cancelling id => some (s, if (s.find id).isSome then .cancellingRow id else .ended)
  | .cancellingRow id => some (s.cancelWebhook id, .ended)
  | .starting id => some (s, .stamping id s.now)
  | .stamping id startedAt => some (s, .claiming id startedAt s.now)
  | .claiming id startedAt lockedAt =>
    match s.claim id startedAt lockedAt w with
    | none => some (s, .ended)
    | some s' => some (s', if s.claimCount id startedAt = 1 then .reading id lockedAt else .ended)
  | .reading id lockedAt => some (s, match s.find id with
    | none => .ended
    | some event => received H id lockedAt event.payload)
  | .handling id lockedAt l => (H.outcome l).map fun outcome =>
      (s, .completing id lockedAt outcome)
  | .completing id _ outcome => some (s.complete id w outcome, .ended)
  | .idle | .creating _ | .ended => none

/-- A replay whose insert breaks the index is refused. -/
def create (s : WebhookStore Payload ω) (id : Uuid) :
    WebhookTask Payload lo → Option (WebhookStore Payload ω × WebhookTask Payload lo)
  | .creating original =>
    if id ∈ s.uuids then none
    else some (match (s.insertRow (original.replay id s.now)).indexed with
      | none => (s, .ended)
      | some s' => (s', .starting id))
  | _ => none

def throws : WebhookTask Payload lo → Option (WebhookTask Payload lo)
  | .retrying _ | .replaying _ | .creating _ | .cancelling _ | .cancellingRow _ | .claiming ..
  | .reading .. | .completing .. => some .ended
  | _ => none

def begin (task' : WebhookTask Payload lo) :
    WebhookTask Payload lo → Option (WebhookTask Payload lo)
  | .idle => some task'
  | _ => none

/-- A step of the handler of a call. -/
def handle (s : WebhookStore Payload ω) (step : η) :
    WebhookTask Payload lo → Option (WebhookStore Payload ω × WebhookTask Payload lo)
  | .handling id lockedAt l =>
    (H.step step s.base l).map fun r => ({ s with base := r.1 }, .handling id lockedAt r.2)
  | _ => none

def act (w : WorkerId) (s : WebhookStore Payload ω) (task : WebhookTask Payload lo) :
    WebhookStep η → Option (WebhookStore Payload ω × WebhookTask Payload lo)
  | .process id => (begin (.starting id) task).map fun t => (s, t)
  | .retry id => (begin (.retrying id) task).map fun t => (s, t)
  | .replay id => (begin (.replaying id) task).map fun t => (s, t)
  | .cancel id => (begin (.cancelling id) task).map fun t => (s, t)
  | .next => next H w s task
  | .create id => create s id task
  | .handler step => handle H s step task
  | .throws => (throws task).map fun t => (s, t)
  | .crash => some (s, .ended)

def move (s : WebhookStore Payload ω) : WebhookMove Payload ε → Option (WebhookStore Payload ω)
  | .receive id eventType payload signature =>
    if id ∈ s.uuids then none
    else some (s.insertRow (recordEvent id s.now eventType payload signature))
  | .purge retentionMs => some (s.purge retentionMs)
  | .tick ms => some { s with now := s.now + ms }
  | .elsewhere step => (H.elsewhere step s.base).map fun base => { s with base := base }

def program :
    Program (WebhookStore Payload ω) (WebhookTask Payload lo) (WebhookStep η)
      (WebhookMove Payload ε) where
  act := act H
  env := move H

def machine : Machine (Pool (WebhookStore Payload ω) (WebhookTask Payload lo))
    (Move (WebhookStep η) (WebhookMove Payload ε)) :=
  (program H).machine

def init (now : Time) (base : ω) : Pool (WebhookStore Payload ω) (WebhookTask Payload lo) :=
  ⟨⟨[], now, [], base⟩, fun _ => .idle⟩

end WebhookProcessing
end OmniSupport.Messaging
