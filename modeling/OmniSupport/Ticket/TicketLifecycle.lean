import OmniSupport.Foundation.Snapshot
import OmniSupport.Ticket.TicketService

/-! The calls on one stored ticket at once: each reads the row, applies the domain operation
in memory, and commits `TicketRepository.update` with its outbox rows. -/
namespace OmniSupport.Ticketing
open Foundation Database Outbox TicketService

/-- The calls that write a stored ticket; `markSlaBreached` is the one statement of the
escalation job. -/
inductive LifecycleCommand where
  | updateTicket (dto : UpdateTicketDto)
  | assignTicket (dto : AssignTicketDto)
  | changeStatus (dto : ChangeStatusDto)
  | escalateTicket (dto : EscalateTicketDto)
  | addComment (dto : AddCommentDto)
  | markSlaBreached

/-- A call with what it gets besides the row: the role of the agent it has found, the
instants, the headers of its events, the id of its comment and the ids of its outbox rows. -/
structure LifecycleCall where
  command : LifecycleCommand
  agentRole : UserRole
  time : Time
  writtenAt : Time
  header : EventHeader
  header' : EventHeader
  commentId : Uuid
  commentHeader : EventHeader
  stamps : List (Uuid × Time)

/-- The entity a call writes, if it writes the ticket, and the events it publishes. -/
abbrev CallOutcome := Option TicketEntity × List DomainEvent

def written (ticket : TicketEntity) : CallOutcome := (some ticket, ticket.events)

def plannedUpdate (dto : UpdateTicketDto) (ticket : TicketEntity) :
    Except AppError CallOutcome := do
  require ticket.isActive (.domain "Cannot update a closed or resolved ticket" "DOMAIN_ERROR")
  let updated ← updatedEntity dto ticket
  return (some updated, [])

def plannedAssign (call : LifecycleCall) (dto : AssignTicketDto) (ticket : TicketEntity) :
    Except AppError CallOutcome := do
  require (ticket.canAssign call.agentRole)
    (.forbidden "This ticket cannot be assigned to the selected user")
  return written (ticket.assign call.time call.header dto.agentId dto.assignedById)

def plannedStatus (call : LifecycleCall) (dto : ChangeStatusDto) (ticket : TicketEntity) :
    Except AppError CallOutcome := do
  let newStatus ← TicketStatus.create dto.newStatus
  let moved ← movedEntity newStatus call.time call.header call.header' dto.changedById ticket
  return written moved

def plannedEscalation (call : LifecycleCall) (dto : EscalateTicketDto) (ticket : TicketEntity) :
    Except AppError CallOutcome := do
  require ticket.canEscalate
    (.domain "Ticket cannot be escalated in its current state" "DOMAIN_ERROR")
  let escalated ← ticket.escalate call.time call.header dto.reason dto.escalatedById
  return written escalated

/-- A customer who replies to a pending ticket sets it in progress. -/
def replies (dto : AddCommentDto) (row : Ticket) : Prop :=
  dto.authorRole = .customer ∧ row.status = .pendingCustomer

instance (dto : AddCommentDto) (row : Ticket) : Decidable (replies dto row) :=
  inferInstanceAs (Decidable (_ ∧ _))

def plannedComment (call : LifecycleCall) (dto : AddCommentDto) (ticket : TicketEntity) :
    Except AppError CallOutcome :=
  let comment := TicketCommentEntity.create call.commentHeader
    (commentProps dto call.commentId call.time)
  if dto.authorRole = .customer ∧ dto.type = .internalNote then
    .error (.forbidden "Customers cannot add internal notes")
  else if replies dto ticket.row then
    (ticket.changeStatus call.time call.header .inProgress dto.authorId).map fun moved =>
      (some moved, moved.events ++ comment.events)
  else .ok (none, comment.events)

def LifecycleCall.outcome (call : LifecycleCall) (ticket : TicketEntity) :
    Except AppError CallOutcome :=
  match call.command with
  | .updateTicket dto => plannedUpdate dto ticket
  | .assignTicket dto => plannedAssign call dto ticket
  | .changeStatus dto => plannedStatus call dto ticket
  | .escalateTicket dto => plannedEscalation call dto ticket
  | .addComment dto => plannedComment call dto ticket
  | .markSlaBreached => .ok (none, [])

def LifecycleCall.isStatement (call : LifecycleCall) : Bool :=
  match call.command with
  | .markSlaBreached => true
  | _ => false

def outboxRows (events : List DomainEvent) (stamps : List (Uuid × Time)) :
    List (OutboxEvent EventBody) :=
  List.zipWith (fun event stamp => toCreateInput stamp.1 stamp.2 event.toPayload) events stamps

def breach (now : Time) (row : Ticket) : Ticket := { row with slaBreached := true, updatedAt := now }

/-- What the transaction of the call does: nothing when a check refuses the call or the
database refuses the row. -/
def LifecycleCall.transaction (call : LifecycleCall) :
    CallOutcome → Option (Planned Ticket (OutboxEvent EventBody))
  | (ticket, events) =>
    if events.length = call.stamps.length ∧
        ticket.all (fun entity => entity.row.category ∈ Store.categories) then
      some ⟨ticket.map fun entity => Ticket.write call.writtenAt entity.row,
        outboxRows events call.stamps⟩
    else none

def LifecycleCall.plan (call : LifecycleCall) (row : Ticket) :
    Option (Planned Ticket (OutboxEvent EventBody)) :=
  if call.isStatement then
    some ⟨if row.slaBreached then none else some (breach call.writtenAt), []⟩
  else
    match call.outcome (.reconstitute row) with
    | .ok outcome => call.transaction outcome
    | .error _ => none

/-- The calls on one ticket. The event ids they draw are new. -/
def lifecycle : Snapshots Ticket LifecycleCall (OutboxEvent EventBody) EventId where
  plan := LifecycleCall.plan
  key row := row.eventId
  atomic := LifecycleCall.isStatement

abbrev LifecyclePool := Pool (Versioned Ticket LifecycleCall (OutboxEvent EventBody))
  (Option (LifecycleCall × Ticket))

abbrev LifecycleMove := Move (SnapshotAction LifecycleCall) Empty

/-- The stored ticket and the outbox, and no call yet. -/
def storedTicket (row : Ticket) (outbox : List (OutboxEvent EventBody)) : LifecyclePool :=
  Snapshots.idle row outbox

/-- The call writes the ticket row. -/
def LifecycleCall.writesTicket (call : LifecycleCall) (copy : Ticket) : Bool :=
  match call.command with
  | .addComment dto => replies dto copy
  | _ => true

/-- The rows are the same but for the time of their last write. -/
def sameColumns (copy row : Ticket) : Prop := { copy with updatedAt := row.updatedAt } = row

instance (copy row : Ticket) : Decidable (sameColumns copy row) :=
  inferInstanceAs (Decidable (_ = _))

/-- A call that writes the ticket commits while the row is still the one it has read. -/
def Undisturbed (c : LifecyclePool) (move : LifecycleMove) : Prop :=
  match move with
  | .act p .commit => ∀ call ∈ c.locals p, call.1.writesTicket call.2 = true →
    sameColumns call.2 c.shared.value
  | _ => True

instance (c : LifecyclePool) : (move : LifecycleMove) → Decidable (Undisturbed c move)
  | .act p .commit => inferInstanceAs (Decidable (∀ call ∈ c.locals p, _))
  | .act _ (.read _) | .act _ (.atomically _) | .act _ .fail => isTrue trivial
  | .env e => e.elim

end OmniSupport.Ticketing
