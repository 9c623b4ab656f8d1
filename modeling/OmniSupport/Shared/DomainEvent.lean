import OmniSupport.Ticket.TicketRow
import OmniSupport.Outbox.OutboxEvent

/-! The domain events of the aggregates and how the outbox describes them. -/
namespace OmniSupport
open Outbox

inductive EventBody where
  | ticketCreated (ticketId tenantId customerId createdById : Uuid) (priority : TicketPriority)
      (category : String)
  | ticketAssigned (ticketId tenantId customerId agentId : Uuid) (previousAgentId : Option Uuid)
      (assignedById : Uuid)
  | ticketEscalated (ticketId tenantId customerId : Uuid) (assignedAgentId : Option Uuid)
      (reason : String) (escalatedById : Actor)
  | ticketResolved (ticketId tenantId customerId : Uuid) (agentId : Option Uuid)
      (resolvedById : Uuid)
  | ticketStatusChanged (ticketId tenantId : Uuid) (oldStatus newStatus : TicketStatus)
      (changedById : Uuid)
  | commentAdded (ticketId tenantId commentId authorId : Uuid) (commentType : CommentType)
  | userRoleChanged (userId : Uuid) (tenantId : Option Uuid) (previousRole nextRole : UserRole)
      (changedById : Option Uuid) (changedByRole : Option UserRole)
  | tenantCreated (tenantId : Uuid) (name slug : String)
  | tenantSuspended (tenantId : Uuid) (reason : String)
  | customerCreated (customerId tenantId : Uuid) (email fullName : String)
  | customerRiskUpdated (customerId tenantId : Uuid) (previousScore newScore : Rat)
      (riskLabel : RiskLabel)
  deriving DecidableEq

structure DomainEvent where
  eventId : EventId
  occurredAt : Time
  body : EventBody
  deriving DecidableEq

structure EventHeader where
  eventId : EventId
  occurredAt : Time

def EventHeader.event (header : EventHeader) (body : EventBody) : DomainEvent :=
  ⟨header.eventId, header.occurredAt, body⟩

namespace EventBody

def eventType : EventBody → String
  | .ticketCreated .. => "TICKET_CREATED"
  | .ticketAssigned .. => "TICKET_ASSIGNED"
  | .ticketEscalated .. => "TICKET_ESCALATED"
  | .ticketResolved .. => "TICKET_RESOLVED"
  | .ticketStatusChanged .. => "TICKET_STATUS_CHANGED"
  | .commentAdded .. => "COMMENT_ADDED"
  | .userRoleChanged .. => "USER_ROLE_CHANGED"
  | .tenantCreated .. => "TENANT_CREATED"
  | .tenantSuspended .. => "TENANT_SUSPENDED"
  | .customerCreated .. => "CUSTOMER_CREATED"
  | .customerRiskUpdated .. => "CUSTOMER_RISK_UPDATED"

def tenantId : EventBody → Option Uuid
  | .ticketCreated _ tenantId .. | .ticketAssigned _ tenantId ..
  | .ticketEscalated _ tenantId .. | .ticketResolved _ tenantId ..
  | .ticketStatusChanged _ tenantId .. | .commentAdded _ tenantId ..
  | .tenantCreated tenantId .. | .tenantSuspended tenantId _
  | .customerCreated _ tenantId .. | .customerRiskUpdated _ tenantId .. => some tenantId
  | .userRoleChanged _ tenantId .. => tenantId

/-- `inferAggregate`: the first of the fields `ticketId`, `customerId`, `userId`. -/
def aggregate : EventBody → Option (Uuid × String)
  | .ticketCreated ticketId .. | .ticketAssigned ticketId .. | .ticketEscalated ticketId ..
  | .ticketResolved ticketId .. | .ticketStatusChanged ticketId ..
  | .commentAdded ticketId .. => some (ticketId, "Ticket")
  | .customerCreated customerId .. | .customerRiskUpdated customerId .. =>
    some (customerId, "Customer")
  | .userRoleChanged userId .. => some (userId, "User")
  | .tenantCreated .. | .tenantSuspended .. => none

end EventBody

def DomainEvent.toPayload (event : DomainEvent) : OutboxPayload EventBody where
  eventId := event.eventId
  eventType := event.body.eventType
  occurredAt := event.occurredAt
  tenantId := event.body.tenantId
  aggregateId := event.body.aggregate.map Prod.fst
  aggregateType := event.body.aggregate.map Prod.snd
  payload := event.body

end OmniSupport
