import OmniSupport.Shared.JsText
import OmniSupport.Shared.DomainEvent

/-! The ticket and comment aggregates in memory, with the events they have raised, and the
policies that guard their operations. -/
namespace OmniSupport

/-- `TicketCategory.create`; the text is the stored value. -/
def ticketCategory (value : String) : Except AppError String :=
  let normalized := JsText.spacesToUnderscore (JsText.toUpperCase (JsText.trim value))
  if normalized ∈ ["GENERAL", "BILLING", "TECHNICAL", "ACCOUNT", "FEATURE_REQUEST", "BUG"] then
    .ok normalized
  else .error (.plain ("Invalid ticket category: " ++ value))

/-- `row` holds the properties, `events` the domain events not yet pulled. -/
structure TicketEntity where
  row : Ticket
  events : List DomainEvent
  deriving DecidableEq

namespace TicketEntity

def create (header : EventHeader) (props : Ticket) : TicketEntity where
  row := props
  events := [header.event (.ticketCreated props.id props.tenantId props.customerId
    props.createdById props.priority props.category)]

def reconstitute (row : Ticket) : TicketEntity := ⟨row, []⟩

def changeStatus (now : Time) (header : EventHeader) (newStatus : TicketStatus)
    (changedById : Uuid) (ticket : TicketEntity) : Except AppError TicketEntity :=
  let row := ticket.row
  if row.status.canTransitionTo newStatus then
    .ok
      { row :=
          { row with
            status := newStatus
            resolvedAt :=
              if newStatus.isActive then none
              else if newStatus.isResolved then row.resolvedAt.or (some now)
              else row.resolvedAt
            closedAt :=
              if newStatus.isActive then none
              else if newStatus.isClosed then row.closedAt.or (some now)
              else row.closedAt }
        events := ticket.events ++ [header.event
          (.ticketStatusChanged row.id row.tenantId row.status newStatus changedById)] }
  else
    .error (.domain ("Cannot transition from " ++ row.status.text ++ " to " ++ newStatus.text)
      "DOMAIN_ERROR")

def assign (now : Time) (header : EventHeader) (agentId assignedById : Uuid)
    (ticket : TicketEntity) : TicketEntity :=
  let row := ticket.row
  { row :=
      { row with
        assignedAgentId := some agentId
        firstResponseAt := row.firstResponseAt.or (some now) }
    events := ticket.events ++ [header.event
      (.ticketAssigned row.id row.tenantId row.customerId agentId row.assignedAgentId
        assignedById)] }

def escalate (now : Time) (header : EventHeader) (reason : String) (escalatedById : Actor)
    (ticket : TicketEntity) : Except AppError TicketEntity :=
  let row := ticket.row
  if row.isEscalated then .error (.domain "Ticket is already escalated" "DOMAIN_ERROR")
  else .ok
    { row :=
        { row with
          isEscalated := true
          escalatedAt := some now
          escalatedReason := some reason
          priority := .critical }
      events := ticket.events ++ [header.event
        (.ticketEscalated row.id row.tenantId row.customerId row.assignedAgentId reason
          escalatedById)] }

/-- `changeStatus` to RESOLVED, then the event that drives the customer notification. -/
def resolve (now : Time) (header header' : EventHeader) (resolvedById : Uuid)
    (ticket : TicketEntity) : Except AppError TicketEntity := do
  let ticket ← ticket.changeStatus now header .resolved resolvedById
  let row := ticket.row
  return { ticket with
    events := ticket.events ++ [header'.event
      (.ticketResolved row.id row.tenantId row.customerId row.assignedAgentId resolvedById)] }

def updatePriority (priority : TicketPriority) (ticket : TicketEntity) : TicketEntity :=
  { ticket with row := { ticket.row with priority := priority } }

def updateCategory (category : String) (ticket : TicketEntity) : Except AppError TicketEntity := do
  let category ← ticketCategory category
  return { ticket with row := { ticket.row with category := category } }

/-- A text field that may be left out, but not blank. -/
def detail (message : String) (current : String) : Option String → Except AppError String
  | none => .ok current
  | some value =>
    if JsText.trim value = "" then .error (.domain message "DOMAIN_ERROR")
    else .ok (JsText.trim value)

def updateDetails (title description : Option String) (tags : Option (List String))
    (dueAt : Option Time) (ticket : TicketEntity) : Except AppError TicketEntity := do
  let row := ticket.row
  let title ← detail "Ticket title cannot be empty" row.title title
  let description ← detail "Ticket description cannot be empty" row.description description
  return { ticket with
    row :=
      { row with
        title := title
        description := description
        tags := (tags.map List.eraseDups).getD row.tags
        dueAt := dueAt.or row.dueAt } }

def isActive (ticket : TicketEntity) : Bool := ticket.row.status.isActive

def canAssign (ticket : TicketEntity) (assigneeRole : UserRole) : Bool :=
  ticket.isActive && assigneeRole ∈ [UserRole.agent, .tenantManager, .platformAdmin]

def canEscalate (ticket : TicketEntity) : Bool := ticket.isActive && !ticket.row.isEscalated

end TicketEntity

structure TicketCommentEntity where
  row : TicketComment
  events : List DomainEvent
  deriving DecidableEq

namespace TicketCommentEntity

def create (header : EventHeader) (props : TicketComment) : TicketCommentEntity where
  row := props
  events := [header.event
    (.commentAdded props.ticketId props.tenantId props.id props.authorId props.type)]

def reconstitute (row : TicketComment) : TicketCommentEntity := ⟨row, []⟩

def edit (now : Time) (content : String) (comment : TicketCommentEntity) :
    Except AppError TicketCommentEntity :=
  if JsText.trim content = "" then .error (.domain "Comment content cannot be empty" "DOMAIN_ERROR")
  else .ok { comment with
    row := { comment.row with content := JsText.trim content, editedAt := some now } }

end TicketCommentEntity

def Customer.isBlocked (customer : Customer) : Bool := customer.status = .blocked

def Customer.recordActivity (now : Time) (customer : Customer) : Customer :=
  { customer with lastActivityAt := some now }

def Tenant.canCreateTicket (tenant : Tenant) : Bool :=
  tenant.status = .active || tenant.status = .trial

/-- `TenantLimitsPolicy.canCreateTicket`. -/
def canCreateTicket (tenant : Tenant) (ticketsCreatedToday : Nat) : Bool :=
  tenant.canCreateTicket && ticketsCreatedToday < tenant.maxTicketsPerDay

namespace SlaPolicy

def defaultSlaHours : TicketPriority → Rat
  | .critical => 4
  | .high => 8
  | .medium => 24
  | .low => 72

def resolveHours (priority : TicketPriority) (tenant : Tenant) : Rat :=
  match tenant.settings.slaHours.find? fun entry => entry.1 = priority.text with
  | some (_, hours) => if 0 < hours then hours else defaultSlaHours priority
  | none => defaultSlaHours priority

def computeDueAt (priority : TicketPriority) (createdAt : Time) (tenant : Tenant) : Time :=
  ((createdAt : Rat) + resolveHours priority tenant * 3600000).floor.toNat

end SlaPolicy

def msPerDay : Nat := 24 * 60 * 60 * 1000

def startOfUtcDay (t : Time) : Time := t - t % msPerDay

end OmniSupport
