import OmniSupport.Foundation.Effect
import OmniSupport.Shared.DomainEvent

/-! What ticket events make the notification service do: the e-mails it queues, the
notifications it saves and the realtime messages it sends, with every call it awaits. -/
namespace OmniSupport.Notification
open Foundation

inductive EmailTemplate where
  | ticketCreated (customerName : String) (ticketNumber : Nat) (title ticketUrl tenantName : String)
  | ticketAssigned (agentName : String) (ticketNumber : Nat) (title ticketUrl tenantName : String)
  | ticketEscalated (recipientName : String) (ticketNumber : Nat)
      (title reason ticketUrl tenantName : String)
  | ticketResolved (customerName : String) (ticketNumber : Nat)
      (title ticketUrl tenantName : String)
  | commentNotification (recipientName : String) (ticketNumber : Nat)
      (title authorName ticketUrl tenantName : String)
  deriving DecidableEq

/-- `html` is the template with its arguments. -/
structure EmailJobData where
  tenantId : Option Uuid
  toAddress : String
  subject : String
  html : EmailTemplate
  priority : Nat
  deriving DecidableEq

inductive NotificationChannel where
  | inApp
  | email
  | whatsapp
  deriving DecidableEq

inductive NotificationStatus where
  | pending
  | sent
  | delivered
  | failed
  | read
  deriving DecidableEq

structure NotificationRow where
  id : Uuid
  tenantId : Uuid
  userId : Option Uuid
  customerId : Option Uuid
  ticketId : Option Uuid
  channel : NotificationChannel
  status : NotificationStatus
  subject : Option String
  content : String
  sentAt : Option Time
  retryCount : Nat
  maxRetries : Nat
  createdAt : Time
  deriving DecidableEq

inductive Target where
  | user (id : Uuid)
  | tenant (id : Uuid)
  | ticket (id : Uuid)
  deriving DecidableEq

structure WSMessage where
  target : Target
  event : String
  data : JsonObject
  deriving DecidableEq

structure NotificationStore where
  tickets : List Ticket
  customers : List Customer
  tenants : List Tenant
  users : List User
  emails : List EmailJobData
  notifications : List NotificationRow
  messages : List WSMessage
  deriving DecidableEq

/-- The calls the handlers await. -/
inductive NotificationCall where
  | ticketFindFirst
  | customerFindUnique
  | tenantFindUnique
  | userFindUnique
  | userFindMany
  | emailAdd
  | notificationCreate
  deriving DecidableEq

structure NotificationEnv where
  frontendUrl : String
  uuid : Nat → Uuid
  clock : Nat → Time

abbrev NotifyM := Effect NotificationEnv NotificationStore NotificationCall AppError

structure NotifyTicketCreatedDto where
  tenantId : Uuid
  ticketId : Uuid
  ticketNumber : Nat
  title : String
  customerId : Uuid
  assignedAgentId : Option Uuid

structure NotifyTicketAssignedDto where
  tenantId : Uuid
  ticketId : Uuid
  ticketNumber : Nat
  title : String
  agentId : Uuid
  assignedById : Actor

structure NotifyTicketEscalatedDto where
  tenantId : Uuid
  ticketId : Uuid
  ticketNumber : Nat
  title : String
  reason : String
  assignedAgentId : Option Uuid

structure NotifyCommentAddedDto where
  tenantId : Uuid
  ticketId : Uuid
  ticketNumber : Nat
  title : String
  authorId : Uuid
  authorName : String
  commentType : CommentType
  customerId : Uuid

namespace NotificationService

def findTicket (ticketId tenantId : Uuid) : NotifyM (Option Ticket) :=
  Effect.read .root .ticketFindFirst .database fun s =>
    s.tickets.find? fun ticket => ticket.id = ticketId ∧ ticket.tenantId = tenantId

def findCustomer (id : Uuid) : NotifyM (Option Customer) :=
  Effect.read .root .customerFindUnique .database fun s =>
    s.customers.find? fun customer => customer.id = id

def findTenant (id : Uuid) : NotifyM (Option Tenant) :=
  Effect.read .root .tenantFindUnique .database fun s =>
    s.tenants.find? fun tenant => tenant.id = id

def findUser (id : Uuid) : NotifyM (Option User) :=
  Effect.read .root .userFindUnique .database fun s => s.users.find? fun user => user.id = id

/-- The active managers of a tenant. -/
def findManagers (tenantId : Uuid) : NotifyM (List User) :=
  Effect.read .root .userFindMany .database fun s => s.users.filter fun user =>
    user.tenantId = some tenantId ∧ user.role = .tenantManager ∧ user.status = .active

/-- A ticket with the rows its required relations point to; the query fails when one of
them is missing. -/
structure TicketDetails where
  ticket : Ticket
  customer : Customer
  tenant : Tenant
  assignedAgent : Option User

def includeRelations (s : NotificationStore) (ticket : Ticket) : Except AppError TicketDetails :=
  match s.customers.find? fun customer => customer.id = ticket.customerId,
    s.tenants.find? fun tenant => tenant.id = ticket.tenantId with
  | some customer, some tenant => .ok
    { ticket, customer, tenant
      assignedAgent := ticket.assignedAgentId.bind fun id => s.users.find? fun user => user.id = id }
  | _, _ => .error .database

def findTicketDetails (ticketId tenantId : Uuid) : NotifyM (Option TicketDetails) :=
  Effect.call .root .ticketFindFirst .database fun s =>
    match s.tickets.find? fun ticket => ticket.id = ticketId ∧ ticket.tenantId = tenantId with
    | none => .ok (none, s)
    | some ticket => (includeRelations s ticket).map fun details => (some details, s)

def addEmail (job : EmailJobData) : NotifyM Unit :=
  Effect.modify .root .emailAdd .database fun s => { s with emails := s.emails ++ [job] }

def send (message : WSMessage) : NotifyM Unit :=
  Effect.tell fun s => { s with messages := s.messages ++ [message] }

def createNotification (tenantId : Uuid) (userId customerId ticketId : Option Uuid)
    (channel : NotificationChannel) (subject : Option String) (content : String) :
    NotifyM Unit := do
  let id ← Effect.draw NotificationEnv.uuid
  let sentAt ← Effect.draw NotificationEnv.clock
  let createdAt ← Effect.draw NotificationEnv.clock
  Effect.modify .root .notificationCreate .database fun s =>
    { s with
      notifications := s.notifications ++
        [{ id, tenantId, userId, customerId, ticketId, channel, status := .sent, subject, content
           sentAt := some sentAt, retryCount := 0, maxRetries := 3, createdAt }] }

def ticketUrl (ticketId : Uuid) : NotifyM String :=
  Effect.ask fun env => env.frontendUrl ++ "/tickets/" ++ toString ticketId

def hash (n : Nat) : String := "Ticket #" ++ toString n

def ticketData (ticketId : Uuid) (ticketNumber : Nat) (title : String) : JsonObject :=
  [("ticketId", .id ticketId), ("ticketNumber", .number ticketNumber), ("title", .text title)]

def notifyTicketAssigned (dto : NotifyTicketAssignedDto) : NotifyM Unit := Effect.swallow do
  let (agent, tenant) ← Effect.both (findUser dto.agentId) (findTenant dto.tenantId)
  let some agent := agent | return ()
  let some tenant := tenant | return ()
  let url ← ticketUrl dto.ticketId
  addEmail
    { tenantId := none
      toAddress := agent.email
      subject := "[" ++ tenant.name ++ "] " ++ hash dto.ticketNumber ++ " Assigned to You"
      html := .ticketAssigned agent.firstName dto.ticketNumber dto.title url tenant.name
      priority := 5 }
  send
    { target := .user dto.agentId
      event := "notification:ticket-assigned"
      data := ticketData dto.ticketId dto.ticketNumber dto.title }
  createNotification dto.tenantId (some dto.agentId) none (some dto.ticketId) .inApp
    (some (hash dto.ticketNumber ++ " Assigned"))
    ("Ticket \"" ++ dto.title ++ "\" has been assigned to you.")

def notifyAgentOfAssignment (dto : NotifyTicketAssignedDto) : NotifyM Unit :=
  notifyTicketAssigned dto

def notifyTicketCreated (dto : NotifyTicketCreatedDto) : NotifyM Unit := Effect.swallow do
  let (customer, tenant) ← Effect.both (findCustomer dto.customerId) (findTenant dto.tenantId)
  let some customer := customer | return ()
  let some tenant := tenant | return ()
  let url ← ticketUrl dto.ticketId
  addEmail
    { tenantId := some dto.tenantId
      toAddress := customer.email
      subject := "[" ++ tenant.name ++ "] " ++ hash dto.ticketNumber ++ " Created: " ++ dto.title
      html := .ticketCreated customer.fullName dto.ticketNumber dto.title url tenant.name
      priority := 5 }
  createNotification dto.tenantId none (some dto.customerId) (some dto.ticketId) .inApp
    (some (hash dto.ticketNumber ++ " Created"))
    ("Your support ticket \"" ++ dto.title ++ "\" has been received and is being reviewed.")
  match dto.assignedAgentId with
  | none => pure ()
  | some agentId =>
    notifyAgentOfAssignment
      { tenantId := dto.tenantId
        ticketId := dto.ticketId
        ticketNumber := dto.ticketNumber
        title := dto.title
        agentId
        assignedById := .system }
  send
    { target := .tenant dto.tenantId
      event := "notification:ticket-created"
      data := ticketData dto.ticketId dto.ticketNumber dto.title }

def escalationEmail (recipient : User) (subject : String) (dto : NotifyTicketEscalatedDto)
    (url tenantName : String) : EmailJobData where
  tenantId := none
  toAddress := recipient.email
  subject := subject
  html := .ticketEscalated recipient.firstName dto.ticketNumber dto.title dto.reason url tenantName
  priority := 1

def notifyManager (dto : NotifyTicketEscalatedDto) (url : String) (tenant : Tenant)
    (manager : User) : NotifyM Unit := do
  addEmail (escalationEmail manager
    ("[" ++ tenant.name ++ "] " ++ hash dto.ticketNumber ++ " ESCALATED") dto url tenant.name)
  send
    { target := .user manager.id
      event := "notification:ticket-escalated"
      data := ticketData dto.ticketId dto.ticketNumber dto.title ++ [("reason", .text dto.reason)] }

def notifyTicketEscalated (dto : NotifyTicketEscalatedDto) : NotifyM Unit := Effect.swallow do
  let some tenant ← findTenant dto.tenantId | return ()
  let managers ← findManagers dto.tenantId
  let url ← ticketUrl dto.ticketId
  Effect.forEach managers (notifyManager dto url tenant)
  match dto.assignedAgentId with
  | none => pure ()
  | some agentId =>
    match ← findUser agentId with
    | none => pure ()
    | some agent => addEmail (escalationEmail agent
        ("🚨 " ++ hash dto.ticketNumber ++ " Has Been Escalated") dto url tenant.name)
  send
    { target := .tenant dto.tenantId
      event := "notification:ticket-escalated"
      data := ticketData dto.ticketId dto.ticketNumber dto.title }

def notifyTicketResolved (ticketId tenantId : Uuid) : NotifyM Unit := Effect.swallow do
  let some details ← findTicketDetails ticketId tenantId | return ()
  let url ← ticketUrl ticketId
  let number := details.ticket.ticketNumber
  addEmail
    { tenantId := some tenantId
      toAddress := details.customer.email
      subject := "[" ++ details.tenant.name ++ "] " ++ hash number ++ " Resolved"
      html := .ticketResolved details.customer.fullName number details.ticket.title url
        details.tenant.name
      priority := 5 }
  send
    { target := .ticket ticketId
      event := "notification:ticket-resolved"
      data := [("ticketId", .id ticketId), ("ticketNumber", .number number)] }

def commentMessage (dto : NotifyCommentAddedDto) (event : String) : WSMessage where
  target := .ticket dto.ticketId
  event := event
  data := [("ticketId", .id dto.ticketId), ("authorId", .id dto.authorId),
    ("authorName", .text dto.authorName)]

def replyEmail (dto : NotifyCommentAddedDto) (details : TicketDetails) (url : String) :
    EmailJobData where
  tenantId := some dto.tenantId
  toAddress := details.customer.email
  subject := "[" ++ details.tenant.name ++ "] New reply on " ++ hash dto.ticketNumber
  html := .commentNotification details.customer.fullName dto.ticketNumber dto.title dto.authorName
    url details.tenant.name
  priority := 5

def notifyCommentAdded (dto : NotifyCommentAddedDto) : NotifyM Unit := Effect.swallow do
  if dto.commentType = .internalNote then
    send (commentMessage dto "notification:internal-note-added")
    return ()
  let some details ← findTicketDetails dto.ticketId dto.tenantId | return ()
  match ← findUser dto.authorId with
  | none => pure ()
  | some author =>
    if author.role ≠ .customer then
      let url ← ticketUrl dto.ticketId
      addEmail (replyEmail dto details url)
    else
      match details.assignedAgent with
      | none => pure ()
      | some agent =>
        send
          { target := .user agent.id
            event := "notification:customer-replied"
            data := [("ticketId", .id dto.ticketId), ("ticketNumber", .number dto.ticketNumber),
              ("customerName", .text dto.authorName)] }
  send (commentMessage dto "notification:comment-added")

end NotificationService
open NotificationService

/-- The handler `registerNotificationHandlers` subscribes to the type of the event; the
other event types have none. -/
def notificationHandler : EventBody → Option (NotifyM Unit)
  | .ticketCreated ticketId tenantId customerId .. => some do
    let some ticket ← findTicket ticketId tenantId | return ()
    notifyTicketCreated
      { tenantId
        ticketId
        ticketNumber := ticket.ticketNumber
        title := ticket.title
        customerId
        assignedAgentId := ticket.assignedAgentId }
  | .ticketAssigned ticketId tenantId _ agentId _ assignedById => some do
    let some ticket ← findTicket ticketId tenantId | return ()
    notifyTicketAssigned
      { tenantId
        ticketId
        ticketNumber := ticket.ticketNumber
        title := ticket.title
        agentId
        assignedById := .user assignedById }
  | .ticketEscalated ticketId tenantId _ assignedAgentId reason _ => some do
    let some ticket ← findTicket ticketId tenantId | return ()
    notifyTicketEscalated
      { tenantId
        ticketId
        ticketNumber := ticket.ticketNumber
        title := ticket.title
        reason
        assignedAgentId }
  | .ticketResolved ticketId tenantId .. => some (notifyTicketResolved ticketId tenantId)
  | .commentAdded ticketId tenantId _ authorId commentType => some do
    let (ticket, author) ← Effect.both (findTicket ticketId tenantId) (findUser authorId)
    let some ticket := ticket | return ()
    let some author := author | return ()
    notifyCommentAdded
      { tenantId
        ticketId
        ticketNumber := ticket.ticketNumber
        title := ticket.title
        authorId
        authorName := author.firstName ++ " " ++ author.lastName
        commentType
        customerId := ticket.customerId }
  | _ => none

end OmniSupport.Notification
