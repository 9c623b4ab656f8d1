import OmniSupport.Database.Repositories
import OmniSupport.Ticket.TicketEntity

/-! The calls of the ticket service that write: what each reads and checks, what it writes
inside its transaction, and what it does after the commit. -/
namespace OmniSupport.Ticketing
open Foundation Database

structure CreateTicketDto where
  tenantId : Uuid
  customerId : Uuid
  createdById : Uuid
  createdByRole : UserRole
  title : String
  description : String
  priority : Option String
  category : Option String
  tags : Option (List String)
  source : Option String
  dueAt : Option Time
  assignedAgentId : Option Uuid

structure UpdateTicketDto where
  tenantId : Uuid
  ticketId : Uuid
  updatedById : Uuid
  updatedByRole : UserRole
  title : Option String
  description : Option String
  priority : Option String
  category : Option String
  tags : Option (List String)
  dueAt : Option Time

structure AssignTicketDto where
  tenantId : Uuid
  ticketId : Uuid
  agentId : Uuid
  assignedById : Uuid
  assignedByRole : UserRole

structure ChangeStatusDto where
  tenantId : Uuid
  ticketId : Uuid
  newStatus : String
  changedById : Uuid
  changedByRole : UserRole

structure EscalateTicketDto where
  tenantId : Uuid
  ticketId : Uuid
  reason : String
  escalatedById : Actor
  escalatedByRole : ActorRole

structure AddCommentDto where
  tenantId : Uuid
  ticketId : Uuid
  authorId : Uuid
  authorRole : UserRole
  content : String
  type : CommentType

structure EditCommentDto where
  tenantId : Uuid
  commentId : Uuid
  authorId : Uuid
  authorRole : Option UserRole
  content : String

structure DeleteCommentDto where
  tenantId : Uuid
  commentId : Uuid
  authorId : Uuid
  authorRole : UserRole

structure CommentAuthor where
  id : Uuid
  firstName : String
  lastName : String
  role : UserRole
  avatarUrl : Option String
  deriving DecidableEq

structure TicketCommentWithAuthor where
  comment : TicketComment
  author : CommentAuthor
  deriving DecidableEq

namespace TicketService

def inTransaction {α : Type} (work : ServiceM α) : ServiceM α :=
  Effect.transaction .commit .database work

def addJobs (jobs : List AIJob) : ServiceM Unit :=
  Effect.read .root (.aiQueueAdd jobs) .database fun _ => ()

def addTicketAnalysis (ticketId tenantId : Uuid) (content : String) : ServiceM Unit :=
  addJobs (["categorize", "sentiment", "urgency"].map fun jobType =>
    ⟨jobType, tenantId, ticketId, content⟩)

def invalidateDashboardCache (tenantId : Uuid) : ServiceM Unit :=
  Effect.read .root (.cacheInvalidate tenantId) .database fun _ => ()

def getTicketOrThrow (id tenantId : Uuid) : ServiceM TicketEntity := do
  let found ← TicketRepository.findById id tenantId
  let ticket ← Effect.lift (orThrow (.notFound "Ticket" id) found)
  return TicketEntity.reconstitute ticket

def findAssignableAgentOrThrow (agentId tenantId : Uuid) : ServiceM User := do
  let found ← Effect.read .root .userFind .database
    (Store.findAssignableAgent agentId tenantId)
  Effect.lift (orThrow (.notFound "Agent" agentId) found)

def publishTicketEvents (ticket : TicketEntity) : ServiceM Unit :=
  OutboxPublisher.publishAll ticket.events

def activity (tenantId ticketId : Uuid) (actorId : Option Uuid) (actorRole : Option ActorRole)
    (eventType : ActivityEventType) (description : String) (oldValue newValue : Option JsonObject)
    (occurredAt : Time) : ActivityLog where
  tenantId := tenantId
  ticketId := some ticketId
  customerId := none
  actorId := actorId
  actorRole := actorRole
  eventType := eventType
  description := description
  oldValue := oldValue
  newValue := newValue
  occurredAt := occurredAt

def ticketAudit (tenantId ticketId : Uuid) (actorId : Option Uuid) (actorRole : ActorRole)
    (action : AuditAction) (oldValue newValue : Option JsonObject) (occurredAt : Time) :
    AuditLog where
  tenantId := some tenantId
  actorId := actorId
  actorRole := some actorRole
  action := action
  resource := "tickets"
  resourceId := some ticketId
  oldValue := oldValue
  newValue := newValue
  occurredAt := occurredAt

/-- The properties of a new ticket. -/
def createProps (dto : CreateTicketDto) (tenant : Tenant) (id : Uuid) (ticketNumber : Nat)
    (priority : TicketPriority) (createdAt : Time) : Ticket where
  id := id
  tenantId := dto.tenantId
  ticketNumber := ticketNumber
  customerId := dto.customerId
  assignedAgentId := dto.assignedAgentId
  createdById := dto.createdById
  title := dto.title
  description := dto.description
  status := .open
  priority := priority
  category := dto.category.getD "GENERAL"
  tags := dto.tags.getD []
  source := dto.source.getD "web"
  isEscalated := false
  escalatedAt := none
  escalatedReason := none
  resolvedAt := none
  closedAt := none
  firstResponseAt := none
  dueAt := some (dto.dueAt.getD (SlaPolicy.computeDueAt priority createdAt tenant))
  slaBreached := false
  metadata := []
  createdAt := createdAt
  updatedAt := createdAt

def createdActivity (dto : CreateTicketDto) (saved : Ticket) (occurredAt : Time) : ActivityLog :=
  { activity dto.tenantId saved.id (some dto.createdById) (some dto.createdByRole) .ticketCreated
      ("Ticket #" ++ toString saved.ticketNumber ++ " created: " ++ dto.title) none
      (some [("ticketId", .id saved.id), ("ticketNumber", .number saved.ticketNumber),
        ("title", .text dto.title)]) occurredAt with
    customerId := some dto.customerId }

def createdAudit (dto : CreateTicketDto) (saved : Ticket) : Time → AuditLog :=
  ticketAudit dto.tenantId saved.id (some dto.createdById) dto.createdByRole .create none
    (some [("ticketNumber", .number saved.ticketNumber), ("title", .text dto.title),
      ("status", .text "OPEN")])

def createTicketWrites (dto : CreateTicketDto) (customer : Customer) (tenant : Tenant) :
    ServiceM Ticket := do
  let ticketNumber ← TicketRepository.getNextTicketNumber dto.tenantId
  let today ← now
  let ticketsCreatedToday ←
    TicketRepository.countCreatedSince dto.tenantId (startOfUtcDay today)
  Effect.lift (require (canCreateTicket tenant ticketsCreatedToday)
    (.forbidden "Tenant ticket limit has been reached"))
  let priority ← Effect.lift (TicketPriority.create (dto.priority.getD "MEDIUM"))
  let id ← Effect.draw ServiceEnv.uuid
  let createdAt ← now
  let header ← newHeader
  let ticket := TicketEntity.create header
    (createProps dto tenant id ticketNumber priority createdAt)
  let saved ← TicketRepository.save ticket.row
  let lastActivityAt ← now
  let _ ← CustomerRepository.update (customer.recordActivity lastActivityAt)
  ActivityRepository.create (createdActivity dto saved)
  AuditRepository.create (createdAudit dto saved)
  publishTicketEvents ticket
  return saved

def createTicket (dto : CreateTicketDto) : ServiceM Ticket := do
  let found ← CustomerRepository.findById dto.customerId dto.tenantId
  let customer ← Effect.lift (orThrow (.notFound "Customer" dto.customerId) found)
  Effect.lift (require (!customer.isBlocked)
    (.forbidden "Cannot create ticket for blocked customer"))
  let tenantRecord ← Effect.read .root .tenantFind .database (Store.findTenant dto.tenantId)
  let tenant ← Effect.lift (orThrow (.notFound "Tenant" dto.tenantId) tenantRecord)
  match dto.assignedAgentId with
  | none => pure ()
  | some agentId => discard (findAssignableAgentOrThrow agentId dto.tenantId)
  let saved ← inTransaction (createTicketWrites dto customer tenant)
  addTicketAnalysis saved.id dto.tenantId (dto.title ++ "\n\n" ++ dto.description)
  invalidateDashboardCache dto.tenantId
  return saved

/-- The values an update changes, under the names of the fields, before and after. -/
def changedValues (dto : UpdateTicketDto) (ticket : Ticket) : List (String × JsonValue × JsonValue) :=
  (match dto.priority with
    | some priority =>
      if priority ≠ "" ∧ priority ≠ ticket.priority.text then
        [("priority", .text ticket.priority.text, .text priority)]
      else []
    | none => []) ++
  (match dto.category with
    | some category =>
      if category ≠ "" ∧ category ≠ ticket.category then
        [("category", .text ticket.category, .text category)]
      else []
    | none => []) ++
  (match dto.title with
    | some title =>
      if title ≠ ticket.title then [("title", .text ticket.title, .text title)] else []
    | none => []) ++
  (match dto.description with
    | some description =>
      if description ≠ ticket.description then
        [("description", .text ticket.description, .text description)]
      else []
    | none => []) ++
  (match dto.tags with
    | some tags => [("tags", .texts ticket.tags, .texts tags)]
    | none => []) ++
  match dto.dueAt with
    | some dueAt =>
      if some dueAt ≠ ticket.dueAt then [("dueAt", .date ticket.dueAt, .date (some dueAt))] else []
    | none => []

def withPriority (value : Option String) (ticket : TicketEntity) : Except AppError TicketEntity :=
  match value with
  | some priority =>
    if priority ≠ "" ∧ priority ≠ ticket.row.priority.text then
      (TicketPriority.create priority).map fun created => ticket.updatePriority created
    else .ok ticket
  | none => .ok ticket

def withCategory (value : Option String) (ticket : TicketEntity) : Except AppError TicketEntity :=
  match value with
  | some category =>
    if category ≠ "" ∧ category ≠ ticket.row.category then ticket.updateCategory category
    else .ok ticket
  | none => .ok ticket

/-- The entity after the update, or the error of the first value that is refused. -/
def updatedEntity (dto : UpdateTicketDto) (ticket : TicketEntity) :
    Except AppError TicketEntity := do
  let ticket ← withPriority dto.priority ticket
  let ticket ← withCategory dto.category ticket
  ticket.updateDetails dto.title dto.description dto.tags dto.dueAt

def updateEventType (changedFields : List String) : ActivityEventType :=
  if changedFields = ["priority"] then .ticketPriorityChanged
  else if changedFields = ["category"] then .ticketCategoryChanged
  else .ticketUpdated

def updatedActivity (dto : UpdateTicketDto) (values : List (String × JsonValue × JsonValue)) :
    Time → ActivityLog :=
  let changedFields := values.map fun v => v.1
  activity dto.tenantId dto.ticketId (some dto.updatedById) (some dto.updatedByRole)
    (updateEventType changedFields)
    ("Ticket updated: " ++ String.intercalate ", " changedFields)
    (some (values.map fun v => (v.1, v.2.1))) (some (values.map fun v => (v.1, v.2.2)))

def updatedAudit (dto : UpdateTicketDto) (values : List (String × JsonValue × JsonValue)) :
    Time → AuditLog :=
  ticketAudit dto.tenantId dto.ticketId (some dto.updatedById) dto.updatedByRole .update
    (some (values.map fun v => (v.1, v.2.1))) (some (values.map fun v => (v.1, v.2.2)))

def updateTicketWrites (dto : UpdateTicketDto) (ticket : TicketEntity)
    (values : List (String × JsonValue × JsonValue)) : ServiceM Ticket := do
  let updated ← TicketRepository.update ticket.row
  if values = [] then return updated
  ActivityRepository.create (updatedActivity dto values)
  AuditRepository.create (updatedAudit dto values)
  return updated

def updateTicket (dto : UpdateTicketDto) : ServiceM Ticket := do
  let ticket ← getTicketOrThrow dto.ticketId dto.tenantId
  Effect.lift (require ticket.isActive
    (.domain "Cannot update a closed or resolved ticket" "DOMAIN_ERROR"))
  let updated ← Effect.lift (updatedEntity dto ticket)
  let updated ← inTransaction (updateTicketWrites dto updated (changedValues dto ticket.row))
  invalidateDashboardCache dto.tenantId
  return updated

def assignedActivity (dto : AssignTicketDto) (agent : User) (previousAgentId : Option Uuid) :
    Time → ActivityLog :=
  activity dto.tenantId dto.ticketId (some dto.assignedById) (some dto.assignedByRole)
    (if previousAgentId.isSome then .ticketReassigned else .ticketAssigned)
    ("Ticket assigned to " ++ agent.firstName ++ " " ++ agent.lastName)
    (previousAgentId.map fun id => [("agentId", .id id)]) (some [("agentId", .id dto.agentId)])

def assignedAudit (dto : AssignTicketDto) : Time → AuditLog :=
  ticketAudit dto.tenantId dto.ticketId (some dto.assignedById) dto.assignedByRole .assign none
    (some [("agentId", .id dto.agentId)])

/-- The writes that `assignTicket`, `changeStatus` and `escalateTicket` share: the ticket,
its activity and audit rows, and its events. -/
def ticketWrites (ticket : TicketEntity) (activity : Time → ActivityLog) (audit : Time → AuditLog) :
    ServiceM Ticket := do
  let updated ← TicketRepository.update ticket.row
  ActivityRepository.create activity
  AuditRepository.create audit
  publishTicketEvents ticket
  return updated

def assignTicket (dto : AssignTicketDto) : ServiceM Ticket := do
  let ticket ← getTicketOrThrow dto.ticketId dto.tenantId
  let agent ← findAssignableAgentOrThrow dto.agentId dto.tenantId
  Effect.lift (require (ticket.canAssign agent.role)
    (.forbidden "This ticket cannot be assigned to the selected user"))
  let time ← now
  let header ← newHeader
  let updated ← inTransaction (ticketWrites
    (ticket.assign time header dto.agentId dto.assignedById)
    (assignedActivity dto agent ticket.row.assignedAgentId) (assignedAudit dto))
  invalidateDashboardCache dto.tenantId
  return updated

def statusActivity (dto : ChangeStatusDto) (oldStatus : TicketStatus) : Time → ActivityLog :=
  activity dto.tenantId dto.ticketId (some dto.changedById) (some dto.changedByRole)
    .ticketStatusChanged
    ("Status changed from " ++ oldStatus.text ++ " to " ++ dto.newStatus)
    (some [("status", .text oldStatus.text)]) (some [("status", .text dto.newStatus)])

def statusAudit (dto : ChangeStatusDto) (oldStatus : TicketStatus) : Time → AuditLog :=
  ticketAudit dto.tenantId dto.ticketId (some dto.changedById) dto.changedByRole .update
    (some [("status", .text oldStatus.text)]) (some [("status", .text dto.newStatus)])

/-- `resolve` also raises the event that drives the customer notification. -/
def movedEntity (newStatus : TicketStatus) (time : Time) (header header' : EventHeader)
    (changedById : Uuid) (ticket : TicketEntity) : Except AppError TicketEntity :=
  if newStatus.isResolved then ticket.resolve time header header' changedById
  else ticket.changeStatus time header newStatus changedById

/-- A resolved ticket is summarized. -/
def addSummary (dto : ChangeStatusDto) (newStatus : TicketStatus) (ticket : Ticket) :
    ServiceM Unit :=
  if newStatus.isResolved then
    addJobs [⟨"summarize", dto.tenantId, dto.ticketId,
      ticket.title ++ "\n\n" ++ ticket.description⟩]
  else return ()

def changeStatus (dto : ChangeStatusDto) : ServiceM Ticket := do
  let ticket ← getTicketOrThrow dto.ticketId dto.tenantId
  let newStatus ← Effect.lift (TicketStatus.create dto.newStatus)
  let time ← now
  let header ← newHeader
  let header' ← newHeader
  let moved ← Effect.lift (movedEntity newStatus time header header' dto.changedById ticket)
  let updated ← inTransaction (ticketWrites moved (statusActivity dto ticket.row.status)
    (statusAudit dto ticket.row.status))
  invalidateDashboardCache dto.tenantId
  addSummary dto newStatus moved.row
  return updated

def escalatedActivity (dto : EscalateTicketDto) (escalatedAt : Time) : Time → ActivityLog :=
  activity dto.tenantId dto.ticketId (toActorUserId dto.escalatedById) (some dto.escalatedByRole)
    .ticketEscalated ("Ticket escalated: " ++ dto.reason) none
    (some [("reason", .text dto.reason), ("escalatedAt", .date (some escalatedAt))])

def escalatedAudit (dto : EscalateTicketDto) : Time → AuditLog :=
  ticketAudit dto.tenantId dto.ticketId (toActorUserId dto.escalatedById) dto.escalatedByRole
    .escalate none (some [("reason", .text dto.reason)])

def escalateTicket (dto : EscalateTicketDto) : ServiceM Ticket := do
  let ticket ← getTicketOrThrow dto.ticketId dto.tenantId
  Effect.lift (require ticket.canEscalate
    (.domain "Ticket cannot be escalated in its current state" "DOMAIN_ERROR"))
  let time ← now
  let header ← newHeader
  let escalated ← Effect.lift (ticket.escalate time header dto.reason dto.escalatedById)
  let escalatedAt ← now
  let updated ← inTransaction (ticketWrites escalated (escalatedActivity dto escalatedAt)
    (escalatedAudit dto))
  invalidateDashboardCache dto.tenantId
  return updated

def commentProps (dto : AddCommentDto) (id : Uuid) (createdAt : Time) : TicketComment where
  id := id
  tenantId := dto.tenantId
  ticketId := dto.ticketId
  authorId := dto.authorId
  content := dto.content
  type := dto.type
  isAiDraft := false
  aiDraftId := none
  editedAt := none
  metadata := []
  createdAt := createdAt
  updatedAt := createdAt

def commentActivity (dto : AddCommentDto) (commentId : Uuid) (author : User) : Time → ActivityLog :=
  activity dto.tenantId dto.ticketId (some dto.authorId) (some dto.authorRole) .commentAdded
    ((if dto.type = .internalNote then "Internal note" else "Comment") ++ " added by " ++
      author.firstName)
    none (some [("commentId", .id commentId), ("type", .text dto.type.text)])

/-- A customer who replies to a pending ticket sets it in progress. -/
def replyStatus (dto : AddCommentDto) (ticket : TicketEntity) : ServiceM TicketEntity :=
  if dto.authorRole = .customer ∧ ticket.row.status = .pendingCustomer then do
    let time ← now
    let header ← newHeader
    let moved ← Effect.lift (ticket.changeStatus time header .inProgress dto.authorId)
    let _ ← TicketRepository.update moved.row
    return moved
  else return ticket

def addCommentWrites (dto : AddCommentDto) (ticket : TicketEntity) (comment : TicketCommentEntity)
    (author : User) : ServiceM Unit := do
  CommentRepository.save comment.row
  let ticket ← replyStatus dto ticket
  ActivityRepository.create (commentActivity dto comment.row.id author)
  publishTicketEvents ticket
  OutboxPublisher.publishAll comment.events

def authorDetails (author : User) : CommentAuthor :=
  ⟨author.id, author.firstName, author.lastName, author.role, author.avatarUrl⟩

/-- Public comments are analysed. -/
def addSentiment (dto : AddCommentDto) : ServiceM Unit :=
  if dto.type = .publicComment then
    addJobs [⟨"sentiment", dto.tenantId, dto.ticketId, dto.content⟩]
  else return ()

/-- The times of the returned comment are read after the commit. -/
def addComment (dto : AddCommentDto) : ServiceM TicketCommentWithAuthor := do
  let ticket ← getTicketOrThrow dto.ticketId dto.tenantId
  let found ← Effect.read .root .userFind .database (Store.findUser dto.authorId)
  let author ← Effect.lift (orThrow (.notFound "User" dto.authorId) found)
  Effect.lift (require (!(dto.authorRole = .customer && dto.type = .internalNote))
    (.forbidden "Customers cannot add internal notes"))
  let commentId ← Effect.draw ServiceEnv.uuid
  let createdAt ← now
  let header ← newHeader
  let comment := TicketCommentEntity.create header (commentProps dto commentId createdAt)
  inTransaction (addCommentWrites dto ticket comment author)
  let returnedAt ← now
  let returnedAt' ← now
  addSentiment dto
  return ⟨{ comment.row with createdAt := returnedAt, updatedAt := returnedAt' },
    authorDetails author⟩

def editedActivity (dto : EditCommentDto) (comment : TicketComment) : Time → ActivityLog :=
  activity dto.tenantId comment.ticketId (some dto.authorId) dto.authorRole .commentEdited
    "Comment was edited" none (some [("commentId", .id comment.id)])

def editCommentWrites (dto : EditCommentDto) (comment : TicketCommentEntity) :
    ServiceM TicketComment := do
  let updated ← CommentRepository.update comment.row
  ActivityRepository.create (editedActivity dto comment.row)
  return updated

def editComment (dto : EditCommentDto) : ServiceM TicketComment := do
  let found ← CommentRepository.findById dto.commentId dto.tenantId
  let comment ← Effect.lift (orThrow (.notFound "Comment" dto.commentId) found)
  Effect.lift (require (comment.authorId = dto.authorId)
    (.forbidden "You can only edit your own comments"))
  let ticket ← getTicketOrThrow comment.ticketId dto.tenantId
  Effect.lift (require ticket.isActive
    (.domain "Cannot edit comments on a closed or resolved ticket" "DOMAIN_ERROR"))
  let time ← now
  let edited ← Effect.lift ((TicketCommentEntity.reconstitute comment).edit time dto.content)
  inTransaction (editCommentWrites dto edited)

def deletedActivity (dto : DeleteCommentDto) (comment : TicketComment) : Time → ActivityLog :=
  activity dto.tenantId comment.ticketId (some dto.authorId) (some dto.authorRole) .commentDeleted
    "Comment was deleted" (some [("commentId", .id comment.id)]) none

def deleteCommentWrites (dto : DeleteCommentDto) (comment : TicketComment) : ServiceM Unit := do
  CommentRepository.delete dto.commentId dto.tenantId
  ActivityRepository.create (deletedActivity dto comment)

def deleteComment (dto : DeleteCommentDto) : ServiceM Unit := do
  let found ← CommentRepository.findById dto.commentId dto.tenantId
  let comment ← Effect.lift (orThrow (.notFound "Comment" dto.commentId) found)
  Effect.lift (require
    (comment.authorId = dto.authorId || dto.authorRole = .platformAdmin ||
      dto.authorRole = .tenantManager)
    (.forbidden "You do not have permission to delete this comment"))
  let ticket ← getTicketOrThrow comment.ticketId dto.tenantId
  Effect.lift (require (ticket.isActive || dto.authorRole = .platformAdmin)
    (.domain "Cannot delete comments on a closed or resolved ticket" "DOMAIN_ERROR"))
  inTransaction (deleteCommentWrites dto comment)

end TicketService
end OmniSupport.Ticketing
