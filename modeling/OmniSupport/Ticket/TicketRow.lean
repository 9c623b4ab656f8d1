import OmniSupport.Identity.Account

/-! The rows of `tickets`, `ticket_comments`, `customers` and `attachments` with the value
objects of their columns. -/
namespace OmniSupport

inductive TicketStatus where
  | open
  | inProgress
  | pendingCustomer
  | resolved
  | closed
  deriving DecidableEq, Inhabited, Repr

namespace TicketStatus

def text : TicketStatus → String
  | .open => "OPEN"
  | .inProgress => "IN_PROGRESS"
  | .pendingCustomer => "PENDING_CUSTOMER"
  | .resolved => "RESOLVED"
  | .closed => "CLOSED"

def values : List TicketStatus := [.open, .inProgress, .pendingCustomer, .resolved, .closed]

def create (value : String) : Except AppError TicketStatus :=
  match values.find? fun status => status.text = value with
  | some status => .ok status
  | none => .error (.plain ("Invalid ticket status: " ++ value))

def transitions : TicketStatus → List TicketStatus
  | .open => [.inProgress, .closed]
  | .inProgress => [.pendingCustomer, .resolved, .open]
  | .pendingCustomer => [.inProgress, .resolved, .closed]
  | .resolved => [.closed, .open]
  | .closed => []

def canTransitionTo (status next : TicketStatus) : Bool := next ∈ status.transitions

def isResolved (status : TicketStatus) : Bool := status = .resolved

def isClosed (status : TicketStatus) : Bool := status = .closed

def isActive (status : TicketStatus) : Bool := status ∈ [.open, .inProgress, .pendingCustomer]

end TicketStatus

inductive TicketPriority where
  | low
  | medium
  | high
  | critical
  deriving DecidableEq, Inhabited, Repr

namespace TicketPriority

def text : TicketPriority → String
  | .low => "LOW"
  | .medium => "MEDIUM"
  | .high => "HIGH"
  | .critical => "CRITICAL"

def values : List TicketPriority := [.low, .medium, .high, .critical]

def create (value : String) : Except AppError TicketPriority :=
  match values.find? fun priority => priority.text = value with
  | some priority => .ok priority
  | none => .error (.plain ("Invalid ticket priority: " ++ value))

end TicketPriority

inductive CommentType where
  | publicComment
  | internalNote
  deriving DecidableEq, Inhabited, Repr

def CommentType.text : CommentType → String
  | .publicComment => "PUBLIC"
  | .internalNote => "INTERNAL"

structure Ticket where
  id : Uuid
  tenantId : Uuid
  ticketNumber : Nat
  customerId : Uuid
  assignedAgentId : Option Uuid
  createdById : Uuid
  title : String
  description : String
  status : TicketStatus
  priority : TicketPriority
  category : String
  tags : List String
  source : String
  isEscalated : Bool
  escalatedAt : Option Time
  escalatedReason : Option String
  resolvedAt : Option Time
  closedAt : Option Time
  firstResponseAt : Option Time
  dueAt : Option Time
  slaBreached : Bool
  metadata : JsonObject
  createdAt : Time
  updatedAt : Time
  externalRef : Option String := none
  deriving DecidableEq, Inhabited, Repr

structure TicketComment where
  id : Uuid
  tenantId : Uuid
  ticketId : Uuid
  authorId : Uuid
  content : String
  type : CommentType
  isAiDraft : Bool
  aiDraftId : Option Uuid
  editedAt : Option Time
  metadata : JsonObject
  createdAt : Time
  updatedAt : Time
  deriving DecidableEq, Inhabited, Repr

inductive CustomerStatus where
  | active
  | inactive
  | blocked
  deriving DecidableEq, Inhabited, Repr

inductive RiskLabel where
  | low
  | medium
  | high
  | critical
  deriving DecidableEq, Inhabited, Repr

structure Customer where
  id : Uuid
  tenantId : Uuid
  assignedAgentId : Option Uuid
  fullName : String
  email : String
  phone : Option String
  company : Option String
  notes : Option String
  status : CustomerStatus
  riskScore : Option Rat
  riskLabel : Option String
  metadata : JsonObject
  externalId : Option String
  lastActivityAt : Option Time
  createdAt : Time
  updatedAt : Time
  deriving DecidableEq, Inhabited, Repr

inductive AttachmentStatus where
  | pending
  | clean
  | infected
  | rejected
  deriving DecidableEq, Inhabited, Repr

inductive StorageProvider where
  | s3
  | local
  deriving DecidableEq, Inhabited, Repr

structure Attachment where
  id : Uuid
  tenantId : Uuid
  ticketId : Option Uuid
  commentId : Option Uuid
  uploadedById : Uuid
  filename : String
  originalName : String
  mimeType : String
  sizeBytes : Nat
  storageProvider : StorageProvider
  storagePath : String
  status : AttachmentStatus
  createdAt : Time
  deriving DecidableEq, Inhabited, Repr

/-- The time columns of a new row are set by the database. -/
def Ticket.storedAt (now : Time) (ticket : Ticket) : Ticket :=
  { ticket with createdAt := now, updatedAt := now }

def TicketComment.storedAt (now : Time) (comment : TicketComment) : TicketComment :=
  { comment with createdAt := now, updatedAt := now }

/-- The columns `TicketRepository.update` writes; an undefined value leaves its column as
it is. -/
def Ticket.write (now : Time) (ticket row : Ticket) : Ticket :=
  { row with
    assignedAgentId := ticket.assignedAgentId.or row.assignedAgentId
    title := ticket.title
    description := ticket.description
    status := ticket.status
    priority := ticket.priority
    category := ticket.category
    tags := ticket.tags
    isEscalated := ticket.isEscalated
    escalatedAt := ticket.escalatedAt.or row.escalatedAt
    escalatedReason := ticket.escalatedReason.or row.escalatedReason
    resolvedAt := ticket.resolvedAt.or row.resolvedAt
    closedAt := ticket.closedAt.or row.closedAt
    firstResponseAt := ticket.firstResponseAt.or row.firstResponseAt
    dueAt := ticket.dueAt.or row.dueAt
    slaBreached := ticket.slaBreached
    metadata := ticket.metadata
    updatedAt := now }

def Customer.write (now : Time) (customer row : Customer) : Customer :=
  { row with
    assignedAgentId := customer.assignedAgentId.or row.assignedAgentId
    fullName := customer.fullName
    phone := customer.phone.or row.phone
    company := customer.company.or row.company
    notes := customer.notes.or row.notes
    status := customer.status
    riskScore := some (customer.riskScore.getD 0)
    riskLabel := customer.riskLabel.or row.riskLabel
    metadata := customer.metadata
    lastActivityAt := customer.lastActivityAt.or row.lastActivityAt
    updatedAt := now }

def TicketComment.write (now : Time) (comment row : TicketComment) : TicketComment :=
  { row with
    content := comment.content
    type := comment.type
    isAiDraft := comment.isAiDraft
    aiDraftId := comment.aiDraftId
    editedAt := comment.editedAt
    metadata := comment.metadata
    updatedAt := now }

end OmniSupport
