import OmniSupport.Attachment.AttachmentService
import OmniSupport.Identity.RoleStore
import OmniSupport.Ticket.TicketChange
import OmniSupport.Ticket.TicketController

/-! The requests that write on tickets, with the checks on their way: the organization of
the caller, the ticket a route names, the permission, and the call of the service. -/
namespace OmniSupport.Ticketing
open Foundation Effect Database

/-- The caller, as the verified access token names them. -/
structure RequestUser where
  id : Uuid
  email : String
  role : UserRole
  tenantId : Option Uuid

def toActor (user : RequestUser) (tenantId : Uuid) : TicketActor :=
  ⟨user.id, user.role, user.email, tenantId⟩

def assertTenantActive (tenant : Tenant) : Except AppError Unit :=
  match tenant.status with
  | .active | .trial => .ok ()
  | .suspended =>
    .error (.forbidden "Your organization has been suspended. Please contact support.")
  | .cancelled => .error (.forbidden "Your organization account has been cancelled")

/-- The tenant middleware, and after it `requireTenantContext`. -/
def tenantContext (user : RequestUser) : ServiceM Uuid :=
  if user.role = .platformAdmin then
    Effect.throw (.forbidden "This action requires an organization context")
  else
    match user.tenantId with
    | none => Effect.throw (.forbidden "User is not associated with any organization")
    | some tenantId => do
      let found ← Effect.read .root .tenantFind .database (Store.findTenant tenantId)
      let tenant ← Effect.lift (orThrow (.forbidden "Organization not found") found)
      Effect.lift (assertTenantActive tenant)
      return tenantId

def requirePermission (user : RequestUser) (permission : Identity.Permission) : ServiceM Unit := do
  let held ← Effect.read .root .membershipFind .database
    (Identity.getEffectivePermissions ⟨user.id, user.role, user.tenantId⟩)
  Effect.lift (require (permission ∈ held)
    (.forbidden ("This action requires the " ++ permission.key ++ " permission")))

structure CreateTicketBody where
  customerId : Option Uuid
  title : String
  description : String
  priority : String
  category : String
  tags : List String
  source : String
  assignedAgentId : Option Uuid
  dueAt : Option Time

structure UpdateTicketBody where
  title : Option String
  description : Option String
  priority : Option String
  category : Option String
  tags : Option (List String)
  dueAt : Option Time

structure UploadBody where
  filename : String
  mimeType : String
  content : Attachments.Bytes
  ticketId : Option Uuid
  commentId : Option Uuid

/-- Requests with their validated bodies; the first id is the one in the path. -/
inductive TicketRequest where
  | create (body : CreateTicketBody)
  | update (ticketId : Uuid) (body : UpdateTicketBody)
  | assign (ticketId agentId : Uuid)
  | changeStatus (ticketId : Uuid) (status : String)
  | escalate (ticketId : Uuid) (reason : String)
  | addComment (ticketId : Uuid) (content : String) (type : CommentType)
  | editComment (commentId : Uuid) (content : String)
  | deleteComment (commentId : Uuid)
  | upload (body : UploadBody)

inductive HttpReply where
  | ticket (response : TicketResponse)
  | comment (reply : TicketCommentWithAuthor)
  | edited (id : Uuid) (content : String) (editedAt : Option Time)
  | uploaded (id : Uuid) (filename mimeType : String) (sizeBytes : Nat)
      (status : AttachmentStatus)
  | noContent
  deriving DecidableEq

def respond : TicketReply → HttpReply
  | .ticket row => .ticket (TicketController.toTicketResponse row)
  | .commented reply => .comment reply
  | .comment row => .edited row.id row.content row.editedAt
  | .done => .noContent

/-- The guard of every route with a ticket id. -/
def authorizeTicket (user : RequestUser) (tenantId ticketId : Uuid) : ServiceM Unit := do
  let _ ← TicketAccessService.assertCanAccess (toActor user tenantId) ticketId

namespace TicketController

/-- Customers file tickets for their own record. -/
def ticketCustomer (user : RequestUser) (tenantId : Uuid) (body : CreateTicketBody) :
    ServiceM Uuid :=
  if user.role = .customer then TicketAccessService.requireOwnCustomerId (toActor user tenantId)
  else Effect.lift (orThrow (.validation "Customer ID is required for staff tickets")
    body.customerId)

/-- Customers cannot set triage fields. -/
def createDto (user : RequestUser) (tenantId customerId : Uuid) (body : CreateTicketBody) :
    CreateTicketDto :=
  let isCustomer : Bool := user.role = .customer
  { tenantId := tenantId
    customerId := customerId
    createdById := user.id
    createdByRole := user.role
    title := body.title
    description := body.description
    priority := if isCustomer then none else some body.priority
    category := some body.category
    tags := some body.tags
    source := some body.source
    dueAt := if isCustomer then none else body.dueAt
    assignedAgentId := if isCustomer then none else body.assignedAgentId }

def create (user : RequestUser) (tenantId : Uuid) (body : CreateTicketBody) :
    ServiceM HttpReply := do
  let customerId ← ticketCustomer user tenantId body
  respond <$> perform (.createTicket (createDto user tenantId customerId body))

def update (user : RequestUser) (tenantId ticketId : Uuid) (body : UpdateTicketBody) :
    ServiceM HttpReply :=
  respond <$> perform (.updateTicket
    ⟨tenantId, ticketId, user.id, user.role, body.title, body.description, body.priority,
      body.category, body.tags, body.dueAt⟩)

def assign (user : RequestUser) (tenantId ticketId agentId : Uuid) : ServiceM HttpReply :=
  respond <$> perform (.assignTicket ⟨tenantId, ticketId, agentId, user.id, user.role⟩)

def changeStatus (user : RequestUser) (tenantId ticketId : Uuid) (status : String) :
    ServiceM HttpReply :=
  respond <$> perform (.changeStatus ⟨tenantId, ticketId, status, user.id, user.role⟩)

def escalate (user : RequestUser) (tenantId ticketId : Uuid) (reason : String) :
    ServiceM HttpReply :=
  respond <$> perform (.escalateTicket ⟨tenantId, ticketId, reason, .user user.id, user.role⟩)

def addComment (user : RequestUser) (tenantId ticketId : Uuid) (content : String)
    (type : CommentType) : ServiceM HttpReply :=
  respond <$> perform (.addComment ⟨tenantId, ticketId, user.id, user.role, content, type⟩)

end TicketController

namespace CommentController

def update (user : RequestUser) (tenantId commentId : Uuid) (content : String) :
    ServiceM HttpReply :=
  respond <$> perform (.editComment ⟨tenantId, commentId, user.id, some user.role, content⟩)

def delete (user : RequestUser) (tenantId commentId : Uuid) : ServiceM HttpReply :=
  respond <$> perform (.deleteComment ⟨tenantId, commentId, user.id, user.role⟩)

end CommentController

namespace AttachmentController

def authorizeNamed (user : RequestUser) (tenantId : Uuid) : Option Uuid → ServiceM Unit
  | none => return ()
  | some ticketId => authorizeTicket user tenantId ticketId

def uploadData (user : RequestUser) (tenantId : Uuid) (body : UploadBody) :
    Attachments.UploadAttachmentData :=
  ⟨tenantId, user.id, body.filename, body.mimeType, body.content, body.ticketId, body.commentId⟩

/-- The second check covers attachments linked through a comment only. -/
def upload (files : Attachments.FileServices) (user : RequestUser) (tenantId : Uuid)
    (body : UploadBody) : ServiceM HttpReply := do
  authorizeNamed user tenantId body.ticketId
  let attachment ← Attachments.AttachmentService.uploadAttachment files
    (uploadData user tenantId body)
  authorizeNamed user tenantId (if body.ticketId.isNone then attachment.ticketId else none)
  return .uploaded attachment.id attachment.filename attachment.mimeType attachment.sizeBytes
    attachment.status

end AttachmentController

/-- A route with a ticket id: the guard, the permission if one is required, the handler. -/
def ticketRoute (user : RequestUser) (tenantId ticketId : Uuid)
    (permission : Option Identity.Permission) (handler : ServiceM HttpReply) :
    ServiceM HttpReply := do
  authorizeTicket user tenantId ticketId
  match permission with
  | none => handler
  | some permission => do
    requirePermission user permission
    handler

def route (files : Attachments.FileServices) (user : RequestUser) (tenantId : Uuid) :
    TicketRequest → ServiceM HttpReply
  | .create body => do
    requirePermission user .ticketsCreate
    TicketController.create user tenantId body
  | .update ticketId body =>
    ticketRoute user tenantId ticketId (some .ticketsUpdate)
      (TicketController.update user tenantId ticketId body)
  | .assign ticketId agentId =>
    ticketRoute user tenantId ticketId (some .ticketsAssign)
      (TicketController.assign user tenantId ticketId agentId)
  | .changeStatus ticketId status =>
    ticketRoute user tenantId ticketId (some .ticketsUpdate)
      (TicketController.changeStatus user tenantId ticketId status)
  | .escalate ticketId reason =>
    ticketRoute user tenantId ticketId (some .ticketsEscalate)
      (TicketController.escalate user tenantId ticketId reason)
  | .addComment ticketId content type =>
    ticketRoute user tenantId ticketId none
      (TicketController.addComment user tenantId ticketId content type)
  | .editComment commentId content => CommentController.update user tenantId commentId content
  | .deleteComment commentId => CommentController.delete user tenantId commentId
  | .upload body => AttachmentController.upload files user tenantId body

def handle (files : Attachments.FileServices) (user : RequestUser) (request : TicketRequest) :
    ServiceM HttpReply := do
  let tenantId ← tenantContext user
  route files user tenantId request

end OmniSupport.Ticketing
