import OmniSupport.Foundation.Table
import OmniSupport.Auth.TokenStore
import OmniSupport.Auth.CredentialRows
import OmniSupport.Identity.PermissionCatalog
import OmniSupport.Shared.DomainEvent

/-! The tables of the services, and what the statements on them find and change. -/
namespace OmniSupport.Database
open Foundation Outbox

inductive ActivityEventType where
  | ticketCreated
  | ticketAssigned
  | ticketReassigned
  | ticketStatusChanged
  | ticketPriorityChanged
  | ticketEscalated
  | ticketUpdated
  | ticketCategoryChanged
  | commentAdded
  | commentEdited
  | commentDeleted
  | customerCreated
  | customerUpdated
  | customerRiskUpdated
  deriving DecidableEq

structure ActivityLog where
  tenantId : Uuid
  ticketId : Option Uuid
  customerId : Option Uuid
  actorId : Option Uuid
  actorRole : Option ActorRole
  eventType : ActivityEventType
  description : String
  oldValue : Option JsonObject
  newValue : Option JsonObject
  occurredAt : Time
  deriving DecidableEq

inductive AuditAction where
  | create
  | update
  | delete
  | login
  | suspend
  | restore
  | escalate
  | assign
  | roleChange
  deriving DecidableEq

structure AuditLog where
  tenantId : Option Uuid
  actorId : Option Uuid
  actorRole : Option ActorRole
  action : AuditAction
  resource : String
  resourceId : Option Uuid
  oldValue : Option JsonObject
  newValue : Option JsonObject
  occurredAt : Time
  ipAddress : Option String := none
  userAgent : Option String := none
  metadata : JsonObject := []
  deriving DecidableEq

structure TicketSequence where
  tenantId : Uuid
  lastNumber : Nat
  deriving DecidableEq

structure Store where
  tickets : List Ticket
  comments : List TicketComment
  customers : List Customer
  tenants : List Tenant
  users : List User
  refreshTokens : List (Auth.RefreshToken String)
  sequences : List TicketSequence
  activities : List ActivityLog
  audits : List AuditLog
  outbox : List (OutboxEvent EventBody)
  resetTokens : List Auth.PasswordResetToken := []
  oauthAccounts : List Auth.OAuthAccount := []
  invitations : List Auth.Invitation := []
  customerLinks : List Auth.CustomerLink := []
  permissions : List Identity.Permission := Identity.Permission.allPermissions
  roles : List Identity.Role := []
  memberships : List Identity.UserRoleMembership := []
  attachments : List Attachment := []
  deriving DecidableEq

namespace Store

def findTicket (id tenantId : Uuid) (s : Store) : Option Ticket :=
  s.tickets.find? fun ticket => ticket.id = id ∧ ticket.tenantId = tenantId

def findComment (id tenantId : Uuid) (s : Store) : Option TicketComment :=
  s.comments.find? fun comment => comment.id = id ∧ comment.tenantId = tenantId

def findCustomer (id tenantId : Uuid) (s : Store) : Option Customer :=
  s.customers.find? fun customer => customer.id = id ∧ customer.tenantId = tenantId

def findTenant (id : Uuid) (s : Store) : Option Tenant :=
  s.tenants.find? fun tenant => tenant.id = id

def tenantsWithSlug (slug : String) (s : Store) : Nat :=
  Table.count (fun tenant => tenant.slug = slug) s.tenants

def tenantsWithDomain (domain : String) (s : Store) : Nat :=
  Table.count (fun tenant => tenant.domain = some domain) s.tenants

def findUser (id : Uuid) (s : Store) : Option User := s.users.find? fun user => user.id = id

/-- The filter on the tenant is left out when there is none. -/
def findUserIn (id : Uuid) (tenantId : Option Uuid) (s : Store) : Option User :=
  s.users.find? fun user => user.id = id ∧ (tenantId = none ∨ user.tenantId = tenantId)

def findAssignableAgent (agentId tenantId : Uuid) (s : Store) : Option User :=
  s.users.find? fun user =>
    user.id = agentId ∧ user.tenantId = some tenantId ∧
      (user.role = .agent ∨ user.role = .tenantManager) ∧ user.status = .active

/-- The upsert of the sequence row, with the number it returns. -/
def nextTicketNumber (tenantId : Uuid) (s : Store) : Nat × Store :=
  match s.sequences.find? fun sequence => sequence.tenantId = tenantId with
  | some sequence =>
    (sequence.lastNumber + 1,
      { s with
        sequences := Table.updateMany (fun row => row.tenantId = tenantId)
          (fun row => { row with lastNumber := row.lastNumber + 1 }) s.sequences })
  | none => (1, { s with sequences := s.sequences ++ [⟨tenantId, 1⟩] })

def countCreatedSince (tenantId : Uuid) (since : Time) (s : Store) : Nat :=
  Table.count (fun ticket => ticket.tenantId = tenantId ∧ since ≤ ticket.createdAt) s.tickets

/-- The values of the column `category`. -/
def categories : List String :=
  ["BILLING", "TECHNICAL", "ACCOUNT", "REFUND", "SHIPPING", "GENERAL", "OTHER"]

def insertTicket (row : Ticket) (s : Store) : Store :=
  { s with tickets := s.tickets ++ [row] }

def updateTicket (id : Uuid) (f : Ticket → Ticket) (s : Store) : Store :=
  { s with tickets := Table.updateMany (fun row => row.id = id) f s.tickets }

def updateCustomer (id : Uuid) (f : Customer → Customer) (s : Store) : Store :=
  { s with customers := Table.updateMany (fun row => row.id = id) f s.customers }

def updateUser (id : Uuid) (f : User → User) (s : Store) : Store :=
  { s with users := Table.updateMany (fun row => row.id = id) f s.users }

def insertTenant (row : Tenant) (s : Store) : Store :=
  { s with tenants := s.tenants ++ [row] }

def updateTenant (id : Uuid) (f : Tenant → Tenant) (s : Store) : Store :=
  { s with tenants := Table.updateMany (fun row => row.id = id) f s.tenants }

/-- The unique column `email`. -/
def emailTaken (user : User) (s : Store) : Prop :=
  ∃ other ∈ s.users, other.id ≠ user.id ∧ other.email = user.email

instance (user : User) (s : Store) : Decidable (s.emailTaken user) :=
  inferInstanceAs (Decidable (∃ other ∈ s.users, _))

/-- The unique column `domain`. -/
def domainTaken (tenant : Tenant) (s : Store) : Prop :=
  ∃ other ∈ s.tenants, other.id ≠ tenant.id ∧ tenant.domain.isSome ∧ other.domain = tenant.domain

instance (tenant : Tenant) (s : Store) : Decidable (s.domainTaken tenant) :=
  inferInstanceAs (Decidable (∃ other ∈ s.tenants, _))

/-- The unique columns `id`, `slug` and `domain` of a new row. -/
def tenantTaken (row : Tenant) (s : Store) : Prop :=
  ∃ tenant ∈ s.tenants, tenant.id = row.id ∨ tenant.slug = row.slug ∨
    (row.domain.isSome ∧ tenant.domain = row.domain)

instance (row : Tenant) (s : Store) : Decidable (s.tenantTaken row) :=
  inferInstanceAs (Decidable (∃ tenant ∈ s.tenants, _))

/-- The one `updateMany` of every revocation: the rows `p` selects that are still live. -/
def revokeTokens (p : Auth.RefreshToken String → Prop) [DecidablePred p] (now : Time)
    (reason : String) (s : Store) : Store :=
  { s with
    refreshTokens := Table.updateMany (fun t => p t ∧ t.isRevoked = false)
      (Auth.TokenStore.revoke now reason) s.refreshTokens }

def insertComment (row : TicketComment) (s : Store) : Store :=
  { s with comments := s.comments ++ [row] }

def updateComment (id : Uuid) (f : TicketComment → TicketComment) (s : Store) : Store :=
  { s with comments := Table.updateMany (fun row => row.id = id) f s.comments }

/-- The attachments of a comment that goes stay, without it. -/
def deleteComment (id tenantId : Uuid) (s : Store) : Store :=
  { s with
    comments := Table.deleteMany (fun row => row.id = id ∧ row.tenantId = tenantId) s.comments
    attachments := Table.updateMany
      (fun row => row.commentId = some id ∧ (s.findComment id tenantId).isSome)
      (fun row => { row with commentId := none }) s.attachments }

def insertActivity (row : ActivityLog) (s : Store) : Store :=
  { s with activities := s.activities ++ [row] }

def insertAudit (row : AuditLog) (s : Store) : Store :=
  { s with audits := s.audits ++ [row] }

/-- One row of `createMany` with `skipDuplicates`; its id is new. -/
def enqueue (row : OutboxEvent EventBody) (s : Store) : Store :=
  if ∃ r ∈ s.outbox, r.eventId = row.eventId then s
  else { s with outbox := s.outbox ++ [row] }

def enqueueMany (rows : List (OutboxEvent EventBody)) (s : Store) : Store :=
  rows.foldl (fun s row => s.enqueue row) s

end Store

end OmniSupport.Database
