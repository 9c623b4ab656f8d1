import OmniSupport.Foundation.Transaction
import OmniSupport.Database.Store

/-! The statements of the repositories, each an awaited call. Most repositories resolve
their client from the ambient transaction; those of users and tenants keep the root
client. -/
namespace OmniSupport.Database
open Foundation Outbox

/-- `ILIKE` with a pattern around the second text, and full text search in a document made
of the given columns. -/
structure TextSearch where
  contains : String → String → Bool := fun text part => text = part
  searches : List String → String → Bool := fun document query => query ∈ document
  rank : List String → String → Rat := fun _ _ => 0

/-- A job for the AI queue: its type, the ticket and the text to work on. -/
structure AIJob where
  jobType : String
  tenantId : Uuid
  ticketId : Uuid
  content : String
  deriving DecidableEq

/-- The awaited calls: statements of the database, and calls to the password hasher, the
queues, the caches and Google, which hold no row of the store. -/
inductive ServiceCall where
  | customerFind
  | tenantFind
  | tenantFindMany
  | userFind
  | ticketFind
  | commentFind
  | sequenceUpsert
  | ticketCount
  | ticketCreate
  | ticketUpdate
  | customerUpdate
  | commentCreate
  | commentUpdate
  | commentDelete
  | activityCreate
  | auditCreate
  | userUpdate
  | tenantCount
  | tenantCreate
  | tenantLock
  | tenantUpdate
  | tenantDelete
  | userCount
  | userCreate
  | refreshTokenFind
  | refreshTokenCreate
  | refreshTokenUpdateMany
  | resetTokenFind
  | resetTokenCreate
  | resetTokenUpdate
  | resetTokenDeleteMany
  | oauthAccountFind
  | oauthAccountCreate
  | oauthAccountDeleteMany
  | invitationFind
  | invitationUpdateMany
  | invitationCreate
  | invitationUpdate
  | customerLinkCreate
  | ticketUpdateMany
  | customerUpdateMany
  | membershipFind
  | membershipUpsert
  | membershipDeleteMany
  | roleFind
  | roleCreate
  | roleUpdate
  | roleDelete
  | permissionFind
  | customerLinkFind
  | ticketFindMany
  | ticketBreach (id tenantId : Uuid)
  | commentFindMany
  | customerFindMany
  | activityFindMany
  | customerCount
  | activityCount
  | customerCreate
  | customerDeleteMany
  | attachmentCreate
  | searchQuery
  | policyValidate
  | storageUpload
  | passwordHash
  | passwordVerify
  | googleExchange
  | emailQueueAdd
  | userCacheInvalidate
  | outboxCreateMany
  | commit
  | aiQueueAdd (jobs : List AIJob)
  | cacheInvalidate (tenantId : Uuid)
  deriving DecidableEq

/-- The random values and the clock, by the number of values drawn so far, and what the
database does by rules of its own: it compares and searches texts, and orders rows with
equal sort keys, in each query anew, by the tie number of their position. -/
structure ServiceEnv where
  uuid : Nat → Uuid
  eventId : Nat → EventId
  clock : Nat → Time
  text : TextSearch := {}
  ties : Nat → Nat → Nat := fun _ position => position

def ServiceEnv.header (env : ServiceEnv) (n : Nat) : EventHeader := ⟨env.eventId n, env.clock n⟩

abbrev ServiceM := Effect ServiceEnv Store ServiceCall AppError

def newHeader : ServiceM EventHeader := Effect.draw ServiceEnv.header

def now : ServiceM Time := Effect.draw ServiceEnv.clock

def orThrow {α : Type} (error : AppError) (found : Option α) : Except AppError α :=
  match found with
  | some a => .ok a
  | none => .error error

/-- `if (!condition) throw error`. -/
def require (condition : Bool) (error : AppError) : Except AppError Unit :=
  if condition then .ok () else .error error

namespace TicketRepository

def findById (id tenantId : Uuid) : ServiceM (Option Ticket) :=
  Effect.read .ambient .ticketFind (.infrastructure "Failed to find ticket")
    (Store.findTicket id tenantId)

def save (ticket : Ticket) : ServiceM Ticket := do
  let now ← Effect.draw ServiceEnv.clock
  let row := ticket.storedAt now
  Effect.call .ambient .ticketCreate (.infrastructure "Failed to save ticket") fun s =>
    if (∃ t ∈ s.tickets, t.id = row.id) ∨ row.category ∉ Store.categories then
      .error (.infrastructure "Failed to save ticket")
    else .ok (row, s.insertTicket row)

def updateRow (now : Time) (ticket : Ticket) (s : Store) : Except AppError (Ticket × Store) :=
  match s.tickets.find? fun row => row.id = ticket.id with
  | none => .error (.infrastructure "Failed to update ticket")
  | some row =>
    if ticket.category ∈ Store.categories then
      .ok (Ticket.write now ticket row, s.updateTicket ticket.id (Ticket.write now ticket))
    else .error (.infrastructure "Failed to update ticket")

def update (ticket : Ticket) : ServiceM Ticket := do
  let now ← Effect.draw ServiceEnv.clock
  Effect.call .ambient .ticketUpdate (.infrastructure "Failed to update ticket")
    (updateRow now ticket)

def getNextTicketNumber (tenantId : Uuid) : ServiceM Nat :=
  Effect.call .ambient .sequenceUpsert (.infrastructure "Failed to get next ticket number")
    fun s => .ok (s.nextTicketNumber tenantId)

def countCreatedSince (tenantId : Uuid) (since : Time) : ServiceM Nat :=
  Effect.call .ambient .ticketCount .database fun s => .ok (s.countCreatedSince tenantId since, s)

end TicketRepository

namespace CustomerRepository

def findById (id tenantId : Uuid) : ServiceM (Option Customer) :=
  Effect.read .ambient .customerFind (.infrastructure "Failed to find customer")
    (Store.findCustomer id tenantId)

def updateRow (now : Time) (customer : Customer) (s : Store) :
    Except AppError (Customer × Store) :=
  match s.customers.find? fun row => row.id = customer.id with
  | none => .error (.infrastructure "Failed to update customer")
  | some row =>
    .ok (Customer.write now customer row,
      s.updateCustomer customer.id (Customer.write now customer))

def update (customer : Customer) : ServiceM Customer := do
  let now ← Effect.draw ServiceEnv.clock
  Effect.call .ambient .customerUpdate (.infrastructure "Failed to update customer")
    (updateRow now customer)

end CustomerRepository

namespace CommentRepository

def findById (id tenantId : Uuid) : ServiceM (Option TicketComment) :=
  Effect.read .ambient .commentFind .database (Store.findComment id tenantId)

/-- `connect` fails unless the ticket and the author exist. -/
def save (comment : TicketComment) : ServiceM Unit := do
  let now ← Effect.draw ServiceEnv.clock
  let row := comment.storedAt now
  Effect.call .ambient .commentCreate .database fun s =>
    if (∃ c ∈ s.comments, c.id = row.id) ∨ (¬ ∃ t ∈ s.tickets, t.id = row.ticketId) ∨
        ¬ ∃ u ∈ s.users, u.id = row.authorId then
      .error .database
    else .ok ((), s.insertComment row)

def updateRow (now : Time) (comment : TicketComment) (s : Store) :
    Except AppError (TicketComment × Store) :=
  match s.comments.find? fun row => row.id = comment.id with
  | none => .error .database
  | some row =>
    .ok (TicketComment.write now comment row,
      s.updateComment comment.id (TicketComment.write now comment))

def update (comment : TicketComment) : ServiceM TicketComment := do
  let now ← Effect.draw ServiceEnv.clock
  Effect.call .ambient .commentUpdate .database (updateRow now comment)

def delete (id tenantId : Uuid) : ServiceM Unit :=
  Effect.call .ambient .commentDelete .database fun s => .ok ((), s.deleteComment id tenantId)

end CommentRepository

namespace UserRepository

def findById (id : Uuid) (tenantId : Option Uuid) : ServiceM (Option User) :=
  Effect.read .root .userFind .database (Store.findUserIn id tenantId)

/-- `connect` fails unless the tenant of the user exists. -/
def updateRow (now : Time) (user : User) (s : Store) : Except AppError (User × Store) :=
  match s.findUser user.id with
  | none => .error .database
  | some row =>
    if s.emailTaken user ∨ ∃ tenantId, user.tenantId = some tenantId ∧ s.findTenant tenantId = none
    then .error .database
    else .ok (User.write now user row, s.updateUser user.id (User.write now user))

def update (user : User) : ServiceM User := do
  let now ← Effect.draw ServiceEnv.clock
  Effect.call .root .userUpdate .database (updateRow now user)

end UserRepository

namespace TenantRepository

def findById (id : Uuid) : ServiceM (Option Tenant) :=
  Effect.read .root .tenantFind (.infrastructure "Failed to find tenant by id")
    (Store.findTenant id)

def existsBySlug (slug : String) : ServiceM Bool :=
  Effect.read .root .tenantCount .database fun s => 0 < s.tenantsWithSlug slug

def existsByDomain (domain : String) : ServiceM Bool :=
  Effect.read .root .tenantCount .database fun s => 0 < s.tenantsWithDomain domain

def save (tenant : Tenant) : ServiceM Tenant := do
  let now ← Effect.draw ServiceEnv.clock
  let row := tenant.storedAt now
  Effect.call .root .tenantCreate (.infrastructure "Failed to save tenant") fun s =>
    if s.tenantTaken row then .error (.infrastructure "Tenant slug or domain already exists")
    else .ok (row, s.insertTenant row)

/-- The stored flags are kept instead of the copy in memory. -/
def withStoredFlags (current : Option Tenant) (tenant : Tenant) : Tenant :=
  { tenant with
    settings :=
      { tenant.settings with
        featureFlags :=
          (current.bind fun row => row.settings.featureFlags).or tenant.settings.featureFlags } }

def updateError : AppError := .infrastructure "Failed to update tenant"

def updateRow (now : Time) (tenant : Tenant) (s : Store) : Except AppError (Tenant × Store) :=
  match s.findTenant tenant.id with
  | none => .error updateError
  | some row =>
    if s.domainTaken tenant then .error updateError
    else .ok (Tenant.write now tenant row, s.updateTenant tenant.id (Tenant.write now tenant))

/-- `SELECT .. FOR UPDATE` and the update, in a transaction of their own. -/
def updateLocked (tenant : Tenant) : ServiceM Tenant := do
  let current ← Effect.read .ambient .tenantLock updateError (Store.findTenant tenant.id)
  let now ← Effect.draw ServiceEnv.clock
  Effect.call .ambient .tenantUpdate updateError (updateRow now (withStoredFlags current tenant))

def update (tenant : Tenant) : ServiceM Tenant :=
  Effect.transaction .commit updateError (updateLocked tenant)

end TenantRepository

namespace SessionRevoker

def revokeAllUserTokens (userId : Uuid) (reason : String) : ServiceM Unit := do
  let now ← Effect.draw ServiceEnv.clock
  Effect.modify .root .refreshTokenUpdateMany .database
    (Store.revokeTokens (fun t => t.userId = userId) now reason)

/-- The tokens whose user belongs to the tenant, by the relation `user`. -/
def revokeAllTenantTokens (tenantId : Uuid) (reason : String) : ServiceM Unit := do
  let now ← Effect.draw ServiceEnv.clock
  Effect.modify .root .refreshTokenUpdateMany .database fun s =>
    s.revokeTokens (fun t => (s.findUser t.userId).bind User.tenantId = some tenantId) now reason

end SessionRevoker

namespace ActivityRepository

def create (entry : Time → ActivityLog) : ServiceM Unit := do
  let now ← Effect.draw ServiceEnv.clock
  Effect.call .ambient .activityCreate (.infrastructure "Failed to create activity log") fun s =>
    .ok ((), s.insertActivity (entry now))

end ActivityRepository

namespace AuditRepository

/-- A failed insert is rethrown inside a transaction and only logged outside of one. -/
def create (entry : Time → AuditLog) : ServiceM Unit := do
  let now ← Effect.draw ServiceEnv.clock
  Effect.rethrowInTransaction (Effect.call .ambient .auditCreate .database fun s =>
    .ok ((), s.insertAudit (entry now)))

end AuditRepository

namespace OutboxPublisher

def toRow (event : DomainEvent) : ServiceM (OutboxEvent EventBody) := do
  let id ← Effect.draw ServiceEnv.uuid
  let now ← Effect.draw ServiceEnv.clock
  return toCreateInput id now event.toPayload

def toRows : List DomainEvent → ServiceM (List (OutboxEvent EventBody))
  | [] => return []
  | event :: rest => do
    let row ← toRow event
    let rows ← toRows rest
    return row :: rows

/-- `publishAll`, which is `enqueueMany`: nothing for no events. -/
def publishAll (events : List DomainEvent) : ServiceM Unit :=
  if events = [] then pure () else do
    let rows ← toRows events
    Effect.call .ambient .outboxCreateMany .database fun s => .ok ((), s.enqueueMany rows)

end OutboxPublisher
end OmniSupport.Database
