import OmniSupport.Database.Queries
import OmniSupport.Identity.AccountService

/-! Updates of a tenant's details and settings, and the clean-up of cancelled tenants. -/
namespace OmniSupport

/-- The entries of a settings patch; `json` is its text. -/
structure SettingsPatch where
  featureFlags : Option String
  slaHours : Option (List (String × Rat))
  others : List (String × String)
  json : String

/-- `{ ...entries, ...patch }`. -/
def spreadEntries (entries patch : List (String × String)) : List (String × String) :=
  entries.map (fun entry => (entry.1, (patch.lookup entry.1).getD entry.2)) ++
    patch.filter fun entry => entry.1 ∉ entries.map Prod.fst

def TenantSettings.spread (settings : TenantSettings) (patch : SettingsPatch) : TenantSettings where
  featureFlags := patch.featureFlags.or settings.featureFlags
  slaHours := patch.slaHours.getD settings.slaHours
  others := spreadEntries settings.others patch.others

structure TenantDetails where
  name : Option String
  domain : Option String
  plan : Option String
  maxAgents : Option Nat
  maxCustomers : Option Nat
  maxTicketsPerDay : Option Nat

namespace TenantEntity

def updateSettings (patch : SettingsPatch) (tenant : TenantEntity) : TenantEntity :=
  { tenant with row := { tenant.row with settings := tenant.row.settings.spread patch } }

/-- An undefined value leaves its field as it is. -/
def updateDetails (details : TenantDetails) (tenant : TenantEntity) : TenantEntity :=
  { tenant with
    row :=
      { tenant.row with
        name := details.name.getD tenant.row.name
        domain := details.domain.or tenant.row.domain
        plan := details.plan.getD tenant.row.plan
        maxAgents := details.maxAgents.getD tenant.row.maxAgents
        maxCustomers := details.maxCustomers.getD tenant.row.maxCustomers
        maxTicketsPerDay := details.maxTicketsPerDay.getD tenant.row.maxTicketsPerDay } }

end TenantEntity

namespace Database
open Foundation

/-- The rows that refer to the tenant go with it, and so do those of its users and tickets. -/
def Store.deleteTenant (id : Uuid) (s : Store) : Store :=
  let ofUser := fun userId => (s.findUser userId).bind User.tenantId = some id
  let ofTicket := fun ticketId => ∃ ticket ∈ s.tickets, ticket.id = ticketId ∧ ticket.tenantId = id
  let ofComment := fun commentId =>
    ∃ comment ∈ s.comments, comment.id = commentId ∧ ofTicket comment.ticketId
  { s with
    tenants := Table.deleteMany (fun row => row.id = id) s.tenants
    users := Table.deleteMany (fun row => row.tenantId = some id) s.users
    customers := Table.deleteMany (fun row => row.tenantId = id) s.customers
    tickets := Table.deleteMany (fun row => row.tenantId = id) s.tickets
    comments := Table.deleteMany (fun row => ofTicket row.ticketId) s.comments
    activities := Table.deleteMany (fun row => row.tenantId = id) s.activities
    audits := Table.updateMany (fun row => row.tenantId = some id)
      (fun row => { row with tenantId := none }) s.audits
    roles := Table.deleteMany (fun row => row.tenantId = some id) s.roles
    memberships := Table.deleteMany (fun row => row.tenantId = id ∨ ofUser row.userId) s.memberships
    invitations := Table.deleteMany (fun row => row.tenantId = id) s.invitations
    customerLinks := Table.deleteMany (fun row => row.tenantId = id ∨ ofUser row.userId)
      s.customerLinks
    refreshTokens := Table.deleteMany (fun row => ofUser row.userId) s.refreshTokens
    resetTokens := Table.deleteMany (fun row => ofUser row.userId) s.resetTokens
    oauthAccounts := Table.deleteMany (fun row => ofUser row.userId) s.oauthAccounts
    attachments := s.attachments.map fun row =>
      { row with
        ticketId := row.ticketId.filter fun ticketId => ¬ ofTicket ticketId
        commentId := row.commentId.filter fun commentId => ¬ ofComment commentId } }

namespace TenantRepository

/-- The tenants with a status, the newest first. -/
def findAllWith (status : TenantStatus) (page limit : Nat) : ServiceM (PaginatedResult Tenant) :=
  findPage .tenantFindMany .tenantCount (.infrastructure "Failed to list tenants")
    (fun _ s => .ok (s.tenants.filter fun row => row.status = status))
    (fun row row' => row'.createdAt ≤ row.createdAt) { page := page, limit := limit }

def delete (id : Uuid) : ServiceM Unit :=
  Effect.call .root .tenantDelete (.infrastructure "Failed to delete tenant") fun s =>
    if s.findTenant id = none then .error (.infrastructure "Failed to delete tenant")
    else .ok ((), s.deleteTenant id)

end TenantRepository
end Database

namespace Identity
open Foundation Database

structure UpdateTenantCommand where
  tenantId : Uuid
  actorId : Actor
  actorRole : UserRole
  details : TenantDetails
  settings : Option SettingsPatch

namespace TenantService

/-- The values the update names. -/
def updatedValues (command : UpdateTenantCommand) : JsonObject :=
  [("name", command.details.name.map .text),
    ("domain", command.details.domain.map .text),
    ("plan", command.details.plan.map .text),
    ("maxAgents", command.details.maxAgents.map fun n => .number n),
    ("maxCustomers", command.details.maxCustomers.map fun n => .number n),
    ("maxTicketsPerDay", command.details.maxTicketsPerDay.map fun n => .number n),
    ("settings", command.settings.map fun patch => .text patch.json)].filterMap fun entry =>
      entry.2.map fun value => (entry.1, value)

def updatedAudit (command : UpdateTenantCommand) (occurredAt : Time) : AuditLog where
  tenantId := some command.tenantId
  actorId := toActorUserId command.actorId
  actorRole := some command.actorRole
  action := .update
  resource := "tenants"
  resourceId := some command.tenantId
  oldValue := none
  newValue := some (updatedValues command)
  occurredAt := occurredAt

/-- Only a domain other than the tenant's own is looked up. -/
def requireNewDomain (domain current : Option String) : ServiceM Unit :=
  if domain = current then pure () else requireFreeDomain domain

def emptyPatch : SettingsPatch := ⟨none, none, [], "{}"⟩

def updatedTenant (command : UpdateTenantCommand) (row : Tenant) : TenantEntity :=
  ((TenantEntity.reconstitute row).updateDetails command.details).updateSettings
    (command.settings.getD emptyPatch)

def updateTenant (command : UpdateTenantCommand) : ServiceM Unit := do
  let found ← TenantRepository.findById command.tenantId
  let tenant ← Effect.lift (orThrow (.notFound "Tenant" command.tenantId) found)
  requireNewDomain command.details.domain tenant.domain
  let _ ← TenantRepository.update (updatedTenant command tenant).row
  AuditRepository.create (updatedAudit command)

end TenantService

/-- Ninety days in milliseconds. -/
def retention : Time := 90 * 24 * 60 * 60 * 1000

/-- The tenant's suspension is older than the cut-off of a clean-up at this time. -/
def pastRetention (now : Time) (tenant : Tenant) : Bool :=
  tenant.suspendedAt.any fun suspendedAt => suspendedAt + retention < now

/-- `createTenantCleanupJob`. -/
def tenantCleanup : ServiceM Unit := do
  let tenants ← TenantRepository.findAllWith .cancelled 1 1000
  let now ← Database.now
  Effect.forEach tenants.data fun tenant =>
    if pastRetention now tenant then TenantRepository.delete tenant.id else pure ()

end Identity
end OmniSupport
