import OmniSupport.Database.Repositories
import OmniSupport.Identity.AccountEntity

/-! The calls of the user, tenant and customer services that raise events. None of them
opens a transaction around its statements. -/
namespace OmniSupport.Identity
open Foundation Database

structure ChangeRoleDto where
  userId : Uuid
  targetUserId : Uuid
  tenantId : Option Uuid
  newRole : String
  actorRole : UserRole

structure CreateTenantCommand where
  actorId : Actor
  actorRole : UserRole
  name : String
  slug : Option String
  domain : Option String
  plan : Option String
  maxAgents : Option Nat
  maxCustomers : Option Nat

structure SuspendTenantCommand where
  tenantId : Uuid
  actorId : Actor
  actorRole : UserRole
  reason : String

/-- The token service is optional in both services that end sessions. -/
def withRevoker (sessionRevoker : Bool) (revoke : ServiceM Unit) : ServiceM Unit :=
  if sessionRevoker then revoke else pure ()

namespace UserService

def roleDecision (dto : ChangeRoleDto) (target : User) (newRole : UserRole) :
    RoleAssignmentPolicy.RoleAssignmentDecision :=
  RoleAssignmentPolicy.evaluate ⟨dto.userId, dto.actorRole, dto.tenantId⟩
    ⟨target.id, target.role, target.tenantId⟩ newRole

def roleChanged (dto : ChangeRoleDto) (target : User) (newRole : UserRole)
    (header : EventHeader) : UserEntity :=
  (UserEntity.reconstitute target).changeRole header newRole (some dto.userId)
    (some dto.actorRole)

def roleAudit (dto : ChangeRoleDto) (target : User) (occurredAt : Time) : AuditLog where
  tenantId := dto.tenantId.or target.tenantId
  actorId := some dto.userId
  actorRole := some dto.actorRole
  action := .roleChange
  resource := "users"
  resourceId := some target.id
  oldValue := some [("role", .text target.role.text)]
  newValue := some [("role", .text dto.newRole)]
  occurredAt := occurredAt

/-- After the update: sessions carry the old role, so they end. -/
def recordRoleChange (sessionRevoker : Bool) (dto : ChangeRoleDto) (target updated : User)
    (events : List DomainEvent) : ServiceM Unit := do
  withRevoker (sessionRevoker && target.role ≠ updated.role)
    (SessionRevoker.revokeAllUserTokens target.id "ROLE_CHANGED")
  AuditRepository.create (roleAudit dto target)
  OutboxPublisher.publishAll events

def changeRole (sessionRevoker : Bool) (dto : ChangeRoleDto) : ServiceM Unit := do
  let found ← UserRepository.findById dto.targetUserId dto.tenantId
  let target ← Effect.lift (orThrow (.notFound "User" dto.targetUserId) found)
  let newRole ← Effect.lift (UserRole.create dto.newRole)
  let decision := roleDecision dto target newRole
  Effect.lift (require decision.allowed
    (.forbidden (decision.reason.getD "Role change not allowed")))
  let header ← newHeader
  let changed := roleChanged dto target newRole header
  let updated ← UserRepository.update changed.row
  recordRoleChange sessionRevoker dto target updated changed.events

end UserService

namespace TenantService

def createProps (command : CreateTenantCommand) (id : Uuid) (slug : String) (createdAt : Time) :
    Tenant where
  id := id
  name := command.name
  slug := slug
  domain := command.domain
  status := .trial
  plan := command.plan.getD "starter"
  maxAgents := command.maxAgents.getD 5
  maxCustomers := command.maxCustomers.getD 1000
  maxTicketsPerDay := 500
  logoUrl := none
  settings := ⟨none, [], []⟩
  suspendedAt := none
  suspendedReason := none
  createdAt := createdAt
  updatedAt := createdAt

def createdAudit (command : CreateTenantCommand) (id : Uuid) (slug : String)
    (occurredAt : Time) : AuditLog where
  tenantId := none
  actorId := toActorUserId command.actorId
  actorRole := some command.actorRole
  action := .create
  resource := "tenants"
  resourceId := some id
  oldValue := none
  newValue := some [("name", .text command.name), ("slug", .text slug)]
  occurredAt := occurredAt

def requireFreeDomain (domain : Option String) : ServiceM Unit :=
  match domain with
  | none => pure ()
  | some domain =>
    if domain = "" then pure () else do
      let taken ← TenantRepository.existsByDomain domain
      Effect.lift (require (!taken) (.conflict "Domain already registered"))

def createTenant (command : CreateTenantCommand) : ServiceM Unit := do
  let slug ← Effect.lift (tenantSlug (command.slug.getD command.name))
  let taken ← TenantRepository.existsBySlug slug
  Effect.lift (require (!taken) (.conflict "Organization slug already taken"))
  requireFreeDomain command.domain
  let id ← Effect.draw ServiceEnv.uuid
  let createdAt ← now
  let header ← newHeader
  let tenant := TenantEntity.create header (createProps command id slug createdAt)
  let saved ← TenantRepository.save tenant.row
  AuditRepository.create (createdAudit command saved.id slug)
  OutboxPublisher.publishAll tenant.events

def suspendedAudit (command : SuspendTenantCommand) (occurredAt : Time) : AuditLog where
  tenantId := some command.tenantId
  actorId := toActorUserId command.actorId
  actorRole := some command.actorRole
  action := .suspend
  resource := "tenants"
  resourceId := some command.tenantId
  oldValue := none
  newValue := some [("reason", .text command.reason)]
  occurredAt := occurredAt

def suspendTenant (sessionRevoker : Bool) (command : SuspendTenantCommand) : ServiceM Unit := do
  let found ← TenantRepository.findById command.tenantId
  let tenant ← Effect.lift (orThrow (.notFound "Tenant" command.tenantId) found)
  let suspendedAt ← now
  let header ← newHeader
  let suspended ← Effect.lift
    ((TenantEntity.reconstitute tenant).suspend suspendedAt header command.reason)
  let _ ← TenantRepository.update suspended.row
  withRevoker sessionRevoker
    (SessionRevoker.revokeAllTenantTokens command.tenantId "TENANT_SUSPENDED")
  AuditRepository.create (suspendedAudit command)
  OutboxPublisher.publishAll suspended.events

structure RestoreTenantCommand where
  tenantId : Uuid
  actorId : Actor
  actorRole : UserRole

def restoredAudit (command : RestoreTenantCommand) (occurredAt : Time) : AuditLog where
  tenantId := some command.tenantId
  actorId := toActorUserId command.actorId
  actorRole := some command.actorRole
  action := .restore
  resource := "tenants"
  resourceId := some command.tenantId
  oldValue := none
  newValue := none
  occurredAt := occurredAt

def restoreTenant (command : RestoreTenantCommand) : ServiceM Unit := do
  let found ← TenantRepository.findById command.tenantId
  let tenant ← Effect.lift (orThrow (.notFound "Tenant" command.tenantId) found)
  let _ ← TenantRepository.update (TenantEntity.reconstitute tenant).activate.row
  AuditRepository.create (restoredAudit command)

end TenantService

namespace CustomerService

def riskActivity (customerId tenantId : Uuid) (score : JsNumber) (label : String)
    (occurredAt : Time) : ActivityLog where
  tenantId := tenantId
  ticketId := none
  customerId := some customerId
  actorId := none
  actorRole := none
  eventType := .customerRiskUpdated
  description := "Risk score updated to " ++ score.text ++ " (" ++ label ++ ")"
  oldValue := none
  newValue := some [("score", .number (score.value.getD 0)), ("label", .text label)]
  occurredAt := occurredAt

def updateRiskScore (customerId tenantId : Uuid) (score : JsNumber) (label : String) :
    ServiceM Customer := do
  let found ← CustomerRepository.findById customerId tenantId
  let customer ← Effect.lift (orThrow (.notFound "Customer" customerId) found)
  let header ← newHeader
  let scored ← Effect.lift
    ((CustomerEntity.reconstitute customer).updateRiskScore header score label)
  let updated ← CustomerRepository.update scored.row
  ActivityRepository.create (riskActivity customerId tenantId score label)
  OutboxPublisher.publishAll scored.events
  return updated

end CustomerService
end OmniSupport.Identity
