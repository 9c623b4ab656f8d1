import OmniSupport.Foundation.Process
import OmniSupport.Identity.AccountService
import OmniSupport.Identity.RoleStore
import OmniSupport.Identity.StaffLifecycle

/-! Tenant roles and their members: the calls of the role service, and those that change or
remove a member, as programs of atomic statements. -/
namespace OmniSupport.Identity
open Foundation Database Outbox

structure RoleActor where
  id : Uuid
  role : UserRole
  tenantId : Uuid

structure RoleView where
  id : Uuid
  name : String
  displayName : String
  description : Option String
  isSystem : Bool
  permissions : List String
  memberCount : Nat

structure CreateRoleInput where
  name : String
  displayName : String
  description : Option String
  permissions : List String

structure UpdateRoleInput where
  displayName : Option String
  description : Option String
  permissions : Option (List String)

/-- The rows of `role_permissions` a transaction deletes and those it inserts, with the
classes of the members the check of the call has seen. -/
structure GrantChange where
  deleted : List Permission
  created : List Permission
  checked : List UserRole

/-- The statements. A transaction takes effect when it commits. No statement uses what the
check of its call has seen. -/
inductive RoleStatement where
  | find (kind : ServiceCall)
  | createRole (row : Role)
  | updateRole (id : Uuid) (displayName description : Option String) (change : Option GrantChange)
  | deleteRole (id : Uuid)
  | upsertMembership (row : UserRoleMembership) (checkedClass : UserRole)
      (checkedGrants : List Permission)
  | deleteMemberships (userId roleId tenantId : Uuid)
  | updateUser (writtenAt : Time) (user : User)
  | removeStaff (input : RemoveInput) (ticketsAt customersAt removedAt writtenAt : Time)
  | revokeTokens (userId : Uuid) (reason : String) (revokedAt : Time)
  | audit (row : AuditLog)
  | enqueue (rows : List (OutboxEvent EventBody))

/-- Rows another transaction has inserted since stay; a row of theirs that is to be
inserted again breaks the primary key. -/
def applyGrants (change : GrantChange) (grants : List Permission) :
    Except AppError (List Permission) :=
  let remaining := grants.filter fun grant => grant ∉ change.deleted
  if ∃ grant ∈ change.created, grant ∈ remaining then .error .database
  else .ok (remaining ++ change.created)

def updatedGrants (change : Option GrantChange) (grants : List Permission) :
    Except AppError (List Permission) :=
  match change with
  | none => .ok grants
  | some change => applyGrants change grants

/-- An undefined value leaves its column as it is. -/
def roleUpdated (displayName description : Option String) (grants : List Permission)
    (role : Role) : Role :=
  { role with
    displayName := displayName.getD role.displayName
    description := description.or role.description
    permissions := grants }

namespace RoleStatement

def commitRole (id : Uuid) (displayName description : Option String)
    (change : Option GrantChange) (s : Store) : Except AppError Store :=
  match s.findRole id with
  | none => .error .database
  | some role => do
    let grants ← updatedGrants change role.permissions
    return s.updateRole id (roleUpdated displayName description grants)

/-- The transaction of `StaffLifecycleService.remove`. -/
def commitRemoval (input : RemoveInput) (ticketsAt customersAt removedAt writtenAt : Time)
    (s : Store) : Except AppError Store :=
  if (s.findUser input.userId).isSome then
    .ok ((((s.reassignTickets input.tenantId input.userId input.replacementAgentId
      ticketsAt).reassignCustomers input.tenantId input.userId input.replacementAgentId
      customersAt).deleteMembershipsOf input.userId input.tenantId).updateUser input.userId
      (StaffLifecycleService.removed removedAt writtenAt))
  else .error .database

def exec : RoleStatement → Store → Except AppError Store
  | .find _, s => .ok s
  | .createRole row, s => if s.roleTaken row then .error .database else .ok (s.insertRole row)
  | .updateRole id displayName description change, s =>
    commitRole id displayName description change s
  | .deleteRole id, s =>
    if (s.findRole id).isSome then .ok (s.deleteRole id) else .error .database
  | .upsertMembership row _ _, s =>
    if (s.findUser row.userId).isSome ∧ (s.findRole row.roleId).isSome then
      .ok (s.upsertMembership row)
    else .error .database
  | .deleteMemberships userId roleId tenantId, s => .ok (s.deleteMemberships userId roleId tenantId)
  | .updateUser writtenAt user, s => (UserRepository.updateRow writtenAt user s).map Prod.snd
  | .removeStaff input ticketsAt customersAt removedAt writtenAt, s =>
    commitRemoval input ticketsAt customersAt removedAt writtenAt s
  | .revokeTokens userId reason revokedAt, s =>
    .ok (s.revokeTokens (fun token => token.userId = userId) revokedAt reason)
  | .audit row, s => .ok (s.insertAudit row)
  | .enqueue rows, s => .ok (s.enqueueMany rows)

def kind : RoleStatement → ServiceCall
  | .find kind => kind
  | .createRole _ => .roleCreate
  | .updateRole .. | .removeStaff .. => .commit
  | .deleteRole _ => .roleDelete
  | .upsertMembership .. => .membershipUpsert
  | .deleteMemberships .. => .membershipDeleteMany
  | .updateUser .. => .userUpdate
  | .revokeTokens .. => .refreshTokenUpdateMany
  | .audit _ => .auditCreate
  | .enqueue _ => .outboxCreateMany

def client : RoleStatement → Client
  | .audit _ | .enqueue _ => .ambient
  | _ => .root

end RoleStatement

def roleStatements : Statements Store RoleStatement ServiceCall AppError where
  exec := RoleStatement.exec
  kind := RoleStatement.kind
  client := RoleStatement.client
  error := .database

abbrev RoleProcess := Process ServiceEnv Store RoleStatement AppError

namespace RoleProcess
open Process

def find {α : Type} (kind : ServiceCall) (f : Store → α) : RoleProcess α :=
  statement (.find kind) f

def now : RoleProcess Time := drawn ServiceEnv.clock

/-- A failed insert is only logged. -/
def audit (entry : Time → AuditLog) : RoleProcess Unit := do
  let occurredAt ← now
  tryExecute (.audit (entry occurredAt))

def revokeAllUserTokens (userId : Uuid) (reason : String) : RoleProcess Unit := do
  let revokedAt ← now
  execute (.revokeTokens userId reason revokedAt)

end RoleProcess

namespace RoleManagementService
open Process RoleProcess

def systemRoleNames : List String := ["PLATFORM_ADMIN", "TENANT_MANAGER", "AGENT", "CUSTOMER"]

def sortedGrants (grants : List Permission) : List Permission :=
  grants.mergeSort fun a b => a.key ≤ b.key

def grantNames (grants : List Permission) : List String := grants.map Permission.key

def toView (members : Nat) (role : Role) : RoleView where
  id := role.id
  name := role.name
  displayName := role.displayName
  description := role.description
  isSystem := role.isSystem
  permissions := grantNames (sortedGrants role.permissions)
  memberCount := members

def auditEntry (actor : RoleActor) (action : AuditAction) (resourceId : Uuid)
    (detail : JsonObject) (occurredAt : Time) : AuditLog where
  tenantId := some actor.tenantId
  actorId := some actor.id
  actorRole := some actor.role
  action := action
  resource := if action = .roleChange then "users" else "roles"
  resourceId := some resourceId
  oldValue := none
  newValue := some detail
  occurredAt := occurredAt

def mutableRole (id : Uuid) (found : Option Role) : Except AppError Role := do
  let role ← orThrow (.notFound "Role" id) found
  require (!role.isSystem) (.forbidden "System roles cannot be modified")
  return role

def findMutable (id tenantId : Uuid) : RoleProcess Role := do
  let found ← find .roleFind (Store.findVisibleRole id tenantId)
  lift (mutableRole id found)

def activeMember (userId : Uuid) (found : Option User) : Except AppError User := do
  let user ← orThrow (.notFound "User" userId) found
  require (user.status = .active) (.conflict "User is not active")
  return user

def findMember (userId tenantId : Uuid) : RoleProcess User := do
  let found ← find .userFind (Store.findMember userId tenantId)
  lift (activeMember userId found)

def missingGrants (held grants : List Permission) : List Permission :=
  grants.filter fun grant => grant ∉ held

def checkHeld (grants held : List Permission) : Except AppError Unit :=
  require (missingGrants held grants = []) (.forbidden
    ("You cannot grant permissions you do not hold: " ++
      ", ".intercalate (grantNames (missingGrants held grants))))

def assertActorHolds (actor : RoleActor) (grants : List Permission) : RoleProcess Unit := do
  let held ← find .membershipFind
    (getEffectivePermissions ⟨actor.id, actor.role, some actor.tenantId⟩)
  lift (checkHeld grants held)

/-- The tenant permissions behind the keys, each once. -/
def tenantPermissionsOf (grants : List String) : Except AppError (List Permission) := do
  let unique := grants.eraseDups
  let invalid := unique.filter fun grant => (Permission.ofTenantKey grant).isNone
  require (invalid = []) (.validation ("Permissions cannot be granted: " ++
    ", ".intercalate invalid))
  return unique.filterMap Permission.ofTenantKey

def catalogRows (unique rows : List Permission) : Except AppError (List Permission) := do
  require (rows.length = unique.length) (.validation "Permission catalog is not initialised")
  return rows

/-- Validates the grant list and returns the permission rows. -/
def resolveGrantable (actor : RoleActor) (grants : List String) :
    RoleProcess (List Permission) := do
  let unique ← lift (tenantPermissionsOf grants)
  assertActorHolds actor unique
  let rows ← find .permissionFind fun s => s.permissions.filter fun row => row ∈ unique
  lift (catalogRows unique rows)

/-- Each class is looked at once, the first one that cannot hold the grants is named. -/
def checkClasses (grants : List Permission) (classes : List UserRole) :
    Except AppError (List UserRole) :=
  match classes.eraseDups.find? fun accountClass =>
    Permission.grantsOutsideBoundary accountClass grants ≠ [] with
  | some accountClass => .error (.conflict ("Role has " ++ accountClass.text ++
      " members that cannot hold these permissions"))
  | none => .ok classes

def assertMembersWithinBoundary (roleId : Uuid) (grants : List Permission) :
    RoleProcess (List UserRole) := do
  let classes ← find .membershipFind (Store.memberClasses roleId)
  lift (checkClasses grants classes)

def newRole (actor : RoleActor) (input : CreateRoleInput) (permissions : List Permission)
    (id : Uuid) : Role where
  id := id
  tenantId := some actor.tenantId
  name := input.name
  displayName := input.displayName
  description := input.description
  isSystem := false
  permissions := permissions

def create (actor : RoleActor) (input : CreateRoleInput) : RoleProcess RoleView := do
  lift (require (JsText.toUpperCase input.name ∉ systemRoleNames)
    (.validation "Role name is reserved for a system role"))
  let permissions ← resolveGrantable actor input.permissions
  let existing ← find .roleFind (Store.roleNamed actor.tenantId input.name)
  lift (require existing.isNone (.conflict "A role with this name already exists"))
  let id ← drawn ServiceEnv.uuid
  let role := newRole actor input permissions id
  execute (.createRole role)
  audit (auditEntry actor .create role.id [("permissions", .texts input.permissions)])
  return toView 0 role

/-- The rows a transaction is about to delete, with the checks before it. -/
def grantChange (actor : RoleActor) (roleId : Uuid) (grants : List String) :
    RoleProcess GrantChange := do
  let permissions ← resolveGrantable actor grants
  let classes ← assertMembersWithinBoundary roleId permissions
  let deleted ← find .roleFind fun s => (s.findRole roleId).elim [] Role.permissions
  return ⟨deleted, permissions, classes⟩

def plannedChange (actor : RoleActor) (roleId : Uuid) (grants : Option (List String)) :
    RoleProcess (Option GrantChange) :=
  match grants with
  | none => return none
  | some grants => do
    let change ← grantChange actor roleId grants
    return some change

def updateDetail (role : Role) (input : UpdateRoleInput) : JsonObject :=
  [("before", .texts (grantNames (sortedGrants role.permissions)))] ++
    input.permissions.toList.map fun grants => ("after", .texts grants)

def update (actor : RoleActor) (id : Uuid) (input : UpdateRoleInput) : RoleProcess RoleView := do
  let role ← findMutable id actor.tenantId
  let change ← plannedChange actor role.id input.permissions
  let updated ← statement (.updateRole role.id input.displayName input.description change) fun s =>
    (s.memberCount role.id, (s.findRole role.id).getD role)
  audit (auditEntry actor .update role.id (updateDetail role input))
  let grants ← lift (updatedGrants change updated.2.permissions)
  return toView updated.1 (roleUpdated input.displayName input.description grants updated.2)

def remove (actor : RoleActor) (id : Uuid) : RoleProcess Unit := do
  let role ← findMutable id actor.tenantId
  execute (.deleteRole role.id)
  audit (auditEntry actor .delete role.id [("name", .text role.name)])

def outsideError (target : User) (outside : List Permission) : AppError :=
  .validation ("Role grants permissions a " ++ target.role.text ++
    " account cannot hold: " ++ ", ".intercalate (grantNames outside))

def checkBoundary (target : User) (grants : List Permission) : Except AppError Unit :=
  let outside := Permission.grantsOutsideBoundary target.role grants
  require (outside = []) (outsideError target outside)

def assign (actor : RoleActor) (roleId userId : Uuid) : RoleProcess Unit := do
  lift (require (actor.id ≠ userId) (.forbidden "You cannot change your own roles"))
  let role ← findMutable roleId actor.tenantId
  let target ← findMember userId actor.tenantId
  let grants := sortedGrants role.permissions
  lift (checkBoundary target grants)
  assertActorHolds actor grants
  execute (.upsertMembership ⟨userId, roleId, actor.tenantId, some actor.id⟩ target.role grants)
  audit (auditEntry actor .roleChange userId [("granted", .text role.name)])

def unassign (actor : RoleActor) (roleId userId : Uuid) : RoleProcess Unit := do
  lift (require (actor.id ≠ userId) (.forbidden "You cannot change your own roles"))
  let role ← findMutable roleId actor.tenantId
  let deleted ← statement (.deleteMemberships userId role.id actor.tenantId)
    (Store.membershipCount userId role.id actor.tenantId)
  lift (require (deleted ≠ 0) (.notFound "Role membership" userId))
  audit (auditEntry actor .roleChange userId [("revoked", .text role.name)])

end RoleManagementService

namespace RoleProcess
open Process

def toRow (event : DomainEvent) : RoleProcess (OutboxEvent EventBody) := do
  let id ← drawn ServiceEnv.uuid
  let createdAt ← now
  return toCreateInput id createdAt event.toPayload

def toRows : List DomainEvent → RoleProcess (List (OutboxEvent EventBody))
  | [] => return []
  | event :: rest => do
    let row ← toRow event
    let rows ← toRows rest
    return row :: rows

def publishAll (events : List DomainEvent) : RoleProcess Unit :=
  if events = [] then return () else do
    let rows ← toRows events
    execute (.enqueue rows)

def endSessions (differs : Bool) (userId : Uuid) : RoleProcess Unit :=
  if differs then revokeAllUserTokens userId "ROLE_CHANGED" else return ()

/-- `UserService.changeRole` by its statements. -/
def changeRole (dto : ChangeRoleDto) : RoleProcess Unit := do
  let found ← find .userFind (Store.findUserIn dto.targetUserId dto.tenantId)
  let target ← lift (orThrow (.notFound "User" dto.targetUserId) found)
  let newRole ← lift (UserRole.create dto.newRole)
  let decision := UserService.roleDecision dto target newRole
  lift (require decision.allowed (.forbidden (decision.reason.getD "Role change not allowed")))
  let header ← drawn ServiceEnv.header
  let changed := UserService.roleChanged dto target newRole header
  let writtenAt ← now
  execute (.updateUser writtenAt changed.row)
  endSessions (target.role ≠ changed.row.role) target.id
  audit (UserService.roleAudit dto target)
  publishAll changed.events

def requireReplacement (input : RemoveInput) : RoleProcess Unit :=
  match input.replacementAgentId with
  | none => return ()
  | some replacementId => do
    let found ← find .userFind (Store.findActiveAgent replacementId input.tenantId)
    lift (require found.isSome (.notFound "Active replacement agent" replacementId))

/-- `StaffLifecycleService.remove` by its statements. -/
def removeStaff (input : RemoveInput) : RoleProcess Unit := do
  lift (require (input.actorId ≠ input.userId) (.forbidden "You cannot remove yourself"))
  lift (require (input.replacementAgentId ≠ some input.userId)
    (.conflict "Replacement must be another agent"))
  let found ← find .userFind (Store.findAgent input.userId input.tenantId)
  let _ ← lift (orThrow (.notFound "Agent" input.userId) found)
  requireReplacement input
  let ticketsAt ← now
  let customersAt ← now
  let removedAt ← now
  let writtenAt ← now
  execute (.removeStaff input ticketsAt customersAt removedAt writtenAt)
  revokeAllUserTokens input.userId "ACCOUNT_REMOVED"
  audit (StaffLifecycleService.removalAudit input)

end RoleProcess
end OmniSupport.Identity
