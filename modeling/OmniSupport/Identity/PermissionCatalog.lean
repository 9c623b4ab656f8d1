import OmniSupport.Identity.Account

/-! The permission catalog: what each account class holds by default, and the most a
tenant role may add. -/
namespace OmniSupport.Identity

inductive Permission where
  | ticketsCreate
  | ticketsUpdate
  | ticketsAssign
  | ticketsEscalate
  | customersRead
  | customersWrite
  | customersDelete
  | customersRisk
  | aiUse
  | analyticsRead
  | dashboardRead
  | searchUse
  | reportsCreate
  | usersRead
  | usersManage
  | invitationsManage
  | rolesManage
  | integrationsManage
  | auditRead
  | tenantRead
  | realtimeTenant
  | platformTenants
  | platformAnalytics
  | platformOperations
  | platformInvitations
  deriving DecidableEq, Repr

namespace Permission

def key : Permission → String
  | .ticketsCreate => "tickets:create"
  | .ticketsUpdate => "tickets:update"
  | .ticketsAssign => "tickets:assign"
  | .ticketsEscalate => "tickets:escalate"
  | .customersRead => "customers:read"
  | .customersWrite => "customers:write"
  | .customersDelete => "customers:delete"
  | .customersRisk => "customers:risk"
  | .aiUse => "ai:use"
  | .analyticsRead => "analytics:read"
  | .dashboardRead => "dashboard:read"
  | .searchUse => "search:use"
  | .reportsCreate => "reports:create"
  | .usersRead => "users:read"
  | .usersManage => "users:manage"
  | .invitationsManage => "invitations:manage"
  | .rolesManage => "roles:manage"
  | .integrationsManage => "integrations:manage"
  | .auditRead => "audit:read"
  | .tenantRead => "tenant:read"
  | .realtimeTenant => "realtime:tenant"
  | .platformTenants => "platform:tenants"
  | .platformAnalytics => "platform:analytics"
  | .platformOperations => "platform:operations"
  | .platformInvitations => "platform:invitations"

def tenantPermissions : List Permission :=
  [.ticketsCreate, .ticketsUpdate, .ticketsAssign, .ticketsEscalate, .customersRead,
    .customersWrite, .customersDelete, .customersRisk, .aiUse, .analyticsRead, .dashboardRead,
    .searchUse, .reportsCreate, .usersRead, .usersManage, .invitationsManage, .rolesManage,
    .integrationsManage, .auditRead, .tenantRead, .realtimeTenant]

def platformPermissions : List Permission :=
  [.platformTenants, .platformAnalytics, .platformOperations, .platformInvitations]

def allPermissions : List Permission := tenantPermissions ++ platformPermissions

/-- `TENANT_PERMISSIONS.includes(value)`: the tenant permission with this key. -/
def ofTenantKey (value : String) : Option Permission :=
  tenantPermissions.find? fun permission => permission.key = value

def isTenantPermission (permission : Permission) : Bool := permission ∈ tenantPermissions

def defaultGrants : UserRole → List Permission
  | .platformAdmin => platformPermissions ++ [.usersRead, .usersManage, .auditRead, .tenantRead]
  | .tenantManager => tenantPermissions
  | .agent =>
    [.ticketsCreate, .ticketsUpdate, .ticketsEscalate, .customersRead, .customersWrite, .aiUse,
      .dashboardRead, .searchUse, .reportsCreate, .usersRead]
  | .customer => [.ticketsCreate]

/-- Permissions that only a tenant manager account may ever hold. -/
def managerOnly : List Permission :=
  [.usersManage, .invitationsManage, .rolesManage, .integrationsManage]

def classBoundary : UserRole → List Permission
  | .platformAdmin => defaultGrants .platformAdmin
  | .tenantManager => tenantPermissions
  | .agent => tenantPermissions.filter fun permission => permission ∉ managerOnly
  | .customer => defaultGrants .customer

/-- A class's defaults with tenant role grants, clipped to the class boundary. -/
def computeEffectivePermissions (accountClass : UserRole) (tenantGrants : List Permission) :
    List Permission :=
  defaultGrants accountClass ++
    tenantGrants.filter fun grant => grant ∈ classBoundary accountClass

/-- Grants a tenant role would give a class beyond what its boundary allows. -/
def grantsOutsideBoundary (accountClass : UserRole) (grants : List Permission) :
    List Permission :=
  grants.filter fun grant => grant ∉ classBoundary accountClass

theorem defaultGrants_subset (accountClass : UserRole) :
    defaultGrants accountClass ⊆ classBoundary accountClass := by
  cases accountClass <;> decide

theorem effective_subset (accountClass : UserRole) (tenantGrants : List Permission) :
    computeEffectivePermissions accountClass tenantGrants ⊆ classBoundary accountClass := by
  intro permission hm
  rcases List.mem_append.mp hm with hdefault | hgrant
  · exact defaultGrants_subset accountClass hdefault
  · exact of_decide_eq_true (List.mem_filter.mp hgrant).2

theorem grantsOutsideBoundary_eq_nil {accountClass : UserRole} {grants : List Permission} :
    grantsOutsideBoundary accountClass grants = [] ↔ grants ⊆ classBoundary accountClass := by
  simp [grantsOutsideBoundary, List.filter_eq_nil_iff, List.subset_def]

end Permission

/-- A row of `roles` with its grants; no tenant means a system role. -/
structure Role where
  id : Uuid
  tenantId : Option Uuid
  name : String
  displayName : String
  description : Option String
  isSystem : Bool
  permissions : List Permission
  deriving DecidableEq, Repr

structure UserRoleMembership where
  userId : Uuid
  roleId : Uuid
  tenantId : Uuid
  assignedById : Option Uuid
  deriving DecidableEq, Repr

end OmniSupport.Identity
