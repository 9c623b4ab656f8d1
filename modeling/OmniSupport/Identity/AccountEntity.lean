import OmniSupport.Shared.JsText
import OmniSupport.Shared.DomainEvent

/-! The user, tenant and customer aggregates in memory, with the events they have raised,
their value objects and the policy for role changes. -/
namespace OmniSupport

namespace UserRole

def text : UserRole → String
  | .platformAdmin => "PLATFORM_ADMIN"
  | .tenantManager => "TENANT_MANAGER"
  | .agent => "AGENT"
  | .customer => "CUSTOMER"

def values : List UserRole := [.platformAdmin, .tenantManager, .agent, .customer]

def create (value : String) : Except AppError UserRole :=
  match values.find? fun role => role.text = value with
  | some role => .ok role
  | none => .error (.plain ("Invalid user role: " ++ value))

end UserRole

def UserStatus.text : UserStatus → String
  | .active => "ACTIVE"
  | .inactive => "INACTIVE"
  | .suspended => "SUSPENDED"
  | .pendingVerification => "PENDING_VERIFICATION"

namespace RoleAssignmentPolicy

structure RoleAssignmentActor where
  id : Uuid
  role : UserRole
  tenantId : Option Uuid

structure RoleAssignmentTarget where
  id : Uuid
  role : UserRole
  tenantId : Option Uuid

structure RoleAssignmentDecision where
  allowed : Bool
  reason : Option String

def allow : RoleAssignmentDecision := ⟨true, none⟩

def deny (reason : String) : RoleAssignmentDecision := ⟨false, some reason⟩

def tenantManagerAssignable : List UserRole := [.agent, .customer]

def evaluate (actor : RoleAssignmentActor) (target : RoleAssignmentTarget) (newRole : UserRole) :
    RoleAssignmentDecision :=
  if actor.id = target.id then deny "You cannot change your own role"
  else
    let grantsPlatformAdmin := newRole = .platformAdmin
    let targetIsPlatformAdmin := target.role = .platformAdmin
    if actor.role = .platformAdmin then
      if grantsPlatformAdmin ∧ target.tenantId.isSome then
        deny "Tenant users cannot be granted the PLATFORM_ADMIN role"
      else if ¬ grantsPlatformAdmin ∧ target.tenantId.isNone then
        deny "Users without an organization can only hold the PLATFORM_ADMIN role"
      else allow
    else if actor.role = .tenantManager then
      if actor.tenantId.isNone ∨ actor.tenantId ≠ target.tenantId then
        deny "User does not belong to your organization"
      else if targetIsPlatformAdmin ∨ target.role ∉ tenantManagerAssignable then
        deny "Only a platform administrator can change this user role"
      else if newRole ∉ tenantManagerAssignable then
        deny "Tenant managers can only assign the AGENT or CUSTOMER roles"
      else allow
    else deny "You do not have permission to change user roles"

end RoleAssignmentPolicy

structure ProfileInput where
  firstName : Option String
  lastName : Option String
  avatarUrl : Option String
  phone : Option String
  timezone : Option String
  locale : Option String
  deriving DecidableEq

structure UserEntity where
  row : User
  events : List DomainEvent
  deriving DecidableEq

namespace UserEntity

def reconstitute (row : User) : UserEntity := ⟨row, []⟩

def changeRole (header : EventHeader) (nextRole : UserRole) (changedById : Option Uuid)
    (changedByRole : Option UserRole) (user : UserEntity) : UserEntity :=
  let row := user.row
  if row.role = nextRole then user
  else
    { row := { row with role := nextRole }
      events := user.events ++ [header.event
        (.userRoleChanged row.id row.tenantId row.role nextRole changedById changedByRole)] }

/-- An undefined value leaves its column as it is. -/
def updateProfile (input : ProfileInput) (user : UserEntity) : UserEntity :=
  { user with
    row :=
      { user.row with
        firstName := (input.firstName.map JsText.trim).getD user.row.firstName
        lastName := (input.lastName.map JsText.trim).getD user.row.lastName
        avatarUrl := input.avatarUrl.or user.row.avatarUrl
        phone := input.phone.or user.row.phone
        timezone := (input.timezone.map JsText.trim).getD user.row.timezone
        locale := (input.locale.map JsText.trim).getD user.row.locale } }

end UserEntity

/-- `TenantSlug.create`; the text is the stored value. -/
def tenantSlug (input : String) : Except AppError String :=
  let slug := JsText.trimHyphens (JsText.othersToHyphen (JsText.trim (JsText.toLowerCase input)))
  let ends := fun ch : Option Char => ch.any JsText.isLowerAlphanumeric
  if slug.length < 3 then .error (.plain "Tenant slug must be at least 3 characters")
  else if 63 < slug.length then .error (.plain "Tenant slug must not exceed 63 characters")
  else if ends slug.toList.head? ∧ ends slug.toList.getLast? ∧
      slug.toList.all (fun ch => JsText.isLowerAlphanumeric ch || ch = '-') then .ok slug
  else .error (.plain "Tenant slug must start and end with alphanumeric character")

structure TenantEntity where
  row : Tenant
  events : List DomainEvent
  deriving DecidableEq

namespace TenantEntity

def create (header : EventHeader) (props : Tenant) : TenantEntity where
  row := props
  events := [header.event (.tenantCreated props.id props.name props.slug)]

def reconstitute (row : Tenant) : TenantEntity := ⟨row, []⟩

def suspend (now : Time) (header : EventHeader) (reason : String) (tenant : TenantEntity) :
    Except AppError TenantEntity :=
  let row := tenant.row
  if row.status = .suspended then .error (.plain "Tenant is already suspended")
  else .ok
    { row :=
        { row with
          status := .suspended
          suspendedAt := some now
          suspendedReason := some reason }
      events := tenant.events ++ [header.event (.tenantSuspended row.id reason)] }

def activate (tenant : TenantEntity) : TenantEntity :=
  { tenant with
    row :=
      { tenant.row with
        status := .active
        suspendedAt := none
        suspendedReason := none } }

end TenantEntity

/-- A number of the language: its value, when it is finite, and its text. -/
structure JsNumber where
  value : Option Rat
  text : String

def RiskLabel.text : RiskLabel → String
  | .low => "LOW"
  | .medium => "MEDIUM"
  | .high => "HIGH"
  | .critical => "CRITICAL"

def RiskLabel.values : List RiskLabel := [.low, .medium, .high, .critical]

structure RiskScore where
  value : Rat
  riskLabel : RiskLabel

namespace RiskScore

def normalizeLabel (label : String) : Except AppError RiskLabel :=
  match RiskLabel.values.find? fun value => value.text = JsText.toUpperCase label with
  | some value => .ok value
  | none => .error (.plain ("Invalid risk label: " ++ label))

/-- Rounding is towards the next integer, halves upwards. -/
def create (score : JsNumber) (label : String) : Except AppError RiskScore :=
  match score.value with
  | none => .error (.plain "Risk score must be a finite number")
  | some value => do
    let normalizedScore := max 0 (min 100 (value + 1 / 2).floor)
    let normalizedLabel ← normalizeLabel label
    return ⟨normalizedScore, normalizedLabel⟩

end RiskScore

structure CustomerEntity where
  row : Customer
  events : List DomainEvent
  deriving DecidableEq

namespace CustomerEntity

def reconstitute (row : Customer) : CustomerEntity := ⟨row, []⟩

/-- A row without a score counts as scored zero. -/
def updateRiskScore (header : EventHeader) (score : JsNumber) (label : String)
    (customer : CustomerEntity) : Except AppError CustomerEntity := do
  let row := customer.row
  let riskScore ← RiskScore.create score label
  return {
    row :=
      { row with
        riskScore := some riskScore.value
        riskLabel := some riskScore.riskLabel.text }
    events := customer.events ++ [header.event
      (.customerRiskUpdated row.id row.tenantId (row.riskScore.getD 0) riskScore.value
        riskScore.riskLabel)] }

end CustomerEntity
end OmniSupport
