import OmniSupport.Shared.Base

/-! The rows of `users` and `tenants`. -/
namespace OmniSupport

inductive UserRole where
  | platformAdmin
  | tenantManager
  | agent
  | customer
  deriving DecidableEq, Inhabited, Repr

/-- The role an action is recorded under: that of a user, or `SYSTEM` for automated ones. -/
inductive ActorRole where
  | system
  | user (role : UserRole)
  deriving DecidableEq, Inhabited, Repr

instance : Coe UserRole ActorRole := ⟨.user⟩

inductive UserStatus where
  | active
  | inactive
  | suspended
  | pendingVerification
  deriving DecidableEq, Inhabited, Repr

inductive TenantStatus where
  | active
  | suspended
  | trial
  | cancelled
  deriving DecidableEq, Inhabited, Repr

/-- `removedAt` is the entry of that name in the JSON object in `metadata`. -/
structure User where
  id : Uuid
  tenantId : Option Uuid
  email : String
  passwordHash : Option String
  firstName : String
  lastName : String
  role : UserRole
  status : UserStatus
  avatarUrl : Option String
  phone : Option String
  timezone : String
  locale : String
  emailVerifiedAt : Option Time
  lastLoginAt : Option Time
  lastLoginIp : Option String
  failedLoginAttempts : Nat
  lockedUntil : Option Time
  removedAt : Option Time
  createdAt : Time
  updatedAt : Time
  deriving DecidableEq, Inhabited, Repr

/-- The JSON object in `settings`: the entry `featureFlags`, which is written on its
own, the numbers in the entry `slaHours`, and the other entries. Values are JSON texts. -/
structure TenantSettings where
  featureFlags : Option String
  slaHours : List (String × Rat)
  others : List (String × String)
  deriving DecidableEq, Inhabited, Repr

structure Tenant where
  id : Uuid
  name : String
  slug : String
  domain : Option String
  status : TenantStatus
  plan : String
  maxAgents : Nat
  maxCustomers : Nat
  maxTicketsPerDay : Nat
  logoUrl : Option String
  settings : TenantSettings
  suspendedAt : Option Time
  suspendedReason : Option String
  createdAt : Time
  updatedAt : Time
  deriving DecidableEq, Inhabited, Repr

/-- `UserRepository.update` writes every column but `id`, `metadata` and `createdAt`. -/
def User.write (now : Time) (user row : User) : User :=
  { user with
    id := row.id
    removedAt := row.removedAt
    createdAt := row.createdAt
    updatedAt := now }

def Tenant.storedAt (now : Time) (tenant : Tenant) : Tenant :=
  { tenant with createdAt := now, updatedAt := now }

/-- The columns `TenantRepository.update` writes; an undefined value leaves its column as
it is. -/
def Tenant.write (now : Time) (tenant row : Tenant) : Tenant :=
  { row with
    name := tenant.name
    status := tenant.status
    plan := tenant.plan
    domain := tenant.domain.or row.domain
    logoUrl := tenant.logoUrl.or row.logoUrl
    maxAgents := tenant.maxAgents
    maxCustomers := tenant.maxCustomers
    maxTicketsPerDay := tenant.maxTicketsPerDay
    settings := tenant.settings
    suspendedAt := tenant.suspendedAt.or row.suspendedAt
    suspendedReason := tenant.suspendedReason.or row.suspendedReason
    updatedAt := now }

end OmniSupport
