import OmniSupport.Database.Statements

/-! Tenant roles and their members in the store, and the permissions a user holds. -/
namespace OmniSupport.Database
open Foundation Identity

namespace Store

def findRole (id : Uuid) (s : Store) : Option Role := s.roles.find? fun role => role.id = id

/-- The system roles and those of the tenant. -/
def findVisibleRole (id tenantId : Uuid) (s : Store) : Option Role :=
  s.roles.find? fun role =>
    role.id = id ∧ ((role.tenantId = none ∧ role.isSystem = true) ∨ role.tenantId = some tenantId)

def roleNamed (tenantId : Uuid) (name : String) (s : Store) : Option Role :=
  s.roles.find? fun role => role.tenantId = some tenantId ∧ role.name = name

def findMember (id tenantId : Uuid) (s : Store) : Option User :=
  s.users.find? fun user => user.id = id ∧ user.tenantId = some tenantId

/-- The permissions of the role behind a membership. -/
def membershipGrants (membership : UserRoleMembership) (s : Store) : List Permission :=
  (s.findRole membership.roleId).elim [] Role.permissions

/-- The grants of the tenant roles a user is a member of. -/
def tenantGrants (userId tenantId : Uuid) (s : Store) : List Permission :=
  (s.memberships.filter fun membership =>
    membership.userId = userId ∧ membership.tenantId = tenantId).flatMap s.membershipGrants

/-- The account classes of the members of a role. -/
def memberClasses (roleId : Uuid) (s : Store) : List UserRole :=
  (s.memberships.filter fun membership => membership.roleId = roleId).filterMap fun membership =>
    (s.findUser membership.userId).map User.role

def memberCount (roleId : Uuid) (s : Store) : Nat :=
  Table.count (fun membership => membership.roleId = roleId) s.memberships

def membershipCount (userId roleId tenantId : Uuid) (s : Store) : Nat :=
  Table.count (fun membership => membership.userId = userId ∧ membership.roleId = roleId ∧
    membership.tenantId = tenantId) s.memberships

/-- The unique columns of a new role: its id, and its name within the tenant. -/
def roleTaken (row : Role) (s : Store) : Prop :=
  ∃ role ∈ s.roles, role.id = row.id ∨ (row.tenantId.isSome ∧ role.tenantId = row.tenantId ∧
    role.name = row.name)

instance (row : Role) (s : Store) : Decidable (s.roleTaken row) :=
  inferInstanceAs (Decidable (∃ role ∈ s.roles, _))

def insertRole (row : Role) (s : Store) : Store := { s with roles := s.roles ++ [row] }

def updateRole (id : Uuid) (f : Role → Role) (s : Store) : Store :=
  { s with roles := Table.updateMany (fun role => role.id = id) f s.roles }

/-- The memberships go with the role. -/
def deleteRole (id : Uuid) (s : Store) : Store :=
  { s with
    roles := Table.deleteMany (fun role => role.id = id) s.roles
    memberships := Table.deleteMany (fun membership => membership.roleId = id) s.memberships }

/-- A membership that exists is left as it is. -/
def upsertMembership (row : UserRoleMembership) (s : Store) : Store :=
  if ∃ membership ∈ s.memberships, membership.userId = row.userId ∧ membership.roleId = row.roleId
  then s
  else { s with memberships := s.memberships ++ [row] }

def deleteMemberships (userId roleId tenantId : Uuid) (s : Store) : Store :=
  { s with
    memberships := Table.deleteMany (fun membership => membership.userId = userId ∧
      membership.roleId = roleId ∧ membership.tenantId = tenantId) s.memberships }

section lookups
variable {s : Store} {id id' : Uuid} {role : Role}

theorem findRole_of_mem (hkeys : (s.roles.map Role.id).Nodup) (h : role ∈ s.roles) :
    s.findRole role.id = some role :=
  Table.find?_of_mem hkeys h

theorem findRole_updateRole {f : Role → Role} (hid : ∀ role, (f role).id = role.id) :
    (s.updateRole id f).findRole id' =
      (s.findRole id').map fun role => if id' = id then f role else role :=
  Table.find?_updateMany hid

theorem findRole_deleteRole (hother : id' ≠ id) :
    (s.deleteRole id).findRole id' = s.findRole id' := by
  have hspared : ∀ role : Role, role.id = id' → ¬ role.id = id :=
    fun role hid he => hother (hid.symm.trans he)
  exact Table.find?_deleteMany hspared

/-- A role that was there is found as before. -/
theorem findRole_insertRole {row : Role} (h : s.findRole id = some role) :
    (s.insertRole row).findRole id = some role := by
  rw [Store.findRole] at h
  rw [Store.findRole, Store.insertRole, List.find?_append, h, Option.some_or]

end lookups
end Store
end OmniSupport.Database

namespace OmniSupport.Identity
open Foundation Database

structure PermissionSubject where
  id : Uuid
  role : UserRole
  tenantId : Option Uuid

def subjectOf (user : User) : PermissionSubject := ⟨user.id, user.role, user.tenantId⟩

/-- Without a tenant a user holds what the account class does. -/
def getEffectivePermissions (subject : PermissionSubject) (s : Store) : List Permission :=
  Permission.computeEffectivePermissions subject.role
    (subject.tenantId.elim [] fun tenantId => s.tenantGrants subject.id tenantId)

end OmniSupport.Identity
