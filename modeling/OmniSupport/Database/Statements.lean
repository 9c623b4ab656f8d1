import OmniSupport.Auth.TokenService
import OmniSupport.Database.Repositories

/-! The statements the account services make on the Prisma client themselves: on the root
client, or on the client of a transaction they have opened. -/
namespace OmniSupport.Database
open Foundation

namespace Store

def findUserByEmail (email : String) (s : Store) : Option User :=
  s.users.find? fun user => user.email = email

/-- The staff filter of `StaffLifecycleService`. -/
def findAgent (id tenantId : Uuid) (s : Store) : Option User :=
  s.users.find? fun user => user.id = id ∧ user.tenantId = some tenantId ∧ user.role = .agent

def findActiveAgent (id tenantId : Uuid) (s : Store) : Option User :=
  s.users.find? fun user =>
    user.id = id ∧ user.tenantId = some tenantId ∧ user.role = .agent ∧ user.status = .active

def activeStaff (tenantId : Uuid) (s : Store) : Nat :=
  Table.count (fun user => user.tenantId = some tenantId ∧
    (user.role = .agent ∨ user.role = .tenantManager) ∧ user.status = .active) s.users

/-- The tables of the token service, at one reading of the clock. -/
def tokenStore (now : Time) (s : Store) : Auth.TokenStore String :=
  ⟨s.refreshTokens, s.users, s.tenants, now, ⟨[], [], []⟩⟩

def insertRefreshToken (row : Auth.RefreshToken String) (s : Store) : Store :=
  { s with refreshTokens := row :: s.refreshTokens }

/-- The columns `tokenHash` and `usedAt` of the filter. -/
def findUnusedReset (tokenHash : String) (s : Store) : Option Auth.PasswordResetToken :=
  s.resetTokens.find? fun token => token.tokenHash = tokenHash ∧ token.usedAt = none

def deleteResetTokens (userId : Uuid) (s : Store) : Store :=
  { s with resetTokens := Table.deleteMany (fun token => token.userId = userId) s.resetTokens }

def insertResetToken (row : Auth.PasswordResetToken) (s : Store) : Store :=
  { s with resetTokens := s.resetTokens ++ [row] }

/-- The unique columns and the foreign key of a new reset token. -/
def resetTokenInsertable (row : Auth.PasswordResetToken) (s : Store) : Prop :=
  (∀ token ∈ s.resetTokens, token.id ≠ row.id ∧ token.tokenHash ≠ row.tokenHash) ∧
    (s.findUser row.userId).isSome

instance (row : Auth.PasswordResetToken) (s : Store) : Decidable (s.resetTokenInsertable row) :=
  inferInstanceAs (Decidable (_ ∧ _))

def useResetToken (id : Uuid) (usedAt : Time) (s : Store) : Store :=
  { s with
    resetTokens := Table.updateMany (fun token => token.id = id)
      (fun token => { token with usedAt := some usedAt }) s.resetTokens }

def findOAuthAccount (provider providerUid : String) (s : Store) : Option Auth.OAuthAccount :=
  s.oauthAccounts.find? fun account =>
    account.provider = provider ∧ account.providerUid = providerUid

def insertOAuthAccount (row : Auth.OAuthAccount) (s : Store) : Store :=
  { s with oauthAccounts := s.oauthAccounts ++ [row] }

def deleteOAuthAccounts (userId : Uuid) (s : Store) : Store :=
  { s with
    oauthAccounts := Table.deleteMany (fun account => account.userId = userId) s.oauthAccounts }

def findInvitation (tokenHash : String) (s : Store) : Option Auth.Invitation :=
  s.invitations.find? fun invitation => invitation.tokenHash = tokenHash

/-- The filter of the claim: the invitation is still open. -/
def openInvitation (id : Uuid) (now : Time) (invitation : Auth.Invitation) : Prop :=
  invitation.id = id ∧ invitation.acceptedAt = none ∧ invitation.revokedAt = none ∧
    now < invitation.expiresAt

instance (id : Uuid) (now : Time) (invitation : Auth.Invitation) :
    Decidable (openInvitation id now invitation) :=
  inferInstanceAs (Decidable (_ ∧ _))

def acceptInvitation (id : Uuid) (now acceptedAt : Time) (s : Store) : Store :=
  { s with
    invitations := Table.updateMany (openInvitation id now)
      (fun invitation => { invitation with acceptedAt := some acceptedAt }) s.invitations }

def insertUser (row : User) (s : Store) : Store := { s with users := s.users ++ [row] }

/-- The unique columns of a new user, and the foreign key of its tenant. -/
def userInsertable (row : User) (s : Store) : Prop :=
  (∀ user ∈ s.users, user.id ≠ row.id ∧ user.email ≠ row.email) ∧
    ∀ tenantId ∈ row.tenantId, (s.findTenant tenantId).isSome

instance (row : User) (s : Store) : Decidable (s.userInsertable row) :=
  inferInstanceAs (Decidable (_ ∧ ∀ tenantId ∈ row.tenantId, (s.findTenant tenantId).isSome))

def insertCustomerLink (row : Auth.CustomerLink) (s : Store) : Store :=
  { s with customerLinks := s.customerLinks ++ [row] }

/-- The unique columns of a new link. -/
def linkInsertable (row : Auth.CustomerLink) (s : Store) : Prop :=
  ∀ link ∈ s.customerLinks, link.userId ≠ row.userId ∧ link.customerId ≠ row.customerId

instance (row : Auth.CustomerLink) (s : Store) : Decidable (s.linkInsertable row) :=
  inferInstanceAs (Decidable (∀ link ∈ s.customerLinks, _))

/-- The open tickets of an agent go to another one, or to nobody. -/
def reassignTickets (tenantId agentId : Uuid) (replacement : Option Uuid) (now : Time)
    (s : Store) : Store :=
  { s with
    tickets := Table.updateMany (fun ticket => ticket.tenantId = tenantId ∧
        ticket.assignedAgentId = some agentId ∧ ticket.status ≠ .resolved ∧
        ticket.status ≠ .closed)
      (fun ticket => { ticket with assignedAgentId := replacement, updatedAt := now }) s.tickets }

def reassignCustomers (tenantId agentId : Uuid) (replacement : Option Uuid) (now : Time)
    (s : Store) : Store :=
  { s with
    customers := Table.updateMany (fun customer => customer.tenantId = tenantId ∧
        customer.assignedAgentId = some agentId)
      (fun customer => { customer with assignedAgentId := replacement, updatedAt := now })
      s.customers }

def deleteMembershipsOf (userId tenantId : Uuid) (s : Store) : Store :=
  { s with
    memberships := Table.deleteMany (fun membership => membership.userId = userId ∧
      membership.tenantId = tenantId) s.memberships }

section lookups
variable {s : Store} {id id' : Uuid}

theorem findUser_mem {user : User} (h : s.findUser id = some user) :
    user ∈ s.users ∧ user.id = id :=
  Table.mem_of_find? h

theorem findUser_of_mem {user : User} (hkeys : (s.users.map User.id).Nodup) (h : user ∈ s.users) :
    s.findUser user.id = some user :=
  Table.find?_of_mem hkeys h

theorem findUser_updateUser {f : User → User} (hid : ∀ row, (f row).id = row.id) :
    (s.updateUser id f).findUser id' =
      (s.findUser id').map fun row => if id' = id then f row else row :=
  Table.find?_updateMany hid

theorem findTenant_updateTenant {f : Tenant → Tenant} (hid : ∀ row, (f row).id = row.id) :
    (s.updateTenant id f).findTenant id' =
      (s.findTenant id').map fun row => if id' = id then f row else row :=
  Table.find?_updateMany hid

end lookups
end Store

namespace Prisma

/-- A statement that rejects only when it is cut short. -/
def statement {α : Type} (c : Client) (kind : ServiceCall) (f : Store → α × Store) : ServiceM α :=
  Effect.call c kind .database fun s => .ok (f s)

def write (c : Client) (kind : ServiceCall) (f : Store → Store) : ServiceM Unit :=
  statement c kind fun s => ((), f s)

def find {α : Type} (c : Client) (kind : ServiceCall) (f : Store → α) : ServiceM α :=
  Effect.read c kind .database f

/-- `user.update` by id: `P2025` when there is no such row. -/
def userUpdate (c : Client) (id : Uuid) (f : User → User) : ServiceM Unit :=
  Effect.call c .userUpdate .database fun s =>
    if (s.findUser id).isSome then .ok ((), s.updateUser id f) else .error .database

end Prisma
end OmniSupport.Database
