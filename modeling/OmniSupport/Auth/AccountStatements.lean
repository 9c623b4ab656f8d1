import OmniSupport.Auth.InvitationService
import OmniSupport.Foundation.ReadCommitted
import OmniSupport.Identity.AccountService
import OmniSupport.Identity.StaffLifecycle

/-! The statements of the calls on invitations and on staff accounts, with the rows and the
unique values each of them locks. -/
namespace OmniSupport.Database
open Foundation

namespace Store

/-- The filter of `InvitationService.revoke`. -/
def activeInvitation (id tenantId : Uuid) (invitation : Auth.Invitation) : Prop :=
  invitation.id = id ∧ invitation.tenantId = tenantId ∧ invitation.acceptedAt = none ∧
    invitation.revokedAt = none

instance (id tenantId : Uuid) (invitation : Auth.Invitation) :
    Decidable (activeInvitation id tenantId invitation) :=
  inferInstanceAs (Decidable (_ ∧ _))

def findActiveInvitation (id tenantId : Uuid) (s : Store) : Option Auth.Invitation :=
  s.invitations.find? fun invitation => activeInvitation id tenantId invitation

def revokeInvitation (id tenantId : Uuid) (revokedAt : Time) (s : Store) : Store :=
  { s with
    invitations := Table.updateMany (activeInvitation id tenantId)
      (fun invitation => { invitation with revokedAt := some revokedAt }) s.invitations }

def findInvitationById (id : Uuid) (s : Store) : Option Auth.Invitation :=
  s.invitations.find? fun invitation => invitation.id = id

/-- A new token and a new expiry, whatever the row is by now. -/
def renewInvitation (id : Uuid) (tokenHash : String) (expiresAt : Time) (s : Store) : Store :=
  { s with
    invitations := Table.updateMany (fun invitation => invitation.id = id)
      (fun invitation => { invitation with tokenHash := tokenHash, expiresAt := expiresAt })
      s.invitations }

def insertInvitation (row : Auth.Invitation) (s : Store) : Store :=
  { s with invitations := s.invitations ++ [row] }

/-- The unique columns of an invitation. -/
def invitationTaken (id : Uuid) (tokenHash : String) (s : Store) : Prop :=
  ∃ other ∈ s.invitations, other.id ≠ id ∧ other.tokenHash = tokenHash

instance (id : Uuid) (tokenHash : String) (s : Store) :
    Decidable (s.invitationTaken id tokenHash) :=
  inferInstanceAs (Decidable (∃ other ∈ s.invitations, _))

def findLinkOfCustomer (customerId : Uuid) (s : Store) : Option Auth.CustomerLink :=
  s.customerLinks.find? fun link => link.customerId = customerId

end Store
end OmniSupport.Database

namespace OmniSupport.Auth
open Foundation Database Identity Outbox

/-- The statements of the calls. A conditional update that changes no row is refused, with
the error its caller throws then. -/
inductive AccountStatement where
  | find (client : Client) (kind : ServiceCall)
  | countStaff (tenantId : Uuid)
  | claimInvitation (id : Uuid) (claimedAt acceptedAt : Time)
  | revokeInvitation (id tenantId : Uuid) (revokedAt : Time)
  | renewInvitation (id : Uuid) (tokenHash : String) (expiresAt : Time)
  | createInvitation (row : Invitation)
  | deleteOAuthAccounts (userId : Uuid)
  | revokeTokens (client : Client) (userId : Uuid) (reason : String) (revokedAt : Time)
  | joinTenant (userId : Uuid) (invitation : Invitation) (passwordHash : Option String)
      (verifiedAt writtenAt : Time)
  | createUser (row : User)
  | linkCustomer (row : CustomerLink)
  | setStatus (id : Uuid) (active : Bool) (writtenAt : Time)
  | reassignTickets (input : RemoveInput) (writtenAt : Time)
  | reassignCustomers (input : RemoveInput) (writtenAt : Time)
  | deleteMemberships (userId tenantId : Uuid)
  | removeUser (userId : Uuid) (removedAt writtenAt : Time)
  | updateUser (writtenAt : Time) (user : User)
  | audit (row : AuditLog)
  | enqueue (rows : List (OutboxEvent EventBody))

/-- What a statement locks: a row, or a value of a unique index. -/
inductive AccountKey where
  | invitation (id : Uuid)
  | user (id : Uuid)
  | email (text : String)
  | linkedUser (id : Uuid)
  | linkedCustomer (id : Uuid)
  deriving DecidableEq

namespace AccountStatement

def updateOne (id : Uuid) (f : User → User) (s : Store) : Except AppError Store :=
  if (s.findUser id).isSome then .ok (s.updateUser id f) else .error .database

def exec : AccountStatement → Store → Except AppError Store
  | .find .., s | .countStaff _, s => .ok s
  | .claimInvitation id claimedAt acceptedAt, s =>
    if Table.count (Store.openInvitation id claimedAt) s.invitations = 1 then
      .ok (s.acceptInvitation id claimedAt acceptedAt)
    else .error (.conflict "Invitation has already been used")
  | .revokeInvitation id tenantId revokedAt, s =>
    if Table.count (Store.activeInvitation id tenantId) s.invitations = 1 then
      .ok (s.revokeInvitation id tenantId revokedAt)
    else .error (.notFound "Active invitation" id)
  | .renewInvitation id tokenHash expiresAt, s =>
    if (s.findInvitationById id).isSome ∧ ¬ s.invitationTaken id tokenHash then
      .ok (s.renewInvitation id tokenHash expiresAt)
    else .error .database
  | .createInvitation row, s =>
    if (s.findInvitationById row.id).isNone ∧ ¬ s.invitationTaken row.id row.tokenHash then
      .ok (s.insertInvitation row)
    else .error .database
  | .deleteOAuthAccounts userId, s => .ok (s.deleteOAuthAccounts userId)
  | .revokeTokens _ userId reason revokedAt, s =>
    .ok (s.revokeTokens (fun token => token.userId = userId) revokedAt reason)
  | .joinTenant userId invitation passwordHash verifiedAt writtenAt, s =>
    if (s.findUser userId).any fun row => row.tenantId.isNone then
      .ok (s.updateUser userId
        (InvitationService.accepted invitation passwordHash verifiedAt writtenAt))
    else .error .database
  | .createUser row, s => if s.userInsertable row then .ok (s.insertUser row) else .error .database
  | .linkCustomer row, s =>
    if s.linkInsertable row then .ok (s.insertCustomerLink row) else .error .database
  | .setStatus id active writtenAt, s =>
    updateOne id (StaffLifecycleService.withStatus active writtenAt) s
  | .reassignTickets input writtenAt, s =>
    .ok (s.reassignTickets input.tenantId input.userId input.replacementAgentId writtenAt)
  | .reassignCustomers input writtenAt, s =>
    .ok (s.reassignCustomers input.tenantId input.userId input.replacementAgentId writtenAt)
  | .deleteMemberships userId tenantId, s => .ok (s.deleteMembershipsOf userId tenantId)
  | .removeUser userId removedAt writtenAt, s =>
    updateOne userId (StaffLifecycleService.removed removedAt writtenAt) s
  | .updateUser writtenAt user, s => (UserRepository.updateRow writtenAt user s).map Prod.snd
  | .audit row, s => .ok (s.insertAudit row)
  | .enqueue rows, s => .ok (s.enqueueMany rows)

def kind : AccountStatement → ServiceCall
  | .find _ kind => kind
  | .countStaff _ => .userCount
  | .claimInvitation .. | .revokeInvitation .. => .invitationUpdateMany
  | .renewInvitation .. => .invitationUpdate
  | .createInvitation _ => .invitationCreate
  | .deleteOAuthAccounts _ => .oauthAccountDeleteMany
  | .revokeTokens .. => .refreshTokenUpdateMany
  | .joinTenant .. | .setStatus .. | .removeUser .. | .updateUser .. => .userUpdate
  | .createUser _ => .userCreate
  | .linkCustomer _ => .customerLinkCreate
  | .reassignTickets .. => .ticketUpdateMany
  | .reassignCustomers .. => .customerUpdateMany
  | .deleteMemberships .. => .membershipDeleteMany
  | .audit _ => .auditCreate
  | .enqueue _ => .outboxCreateMany

/-- The client of a transaction, or of the audit and outbox repositories. -/
def client : AccountStatement → Client
  | .find client _ | .revokeTokens client .. => client
  | .revokeInvitation .. | .renewInvitation .. | .createInvitation _ | .setStatus ..
  | .updateUser .. => .root
  | _ => .ambient

/-- The statements of the transactions. -/
def transactional : AccountStatement → Prop
  | .find .. | .countStaff _ | .claimInvitation .. | .deleteOAuthAccounts _ | .revokeTokens ..
  | .joinTenant .. | .createUser _ | .linkCustomer _ | .reassignTickets .. | .reassignCustomers ..
  | .deleteMemberships .. | .removeUser .. => True
  | _ => False

/-- An update of the column `email` locks the old and the new value. -/
def keys : AccountStatement → Store → List AccountKey
  | .claimInvitation id .., _ | .revokeInvitation id .., _ | .renewInvitation id .., _ =>
    [.invitation id]
  | .createInvitation row, _ => [.invitation row.id]
  | .joinTenant userId .., _ | .removeUser userId .., _ | .setStatus userId .., _ => [.user userId]
  | .createUser row, _ => [.user row.id, .email row.email]
  | .linkCustomer row, _ => [.linkedUser row.userId, .linkedCustomer row.customerId]
  | .updateUser _ user, s => [.user user.id, .email user.email] ++
      (s.users.filter fun row => row.id = user.id).map fun row => .email row.email
  | _, _ => []

end AccountStatement

def accountStatements : Statements Store AccountStatement ServiceCall AppError where
  exec := AccountStatement.exec
  kind := AccountStatement.kind
  client := AccountStatement.client
  error := .database

/-- What a key shows of a store: its rows, or how often its value is taken. Inserts look up
the tenant of their row. -/
structure Shown where
  invitations : List Invitation := []
  users : List User := []
  emails : List String := []
  links : List CustomerLink := []
  tenants : List Tenant

def AccountKey.shows : AccountKey → Store → Shown
  | .invitation id, s =>
    { invitations := s.invitations.filter fun row => row.id = id, tenants := s.tenants }
  | .user id, s => { users := s.users.filter fun row => row.id = id, tenants := s.tenants }
  | .email text, s =>
    { emails := (s.users.map User.email).filter fun email => email = text, tenants := s.tenants }
  | .linkedUser id, s =>
    { links := s.customerLinks.filter fun link => link.userId = id, tenants := s.tenants }
  | .linkedCustomer id, s =>
    { links := s.customerLinks.filter fun link => link.customerId = id, tenants := s.tenants }

def accountLocking : Locking Store AccountStatement AccountKey where
  keys := AccountStatement.keys
  agrees k s t := k.shows s = k.shows t

end OmniSupport.Auth
