import OmniSupport.Auth.AuthService

/-! Accepting an invitation: a new account, or an existing one that joins the tenant. -/
namespace OmniSupport.Auth
open Foundation Database

structure AcceptInput where
  token : String
  password : Option String
  firstName : Option String
  lastName : Option String
  authenticatedUserId : Option Uuid

namespace InvitationService

/-- An empty text counts as missing. -/
def given (text : Option String) : Option String := text.filter fun value => value ≠ ""

def usableInvitation (found : Option Invitation) (now : Time) : Except AppError Invitation :=
  match found with
  | none => .error (.validation "Invitation is invalid or expired")
  | some invitation =>
    if invitation.acceptedAt.isSome || invitation.revokedAt.isSome ||
        decide (invitation.expiresAt ≤ now) then
      .error (.validation "Invitation is invalid or expired")
    else .ok invitation

/-- Whose account may accept: a customer without a tenant who is not suspended. -/
def mayAccept (existing : User) : Bool :=
  existing.tenantId.isNone && existing.role = .customer && existing.status ≠ .suspended

def checkAccount (input : AcceptInput) (existing : Option User) : Except AppError Unit := do
  require (existing.all mayAccept) (.conflict "Account cannot accept this invitation")
  require (input.authenticatedUserId.all fun id => existing.any fun user => user.id = id)
    (.forbidden "This invitation was sent to a different account")
  require (existing.isSome || ((given input.password).isSome && (given input.firstName).isSome &&
      (given input.lastName).isSome))
    (.validation "Name and password are required for a new account")

/-- How control of the account is proved. Only a verified account keeps its password. -/
inductive Proof where
  | keeps
  | newPassword (password : String)

def passwordMatches (verify : String → String → Bool) (input : AcceptInput) (existing : User) :
    Bool :=
  (given input.password).any fun password =>
    (given existing.passwordHash).any fun passwordHash => verify passwordHash password

def checkControl (verify : String → String → Bool) (input : AcceptInput) (existing : Option User) :
    Except AppError Proof :=
  match existing with
  | none => do
    Password.create (input.password.getD "")
    return .newPassword (input.password.getD "")
  | some user =>
    if user.emailVerifiedAt.isSome then
      if input.authenticatedUserId = some user.id || passwordMatches verify input user then
        .ok .keeps
      else .error (.forbidden "Sign in to the invited account, or give its password, to accept")
    else
      match given input.password with
      | none => .error (.validation "Choose a password to activate this account")
      | some password => do
        Password.create password
        return .newPassword password

/-- The row of the account once it has accepted. -/
def accepted (invitation : Invitation) (passwordHash : Option String) (verifiedAt writtenAt : Time)
    (row : User) : User :=
  { row with
    tenantId := some invitation.tenantId
    role := invitation.role
    status := .active
    emailVerifiedAt := some verifiedAt
    failedLoginAttempts := 0
    lockedUntil := none
    passwordHash := passwordHash.or row.passwordHash
    updatedAt := writtenAt }

def newAccount (invitation : Invitation) (input : AcceptInput) (passwordHash : Option String)
    (id : Uuid) (verifiedAt createdAt : Time) : User where
  id := id
  tenantId := some invitation.tenantId
  email := invitation.email
  passwordHash := passwordHash
  firstName := input.firstName.getD ""
  lastName := input.lastName.getD ""
  role := invitation.role
  status := .active
  avatarUrl := none
  phone := none
  timezone := "UTC"
  locale := "en"
  emailVerifiedAt := some verifiedAt
  lastLoginAt := none
  lastLoginIp := none
  failedLoginAttempts := 0
  lockedUntil := none
  removedAt := none
  createdAt := createdAt
  updatedAt := createdAt

def isStaff (role : UserRole) : Bool := role = .agent || role = .tenantManager

/-- The claim has to change one row. -/
def claimInvitation (invitation : Invitation) : ServiceM Unit := do
  let claimedAt ← now
  let acceptedAt ← now
  Effect.call .ambient .invitationUpdateMany .database fun s =>
    if Foundation.Table.count (Store.openInvitation invitation.id claimedAt) s.invitations = 1 then
      .ok ((), s.acceptInvitation invitation.id claimedAt acceptedAt)
    else .error (.conflict "Invitation has already been used")

def requireActiveTenant (invitation : Invitation) : ServiceM Unit := do
  let tenant ← Prisma.find .ambient .tenantFind (Store.findTenant invitation.tenantId)
  Effect.lift (require (tenant.any fun row => row.status = .active || row.status = .trial)
    (.conflict "Organization is not active"))

def requireSameCustomer (invitation : Invitation) : ServiceM Unit :=
  match invitation.customerId with
  | none => pure ()
  | some customerId => do
    let found ← Prisma.find .ambient .customerFind
      (Store.findCustomer customerId invitation.tenantId)
    Effect.lift (require
      (found.any fun customer => JsText.toLowerCase customer.email = invitation.email)
      (.conflict "Customer record changed since invitation"))

def requireStaffSeat (invitation : Invitation) : ServiceM Unit :=
  if isStaff invitation.role then do
    let staff ← Prisma.find .ambient .userCount (Store.activeStaff invitation.tenantId)
    let tenant ← Prisma.find .ambient .tenantFind (Store.findTenant invitation.tenantId)
    let limits ← Effect.lift (orThrow .database tenant)
    Effect.lift (require (staff < limits.maxAgents)
      (.conflict "Organization has reached its staff limit"))
  else pure ()

/-- The credentials of an unverified account may be someone else's. -/
def resetCredentials (userId : Uuid) : ServiceM Unit := do
  Prisma.write .ambient .oauthAccountDeleteMany (Store.deleteOAuthAccounts userId)
  let revokedAt ← now
  Prisma.write .ambient .refreshTokenUpdateMany
    (Store.revokeTokens (fun token => token.userId = userId) revokedAt "INVITATION_ACCEPTED")

/-- `user.update` where the account has no tenant yet, or the new account. -/
def joinTenant (invitation : Invitation) (input : AcceptInput) (existing : Option User)
    (passwordHash : Option String) : ServiceM Uuid := do
  let verifiedAt ← now
  let writtenAt ← now
  match existing with
  | some user =>
    Effect.call .ambient .userUpdate .database fun s =>
      if (s.findUser user.id).any fun row => row.tenantId.isNone then
        .ok (user.id, s.updateUser user.id (accepted invitation passwordHash verifiedAt writtenAt))
      else .error .database
  | none => do
    let id ← Effect.draw ServiceEnv.uuid
    let row := newAccount invitation input passwordHash id verifiedAt writtenAt
    Effect.call .ambient .userCreate .database fun s =>
      if s.userInsertable row then .ok (row.id, s.insertUser row) else .error .database

def linkCustomer (invitation : Invitation) (userId : Uuid) : ServiceM Unit :=
  match invitation.customerId with
  | none => pure ()
  | some customerId =>
    let row : CustomerLink := ⟨userId, customerId, invitation.tenantId⟩
    Effect.call .ambient .customerLinkCreate .database fun s =>
      if s.linkInsertable row then .ok ((), s.insertCustomerLink row) else .error .database

/-- Whether an existing account gets a new password, so that its sessions end. -/
def endsSessions (existing : Option User) (passwordHash : Option String) : Option Uuid :=
  if passwordHash.isSome then existing.map User.id else none

def endSessions (existing : Option User) (passwordHash : Option String) : ServiceM Unit :=
  match endsSessions existing passwordHash with
  | none => pure ()
  | some userId => resetCredentials userId

def writeAcceptance (invitation : Invitation) (input : AcceptInput) (existing : Option User)
    (passwordHash : Option String) : ServiceM Unit := do
  claimInvitation invitation
  requireActiveTenant invitation
  requireSameCustomer invitation
  requireStaffSeat invitation
  endSessions existing passwordHash
  let userId ← joinTenant invitation input existing passwordHash
  linkCustomer invitation userId

def acceptedAudit (invitation : Invitation) (occurredAt : Time) : AuditLog where
  tenantId := some invitation.tenantId
  actorId := none
  actorRole := none
  action := .update
  resource := "invitations"
  resourceId := some invitation.id
  oldValue := none
  newValue := none
  occurredAt := occurredAt
  metadata := [("action", .text "ACCEPTED")]

variable (crypto : AuthCrypto)

def newPasswordHash : Proof → ServiceM (Option String)
  | .keeps => pure none
  | .newPassword password => do
    let salt ← Effect.draw fun _ n => n
    let passwordHash ← Prisma.find .root .passwordHash fun _ => crypto.hashPassword password salt
    return some passwordHash

def accept (input : AcceptInput) : ServiceM Unit := do
  let found ← Prisma.find .root .invitationFind (Store.findInvitation (crypto.sha256 input.token))
  let checkedAt ← now
  let invitation ← Effect.lift (usableInvitation found checkedAt)
  let existing ← Prisma.find .root .userFind (Store.findUserByEmail invitation.email)
  Effect.lift (checkAccount input existing)
  let control ← Effect.lift (checkControl crypto.verifyPassword input existing)
  let passwordHash ← newPasswordHash crypto control
  Effect.transaction .commit .database (writeAcceptance invitation input existing passwordHash)
  AuditRepository.create (acceptedAudit invitation)

end InvitationService
end OmniSupport.Auth
