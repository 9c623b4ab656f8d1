import OmniSupport.Auth.AccountLocks

/-! The calls of `InvitationService` by their statements: invitations are created, sent again,
revoked and accepted. Run alone, `accept` is the method of the service. -/
namespace OmniSupport.Auth
open Foundation Database Identity

abbrev AccountProcess := Process ServiceEnv Store AccountStatement AppError
abbrev AccountScript := Script ServiceEnv Store AccountStatement AppError

namespace AccountProcess
open Process

def find {α : Type} (client : Client) (kind : ServiceCall) (f : Store → α) : AccountProcess α :=
  statement (.find client kind) f

def now : AccountProcess Time := drawn ServiceEnv.clock

/-- A failed insert is only logged. -/
def audit (entry : Time → AuditLog) : AccountProcess Unit := do
  let occurredAt ← now
  tryExecute (.audit (entry occurredAt))

end AccountProcess

structure CreateInvitationInput where
  tenantId : Uuid
  actorId : Uuid
  email : String
  role : UserRole
  customerId : Option Uuid
  ofTenant : role ≠ .platformAdmin

namespace InvitationCalls
open Process AccountProcess InvitationService

/-- The lifetime of an invitation, a day. -/
def lifetime : Time := 24 * 60 * 60 * 1000

def claim (invitation : Invitation) : AccountProcess Unit := do
  let claimedAt ← now
  let acceptedAt ← now
  execute (.claimInvitation invitation.id claimedAt acceptedAt)

def checkTenant (invitation : Invitation) : AccountProcess Unit := do
  let tenant ← find .ambient .tenantFind (Store.findTenant invitation.tenantId)
  lift (require (tenant.any fun row => row.status = .active || row.status = .trial)
    (.conflict "Organization is not active"))

def checkCustomer (invitation : Invitation) : AccountProcess Unit :=
  match invitation.customerId with
  | none => pure ()
  | some customerId => do
    let found ← find .ambient .customerFind (Store.findCustomer customerId invitation.tenantId)
    lift (require (found.any fun customer => JsText.toLowerCase customer.email = invitation.email)
      (.conflict "Customer record changed since invitation"))

def checkSeat (invitation : Invitation) : AccountProcess Unit :=
  if isStaff invitation.role then do
    let staff ← statement (.countStaff invitation.tenantId)
      (Store.activeStaff invitation.tenantId)
    let tenant ← find .ambient .tenantFind (Store.findTenant invitation.tenantId)
    let limits ← lift (orThrow .database tenant)
    lift (require (staff < limits.maxAgents) (.conflict "Organization has reached its staff limit"))
  else pure ()

def resetAccount (userId : Uuid) : AccountProcess Unit := do
  execute (.deleteOAuthAccounts userId)
  let revokedAt ← now
  execute (.revokeTokens .ambient userId "INVITATION_ACCEPTED" revokedAt)

def endAccountSessions (existing : Option User) (passwordHash : Option String) :
    AccountProcess Unit :=
  match endsSessions existing passwordHash with
  | none => pure ()
  | some userId => resetAccount userId

def join (invitation : Invitation) (input : AcceptInput) (existing : Option User)
    (passwordHash : Option String) : AccountProcess Uuid := do
  let verifiedAt ← now
  let writtenAt ← now
  match existing with
  | some user =>
    statement (.joinTenant user.id invitation passwordHash verifiedAt writtenAt) fun _ => user.id
  | none => do
    let id ← drawn ServiceEnv.uuid
    let row := newAccount invitation input passwordHash id verifiedAt writtenAt
    statement (.createUser row) fun _ => row.id

def link (invitation : Invitation) (userId : Uuid) : AccountProcess Unit :=
  match invitation.customerId with
  | none => pure ()
  | some customerId => execute (.linkCustomer ⟨userId, customerId, invitation.tenantId⟩)

/-- The statements of the transaction of `accept`. -/
def acceptance (invitation : Invitation) (input : AcceptInput) (existing : Option User)
    (passwordHash : Option String) : AccountProcess Unit := do
  claim invitation
  checkTenant invitation
  checkCustomer invitation
  checkSeat invitation
  endAccountSessions existing passwordHash
  let userId ← join invitation input existing passwordHash
  link invitation userId

/-- What `accept` knows when it opens its transaction. -/
structure Checked where
  invitation : Invitation
  existing : Option User
  passwordHash : Option String

section calls
variable (crypto : AuthCrypto)

def hashNewPassword : Proof → AccountProcess (Option String)
  | .keeps => pure none
  | .newPassword password => do
    let salt ← drawn fun _ n => n
    let passwordHash ← find .root .passwordHash fun _ => crypto.hashPassword password salt
    return some passwordHash

def checks (input : AcceptInput) : AccountProcess Checked := do
  let found ← find .root .invitationFind (Store.findInvitation (crypto.sha256 input.token))
  let checkedAt ← now
  let invitation ← lift (usableInvitation found checkedAt)
  let existing ← find .root .userFind (Store.findUserByEmail invitation.email)
  lift (checkAccount input existing)
  let control ← lift (checkControl crypto.verifyPassword input existing)
  let passwordHash ← hashNewPassword crypto control
  return ⟨invitation, existing, passwordHash⟩

def accept (input : AcceptInput) : AccountScript :=
  .after (checks crypto input) fun checked =>
    .transaction (acceptance checked.invitation input checked.existing checked.passwordHash)
      (.after (audit (acceptedAudit checked.invitation)) fun _ => .done)

def invitationAudit (tenantId actorId id : Uuid) (action : AuditAction) (newValue : Option JsonObject)
    (metadata : JsonObject) (occurredAt : Time) : AuditLog where
  tenantId := some tenantId
  actorId := some actorId
  actorRole := none
  action := action
  resource := "invitations"
  resourceId := some id
  oldValue := none
  newValue := newValue
  occurredAt := occurredAt
  metadata := metadata

def sendEmail : AccountProcess Unit := find .root .emailQueueAdd fun _ => ()

def checkInvited (input : CreateInvitationInput) (customerId : Uuid) (found : Option Customer) :
    Except AppError Unit := do
  let customer ← orThrow (.notFound "Customer" customerId) found
  require (JsText.toLowerCase customer.email = JsText.toLowerCase input.email)
    (.validation "Invitation email must match the customer record")

def checkInvitedCustomer (input : CreateInvitationInput) : AccountProcess Unit :=
  match input.customerId with
  | none => pure ()
  | some customerId => do
    let found ← find .root .customerFind (Store.findCustomer customerId input.tenantId)
    lift (checkInvited input customerId found)
    let linked ← find .root .customerLinkFind (Store.findLinkOfCustomer customerId)
    lift (require linked.isNone (.conflict "Customer already has a portal account"))

def newInvitation (input : CreateInvitationInput) (id : Uuid) (token : String) (expiresAt : Time) :
    Invitation where
  id := id
  tenantId := input.tenantId
  email := JsText.toLowerCase input.email
  role := input.role
  customerId := input.customerId
  tokenHash := crypto.sha256 token
  expiresAt := expiresAt
  acceptedAt := none
  revokedAt := none

def create (input : CreateInvitationInput) : AccountProcess Unit := do
  lift (require (input.role ≠ .customer || input.customerId.isSome)
    (.validation "A customer record is required"))
  lift (require (input.role = .customer || input.customerId.isNone)
    (.validation "Staff invitations cannot link a customer record"))
  checkInvitedCustomer input
  let existing ← find .root .userFind (Store.findUserByEmail (JsText.toLowerCase input.email))
  lift (require (existing.all mayAccept)
    (.conflict "Email cannot accept an organization invitation"))
  let token ← drawn fun _ n => crypto.secureToken n
  let createdAt ← now
  let id ← drawn ServiceEnv.uuid
  execute (.createInvitation (newInvitation crypto input id token (createdAt + lifetime)))
  sendEmail
  audit (invitationAudit input.tenantId input.actorId id .create
    (some ([("role", .text input.role.text)] ++
      input.customerId.toList.map fun customerId => ("customerId", .id customerId))) [])

/-- The update does not repeat the filter of the read. -/
def resend (id tenantId actorId : Uuid) : AccountProcess Unit := do
  let found ← find .root .invitationFind (Store.findActiveInvitation id tenantId)
  let _ ← lift (orThrow (.notFound "Active invitation" id) found)
  let token ← drawn fun _ n => crypto.secureToken n
  let sentAt ← now
  execute (.renewInvitation id (crypto.sha256 token) (sentAt + lifetime))
  sendEmail
  audit (invitationAudit tenantId actorId id .update none [("action", .text "RESENT")])

end calls

def revoke (id tenantId actorId : Uuid) : AccountProcess Unit := do
  let revokedAt ← now
  execute (.revokeInvitation id tenantId revokedAt)
  audit (invitationAudit tenantId actorId id .delete none [])

section alone
variable {invitation : Invitation} {crypto : AuthCrypto}

theorem find_alone {α : Type} (client : Client) (kind : ServiceCall) (f : Store → α) :
    (find client kind f).toEffect accountStatements = Prisma.find client kind f :=
  toEffect_read (fun _ => rfl) f

theorem now_alone : now.toEffect accountStatements = OmniSupport.Database.now := rfl

theorem audit_alone (entry : Time → AuditLog) :
    (audit entry).toEffect accountStatements = AuditRepository.create entry := by
  simp only [audit, toEffect_bind, now_alone, toEffect_tryExecute]
  rfl

theorem claim_alone : (claim invitation).toEffect accountStatements =
    claimInvitation invitation := by
  simp only [claim, toEffect_bind, now_alone, claimInvitation]
  refine congrArg _ (funext fun claimedAt => congrArg _ (funext fun acceptedAt => ?_))
  rw [execute, toEffect_statement]
  refine congrArg _ (funext fun s => ?_)
  simp only [accountStatements, AccountStatement.exec]
  split <;> rfl

theorem checkTenant_alone : (checkTenant invitation).toEffect accountStatements =
    requireActiveTenant invitation := by
  simp only [checkTenant, toEffect_bind, find_alone, toEffect_lift]
  rfl

theorem checkCustomer_alone : (checkCustomer invitation).toEffect accountStatements =
    requireSameCustomer invitation := by
  unfold checkCustomer requireSameCustomer
  cases invitation.customerId with
  | none => rfl
  | some customerId => simp only [toEffect_bind, find_alone, toEffect_lift]

theorem checkSeat_alone : (checkSeat invitation).toEffect accountStatements =
    requireStaffSeat invitation := by
  unfold checkSeat requireStaffSeat
  split
  · have hcount : (statement (.countStaff invitation.tenantId)
        (Store.activeStaff invitation.tenantId) : AccountProcess Nat).toEffect accountStatements =
          Prisma.find .ambient .userCount (Store.activeStaff invitation.tenantId) :=
      toEffect_read (fun _ => rfl) _
    simp only [toEffect_bind, hcount, find_alone, toEffect_lift]
  · rfl

theorem resetAccount_alone (userId : Uuid) :
    (resetAccount userId).toEffect accountStatements = resetCredentials userId := by
  simp only [resetAccount, toEffect_bind, now_alone, execute, toEffect_statement]
  rfl

theorem endAccountSessions_alone (existing : Option User) (passwordHash : Option String) :
    (endAccountSessions existing passwordHash).toEffect accountStatements =
      endSessions existing passwordHash := by
  unfold endAccountSessions endSessions
  cases endsSessions existing passwordHash with
  | none => rfl
  | some userId => exact resetAccount_alone userId

theorem join_alone (input : AcceptInput) (existing : Option User) (passwordHash : Option String) :
    (join invitation input existing passwordHash).toEffect accountStatements =
      joinTenant invitation input existing passwordHash := by
  simp only [join, toEffect_bind, now_alone, joinTenant]
  refine congrArg _ (funext fun verifiedAt => congrArg _ (funext fun writtenAt => ?_))
  cases existing with
  | some user =>
    simp only [toEffect_statement]
    refine congrArg _ (funext fun s => ?_)
    simp only [accountStatements, AccountStatement.exec]
    split <;> rfl
  | none =>
    simp only [toEffect_bind, toEffect_drawn, toEffect_statement]
    refine congrArg _ (funext fun id => congrArg _ (funext fun s => ?_))
    simp only [accountStatements, AccountStatement.exec]
    split <;> rfl

theorem link_alone (userId : Uuid) : (link invitation userId).toEffect accountStatements =
    InvitationService.linkCustomer invitation userId := by
  unfold link InvitationService.linkCustomer
  cases invitation.customerId with
  | none => rfl
  | some customerId =>
    simp only [execute, toEffect_statement]
    refine congrArg _ (funext fun s => ?_)
    simp only [accountStatements, AccountStatement.exec]
    split <;> rfl

theorem acceptance_alone (input : AcceptInput) (existing : Option User)
    (passwordHash : Option String) :
    (acceptance invitation input existing passwordHash).toEffect accountStatements =
      writeAcceptance invitation input existing passwordHash := by
  simp only [acceptance, toEffect_bind, claim_alone, checkTenant_alone, checkCustomer_alone,
    checkSeat_alone, endAccountSessions_alone, join_alone, link_alone]
  rfl

theorem hashNewPassword_alone (control : Proof) :
    (hashNewPassword crypto control).toEffect accountStatements =
      newPasswordHash crypto control := by
  cases control with
  | keeps => rfl
  | newPassword password =>
    simp only [hashNewPassword, toEffect_bind, toEffect_drawn, find_alone]
    rfl

/-- Run alone, the statements of `accept` are the method of the service. -/
theorem accept_alone (input : AcceptInput) :
    (accept crypto input).toEffect accountStatements .commit =
      InvitationService.accept crypto input := by
  have hrest : ∀ checked : Checked,
      (Script.transaction
        (acceptance checked.invitation input checked.existing checked.passwordHash)
        (.after (audit (acceptedAudit checked.invitation)) fun _ => .done)).toEffect
          accountStatements .commit =
        Effect.transaction .commit .database
          (writeAcceptance checked.invitation input checked.existing checked.passwordHash) >>=
            fun _ => AuditRepository.create (acceptedAudit checked.invitation) := by
    intro checked
    rw [Script.toEffect, Script.toEffect_ending, acceptance_alone, audit_alone]
    rfl
  simp only [accept, checks, Script.toEffect_after, toEffect_bind, find_alone, now_alone,
    toEffect_lift, hashNewPassword_alone, toEffect_pure, hrest, bind_assoc, pure_bind,
    InvitationService.accept]

end alone
end InvitationCalls
end OmniSupport.Auth
