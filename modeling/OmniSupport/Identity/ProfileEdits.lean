import OmniSupport.Foundation.Unwinding
import OmniSupport.Identity.AccountService
import OmniSupport.Identity.StaffLifecycle
import OmniSupport.Auth.InvitationService

/-! One row of `users` under any number of calls that read it and write it later. Profile
edits and role changes write every column from the copy they have read; the others write
the columns they are about. -/
namespace OmniSupport.Identity
open Foundation Database Auth

structure UpdateProfileDto extends ProfileInput where
  userId : Uuid
  tenantId : Option Uuid
  deriving DecidableEq

namespace UserService

def profileAudit (dto : UpdateProfileDto) (user : User) (occurredAt : Time) : AuditLog where
  tenantId := dto.tenantId
  actorId := some dto.userId
  actorRole := some user.role
  action := .update
  resource := "users"
  resourceId := some user.id
  oldValue := none
  newValue := some ((dto.firstName.toList.map fun name => ("firstName", .text name)) ++
    dto.lastName.toList.map fun name => ("lastName", .text name))
  occurredAt := occurredAt

def updateProfile (dto : UpdateProfileDto) : ServiceM Unit := do
  let found ← UserRepository.findById dto.userId dto.tenantId
  let user ← Effect.lift (orThrow (.notFound "User" dto.userId) found)
  let edited := (UserEntity.reconstitute user).updateProfile dto.toProfileInput
  let _ ← UserRepository.update edited.row
  AuditRepository.create (profileAudit dto user)
  OutboxPublisher.publishAll edited.events

end UserService

/-- The other calls that write the row, with what they read elsewhere. -/
inductive SecurityCall where
  | changeRole (dto : ChangeRoleDto) (header : EventHeader)
  | resetPassword (userId : Uuid) (passwordHash : String)
  | login (dto : LoginDto) (tenant : Option Tenant)
  | setActive (input : SetActiveInput)
  | remove (input : RemoveInput)
  | accept (invitation : Invitation) (input : AcceptInput) (passwordHash : String)

/-- A write of the row: when its values are taken, and when the statement runs. -/
abbrev RowWrite := Time → Time → User → User

/-- The filter of `UserRepository.findById`. -/
def isUserIn (id : Uuid) (tenantId : Option Uuid) (row : User) : Bool :=
  row.id = id && (tenantId.isNone || row.tenantId = tenantId)

/-- The filter of `StaffLifecycleService`. -/
def isAgentIn (id tenantId : Uuid) (row : User) : Bool :=
  row.id = id && row.tenantId = some tenantId && row.role = .agent

def roleWrite (dto : ChangeRoleDto) (header : EventHeader) (copy : User) : Option RowWrite :=
  if isUserIn dto.targetUserId dto.tenantId copy then
    match UserRole.create dto.newRole with
    | .ok newRole =>
      if (UserService.roleDecision dto copy newRole).allowed then
        some fun _ writtenAt => User.write writtenAt
          (UserService.roleChanged dto copy newRole header).row
      else none
    | .error _ => none
  else none

/-- A wrong password is counted, an accepted one opens a session. -/
def loginWrite (crypto : AuthCrypto) (dto : LoginDto) (tenant : Option Tenant) (readAt : Time)
    (copy : User) : Option RowWrite :=
  if copy.email = JsText.toLowerCase dto.email then
    match AuthService.credentials (some copy) readAt
      (crypto.verifyPassword (copy.passwordHash.getD crypto.dummyPasswordHash) dto.password) with
    | .error none => none
    | .error (some user) => some (AuthService.failedLogin (user.failedLoginAttempts + 1))
    | .ok user =>
      match AuthService.loginAllowed user,
        AuthService.tenantAllowsLogin (user.tenantId.bind fun _ => tenant) with
      | .ok _, .ok _ => some (AuthService.loggedIn dto.ipAddress)
      | _, _ => none
  else none

def activeWrite (input : SetActiveInput) (copy : User) : Option RowWrite :=
  if input.actorId ≠ input.userId ∧ isAgentIn input.userId input.tenantId copy then
    match StaffLifecycleService.setActiveTarget input (some copy) with
    | .ok _ => some fun _ => StaffLifecycleService.withStatus input.active
    | .error _ => none
  else none

def removeWrite (input : RemoveInput) (copy : User) : Option RowWrite :=
  if input.actorId ≠ input.userId ∧ input.replacementAgentId ≠ some input.userId ∧
      isAgentIn input.userId input.tenantId copy then
    some StaffLifecycleService.removed
  else none

/-- A new password, where the acceptance sets one. -/
def acceptedHash (passwordHash : String) : InvitationService.Proof → Option String
  | .keeps => none
  | .newPassword _ => some passwordHash

/-- The update finds the row as long as it has no tenant. -/
def acceptedRow (invitation : Invitation) (passwordHash : Option String) : RowWrite :=
  fun verifiedAt writtenAt row =>
    if row.tenantId.isNone then
      InvitationService.accepted invitation passwordHash verifiedAt writtenAt row
    else row

def acceptWrite (crypto : AuthCrypto) (invitation : Invitation) (input : AcceptInput)
    (passwordHash : String) (readAt : Time) (copy : User) : Option RowWrite :=
  if copy.email = invitation.email then
    match InvitationService.usableInvitation (some invitation) readAt,
      InvitationService.checkAccount input (some copy),
      InvitationService.checkControl crypto.verifyPassword input (some copy) with
    | .ok _, .ok _, .ok control => some (acceptedRow invitation (acceptedHash passwordHash control))
    | _, _, _ => none
  else none

/-- The write a call goes on to make, if the row it reads is the one it is about and its
checks pass. -/
def SecurityCall.rowWrite (crypto : AuthCrypto) (readAt : Time) (copy : User) :
    SecurityCall → Option RowWrite
  | .changeRole dto header => roleWrite dto header copy
  | .resetPassword userId passwordHash =>
    if copy.id = userId then some fun _ => AuthService.passwordReset passwordHash else none
  | .login dto tenant => loginWrite crypto dto tenant readAt copy
  | .setActive input => activeWrite input copy
  | .remove input => removeWrite input copy
  | .accept invitation input passwordHash =>
    acceptWrite crypto invitation input passwordHash readAt copy

/-- A call between its read and its write. -/
inductive AccountCall where
  | idle
  | editing (dto : UpdateProfileDto) (copy : User)
  | changing (call : SecurityCall) (readAt : Time) (copy : User)

inductive AccountAction where
  | readProfile (dto : UpdateProfileDto)
  | writeProfile (writtenAt : Time)
  | failProfile
  | read (call : SecurityCall) (readAt : Time)
  | write (takenAt writtenAt : Time)
  | fail

def AccountAction.isProfile : AccountAction → Bool
  | .readProfile _ | .writeProfile _ | .failProfile => true
  | _ => false

section machine
variable (crypto : AuthCrypto)

def startEdit (dto : UpdateProfileDto) (row : User) : AccountCall :=
  if isUserIn dto.userId dto.tenantId row then .editing dto row else .idle

def startCall (call : SecurityCall) (readAt : Time) (row : User) : AccountCall :=
  if (call.rowWrite crypto readAt row).isSome then .changing call readAt row else .idle

/-- The write of a call that has read `copy`. -/
def finishCall (call : SecurityCall) (readAt : Time) (copy : User) (takenAt writtenAt : Time)
    (row : User) : User :=
  match call.rowWrite crypto readAt copy with
  | some write => write takenAt writtenAt row
  | none => row

def editedRow (dto : UpdateProfileDto) (copy : User) (writtenAt : Time) (row : User) : User :=
  User.write writtenAt ((UserEntity.reconstitute copy).updateProfile dto.toProfileInput).row row

def accountAct (row : User) : AccountCall → AccountAction → Option (User × AccountCall)
  | .idle, .readProfile dto => some (row, startEdit dto row)
  | .idle, .read call readAt => some (row, startCall crypto call readAt row)
  | .editing dto copy, .writeProfile writtenAt => some (editedRow dto copy writtenAt row, .idle)
  | .editing _ _, .failProfile => some (row, .idle)
  | .changing call readAt copy, .write takenAt writtenAt =>
    some (finishCall crypto call readAt copy takenAt writtenAt row, .idle)
  | .changing .., .fail => some (row, .idle)
  | _, _ => none

def accountProgram : Program User AccountCall AccountAction Empty where
  act _ := accountAct crypto
  env _ e := e.elim

end machine

abbrev AccountPool := Pool User AccountCall

abbrev AccountMove := Move AccountAction Empty

def storedUser (row : User) : AccountPool := ⟨row, fun _ => .idle⟩

/-- The moves of the other calls. -/
def withoutEdits (moves : List AccountMove) : List AccountMove :=
  moves.filter fun move => !Program.hiddenMove AccountAction.isProfile move

/-- The columns a profile edit is not about. -/
structure SameSecurity (u v : User) : Prop where
  role : u.role = v.role
  status : u.status = v.status
  passwordHash : u.passwordHash = v.passwordHash
  tenantId : u.tenantId = v.tenantId
  failedLoginAttempts : u.failedLoginAttempts = v.failedLoginAttempts
  lockedUntil : u.lockedUntil = v.lockedUntil

instance (u v : User) : Decidable (SameSecurity u v) :=
  decidable_of_iff (u.role = v.role ∧ u.status = v.status ∧ u.passwordHash = v.passwordHash ∧
    u.tenantId = v.tenantId ∧ u.failedLoginAttempts = v.failedLoginAttempts ∧
    u.lockedUntil = v.lockedUntil)
    ⟨fun ⟨hr, hs, hp, ht, hf, hl⟩ => ⟨hr, hs, hp, ht, hf, hl⟩,
      fun ⟨hr, hs, hp, ht, hf, hl⟩ => ⟨hr, hs, hp, ht, hf, hl⟩⟩

/-- The columns are what the other calls would have left by themselves. -/
def EditsKeepSecurity (crypto : AuthCrypto) (row : User) (moves : List AccountMove) : Prop :=
  ∀ c, (accountProgram crypto).machine.run (storedUser row) moves = some c →
    ∃ d, (accountProgram crypto).machine.run (storedUser row) (withoutEdits moves) = some d ∧
      SameSecurity c.shared d.shared

/-- A profile edit writes over a row that still has the columns it has read. -/
def CopyCurrent (row : User) (call : AccountCall) (action : AccountAction) : Prop :=
  match call, action with
  | .editing _ copy, .writeProfile _ => SameSecurity copy row
  | _, _ => True

instance (row : User) (call : AccountCall) (action : AccountAction) :
    Decidable (CopyCurrent row call action) :=
  match call with
  | .idle => isTrue trivial
  | .changing .. => isTrue trivial
  | .editing _ copy =>
    match action with
    | .writeProfile _ => inferInstanceAs (Decidable (SameSecurity copy row))
    | .readProfile _ | .failProfile | .read .. | .write .. | .fail => isTrue trivial

end OmniSupport.Identity
