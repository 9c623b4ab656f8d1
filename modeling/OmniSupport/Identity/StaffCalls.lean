import OmniSupport.Auth.InvitationCalls

/-! The calls that change who is staff of a tenant, by their statements: agents are activated,
deactivated and removed, and roles are changed. Run alone, each is the method of its service. -/
namespace OmniSupport.Identity
open Foundation Database Outbox Auth

namespace StaffCalls
open Process AccountProcess

def revokeAllUserTokens (userId : Uuid) (reason : String) : AccountProcess Unit := do
  let revokedAt ← now
  execute (.revokeTokens .root userId reason revokedAt)

def endSessions (active : Bool) (userId : Uuid) : AccountProcess Unit :=
  if active then pure () else revokeAllUserTokens userId "ACCOUNT_DISABLED"

def setActive (input : SetActiveInput) : AccountProcess Unit := do
  lift (require (input.actorId ≠ input.userId)
    (.forbidden "You cannot change your own status"))
  let found ← find .root .userFind (Store.findAgent input.userId input.tenantId)
  let target ← lift (StaffLifecycleService.setActiveTarget input found)
  let writtenAt ← now
  execute (.setStatus target.id input.active writtenAt)
  endSessions input.active target.id
  audit (StaffLifecycleService.statusAudit input target.id)

def requireReplacement (input : RemoveInput) : AccountProcess Unit :=
  match input.replacementAgentId with
  | none => pure ()
  | some replacementId => do
    let found ← find .root .userFind (Store.findActiveAgent replacementId input.tenantId)
    lift (require found.isSome (.notFound "Active replacement agent" replacementId))

def removal (input : RemoveInput) : AccountProcess Unit := do
  let ticketsAt ← now
  execute (.reassignTickets input ticketsAt)
  let customersAt ← now
  execute (.reassignCustomers input customersAt)
  execute (.deleteMemberships input.userId input.tenantId)
  let removedAt ← now
  let writtenAt ← now
  execute (.removeUser input.userId removedAt writtenAt)

def checkRemoval (input : RemoveInput) : AccountProcess Unit := do
  lift (require (input.actorId ≠ input.userId) (.forbidden "You cannot remove yourself"))
  lift (require (input.replacementAgentId ≠ some input.userId)
    (.conflict "Replacement must be another agent"))
  let found ← find .root .userFind (Store.findAgent input.userId input.tenantId)
  let _ ← lift (orThrow (.notFound "Agent" input.userId) found)
  requireReplacement input

def afterRemoval (input : RemoveInput) : AccountProcess Unit := do
  revokeAllUserTokens input.userId "ACCOUNT_REMOVED"
  audit (StaffLifecycleService.removalAudit input)

def remove (input : RemoveInput) : AccountScript :=
  .after (checkRemoval input) fun _ =>
    .transaction (removal input) (.after (afterRemoval input) fun _ => .done)

/-- `UserRepository.update`, with the row it returns. -/
def update (user : User) : AccountProcess User := do
  let writtenAt ← now
  statement (.updateUser writtenAt user) fun s =>
    ((s.findUser user.id).map (User.write writtenAt user)).getD user

def toRow (event : DomainEvent) : AccountProcess (OutboxEvent EventBody) := do
  let id ← drawn ServiceEnv.uuid
  let createdAt ← now
  return toCreateInput id createdAt event.toPayload

def toRows : List DomainEvent → AccountProcess (List (OutboxEvent EventBody))
  | [] => return []
  | event :: rest => do
    let row ← toRow event
    let rows ← toRows rest
    return row :: rows

def publishAll (events : List DomainEvent) : AccountProcess Unit :=
  if events = [] then return () else do
    let rows ← toRows events
    execute (.enqueue rows)

def endChangedSessions (differs : Bool) (userId : Uuid) : AccountProcess Unit :=
  if differs then revokeAllUserTokens userId "ROLE_CHANGED" else pure ()

def changeRole (sessionRevoker : Bool) (dto : ChangeRoleDto) : AccountProcess Unit := do
  let found ← find .root .userFind (Store.findUserIn dto.targetUserId dto.tenantId)
  let target ← lift (orThrow (.notFound "User" dto.targetUserId) found)
  let newRole ← lift (UserRole.create dto.newRole)
  let decision := UserService.roleDecision dto target newRole
  lift (require decision.allowed (.forbidden (decision.reason.getD "Role change not allowed")))
  let header ← drawn ServiceEnv.header
  let changed := UserService.roleChanged dto target newRole header
  let updated ← update changed.row
  endChangedSessions (sessionRevoker && target.role ≠ updated.role) target.id
  audit (UserService.roleAudit dto target)
  publishAll changed.events

section alone

theorem revokeAllUserTokens_alone (userId : Uuid) (reason : String) :
    (revokeAllUserTokens userId reason).toEffect accountStatements =
      SessionRevoker.revokeAllUserTokens userId reason := by
  simp only [revokeAllUserTokens, toEffect_bind, InvitationCalls.now_alone, execute,
    toEffect_statement]
  rfl

/-- Run alone, the statements of `setActive` are the method of the service. -/
theorem setActive_alone (input : SetActiveInput) :
    (setActive input).toEffect accountStatements = StaffLifecycleService.setActive input := by
  have hupdate : ∀ id writtenAt,
      (execute (.setStatus id input.active writtenAt) : AccountProcess Unit).toEffect
          accountStatements =
        Prisma.userUpdate .root id (StaffLifecycleService.withStatus input.active writtenAt) := by
    intro id writtenAt
    rw [execute, toEffect_statement]
    refine congrArg _ (funext fun s => ?_)
    simp only [accountStatements, AccountStatement.exec, AccountStatement.updateOne]
    split <;> rfl
  have hend : ∀ userId, (endSessions input.active userId).toEffect accountStatements =
      StaffLifecycleService.endSessions input.active userId := by
    intro userId
    unfold endSessions StaffLifecycleService.endSessions
    split
    · rfl
    · exact revokeAllUserTokens_alone userId _
  simp only [setActive, toEffect_bind, toEffect_lift, InvitationCalls.find_alone,
    InvitationCalls.now_alone, hupdate, hend, InvitationCalls.audit_alone]
  rfl

theorem removal_alone (input : RemoveInput) : (removal input).toEffect accountStatements =
    StaffLifecycleService.writeRemoval input := by
  have hupdate : ∀ removedAt writtenAt,
      (execute (.removeUser input.userId removedAt writtenAt) : AccountProcess Unit).toEffect
          accountStatements =
        Prisma.userUpdate .ambient input.userId
          (StaffLifecycleService.removed removedAt writtenAt) := by
    intro removedAt writtenAt
    rw [execute, toEffect_statement]
    refine congrArg _ (funext fun s => ?_)
    simp only [accountStatements, AccountStatement.exec, AccountStatement.updateOne]
    split <;> rfl
  simp only [removal, toEffect_bind, InvitationCalls.now_alone, hupdate]
  simp only [execute, toEffect_statement]
  rfl

/-- Run alone, the statements of `remove` are the method of the service. -/
theorem remove_alone (input : RemoveInput) :
    (remove input).toEffect accountStatements .commit = StaffLifecycleService.remove input := by
  have hreplacement : (requireReplacement input).toEffect accountStatements =
      StaffLifecycleService.requireReplacement input := by
    unfold requireReplacement StaffLifecycleService.requireReplacement
    cases input.replacementAgentId with
    | none => rfl
    | some replacementId => simp only [toEffect_bind, InvitationCalls.find_alone, toEffect_lift]
  have hrest : (Script.transaction (removal input)
      (.after (afterRemoval input) fun _ => .done)).toEffect accountStatements .commit =
        Effect.transaction .commit .database (StaffLifecycleService.writeRemoval input) >>=
          fun _ => SessionRevoker.revokeAllUserTokens input.userId "ACCOUNT_REMOVED" >>=
            fun _ => AuditRepository.create (StaffLifecycleService.removalAudit input) := by
    rw [Script.toEffect, Script.toEffect_ending, removal_alone, afterRemoval, toEffect_bind,
      revokeAllUserTokens_alone]
    simp only [InvitationCalls.audit_alone]
    rfl
  simp only [remove, checkRemoval, Script.toEffect_after, toEffect_bind, toEffect_lift,
    InvitationCalls.find_alone, hreplacement, hrest, bind_assoc, StaffLifecycleService.remove]

theorem update_alone (user : User) : (update user).toEffect accountStatements =
    UserRepository.update user := by
  simp only [update, toEffect_bind, InvitationCalls.now_alone, UserRepository.update,
    toEffect_statement]
  refine congrArg _ (funext fun writtenAt => congrArg _ (funext fun s => ?_))
  simp only [accountStatements, AccountStatement.exec, UserRepository.updateRow]
  cases s.findUser user.id with
  | none => rfl
  | some row =>
    simp only
    split <;> rfl

theorem publishAll_alone (events : List DomainEvent) :
    (publishAll events).toEffect accountStatements = OutboxPublisher.publishAll events := by
  have hrow : ∀ event, (toRow event).toEffect accountStatements = OutboxPublisher.toRow event := by
    intro event
    simp only [toRow, toEffect_bind, toEffect_drawn, InvitationCalls.now_alone]
    rfl
  have hrows : ∀ events, (toRows events).toEffect accountStatements =
      OutboxPublisher.toRows events := by
    intro events
    induction events with
    | nil => rfl
    | cons event rest ih =>
      simp only [toRows, toEffect_bind, hrow, ih]
      rfl
  unfold publishAll OutboxPublisher.publishAll
  split
  · rfl
  · simp only [toEffect_bind, hrows, execute, toEffect_statement]
    rfl

/-- Run alone, the statements of `changeRole` are the method of the service. -/
theorem changeRole_alone (sessionRevoker : Bool) (dto : ChangeRoleDto) :
    (changeRole sessionRevoker dto).toEffect accountStatements =
      UserService.changeRole sessionRevoker dto := by
  have hend : ∀ differs userId, (endChangedSessions differs userId).toEffect accountStatements =
      withRevoker differs (SessionRevoker.revokeAllUserTokens userId "ROLE_CHANGED") := by
    intro differs userId
    unfold endChangedSessions withRevoker
    split
    · exact revokeAllUserTokens_alone userId _
    · rfl
  simp only [changeRole, toEffect_bind, toEffect_lift, toEffect_drawn, InvitationCalls.find_alone,
    update_alone, hend, InvitationCalls.audit_alone, publishAll_alone]
  rfl

end alone
end StaffCalls
end OmniSupport.Identity
