import OmniSupport.Database.Statements
import OmniSupport.Identity.AccountEntity

/-! Activating, deactivating and removing the agents of a tenant. -/
namespace OmniSupport.Identity
open Foundation Database

structure SetActiveInput where
  tenantId : Uuid
  actorId : Uuid
  userId : Uuid
  active : Bool
  deriving DecidableEq

structure RemoveInput where
  tenantId : Uuid
  actorId : Uuid
  userId : Uuid
  replacementAgentId : Option Uuid
  deriving DecidableEq

namespace StaffLifecycleService

def statusFor (active : Bool) : UserStatus := if active then .active else .inactive

/-- The agent the call is about, unless it is the actor. -/
def setActiveTarget (input : SetActiveInput) (found : Option User) : Except AppError User := do
  let target ← orThrow (.notFound "Agent" input.userId) found
  require (!(input.active && target.removedAt.isSome))
    (.conflict "Removed agents cannot be reactivated")
  return target

def withStatus (active : Bool) (writtenAt : Time) (row : User) : User :=
  { row with status := statusFor active, updatedAt := writtenAt }

def statusAudit (input : SetActiveInput) (id : Uuid) (occurredAt : Time) : AuditLog where
  tenantId := some input.tenantId
  actorId := some input.actorId
  actorRole := none
  action := .update
  resource := "users"
  resourceId := some id
  oldValue := none
  newValue := some [("status", .text (statusFor input.active).text)]
  occurredAt := occurredAt

/-- Sessions end when the account is disabled. -/
def endSessions (active : Bool) (userId : Uuid) : ServiceM Unit :=
  if active then pure () else SessionRevoker.revokeAllUserTokens userId "ACCOUNT_DISABLED"

def setActive (input : SetActiveInput) : ServiceM Unit := do
  Effect.lift (require (input.actorId ≠ input.userId)
    (.forbidden "You cannot change your own status"))
  let found ← Prisma.find .root .userFind (Store.findAgent input.userId input.tenantId)
  let target ← Effect.lift (setActiveTarget input found)
  let writtenAt ← now
  Prisma.userUpdate .root target.id (withStatus input.active writtenAt)
  endSessions input.active target.id
  AuditRepository.create (statusAudit input target.id)

def requireReplacement (input : RemoveInput) : ServiceM Unit :=
  match input.replacementAgentId with
  | none => pure ()
  | some replacementId => do
    let found ← Prisma.find .root .userFind (Store.findActiveAgent replacementId input.tenantId)
    Effect.lift (require found.isSome (.notFound "Active replacement agent" replacementId))

def removed (removedAt writtenAt : Time) (row : User) : User :=
  { row with status := .inactive, removedAt := some removedAt, updatedAt := writtenAt }

/-- The statements of the transaction: the work of the agent goes to the replacement, and
the tenant roles end. -/
def writeRemoval (input : RemoveInput) : ServiceM Unit := do
  let ticketsAt ← now
  Prisma.write .ambient .ticketUpdateMany
    (Store.reassignTickets input.tenantId input.userId input.replacementAgentId ticketsAt)
  let customersAt ← now
  Prisma.write .ambient .customerUpdateMany
    (Store.reassignCustomers input.tenantId input.userId input.replacementAgentId customersAt)
  Prisma.write .ambient .membershipDeleteMany
    (Store.deleteMembershipsOf input.userId input.tenantId)
  let removedAt ← now
  let writtenAt ← now
  Prisma.userUpdate .ambient input.userId (removed removedAt writtenAt)

def removalAudit (input : RemoveInput) (occurredAt : Time) : AuditLog where
  tenantId := some input.tenantId
  actorId := some input.actorId
  actorRole := none
  action := .delete
  resource := "users"
  resourceId := some input.userId
  oldValue := none
  newValue := none
  occurredAt := occurredAt
  metadata := [("replacementAgentId", (input.replacementAgentId.map .id).getD .null)]

def remove (input : RemoveInput) : ServiceM Unit := do
  Effect.lift (require (input.actorId ≠ input.userId) (.forbidden "You cannot remove yourself"))
  Effect.lift (require (input.replacementAgentId ≠ some input.userId)
    (.conflict "Replacement must be another agent"))
  let found ← Prisma.find .root .userFind (Store.findAgent input.userId input.tenantId)
  let _ ← Effect.lift (orThrow (.notFound "Agent" input.userId) found)
  requireReplacement input
  Effect.transaction .commit .database (writeRemoval input)
  SessionRevoker.revokeAllUserTokens input.userId "ACCOUNT_REMOVED"
  AuditRepository.create (removalAudit input)

end StaffLifecycleService
end OmniSupport.Identity
