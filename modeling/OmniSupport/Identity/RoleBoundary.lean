import OmniSupport.Database.ServiceRules
import OmniSupport.Identity.RoleManagement

/-! Any number of calls that change roles, memberships and account classes at once, one
statement at a time, and the classes the members of a role belong to. -/
namespace OmniSupport.Identity
open Foundation Database Process

inductive RoleCommand where
  | create (actor : RoleActor) (input : CreateRoleInput)
  | update (actor : RoleActor) (roleId : Uuid) (input : UpdateRoleInput)
  | remove (actor : RoleActor) (roleId : Uuid)
  | assign (actor : RoleActor) (roleId userId : Uuid)
  | unassign (actor : RoleActor) (roleId userId : Uuid)
  | changeRole (dto : ChangeRoleDto)
  | removeStaff (input : RemoveInput)

def roleProgram : RoleCommand → RoleProcess Unit
  | .create actor input => do
    let _ ← RoleManagementService.create actor input
    return ()
  | .update actor roleId input => do
    let _ ← RoleManagementService.update actor roleId input
    return ()
  | .remove actor roleId => RoleManagementService.remove actor roleId
  | .assign actor roleId userId => RoleManagementService.assign actor roleId userId
  | .unassign actor roleId userId => RoleManagementService.unassign actor roleId userId
  | .changeRole dto => RoleProcess.changeRole dto
  | .removeStaff input => RoleProcess.removeStaff input

abbrev RoleMove := Move (Turn ServiceEnv RoleCommand) Empty

abbrev RolePool := Pool Store (RoleProcess Unit)

def rolePool : Program Store (RoleProcess Unit) (Turn ServiceEnv RoleCommand) Empty :=
  Process.pool roleStatements roleProgram

/-- The permissions of the role are ones the class of the member may hold. -/
def MemberWithinClass (s : Store) (membership : UserRoleMembership) : Prop :=
  ∀ role ∈ s.findRole membership.roleId, ∀ user ∈ s.findUser membership.userId,
    role.permissions ⊆ Permission.classBoundary user.role

def MembersWithinClass (s : Store) : Prop :=
  ∀ membership ∈ s.memberships, MemberWithinClass s membership

structure MembershipsSound (s : Store) : Prop where
  roles : ∀ membership ∈ s.memberships, (s.findRole membership.roleId).isSome = true
  within : MembersWithinClass s

/-- The check of the call has passed for what it has seen. -/
def CheckPassed : RoleStatement → Prop
  | .upsertMembership _ checkedClass checkedGrants =>
    checkedGrants ⊆ Permission.classBoundary checkedClass
  | .updateRole _ _ _ change => ∀ planned ∈ change, ∀ accountClass ∈ planned.checked,
    planned.created ⊆ Permission.classBoundary accountClass
  | _ => True

/-- What the call has checked is still so when its statement runs, or the check would pass
again. A role change checks nothing: the class it writes has to allow what the roles of the
user contain. -/
def ChecksHold (s : Store) : RoleStatement → Prop
  | .upsertMembership row checkedClass checkedGrants =>
    ∀ role ∈ s.findRole row.roleId, ∀ user ∈ s.findUser row.userId,
      (user.role = checkedClass ∧ role.permissions ⊆ checkedGrants) ∨
        role.permissions ⊆ Permission.classBoundary user.role
  | .updateRole id _ _ change => ∀ planned ∈ change, ∀ accountClass ∈ s.memberClasses id,
    accountClass ∈ planned.checked ∨
      planned.created ⊆ Permission.classBoundary accountClass
  | .updateUser _ user => ∀ membership ∈ s.memberships, membership.userId = user.id →
    s.membershipGrants membership ⊆ Permission.classBoundary user.role
  | _ => True

instance (s : Store) (st : RoleStatement) : Decidable (ChecksHold s st) := by
  cases st <;> unfold ChecksHold <;> infer_instance

instance (s : Store) : Decidable (MembersWithinClass s) :=
  inferInstanceAs (Decidable (∀ membership ∈ s.memberships,
    ∀ role ∈ s.findRole membership.roleId, ∀ user ∈ s.findUser membership.userId,
      role.permissions ⊆ Permission.classBoundary user.role))

section issues
variable {actor : RoleActor}

theorem issues_find {α : Type} {Q : α → Prop} {kind : ServiceCall} {f : Store → α}
    (h : ∀ s, Q (f s)) : (RoleProcess.find kind f).Issues CheckPassed Q :=
  issues_statement trivial h

theorem issues_any_find {α : Type} (kind : ServiceCall) (f : Store → α) :
    (RoleProcess.find kind f).Issues CheckPassed fun _ => True :=
  issues_find fun _ => trivial

theorem issues_any_lift {α : Type} (x : Except AppError α) :
    (lift x : RoleProcess α).Issues CheckPassed fun _ => True :=
  issues_lift fun _ _ => trivial

theorem issues_execute {st : RoleStatement} (h : CheckPassed st) :
    (execute st : RoleProcess Unit).Issues CheckPassed fun _ => True :=
  issues_statement h fun _ => trivial

theorem issues_execute_bind {α : Type} {Q : α → Prop} {st : RoleStatement}
    {f : Unit → RoleProcess α} (h : CheckPassed st) (hf : (f ()).Issues CheckPassed Q) :
    (execute st >>= f).Issues CheckPassed Q :=
  (issues_execute h).bind fun _ _ => hf

theorem issues_audit (entry : Time → AuditLog) :
    (RoleProcess.audit entry).Issues CheckPassed fun _ => True :=
  Issues.bind (Q := fun _ => True) (issues_drawn fun _ _ => trivial) fun _ _ =>
    issues_tryExecute trivial trivial

theorem issues_findMutable (id tenantId : Uuid) :
    (RoleManagementService.findMutable id tenantId).Issues CheckPassed fun _ => True :=
  (issues_any_find _ _).bind fun _ _ => issues_any_lift _

theorem issues_assertActorHolds (grants : List Permission) :
    (RoleManagementService.assertActorHolds actor grants).Issues CheckPassed fun _ => True :=
  (issues_any_find _ _).bind fun _ _ => issues_any_lift _

theorem issues_resolveGrantable (grants : List String) :
    (RoleManagementService.resolveGrantable actor grants).Issues CheckPassed fun _ => True :=
  (issues_any_lift _).bind fun _ _ => (issues_assertActorHolds _).bind fun _ _ =>
    (issues_any_find _ _).bind fun _ _ => issues_any_lift _

/-- The classes that were looked at may all hold the grants. -/
theorem checkClasses_ok {grants : List Permission} {classes checked : List UserRole}
    (h : RoleManagementService.checkClasses grants classes = .ok checked) :
    ∀ accountClass ∈ checked, grants ⊆ Permission.classBoundary accountClass := by
  unfold RoleManagementService.checkClasses at h
  split at h
  · cases h
  · rename_i hnone
    cases h
    intro accountClass hm
    have hall := List.find?_eq_none.mp hnone accountClass (List.mem_eraseDups.mpr hm)
    exact Permission.grantsOutsideBoundary_eq_nil.mp (by simpa using hall)

theorem issues_plannedChange (roleId : Uuid) (grants : Option (List String)) :
    (RoleManagementService.plannedChange actor roleId grants).Issues CheckPassed fun change =>
      ∀ planned ∈ change, ∀ accountClass ∈ planned.checked,
        planned.created ⊆ Permission.classBoundary accountClass := by
  cases grants with
  | none =>
    intro planned hm
    cases hm
  | some grants =>
    refine Issues.bind (Q := fun planned => ∀ accountClass ∈ planned.checked,
      planned.created ⊆ Permission.classBoundary accountClass) ?_ ?_
    · refine (issues_resolveGrantable grants).bind fun permissions _ => ?_
      refine Issues.bind (Q := fun checked => ∀ accountClass ∈ checked,
        permissions ⊆ Permission.classBoundary accountClass) ?_ fun checked hchecked => ?_
      · exact (issues_any_find _ _).bind fun classes _ => issues_lift fun _ h => checkClasses_ok h
      · exact (issues_any_find _ _).bind fun deleted _ => hchecked
    · intro change hchange planned hm
      cases hm
      exact hchange

theorem issues_create (input : CreateRoleInput) :
    (RoleManagementService.create actor input).Issues CheckPassed fun _ => True :=
  (issues_any_lift _).bind fun _ _ => (issues_resolveGrantable _).bind fun _ _ =>
    (issues_any_find _ _).bind fun _ _ => (issues_any_lift _).bind fun _ _ =>
      Issues.bind (Q := fun _ => True) (issues_drawn fun _ _ => trivial) fun _ _ =>
        issues_execute_bind trivial ((issues_audit _).bind fun _ _ => trivial)

theorem issues_update (roleId : Uuid) (input : UpdateRoleInput) :
    (RoleManagementService.update actor roleId input).Issues CheckPassed fun _ => True := by
  refine (issues_findMutable _ _).bind fun role _ => ?_
  refine (issues_plannedChange _ _).bind fun change hchange => ?_
  refine Issues.bind (Q := fun _ => True) (issues_statement hchange fun _ => trivial) fun _ _ => ?_
  exact (issues_audit _).bind fun _ _ => (issues_any_lift _).bind fun _ _ => trivial

/-- The boundary of the class has let the grants through. -/
theorem checkBoundary_ok {target : User} {grants : List Permission} {u : Unit}
    (h : RoleManagementService.checkBoundary target grants = .ok u) :
    grants ⊆ Permission.classBoundary target.role := by
  have hnone := require_ok h
  exact Permission.grantsOutsideBoundary_eq_nil.mp (of_decide_eq_true hnone)

theorem issues_assign (roleId userId : Uuid) :
    (RoleManagementService.assign actor roleId userId).Issues CheckPassed fun _ => True := by
  refine (issues_any_lift _).bind fun _ _ => (issues_findMutable _ _).bind fun role _ => ?_
  refine Issues.bind (Q := fun _ => True)
    ((issues_any_find _ _).bind fun _ _ => issues_any_lift _) fun target _ => ?_
  refine Issues.bind (Q := fun _ => RoleManagementService.sortedGrants role.permissions ⊆
    Permission.classBoundary target.role) (issues_lift fun _ h => checkBoundary_ok h)
    fun _ hgrants => ?_
  exact (issues_assertActorHolds _).bind fun _ _ =>
    issues_execute_bind hgrants (issues_audit _)

theorem issues_toRows (events : List DomainEvent) :
    (RoleProcess.toRows events).Issues CheckPassed fun _ => True := by
  induction events with
  | nil => trivial
  | cons event rest ih =>
    have hrow : (RoleProcess.toRow event).Issues CheckPassed fun _ => True :=
      Issues.bind (Q := fun _ => True) (issues_drawn fun _ _ => trivial) fun _ _ =>
        Issues.bind (Q := fun _ => True) (issues_drawn fun _ _ => trivial) fun _ _ => trivial
    exact hrow.bind fun _ _ => ih.bind fun _ _ => trivial

theorem issues_publishAll (events : List DomainEvent) :
    (RoleProcess.publishAll events).Issues CheckPassed fun _ => True := by
  unfold RoleProcess.publishAll
  split
  · trivial
  · exact (issues_toRows events).bind fun _ _ => issues_execute trivial

theorem issues_revoke (userId : Uuid) (reason : String) :
    (RoleProcess.revokeAllUserTokens userId reason).Issues CheckPassed fun _ => True :=
  Issues.bind (Q := fun _ => True) (issues_drawn fun _ _ => trivial) fun _ _ =>
    issues_execute trivial

theorem issues_changeRole (dto : ChangeRoleDto) :
    (RoleProcess.changeRole dto).Issues CheckPassed fun _ => True := by
  refine (issues_any_find _ _).bind fun _ _ => (issues_any_lift _).bind fun target _ => ?_
  refine (issues_any_lift _).bind fun _ _ => (issues_any_lift _).bind fun _ _ => ?_
  refine Issues.bind (Q := fun _ => True) (issues_drawn fun _ _ => trivial) fun header _ => ?_
  refine Issues.bind (Q := fun _ => True) (issues_drawn fun _ _ => trivial) fun writtenAt _ => ?_
  refine issues_execute_bind trivial ?_
  refine Issues.bind (Q := fun _ => True) ?_ fun _ _ =>
    (issues_audit _).bind fun _ _ => issues_publishAll _
  unfold RoleProcess.endSessions
  split
  · exact issues_revoke _ _
  · trivial

theorem issues_removeStaff (input : RemoveInput) :
    (RoleProcess.removeStaff input).Issues CheckPassed fun _ => True := by
  have hdrawn : (RoleProcess.now).Issues CheckPassed fun _ => True :=
    issues_drawn fun _ _ => trivial
  have hreplacement : (RoleProcess.requireReplacement input).Issues CheckPassed fun _ => True := by
    unfold RoleProcess.requireReplacement
    cases input.replacementAgentId with
    | none => trivial
    | some id => exact (issues_any_find _ _).bind fun _ _ => issues_any_lift _
  refine (issues_any_lift _).bind fun _ _ => (issues_any_lift _).bind fun _ _ => ?_
  refine (issues_any_find _ _).bind fun _ _ => (issues_any_lift _).bind fun _ _ => ?_
  refine hreplacement.bind fun _ _ => hdrawn.bind fun _ _ => hdrawn.bind fun _ _ => ?_
  refine hdrawn.bind fun _ _ => hdrawn.bind fun _ _ => issues_execute_bind trivial ?_
  exact (issues_revoke _ _).bind fun _ _ => issues_audit _

/-- Every statement of every call that follows a check follows one that has passed. -/
theorem roleProgram_issues (command : RoleCommand) :
    (roleProgram command).Issues CheckPassed fun _ => True := by
  cases command with
  | create actor input => exact (issues_create input).bind fun _ _ => trivial
  | update actor roleId input => exact (issues_update roleId input).bind fun _ _ => trivial
  | remove actor roleId =>
    exact (issues_findMutable _ _).bind fun _ _ =>
      issues_execute_bind trivial (issues_audit _)
  | assign actor roleId userId => exact issues_assign roleId userId
  | unassign actor roleId userId =>
    refine (issues_any_lift _).bind fun _ _ => (issues_findMutable _ _).bind fun role _ => ?_
    refine Issues.bind (Q := fun _ => True) (issues_statement trivial fun _ => trivial)
      fun _ _ => ?_
    exact (issues_any_lift _).bind fun _ _ => issues_audit _
  | changeRole dto => exact issues_changeRole dto
  | removeStaff input => exact issues_removeStaff input

end issues
end OmniSupport.Identity
