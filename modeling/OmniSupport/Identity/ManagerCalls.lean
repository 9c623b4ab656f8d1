import OmniSupport.Identity.AccountChange
import OmniSupport.Identity.RoleManagement

/-! What a call of the role service, or a role change, can do to the roles, the memberships
and the users when a tenant manager issues it. -/
namespace OmniSupport.Identity
open Foundation Database Effect Process

/-- The tables the permissions of users are read from. -/
def accessTables (s : Store) : List User × List Role × List UserRoleMembership :=
  (s.users, s.roles, s.memberships)

/-- The classes a manager may give and take. -/
def Assignable (accountClass : UserRole) : Prop :=
  accountClass ∈ RoleAssignmentPolicy.tenantManagerAssignable

/-- The one write of a call, by an actor of its tenant. -/
inductive ManagerWrite (actor : RoleActor) (s : Store) : Store → Prop
  | nothing : ManagerWrite actor s s
  | create (row : Role) (hfree : ¬ s.roleTaken row) (htenant : row.tenantId = some actor.tenantId)
      (hgrants : row.permissions ⊆ Permission.tenantPermissions) :
      ManagerWrite actor s (s.insertRole row)
  | update (role : Role) (displayName description : Option String) (grants : List Permission)
      (hrole : role ∈ s.roles) (htenant : role.tenantId = some actor.tenantId)
      (hgrants : grants ⊆ role.permissions ∨ grants ⊆ Permission.tenantPermissions) :
      ManagerWrite actor s (s.updateRole role.id (roleUpdated displayName description grants))
  | delete (role : Role) (hrole : role ∈ s.roles) (htenant : role.tenantId = some actor.tenantId) :
      ManagerWrite actor s (s.deleteRole role.id)
  | assign (role : Role) (userId : Uuid) (hother : actor.id ≠ userId) (hrole : role ∈ s.roles)
      (htenant : role.tenantId = some actor.tenantId) :
      ManagerWrite actor s (s.upsertMembership ⟨userId, role.id, actor.tenantId, some actor.id⟩)
  | unassign (userId roleId : Uuid) :
      ManagerWrite actor s (s.deleteMemberships userId roleId actor.tenantId)
  | changeRole (target : User) (newRole : UserRole) (writtenAt : Time) (htarget : target ∈ s.users)
      (hother : actor.id ≠ target.id) (htenant : target.tenantId = some actor.tenantId)
      (hold : Assignable target.role) (hnew : Assignable newRole) :
      ManagerWrite actor s
        (s.updateUser target.id (User.write writtenAt { target with role := newRole }))

/-- What a call leaves: its write, with rows in other tables. -/
def ManagerLeaves (actor : RoleActor) (s t : Store) : Prop :=
  ∃ written, ManagerWrite actor s written ∧ accessTables t = accessTables written

section leaves
variable {actor : RoleActor} {s t : Store}

theorem ManagerWrite.leaves (h : ManagerWrite actor s t) : ManagerLeaves actor s t := ⟨t, h, rfl⟩

theorem ManagerLeaves.of_tables {t' : Store} (h : ManagerLeaves actor s t)
    (hsame : accessTables t' = accessTables t) : ManagerLeaves actor s t' := by
  obtain ⟨written, hwrite, htables⟩ := h
  exact ⟨written, hwrite, hsame.trans htables⟩

theorem ManagerLeaves.refl : ManagerLeaves actor s s := ManagerWrite.nothing.leaves

end leaves

section ends
variable {actor : RoleActor} {env : ServiceEnv} {d : Nat} {s t : Store}

/-- A read leaves the store as it is. -/
theorem ends_find {α : Type} {R : Store → Prop} {kind : ServiceCall} {f : Store → α} (h : R t) :
    Ends env d t (fun a d' t' => a = f t ∧ d' = d ∧ t' = t) R
      (toEffect roleStatements (RoleProcess.find kind f)) := by
  refine ends_statement (fun t' hexec => ?_) h
  cases hexec
  exact ⟨rfl, rfl, rfl⟩

theorem ends_find_bind {α β : Type} {R : Store → Prop} {P : β → Nat → Store → Prop}
    {kind : ServiceCall} {f : Store → α} {g : α → RoleProcess β} (hR : R t)
    (h : Ends env d t P R (toEffect roleStatements (g (f t)))) :
    Ends env d t P R (toEffect roleStatements (RoleProcess.find kind f >>= g)) := by
  refine Process.ends_bind (ends_find hR) ?_
  rintro a d' t' ⟨rfl, rfl, rfl⟩
  exact h

theorem ends_check_bind {α β : Type} {R : Store → Prop} {P : β → Nat → Store → Prop}
    {x : Except AppError α} {g : α → RoleProcess β} (hR : R t)
    (h : ∀ a, x = .ok a → Ends env d t P R (toEffect roleStatements (g a))) :
    Ends env d t P R (toEffect roleStatements (Process.lift x >>= g)) := by
  refine Process.ends_bind (Q := fun a d' t' => x = .ok a ∧ d' = d ∧ t' = t)
    (Process.ends_lift (fun a ha => ⟨ha, rfl, rfl⟩) hR) ?_
  rintro a d' t' ⟨ha, rfl, rfl⟩
  exact h a ha

/-- The audit row is in none of the tables. -/
theorem ends_roleAudit {entry : Time → AuditLog} (h : ManagerLeaves actor s t) :
    Ends env d t (fun _ _ => ManagerLeaves actor s) (ManagerLeaves actor s)
      (toEffect roleStatements (RoleProcess.audit entry)) := by
  refine Process.ends_bind (Q := fun _ _ t' => t' = t) (ends_drawn rfl) ?_
  rintro occurredAt d' t' rfl
  refine ends_tryExecute h fun t'' hexec => ?_
  cases hexec
  exact h.of_tables rfl

/-- The role a call may change is one of the tenant. -/
theorem ends_findMutable {id : Uuid} {R : Store → Prop} (h : R t) :
    Ends env d t (fun role _ t' => t' = t ∧ role ∈ t.roles ∧ role.id = id ∧
      role.tenantId = some actor.tenantId) R
      (toEffect roleStatements (RoleManagementService.findMutable id actor.tenantId)) := by
  refine ends_find_bind h (Process.ends_lift (fun role hrole => ?_) h)
  simp only [RoleManagementService.mutableRole, bind_eq_ok] at hrole
  obtain ⟨found, hfound, u, hsystem, hsame⟩ := hrole
  cases hsame
  have hvisible := orThrow_ok hfound
  have hkey := List.find?_some hvisible
  have hcustom : role.isSystem = false := by simpa using require_ok hsystem
  simp only [decide_eq_true_eq] at hkey
  rcases hkey.2 with ⟨-, hflag⟩ | htenant
  · rw [hcustom] at hflag
    cases hflag
  · exact ⟨rfl, List.mem_of_find?_eq_some hvisible, hkey.1, htenant⟩

theorem ends_assertActorHolds {grants : List Permission} {R : Store → Prop} (h : R t) :
    Ends env d t (fun _ _ t' => t' = t) R
      (toEffect roleStatements (RoleManagementService.assertActorHolds actor grants)) :=
  ends_find_bind h (Process.ends_lift (fun _ _ => rfl) h)

theorem tenantPermissionsOf_subset {grants : List String} {unique : List Permission}
    (h : RoleManagementService.tenantPermissionsOf grants = .ok unique) :
    unique ⊆ Permission.tenantPermissions := by
  simp only [RoleManagementService.tenantPermissionsOf, bind_eq_ok] at h
  obtain ⟨u, -, hsame⟩ := h
  cases hsame
  intro permission hm
  obtain ⟨key, -, hkey⟩ := List.mem_filterMap.mp hm
  exact List.mem_of_find?_eq_some hkey

/-- What may be granted are permissions of tenants. -/
theorem ends_resolveGrantable {grants : List String} {R : Store → Prop} (h : R t) :
    Ends env d t (fun permissions _ t' => t' = t ∧ permissions ⊆ Permission.tenantPermissions) R
      (toEffect roleStatements (RoleManagementService.resolveGrantable actor grants)) := by
  refine ends_check_bind h fun unique hunique => ?_
  refine Process.ends_bind (ends_assertActorHolds h) ?_
  rintro u d' t' rfl
  refine ends_find_bind h (Process.ends_lift (fun permissions hrows => ?_) h)
  simp only [RoleManagementService.catalogRows, bind_eq_ok] at hrows
  obtain ⟨u, -, hsame⟩ := hrows
  cases hsame
  refine ⟨rfl, fun permission hm => tenantPermissionsOf_subset hunique ?_⟩
  exact of_decide_eq_true (List.mem_filter.mp hm).2

theorem ends_create {input : CreateRoleInput} :
    Ends env d s (fun _ _ => ManagerLeaves actor s) (ManagerLeaves actor s)
      (toEffect roleStatements (RoleManagementService.create actor input)) := by
  have hrefl : ManagerLeaves actor s s := .refl
  refine ends_check_bind hrefl fun u _ => ?_
  refine Process.ends_bind (ends_resolveGrantable hrefl) ?_
  rintro permissions d₁ t ⟨rfl, hgrants⟩
  refine ends_find_bind hrefl (ends_check_bind hrefl fun u _ => ?_)
  refine Process.ends_bind (Q := fun _ _ t' => t' = t) (ends_drawn rfl) ?_
  rintro id d₂ t' rfl
  refine Process.ends_bind (Q := fun _ _ => ManagerLeaves actor t')
    (ends_statement (fun t'' hexec => ?_) hrefl) fun _ _ _ hwritten => ?_
  · simp only [roleStatements, RoleStatement.exec] at hexec
    split at hexec
    · cases hexec
    · rename_i hfree
      cases hexec
      exact (ManagerWrite.create _ hfree rfl hgrants).leaves
  · exact Process.ends_bind (ends_roleAudit hwritten) fun _ _ _ h => ends_pure h

/-- What a call is about to do to the grants of a role it has read. -/
def Planned (role : Role) (change : Option GrantChange) : Prop :=
  ∀ planned ∈ change, planned.deleted = role.permissions ∧
    planned.created ⊆ Permission.tenantPermissions

theorem ends_plannedChange {role : Role} {grants : Option (List String)} {R : Store → Prop}
    (hrow : t.findRole role.id = some role) (h : R t) :
    Ends env d t (fun change _ t' => t' = t ∧ Planned role change) R
      (toEffect roleStatements (RoleManagementService.plannedChange actor role.id grants)) := by
  cases grants with
  | none =>
    refine ends_pure ⟨rfl, fun planned hm => ?_⟩
    cases hm
  | some grants =>
    refine Process.ends_bind (Q := fun planned _ t' => t' = t ∧ Planned role (some planned)) ?_ ?_
    · refine Process.ends_bind (ends_resolveGrantable h) ?_
      rintro permissions d₁ t₁ ⟨rfl, hgrants⟩
      refine Process.ends_bind (Q := fun _ _ t' => t' = t₁)
        (ends_find_bind h (Process.ends_lift (fun _ _ => rfl) h)) ?_
      rintro classes d₂ t₂ rfl
      refine ends_find_bind h (ends_pure ⟨rfl, fun planned hm => ?_⟩)
      cases hm
      rw [hrow]
      exact ⟨rfl, hgrants⟩
    · rintro planned d₁ t₁ ⟨rfl, hplanned⟩
      exact ends_pure ⟨rfl, hplanned⟩

theorem updatedGrants_planned {role : Role} {change : Option GrantChange} {grants : List Permission}
    (hplanned : Planned role change) (h : updatedGrants change role.permissions = .ok grants) :
    grants ⊆ role.permissions ∨ grants ⊆ Permission.tenantPermissions := by
  cases change with
  | none =>
    cases h
    exact Or.inl fun _ hm => hm
  | some planned =>
    obtain ⟨hdeleted, hcreated⟩ := hplanned planned rfl
    have hnone : role.permissions.filter (fun grant => grant ∉ planned.deleted) = [] := by
      rw [hdeleted, List.filter_eq_nil_iff]
      simp
    simp only [updatedGrants, applyGrants] at h
    rw [hnone] at h
    split at h
    · cases h
    · cases h
      exact Or.inr hcreated

theorem ends_update {id : Uuid} {input : UpdateRoleInput} (hkeys : (s.roles.map Role.id).Nodup) :
    Ends env d s (fun _ _ => ManagerLeaves actor s) (ManagerLeaves actor s)
      (toEffect roleStatements (RoleManagementService.update actor id input)) := by
  have hrefl : ManagerLeaves actor s s := .refl
  refine Process.ends_bind (ends_findMutable hrefl) ?_
  rintro role d₁ t ⟨rfl, hm, rfl, htenant⟩
  have hrow := Store.findRole_of_mem hkeys hm
  refine Process.ends_bind (ends_plannedChange hrow hrefl) ?_
  rintro change d₂ t' ⟨rfl, hplanned⟩
  refine Process.ends_bind (Q := fun _ _ => ManagerLeaves actor t')
    (ends_statement (fun t'' hexec => ?_) hrefl) fun updated _ _ hwritten => ?_
  · simp only [roleStatements, RoleStatement.exec, RoleStatement.commitRole, hrow, bind_eq_ok]
      at hexec
    obtain ⟨grants, hgrants, hsame⟩ := hexec
    cases hsame
    exact (ManagerWrite.update role _ _ grants hm htenant
      (updatedGrants_planned hplanned hgrants)).leaves
  · refine Process.ends_bind (ends_roleAudit hwritten) fun _ _ _ hkept => ?_
    exact ends_check_bind hkept fun grants _ => ends_pure hkept

theorem ends_remove {id : Uuid} :
    Ends env d s (fun _ _ => ManagerLeaves actor s) (ManagerLeaves actor s)
      (toEffect roleStatements (RoleManagementService.remove actor id)) := by
  have hrefl : ManagerLeaves actor s s := .refl
  refine Process.ends_bind (ends_findMutable hrefl) ?_
  rintro role d₁ t ⟨rfl, hm, -, htenant⟩
  refine Process.ends_bind (Q := fun _ _ => ManagerLeaves actor t)
    (ends_statement (fun t' hexec => ?_) hrefl) fun _ _ _ hwritten => ends_roleAudit hwritten
  simp only [roleStatements, RoleStatement.exec] at hexec
  split at hexec
  · cases hexec
    exact (ManagerWrite.delete role hm htenant).leaves
  · cases hexec

theorem ends_assign {roleId userId : Uuid} :
    Ends env d s (fun _ _ => ManagerLeaves actor s) (ManagerLeaves actor s)
      (toEffect roleStatements (RoleManagementService.assign actor roleId userId)) := by
  have hrefl : ManagerLeaves actor s s := .refl
  refine ends_check_bind hrefl fun u hother => ?_
  have hother : actor.id ≠ userId := of_decide_eq_true (require_ok hother)
  refine Process.ends_bind (ends_findMutable hrefl) ?_
  rintro role d₁ t ⟨rfl, hm, rfl, htenant⟩
  refine Process.ends_bind (Q := fun _ _ t' => t' = t)
    (ends_find_bind hrefl (Process.ends_lift (fun _ _ => rfl) hrefl)) ?_
  rintro target d₂ t₂ rfl
  refine ends_check_bind hrefl fun u _ => ?_
  refine Process.ends_bind (ends_assertActorHolds hrefl) ?_
  rintro u d₃ t₃ rfl
  refine Process.ends_bind (Q := fun _ _ => ManagerLeaves actor t₃)
    (ends_statement (fun t' hexec => ?_) hrefl) fun _ _ _ hwritten => ends_roleAudit hwritten
  simp only [roleStatements, RoleStatement.exec] at hexec
  split at hexec
  · cases hexec
    exact (ManagerWrite.assign role userId hother hm htenant).leaves
  · cases hexec

theorem ends_unassign {roleId userId : Uuid} :
    Ends env d s (fun _ _ => ManagerLeaves actor s) (ManagerLeaves actor s)
      (toEffect roleStatements (RoleManagementService.unassign actor roleId userId)) := by
  have hrefl : ManagerLeaves actor s s := .refl
  refine ends_check_bind hrefl fun u _ => ?_
  refine Process.ends_bind (ends_findMutable hrefl) ?_
  rintro role d₁ t ⟨rfl, -, -, -⟩
  refine Process.ends_bind (Q := fun _ _ => ManagerLeaves actor t)
    (ends_statement (fun t' hexec => ?_) hrefl) fun deleted _ _ hwritten => ?_
  · cases hexec
    exact (ManagerWrite.unassign userId role.id).leaves
  · exact ends_check_bind hwritten fun _ _ => ends_roleAudit hwritten

/-- What the policy lets a tenant manager do. -/
theorem evaluate_manager {subject : RoleAssignmentPolicy.RoleAssignmentActor}
    {target : RoleAssignmentPolicy.RoleAssignmentTarget} {newRole : UserRole}
    (hmanager : subject.role = .tenantManager)
    (h : (RoleAssignmentPolicy.evaluate subject target newRole).allowed = true) :
    subject.id ≠ target.id ∧ subject.tenantId = target.tenantId ∧ Assignable target.role ∧
      Assignable newRole := by
  simp only [RoleAssignmentPolicy.evaluate, hmanager, reduceCtorEq, if_false, if_true] at h
  split_ifs at h with hself htenant htarget hnew
  · cases h
  · cases h
  · cases h
  · push Not at htenant htarget
    exact ⟨hself, htenant.2, htarget.2, hnew⟩
  · cases h

theorem ends_recordRoleChange {dto : ChangeRoleDto} {target updated : User}
    {events : List DomainEvent} (h : ManagerLeaves actor s t) :
    Ends env d t (fun _ _ => ManagerLeaves actor s) (ManagerLeaves actor s)
      (UserService.recordRoleChange true dto target updated events) := by
  refine Ends.bind (Q := fun _ _ => ManagerLeaves actor s) ?_ fun _ d₁ t₁ hrevoked => ?_
  · unfold withRevoker
    split
    · refine ends_draw_bind (ends_call (fun u t' hcall => ?_) h)
      cases hcall
      exact h.of_tables rfl
    · exact ends_pure h
  · refine Ends.bind (ends_auditCreate hrevoked fun _ => hrevoked.of_tables rfl)
      fun _ d₂ t₂ hkept => ends_publishAll hkept fun rows => ?_
    obtain ⟨outbox, hrows⟩ := enqueueMany_outbox (s := t₂) rows
    rw [hrows]
    exact hkept.of_tables rfl

/-- A role change by a manager gives an agent or a customer of the tenant another of the
two classes. -/
theorem ends_changeRole {targetUserId : Uuid} {newRole : String}
    (hmanager : actor.role = .tenantManager) :
    Ends env d s (fun _ _ => ManagerLeaves actor s) (ManagerLeaves actor s)
      (UserService.changeRole true
        ⟨actor.id, targetUserId, some actor.tenantId, newRole, actor.role⟩) := by
  have hrefl : ManagerLeaves actor s s := .refl
  refine ends_read_bind (ends_lift_bind (fun target htarget => ?_) hrefl) hrefl
  have hm : target ∈ s.users := List.mem_of_find?_eq_some (orThrow_ok htarget)
  refine ends_lift_bind (fun role _ => ?_) hrefl
  refine ends_lift_bind (fun u hallowed => ?_) hrefl
  obtain ⟨hother, htenant, hold, hnew⟩ := evaluate_manager hmanager (require_ok hallowed)
  refine ends_draw_bind (Ends.bind (Q := fun _ _ => ManagerLeaves actor s) ?_
    fun updated d₁ t₁ hwritten => ends_recordRoleChange hwritten)
  refine ends_draw_bind (ends_call (fun updated t' hcall => ?_) hrefl)
  unfold UserRepository.updateRow at hcall
  rw [roleChanged_row] at hcall
  split at hcall
  · cases hcall
  · split at hcall
    · cases hcall
    · cases hcall
      exact (ManagerWrite.changeRole target role (env.clock (d + 1)) hm hother htenant.symm hold
        hnew).leaves

end ends
end OmniSupport.Identity
