import OmniSupport.Identity.ManagerCalls

/-! Sequences of calls by tenant managers: what the roles of tenants contain, what users
come to hold, and who gains nothing. -/
namespace OmniSupport.Identity
open Foundation Database Effect Process

inductive ManagerCommand where
  | create (input : CreateRoleInput)
  | update (roleId : Uuid) (input : UpdateRoleInput)
  | remove (roleId : Uuid)
  | assign (roleId userId : Uuid)
  | unassign (roleId userId : Uuid)
  | changeRole (targetUserId : Uuid) (newRole : String)

structure ManagerCall where
  issuerId : Uuid
  command : ManagerCommand
  env : ServiceEnv
  faults : Nat → Fault

/-- A stored user of class `TENANT_MANAGER`, as the actor of a call. -/
def managerActor (user : User) : Option RoleActor :=
  if user.role = .tenantManager then user.tenantId.map fun tenantId => ⟨user.id, user.role, tenantId⟩
  else none

def issuer (s : Store) (issuerId : Uuid) : Option RoleActor :=
  (s.findUser issuerId).bind managerActor

def performManager (actor : RoleActor) (call : ManagerCall) (s : Store) : Store :=
  let committed {α : Type} (program : ServiceM α) : Store :=
    (program.run call.env call.faults (World.start s)).2.committed
  match call.command with
  | .create input => committed (toEffect roleStatements (RoleManagementService.create actor input))
  | .update roleId input =>
    committed (toEffect roleStatements (RoleManagementService.update actor roleId input))
  | .remove roleId =>
    committed (toEffect roleStatements (RoleManagementService.remove actor roleId))
  | .assign roleId userId =>
    committed (toEffect roleStatements (RoleManagementService.assign actor roleId userId))
  | .unassign roleId userId =>
    committed (toEffect roleStatements (RoleManagementService.unassign actor roleId userId))
  | .changeRole targetUserId newRole =>
    committed (UserService.changeRole true
      ⟨actor.id, targetUserId, some actor.tenantId, newRole, actor.role⟩)

/-- One call after the other, each by a user who is a tenant manager when it is issued. -/
def managerCalls : Machine Store ManagerCall where
  step s call := (issuer s call.issuerId).map fun actor => performManager actor call s

/-- The seeded catalog, one read-only role for each class, and no members. -/
structure Seeded (s : Store) : Prop where
  catalog : s.permissions = Permission.allPermissions
  roles : s.roles.map (fun role => (role.tenantId, role.name, role.isSystem, role.permissions)) =
    UserRole.values.map fun accountClass =>
      (none, accountClass.text, true, Permission.defaultGrants accountClass)
  memberships : s.memberships = []
  roleIds : (s.roles.map Role.id).Nodup
  userIds : (s.users.map User.id).Nodup

/-- No role of a tenant contains a platform permission. -/
def NoPlatformGrants (s : Store) : Prop :=
  ∀ role ∈ s.roles, role.tenantId.isSome = true →
    ∀ permission ∈ role.permissions, permission ∉ Permission.platformPermissions

/-- A user whose class changes goes from one assignable class to another. -/
def ClassesKept (s t : Store) : Prop :=
  ∀ id user user', s.findUser id = some user → t.findUser id = some user' →
    user.role ≠ user'.role → Assignable user.role ∧ Assignable user'.role

/-- The issuer of the call and the users of other tenants hold nothing they did not hold. -/
def NothingGained (issuerId : Uuid) (s t : Store) : Prop :=
  ∀ actor, issuer s issuerId = some actor → ∀ id user user', s.findUser id = some user →
    t.findUser id = some user' → id = issuerId ∨ user.tenantId ≠ some actor.tenantId →
    getEffectivePermissions (subjectOf user') t ⊆ getEffectivePermissions (subjectOf user) s

/-- The keys of the tables, what the roles of tenants contain, and memberships in roles of
their own tenant. -/
structure RolesSound (s : Store) : Prop where
  userIds : (s.users.map User.id).Nodup
  roleIds : (s.roles.map Role.id).Nodup
  grants : ∀ role ∈ s.roles, role.tenantId.isSome = true →
    role.permissions ⊆ Permission.tenantPermissions
  members : ∀ membership ∈ s.memberships, ∃ role, s.findRole membership.roleId = some role ∧
    role.tenantId = some membership.tenantId

section start
variable {s t : Store}

theorem Seeded.sound (h : Seeded s) : RolesSound s where
  userIds := h.userIds
  roleIds := h.roleIds
  grants role hm htenant := by
    have hrow := List.mem_map_of_mem (f := fun role : Role =>
      (role.tenantId, role.name, role.isSystem, role.permissions)) hm
    rw [h.roles] at hrow
    obtain ⟨accountClass, -, hsame⟩ := List.mem_map.mp hrow
    have hnone : role.tenantId = none := (congrArg Prod.fst hsame).symm
    rw [hnone] at htenant
    cases htenant
  members membership hm := by
    rw [h.memberships] at hm
    cases hm

theorem tenant_not_platform : ∀ permission ∈ Permission.tenantPermissions,
    permission ∉ Permission.platformPermissions := by
  decide

theorem RolesSound.noPlatform (h : RolesSound s) : NoPlatformGrants s :=
  fun role hm htenant _ hp => tenant_not_platform _ (h.grants role hm htenant hp)

/-- The tables decide all of it. -/
theorem RolesSound.of_tables (h : RolesSound s) (hsame : accessTables t = accessTables s) :
    RolesSound t := by
  have husers : t.users = s.users := congrArg Prod.fst hsame
  have hroles : t.roles = s.roles := congrArg (fun tables => tables.2.1) hsame
  have hmembers : t.memberships = s.memberships := congrArg (fun tables => tables.2.2) hsame
  refine ⟨husers ▸ h.userIds, hroles ▸ h.roleIds, fun role hm => h.grants role (hroles ▸ hm), ?_⟩
  intro membership hm
  rw [Store.findRole, hroles]
  exact h.members membership (hmembers ▸ hm)

theorem effective_of_tables {subject : PermissionSubject}
    (hsame : accessTables t = accessTables s) :
    getEffectivePermissions subject t = getEffectivePermissions subject s := by
  have hroles : t.roles = s.roles := congrArg (fun tables => tables.2.1) hsame
  have hmembers : t.memberships = s.memberships := congrArg (fun tables => tables.2.2) hsame
  have hgrants : t.membershipGrants = s.membershipGrants := by
    funext membership
    simp only [Store.membershipGrants, Store.findRole, hroles]
  simp only [getEffectivePermissions, Store.tenantGrants, hmembers, hgrants]

theorem findUser_of_tables {id : Uuid} (hsame : accessTables t = accessTables s) :
    t.findUser id = s.findUser id := by
  have husers : t.users = s.users := congrArg Prod.fst hsame
  rw [Store.findUser, husers, Store.findUser]

end start

section write
variable {actor : RoleActor} {s t : Store}

theorem ManagerWrite.sound (h : ManagerWrite actor s t) (hs : RolesSound s) : RolesSound t := by
  obtain ⟨huserIds, hroleIds, hgrants, hmembers⟩ := hs
  cases h with
  | nothing => exact ⟨huserIds, hroleIds, hgrants, hmembers⟩
  | create row hfree htenant hrow =>
    refine ⟨huserIds, ?_, ?_, ?_⟩
    · rw [Store.insertRole, List.map_append, List.nodup_append]
      refine ⟨hroleIds, List.nodup_singleton _, ?_⟩
      intro id hm id' hm' he
      obtain ⟨role, hrole, rfl⟩ := List.mem_map.mp hm
      obtain rfl : id' = row.id := by simpa using hm'
      exact hfree ⟨role, hrole, Or.inl he⟩
    · intro role hm hsome
      rcases List.mem_append.mp hm with hm | hm
      · exact hgrants role hm hsome
      · rw [List.mem_singleton.mp hm]
        exact hrow
    · intro membership hm
      obtain ⟨role, hfound, hsame⟩ := hmembers membership hm
      exact ⟨role, Store.findRole_insertRole hfound, hsame⟩
  | update role displayName description grants hrole htenant hnew =>
    have hid : ∀ row, (roleUpdated displayName description grants row).id = row.id := fun _ => rfl
    refine ⟨huserIds, ?_, ?_, ?_⟩
    · have hsame : (s.updateRole role.id
          (roleUpdated displayName description grants)).roles.map Role.id = s.roles.map Role.id :=
        Table.map_updateMany hid
      rw [hsame]
      exact hroleIds
    · intro row hm hsome
      rcases Table.mem_updateMany.mp hm with ⟨old, hold, hkey, rfl⟩ | ⟨hold, -⟩
      · have hsame : old = role := List.inj_on_of_nodup_map hroleIds hold hrole hkey
        rcases hnew with hnew | hnew
        · exact fun permission hp => hgrants old hold hsome (hsame ▸ hnew hp)
        · exact hnew
      · exact hgrants row hold hsome
    · intro membership hm
      obtain ⟨row, hfound, hsame⟩ := hmembers membership hm
      rw [Store.findRole_updateRole hid, hfound]
      refine ⟨_, rfl, ?_⟩
      split
      · exact hsame
      · exact hsame
  | delete role hrole htenant =>
    refine ⟨huserIds, ?_, ?_, ?_⟩
    · have hsub : List.Sublist ((s.deleteRole role.id).roles.map Role.id) (s.roles.map Role.id) :=
        List.filter_sublist.map Role.id
      exact hsub.nodup hroleIds
    · intro row hm
      exact hgrants row (Table.mem_deleteMany.mp hm).1
    · intro membership hm
      obtain ⟨hold, hother⟩ := Table.mem_deleteMany.mp hm
      rw [Store.findRole_deleteRole hother]
      exact hmembers membership hold
  | assign role userId hother hrole htenant =>
    have htables : (s.upsertMembership ⟨userId, role.id, actor.tenantId, some actor.id⟩).users =
        s.users ∧ (s.upsertMembership ⟨userId, role.id, actor.tenantId, some actor.id⟩).roles =
        s.roles := by
      unfold Store.upsertMembership
      split
      · exact ⟨rfl, rfl⟩
      · exact ⟨rfl, rfl⟩
    refine ⟨htables.1 ▸ huserIds, htables.2 ▸ hroleIds,
      fun row hm => hgrants row (htables.2 ▸ hm), ?_⟩
    intro membership hm
    rw [Store.findRole, htables.2]
    unfold Store.upsertMembership at hm
    split at hm
    · exact hmembers membership hm
    · rcases List.mem_append.mp hm with hm | hm
      · exact hmembers membership hm
      · rw [List.mem_singleton.mp hm]
        exact ⟨role, Store.findRole_of_mem hroleIds hrole, htenant⟩
  | unassign userId roleId =>
    refine ⟨huserIds, hroleIds, hgrants, fun membership hm => ?_⟩
    exact hmembers membership (Table.mem_deleteMany.mp hm).1
  | changeRole target newRole writtenAt htarget hother htenant hold hnew =>
    refine ⟨?_, hroleIds, hgrants, hmembers⟩
    have hid : ∀ row, (User.write writtenAt { target with role := newRole } row).id = row.id :=
      fun _ => rfl
    have hsame : (s.updateUser target.id
        (User.write writtenAt { target with role := newRole })).users.map User.id =
        s.users.map User.id := Table.map_updateMany hid
    rw [hsame]
    exact huserIds

/-- The memberships of a tenant and the roles behind them are what they were. -/
theorem tenantGrants_congr {userId tenantId : Uuid}
    (hmembers : t.memberships.filter (fun membership => membership.userId = userId ∧
        membership.tenantId = tenantId) = s.memberships.filter fun membership =>
        membership.userId = userId ∧ membership.tenantId = tenantId)
    (hgrants : ∀ membership ∈ s.memberships, membership.tenantId = tenantId →
      t.findRole membership.roleId = s.findRole membership.roleId) :
    t.tenantGrants userId tenantId = s.tenantGrants userId tenantId := by
  rw [Store.tenantGrants, Store.tenantGrants, hmembers]
  refine List.flatMap_congr fun membership hm => ?_
  obtain ⟨hold, hkey⟩ := List.mem_filter.mp hm
  have htenant : membership.tenantId = tenantId := (of_decide_eq_true hkey).2
  rw [Store.membershipGrants, Store.membershipGrants, hgrants membership hold htenant]

/-- A write changes what the tenant roles of another tenant give to nobody. -/
theorem ManagerWrite.otherTenant (h : ManagerWrite actor s t) (hs : RolesSound s)
    {userId tenantId : Uuid} (hother : tenantId ≠ actor.tenantId) :
    t.tenantGrants userId tenantId = s.tenantGrants userId tenantId := by
  -- A role of the actor's tenant is behind no membership of the other tenant.
  have hapart : ∀ role ∈ s.roles, role.tenantId = some actor.tenantId →
      ∀ membership ∈ s.memberships, membership.tenantId = tenantId → membership.roleId ≠ role.id := by
    intro role hrole htenant membership hm hsame he
    obtain ⟨found, hfound, hfoundTenant⟩ := hs.members membership hm
    rw [he, Store.findRole_of_mem hs.roleIds hrole] at hfound
    cases hfound
    rw [htenant, hsame] at hfoundTenant
    exact hother (Option.some.inj hfoundTenant).symm
  cases h with
  | nothing => rfl
  | create row hfree htenant hrow =>
    refine tenantGrants_congr rfl fun membership hm _ => ?_
    obtain ⟨role, hfound, -⟩ := hs.members membership hm
    rw [Store.findRole_insertRole hfound, hfound]
  | update role displayName description grants hrole htenant hnew =>
    have hid : ∀ row, (roleUpdated displayName description grants row).id = row.id := fun _ => rfl
    refine tenantGrants_congr rfl fun membership hm hsame => ?_
    rw [Store.findRole_updateRole hid]
    cases hfound : s.findRole membership.roleId with
    | none => rfl
    | some row => rw [Option.map_some, if_neg (hapart role hrole htenant membership hm hsame)]
  | delete role hrole htenant =>
    refine tenantGrants_congr ?_ fun membership hm hsame =>
      Store.findRole_deleteRole (hapart role hrole htenant membership hm hsame)
    exact Table.filter_deleteMany fun membership hm hkey =>
      hapart role hrole htenant membership hm hkey.2
  | assign role newMember hnot hrole htenant =>
    unfold Store.upsertMembership
    split
    · rfl
    · refine tenantGrants_congr ?_ fun _ _ _ => rfl
      have hactor : actor.tenantId ≠ tenantId := fun he => hother he.symm
      simp [hactor]
  | unassign oldMember roleId =>
    refine tenantGrants_congr ?_ fun _ _ _ => rfl
    exact Table.filter_deleteMany fun membership _ hkey hdeleted =>
      hother (hkey.2.symm.trans hdeleted.2.2)
  | changeRole => exact tenantGrants_congr rfl fun _ _ _ => rfl

/-- What happens to the row of a user. -/
theorem ManagerWrite.user (h : ManagerWrite actor s t) {id : Uuid} {user user' : User}
    (hkeys : (s.users.map User.id).Nodup) (hfound : s.findUser id = some user)
    (hfound' : t.findUser id = some user') :
    user' = user ∨ (id ≠ actor.id ∧ user.tenantId = some actor.tenantId ∧ Assignable user.role ∧
      Assignable user'.role) := by
  have hsame : t.users = s.users → user' = user := by
    intro husers
    rw [Store.findUser, husers] at hfound'
    exact Option.some.inj (hfound'.symm.trans hfound)
  cases h with
  | changeRole target newRole writtenAt htarget hother htenant hold hnew =>
    have hid : ∀ row, (User.write writtenAt { target with role := newRole } row).id = row.id :=
      fun _ => rfl
    rw [Store.findUser_updateUser hid, hfound, Option.map_some] at hfound'
    obtain rfl := Option.some.inj hfound'
    by_cases hkey : id = target.id
    · subst hkey
      have hrow : user = target :=
        Option.some.inj (hfound.symm.trans (Store.findUser_of_mem hkeys htarget))
      subst hrow
      refine Or.inr ⟨fun he => hother he.symm, htenant, hold, ?_⟩
      rw [if_pos rfl]
      exact hnew
    · exact Or.inl (if_neg hkey)
  | assign role userId hother hrole htenant =>
    refine Or.inl (hsame ?_)
    unfold Store.upsertMembership
    split
    · rfl
    · rfl
  | nothing => exact Or.inl (hsame rfl)
  | create => exact Or.inl (hsame rfl)
  | update => exact Or.inl (hsame rfl)
  | delete => exact Or.inl (hsame rfl)
  | unassign => exact Or.inl (hsame rfl)

end write

section step
variable {actor : RoleActor} {s t : Store} {call : ManagerCall}

theorem issuer_eq {issuerId : Uuid} (h : issuer s issuerId = some actor) :
    ∃ user, s.findUser issuerId = some user ∧ user.id = actor.id ∧ user.role = .tenantManager ∧
      user.tenantId = some actor.tenantId ∧ actor.role = .tenantManager ∧ issuerId = actor.id := by
  simp only [issuer, Option.bind_eq_some_iff] at h
  obtain ⟨user, hfound, hactor⟩ := h
  unfold managerActor at hactor
  split at hactor
  · rename_i hrole
    obtain ⟨tenantId, htenant, rfl⟩ := Option.map_eq_some_iff.mp hactor
    exact ⟨user, hfound, rfl, hrole, htenant, hrole, (Store.findUser_mem hfound).2.symm⟩
  · cases hactor

theorem performManager_leaves (hs : RolesSound s) (hmanager : actor.role = .tenantManager) :
    ManagerLeaves actor s (performManager actor call s) := by
  obtain ⟨issuerId, command, env, faults⟩ := call
  cases command with
  | create input => exact ends_create.leaves faults
  | update roleId input => exact (ends_update hs.roleIds).leaves faults
  | remove roleId => exact ends_remove.leaves faults
  | assign roleId userId => exact ends_assign.leaves faults
  | unassign roleId userId => exact ends_unassign.leaves faults
  | changeRole targetUserId newRole => exact (ends_changeRole hmanager).leaves faults

theorem ManagerLeaves.sound (h : ManagerLeaves actor s t) (hs : RolesSound s) : RolesSound t := by
  obtain ⟨written, hwrite, htables⟩ := h
  exact (hwrite.sound hs).of_tables htables

theorem ManagerLeaves.classesKept (h : ManagerLeaves actor s t) (hs : RolesSound s) :
    ClassesKept s t := by
  obtain ⟨written, hwrite, htables⟩ := h
  intro id user user' hfound hfound' hdiffers
  rw [findUser_of_tables htables] at hfound'
  rcases hwrite.user hs.userIds hfound hfound' with rfl | ⟨-, -, hold, hnew⟩
  · exact absurd rfl hdiffers
  · exact ⟨hold, hnew⟩

/-- A manager already holds whatever a manager may hold. -/
theorem manager_holds_all {subject : PermissionSubject} {permission : Permission}
    (hmanager : subject.role = .tenantManager) (h : permission ∈ Permission.tenantPermissions) :
    permission ∈ getEffectivePermissions subject s := by
  rw [getEffectivePermissions, hmanager]
  exact List.mem_append_left _ h

theorem ManagerLeaves.nothingGained {issuerId : Uuid} (h : ManagerLeaves actor s t)
    (hs : RolesSound s) (hissuer : issuer s issuerId = some actor) :
    NothingGained issuerId s t := by
  obtain ⟨written, hwrite, htables⟩ := h
  obtain ⟨manager, hmanager, -, hclass, -, -, hid⟩ := issuer_eq hissuer
  intro actor' hactor' id user user' hfound hfound' hwho
  obtain rfl := Option.some.inj (hactor'.symm.trans hissuer)
  rw [findUser_of_tables htables] at hfound'
  rw [effective_of_tables htables]
  have hrow : user' = user := by
    rcases hwrite.user hs.userIds hfound hfound' with hsame | ⟨hnot, htenant, -, -⟩
    · exact hsame
    · rcases hwho with hwho | hwho
      · exact absurd (hwho.trans hid) hnot
      · exact absurd htenant hwho
  subst hrow
  rcases hwho with rfl | hwho
  · obtain rfl := Option.some.inj (hfound.symm.trans hmanager)
    have hbound := Permission.effective_subset (subjectOf user').role
    intro permission hm
    have hclass' : (subjectOf user').role = .tenantManager := hclass
    have hin := hbound _ hm
    rw [hclass'] at hin
    exact manager_holds_all hclass' hin
  · cases htenant : user'.tenantId with
    | none =>
      rw [getEffectivePermissions, getEffectivePermissions, subjectOf, htenant]
      exact fun _ hm => hm
    | some tenantId =>
      have hother : tenantId ≠ actor'.tenantId := fun he => hwho (htenant.trans (congrArg some he))
      have hgrants : written.tenantGrants user'.id tenantId = s.tenantGrants user'.id tenantId :=
        hwrite.otherTenant hs hother
      rw [getEffectivePermissions, getEffectivePermissions, subjectOf, htenant]
      simp only [Option.elim_some, hgrants]
      exact fun _ hm => hm

end step

/-- What holds in a state: no platform grants, and each user within the class boundary, so
that agents and customers hold none of the permissions of managers. -/
structure WithinClasses (s : Store) : Prop where
  noPlatform : NoPlatformGrants s
  bounded : ∀ user ∈ s.users,
    getEffectivePermissions (subjectOf user) s ⊆ Permission.classBoundary user.role
  managerOnly : ∀ user ∈ s.users, user.role = .agent ∨ user.role = .customer →
    ∀ permission ∈ Permission.managerOnly, permission ∉ getEffectivePermissions (subjectOf user) s

theorem boundary_excludes_managerOnly : ∀ accountClass : UserRole,
    accountClass = .agent ∨ accountClass = .customer →
    ∀ permission ∈ Permission.managerOnly, permission ∉ Permission.classBoundary accountClass := by
  intro accountClass hclass
  rcases hclass with rfl | rfl
  · decide
  · decide

theorem RolesSound.withinClasses {s : Store} (h : RolesSound s) : WithinClasses s where
  noPlatform := h.noPlatform
  bounded user _ := Permission.effective_subset user.role _
  managerOnly user _ hclass permission hp hm :=
    boundary_excludes_managerOnly user.role hclass permission hp
      (Permission.effective_subset user.role _ hm)

/-- From the seeded roles on, whatever tenant managers do. -/
theorem managers_escalate_nothing (s s' : Store) (calls : List ManagerCall) (hseeded : Seeded s)
    (hrun : managerCalls.run s calls = some s') :
    WithinClasses s' ∧ ∀ done call rest s₁ s₂, calls = done ++ call :: rest →
      managerCalls.run s done = some s₁ → managerCalls.step s₁ call = some s₂ →
      ClassesKept s₁ s₂ ∧ NothingGained call.issuerId s₁ s₂ := by
  have hstep : ∀ s₁ call s₂, RolesSound s₁ → managerCalls.step s₁ call = some s₂ →
      ∃ actor, issuer s₁ call.issuerId = some actor ∧ ManagerLeaves actor s₁ s₂ := by
    intro s₁ call s₂ hs hcall
    obtain ⟨actor, hissuer, rfl⟩ := Option.map_eq_some_iff.mp hcall
    obtain ⟨manager, -, -, -, -, hmanager, -⟩ := issuer_eq hissuer
    exact ⟨actor, hissuer, performManager_leaves hs hmanager⟩
  have hsound : ∀ calls t, managerCalls.run s calls = some t → RolesSound t := by
    intro calls t hreached
    refine managerCalls.run_preserves (fun s₁ call s₂ hs hcall => ?_) hseeded.sound hreached
    obtain ⟨actor, -, hleaves⟩ := hstep s₁ call s₂ hs hcall
    exact hleaves.sound hs
  refine ⟨(hsound calls s' hrun).withinClasses, fun done call rest s₁ s₂ _ hdone hcall => ?_⟩
  have hs := hsound done s₁ hdone
  obtain ⟨actor, hissuer, hleaves⟩ := hstep s₁ call s₂ hs hcall
  exact ⟨hleaves.classesKept hs, hleaves.nothingGained hs hissuer⟩

section demo

def systemRole (id : Uuid) (accountClass : UserRole) : Role :=
  ⟨id, none, accountClass.text, accountClass.text, none, true, Permission.defaultGrants accountClass⟩

def managedUser (id : Uuid) (accountClass : UserRole) : User :=
  { (default : User) with
    id := id
    tenantId := some 1
    role := accountClass }

/-- The seeded roles, and a tenant with a manager and an agent. -/
def seededStore : Store where
  tickets := []
  comments := []
  customers := []
  tenants := [{ (default : Tenant) with id := 1 }]
  users := [managedUser 2 .tenantManager, managedUser 3 .agent]
  refreshTokens := []
  sequences := []
  activities := []
  audits := []
  outbox := []
  roles := [systemRole 10 .platformAdmin, systemRole 11 .tenantManager, systemRole 12 .agent,
    systemRole 13 .customer]

theorem seededStore_seeded : Seeded seededStore where
  catalog := rfl
  roles := rfl
  memberships := rfl
  roleIds := by decide
  userIds := by decide

/-- A manager creates a role that lets its members assign tickets. -/
def createRoleCall : ManagerCall where
  issuerId := 2
  command := .create ⟨"lead", "Lead", none, ["tickets:assign"]⟩
  env := sampleEnv
  faults _ := .none

end demo

/-- The role is stored, and the bounds hold of what the call leaves. -/
theorem manager_creates_role : ∃ s', managerCalls.run seededStore [createRoleCall] = some s' ∧
    (s'.roles.map Role.permissions).getLast? = some [.ticketsAssign] ∧ WithinClasses s' ∧
    ∀ done call rest s₁ s₂, [createRoleCall] = done ++ call :: rest →
      managerCalls.run seededStore done = some s₁ → managerCalls.step s₁ call = some s₂ →
      ClassesKept s₁ s₂ ∧ NothingGained call.issuerId s₁ s₂ := by
  have hrun : managerCalls.run seededStore [createRoleCall] =
      some (performManager ⟨2, .tenantManager, 1⟩ createRoleCall seededStore) := rfl
  refine ⟨_, hrun, by decide +kernel, ?_⟩
  exact managers_escalate_nothing seededStore _ [createRoleCall] seededStore_seeded hrun

end OmniSupport.Identity
