import OmniSupport.Identity.ManagerBounds
import OmniSupport.Identity.RoleBoundary

/-! Each statement of the role calls, and whole runs of them: the members of a role stay
inside what their account class may hold. -/
namespace OmniSupport.Identity
open Foundation Database Process

section tables
variable {s t : Store}

/-- Fewer memberships, in the same roles, of users of the same classes. -/
theorem MembershipsSound.of_subset (h : MembershipsSound s)
    (hsub : t.memberships ⊆ s.memberships)
    (hroles : ∀ membership ∈ t.memberships,
      t.findRole membership.roleId = s.findRole membership.roleId)
    (husers : ∀ id, (t.findUser id).map User.role = (s.findUser id).map User.role) :
    MembershipsSound t := by
  constructor
  · intro membership hm
    rw [hroles membership hm]
    exact h.roles membership (hsub hm)
  · intro membership hm role hrole user huser
    rw [hroles membership hm] at hrole
    have hclass : (s.findUser membership.userId).map User.role = some user.role := by
      rw [← husers, huser, Option.map_some]
    obtain ⟨old, hold, hsame⟩ := Option.map_eq_some_iff.mp hclass
    rw [← hsame]
    exact h.within membership (hsub hm) role hrole old hold

theorem MembershipsSound.insertRole (h : MembershipsSound s) (row : Role) :
    MembershipsSound (s.insertRole row) := by
  refine h.of_subset (fun _ hm => hm) (fun membership hm => ?_) fun _ => rfl
  obtain ⟨role, hrole⟩ := Option.isSome_iff_exists.mp (h.roles membership hm)
  rw [hrole, Store.findRole_insertRole hrole]

theorem MembershipsSound.deleteRole (h : MembershipsSound s) (id : Uuid) :
    MembershipsSound (s.deleteRole id) := by
  refine h.of_subset (fun membership hm => (Table.mem_deleteMany.mp hm).1)
    (fun membership hm => ?_) fun _ => rfl
  exact Store.findRole_deleteRole (Table.mem_deleteMany.mp hm).2

/-- The classes of the members are in the list the check reads. -/
theorem mem_memberClasses {membership : UserRoleMembership} {user : User}
    (hm : membership ∈ s.memberships) (huser : s.findUser membership.userId = some user) :
    user.role ∈ s.memberClasses membership.roleId := by
  refine List.mem_filterMap.mpr ⟨membership, List.mem_filter.mpr ⟨hm, by simp⟩, ?_⟩
  rw [huser, Option.map_some]

/-- Grants that stay were there before, the others are the created ones. -/
theorem updatedGrants_ok {change : Option GrantChange} {old grants : List Permission}
    (h : updatedGrants change old = .ok grants) :
    ∀ grant ∈ grants, grant ∈ old ∨ ∃ planned, change = some planned ∧ grant ∈ planned.created := by
  intro grant hm
  cases change with
  | none =>
    cases h
    exact Or.inl hm
  | some planned =>
    simp only [updatedGrants, applyGrants] at h
    split at h
    · cases h
    · cases h
      rcases List.mem_append.mp hm with hm | hm
      · exact Or.inl (List.mem_filter.mp hm).1
      · exact Or.inr ⟨planned, rfl, hm⟩

theorem MembershipsSound.updateRole {id : Uuid} {displayName description : Option String}
    {change : Option GrantChange} (h : MembershipsSound s)
    (hpassed : CheckPassed (.updateRole id displayName description change))
    (hholds : ChecksHold s (.updateRole id displayName description change))
    (hexec : RoleStatement.commitRole id displayName description change s = .ok t) :
    MembershipsSound t := by
  unfold RoleStatement.commitRole at hexec
  split at hexec
  · cases hexec
  · rename_i old hold
    obtain ⟨grants, hgrants, hwritten⟩ := bind_eq_ok.mp hexec
    cases hwritten
    have hid : ∀ row, (roleUpdated displayName description grants row).id = row.id := fun _ => rfl
    have hfound : ∀ roleId, (s.updateRole id (roleUpdated displayName description grants)).findRole
        roleId = (s.findRole roleId).map fun role =>
          if roleId = id then roleUpdated displayName description grants role else role :=
      fun _ => Store.findRole_updateRole hid
    constructor
    · intro membership hm
      rw [hfound, Option.isSome_map]
      exact h.roles membership hm
    · intro membership hm role hrole user huser
      rw [hfound] at hrole
      obtain ⟨stored, hstored, hrow⟩ := Option.map_eq_some_iff.mp hrole
      have hwithin := h.within membership hm stored hstored user huser
      by_cases hsame : membership.roleId = id
      · rw [if_pos hsame] at hrow
        have heq : stored = old := by
          rw [hsame, hold] at hstored
          exact (Option.some.inj hstored).symm
        intro grant hgrant
        rw [← hrow] at hgrant
        rcases updatedGrants_ok hgrants grant hgrant with hkept | ⟨planned, hplanned, hcreated⟩
        · exact hwithin (heq ▸ hkept)
        · have hclass : user.role ∈ s.memberClasses id := hsame ▸ mem_memberClasses hm huser
          rcases hholds planned hplanned user.role hclass with hchecked | hagain
          · exact hpassed planned hplanned user.role hchecked hcreated
          · exact hagain hcreated
      · rw [if_neg hsame] at hrow
        rw [← hrow]
        exact hwithin

theorem MembershipsSound.upsertMembership {row : UserRoleMembership} {checkedClass : UserRole}
    {checkedGrants : List Permission} (h : MembershipsSound s)
    (hpassed : CheckPassed (.upsertMembership row checkedClass checkedGrants))
    (hholds : ChecksHold s (.upsertMembership row checkedClass checkedGrants))
    (hrole : (s.findRole row.roleId).isSome = true) :
    MembershipsSound (s.upsertMembership row) := by
  unfold Store.upsertMembership
  split
  · exact h
  · have hrow : MemberWithinClass s row := by
      intro role hfound user huser
      rcases hholds role hfound user huser with ⟨hclass, hgrants⟩ | hagain
      · rw [hclass]
        exact List.Subset.trans hgrants hpassed
      · exact hagain
    constructor
    · intro membership hm
      rcases List.mem_append.mp hm with hm | hm
      · exact h.roles membership hm
      · rw [List.mem_singleton.mp hm]
        exact hrole
    · intro membership hm
      rcases List.mem_append.mp hm with hm | hm
      · exact h.within membership hm
      · rw [List.mem_singleton.mp hm]
        exact hrow

theorem MembershipsSound.updateUser {writtenAt : Time} {user : User} (h : MembershipsSound s)
    (hholds : ChecksHold s (.updateUser writtenAt user)) :
    MembershipsSound (s.updateUser user.id (User.write writtenAt user)) := by
  have hid : ∀ row, (User.write writtenAt user row).id = row.id := fun _ => rfl
  refine ⟨h.roles, fun membership hm role hrole member hmember => ?_⟩
  rw [Store.findUser_updateUser hid] at hmember
  obtain ⟨old, hold, hrow⟩ := Option.map_eq_some_iff.mp hmember
  have hfound : s.findRole membership.roleId = some role := hrole
  by_cases hsame : membership.userId = user.id
  · rw [if_pos hsame] at hrow
    have hgrants := hholds membership hm hsame
    simp only [Store.membershipGrants, hfound, Option.elim_some] at hgrants
    rw [← hrow]
    exact hgrants
  · rw [if_neg hsame] at hrow
    rw [← hrow]
    exact h.within membership hm role hfound old hold

/-- A removed member keeps the account class, and loses memberships. -/
theorem MembershipsSound.removeStaff {input : RemoveInput}
    {ticketsAt customersAt removedAt writtenAt : Time} (h : MembershipsSound s)
    (hexec : RoleStatement.commitRemoval input ticketsAt customersAt removedAt writtenAt s =
      .ok t) : MembershipsSound t := by
  unfold RoleStatement.commitRemoval at hexec
  split at hexec
  · cases hexec
    refine h.of_subset (fun membership hm => (Table.mem_deleteMany.mp hm).1) (fun _ _ => rfl)
      fun id => ?_
    have hid : ∀ row, (StaffLifecycleService.removed removedAt writtenAt row).id = row.id :=
      fun _ => rfl
    rw [Store.findUser_updateUser hid, Option.map_map]
    refine congrArg (fun f => (s.findUser id).map f) (funext fun row => ?_)
    rw [Function.comp_apply]
    split
    · rfl
    · rfl
  · cases hexec

end tables

/-- One statement: when what its call has checked is still so, memberships stay within the
classes of the members. -/
theorem exec_keeps_memberships (s : Store) (st : RoleStatement) (t : Store)
    (h : MembershipsSound s) (hpassed : CheckPassed st) (hholds : ChecksHold s st)
    (hexec : roleStatements.exec st s = .ok t) : MembershipsSound t := by
  cases st with
  | find kind =>
    cases hexec
    exact h
  | createRole row =>
    simp only [roleStatements, RoleStatement.exec] at hexec
    split at hexec
    · cases hexec
    · cases hexec
      exact h.insertRole row
  | updateRole id displayName description change => exact h.updateRole hpassed hholds hexec
  | deleteRole id =>
    simp only [roleStatements, RoleStatement.exec] at hexec
    split at hexec
    · cases hexec
      exact h.deleteRole id
    · cases hexec
  | upsertMembership row checkedClass checkedGrants =>
    simp only [roleStatements, RoleStatement.exec] at hexec
    split at hexec
    · rename_i hfound
      cases hexec
      exact h.upsertMembership hpassed hholds hfound.2
    · cases hexec
  | deleteMemberships userId roleId tenantId =>
    cases hexec
    exact h.of_subset (fun membership hm => (Table.mem_deleteMany.mp hm).1) (fun _ _ => rfl)
      fun _ => rfl
  | updateUser writtenAt user =>
    simp only [roleStatements, RoleStatement.exec, UserRepository.updateRow] at hexec
    split at hexec
    · cases hexec
    · split at hexec
      · cases hexec
      · cases hexec
        exact h.updateUser hholds
  | removeStaff input ticketsAt customersAt removedAt writtenAt => exact h.removeStaff hexec
  | revokeTokens userId reason revokedAt =>
    cases hexec
    exact h.of_subset (fun _ hm => hm) (fun _ _ => rfl) fun _ => rfl
  | audit row =>
    cases hexec
    exact h.of_subset (fun _ hm => hm) (fun _ _ => rfl) fun _ => rfl
  | enqueue rows =>
    cases hexec
    obtain ⟨outbox, hrows⟩ := enqueueMany_outbox (s := s) rows
    rw [hrows]
    exact h.of_subset (fun _ hm => hm) (fun _ _ => rfl) fun _ => rfl

/-- Any number of calls at once, in any order of their statements: as long as each role
change writes a class that allows the roles of the user, and what a call has checked is still
so when it writes, the members of every role stay within what their class may hold. -/
theorem memberships_within_class {s : Store} {c : RolePool} {moves : List RoleMove}
    (hs : MembershipsSound s)
    (hwithin : rolePool.machine.Within (Running ChecksHold) (idle s) moves)
    (hrun : rolePool.machine.run (idle s) moves = some c) : MembersWithinClass c.shared :=
  (pool_keeps (C := ChecksHold) roleProgram_issues exec_keeps_memberships hs hwithin hrun).within

section demo

/-- A tenant with a manager, an agent, and a role with these grants. -/
def leadStore (grants : List Permission) : Store where
  tickets := []
  comments := []
  customers := []
  tenants := [{ (default : Tenant) with id := 1 }]
  users := [{ managedUser 2 .tenantManager with email := "manager@omni.test" },
    { managedUser 3 .agent with email := "agent@omni.test" }]
  refreshTokens := []
  sequences := []
  activities := []
  audits := []
  outbox := []
  roles := [⟨20, some 1, "lead", "Lead", none, false, grants⟩]

/-- The manager gives the role to the agent, and makes the agent a customer. -/
def assignThenDemote : List RoleMove :=
  .act 0 (.start (.assign ⟨2, .tenantManager, 1⟩ 20 3)) ::
    List.replicate 6 (.act 0 (.next sampleEnv 0)) ++
  .act 0 (.start (.changeRole ⟨2, 3, some 1, "CUSTOMER", .tenantManager⟩)) ::
    List.replicate 11 (.act 0 (.next sampleEnv 0))

end demo

/-- The role grants what a customer may hold. -/
theorem demoted_within_class :
    ∃ c, rolePool.machine.run (idle (leadStore [.ticketsCreate])) assignThenDemote = some c ∧
      (c.shared.users.map User.role, c.shared.memberships.length) =
        ([.tenantManager, .customer], 1) ∧ MembersWithinClass c.shared := by
  have hsound : MembershipsSound (leadStore [.ticketsCreate]) := ⟨by decide, by decide⟩
  have hwithin : rolePool.machine.Within (Running ChecksHold) (idle (leadStore [.ticketsCreate]))
      assignThenDemote := by decide +kernel
  have hsome : (rolePool.machine.run (idle (leadStore [.ticketsCreate])) assignThenDemote).map
      (fun c => (c.shared.users.map User.role, c.shared.memberships.length)) =
        some ([.tenantManager, .customer], 1) := by decide +kernel
  obtain ⟨c, hrun, hleft⟩ := Option.map_eq_some_iff.mp hsome
  exact ⟨c, hrun, hleft, memberships_within_class hsound hwithin hrun⟩

/-- The membership outlives the class that allowed it: a customer may assign tickets. -/
theorem demoted_outside_class : ¬ ∀ (s : Store) (moves : List RoleMove) (c : RolePool),
    MembershipsSound s → rolePool.machine.run (idle s) moves = some c →
      MembersWithinClass c.shared := by
  intro h
  have houtside : (rolePool.machine.run (idle (leadStore [.ticketsAssign])) assignThenDemote).map
      (fun c => decide (MembersWithinClass c.shared)) = some false := by decide +kernel
  obtain ⟨c, hrun, hleft⟩ := Option.map_eq_some_iff.mp houtside
  have hwithin := h (leadStore [.ticketsAssign]) assignThenDemote c ⟨by decide, by decide⟩ hrun
  exact of_decide_eq_false hleft hwithin

end OmniSupport.Identity
