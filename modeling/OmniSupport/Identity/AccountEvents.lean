import OmniSupport.Identity.AccountChange

/-! The calls that raise events outside of a transaction, against the outbox rule: the
change of the aggregate and its events are both in the store, or neither is. -/
namespace OmniSupport.Identity
open Foundation Database Effect Outbox

section outcomes
variable {env : ServiceEnv} {faults : Nat → Fault} {s t : Store} {command : AccountCommand}
  {change : AccountChange}

/-- A change without its events breaks the rule. -/
theorem not_recorded (hchanged : aggregates (change.rows s) ≠ aggregates s)
    (houtbox : (change.rows s).outbox = s.outbox)
    (hraises : ∀ change, Performs env s command change → change.raised ≠ [])
    (ht : watched t = watched (change.rows s)) : ¬ Recorded env s command t := by
  rintro (hsame | ⟨change', hperforms, rows, hall, hwatched⟩)
  · exact hchanged (congrArg Prod.fst (ht.symm.trans hsame))
  · have hrows : s.outbox = s.outbox ++ rows := by
      rw [← houtbox]
      exact (congrArg Prod.snd ht).symm.trans (congrArg Prod.snd hwatched) |>.trans
        (congrArg (· ++ rows) houtbox.symm)
    have hnone : rows = [] := by simpa using hrows
    subst hnone
    cases hall' : change'.raised with
    | nil => exact hraises change' hperforms hall'
    | cons event rest =>
      rw [hall'] at hall
      cases hall

/-- A change that raises nothing, or changes nothing, cannot break it. -/
theorem recorded_of_phases {befores afters : List Stage}
    (hphases : Phases watched faults env 0 0 s befores afters (perform command)
      (fun t => watched t = watched (change.rows s)) (Both change s))
    (hperforms : Performs env s command change)
    (hharmless : watched (change.rows s) = watched s ∨
      change.raised = [] ∧ (change.rows s).outbox = s.outbox) :
    Recorded env s command ((perform command).run env faults (World.start s)).2.committed := by
  rcases hphases (World.start s) (at_start s) with ⟨-, hsame⟩ | ⟨-, -, hmid⟩ | ⟨-, -, hboth⟩
  · exact Or.inl hsame
  · rcases hharmless with hsame | ⟨hnone, houtbox⟩
    · exact Or.inl (hmid.trans hsame)
    · refine Or.inr ⟨change, hperforms, [], hnone ▸ .nil, hmid.trans ?_⟩
      rw [List.append_nil, ← houtbox]
      rfl
  · exact Or.inr ⟨change, hperforms, hboth⟩

/-- An accepted call keeps the rule when no fault parts its write from its insert. -/
theorem recorded_iff_of_phases
    (hphases : Phases watched faults env 0 0 s (before command) (after command) (perform command)
      (fun t => watched t = watched (change.rows s)) (Both change s))
    (hperforms : Performs env s command change) (haccepted : Accepted env s command)
    (hlost : ∀ t, watched t = watched (change.rows s) → ¬ Recorded env s command t) :
    Recorded env s command ((perform command).run env faults (World.start s)).2.committed ↔
      Uninterrupted env s faults command := by
  rcases hphases (World.start s) (at_start s) with ⟨hno, hsame⟩ | ⟨hyes, hno, hmid⟩ |
    ⟨hyes, hyes', hboth⟩
  · exact iff_of_true (Or.inl hsame) fun _ h => absurd h hno
  · have hcut : ¬ Uninterrupted env s faults command := by
      intro h
      have hpasses := h haccepted hyes
      rw [Nat.zero_add] at hno
      exact hno hpasses
    exact iff_of_false (hlost _ hmid) hcut
  · rw [Nat.zero_add] at hyes'
    exact iff_of_true (Or.inr ⟨change, hperforms, hboth⟩) fun _ _ => hyes'

/-- A call that is refused keeps the rule, with nothing written. -/
theorem recorded_of_refused (h : Atomic env 0 s (fun _ => False) (perform command)) :
    Recorded env s command ((perform command).run env faults (World.start s)).2.committed := by
  obtain ⟨-, -, ⟨-, -, hcommitted⟩ | ⟨-, hfalse, -⟩⟩ := h faults (World.start s) rfl rfl rfl
  · exact Or.inl (congrArg watched hcommitted)
  · exact absurd hfalse id

end outcomes
section calls
variable {env : ServiceEnv} {s : Store}

theorem atomic_requireFreeDomain {d : Nat} {Q : Store → Prop} {domain : Option String}
    {g : Unit → ServiceM Unit} (h : Atomic env d s Q (g ())) :
    Atomic env d s Q (TenantService.requireFreeDomain domain >>= g) := by
  cases domain with
  | none => exact h
  | some name =>
    simp only [TenantService.requireFreeDomain]
    split
    · exact h
    · simp only [bind_assoc]
      exact atomic_read_bind (atomic_require fun _ => h)

/-- Whether the checks of a role change let it through, the same role included. -/
def RoleChangeAllowed (s : Store) (dto : ChangeRoleDto) (target : User) (newRole : UserRole) :
    Prop :=
  s.findUserIn dto.targetUserId dto.tenantId = some target ∧
    UserRole.create dto.newRole = .ok newRole ∧
    (UserService.roleDecision dto target newRole).allowed = true ∧ ¬ s.emailTaken target ∧
    ∀ tenantId, target.tenantId = some tenantId → s.findTenant tenantId ≠ none

theorem refused_changeRole {sessionRevoker : Bool} {dto : ChangeRoleDto}
    (h : ∀ target newRole, ¬ RoleChangeAllowed s dto target newRole) :
    Atomic env 0 s (fun _ => False) (UserService.changeRole sessionRevoker dto) := by
  refine atomic_read_bind (atomic_orThrow fun target htarget => ?_)
  refine atomic_lift_bind fun newRole hrole => ?_
  refine atomic_require fun hallowed => ?_
  refine atomic_draw_bind ?_
  simp only [UserRepository.update, bind_assoc]
  refine atomic_draw_bind ?_
  obtain ⟨row, hrow⟩ := findUser_of_findUserIn htarget
  have hrejects : s.emailTaken target ∨
      ∃ tenantId, target.tenantId = some tenantId ∧ s.findTenant tenantId = none := by
    by_contra hno
    refine h target newRole ⟨htarget, hrole, hallowed, fun he => hno (Or.inl he), ?_⟩
    exact fun tenantId hid hnone => hno (Or.inr ⟨tenantId, hid, hnone⟩)
  refine atomic_call_rejects (x := .database) ?_
  have hchanged := roleChanged_row dto target newRole (env.header 0)
  simp only [UserRepository.updateRow]
  rw [hchanged]
  simp only [hrow]
  exact if_pos hrejects

theorem refused_createTenant {command : CreateTenantCommand}
    (h : ∀ slug, tenantSlug (command.slug.getD command.name) = .ok slug →
      s.tenantTaken (TenantService.createProps command (env.uuid 0) slug (env.clock 1))) :
    Atomic env 0 s (fun _ => False) (TenantService.createTenant command) := by
  refine atomic_lift_bind fun slug hslug => ?_
  refine atomic_read_bind (atomic_require fun _ => ?_)
  refine atomic_requireFreeDomain ?_
  refine atomic_draw_bind (atomic_draw_bind (atomic_draw_bind ?_))
  simp only [TenantRepository.save, bind_assoc]
  exact atomic_draw_bind (atomic_call_rejects (if_pos (h slug hslug)))

theorem refused_suspendTenant {sessionRevoker : Bool} {command : SuspendTenantCommand}
    (h : ∀ tenant suspended, s.findTenant command.tenantId = some tenant →
      (TenantEntity.reconstitute tenant).suspend (env.clock 0) (env.header 1) command.reason =
        .ok suspended → s.domainTaken tenant) :
    Atomic env 0 s (fun _ => False) (TenantService.suspendTenant sessionRevoker command) := by
  refine atomic_read_bind (atomic_orThrow fun tenant htenant => ?_)
  refine atomic_draw_bind (atomic_draw_bind ?_)
  refine atomic_lift_bind fun suspended hsuspended => ?_
  refine atomic_transaction_fails (inside_tenantUpdateLocked _) fun updated d' s' hy => ?_
  obtain ⟨current, d₁, s₁, hread, h₁⟩ := yields_bind (inside_read _ _ _) hy
  obtain ⟨rfl, -, rfl⟩ := yields_read hread
  obtain ⟨time, d₂, s₂, hdraw, hcall⟩ := yields_bind (inside_draw _) h₁
  obtain ⟨rfl, -, rfl⟩ := yields_draw hdraw
  obtain ⟨hupdate, -⟩ := yields_call hcall
  have htaken := h tenant suspended htenant hsuspended
  have hid : tenant.id = command.tenantId := by simpa using List.find?_some htenant
  rw [suspend_ok hsuspended] at hupdate
  have hfound : s₂.findTenant tenant.id = some tenant := hid ▸ htenant
  simp only [TenantRepository.updateRow, TenantRepository.withStoredFlags, hfound] at hupdate
  have herror := hupdate.symm.trans (if_pos htaken)
  cases herror

theorem refused_updateRiskScore {customerId tenantId : Uuid} {score : JsNumber} {label : String}
    (h : ∀ customer scored, s.findCustomer customerId tenantId = some customer →
      (CustomerEntity.reconstitute customer).updateRiskScore (env.header 0) score label ≠
        .ok scored) :
    Atomic env 0 s (fun _ => False)
      ((fun _ => ()) <$> CustomerService.updateRiskScore customerId tenantId score label) := by
  refine Atomic.map ?_ _
  refine atomic_read_bind (atomic_orThrow fun customer hcustomer => ?_)
  refine atomic_draw_bind ?_
  exact atomic_lift_bind fun scored hscored => absurd hscored (h customer scored hcustomer)

/-- Every event of an accepted role change is raised by the one role it changes. -/
theorem roleChange_raises {sessionRevoker : Bool} {dto : ChangeRoleDto} {target : User}
    {newRole : UserRole} (htarget : s.findUserIn dto.targetUserId dto.tenantId = some target)
    (hrole : UserRole.create dto.newRole = .ok newRole) (hdiffers : target.role ≠ newRole)
    (change : AccountChange) (h : Performs env s (.changeRole sessionRevoker dto) change) :
    change.raised ≠ [] := by
  cases h with
  | changeRole _ _ target' newRole' n writtenAt htarget' hrole' =>
    obtain rfl : target = target' := Option.some.inj (htarget.symm.trans htarget')
    obtain rfl : newRole = newRole' := Except.ok.inj (hrole.symm.trans hrole')
    have hevents := roleChanged_events dto target newRole (env.header n)
    rw [if_neg hdiffers] at hevents
    simp only [roleChange, hevents]
    exact List.cons_ne_nil _ _

theorem changeRole_recorded_iff (hfresh : FreshIds env s) (sessionRevoker : Bool)
    (dto : ChangeRoleDto) (faults : Nat → Fault) :
    Recorded env s (.changeRole sessionRevoker dto)
        ((perform (.changeRole sessionRevoker dto)).run env faults (World.start s)).2.committed ↔
      Uninterrupted env s faults (.changeRole sessionRevoker dto) := by
  by_cases hreached : ∃ target newRole, RoleChangeAllowed s dto target newRole
  · obtain ⟨target, newRole, htarget, hrole, hallowed, hemail, htenant⟩ := hreached
    have hphases := phases_changeRole faults sessionRevoker hfresh htarget hrole hallowed hemail
      htenant
    have hperforms : Performs env s (.changeRole sessionRevoker dto)
        (roleChange dto target newRole (env.header 0) (env.clock 1)) :=
      .changeRole sessionRevoker dto target newRole 0 (env.clock 1) htarget hrole
    have hrow := roleChanged_row dto target newRole (env.header 0)
    have hevents := roleChanged_events dto target newRole (env.header 0)
    by_cases hsame : target.role = newRole
    · refine iff_of_true (recorded_of_phases hphases hperforms (Or.inr ⟨?_, rfl⟩)) ?_
      · simp only [roleChange, hevents, if_pos hsame]
      · rintro ⟨target', newRole', htarget', hrole', -, hdiffers, -⟩
        obtain rfl : target = target' := Option.some.inj (htarget.symm.trans htarget')
        obtain rfl : newRole = newRole' := Except.ok.inj (hrole.symm.trans hrole')
        exact absurd hsame hdiffers
    · have hstages : publishStages (roleChange dto target newRole (env.header 0)
          (env.clock 1)).raised = [.strict] := by
        simp only [roleChange, hevents, if_neg hsame]
        exact if_neg (List.cons_ne_nil _ _)
      have hdiffers : (sessionRevoker && decide (target.role ≠ newRole)) = sessionRevoker := by
        simp [hsame]
      simp only [hdiffers, hstages] at hphases
      refine recorded_iff_of_phases hphases hperforms
        ⟨target, newRole, htarget, hrole, hallowed, hsame, hemail, htenant⟩ fun t => ?_
      refine not_recorded (fun haggregates => ?_) rfl
        (roleChange_raises htarget hrole hsame)
      -- the row that was read has got the new role
      have husers : Table.updateMany (fun row => row.id = target.id) (User.write (env.clock 1)
          (UserService.roleChanged dto target newRole (env.header 0)).row) s.users = s.users :=
        congrArg Prod.fst haggregates
      have hkept := Table.eq_of_updateMany_eq husers (List.mem_of_find?_eq_some htarget) rfl
      rw [hrow] at hkept
      exact hsame (congrArg User.role hkept).symm
  · have hrefused : ∀ target newRole, ¬ RoleChangeAllowed s dto target newRole :=
      fun target newRole h => hreached ⟨target, newRole, h⟩
    refine iff_of_true (recorded_of_refused (refused_changeRole hrefused)) ?_
    rintro ⟨target, newRole, htarget, hrole, hallowed, -, hemail, htenant⟩
    exact absurd ⟨htarget, hrole, hallowed, hemail, htenant⟩ (hrefused target newRole)

theorem createTenant_recorded_iff (hfresh : FreshIds env s) (command : CreateTenantCommand)
    (faults : Nat → Fault) :
    Recorded env s (.createTenant command)
        ((perform (.createTenant command)).run env faults (World.start s)).2.committed ↔
      Uninterrupted env s faults (.createTenant command) := by
  by_cases haccepted : Accepted env s (.createTenant command)
  · obtain ⟨slug, hslug, hfree⟩ := haccepted
    have hphases := phases_createTenant faults hfresh hslug hfree
    refine recorded_iff_of_phases hphases
      (.createTenant command (env.uuid 0) slug 2 (env.clock 1) (env.clock 3) hslug)
      ⟨slug, hslug, hfree⟩ fun t => ?_
    refine not_recorded (fun haggregates => ?_) rfl fun change h => ?_
    · have hlength := congrArg (fun a => a.2.1.length) haggregates
      simp [aggregates, tenantCreation, Store.insertTenant] at hlength
    · cases h
      exact List.cons_ne_nil _ _
  · refine iff_of_true (recorded_of_refused (refused_createTenant fun slug hslug => ?_))
      fun h => absurd h haccepted
    by_contra hfree
    exact haccepted ⟨slug, hslug, hfree⟩

theorem suspendTenant_recorded_iff (hfresh : FreshIds env s) (sessionRevoker : Bool)
    (command : SuspendTenantCommand) (faults : Nat → Fault) :
    Recorded env s (.suspendTenant sessionRevoker command)
        ((perform (.suspendTenant sessionRevoker command)).run env faults
          (World.start s)).2.committed ↔
      Uninterrupted env s faults (.suspendTenant sessionRevoker command) := by
  by_cases haccepted : Accepted env s (.suspendTenant sessionRevoker command)
  · obtain ⟨tenant, htenant, hstatus, hdomain⟩ := haccepted
    have hsuspended : (TenantEntity.reconstitute tenant).suspend (env.clock 0) (env.header 1)
        command.reason = .ok _ := if_neg hstatus
    have hphases := phases_suspendTenant faults sessionRevoker hfresh htenant hsuspended hdomain
    refine recorded_iff_of_phases hphases
      (.suspendTenant sessionRevoker command tenant _ 1 (env.clock 0) (env.clock 2) htenant
        hsuspended) ⟨tenant, htenant, hstatus, hdomain⟩ fun t => ?_
    refine not_recorded (fun haggregates => ?_) rfl fun change h => ?_
    · have htenants := congrArg (fun a => a.2.1) haggregates
      have hkept := Table.eq_of_updateMany_eq htenants (List.mem_of_find?_eq_some htenant) rfl
      exact hstatus (congrArg Tenant.status hkept).symm
    · cases h with
      | suspendTenant _ _ tenant' suspended' n suspendedAt writtenAt htenant' hsuspended' =>
        rw [suspend_ok hsuspended']
        exact List.cons_ne_nil _ _
  · refine iff_of_true (recorded_of_refused (refused_suspendTenant
      fun tenant suspended htenant hsuspended => ?_)) fun h => absurd h haccepted
    by_contra hdomain
    refine haccepted ⟨tenant, htenant, fun hstatus => ?_, hdomain⟩
    have herror := hsuspended.symm.trans (if_pos hstatus)
    cases herror

theorem updateRiskScore_recorded_iff (hfresh : FreshIds env s) (customerId tenantId : Uuid)
    (score : JsNumber) (label : String) (faults : Nat → Fault) :
    Recorded env s (.updateRiskScore customerId tenantId score label)
        ((perform (.updateRiskScore customerId tenantId score label)).run env faults
          (World.start s)).2.committed ↔
      Uninterrupted env s faults (.updateRiskScore customerId tenantId score label) := by
  by_cases hreached : ∃ customer scored, s.findCustomer customerId tenantId = some customer ∧
      (CustomerEntity.reconstitute customer).updateRiskScore (env.header 0) score label = .ok scored
  · obtain ⟨customer, scored, hcustomer, hscored⟩ := hreached
    have hphases := (phases_updateRiskScore faults hfresh hcustomer hscored).map fun _ => ()
    have hperforms : Performs env s (.updateRiskScore customerId tenantId score label)
        (riskChange scored (env.clock 1)) :=
      .updateRiskScore customerId tenantId score label customer scored 0 (env.clock 1) hcustomer
        hscored
    have hid : scored.row.id = customerId := by
      have hfound : customer.id = customerId ∧ customer.tenantId = tenantId := by
        simpa using List.find?_some hcustomer
      exact (updateRiskScore_ok hscored).1.trans hfound.1
    by_cases hchanges : (s.updateCustomer customerId
        (Customer.write (env.clock 1) scored.row)).customers = s.customers
    · have hwatched : watched ((riskChange scored (env.clock 1)).rows s) = watched s := by
        have hcustomers : ((riskChange scored (env.clock 1)).rows s).customers = s.customers := by
          rw [← hchanges, ← hid]
          rfl
        have hrest : watched ((riskChange scored (env.clock 1)).rows s) =
            ((s.users, s.tenants, ((riskChange scored (env.clock 1)).rows s).customers),
              s.outbox) := rfl
        rw [hrest, hcustomers]
        rfl
      refine iff_of_true (recorded_of_phases hphases hperforms (Or.inl hwatched)) ?_
      rintro ⟨customer', scored', hcustomer', hscored', hdiffers⟩
      obtain rfl : customer = customer' := Option.some.inj (hcustomer.symm.trans hcustomer')
      obtain rfl : scored = scored' := Except.ok.inj (hscored.symm.trans hscored')
      exact absurd hchanges hdiffers
    · refine recorded_iff_of_phases hphases hperforms
        ⟨customer, scored, hcustomer, hscored, hchanges⟩ fun t => ?_
      refine not_recorded (fun haggregates => hchanges ?_) rfl fun change h => ?_
      · have hcustomers := congrArg (fun a => a.2.2) haggregates
        rw [← hid]
        exact hcustomers
      · cases h with
        | updateRiskScore _ _ _ _ customer' scored' n writtenAt hcustomer' hscored' =>
          obtain ⟨-, body, hevents⟩ := updateRiskScore_ok hscored'
          simp only [riskChange, hevents]
          exact List.cons_ne_nil _ _
  · refine iff_of_true (recorded_of_refused (refused_updateRiskScore
      fun customer scored hcustomer hscored => hreached ⟨customer, scored, hcustomer, hscored⟩)) ?_
    rintro ⟨customer, scored, hcustomer, hscored, -⟩
    exact absurd ⟨customer, scored, hcustomer, hscored⟩ hreached

end calls

/-- Both or neither: a call outside of a transaction keeps the outbox rule exactly when no
fault parts the commit of its change from the insert of its event. -/
theorem account_events_recorded_iff (env : ServiceEnv) (s : Store) (command : AccountCommand)
    (faults : Nat → Fault) (hfresh : FreshIds env s) :
    Recorded env s command ((perform command).run env faults (World.start s)).2.committed ↔
      Uninterrupted env s faults command := by
  cases command with
  | changeRole sessionRevoker dto => exact changeRole_recorded_iff hfresh sessionRevoker dto faults
  | createTenant command => exact createTenant_recorded_iff hfresh command faults
  | suspendTenant sessionRevoker command =>
    exact suspendTenant_recorded_iff hfresh sessionRevoker command faults
  | updateRiskScore customerId tenantId score label =>
    exact updateRiskScore_recorded_iff hfresh customerId tenantId score label faults

section demo

def demoTarget : User :=
  { (default : User) with id := 1, tenantId := some 2, role := .agent }

def demoTenant : Tenant := { (default : Tenant) with id := 2, status := .active }

def demoStore : Store where
  tickets := []
  comments := []
  customers := []
  tenants := [demoTenant]
  users := [demoTarget]
  refreshTokens := []
  sequences := []
  activities := []
  audits := []
  outbox := []

/-- A platform admin makes an agent a customer. -/
def demoRoleChange : ChangeRoleDto := ⟨3, 1, none, "CUSTOMER", .platformAdmin⟩

end demo

/-- A throwing audit insert does not keep the event from its role change. -/
theorem account_events_recorded_without_audit :
    Recorded sampleEnv demoStore (.changeRole true demoRoleChange)
      ((perform (.changeRole true demoRoleChange)).run sampleEnv
        (fun n => if n = 3 then .throws else .none) (World.start demoStore)).2.committed :=
  (account_events_recorded_iff sampleEnv demoStore (.changeRole true demoRoleChange)
    (fun n => if n = 3 then .throws else .none) (sampleEnv_freshIds rfl)).mpr
    fun _ _ => by decide

/-- The outbox insert throws: the role has changed, and no event will ever say so. -/
theorem role_change_without_event :
    ¬ Recorded sampleEnv demoStore (.changeRole true demoRoleChange)
      ((perform (.changeRole true demoRoleChange)).run sampleEnv
        (fun n => if n = 4 then .throws else .none) (World.start demoStore)).2.committed := by
  have hrole : UserRole.create demoRoleChange.newRole = .ok .customer := by decide
  have htarget : demoStore.findUserIn demoRoleChange.targetUserId demoRoleChange.tenantId =
      some demoTarget := by decide
  have hlost : watched ((perform (.changeRole true demoRoleChange)).run sampleEnv
        (fun n => if n = 4 then .throws else .none) (World.start demoStore)).2.committed =
      watched ((roleChange demoRoleChange demoTarget .customer (sampleEnv.header 0)
        (sampleEnv.clock 1)).rows demoStore) := by decide
  refine not_recorded ?_ rfl (roleChange_raises htarget hrole (by decide)) hlost
  decide

end OmniSupport.Identity
