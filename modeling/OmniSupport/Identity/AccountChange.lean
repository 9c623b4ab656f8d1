import OmniSupport.Database.ServiceRules
import OmniSupport.Identity.AccountService

/-! What the calls outside of a transaction change and raise, the condition under which
they do it as a whole, and how their statements follow one another. -/
namespace OmniSupport.Identity
open Foundation Database Effect Outbox

inductive AccountCommand where
  | changeRole (sessionRevoker : Bool) (dto : ChangeRoleDto)
  | createTenant (command : CreateTenantCommand)
  | suspendTenant (sessionRevoker : Bool) (command : SuspendTenantCommand)
  | updateRiskScore (customerId tenantId : Uuid) (score : JsNumber) (label : String)

def perform : AccountCommand → ServiceM Unit
  | .changeRole sessionRevoker dto => UserService.changeRole sessionRevoker dto
  | .createTenant command => TenantService.createTenant command
  | .suspendTenant sessionRevoker command => TenantService.suspendTenant sessionRevoker command
  | .updateRiskScore customerId tenantId score label =>
    (fun _ => ()) <$> CustomerService.updateRiskScore customerId tenantId score label

def aggregates (s : Store) : List User × List Tenant × List Customer :=
  (s.users, s.tenants, s.customers)

/-- The part of the store the rule is about. -/
def watched (s : Store) : (List User × List Tenant × List Customer) × List (OutboxEvent EventBody) :=
  (aggregates s, s.outbox)

structure AccountChange where
  rows : Store → Store
  raised : List DomainEvent

def roleChange (dto : ChangeRoleDto) (target : User) (newRole : UserRole) (header : EventHeader)
    (writtenAt : Time) : AccountChange :=
  let changed := UserService.roleChanged dto target newRole header
  ⟨fun s => s.updateUser target.id (User.write writtenAt changed.row), changed.events⟩

def tenantCreation (command : CreateTenantCommand) (id : Uuid) (slug : String)
    (createdAt : Time) (header : EventHeader) (savedAt : Time) : AccountChange :=
  let tenant := TenantEntity.create header (TenantService.createProps command id slug createdAt)
  ⟨fun s => s.insertTenant (tenant.row.storedAt savedAt), tenant.events⟩

def suspension (tenant : Tenant) (suspended : TenantEntity) (writtenAt : Time) : AccountChange :=
  let written := TenantRepository.withStoredFlags (some tenant) suspended.row
  ⟨fun s => s.updateTenant tenant.id (Tenant.write writtenAt written), suspended.events⟩

def riskChange (scored : CustomerEntity) (writtenAt : Time) : AccountChange :=
  ⟨fun s => s.updateCustomer scored.row.id (Customer.write writtenAt scored.row), scored.events⟩

/-- What a call does when it succeeds: the domain operation on the row it has read. -/
inductive Performs (env : ServiceEnv) (s : Store) : AccountCommand → AccountChange → Prop
  | changeRole (sessionRevoker : Bool) (dto : ChangeRoleDto) (target : User) (newRole : UserRole)
      (n : Nat) (writtenAt : Time)
      (htarget : s.findUserIn dto.targetUserId dto.tenantId = some target)
      (hrole : UserRole.create dto.newRole = .ok newRole) :
      Performs env s (.changeRole sessionRevoker dto)
        (roleChange dto target newRole (env.header n) writtenAt)
  | createTenant (command : CreateTenantCommand) (id : Uuid) (slug : String) (n : Nat)
      (createdAt savedAt : Time)
      (hslug : tenantSlug (command.slug.getD command.name) = .ok slug) :
      Performs env s (.createTenant command)
        (tenantCreation command id slug createdAt (env.header n) savedAt)
  | suspendTenant (sessionRevoker : Bool) (command : SuspendTenantCommand) (tenant : Tenant)
      (suspended : TenantEntity) (n : Nat) (suspendedAt writtenAt : Time)
      (htenant : s.findTenant command.tenantId = some tenant)
      (hsuspended : (TenantEntity.reconstitute tenant).suspend suspendedAt (env.header n)
        command.reason = .ok suspended) :
      Performs env s (.suspendTenant sessionRevoker command)
        (suspension tenant suspended writtenAt)
  | updateRiskScore (customerId tenantId : Uuid) (score : JsNumber) (label : String)
      (customer : Customer) (scored : CustomerEntity) (n : Nat) (writtenAt : Time)
      (hcustomer : s.findCustomer customerId tenantId = some customer)
      (hscored : (CustomerEntity.reconstitute customer).updateRiskScore (env.header n) score
        label = .ok scored) :
      Performs env s (.updateRiskScore customerId tenantId score label)
        (riskChange scored writtenAt)

/-- The aggregates with the change and the outbox with one row for each event it raised. -/
def Both (change : AccountChange) (s s' : Store) : Prop :=
  ∃ rows, List.Forall₂ RowOf change.raised rows ∧
    watched s' = (aggregates (change.rows s), s.outbox ++ rows)

/-- The outbox rule: the change is there with its events, or neither is. -/
def Recorded (env : ServiceEnv) (s : Store) (command : AccountCommand) (s' : Store) : Prop :=
  watched s' = watched s ∨ ∃ change, Performs env s command change ∧ Both change s s'

/-- The lookup of a domain, when there is one to look up. -/
def domainStages : Option String → List Stage
  | none => []
  | some domain => if domain = "" then [] else [.strict]

/-- The awaited calls up to the one that commits the aggregate. -/
def before : AccountCommand → List Stage
  | .changeRole .. => [.strict, .strict]
  | .createTenant command => [.strict] ++ (domainStages command.domain ++ [.strict])
  | .suspendTenant .. => [.strict, .strict, .strict, .strict]
  | .updateRiskScore .. => [.strict, .strict]

/-- The awaited calls from there to the outbox insert. A throwing audit insert is logged. -/
def after : AccountCommand → List Stage
  | .changeRole sessionRevoker _ | .suspendTenant sessionRevoker _ =>
    (if sessionRevoker then [.strict] else []) ++ [.tolerant, .strict]
  | .createTenant _ => [.tolerant, .strict]
  | .updateRiskScore .. => [.strict, .strict]

/-- The checks of the call let it write, and the write changes a row. -/
def Accepted (env : ServiceEnv) (s : Store) : AccountCommand → Prop
  | .changeRole _ dto => ∃ target newRole,
    s.findUserIn dto.targetUserId dto.tenantId = some target ∧
      UserRole.create dto.newRole = .ok newRole ∧
      (UserService.roleDecision dto target newRole).allowed = true ∧ target.role ≠ newRole ∧
      ¬ s.emailTaken target ∧ ∀ tenantId, target.tenantId = some tenantId →
        s.findTenant tenantId ≠ none
  | .createTenant command => ∃ slug, tenantSlug (command.slug.getD command.name) = .ok slug ∧
    ¬ s.tenantTaken (TenantService.createProps command (env.uuid 0) slug (env.clock 1))
  | .suspendTenant _ command => ∃ tenant, s.findTenant command.tenantId = some tenant ∧
    tenant.status ≠ .suspended ∧ ¬ s.domainTaken tenant
  | .updateRiskScore customerId tenantId score label => ∃ customer scored,
    s.findCustomer customerId tenantId = some customer ∧
      (CustomerEntity.reconstitute customer).updateRiskScore (env.header 0) score label =
        .ok scored ∧
      (s.updateCustomer customerId (Customer.write (env.clock 1) scored.row)).customers ≠
        s.customers

/-- No fault falls between the commit of an accepted change and its outbox insert. -/
def Uninterrupted (env : ServiceEnv) (s : Store) (faults : Nat → Fault)
    (command : AccountCommand) : Prop :=
  Accepted env s command → Passes faults 0 (before command) →
    Passes faults (before command).length (after command)

/-- What one operation has raised: nothing, or one event with the id of draw `k`. -/
def RaisedAt (env : ServiceEnv) (k : Nat) (events : List DomainEvent) : Prop :=
  events = [] ∨ ∃ body, events = [(env.header k).event body]

theorem RaisedAt.new {env : ServiceEnv} {s : Store} {k : Nat} {events : List DomainEvent}
    (h : RaisedAt env k events) (hfresh : FreshIds env s) :
    ∀ event ∈ events, ∀ r ∈ s.outbox, r.eventId ≠ event.eventId := by
  intro event hm r hr
  rcases h with rfl | ⟨body, rfl⟩
  · cases hm
  · rw [List.mem_singleton.mp hm]
    exact hfresh.new k r hr

theorem RaisedAt.nodup {env : ServiceEnv} {k : Nat} {events : List DomainEvent}
    (h : RaisedAt env k events) : (events.map fun event => event.eventId).Nodup := by
  rcases h with rfl | ⟨body, rfl⟩
  · exact List.nodup_nil
  · exact List.nodup_singleton _

section tail
variable {env : ServiceEnv} {faults : Nat → Fault} {n d : Nat} {s : Store}

theorem sequence_auditCreate (entry : Time → AuditLog) :
    Sequence watched false faults env n d s [.tolerant] (AuditRepository.create entry)
      fun _ _ s' => watched s' = watched s := by
  refine (sequence_draw _).bind (fun _ _ _ h => by rw [h.2.2]) ?_
  rintro time d₁ s₁ ⟨-, -, rfl⟩
  refine (Sequence.mono (sequence_swallow rfl) ?_).rethrow
  rintro u d₂ s₂ ⟨-, rfl | rfl⟩ <;> rfl

/-- A dated write of rows that are not watched. -/
theorem sequence_dated {c : Client} {kind : ServiceCall} {error : AppError}
    {f : Time → Store → Store} (hsame : ∀ time, watched (f time s) = watched s) :
    Sequence watched false faults env n d s [.strict]
      (draw ServiceEnv.clock >>= fun time => call c kind error fun s => .ok ((), f time s))
      fun _ _ s' => watched s' = watched s := by
  refine (sequence_draw _).bind (fun _ _ _ h => by rw [h.2.2]) ?_
  rintro time d₁ s₁ ⟨-, -, rfl⟩
  refine Sequence.mono (sequence_call_outside rfl) ?_
  rintro u d₂ s₂ ⟨-, -, rfl⟩
  exact hsame time

theorem sequence_activityCreate (entry : Time → ActivityLog) :
    Sequence watched false faults env n d s [.strict] (ActivityRepository.create entry)
      fun _ _ s' => watched s' = watched s :=
  sequence_dated fun _ => rfl

/-- Ending sessions is a call only when there is someone to end them. -/
theorem sequence_withRevoker {revoke : ServiceM Unit} (sessionRevoker : Bool)
    (hrevoke : Sequence watched false faults env n d s [.strict] revoke
      fun _ _ s' => watched s' = watched s) :
    Sequence watched false faults env n d s (if sessionRevoker then [.strict] else [])
      (withRevoker sessionRevoker revoke) fun _ _ s' => watched s' = watched s := by
  cases sessionRevoker with
  | true => exact hrevoke
  | false =>
    refine Sequence.mono (sequence_pure ()) ?_
    rintro u d₁ s₁ ⟨-, -, rfl⟩
    rfl

theorem sequence_revokeAllUserTokens (userId : Uuid) (reason : String) :
    Sequence watched false faults env n d s [.strict]
      (SessionRevoker.revokeAllUserTokens userId reason)
      fun _ _ s' => watched s' = watched s :=
  sequence_dated fun _ => rfl

theorem sequence_revokeAllTenantTokens (tenantId : Uuid) (reason : String) :
    Sequence watched false faults env n d s [.strict]
      (SessionRevoker.revokeAllTenantTokens tenantId reason)
      fun _ _ s' => watched s' = watched s :=
  sequence_dated fun _ => rfl

/-- Publishing after calls that leave the watched part of the store alone. -/
theorem sequence_publish {s₀ : Store} {events : List DomainEvent} {k : Nat} {stages : List Stage}
    (hstages : publishStages events = stages)
    (hsame : watched s = watched s₀) (hraised : RaisedAt env k events) (hfresh : FreshIds env s₀) :
    Sequence watched false faults env n d s stages (OutboxPublisher.publishAll events)
      fun _ _ s' => ∃ rows, List.Forall₂ RowOf events rows ∧
        watched s' = (aggregates s₀, s₀.outbox ++ rows) := by
  subst hstages
  have haggregates : aggregates s = aggregates s₀ := congrArg Prod.fst hsame
  have houtbox : s.outbox = s₀.outbox := congrArg Prod.snd hsame
  refine (sequence_publishAll (houtbox ▸ hraised.new hfresh) hraised.nodup).mono ?_
  rintro u d₁ s₁ ⟨rows, hall, rfl⟩
  refine ⟨rows, hall, ?_⟩
  rw [← haggregates, ← houtbox]
  rfl

/-- The tail of a call: sessions end, the audit row is written, the events are published. -/
theorem sequence_record {sessionRevoker : Bool} {revoke : ServiceM Unit} {entry : Time → AuditLog}
    {events : List DomainEvent} {k : Nat} {stages : List Stage}
    (hstages : publishStages events = stages)
    (hrevoke : ∀ n d s, Sequence watched false faults env n d s [.strict] revoke
      fun _ _ s' => watched s' = watched s)
    (hraised : RaisedAt env k events) (hfresh : FreshIds env s) :
    Sequence watched false faults env n d s
      ((if sessionRevoker then [.strict] else []) ++ ([.tolerant] ++ stages))
      (withRevoker sessionRevoker revoke >>= fun _ => AuditRepository.create entry >>= fun _ =>
        OutboxPublisher.publishAll events)
      fun _ _ s' => ∃ rows, List.Forall₂ RowOf events rows ∧
        watched s' = (aggregates s, s.outbox ++ rows) := by
  refine (sequence_withRevoker sessionRevoker (hrevoke _ _ _)).bind (fun _ _ _ h => h) ?_
  intro u d₁ s₁ h₁
  refine (sequence_auditCreate entry).bind (fun _ _ _ h => h) ?_
  intro u d₂ s₂ h₂
  exact sequence_publish hstages (h₂.trans h₁) hraised hfresh

end tail

section writes
variable {τ : Type} {part : Store → τ} {env : ServiceEnv} {faults : Nat → Fault} {n d : Nat}
  {s : Store}

theorem sequence_userUpdate {user row : User} (hrow : s.findUser user.id = some row)
    (hemail : ¬ s.emailTaken user)
    (htenant : ∀ tenantId, user.tenantId = some tenantId → s.findTenant tenantId ≠ none) :
    Sequence part false faults env n d s [.strict] (UserRepository.update user)
      fun updated _ s' => updated = User.write (env.clock d) user row ∧
        s' = s.updateUser user.id (User.write (env.clock d) user) := by
  refine (sequence_draw _).bind (fun _ _ _ h => by rw [h.2.2]) ?_
  rintro time d₁ s₁ ⟨rfl, -, rfl⟩
  have hok : ¬ (s₁.emailTaken user ∨
      ∃ tenantId, user.tenantId = some tenantId ∧ s₁.findTenant tenantId = none) := by
    rintro (h | ⟨tenantId, hid, hnone⟩)
    · exact hemail h
    · exact htenant tenantId hid hnone
  have hupdate : UserRepository.updateRow (env.clock d) user s₁ =
      .ok (User.write (env.clock d) user row,
        s₁.updateUser user.id (User.write (env.clock d) user)) := by
    simp only [UserRepository.updateRow, hrow, hok, if_false]
  refine Sequence.mono (sequence_call_outside hupdate) ?_
  rintro updated d₂ s₂ ⟨rfl, -, rfl⟩
  exact ⟨rfl, rfl⟩

theorem sequence_tenantSave {tenant : Tenant}
    (hfree : ¬ s.tenantTaken (tenant.storedAt (env.clock d))) :
    Sequence part false faults env n d s [.strict] (TenantRepository.save tenant)
      fun saved _ s' => saved = tenant.storedAt (env.clock d) ∧ s' = s.insertTenant saved := by
  refine (sequence_draw _).bind (fun _ _ _ h => by rw [h.2.2]) ?_
  rintro time d₁ s₁ ⟨rfl, -, rfl⟩
  refine Sequence.mono (sequence_call_outside (if_neg hfree)) ?_
  rintro saved d₂ s₂ ⟨rfl, -, rfl⟩
  exact ⟨rfl, rfl⟩

theorem sequence_customerUpdate {customer row : Customer}
    (hrow : (s.customers.find? fun row => row.id = customer.id) = some row) :
    Sequence part false faults env n d s [.strict] (CustomerRepository.update customer)
      fun _ _ s' => s' = s.updateCustomer customer.id (Customer.write (env.clock d) customer) := by
  refine (sequence_draw _).bind (fun _ _ _ h => by rw [h.2.2]) ?_
  rintro time d₁ s₁ ⟨rfl, -, rfl⟩
  have hupdate : CustomerRepository.updateRow (env.clock d) customer s₁ =
      .ok (Customer.write (env.clock d) customer row,
        s₁.updateCustomer customer.id (Customer.write (env.clock d) customer)) := by
    simp only [CustomerRepository.updateRow, hrow]
  refine Sequence.mono (sequence_call_outside hupdate) ?_
  rintro u d₂ s₂ ⟨-, -, rfl⟩
  rfl

/-- The locked read and the update. -/
theorem sequence_tenantUpdateLocked {tenant row : Tenant}
    (hrow : s.findTenant tenant.id = some row) (hdomain : ¬ s.domainTaken tenant) :
    Sequence part true faults env n d s [.strict, .strict]
      (TenantRepository.updateLocked tenant) fun _ _ s' => s' = s.updateTenant tenant.id
        (Tenant.write (env.clock d) (TenantRepository.withStoredFlags (some row) tenant)) := by
  refine Sequence.bind (sequence_read fun _ => rfl) (fun _ _ _ h => by rw [h.2.2]) ?_
  rintro current d₁ s₁ ⟨rfl, rfl, rfl⟩
  refine (sequence_draw _).bind (fun _ _ _ h => by rw [h.2.2]) ?_
  rintro time d₂ s₂ ⟨rfl, -, rfl⟩
  have hupdate : TenantRepository.updateRow (env.clock d₁)
      (TenantRepository.withStoredFlags (s₂.findTenant tenant.id) tenant) s₂ =
      .ok (Tenant.write (env.clock d₁) (TenantRepository.withStoredFlags (some row) tenant) row,
        s₂.updateTenant tenant.id (Tenant.write (env.clock d₁)
          (TenantRepository.withStoredFlags (some row) tenant))) := by
    have hfree : ¬ s₂.domainTaken (TenantRepository.withStoredFlags (some row) tenant) := hdomain
    have hid : (TenantRepository.withStoredFlags (some row) tenant).id = tenant.id := rfl
    simp only [hrow, TenantRepository.updateRow, hid, hfree, if_false]
  refine Sequence.mono (sequence_call (fun _ => rfl) hupdate) ?_
  rintro updated d₃ s₃ ⟨-, -, rfl⟩
  rfl

/-- The locked read, the update and the commit. -/
theorem sequence_tenantUpdate {tenant row : Tenant} (hrow : s.findTenant tenant.id = some row)
    (hdomain : ¬ s.domainTaken tenant) :
    Sequence part false faults env n d s [.strict, .strict, .strict]
      (TenantRepository.update tenant)
      fun _ _ s' => s' = s.updateTenant tenant.id
        (Tenant.write (env.clock d) (TenantRepository.withStoredFlags (some row) tenant)) :=
  sequence_transaction (inside_tenantUpdateLocked tenant) (sequence_tenantUpdateLocked hrow hdomain)

end writes
section phases
variable {env : ServiceEnv} {s : Store} (faults : Nat → Fault)

/-- A row found within a tenant is found by its id alone, if not in the same place. -/
theorem findUser_of_findUserIn {id : Uuid} {tenantId : Option Uuid} {target : User}
    (h : s.findUserIn id tenantId = some target) : ∃ row, s.findUser target.id = some row := by
  have hmem := List.mem_of_find?_eq_some h
  have hsome : (s.findUser target.id).isSome := by
    rw [Store.findUser, List.find?_isSome]
    exact ⟨target, hmem, by simp⟩
  exact Option.isSome_iff_exists.mp hsome

theorem roleChanged_row (dto : ChangeRoleDto) (target : User) (newRole : UserRole)
    (header : EventHeader) : (UserService.roleChanged dto target newRole header).row =
      { target with role := newRole } := by
  simp only [UserService.roleChanged, UserEntity.changeRole, UserEntity.reconstitute]
  by_cases h : target.role = newRole
  · subst h
    simp only [if_true]
  · simp only [h, if_false]

/-- The event of a role change; there is none when the role stays. -/
theorem roleChanged_events (dto : ChangeRoleDto) (target : User) (newRole : UserRole)
    (header : EventHeader) : (UserService.roleChanged dto target newRole header).events =
      if target.role = newRole then [] else [header.event (.userRoleChanged target.id
        target.tenantId target.role newRole (some dto.userId) (some dto.actorRole))] := by
  simp only [UserService.roleChanged, UserEntity.changeRole, UserEntity.reconstitute]
  by_cases h : target.role = newRole
  · simp only [h, if_true]
  · simp only [h, if_false, List.nil_append]

theorem phases_changeRole (sessionRevoker : Bool) {dto : ChangeRoleDto} {target : User}
    {newRole : UserRole} (hfresh : FreshIds env s)
    (htarget : s.findUserIn dto.targetUserId dto.tenantId = some target)
    (hrole : UserRole.create dto.newRole = .ok newRole)
    (hallowed : (UserService.roleDecision dto target newRole).allowed = true)
    (hemail : ¬ s.emailTaken target)
    (htenant : ∀ tenantId, target.tenantId = some tenantId → s.findTenant tenantId ≠ none) :
    let change := roleChange dto target newRole (env.header 0) (env.clock 1)
    Phases watched faults env 0 0 s [.strict, .strict]
      ((if sessionRevoker && target.role ≠ newRole then [.strict] else []) ++
        ([.tolerant] ++ publishStages change.raised))
      (UserService.changeRole sessionRevoker dto)
      (fun t => watched t = watched (change.rows s)) (Both change s) := by
  intro change
  obtain ⟨row, hrow⟩ := findUser_of_findUserIn htarget
  refine phases_bind sequence_read_outside ?_
  rintro found d₁ s₁ ⟨rfl, rfl, rfl⟩
  refine ⟨rfl, phases_bind_nil (sequence_lift (by rw [htarget]; rfl)) ?_⟩
  rintro target d₂ s₂ ⟨rfl, rfl, rfl⟩
  refine ⟨rfl, phases_bind_nil (sequence_lift hrole) ?_⟩
  rintro newRole d₃ s₃ ⟨rfl, rfl, rfl⟩
  refine ⟨rfl, phases_bind_nil (sequence_lift (if_pos hallowed)) ?_⟩
  rintro u d₄ s₄ ⟨-, rfl, rfl⟩
  refine ⟨rfl, phases_bind_nil (sequence_draw _) ?_⟩
  rintro header d₅ s₅ ⟨rfl, rfl, rfl⟩
  have hchanged := roleChanged_row dto target newRole (env.header 0)
  have hevents := roleChanged_events dto target newRole (env.header 0)
  have hfound : s₅.findUser (UserService.roleChanged dto target newRole (env.header 0)).row.id =
      some row := by rw [hchanged, hrow]
  have hupdate : Sequence watched false faults env 1 1 s₅ [.strict]
      (UserRepository.update (UserService.roleChanged dto target newRole (env.header 0)).row)
      fun updated _ s' => updated.role = newRole ∧ s' = change.rows s₅ := by
    refine Sequence.mono (sequence_userUpdate hfound ?_ ?_) ?_
    · rw [hchanged]
      exact hemail
    · rw [hchanged]
      exact htenant
    · rintro updated d₆ s₆ ⟨rfl, rfl⟩
      refine ⟨?_, ?_⟩
      · rw [hchanged]
        rfl
      · simp only [change, roleChange, hchanged]
  refine ⟨rfl, phases_write hupdate ?_⟩
  rintro updated d₆ s₆ ⟨hrole, rfl⟩
  have hraised : RaisedAt env 0
      (UserService.roleChanged dto target newRole (env.header 0)).events := by
    rw [hevents]
    by_cases h : target.role = newRole
    · exact Or.inl (if_pos h)
    · exact Or.inr ⟨_, if_neg h⟩
  have hfresh' : FreshIds env (change.rows s₅) := ⟨hfresh.injective, hfresh.new⟩
  refine ⟨fun t ht => ht, ?_⟩
  simp only [UserService.recordRoleChange, hrole]
  refine Sequence.mono
    (sequence_record rfl (fun n d s => sequence_revokeAllUserTokens target.id "ROLE_CHANGED")
      hraised hfresh') ?_
  rintro u d₇ s₇ ⟨rows, hall, hwatched⟩
  exact ⟨rows, hall, hwatched⟩

theorem sequence_requireFreeDomain {n d : Nat} {domain : Option String}
    (hfree : ∀ name, domain = some name → s.tenantsWithDomain name = 0) :
    Sequence watched false faults env n d s (domainStages domain)
      (TenantService.requireFreeDomain domain) fun _ d' s' => d' = d ∧ s' = s := by
  have hnothing : Sequence watched false faults env n d s [] (pure () : ServiceM Unit)
      fun _ d' s' => d' = d ∧ s' = s := Sequence.mono (sequence_pure ()) fun _ _ _ h => h.2
  cases domain with
  | none => exact hnothing
  | some name =>
    simp only [domainStages, TenantService.requireFreeDomain]
    split
    · exact hnothing
    · refine Sequence.bind sequence_read_outside (fun _ _ _ h => by rw [h.2.2]) ?_
      rintro taken d₁ s₁ ⟨rfl, rfl, rfl⟩
      have hfree' : require (!decide (0 < s₁.tenantsWithDomain name))
          (.conflict "Domain already registered") = .ok () := if_pos (by simp [hfree name rfl])
      exact (sequence_lift hfree').mono fun _ _ _ h => h.2

theorem phases_createTenant {command : CreateTenantCommand} {slug : String}
    (hfresh : FreshIds env s) (hslug : tenantSlug (command.slug.getD command.name) = .ok slug)
    (hfree : ¬ s.tenantTaken (TenantService.createProps command (env.uuid 0) slug (env.clock 1))) :
    let change := tenantCreation command (env.uuid 0) slug (env.clock 1) (env.header 2)
      (env.clock 3)
    Phases watched faults env 0 0 s ([.strict] ++ (domainStages command.domain ++ [.strict]))
      [.tolerant, .strict] (TenantService.createTenant command)
      (fun t => watched t = watched (change.rows s)) (Both change s) := by
  intro change
  have hnoSlug : s.tenantsWithSlug slug = 0 :=
    Table.count_eq_zero.mpr fun tenant hm he => hfree ⟨tenant, hm, Or.inr (Or.inl he)⟩
  have hnoDomain : ∀ name, command.domain = some name → s.tenantsWithDomain name = 0 := by
    intro name hname
    refine Table.count_eq_zero.mpr fun tenant hm he => hfree ⟨tenant, hm, Or.inr (Or.inr ?_)⟩
    exact ⟨by simp [TenantService.createProps, hname], he.trans hname.symm⟩
  have hslugFree : require (!decide (0 < s.tenantsWithSlug slug))
      (.conflict "Organization slug already taken") = .ok () := if_pos (by simp [hnoSlug])
  refine phases_bind_nil (sequence_lift hslug) ?_
  rintro slug d₁ s₁ ⟨rfl, rfl, rfl⟩
  refine ⟨rfl, phases_bind sequence_read_outside ?_⟩
  rintro taken d₂ s₂ ⟨rfl, rfl, rfl⟩
  refine ⟨rfl, phases_bind_nil (sequence_lift hslugFree) ?_⟩
  rintro u d₃ s₃ ⟨-, rfl, rfl⟩
  refine ⟨rfl, phases_bind (sequence_requireFreeDomain faults hnoDomain) ?_⟩
  rintro u d₄ s₄ ⟨rfl, rfl⟩
  refine ⟨rfl, phases_bind_nil (sequence_draw _) ?_⟩
  rintro id d₅ s₅ ⟨rfl, rfl, rfl⟩
  refine ⟨rfl, phases_bind_nil (sequence_draw _) ?_⟩
  rintro createdAt d₆ s₆ ⟨rfl, rfl, rfl⟩
  refine ⟨rfl, phases_bind_nil (sequence_draw _) ?_⟩
  rintro header d₇ s₇ ⟨rfl, rfl, rfl⟩
  refine ⟨rfl, phases_write (sequence_tenantSave hfree) ?_⟩
  rintro saved d₈ s₈ ⟨rfl, rfl⟩
  have hstages : publishStages change.raised = [.strict] := if_neg (List.cons_ne_nil _ _)
  have hraised : RaisedAt env 2 change.raised := Or.inr ⟨_, rfl⟩
  have hfresh' : FreshIds env (change.rows s₇) := ⟨hfresh.injective, hfresh.new⟩
  refine ⟨fun t ht => ht, (sequence_auditCreate _).bind (fun _ _ _ h => h) ?_⟩
  intro u d₉ s₉ h₉
  refine Sequence.mono (sequence_publish hstages h₉ hraised hfresh') ?_
  rintro u d₁₀ s₁₀ ⟨rows, hall, hwatched⟩
  exact ⟨rows, hall, hwatched⟩

/-- A suspended tenant with the event of its suspension. -/
theorem suspend_ok {tenant : Tenant} {suspendedAt : Time} {header : EventHeader} {reason : String}
    {suspended : TenantEntity}
    (h : (TenantEntity.reconstitute tenant).suspend suspendedAt header reason = .ok suspended) :
    suspended =
      ⟨{ tenant with
          status := .suspended
          suspendedAt := some suspendedAt
          suspendedReason := some reason },
        [header.event (.tenantSuspended tenant.id reason)]⟩ := by
  simp only [TenantEntity.suspend, TenantEntity.reconstitute, List.nil_append] at h
  by_cases hstatus : tenant.status = .suspended
  · simp only [hstatus, if_true, reduceCtorEq] at h
  · simp only [hstatus, if_false, Except.ok.injEq] at h
    exact h.symm

theorem phases_suspendTenant (sessionRevoker : Bool) {command : SuspendTenantCommand}
    {tenant : Tenant} {suspended : TenantEntity} (hfresh : FreshIds env s)
    (htenant : s.findTenant command.tenantId = some tenant)
    (hsuspended : (TenantEntity.reconstitute tenant).suspend (env.clock 0) (env.header 1)
      command.reason = .ok suspended) (hdomain : ¬ s.domainTaken tenant) :
    let change := suspension tenant suspended (env.clock 2)
    Phases watched faults env 0 0 s [.strict, .strict, .strict, .strict]
      ((if sessionRevoker then [.strict] else []) ++ [.tolerant, .strict])
      (TenantService.suspendTenant sessionRevoker command)
      (fun t => watched t = watched (change.rows s)) (Both change s) := by
  intro change
  have hshape := suspend_ok hsuspended
  have hid : tenant.id = command.tenantId := by
    simpa using List.find?_some htenant
  have hfound : s.findTenant suspended.row.id = some tenant := by
    rw [hshape]
    exact hid ▸ htenant
  refine phases_bind sequence_read_outside ?_
  rintro found d₁ s₁ ⟨rfl, rfl, rfl⟩
  refine ⟨rfl, phases_bind_nil (sequence_lift (by rw [htenant]; rfl)) ?_⟩
  rintro tenant d₂ s₂ ⟨rfl, rfl, rfl⟩
  refine ⟨rfl, phases_bind_nil (sequence_draw _) ?_⟩
  rintro suspendedAt d₃ s₃ ⟨rfl, rfl, rfl⟩
  refine ⟨rfl, phases_bind_nil (sequence_draw _) ?_⟩
  rintro header d₄ s₄ ⟨rfl, rfl, rfl⟩
  refine ⟨rfl, phases_bind_nil (sequence_lift hsuspended) ?_⟩
  rintro suspended d₅ s₅ ⟨rfl, rfl, rfl⟩
  have hfree : ¬ s₅.domainTaken suspended.row := by
    rw [hshape]
    exact hdomain
  have hrows : s₅.updateTenant suspended.row.id (Tenant.write (env.clock 2)
      (TenantRepository.withStoredFlags (some tenant) suspended.row)) = change.rows s₅ := by
    rw [show suspended.row.id = tenant.id by rw [hshape]]
    rfl
  have hraises : suspended.events ≠ [] := by
    rw [hshape]
    exact List.cons_ne_nil _ _
  have hraised : RaisedAt env 1 suspended.events := by
    rw [hshape]
    exact Or.inr ⟨_, rfl⟩
  have hfresh' : FreshIds env (change.rows s₅) := ⟨hfresh.injective, hfresh.new⟩
  refine ⟨rfl, phases_write (sequence_tenantUpdate hfound hfree) ?_⟩
  rintro updated d₆ s₆ rfl
  rw [hrows]
  refine ⟨fun t ht => ht, ?_⟩
  refine Sequence.mono (sequence_record (if_neg hraises)
    (fun n d s => sequence_revokeAllTenantTokens _ _) hraised hfresh') ?_
  rintro u d₇ s₇ ⟨rows, hall, hwatched⟩
  exact ⟨rows, hall, hwatched⟩

/-- A scored customer keeps its id and raises one event. -/
theorem updateRiskScore_ok {customer : Customer} {header : EventHeader} {score : JsNumber}
    {label : String} {scored : CustomerEntity}
    (h : (CustomerEntity.reconstitute customer).updateRiskScore header score label = .ok scored) :
    scored.row.id = customer.id ∧ ∃ body, scored.events = [header.event body] := by
  obtain ⟨riskScore, -, hok⟩ := bind_eq_ok.mp h
  cases hok
  exact ⟨rfl, _, rfl⟩

theorem phases_updateRiskScore {customerId tenantId : Uuid} {score : JsNumber} {label : String}
    {customer : Customer} {scored : CustomerEntity} (hfresh : FreshIds env s)
    (hcustomer : s.findCustomer customerId tenantId = some customer)
    (hscored : (CustomerEntity.reconstitute customer).updateRiskScore (env.header 0) score label =
      .ok scored) :
    let change := riskChange scored (env.clock 1)
    Phases watched faults env 0 0 s [.strict, .strict] [.strict, .strict]
      (CustomerService.updateRiskScore customerId tenantId score label)
      (fun t => watched t = watched (change.rows s)) (Both change s) := by
  intro change
  obtain ⟨hid, body, hevents⟩ := updateRiskScore_ok hscored
  have hraises : publishStages scored.events = [.strict] := by
    rw [hevents]
    exact if_neg (List.cons_ne_nil _ _)
  have hraised : RaisedAt env 0 scored.events := Or.inr ⟨body, hevents⟩
  have hfresh' : FreshIds env (change.rows s) := ⟨hfresh.injective, hfresh.new⟩
  have hstored : ∃ c ∈ s.customers, c.id = scored.row.id :=
    ⟨customer, List.mem_of_find?_eq_some hcustomer, hid.symm⟩
  obtain ⟨row, hrow⟩ : ∃ row, (s.customers.find? fun row => row.id = scored.row.id) = some row := by
    rw [← Option.isSome_iff_exists, List.find?_isSome]
    obtain ⟨c, hm, hc⟩ := hstored
    exact ⟨c, hm, by simpa using hc⟩
  refine phases_bind sequence_read_outside ?_
  rintro found d₁ s₁ ⟨rfl, rfl, rfl⟩
  refine ⟨rfl, phases_bind_nil (sequence_lift (by rw [hcustomer]; rfl)) ?_⟩
  rintro customer d₂ s₂ ⟨rfl, rfl, rfl⟩
  refine ⟨rfl, phases_bind_nil (sequence_draw _) ?_⟩
  rintro header d₃ s₃ ⟨rfl, rfl, rfl⟩
  refine ⟨rfl, phases_bind_nil (sequence_lift hscored) ?_⟩
  rintro scored d₄ s₄ ⟨rfl, rfl, rfl⟩
  refine ⟨rfl, phases_write (sequence_customerUpdate hrow) ?_⟩
  rintro u d₅ s₅ rfl
  refine ⟨fun t ht => ht, (sequence_activityCreate _).bind (fun _ _ _ h => h) ?_⟩
  intro u d₆ s₆ h₆
  refine Sequence.mono (sequence_publish hraises h₆ hraised hfresh').bind_pure ?_
  rintro updated d₇ s₇ ⟨rows, hall, hwatched⟩
  exact ⟨rows, hall, hwatched⟩

end phases

end OmniSupport.Identity
