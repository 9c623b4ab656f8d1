import OmniSupport.Identity.AccountEvents
import OmniSupport.Identity.StaffLifecycle
import OmniSupport.Auth.AuthService

/-! The calls that change an account and then end its sessions, in a statement of its own
after the commit: what each commits, and where it can be cut short. -/
namespace OmniSupport.Identity
open Foundation Database Effect Auth

/-- A password reset, a deactivation, a removal, a role change and a suspension. -/
inductive SecurityCommand where
  | resetPassword (token newPassword : String) (ipAddress : Option String)
  | deactivate (tenantId actorId userId : Uuid)
  | removeStaff (input : RemoveInput)
  | changeRole (dto : ChangeRoleDto)
  | suspendTenant (command : SuspendTenantCommand)

def performSecurity (crypto : AuthCrypto) : SecurityCommand → ServiceM Unit
  | .resetPassword token newPassword ipAddress =>
    AuthService.resetPassword crypto token newPassword ipAddress
  | .deactivate tenantId actorId userId =>
    StaffLifecycleService.setActive ⟨tenantId, actorId, userId, false⟩
  | .removeStaff input => StaffLifecycleService.remove input
  | .changeRole dto => UserService.changeRole true dto
  | .suspendTenant command => TenantService.suspendTenant true command

/-- The store with the change committed, and the tokens of the users it affects. -/
structure Committed where
  store : Store
  affects : RefreshToken String → Prop

def resetCommitted (crypto : AuthCrypto) (env : ServiceEnv) (s : Store)
    (token : PasswordResetToken) (newPassword : String) : Committed where
  store :=
    (s.updateUser token.userId (AuthService.passwordReset
      (crypto.hashPassword newPassword 1) (env.clock 2))).useResetToken token.id (env.clock 3)
  affects stored := stored.userId = token.userId

def deactivated (env : ServiceEnv) (s : Store) (target : User) : Committed where
  store := s.updateUser target.id (StaffLifecycleService.withStatus false (env.clock 0))
  affects stored := stored.userId = target.id

def staffRemoved (env : ServiceEnv) (s : Store) (input : RemoveInput) : Committed where
  store :=
    (((s.reassignTickets input.tenantId input.userId input.replacementAgentId
      (env.clock 0)).reassignCustomers input.tenantId input.userId input.replacementAgentId
      (env.clock 1)).deleteMembershipsOf input.userId input.tenantId).updateUser input.userId
      (StaffLifecycleService.removed (env.clock 2) (env.clock 3))
  affects stored := stored.userId = input.userId

def roleCommitted (env : ServiceEnv) (s : Store) (dto : ChangeRoleDto) (target : User)
    (newRole : UserRole) : Committed where
  store := (roleChange dto target newRole (env.header 0) (env.clock 1)).rows s
  affects stored := stored.userId = target.id

def tenantSuspended (env : ServiceEnv) (s : Store) (tenant : Tenant) (suspended : TenantEntity) :
    Committed where
  store := (suspension tenant suspended (env.clock 2)).rows s
  affects stored := (s.findUser stored.userId).bind User.tenantId = some tenant.id

/-- The checks of the call let it commit this. -/
inductive Commits (crypto : AuthCrypto) (env : ServiceEnv) (s : Store) :
    SecurityCommand → Committed → Prop
  | resetPassword (text newPassword : String) (ipAddress : Option String)
      (token : PasswordResetToken)
      (htoken : AuthService.usableReset (s.findUnusedReset (crypto.sha256 text)) (env.clock 0) =
        .ok token)
      (hpassword : Password.create newPassword = .ok ())
      (huser : (s.findUser token.userId).isSome = true) :
      Commits crypto env s (.resetPassword text newPassword ipAddress)
        (resetCommitted crypto env s token newPassword)
  | deactivate (tenantId actorId userId : Uuid) (target : User) (hactor : actorId ≠ userId)
      (htarget : s.findAgent userId tenantId = some target) :
      Commits crypto env s (.deactivate tenantId actorId userId) (deactivated env s target)
  | removeStaff (input : RemoveInput) (target : User) (hactor : input.actorId ≠ input.userId)
      (hother : input.replacementAgentId ≠ some input.userId)
      (htarget : s.findAgent input.userId input.tenantId = some target)
      (hreplacement : ∀ id ∈ input.replacementAgentId,
        (s.findActiveAgent id input.tenantId).isSome = true) :
      Commits crypto env s (.removeStaff input) (staffRemoved env s input)
  | changeRole (dto : ChangeRoleDto) (target : User) (newRole : UserRole)
      (hallowed : RoleChangeAllowed s dto target newRole) :
      Commits crypto env s (.changeRole dto) (roleCommitted env s dto target newRole)
  | suspendTenant (command : SuspendTenantCommand) (tenant : Tenant) (suspended : TenantEntity)
      (htenant : s.findTenant command.tenantId = some tenant)
      (hsuspended : (TenantEntity.reconstitute tenant).suspend (env.clock 0) (env.header 1)
        command.reason = .ok suspended)
      (hdomain : ¬ s.domainTaken tenant) :
      Commits crypto env s (.suspendTenant command) (tenantSuspended env s tenant suspended)

/-- The role asked for is another one. -/
def ToAnotherRole (s : Store) : SecurityCommand → Prop
  | .changeRole dto => ∀ target newRole, s.findUserIn dto.targetUserId dto.tenantId = some target →
      UserRole.create dto.newRole = .ok newRole → target.role ≠ newRole
  | _ => True

/-- The awaited calls up to the one that commits; the revocation is the next. -/
def commitStages : SecurityCommand → List Stage
  | .resetPassword .. => [.strict, .strict, .strict, .strict, .strict]
  | .deactivate .. | .changeRole .. => [.strict, .strict]
  | .removeStaff input =>
    [.strict] ++ ((if input.replacementAgentId.isSome then [.strict] else []) ++
      [.strict, .strict, .strict, .strict, .strict])
  | .suspendTenant .. => [.strict, .strict, .strict, .strict]

def accountRows (s : Store) : List User × List Tenant := (s.users, s.tenants)

/-- The users, the tenants and their sessions. -/
def accounts (s : Store) : (List User × List Tenant) × List (RefreshToken String) :=
  (accountRows s, s.refreshTokens)

def sessionIds (s : Store) : List Uuid := s.refreshTokens.map RefreshToken.id

/-- The change is stored, there are no new sessions, and the live ones are old ones of
other users. -/
def Revoked (change : Committed) (t : Store) : Prop :=
  accountRows t = accountRows change.store ∧ sessionIds t = sessionIds change.store ∧
    ∀ stored ∈ t.refreshTokens, stored.isRevoked = false →
      ¬ change.affects stored ∧ stored ∈ change.store.refreshTokens

/-- Nothing has changed, or the change is stored with the sessions ended. -/
def SessionsEnd (crypto : AuthCrypto) (env : ServiceEnv) (s : Store) (command : SecurityCommand)
    (t : Store) : Prop :=
  accountRows t = accountRows s ∨ ∃ change, Commits crypto env s command change ∧ Revoked change t

/-- The change of a row is committed, a session of an affected user is live, and the
revocation does not take place. -/
def RevocationCut (crypto : AuthCrypto) (env : ServiceEnv) (s : Store) (faults : Nat → Fault)
    (command : SecurityCommand) : Prop :=
  ∃ change, Commits crypto env s command change ∧ Passes faults 0 (commitStages command) ∧
    faults (commitStages command).length ≠ .none ∧
    accountRows change.store ≠ accountRows s ∧
    ∃ stored ∈ s.refreshTokens, change.affects stored ∧ stored.isRevoked = false

section revoking
variable {env : ServiceEnv} {faults : Nat → Fault} {n d : Nat} {s t : Store}

/-- What is live after the revocation of the tokens `p` selects was there before. -/
theorem live_of_revokeTokens {p : RefreshToken String → Prop} [DecidablePred p] {time : Time}
    {reason : String} {stored : RefreshToken String}
    (hm : stored ∈ (s.revokeTokens p time reason).refreshTokens)
    (hlive : stored.isRevoked = false) : ¬ p stored ∧ stored ∈ s.refreshTokens := by
  rcases Table.mem_updateMany.mp hm with ⟨old, -, -, rfl⟩ | ⟨hold, hno⟩
  · cases hlive
  · exact ⟨fun hstored => hno ⟨hstored, hlive⟩, hold⟩

theorem sessionIds_revokeTokens {p : RefreshToken String → Prop} [DecidablePred p] {time : Time}
    {reason : String} : sessionIds (s.revokeTokens p time reason) = sessionIds s :=
  Table.map_updateMany fun _ => rfl

variable {change : Committed}

theorem Revoked.of_accounts (h : Revoked change s) (hsame : accounts t = accounts s) :
    Revoked change t := by
  obtain ⟨hrows, hids, htokens⟩ := h
  have haccounts : accountRows t = accountRows s := congrArg Prod.fst hsame
  have hstored : t.refreshTokens = s.refreshTokens := congrArg Prod.snd hsame
  have hsameIds : sessionIds t = sessionIds s := congrArg (List.map RefreshToken.id) hstored
  exact ⟨haccounts.trans hrows, hsameIds.trans hids,
    fun stored hm => htokens stored (hstored ▸ hm)⟩

/-- Calls after the revocation that write neither accounts nor sessions. -/
theorem phases_revoke {revoke : ServiceM Unit} {rest : Unit → ServiceM Unit} {Mid : Store → Prop}
    (hrevoke : Sequence accounts false faults env n d s [.strict] revoke
      fun _ _ s' => Revoked change s')
    (hrest : ∀ d' s', Revoked change s' → Ends env d' s' (fun _ _ => Revoked change)
      (Revoked change) (rest ())) :
    Phases accounts faults env n d s [.strict] [] (revoke >>= rest) Mid (Revoked change) :=
  phases_last hrevoke fun _ d' s' h => hrest d' s' h

/-- The revocation of the tokens that the change affects. -/
theorem sequence_revoked {p : Store → Auth.RefreshToken String → Prop}
    [∀ s, DecidablePred (p s)] {reason : String}
    (haffects : ∀ stored, change.affects stored ↔ p s stored) (hsame : s = change.store) :
    Sequence accounts false faults env n d s [.strict] (do
      let now ← draw ServiceEnv.clock
      Effect.modify .root .refreshTokenUpdateMany .database fun s =>
        s.revokeTokens (p s) now reason : ServiceM Unit)
      fun _ _ s' => Revoked change s' := by
  refine (sequence_draw _).bind (fun _ _ _ h => by rw [h.2.2]) ?_
  rintro time d₁ s₁ ⟨-, -, rfl⟩
  refine Sequence.mono (sequence_call_outside rfl) ?_
  rintro u d₂ s₂ ⟨-, -, rfl⟩
  have hrows : accountRows s₁ = accountRows change.store := congrArg accountRows hsame
  have hids : sessionIds s₁ = sessionIds change.store := congrArg sessionIds hsame
  refine ⟨hrows, sessionIds_revokeTokens.trans hids, fun stored hm hlive => ?_⟩
  obtain ⟨hother, hold⟩ := live_of_revokeTokens hm hlive
  exact ⟨fun haffected => hother ((haffects stored).mp haffected), hsame ▸ hold⟩

theorem sequence_revokeUser {userId : Uuid} {reason : String}
    (haffects : ∀ stored, change.affects stored ↔ stored.userId = userId)
    (hsame : s = change.store) :
    Sequence accounts false faults env n d s [.strict]
      (SessionRevoker.revokeAllUserTokens userId reason) fun _ _ s' => Revoked change s' :=
  sequence_revoked (p := fun _ stored => stored.userId = userId) haffects hsame

theorem sequence_revokeTenant {tenantId : Uuid} {reason : String}
    (haffects : ∀ stored, change.affects stored ↔
      (s.findUser stored.userId).bind User.tenantId = some tenantId)
    (hsame : s = change.store) :
    Sequence accounts false faults env n d s [.strict]
      (SessionRevoker.revokeAllTenantTokens tenantId reason) fun _ _ s' => Revoked change s' :=
  sequence_revoked
    (p := fun s stored => (s.findUser stored.userId).bind User.tenantId = some tenantId) haffects
    hsame

theorem ends_revoked_audit {entry : Time → AuditLog} (h : Revoked change s) :
    Ends env d s (fun _ _ => Revoked change) (Revoked change) (AuditRepository.create entry) :=
  ends_auditCreate h fun _ => h.of_accounts rfl

theorem ends_revoked_publish {events : List DomainEvent} (h : Revoked change s) :
    Ends env d s (fun _ _ => Revoked change) (Revoked change)
      (OutboxPublisher.publishAll events) := by
  refine ends_publishAll h fun rows => ?_
  obtain ⟨outbox, hrows⟩ := enqueueMany_outbox (s := s) rows
  rw [hrows]
  exact h.of_accounts rfl

end revoking

end OmniSupport.Identity
