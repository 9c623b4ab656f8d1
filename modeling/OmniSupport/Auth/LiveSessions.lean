import OmniSupport.Auth.AccountCalls

/-! Sequences of calls that open sessions and of calls that disable or enable accounts:
no session of a disabled account is live as long as every login refuses inactive accounts
and no revocation is cut. -/
namespace OmniSupport.Auth
open Foundation Database Effect Identity

inductive SessionCommand where
  | login (dto : LoginDto)
  | googleLogin (client : GoogleClient) (code : String) (ipAddress userAgent : Option String)
  | rotateRefreshToken (oldRefreshToken : String) (ipAddress userAgent : Option String)
  | setActive (input : SetActiveInput)
  | remove (input : RemoveInput)
  | accept (input : AcceptInput)
  | suspendTenant (command : SuspendTenantCommand)
  | restoreTenant (command : TenantService.RestoreTenantCommand)

/-- A call, with the values it draws from a clock that does not run backwards, and what
becomes of its awaited calls. -/
structure SessionCall where
  command : SessionCommand
  env : ServiceEnv
  faults : Nat → Fault
  forward : Monotone env.clock

def performSession (crypto : AuthCrypto) (call : SessionCall) (s : Store) : Store :=
  let committed {α : Type} (program : ServiceM α) : Store :=
    (program.run call.env call.faults (World.start s)).2.committed
  match call.command with
  | .login dto => committed (AuthService.login crypto dto)
  | .googleLogin client code ipAddress userAgent =>
    committed (OAuthService.handleGoogleCallback crypto client code ipAddress userAgent)
  | .rotateRefreshToken oldRefreshToken ipAddress userAgent =>
    committed (TokenService.rotateRefreshToken crypto oldRefreshToken ipAddress userAgent)
  | .setActive input => committed (StaffLifecycleService.setActive input)
  | .remove input => committed (StaffLifecycleService.remove input)
  | .accept input => committed (InvitationService.accept crypto input)
  | .suspendTenant command => committed (TenantService.suspendTenant true command)
  | .restoreTenant command => committed (TenantService.restoreTenant command)

/-- One call after the other; what a call leaves is what it has committed. -/
def sessionCalls (crypto : AuthCrypto) : Machine Store SessionCall where
  step s call := some (performSession crypto call s)

/-- No session is opened for an inactive account, and no revocation is cut. -/
def KeepsSessions (crypto : AuthCrypto) (s : Store) (call : SessionCall) : Prop :=
  match call.command with
  | .login dto => ∀ user, ¬ OpensInactive crypto call.env s call.faults dto user
  | .setActive input => input.active = false →
    ¬ RevocationCut crypto call.env s call.faults
      (.deactivate input.tenantId input.actorId input.userId)
  | .remove input => ¬ RevocationCut crypto call.env s call.faults (.removeStaff input)
  | .suspendTenant command => ¬ RevocationCut crypto call.env s call.faults (.suspendTenant command)
  | _ => True

section step
variable {crypto : AuthCrypto} {env : ServiceEnv} {faults : Nat → Fault} {s t : Store}
  {command : SecurityCommand}

/-- The changes that disable an account or a tenant. -/
def Disables : SecurityCommand → Prop
  | .deactivate .. | .removeStaff _ | .suspendTenant _ => True
  | .resetPassword .. | .changeRole _ => False

theorem held_of_revoked {change : Committed} (hs : SessionsSound s) (hdisables : Disables command)
    (hcommits : Commits crypto env s command change) (h : Revoked change t) : Held s t := by
  obtain ⟨hrows, hids, hlive⟩ := h
  cases hcommits with
  | resetPassword => cases hdisables
  | changeRole => cases hdisables
  | deactivate tenantId actorId userId target hactor htarget =>
    have hid : ∀ row, (StaffLifecycleService.withStatus false (env.clock 0) row).id = row.id :=
      fun _ => rfl
    exact Held.of_disabledUser hs hid (fun _ => rfl) hrows hids hlive
  | removeStaff input target hactor hother htarget hreplacement =>
    have hid : ∀ row, (StaffLifecycleService.removed (env.clock 2) (env.clock 3) row).id =
        row.id := fun _ => rfl
    exact Held.of_disabledUser hs hid (fun _ => rfl) hrows hids hlive
  | suspendTenant command tenant suspended htenant hsuspended hdomain =>
    have hid : ∀ row, (Tenant.write (env.clock 2)
        (TenantRepository.withStoredFlags (some tenant) suspended.row) row).id = row.id :=
      fun _ => rfl
    exact Held.of_suspendedTenant hs hid hrows hids hlive

theorem security_keeps (hs : SessionsSound s) (hdisables : Disables command)
    (hcut : ¬ RevocationCut crypto env s faults command) :
    Kept s ((performSecurity crypto command).run env faults (World.start s)).2.committed := by
  have hother : ToAnotherRole s command := by
    cases command with
    | changeRole dto => cases hdisables
    | resetPassword | deactivate | removeStaff | suspendTenant => trivial
  rcases kept_or_revoked hother hcut with hsame | ⟨change, hcommits, hrevoked⟩
  · exact ((Held.refl hs).of_accounts hsame).kept
  · exact (held_of_revoked hs hdisables hcommits hrevoked).kept

theorem setActive_keeps {input : SetActiveInput} (hs : SessionsSound s)
    (hcut : input.active = false → ¬ RevocationCut crypto env s faults
      (.deactivate input.tenantId input.actorId input.userId)) :
    Kept s ((StaffLifecycleService.setActive input).run env faults (World.start s)).2.committed := by
  by_cases hactive : input.active = true
  · exact (ends_activate hactive hs).leaves faults
  · have hinactive : input.active = false := by simpa using hactive
    have hinput : input = ⟨input.tenantId, input.actorId, input.userId, false⟩ := by
      rw [← hinactive]
    have hdisables : Disables (.deactivate input.tenantId input.actorId input.userId) := trivial
    have hkept := security_keeps hs hdisables (hcut hinactive)
    rw [hinput]
    exact hkept

theorem performSession_keeps {call : SessionCall} (hs : SessionsSound s)
    (h : KeepsSessions crypto s call) : Kept s (performSession crypto call s) := by
  obtain ⟨command, env, faults, hclock⟩ := call
  cases command with
  | login dto => exact login_keeps hs h
  | googleLogin client code ipAddress userAgent =>
    exact (ends_handleGoogleCallback hclock hs).leaves faults
  | rotateRefreshToken oldRefreshToken ipAddress userAgent =>
    exact (ends_rotateRefreshToken hclock hs).leaves faults
  | setActive input => exact setActive_keeps hs h
  | remove input =>
    have hdisables : Disables (.removeStaff input) := trivial
    exact security_keeps hs hdisables h
  | accept input => exact (ends_accept hs).leaves faults
  | suspendTenant command =>
    have hdisables : Disables (.suspendTenant command) := trivial
    exact security_keeps hs hdisables h
  | restoreTenant command => exact (ends_restoreTenant hs).leaves faults

end step

/-- In every state a sequence of such calls reaches the live sessions belong to accounts
that are enabled, and every session is created for an account that may be used. -/
theorem sessions_usable_unless_inactive_login (crypto : AuthCrypto) (s s' : Store)
    (calls : List SessionCall) (hstart : SessionsSound s)
    (hkeeps : (sessionCalls crypto).Within (KeepsSessions crypto) s calls)
    (hrun : (sessionCalls crypto).run s calls = some s') :
    SessionsUsable s' ∧ ∀ done call rest s₁, calls = done ++ call :: rest →
      (sessionCalls crypto).run s done = some s₁ →
      NewSessionsUsable s₁ (performSession crypto call s₁) := by
  have hsound : ∀ (calls : List SessionCall) (t : Store),
      (sessionCalls crypto).Within (KeepsSessions crypto) s calls →
      (sessionCalls crypto).run s calls = some t → SessionsSound t := by
    intro calls t hwithin hreached
    refine Machine.run_preserves_within _ (fun s₁ call s₂ hs hcall hstep => ?_) hstart hwithin
      hreached
    cases hstep
    exact (performSession_keeps hs hcall).sound
  refine ⟨(hsound calls s' hkeeps hrun).usable, ?_⟩
  rintro done call rest s₁ rfl hdone
  have hs : SessionsSound s₁ := hsound done s₁ hkeeps.of_append hdone
  have hcall : KeepsSessions crypto s₁ call := hkeeps.step_at _ hdone
  exact (performSession_keeps hs hcall).created

section demo

/-- An agent with a password and a verified address, in an open tenant. -/
def agentAccount : User :=
  { sampleUser 3 1 .agent with
    email := "a"
    passwordHash := some "p"
    emailVerifiedAt := some 0 }

def agentStore : Store :=
  { staffedStore with
    users := [sampleUser 2 1 .tenantManager, agentAccount]
    refreshTokens := [] }

def sampleCall (command : SessionCommand) : SessionCall :=
  ⟨command, sampleEnv, fun _ => .none, fun _ _ h => h⟩

def disableAgent : SessionCall := sampleCall (.setActive ⟨1, 2, 3, false⟩)
def agentLogin : SessionCall := sampleCall (.login ⟨"a", "p", none, none⟩)

theorem agentStore_sound : SessionsSound agentStore where
  userIds := by decide
  tenants := by
    intro user hm tenantId hid
    have hall : ∀ user ∈ agentStore.users, ∀ id ∈ user.tenantId,
        (agentStore.findTenant id).isSome = true := by decide
    exact hall user hm tenantId hid
  usable := by
    intro stored hm
    cases hm

end demo

/-- A disabled agent logs in with the old password and holds a live session. -/
theorem disabled_agent_logs_in : SessionsSound agentStore ∧
    ∃ s', (sessionCalls sampleCrypto).run agentStore [disableAgent, agentLogin] = some s' ∧
      ¬ SessionsUsable s' := by
  refine ⟨agentStore_sound, _, rfl, fun husable => ?_⟩
  have hlive : ∃ stored ∈ (performSession sampleCrypto agentLogin
      (performSession sampleCrypto disableAgent agentStore)).refreshTokens,
      stored.isRevoked = false ∧ ∃ user ∈ (performSession sampleCrypto agentLogin
        (performSession sampleCrypto disableAgent agentStore)).findUser stored.userId,
        user.status = .inactive := by decide +kernel
  obtain ⟨stored, hm, hnot, user, hfound, hinactive⟩ := hlive
  exact (husable stored hm hnot user hfound).1 (Or.inr hinactive)

/-- The same agent logs in while the account is active. -/
theorem enabled_agent_logs_in : SessionsUsable (performSession sampleCrypto agentLogin agentStore) ∧
    ∀ done call rest s₁, [agentLogin] = done ++ call :: rest →
      (sessionCalls sampleCrypto).run agentStore done = some s₁ →
      NewSessionsUsable s₁ (performSession sampleCrypto call s₁) := by
  refine sessions_usable_unless_inactive_login sampleCrypto agentStore _ [agentLogin]
    agentStore_sound ⟨?_, fun _ _ => trivial⟩ rfl
  intro user hopens
  have hactive : ∀ row ∈ agentStore.findUserByEmail (JsText.toLowerCase "a"),
      row.status ≠ .inactive := by decide +kernel
  exact hactive user hopens.checks.found hopens.inactive

end OmniSupport.Auth
