import OmniSupport.Auth.AccountSessions
import OmniSupport.Auth.OAuthService

/-! What each call that opens sessions may leave: its checks come before the insert, and
what it writes besides disables nobody. -/
namespace OmniSupport.Auth
open Foundation Database Effect Identity

variable {crypto : AuthCrypto} {env : ServiceEnv} {d : Nat} {s t : Store}

section issuing

theorem Held.loggedIn {user : User} {ipAddress : Option String} {lastLoginAt writtenAt : Time}
    (h : Held s t) :
    Held s (t.updateUser user.id (AuthService.loggedIn ipAddress lastLoginAt writtenAt)) :=
  h.updateUser_same (fun _ => rfl) (fun _ => rfl) fun _ hb => hb

theorem ends_auditKept {entry : Time → AuditLog} (h : Kept s t) :
    Ends env d t (fun _ _ => Kept s) (Kept s) (AuditRepository.create entry) :=
  ends_auditCreate h fun _ => h.of_accounts rfl

/-- A new session for a user who may use the account from now on. -/
theorem ends_createTokenPair {session : Session} {user : User} (h : Held s t)
    (hfound : t.findUser session.userId = some user)
    (husable : ∀ n, d ≤ n →
      TokenService.assertAccountUsable (t.tokenStore (env.clock n)) user = .ok ()) :
    Ends env d t (fun _ _ => Kept s) (Kept s) (TokenService.createTokenPair crypto session) := by
  refine ends_draw_bind (ends_draw_bind (ends_draw_bind (ends_draw_bind ?_)))
  refine ends_call_bind (fun u s' hcall => ?_) h.kept
  split at hcall
  · cases hcall
    have hlater : d ≤ d + 1 + 1 + 1 := by omega
    exact ends_pure (h.insertSession hfound (husable _ hlater))
  · cases hcall

/-- After the three checks the account may be used from then on. -/
theorem ends_requireAccountUsable {user : User} {R : Store → Prop} (hclock : Monotone env.clock)
    (h : R t) :
    Ends env d t (fun _ d' t' => t' = t ∧ d ≤ d' ∧ ∀ n, d ≤ n →
      TokenService.assertAccountUsable (t.tokenStore (env.clock n)) user = .ok ()) R
      (TokenService.requireAccountUsable user) := by
  refine ends_lift_bind (fun u hstatus => ?_) h
  refine ends_draw_bind (ends_lift_bind (fun u hlocked => ?_) h)
  have henabled : ¬ TokenService.blockedStatus user := of_decide_eq_true (require_ok hstatus)
  have hunlocked : ∀ n, d ≤ n → AuthService.isLocked (env.clock n) user = false := by
    intro n hn
    have hnow := require_ok hlocked
    have htime : env.clock d ≤ env.clock n := hclock hn
    simp only [AuthService.isLocked] at hnow ⊢
    cases hlock : user.lockedUntil with
    | none => rfl
    | some lockedUntil =>
      rw [hlock] at hnow
      simp only [Option.any_some, Bool.not_eq_true', decide_eq_false_iff_not, not_lt] at hnow ⊢
      exact hnow.trans htime
  unfold TokenService.requireTenantOpen
  cases hid : user.tenantId with
  | none =>
    refine ends_pure ⟨rfl, Nat.le_succ d, fun n hn => ?_⟩
    refine assertAccountUsable_ok.mpr ⟨henabled, hunlocked n hn, fun tenantId hm => ?_⟩
    rw [hid] at hm
    cases hm
  | some tenantId =>
    refine ends_read_bind (ends_lift (fun u hopen => ?_) h) h
    refine ⟨rfl, Nat.le_succ d, fun n hn => ?_⟩
    refine assertAccountUsable_ok.mpr ⟨henabled, hunlocked n hn, fun tenantId' hm => ?_⟩
    rw [hid] at hm
    cases hm
    have htenant := require_ok hopen
    rw [Option.any_eq_true] at htenant
    obtain ⟨tenant, hrow, hblocked⟩ := htenant
    exact ⟨tenant, hrow, by simpa using hblocked⟩

end issuing

section login
variable {dto : LoginDto} {user : User}

/-- The checks of a login let the user in. -/
structure LetsIn (crypto : AuthCrypto) (env : ServiceEnv) (s : Store) (dto : LoginDto)
    (user : User) : Prop where
  found : s.findUserByEmail (JsText.toLowerCase dto.email) = some user
  credentials : AuthService.credentials (some user) (env.clock 0)
    (crypto.verifyPassword (user.passwordHash.getD crypto.dummyPasswordHash) dto.password) =
    .ok user
  allowed : AuthService.loginAllowed user = .ok ()
  tenant : AuthService.tenantAllowsLogin (user.tenantId.bind fun id => s.findTenant id) = .ok ()

/-- The row of the session a login opens after `d` draws. -/
def openedRow (crypto : AuthCrypto) (env : ServiceEnv) (d : Nat) (dto : LoginDto) (user : User) :
    RefreshToken String :=
  let familyId := env.uuid (d + 2)
  let tokenId := env.uuid (d + 3)
  let refreshToken := crypto.tokens.signRefresh ⟨user.id, familyId, .refresh, some tokenId⟩
    (env.clock (d + 4))
  TokenService.newRow crypto.config
    (TokenService.loginSession user dto.ipAddress dto.userAgent familyId) tokenId
    (crypto.tokens.hash refreshToken (d + 5)) (env.clock (d + 6))

/-- The unique columns of a new session are free. -/
def RowFree (s : Store) (row : RefreshToken String) : Prop :=
  ∀ stored ∈ s.refreshTokens, stored.id ≠ row.id ∧ stored.tokenHash ≠ row.tokenHash

/-- The awaited calls of a login up to the update of the user; the insert of the session is
the next. -/
def loginStages (user : User) : List Stage :=
  [.strict] ++ ([.strict] ++ ((if user.tenantId.isSome then [.strict] else []) ++ [.strict]))

/-- A login gives a disabled account a session. -/
structure OpensInactive (crypto : AuthCrypto) (env : ServiceEnv) (s : Store)
    (faults : Nat → Fault) (dto : LoginDto) (user : User) : Prop where
  checks : LetsIn crypto env s dto user
  inactive : user.status = .inactive
  free : RowFree s (openedRow crypto env 1 dto user)
  passes : Passes faults 0 (loginStages user ++ [.strict])

theorem credentials_ok {found : Option User} {checkedAt : Time} {isValidPassword : Bool}
    (h : AuthService.credentials found checkedAt isValidPassword = .ok user) :
    found = some user := by
  cases found with
  | none => cases h
  | some row =>
    simp only [AuthService.credentials] at h
    split at h
    · cases h
    · split at h
      · cases h
      · cases h
        rfl

theorem ends_recordFailedLogin (h : Held s t) :
    Ends env d t (fun _ _ => Kept s) (Kept s) (AuthService.recordFailedLogin user) := by
  refine ends_draw_bind (ends_draw_bind (ends_call (fun u s' hcall => ?_) h.kept))
  split at hcall
  · cases hcall
    have hsame : Held s (t.updateUser user.id (AuthService.failedLogin
        (user.failedLoginAttempts + 1) (env.clock d) (env.clock (d + 1)))) :=
      h.updateUser_same (fun _ => rfl) (fun _ => rfl) fun _ hb => hb
    exact hsame.kept
  · cases hcall

theorem ends_refuseLogin {α : Type} {counted : Option User} {Q : α → Nat → Store → Prop}
    (h : Held s t) : Ends env d t Q (Kept s) (AuthService.refuseLogin counted) := by
  cases counted with
  | none => exact ends_throw h.kept
  | some user => exact (ends_recordFailedLogin h).bind fun _ _ _ hkept => ends_throw hkept

/-- The checks that stand for `assertAccountUsable` in a login. -/
theorem login_usable {ipAddress : Option String} {lastLoginAt writtenAt now : Time}
    (htenant : TenantStored t user) (hallowed : AuthService.loginAllowed user = .ok ())
    (hopen : AuthService.tenantAllowsLogin (user.tenantId.bind fun id => t.findTenant id) = .ok ())
    (hactive : user.status ≠ .inactive) :
    TokenService.assertAccountUsable (t.tokenStore now)
      (AuthService.loggedIn ipAddress lastLoginAt writtenAt user) = .ok () := by
  simp only [AuthService.loginAllowed, bind_eq_ok] at hallowed
  obtain ⟨u, hsuspended, -⟩ := hallowed
  have hnot : user.status ≠ .suspended := of_decide_eq_true (require_ok hsuspended)
  simp only [AuthService.tenantAllowsLogin, bind_eq_ok] at hopen
  obtain ⟨u, hsuspended, hcancelled⟩ := hopen
  have hsuspended := require_ok hsuspended
  have hcancelled := require_ok hcancelled
  refine assertAccountUsable_ok.mpr ⟨?_, rfl, fun tenantId hid => ?_⟩
  · rintro (hstatus | hstatus)
    · exact hnot hstatus
    · exact hactive hstatus
  · have hid : user.tenantId = some tenantId := hid
    obtain ⟨tenant, hrow⟩ := Option.isSome_iff_exists.mp (htenant tenantId hid)
    rw [hid, Option.bind_some, hrow] at hsuspended hcancelled
    refine ⟨tenant, hrow, ?_⟩
    simpa [TokenService.blockedTenant] using And.intro hsuspended hcancelled

theorem findUser_loggedIn {ipAddress : Option String} {lastLoginAt writtenAt : Time}
    (hfound : t.findUser user.id = some user) :
    (t.updateUser user.id (AuthService.loggedIn ipAddress lastLoginAt writtenAt)).findUser user.id =
      some (AuthService.loggedIn ipAddress lastLoginAt writtenAt user) := by
  have hid : ∀ row, (AuthService.loggedIn ipAddress lastLoginAt writtenAt row).id = row.id :=
    fun _ => rfl
  rw [Store.findUser_updateUser hid, hfound, Option.map_some, if_pos rfl]

theorem ends_createTokenPair_taken {session : Session} {Q : TokenPair String → Nat → Store → Prop}
    (h : Held s t)
    (htaken : ¬ RowFree t (TokenService.newRow crypto.config session (env.uuid d)
      (crypto.tokens.hash (crypto.tokens.signRefresh
        ⟨session.userId, session.familyId, .refresh, some (env.uuid d)⟩ (env.clock (d + 1))) (d + 2))
      (env.clock (d + 3)))) :
    Ends env d t Q (Kept s) (TokenService.createTokenPair crypto session) := by
  refine ends_draw_bind (ends_draw_bind (ends_draw_bind (ends_draw_bind ?_)))
  refine ends_call_bind (fun u s' hcall => ?_) h.kept
  split at hcall
  · rename_i hinsertable
    exact absurd hinsertable.1 htaken
  · cases hcall

theorem ends_openSession (h : Held s t) (hfound : t.findUser user.id = some user)
    (htenant : TenantStored t user) (hallowed : AuthService.loginAllowed user = .ok ())
    (hopen : AuthService.tenantAllowsLogin (user.tenantId.bind fun id => t.findTenant id) = .ok ())
    (hrow : user.status = .inactive → ¬ RowFree t (openedRow crypto env d dto user)) :
    Ends env d t (fun _ _ => Kept s) (Kept s) (AuthService.openSession crypto dto user) := by
  refine ends_draw_bind (ends_draw_bind (ends_call_bind (fun u s' hcall => ?_) h.kept))
  split at hcall
  · cases hcall
    have haudit : ∀ (pair : TokenPair String) d' t', Kept s t' →
        Ends env d' t' (fun _ _ => Kept s) (Kept s) (do
          AuditRepository.create (AuthService.loginAudit dto user)
          return pair) :=
      fun pair d' t' hkept => (ends_auditKept hkept).bind fun _ _ _ h => ends_pure h
    refine ends_draw_bind (Ends.bind ?_ haudit)
    by_cases hactive : user.status = .inactive
    · exact ends_createTokenPair_taken h.loggedIn (hrow hactive)
    · exact ends_createTokenPair h.loggedIn (findUser_loggedIn hfound) fun n _ =>
        login_usable htenant hallowed hopen hactive
  · cases hcall

theorem ends_checkTenant {R : Store → Prop} (h : R t) :
    Ends env d t (fun _ d' t' => d' = d ∧ t' = t ∧
      AuthService.tenantAllowsLogin (user.tenantId.bind fun id => t.findTenant id) = .ok ()) R
      (AuthService.checkTenant user) := by
  unfold AuthService.checkTenant
  cases hid : user.tenantId with
  | none => exact ends_pure ⟨rfl, rfl, rfl⟩
  | some tenantId => exact ends_read_bind (ends_lift (fun u hopen => ⟨rfl, rfl, hopen⟩) h) h

/-- A login that opens no session for a disabled account. -/
theorem ends_login (hs : SessionsSound s)
    (hrow : ∀ user, LetsIn crypto env s dto user → user.status = .inactive →
      ¬ RowFree s (openedRow crypto env 1 dto user)) :
    Ends env 0 s (fun _ _ => Kept s) (Kept s) (AuthService.login crypto dto) := by
  have hheld := Held.refl hs
  refine ends_read_bind (ends_draw_bind (ends_read_bind ?_ hheld.kept)) hheld.kept
  cases hcredentials : AuthService.credentials
      (s.findUserByEmail (JsText.toLowerCase dto.email)) (env.clock 0)
      (crypto.verifyPassword (((s.findUserByEmail (JsText.toLowerCase dto.email)).bind
        User.passwordHash).getD crypto.dummyPasswordHash) dto.password) with
  | error counted => exact ends_refuseLogin hheld
  | ok user =>
    have hfound := credentials_ok hcredentials
    have hm : user ∈ s.users := List.mem_of_find?_eq_some hfound
    rw [hfound] at hcredentials
    refine ends_lift_bind (fun u hallowed => ?_) hheld.kept
    refine (ends_checkTenant hheld.kept).bind ?_
    rintro u d₁ t₁ ⟨rfl, rfl, hopen⟩
    exact ends_openSession hheld (Store.findUser_of_mem hs.userIds hm) (hs.tenants user hm) hallowed
      hopen (hrow user ⟨hfound, hcredentials, hallowed, hopen⟩)

section cut
variable {faults : Nat → Fault} {n : Nat}

theorem sequence_checkTenant
    (hopen : AuthService.tenantAllowsLogin (user.tenantId.bind fun id => t.findTenant id) = .ok ()) :
    Sequence accounts false faults env n d t (if user.tenantId.isSome then [.strict] else [])
      (AuthService.checkTenant user) fun _ d' t' => d' = d ∧ t' = t := by
  unfold AuthService.checkTenant
  cases hid : user.tenantId with
  | none =>
    refine Sequence.mono (sequence_pure ()) ?_
    rintro u d₁ t₁ ⟨-, hd, ht⟩
    exact ⟨hd, ht⟩
  | some tenantId =>
    rw [hid] at hopen
    refine (sequence_find fun h => by cases h).bind (fun _ _ _ h => by rw [h.2.2]) ?_
    rintro tenant d₁ t₁ ⟨rfl, rfl, rfl⟩
    refine Sequence.mono (sequence_lift hopen) ?_
    rintro u d₂ t₂ ⟨-, hd, ht⟩
    exact ⟨hd, ht⟩

/-- A login stopped before the update of the user, between it and the insert of the
session, or after both. -/
theorem phases_openSession (hfound : t.findUser user.id = some user)
    (hfree : RowFree t (openedRow crypto env d dto user)) :
    Phases accounts faults env n d t [.strict] [.strict] (AuthService.openSession crypto dto user)
      (fun t' => accounts t' = accounts (t.updateUser user.id
        (AuthService.loggedIn dto.ipAddress (env.clock d) (env.clock (d + 1))))) fun _ => True := by
  have hrow : (t.findUser user.id).isSome = true := by rw [hfound, Option.isSome_some]
  refine phases_bind_nil (sequence_draw ServiceEnv.clock) ?_
  rintro lastLoginAt d₁ t₁ ⟨rfl, rfl, rfl⟩
  refine ⟨rfl, phases_bind_nil (sequence_draw ServiceEnv.clock) ?_⟩
  rintro writtenAt d₂ t₂ ⟨rfl, rfl, rfl⟩
  refine ⟨rfl, phases_then (sequence_prismaUserUpdate (fun h => by cases h) hrow) ?_⟩
  rintro u d₃ t₃ ⟨rfl, rfl⟩
  refine ⟨fun _ ht => ht, phases_bind_nil (sequence_draw ServiceEnv.uuid) ?_⟩
  rintro familyId d₄ t₄ ⟨rfl, rfl, rfl⟩
  refine ⟨rfl, ?_⟩
  simp only [TokenService.createTokenPair, bind_assoc]
  refine phases_bind_nil (sequence_draw ServiceEnv.uuid) ?_
  rintro tokenId d₅ t₅ ⟨rfl, rfl, rfl⟩
  refine ⟨rfl, phases_bind_nil (sequence_draw ServiceEnv.clock) ?_⟩
  rintro signedAt d₆ t₆ ⟨rfl, rfl, rfl⟩
  refine ⟨rfl, phases_bind_nil (sequence_draw _) ?_⟩
  rintro tokenHash d₇ t₇ ⟨rfl, rfl, rfl⟩
  refine ⟨rfl, phases_bind_nil (sequence_draw ServiceEnv.clock) ?_⟩
  rintro createdAt d₈ t₈ ⟨rfl, rfl, rfl⟩
  have hopened : (((t₂.updateUser user.id (AuthService.loggedIn dto.ipAddress (env.clock d)
      (env.clock (d + 1)))).findUser user.id).isSome = true) := by
    rw [findUser_loggedIn hfound, Option.isSome_some]
  refine ⟨rfl, phases_last (sequence_call_outside (if_pos ⟨hfree, hopened⟩)) ?_⟩
  intro u d₉ t₉ _
  have haudit : Ends env d₉ t₉ (fun _ _ _ => True) (fun _ => True)
      (AuditRepository.create (AuthService.loginAudit dto user)) :=
    ends_auditCreate trivial fun _ => trivial
  exact haudit.bind fun _ _ _ _ => ends_pure trivial

theorem phases_login (hlets : LetsIn crypto env s dto user)
    (hfound : s.findUser user.id = some user)
    (hfree : RowFree s (openedRow crypto env 1 dto user)) :
    Phases accounts faults env 0 0 s (loginStages user) [.strict] (AuthService.login crypto dto)
      (fun t => accounts t = accounts (s.updateUser user.id
        (AuthService.loggedIn dto.ipAddress (env.clock 1) (env.clock 2)))) fun _ => True := by
  obtain ⟨hemail, hcredentials, hallowed, hopen⟩ := hlets
  refine phases_bind (sequence_find fun h => by cases h) ?_
  rintro found d₁ s₁ ⟨rfl, rfl, rfl⟩
  refine ⟨rfl, phases_bind_nil (sequence_draw ServiceEnv.clock) ?_⟩
  rintro checkedAt d₂ s₂ ⟨rfl, rfl, rfl⟩
  refine ⟨rfl, phases_bind (sequence_find fun h => by cases h) ?_⟩
  rintro isValidPassword d₃ s₃ ⟨rfl, rfl, rfl⟩
  rw [hemail]
  refine ⟨rfl, ?_⟩
  rw [Option.bind_some, hcredentials]
  refine phases_bind_nil (sequence_lift hallowed) ?_
  rintro u d₄ s₄ ⟨-, rfl, rfl⟩
  refine ⟨rfl, phases_bind (sequence_checkTenant hopen) ?_⟩
  rintro u d₅ s₅ ⟨rfl, rfl⟩
  exact ⟨rfl, phases_openSession hfound hfree⟩

/-- The sessions stay sound unless the login opens one for a disabled account. -/
theorem login_keeps (hs : SessionsSound s)
    (hactive : ∀ user, ¬ OpensInactive crypto env s faults dto user) :
    Kept s ((AuthService.login crypto dto).run env faults (World.start s)).2.committed := by
  by_cases hrow : ∀ user, LetsIn crypto env s dto user → user.status = .inactive →
      ¬ RowFree s (openedRow crypto env 1 dto user)
  · exact (ends_login hs hrow).leaves faults
  · push Not at hrow
    obtain ⟨user, hlets, hinactive, hfree⟩ := hrow
    have hheld := Held.refl hs
    have hm : user ∈ s.users := List.mem_of_find?_eq_some hlets.found
    have hcut : ¬ Passes faults 0 (loginStages user ++ [.strict]) :=
      fun hpass => hactive user ⟨hlets, hinactive, hfree, hpass⟩
    rw [passes_append] at hcut
    rcases phases_login hlets (Store.findUser_of_mem hs.userIds hm) hfree (World.start s)
      (at_start s) with
      ⟨-, hsame⟩ | ⟨-, -, hmid⟩ | ⟨hyes, hyes', -⟩
    · exact (hheld.of_accounts hsame).kept
    · exact (hheld.loggedIn.of_accounts hmid).kept
    · exact absurd ⟨hyes, hyes'⟩ hcut

end cut

end login

section google
variable {client : GoogleClient} {googleUser : GoogleUserInfo}

/-- The account a Google identity stands for, perhaps just linked. -/
theorem ends_findOrCreateGoogleUser (h : Held s t) :
    Ends env d t (fun user d' t' => d' = d ∧ Held s t' ∧ t'.findUser user.id = some user) (Kept s)
      (OAuthService.findOrCreateGoogleUser googleUser) := by
  refine ends_read_bind ?_ h.kept
  cases hlinked : OAuthService.linkedUser googleUser t with
  | some user =>
    simp only [OAuthService.linkedUser, Option.bind_eq_some_iff] at hlinked
    obtain ⟨account, -, hfound⟩ := hlinked
    obtain ⟨-, hid⟩ := Store.findUser_mem hfound
    exact ends_pure ⟨rfl, h, hid ▸ hfound⟩
  | none =>
    refine ends_read_bind (ends_lift_bind (fun user hfound => ?_) h.kept) h.kept
    have hm : user ∈ t.users := List.mem_of_find?_eq_some (orThrow_ok hfound)
    have hrow : t.findUser user.id = some user := Store.findUser_of_mem h.sound.userIds hm
    refine ends_call_bind (fun u s' hcall => ?_) h.kept
    split at hcall
    · cases hcall
      exact ends_pure ⟨rfl, h.of_accounts rfl, hrow⟩
    · cases hcall

theorem ends_handleGoogleCallback {code : String} {ipAddress userAgent : Option String}
    (hclock : Monotone env.clock) (hs : SessionsSound s) :
    Ends env 0 s (fun _ _ => Kept s) (Kept s)
      (OAuthService.handleGoogleCallback crypto client code ipAddress userAgent) := by
  have hkept := (Held.refl hs).kept
  refine ends_read_bind (ends_lift_bind (fun idToken _ => ?_) hkept) hkept
  refine ends_read_bind (ends_lift_bind (fun googleUser _ => ?_) hkept) hkept
  refine (ends_findOrCreateGoogleUser (Held.refl hs)).bind ?_
  rintro user d₁ s₁ ⟨rfl, hheld, hfound⟩
  refine (ends_requireAccountUsable hclock hheld.kept).bind ?_
  rintro u d₂ s₂ ⟨rfl, hlater, husable⟩
  refine ends_draw_bind (ends_createTokenPair hheld hfound fun n hn => ?_)
  have hafter : 0 ≤ n := by omega
  exact husable n hafter

end google

section rotation
variable {familyId : Uuid} {reason : String}

theorem ends_revokeTokenFamily (h : Held s t) :
    Ends env d t (fun _ _ => Held s) (Held s) (TokenService.revokeTokenFamily familyId reason) := by
  refine ends_draw_bind ?_
  unfold Prisma.write Prisma.statement
  refine ends_call (fun u s' hcall => ?_) h
  cases hcall
  exact h.revokeTokens

theorem ends_rejectIfRevoked {token : RefreshToken String} (h : Held s t) :
    Ends env d t (fun _ d' t' => d' = d ∧ t' = t) (Held s)
      (TokenService.rejectIfRevoked token) := by
  unfold TokenService.rejectIfRevoked
  split
  · refine ends_draw_bind ?_
    split
    · exact ends_throw h
    · exact (ends_revokeTokenFamily h).bind fun _ _ _ hheld => ends_throw hheld
  · exact ends_pure ⟨rfl, rfl⟩

theorem ends_claimToken {id : Uuid} (h : Held s t) :
    Ends env d t (fun _ _ t' => Held s t' ∧ accountRows t' = accountRows t) (Held s)
      (TokenService.claimToken id) := by
  refine ends_draw_bind (ends_call (fun u s' hcall => ?_) h)
  split at hcall
  · cases hcall
    exact ⟨h.revokeTokens, rfl⟩
  · cases hcall

/-- A token is found together with the user it belongs to. -/
theorem findStored_user {now : Time} {payload : RefreshTokenPayload}
    {stored : RefreshToken String × User}
    (h : TokenService.findStored (s.tokenStore now) payload = some stored) :
    s.findUser payload.sub = some stored.2 := by
  unfold TokenService.findStored at h
  split at h
  · simp only [TokenStore.findTokenById] at h
    split at h
    · cases h
    · split at h
      · cases h
      · rename_i token _ hclaims
        obtain ⟨user, hfound, rfl⟩ := Option.map_eq_some_iff.mp h
        have hsub : token.userId = payload.sub := by
          by_contra hne
          exact hclaims (Or.inl hne)
        exact hsub ▸ hfound
  · simp only [TokenStore.findLegacyActiveToken] at h
    split at h
    · cases h
    · rename_i newest rest htokens
      obtain ⟨user, hfound, rfl⟩ := Option.map_eq_some_iff.mp h
      have hall : ∀ token ∈ newest :: rest, token.userId = payload.sub := by
        intro token hm
        rw [← htokens, List.mem_insertionSort] at hm
        have hkey := (List.mem_filter.mp hm).2
        simp only [decide_eq_true_eq] at hkey
        exact hkey.2
      have hchosen : ((newest :: rest).find? fun token => !token.isRevoked).getD newest ∈
          newest :: rest := by
        cases hfind : (newest :: rest).find? fun token => !token.isRevoked with
        | none => exact List.mem_cons_self
        | some token => exact List.mem_of_find?_eq_some hfind
      have hsub := hall _ hchosen
      rw [← htokens] at hsub
      exact (congrArg s.findUser hsub.symm).trans hfound

theorem ends_rotateRefreshToken {oldRefreshToken : String} {ipAddress userAgent : Option String}
    (hclock : Monotone env.clock) (hs : SessionsSound s) :
    Ends env 0 s (fun _ _ => Kept s) (Kept s)
      (TokenService.rotateRefreshToken crypto oldRefreshToken ipAddress userAgent) := by
  have hheld := Held.refl hs
  refine ends_draw_bind (ends_lift_bind (fun payload _ => ?_) hheld.kept)
  refine ends_read_bind (ends_lift_bind (fun stored hstored => ?_) hheld.kept) hheld.kept
  have hfound := findStored_user (orThrow_ok hstored)
  refine Ends.bind (Ends.mono (ends_rejectIfRevoked hheld) (fun _ _ _ h => h)
    fun _ h => h.kept) ?_
  rintro u d₁ s₁ ⟨rfl, rfl⟩
  refine ends_draw_bind (ends_lift_bind (fun u _ => ?_) hheld.kept)
  refine ends_lift_bind (fun u _ => ?_) hheld.kept
  refine Ends.bind (Ends.mono (ends_claimToken hheld) (fun _ _ _ h => h) fun _ h => h.kept) ?_
  rintro u d₂ s₂ ⟨hclaimed, hrows⟩
  have hrow : s₂.findUser payload.sub = some stored.2 := by
    have husers : s₂.users = s₁.users := congrArg Prod.fst hrows
    rw [Store.findUser, husers]
    exact hfound
  refine Ends.bind (Ends.onError (ends_requireAccountUsable hclock hclaimed) (fun _ h => h.kept)
    fun d' s' h => Ends.mono (ends_revokeTokenFamily h) (fun _ _ _ h => h.kept)
      fun _ h => h.kept) ?_
  rintro u d₃ s₃ ⟨rfl, hlater, husable⟩
  exact ends_createTokenPair hclaimed hrow fun n hn => husable n (hlater.trans hn)

end rotation

end OmniSupport.Auth
