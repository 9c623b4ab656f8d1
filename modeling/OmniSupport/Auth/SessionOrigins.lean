import OmniSupport.Auth.SignInCalls
import OmniSupport.Auth.TokenFamily
import OmniSupport.Database.ServiceRules
import OmniSupport.Foundation.Sightings

/-! Where sessions come from: every refresh token goes back, over rotations, to a call that has
shown the password of its user or an identity that Google vouches for. -/
namespace OmniSupport.Auth
open Foundation Database Process SignInCalls

/-- The row is stored, whether live or not: its id, user and family are. -/
def SessionStored (row : RefreshToken String) (s : Store) : Prop :=
  ∃ old ∈ s.refreshTokens, old.id = row.id ∧ old.userId = row.userId ∧ old.familyId = row.familyId

/-- What other services write: they create no sessions and link no identities. -/
structure AccountWrite where
  db : Store → Store
  sessions : ∀ s, ∀ row ∈ (db s).refreshTokens, SessionStored row s
  links : ∀ s, (db s).oauthAccounts ⊆ s.oauthAccounts

/-- Any number of calls, and writes of other services between their statements. -/
def signIns (crypto : AuthCrypto) (client : GoogleClient) :
    Program Store (SignInProcess Unit) (Turn ServiceEnv SignInCall) AccountWrite :=
  among signInStatements (signIn crypto client) AccountWrite.db

def HasSession (userId familyId : Uuid) (s : Store) : Prop :=
  ∃ row ∈ s.refreshTokens, row.userId = userId ∧ row.familyId = familyId

/-- A rotation presents a session instead. -/
def SignInCall.presentsCredentials : SignInCall → Bool
  | .login _ | .google .. => true
  | .rotate .. => false

section grounds
variable (crypto : AuthCrypto) (client : GoogleClient)

abbrev StoreCheck := Store → Prop

/-- The organization of the account, if it has one, was open. -/
def tenantCheck (user : User) : List StoreCheck :=
  user.tenantId.toList.map fun tenantId s =>
    (s.findTenant tenantId).any (fun row => !TokenService.blockedTenant row) = true

def loginTenantCheck (user : User) : List StoreCheck :=
  user.tenantId.toList.map fun tenantId s =>
    AuthService.tenantAllowsLogin (s.findTenant tenantId) = .ok ()

def PasswordShown (dto : LoginDto) (user : User) : Prop :=
  ∃ hash, user.passwordHash = some hash ∧ hash ≠ "" ∧
    crypto.verifyPassword hash dto.password = true

/-- Google has verified the address of the identity behind the code. -/
def Vouched (code : String) (googleUser : GoogleUserInfo) : Prop :=
  ∃ idToken, OAuthService.identityToken client code = .ok idToken ∧
    OAuthService.googleUser client idToken = .ok googleUser

/-- The account with the address, for an identity that is linked to none. -/
def emailChecks (googleUser : GoogleUserInfo) (user : User) : List StoreCheck :=
  [fun s => OAuthService.linkedUser googleUser s = none,
    fun s => s.findUserByEmail (JsText.toLowerCase googleUser.email) = some user]

/-- The identity is linked to the account, before or now. -/
def Identified (googleUser : GoogleUserInfo) (user : User) (checks : List StoreCheck) : Prop :=
  checks = [fun s => OAuthService.linkedUser googleUser s = some user] ∨
    checks = emailChecks googleUser user

/-- A stored token of the payload's session, live until this call has claimed it. -/
def rotationChecks (payload : RefreshTokenPayload) (token : RefreshToken String) (user : User)
    (verifiedAt revokedAt : Time) : List StoreCheck :=
  [fun s => TokenService.findStored (s.tokenStore verifiedAt) payload = some (token, user),
    fun s => (s.tokenStore revokedAt).claimable token.id]

/-- What a call has shown, and seen in this order, before it creates a session. -/
def Grounds (userId familyId : Uuid) (states : List Store) : SignInCall → Prop
  | .login dto => ∃ user : User, user.id = userId ∧ PasswordShown crypto dto user ∧
    AuthService.loginAllowed user = .ok () ∧
    InOrder ((fun s => s.findUserByEmail (JsText.toLowerCase dto.email) = some user) ::
      loginTenantCheck user) states
  | .google code _ _ => ∃ (googleUser : GoogleUserInfo) (user : User) (checks : List StoreCheck),
    user.id = userId ∧ Vouched client code googleUser ∧ ¬ TokenService.blockedStatus user ∧
    Identified googleUser user checks ∧ InOrder (checks ++ tenantCheck user) states
  | .rotate oldRefreshToken _ _ => ∃ (payload : RefreshTokenPayload) (token : RefreshToken String)
      (user : User) (verifiedAt revokedAt : Time),
    payload.sub = userId ∧ payload.familyId = familyId ∧
    TokenService.verifyRefreshToken crypto.tokens oldRefreshToken verifiedAt = .ok payload ∧
    crypto.tokens.verifyHash token.tokenHash oldRefreshToken = true ∧ token.isRevoked = false ∧
    ¬ TokenService.blockedStatus user ∧
    InOrder (rotationChecks payload token user verifiedAt revokedAt ++ tenantCheck user) states

/-- An identity is linked to the account that has its address. -/
def LinkGrounds (link : OAuthAccount) (states : List Store) : SignInCall → Prop
  | .google code _ _ => ∃ (googleUser : GoogleUserInfo) (user : User), Vouched client code googleUser ∧
    link = ⟨user.id, "google", googleUser.googleId⟩ ∧ InOrder (emailChecks googleUser user) states
  | .login _ | .rotate .. => False

def SignInRests (call : SignInCall) (seen : List Store) : SignInStatement → Prop
  | .createToken row => Grounds crypto client row.userId row.familyId seen call
  | .linkGoogle link => LinkGrounds client link seen call
  | .find _ | .recordFailure .. | .recordLogin .. | .claimToken .. | .revokeFamily .. | .audit _ =>
    True

end grounds

section backed
variable {crypto : AuthCrypto} {client : GoogleClient} {call : SignInCall}
  {Ps : List StoreCheck} {seen : List Store}

/-- What a call is held to. -/
abbrev Rested {α : Type} (crypto : AuthCrypto) (client : GoogleClient) (call : SignInCall)
    (p : SignInProcess α) (Q : List Store → α → Prop) (seen : List Store) : Prop :=
  p.Backed signInStatements (SignInRests crypto client call) Q seen

/-- The session goes to the user and the family that the call has grounds for. -/
theorem rested_createTokenPair {session : Session}
    (h : Grounds crypto client session.userId session.familyId seen call) :
    Rested crypto client call (createTokenPair crypto session) (fun _ _ => True) seen :=
  fun _ _ _ _ _ _ _ _ => ⟨h, fun _ _ _ => trivial⟩

theorem rested_tenantOpen (hPs : InOrder Ps seen) {user : User} :
    Rested crypto client call (tenantOpen user) (fun seen' open' =>
      open' = .ok () → InOrder (Ps ++ tenantCheck user) seen') seen := by
  unfold tenantOpen tenantCheck
  cases user.tenantId with
  | none =>
    rw [Option.toList_none, List.map_nil, List.append_nil]
    exact backed_pure fun _ => hPs
  | some tenantId =>
    exact backed_statement_bind trivial fun s hok => hPs.snoc (require_ok hok)

theorem rested_checkTenant (hPs : InOrder Ps seen) {user : User} :
    Rested crypto client call (checkTenant user) (fun seen' _ =>
      InOrder (Ps ++ loginTenantCheck user) seen') seen := by
  unfold checkTenant loginTenantCheck
  cases user.tenantId with
  | none =>
    rw [Option.toList_none, List.map_nil, List.append_nil]
    exact backed_pure hPs
  | some tenantId =>
    exact backed_statement_bind trivial fun s => backed_lift fun _ hallowed => hPs.snoc hallowed

/-- Only the right password gets past the credentials. -/
theorem shown_of_credentials {dto : LoginDto} {found : Option User} {checkedAt : Time}
    {user : User} (h : AuthService.credentials found checkedAt (crypto.verifyPassword
      ((found.bind User.passwordHash).getD crypto.dummyPasswordHash) dto.password) = .ok user) :
    found = some user ∧ PasswordShown crypto dto user := by
  cases found with
  | none => cases h
  | some row =>
    simp only [AuthService.credentials] at h
    split at h
    · cases h
    · rename_i hopen
      split at h
      · cases h
      · rename_i hvalid
        cases h
        refine ⟨rfl, ?_⟩
        cases hhash : user.passwordHash with
        | none => simp [AuthService.hasPassword, hhash] at hopen
        | some hash =>
          simp only [hhash, Option.bind_some, Option.getD_some] at hvalid
          simp only [AuthService.hasPassword, hhash, Option.any_some] at hopen
          simp only [Bool.or_eq_true, not_or, Bool.not_eq_true', Bool.not_eq_false] at hopen hvalid
          exact ⟨hash, hhash, of_decide_eq_true hopen.1, hvalid⟩

theorem rested_login {dto : LoginDto} :
    Rested crypto client (.login dto) (login crypto dto) (fun _ _ => True) [] := by
  refine backed_statement_bind trivial fun s => ?_
  refine backed_drawn_bind fun _ _ => backed_statement_bind trivial fun s' => ?_
  split
  · rename_i counted _
    cases counted with
    | none => trivial
    | some user => exact fun _ _ _ _ => ⟨trivial, fun _ _ _ => trivial⟩
  · rename_i user hcredentials
    obtain ⟨hfound, hshown⟩ := shown_of_credentials hcredentials
    have hread : InOrder [fun s => s.findUserByEmail (JsText.toLowerCase dto.email) = some user]
        ([s] ++ [s']) :=
      ⟨[s], List.sublist_append_left _ _, .cons hfound .nil⟩
    refine backed_lift_bind fun _ hallowed => (rested_checkTenant hread).bind
      fun seen₂ _ hchecks => ?_
    refine backed_drawn_bind fun _ _ => backed_drawn_bind fun _ _ => ?_
    refine backed_executed_bind trivial fun t _ _ => backed_drawn_bind fun _ _ => ?_
    refine Backed.next (rested_createTokenPair ?_) fun _ _ _ _ => ⟨trivial, fun _ => trivial⟩
    exact ⟨user, rfl, hshown, hallowed, hchecks.mono (List.sublist_append_left _ _)⟩

/-- Google vouches for what the call goes on with. -/
theorem rested_identify {code : String} :
    Rested crypto client call (identify client code) (fun _ googleUser =>
      Vouched client code googleUser) seen := by
  refine backed_statement_bind trivial fun _ => backed_lift_bind fun idToken htoken => ?_
  exact backed_statement_bind trivial fun _ => backed_lift fun googleUser huser =>
    ⟨idToken, htoken, huser⟩

theorem rested_findOrCreateGoogleUser {code : String} {ipAddress userAgent : Option String}
    {googleUser : GoogleUserInfo} (hvouched : Vouched client code googleUser) :
    Rested crypto client (.google code ipAddress userAgent) (findOrCreateGoogleUser googleUser)
      (fun seen' user => ∃ checks, Identified googleUser user checks ∧ InOrder checks seen')
      seen := by
  refine backed_statement_bind trivial fun s => ?_
  split
  · rename_i user hlinked
    exact backed_pure ⟨_, .inl rfl, (InOrder.nil seen).snoc hlinked⟩
  · rename_i hnone
    refine backed_statement_bind trivial fun s' => backed_lift_bind fun user hfound => ?_
    have hchecks : InOrder (emailChecks googleUser user) (seen ++ [s] ++ [s']) :=
      ((InOrder.nil seen).snoc hnone).snoc (orThrow_ok hfound)
    refine ⟨⟨googleUser, user, hvouched, rfl, hchecks⟩, fun _ _ _ => ?_⟩
    exact ⟨_, .inr rfl, hchecks.mono (List.sublist_append_left _ _)⟩

theorem rested_requireAccountUsable (hPs : InOrder Ps seen) {user : User} :
    Rested crypto client call (requireAccountUsable user) (fun seen' _ =>
      ¬ TokenService.blockedStatus user ∧ InOrder (Ps ++ tenantCheck user) seen') seen := by
  refine backed_lift_bind fun _ hopen _ _ => backed_lift_bind fun _ _ => ?_
  refine (rested_tenantOpen hPs).bind fun seen' result hchecks => backed_lift fun _ hok => ?_
  exact ⟨of_decide_eq_true (require_ok hopen), hchecks hok⟩

theorem rested_handleGoogleCallback {code : String} {ipAddress userAgent : Option String} :
    Rested crypto client (.google code ipAddress userAgent)
      (handleGoogleCallback crypto client code ipAddress userAgent) (fun _ _ => True) [] := by
  refine rested_identify.bind fun seen₁ googleUser hvouched => ?_
  refine (rested_findOrCreateGoogleUser hvouched).bind fun seen₂ user ⟨checks, hid, hchecks⟩ => ?_
  refine (rested_requireAccountUsable hchecks).bind fun seen₃ _ ⟨hopen, hall⟩ _ _ => ?_
  exact rested_createTokenPair ⟨googleUser, user, checks, rfl, hvouched, hopen, hid, hall⟩

theorem rested_findPresented {oldRefreshToken : String} :
    Rested crypto client call (findPresented crypto oldRefreshToken) (fun seen' presented =>
      ∃ verifiedAt, TokenService.verifyRefreshToken crypto.tokens oldRefreshToken verifiedAt =
          .ok presented.1 ∧
        InOrder [fun s => TokenService.findStored (s.tokenStore verifiedAt) presented.1 =
          some presented.2] seen') seen := by
  refine fun env n => backed_lift_bind fun payload hpayload => ?_
  refine backed_statement_bind trivial fun s => backed_lift_bind fun stored hfound => ?_
  exact ⟨_, hpayload, (InOrder.nil seen).snoc (orThrow_ok hfound)⟩

/-- A token that goes on is live and matches the stored hash. -/
theorem rested_checkPresented {oldRefreshToken : String} {token : RefreshToken String} :
    Rested crypto client call (checkPresented crypto oldRefreshToken token) (fun seen' _ =>
      seen' = seen ∧ token.isRevoked = false ∧
        crypto.tokens.verifyHash token.tokenHash oldRefreshToken = true) seen := by
  refine Backed.bind (Q := fun seen' _ => seen' = seen ∧ token.isRevoked = false) ?_
    fun seen' _ ⟨hseen, hlive⟩ _ _ => backed_lift_bind fun _ _ => backed_lift fun _ hhash =>
      ⟨hseen, hlive, require_ok hhash⟩
  unfold rejectIfRevoked
  split
  · refine backed_drawn_bind fun _ _ => ?_
    split
    · trivial
    · exact fun _ _ => ⟨trivial, fun _ _ _ => trivial⟩
  · rename_i hlive
    exact backed_pure ⟨rfl, Bool.not_eq_true _ ▸ hlive⟩

/-- The call goes on with what is found open. -/
theorem rested_orRevoke {familyId : Uuid} {result : Except AppError Unit} :
    Rested crypto client call (orRevoke familyId result) (fun seen' _ =>
      seen' = seen ∧ result = .ok ()) seen := by
  cases result with
  | ok u => exact backed_pure ⟨rfl, rfl⟩
  | error e => exact fun _ _ => ⟨trivial, fun _ _ _ => trivial⟩

theorem rested_requireUsableOrRevoke (hPs : InOrder Ps seen) {familyId : Uuid} {user : User} :
    Rested crypto client call (requireUsableOrRevoke familyId user) (fun seen' _ =>
      ¬ TokenService.blockedStatus user ∧ InOrder (Ps ++ tenantCheck user) seen') seen := by
  refine fun env n => rested_orRevoke.bind fun seen₁ _ ⟨hseen, haccount⟩ => ?_
  subst hseen
  obtain ⟨_, hopen, -⟩ := bind_eq_ok.mp haccount
  refine (rested_tenantOpen hPs).bind fun seen₂ result hchecks => ?_
  refine rested_orRevoke.mono fun seen' _ ⟨hseen, hok⟩ => ?_
  subst hseen
  exact ⟨of_decide_eq_true (require_ok hopen), hchecks hok⟩

theorem rested_rotateRefreshToken {oldRefreshToken : String}
    {ipAddress userAgent : Option String} :
    Rested crypto client (.rotate oldRefreshToken ipAddress userAgent)
      (rotateRefreshToken crypto oldRefreshToken ipAddress userAgent) (fun _ _ => True) [] := by
  refine rested_findPresented.bind fun seen₁ presented hpresented => ?_
  obtain ⟨payload, token, user⟩ := presented
  obtain ⟨verifiedAt, hverified, hfound⟩ := hpresented
  refine rested_checkPresented.bind fun seen₂ _ hchecked => ?_
  obtain ⟨hseen, hlive, hhash⟩ := hchecked
  subst hseen
  refine Backed.bind (Q := fun seen' _ => ∃ revokedAt, InOrder (rotationChecks payload token user
    verifiedAt revokedAt) seen') ?_ fun seen₃ _ hrevoked => ?_
  · refine fun env n => ⟨trivial, fun s s' hok => ⟨env.clock n, hfound.snoc ?_⟩⟩
    simp only [signInStatements, SignInStatement.exec] at hok
    split at hok
    · assumption
    · cases hok
  · obtain ⟨revokedAt, hclaimed⟩ := hrevoked
    refine (rested_requireUsableOrRevoke hclaimed).bind fun seen₄ _ husable => ?_
    obtain ⟨hopen, hall⟩ := husable
    exact rested_createTokenPair ⟨payload, token, user, verifiedAt, revokedAt, rfl, rfl, hverified,
      hhash, hlive, hopen, hall⟩

theorem rested_signIn (crypto : AuthCrypto) (client : GoogleClient) (call : SignInCall) :
    Rested crypto client call (signIn crypto client call) (fun _ _ => True) [] := by
  cases call with
  | login dto => exact rested_login.next fun _ _ => trivial
  | google code ipAddress userAgent => exact rested_handleGoogleCallback.next fun _ _ => trivial
  | rotate oldRefreshToken ipAddress userAgent =>
    exact rested_rotateRefreshToken.next fun _ _ => trivial

end backed

section statement
variable {st : SignInStatement} {s s' : Store}

theorem SessionStored.of_mem {row : RefreshToken String} (h : row ∈ s.refreshTokens) :
    SessionStored row s :=
  ⟨row, h, rfl, rfl, rfl⟩

theorem SessionStored.trans {row old : RefreshToken String} (h : SessionStored old s)
    (hid : old.id = row.id) (huser : old.userId = row.userId)
    (hfamily : old.familyId = row.familyId) : SessionStored row s := by
  obtain ⟨older, holder, hid', huser', hfamily'⟩ := h
  exact ⟨older, holder, hid'.trans hid, huser'.trans huser, hfamily'.trans hfamily⟩

/-- A revocation leaves id, user and family of every row. -/
theorem sessions_of_revoke {p : RefreshToken String → Prop} [DecidablePred p] {revokedAt : Time}
    {reason : String} {row : RefreshToken String}
    (h : row ∈ (s.revokeTokens p revokedAt reason).refreshTokens) :
    SessionStored row s := by
  rcases Table.mem_updateMany.mp h with ⟨old, hold, -, rfl⟩ | ⟨hold, -⟩
  · exact ⟨old, hold, rfl, rfl, rfl⟩
  · exact .of_mem hold

theorem updateUser_sessions {id : Uuid} {f : User → User}
    (h : SignInStatement.updateUser id f s = .ok s') :
    s'.refreshTokens = s.refreshTokens ∧ s'.oauthAccounts = s.oauthAccounts := by
  unfold SignInStatement.updateUser at h
  split at h
  · cases h
    exact ⟨rfl, rfl⟩
  · cases h

/-- Sessions and links come from one kind of statement each. -/
theorem sessions_of_exec (h : st.exec s = .ok s') :
    (∀ row ∈ s'.refreshTokens, SessionStored row s ∨ st = .createToken row) ∧
    ∀ link ∈ s'.oauthAccounts, link ∈ s.oauthAccounts ∨ st = .linkGoogle link := by
  have hrows : ∀ {rows}, rows = s.refreshTokens → ∀ row ∈ rows,
      SessionStored row s ∨ st = .createToken row := by
    rintro rows rfl row hrow
    exact .inl (.of_mem hrow)
  have hlinks : ∀ {links}, links = s.oauthAccounts → ∀ link ∈ links,
      link ∈ s.oauthAccounts ∨ st = .linkGoogle link := by
    rintro links rfl link hlink
    exact .inl hlink
  cases st with
  | find kind | audit row =>
    cases h
    exact ⟨hrows rfl, hlinks rfl⟩
  | recordFailure | recordLogin =>
    obtain ⟨htokens, haccounts⟩ := updateUser_sessions h
    exact ⟨hrows htokens, hlinks haccounts⟩
  | revokeFamily familyId reason revokedAt =>
    cases h
    exact ⟨fun row hrow => .inl (sessions_of_revoke hrow), hlinks rfl⟩
  | claimToken id revokedAt =>
    simp only [SignInStatement.exec] at h
    split at h
    · cases h
      exact ⟨fun row hrow => .inl (sessions_of_revoke hrow), hlinks rfl⟩
    · cases h
  | createToken row =>
    simp only [SignInStatement.exec] at h
    split at h
    · cases h
      refine ⟨fun row' hrow => ?_, hlinks rfl⟩
      rcases List.mem_cons.mp hrow with rfl | hold
      · exact .inr rfl
      · exact .inl (.of_mem hold)
    · cases h
  | linkGoogle link =>
    simp only [SignInStatement.exec] at h
    split at h
    · cases h
      refine ⟨hrows rfl, fun link' hlink => ?_⟩
      rcases List.mem_append.mp hlink with hold | hnew
      · exact .inl hold
      · rw [List.mem_singleton.mp hnew]
        exact .inr rfl
    · cases h

end statement

section runs
variable {crypto : AuthCrypto} {client : GoogleClient} {userId familyId : Uuid}
  {states states' : List Store} {call : SignInCall}

theorem Grounds.mono (h : Grounds crypto client userId familyId states call)
    (hle : states.Sublist states') : Grounds crypto client userId familyId states' call := by
  cases call with
  | login dto =>
    obtain ⟨user, hid, hshown, hallowed, hchecks⟩ := h
    exact ⟨user, hid, hshown, hallowed, hchecks.mono hle⟩
  | google code ipAddress userAgent =>
    obtain ⟨googleUser, user, checks, hid, hvouched, hopen, hidentified, hchecks⟩ := h
    exact ⟨googleUser, user, checks, hid, hvouched, hopen, hidentified, hchecks.mono hle⟩
  | rotate oldRefreshToken ipAddress userAgent =>
    obtain ⟨payload, token, user, verifiedAt, revokedAt, hsub, hfamily, hverified, hhash, hlive,
      hopen, hchecks⟩ := h
    exact ⟨payload, token, user, verifiedAt, revokedAt, hsub, hfamily, hverified, hhash, hlive,
      hopen, hchecks.mono hle⟩

theorem LinkGrounds.mono {link : OAuthAccount} (h : LinkGrounds client link states call)
    (hle : states.Sublist states') : LinkGrounds client link states' call := by
  cases call with
  | google code ipAddress userAgent =>
    obtain ⟨googleUser, user, hvouched, hlink, hchecks⟩ := h
    exact ⟨googleUser, user, hvouched, hlink, hchecks.mono hle⟩
  | login | rotate => cases h

/-- A rotation has seen a session of the same user and family. -/
theorem Grounds.session_of_rotation (h : Grounds crypto client userId familyId states call)
    (hrotation : call.presentsCredentials = false) : ∃ s ∈ states, HasSession userId familyId s := by
  cases call with
  | login | google => cases hrotation
  | rotate oldRefreshToken ipAddress userAgent =>
    obtain ⟨payload, token, user, verifiedAt, revokedAt, rfl, rfl, -, -, -, -, hchecks⟩ := h
    obtain ⟨s, hs, hfound⟩ := hchecks.exists_of_mem List.mem_cons_self
    obtain ⟨htoken, hfamily, huser⟩ := TokenService.findStored_spec hfound
    exact ⟨s, hs, token, htoken, huser, hfamily⟩

end runs

section demo

/-- The first token of a session is told from the others. -/
def originCrypto : AuthCrypto :=
  { sampleCrypto with
    tokens :=
      { sampleCrypto.tokens with
        signRefresh := fun payload _ => if payload.jti = some 11 then "first" else
          if payload.jti = some 21 then "second" else "other"
        verifyRefresh := fun text _ => if text = "first" then .ok ⟨1, 10, .refresh, some 11⟩
          else .error .invalid } }

def originClient : GoogleClient where
  getToken code := .ok (some code)
  verifyIdToken _ := .ok (some ⟨"g1", some "ann@example.com", some true⟩)

def originStore : Store where
  tickets := []
  comments := []
  customers := []
  tenants := []
  users := [
    { (default : User) with
      id := 1
      email := "ann@example.com"
      passwordHash := some "pw"
      role := .platformAdmin
      status := .active }]
  refreshTokens := []
  sequences := []
  activities := []
  audits := []
  outbox := []

/-- The password is changed between the calls. -/
def newPassword : AccountWrite where
  db s := s.updateUser 1 fun row => { row with passwordHash := some "new" }
  sessions _ _ hrow := .of_mem hrow
  links _ := List.Subset.refl _

def originTurn (p n : Nat) : Move (Turn ServiceEnv SignInCall) AccountWrite :=
  .act p (.next sampleEnv n)

/-- A login, a rotation of its token, and a Google callback that links the account. -/
def threeSessions : List (Move (Turn ServiceEnv SignInCall) AccountWrite) :=
  .act 0 (.start (.login ⟨"ann@example.com", "pw", none, none⟩)) ::
    [1, 1, 1, 1, 1, 1, 10, 11, 1, 1, 1, 1, 1, 1].map (originTurn 0) ++ [.env newPassword] ++
    .act 0 (.start (.rotate "first" none none)) ::
    [1, 1, 1, 1, 1, 1, 21, 1, 1, 1, 1].map (originTurn 0) ++
    .act 1 (.start (.google "code" none none)) ::
    [1, 1, 1, 1, 1, 1, 30, 31, 1, 1, 1, 1].map (originTurn 1)

end demo
end OmniSupport.Auth
