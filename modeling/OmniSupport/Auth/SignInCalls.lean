import OmniSupport.Auth.OAuthService
import OmniSupport.Foundation.Interference
import OmniSupport.Foundation.ReadCommitted

/-! Signing in and staying signed in, statement by statement: logins, Google callbacks and
rotations among other writes. Run alone, the first two are the methods of the services. -/
namespace OmniSupport.Auth
open Foundation Database

/-- The statements of the calls, on the root client but for the audit. -/
inductive SignInStatement where
  | find (kind : ServiceCall)
  | recordFailure (userId : Uuid) (failedAttempts : Nat) (failedAt writtenAt : Time)
  | recordLogin (userId : Uuid) (ipAddress : Option String) (lastLoginAt writtenAt : Time)
  | linkGoogle (row : OAuthAccount)
  | claimToken (id : Uuid) (revokedAt : Time)
  | revokeFamily (familyId : Uuid) (reason : String) (revokedAt : Time)
  | createToken (row : RefreshToken String)
  | audit (row : AuditLog)

namespace SignInStatement

def updateUser (id : Uuid) (f : User → User) (s : Store) : Except AppError Store :=
  if (s.findUser id).isSome then .ok (s.updateUser id f) else .error .database

def exec : SignInStatement → Store → Except AppError Store
  | find _, s => .ok s
  | recordFailure userId failedAttempts failedAt writtenAt, s =>
    updateUser userId (AuthService.failedLogin failedAttempts failedAt writtenAt) s
  | recordLogin userId ipAddress lastLoginAt writtenAt, s =>
    updateUser userId (AuthService.loggedIn ipAddress lastLoginAt writtenAt) s
  | linkGoogle row, s =>
    if (s.findOAuthAccount row.provider row.providerUid).isNone ∧ (s.findUser row.userId).isSome
    then .ok (s.insertOAuthAccount row) else .error .database
  | claimToken id revokedAt, s =>
    if (s.tokenStore revokedAt).claimable id then
      .ok (s.revokeTokens (fun token => token.id = id) revokedAt "ROTATED")
    else .error (.unauthorized "Refresh token already used")
  | revokeFamily familyId reason revokedAt, s =>
    .ok (s.revokeTokens (fun token => token.familyId = familyId) revokedAt reason)
  | createToken row, s =>
    if (s.tokenStore row.createdAt).insertable row then .ok (s.insertRefreshToken row)
    else .error .database
  | audit row, s => .ok (s.insertAudit row)

def kind : SignInStatement → ServiceCall
  | find kind => kind
  | recordFailure .. | recordLogin .. => .userUpdate
  | linkGoogle _ => .oauthAccountCreate
  | claimToken .. | revokeFamily .. => .refreshTokenUpdateMany
  | createToken _ => .refreshTokenCreate
  | audit _ => .auditCreate

def client : SignInStatement → Client
  | audit _ => .ambient
  | _ => .root

end SignInStatement

def signInStatements : Statements Store SignInStatement ServiceCall AppError where
  exec := SignInStatement.exec
  kind := SignInStatement.kind
  client := SignInStatement.client
  error := .database

abbrev SignInProcess := Process ServiceEnv Store SignInStatement AppError

inductive SignInCall where
  | login (dto : LoginDto)
  | google (code : String) (ipAddress userAgent : Option String)
  | rotate (oldRefreshToken : String) (ipAddress userAgent : Option String)

namespace SignInCalls
open Process

def find {α : Type} (kind : ServiceCall) (f : Store → α) : SignInProcess α :=
  statement (.find kind) f

def now : SignInProcess Time := drawn ServiceEnv.clock

def audit (entry : Time → AuditLog) : SignInProcess Unit := do
  let occurredAt ← now
  tryExecute (.audit (entry occurredAt))

/-- The organization of the copy, if it has one, as it is by now. -/
def tenantOpen (user : User) : SignInProcess (Except AppError Unit) :=
  match user.tenantId with
  | none => return .ok ()
  | some tenantId => do
    let tenant ← find .tenantFind (Store.findTenant tenantId)
    return require (tenant.any fun row => !TokenService.blockedTenant row)
      (.forbidden "Your organization account is not active")

def accountOpen (user : User) (checkedAt : Time) : Except AppError Unit := do
  require (¬ TokenService.blockedStatus user) (.forbidden "Your account is not active")
  require (!AuthService.isLocked checkedAt user) (.unauthorized "Account is temporarily locked")

section calls
variable (crypto : AuthCrypto) (client : GoogleClient)

def createTokenPair (session : Session) : SignInProcess (TokenPair String) := do
  let tokenId ← drawn ServiceEnv.uuid
  let signedAt ← now
  let refreshToken := crypto.tokens.signRefresh
    ⟨session.userId, session.familyId, .refresh, some tokenId⟩ signedAt
  let tokenHash ← drawn fun _ salt => crypto.tokens.hash refreshToken salt
  let createdAt ← now
  execute (.createToken (TokenService.newRow crypto.config session tokenId tokenHash createdAt))
  return TokenService.tokenPair crypto.tokens crypto.config session refreshToken createdAt

def refuseLogin {α : Type} : Option User → SignInProcess α
  | none => lift (.error (.unauthorized "Invalid email or password"))
  | some user => do
    let failedAt ← now
    let writtenAt ← now
    execute (.recordFailure user.id (user.failedLoginAttempts + 1) failedAt writtenAt)
    lift (.error (.unauthorized "Invalid email or password"))

def checkTenant (user : User) : SignInProcess Unit :=
  match user.tenantId with
  | none => return ()
  | some tenantId => do
    let tenant ← find .tenantFind (Store.findTenant tenantId)
    lift (AuthService.tenantAllowsLogin tenant)

def openSession (dto : LoginDto) (user : User) : SignInProcess (TokenPair String) := do
  let lastLoginAt ← now
  let writtenAt ← now
  execute (.recordLogin user.id dto.ipAddress lastLoginAt writtenAt)
  let familyId ← drawn ServiceEnv.uuid
  let tokenPair ← createTokenPair crypto
    (TokenService.loginSession user dto.ipAddress dto.userAgent familyId)
  audit (AuthService.loginAudit dto user)
  return tokenPair

def acceptLogin (dto : LoginDto) (user : User) : SignInProcess (TokenPair String) := do
  lift (AuthService.loginAllowed user)
  checkTenant user
  openSession crypto dto user

def login (dto : LoginDto) : SignInProcess (TokenPair String) := do
  let found ← find .userFind (Store.findUserByEmail (JsText.toLowerCase dto.email))
  let checkedAt ← now
  let isValidPassword ← find .passwordVerify fun _ =>
    crypto.verifyPassword ((found.bind User.passwordHash).getD crypto.dummyPasswordHash)
      dto.password
  match AuthService.credentials found checkedAt isValidPassword with
  | .error counted => refuseLogin counted
  | .ok user => acceptLogin crypto dto user

def findByEmailAndLink (googleUser : GoogleUserInfo) : SignInProcess User := do
  let found ← find .userFind (Store.findUserByEmail (JsText.toLowerCase googleUser.email))
  let user ← lift (orThrow (.forbidden "No account exists for this Google identity") found)
  execute (.linkGoogle ⟨user.id, "google", googleUser.googleId⟩)
  return user

def findOrCreateGoogleUser (googleUser : GoogleUserInfo) : SignInProcess User := do
  let linked ← find .oauthAccountFind (OAuthService.linkedUser googleUser)
  match linked with
  | some user => return user
  | none => findByEmailAndLink googleUser

def identify (code : String) : SignInProcess GoogleUserInfo := do
  let exchanged ← find .googleExchange fun _ => OAuthService.identityToken client code
  let idToken ← lift exchanged
  let verified ← find .googleExchange fun _ => OAuthService.googleUser client idToken
  lift verified

def requireAccountUsable (user : User) : SignInProcess Unit := do
  lift (require (¬ TokenService.blockedStatus user) (.forbidden "Your account is not active"))
  let checkedAt ← now
  lift (require (!AuthService.isLocked checkedAt user)
    (.unauthorized "Account is temporarily locked"))
  let tenant ← tenantOpen user
  lift tenant

def handleGoogleCallback (code : String) (ipAddress userAgent : Option String) :
    SignInProcess (TokenPair String) := do
  let googleUser ← identify client code
  let user ← findOrCreateGoogleUser googleUser
  requireAccountUsable user
  let familyId ← drawn ServiceEnv.uuid
  createTokenPair crypto (TokenService.loginSession user ipAddress userAgent familyId)

def revokeTokenFamily (familyId : Uuid) (reason : String) : SignInProcess Unit := do
  let revokedAt ← now
  execute (.revokeFamily familyId reason revokedAt)

/-- `handleRevokedTokenUse` throws whatever the token is. -/
def rejectIfRevoked (token : RefreshToken String) : SignInProcess Unit :=
  if token.isRevoked then do
    let usedAt ← now
    if TokenService.recentlyRotated token usedAt then
      lift (.error (.unauthorized "Refresh token already used"))
    else do
      revokeTokenFamily token.familyId "TOKEN_REUSE_DETECTED"
      lift (.error (.unauthorized "Token reuse detected. Please login again."))
  else return ()

/-- The sessions of an account that may not go on are ended. -/
def orRevoke (familyId : Uuid) : Except AppError Unit → SignInProcess Unit
  | .ok () => return ()
  | .error e => do
    revokeTokenFamily familyId "ACCOUNT_NOT_USABLE"
    lift (.error e)

/-- A failed read ends the call; the revocation after it is then among the writes of others. -/
def requireUsableOrRevoke (familyId : Uuid) (user : User) : SignInProcess Unit := do
  let checkedAt ← now
  orRevoke familyId (accountOpen user checkedAt)
  let tenant ← tenantOpen user
  orRevoke familyId tenant

def claimToken (id : Uuid) : SignInProcess Unit := do
  let revokedAt ← now
  execute (.claimToken id revokedAt)

/-- The stored token that a rotation presents, with its user. -/
def findPresented (oldRefreshToken : String) :
    SignInProcess (RefreshTokenPayload × RefreshToken String × User) := do
  let verifiedAt ← now
  let payload ← lift (TokenService.verifyRefreshToken crypto.tokens oldRefreshToken verifiedAt)
  let found ← find .refreshTokenFind fun s =>
    TokenService.findStored (s.tokenStore verifiedAt) payload
  let stored ← lift (orThrow (.unauthorized "Refresh token not found") found)
  return (payload, stored)

def checkPresented (oldRefreshToken : String) (token : RefreshToken String) :
    SignInProcess Unit := do
  rejectIfRevoked token
  let usedAt ← now
  lift (require (!decide (token.expiresAt < usedAt)) (.unauthorized "Refresh token expired"))
  lift (require (crypto.tokens.verifyHash token.tokenHash oldRefreshToken)
    (.unauthorized "Invalid refresh token"))

def rotateRefreshToken (oldRefreshToken : String) (ipAddress userAgent : Option String) :
    SignInProcess (TokenPair String) := do
  let presented ← findPresented crypto oldRefreshToken
  checkPresented crypto oldRefreshToken presented.2.1
  claimToken presented.2.1.id
  requireUsableOrRevoke presented.1.familyId presented.2.2
  createTokenPair crypto (TokenService.rotationSession
    ⟨presented.1, oldRefreshToken, ipAddress, userAgent⟩ presented.2.2)

/-- The answers of the calls are not looked at. -/
def signIn : SignInCall → SignInProcess Unit
  | .login dto => do
    let _ ← login crypto dto
  | .google code ipAddress userAgent => do
    let _ ← handleGoogleCallback crypto client code ipAddress userAgent
  | .rotate oldRefreshToken ipAddress userAgent => do
    let _ ← rotateRefreshToken crypto oldRefreshToken ipAddress userAgent

end calls

section alone
variable {crypto : AuthCrypto} {client : GoogleClient}

theorem find_alone {α : Type} (kind : ServiceCall) (f : Store → α) :
    (find kind f).toEffect signInStatements = Prisma.find .root kind f :=
  toEffect_read (fun _ => rfl) f

theorem now_alone : now.toEffect signInStatements = OmniSupport.Database.now := rfl

theorem createTokenPair_alone (session : Session) :
    (createTokenPair crypto session).toEffect signInStatements =
      TokenService.createTokenPair crypto session := by
  simp only [createTokenPair, toEffect_bind, now_alone, toEffect_drawn, toEffect_pure]
  refine congrArg _ (funext fun tokenId => congrArg _ (funext fun signedAt => congrArg _
    (funext fun tokenHash => congrArg _ (funext fun createdAt => ?_))))
  rw [execute, toEffect_statement]
  refine congrArg (· >>= _) (congrArg _ (funext fun s => ?_))
  simp only [signInStatements, SignInStatement.exec]
  split <;> rfl

theorem audit_alone (entry : Time → AuditLog) :
    (audit entry).toEffect signInStatements = AuditRepository.create entry := by
  simp only [audit, toEffect_bind, now_alone, toEffect_tryExecute]
  rfl

theorem refuseLogin_alone {α : Type} (counted : Option User) :
    (refuseLogin counted : SignInProcess α).toEffect signInStatements =
      AuthService.refuseLogin counted := by
  cases counted with
  | none => rfl
  | some user =>
    simp only [refuseLogin, toEffect_bind, now_alone, toEffect_lift, AuthService.refuseLogin,
      AuthService.recordFailedLogin, bind_assoc]
    refine congrArg _ (funext fun failedAt => congrArg _ (funext fun writtenAt => ?_))
    rw [execute, toEffect_statement]
    refine congrArg (· >>= _) (congrArg _ (funext fun s => ?_))
    simp only [signInStatements, SignInStatement.exec, SignInStatement.updateUser]
    split <;> rfl

theorem checkTenant_alone (user : User) :
    (checkTenant user).toEffect signInStatements = AuthService.checkTenant user := by
  unfold checkTenant AuthService.checkTenant
  cases user.tenantId with
  | none => rfl
  | some tenantId => simp only [toEffect_bind, find_alone, toEffect_lift]

theorem openSession_alone (dto : LoginDto) (user : User) :
    (openSession crypto dto user).toEffect signInStatements =
      AuthService.openSession crypto dto user := by
  simp only [openSession, toEffect_bind, now_alone, toEffect_drawn, createTokenPair_alone,
    audit_alone, toEffect_pure]
  refine congrArg _ (funext fun lastLoginAt => congrArg _ (funext fun writtenAt => ?_))
  rw [execute, toEffect_statement]
  refine congrArg (· >>= _) (congrArg _ (funext fun s => ?_))
  simp only [signInStatements, SignInStatement.exec, SignInStatement.updateUser]
  split <;> rfl

/-- Run alone, the statements of a login are the method of the service. -/
theorem login_alone (dto : LoginDto) :
    (login crypto dto).toEffect signInStatements = AuthService.login crypto dto := by
  simp only [login, toEffect_bind, find_alone, now_alone]
  refine congrArg _ (funext fun found => congrArg _ (funext fun checkedAt => congrArg _
    (funext fun isValidPassword => ?_)))
  cases AuthService.credentials found checkedAt isValidPassword with
  | error counted => exact refuseLogin_alone counted
  | ok user =>
    simp only [acceptLogin, toEffect_bind, toEffect_lift, checkTenant_alone, openSession_alone]
    rfl

theorem requireAccountUsable_alone (user : User) :
    (requireAccountUsable user).toEffect signInStatements =
      TokenService.requireAccountUsable user := by
  simp only [requireAccountUsable, toEffect_bind, now_alone, toEffect_lift]
  refine congrArg _ (funext fun _ => congrArg _ (funext fun checkedAt => congrArg _
    (funext fun _ => ?_)))
  unfold tenantOpen TokenService.requireTenantOpen
  cases user.tenantId with
  | none => rfl
  | some tenantId =>
    simp only [toEffect_bind, find_alone, toEffect_pure, bind_assoc, pure_bind]

theorem findByEmailAndLink_alone (googleUser : GoogleUserInfo) :
    (findByEmailAndLink googleUser).toEffect signInStatements =
      OAuthService.findByEmailAndLink googleUser := by
  simp only [findByEmailAndLink, toEffect_bind, find_alone, toEffect_lift, toEffect_pure]
  refine congrArg _ (funext fun found => congrArg _ (funext fun user => ?_))
  rw [execute, toEffect_statement]
  refine congrArg (· >>= _) (congrArg _ (funext fun s => ?_))
  simp only [signInStatements, SignInStatement.exec]
  split <;> rfl

theorem findOrCreateGoogleUser_alone (googleUser : GoogleUserInfo) :
    (findOrCreateGoogleUser googleUser).toEffect signInStatements =
      OAuthService.findOrCreateGoogleUser googleUser := by
  simp only [findOrCreateGoogleUser, toEffect_bind, find_alone]
  refine congrArg _ (funext fun linked => ?_)
  cases linked with
  | none => exact findByEmailAndLink_alone googleUser
  | some user => rfl

/-- Run alone, the statements of a Google callback are the method of the service. -/
theorem handleGoogleCallback_alone (code : String) (ipAddress userAgent : Option String) :
    (handleGoogleCallback crypto client code ipAddress userAgent).toEffect signInStatements =
      OAuthService.handleGoogleCallback crypto client code ipAddress userAgent := by
  simp only [handleGoogleCallback, identify, toEffect_bind, find_alone, toEffect_lift,
    findOrCreateGoogleUser_alone, requireAccountUsable_alone, toEffect_drawn,
    createTokenPair_alone, bind_assoc, OAuthService.handleGoogleCallback]

end alone
end SignInCalls
end OmniSupport.Auth
