import OmniSupport.Auth.TokenStore
import OmniSupport.Foundation.Pool

/-! The token service: any number of logins and rotations in flight, each a sequence of
statements, together with the revocations, which are one statement each. -/
namespace OmniSupport.Auth
open Foundation

inductive TokenType where
  | access
  | refresh
  deriving DecidableEq

structure RefreshTokenPayload where
  sub : Uuid
  familyId : Uuid
  type : TokenType
  jti : Option Uuid
  deriving DecidableEq

structure AccessTokenPayload where
  sub : Uuid
  tenantId : Option Uuid
  role : UserRole
  email : String
  type : TokenType
  deriving DecidableEq

inductive JwtError where
  | expired
  | invalid
  deriving DecidableEq

/-- `jsonwebtoken` under the two secrets, and `argon2` with its salt made explicit. -/
structure TokenCrypto (Jwt Hash : Type) where
  signRefresh : RefreshTokenPayload → Time → Jwt
  verifyRefresh : Jwt → Time → Except JwtError RefreshTokenPayload
  signAccess : AccessTokenPayload → Time → Jwt
  hash : Jwt → Nat → Hash
  verifyHash : Hash → Jwt → Bool

structure JwtConfig where
  accessExpiresInSeconds : Nat
  refreshExpiresInMs : Nat

def rotationGraceMs : Nat := 10000

structure TokenPair (Jwt : Type) where
  accessToken : Jwt
  refreshToken : Jwt
  expiresIn : Nat
  userId : Uuid
  tenantId : Option Uuid
  role : UserRole
  email : String

/-- A rotation: the verified payload and what the client presented. -/
structure Rotation (Jwt : Type) where
  payload : RefreshTokenPayload
  oldRefreshToken : Jwt
  ipAddress : Option String
  userAgent : Option String

/-- The arguments of `createTokenPair`. -/
structure Session where
  userId : Uuid
  tenantId : Option Uuid
  role : UserRole
  email : String
  ipAddress : Option String
  userAgent : Option String
  familyId : Uuid

/-- Where a call of the service stands: each constructor but the first and the last
names the statement it is about to run. -/
inductive Call (Jwt Hash : Type) where
  | idle
  | finding (r : Rotation Jwt)
  | checking (r : Rotation Jwt) (stored : RefreshToken Hash) (user : User)
  | claiming (r : Rotation Jwt) (stored : RefreshToken Hash) (user : User)
  | usable (r : Rotation Jwt) (user : User)
  | issuing (session : Session)
  | creating (session : Session) (tokenId : Uuid) (refreshToken : Jwt) (tokenHash : Hash)
  | revoking (familyId : Uuid) (reason : String) (error : AppError)
  | finished (result : Except AppError (TokenPair Jwt))

/-- `next` runs the statement a call waits for and the code up to the one after it;
`fail` lets that statement throw. -/
inductive CallStep (Jwt : Type) where
  | login (user : User) (ipAddress userAgent : Option String) (familyId : Uuid)
  | rotate (oldRefreshToken : Jwt) (ipAddress userAgent : Option String)
  | issue (tokenId : Uuid) (salt : Nat)
  | next
  | fail

/-- The calls that are one statement, and the writes of other services on the account
rows. -/
inductive TokenEvent (Jwt : Type) where
  | revokeToken (refreshToken : Jwt)
  | revokeAllUserTokens (userId : Uuid) (reason : String)
  | revokeAllTenantTokens (tenantId : Uuid) (reason : String)
  | cleanupExpiredTokens
  | saveUser (user : User)
  | saveTenant (tenant : Tenant)
  | tick (ms : Nat)

namespace TokenService
variable {Jwt Hash : Type} [DecidableEq Hash] (crypto : TokenCrypto Jwt Hash) (config : JwtConfig)

def verifyRefreshToken (token : Jwt) (now : Time) : Except AppError RefreshTokenPayload :=
  match crypto.verifyRefresh token now with
  | .error .expired => .error (.unauthorized "Refresh token expired")
  | .error .invalid => .error (.unauthorized "Invalid refresh token")
  | .ok payload =>
    if payload.type ≠ .refresh then .error (.unauthorized "Invalid refresh token")
    else .ok payload

def findStored (s : TokenStore Hash) (payload : RefreshTokenPayload) :
    Option (RefreshToken Hash × User) :=
  match payload.jti with
  | some jti => s.findTokenById jti payload.sub payload.familyId
  | none => s.findLegacyActiveToken payload.sub payload.familyId

def recentlyRotated (token : RefreshToken Hash) (now : Time) : Bool :=
  token.revokedReason = some "ROTATED" &&
    token.revokedAt.any fun revokedAt => now - revokedAt < rotationGraceMs

def handleRevokedTokenUse (token : RefreshToken Hash) (now : Time) : Call Jwt Hash :=
  if recentlyRotated token now then
    .finished (.error (.unauthorized "Refresh token already used"))
  else
    .revoking token.familyId "TOKEN_REUSE_DETECTED"
      (.unauthorized "Token reuse detected. Please login again.")

/-- The code of a rotation between the read and the claim. -/
def checkStored (r : Rotation Jwt) (stored : RefreshToken Hash) (user : User) (now : Time) :
    Call Jwt Hash :=
  if stored.isRevoked then handleRevokedTokenUse stored now
  else if stored.expiresAt < now then
    .finished (.error (.unauthorized "Refresh token expired"))
  else if !crypto.verifyHash stored.tokenHash r.oldRefreshToken then
    .finished (.error (.unauthorized "Invalid refresh token"))
  else .claiming r stored user

/-- The part of `assertAccountUsable` that looks at the user alone and never changes its
answer for a given copy of the row. -/
def blockedStatus (user : User) : Prop :=
  user.status = .suspended ∨ user.status = .inactive

instance (user : User) : Decidable (blockedStatus user) :=
  inferInstanceAs (Decidable (_ ∨ _))

def assertAccountUsable (s : TokenStore Hash) (user : User) : Except AppError Unit :=
  if blockedStatus user then .error (.forbidden "Your account is not active")
  else if user.lockedUntil.any fun lockedUntil => s.now < lockedUntil then
    .error (.unauthorized "Account is temporarily locked")
  else match user.tenantId with
    | none => .ok ()
    | some tenantId =>
      match s.findTenant tenantId with
      | none => .error (.forbidden "Your organization account is not active")
      | some tenant =>
        if tenant.status = .suspended ∨ tenant.status = .cancelled then
          .error (.forbidden "Your organization account is not active")
        else .ok ()

def rotationSession (r : Rotation Jwt) (user : User) : Session :=
  ⟨r.payload.sub, user.tenantId, user.role, user.email, r.ipAddress, r.userAgent,
    r.payload.familyId⟩

def loginSession (user : User) (ipAddress userAgent : Option String) (familyId : Uuid) :
    Session :=
  ⟨user.id, user.tenantId, user.role, user.email, ipAddress, userAgent, familyId⟩

/-- The row of `refreshToken.create` in `createTokenPair`. -/
def newRow (session : Session) (tokenId : Uuid) (tokenHash : Hash) (now : Time) :
    RefreshToken Hash where
  id := tokenId
  userId := session.userId
  tokenHash := tokenHash
  familyId := session.familyId
  isRevoked := false
  revokedAt := none
  revokedReason := none
  expiresAt := now + config.refreshExpiresInMs
  ipAddress := session.ipAddress
  userAgent := session.userAgent
  createdAt := now

def tokenPair (session : Session) (refreshToken : Jwt) (now : Time) : TokenPair Jwt where
  accessToken := crypto.signAccess
    ⟨session.userId, session.tenantId, session.role, session.email, .access⟩ now
  refreshToken := refreshToken
  expiresIn := config.accessExpiresInSeconds
  userId := session.userId
  tenantId := session.tenantId
  role := session.role
  email := session.email

def next (s : TokenStore Hash) : Call Jwt Hash → Option (TokenStore Hash × Call Jwt Hash)
  | .finding r =>
    match findStored s r.payload with
    | none => some (s, .finished (.error (.unauthorized "Refresh token not found")))
    | some (stored, user) => some (s, .checking r stored user)
  | .checking r stored user => some (s, checkStored crypto r stored user s.now)
  | .claiming r stored user =>
    if s.claimable stored.id then some (s.claim stored.id, .usable r user)
    else some (s, .finished (.error (.unauthorized "Refresh token already used")))
  | .usable r user =>
    match assertAccountUsable s user with
    | .error e => some (s, .revoking r.payload.familyId "ACCOUNT_NOT_USABLE" e)
    | .ok () => some (s, .issuing (rotationSession r user))
  | .creating session tokenId refreshToken tokenHash =>
    if s.insertable (newRow config session tokenId tokenHash s.now) then
      some (s.insert (newRow config session tokenId tokenHash s.now),
        .finished (.ok (tokenPair crypto config session refreshToken s.now)))
    else some (s, .finished (.error .database))
  | .revoking familyId reason e => some (s.revokeTokenFamily familyId reason, .finished (.error e))
  | .idle | .issuing _ | .finished _ => none

/-- A statement throws. The account check, whose only statement reads the tenant, is
alone wrapped in a `catch`. -/
def fail (s : TokenStore Hash) : Call Jwt Hash → Option (TokenStore Hash × Call Jwt Hash)
  | .idle | .finished _ => none
  | .usable r user =>
    if user.tenantId.isNone then none
    else some (s, .revoking r.payload.familyId "ACCOUNT_NOT_USABLE" .database)
  | .finding _ | .checking .. | .claiming .. | .issuing _ | .creating .. | .revoking .. =>
    some (s, .finished (.error .database))

/-- `createTokenPair` up to its insert: a fresh token id, the signed token, its hash. -/
def issue (s : TokenStore Hash) (tokenId : Uuid) (salt : Nat) :
    Call Jwt Hash → Option (TokenStore Hash × Call Jwt Hash)
  | .issuing session =>
    let refreshToken := crypto.signRefresh
      ⟨session.userId, session.familyId, .refresh, some tokenId⟩ s.now
    if tokenId ∈ s.history.uuids then none
    else some (s.drawUuid tokenId,
      .creating session tokenId refreshToken (crypto.hash refreshToken salt))
  | _ => none

def start (s : TokenStore Hash) : CallStep Jwt → Option (TokenStore Hash × Call Jwt Hash)
  | .login user ipAddress userAgent familyId =>
    if familyId ∈ s.history.uuids then none
    else some (s.openSession familyId user.id,
      .issuing (loginSession user ipAddress userAgent familyId))
  | .rotate token ipAddress userAgent =>
    match verifyRefreshToken crypto token s.now with
    | .error e => some (s, .finished (.error e))
    | .ok payload => some (s, .finding ⟨payload, token, ipAddress, userAgent⟩)
  | _ => none

def act (s : TokenStore Hash) (call : Call Jwt Hash) :
    CallStep Jwt → Option (TokenStore Hash × Call Jwt Hash)
  | .next => next crypto config s call
  | .fail => fail s call
  | .issue tokenId salt => issue crypto s tokenId salt call
  | step => match call with
    | .idle => start crypto s step
    | _ => none

def event (s : TokenStore Hash) : TokenEvent Jwt → TokenStore Hash
  | .revokeToken token =>
    match verifyRefreshToken crypto token s.now with
    | .error _ => s
    | .ok payload => s.revokeSession payload.sub payload.familyId
  | .revokeAllUserTokens userId reason => s.revokeAllUserTokens userId reason
  | .revokeAllTenantTokens tenantId reason => s.revokeAllTenantTokens tenantId reason
  | .cleanupExpiredTokens => s.cleanupExpiredTokens
  | .saveUser user => s.saveUser user
  | .saveTenant tenant => s.saveTenant tenant
  | .tick ms => s.tick ms

def program : Program (TokenStore Hash) (Call Jwt Hash) (CallStep Jwt) (TokenEvent Jwt) where
  act _ := act crypto config
  env s e := some (event crypto s e)

def machine : Machine (Pool (TokenStore Hash) (Call Jwt Hash)) (Move (CallStep Jwt) (TokenEvent Jwt)) :=
  (program crypto config).machine

/-- No token exists and no call is in flight. -/
def init (users : List User) (tenants : List Tenant) (now : Time) :
    Pool (TokenStore Hash) (Call Jwt Hash) :=
  ⟨TokenStore.init users tenants now, fun _ => .idle⟩

end TokenService
end OmniSupport.Auth
