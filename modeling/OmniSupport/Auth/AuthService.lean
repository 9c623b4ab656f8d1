import OmniSupport.Shared.JsText
import OmniSupport.Database.Statements

/-! Logging in, refreshing a session and resetting a password. -/
namespace OmniSupport.Auth
open Foundation Database

/-- The token crypto, the password hasher with its salt made explicit, the digest and the
random tokens, and the identity a Google code stands for. -/
structure AuthCrypto where
  tokens : TokenCrypto String String
  config : JwtConfig
  hashPassword : String → Nat → String
  verifyPassword : String → String → Bool
  dummyPasswordHash : String
  sha256 : String → String
  secureToken : Nat → String

/-- Tokens and hashes that carry their text, for evaluations. -/
def sampleCrypto : AuthCrypto where
  tokens :=
    { signRefresh := fun payload _ => String.ofList (List.replicate payload.sub 'r')
      verifyRefresh := fun text _ => .ok ⟨text.length, 0, .refresh, none⟩
      signAccess := fun payload _ => payload.email
      hash := fun token _ => token
      verifyHash := fun hash token => hash = token }
  config := ⟨900, 604800000⟩
  hashPassword password _ := password
  verifyPassword hash password := hash = password
  dummyPasswordHash := ""
  sha256 text := text
  secureToken n := String.ofList (List.replicate n 's')

namespace Password

/-- `length` counts UTF-16 units. -/
def length (text : String) : Nat :=
  text.toList.foldl (fun units ch => units + if ch.toNat < 0x10000 then 1 else 2) 0

def isUpper (ch : Char) : Bool := 'A' ≤ ch && ch ≤ 'Z'
def isLower (ch : Char) : Bool := 'a' ≤ ch && ch ≤ 'z'
def isNumber (ch : Char) : Bool := '0' ≤ ch && ch ≤ '9'

/-- Each rule with its message. -/
def rules (text : String) : List (Bool × String) :=
  [(8 ≤ length text, "Password must be at least 8 characters"),
    (text.toList.any isUpper, "Password must contain at least one uppercase letter"),
    (text.toList.any isLower, "Password must contain at least one lowercase letter"),
    (text.toList.any isNumber, "Password must contain at least one number"),
    (text.toList.any fun ch => !(isUpper ch || isLower ch || isNumber ch),
      "Password must contain at least one special character")]

def create (text : String) : Except AppError Unit :=
  let errors := ((rules text).filter fun rule => !rule.1).map Prod.snd
  require (errors = [])
    (.validationOf "Password does not meet requirements" [("password", errors)])

end Password

structure LoginDto where
  email : String
  password : String
  ipAddress : Option String
  userAgent : Option String

def lockoutThreshold : Nat := 5
def maxLockoutMinutes : Nat := 15

namespace AuthService

/-- The row has a password; an empty text is none. -/
def hasPassword (user : User) : Bool := user.passwordHash.any fun hash => hash ≠ ""

def isLocked (now : Time) (user : User) : Bool :=
  user.lockedUntil.any fun lockedUntil => now < lockedUntil

/-- The account whose password was given, or the account a failure is counted for. -/
def credentials (found : Option User) (checkedAt : Time) (isValidPassword : Bool) :
    Except (Option User) User :=
  match found with
  | none => .error none
  | some user =>
    if !hasPassword user || isLocked checkedAt user then .error none
    else if !isValidPassword then .error (some user)
    else .ok user

def lockoutMinutes (failedAttempts : Nat) : Nat :=
  min (Nat.pow 2 (failedAttempts - lockoutThreshold)) maxLockoutMinutes

/-- From the fifth failure on the account is locked for a while. -/
def failedLogin (failedAttempts : Nat) (failedAt writtenAt : Time) (row : User) : User :=
  { row with
    failedLoginAttempts := failedAttempts
    lockedUntil :=
      if lockoutThreshold ≤ failedAttempts then
        some (failedAt + lockoutMinutes failedAttempts * 60 * 1000)
      else row.lockedUntil
    updatedAt := writtenAt }

def recordFailedLogin (user : User) : ServiceM Unit := do
  let failedAt ← now
  let writtenAt ← now
  Prisma.userUpdate .root user.id
    (failedLogin (user.failedLoginAttempts + 1) failedAt writtenAt)

/-- Only reached with the correct password. -/
def loginAllowed (user : User) : Except AppError Unit := do
  require (user.status ≠ .suspended) (.forbidden "Your account has been suspended")
  require (user.emailVerifiedAt.isSome || user.role = .platformAdmin)
    (.forbidden "Please verify your email address before logging in")

def tenantAllowsLogin (tenant : Option Tenant) : Except AppError Unit := do
  require (!tenant.any fun row => row.status = .suspended)
    (.forbidden "Your organization account has been suspended")
  require (!tenant.any fun row => row.status = .cancelled)
    (.forbidden "Your organization account has been cancelled")

/-- An undefined address leaves its column as it is. -/
def loggedIn (ipAddress : Option String) (lastLoginAt writtenAt : Time) (row : User) : User :=
  { row with
    failedLoginAttempts := 0
    lockedUntil := none
    lastLoginAt := some lastLoginAt
    lastLoginIp := ipAddress.or row.lastLoginIp
    updatedAt := writtenAt }

def checkTenant (user : User) : ServiceM Unit :=
  match user.tenantId with
  | none => pure ()
  | some tenantId => do
    let tenant ← Prisma.find .root .tenantFind (Store.findTenant tenantId)
    Effect.lift (tenantAllowsLogin tenant)

def loginAudit (dto : LoginDto) (user : User) (occurredAt : Time) : AuditLog where
  tenantId := user.tenantId
  actorId := some user.id
  actorRole := some user.role
  action := .login
  resource := "auth"
  resourceId := none
  oldValue := none
  newValue := none
  occurredAt := occurredAt
  ipAddress := dto.ipAddress
  userAgent := dto.userAgent

end AuthService

namespace TokenService

def blockedTenant (tenant : Tenant) : Bool :=
  tenant.status = .suspended || tenant.status = .cancelled

def requireTenantOpen (user : User) : ServiceM Unit :=
  match user.tenantId with
  | none => pure ()
  | some tenantId => do
    let tenant ← Prisma.find .root .tenantFind (Store.findTenant tenantId)
    Effect.lift (require (tenant.any fun row => !blockedTenant row)
      (.forbidden "Your organization account is not active"))

/-- `assertAccountUsable` as a program; the user is a copy the caller has read. -/
def requireAccountUsable (user : User) : ServiceM Unit := do
  Effect.lift (require (¬ blockedStatus user) (.forbidden "Your account is not active"))
  let checkedAt ← now
  Effect.lift (require (!AuthService.isLocked checkedAt user)
    (.unauthorized "Account is temporarily locked"))
  requireTenantOpen user

variable (crypto : AuthCrypto)

/-- The insert of `createTokenPair`. -/
def createRow (row : RefreshToken String) : ServiceM Unit :=
  Effect.call .root .refreshTokenCreate .database fun s =>
    if (s.tokenStore row.createdAt).insertable row then .ok ((), s.insertRefreshToken row)
    else .error .database

def createTokenPair (session : Session) : ServiceM (TokenPair String) := do
  let tokenId ← Effect.draw ServiceEnv.uuid
  let signedAt ← now
  let refreshToken := crypto.tokens.signRefresh
    ⟨session.userId, session.familyId, .refresh, some tokenId⟩ signedAt
  let tokenHash ← Effect.draw fun _ salt => crypto.tokens.hash refreshToken salt
  let createdAt ← now
  createRow (newRow crypto.config session tokenId tokenHash createdAt)
  return tokenPair crypto.tokens crypto.config session refreshToken createdAt

def revokeTokenFamily (familyId : Uuid) (reason : String) : ServiceM Unit := do
  let revokedAt ← now
  Prisma.write .root .refreshTokenUpdateMany
    (Store.revokeTokens (fun token => token.familyId = familyId) revokedAt reason)

/-- `handleRevokedTokenUse`, which always throws. -/
def rejectRevoked (token : RefreshToken String) : ServiceM Unit := do
  let usedAt ← now
  if recentlyRotated token usedAt then
    Effect.throw (.unauthorized "Refresh token already used")
  else do
    revokeTokenFamily token.familyId "TOKEN_REUSE_DETECTED"
    Effect.throw (.unauthorized "Token reuse detected. Please login again.")

def rejectIfRevoked (token : RefreshToken String) : ServiceM Unit :=
  if token.isRevoked then rejectRevoked token else pure ()

/-- The claim of the token: one `updateMany`, which has to report one row. -/
def claimToken (id : Uuid) : ServiceM Unit := do
  let revokedAt ← now
  Effect.call .root .refreshTokenUpdateMany .database fun s =>
    if (s.tokenStore revokedAt).claimable id then
      .ok ((), s.revokeTokens (fun token => token.id = id) revokedAt "ROTATED")
    else .error (.unauthorized "Refresh token already used")

def rotateRefreshToken (oldRefreshToken : String) (ipAddress userAgent : Option String) :
    ServiceM (TokenPair String) := do
  let verifiedAt ← now
  let payload ← Effect.lift (verifyRefreshToken crypto.tokens oldRefreshToken verifiedAt)
  let found ← Prisma.find .root .refreshTokenFind fun s => findStored (s.tokenStore verifiedAt) payload
  let stored ← Effect.lift (orThrow (.unauthorized "Refresh token not found") found)
  rejectIfRevoked stored.1
  let usedAt ← now
  Effect.lift (require (!decide (stored.1.expiresAt < usedAt))
    (.unauthorized "Refresh token expired"))
  Effect.lift (require (crypto.tokens.verifyHash stored.1.tokenHash oldRefreshToken)
    (.unauthorized "Invalid refresh token"))
  claimToken stored.1.id
  Effect.onError (requireAccountUsable stored.2)
    (revokeTokenFamily payload.familyId "ACCOUNT_NOT_USABLE")
  createTokenPair crypto (rotationSession ⟨payload, oldRefreshToken, ipAddress, userAgent⟩ stored.2)

end TokenService

namespace AuthService
variable (crypto : AuthCrypto)

/-- After a login is refused: a wrong password is counted. -/
def refuseLogin {α : Type} (counted : Option User) : ServiceM α := do
  match counted with
  | none => pure ()
  | some user => recordFailedLogin user
  Effect.throw (.unauthorized "Invalid email or password")

def openSession (dto : LoginDto) (user : User) : ServiceM (TokenPair String) := do
  let lastLoginAt ← now
  let writtenAt ← now
  Prisma.userUpdate .root user.id (loggedIn dto.ipAddress lastLoginAt writtenAt)
  let familyId ← Effect.draw ServiceEnv.uuid
  let tokenPair ← TokenService.createTokenPair crypto
    (TokenService.loginSession user dto.ipAddress dto.userAgent familyId)
  AuditRepository.create (loginAudit dto user)
  return tokenPair

def acceptLogin (dto : LoginDto) (user : User) : ServiceM (TokenPair String) := do
  Effect.lift (loginAllowed user)
  checkTenant user
  openSession crypto dto user

def login (dto : LoginDto) : ServiceM (TokenPair String) := do
  let found ← Prisma.find .root .userFind (Store.findUserByEmail (JsText.toLowerCase dto.email))
  let checkedAt ← now
  let isValidPassword ← Prisma.find .root .passwordVerify fun _ =>
    crypto.verifyPassword ((found.bind User.passwordHash).getD crypto.dummyPasswordHash)
      dto.password
  match credentials found checkedAt isValidPassword with
  | .error counted => refuseLogin counted
  | .ok user => acceptLogin crypto dto user

def resetLifetimeMs : Nat := 60 * 60 * 1000

def newResetToken (id userId : Uuid) (tokenHash : String) (issuedAt : Time) :
    PasswordResetToken where
  id := id
  userId := userId
  tokenHash := tokenHash
  expiresAt := issuedAt + resetLifetimeMs
  usedAt := none

def createResetToken (row : PasswordResetToken) : ServiceM Unit :=
  Effect.call .root .resetTokenCreate .database fun s =>
    if s.resetTokenInsertable row then .ok ((), s.insertResetToken row) else .error .database

/-- An unknown address gets no token, and the same answer. -/
def issueResetToken (user : User) : ServiceM Unit := do
  Prisma.write .root .resetTokenDeleteMany (Store.deleteResetTokens user.id)
  let rawToken ← Effect.draw fun _ n => crypto.secureToken n
  let id ← Effect.draw ServiceEnv.uuid
  let issuedAt ← now
  createResetToken (newResetToken id user.id (crypto.sha256 rawToken) issuedAt)
  Prisma.find .root .emailQueueAdd fun _ => ()

def forgotPassword (email : String) : ServiceM Unit := do
  let found ← Prisma.find .root .userFind (Store.findUserByEmail (JsText.toLowerCase email))
  match found with
  | none => pure ()
  | some user => issueResetToken crypto user

def passwordReset (passwordHash : String) (writtenAt : Time) (row : User) : User :=
  { row with
    passwordHash := some passwordHash
    failedLoginAttempts := 0
    lockedUntil := none
    updatedAt := writtenAt }

/-- The token update finds its row by id, or rejects. -/
def markTokenUsed (id : Uuid) : ServiceM Unit := do
  let usedAt ← now
  Effect.call .ambient .resetTokenUpdate .database fun s =>
    if ∃ token ∈ s.resetTokens, token.id = id then .ok ((), s.useResetToken id usedAt)
    else .error .database

/-- The two statements of the transaction. -/
def writeReset (token : PasswordResetToken) (passwordHash : String) : ServiceM Unit := do
  let writtenAt ← now
  Prisma.userUpdate .ambient token.userId (passwordReset passwordHash writtenAt)
  markTokenUsed token.id

def resetAudit (userId : Uuid) (ipAddress : Option String) (occurredAt : Time) : AuditLog where
  tenantId := none
  actorId := some userId
  actorRole := none
  action := .update
  resource := "auth"
  resourceId := some userId
  oldValue := none
  newValue := none
  occurredAt := occurredAt
  ipAddress := ipAddress
  metadata := [("action", .text "PASSWORD_RESET")]

/-- The token a reset may use. -/
def usableReset (found : Option PasswordResetToken) (now : Time) :
    Except AppError PasswordResetToken := do
  let token ← orThrow (.validation "Invalid or expired reset token") found
  require (!decide (token.expiresAt < now)) (.validation "Reset token has expired")
  return token

/-- After the commit: the sessions end, and the cached user is dropped. -/
def recordReset (userId : Uuid) (ipAddress : Option String) : ServiceM Unit := do
  Effect.swallow (Prisma.find .root .userCacheInvalidate fun _ => ())
  AuditRepository.create (resetAudit userId ipAddress)

def resetPassword (token newPassword : String) (ipAddress : Option String) : ServiceM Unit := do
  let found ← Prisma.find .root .resetTokenFind (Store.findUnusedReset (crypto.sha256 token))
  let checkedAt ← now
  let resetToken ← Effect.lift (usableReset found checkedAt)
  Effect.lift (Password.create newPassword)
  let salt ← Effect.draw fun _ n => n
  let passwordHash ← Prisma.find .root .passwordHash fun _ => crypto.hashPassword newPassword salt
  Effect.transaction .commit .database (writeReset resetToken passwordHash)
  SessionRevoker.revokeAllUserTokens resetToken.userId "REVOKED_ALL"
  recordReset resetToken.userId ipAddress

end AuthService
end OmniSupport.Auth
