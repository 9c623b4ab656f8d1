import OmniSupport.Auth.AuthService

/-! Signing in with Google. -/
namespace OmniSupport.Auth
open Foundation Database

/-- The claims of the identity token that the service reads. -/
structure GooglePayload where
  sub : String
  email : Option String
  emailVerified : Option Bool

/-- The client of Google: the identity token behind a code, and the claims in it. -/
structure GoogleClient where
  getToken : String → Except AppError (Option String)
  verifyIdToken : String → Except AppError (Option GooglePayload)

structure GoogleUserInfo where
  googleId : String
  email : String
  emailVerified : Bool

namespace OAuthService

/-- An empty address counts as missing. -/
def givenEmail (claims : GooglePayload) : Option String :=
  claims.email.filter fun email => email ≠ ""

def identityToken (client : GoogleClient) (code : String) : Except AppError String := do
  let token ← client.getToken code
  orThrow (.unauthorized "Google did not return an identity token") token

def googleUser (client : GoogleClient) (idToken : String) : Except AppError GoogleUserInfo := do
  let payload ← client.verifyIdToken idToken
  let claims ← orThrow (.unauthorized "Invalid Google token payload") payload
  let email ← orThrow (.unauthorized "Invalid Google token payload") (givenEmail claims)
  let verified := claims.emailVerified.getD false
  require verified (.forbidden "Your Google email address is not verified")
  return ⟨claims.sub, email, verified⟩

/-- Only links the account when Google has verified the address. -/
def linkGoogleAccount (googleUser : GoogleUserInfo) (user : User) : ServiceM User := do
  let row : OAuthAccount := ⟨user.id, "google", googleUser.googleId⟩
  Effect.call .root .oauthAccountCreate .database fun s =>
    if (s.findOAuthAccount row.provider row.providerUid).isNone ∧ (s.findUser user.id).isSome then
      .ok ((), s.insertOAuthAccount row)
    else .error .database
  return user

/-- `include: { user: true }` of the linked account. -/
def linkedUser (googleUser : GoogleUserInfo) (s : Store) : Option User :=
  (s.findOAuthAccount "google" googleUser.googleId).bind fun account => s.findUser account.userId

def findByEmailAndLink (googleUser : GoogleUserInfo) : ServiceM User := do
  let found ← Prisma.find .root .userFind
    (Store.findUserByEmail (JsText.toLowerCase googleUser.email))
  let user ← Effect.lift
    (orThrow (.forbidden "No account exists for this Google identity") found)
  linkGoogleAccount googleUser user

/-- Accounts are created through invitations only; Google signs in existing ones. -/
def findOrCreateGoogleUser (googleUser : GoogleUserInfo) : ServiceM User := do
  let linked ← Prisma.find .root .oauthAccountFind (linkedUser googleUser)
  match linked with
  | some user => pure user
  | none => findByEmailAndLink googleUser

variable (crypto : AuthCrypto) (client : GoogleClient)

def handleGoogleCallback (code : String) (ipAddress userAgent : Option String) :
    ServiceM (TokenPair String) := do
  let exchanged ← Prisma.find .root .googleExchange fun _ => identityToken client code
  let idToken ← Effect.lift exchanged
  let verified ← Prisma.find .root .googleExchange fun _ => googleUser client idToken
  let googleUser ← Effect.lift verified
  let user ← findOrCreateGoogleUser googleUser
  TokenService.requireAccountUsable user
  let familyId ← Effect.draw ServiceEnv.uuid
  TokenService.createTokenPair crypto
    (TokenService.loginSession user ipAddress userAgent familyId)

end OAuthService
end OmniSupport.Auth
