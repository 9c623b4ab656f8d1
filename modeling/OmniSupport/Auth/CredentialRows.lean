import OmniSupport.Identity.Account

/-! The rows of `password_reset_tokens`, `oauth_accounts`, `invitations` and
`customer_links`. -/
namespace OmniSupport.Auth

structure PasswordResetToken where
  id : Uuid
  userId : Uuid
  tokenHash : String
  expiresAt : Time
  usedAt : Option Time
  deriving DecidableEq, Repr

structure OAuthAccount where
  userId : Uuid
  provider : String
  providerUid : String
  deriving DecidableEq, Repr

structure Invitation where
  id : Uuid
  tenantId : Uuid
  email : String
  role : UserRole
  customerId : Option Uuid
  tokenHash : String
  expiresAt : Time
  acceptedAt : Option Time
  revokedAt : Option Time
  deriving DecidableEq, Repr

structure CustomerLink where
  userId : Uuid
  customerId : Uuid
  tenantId : Uuid
  deriving DecidableEq, Repr

end OmniSupport.Auth
