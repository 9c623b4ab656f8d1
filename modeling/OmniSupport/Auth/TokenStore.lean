import OmniSupport.Identity.Account
import OmniSupport.Foundation.Table
import Mathlib.Data.List.Sort

/-! The table `refresh_tokens` with the account rows the token service reads, and the
statements the service runs on it. Each statement is one atomic step. -/
namespace OmniSupport.Auth
open Foundation

variable {Hash : Type}

structure RefreshToken (Hash : Type) where
  id : Uuid
  userId : Uuid
  tokenHash : Hash
  familyId : Uuid
  isRevoked : Bool
  revokedAt : Option Time
  revokedReason : Option String
  expiresAt : Time
  ipAddress : Option String
  userAgent : Option String
  createdAt : Time
  deriving DecidableEq

/-- What happened so far; no statement reads it. `uuids` are the results of
`randomUUID`, `sessions` the families opened by a login with their user, `claimed` the
tokens whose claim for rotation succeeded. -/
structure History where
  uuids : List Uuid
  sessions : List (Uuid × Uuid)
  claimed : List Uuid
  deriving DecidableEq

structure TokenStore (Hash : Type) where
  refreshTokens : List (RefreshToken Hash)
  users : List User
  tenants : List Tenant
  now : Time
  history : History

namespace TokenStore

def init (users : List User) (tenants : List Tenant) (now : Time) : TokenStore Hash :=
  ⟨[], users, tenants, now, ⟨[], [], []⟩⟩

def findUser (s : TokenStore Hash) (id : Uuid) : Option User :=
  s.users.find? fun u => u.id = id

def findTenant (s : TokenStore Hash) (id : Uuid) : Option Tenant :=
  s.tenants.find? fun t => t.id = id

/-- `findUnique` by id with the user included, then the check of the payload's claims. -/
def findTokenById (s : TokenStore Hash) (tokenId userId familyId : Uuid) :
    Option (RefreshToken Hash × User) :=
  match s.refreshTokens.find? fun t => t.id = tokenId with
  | none => none
  | some t =>
    if t.userId ≠ userId ∨ t.familyId ≠ familyId then none
    else (s.findUser t.userId).map fun u => (t, u)

/-- The newest active token of the family, or the newest one when none is active. -/
def findLegacyActiveToken (s : TokenStore Hash) (userId familyId : Uuid) :
    Option (RefreshToken Hash × User) :=
  let tokens := (s.refreshTokens.filter fun t => t.familyId = familyId ∧ t.userId = userId)
    |>.insertionSort fun a b => b.createdAt ≤ a.createdAt
  match tokens with
  | [] => none
  | newest :: _ =>
    let t := (tokens.find? fun t => !t.isRevoked).getD newest
    (s.findUser t.userId).map fun u => (t, u)

def revoke (now : Time) (reason : String) (t : RefreshToken Hash) : RefreshToken Hash :=
  { t with isRevoked := true, revokedAt := some now, revokedReason := some reason }

/-- The one `updateMany` of every revocation: the rows `p` selects that are still live. -/
def revokeWhere (p : RefreshToken Hash → Prop) [DecidablePred p] (reason : String)
    (s : TokenStore Hash) : TokenStore Hash :=
  { s with
    refreshTokens := Table.updateMany (fun t => p t ∧ t.isRevoked = false)
      (revoke s.now reason) s.refreshTokens }

def revokeSession (userId familyId : Uuid) : TokenStore Hash → TokenStore Hash :=
  revokeWhere (fun t => t.userId = userId ∧ t.familyId = familyId) "LOGOUT"

def revokeAllUserTokens (userId : Uuid) (reason : String) : TokenStore Hash → TokenStore Hash :=
  revokeWhere (fun t => t.userId = userId) reason

/-- The tenant a token's user belongs to, by the relation `user`. -/
def tenantOf (s : TokenStore Hash) (t : RefreshToken Hash) : Option Uuid :=
  (s.findUser t.userId).bind User.tenantId

def revokeAllTenantTokens (tenantId : Uuid) (reason : String) (s : TokenStore Hash) :
    TokenStore Hash :=
  s.revokeWhere (fun t => s.tenantOf t = some tenantId) reason

def revokeTokenFamily (familyId : Uuid) (reason : String) : TokenStore Hash → TokenStore Hash :=
  revokeWhere (fun t => t.familyId = familyId) reason

/-- Whether the claim `updateMany` on `{ id, isRevoked: false }` reports one row. -/
def claimable (s : TokenStore Hash) (id : Uuid) : Prop :=
  Table.count (fun t => t.id = id ∧ t.isRevoked = false) s.refreshTokens = 1

instance (s : TokenStore Hash) (id : Uuid) : Decidable (s.claimable id) :=
  inferInstanceAs (Decidable (_ = _))

/-- The claim that succeeded. -/
def claim (id : Uuid) (s : TokenStore Hash) : TokenStore Hash :=
  { s.revokeWhere (fun t => t.id = id) "ROTATED" with
    history := { s.history with claimed := id :: s.history.claimed } }

/-- The constraints of the insert: primary key, unique hash, foreign key of the user. -/
def insertable [DecidableEq Hash] (s : TokenStore Hash) (t : RefreshToken Hash) : Prop :=
  (∀ r ∈ s.refreshTokens, r.id ≠ t.id ∧ r.tokenHash ≠ t.tokenHash) ∧
    (s.findUser t.userId).isSome

instance [DecidableEq Hash] (s : TokenStore Hash) (t : RefreshToken Hash) :
    Decidable (s.insertable t) :=
  inferInstanceAs (Decidable (_ ∧ _))

def insert (t : RefreshToken Hash) (s : TokenStore Hash) : TokenStore Hash :=
  { s with refreshTokens := t :: s.refreshTokens }

def cleanupExpiredTokens (s : TokenStore Hash) : TokenStore Hash :=
  { s with refreshTokens := Table.deleteMany (fun t => t.expiresAt < s.now) s.refreshTokens }

def saveUser (u : User) (s : TokenStore Hash) : TokenStore Hash :=
  { s with users := u :: s.users.filter fun v => v.id ≠ u.id }

def saveTenant (t : Tenant) (s : TokenStore Hash) : TokenStore Hash :=
  { s with tenants := t :: s.tenants.filter fun v => v.id ≠ t.id }

def tick (ms : Nat) (s : TokenStore Hash) : TokenStore Hash :=
  { s with now := s.now + ms }

def drawUuid (id : Uuid) (s : TokenStore Hash) : TokenStore Hash :=
  { s with history := { s.history with uuids := id :: s.history.uuids } }

/-- A login draws the identifier of its new family. -/
def openSession (familyId userId : Uuid) (s : TokenStore Hash) : TokenStore Hash :=
  { s with
    history := { s.history with
      uuids := familyId :: s.history.uuids
      sessions := (familyId, userId) :: s.history.sessions } }

def live (s : TokenStore Hash) (familyId : Uuid) : Nat :=
  Table.count (fun t => t.familyId = familyId ∧ t.isRevoked = false) s.refreshTokens

end TokenStore
end OmniSupport.Auth
