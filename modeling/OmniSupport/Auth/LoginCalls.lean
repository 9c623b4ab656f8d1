import OmniSupport.Auth.AuthService
import OmniSupport.Foundation.Pool

/-! Any number of login calls on one account, statement by statement: the read of the row,
the lock check, the hash, and the update that counts a failure or resets the counter. -/
namespace OmniSupport.Auth
open Foundation

/-- The account as stored, and the rows a login reads beside it. -/
structure LoginStore where
  account : User
  tenants : List Tenant
  now : Time

/-- Where a call stands: `finding` to `accepting` name what it is about to do. The account
is a copy from `checking` on. -/
inductive LoginCall where
  | idle
  | finding (dto : LoginDto)
  | checking (dto : LoginDto) (found : Option User)
  | verifying (dto : LoginDto) (found : Option User) (checkedAt : Time)
  | recording (user : User) (failedAt : Time)
  | allowing (dto : LoginDto) (user : User)
  | accepting (dto : LoginDto) (user : User) (lastLoginAt : Time)
  | refused (error : AppError)
  | accepted (user : User)

inductive LoginStep where
  | login (dto : LoginDto)
  | next

inductive LoginMove where
  | tick (ms : Nat)

/-- A wrong password a call has evaluated: when the lock was checked, and the time the
failure counts from. -/
structure Guess where
  call : Nat
  checkedAt : Time
  failedAt : Time

namespace LoginStore

def findUserByEmail (s : LoginStore) (email : String) : Option User :=
  if s.account.email = email then some s.account else none

def findTenant (s : LoginStore) (id : Uuid) : Option Tenant :=
  s.tenants.find? fun t => t.id = id

end LoginStore

namespace LoginCalls
variable (crypto : AuthCrypto)

def isValidPassword (found : Option User) (password : String) : Bool :=
  crypto.verifyPassword ((found.bind User.passwordHash).getD crypto.dummyPasswordHash) password

/-- After a password was verified: the account row is written next, or the call is over. -/
def judge (dto : LoginDto) (now : Time) : Except (Option User) User → LoginCall
  | .error none => .refused (.unauthorized "Invalid email or password")
  | .error (some user) => .recording user now
  | .ok user =>
    match AuthService.loginAllowed user with
    | .error e => .refused e
    | .ok () => .allowing dto user

def allow (dto : LoginDto) (user : User) (now : Time) : Except AppError Unit → LoginCall
  | .error e => .refused e
  | .ok () => .accepting dto user now

/-- The tenant is read only for an account that has one. -/
def checkTenant (s : LoginStore) (user : User) : Except AppError Unit :=
  match user.tenantId with
  | none => .ok ()
  | some tenantId => AuthService.tenantAllowsLogin (s.findTenant tenantId)

def next (s : LoginStore) : LoginCall → Option (LoginStore × LoginCall)
  | .finding dto => some (s, .checking dto (s.findUserByEmail (JsText.toLowerCase dto.email)))
  | .checking dto found => some (s, .verifying dto found s.now)
  | .verifying dto found checkedAt =>
    some (s, judge dto s.now
      (AuthService.credentials found checkedAt (isValidPassword crypto found dto.password)))
  | .recording user failedAt =>
    some ({ s with
        account := AuthService.failedLogin (user.failedLoginAttempts + 1) failedAt s.now s.account },
      .refused (.unauthorized "Invalid email or password"))
  | .allowing dto user => some (s, allow dto user s.now (checkTenant s user))
  | .accepting dto user lastLoginAt =>
    some ({ s with account := AuthService.loggedIn dto.ipAddress lastLoginAt s.now s.account },
      .accepted user)
  | .idle | .refused _ | .accepted _ => none

def act (s : LoginStore) (call : LoginCall) : LoginStep → Option (LoginStore × LoginCall)
  | .next => next crypto s call
  | .login dto => match call with
    | .idle => some (s, .finding dto)
    | _ => none

def program : Program LoginStore LoginCall LoginStep LoginMove where
  act _ := act crypto
  env s
    | .tick ms => some { s with now := s.now + ms }

def machine : Machine (Pool LoginStore LoginCall) (Move LoginStep LoginMove) :=
  (program crypto).machine

def init (account : User) (tenants : List Tenant) (now : Time) : Pool LoginStore LoginCall :=
  ⟨⟨account, tenants, now⟩, fun _ => .idle⟩

/-- The guess a step has evaluated and is going to count. -/
def guessed (c : Pool LoginStore LoginCall) :
    Move LoginStep LoginMove → Pool LoginStore LoginCall → List Guess
  | .act p .next, c' => match c.locals p, c'.locals p with
    | .verifying _ _ checkedAt, .recording _ failedAt => [⟨p, checkedAt, failedAt⟩]
    | _, _ => []
  | _, _ => []

/-- The calls beside the guesses so far, the newest first. -/
def guesses : Machine (Pool LoginStore LoginCall × List Guess) (Move LoginStep LoginMove) :=
  (machine crypto).logged guessed

end LoginCalls
end OmniSupport.Auth
