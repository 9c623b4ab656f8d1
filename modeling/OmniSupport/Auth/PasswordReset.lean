import OmniSupport.Database.ServiceRules
import OmniSupport.Auth.AuthService
import OmniSupport.Foundation.Pool

/-! Any number of password resets and requests for a reset token at once. A reset checks
its token, hashes the password and then writes both rows in one transaction, which finds
the token by its id alone. -/
namespace OmniSupport.Auth
open Foundation Database Effect

/-- `changes` are the tokens by which a password was changed, `issued` the ids of the
tokens there have been; no statement reads them. -/
structure ResetState where
  store : Store
  changes : List Uuid
  issued : List Uuid

/-- Where a call stands: before the deletion or the insert of `forgotPassword`, or before
the transaction of `resetPassword`. -/
inductive ResetCall where
  | idle
  | deleting (user : User)
  | creating (user : User)
  | resetting (token : PasswordResetToken) (newPassword : String)

inductive ResetAction where
  | requestReset (email : String)
  | deleteTokens
  | createToken (id : Uuid) (rawToken : String) (issuedAt : Time)
  | findToken (token newPassword : String) (checkedAt : Time)
  | commit (salt : Nat) (writtenAt usedAt : Time)
  | fail

section machine
variable (crypto : AuthCrypto)

/-- The transaction: both rows are found by id, or nothing is written. -/
def commitReset (token : PasswordResetToken) (passwordHash : String) (writtenAt usedAt : Time)
    (s : Store) : Option Store :=
  if (s.findUser token.userId).isSome ∧ ∃ row ∈ s.resetTokens, row.id = token.id then
    some ((s.updateUser token.userId
      (AuthService.passwordReset passwordHash writtenAt)).useResetToken token.id usedAt)
  else none

/-- The checks of a reset before it hashes the password. -/
def startReset (token newPassword : String) (checkedAt : Time) (s : Store) : ResetCall :=
  match AuthService.usableReset (s.findUnusedReset (crypto.sha256 token)) checkedAt,
    Password.create newPassword with
  | .ok resetToken, .ok _ => .resetting resetToken newPassword
  | _, _ => .idle

def startForgot (email : String) (s : Store) : ResetCall :=
  match s.findUserByEmail (JsText.toLowerCase email) with
  | some user => .deleting user
  | none => .idle

/-- The id is a new one. -/
def createResetToken (user : User) (id : Uuid) (rawToken : String) (issuedAt : Time)
    (s : ResetState) : Option ResetState :=
  let row := AuthService.newResetToken id user.id (crypto.sha256 rawToken) issuedAt
  if id ∈ s.issued then none
  else if s.store.resetTokenInsertable row then
    some { s with store := s.store.insertResetToken row, issued := s.issued ++ [id] }
  else some { s with issued := s.issued ++ [id] }

def changePassword (token : PasswordResetToken) (passwordHash : String) (writtenAt usedAt : Time)
    (s : ResetState) : ResetState :=
  match commitReset token passwordHash writtenAt usedAt s.store with
  | some store => { s with store := store, changes := s.changes ++ [token.id] }
  | none => s

def resetAct (s : ResetState) : ResetCall → ResetAction → Option (ResetState × ResetCall)
  | .idle, .requestReset email => some (s, startForgot email s.store)
  | .idle, .findToken token newPassword checkedAt =>
    some (s, startReset crypto token newPassword checkedAt s.store)
  | .deleting user, .deleteTokens =>
    some ({ s with store := s.store.deleteResetTokens user.id }, .creating user)
  | .creating user, .createToken id rawToken issuedAt =>
    (createResetToken crypto user id rawToken issuedAt s).map fun s' => (s', .idle)
  | .resetting token newPassword, .commit salt writtenAt usedAt =>
    some (changePassword token (crypto.hashPassword newPassword salt) writtenAt usedAt s, .idle)
  | .deleting _, .fail | .creating _, .fail | .resetting .., .fail => some (s, .idle)
  | _, _ => none

def resetProgram : Program ResetState ResetCall ResetAction Empty where
  act _ := resetAct crypto
  env _ e := e.elim

abbrev ResetPool := Pool ResetState ResetCall

abbrev ResetMove := Move ResetAction Empty

/-- The tokens stored so far, and no call yet. -/
def resetStart (s : Store) : ResetPool :=
  ⟨⟨s, [], s.resetTokens.map fun token => token.id⟩, fun _ => .idle⟩

end machine

/-- The token is stored and has not been used. -/
def Unused (id : Uuid) (s : Store) : Prop :=
  ∃ row ∈ s.resetTokens, row.id = id ∧ row.usedAt = none

/-- The token a call would commit with. -/
def ResetCall.token : ResetCall → Option PasswordResetToken
  | .resetting token _ => some token
  | _ => none

/-- The token the move commits a reset with. -/
def committing (c : ResetPool) : ResetMove → Option PasswordResetToken
  | .act p (.commit ..) => (c.locals p).token
  | _ => none

/-- Each token changes a password once at most, and a reset whose token is used or gone
when it commits changes no user. -/
def SingleUse (crypto : AuthCrypto) (s : Store) (moves : List ResetMove) : Prop :=
  ∀ c, (resetProgram crypto).machine.run (resetStart s) moves = some c →
    c.shared.changes.Nodup ∧
    ∀ done move rest c₁ c₂ token, moves = done ++ move :: rest →
      (resetProgram crypto).machine.run (resetStart s) done = some c₁ →
      (resetProgram crypto).machine.step c₁ move = some c₂ → committing c₁ move = some token →
      ¬ Unused token.id c₁.shared.store → c₂.shared.store.users = c₁.shared.store.users

/-- No reset commits with a stored token that another call has used. -/
def TokenStillUnused (c : ResetPool) (move : ResetMove) : Prop :=
  ∀ token ∈ committing c move, ∀ row ∈ c.shared.store.resetTokens, row.id = token.id →
    row.usedAt = none

instance (c : ResetPool) (move : ResetMove) : Decidable (TokenStillUnused c move) :=
  inferInstanceAs (Decidable (∀ token ∈ committing c move, ∀ row ∈ c.shared.store.resetTokens, _))

theorem committing_eq_some {c : ResetPool} {move : ResetMove} {token : PasswordResetToken} :
    committing c move = some token ↔ ∃ p newPassword salt writtenAt usedAt,
      move = .act p (.commit salt writtenAt usedAt) ∧ c.locals p = .resetting token newPassword := by
  constructor
  · intro h
    cases move with
    | env e => exact e.elim
    | act p a =>
      cases a with
      | commit salt writtenAt usedAt =>
        have htoken : (c.locals p).token = some token := h
        cases hl : c.locals p with
        | resetting token' newPassword =>
          rw [hl] at htoken
          cases htoken
          exact ⟨p, newPassword, salt, writtenAt, usedAt, rfl, hl⟩
        | idle | deleting user | creating user =>
          rw [hl] at htoken
          cases htoken
      | requestReset email | deleteTokens | createToken id rawToken issuedAt
      | findToken text newPassword checkedAt | fail => cases h
  · rintro ⟨p, newPassword, salt, writtenAt, usedAt, rfl, hl⟩
    simp only [committing, hl, ResetCall.token]

section transaction
variable {env : ServiceEnv} {d d' : Nat} {s s' : Store} {token : PasswordResetToken}
  {passwordHash : String} {u : Unit}

/-- The transaction of the service commits what the machine commits in one step. -/
theorem yields_writeReset
    (h : Yields env d s (AuthService.writeReset token passwordHash) u d' s') :
    commitReset token passwordHash (env.clock d) (env.clock (d + 1)) s = some s' := by
  obtain ⟨writtenAt, d₁, s₁, hdraw, h₁⟩ := yields_bind (inside_draw _) h
  obtain ⟨rfl, rfl, rfl⟩ := yields_draw hdraw
  obtain ⟨u₁, d₂, s₂, hwrite, h₂⟩ := yields_bind (inside_userUpdate _ _) h₁
  obtain ⟨hrow, rfl⟩ := yields_call hwrite
  obtain ⟨usedAt, d₃, s₃, hdraw, h₃⟩ := yields_bind (inside_draw _) h₂
  obtain ⟨rfl, rfl, rfl⟩ := yields_draw hdraw
  obtain ⟨hmark, rfl⟩ := yields_call h₃
  by_cases huser : (s₁.findUser token.userId).isSome = true
  · rw [if_pos huser] at hrow
    cases hrow
    by_cases hstored : ∃ row ∈ s₁.resetTokens, row.id = token.id
    · rw [if_pos (show ∃ row ∈ (s₁.updateUser token.userId (AuthService.passwordReset passwordHash
        (env.clock d))).resetTokens, row.id = token.id from hstored)] at hmark
      cases hmark
      exact if_pos ⟨huser, hstored⟩
    · rw [if_neg (show ¬ ∃ row ∈ (s₁.updateUser token.userId (AuthService.passwordReset
        passwordHash (env.clock d))).resetTokens, row.id = token.id from hstored)] at hmark
      cases hmark
  · rw [if_neg huser] at hrow
    cases hrow

end transaction
end OmniSupport.Auth
