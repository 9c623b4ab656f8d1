import OmniSupport.Auth.PasswordReset

/-! A reset token is spent by the reset that commits with it, as long as no other reset
commits between the check of a token and the commit that uses it. -/
namespace OmniSupport.Auth
open Foundation Database

/-- A token that has changed a password is used wherever it is still stored. -/
structure Spent (s : ResetState) : Prop where
  nodup : s.changes.Nodup
  used : ∀ id ∈ s.changes, ∀ row ∈ s.store.resetTokens, row.id = id → row.usedAt ≠ none
  known : ∀ id ∈ s.changes, id ∈ s.issued
  stored : ∀ row ∈ s.store.resetTokens, row.id ∈ s.issued

section steps
variable {crypto : AuthCrypto} {s s' : ResetState} {l l' : ResetCall} {a : ResetAction}
  {c c₂ : ResetPool} {move : ResetMove}

/-- What one action does to the tables. -/
theorem resetAct_cases (h : resetAct crypto s l a = some (s', l')) :
    s' = s ∨
    (∃ user : User, s' = { s with store := s.store.deleteResetTokens user.id }) ∨
    (∃ user id rawToken issuedAt, createResetToken crypto user id rawToken issuedAt s = some s') ∨
    ∃ token newPassword salt writtenAt usedAt, l = .resetting token newPassword ∧
      a = .commit salt writtenAt usedAt ∧
      s' = changePassword token (crypto.hashPassword newPassword salt) writtenAt usedAt s := by
  cases l with
  | idle =>
    cases a with
    | requestReset email | findToken token newPassword checkedAt =>
      cases h
      exact Or.inl rfl
    | deleteTokens | createToken id rawToken issuedAt | commit salt writtenAt usedAt | fail => cases h
  | deleting user =>
    cases a with
    | deleteTokens =>
      cases h
      exact Or.inr (Or.inl ⟨user, rfl⟩)
    | fail =>
      cases h
      exact Or.inl rfl
    | requestReset email | findToken token newPassword checkedAt | createToken id rawToken issuedAt
    | commit salt writtenAt usedAt => cases h
  | creating user =>
    cases a with
    | createToken id rawToken issuedAt =>
      obtain ⟨s₁, hcreate, heq⟩ := Option.map_eq_some_iff.mp h
      cases heq
      exact Or.inr (Or.inr (Or.inl ⟨user, id, rawToken, issuedAt, hcreate⟩))
    | fail =>
      cases h
      exact Or.inl rfl
    | requestReset email | findToken token newPassword checkedAt | deleteTokens
    | commit salt writtenAt usedAt => cases h
  | resetting token newPassword =>
    cases a with
    | commit salt writtenAt usedAt =>
      cases h
      exact Or.inr (Or.inr (Or.inr ⟨token, newPassword, salt, writtenAt, usedAt, rfl, rfl, rfl⟩))
    | fail =>
      cases h
      exact Or.inl rfl
    | requestReset email | findToken token' newPassword' checkedAt | deleteTokens
    | createToken id rawToken issuedAt => cases h

theorem Spent.delete (h : Spent s) (userId : Uuid) :
    Spent { s with store := s.store.deleteResetTokens userId } where
  nodup := h.nodup
  used id hid row hrow := h.used id hid row (Table.mem_deleteMany.mp hrow).1
  known := h.known
  stored row hrow := h.stored row (Table.mem_deleteMany.mp hrow).1

/-- A new token has an id no change was made by. -/
theorem Spent.create {user : User} {id : Uuid} {rawToken : String} {issuedAt : Time}
    (h : Spent s) (hcreate : createResetToken crypto user id rawToken issuedAt s = some s') :
    Spent s' := by
  unfold createResetToken at hcreate
  by_cases hold : id ∈ s.issued
  · rw [if_pos hold] at hcreate
    cases hcreate
  · rw [if_neg hold] at hcreate
    have hgrown : ∀ id' ∈ s.issued, id' ∈ s.issued ++ [id] :=
      fun id' hm => List.mem_append_left _ hm
    split at hcreate
    · cases hcreate
      refine ⟨h.nodup, fun id' hid row hrow hkey => ?_, fun id' hid => hgrown _ (h.known id' hid),
        fun row hrow => ?_⟩
      · rcases List.mem_append.mp hrow with hrow | hrow
        · exact h.used id' hid row hrow hkey
        · rw [List.mem_singleton.mp hrow] at hkey
          obtain rfl : id = id' := hkey
          exact absurd (h.known id hid) hold
      · rcases List.mem_append.mp hrow with hrow | hrow
        · exact hgrown _ (h.stored row hrow)
        · rw [List.mem_singleton.mp hrow]
          exact List.mem_append_right _ (List.mem_singleton.mpr rfl)
    · cases hcreate
      exact ⟨h.nodup, h.used, fun id' hid => hgrown _ (h.known id' hid),
        fun row hrow => hgrown _ (h.stored row hrow)⟩

/-- Rows of the tokens after one of them was used. -/
theorem mem_useResetToken {id : Uuid} {usedAt : Time} {t : Store} {row : PasswordResetToken}
    (h : row ∈ (t.useResetToken id usedAt).resetTokens) :
    ∃ old ∈ t.resetTokens, old.id = row.id ∧ (row = old ∧ old.id ≠ id ∨
      old.id = id ∧ row.usedAt = some usedAt) := by
  rcases Table.mem_updateMany.mp h with ⟨old, hm, hid, rfl⟩ | ⟨hm, hid⟩
  · exact ⟨old, hm, rfl, Or.inr ⟨hid, rfl⟩⟩
  · exact ⟨row, hm, rfl, Or.inl ⟨rfl, hid⟩⟩

/-- The reset that finds its token unused is the first with it. -/
theorem Spent.change {token : PasswordResetToken} {passwordHash : String} {writtenAt usedAt : Time}
    (h : Spent s) (hunused : ∀ row ∈ s.store.resetTokens, row.id = token.id → row.usedAt = none) :
    Spent (changePassword token passwordHash writtenAt usedAt s) := by
  unfold changePassword
  split
  · rename_i store hcommit
    unfold commitReset at hcommit
    by_cases hok : (s.store.findUser token.userId).isSome ∧
        ∃ row ∈ s.store.resetTokens, row.id = token.id
    · rw [if_pos hok] at hcommit
      cases hcommit
      obtain ⟨-, row, hm, hid⟩ := hok
      have hfirst : token.id ∉ s.changes := by
        intro hchanged
        exact h.used token.id hchanged row hm hid (hunused row hm hid)
      refine ⟨?_, fun id hchanged row' hrow hkey => ?_, fun id hchanged => ?_, fun row' hrow => ?_⟩
      · exact List.nodup_append.mpr ⟨h.nodup, List.nodup_singleton _, fun x hx y hy => by
          rw [List.mem_singleton.mp hy]
          exact fun heq => hfirst (heq ▸ hx)⟩
      · obtain ⟨old, hold, hsame, ⟨rfl, hother⟩ | ⟨-, hused⟩⟩ := mem_useResetToken hrow
        · rcases List.mem_append.mp hchanged with hchanged | hnew
          · exact h.used id hchanged row' hold hkey
          · exact absurd (hkey.trans (List.mem_singleton.mp hnew)) hother
        · rw [hused]
          exact Option.some_ne_none _
      · rcases List.mem_append.mp hchanged with hchanged | hnew
        · exact h.known id hchanged
        · rw [List.mem_singleton.mp hnew, ← hid]
          exact h.stored row hm
      · obtain ⟨old, hold, hsame, -⟩ := mem_useResetToken hrow
        exact hsame ▸ h.stored old hold
    · rw [if_neg hok] at hcommit
      cases hcommit
  · exact h

theorem Spent.step (h : Spent c.shared) (hc : TokenStillUnused c move)
    (hs : (resetProgram crypto).machine.step c move = some c₂) : Spent c₂.shared := by
  cases move with
  | env e => exact e.elim
  | act p a =>
    obtain ⟨s, l, ha, rfl⟩ := (resetProgram crypto).step_act.mp hs
    rw [Pool.put_shared]
    rcases resetAct_cases ha with rfl | ⟨user, rfl⟩ | ⟨user, id, rawToken, issuedAt, hcreate⟩ |
      ⟨token, newPassword, salt, writtenAt, usedAt, hl, rfl, rfl⟩
    · exact h
    · exact h.delete user.id
    · exact h.create hcreate
    · exact h.change (hc token
        (committing_eq_some.mpr ⟨p, newPassword, salt, writtenAt, usedAt, rfl, hl⟩))

/-- A commit that does not find its token stored writes nothing. -/
theorem commit_without_token {token : PasswordResetToken}
    (hs : (resetProgram crypto).machine.step c move = some c₂)
    (hcommitting : committing c move = some token)
    (hgone : ¬ ∃ row ∈ c.shared.store.resetTokens, row.id = token.id) :
    c₂.shared = c.shared := by
  obtain ⟨p, newPassword, salt, writtenAt, usedAt, rfl, hl⟩ := committing_eq_some.mp hcommitting
  obtain ⟨s, l, ha, rfl⟩ := (resetProgram crypto).step_act.mp hs
  change resetAct crypto c.shared (c.locals p) (.commit salt writtenAt usedAt) = some (s, l) at ha
  rw [hl] at ha
  have hnone : commitReset token (crypto.hashPassword newPassword salt) writtenAt usedAt
      c.shared.store = none := if_neg fun h => hgone h.2
  have hkept : changePassword token (crypto.hashPassword newPassword salt) writtenAt usedAt
      c.shared = c.shared := by
    simp only [changePassword, hnone]
  simp only [resetAct, hkept] at ha
  cases ha
  rfl

end steps

theorem spent_start (s : Store) : Spent (resetStart s).shared where
  nodup := List.nodup_nil
  used id hid := by cases hid
  known id hid := by cases hid
  stored _ hrow := List.mem_map_of_mem hrow

/-- Reset tokens are single use in every run in which no reset commits with a token that
was used after it was checked. -/
theorem reset_tokens_single_use (crypto : AuthCrypto) (s : Store) (moves : List ResetMove)
    (hunused : (resetProgram crypto).machine.Within TokenStillUnused (resetStart s) moves) :
    SingleUse crypto s moves := by
  intro c hrun
  have hspent : Spent c.shared :=
    (resetProgram crypto).machine.run_preserves_within (P := fun c => Spent c.shared)
      (fun _ _ _ h hc hs => h.step hc hs) (spent_start s) hunused hrun
  refine ⟨hspent.nodup, ?_⟩
  rintro done move rest c₁ c₂ token rfl hdone hstep hcommitting hgone
  have hc : TokenStillUnused c₁ move :=
    Machine.Within.step_at (resetProgram crypto).machine hunused hdone
  have hmissing : ¬ ∃ row ∈ c₁.shared.store.resetTokens, row.id = token.id := by
    rintro ⟨row, hm, hid⟩
    exact hgone ⟨row, hm, hid, hc token hcommitting row hm hid⟩
  rw [commit_without_token hstep hcommitting hmissing]

section demo

def resetUser : User := { (default : User) with id := 1, email := "a", passwordHash := some "old" }

/-- A user who has been sent a reset token. -/
def resetStore : Store where
  tickets := []
  comments := []
  customers := []
  tenants := []
  users := [resetUser]
  refreshTokens := []
  sequences := []
  activities := []
  audits := []
  outbox := []
  resetTokens := [⟨2, 1, "token", 100, none⟩]

/-- Two resets check the token before either commits. -/
def racingResets : List ResetMove :=
  [.act 0 (.findToken "token" "Secret1!" 10), .act 1 (.findToken "token" "Secret2!" 11),
    .act 0 (.commit 0 20 20), .act 1 (.commit 0 21 21)]

/-- The second reset comes after the first. -/
def resetsInTurn : List ResetMove :=
  [.act 0 (.findToken "token" "Secret1!" 10), .act 0 (.commit 0 20 20),
    .act 1 (.findToken "token" "Secret2!" 21), .act 2 (.requestReset "A"), .act 2 .deleteTokens,
    .act 2 (.createToken 3 "next" 30)]

end demo

/-- One reset after the other: the second is refused, and a new token takes the place of the
used one. -/
theorem resets_in_turn_single_use :
    ((resetProgram sampleCrypto).machine.run (resetStart resetStore) resetsInTurn).isSome ∧
      SingleUse sampleCrypto resetStore resetsInTurn :=
  ⟨by decide, reset_tokens_single_use sampleCrypto resetStore resetsInTurn (by decide)⟩

/-- Both resets change the password with the one token. -/
theorem reset_token_used_twice : ¬ SingleUse sampleCrypto resetStore racingResets := by
  intro h
  have hrun : ((resetProgram sampleCrypto).machine.run (resetStart resetStore) racingResets).map
      (fun c => c.shared.changes) = some [2, 2] := by decide
  obtain ⟨c, hc, hchanges⟩ := Option.map_eq_some_iff.mp hrun
  have hnodup := (h c hc).1
  rw [hchanges] at hnodup
  exact absurd hnodup (by decide)

end OmniSupport.Auth
