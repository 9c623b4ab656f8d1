import OmniSupport.Identity.AccountChange
import OmniSupport.Identity.ProfileEdits
import Mathlib.Data.Option.Defs

/-! Profile edits against the columns they are not about. The run without the edits goes
through the same writes, as long as no edit puts back columns another call has changed. -/
namespace OmniSupport.Identity
open Foundation Database Auth

/-- Rows the other calls cannot tell apart. -/
structure Agrees (u v : User) : Prop extends SameSecurity u v where
  id : u.id = v.id
  email : u.email = v.email
  verified : u.emailVerifiedAt.isSome = v.emailVerifiedAt.isSome
  removedAt : u.removedAt = v.removedAt

/-- What every version of the row has in common with the first: the address is verified if
it was at first, or since the account has joined a tenant. -/
structure VersionOf (first row : User) : Prop where
  id : row.id = first.id
  email : row.email = first.email
  joined : first.tenantId.isSome → row.tenantId.isSome
  verified : row.emailVerifiedAt.isSome =
    (first.emailVerifiedAt.isSome || (first.tenantId.isNone && row.tenantId.isSome))

theorem Agrees.refl (u : User) : Agrees u u := ⟨⟨rfl, rfl, rfl, rfl, rfl, rfl⟩, rfl, rfl, rfl, rfl⟩

theorem VersionOf.refl (row : User) : VersionOf row row := by
  refine ⟨rfl, rfl, fun h => h, ?_⟩
  cases row.tenantId <;> simp

/-- Writes that keep rows indistinguishable. -/
def WritesAgree (f g : RowWrite) : Prop :=
  ∀ takenAt writtenAt x y, Agrees x y → Agrees (f takenAt writtenAt x) (g takenAt writtenAt y)

section writes
variable {crypto : AuthCrypto} {u v first copy row : User} {readAt : Time} {f : RowWrite}

theorem isUserIn_agrees (h : Agrees u v) (id : Uuid) (tenantId : Option Uuid) :
    isUserIn id tenantId u = isUserIn id tenantId v := by
  simp only [isUserIn, h.id, h.tenantId]

theorem isAgentIn_agrees (h : Agrees u v) (id tenantId : Uuid) :
    isAgentIn id tenantId u = isAgentIn id tenantId v := by
  simp only [isAgentIn, h.id, h.tenantId, h.role]

/-- A whole row is written from the copy, except for what the statement leaves alone. -/
theorem write_agrees {x y : User} (h : Agrees u v) (hxy : Agrees x y) (writtenAt : Time) :
    Agrees (User.write writtenAt u x) (User.write writtenAt v y) where
  role := h.role
  status := h.status
  passwordHash := h.passwordHash
  tenantId := h.tenantId
  failedLoginAttempts := h.failedLoginAttempts
  lockedUntil := h.lockedUntil
  id := hxy.id
  email := h.email
  verified := h.verified
  removedAt := hxy.removedAt

theorem roleWrite_agrees (h : Agrees u v) (dto : ChangeRoleDto) (header : EventHeader) :
    Option.Rel WritesAgree (roleWrite dto header u) (roleWrite dto header v) := by
  unfold roleWrite
  rw [isUserIn_agrees h]
  by_cases hfound : isUserIn dto.targetUserId dto.tenantId v = true
  · rw [if_pos hfound, if_pos hfound]
    cases UserRole.create dto.newRole with
    | error x => exact .none
    | ok newRole =>
      have hdecision : UserService.roleDecision dto u newRole =
          UserService.roleDecision dto v newRole := by
        simp only [UserService.roleDecision, h.id, h.role, h.tenantId]
      simp only [hdecision]
      split
      · refine .some fun takenAt writtenAt x y hxy => ?_
        rw [roleChanged_row, roleChanged_row]
        have hchanged : Agrees { u with role := newRole } { v with role := newRole } :=
          { h with role := rfl }
        exact write_agrees hchanged hxy writtenAt
      · exact .none
  · rw [if_neg hfound, if_neg hfound]
    exact .none

theorem failedLogin_agrees (h : Agrees u v) : WritesAgree
    (AuthService.failedLogin (u.failedLoginAttempts + 1))
    (AuthService.failedLogin (v.failedLoginAttempts + 1)) := by
  intro takenAt writtenAt x y hxy
  have hcount := h.failedLoginAttempts
  have hlocked := hxy.lockedUntil
  exact { hxy with
    failedLoginAttempts := by simp only [AuthService.failedLogin, hcount]
    lockedUntil := by simp only [AuthService.failedLogin, hcount, hlocked] }

theorem loginWrite_agrees (h : Agrees u v) (dto : LoginDto) (tenant : Option Tenant) :
    Option.Rel WritesAgree (loginWrite crypto dto tenant readAt u)
      (loginWrite crypto dto tenant readAt v) := by
  unfold loginWrite
  rw [h.email, h.passwordHash]
  by_cases hemail : v.email = JsText.toLowerCase dto.email
  · rw [if_pos hemail, if_pos hemail]
    have hpassword : AuthService.hasPassword u = AuthService.hasPassword v := by
      simp only [AuthService.hasPassword, h.passwordHash]
    have hlocked : AuthService.isLocked readAt u = AuthService.isLocked readAt v := by
      simp only [AuthService.isLocked, h.lockedUntil]
    have hallowed : AuthService.loginAllowed u = AuthService.loginAllowed v := by
      simp only [AuthService.loginAllowed, h.status, h.verified, h.role]
    simp only [AuthService.credentials, hpassword, hlocked]
    by_cases hrefused : (!AuthService.hasPassword v || AuthService.isLocked readAt v) = true
    · rw [if_pos hrefused, if_pos hrefused]
      exact .none
    · rw [if_neg hrefused, if_neg hrefused]
      by_cases hvalid : (!crypto.verifyPassword (v.passwordHash.getD crypto.dummyPasswordHash)
          dto.password) = true
      · rw [if_pos hvalid, if_pos hvalid]
        exact .some (failedLogin_agrees h)
      · rw [if_neg hvalid, if_neg hvalid]
        simp only [hallowed, h.tenantId]
        split
        · refine .some fun takenAt writtenAt x y hxy => ?_
          exact { hxy with failedLoginAttempts := rfl, lockedUntil := rfl }
        · exact .none
  · rw [if_neg hemail, if_neg hemail]
    exact .none

theorem setActiveTarget_some (input : SetActiveInput) (row : User) :
    StaffLifecycleService.setActiveTarget input (some row) =
      if !(input.active && row.removedAt.isSome) then .ok row
      else .error (.conflict "Removed agents cannot be reactivated") := by
  by_cases hremoved : (!(input.active && row.removedAt.isSome)) = true
  · simp only [StaffLifecycleService.setActiveTarget, orThrow, require, bind, Except.bind,
      if_pos hremoved]
    rfl
  · simp only [StaffLifecycleService.setActiveTarget, orThrow, require, bind, Except.bind,
      if_neg hremoved]

theorem activeWrite_agrees (h : Agrees u v) (input : SetActiveInput) :
    Option.Rel WritesAgree (activeWrite input u) (activeWrite input v) := by
  unfold activeWrite
  rw [isAgentIn_agrees h]
  by_cases hfound : input.actorId ≠ input.userId ∧
      isAgentIn input.userId input.tenantId v = true
  · rw [if_pos hfound, if_pos hfound]
    rw [setActiveTarget_some, setActiveTarget_some, h.removedAt]
    by_cases hremoved : (!(input.active && v.removedAt.isSome)) = true
    · rw [if_pos hremoved, if_pos hremoved]
      exact .some fun takenAt writtenAt x y hxy => { hxy with status := rfl }
    · rw [if_neg hremoved, if_neg hremoved]
      exact .none
  · rw [if_neg hfound, if_neg hfound]
    exact .none

theorem removeWrite_agrees (h : Agrees u v) (input : RemoveInput) :
    Option.Rel WritesAgree (removeWrite input u) (removeWrite input v) := by
  unfold removeWrite
  rw [isAgentIn_agrees h]
  split
  · exact .some fun takenAt writtenAt x y hxy => { hxy with status := rfl, removedAt := rfl }
  · exact .none

theorem acceptedRow_agrees (invitation : Invitation) (passwordHash : Option String) :
    WritesAgree (acceptedRow invitation passwordHash) (acceptedRow invitation passwordHash) := by
  intro takenAt writtenAt x y hxy
  unfold acceptedRow
  rw [hxy.tenantId]
  split
  · have hpassword := hxy.passwordHash
    exact { hxy with
      role := rfl
      status := rfl
      passwordHash := by simp only [InvitationService.accepted, hpassword]
      tenantId := rfl
      failedLoginAttempts := rfl
      lockedUntil := rfl
      verified := rfl }
  · exact hxy

theorem acceptWrite_agrees (h : Agrees u v) (invitation : Invitation) (input : AcceptInput)
    (passwordHash : String) :
    Option.Rel WritesAgree (acceptWrite crypto invitation input passwordHash readAt u)
      (acceptWrite crypto invitation input passwordHash readAt v) := by
  unfold acceptWrite
  rw [h.email]
  split
  · have haccount : InvitationService.checkAccount input (some u) =
        InvitationService.checkAccount input (some v) := by
      simp only [InvitationService.checkAccount, InvitationService.mayAccept, Option.all_some,
        Option.any_some, Option.isSome_some, h.tenantId, h.role, h.status, h.id]
    have hcontrol : InvitationService.checkControl crypto.verifyPassword input (some u) =
        InvitationService.checkControl crypto.verifyPassword input (some v) := by
      simp only [InvitationService.checkControl, InvitationService.passwordMatches, h.verified,
        h.id, h.passwordHash]
      rfl
    simp only [haccount, hcontrol]
    split
    · exact .some (acceptedRow_agrees _ _)
    · exact .none
  · exact .none

/-- Calls that have read rows they cannot tell apart go on to writes that keep it so. -/
theorem rowWrite_agrees (crypto : AuthCrypto) (readAt : Time) (h : Agrees u v)
    (call : SecurityCall) :
    Option.Rel WritesAgree (call.rowWrite crypto readAt u) (call.rowWrite crypto readAt v) := by
  cases call with
  | changeRole dto header => exact roleWrite_agrees h dto header
  | resetPassword userId passwordHash =>
    simp only [SecurityCall.rowWrite, h.id]
    split
    · exact .some fun takenAt writtenAt x y hxy =>
        { hxy with passwordHash := rfl, failedLoginAttempts := rfl, lockedUntil := rfl }
    · exact .none
  | login dto tenant => exact loginWrite_agrees h dto tenant
  | setActive input => exact activeWrite_agrees h input
  | remove input => exact removeWrite_agrees h input
  | accept invitation input passwordHash => exact acceptWrite_agrees h invitation input passwordHash

end writes

section versions
variable {crypto : AuthCrypto} {first copy row : User} {readAt : Time}

/-- A whole-row write puts back an earlier version of the address and the tenant. -/
theorem VersionOf.write (h : VersionOf first row) (hcopy : VersionOf first copy) (changed : User)
    (hemail : changed.email = copy.email) (htenant : changed.tenantId = copy.tenantId)
    (hverified : changed.emailVerifiedAt = copy.emailVerifiedAt) (writtenAt : Time) :
    VersionOf first (User.write writtenAt changed row) where
  id := h.id
  email := hemail.trans hcopy.email
  joined hjoined := by
    have hsome := hcopy.joined hjoined
    rw [← htenant] at hsome
    exact hsome
  verified := by
    have hsame := hcopy.verified
    rw [← htenant, ← hverified] at hsame
    exact hsame

/-- The account joins a tenant, with its address verified. -/
theorem VersionOf.accept (h : VersionOf first row) (invitation : Invitation)
    (passwordHash : Option String) (takenAt writtenAt : Time) :
    VersionOf first (acceptedRow invitation passwordHash takenAt writtenAt row) := by
  unfold acceptedRow
  by_cases hnone : row.tenantId.isNone = true
  · rw [if_pos hnone]
    have hfirst : first.tenantId = none := by
      by_contra hsome
      have hjoined := h.joined (Option.isSome_iff_ne_none.mpr hsome)
      rw [Option.isNone_iff_eq_none.mp hnone] at hjoined
      cases hjoined
    refine ⟨h.id, h.email, fun _ => rfl, ?_⟩
    simp [InvitationService.accepted, hfirst]
  · rw [if_neg hnone]
    exact h

theorem VersionOf.rowWrite {call : SecurityCall} {f : RowWrite} (hcopy : VersionOf first copy)
    (hwrite : call.rowWrite crypto readAt copy = some f) (h : VersionOf first row)
    (takenAt writtenAt : Time) : VersionOf first (f takenAt writtenAt row) := by
  cases call with
  | changeRole dto header =>
    simp only [SecurityCall.rowWrite, roleWrite] at hwrite
    split at hwrite
    · split at hwrite
      · rename_i newRole hrole
        split at hwrite
        · cases hwrite
          rw [roleChanged_row]
          exact h.write hcopy { copy with role := newRole } rfl rfl rfl writtenAt
        · cases hwrite
      · cases hwrite
    · cases hwrite
  | resetPassword userId passwordHash =>
    simp only [SecurityCall.rowWrite] at hwrite
    split at hwrite
    · cases hwrite
      exact ⟨h.id, h.email, h.joined, h.verified⟩
    · cases hwrite
  | login dto tenant =>
    simp only [SecurityCall.rowWrite, loginWrite] at hwrite
    split at hwrite
    · split at hwrite
      · cases hwrite
      · cases hwrite
        exact ⟨h.id, h.email, h.joined, h.verified⟩
      · split at hwrite
        · cases hwrite
          exact ⟨h.id, h.email, h.joined, h.verified⟩
        · cases hwrite
    · cases hwrite
  | setActive input =>
    simp only [SecurityCall.rowWrite, activeWrite] at hwrite
    split at hwrite
    · split at hwrite
      · cases hwrite
        exact ⟨h.id, h.email, h.joined, h.verified⟩
      · cases hwrite
    · cases hwrite
  | remove input =>
    simp only [SecurityCall.rowWrite, removeWrite] at hwrite
    split at hwrite
    · cases hwrite
      exact ⟨h.id, h.email, h.joined, h.verified⟩
    · cases hwrite
  | accept invitation input passwordHash =>
    simp only [SecurityCall.rowWrite, acceptWrite] at hwrite
    split at hwrite
    · split at hwrite
      · cases hwrite
        exact h.accept _ _ takenAt writtenAt
      · cases hwrite
    · cases hwrite

/-- Versions with one tenant column have one answer to whether the address is verified. -/
theorem VersionOf.verified_eq (h : VersionOf first row) (hcopy : VersionOf first copy)
    (htenant : copy.tenantId = row.tenantId) :
    copy.emailVerifiedAt.isSome = row.emailVerifiedAt.isSome := by
  rw [h.verified, hcopy.verified, htenant]

/-- An edit of a current copy leaves what the other calls see. -/
theorem edited_agrees {dto : UpdateProfileDto} {other : User} {writtenAt : Time}
    (h : VersionOf first row) (hcopy : VersionOf first copy) (hcurrent : SameSecurity copy row)
    (hother : Agrees row other) : Agrees (editedRow dto copy writtenAt row) other where
  role := hcurrent.role.trans hother.role
  status := hcurrent.status.trans hother.status
  passwordHash := hcurrent.passwordHash.trans hother.passwordHash
  tenantId := hcurrent.tenantId.trans hother.tenantId
  failedLoginAttempts := hcurrent.failedLoginAttempts.trans hother.failedLoginAttempts
  lockedUntil := hcurrent.lockedUntil.trans hother.lockedUntil
  id := hother.id
  email := (hcopy.email.trans h.email.symm).trans hother.email
  verified := (h.verified_eq hcopy hcurrent.tenantId).trans hother.verified
  removedAt := hother.removedAt

end versions

section unwinding
variable {crypto : AuthCrypto} {first : User}

/-- The calls of the two runs: an edit stands beside no call. -/
inductive CallRel (first : User) : AccountCall → AccountCall → Prop
  | idle : CallRel first .idle .idle
  | editing (dto : UpdateProfileDto) (copy : User) (hcopy : VersionOf first copy) :
      CallRel first (.editing dto copy) .idle
  | changing (call : SecurityCall) (readAt : Time) (copy copy' : User)
      (hcopy : VersionOf first copy) (hsame : Agrees copy copy') :
      CallRel first (.changing call readAt copy) (.changing call readAt copy')

def RowRel (first u v : User) : Prop := VersionOf first u ∧ Agrees u v

theorem startCall_rel {u v : User} (h : RowRel first u v) (call : SecurityCall) (readAt : Time) :
    CallRel first (startCall crypto call readAt u) (startCall crypto call readAt v) := by
  have hwrites := rowWrite_agrees crypto readAt h.2 call
  unfold startCall
  cases hu : call.rowWrite crypto readAt u with
  | none =>
    cases hv : call.rowWrite crypto readAt v with
    | none => exact .idle
    | some g =>
      rw [hu, hv] at hwrites
      cases hwrites
  | some f =>
    cases hv : call.rowWrite crypto readAt v with
    | none =>
      rw [hu, hv] at hwrites
      cases hwrites
    | some g => exact .changing call readAt u v h.1 h.2

theorem finishCall_rel {u v copy copy' : User} {call : SecurityCall} {readAt : Time}
    (h : RowRel first u v) (hcopy : VersionOf first copy) (hsame : Agrees copy copy')
    (takenAt writtenAt : Time) :
    RowRel first (finishCall crypto call readAt copy takenAt writtenAt u)
      (finishCall crypto call readAt copy' takenAt writtenAt v) := by
  have hwrites := rowWrite_agrees crypto readAt hsame call
  unfold finishCall
  cases hf : call.rowWrite crypto readAt copy with
  | none =>
    cases hg : call.rowWrite crypto readAt copy' with
    | none => exact h
    | some g =>
      rw [hf, hg] at hwrites
      cases hwrites
  | some f =>
    cases hg : call.rowWrite crypto readAt copy' with
    | none =>
      rw [hf, hg] at hwrites
      cases hwrites
    | some g =>
      rw [hf, hg] at hwrites
      cases hwrites with
      | some hfg => exact ⟨hcopy.rowWrite hf h.1 takenAt writtenAt, hfg takenAt writtenAt u v h.2⟩

theorem edits_unwind (crypto : AuthCrypto) (first : User) :
    (accountProgram crypto).Unwinds AccountAction.isProfile CopyCurrent (RowRel first)
      (CallRel first) where
  visible p u v l k a u' l' h hl ha hact := by
    cases hl with
    | idle =>
      cases a with
      | read call readAt =>
        cases hact
        exact ⟨v, _, rfl, h, startCall_rel h call readAt⟩
      | readProfile dto | writeProfile writtenAt | failProfile => cases ha
      | write takenAt writtenAt | fail => cases hact
    | editing dto copy hcopy =>
      cases a with
      | readProfile dto' | writeProfile writtenAt | failProfile => cases ha
      | read call readAt | write takenAt writtenAt | fail => cases hact
    | changing call readAt copy copy' hcopy hsame =>
      cases a with
      | write takenAt writtenAt =>
        cases hact
        exact ⟨_, _, rfl, finishCall_rel h hcopy hsame takenAt writtenAt, .idle⟩
      | fail =>
        cases hact
        exact ⟨v, _, rfl, h, .idle⟩
      | readProfile dto | writeProfile writtenAt | failProfile => cases ha
      | read call' readAt' => cases hact
  hidden p u v l k a u' l' h hl ha hc hact := by
    cases hl with
    | idle =>
      cases a with
      | readProfile dto =>
        cases hact
        refine ⟨h, ?_⟩
        unfold startEdit
        split
        · exact .editing dto u h.1
        · exact .idle
      | writeProfile writtenAt | failProfile => cases hact
      | read call readAt | write takenAt writtenAt | fail => cases ha
    | editing dto copy hcopy =>
      cases a with
      | writeProfile writtenAt =>
        cases hact
        have hcurrent : SameSecurity copy u := hc
        have hversion : VersionOf first (editedRow dto copy writtenAt u) :=
          h.1.write hcopy ((UserEntity.reconstitute copy).updateProfile dto.toProfileInput).row
            rfl rfl rfl writtenAt
        exact ⟨⟨hversion, edited_agrees h.1 hcopy hcurrent h.2⟩, .idle⟩
      | failProfile =>
        cases hact
        exact ⟨h, .idle⟩
      | readProfile dto' => cases hact
      | read call readAt | write takenAt writtenAt | fail => cases ha
    | changing call readAt copy copy' hcopy hsame =>
      cases a with
      | readProfile dto | writeProfile writtenAt | failProfile => cases hact
      | read call' readAt' | write takenAt writtenAt | fail => cases ha
  env s t e := e.elim

end unwinding

/-- Profile edits keep the security columns in every run in which each edit writes over a
row that still has the columns it has read. -/
theorem profile_edits_keep_security (crypto : AuthCrypto) (row : User) (moves : List AccountMove)
    (hcurrent : (accountProgram crypto).machine.Within (Program.OfAction CopyCurrent)
      (storedUser row) moves) :
    EditsKeepSecurity crypto row moves := by
  intro c hrun
  have hstart : Program.PoolRel (RowRel row) (CallRel row) (storedUser row) (storedUser row) :=
    ⟨⟨VersionOf.refl row, Agrees.refl row⟩, fun _ => .idle⟩
  obtain ⟨d, hwithout, hrel⟩ := (edits_unwind crypto row).machine.run hstart hcurrent hrun
  exact ⟨d, hwithout, hrel.1.2.toSameSecurity⟩

section demo

def profileUser : User :=
  { (default : User) with id := 1, email := "a", passwordHash := some "old", firstName := "Ann" }

def renameEdit : UpdateProfileDto := ⟨⟨some " Bea ", none, none, none, none, none⟩, 1, none⟩

/-- The password is reset between the read and the write of a profile edit. -/
def editOverReset : List AccountMove :=
  [.act 0 (.readProfile renameEdit), .act 1 (.read (.resetPassword 1 "new") 5),
    .act 1 (.write 6 6), .act 0 (.writeProfile 7)]

/-- The edit ends before the write of the reset that began with it. -/
def editThenReset : List AccountMove :=
  [.act 0 (.readProfile renameEdit), .act 1 (.read (.resetPassword 1 "new") 5),
    .act 0 (.writeProfile 6), .act 1 (.write 7 7)]

end demo

theorem edit_then_reset_keeps_security :
    ((accountProgram sampleCrypto).machine.run (storedUser profileUser) editThenReset).isSome ∧
      EditsKeepSecurity sampleCrypto profileUser editThenReset :=
  ⟨by decide, profile_edits_keep_security sampleCrypto profileUser editThenReset (by decide)⟩

/-- The edit puts the old password back. -/
theorem edit_restores_old_password : ¬ EditsKeepSecurity sampleCrypto profileUser editOverReset := by
  intro h
  have hrun : ((accountProgram sampleCrypto).machine.run (storedUser profileUser)
      editOverReset).map (fun c => c.shared.passwordHash) = some (some "old") := by decide
  have hwithout : ((accountProgram sampleCrypto).machine.run (storedUser profileUser)
      (withoutEdits editOverReset)).map (fun c => c.shared.passwordHash) = some (some "new") := by
    decide
  obtain ⟨c, hc, hold⟩ := Option.map_eq_some_iff.mp hrun
  obtain ⟨d, hd, hsame⟩ := h c hc
  rw [hd] at hwithout
  have hnew : d.shared.passwordHash = some "new" := Option.some.inj hwithout
  rw [← hsame.passwordHash, hold] at hnew
  exact absurd hnew (by decide)

end OmniSupport.Identity
