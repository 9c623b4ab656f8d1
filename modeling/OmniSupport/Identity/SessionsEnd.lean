import OmniSupport.Identity.SessionRevocation

/-! A change that ends sessions, against its own order of statements: the commit comes
first, the revocation after it, and a failure between the two leaves the sessions. -/
namespace OmniSupport.Identity
open Foundation Database Effect Auth

section phases
variable {crypto : AuthCrypto} {env : ServiceEnv} {s : Store} (faults : Nat → Fault)

/-- Stopped before the commit, between the commit and the revocation, or after both. -/
def SessionPhases (crypto : AuthCrypto) (env : ServiceEnv) (s : Store) (faults : Nat → Fault)
    (command : SecurityCommand) (change : Committed) : Prop :=
  Phases accounts faults env 0 0 s (commitStages command) [.strict]
    (performSecurity crypto command) (fun t => accounts t = accounts change.store)
    (Revoked change)

theorem inside_writeReset (token : PasswordResetToken) (passwordHash : String) :
    Inside (AuthService.writeReset token passwordHash) :=
  (inside_draw _).bind fun _ => (inside_userUpdate _ _).bind fun _ =>
    (inside_draw _).bind fun _ => inside_call _ _ _

/-- A token that may be used is stored, unused and not expired. -/
theorem usableReset_ok {found : Option PasswordResetToken} {time : Time}
    {token : PasswordResetToken} (h : AuthService.usableReset found time = .ok token) :
    found = some token ∧ ¬ token.expiresAt < time := by
  simp only [AuthService.usableReset, bind_eq_ok] at h
  obtain ⟨stored, hfound, u, hexpiry, hsame⟩ := h
  cases hsame
  have htime := require_ok hexpiry
  exact ⟨orThrow_ok hfound, by simpa using htime⟩

theorem sequence_writeReset {n d : Nat} {token : PasswordResetToken} {passwordHash : String}
    (huser : (s.findUser token.userId).isSome = true) (hm : token ∈ s.resetTokens) :
    Sequence accounts true faults env n d s [.strict, .strict]
      (AuthService.writeReset token passwordHash) fun _ _ s' =>
        s' = (s.updateUser token.userId (AuthService.passwordReset passwordHash
          (env.clock d))).useResetToken token.id (env.clock (d + 1)) := by
  refine (sequence_draw ServiceEnv.clock).bind_inside ?_
  rintro writtenAt d₁ s₁ ⟨rfl, rfl, rfl⟩
  refine (sequence_prismaUserUpdate (fun _ => rfl) huser).bind_inside ?_
  rintro u d₂ s₂ ⟨rfl, rfl⟩
  refine (sequence_draw ServiceEnv.clock).bind_inside ?_
  rintro usedAt d₃ s₃ ⟨rfl, rfl, rfl⟩
  refine Sequence.mono (sequence_call (fun _ => rfl) (if_pos ⟨token, hm, rfl⟩)) ?_
  rintro u d₄ s₄ ⟨-, -, rfl⟩
  rfl

theorem phases_resetPassword {text newPassword : String} {ipAddress : Option String}
    {token : PasswordResetToken}
    (htoken : AuthService.usableReset (s.findUnusedReset (crypto.sha256 text)) (env.clock 0) =
      .ok token)
    (hpassword : Password.create newPassword = .ok ())
    (huser : (s.findUser token.userId).isSome = true) :
    SessionPhases crypto env s faults (.resetPassword text newPassword ipAddress)
      (resetCommitted crypto env s token newPassword) := by
  have hm : token ∈ s.resetTokens := List.mem_of_find?_eq_some (usableReset_ok htoken).1
  refine phases_bind (sequence_find (fun h => by cases h)) ?_
  rintro found d₁ s₁ ⟨rfl, rfl, rfl⟩
  refine ⟨rfl, phases_bind_nil (sequence_draw ServiceEnv.clock) ?_⟩
  rintro checkedAt d₂ s₂ ⟨rfl, rfl, rfl⟩
  refine ⟨rfl, phases_bind_nil (sequence_lift htoken) ?_⟩
  rintro resetToken d₃ s₃ ⟨rfl, rfl, rfl⟩
  refine ⟨rfl, phases_bind_nil (sequence_lift hpassword) ?_⟩
  rintro u d₄ s₄ ⟨-, rfl, rfl⟩
  refine ⟨rfl, phases_bind_nil (sequence_draw _) ?_⟩
  rintro salt d₅ s₅ ⟨rfl, rfl, rfl⟩
  refine ⟨rfl, phases_bind (sequence_find (fun h => by cases h)) ?_⟩
  rintro passwordHash d₆ s₆ ⟨rfl, rfl, rfl⟩
  refine ⟨rfl, phases_then (sequence_transaction (inside_writeReset _ _)
    (sequence_writeReset faults huser hm)) ?_⟩
  rintro u d₇ s₇ rfl
  refine ⟨fun t ht => ht, phases_revoke (sequence_revokeUser (fun _ => Iff.rfl) rfl) ?_⟩
  intro d₈ s₈ hrevoked
  have hcache : Ends env d₈ s₈
      (fun _ _ => Revoked (resetCommitted crypto env s₆ resetToken newPassword))
      (Revoked (resetCommitted crypto env s₆ resetToken newPassword))
      (Effect.swallow (Prisma.find .root .userCacheInvalidate fun _ => ())) :=
    Ends.swallow (ends_read hrevoked hrevoked)
  exact hcache.bind fun _ _ _ h => ends_revoked_audit h

theorem phases_deactivate {tenantId actorId userId : Uuid} {target : User}
    (hactor : actorId ≠ userId) (htarget : s.findAgent userId tenantId = some target) :
    SessionPhases crypto env s faults (.deactivate tenantId actorId userId)
      (deactivated env s target) := by
  have hother : require (actorId ≠ userId) (.forbidden "You cannot change your own status") =
      .ok () := if_pos (decide_eq_true hactor)
  refine phases_bind_nil (sequence_lift hother) ?_
  rintro u d₁ s₁ ⟨-, rfl, rfl⟩
  refine ⟨rfl, phases_bind (sequence_find (fun h => by cases h)) ?_⟩
  rintro found d₂ s₂ ⟨rfl, rfl, rfl⟩
  have hok : StaffLifecycleService.setActiveTarget ⟨tenantId, actorId, userId, false⟩
      (s₂.findAgent userId tenantId) = .ok target := by
    rw [htarget]
    rfl
  refine ⟨rfl, phases_bind_nil (sequence_lift hok) ?_⟩
  rintro target d₃ s₃ ⟨rfl, rfl, rfl⟩
  refine ⟨rfl, phases_bind_nil (sequence_draw ServiceEnv.clock) ?_⟩
  rintro writtenAt d₄ s₄ ⟨rfl, rfl, rfl⟩
  have hrow : (s₄.findUser target.id).isSome = true := by
    rw [Store.findUser, List.find?_isSome]
    exact ⟨target, List.mem_of_find?_eq_some htarget, by simp⟩
  refine ⟨rfl, phases_then (sequence_prismaUserUpdate (fun h => by cases h) hrow) ?_⟩
  rintro u d₅ s₅ ⟨rfl, rfl⟩
  refine ⟨fun t ht => ht, phases_revoke (sequence_revokeUser (fun _ => Iff.rfl) rfl) ?_⟩
  intro d₆ s₆ hrevoked
  exact ends_revoked_audit hrevoked

theorem inside_writeRemoval (input : RemoveInput) :
    Inside (StaffLifecycleService.writeRemoval input) :=
  (inside_draw _).bind fun _ => (inside_write _ _).bind fun _ => (inside_draw _).bind fun _ =>
    (inside_write _ _).bind fun _ => (inside_write _ _).bind fun _ =>
      (inside_draw _).bind fun _ => (inside_draw _).bind fun _ => inside_userUpdate _ _

theorem sequence_writeRemoval {n : Nat} {input : RemoveInput}
    (hrow : (s.findUser input.userId).isSome = true) :
    Sequence accounts true faults env n 0 s [.strict, .strict, .strict, .strict]
      (StaffLifecycleService.writeRemoval input) fun _ _ s' =>
        s' = (staffRemoved env s input).store := by
  refine (sequence_draw ServiceEnv.clock).bind_inside ?_
  rintro ticketsAt d₁ s₁ ⟨rfl, rfl, rfl⟩
  refine (sequence_write fun _ => rfl).bind_inside ?_
  rintro u d₂ s₂ ⟨rfl, rfl⟩
  refine (sequence_draw ServiceEnv.clock).bind_inside ?_
  rintro customersAt d₃ s₃ ⟨rfl, rfl, rfl⟩
  refine (sequence_write fun _ => rfl).bind_inside ?_
  rintro u d₄ s₄ ⟨rfl, rfl⟩
  refine (sequence_write fun _ => rfl).bind_inside ?_
  rintro u d₅ s₅ ⟨rfl, rfl⟩
  refine (sequence_draw ServiceEnv.clock).bind_inside ?_
  rintro removedAt d₆ s₆ ⟨rfl, rfl, rfl⟩
  refine (sequence_draw ServiceEnv.clock).bind_inside ?_
  rintro writtenAt d₇ s₇ ⟨rfl, rfl, rfl⟩
  refine Sequence.mono (sequence_prismaUserUpdate (fun _ => rfl) hrow) ?_
  rintro u d₈ s₈ ⟨-, rfl⟩
  rfl

theorem sequence_requireReplacement {n d : Nat} {input : RemoveInput}
    (hreplacement : ∀ id ∈ input.replacementAgentId,
      (s.findActiveAgent id input.tenantId).isSome = true) :
    Sequence accounts false faults env n d s
      (if input.replacementAgentId.isSome then [.strict] else [])
      (StaffLifecycleService.requireReplacement input) fun _ d' s' => d' = d ∧ s' = s := by
  unfold StaffLifecycleService.requireReplacement
  cases hid : input.replacementAgentId with
  | none =>
    refine Sequence.mono (sequence_pure ()) ?_
    rintro u d₁ s₁ ⟨-, hd, hs⟩
    exact ⟨hd, hs⟩
  | some id =>
    have hfound := hreplacement id hid
    refine (sequence_find fun h => by cases h).bind (fun _ _ _ h => by rw [h.2.2]) ?_
    rintro found d₁ s₁ ⟨rfl, rfl, rfl⟩
    refine Sequence.mono (sequence_lift (if_pos hfound)) ?_
    rintro u d₂ s₂ ⟨-, hd, hs⟩
    exact ⟨hd, hs⟩

theorem phases_removeStaff {input : RemoveInput} {target : User}
    (hactor : input.actorId ≠ input.userId)
    (hother : input.replacementAgentId ≠ some input.userId)
    (htarget : s.findAgent input.userId input.tenantId = some target)
    (hreplacement : ∀ id ∈ input.replacementAgentId,
      (s.findActiveAgent id input.tenantId).isSome = true) :
    SessionPhases crypto env s faults (.removeStaff input) (staffRemoved env s input) := by
  refine phases_bind_nil (sequence_lift (if_pos (decide_eq_true hactor))) ?_
  rintro u d₁ s₁ ⟨-, rfl, rfl⟩
  refine ⟨rfl, phases_bind_nil (sequence_lift (if_pos (decide_eq_true hother))) ?_⟩
  rintro u d₂ s₂ ⟨-, rfl, rfl⟩
  refine ⟨rfl, phases_bind (sequence_find fun h => by cases h) ?_⟩
  rintro found d₃ s₃ ⟨rfl, rfl, rfl⟩
  refine ⟨rfl, phases_bind_nil (sequence_lift (by rw [htarget]; rfl)) ?_⟩
  rintro target d₄ s₄ ⟨rfl, rfl, rfl⟩
  refine ⟨rfl, phases_bind (sequence_requireReplacement faults hreplacement) ?_⟩
  rintro u d₅ s₅ ⟨rfl, rfl⟩
  have hrow : (s₅.findUser input.userId).isSome = true := by
    have hmem := List.mem_of_find?_eq_some htarget
    have hkey := List.find?_some htarget
    simp only [decide_eq_true_eq] at hkey
    rw [Store.findUser, List.find?_isSome]
    exact ⟨target, hmem, by simp [hkey.1]⟩
  refine ⟨rfl, phases_then (sequence_transaction (inside_writeRemoval _)
    (sequence_writeRemoval faults hrow)) ?_⟩
  rintro u d₆ s₆ rfl
  refine ⟨fun t ht => ht, phases_revoke (sequence_revokeUser (fun _ => Iff.rfl) rfl) ?_⟩
  intro d₇ s₇ hrevoked
  exact ends_revoked_audit hrevoked

theorem phases_roleChange {dto : ChangeRoleDto} {target : User} {newRole : UserRole}
    (hallowed : RoleChangeAllowed s dto target newRole) (hdiffers : target.role ≠ newRole) :
    SessionPhases crypto env s faults (.changeRole dto) (roleCommitted env s dto target newRole) := by
  obtain ⟨htarget, hrole, hpolicy, hemail, htenant⟩ := hallowed
  obtain ⟨row, hrow⟩ := findUser_of_findUserIn htarget
  refine phases_bind sequence_read_outside ?_
  rintro found d₁ s₁ ⟨rfl, rfl, rfl⟩
  refine ⟨rfl, phases_bind_nil (sequence_lift (by rw [htarget]; rfl)) ?_⟩
  rintro target d₂ s₂ ⟨rfl, rfl, rfl⟩
  refine ⟨rfl, phases_bind_nil (sequence_lift hrole) ?_⟩
  rintro newRole d₃ s₃ ⟨rfl, rfl, rfl⟩
  refine ⟨rfl, phases_bind_nil (sequence_lift (if_pos hpolicy)) ?_⟩
  rintro u d₄ s₄ ⟨-, rfl, rfl⟩
  refine ⟨rfl, phases_bind_nil (sequence_draw ServiceEnv.header) ?_⟩
  rintro header d₅ s₅ ⟨rfl, rfl, rfl⟩
  have hchanged := roleChanged_row dto target newRole (env.header 0)
  have hfound : s₅.findUser (UserService.roleChanged dto target newRole (env.header 0)).row.id =
      some row := by rw [hchanged, hrow]
  have hfree : ¬ s₅.emailTaken (UserService.roleChanged dto target newRole (env.header 0)).row := by
    rw [hchanged]
    exact hemail
  have hstored : ∀ tenantId, (UserService.roleChanged dto target newRole
      (env.header 0)).row.tenantId = some tenantId → s₅.findTenant tenantId ≠ none := by
    rw [hchanged]
    exact htenant
  refine ⟨rfl, phases_then (sequence_userUpdate hfound hfree hstored) ?_⟩
  rintro updated d₆ s₆ ⟨rfl, rfl⟩
  have hstore : s₅.updateUser (UserService.roleChanged dto target newRole (env.header 0)).row.id
      (User.write (env.clock 1) (UserService.roleChanged dto target newRole (env.header 0)).row) =
      (roleCommitted env s₅ dto target newRole).store := by
    rw [show (UserService.roleChanged dto target newRole (env.header 0)).row.id = target.id by
      rw [hchanged]]
    rfl
  have hends : (true && decide (target.role ≠ (User.write (env.clock 1)
      (UserService.roleChanged dto target newRole (env.header 0)).row row).role)) = true := by
    have hwritten : (User.write (env.clock 1)
        (UserService.roleChanged dto target newRole (env.header 0)).row row).role = newRole := by
      rw [hchanged]
      rfl
    rw [hwritten, Bool.true_and]
    exact decide_eq_true hdiffers
  rw [hstore]
  refine ⟨fun t ht => ht, ?_⟩
  simp only [UserService.recordRoleChange]
  rw [hends]
  refine phases_revoke (sequence_revokeUser (fun _ => Iff.rfl) rfl) ?_
  intro d₇ s₇ hrevoked
  exact (ends_revoked_audit hrevoked).bind fun _ _ _ h => ends_revoked_publish h

theorem phases_suspension {command : SuspendTenantCommand} {tenant : Tenant}
    {suspended : TenantEntity} (htenant : s.findTenant command.tenantId = some tenant)
    (hsuspended : (TenantEntity.reconstitute tenant).suspend (env.clock 0) (env.header 1)
      command.reason = .ok suspended) (hdomain : ¬ s.domainTaken tenant) :
    SessionPhases crypto env s faults (.suspendTenant command)
      (tenantSuspended env s tenant suspended) := by
  have hshape := suspend_ok hsuspended
  have hid : tenant.id = command.tenantId := by simpa using List.find?_some htenant
  have hfound : s.findTenant suspended.row.id = some tenant := by
    rw [hshape]
    exact hid ▸ htenant
  refine phases_bind sequence_read_outside ?_
  rintro found d₁ s₁ ⟨rfl, rfl, rfl⟩
  refine ⟨rfl, phases_bind_nil (sequence_lift (by rw [htenant]; rfl)) ?_⟩
  rintro tenant d₂ s₂ ⟨rfl, rfl, rfl⟩
  refine ⟨rfl, phases_bind_nil (sequence_draw ServiceEnv.clock) ?_⟩
  rintro suspendedAt d₃ s₃ ⟨rfl, rfl, rfl⟩
  refine ⟨rfl, phases_bind_nil (sequence_draw ServiceEnv.header) ?_⟩
  rintro header d₄ s₄ ⟨rfl, rfl, rfl⟩
  refine ⟨rfl, phases_bind_nil (sequence_lift hsuspended) ?_⟩
  rintro suspended d₅ s₅ ⟨rfl, rfl, rfl⟩
  have hfree : ¬ s₅.domainTaken suspended.row := by
    rw [hshape]
    exact hdomain
  have hrows : s₅.updateTenant suspended.row.id (Tenant.write (env.clock 2)
      (TenantRepository.withStoredFlags (some tenant) suspended.row)) =
      (tenantSuspended env s₅ tenant suspended).store := by
    rw [show suspended.row.id = tenant.id by rw [hshape]]
    rfl
  refine ⟨rfl, phases_then (sequence_tenantUpdate hfound hfree) ?_⟩
  rintro updated d₆ s₆ rfl
  rw [hrows]
  refine ⟨fun t ht => ht, phases_revoke (sequence_revokeTenant ?_ rfl) ?_⟩
  · intro stored
    rw [← hid]
    exact Iff.rfl
  · intro d₇ s₇ hrevoked
    exact (ends_revoked_audit hrevoked).bind fun _ _ _ h => ends_revoked_publish h

end phases

section refused
variable {crypto : AuthCrypto} {env : ServiceEnv} {s : Store}

/-- What no check lets through changes nothing. -/
def Refused (crypto : AuthCrypto) (env : ServiceEnv) (s : Store) (command : SecurityCommand) :
    Prop :=
  Atomic env 0 s (fun _ => False) (performSecurity crypto command)

theorem atomic_find {α β : Type} {d : Nat} {Q : Store → Prop} {c : Client} {kind : ServiceCall}
    {f : Store → α} {g : α → ServiceM β} (h : Atomic env d s Q (g (f s))) :
    Atomic env d s Q (Prisma.find c kind f >>= g) :=
  atomic_read_bind h

theorem refused_resetPassword {text newPassword : String} {ipAddress : Option String}
    (h : ∀ change, ¬ Commits crypto env s (.resetPassword text newPassword ipAddress) change) :
    Refused crypto env s (.resetPassword text newPassword ipAddress) := by
  refine atomic_find (atomic_draw_bind ?_)
  refine atomic_lift_bind fun token htoken => ?_
  refine atomic_lift_bind fun u hpassword => ?_
  refine atomic_draw_bind (atomic_find ?_)
  refine atomic_transaction_fails (inside_writeReset _ _) fun u d' s' hy => ?_
  obtain ⟨writtenAt, d₁, s₁, hdraw, hbody⟩ := yields_bind (inside_draw _) hy
  obtain ⟨rfl, -, rfl⟩ := yields_draw hdraw
  obtain ⟨u, d₂, s₂, hwrite, -⟩ := yields_bind (inside_userUpdate _ _) hbody
  obtain ⟨hrow, -⟩ := yields_call hwrite
  by_cases huser : (s₁.findUser token.userId).isSome = true
  · exact h _ (.resetPassword text newPassword ipAddress token htoken hpassword huser)
  · rw [if_neg huser] at hrow
    cases hrow

theorem refused_deactivate {tenantId actorId userId : Uuid}
    (h : ∀ change, ¬ Commits crypto env s (.deactivate tenantId actorId userId) change) :
    Refused crypto env s (.deactivate tenantId actorId userId) := by
  refine atomic_require fun hactor => ?_
  refine atomic_find (atomic_lift_bind fun target htarget => ?_)
  simp only [StaffLifecycleService.setActiveTarget, bind_eq_ok] at htarget
  obtain ⟨stored, hfound, -⟩ := htarget
  have hother : actorId ≠ userId := of_decide_eq_true hactor
  exact absurd (.deactivate tenantId actorId userId stored hother (orThrow_ok hfound)) (h _)

theorem atomic_requireReplacement {d : Nat} {Q : Store → Prop} {input : RemoveInput}
    {g : Unit → ServiceM Unit}
    (h : (∀ id ∈ input.replacementAgentId, (s.findActiveAgent id input.tenantId).isSome = true) →
      Atomic env d s Q (g ())) :
    Atomic env d s Q (StaffLifecycleService.requireReplacement input >>= g) := by
  unfold StaffLifecycleService.requireReplacement
  cases hid : input.replacementAgentId with
  | none =>
    refine h fun id hmem => ?_
    rw [hid] at hmem
    cases hmem
  | some id =>
    simp only [bind_assoc]
    refine atomic_find (atomic_require fun hfound => h fun id' hmem => ?_)
    rw [hid] at hmem
    cases hmem
    exact hfound

theorem refused_removeStaff {input : RemoveInput}
    (h : ∀ change, ¬ Commits crypto env s (.removeStaff input) change) :
    Refused crypto env s (.removeStaff input) := by
  refine atomic_require fun hactor => ?_
  refine atomic_require fun hother => ?_
  refine atomic_find (atomic_orThrow fun target htarget => ?_)
  refine atomic_requireReplacement fun hreplacement => ?_
  exact absurd (.removeStaff input target (of_decide_eq_true hactor) (of_decide_eq_true hother)
    htarget hreplacement) (h _)

theorem refused_roleChange {dto : ChangeRoleDto}
    (h : ∀ change, ¬ Commits crypto env s (.changeRole dto) change) :
    Refused crypto env s (.changeRole dto) :=
  refused_changeRole fun target newRole hallowed => h _ (.changeRole dto target newRole hallowed)

theorem refused_suspension {command : SuspendTenantCommand}
    (h : ∀ change, ¬ Commits crypto env s (.suspendTenant command) change) :
    Refused crypto env s (.suspendTenant command) := by
  refine refused_suspendTenant fun tenant suspended htenant hsuspended => ?_
  by_contra hdomain
  exact h _ (.suspendTenant command tenant suspended htenant hsuspended hdomain)

theorem refused_of_no_commit {command : SecurityCommand}
    (h : ∀ change, ¬ Commits crypto env s command change) : Refused crypto env s command := by
  cases command with
  | resetPassword text newPassword ipAddress => exact refused_resetPassword h
  | deactivate tenantId actorId userId => exact refused_deactivate h
  | removeStaff input => exact refused_removeStaff h
  | changeRole dto => exact refused_roleChange h
  | suspendTenant command => exact refused_suspension h

end refused

section outcome
variable {crypto : AuthCrypto} {env : ServiceEnv} {s : Store} {command : SecurityCommand}
  {change : Committed}

theorem phases_of_commits (faults : Nat → Fault) (h : Commits crypto env s command change)
    (hother : ToAnotherRole s command) : SessionPhases crypto env s faults command change := by
  cases h with
  | resetPassword text newPassword ipAddress token htoken hpassword huser =>
    exact phases_resetPassword faults htoken hpassword huser
  | deactivate tenantId actorId userId target hactor htarget =>
    exact phases_deactivate faults hactor htarget
  | removeStaff input target hactor hnot htarget hreplacement =>
    exact phases_removeStaff faults hactor hnot htarget hreplacement
  | changeRole dto target newRole hallowed =>
    exact phases_roleChange faults hallowed (hother target newRole hallowed.1 hallowed.2.1)
  | suspendTenant command tenant suspended htenant hsuspended hdomain =>
    exact phases_suspension faults htenant hsuspended hdomain

/-- The checks of a call let it commit one change at most. -/
theorem commits_unique {change' : Committed} (h : Commits crypto env s command change)
    (h' : Commits crypto env s command change') : change' = change := by
  cases h with
  | resetPassword text newPassword ipAddress token htoken hpassword huser =>
    cases h' with
    | resetPassword _ _ _ token' htoken' _ _ =>
      rw [Except.ok.inj (htoken'.symm.trans htoken)]
  | deactivate tenantId actorId userId target hactor htarget =>
    cases h' with
    | deactivate _ _ _ target' _ htarget' =>
      rw [Option.some.inj (htarget'.symm.trans htarget)]
  | removeStaff input target hactor hother htarget hreplacement =>
    cases h' with
    | removeStaff _ _ _ _ _ _ => rfl
  | changeRole dto target newRole hallowed =>
    cases h' with
    | changeRole _ target' newRole' hallowed' =>
      rw [Option.some.inj (hallowed'.1.symm.trans hallowed.1),
        Except.ok.inj (hallowed'.2.1.symm.trans hallowed.2.1)]
  | suspendTenant command tenant suspended htenant hsuspended hdomain =>
    cases h' with
    | suspendTenant _ tenant' suspended' htenant' hsuspended' _ =>
      obtain rfl : tenant' = tenant := Option.some.inj (htenant'.symm.trans htenant)
      rw [Except.ok.inj (hsuspended'.symm.trans hsuspended)]

theorem commits_keeps_tokens (h : Commits crypto env s command change) :
    change.store.refreshTokens = s.refreshTokens := by
  cases h <;> rfl

/-- What a call leaves that was stopped after its commit. -/
theorem sessionsEnd_of_cut {t : Store} (h : Commits crypto env s command change)
    (ht : accounts t = accounts change.store) :
    SessionsEnd crypto env s command t ↔
      ¬ (accountRows change.store ≠ accountRows s ∧
        ∃ stored ∈ s.refreshTokens, change.affects stored ∧ stored.isRevoked = false) := by
  have hrows : accountRows t = accountRows change.store := congrArg Prod.fst ht
  have htokens : t.refreshTokens = s.refreshTokens :=
    (congrArg Prod.snd ht).trans (commits_keeps_tokens h)
  constructor
  · rintro (hsame | ⟨change', hchange', -, -, hrevoked⟩) ⟨hdiffers, stored, hm, haffected, hlive⟩
    · exact hdiffers (hrows.symm.trans hsame)
    · rw [commits_unique h hchange'] at hrevoked
      exact (hrevoked stored (htokens ▸ hm) hlive).1 haffected
  · intro hno
    by_cases hsame : accountRows change.store = accountRows s
    · exact Or.inl (hrows.trans hsame)
    · have hids : sessionIds t = sessionIds change.store := by
        have hstored : t.refreshTokens = change.store.refreshTokens := congrArg Prod.snd ht
        exact congrArg (List.map RefreshToken.id) hstored
      refine Or.inr ⟨change, h, hrows, hids, fun stored hm hlive => ?_⟩
      have hold : stored ∈ s.refreshTokens := htokens ▸ hm
      exact ⟨fun haffected => hno ⟨hsame, stored, hold, haffected, hlive⟩,
        commits_keeps_tokens h ▸ hold⟩

/-- Without a cut, what changes the accounts is stored with the sessions ended. -/
theorem kept_or_revoked {faults : Nat → Fault} (hother : ToAnotherRole s command)
    (hcut : ¬ RevocationCut crypto env s faults command) :
    accounts ((performSecurity crypto command).run env faults (World.start s)).2.committed =
        accounts s ∨
      ∃ change, Commits crypto env s command change ∧ Revoked change
        ((performSecurity crypto command).run env faults (World.start s)).2.committed := by
  by_cases hcommits : ∃ change, Commits crypto env s command change
  · obtain ⟨change, hchange⟩ := hcommits
    rcases phases_of_commits faults hchange hother (World.start s) (at_start s) with
      ⟨-, hsame⟩ | ⟨hyes, hno, hmid⟩ | ⟨-, -, hend⟩
    · exact Or.inl hsame
    · rw [Nat.zero_add, passes_strict] at hno
      have hrows := congrArg Prod.fst hmid
      have htokens := (congrArg Prod.snd hmid).trans (commits_keeps_tokens hchange)
      by_cases hsame : accountRows change.store = accountRows s
      · exact Or.inl (Prod.ext (hrows.trans hsame) htokens)
      · refine Or.inr ⟨change, hchange, hrows, congrArg (List.map RefreshToken.id)
          (congrArg Prod.snd hmid), fun stored hm hlive => ?_⟩
        have hold : stored ∈ s.refreshTokens := htokens ▸ hm
        exact ⟨fun haffected => hcut ⟨change, hchange, hyes, hno, hsame, stored, hold, haffected,
          hlive⟩, commits_keeps_tokens hchange ▸ hold⟩
    · exact Or.inr ⟨change, hchange, hend⟩
  · have hnone : ∀ change, ¬ Commits crypto env s command change :=
      fun change h => hcommits ⟨change, h⟩
    obtain ⟨-, -, ⟨-, -, hcommitted⟩ | ⟨-, hfalse, -⟩⟩ :=
      refused_of_no_commit hnone faults (World.start s) rfl rfl rfl
    · exact Or.inl (congrArg accounts hcommitted)
    · exact absurd hfalse id

/-- A failure leaves the sessions of a changed account exactly when it falls on the
revocation that follows the commit. -/
theorem sessions_end_unless_cut (crypto : AuthCrypto) (env : ServiceEnv) (faults : Nat → Fault)
    (s : Store) (command : SecurityCommand) (hother : ToAnotherRole s command) :
    SessionsEnd crypto env s command
        ((performSecurity crypto command).run env faults (World.start s)).2.committed ↔
      ¬ RevocationCut crypto env s faults command := by
  by_cases hcommits : ∃ change, Commits crypto env s command change
  · obtain ⟨change, hchange⟩ := hcommits
    rcases phases_of_commits faults hchange hother (World.start s) (at_start s) with
      ⟨hno, hsame⟩ | ⟨hyes, hno, hmid⟩ | ⟨hyes, hrevoke, hend⟩
    · refine iff_of_true (Or.inl (congrArg Prod.fst hsame)) ?_
      rintro ⟨-, -, hpass, -⟩
      exact hno hpass
    · rw [sessionsEnd_of_cut hchange hmid]
      rw [Nat.zero_add, passes_strict] at hno
      constructor
      · rintro hkept ⟨change', hchange', -, -, hcut⟩
        rw [commits_unique hchange hchange'] at hcut
        exact hkept hcut
      · exact fun h hcut => h ⟨change, hchange, hyes, hno, hcut⟩
    · rw [Nat.zero_add, passes_strict] at hrevoke
      refine iff_of_true (Or.inr ⟨change, hchange, hend⟩) ?_
      rintro ⟨-, -, -, hfault, -⟩
      exact hfault hrevoke
  · have hnone : ∀ change, ¬ Commits crypto env s command change :=
      fun change h => hcommits ⟨change, h⟩
    obtain ⟨-, -, ⟨-, -, hcommitted⟩ | ⟨-, hfalse, -⟩⟩ :=
      refused_of_no_commit hnone faults (World.start s) rfl rfl rfl
    · refine iff_of_true (Or.inl (congrArg accountRows hcommitted)) ?_
      rintro ⟨change, hchange, -⟩
      exact hnone change hchange
    · exact absurd hfalse id

end outcome

section demo

def sampleUser (id tenantId : Uuid) (role : UserRole) : User :=
  { (default : User) with
    id := id
    tenantId := some tenantId
    role := role }

def sampleSession (id userId : Uuid) : RefreshToken String :=
  ⟨id, userId, "r", 0, false, none, none, 100, none, none, 0⟩

/-- A tenant with a manager and an agent, who is signed in. -/
def staffedStore : Store where
  tickets := []
  comments := []
  customers := []
  tenants := [{ (default : Tenant) with id := 1 }]
  users := [sampleUser 2 1 .tenantManager, sampleUser 3 1 .agent]
  refreshTokens := [sampleSession 4 3]
  sequences := []
  activities := []
  audits := []
  outbox := []

def deactivateAgent : SecurityCommand := .deactivate 1 2 3

def failingAt (k n : Nat) : Fault := if n = k then .throws else .none

end demo

/-- An agent is deactivated while the revocation fails, and stays signed in. -/
theorem deactivated_agent_keeps_session : ¬ SessionsEnd sampleCrypto sampleEnv staffedStore
    deactivateAgent ((performSecurity sampleCrypto deactivateAgent).run sampleEnv (failingAt 2)
      (World.start staffedStore)).2.committed := by
  have hcommits : Commits sampleCrypto sampleEnv staffedStore deactivateAgent
      (deactivated sampleEnv staffedStore (sampleUser 3 1 .agent)) :=
    .deactivate 1 2 3 (sampleUser 3 1 .agent) (by decide) (by decide)
  rw [sessionsEnd_of_cut hcommits (by decide)]
  intro hkept
  refine hkept ⟨by decide, sampleSession 4 3, List.mem_singleton.mpr rfl, rfl, rfl⟩

/-- A failing audit insert comes after the revocation. -/
theorem sessions_end_despite_audit : SessionsEnd sampleCrypto sampleEnv staffedStore
    deactivateAgent ((performSecurity sampleCrypto deactivateAgent).run sampleEnv (failingAt 3)
      (World.start staffedStore)).2.committed := by
  refine (sessions_end_unless_cut sampleCrypto sampleEnv (failingAt 3) staffedStore
    deactivateAgent trivial).mpr ?_
  rintro ⟨-, -, -, hfault, -⟩
  exact hfault rfl

end OmniSupport.Identity
