import OmniSupport.Identity.SessionsEnd

/-! Sessions that are live while their account may be used, and the statements that keep
them so: those on the accounts, those on the sessions, and the rows of a new session. -/
namespace OmniSupport.Auth
open Foundation Database Identity

/-- The tenant of the user is stored. -/
def TenantStored (s : Store) (user : User) : Prop :=
  ∀ tenantId ∈ user.tenantId, (s.findTenant tenantId).isSome = true

/-- Neither the account nor its tenant is disabled. -/
def Enabled (s : Store) (user : User) : Prop :=
  ¬ TokenService.blockedStatus user ∧ ∀ tenantId ∈ user.tenantId, ∀ tenant,
    s.findTenant tenantId = some tenant → tenant.status ≠ .suspended

/-- No session of a disabled account is live. -/
def SessionsUsable (s : Store) : Prop :=
  ∀ stored ∈ s.refreshTokens, stored.isRevoked = false →
    ∀ user, s.findUser stored.userId = some user → Enabled s user

/-- The keys of the account tables, and the sessions. -/
structure SessionsSound (s : Store) : Prop where
  userIds : (s.users.map User.id).Nodup
  tenants : ∀ user ∈ s.users, TenantStored s user
  usable : SessionsUsable s

/-- The account of every session that was not there in `s` passes `assertAccountUsable` at
the moment the session is created. No call writes the accounts after that insert. -/
def NewSessionsUsable (s t : Store) : Prop :=
  ∀ stored ∈ t.refreshTokens, stored.id ∉ sessionIds s →
    ∃ user, t.findUser stored.userId = some user ∧
      TokenService.assertAccountUsable (t.tokenStore stored.createdAt) user = .ok ()

/-- What a call may leave that began in `s`. -/
structure Kept (s t : Store) : Prop where
  sound : SessionsSound t
  created : NewSessionsUsable s t

/-- What a call may leave that has opened no session. -/
structure Held (s t : Store) : Prop where
  sound : SessionsSound t
  ids : sessionIds t ⊆ sessionIds s

section store
variable {s t : Store} {id : Uuid} {f : User → User}

theorem Held.kept (h : Held s t) : Kept s t where
  sound := h.sound
  created _ hm hnew := absurd (h.ids (List.mem_map_of_mem hm)) hnew

theorem Held.refl (h : SessionsSound s) : Held s s := ⟨h, fun _ hm => hm⟩

/-- The statements on other tables. -/
theorem SessionsSound.of_accounts (h : SessionsSound s) (hsame : accounts t = accounts s) :
    SessionsSound t := by
  have husers : t.users = s.users := congrArg (fun a => a.1.1) hsame
  have htenants : t.tenants = s.tenants := congrArg (fun a => a.1.2) hsame
  have htokens : t.refreshTokens = s.refreshTokens := congrArg Prod.snd hsame
  obtain ⟨hkeys, hstored, husable⟩ := h
  refine ⟨?_, ?_, ?_⟩
  · rw [husers]
    exact hkeys
  · intro user hm tenantId htenant
    rw [Store.findTenant, htenants]
    exact hstored user (husers ▸ hm) tenantId htenant
  · intro stored hm hlive user hfound
    rw [Store.findUser, husers] at hfound
    obtain ⟨hstatus, htenant⟩ := husable stored (htokens ▸ hm) hlive user hfound
    refine ⟨hstatus, fun tenantId hid tenant hrow => ?_⟩
    rw [Store.findTenant, htenants] at hrow
    exact htenant tenantId hid tenant hrow

theorem Held.of_accounts (h : Held s t) {t' : Store} (hsame : accounts t' = accounts t) :
    Held s t' where
  sound := h.sound.of_accounts hsame
  ids := by
    have htokens : t'.refreshTokens = t.refreshTokens := congrArg Prod.snd hsame
    rw [sessionIds, htokens]
    exact h.ids

theorem Kept.of_accounts (h : Kept s t) {t' : Store} (hsame : accounts t' = accounts t) :
    Kept s t' where
  sound := h.sound.of_accounts hsame
  created := by
    have husers : t'.users = t.users := congrArg (fun a => a.1.1) hsame
    have htenants : t'.tenants = t.tenants := congrArg (fun a => a.1.2) hsame
    have htokens : t'.refreshTokens = t.refreshTokens := congrArg Prod.snd hsame
    intro stored hm hnew
    obtain ⟨user, hfound, husable⟩ := h.created stored (htokens ▸ hm) hnew
    refine ⟨user, ?_, ?_⟩
    · rw [Store.findUser, husers]
      exact hfound
    · unfold TokenService.assertAccountUsable TokenStore.findTenant Store.tokenStore at husable ⊢
      rw [htenants]
      exact husable

/-- A revocation opens nothing. -/
theorem Held.revokeTokens {p : RefreshToken String → Prop} [DecidablePred p] {time : Time}
    {reason : String} (h : Held s t) : Held s (t.revokeTokens p time reason) where
  sound :=
    { userIds := h.sound.userIds
      tenants := h.sound.tenants
      usable := fun stored hm hlive user hfound =>
        h.sound.usable stored (live_of_revokeTokens hm hlive).2 hlive user hfound }
  ids := by
    rw [sessionIds_revokeTokens]
    exact h.ids

/-- An update of the user at `id` that neither disables the account nor moves it to a
tenant that is missing or suspended. -/
theorem Held.updateUser (h : Held s t) (hid : ∀ row, (f row).id = row.id)
    (hstored : ∀ row, TenantStored t row → TenantStored t (f row))
    (henabled : ∀ row, Enabled t row → Enabled t (f row)) : Held s (t.updateUser id f) := by
  obtain ⟨⟨hkeys, htenants, husable⟩, hids⟩ := h
  refine ⟨⟨?_, ?_, ?_⟩, hids⟩
  · have hsame : (t.updateUser id f).users.map User.id = t.users.map User.id :=
      Table.map_updateMany hid
    rw [hsame]
    exact hkeys
  · intro user hm
    rcases Table.mem_updateMany.mp hm with ⟨old, hold, -, rfl⟩ | ⟨hold, -⟩
    · exact hstored old (htenants old hold)
    · exact htenants user hold
  · intro stored hm hlive user hfound
    rw [Store.findUser_updateUser hid, Option.map_eq_some_iff] at hfound
    obtain ⟨old, hold, rfl⟩ := hfound
    have hbefore := husable stored hm hlive old hold
    by_cases hsame : stored.userId = id
    · rw [if_pos hsame]
      exact henabled old hbefore
    · rw [if_neg hsame]
      exact hbefore

theorem Held.updateUser_same (h : Held s t) (hid : ∀ row, (f row).id = row.id)
    (htenant : ∀ row, (f row).tenantId = row.tenantId)
    (hstatus : ∀ row, TokenService.blockedStatus (f row) → TokenService.blockedStatus row) :
    Held s (t.updateUser id f) := by
  refine h.updateUser hid (fun row hrow => ?_) fun row hrow => ⟨fun hb => hrow.1 (hstatus row hb), ?_⟩
  · rw [TenantStored, htenant]
    exact hrow
  · rw [htenant]
    exact hrow.2

/-- A new account in a tenant that is open. -/
theorem Held.insertUser {row : User} (h : Held s t) (hrow : t.userInsertable row)
    (henabled : Enabled t row) : Held s (t.insertUser row) := by
  obtain ⟨⟨hkeys, htenants, husable⟩, hids⟩ := h
  obtain ⟨hfree, hstored⟩ := hrow
  refine ⟨⟨?_, ?_, ?_⟩, hids⟩
  · rw [Store.insertUser, List.map_append, List.nodup_append]
    refine ⟨hkeys, List.nodup_singleton _, ?_⟩
    intro id' hm id'' hm' he
    obtain ⟨user, huser, rfl⟩ := List.mem_map.mp hm
    obtain rfl : id'' = row.id := by simpa using hm'
    exact (hfree user huser).1 he
  · intro user hm
    rcases List.mem_append.mp hm with hm | hm
    · exact htenants user hm
    · rw [List.mem_singleton.mp hm]
      exact hstored
  · intro stored hm hlive user hfound
    rw [Store.findUser, Store.insertUser, List.find?_append, Option.or_eq_some_iff] at hfound
    rcases hfound with hfound | ⟨-, hfound⟩
    · exact husable stored hm hlive user hfound
    · have hnew := List.mem_of_find?_eq_some hfound
      rw [List.mem_singleton.mp hnew]
      exact henabled

/-- A tenant that is opened again. -/
theorem Held.updateTenant {g : Tenant → Tenant} (h : Held s t) (hid : ∀ row, (g row).id = row.id)
    (hopen : ∀ row, (g row).status ≠ .suspended) : Held s (t.updateTenant id g) := by
  obtain ⟨⟨hkeys, htenants, husable⟩, hids⟩ := h
  refine ⟨⟨hkeys, ?_, ?_⟩, hids⟩
  · intro user hm tenantId htenant
    rw [Store.findTenant_updateTenant hid, Option.isSome_map]
    exact htenants user hm tenantId htenant
  · intro stored hm hlive user hfound
    obtain ⟨hstatus, htenant⟩ := husable stored hm hlive user hfound
    refine ⟨hstatus, fun tenantId hmem tenant hrow => ?_⟩
    rw [Store.findTenant_updateTenant hid, Option.map_eq_some_iff] at hrow
    obtain ⟨old, hold, rfl⟩ := hrow
    by_cases hsame : tenantId = id
    · rw [if_pos hsame]
      exact hopen old
    · rw [if_neg hsame]
      exact htenant tenantId hmem old hold

/-- The three checks of `assertAccountUsable`. -/
theorem assertAccountUsable_ok {now : Time} {user : User} :
    TokenService.assertAccountUsable (s.tokenStore now) user = .ok () ↔
      ¬ TokenService.blockedStatus user ∧ AuthService.isLocked now user = false ∧
        ∀ tenantId ∈ user.tenantId, ∃ tenant, s.findTenant tenantId = some tenant ∧
          TokenService.blockedTenant tenant = false := by
  have htenant : ∀ tenantId, (s.tokenStore now).findTenant tenantId = s.findTenant tenantId :=
    fun _ => rfl
  have hlocked : (user.lockedUntil.any fun lockedUntil => (s.tokenStore now).now < lockedUntil) =
      AuthService.isLocked now user := rfl
  unfold TokenService.assertAccountUsable
  rw [hlocked]
  by_cases hstatus : TokenService.blockedStatus user
  · simp [hstatus]
  rw [if_neg hstatus]
  by_cases hlock : AuthService.isLocked now user = true
  · simp [hlock]
  rw [if_neg hlock]
  cases hid : user.tenantId with
  | none => simp [hstatus, hlock]
  | some tenantId =>
    simp only [htenant]
    cases hrow : s.findTenant tenantId with
    | none => simp [hrow]
    | some tenant => simp [hrow, hstatus, hlock, TokenService.blockedTenant]

theorem Enabled.of_usable {now : Time} {user : User}
    (h : TokenService.assertAccountUsable (s.tokenStore now) user = .ok ()) : Enabled s user := by
  obtain ⟨hstatus, -, htenant⟩ := assertAccountUsable_ok.mp h
  refine ⟨hstatus, fun tenantId hid tenant hrow => ?_⟩
  obtain ⟨tenant', hrow', hopen⟩ := htenant tenantId hid
  obtain rfl : tenant' = tenant := Option.some.inj (hrow'.symm.trans hrow)
  intro hsuspended
  rw [TokenService.blockedTenant, hsuspended] at hopen
  cases hopen

/-- A session opened for an account that may be used. -/
theorem Held.insertSession {row : RefreshToken String} {user : User} (h : Held s t)
    (hfound : t.findUser row.userId = some user)
    (husable : TokenService.assertAccountUsable (t.tokenStore row.createdAt) user = .ok ()) :
    Kept s (t.insertRefreshToken row) := by
  obtain ⟨⟨hkeys, htenants, hold⟩, hids⟩ := h
  refine ⟨⟨hkeys, htenants, ?_⟩, ?_⟩
  · intro stored hm hlive found hrow
    rcases List.mem_cons.mp hm with rfl | hm
    · have hsame : user = found := Option.some.inj (hfound.symm.trans hrow)
      exact hsame ▸ Enabled.of_usable husable
    · exact hold stored hm hlive found hrow
  · intro stored hm hnew
    rcases List.mem_cons.mp hm with rfl | hm
    · exact ⟨user, hfound, husable⟩
    · exact absurd (hids (List.mem_map_of_mem hm)) hnew

/-- A user is disabled, and the live sessions are old ones of other users. -/
theorem Held.of_disabledUser (hs : SessionsSound s) (hid : ∀ row, (f row).id = row.id)
    (htenant : ∀ row, (f row).tenantId = row.tenantId)
    (hrows : accountRows t = accountRows (s.updateUser id f)) (hids : sessionIds t = sessionIds s)
    (hlive : ∀ stored ∈ t.refreshTokens, stored.isRevoked = false →
      stored.userId ≠ id ∧ stored ∈ s.refreshTokens) : Held s t := by
  have husers : t.users = (s.updateUser id f).users := congrArg Prod.fst hrows
  have htenants : t.tenants = s.tenants := congrArg Prod.snd hrows
  refine ⟨⟨?_, ?_, ?_⟩, fun id' hm => hids ▸ hm⟩
  · have hsame : (s.updateUser id f).users.map User.id = s.users.map User.id :=
      Table.map_updateMany hid
    rw [husers, hsame]
    exact hs.userIds
  · intro user hm tenantId hmem
    rw [Store.findTenant, htenants]
    rw [husers] at hm
    rcases Table.mem_updateMany.mp hm with ⟨old, hold, -, rfl⟩ | ⟨hold, -⟩
    · exact hs.tenants old hold tenantId (htenant old ▸ hmem)
    · exact hs.tenants user hold tenantId hmem
  · intro stored hm hnot user hfound
    obtain ⟨hother, hold⟩ := hlive stored hm hnot
    have hsame : t.findUser stored.userId = s.findUser stored.userId := by
      have hlookup : t.findUser stored.userId = (s.updateUser id f).findUser stored.userId :=
        congrArg (List.find? fun user : User => user.id = stored.userId) husers
      rw [hlookup, Store.findUser_updateUser hid]
      cases s.findUser stored.userId with
      | none => rfl
      | some row => rw [Option.map_some, if_neg hother]
    obtain ⟨hstatus, hopen⟩ := hs.usable stored hold hnot user (hsame ▸ hfound)
    refine ⟨hstatus, fun tenantId hmem tenant hrow => hopen tenantId hmem tenant ?_⟩
    rw [Store.findTenant, htenants] at hrow
    exact hrow

/-- A tenant is suspended, and the live sessions are old ones of users of other tenants. -/
theorem Held.of_suspendedTenant {g : Tenant → Tenant} (hs : SessionsSound s)
    (hid : ∀ row, (g row).id = row.id)
    (hrows : accountRows t = accountRows (s.updateTenant id g)) (hids : sessionIds t = sessionIds s)
    (hlive : ∀ stored ∈ t.refreshTokens, stored.isRevoked = false →
      (s.findUser stored.userId).bind User.tenantId ≠ some id ∧ stored ∈ s.refreshTokens) :
    Held s t := by
  have husers : t.users = s.users := congrArg Prod.fst hrows
  have htenants : t.tenants = (s.updateTenant id g).tenants := congrArg Prod.snd hrows
  have hlookup : ∀ id', t.findTenant id' =
      (s.findTenant id').map fun row => if id' = id then g row else row := by
    intro id'
    have hfind : t.findTenant id' = (s.updateTenant id g).findTenant id' :=
      congrArg (List.find? fun tenant : Tenant => tenant.id = id') htenants
    rw [hfind, Store.findTenant_updateTenant hid]
  refine ⟨⟨husers ▸ hs.userIds, ?_, ?_⟩, fun id' hm => hids ▸ hm⟩
  · intro user hm tenantId hmem
    rw [hlookup, Option.isSome_map]
    exact hs.tenants user (husers ▸ hm) tenantId hmem
  · intro stored hm hnot user hfound
    obtain ⟨hother, hold⟩ := hlive stored hm hnot
    rw [Store.findUser, husers] at hfound
    obtain ⟨hstatus, hopen⟩ := hs.usable stored hold hnot user hfound
    refine ⟨hstatus, fun tenantId hmem tenant hrow => ?_⟩
    have hdiffers : tenantId ≠ id := by
      rintro rfl
      have hfound' : s.findUser stored.userId = some user := hfound
      have htenantId : user.tenantId = some tenantId := hmem
      rw [hfound', Option.bind_some] at hother
      exact hother htenantId
    rw [hlookup, Option.map_eq_some_iff] at hrow
    obtain ⟨old, hstored, rfl⟩ := hrow
    rw [if_neg hdiffers]
    exact hopen tenantId hmem old hstored

end store
end OmniSupport.Auth
