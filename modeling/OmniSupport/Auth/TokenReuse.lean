import OmniSupport.Auth.TokenFamily

/-! A rotated token presented again. Its row keeps the mark of the rotation for good, so the
check finds it whatever has happened to the family since. -/
namespace OmniSupport.Auth
open Foundation

variable {Jwt Hash : Type}

/-- What a client and the service remember of a token: what it was signed for, and when it
was claimed by a rotation. -/
inductive TokenLog (Jwt : Type) where
  | issued (token : Jwt) (tokenId userId familyId : Uuid)
  | rotated (tokenId : Uuid) (rotatedAt : Time)

namespace TokenStore

/-- Revoked rows stay as they are, and no row changes its token, user or family. -/
structure Preserves (s s' : TokenStore Hash) : Prop where
  revoked : ∀ t ∈ s.refreshTokens, t.isRevoked = true → t ∈ s'.refreshTokens
  source : ∀ t' ∈ s'.refreshTokens, ∃ t ∈ s.refreshTokens,
    t.id = t'.id ∧ t.userId = t'.userId ∧ t.familyId = t'.familyId

section
variable {s s' : TokenStore Hash} {p : RefreshToken Hash → Prop} [DecidablePred p]
  {reason : String}

theorem Preserves.frame (hr : s'.refreshTokens = s.refreshTokens) : s.Preserves s' where
  revoked _ ht _ := hr ▸ ht
  source _ ht := ⟨_, hr ▸ ht, rfl, rfl, rfl⟩

theorem Preserves.revokeWhere : s.Preserves (s.revokeWhere p reason) where
  revoked t ht hrevoked := by
    refine Table.mem_updateMany.mpr (Or.inr ⟨ht, fun hp => ?_⟩)
    rw [hrevoked] at hp
    exact absurd hp.2 (by simp)
  source t' ht' := by
    obtain ⟨t, ht, hid, hf, hu, -⟩ := mem_revokeWhere ht'
    exact ⟨t, ht, hid, hu, hf⟩

/-- The rows of one family. -/
def family (s : TokenStore Hash) (f : Uuid) : List (RefreshToken Hash) :=
  s.refreshTokens.filter fun t => t.familyId = f

theorem family_revokeWhere {f : Uuid} (h : ∀ t ∈ s.refreshTokens, p t → t.familyId ≠ f) :
    (s.revokeWhere p reason).family f = s.family f :=
  Table.filter_updateMany fun t ht hp => ⟨h t ht hp.1, h t ht hp.1⟩

end
end TokenStore

namespace TokenService
open TokenStore

section
variable {crypto : TokenCrypto Jwt Hash} {config : JwtConfig} {s s' : TokenStore Hash}
  {l l' : Call Jwt Hash} {step : CallStep Jwt}

/-- A call preserves the rows, or inserts the one it has signed. -/
theorem act_preserves [DecidableEq Hash] (h : act crypto config s l step = some (s', l')) :
    s.Preserves s' ∧ s'.users = s.users ∨ ∃ session id token hash,
      l = .creating session id token hash ∧ s.insertable (newRow config session id hash s.now) ∧
      s' = s.insert (newRow config session id hash s.now) := by
  cases step with
  | next =>
    cases l with
    | idle => cases h
    | issuing session => cases h
    | finished result => cases h
    | finding r =>
      simp only [act, next] at h
      split at h <;> cases h <;> exact Or.inl ⟨.frame rfl, rfl⟩
    | checking r stored user =>
      cases h
      exact Or.inl ⟨.frame rfl, rfl⟩
    | claiming r stored user =>
      simp only [act, next] at h
      split at h <;> cases h
      · have hkept : s.Preserves (s.revokeWhere (fun t => t.id = stored.id) "ROTATED") :=
          .revokeWhere
        exact Or.inl ⟨⟨hkept.revoked, hkept.source⟩, rfl⟩
      · exact Or.inl ⟨.frame rfl, rfl⟩
    | usable r user =>
      simp only [act, next] at h
      split at h <;> cases h <;> exact Or.inl ⟨.frame rfl, rfl⟩
    | creating session id token hash =>
      simp only [act, next] at h
      split at h <;> cases h
      · rename_i hok
        exact Or.inr ⟨session, id, token, hash, rfl, hok, rfl⟩
      · exact Or.inl ⟨.frame rfl, rfl⟩
    | revoking f reason e =>
      cases h
      exact Or.inl ⟨.revokeWhere, rfl⟩
  | fail =>
    cases l with
    | usable r user =>
      simp only [act, fail] at h
      split at h <;> cases h
      exact Or.inl ⟨.frame rfl, rfl⟩
    | idle => cases h
    | finished result => cases h
    | _ =>
      cases h
      exact Or.inl ⟨.frame rfl, rfl⟩
  | issue id salt =>
    cases l with
    | issuing session =>
      simp only [act, issue] at h
      split at h <;> cases h
      exact Or.inl ⟨.frame rfl, rfl⟩
    | _ => cases h
  | login user ip agent f =>
    cases l with
    | idle =>
      simp only [act, start] at h
      split at h <;> cases h
      exact Or.inl ⟨.frame rfl, rfl⟩
    | _ => cases h
  | rotate token ip agent =>
    cases l with
    | idle =>
      simp only [act, start] at h
      split at h <;> cases h <;> exact Or.inl ⟨.frame rfl, rfl⟩
    | _ => cases h

theorem event_preserves (crypto : TokenCrypto Jwt Hash) (s : TokenStore Hash) {e : TokenEvent Jwt}
    (he : e ≠ .cleanupExpiredTokens) : s.Preserves (event crypto s e) := by
  cases e with
  | revokeToken token =>
    simp only [event]
    split
    · exact .frame rfl
    · exact .revokeWhere
  | revokeAllUserTokens u reason => exact .revokeWhere
  | revokeAllTenantTokens t reason => exact .revokeWhere
  | cleanupExpiredTokens => exact absurd rfl he
  | _ => exact .frame rfl

/-- Account rows are written, never deleted. -/
theorem event_findUser {e : TokenEvent Jwt} {id : Uuid} (h : (s.findUser id).isSome) :
    ((event crypto s e).findUser id).isSome := by
  cases e with
  | saveUser user =>
    simp only [event, TokenStore.saveUser, TokenStore.findUser, List.find?_isSome] at h ⊢
    obtain ⟨u, hu, hid⟩ := h
    by_cases hsame : u.id = user.id
    · refine ⟨user, List.mem_cons_self, ?_⟩
      rw [← hsame]
      exact hid
    · exact ⟨u, List.mem_cons_of_mem _ (List.mem_filter.mpr ⟨hu, by simpa using hsame⟩), hid⟩
  | revokeToken token =>
    simp only [event]
    split <;> exact h
  | _ => exact h

/-- Only `issue` brings a call to its insert, with the token it has signed under a new id. -/
theorem act_creating [DecidableEq Hash] {session : Session} {id : Uuid} {token : Jwt} {hash : Hash}
    (h : act crypto config s l step = some (s', .creating session id token hash)) :
    (∃ salt, step = .issue id salt) ∧ id ∉ s.history.uuids ∧ s' = s.drawUuid id ∧
      token = crypto.signRefresh ⟨session.userId, session.familyId, .refresh, some id⟩ s.now := by
  cases step with
  | issue tokenId salt =>
    cases l with
    | issuing session =>
      simp only [act, issue] at h
      split at h <;> cases h
      rename_i hfresh
      exact ⟨⟨salt, rfl⟩, hfresh, rfl, rfl⟩
    | _ => cases h
  | next =>
    cases l with
    | checking r stored user =>
      simp only [act, next, Option.some.injEq, Prod.mk.injEq] at h
      rcases checkStored_cases crypto r stored user s.now with ⟨e, he⟩ | ⟨e, he⟩ | ⟨-, he⟩ <;>
        rw [he] at h <;> cases h.2
    | revoking f reason e => cases h
    | idle => cases h
    | issuing session => cases h
    | finished result => cases h
    | _ =>
      simp only [act, next] at h
      split at h <;> cases h
  | fail =>
    cases l with
    | usable r user =>
      simp only [act, fail] at h
      split at h <;> cases h
    | _ => cases h
  | login user ip agent f =>
    cases l with
    | idle =>
      simp only [act, start] at h
      split at h <;> cases h
    | _ => cases h
  | rotate token ip agent =>
    cases l with
    | idle =>
      simp only [act, start] at h
      split at h <;> cases h
    | _ => cases h

end

/-- What a step adds to the record: the token that is signed, the rotation that wins. -/
def notes [DecidableEq Hash] (c : Pool (TokenStore Hash) (Call Jwt Hash)) :
    Move (CallStep Jwt) (TokenEvent Jwt) → Pool (TokenStore Hash) (Call Jwt Hash) →
      List (TokenLog Jwt)
  | .act p (.issue _ _), c' => match c'.locals p with
    | .creating session tokenId token _ =>
      [.issued token tokenId session.userId session.familyId]
    | _ => []
  | .act p .next, _ => match c.locals p with
    | .claiming _ stored _ =>
      if c.shared.claimable stored.id then [.rotated stored.id c.shared.now] else []
    | _ => []
  | _, _ => []

/-- The service beside the record of its tokens. -/
def recorded [DecidableEq Hash] (crypto : TokenCrypto Jwt Hash) (config : JwtConfig) :
    Machine (Pool (TokenStore Hash) (Call Jwt Hash) × List (TokenLog Jwt))
      (Move (CallStep Jwt) (TokenEvent Jwt)) :=
  (machine crypto config).logged notes

/-- The token `id` was signed for user `u` in the family `f`, and every row and every insert
under this id agrees. -/
structure IssuedAs (crypto : TokenCrypto Jwt Hash) (c : Pool (TokenStore Hash) (Call Jwt Hash))
    (token : Jwt) (id u f : Uuid) : Prop where
  signed : ∃ signedAt, token = crypto.signRefresh ⟨u, f, .refresh, some id⟩ signedAt
  drawn : id ∈ c.shared.history.uuids
  row : ∀ t ∈ c.shared.refreshTokens, t.id = id → t.userId = u ∧ t.familyId = f
  creating : ∀ p session token' hash, c.locals p = .creating session id token' hash →
    session.userId = u ∧ session.familyId = f

/-- The row of a rotated token. -/
def RotatedAt (s : TokenStore Hash) (id : Uuid) (rotatedAt : Time) : Prop :=
  ∃ t ∈ s.refreshTokens, t.id = id ∧ t.isRevoked = true ∧ t.revokedAt = some rotatedAt ∧
    t.revokedReason = some "ROTATED"

theorem rotatedAt_claim {s : TokenStore Hash} {id : Uuid} (h : s.claimable id) :
    RotatedAt (s.claim id) id s.now := by
  obtain ⟨t, ht, hid, hlive⟩ := exists_of_claimable h
  have hrow : revoke s.now "ROTATED" t ∈ (s.claim id).refreshTokens :=
    Table.mem_updateMany.mpr (Or.inl ⟨t, ht, ⟨hid, hlive⟩, rfl⟩)
  exact ⟨_, hrow, hid, rfl, rfl, rfl⟩

structure Recorded [DecidableEq Hash] (crypto : TokenCrypto Jwt Hash)
    (c : Pool (TokenStore Hash) (Call Jwt Hash) × List (TokenLog Jwt)) : Prop where
  outline : outline.Holds c.1
  users : ∀ t ∈ c.1.shared.refreshTokens, (c.1.shared.findUser t.userId).isSome
  issued : ∀ token id u f, .issued token id u f ∈ c.2 → IssuedAs crypto c.1 token id u f
  rotated : ∀ id rotatedAt, .rotated id rotatedAt ∈ c.2 → RotatedAt c.1.shared id rotatedAt

section
variable [DecidableEq Hash] {crypto : TokenCrypto Jwt Hash} {config : JwtConfig}
  {c c' : Pool (TokenStore Hash) (Call Jwt Hash)} {i : Move (CallStep Jwt) (TokenEvent Jwt)}

theorem users_step (h : ∀ t ∈ c.shared.refreshTokens, (c.shared.findUser t.userId).isSome)
    (hi : i ≠ .env .cleanupExpiredTokens) (hs : (machine crypto config).step c i = some c') :
    ∀ t ∈ c'.shared.refreshTokens, (c'.shared.findUser t.userId).isSome := by
  intro t' ht'
  cases i with
  | env e =>
    obtain ⟨s', he, rfl⟩ := (program crypto config).step_env.mp hs
    cases he
    have hkept := event_preserves crypto c.shared (e := e) (by simpa using hi)
    obtain ⟨t, ht, -, hu, -⟩ := hkept.source t' ht'
    rw [← hu]
    exact event_findUser (h t ht)
  | act p step =>
    obtain ⟨s', l', ha, rfl⟩ := (program crypto config).step_act.mp hs
    rcases act_preserves ha with ⟨hkept, husers⟩ | ⟨session, id, token, hash, hl, hok, rfl⟩
    · obtain ⟨t, ht, -, hu, -⟩ := hkept.source t' ht'
      simp only [Pool.put_shared, TokenStore.findUser, husers, ← hu]
      exact h t ht
    · rcases List.mem_cons.mp ht' with rfl | ht
      · exact hok.2
      · exact h t' ht

theorem rotatedAt_step {id : Uuid} {rotatedAt : Time} (h : RotatedAt c.shared id rotatedAt)
    (hi : i ≠ .env .cleanupExpiredTokens) (hs : (machine crypto config).step c i = some c') :
    RotatedAt c'.shared id rotatedAt := by
  obtain ⟨t, ht, hid, hrevoked, hmark⟩ := h
  refine ⟨t, ?_, hid, hrevoked, hmark⟩
  cases i with
  | env e =>
    obtain ⟨s', he, rfl⟩ := (program crypto config).step_env.mp hs
    cases he
    exact (event_preserves crypto c.shared (by simpa using hi)).revoked t ht hrevoked
  | act p step =>
    obtain ⟨s', l', ha, rfl⟩ := (program crypto config).step_act.mp hs
    rcases act_preserves ha with ⟨hkept, -⟩ | ⟨session, id, token, hash, hl, hok, rfl⟩
    · exact hkept.revoked t ht hrevoked
    · exact List.mem_cons_of_mem _ ht

theorem issuedAs_step {token : Jwt} {id u f : Uuid} (ho : outline.Holds c)
    (h : IssuedAs crypto c token id u f) (hi : i ≠ .env .cleanupExpiredTokens)
    (hs : (machine crypto config).step c i = some c') : IssuedAs crypto c' token id u f := by
  have huuids := uuids_step ho hs
  cases i with
  | env e =>
    obtain ⟨s', he, rfl⟩ := (program crypto config).step_env.mp hs
    cases he
    have hkept := event_preserves crypto c.shared (e := e) (by simpa using hi)
    refine ⟨h.signed, huuids h.drawn, fun t' ht' hid => ?_, h.creating⟩
    obtain ⟨t, ht, hti, hu, hf⟩ := hkept.source t' ht'
    rw [← hu, ← hf]
    exact h.row t ht (hti.trans hid)
  | act p step =>
    obtain ⟨s', l', ha, rfl⟩ := (program crypto config).step_act.mp hs
    refine ⟨h.signed, huuids h.drawn, fun t' ht' hid => ?_, fun q session token' hash hl => ?_⟩
    · rcases act_preserves ha with ⟨hkept, -⟩ | ⟨session, newId, token', hash, hl, hok, rfl⟩
      · obtain ⟨t, ht, hti, hu, hf⟩ := hkept.source t' ht'
        rw [← hu, ← hf]
        exact h.row t ht (hti.trans hid)
      · rcases List.mem_cons.mp ht' with rfl | ht
        · obtain rfl : newId = id := hid
          exact h.creating p session token' hash hl
        · exact h.row t' ht hid
    · by_cases hq : q = p
      · subst hq
        rw [Pool.put_locals_self] at hl
        subst hl
        obtain ⟨-, hfresh, -⟩ := act_creating ha
        exact absurd h.drawn hfresh
      · rw [Pool.put_locals_of_ne _ _ _ hq] at hl
        exact h.creating q session token' hash hl

/-- A token that is being signed has an id no row and no other call knows. -/
theorem issuedAs_new {p : Nat} {session : Session} {id : Uuid} {token : Jwt} {hash : Hash}
    {step : CallStep Jwt} (ho : outline.Holds c)
    (hs : (machine crypto config).step c (.act p step) = some c')
    (hl : c'.locals p = .creating session id token hash) :
    IssuedAs crypto c' token id session.userId session.familyId := by
  obtain ⟨s', l', ha, rfl⟩ := (program crypto config).step_act.mp hs
  rw [Pool.put_locals_self] at hl
  subst hl
  obtain ⟨-, hfresh, rfl, hsigned⟩ := act_creating ha
  refine ⟨⟨_, hsigned⟩, List.mem_cons_self, fun t ht hid => ?_, fun q session' token' hash' hl => ?_⟩
  · exact absurd (hid ▸ (ho.inv.known t ht).1) hfresh
  · by_cases hq : q = p
    · subst hq
      rw [Pool.put_locals_self] at hl
      cases hl
      exact ⟨rfl, rfl⟩
    · rw [Pool.put_locals_of_ne _ _ _ hq] at hl
      have hnew : (c.locals q).newId = some id := by
        rw [hl]
        rfl
      exact absurd ((ho.own q).newId id hnew).1 hfresh

theorem notes_issued {token : Jwt} {id u f : Uuid}
    (h : TokenLog.issued token id u f ∈ notes c i c') :
    ∃ p step session hash, i = .act p step ∧ c'.locals p = .creating session id token hash ∧
      session.userId = u ∧ session.familyId = f := by
  unfold notes at h
  split at h
  · rename_i p tokenId salt
    split at h
    · rename_i session tokenId token' hash hl
      cases List.mem_singleton.mp h
      exact ⟨p, _, session, hash, rfl, hl, rfl, rfl⟩
    · cases h
  · split at h
    · split at h
      · cases List.mem_singleton.mp h
      · cases h
    · cases h
  · cases h

theorem notes_rotated {id : Uuid} {rotatedAt : Time}
    (h : (TokenLog.rotated id rotatedAt : TokenLog Jwt) ∈ notes c i c') :
    ∃ p r stored user, i = .act p .next ∧ c.locals p = .claiming r stored user ∧
      c.shared.claimable stored.id ∧ stored.id = id ∧ c.shared.now = rotatedAt := by
  unfold notes at h
  split at h
  · split at h
    · cases List.mem_singleton.mp h
    · cases h
  · rename_i p
    split at h
    · rename_i r stored user hl
      split at h
      · rename_i hclaimable
        cases List.mem_singleton.mp h
        exact ⟨p, r, stored, user, rfl, hl, hclaimable, rfl, rfl⟩
      · cases h
    · cases h
  · cases h

theorem recorded_step
    {c c' : Pool (TokenStore Hash) (Call Jwt Hash) × List (TokenLog Jwt)}
    (h : Recorded crypto c) (hi : i ≠ .env .cleanupExpiredTokens)
    (hs : (recorded crypto config).step c i = some c') : Recorded crypto c' := by
  obtain ⟨hstep, hlog⟩ := Machine.logged_step.mp hs
  refine ⟨outline_valid.step c.1 i c'.1 h.outline trivial hstep, users_step h.users hi hstep,
    fun token id u f hmem => ?_, fun id rotatedAt hmem => ?_⟩
  · rw [hlog] at hmem
    rcases List.mem_append.mp hmem with hnew | hold
    · obtain ⟨p, step, session, hash, rfl, hl, rfl, rfl⟩ := notes_issued hnew
      exact issuedAs_new h.outline hstep hl
    · exact issuedAs_step h.outline (h.issued token id u f hold) hi hstep
  · rw [hlog] at hmem
    rcases List.mem_append.mp hmem with hnew | hold
    · obtain ⟨p, r, stored, user, rfl, hl, hclaimable, rfl, rfl⟩ := notes_rotated hnew
      obtain ⟨s', l', ha, he⟩ := (program crypto config).step_act.mp hstep
      have hact : next crypto config c.1.shared (c.1.locals p) = some (s', l') := ha
      simp only [hl, next, if_pos hclaimable, Option.some.injEq, Prod.mk.injEq] at hact
      rw [he, ← hact.1]
      exact rotatedAt_claim hclaimable
    · exact rotatedAt_step (h.rotated id rotatedAt hold) hi hstep

theorem recorded_init (users : List User) (tenants : List Tenant) (now : Time) :
    Recorded crypto ((init users tenants now : Pool (TokenStore Hash) (Call Jwt Hash)), []) where
  outline := outline_init users tenants now
  users t ht := by cases ht
  issued token id u f h := by cases h
  rotated id rotatedAt h := by cases h

theorem recorded_run {users : List User} {tenants : List Tenant} {now : Time}
    {is : List (Move (CallStep Jwt) (TokenEvent Jwt))}
    {c : Pool (TokenStore Hash) (Call Jwt Hash) × List (TokenLog Jwt)}
    (hkept : ∀ i ∈ is, i ≠ .env .cleanupExpiredTokens)
    (hrun : (recorded crypto config).run (init users tenants now, []) is = some c) :
    Recorded crypto c := by
  exact (recorded crypto config).run_preserves_within
    (fun _ _ _ h hi hs => recorded_step h hi hs) (recorded_init users tenants now)
    ((recorded crypto config).within_of_labels hkept) hrun

/-- Call `q` presents a token: its check runs `d₁ + d₂` milliseconds after it came in. -/
def present (q : Nat) (token : Jwt) (ipAddress userAgent : Option String) (d₁ d₂ : Nat) :
    List (Move (CallStep Jwt) (TokenEvent Jwt)) :=
  [.act q (.rotate token ipAddress userAgent), .env (.tick d₁), .act q .next, .env (.tick d₂),
    .act q .next]

/-- The row of a revoked token is found by its id and judged by its mark. -/
theorem present_revoked (config : JwtConfig) {t : RefreshToken Hash} {token : Jwt} {q : Nat}
    (hids : (c.shared.refreshTokens.map RefreshToken.id).Nodup) (ht : t ∈ c.shared.refreshTokens)
    (huser : (c.shared.findUser t.userId).isSome) (hrevoked : t.isRevoked = true)
    (hvalid : verifyRefreshToken crypto token c.shared.now =
      .ok ⟨t.userId, t.familyId, .refresh, some t.id⟩)
    (hidle : c.locals q = .idle) (ip ua : Option String) (d₁ d₂ : Nat) :
    ∃ c', (machine crypto config).run c (present q token ip ua d₁ d₂) = some c' ∧
      c'.shared = c.shared.tick (d₁ + d₂) ∧
      c'.locals q = handleRevokedTokenUse t (c.shared.now + (d₁ + d₂)) := by
  obtain ⟨user, huser⟩ := Option.isSome_iff_exists.mp huser
  have hrow : c.shared.refreshTokens.find? (fun r => r.id = t.id) = some t :=
    Table.find?_of_mem hids ht
  let r : Rotation Jwt := ⟨⟨t.userId, t.familyId, .refresh, some t.id⟩, token, ip, ua⟩
  obtain ⟨c₁, h₁, hs₁, hl₁⟩ := (program crypto config).step_of_act (c := c) (p := q)
    (a := .rotate token ip ua) (s := c.shared) (l := .finding r)
    (by simp only [program, act, hidle, start, hvalid, r])
  obtain ⟨c₂, h₂, hs₂, hl₂⟩ := (program crypto config).step_of_env (c := c₁) (e := .tick d₁)
    (s := c.shared.tick d₁) (by simp only [program, event, hs₁])
  have hfound : findStored c₂.shared r.payload = some (t, user) := by
    have hrow₂ : c₂.shared.refreshTokens.find? (fun r => r.id = t.id) = some t := by
      rw [hs₂]
      exact hrow
    have huser₂ : c₂.shared.findUser t.userId = some user := by
      rw [hs₂]
      exact huser
    simp [findStored, TokenStore.findTokenById, hrow₂, huser₂, r]
  obtain ⟨c₃, h₃, hs₃, hl₃⟩ := (program crypto config).step_of_act (c := c₂) (p := q)
    (a := .next) (s := c₂.shared) (l := .checking r t user)
    (by rw [hl₂, hl₁]; simp only [program, act, next, hfound])
  obtain ⟨c₄, h₄, hs₄, hl₄⟩ := (program crypto config).step_of_env (c := c₃) (e := .tick d₂)
    (s := c.shared.tick (d₁ + d₂))
    (by simp only [program, event, hs₃, hs₂, TokenStore.tick, Nat.add_assoc])
  obtain ⟨c₅, h₅, hs₅, hl₅⟩ := (program crypto config).step_of_act (c := c₄) (p := q)
    (a := .next) (s := c.shared.tick (d₁ + d₂))
    (l := handleRevokedTokenUse t (c.shared.now + (d₁ + d₂)))
    (by rw [hl₄, hl₃, hs₄]; simp [program, act, next, checkStored, hrevoked, TokenStore.tick])
  refine ⟨c₅, ?_, hs₅, hl₅⟩
  simp only [present, machine, Machine.run, h₁, h₂, h₃, h₄, h₅, Option.bind_some]

/-- A call that acts for another user or family than `u` and `f`. -/
def Foreign (f u : Uuid) : Call Jwt Hash → Prop
  | .idle => False
  | .finding r => r.payload.sub ≠ u ∨ r.payload.familyId ≠ f
  | .revoking g _ _ => g ≠ f
  | .checking r stored _ => r.payload.familyId ≠ f ∧ stored.familyId ≠ f
  | .claiming r _ _ | .usable r _ => r.payload.familyId ≠ f
  | .issuing session | .creating session .. => session.familyId ≠ f
  | .finished _ => True

theorem foreign_next {s s' : TokenStore Hash} {l l' : Call Jwt Hash} {f u : Uuid} (hinv : s.Inv)
    (hown : l.Own s) (hfu : (f, u) ∈ s.history.sessions) (hl : Foreign f u l)
    (hn : next crypto config s l = some (s', l')) :
    s'.family f = s.family f ∧ s'.history.sessions = s.history.sessions ∧ Foreign f u l' := by
  cases l with
  | idle => cases hl
  | issuing session => cases hn
  | finished result => cases hn
  | finding r =>
    simp only [next] at hn
    split at hn <;> cases hn
    · exact ⟨rfl, rfl, trivial⟩
    · rename_i stored user hfound
      obtain ⟨hm, hf, hu⟩ := findStored_spec hfound
      have hne : r.payload.familyId ≠ f := by
        intro he
        rcases hl with hsub | hfam
        · -- the family has one user, and `findTokenById` checks it
          have hknown := (hinv.known stored hm).2
          rw [hf, hu, he] at hknown
          exact hsub (hinv.owner f _ _ hknown hfu)
        · exact hfam he
      exact ⟨rfl, rfl, hne, hf ▸ hne⟩
  | checking r stored user =>
    simp only [next, Option.some.injEq, Prod.mk.injEq] at hn
    obtain ⟨rfl, rfl⟩ := hn
    refine ⟨rfl, rfl, ?_⟩
    rcases checkStored_cases crypto r stored user s.now with ⟨e, he⟩ | ⟨e, he⟩ | ⟨-, he⟩ <;> rw [he]
    · trivial
    · exact hl.2
    · exact hl.1
  | claiming r stored user =>
    simp only [next] at hn
    split at hn <;> cases hn
    · refine ⟨family_revokeWhere fun t ht hid he => hl ?_, rfl, hl⟩
      rw [← he]
      exact (hown.family stored.id _ _ rfl rfl t ht hid).symm
    · exact ⟨rfl, rfl, trivial⟩
  | usable r user =>
    simp only [next] at hn
    split at hn <;> cases hn <;> exact ⟨rfl, rfl, hl⟩
  | creating session id token hash =>
    simp only [next] at hn
    split at hn <;> cases hn
    · have hne : session.familyId ≠ f := hl
      refine ⟨?_, rfl, trivial⟩
      simp [TokenStore.family, TokenStore.insert, newRow, hne]
    · exact ⟨rfl, rfl, trivial⟩
  | revoking g reason e =>
    cases hn
    exact ⟨family_revokeWhere fun t ht hg he => hl (hg.symm.trans he), rfl, trivial⟩

theorem foreign_act {s s' : TokenStore Hash} {l l' : Call Jwt Hash} {step : CallStep Jwt}
    {f u : Uuid} (hinv : s.Inv) (hown : l.Own s) (hfu : (f, u) ∈ s.history.sessions)
    (hl : Foreign f u l) (hn : act crypto config s l step = some (s', l')) :
    s'.family f = s.family f ∧ s'.history.sessions = s.history.sessions ∧ Foreign f u l' := by
  cases step with
  | next => exact foreign_next hinv hown hfu hl hn
  | fail =>
    cases l with
    | idle => cases hl
    | finished result => cases hn
    | usable r user =>
      simp only [act, fail] at hn
      split at hn <;> cases hn
      exact ⟨rfl, rfl, hl⟩
    | _ =>
      cases hn
      exact ⟨rfl, rfl, trivial⟩
  | issue id salt =>
    cases l with
    | issuing session =>
      simp only [act, issue] at hn
      split at hn <;> cases hn
      exact ⟨rfl, rfl, hl⟩
    | _ => cases hn
  | login user ip agent g =>
    cases l with
    | idle => cases hl
    | _ => cases hn
  | rotate token ip agent =>
    cases l with
    | idle => cases hl
    | _ => cases hn

/-- The steps of one call that runs alone, while time passes. -/
def OfCall (q : Nat) : Move (CallStep Jwt) (TokenEvent Jwt) → Prop
  | .act p _ => p = q
  | .env (.tick _) => True
  | .env _ => False

/-- A call for another user or family leaves the rows of the family alone. -/
theorem foreign_run {q : Nat} {f u : Uuid} {ks : List (Move (CallStep Jwt) (TokenEvent Jwt))}
    (ho : outline.Holds c) (hfu : (f, u) ∈ c.shared.history.sessions)
    (hl : Foreign f u (c.locals q)) (hks : ∀ i ∈ ks, OfCall q i)
    (hrun : (machine crypto config).run c ks = some c') :
    c'.shared.family f = c.shared.family f := by
  induction ks generalizing c with
  | nil =>
    cases hrun
    rfl
  | cons i ks ih =>
    obtain ⟨c₁, hstep, hrest⟩ := (Machine.run_cons _).mp hrun
    have ho₁ := outline_valid.step c i c₁ ho trivial hstep
    have hi := hks i List.mem_cons_self
    have hrest' := fun hfu₁ hl₁ =>
      ih ho₁ hfu₁ hl₁ (fun j hj => hks j (List.mem_cons_of_mem _ hj)) hrest
    cases i with
    | act p step =>
      obtain rfl : p = q := hi
      obtain ⟨s', l', ha, rfl⟩ := (program crypto config).step_act.mp hstep
      obtain ⟨hfamily, hsessions, hl'⟩ := foreign_act ho.inv (ho.own p) hfu hl ha
      rw [hrest' (hsessions ▸ hfu) (by rwa [Pool.put_locals_self])]
      exact hfamily
    | env e =>
      cases e with
      | tick ms =>
        cases hstep
        exact hrest' hfu hl
      | _ => cases hi

/-- A call about to revoke a family ends with its error, and the family is revoked. -/
theorem revoke_next {q : Nat} {f : Uuid} {reason : String} {error : AppError}
    (hl : c.locals q = .revoking f reason error) (d : Nat) :
    ∃ c', (machine crypto config).run c [.env (.tick d), .act q .next] = some c' ∧
      c'.locals q = .finished (.error error) ∧
      c'.shared.refreshTokens.map RefreshToken.id = c.shared.refreshTokens.map RefreshToken.id ∧
      ∀ t ∈ c'.shared.refreshTokens, t.familyId = f → t.isRevoked = true := by
  obtain ⟨c₁, h₁, hs₁, hl₁⟩ := (program crypto config).step_of_env (c := c) (e := .tick d)
    (s := c.shared.tick d) rfl
  obtain ⟨c₂, h₂, hs₂, hl₂⟩ := (program crypto config).step_of_act (c := c₁) (p := q)
    (a := .next) (by rw [hl₁, hl]; rfl)
  refine ⟨c₂, ?_, hl₂, ?_, ?_⟩
  · simp only [machine, Machine.run, h₁, h₂, Option.bind_some]
  · have hrows : c₁.shared.refreshTokens = c.shared.refreshTokens := by
      rw [hs₁]
      rfl
    rw [hs₂, ← hrows]
    exact Table.map_updateMany fun _ => rfl
  · intro r hr hf
    rw [hs₂] at hr
    obtain ⟨r₀, -, -, hf₀, -, hr₀ | ⟨rfl, hne⟩⟩ := mem_revokeWhere hr
    · exact hr₀
    · exact absurd hf hne

/-- A call whose token is for another user or family leaves the family alone. -/
theorem foreign_rotate {q : Nat} {f u : Uuid} {token : Jwt} {ip ua : Option String}
    {ks : List (Move (CallStep Jwt) (TokenEvent Jwt))} (ho : outline.Holds c)
    (hfu : (f, u) ∈ c.shared.history.sessions) (hidle : c.locals q = .idle)
    (hforeign : ∀ payload, verifyRefreshToken crypto token c.shared.now = .ok payload →
      payload.sub ≠ u ∨ payload.familyId ≠ f) (hks : ∀ i ∈ ks, OfCall q i)
    (hrun : (machine crypto config).run c (.act q (.rotate token ip ua) :: ks) = some c') :
    c'.shared.family f = c.shared.family f := by
  obtain ⟨c₁, hstep, hrest⟩ := (Machine.run_cons _).mp hrun
  have ho₁ := outline_valid.step c _ c₁ ho trivial hstep
  obtain ⟨s', l', ha, rfl⟩ := (program crypto config).step_act.mp hstep
  have hstart : start crypto c.shared (.rotate token ip ua) = some (s', l') := by
    have hact : act crypto config c.shared (c.locals q) (.rotate token ip ua) = some (s', l') := ha
    rwa [hidle] at hact
  simp only [start] at hstart
  have hstarted : s' = c.shared ∧ Foreign f u l' := by
    split at hstart <;> cases hstart
    · exact ⟨rfl, trivial⟩
    · rename_i payload hok
      exact ⟨rfl, hforeign payload hok⟩
  obtain ⟨rfl, hl'⟩ := hstarted
  have hlocal : Foreign f u ((c.put q c.shared l').locals q) := by
    rwa [Pool.put_locals_self]
  exact foreign_run (c := c.put q c.shared l') ho₁ hfu hlocal hks hrest

end

theorem verify_payload {crypto : TokenCrypto Jwt Hash} {token : Jwt} {now : Time}
    {payload : RefreshTokenPayload} (h : verifyRefreshToken crypto token now = .ok payload) :
    crypto.verifyRefresh token now = .ok payload := by
  unfold verifyRefreshToken at h
  split at h
  · cases h
  · cases h
  · rename_i payload' hok
    split at h <;> cases h
    exact hok

/-- A mark ten seconds old counts as reuse, a younger one as a repeated request. -/
theorem handleRevokedTokenUse_of_rotated {t : RefreshToken Hash} {rotatedAt now : Time}
    (hat : t.revokedAt = some rotatedAt) (hreason : t.revokedReason = some "ROTATED") :
    (handleRevokedTokenUse t now : Call Jwt Hash) = if now < rotatedAt + rotationGraceMs then
      .finished (.error (.unauthorized "Refresh token already used"))
    else .revoking t.familyId "TOKEN_REUSE_DETECTED"
      (.unauthorized "Token reuse detected. Please login again.") := by
  have hrecent : recentlyRotated t now = decide (now < rotatedAt + rotationGraceMs) := by
    simp only [recentlyRotated, hreason, hat, decide_true, Bool.true_and, Option.any_some]
    have hgrace : 0 < rotationGraceMs := Nat.zero_lt_succ _
    have hnat : ∀ a b g : Nat, 0 < g → (a - b < g ↔ a < b + g) := by omega
    exact decide_eq_decide.mpr (hnat now rotatedAt rotationGraceMs hgrace)
  rw [handleRevokedTokenUse, hrecent]
  by_cases hgrace : now < rotatedAt + rotationGraceMs <;> simp [hgrace]

/-- A rotated token that is presented again, whatever has happened since. Ten seconds or more
after its rotation the call fails, inserts nothing and leaves its family revoked; before that
it fails and changes nothing; and no call for another user or family touches the family. -/
theorem rotated_token_reuse [DecidableEq Hash] (crypto : TokenCrypto Jwt Hash) (config : JwtConfig)
    (hsigned : ∀ payload signedAt now payload',
      crypto.verifyRefresh (crypto.signRefresh payload signedAt) now = .ok payload' →
      payload' = payload)
    (users : List User) (tenants : List Tenant) (now : Time)
    (is : List (Move (CallStep Jwt) (TokenEvent Jwt)))
    (hkept : ∀ i ∈ is, i ≠ .env .cleanupExpiredTokens)
    (c : Pool (TokenStore Hash) (Call Jwt Hash)) (log : List (TokenLog Jwt))
    (hrun : (recorded crypto config).run (init users tenants now, []) is = some (c, log))
    (token : Jwt) (id u f : Uuid) (rotatedAt : Time)
    (hissued : .issued token id u f ∈ log) (hrotated : .rotated id rotatedAt ∈ log)
    (q : Nat) (hidle : c.locals q = .idle) (ip ua : Option String) :
    (∀ payload, verifyRefreshToken crypto token c.shared.now = .ok payload → ∀ d₁ d₂,
      (rotatedAt + rotationGraceMs ≤ c.shared.now + (d₁ + d₂) → ∀ d₃, ∃ c' e,
        (machine crypto config).run c
          (present q token ip ua d₁ d₂ ++ [.env (.tick d₃), .act q .next]) = some c' ∧
        c'.locals q = .finished (.error e) ∧
        c'.shared.refreshTokens.map RefreshToken.id = c.shared.refreshTokens.map RefreshToken.id ∧
        ∀ t ∈ c'.shared.refreshTokens, t.familyId = f → t.isRevoked = true) ∧
      (c.shared.now + (d₁ + d₂) < rotatedAt + rotationGraceMs → ∃ c' e,
        (machine crypto config).run c (present q token ip ua d₁ d₂) = some c' ∧
        c'.locals q = .finished (.error e) ∧ c'.shared = c.shared.tick (d₁ + d₂))) ∧
    ∀ token', (∀ payload, verifyRefreshToken crypto token' c.shared.now = .ok payload →
        payload.sub ≠ u ∨ payload.familyId ≠ f) →
      ∀ ks, (∀ i ∈ ks, OfCall q i) → ∀ c',
        (machine crypto config).run c (.act q (.rotate token' ip ua) :: ks) = some c' →
        c'.shared.family f = c.shared.family f := by
  have h := recorded_run hkept hrun
  obtain ⟨t, ht, rfl, hrevoked, hat, hreason⟩ := h.rotated id rotatedAt hrotated
  have hissuedAs := h.issued token t.id u f hissued
  obtain ⟨rfl, rfl⟩ := hissuedAs.row t ht rfl
  have hfu : (t.familyId, t.userId) ∈ c.shared.history.sessions :=
    (h.outline.inv.known t ht).2
  refine ⟨fun payload hvalid d₁ d₂ => ?_, fun token' hforeign ks hks c' hc' => ?_⟩
  · obtain ⟨signedAt, htoken⟩ := hissuedAs.signed
    have hpayload : payload = ⟨t.userId, t.familyId, .refresh, some t.id⟩ := by
      have hverified := verify_payload hvalid
      rw [htoken] at hverified
      exact hsigned _ _ _ _ hverified
    rw [hpayload] at hvalid
    obtain ⟨c₁, hc₁, hshared, hl⟩ := present_revoked config h.outline.inv.ids ht
      (h.users t ht) hrevoked hvalid hidle ip ua d₁ d₂
    rw [handleRevokedTokenUse_of_rotated hat hreason] at hl
    constructor
    · intro hlate d₃
      rw [if_neg (Nat.not_lt.mpr hlate)] at hl
      obtain ⟨c₂, hc₂, hend, hids, hfamily⟩ := revoke_next hl d₃
      refine ⟨c₂, _, ((machine crypto config).run_append).mpr ⟨c₁, hc₁, hc₂⟩, hend, ?_, hfamily⟩
      rw [hids, hshared]
      rfl
    · intro hearly
      rw [if_pos hearly] at hl
      exact ⟨c₁, _, hc₁, hl, hshared⟩
  · exact foreign_rotate h.outline hfu hidle hforeign hks hc'

theorem plainCrypto_signed (payload : RefreshTokenPayload) (signedAt now : Time)
    (payload' : RefreshTokenPayload)
    (h : plainCrypto.verifyRefresh (plainCrypto.signRefresh payload signedAt) now = .ok payload') :
    payload' = payload := by
  simp only [plainCrypto] at h
  split at h <;> cases h
  rfl

/-- A login, a rotation of its token, and twenty seconds. -/
def rotatedRun : List (Move (CallStep PlainJwt) (TokenEvent PlainJwt)) :=
  [.act 0 (.login demoUser none none 10), .act 0 (.issue 11 0), .act 0 .next,
    .act 1 (.rotate demoToken none none), .act 1 .next, .act 1 .next, .act 1 .next,
    .act 1 .next, .act 1 (.issue 12 0), .act 1 .next, .env (.tick 20000)]

theorem rotated_token_reuse_late : ∃ c log c' e,
    (recorded plainCrypto plainConfig).run (init [demoUser] [] 0, []) rotatedRun =
      some (c, log) ∧
    (machine plainCrypto plainConfig).run c
      (present 2 demoToken none none 0 0 ++ [.env (.tick 0), .act 2 .next]) = some c' ∧
    c'.locals 2 = .finished (.error e) ∧
    c'.shared.refreshTokens.map RefreshToken.id = c.shared.refreshTokens.map RefreshToken.id ∧
    ∀ t ∈ c'.shared.refreshTokens, t.familyId = 10 → t.isRevoked = true := by
  have hrun : ∃ c log, (recorded plainCrypto plainConfig).run (init [demoUser] [] 0, [])
      rotatedRun = some (c, log) ∧ c.shared.now = 20000 ∧ c.locals 2 = .idle ∧
      .issued demoToken 11 1 10 ∈ log ∧ .rotated 11 0 ∈ log :=
    ⟨_, _, rfl, rfl, rfl, List.mem_cons_of_mem _ (List.mem_cons_of_mem _ List.mem_cons_self),
      List.mem_cons_of_mem _ List.mem_cons_self⟩
  obtain ⟨c, log, hrun, hnow, hidle, hissued, hrotated⟩ := hrun
  have hvalid : verifyRefreshToken plainCrypto demoToken c.shared.now =
      .ok ⟨1, 10, .refresh, some 11⟩ := by
    rw [hnow]
    rfl
  have hlate : 0 + rotationGraceMs ≤ c.shared.now + (0 + 0) := by
    rw [hnow]
    decide
  have h := rotated_token_reuse plainCrypto plainConfig plainCrypto_signed [demoUser] [] 0
    rotatedRun (by simp [rotatedRun]) c log hrun demoToken 11 1 10 0 hissued hrotated 2 hidle
    none none
  obtain ⟨c', e, hpresent, herror, hids, hfamily⟩ := (h.1 _ hvalid 0 0).1 hlate 0
  exact ⟨c, log, c', e, hrun, hpresent, herror, hids, hfamily⟩

end TokenService
end OmniSupport.Auth
