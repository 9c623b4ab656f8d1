import OmniSupport.Auth.TokenFamily

/-! What a revocation leaves behind. A rotation between its claim and its insert is not
reached by it: the successor it inserts afterwards is live. Exactly these rotations make a
revocation not final. -/
namespace OmniSupport.Auth
open Foundation

variable {Jwt Hash : Type}

/-- The call is past the claim of its rotation (or its login) and not past the insert,
and its copy of the user passes the account check. -/
def Call.mayIssue (f : Uuid) : Call Jwt Hash → Prop
  | .usable r user => r.payload.familyId = f ∧ ¬ TokenService.blockedStatus user
  | .issuing session | .creating session .. => session.familyId = f
  | _ => False

namespace TokenService

/-- The `where` clause of a revocation, without its condition on `isRevoked`. The moves
that are no revocation select nothing. -/
def selects (crypto : TokenCrypto Jwt Hash) (c : Pool (TokenStore Hash) (Call Jwt Hash))
    (t : RefreshToken Hash) : Move (CallStep Jwt) (TokenEvent Jwt) → Prop
  | .env (.revokeToken token) =>
    match verifyRefreshToken crypto token c.shared.now with
    | .ok payload => t.userId = payload.sub ∧ t.familyId = payload.familyId
    | .error _ => False
  | .env (.revokeAllUserTokens userId _) => t.userId = userId
  | .env (.revokeAllTenantTokens tenantId _) => c.shared.tenantOf t = some tenantId
  | .act p .next =>
    match c.locals p with
    | .revoking familyId reason _ => reason = "TOKEN_REUSE_DETECTED" ∧ t.familyId = familyId
    | _ => False
  | _ => False

/-- Move `i` revokes the session `f`, which existed when it ran. -/
def Revokes (crypto : TokenCrypto Jwt Hash) (c : Pool (TokenStore Hash) (Call Jwt Hash))
    (i : Move (CallStep Jwt) (TokenEvent Jwt)) (f : Uuid) : Prop :=
  ∃ t ∈ c.shared.refreshTokens, t.familyId = f ∧ selects crypto c t i

/-- No run from `c` ever shows a live token of family `f`. -/
def Dead [DecidableEq Hash] (crypto : TokenCrypto Jwt Hash) (config : JwtConfig)
    (c : Pool (TokenStore Hash) (Call Jwt Hash)) (f : Uuid) : Prop :=
  ∀ js c', (machine crypto config).run c js = some c' → c'.shared.live f = 0

section
variable {crypto : TokenCrypto Jwt Hash} {config : JwtConfig} {s s' : TokenStore Hash}
  {l l' : Call Jwt Hash} {f : Uuid}

/-- The outline of a dead family: nothing live in it, and nobody about to insert. -/
abbrev deadOutline (f : Uuid) : Program.Outline (TokenStore Hash) (Call Jwt Hash) where
  inv s := s.Inv ∧ s.live f = 0 ∧ f ∈ s.history.uuids
  own _ l s := l.Own s ∧ ¬ l.mayIssue f
  pair := Call.Apart

theorem dead_next [DecidableEq Hash] (hown : l.Own s) (hlive : s.live f = 0)
    (hl : ¬ l.mayIssue f) (hn : next crypto config s l = some (s', l')) :
    s'.live f = 0 ∧ ¬ l'.mayIssue f := by
  cases l with
  | idle => simp [next] at hn
  | issuing session => simp [next] at hn
  | finished result => simp [next] at hn
  | finding r =>
    simp only [next] at hn
    split at hn <;> cases hn <;> exact ⟨hlive, by simp [Call.mayIssue]⟩
  | checking r stored user =>
    simp only [next, Option.some.injEq, Prod.mk.injEq] at hn
    obtain ⟨rfl, rfl⟩ := hn
    refine ⟨hlive, ?_⟩
    rcases checkStored_cases crypto r stored user s.now with ⟨e, he⟩ | ⟨e, he⟩ | ⟨-, he⟩ <;>
      simp [he, Call.mayIssue]
  | claiming r stored user =>
    simp only [next] at hn
    split at hn <;> cases hn
    · rename_i hc
      refine ⟨(TokenStore.Shrinks.claim hc).live_zero hlive, fun hi => ?_⟩
      -- the claim succeeds on a live token of the family only
      obtain ⟨t, hm, hid, hlt⟩ := TokenStore.exists_of_claimable hc
      have hpos := TokenStore.live_pos_of_mem hm hlt
      rw [hown.family stored.id _ _ rfl rfl t hm hid, hi.1, hlive] at hpos
      exact Nat.lt_irrefl 0 hpos
    · exact ⟨hlive, by simp [Call.mayIssue]⟩
  | usable r user =>
    simp only [next] at hn
    split at hn <;> cases hn
    · exact ⟨hlive, by simp [Call.mayIssue]⟩
    · rename_i hok
      refine ⟨hlive, fun hi => hl ⟨hi, fun hb => ?_⟩⟩
      simp [assertAccountUsable, hb] at hok
  | creating session id token hash =>
    simp only [next] at hn
    split at hn <;> cases hn
    · refine ⟨?_, by simp [Call.mayIssue]⟩
      have hne : session.familyId ≠ f := hl
      rw [TokenStore.live_insert, hlive]
      simp [newRow, hne]
    · exact ⟨hlive, by simp [Call.mayIssue]⟩
  | revoking g reason e =>
    cases hn
    exact ⟨TokenStore.Shrinks.revokeWhere.live_zero hlive, by simp [Call.mayIssue]⟩

theorem dead_fail (hlive : s.live f = 0) (hn : fail s l = some (s', l')) :
    s'.live f = 0 ∧ ¬ l'.mayIssue f := by
  cases l with
  | idle => simp [fail] at hn
  | finished result => simp [fail] at hn
  | usable r user =>
    simp only [fail] at hn
    split at hn <;> cases hn
    exact ⟨hlive, by simp [Call.mayIssue]⟩
  | _ =>
    cases hn
    exact ⟨hlive, by simp [Call.mayIssue]⟩

theorem dead_issue {id : Uuid} {salt : Nat} (hlive : s.live f = 0) (hl : ¬ l.mayIssue f)
    (hn : issue crypto s id salt l = some (s', l')) : s'.live f = 0 ∧ ¬ l'.mayIssue f := by
  cases l with
  | issuing session =>
    simp only [issue] at hn
    split at hn <;> cases hn
    exact ⟨hlive, hl⟩
  | _ => simp [issue] at hn

/-- A login opens a family of its own. -/
theorem dead_start {step : CallStep Jwt} (hlive : s.live f = 0) (hf : f ∈ s.history.uuids)
    (hn : start crypto s step = some (s', l')) : s'.live f = 0 ∧ ¬ l'.mayIssue f := by
  cases step with
  | login user ip agent g =>
    simp only [start] at hn
    split at hn <;> cases hn
    rename_i hfresh
    exact ⟨hlive, fun (he : g = f) => hfresh (he ▸ hf)⟩
  | rotate token ip agent =>
    simp only [start] at hn
    split at hn <;> cases hn <;> exact ⟨hlive, by simp [Call.mayIssue]⟩
  | issue id salt => simp [start] at hn
  | next => simp [start] at hn
  | fail => simp [start] at hn

theorem dead_act [DecidableEq Hash] {step : CallStep Jwt} (hown : l.Own s) (hlive : s.live f = 0)
    (hf : f ∈ s.history.uuids) (hl : ¬ l.mayIssue f)
    (hn : act crypto config s l step = some (s', l')) : s'.live f = 0 ∧ ¬ l'.mayIssue f := by
  cases step with
  | next => exact dead_next hown hlive hl hn
  | fail => exact dead_fail hlive hn
  | issue id salt => exact dead_issue hlive hl hn
  | login user ip agent g =>
    cases l with
    | idle =>
      have hs : start crypto s (.login user ip agent g) = some (s', l') := hn
      exact dead_start hlive hf hs
    | _ => simp [act] at hn
  | rotate token ip agent =>
    cases l with
    | idle =>
      have hs : start crypto s (.rotate token ip agent) = some (s', l') := hn
      exact dead_start hlive hf hs
    | _ => simp [act] at hn

theorem deadOutline_valid [DecidableEq Hash] (f : Uuid) :
    (deadOutline f : Program.Outline (TokenStore Hash) (Call Jwt Hash)).Valid
      (program crypto config) fun _ _ => True where
  symm _ _ := Call.Apart.symm
  act c p step s l h _ hn := by
    obtain ⟨hinv, hlive, hf⟩ := h.inv
    obtain ⟨hown, hl⟩ := h.own p
    have hk := keeps_act hinv hown hn
    obtain ⟨hlive', hl'⟩ := dead_act hown hlive hf hl hn
    exact ⟨⟨hk.inv, hlive', hk.uuids hf⟩, hk.own, hl'⟩
  others c p step s l h _ hn q hq := by
    obtain ⟨hinv, -, -⟩ := h.inv
    have hk := keeps_act hinv (h.own p).1 hn
    have ha := h.pair p q (Ne.symm hq)
    exact ⟨⟨hk.others _ (h.own q).1 ha, (h.own q).2⟩, hk.apart _ hinv (h.own q).1 ha⟩
  env c e s h _ he := by
    cases he
    obtain ⟨hinv, hlive, hf⟩ := h.inv
    have hs := event_shrinks crypto c.shared e
    exact ⟨⟨event_inv e hinv, hs.live_zero hlive, hs.uuids hf⟩,
      fun q => ⟨(h.own q).1.shrinks hs, (h.own q).2⟩⟩

/-- A revocation that selects one token of a family selects the live ones with it: they
all belong to the user who opened the family. -/
theorem revokeWhere_live_zero {p : RefreshToken Hash → Prop} [DecidablePred p] {reason : String}
    (hinv : s.Inv) {t : RefreshToken Hash} (hm : t ∈ s.refreshTokens)
    (hsame : ∀ r, r.familyId = t.familyId → r.userId = t.userId → p r) :
    (s.revokeWhere p reason).live t.familyId = 0 := by
  refine TokenStore.live_zero.mpr fun r' hr' hf => ?_
  obtain ⟨r, hr, -, hrf, hru, hrev | ⟨rfl, hne⟩⟩ := TokenStore.mem_revokeWhere hr'
  · exact hrev
  · have hr'' := (hinv.known r' hr).2
    rw [hf] at hr''
    exact absurd (hsame r' hf (hinv.owner _ _ _ hr'' (hinv.known t hm).2)) hne

/-- The revocation itself: nothing of the session is live right after it. -/
theorem live_zero_of_revokes [DecidableEq Hash] {c c₁ : Pool (TokenStore Hash) (Call Jwt Hash)}
    {i : Move (CallStep Jwt) (TokenEvent Jwt)} (hinv : c.shared.Inv)
    (hv : Revokes crypto c i f) (hs : (machine crypto config).step c i = some c₁) :
    c₁.shared.live f = 0 := by
  obtain ⟨t, hm, rfl, hsel⟩ := hv
  cases i with
  | env e =>
    obtain ⟨s, he, rfl⟩ := (program crypto config).step_env.mp hs
    cases he
    cases e with
    | revokeToken token =>
      simp only [selects] at hsel
      simp only [event]
      split at hsel
      · rename_i payload hok
        rw [hok]
        refine revokeWhere_live_zero hinv hm fun r hf hu => ?_
        exact ⟨hu.trans hsel.1, hf.trans hsel.2⟩
      · exact hsel.elim
    | revokeAllUserTokens u reason =>
      exact revokeWhere_live_zero hinv hm fun r _ hu => hu.trans hsel
    | revokeAllTenantTokens tn reason =>
      refine revokeWhere_live_zero hinv hm fun r _ hu => ?_
      rw [← show _ = some tn from hsel, TokenStore.tenantOf, hu]
      rfl
    | _ => exact hsel.elim
  | act p step =>
    obtain ⟨s, l, ha, rfl⟩ := (program crypto config).step_act.mp hs
    cases step with
    | next =>
      simp only [selects] at hsel
      split at hsel
      · rename_i g reason e hl
        rw [hl] at ha
        cases ha
        exact revokeWhere_live_zero hinv hm fun r hf _ => hf.trans hsel.2
      · exact hsel.elim
    | _ => exact hsel.elim

/-- The calls in flight are the same before and after a revocation, but for the one that
runs it and issues nothing. -/
theorem mayIssue_of_revokes [DecidableEq Hash] {c c₁ : Pool (TokenStore Hash) (Call Jwt Hash)}
    {i : Move (CallStep Jwt) (TokenEvent Jwt)} (hv : Revokes crypto c i f)
    (hs : (machine crypto config).step c i = some c₁) (p : Nat) :
    (c₁.locals p).mayIssue f ↔ (c.locals p).mayIssue f := by
  obtain ⟨t, hm, rfl, hsel⟩ := hv
  cases i with
  | env e =>
    obtain ⟨s, he, rfl⟩ := (program crypto config).step_env.mp hs
    exact Iff.rfl
  | act q step =>
    obtain ⟨s, l, ha, rfl⟩ := (program crypto config).step_act.mp hs
    by_cases hq : p = q
    · subst q
      cases step with
      | next =>
        simp only [selects] at hsel
        split at hsel
        · rename_i g reason e hl
          rw [hl] at ha
          cases ha
          simp [hl, Call.mayIssue]
        · exact hsel.elim
      | _ => exact hsel.elim
    · rw [c.put_locals_of_ne s l hq]

/-- Some run from `c` shows a live token of family `f`. -/
def CanIssue [DecidableEq Hash] (crypto : TokenCrypto Jwt Hash) (config : JwtConfig)
    (c : Pool (TokenStore Hash) (Call Jwt Hash)) (f : Uuid) : Prop :=
  ∃ js c', (machine crypto config).run c js = some c' ∧ 0 < c'.shared.live f

theorem CanIssue.of_run [DecidableEq Hash] {c c₁ : Pool (TokenStore Hash) (Call Jwt Hash)}
    {is : List (Move (CallStep Jwt) (TokenEvent Jwt))}
    (hr : (machine crypto config).run c is = some c₁) (h : CanIssue crypto config c₁ f) :
    CanIssue crypto config c f := by
  obtain ⟨js, c', hj, hl⟩ := h
  exact ⟨is ++ js, c', (machine crypto config).run_append.mpr ⟨c₁, hr, hj⟩, hl⟩

/-- A call at its insert: once the old tokens have expired and are cleaned up, no
constraint stands in its way. -/
theorem canIssue_of_creating [DecidableEq Hash] {c : Pool (TokenStore Hash) (Call Jwt Hash)}
    {p : Nat} {session : Session} {id : Uuid} {token : Jwt} {hash : Hash}
    (hl : c.locals p = .creating session id token hash) :
    CanIssue crypto config c session.familyId := by
  let user : User := { (default : User) with id := session.userId }
  obtain ⟨ms, hms⟩ := Table.exists_bound RefreshToken.expiresAt c.shared.refreshTokens
  let s₁ := ((c.shared.saveUser user).tick ms).cleanupExpiredTokens
  have hempty : s₁.refreshTokens = [] := by
    refine List.filter_eq_nil_iff.mpr fun t ht => ?_
    have hlt : t.expiresAt < c.shared.now + ms := Nat.lt_add_left _ (hms t ht)
    simpa [TokenStore.tick, TokenStore.saveUser] using hlt
  have hins : s₁.insertable (newRow config session id hash s₁.now) := by
    refine ⟨by simp [hempty], ?_⟩
    simp [s₁, TokenStore.cleanupExpiredTokens, TokenStore.tick, TokenStore.saveUser,
      TokenStore.findUser, newRow, user]
  refine ⟨[.env (.saveUser user), .env (.tick ms), .env .cleanupExpiredTokens, .act p .next],
    ({ c with shared := s₁ } : Pool _ _).put p (s₁.insert (newRow config session id hash s₁.now))
      (.finished (.ok (tokenPair crypto config session token s₁.now))), ?_, ?_⟩
  · have hact : act crypto config s₁ (c.locals p) .next =
        some (s₁.insert (newRow config session id hash s₁.now),
          .finished (.ok (tokenPair crypto config session token s₁.now))) := by
      simp only [act, hl, next, hins, if_true]
    simp only [machine, Machine.run, Program.machine, program, event, Option.map_some,
      Option.bind_some]
    rw [show act crypto config _ (c.locals p) .next = _ from hact]
    rfl
  · rw [Pool.put_shared, TokenStore.live_insert]
    simp [newRow]

theorem canIssue_of_issuing [DecidableEq Hash] {c : Pool (TokenStore Hash) (Call Jwt Hash)}
    {p : Nat} {session : Session} (hl : c.locals p = .issuing session) :
    CanIssue crypto config c session.familyId := by
  obtain ⟨id, hid⟩ := Table.exists_bound (fun n : Uuid => n) c.shared.history.uuids
  have hfresh : id ∉ c.shared.history.uuids := fun hm => Nat.lt_irrefl id (hid id hm)
  let token := crypto.signRefresh ⟨session.userId, session.familyId, .refresh, some id⟩ c.shared.now
  have hact : act crypto config c.shared (c.locals p) (.issue id 0) =
      some (c.shared.drawUuid id, .creating session id token (crypto.hash token 0)) := by
    simp only [act, hl, issue, hfresh, if_false, token]
  have hstep : (machine crypto config).run c [.act p (.issue id 0)] = some (c.put p
      (c.shared.drawUuid id) (.creating session id token (crypto.hash token 0))) :=
    (Machine.run_cons _).mpr ⟨_, (Program.step_act _).mpr ⟨_, _, hact, rfl⟩, rfl⟩
  exact (canIssue_of_creating (Pool.put_locals_self ..)).of_run hstep

/-- A call before its account check: the lock has run out and the tenant is active. -/
theorem canIssue_of_usable [DecidableEq Hash] {c : Pool (TokenStore Hash) (Call Jwt Hash)}
    {p : Nat} {r : Rotation Jwt} {user : User} (hl : c.locals p = .usable r user)
    (hu : ¬ blockedStatus user) : CanIssue crypto config c r.payload.familyId := by
  let ms := user.lockedUntil.getD 0
  let tenant : Tenant := { (default : Tenant) with id := user.tenantId.getD 0 }
  let s₁ := (c.shared.tick ms).saveTenant tenant
  have hok : assertAccountUsable s₁ user = .ok () := by
    have hlock : (user.lockedUntil.any fun lockedUntil => s₁.now < lockedUntil) = false := by
      cases hlu : user.lockedUntil with
      | none => rfl
      | some t =>
        simp [s₁, TokenStore.saveTenant, TokenStore.tick, ms, hlu]
    unfold assertAccountUsable
    rw [if_neg hu, hlock]
    cases ht : user.tenantId with
    | none => rfl
    | some tid =>
      have hfind : s₁.findTenant tid = some tenant := by
        simp [s₁, TokenStore.findTenant, TokenStore.saveTenant, tenant, ht]
      simp only [hfind]
      rfl
  have hact : act crypto config s₁ (c.locals p) .next =
      some (s₁, .issuing (rotationSession r user)) := by
    simp only [act, hl, next, hok]
  have hrun : (machine crypto config).run c
      [.env (.tick ms), .env (.saveTenant tenant), .act p .next] =
      some (({ c with shared := s₁ } : Pool _ _).put p s₁ (.issuing (rotationSession r user))) := by
    simp only [machine, Machine.run, Program.machine, program, event, Option.map_some,
      Option.bind_some]
    rw [show act crypto config _ (c.locals p) .next = _ from hact]
    rfl
  exact (canIssue_of_issuing (Pool.put_locals_self ..)).of_run hrun

theorem canIssue_of_mayIssue [DecidableEq Hash] (crypto : TokenCrypto Jwt Hash)
    (config : JwtConfig) {c : Pool (TokenStore Hash) (Call Jwt Hash)}
    {p : Nat} (h : (c.locals p).mayIssue f) : CanIssue crypto config c f := by
  cases hl : c.locals p with
  | usable r user =>
    rw [hl] at h
    obtain ⟨rfl, hu⟩ := h
    exact canIssue_of_usable hl hu
  | issuing session =>
    rw [hl] at h
    cases h
    exact canIssue_of_issuing hl
  | creating session id token hash =>
    rw [hl] at h
    cases h
    exact canIssue_of_creating hl
  | _ =>
    rw [hl] at h
    exact h.elim

end

/-- A revocation of the session `f` is final exactly when, at the moment it runs, no
rotation of `f` stands between its claim and its insert. -/
theorem revocation_final_iff [DecidableEq Hash] (crypto : TokenCrypto Jwt Hash)
    (config : JwtConfig) (users : List User) (tenants : List Tenant) (now : Time)
    (is : List (Move (CallStep Jwt) (TokenEvent Jwt)))
    (c c₁ : Pool (TokenStore Hash) (Call Jwt Hash)) (i : Move (CallStep Jwt) (TokenEvent Jwt))
    (f : Uuid) (hr : (machine crypto config).run (init users tenants now) is = some c)
    (hv : Revokes crypto c i f) (hs : (machine crypto config).step c i = some c₁) :
    Dead crypto config c₁ f ↔ ∀ p, ¬ (c.locals p).mayIssue f := by
  have hc := outline_of_run hr
  have hsame := mayIssue_of_revokes hv hs
  constructor
  · intro hdead p hp
    obtain ⟨js, c', hj, hl⟩ := canIssue_of_mayIssue crypto config
      ((hsame p).mpr hp)
    rw [hdead js c' hj] at hl
    exact Nat.lt_irrefl 0 hl
  · intro hnone js c' hj
    have hc₁ := outline_valid.step c i c₁ hc trivial hs
    have hf : f ∈ c₁.shared.history.uuids := by
      obtain ⟨t, hm, rfl, -⟩ := hv
      exact uuids_step hc hs (hc.inv.sessions _ _ (hc.inv.known t hm).2)
    have hstart : (deadOutline f).Holds c₁ :=
      ⟨⟨hc₁.inv, live_zero_of_revokes hc.inv hv hs, hf⟩,
        fun p => ⟨hc₁.own p, fun hp => hnone p ((hsame p).mp hp)⟩, hc₁.pair⟩
    exact ((deadOutline_valid f).run hstart hj).inv.2.1

/-- One login and a rotation of its token that has claimed it and not yet inserted the
next one. -/
def claimedRotation : List (Move (CallStep PlainJwt) (TokenEvent PlainJwt)) :=
  [.act 0 (.login demoUser none none 10), .act 0 (.issue 11 0), .act 0 .next,
    .act 1 (.rotate demoToken none none), .act 1 .next, .act 1 .next, .act 1 .next]

/-- A logout that falls into this window commits, and the rotation goes on to insert a
live token. -/
theorem revocation_overtaken :
    ¬ ∀ (is : List (Move (CallStep PlainJwt) (TokenEvent PlainJwt)))
      (c c₁ : Pool (TokenStore (PlainJwt × Nat)) (Call PlainJwt (PlainJwt × Nat)))
      (i : Move (CallStep PlainJwt) (TokenEvent PlainJwt)) (f : Uuid),
      (machine plainCrypto plainConfig).run (init [demoUser] [] 0) is = some c →
      Revokes plainCrypto c i f → (machine plainCrypto plainConfig).step c i = some c₁ →
      Dead plainCrypto plainConfig c₁ f := by
  intro h
  have hdead := h claimedRotation _ _ (.env (.revokeToken demoToken)) 10 rfl
    ⟨_, List.mem_cons_self, rfl, rfl, rfl⟩ rfl
  have hlive := hdead [.act 1 .next, .act 1 (.issue 12 0), .act 1 .next] _ rfl
  revert hlive
  decide

/-- The same logout before the rotation's claim ends the session for good. -/
theorem revocation_final_before_claim :
    ∃ c c₁, (machine plainCrypto plainConfig).run (init [demoUser] [] 0)
        (claimedRotation.take 6) = some c ∧
      (machine plainCrypto plainConfig).step c (.env (.revokeToken demoToken)) = some c₁ ∧
      (Dead plainCrypto plainConfig c₁ 10 ↔ ∀ p, ¬ (c.locals p).mayIssue 10) :=
  ⟨_, _, rfl, rfl, revocation_final_iff plainCrypto plainConfig [demoUser] [] 0
    (claimedRotation.take 6) _ _ (.env (.revokeToken demoToken)) 10 rfl
    ⟨_, List.mem_cons_self, rfl, rfl, rfl⟩ rfl⟩

end TokenService
end OmniSupport.Auth
