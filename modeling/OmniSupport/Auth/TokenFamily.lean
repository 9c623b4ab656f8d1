import OmniSupport.Auth.TokenInvariant
import OmniSupport.Auth.TokenService

/-! Token families: at most one live token each, in every interleaving. The argument is
an outline: a family whose next token is still to be inserted has no live row, and no two
calls are about to insert into one family. -/
namespace OmniSupport.Auth
open Foundation

variable {Jwt Hash : Type}

namespace Call

/-- The family and the user a call acts for. -/
def session : Call Jwt Hash → Option (Uuid × Uuid)
  | .checking r .. | .claiming r .. | .usable r _ => some (r.payload.familyId, r.payload.sub)
  | .issuing session | .creating session .. => some (session.familyId, session.userId)
  | .idle | .finding _ | .revoking .. | .finished _ => none

/-- The token a rotation has read and not yet claimed. -/
def snapshot : Call Jwt Hash → Option Uuid
  | .checking _ stored _ | .claiming _ stored _ => some stored.id
  | _ => none

/-- The family a call still has to insert a token into. -/
def pending : Call Jwt Hash → Option Uuid
  | .usable r _ => some r.payload.familyId
  | .issuing session | .creating session .. => some session.familyId
  | _ => none

def newId : Call Jwt Hash → Option Uuid
  | .creating _ tokenId .. => some tokenId
  | _ => none

end Call

theorem Call.session_of_pending {l : Call Jwt Hash} {f : Uuid} (h : l.pending = some f) :
    ∃ u, l.session = some (f, u) := by
  cases l with
  | usable r user =>
    cases h
    exact ⟨_, rfl⟩
  | issuing session =>
    cases h
    exact ⟨_, rfl⟩
  | creating session id token hash =>
    cases h
    exact ⟨_, rfl⟩
  | _ => cases h

/-- What a call knows about the store at any point of its run. -/
structure Call.Own (l : Call Jwt Hash) (s : TokenStore Hash) : Prop where
  session : ∀ f u, l.session = some (f, u) → (f, u) ∈ s.history.sessions
  snapshot : ∀ id, l.snapshot = some id → id ∈ s.history.uuids
  family : ∀ id f u, l.snapshot = some id → l.session = some (f, u) →
    ∀ t ∈ s.refreshTokens, t.id = id → t.familyId = f
  pending : ∀ f, l.pending = some f → s.live f = 0
  newId : ∀ id, l.newId = some id →
    id ∈ s.history.uuids ∧ id ∉ s.history.claimed ∧ ∀ t ∈ s.refreshTokens, t.id ≠ id

/-- What two calls in flight never share. -/
structure Call.Apart (l k : Call Jwt Hash) : Prop where
  pending : ∀ f, l.pending = some f → k.pending ≠ some f
  newId : ∀ id, l.newId = some id → k.newId ≠ some id ∧ k.snapshot ≠ some id
  snapshot : ∀ id, l.snapshot = some id → k.newId ≠ some id

theorem Call.Apart.symm {l k : Call Jwt Hash} (h : l.Apart k) : k.Apart l where
  pending f hk hl := h.pending f hl hk
  newId id hk := ⟨fun hl => (h.newId id hl).1 hk, fun hl => h.snapshot id hl hk⟩
  snapshot id hk hl := (h.newId id hl).2 hk

section
variable {l l' k : Call Jwt Hash} {s s' : TokenStore Hash}

/-- Every statement but the insert leaves what a call knows true. -/
theorem Call.Own.shrinks (h : l.Own s) (hs : s.Shrinks s') : l.Own s' where
  session f u hl := hs.sessions (h.session f u hl)
  snapshot id hl := hs.uuids (h.snapshot id hl)
  family id f u hi hl t' ht' he := by
    obtain ⟨t, ht, hti, htf⟩ := hs.rows t' ht'
    rw [← htf]
    exact h.family id f u hi hl t ht (hti.trans he)
  pending f hl := hs.live_zero (h.pending f hl)
  newId id hl := by
    obtain ⟨hid, hnew, hrows⟩ := h.newId id hl
    refine ⟨hs.uuids hid, fun hc => ?_, fun t' ht' he => ?_⟩
    · rcases hs.claimed id hc with hc | ⟨t, ht, he⟩
      · exact hnew hc
      · exact hrows t ht he
    · obtain ⟨t, ht, hti, -⟩ := hs.rows t' ht'
      exact hrows t ht (hti.trans he)

/-- What one step of a call owes: the invariant, its own assertion, and that it leaves
every other call's assertion and its distance to the caller alone. -/
structure Call.Keeps (s : TokenStore Hash) (l : Call Jwt Hash) (s' : TokenStore Hash)
    (l' : Call Jwt Hash) : Prop where
  inv : s'.Inv
  own : l'.Own s'
  uuids : s.history.uuids ⊆ s'.history.uuids
  others : ∀ k : Call Jwt Hash, k.Own s → l.Apart k → k.Own s'
  apart : ∀ k : Call Jwt Hash, s.Inv → k.Own s → l.Apart k → l'.Apart k

theorem Call.Keeps.of_shrinks (hs : s.Shrinks s') (hinv : s'.Inv) (hown : l'.Own s')
    (hapart : ∀ k : Call Jwt Hash, s.Inv → k.Own s → l.Apart k → l'.Apart k) :
    Call.Keeps s l s' l' :=
  ⟨hinv, hown, hs.uuids, fun _ hk _ => hk.shrinks hs, hapart⟩

/-- A step after which the call has nothing at stake any more. -/
theorem Call.Keeps.release (hs : s.Shrinks s') (hinv : s'.Inv)
    (h₁ : l'.session = none) (h₂ : l'.snapshot = none) (h₃ : l'.pending = none)
    (h₄ : l'.newId = none) : Call.Keeps s l s' l' := by
  refine Call.Keeps.of_shrinks hs hinv ?_ fun k _ _ _ => ?_
  · constructor <;> simp [h₁, h₂, h₃, h₄]
  · constructor <;> simp [h₂, h₃, h₄]

end

section
variable {s : TokenStore Hash} {f u : Uuid}

theorem TokenStore.findTokenById_spec {id : Uuid} {t : RefreshToken Hash} {user : User}
    (h : s.findTokenById id u f = some (t, user)) :
    t ∈ s.refreshTokens ∧ t.familyId = f ∧ t.userId = u := by
  unfold TokenStore.findTokenById at h
  split at h
  · simp at h
  · rename_i r hr
    split at h
    · simp at h
    · rename_i hne
      rw [not_or, not_not, not_not] at hne
      obtain ⟨v, -, hv⟩ := Option.map_eq_some_iff.mp h
      cases hv
      exact ⟨List.mem_of_find?_eq_some hr, hne.2, hne.1⟩

theorem TokenStore.findLegacyActiveToken_spec {t : RefreshToken Hash} {user : User}
    (h : s.findLegacyActiveToken u f = some (t, user)) :
    t ∈ s.refreshTokens ∧ t.familyId = f ∧ t.userId = u := by
  unfold TokenStore.findLegacyActiveToken at h
  dsimp only at h
  split at h
  · simp at h
  · rename_i newest rest hl
    obtain ⟨v, -, hv⟩ := Option.map_eq_some_iff.mp h
    cases hv
    have hmem : ∀ r ∈ newest :: rest, r ∈ s.refreshTokens ∧ r.familyId = f ∧ r.userId = u := by
      intro r hr
      rw [← hl, List.mem_insertionSort, List.mem_filter] at hr
      simpa using hr
    apply hmem
    rw [hl]
    cases hfind : (newest :: rest).find? fun t => !t.isRevoked with
    | none => exact List.mem_cons_self
    | some r => exact List.mem_of_find?_eq_some hfind

theorem TokenService.findStored_spec {payload : RefreshTokenPayload} {t : RefreshToken Hash}
    {user : User} (h : findStored s payload = some (t, user)) :
    t ∈ s.refreshTokens ∧ t.familyId = payload.familyId ∧ t.userId = payload.sub := by
  unfold findStored at h
  split at h
  · exact TokenStore.findTokenById_spec h
  · exact TokenStore.findLegacyActiveToken_spec h

end

namespace TokenService

section
variable {crypto : TokenCrypto Jwt Hash} {config : JwtConfig}
  {s s' : TokenStore Hash} {l l' : Call Jwt Hash}

/-- The check of the stored token ends the call, starts a family revocation or goes on to
the claim with the same token. -/
theorem checkStored_cases (crypto : TokenCrypto Jwt Hash) (r : Rotation Jwt)
    (stored : RefreshToken Hash) (user : User)
    (now : Time) :
    (∃ e, checkStored crypto r stored user now = .finished (.error e)) ∨
    (∃ e, checkStored crypto r stored user now =
      .revoking stored.familyId "TOKEN_REUSE_DETECTED" e) ∨
    (stored.isRevoked = false ∧ checkStored crypto r stored user now = .claiming r stored user) := by
  unfold checkStored handleRevokedTokenUse
  split
  · split
    · exact Or.inl ⟨_, rfl⟩
    · exact Or.inr (Or.inl ⟨_, rfl⟩)
  · rename_i hlive
    split
    · exact Or.inl ⟨_, rfl⟩
    · split
      · exact Or.inl ⟨_, rfl⟩
      · exact Or.inr (Or.inr ⟨by simpa using hlive, rfl⟩)

theorem keeps_finding [DecidableEq Hash] {r : Rotation Jwt} (hinv : s.Inv)
    (hn : next crypto config s (.finding r) = some (s', l')) :
    Call.Keeps s (.finding r) s' l' := by
  simp only [next] at hn
  split at hn <;> cases hn
  · exact Call.Keeps.release (.frame rfl rfl) hinv rfl rfl rfl rfl
  · rename_i stored user hfound
    obtain ⟨hm, hf, hu⟩ := findStored_spec hfound
    refine Call.Keeps.of_shrinks (.frame rfl rfl) hinv ?_ fun k hs hk _ => ?_
    · refine ⟨?_, ?_, ?_, by simp [Call.pending], by simp [Call.newId]⟩
      · intro f u he
        cases he
        rw [← hf, ← hu]
        exact (hinv.known stored hm).2
      · intro id hid
        cases hid
        exact (hinv.known stored hm).1
      · intro id f u hid he t ht htid
        cases hid
        cases he
        rw [List.inj_on_of_nodup_map hinv.ids ht hm htid, hf]
    · refine ⟨by simp [Call.pending], by simp [Call.newId], fun id hid hnew => ?_⟩
      cases hid
      exact (hk.newId _ hnew).2.2 stored hm rfl

theorem keeps_checking [DecidableEq Hash] {r : Rotation Jwt} {stored : RefreshToken Hash} {user : User}
    (hinv : s.Inv) (hown : (Call.checking r stored user : Call Jwt Hash).Own s)
    (hn : next crypto config s (.checking r stored user) = some (s', l')) :
    Call.Keeps s (.checking r stored user) s' l' := by
  simp only [next, Option.some.injEq, Prod.mk.injEq] at hn
  obtain ⟨rfl, rfl⟩ := hn
  rcases checkStored_cases crypto r stored user s.now with ⟨e, he⟩ | ⟨e, he⟩ | ⟨-, he⟩ <;>
    rw [he]
  · exact Call.Keeps.release (.frame rfl rfl) hinv rfl rfl rfl rfl
  · exact Call.Keeps.release (.frame rfl rfl) hinv rfl rfl rfl rfl
  · exact Call.Keeps.of_shrinks (.frame rfl rfl) hinv
      ⟨hown.session, hown.snapshot, hown.family, hown.pending, hown.newId⟩
      fun k _ _ hk => ⟨hk.pending, hk.newId, hk.snapshot⟩

theorem keeps_claiming [DecidableEq Hash] {r : Rotation Jwt} {stored : RefreshToken Hash} {user : User}
    (hinv : s.Inv) (hown : (Call.claiming r stored user : Call Jwt Hash).Own s)
    (hn : next crypto config s (.claiming r stored user) = some (s', l')) :
    Call.Keeps s (.claiming r stored user) s' l' := by
  simp only [next] at hn
  split at hn <;> cases hn
  · rename_i hc
    have hfam := hown.family stored.id r.payload.familyId r.payload.sub rfl rfl
    refine Call.Keeps.of_shrinks (.claim hc) (hinv.claim hc) ?_ fun k hs hk _ => ?_
    · refine ⟨fun f u he => hown.session f u he, by simp [Call.snapshot], by simp [Call.snapshot],
        fun f he => ?_, by simp [Call.newId]⟩
      cases he
      exact TokenStore.live_claim hinv hc hfam
    · -- a call pending in this family would mean the claimed token was already dead
      refine ⟨fun f he hpend => ?_, by simp [Call.newId], by simp [Call.snapshot]⟩
      cases he
      obtain ⟨t, hm, hid, hl⟩ := TokenStore.exists_of_claimable hc
      have hpos := TokenStore.live_pos_of_mem hm hl
      rw [hfam t hm hid, hk.pending _ hpend] at hpos
      exact Nat.lt_irrefl 0 hpos
  · exact Call.Keeps.release (.frame rfl rfl) hinv rfl rfl rfl rfl

theorem keeps_usable [DecidableEq Hash] {r : Rotation Jwt} {user : User}
    (hinv : s.Inv) (hown : (Call.usable r user : Call Jwt Hash).Own s)
    (hn : next crypto config s (.usable r user) = some (s', l')) :
    Call.Keeps s (.usable r user) s' l' := by
  simp only [next] at hn
  split at hn <;> cases hn
  · exact Call.Keeps.release (.frame rfl rfl) hinv rfl rfl rfl rfl
  · exact Call.Keeps.of_shrinks (.frame rfl rfl) hinv
      ⟨hown.session, by simp [Call.snapshot], by simp [Call.snapshot], hown.pending,
        by simp [Call.newId]⟩
      fun k _ _ hk => ⟨hk.pending, by simp [Call.newId], by simp [Call.snapshot]⟩

theorem keeps_creating [DecidableEq Hash] {session : Session} {id : Uuid} {token : Jwt} {hash : Hash}
    (hinv : s.Inv) (hown : (Call.creating session id token hash).Own s)
    (hn : next crypto config s (.creating session id token hash) = some (s', l')) :
    Call.Keeps s (.creating session id token hash) s' l' := by
  simp only [next] at hn
  split at hn <;> cases hn
  · rename_i hok
    obtain ⟨hid, hnew, -⟩ := hown.newId id rfl
    have hlive := hown.pending session.familyId rfl
    refine ⟨hinv.insert (fun t ht => (hok.1 t ht).1) hid (hown.session _ _ rfl) hlive hnew, ?_,
      List.Subset.refl _, ?_, ?_⟩
    · constructor <;> simp [Call.session, Call.snapshot, Call.pending, Call.newId]
    · intro k hk ha
      refine ⟨hk.session, hk.snapshot, fun i f u hi hf t ht he => ?_, fun f hf => ?_,
        fun i hi => ?_⟩
      · rcases List.mem_cons.mp ht with rfl | ht
        · cases he
          exact absurd hi (ha.newId id rfl).2
        · exact hk.family i f u hi hf t ht he
      · have hne : session.familyId ≠ f := fun he => ha.pending f (by simp [Call.pending, he]) hf
        rw [TokenStore.live_insert, hk.pending f hf]
        simp [newRow, hne]
      · obtain ⟨hiu, hic, hrows⟩ := hk.newId i hi
        refine ⟨hiu, hic, fun t ht he => ?_⟩
        rcases List.mem_cons.mp ht with rfl | ht
        · cases he
          exact (ha.newId id rfl).1 hi
        · exact hrows t ht he
    · intro k _ _ _
      constructor <;> simp [Call.pending, Call.newId, Call.snapshot]
  · exact Call.Keeps.release (.frame rfl rfl) hinv rfl rfl rfl rfl

theorem keeps_next [DecidableEq Hash] (hinv : s.Inv) (hown : l.Own s)
    (hn : next crypto config s l = some (s', l')) : Call.Keeps s l s' l' := by
  cases l with
  | idle => simp [next] at hn
  | finding r => exact keeps_finding hinv hn
  | checking r stored user => exact keeps_checking hinv hown hn
  | claiming r stored user => exact keeps_claiming hinv hown hn
  | usable r user => exact keeps_usable hinv hown hn
  | issuing session => simp [next] at hn
  | creating session id token hash => exact keeps_creating hinv hown hn
  | revoking f reason e =>
    cases hn
    exact Call.Keeps.release .revokeWhere hinv.revokeWhere rfl rfl rfl rfl
  | finished result => simp [next] at hn

theorem keeps_fail (hinv : s.Inv) (hn : fail s l = some (s', l')) : Call.Keeps s l s' l' := by
  cases l with
  | idle => simp [fail] at hn
  | finished result => simp [fail] at hn
  | usable r user =>
    simp only [fail] at hn
    split at hn <;> cases hn
    exact Call.Keeps.release (.frame rfl rfl) hinv rfl rfl rfl rfl
  | _ =>
    cases hn
    exact Call.Keeps.release (.frame rfl rfl) hinv rfl rfl rfl rfl

theorem keeps_issue {id : Uuid} {salt : Nat} (hinv : s.Inv) (hown : l.Own s)
    (hn : issue crypto s id salt l = some (s', l')) : Call.Keeps s l s' l' := by
  cases l with
  | issuing session =>
    simp only [issue] at hn
    split at hn <;> cases hn
    rename_i hfresh
    refine Call.Keeps.of_shrinks (.drawUuid id) (hinv.drawUuid id) ?_ fun k hs hk ha => ?_
    · refine ⟨hown.session, by simp [Call.snapshot], by simp [Call.snapshot], hown.pending,
        fun i hi => ?_⟩
      cases hi
      exact ⟨List.mem_cons_self, fun hc => hfresh (hinv.claimedKnown _ hc),
        fun t ht he => hfresh (he ▸ (hinv.known t ht).1)⟩
    · refine ⟨ha.pending, fun i hi => ?_, by simp [Call.snapshot]⟩
      cases hi
      exact ⟨fun hn => hfresh (hk.newId _ hn).1, fun hn => hfresh (hk.snapshot _ hn)⟩
  | _ => simp [issue] at hn

theorem keeps_start {step : CallStep Jwt} (hinv : s.Inv)
    (hn : start crypto s step = some (s', l')) : Call.Keeps s .idle s' l' := by
  cases step with
  | login user ip agent f =>
    simp only [start] at hn
    split at hn <;> cases hn
    rename_i hfresh
    have hdead : s.live f = 0 := TokenStore.live_zero.mpr fun t ht he =>
      absurd (he ▸ hinv.sessions _ _ (hinv.known t ht).2) hfresh
    refine Call.Keeps.of_shrinks (.openSession f user.id) (hinv.openSession hfresh user.id) ?_
      fun k hs hk _ => ?_
    · refine ⟨fun g u he => ?_, by simp [Call.snapshot], by simp [Call.snapshot], fun g he => ?_,
        by simp [Call.newId]⟩
      · cases he
        exact List.mem_cons_self
      · cases he
        exact hdead
    · refine ⟨fun g he hg => ?_, by simp [Call.newId], by simp [Call.snapshot]⟩
      cases he
      obtain ⟨u, hu⟩ := Call.session_of_pending hg
      exact hfresh (hs.sessions f u (hk.session f u hu))
  | rotate token ip agent =>
    simp only [start] at hn
    split at hn <;> cases hn <;>
      exact Call.Keeps.release (.frame rfl rfl) hinv rfl rfl rfl rfl
  | issue id salt => simp [start] at hn
  | next => simp [start] at hn
  | fail => simp [start] at hn

theorem keeps_act [DecidableEq Hash] {step : CallStep Jwt} (hinv : s.Inv) (hown : l.Own s)
    (hn : act crypto config s l step = some (s', l')) : Call.Keeps s l s' l' := by
  cases step with
  | next => exact keeps_next hinv hown hn
  | fail => exact keeps_fail hinv hn
  | issue id salt => exact keeps_issue hinv hown hn
  | login user ip agent f =>
    cases l with
    | idle =>
      have hs : start crypto s (.login user ip agent f) = some (s', l') := hn
      exact keeps_start hinv hs
    | _ => simp [act] at hn
  | rotate token ip agent =>
    cases l with
    | idle =>
      have hs : start crypto s (.rotate token ip agent) = some (s', l') := hn
      exact keeps_start hinv hs
    | _ => simp [act] at hn

/-- No event creates a token. -/
theorem event_shrinks (crypto : TokenCrypto Jwt Hash) (s : TokenStore Hash) (e : TokenEvent Jwt) :
    s.Shrinks (event crypto s e) := by
  cases e with
  | revokeToken token =>
    simp only [event]
    split
    · exact .frame rfl rfl
    · exact .revokeWhere
  | revokeAllUserTokens u reason => exact .revokeWhere
  | revokeAllTenantTokens t reason => exact .revokeWhere
  | cleanupExpiredTokens => exact .cleanup
  | _ => exact .frame rfl rfl

theorem event_inv (e : TokenEvent Jwt) (h : s.Inv) : (event crypto s e).Inv := by
  cases e with
  | revokeToken token =>
    simp only [event]
    split
    · exact h
    · exact h.revokeWhere
  | revokeAllUserTokens u reason => exact h.revokeWhere
  | revokeAllTenantTokens t reason => exact h.revokeWhere
  | cleanupExpiredTokens => exact h.cleanup
  | _ => exact h.frame rfl rfl

abbrev outline : Program.Outline (TokenStore Hash) (Call Jwt Hash) where
  inv := TokenStore.Inv
  own _ := Call.Own
  pair := Call.Apart

theorem outline_valid [DecidableEq Hash] :
    (outline : Program.Outline (TokenStore Hash) (Call Jwt Hash)).Valid (program crypto config)
      fun _ _ => True where
  symm _ _ := Call.Apart.symm
  act c p step s l h _ hn := by
    have hk := keeps_act h.inv (h.own p) hn
    exact ⟨hk.inv, hk.own⟩
  others c p step s l h _ hn q hq := by
    have hk := keeps_act h.inv (h.own p) hn
    have ha := h.pair p q (Ne.symm hq)
    exact ⟨hk.others _ (h.own q) ha, hk.apart _ h.inv (h.own q) ha⟩
  env c e s h _ he := by
    cases he
    exact ⟨event_inv e h.inv, fun q => (h.own q).shrinks (event_shrinks crypto c.shared e)⟩

theorem uuids_step [DecidableEq Hash] {c c' : Pool (TokenStore Hash) (Call Jwt Hash)}
    {i : Move (CallStep Jwt) (TokenEvent Jwt)} (h : outline.Holds c)
    (hs : (machine crypto config).step c i = some c') :
    c.shared.history.uuids ⊆ c'.shared.history.uuids := by
  cases i with
  | env e =>
    obtain ⟨s, he, rfl⟩ := (program crypto config).step_env.mp hs
    cases he
    exact (event_shrinks crypto c.shared e).uuids
  | act p step =>
    obtain ⟨s, l, ha, rfl⟩ := (program crypto config).step_act.mp hs
    exact (keeps_act h.inv (h.own p) ha).uuids

theorem outline_init (users : List User) (tenants : List Tenant) (now : Time) :
    (outline : Program.Outline (TokenStore Hash) (Call Jwt Hash)).Holds
      (init users tenants now) where
  inv := .init users tenants now
  own p := by
    constructor <;> simp [init, Call.session, Call.snapshot, Call.pending, Call.newId]
  pair p q _ := by
    constructor <;> simp [init, Call.snapshot, Call.pending, Call.newId]

/-- The outline holds in every state any interleaving reaches. -/
theorem outline_of_run [DecidableEq Hash] {users : List User} {tenants : List Tenant} {now : Time}
    {is : List (Move (CallStep Jwt) (TokenEvent Jwt))} {c : Pool (TokenStore Hash) (Call Jwt Hash)}
    (hr : (machine crypto config).run (init users tenants now) is = some c) :
    (outline : Program.Outline (TokenStore Hash) (Call Jwt Hash)).Holds c :=
  outline_valid.run (outline_init users tenants now) hr

/-- In every reachable state each family has at most one live token, and no stored token
was claimed for rotation twice. -/
theorem family_at_most_one_live [DecidableEq Hash] (crypto : TokenCrypto Jwt Hash) (config : JwtConfig)
    (users : List User) (tenants : List Tenant) (now : Time)
    (is : List (Move (CallStep Jwt) (TokenEvent Jwt))) (c : Pool (TokenStore Hash) (Call Jwt Hash))
    (hr : (machine crypto config).run (init users tenants now) is = some c) :
    (∀ familyId, c.shared.live familyId ≤ 1) ∧ c.shared.history.claimed.Nodup := by
  have h := (outline_of_run hr).inv
  exact ⟨h.live, h.claimed⟩

end

/-- A token that shows its claims and the time it was signed. -/
inductive PlainJwt where
  | refresh (payload : RefreshTokenPayload) (issuedAt : Time)
  | access (payload : AccessTokenPayload) (issuedAt : Time)
  deriving DecidableEq

/-- Signing that hides nothing, and a hash that keeps the token and its salt. -/
def plainCrypto : TokenCrypto PlainJwt (PlainJwt × Nat) where
  signRefresh := .refresh
  verifyRefresh
    | .refresh payload issuedAt, now =>
      if issuedAt + 2592000000 ≤ now then .error .expired else .ok payload
    | .access .., _ => .error .invalid
  signAccess := .access
  hash token salt := (token, salt)
  verifyHash hash token := hash.1 = token

def plainConfig : JwtConfig := ⟨900, 2592000000⟩

def demoUser : User := { (default : User) with id := 1, email := "ann@example.com" }

/-- The token of the session `10` that `demoUser` opens with token id `11` at time `0`. -/
def demoToken : PlainJwt := .refresh ⟨1, 10, .refresh, some 11⟩ 0

/-- Two rotations of one token, a logout between their claims. -/
def demoRun : List (Move (CallStep PlainJwt) (TokenEvent PlainJwt)) :=
  [.act 0 (.login demoUser none none 10), .act 0 (.issue 11 0), .act 0 .next,
    .act 1 (.rotate demoToken none none), .act 2 (.rotate demoToken none none),
    .act 1 .next, .act 2 .next, .act 1 .next, .act 2 .next, .act 1 .next,
    .env (.revokeToken demoToken), .act 2 .next, .act 1 .next, .act 1 (.issue 12 0), .act 1 .next]

theorem family_at_most_one_live_demo :
    ∃ c, (machine plainCrypto plainConfig).run (init [demoUser] [] 0) demoRun = some c ∧
      (∀ familyId, c.shared.live familyId ≤ 1) ∧ c.shared.history.claimed.Nodup := by
  have hsome : ((machine plainCrypto plainConfig).run (init [demoUser] [] 0) demoRun).isSome := by
    decide
  obtain ⟨c, hc⟩ := Option.isSome_iff_exists.mp hsome
  exact ⟨c, hc, family_at_most_one_live plainCrypto plainConfig [demoUser] [] 0 demoRun c hc⟩

end TokenService
end OmniSupport.Auth
