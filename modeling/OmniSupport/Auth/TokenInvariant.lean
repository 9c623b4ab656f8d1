import OmniSupport.Auth.TokenStore

/-! The invariant of the stored tokens and its preservation by each statement. -/
namespace OmniSupport.Auth
open Foundation

variable {Hash : Type}

namespace TokenStore

structure Inv (s : TokenStore Hash) : Prop where
  ids : (s.refreshTokens.map RefreshToken.id).Nodup
  known : ∀ t ∈ s.refreshTokens, t.id ∈ s.history.uuids ∧ (t.familyId, t.userId) ∈ s.history.sessions
  sessions : ∀ f u, (f, u) ∈ s.history.sessions → f ∈ s.history.uuids
  owner : ∀ f u v, (f, u) ∈ s.history.sessions → (f, v) ∈ s.history.sessions → u = v
  live : ∀ f, s.live f ≤ 1
  claimed : s.history.claimed.Nodup
  claimedKnown : ∀ id ∈ s.history.claimed, id ∈ s.history.uuids
  claimedRevoked : ∀ t ∈ s.refreshTokens, t.id ∈ s.history.claimed → t.isRevoked = true

/-- No token appears or comes back to life: what every statement but the insert does. -/
structure Shrinks (s s' : TokenStore Hash) : Prop where
  rows : ∀ t' ∈ s'.refreshTokens, ∃ t ∈ s.refreshTokens, t.id = t'.id ∧ t.familyId = t'.familyId
  live : ∀ f, s'.live f ≤ s.live f
  uuids : s.history.uuids ⊆ s'.history.uuids
  sessions : s.history.sessions ⊆ s'.history.sessions
  claimed : ∀ id ∈ s'.history.claimed,
    id ∈ s.history.claimed ∨ ∃ t ∈ s.refreshTokens, t.id = id

theorem live_zero {s : TokenStore Hash} {f : Uuid} :
    s.live f = 0 ↔ ∀ t ∈ s.refreshTokens, t.familyId = f → t.isRevoked = true := by
  simp only [live, Table.count_eq_zero, not_and, Bool.not_eq_false]

theorem live_pos_of_mem {s : TokenStore Hash} {t : RefreshToken Hash}
    (hm : t ∈ s.refreshTokens) (hl : t.isRevoked = false) : 0 < s.live t.familyId :=
  Table.count_pos.mpr ⟨t, hm, rfl, hl⟩

theorem Inv.init (users : List User) (tenants : List Tenant) (now : Time) :
    (TokenStore.init users tenants now : TokenStore Hash).Inv := by
  constructor <;> simp [TokenStore.init, TokenStore.live, Table.count]

section
variable {s s' : TokenStore Hash}

/-- Steps that touch neither the tokens nor the history. -/
theorem Inv.frame (h : s.Inv) (hr : s'.refreshTokens = s.refreshTokens)
    (hh : s'.history = s.history) : s'.Inv := by
  obtain ⟨h₁, h₂, h₃, h₄, h₅, h₆, h₇, h₈⟩ := h
  constructor <;> simp only [TokenStore.live, hr, hh] <;> assumption

theorem Shrinks.frame (hr : s'.refreshTokens = s.refreshTokens) (hh : s'.history = s.history) :
    s.Shrinks s' := by
  constructor
  · intro t ht
    exact ⟨t, hr ▸ ht, rfl, rfl⟩
  · intro f
    simp [TokenStore.live, hr]
  · simp [hh]
  · simp [hh]
  · intro id hid
    exact Or.inl (hh ▸ hid)

theorem Shrinks.live_zero (h : s.Shrinks s') {f : Uuid} (hf : s.live f = 0) : s'.live f = 0 :=
  Nat.le_zero.mp (hf ▸ h.live f)

end

section
variable {p : RefreshToken Hash → Prop} [DecidablePred p] {reason : String}
  {s : TokenStore Hash}

theorem mem_revokeWhere {t' : RefreshToken Hash}
    (h : t' ∈ (s.revokeWhere p reason).refreshTokens) :
    ∃ t ∈ s.refreshTokens, t.id = t'.id ∧ t.familyId = t'.familyId ∧ t.userId = t'.userId ∧
      (t'.isRevoked = true ∨ t' = t ∧ ¬ p t) := by
  rcases Table.mem_updateMany.mp h with ⟨t, hm, -, rfl⟩ | ⟨hm, hp⟩
  · exact ⟨t, hm, rfl, rfl, rfl, Or.inl rfl⟩
  · refine ⟨t', hm, rfl, rfl, rfl, ?_⟩
    by_cases hl : t'.isRevoked = true
    · exact Or.inl hl
    · exact Or.inr ⟨rfl, fun hpt => hp ⟨hpt, by simpa using hl⟩⟩

theorem live_revokeWhere_le (f : Uuid) : (s.revokeWhere p reason).live f ≤ s.live f :=
  Table.count_updateMany_le fun t _ h => by simp [revoke] at h

theorem Shrinks.revokeWhere : s.Shrinks (s.revokeWhere p reason) where
  rows t' ht := by
    obtain ⟨t, hm, hid, hf, -⟩ := mem_revokeWhere ht
    exact ⟨t, hm, hid, hf⟩
  live := live_revokeWhere_le
  uuids := List.Subset.refl _
  sessions := List.Subset.refl _
  claimed _ h := Or.inl h

theorem Inv.revokeWhere (h : s.Inv) : (s.revokeWhere p reason).Inv where
  ids := by
    have hmap : (s.revokeWhere p reason).refreshTokens.map RefreshToken.id =
        s.refreshTokens.map RefreshToken.id := Table.map_updateMany fun _ => rfl
    rw [hmap]
    exact h.ids
  known t' ht := by
    obtain ⟨t, hm, hid, hf, hu, -⟩ := mem_revokeWhere ht
    rw [← hid, ← hf, ← hu]
    exact h.known t hm
  sessions := h.sessions
  owner := h.owner
  live f := (live_revokeWhere_le f).trans (h.live f)
  claimed := h.claimed
  claimedKnown := h.claimedKnown
  claimedRevoked t' ht hc := by
    obtain ⟨t, hm, hid, -, -, hr | ⟨rfl, -⟩⟩ := mem_revokeWhere ht
    · exact hr
    · exact h.claimedRevoked t' hm hc

end

section
variable {s : TokenStore Hash} {id : Uuid}

theorem exists_of_claimable (hc : s.claimable id) :
    ∃ t ∈ s.refreshTokens, t.id = id ∧ t.isRevoked = false := by
  have hpos : 0 < Table.count (fun t => t.id = id ∧ t.isRevoked = false) s.refreshTokens := by
    rw [hc]
    exact Nat.one_pos
  exact Table.count_pos.mp hpos

theorem Shrinks.claim (hc : s.claimable id) : s.Shrinks (s.claim id) where
  rows := Shrinks.revokeWhere.rows
  live := live_revokeWhere_le
  uuids := List.Subset.refl _
  sessions := List.Subset.refl _
  claimed i hi := by
    rcases List.mem_cons.mp hi with rfl | hi
    · obtain ⟨t, hm, hid, -⟩ := exists_of_claimable hc
      exact Or.inr ⟨t, hm, hid⟩
    · exact Or.inl hi

/-- A claimed token was live, so it had not been claimed before. -/
theorem Inv.claim (h : s.Inv) (hc : s.claimable id) : (s.claim id).Inv := by
  obtain ⟨t, hm, rfl, hl⟩ := exists_of_claimable hc
  have hr : (s.revokeWhere (fun r => r.id = t.id) "ROTATED").Inv := h.revokeWhere
  have hnew : t.id ∉ s.history.claimed := by
    intro hmem
    simp [h.claimedRevoked t hm hmem] at hl
  refine ⟨hr.ids, hr.known, h.sessions, h.owner, hr.live, ?_, ?_, ?_⟩
  · exact List.nodup_cons.mpr ⟨hnew, h.claimed⟩
  · intro i hi
    rcases List.mem_cons.mp hi with rfl | hi
    · exact (h.known t hm).1
    · exact h.claimedKnown i hi
  · intro r' hr' hi
    obtain ⟨r, hrm, hid, -, -, hrev | ⟨rfl, hne⟩⟩ := mem_revokeWhere hr'
    · exact hrev
    · rcases List.mem_cons.mp hi with he | hi
      · exact absurd he hne
      · exact h.claimedRevoked r' hrm hi

/-- The claim takes the one live token of its family. -/
theorem live_claim {f : Uuid} (h : s.Inv) (hc : s.claimable id)
    (hf : ∀ t ∈ s.refreshTokens, t.id = id → t.familyId = f) : (s.claim id).live f = 0 := by
  obtain ⟨t, hm, rfl, hl⟩ := exists_of_claimable hc
  have hlt : (s.claim t.id).live f < s.live f := by
    refine Table.count_updateMany_lt (r := t) ?_ hm ⟨rfl, hl⟩ ⟨hf t hm rfl, hl⟩ ?_
    · intro r _ hr
      simp [revoke] at hr
    · simp [revoke]
  have hone := h.live f
  omega

end

section
variable {s : TokenStore Hash}

theorem Shrinks.cleanup : s.Shrinks s.cleanupExpiredTokens where
  rows t ht := ⟨t, (Table.mem_deleteMany.mp ht).1, rfl, rfl⟩
  live _ := Table.count_deleteMany_le
  uuids := List.Subset.refl _
  sessions := List.Subset.refl _
  claimed _ h := Or.inl h

theorem Inv.cleanup (h : s.Inv) : s.cleanupExpiredTokens.Inv where
  ids := h.ids.sublist ((List.filter_sublist).map RefreshToken.id)
  known t ht := h.known t (Table.mem_deleteMany.mp ht).1
  sessions := h.sessions
  owner := h.owner
  live f := Table.count_deleteMany_le.trans (h.live f)
  claimed := h.claimed
  claimedKnown := h.claimedKnown
  claimedRevoked t ht := h.claimedRevoked t (Table.mem_deleteMany.mp ht).1

theorem Shrinks.drawUuid (id : Uuid) : s.Shrinks (s.drawUuid id) where
  rows t ht := ⟨t, ht, rfl, rfl⟩
  live _ := le_rfl
  uuids := List.subset_cons_self _ _
  sessions := List.Subset.refl _
  claimed _ h := Or.inl h

theorem Inv.drawUuid (h : s.Inv) (id : Uuid) : (s.drawUuid id).Inv where
  ids := h.ids
  known t ht := ⟨List.mem_cons_of_mem _ (h.known t ht).1, (h.known t ht).2⟩
  sessions f u hm := List.mem_cons_of_mem _ (h.sessions f u hm)
  owner := h.owner
  live := h.live
  claimed := h.claimed
  claimedKnown i hi := List.mem_cons_of_mem _ (h.claimedKnown i hi)
  claimedRevoked := h.claimedRevoked

theorem Shrinks.openSession (f u : Uuid) : s.Shrinks (s.openSession f u) where
  rows t ht := ⟨t, ht, rfl, rfl⟩
  live _ := le_rfl
  uuids := List.subset_cons_self _ _
  sessions := List.subset_cons_self _ _
  claimed _ h := Or.inl h

theorem Inv.openSession (h : s.Inv) {f : Uuid} (hf : f ∉ s.history.uuids) (u : Uuid) :
    (s.openSession f u).Inv where
  ids := h.ids
  known t ht := ⟨List.mem_cons_of_mem _ (h.known t ht).1, List.mem_cons_of_mem _ (h.known t ht).2⟩
  sessions g v hm := by
    rcases List.mem_cons.mp hm with he | hm
    · cases he
      exact List.mem_cons_self
    · exact List.mem_cons_of_mem _ (h.sessions g v hm)
  owner g v w hv hw := by
    have hfresh : ∀ x, (f, x) ∉ s.history.sessions := fun x hx => hf (h.sessions f x hx)
    rcases List.mem_cons.mp hv with he | hv <;> rcases List.mem_cons.mp hw with he' | hw
    · cases he
      cases he'
      rfl
    · cases he
      exact absurd hw (hfresh w)
    · cases he'
      exact absurd hv (hfresh v)
    · exact h.owner g v w hv hw
  live := h.live
  claimed := h.claimed
  claimedKnown i hi := List.mem_cons_of_mem _ (h.claimedKnown i hi)
  claimedRevoked := h.claimedRevoked

theorem live_insert (t : RefreshToken Hash) (f : Uuid) :
    (s.insert t).live f = s.live f + if t.familyId = f ∧ t.isRevoked = false then 1 else 0 := by
  by_cases h : t.familyId = f ∧ t.isRevoked = false <;>
    simp [TokenStore.live, TokenStore.insert, Table.count, h]

/-- The insert is safe when its family has no live token and its id was never claimed. -/
theorem Inv.insert (h : s.Inv) {t : RefreshToken Hash} (hid : ∀ r ∈ s.refreshTokens, r.id ≠ t.id)
    (hknown : t.id ∈ s.history.uuids) (hses : (t.familyId, t.userId) ∈ s.history.sessions)
    (hlive : s.live t.familyId = 0) (hnew : t.id ∉ s.history.claimed) : (s.insert t).Inv where
  ids := by
    refine List.nodup_cons.mpr ⟨fun hm => ?_, h.ids⟩
    obtain ⟨r, hr, he⟩ := List.mem_map.mp hm
    exact hid r hr he
  known r hr := by
    rcases List.mem_cons.mp hr with rfl | hr
    · exact ⟨hknown, hses⟩
    · exact h.known r hr
  sessions := h.sessions
  owner := h.owner
  live f := by
    rw [live_insert]
    have hone := h.live f
    by_cases hf : t.familyId = f ∧ t.isRevoked = false
    · rw [if_pos hf]
      rw [hf.1] at hlive
      omega
    · rw [if_neg hf]
      exact hone
  claimed := h.claimed
  claimedKnown := h.claimedKnown
  claimedRevoked r hr hc := by
    rcases List.mem_cons.mp hr with rfl | hr
    · exact absurd hc hnew
    · exact h.claimedRevoked r hr hc

end
end TokenStore
end OmniSupport.Auth
