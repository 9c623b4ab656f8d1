import OmniSupport.Foundation.Table

/-! Tables with a key column along a run: the keys drawn so far, what one step of a system
may do to the rows, and the statements of SQL as such steps. -/
namespace Foundation.Table
variable {ρ κ : Type*}

/-- Keys are unique, and each was drawn before its row was stored. -/
structure Keyed (key : ρ → κ) (rows : List ρ) (drawn : List κ) : Prop where
  nodup : (rows.map key).Nodup
  known : ∀ r ∈ rows, key r ∈ drawn

/-- The rows move along `T`, less some that may go, plus new ones under keys never drawn
before. -/
structure Moved (key : ρ → κ) (T : ρ → ρ → Prop) (gone new : ρ → Prop) (rows : List ρ)
    (drawn : List κ) (rows' : List ρ) (drawn' : List κ) : Prop where
  keyed : Keyed key rows' drawn'
  grows : drawn ⊆ drawn'
  kept : ∀ r ∈ rows, gone r ∨ ∃ r' ∈ rows', T r r'
  source : ∀ r' ∈ rows', (∃ r ∈ rows, T r r') ∨ (key r' ∉ drawn ∧ new r')

section
variable {key : ρ → κ} {T : ρ → ρ → Prop} {gone new : ρ → Prop} {rows rows' : List ρ}
  {drawn drawn' : List κ} {p : ρ → Prop} [DecidablePred p] {f : ρ → ρ} {r : ρ} {k : κ}

theorem Keyed.eq (h : Keyed key rows drawn) {r' : ρ} (hr : r ∈ rows) (hr' : r' ∈ rows)
    (he : key r = key r') : r = r' :=
  List.inj_on_of_nodup_map h.nodup hr hr' he

theorem Keyed.updateMany (h : Keyed key rows drawn) (hkey : ∀ r, key (f r) = key r) :
    Keyed key (updateMany p f rows) drawn := by
  refine ⟨by rw [map_updateMany hkey]; exact h.nodup, fun r' hr' => ?_⟩
  rcases mem_updateMany.mp hr' with ⟨r, hr, -, rfl⟩ | ⟨hr, -⟩
  · rw [hkey]
    exact h.known r hr
  · exact h.known r' hr

theorem Keyed.deleteMany (h : Keyed key rows drawn) : Keyed key (deleteMany p rows) drawn :=
  ⟨h.nodup.sublist ((List.filter_sublist).map key), fun r hr => h.known r (mem_deleteMany.mp hr).1⟩

theorem Keyed.insert (h : Keyed key rows drawn) (hnew : ∀ r' ∈ rows, key r' ≠ key r) :
    Keyed key (rows ++ [r]) (key r :: drawn) := by
  refine ⟨nodup_insert h.nodup hnew, fun r' hr' => ?_⟩
  rcases List.mem_append.mp hr' with hold | hlast
  · exact List.mem_cons_of_mem _ (h.known r' hold)
  · rw [List.mem_singleton.mp hlast]
    exact List.mem_cons_self

theorem Moved.refl (h : Keyed key rows drawn) (hT : ∀ r, T r r) :
    Moved key T gone new rows drawn rows drawn where
  keyed := h
  grows := List.Subset.refl _
  kept r hr := Or.inr ⟨r, hr, hT r⟩
  source r hr := Or.inl ⟨r, hr, hT r⟩

theorem Moved.updateMany (h : Keyed key rows drawn) (hT : ∀ r, T r r)
    (hkey : ∀ r, key (f r) = key r) (hf : ∀ r ∈ rows, p r → T r (f r)) :
    Moved key T gone new rows drawn (updateMany p f rows) drawn where
  keyed := h.updateMany hkey
  grows := List.Subset.refl _
  kept r hr := by
    by_cases hp : p r
    · exact Or.inr ⟨f r, mem_updateMany.mpr (Or.inl ⟨r, hr, hp, rfl⟩), hf r hr hp⟩
    · exact Or.inr ⟨r, mem_updateMany.mpr (Or.inr ⟨hr, hp⟩), hT r⟩
  source r' hr' := by
    rcases mem_updateMany.mp hr' with ⟨r, hr, hp, rfl⟩ | ⟨hr, -⟩
    · exact Or.inl ⟨r, hr, hf r hr hp⟩
    · exact Or.inl ⟨r', hr, hT r'⟩

theorem Moved.deleteMany (h : Keyed key rows drawn) (hT : ∀ r, T r r)
    (hgone : ∀ r ∈ rows, p r → gone r) :
    Moved key T gone new rows drawn (deleteMany p rows) drawn where
  keyed := h.deleteMany
  grows := List.Subset.refl _
  kept r hr := by
    by_cases hp : p r
    · exact Or.inl (hgone r hr hp)
    · exact Or.inr ⟨r, mem_deleteMany.mpr ⟨hr, hp⟩, hT r⟩
  source r hr := Or.inl ⟨r, (mem_deleteMany.mp hr).1, hT r⟩

theorem Moved.insert (h : Keyed key rows drawn) (hT : ∀ r, T r r) (hfresh : key r ∉ drawn)
    (hnew : new r) : Moved key T gone new rows drawn (rows ++ [r]) (key r :: drawn) where
  keyed := h.insert fun r₀ hr₀ hsame => hfresh (hsame ▸ h.known r₀ hr₀)
  grows := List.subset_cons_self _ _
  kept r₀ hr₀ := Or.inr ⟨r₀, List.mem_append_left _ hr₀, hT r₀⟩
  source r' hr' := by
    rcases List.mem_append.mp hr' with h' | h'
    · exact Or.inl ⟨r', h', hT r'⟩
    · rw [List.mem_singleton.mp h']
      exact Or.inr ⟨hfresh, hnew⟩

/-- What every row under a key satisfies and no move breaks is never broken: the key is not
given to a new row. -/
theorem Moved.under {P : ρ → Prop} (h : Moved key T gone new rows drawn rows' drawn')
    (hkey : ∀ r r', T r r' → key r' = key r) (hP : ∀ r r', T r r' → P r → P r')
    (hk : k ∈ drawn) (hrows : ∀ r ∈ rows, key r = k → P r) : ∀ r' ∈ rows', key r' = k → P r' := by
  intro r' hr' hid
  rcases h.source r' hr' with ⟨r, hr, ht⟩ | ⟨hfresh, -⟩
  · have hr₀ : key r = k := (hkey r r' ht).symm.trans hid
    exact hP r r' ht (hrows r hr hr₀)
  · exact absurd (hid ▸ hk) hfresh

end
section counts
variable {ρ κ : Type} {p q : ρ → Prop} [DecidablePred p] [DecidablePred q] {f : ρ → ρ}
  {rows : List ρ}

theorem updateMany_cons (r : ρ) : updateMany p f (r :: rows) =
    updateMany p f [r] ++ updateMany p f rows := rfl

theorem count_updateMany_le_of_mem (h : ∀ r ∈ rows, p r → q (f r) → q r) :
    count q (updateMany p f rows) ≤ count q rows := by
  induction rows with
  | nil => exact Nat.le_refl _
  | cons r rest ih =>
    have hrest := ih fun r' hr' => h r' (List.mem_cons_of_mem _ hr')
    have hone : count q (updateMany p f [r]) ≤ count q [r] := by
      by_cases hp : p r
      · by_cases hq : q (f r)
        · have hold := h r List.mem_cons_self hp hq
          simp [updateMany, hp, hq, hold]
        · simp [updateMany, hp, hq]
      · simp [updateMany, hp]
    have hrows : r :: rest = [r] ++ rest := rfl
    rw [updateMany_cons, count_append, hrows, count_append]
    omega

/-- An update of one row by a unique key raises a count by one at most. -/
theorem count_updateMany_le_succ {key : ρ → κ} {k : κ} (hkeys : (rows.map key).Nodup)
    (hp : ∀ r, p r → key r = k) : count q (updateMany p f rows) ≤ count q rows + 1 := by
  induction rows with
  | nil => exact Nat.zero_le _
  | cons r rest ih =>
    obtain ⟨hnew, hrest⟩ := List.nodup_cons.mp hkeys
    have hrows : r :: rest = [r] ++ rest := rfl
    rw [updateMany_cons, count_append, hrows, count_append]
    by_cases hr : p r
    · have hsame : updateMany p f rest = rest := by
        refine updateMany_of_none fun r' hr' he => hnew ?_
        rw [hp r hr, ← hp r' he]
        exact List.mem_map_of_mem hr'
      have hone : count q (updateMany p f [r]) ≤ 1 := List.countP_le_length
      rw [hsame]
      omega
    · have hone : updateMany p f [r] = [r] := by
        simp [updateMany, hr]
      have htail := ih hrest
      rw [hone]
      omega

/-- Of rows with a unique key, a filter by the key takes one at most. -/
theorem count_le_one {key : ρ → κ} {k : κ} (hkeys : (rows.map key).Nodup)
    (hp : ∀ r, p r → key r = k) : count p rows ≤ 1 := by
  induction rows with
  | nil => exact Nat.zero_le _
  | cons r rest ih =>
    obtain ⟨hnew, hrest⟩ := List.nodup_cons.mp hkeys
    have hrows : r :: rest = [r] ++ rest := rfl
    rw [hrows, count_append]
    by_cases hr : p r
    · have hnone : count p rest = 0 := count_eq_zero.mpr fun r' hr' he => by
        refine hnew ?_
        rw [hp r hr, ← hp r' he]
        exact List.mem_map_of_mem hr'
      have hone : count p [r] ≤ 1 := List.countP_le_length
      omega
    · have hnone : count p [r] = 0 := by simp [hr]
      have htail := ih hrest
      omega

end counts

/-- A partial unique index: no two of the rows that `p` covers have the same `g`. -/
def UniqueOn {ρ κ : Type} [DecidableEq κ] (p : ρ → Prop) [DecidablePred p] (g : ρ → κ)
    (rows : List ρ) : Prop :=
  ∀ r ∈ rows, count (fun r' => p r' ∧ g r' = g r) rows ≤ 1

section index
variable {ρ κ χ : Type} [DecidableEq κ] {p q : ρ → Prop} [DecidablePred p] [DecidablePred q]
  {g : ρ → κ} {f : ρ → ρ} {rows : List ρ}

theorem uniqueOn_iff : UniqueOn p g rows ↔ ∀ k, count (fun r => p r ∧ g r = k) rows ≤ 1 := by
  constructor
  · intro h k
    by_cases hk : 0 < count (fun r => p r ∧ g r = k) rows
    · obtain ⟨r, hr, -, rfl⟩ := count_pos.mp hk
      exact h r hr
    · omega
  · intro h r _
    exact h (g r)

theorem UniqueOn.updateMany (h : UniqueOn p g rows) (hg : ∀ r, g (f r) = g r)
    (hp : ∀ r ∈ rows, q r → p (f r) → p r) : UniqueOn p g (updateMany q f rows) := by
  rw [uniqueOn_iff] at h ⊢
  intro k
  refine Nat.le_trans (count_updateMany_le_of_mem fun r hr hq hnew => ?_) (h k)
  exact ⟨hp r hr hq hnew.1, (hg r).symm.trans hnew.2⟩

/-- An update may bring one row under the index that no covered row stands in the way of. -/
theorem UniqueOn.updateOne {key : ρ → χ} {k : χ} (h : UniqueOn p g rows)
    (hkeys : (rows.map key).Nodup) (hq : ∀ r, q r → key r = k) (hg : ∀ r, g (f r) = g r)
    (hfree : ∀ r ∈ rows, q r → p (f r) → p r ∨ ∀ r' ∈ rows, p r' → g r' ≠ g r) :
    UniqueOn p g (Table.updateMany q f rows) := by
  by_cases hcome : ∃ r ∈ rows, q r ∧ p (f r) ∧ ¬ p r
  · obtain ⟨r, hr, hqr, hnew, hold⟩ := hcome
    have halone : ∀ r' ∈ rows, p r' → g r' ≠ g r := (hfree r hr hqr hnew).resolve_left hold
    rw [uniqueOn_iff] at h ⊢
    intro x
    by_cases hx : x = g r
    · have hzero : count (fun r' => p r' ∧ g r' = x) rows = 0 :=
        count_eq_zero.mpr fun r' hr' hcov => halone r' hr' hcov.1 (hcov.2.trans hx)
      have hone : count (fun r' => p r' ∧ g r' = x) (Table.updateMany q f rows) ≤
          count (fun r' => p r' ∧ g r' = x) rows + 1 := count_updateMany_le_succ hkeys hq
      omega
    · refine Nat.le_trans (count_updateMany_le_of_mem fun r' hr' hq' hcov => ?_) (h x)
      have hsame : r' = r :=
        List.inj_on_of_nodup_map hkeys hr' hr ((hq r' hq').trans (hq r hqr).symm)
      rw [hsame, hg] at hcov
      exact absurd hcov.2.symm hx
  · refine h.updateMany hg fun r hr hqr hnew => ?_
    by_contra hold
    exact hcome ⟨r, hr, hqr, hnew, hold⟩

theorem UniqueOn.deleteMany (h : UniqueOn p g rows) : UniqueOn p g (Table.deleteMany q rows) := by
  rw [uniqueOn_iff] at h ⊢
  exact fun k => Nat.le_trans count_deleteMany_le (h k)

/-- A row that the index does not cover can always be inserted. -/
theorem UniqueOn.insert {r : ρ} (h : UniqueOn p g rows) (hr : ¬ p r) :
    UniqueOn p g (rows ++ [r]) := by
  rw [uniqueOn_iff] at h ⊢
  intro k
  have hnone : count (fun r' => p r' ∧ g r' = k) [r] = 0 := by simp [hr]
  rw [count_append, hnone]
  exact h k

end index

end Foundation.Table
