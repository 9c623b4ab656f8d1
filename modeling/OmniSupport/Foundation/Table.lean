import Mathlib.Data.List.Basic
import Mathlib.Data.List.Nodup
import Mathlib.Tactic.Common

/-! Tables as row lists, with the bulk statements of SQL: a conditional update and a
conditional delete, each one atomic step, and how they move row counts. -/
namespace Foundation.Table
variable {ρ κ : Type*}

/-- `UPDATE … SET f WHERE p`. -/
def updateMany (p : ρ → Prop) [DecidablePred p] (f : ρ → ρ) (rows : List ρ) : List ρ :=
  rows.map fun r => if p r then f r else r

/-- `DELETE … WHERE p`. -/
def deleteMany (p : ρ → Prop) [DecidablePred p] (rows : List ρ) : List ρ :=
  rows.filter fun r => ¬ p r

/-- `SELECT count(*) … WHERE p`. -/
def count (p : ρ → Prop) [DecidablePred p] (rows : List ρ) : Nat :=
  rows.countP fun r => p r

section
variable {p q : ρ → Prop} [DecidablePred p] [DecidablePred q] {f : ρ → ρ} {rows : List ρ} {r : ρ}

theorem mem_updateMany :
    r ∈ updateMany p f rows ↔ (∃ r₀ ∈ rows, p r₀ ∧ r = f r₀) ∨ (r ∈ rows ∧ ¬ p r) := by
  simp only [updateMany, List.mem_map]
  constructor
  · rintro ⟨r₀, hm, rfl⟩
    by_cases h : p r₀
    · exact Or.inl ⟨r₀, hm, h, by simp [h]⟩
    · exact Or.inr (by simpa [h] using hm)
  · rintro (⟨r₀, hm, h, rfl⟩ | ⟨hm, h⟩)
    · exact ⟨r₀, hm, by simp [h]⟩
    · exact ⟨r, hm, by simp [h]⟩

theorem mem_deleteMany : r ∈ deleteMany p rows ↔ r ∈ rows ∧ ¬ p r := by
  simp [deleteMany]

/-- An update that leaves a column alone leaves the whole column alone. -/
theorem map_updateMany {g : ρ → κ} (h : ∀ r, g (f r) = g r) :
    (updateMany p f rows).map g = rows.map g := by
  induction rows with
  | nil => rfl
  | cons r rows ih =>
    simp only [updateMany, List.map_cons, List.map_map] at ih ⊢
    rw [ih]
    by_cases hp : p r <;> simp [hp, h]

theorem updateMany_of_none (h : ∀ r ∈ rows, ¬ p r) : updateMany p f rows = rows := by
  simp only [updateMany]
  calc rows.map (fun r => if p r then f r else r) = rows.map id :=
        List.map_congr_left fun r hr => by simp [h r hr]
    _ = rows := List.map_id rows

/-- An update that leaves a table as it is leaves every row it selects as it is. -/
theorem eq_of_updateMany_eq (h : updateMany p f rows = rows) (hr : r ∈ rows) (hp : p r) :
    f r = r := by
  have hmap : rows.map (fun r => if p r then f r else r) = rows.map id := by
    rw [List.map_id]
    exact h
  have hrow := List.map_inj_left.mp hmap r hr
  simpa [hp] using hrow

theorem count_pos : 0 < count p rows ↔ ∃ r ∈ rows, p r := by
  simp [count, List.countP_pos_iff]

theorem count_eq_zero : count p rows = 0 ↔ ∀ r ∈ rows, ¬ p r := by
  simp [count, List.countP_eq_zero]

theorem count_append (rows rows' : List ρ) :
    count p (rows ++ rows') = count p rows + count p rows' := by
  simp [count]

@[simp] theorem count_singleton (r : ρ) : count p [r] = if p r then 1 else 0 := by
  simp [count, List.countP_singleton]

/-- A stronger condition counts as many rows only if every row that meets the weaker one meets
it too. -/
theorem count_eq_iff_of_imp (h : ∀ r, p r → q r) :
    count p rows = count q rows ↔ ∀ r ∈ rows, q r → p r := by
  have hsplit : ∀ r (rows : List ρ), count p (r :: rows) = count p rows + (if p r then 1 else 0) ∧
      count q (r :: rows) = count q rows + (if q r then 1 else 0) := by
    intro r rows
    simp [count, List.countP_cons]
  have hle : ∀ rows : List ρ, count p rows ≤ count q rows := by
    intro rows
    exact List.countP_mono_left fun r _ hp => decide_eq_true (h r (of_decide_eq_true hp))
  induction rows with
  | nil => simp [count]
  | cons r rows ih =>
    obtain ⟨hp, hq⟩ := hsplit r rows
    have htail := hle rows
    rw [List.forall_mem_cons, hp, hq]
    by_cases hqr : q r
    · by_cases hpr : p r
      · simpa [hpr, hqr] using ih
      · rw [if_neg hpr, if_pos hqr]
        constructor
        · intro hcount
          omega
        · intro hall
          exact absurd (hall.1 hqr) hpr
    · have hpr : ¬ p r := fun hpr => hqr (h r hpr)
      simpa [hpr, hqr] using ih

/-- An update that never makes a row satisfy `q` does not raise the count of `q`. -/
theorem count_updateMany_le (h : ∀ r, p r → q (f r) → q r) :
    count q (updateMany p f rows) ≤ count q rows := by
  induction rows with
  | nil => simp [count, updateMany]
  | cons r rows ih =>
    have hr : (if p r then f r else r) = f r ∧ p r ∨ (if p r then f r else r) = r := by
      by_cases hp : p r <;> simp [hp]
    simp only [count, updateMany, List.map_cons, List.countP_cons] at ih ⊢
    rcases hr with ⟨he, hp⟩ | he
    · rw [he]
      by_cases hq : q (f r)
      · have := h r hp hq
        simp only [hq, this, decide_true, if_true]
        omega
      · simp only [hq, decide_false, Bool.false_eq_true, if_false]
        omega
    · rw [he]
      omega

/-- If it also takes one row out of `q`, the count of `q` falls. -/
theorem count_updateMany_lt (h : ∀ r, p r → q (f r) → q r) (hm : r ∈ rows) (hp : p r)
    (hq : q r) (hf : ¬ q (f r)) : count q (updateMany p f rows) < count q rows := by
  obtain ⟨as, bs, rfl⟩ := List.append_of_mem hm
  have ha : count q (updateMany p f as) ≤ count q as := count_updateMany_le h
  have hb : count q (updateMany p f bs) ≤ count q bs := count_updateMany_le h
  have hsplit : updateMany p f (as ++ r :: bs) =
      updateMany p f as ++ ([f r] ++ updateMany p f bs) := by
    simp [updateMany, hp]
  have hrows : count q (as ++ r :: bs) = count q as + (1 + count q bs) := by
    rw [List.append_cons, count_append, count_append]
    simp [hq]
    omega
  rw [hsplit, hrows, count_append, count_append]
  simp only [count_singleton, hf, if_false]
  omega

theorem count_deleteMany_le : count q (deleteMany p rows) ≤ count q rows := by
  simp only [count, deleteMany]
  exact (List.filter_sublist).countP_le

/-- A number above a column: a fresh key, or an instant past every stored one. -/
theorem exists_bound (g : ρ → Nat) (rows : List ρ) : ∃ n, ∀ r ∈ rows, g r < n := by
  induction rows with
  | nil => exact ⟨0, by simp⟩
  | cons r rows ih =>
    obtain ⟨n, hn⟩ := ih
    refine ⟨max n (g r + 1), fun x hx => ?_⟩
    rcases List.mem_cons.mp hx with rfl | hx
    · omega
    · have hlt := hn x hx
      omega

end

/-- An update of rows outside a selection, which it leaves outside, keeps the selection. -/
theorem filter_updateMany {p q : ρ → Prop} [DecidablePred p] [DecidablePred q] {f : ρ → ρ}
    {rows : List ρ} (h : ∀ r ∈ rows, p r → ¬ q r ∧ ¬ q (f r)) :
    (updateMany p f rows).filter (fun r => q r) = rows.filter fun r => q r := by
  induction rows with
  | nil => rfl
  | cons r rows ih =>
    have hrest := ih fun r' hr' => h r' (List.mem_cons_of_mem _ hr')
    simp only [updateMany, List.map_cons, List.filter_cons] at hrest ⊢
    rw [hrest]
    by_cases hp : p r
    · have hout := h r List.mem_cons_self hp
      simp [hp, hout.1, hout.2]
    · simp [hp]


/-- A deletion that spares the rows a selection takes. -/
theorem filter_deleteMany {p q : ρ → Prop} [DecidablePred p] [DecidablePred q] {rows : List ρ}
    (h : ∀ r ∈ rows, q r → ¬ p r) :
    (deleteMany p rows).filter (fun r => q r) = rows.filter fun r => q r := by
  rw [deleteMany, List.filter_filter]
  refine List.filter_congr fun r hr => ?_
  by_cases hq : q r
  · simp [hq, h r hr hq]
  · simp [hq]

/-- A row under a new key keeps the keys unique. -/
theorem nodup_insert {key : ρ → κ} {rows : List ρ} {row : ρ}
    (hkeys : (rows.map key).Nodup) (hnew : ∀ r ∈ rows, key r ≠ key row) :
    ((rows ++ [row]).map key).Nodup := by
  rw [List.map_append, List.map_singleton]
  refine List.Nodup.append hkeys (List.nodup_singleton _) fun k hk hk' => ?_
  obtain ⟨r, hr, rfl⟩ := List.mem_map.mp hk
  exact hnew r hr (List.mem_singleton.mp hk')

section keys
variable [DecidableEq κ] {key : ρ → κ} {p : ρ → Prop} [DecidablePred p] {f : ρ → ρ}
  {rows : List ρ} {row : ρ} {k : κ}

theorem mem_of_find? (h : (rows.find? fun r => key r = k) = some row) :
    row ∈ rows ∧ key row = k := by
  refine ⟨List.mem_of_find?_eq_some h, ?_⟩
  simpa using List.find?_some h

/-- With unique keys a stored row is the one its key finds. -/
theorem find?_of_mem (hkeys : (rows.map key).Nodup) (h : row ∈ rows) :
    (rows.find? fun r => key r = key row) = some row := by
  have hsome : (rows.find? fun r => key r = key row).isSome = true := by
    rw [List.find?_isSome]
    exact ⟨row, h, by simp⟩
  obtain ⟨found, hfound⟩ := Option.isSome_iff_exists.mp hsome
  obtain ⟨hm, hkey⟩ := mem_of_find? hfound
  rw [hfound, List.inj_on_of_nodup_map hkeys hm h hkey]

/-- Where one row of a key is counted, the key finds it. -/
theorem find?_of_count (hkeys : (rows.map key).Nodup) (hp : ∀ r, p r → key r = k)
    (hcount : count p rows = 1) : ∃ r, (rows.find? fun r => key r = k) = some r ∧ p r := by
  have hpositive : 0 < count p rows := by omega
  obtain ⟨r, hr, hpr⟩ := count_pos.mp hpositive
  refine ⟨r, ?_, hpr⟩
  rw [← hp r hpr]
  exact find?_of_mem hkeys hr

/-- An update by key that leaves the keys alone. -/
theorem find?_updateMany {k' : κ} (hkey : ∀ r, key (f r) = key r) :
    ((updateMany (fun r => key r = k) f rows).find? fun r => key r = k') =
      (rows.find? fun r => key r = k').map fun r => if k' = k then f r else r := by
  induction rows with
  | nil => rfl
  | cons r rows ih =>
    simp only [updateMany, List.map_cons] at ih ⊢
    by_cases hr : key r = k
    · rw [if_pos hr, List.find?_cons, List.find?_cons, hkey]
      by_cases hk : key r = k'
      · have hsame : k' = k := hk.symm.trans hr
        simp [hk, hsame]
      · simpa [hk] using ih
    · rw [if_neg hr, List.find?_cons, List.find?_cons]
      by_cases hk : key r = k'
      · have hother : k' ≠ k := fun he => hr (hk.trans he)
        simp [hk, hother]
      · simpa [hk] using ih

/-- A deletion that spares the rows with this key. -/
theorem find?_deleteMany (hother : ∀ r, key r = k → ¬ p r) :
    ((deleteMany p rows).find? fun r => key r = k) = rows.find? fun r => key r = k := by
  rw [deleteMany, List.find?_filter]
  refine congrArg (fun q => rows.find? q) (funext fun r => ?_)
  by_cases hk : key r = k
  · simp [hk, hother r hk]
  · simp [hk]

end keys
end Foundation.Table
