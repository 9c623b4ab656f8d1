import OmniSupport.Foundation.Table

/-! Two states of a table that show the same rows through a filter: statements on rows that are
shown change both alike, and statements on other rows go unseen. -/
namespace Foundation.Table
variable {ρ κ : Type*}

/-- Both states show the same rows through the filter. -/
def SameView (q : ρ → Bool) (rows rows' : List ρ) : Prop := rows.filter q = rows'.filter q

section views
variable {q : ρ → Bool} {rows rows' more : List ρ} {r : ρ}

theorem SameView.refl (q : ρ → Bool) (rows : List ρ) : SameView q rows rows := rfl

theorem SameView.symm (h : SameView q rows rows') : SameView q rows' rows := Eq.symm h

theorem SameView.trans {rows'' : List ρ} (h : SameView q rows rows')
    (h' : SameView q rows' rows'') : SameView q rows rows'' :=
  Eq.trans h h'

theorem SameView.mem_iff (h : SameView q rows rows') (hr : q r = true) : r ∈ rows ↔ r ∈ rows' := by
  have hmem : r ∈ rows.filter q ↔ r ∈ rows'.filter q := by rw [h]
  simpa [hr] using hmem

theorem SameView.append (h : SameView q rows rows') (more : List ρ) :
    SameView q (rows ++ more) (rows' ++ more) := by
  unfold SameView at h ⊢
  rw [List.filter_append, List.filter_append, h]

theorem SameView.append_hidden (h : SameView q rows rows') (hmore : ∀ r ∈ more, q r = false) :
    SameView q (rows ++ more) rows' := by
  have hnone : more.filter q = [] := List.filter_eq_nil_iff.mpr fun r hr => by simp [hmore r hr]
  unfold SameView at h ⊢
  rw [List.filter_append, hnone, List.append_nil, h]

/-- A selection among the rows that are shown. -/
theorem SameView.find? (h : SameView q rows rows') {p : ρ → Bool}
    (hp : ∀ r ∈ rows, p r = true → q r = true) (hp' : ∀ r ∈ rows', p r = true → q r = true) :
    rows.find? p = rows'.find? p := by
  have hselect : ∀ l : List ρ, (∀ r ∈ l, p r = true → q r = true) →
      l.find? p = (l.filter q).find? p := by
    intro l hl
    rw [← List.head?_filter, ← List.head?_filter, List.filter_filter]
    refine congrArg List.head? (List.filter_congr fun r hr => ?_)
    cases hpr : p r with
    | false => rfl
    | true => rw [hl r hr hpr, Bool.and_self]
  rw [hselect rows hp, hselect rows' hp', h]

section statements
variable {p : ρ → Prop} [DecidablePred p] {f : ρ → ρ}

/-- An update of rows that are shown is seen as it is. -/
theorem filter_updateMany_shown (hp : ∀ r ∈ rows, p r → q r = true) :
    (updateMany p f rows).filter q = (updateMany p f (rows.filter q)).filter q := by
  induction rows with
  | nil => rfl
  | cons r rows ih =>
    have hrest := ih fun r' hr' => hp r' (List.mem_cons_of_mem _ hr')
    simp only [updateMany, List.map_cons] at hrest ⊢
    cases hr : q r with
    | true =>
      rw [List.filter_cons_of_pos hr, List.map_cons]
      simp only [List.filter_cons, hrest]
    | false =>
      have hno : ¬ p r := fun hpr => by
        rw [hp r List.mem_cons_self hpr] at hr
        cases hr
      have hsame : (if p r then f r else r) = r := if_neg hno
      have hhidden : ¬ q r = true := by simp [hr]
      rw [hsame, List.filter_cons_of_neg hhidden, List.filter_cons_of_neg hhidden, hrest]

theorem SameView.updateMany (h : SameView q rows rows') (hp : ∀ r ∈ rows, p r → q r = true)
    (hp' : ∀ r ∈ rows', p r → q r = true) :
    SameView q (Table.updateMany p f rows) (Table.updateMany p f rows') := by
  unfold SameView at h ⊢
  rw [filter_updateMany_shown hp, filter_updateMany_shown hp', h]

theorem SameView.updateMany_hidden (h : SameView q rows rows')
    (hp : ∀ r ∈ rows, p r → q r = false ∧ q (f r) = false) :
    SameView q (Table.updateMany p f rows) rows' := by
  have hkept : (Table.updateMany p f rows).filter (fun r => decide (q r = true)) =
      rows.filter fun r => decide (q r = true) :=
    filter_updateMany fun r hr hpr => by simp [hp r hr hpr]
  simp only [Bool.decide_eq_true] at hkept
  unfold SameView at h ⊢
  exact hkept.trans h

theorem SameView.deleteMany (h : SameView q rows rows') :
    SameView q (Table.deleteMany p rows) (Table.deleteMany p rows') := by
  have hcomm : ∀ l : List ρ, (Table.deleteMany p l).filter q =
      (l.filter q).filter fun r => ¬ p r := by
    intro l
    rw [Table.deleteMany, List.filter_filter, List.filter_filter]
    exact List.filter_congr fun r _ => Bool.and_comm _ _
  unfold SameView at h ⊢
  rw [hcomm, hcomm, h]

theorem SameView.deleteMany_hidden (h : SameView q rows rows')
    (hp : ∀ r ∈ rows, p r → q r = false) : SameView q (Table.deleteMany p rows) rows' := by
  have hkept : (Table.deleteMany p rows).filter (fun r => decide (q r = true)) =
      rows.filter fun r => decide (q r = true) :=
    filter_deleteMany fun r hr hq hpr => by simp [hp r hr hpr] at hq
  simp only [Bool.decide_eq_true] at hkept
  unfold SameView at h ⊢
  exact hkept.trans h

/-- An update that leaves a condition alone leaves the rows it holds of as many. -/
theorem countP_updateMany (hf : ∀ r, q (f r) = q r) :
    (Table.updateMany p f rows).countP q = rows.countP q := by
  have hcount : ∀ l : List ρ, l.countP q = (l.map q).countP id := fun l => by
    rw [List.countP_map]
    rfl
  rw [hcount, hcount, map_updateMany hf]

end statements

section keys
variable [DecidableEq κ] {key : ρ → κ} {k : κ}

/-- By the key of a row that is shown both states find that row. -/
theorem SameView.find?_key (h : SameView q rows rows') (hkeys : (rows.map key).Nodup)
    (hkeys' : (rows'.map key).Nodup) (hr : r ∈ rows) (hq : q r = true) :
    (rows.find? fun row => key row = key r) = rows'.find? fun row => key row = key r := by
  rw [find?_of_mem hkeys hr, find?_of_mem hkeys' ((h.mem_iff hq).mp hr)]

end keys

end views
end Foundation.Table
