import Mathlib.Data.List.Nodup
import OmniSupport.Foundation.Table

/-! Two states of a table that hold the same rows of one owner, each with the rows of the other
owners as they were: which statements keep it so, and what both states answer alike. -/
namespace Foundation.Table
variable {ρ κ τ : Type*} [DecidableEq τ]

/-- Both states hold the same rows of the owner `A`, and besides `rest` and `rest'`. -/
structure Slices (owner : ρ → τ) (A : τ) (rows rows' rest rest' : List ρ) : Prop where
  own : rows.filter (fun r => owner r = A) = rows'.filter fun r => owner r = A
  rest : rows.filter (fun r => owner r ≠ A) = rest
  rest' : rows'.filter (fun r => owner r ≠ A) = rest'

/-- The owner `A` has a row with this key. -/
def Owns (owner : ρ → τ) (key : ρ → κ) (A : τ) (rows : List ρ) (k : κ) : Prop :=
  ∃ r ∈ rows, key r = k ∧ owner r = A

/-- Slices of tables with a primary key. -/
structure KeyedSlices (owner : ρ → τ) (key : ρ → κ) (A : τ) (rows rows' rest rest' : List ρ) :
    Prop extends Slices owner A rows rows' rest rest' where
  keys : (rows.map key).Nodup
  keys' : (rows'.map key).Nodup

section slices
variable {owner : ρ → τ} {A : τ} {rows rows' rest rest' : List ρ} {r : ρ}

theorem Slices.refl (owner : ρ → τ) (A : τ) (rows : List ρ) :
    Slices owner A rows rows (rows.filter fun r => owner r ≠ A)
      (rows.filter fun r => owner r ≠ A) :=
  ⟨rfl, rfl, rfl⟩

/-- A selection among the rows of the owner is the same in both states. -/
theorem Slices.filter (h : Slices owner A rows rows' rest rest') {p : ρ → Bool}
    (hp : ∀ r, p r = true → owner r = A) : rows.filter p = rows'.filter p := by
  have hselect : ∀ l : List ρ, l.filter p = (l.filter fun r => owner r = A).filter p := by
    intro l
    rw [List.filter_filter]
    refine List.filter_congr fun r _ => ?_
    cases hr : p r with
    | false => simp
    | true => simp [hp r hr]
  rw [hselect rows, hselect rows', h.own]

theorem Slices.find? (h : Slices owner A rows rows' rest rest') {p : ρ → Bool}
    (hp : ∀ r, p r = true → owner r = A) : rows.find? p = rows'.find? p := by
  rw [← List.head?_filter, ← List.head?_filter, h.filter hp]

theorem Slices.countP (h : Slices owner A rows rows' rest rest') {p : ρ → Bool}
    (hp : ∀ r, p r = true → owner r = A) : rows.countP p = rows'.countP p := by
  rw [List.countP_eq_length_filter, List.countP_eq_length_filter, h.filter hp]

theorem Slices.mem_iff (h : Slices owner A rows rows' rest rest') (hr : owner r = A) :
    r ∈ rows ↔ r ∈ rows' := by
  have hmem : r ∈ rows.filter (fun r => owner r = A) ↔ r ∈ rows'.filter fun r => owner r = A := by
    rw [h.own]
  simpa [hr] using hmem

theorem Slices.append (h : Slices owner A rows rows' rest rest') (hr : owner r = A) :
    Slices owner A (rows ++ [r]) (rows' ++ [r]) rest rest' := by
  have hout : [r].filter (fun r => owner r ≠ A) = [] := by simp [hr]
  constructor
  · rw [List.filter_append, List.filter_append, h.own]
  · rw [List.filter_append, hout, List.append_nil, h.rest]
  · rw [List.filter_append, hout, List.append_nil, h.rest']

/-- An update that leaves the owners alone goes on inside the slice. -/
theorem filter_updateMany_owner {p : ρ → Prop} [DecidablePred p] {f : ρ → ρ}
    (hkeep : ∀ r, owner (f r) = owner r) (rows : List ρ) :
    (updateMany p f rows).filter (fun r => owner r = A) =
      updateMany p f (rows.filter fun r => owner r = A) := by
  induction rows with
  | nil => rfl
  | cons r rows ih =>
    have howner : owner (if p r then f r else r) = owner r := by
      split
      · exact hkeep r
      · rfl
    simp only [updateMany, List.map_cons, List.filter_cons] at ih ⊢
    rw [howner, ih]
    by_cases hr : owner r = A <;> simp [hr]

theorem Slices.updateMany (h : Slices owner A rows rows' rest rest') {p : ρ → Prop}
    [DecidablePred p] {f : ρ → ρ} (hkeep : ∀ r, owner (f r) = owner r)
    (hp : ∀ r ∈ rows, p r → owner r = A) (hp' : ∀ r ∈ rows', p r → owner r = A) :
    Slices owner A (Table.updateMany p f rows) (Table.updateMany p f rows') rest rest' := by
  constructor
  · rw [filter_updateMany_owner hkeep, filter_updateMany_owner hkeep, h.own]
  · rw [← h.rest]
    refine filter_updateMany fun r hr hpr => ?_
    simp [hkeep, hp r hr hpr]
  · rw [← h.rest']
    refine filter_updateMany fun r hr hpr => ?_
    simp [hkeep, hp' r hr hpr]

theorem Slices.deleteMany (h : Slices owner A rows rows' rest rest') {p : ρ → Prop}
    [DecidablePred p] (hp : ∀ r ∈ rows, p r → owner r = A) (hp' : ∀ r ∈ rows', p r → owner r = A) :
    Slices owner A (Table.deleteMany p rows) (Table.deleteMany p rows') rest rest' := by
  have hcomm : ∀ l : List ρ, (Table.deleteMany p l).filter (fun r => owner r = A) =
      (l.filter fun r => owner r = A).filter fun r => ¬ p r := by
    intro l
    rw [Table.deleteMany, List.filter_filter, List.filter_filter]
    exact List.filter_congr fun r _ => Bool.and_comm _ _
  constructor
  · rw [hcomm, hcomm, h.own]
  · rw [← h.rest]
    exact filter_deleteMany fun r hr hother hpr => hother (hp r hr hpr)
  · rw [← h.rest']
    exact filter_deleteMany fun r hr hother hpr => hother (hp' r hr hpr)

end slices

section keys
variable {owner : ρ → τ} {key : ρ → κ} {A : τ} {rows rows' rest rest' : List ρ} {r : ρ} {k : κ}

theorem KeyedSlices.owns (h : KeyedSlices owner key A rows rows' rest rest')
    (howns : Owns owner key A rows k) : Owns owner key A rows' k := by
  obtain ⟨r, hr, hkey, howner⟩ := howns
  exact ⟨r, (h.mem_iff howner).mp hr, hkey, howner⟩

omit [DecidableEq τ] in
/-- With unique keys every row with the key of an owned row is owned. -/
theorem Owns.owner_eq (howns : Owns owner key A rows k) (hkeys : (rows.map key).Nodup) :
    ∀ r ∈ rows, key r = k → owner r = A := by
  obtain ⟨own, hown, hkey, howner⟩ := howns
  intro r hr hrkey
  rw [List.inj_on_of_nodup_map hkeys hr hown (hrkey.trans hkey.symm)]
  exact howner

theorem KeyedSlices.append (h : KeyedSlices owner key A rows rows' rest rest')
    (hr : owner r = A) (hnew : ∀ r' ∈ rows, key r' ≠ key r) (hnew' : ∀ r' ∈ rows', key r' ≠ key r) :
    KeyedSlices owner key A (rows ++ [r]) (rows' ++ [r]) rest rest' where
  toSlices := h.toSlices.append hr
  keys := nodup_insert h.keys hnew
  keys' := nodup_insert h.keys' hnew'

theorem KeyedSlices.deleteMany (h : KeyedSlices owner key A rows rows' rest rest') {p : ρ → Prop}
    [DecidablePred p] (hp : ∀ r ∈ rows, p r → owner r = A) (hp' : ∀ r ∈ rows', p r → owner r = A) :
    KeyedSlices owner key A (Table.deleteMany p rows) (Table.deleteMany p rows') rest rest' where
  toSlices := h.toSlices.deleteMany hp hp'
  keys := h.keys.sublist (List.filter_sublist.map key)
  keys' := h.keys'.sublist (List.filter_sublist.map key)

variable [DecidableEq κ]

theorem mem_of_find?_owned (h : (rows.find? fun r => key r = k ∧ owner r = A) = some r) :
    r ∈ rows ∧ key r = k ∧ owner r = A := by
  refine ⟨List.mem_of_find?_eq_some h, ?_⟩
  simpa using List.find?_some h

/-- By the key of an owned row both states find that row. -/
theorem KeyedSlices.find?_key (h : KeyedSlices owner key A rows rows' rest rest')
    (howns : Owns owner key A rows k) :
    (rows.find? fun r => key r = k) = rows'.find? fun r => key r = k := by
  obtain ⟨r, hr, rfl, howner⟩ := howns
  rw [find?_of_mem h.keys hr, find?_of_mem h.keys' ((h.mem_iff howner).mp hr)]

theorem KeyedSlices.updateKey (h : KeyedSlices owner key A rows rows' rest rest') {f : ρ → ρ}
    (howner : ∀ r, owner (f r) = owner r) (hkey : ∀ r, key (f r) = key r)
    (howns : Owns owner key A rows k) :
    KeyedSlices owner key A (updateMany (fun r => key r = k) f rows)
      (updateMany (fun r => key r = k) f rows') rest rest' where
  toSlices := h.toSlices.updateMany howner (howns.owner_eq h.keys)
    ((h.owns howns).owner_eq h.keys')
  keys := by
    rw [map_updateMany hkey]
    exact h.keys
  keys' := by
    rw [map_updateMany hkey]
    exact h.keys'

end keys
end Foundation.Table
