import Mathlib.Data.List.Basic
import Mathlib.Tactic.Common

/-! Records of what a change did to the fields of a value: when the record tells exactly which
fields differ, with their values before and after. -/
namespace Foundation.ChangeTrail
variable {φ β : Type*}

/-- The recorded fields in order, each with a value before and one after. -/
def entries (fields : List φ) (recorded : φ → Option (β × β)) : List (φ × β × β) :=
  fields.filterMap fun field => (recorded field).map fun values => (field, values)

/-- One side of a record; values that cannot be stored are left out. -/
def side (storable : β → Bool) (part : β × β → β) (record : List (φ × β × β)) : List (φ × β) :=
  (record.map fun entry => (entry.1, part entry.2)).filter fun entry => storable entry.2

/-- Both sides list the fields that differ, and their values. -/
structure Told (fields : List φ) (before after : φ → β) (old new : List (φ × β)) : Prop where
  old : ∀ field value, (field, value) ∈ old ↔
    field ∈ fields ∧ before field ≠ after field ∧ value = before field
  new : ∀ field value, (field, value) ∈ new ↔
    field ∈ fields ∧ before field ≠ after field ∧ value = after field

/-- The field is recorded as it should be. -/
def Exact (storable : β → Bool) (before after : φ → β) (recorded : φ → Option (β × β))
    (field : φ) : Prop :=
  (before field = after field → recorded field = none) ∧
  (before field ≠ after field → recorded field = some (before field, after field) ∧
    storable (before field) = true ∧ storable (after field) = true)

variable {fields : List φ} {storable : β → Bool} {before after : φ → β}
  {recorded : φ → Option (β × β)} {part : β × β → β}

theorem mem_side {field : φ} {value : β} :
    (field, value) ∈ side storable part (entries fields recorded) ↔
      field ∈ fields ∧ storable value = true ∧ ∃ values, recorded field = some values ∧
        part values = value := by
  simp only [side, entries, List.mem_filter, List.mem_map, List.mem_filterMap, Option.map_eq_some_iff]
  constructor
  · rintro ⟨⟨_, ⟨f, hf, values, hvalues, rfl⟩, hsame⟩, hstorable⟩
    obtain ⟨rfl, rfl⟩ := Prod.mk.inj hsame
    exact ⟨hf, hstorable, values, hvalues, rfl⟩
  · rintro ⟨hf, hstorable, values, hvalues, rfl⟩
    exact ⟨⟨_, ⟨field, hf, values, hvalues, rfl⟩, rfl⟩, hstorable⟩

theorem entries_eq_nil : entries fields recorded = [] ↔ ∀ field ∈ fields, recorded field = none := by
  simp [entries, List.filterMap_eq_nil_iff]

/-- A field without record must not differ. -/
theorem exact_of_none {field : φ} (h : recorded field = none) :
    Exact storable before after recorded field ↔ before field = after field := by
  constructor
  · intro hexact
    by_contra hdiffers
    have hsome := (hexact.2 hdiffers).1
    rw [h] at hsome
    cases hsome
  · intro hsame
    exact ⟨fun _ => h, fun hdiffers => absurd hsame hdiffers⟩

/-- A field with a record must differ, by these values. -/
theorem exact_of_some {field : φ} {values : β × β} (h : recorded field = some values) :
    Exact storable before after recorded field ↔ before field ≠ after field ∧
      values = (before field, after field) ∧ storable (before field) = true ∧
        storable (after field) = true := by
  constructor
  · intro hexact
    have hdiffers : before field ≠ after field := by
      intro hsame
      have hnone := hexact.1 hsame
      rw [h] at hnone
      cases hnone
    obtain ⟨hvalues, hstorable⟩ := hexact.2 hdiffers
    exact ⟨hdiffers, Option.some.inj (h.symm.trans hvalues), hstorable⟩
  · rintro ⟨hdiffers, rfl, hstorable⟩
    exact ⟨fun hsame => absurd hsame hdiffers, fun _ => ⟨h, hstorable⟩⟩

theorem told_of_exact (h : ∀ field ∈ fields, Exact storable before after recorded field) :
    Told fields before after (side storable Prod.fst (entries fields recorded))
      (side storable Prod.snd (entries fields recorded)) := by
  have hside : ∀ (part : β × β → β) field value,
      (part (before field, after field) = before field ∨
        part (before field, after field) = after field) →
      ((field, value) ∈ side storable part (entries fields recorded) ↔
        field ∈ fields ∧ before field ≠ after field ∧
          value = part (before field, after field)) := by
    intro part field value hpart
    rw [mem_side]
    constructor
    · rintro ⟨hf, -, values, hvalues, rfl⟩
      have hdiffers : before field ≠ after field := by
        intro hsame
        rw [(h field hf).1 hsame] at hvalues
        cases hvalues
      rw [((h field hf).2 hdiffers).1] at hvalues
      rw [← Option.some.inj hvalues]
      exact ⟨hf, hdiffers, rfl⟩
    · rintro ⟨hf, hdiffers, rfl⟩
      obtain ⟨hrecorded, hbefore, hafter⟩ := (h field hf).2 hdiffers
      refine ⟨hf, ?_, _, hrecorded, rfl⟩
      rcases hpart with hpart | hpart
      · rw [hpart]
        exact hbefore
      · rw [hpart]
        exact hafter
  exact ⟨fun field value => hside Prod.fst field value (.inl rfl),
    fun field value => hside Prod.snd field value (.inr rfl)⟩

theorem exact_of_told (hnew : ∀ field values, recorded field = some values →
      storable values.2 = true)
    (h : Told fields before after (side storable Prod.fst (entries fields recorded))
      (side storable Prod.snd (entries fields recorded))) {field : φ} (hf : field ∈ fields) :
    Exact storable before after recorded field := by
  constructor
  · intro hsame
    cases hrecorded : recorded field with
    | none => rfl
    | some values =>
      have hlisted := (h.new field values.2).mp
        (mem_side.mpr ⟨hf, hnew field values hrecorded, values, hrecorded, rfl⟩)
      exact absurd hsame hlisted.2.1
  · intro hdiffers
    obtain ⟨-, hbefore, values, hvalues, hfirst⟩ :=
      mem_side.mp ((h.old field (before field)).mpr ⟨hf, hdiffers, rfl⟩)
    obtain ⟨-, hafter, values', hvalues', hsecond⟩ :=
      mem_side.mp ((h.new field (after field)).mpr ⟨hf, hdiffers, rfl⟩)
    obtain rfl : values = values' := Option.some.inj (hvalues.symm.trans hvalues')
    refine ⟨?_, hbefore, hafter⟩
    rw [hvalues, ← hfirst, ← hsecond]

/-- The record is empty when nothing differs and tells the truth otherwise, exactly when every
field is recorded as it should be. -/
theorem told_iff (hnew : ∀ field values, recorded field = some values →
      storable values.2 = true) :
    (((∀ field ∈ fields, before field = after field) ∧ entries fields recorded = []) ∨
      ((¬∀ field ∈ fields, before field = after field) ∧ entries fields recorded ≠ [] ∧
        Told fields before after (side storable Prod.fst (entries fields recorded))
          (side storable Prod.snd (entries fields recorded)))) ↔
      ∀ field ∈ fields, Exact storable before after recorded field := by
  constructor
  · rintro (⟨hsame, hempty⟩ | ⟨-, -, htold⟩) field hf
    · exact ⟨fun _ => entries_eq_nil.mp hempty field hf, fun h => absurd (hsame field hf) h⟩
    · exact exact_of_told hnew htold hf
  · intro hexact
    by_cases hsame : ∀ field ∈ fields, before field = after field
    · exact .inl ⟨hsame, entries_eq_nil.mpr fun field hf => (hexact field hf).1 (hsame field hf)⟩
    · refine .inr ⟨hsame, fun hempty => hsame fun field hf => ?_, told_of_exact hexact⟩
      by_contra hdiffers
      have hrecorded := ((hexact field hf).2 hdiffers).1
      rw [entries_eq_nil.mp hempty field hf] at hrecorded
      cases hrecorded

end Foundation.ChangeTrail
