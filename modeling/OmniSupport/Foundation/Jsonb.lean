import Mathlib.Logic.Function.Basic
import Mathlib.Tactic.Common

/-! JSON values whose objects are partial maps from keys to values, with the operators the
database has on them. `none` stands for the error of an operator. -/
namespace Foundation

inductive Json where
  | null
  | bool (b : Bool)
  | number (r : Rat)
  | text (s : String)
  | array (values : List Json)
  | object (members : String → Option Json)

namespace Json

abbrev Members := String → Option Json

def noMembers : Members := fun _ => none

/-- The members of the second object are put over those of the first. -/
def spread (members patch : Members) : Members := fun key => (patch key).or (members key)

def single (key : String) (value : Json) : Members := Function.update noMembers key (some value)

/-- `value -> key`. -/
def get (key : String) : Json → Option Json
  | .object members => members key
  | _ => none

def elements : Json → List Json
  | .array values => values
  | value => [value]

/-- `value || value'`: two objects are merged, anything else is put in an array. -/
def concat : Json → Json → Json
  | .object members, .object members' => .object (spread members members')
  | value, value' => .array (value.elements ++ value'.elements)

/-- `jsonb_set(target, {key}, value)`. -/
def set (target : Json) (key : String) (value : Json) : Option Json :=
  match target with
  | .object members => some (.object (Function.update members key (some value)))
  | _ => none

/-- A negative index counts from the end, and one out of range removes nothing. -/
def removeAt (values : List Json) (index : Int) : List Json :=
  match (if index < 0 then values.length + index else index) with
  | .ofNat i => values.eraseIdx i
  | .negSucc _ => values

/-- `value #- {key}`. -/
def remove (key : String) : Json → Option Json
  | .object members => some (.object (Function.update members key none))
  | .array values => key.toInt?.map fun index => .array (removeAt values index)
  | value => some value

/-- `target #- {outer, inner}`. -/
def removePath (outer inner : String) : Json → Option Json
  | .object members =>
    match members outer with
    | none => some (.object members)
    | some value => (value.remove inner).map fun rest =>
      .object (Function.update members outer (some rest))
  | _ => none

/-- What spreading the value into an object literal yields. -/
def members : Json → Members
  | .object members => members
  | .array values => fun key =>
    (List.range values.length).findSome? fun i => if toString i = key then values[i]? else none
  | _ => noMembers

section
variable {m m' : Members} {key key' : String} {value target target' : Json}

@[simp] theorem get_object : (Json.object m).get key = m key := rfl

theorem get_update_self {found : Option Json} :
    (Json.object (Function.update m key found)).get key = found := by
  simp only [get, Function.update_self]

@[simp] theorem concat_object :
    (Json.object m).concat (.object m') = .object (spread m m') := rfl

theorem spread_single : spread m (single key value) = Function.update m key (some value) := by
  funext other
  by_cases h : other = key
  · simp [spread, single, h]
  · simp [spread, single, noMembers, h]

theorem set_eq_some : target.set key value = some target' ↔
    ∃ m, target = .object m ∧ target' = .object (Function.update m key (some value)) := by
  cases target <;> simp [set, eq_comm]

/-- Setting a member leaves the others alone. -/
theorem get_set (h : target.set key value = some target') (hne : key' ≠ key) :
    target'.get key' = target.get key' := by
  obtain ⟨m, rfl, rfl⟩ := set_eq_some.mp h
  exact Function.update_of_ne hne _ m

theorem get_set_self (h : target.set key value = some target') : target'.get key = some value := by
  obtain ⟨m, rfl, rfl⟩ := set_eq_some.mp h
  exact get_update_self

/-- So does removing something below a member. -/
theorem get_removePath {inner : String} (h : target.removePath key inner = some target')
    (hne : key' ≠ key) : target'.get key' = target.get key' := by
  cases target with
  | object m =>
    simp only [removePath] at h
    cases hm : m key with
    | none =>
      rw [hm] at h
      cases h
      rfl
    | some value =>
      rw [hm] at h
      obtain ⟨rest, -, rfl⟩ := Option.map_eq_some_iff.mp h
      exact Function.update_of_ne hne _ m
  | null | bool | number | text | array => cases h

theorem get_removePath_object {inner : String} (hm : target.get key = some (.object m'))
    (h : target.removePath key inner = some target') :
    target'.get key = some (.object (Function.update m' inner none)) := by
  cases target with
  | object m =>
    have hkey : m key = some (.object m') := hm
    simp only [removePath, hkey, remove, Option.map_some, Option.some.injEq] at h
    rw [← h]
    exact get_update_self
  | null | bool | number | text | array => cases hm

end
end Json
end Foundation
