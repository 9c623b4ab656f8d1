import Mathlib.Data.List.Forall2
import Mathlib.Tactic.Common

/-! JSON values as trees, positions in them, and values that differ under some keys only. -/
namespace Foundation

inductive JsonTree (σ : Type*) where
  | scalar (value : σ)
  | array (items : List (JsonTree σ))
  | object (entries : List (String × JsonTree σ))

namespace JsonTree

variable {σ : Type*}

/-- A step into a value. -/
inductive Step where
  | item (index : Nat)
  | key (name : String)

/-- The value at a position. -/
def at? : List Step → JsonTree σ → Option (JsonTree σ)
  | [], value => some value
  | .item index :: path, .array items => items[index]?.bind (at? path)
  | .key name :: path, .object entries => (entries.lookup name).bind (at? path)
  | _ :: _, _ => none

/-- The names that the position goes through. -/
def names (path : List Step) : List String :=
  path.filterMap fun step => match step with
    | .item _ => none
    | .key name => some name

variable (Hidden : String → JsonTree σ → Prop)

mutual

/-- The values differ only where an object has, under the same key, two hidden values. -/
inductive AlikeBut : JsonTree σ → JsonTree σ → Prop
  | scalar (value) : AlikeBut (.scalar value) (.scalar value)
  | array {items items'} (h : AlikeItems items items') : AlikeBut (.array items) (.array items')
  | object {entries entries'} (h : AlikeEntries entries entries') :
      AlikeBut (.object entries) (.object entries')

inductive AlikeItems : List (JsonTree σ) → List (JsonTree σ) → Prop
  | nil : AlikeItems [] []
  | cons {item item' items items'} (h : AlikeBut item item') (hs : AlikeItems items items') :
      AlikeItems (item :: items) (item' :: items')

inductive AlikeEntries : List (String × JsonTree σ) → List (String × JsonTree σ) → Prop
  | nil : AlikeEntries [] []
  | shown {key item item' entries entries'} (h : AlikeBut item item')
      (hs : AlikeEntries entries entries') :
      AlikeEntries ((key, item) :: entries) ((key, item') :: entries')
  | hidden {key item item' entries entries'} (h : Hidden key item) (h' : Hidden key item')
      (hs : AlikeEntries entries entries') :
      AlikeEntries ((key, item) :: entries) ((key, item') :: entries')

end

end JsonTree

end Foundation
