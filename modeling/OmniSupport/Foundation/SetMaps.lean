import Mathlib.Data.List.AList

/-! Sets that keep the order of insertion, and maps from keys to such sets, with what each
operation does to the members of a key. -/
namespace Foundation

variable {α κ : Type*}

/-- The elements in the order they were added in, each once. -/
structure InsertionSet (α : Type*) where
  items : List α
  nodup : items.Nodup

namespace InsertionSet

def empty : InsertionSet α := ⟨[], List.nodup_nil⟩

def size (s : InsertionSet α) : Nat := s.items.length

@[simp] theorem items_empty : (empty : InsertionSet α).items = [] := rfl

variable [DecidableEq α]

def add (x : α) (s : InsertionSet α) : InsertionSet α where
  items := if x ∈ s.items then s.items else s.items ++ [x]
  nodup := by
    by_cases hx : x ∈ s.items
    · simpa [hx] using s.nodup
    · simpa [hx, List.nodup_append] using ⟨s.nodup, fun y hy h => hx (h ▸ hy)⟩

def delete (x : α) (s : InsertionSet α) : InsertionSet α := ⟨s.items.erase x, s.nodup.erase x⟩

@[simp] theorem mem_add {x y : α} {s : InsertionSet α} :
    y ∈ (s.add x).items ↔ y = x ∨ y ∈ s.items := by
  by_cases hx : x ∈ s.items
  · have hsame : y = x → y ∈ s.items := fun h => h ▸ hx
    simp only [add, hx, if_true]
    tauto
  · simp only [add, hx, if_false, List.mem_append, List.mem_singleton]
    tauto

@[simp] theorem mem_delete {x y : α} {s : InsertionSet α} :
    y ∈ (s.delete x).items ↔ y ≠ x ∧ y ∈ s.items :=
  s.nodup.mem_erase_iff

theorem items_add_ne_nil {x : α} {s : InsertionSet α} : (s.add x).items ≠ [] :=
  List.ne_nil_of_mem (mem_add.mpr (.inl rfl))

end InsertionSet

/-- A map from keys to sets. A key may have the empty set. -/
abbrev SetMap (κ α : Type*) := AList fun _ : κ => InsertionSet α

namespace SetMap

variable [DecidableEq κ]

/-- The elements of the key's set, if it has one. -/
def members (key : κ) (m : SetMap κ α) : List α :=
  match m.lookup key with
  | some s => s.items
  | none => []

/-- Drops the key when its set is empty. -/
def prune (key : κ) (m : SetMap κ α) : SetMap κ α :=
  match m.lookup key with
  | some s => if s.size = 0 then m.erase key else m
  | none => m

/-- No key has the empty set. -/
def NoneEmpty (m : SetMap κ α) : Prop :=
  ∀ key s, m.lookup key = some s → s.items ≠ []

variable {key key' : κ} {m : SetMap κ α}

theorem members_nodup : (m.members key).Nodup := by
  unfold members
  split
  · exact InsertionSet.nodup _
  · exact List.nodup_nil

@[simp] theorem members_empty : members key (∅ : SetMap κ α) = [] := by
  simp [members]

theorem members_of_lookup {s : InsertionSet α} (h : m.lookup key = some s) :
    m.members key = s.items := by
  simp [members, h]

theorem members_of_none (h : m.lookup key = none) : m.members key = [] := by
  simp [members, h]

theorem members_congr {m' : SetMap κ α} (h : m.lookup key = m'.lookup key) :
    m.members key = m'.members key := by
  simp [members, h]

theorem lookup_prune_ne (hne : key' ≠ key) : (m.prune key).lookup key' = m.lookup key' := by
  unfold prune
  split
  · split
    · exact AList.lookup_erase_ne hne
    · rfl
  · rfl

/-- The key that is dropped had no member. -/
theorem members_prune : (m.prune key).members key' = m.members key' := by
  by_cases hkey : key' = key
  · subst hkey
    cases hold : m.lookup key' with
    | none => simp [prune, hold]
    | some s =>
      by_cases hsize : s.size = 0
      · have hnil : s.items = [] := List.eq_nil_of_length_eq_zero hsize
        have hgone : m.prune key' = m.erase key' := by simp [prune, hold, hsize]
        have hnone : (m.prune key').members key' = [] :=
          members_of_none (hgone ▸ AList.lookup_erase key' m)
        rw [hnone, members_of_lookup hold, hnil]
      · simp [prune, hold, hsize]
  · exact members_congr (lookup_prune_ne hkey)

theorem members_erase_self : members key (m.erase key) = [] :=
  members_of_none (AList.lookup_erase key m)

theorem NoneEmpty.empty : NoneEmpty (∅ : SetMap κ α) := by
  intro key s h
  simp at h

variable [DecidableEq α] {x y : α}

/-- Adds to the key's set, which is made when there is none. -/
def adjoin (key : κ) (x : α) (m : SetMap κ α) : SetMap κ α :=
  m.insert key (((m.lookup key).getD .empty).add x)

/-- Deletes from the key's set, if there is one. -/
def discard (key : κ) (x : α) (m : SetMap κ α) : SetMap κ α :=
  match m.lookup key with
  | some s => m.insert key (s.delete x)
  | none => m

theorem lookup_adjoin_ne (hne : key' ≠ key) : (m.adjoin key x).lookup key' = m.lookup key' :=
  AList.lookup_insert_ne hne

theorem lookup_discard_ne (hne : key' ≠ key) : (m.discard key x).lookup key' = m.lookup key' := by
  unfold discard
  split
  · exact AList.lookup_insert_ne hne
  · rfl

theorem mem_members_adjoin :
    y ∈ (m.adjoin key x).members key' ↔ (key' = key ∧ y = x) ∨ y ∈ m.members key' := by
  by_cases hkey : key' = key
  · subst hkey
    have hadded : (m.adjoin key' x).members key' = (((m.lookup key').getD .empty).add x).items :=
      members_of_lookup (AList.lookup_insert m)
    cases hold : m.lookup key' with
    | none => simp [hadded, hold, members_of_none hold]
    | some s => simp [hadded, hold, members_of_lookup hold]
  · simp [members_congr (lookup_adjoin_ne hkey), hkey]

theorem mem_members_discard :
    y ∈ (m.discard key x).members key' ↔ ¬ (key' = key ∧ y = x) ∧ y ∈ m.members key' := by
  by_cases hkey : key' = key
  · subst hkey
    cases hold : m.lookup key' with
    | none => simp [discard, hold, members]
    | some s =>
      have hleft : m.discard key' x = m.insert key' (s.delete x) := by simp [discard, hold]
      have hitems : (m.discard key' x).members key' = (s.delete x).items :=
        members_of_lookup (hleft ▸ AList.lookup_insert m)
      simp [hitems, members_of_lookup hold]
  · simp [members_congr (lookup_discard_ne hkey), hkey]

theorem NoneEmpty.adjoin (h : m.NoneEmpty) : (m.adjoin key x).NoneEmpty := by
  intro key' s hs
  by_cases hkey : key' = key
  · subst hkey
    have hadded : (m.adjoin key' x).lookup key' = some (((m.lookup key').getD .empty).add x) :=
      AList.lookup_insert m
    have hset : s = ((m.lookup key').getD .empty).add x := Option.some.inj (hs.symm.trans hadded)
    rw [hset]
    exact InsertionSet.items_add_ne_nil
  · rw [lookup_adjoin_ne hkey] at hs
    exact h key' s hs

/-- What is left of the key's set is dropped when it is empty. -/
theorem NoneEmpty.discard_prune (h : m.NoneEmpty) : ((m.discard key x).prune key).NoneEmpty := by
  intro key' s hs
  by_cases hkey : key' = key
  · subst hkey
    cases hleft : (m.discard key' x).lookup key' with
    | none => simp [prune, hleft] at hs
    | some left =>
      by_cases hsize : left.size = 0
      · simp [prune, hleft, hsize] at hs
      · have hsame : left = s := by simpa [prune, hleft, hsize] using hs
        intro hnil
        exact hsize (by simp [InsertionSet.size, hsame, hnil])
  · rw [lookup_prune_ne hkey, lookup_discard_ne hkey] at hs
    exact h key' s hs

end SetMap

end Foundation
