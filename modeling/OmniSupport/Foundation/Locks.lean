import Mathlib.Logic.Function.Basic
import Mathlib.Tactic.Common

/-! Exclusive locks on keys, held by numbered processes. -/
namespace Foundation

variable {κ : Type*}

structure Locks (κ : Type*) where
  holder : κ → Option Nat

namespace Locks

def empty : Locks κ := ⟨fun _ => none⟩

def free (l : Locks κ) (k : κ) : Prop := l.holder k = none

instance [DecidableEq κ] (l : Locks κ) (k : κ) : Decidable (l.free k) :=
  inferInstanceAs (Decidable (_ = _))

def heldBy (l : Locks κ) (k : κ) (p : Nat) : Prop := l.holder k = some p

theorem heldBy.ne {l : Locks κ} {k k' : κ} {p q : Nat} (h : l.heldBy k p) (h' : l.heldBy k' q)
    (hpq : p ≠ q) : k ≠ k' := by
  rintro rfl
  have hsame : some p = some q := h.symm.trans h'
  exact hpq (Option.some.inj hsame)

section
variable [DecidableEq κ]

def acquire (l : Locks κ) (k : κ) (p : Nat) : Locks κ :=
  ⟨Function.update l.holder k (some p)⟩

/-- What a transaction releases at its end: the one lock it has taken, if any. -/
def release (l : Locks κ) (k : Option κ) : Locks κ :=
  match k with
  | none => l
  | some k => ⟨Function.update l.holder k none⟩

theorem heldBy_acquire (l : Locks κ) (k : κ) (p : Nat) : (l.acquire k p).heldBy k p := by
  simp [acquire, heldBy]

/-- Taking a free lock takes it from nobody. -/
theorem heldBy.acquire {l : Locks κ} {k k' : κ} {p q : Nat} (h : l.heldBy k q)
    (hfree : l.free k') : (l.acquire k' p).heldBy k q := by
  have hne : k ≠ k' := by
    rintro rfl
    rw [heldBy, hfree] at h
    cases h
  simpa [Locks.acquire, heldBy, hne] using h

/-- A process releases only locks of its own. -/
theorem heldBy.release {l : Locks κ} {k : κ} {o : Option κ} {p q : Nat} (h : l.heldBy k q)
    (hpq : q ≠ p) (ho : ∀ k', o = some k' → l.heldBy k' p) : (l.release o).heldBy k q := by
  cases o with
  | none => exact h
  | some k' =>
    have hk' := ho k' rfl
    have hne : k ≠ k' := by
      rintro rfl
      have hsame : some q = some p := h.symm.trans hk'
      exact hpq (Option.some.inj hsame)
    simpa [Locks.release, heldBy, hne] using h

section
variable {l : Locks κ} {p q : Nat} {k : κ} {ks : List κ}

/-- No other process holds one of the keys. -/
def available (l : Locks κ) (ks : List κ) (p : Nat) : Prop :=
  ∀ k ∈ ks, l.free k ∨ l.heldBy k p

instance (l : Locks κ) (k : κ) (p : Nat) : Decidable (l.heldBy k p) :=
  inferInstanceAs (Decidable (_ = _))

instance (l : Locks κ) (ks : List κ) (p : Nat) : Decidable (l.available ks p) :=
  inferInstanceAs (Decidable (∀ k ∈ ks, l.free k ∨ l.heldBy k p))

def acquireAll (l : Locks κ) (ks : List κ) (p : Nat) : Locks κ :=
  ⟨fun k => if k ∈ ks then some p else l.holder k⟩

def releaseAll (l : Locks κ) (p : Nat) : Locks κ :=
  ⟨fun k => if l.heldBy k p then none else l.holder k⟩

omit [DecidableEq κ] in
/-- A key another process holds is not available. -/
theorem available.not_mem (h : l.available ks p) (hk : l.heldBy k q) (hpq : q ≠ p) :
    k ∉ ks := by
  intro hmem
  rcases h k hmem with hfree | hheld
  · have hnone : some q = none := hk.symm.trans hfree
    cases hnone
  · exact hk.ne hheld hpq rfl

theorem heldBy_acquireAll (hk : k ∈ ks) : (l.acquireAll ks p).heldBy k p := by
  simp [acquireAll, heldBy, hk]

theorem heldBy.acquireAll_self (h : l.heldBy k p) : (l.acquireAll ks p).heldBy k p := by
  by_cases hk : k ∈ ks
  · exact heldBy_acquireAll hk
  · simpa [Locks.acquireAll, heldBy, hk] using h

/-- Taking available keys takes none from another process. -/
theorem heldBy.acquireAll (h : l.heldBy k q) (hav : l.available ks p) (hpq : q ≠ p) :
    (l.acquireAll ks p).heldBy k q := by
  have hk : k ∉ ks := hav.not_mem h hpq
  simpa [Locks.acquireAll, heldBy, hk] using h

omit [DecidableEq κ] in
theorem heldBy.releaseAll (h : l.heldBy k q) (hpq : q ≠ p) : (l.releaseAll p).heldBy k q := by
  have hnot : ¬ l.heldBy k p := fun hp => h.ne hp hpq rfl
  exact (if_neg hnot).trans h

end
end
end Locks
end Foundation
