import OmniSupport.Foundation.Machine

/-! Any number of sequential processes over one shared state. A step is one atomic
action of one process, or a step of the environment; every interleaving is a run. -/
namespace Foundation

/-- `act p s l a` is process `p`, in local state `l`, performing action `a`. -/
structure Program (σ lo α ε : Type*) where
  act : Nat → σ → lo → α → Option (σ × lo)
  env : σ → ε → Option σ

structure Pool (σ lo : Type*) where
  shared : σ
  locals : Nat → lo

inductive Move (α ε : Type*) where
  | act (p : Nat) (a : α)
  | env (e : ε)
  deriving DecidableEq

namespace Pool
variable {σ lo : Type*}

/-- Process `p` leaves the shared state `s` and its own local state `l`. -/
def put (c : Pool σ lo) (p : Nat) (s : σ) (l : lo) : Pool σ lo :=
  ⟨s, Function.update c.locals p l⟩

@[simp] theorem put_shared (c : Pool σ lo) (p : Nat) (s : σ) (l : lo) :
    (c.put p s l).shared = s := rfl

@[simp] theorem put_locals_self (c : Pool σ lo) (p : Nat) (s : σ) (l : lo) :
    (c.put p s l).locals p = l := by
  simp [put]

theorem put_locals_of_ne (c : Pool σ lo) {p q : Nat} (s : σ) (l : lo) (h : q ≠ p) :
    (c.put p s l).locals q = c.locals q := by
  simp [put, h]

end Pool

namespace Program
variable {σ lo α ε : Type*} (P : Program σ lo α ε)

def machine : Machine (Pool σ lo) (Move α ε) where
  step c
    | .act p a => (P.act p c.shared (c.locals p) a).map fun r => c.put p r.1 r.2
    | .env e => (P.env c.shared e).map fun s => { c with shared := s }

theorem step_act {c c' : Pool σ lo} {p : Nat} {a : α} :
    P.machine.step c (.act p a) = some c' ↔
      ∃ s l, P.act p c.shared (c.locals p) a = some (s, l) ∧ c' = c.put p s l := by
  simp only [machine, Option.map_eq_some_iff, Prod.exists]
  constructor
  · rintro ⟨s, l, h, rfl⟩
    exact ⟨s, l, h, rfl⟩
  · rintro ⟨s, l, h, rfl⟩
    exact ⟨s, l, h, rfl⟩

theorem step_env {c c' : Pool σ lo} {e : ε} :
    P.machine.step c (.env e) = some c' ↔
      ∃ s, P.env c.shared e = some s ∧ c' = { c with shared := s } := by
  simp only [machine, Option.map_eq_some_iff]
  constructor
  · rintro ⟨s, h, rfl⟩
    exact ⟨s, h, rfl⟩
  · rintro ⟨s, h, rfl⟩
    exact ⟨s, h, rfl⟩

/-- An action the program allows is a step, and shows in the state and in its actor. -/
theorem step_of_act {c : Pool σ lo} {p : Nat} {a : α} {s : σ} {l : lo}
    (h : P.act p c.shared (c.locals p) a = some (s, l)) :
    ∃ c', P.machine.step c (.act p a) = some c' ∧ c'.shared = s ∧ c'.locals p = l :=
  ⟨c.put p s l, P.step_act.mpr ⟨s, l, h, rfl⟩, rfl, Pool.put_locals_self ..⟩

theorem step_of_env {c : Pool σ lo} {e : ε} {s : σ} (h : P.env c.shared e = some s) :
    ∃ c', P.machine.step c (.env e) = some c' ∧ c'.shared = s ∧ c'.locals = c.locals :=
  ⟨{ c with shared := s }, P.step_env.mpr ⟨s, h, rfl⟩, rfl, rfl⟩

/-- The processes from `n` on take no action. -/
def ActorsBelow (n : Nat) : Move α ε → Prop
  | .act p _ => p < n
  | .env _ => True

instance (n : Nat) : DecidablePred (ActorsBelow n : Move α ε → Prop)
  | .act p _ => inferInstanceAs (Decidable (p < n))
  | .env _ => isTrue trivial

theorem locals_of_actorsBelow {c c' : Pool σ lo} {i : Move α ε} {n q : Nat}
    (hi : ActorsBelow n i) (hq : n ≤ q) (hs : P.machine.step c i = some c') :
    c'.locals q = c.locals q := by
  cases i with
  | act p a =>
    obtain ⟨s, l, -, rfl⟩ := P.step_act.mp hs
    have hp : p < n := hi
    exact c.put_locals_of_ne s l (by omega)
  | env e =>
    obtain ⟨s, -, rfl⟩ := P.step_env.mp hs
    rfl

/-- An annotation of the program: an invariant of the shared state, an assertion of
each process about its local and the shared state, and one of each two processes. -/
structure Outline (σ lo : Type*) where
  inv : σ → Prop
  own : Nat → lo → σ → Prop
  pair : lo → lo → Prop

structure Outline.Holds (O : Outline σ lo) (c : Pool σ lo) : Prop where
  inv : O.inv c.shared
  own : ∀ p, O.own p (c.locals p) c.shared
  pair : ∀ p q, p ≠ q → O.pair (c.locals p) (c.locals q)

/-- What one step has to show: the actor establishes its own assertion, and no
assertion of another process is destroyed. -/
structure Outline.Valid (O : Outline σ lo) (C : Pool σ lo → Move α ε → Prop) : Prop where
  symm : ∀ l k, O.pair l k → O.pair k l
  act : ∀ (c : Pool σ lo) p a s l, O.Holds c → C c (.act p a) →
    P.act p c.shared (c.locals p) a = some (s, l) → O.inv s ∧ O.own p l s
  others : ∀ (c : Pool σ lo) p a s l, O.Holds c → C c (.act p a) →
    P.act p c.shared (c.locals p) a = some (s, l) →
    ∀ q, q ≠ p → O.own q (c.locals q) s ∧ O.pair l (c.locals q)
  env : ∀ (c : Pool σ lo) e s, O.Holds c → C c (.env e) → P.env c.shared e = some s →
    O.inv s ∧ ∀ q, O.own q (c.locals q) s

variable {P} {O : Outline σ lo} {C : Pool σ lo → Move α ε → Prop}

theorem Outline.Valid.step (hv : O.Valid P C) (c : Pool σ lo) (i : Move α ε) (c' : Pool σ lo)
    (h : O.Holds c) (hc : C c i) (hs : P.machine.step c i = some c') : O.Holds c' := by
  cases i with
  | act p a =>
    obtain ⟨s, l, ha, rfl⟩ := P.step_act.mp hs
    obtain ⟨hinv, hown⟩ := hv.act c p a s l h hc ha
    have hoth := hv.others c p a s l h hc ha
    refine ⟨hinv, fun q => ?_, fun q r hqr => ?_⟩
    · by_cases hq : q = p
      · subst q
        simpa using hown
      · simpa [c.put_locals_of_ne s l hq] using (hoth q hq).1
    · by_cases hq : q = p
      · subst q
        simpa [c.put_locals_of_ne s l (Ne.symm hqr)] using (hoth r (Ne.symm hqr)).2
      · by_cases hr : r = p
        · subst r
          simpa [c.put_locals_of_ne s l hq] using hv.symm _ _ (hoth q hq).2
        · simpa [c.put_locals_of_ne s l hq, c.put_locals_of_ne s l hr] using h.pair q r hqr
  | env e =>
    obtain ⟨s, he, rfl⟩ := P.step_env.mp hs
    obtain ⟨hinv, hown⟩ := hv.env c e s h hc he
    exact ⟨hinv, hown, h.pair⟩

/-- The run rule: a valid outline holds in every state a run reaches, as long as the
steps of the run meet the condition the outline was shown valid under. -/
theorem Outline.Valid.run_within (hv : O.Valid P C) {c c' : Pool σ lo} {is : List (Move α ε)}
    (h : O.Holds c) (hc : P.machine.Within C c is) (hr : P.machine.run c is = some c') :
    O.Holds c' :=
  P.machine.run_preserves_within hv.step h hc hr

theorem Outline.Valid.run (hv : O.Valid P fun _ _ => True) {c c' : Pool σ lo}
    {is : List (Move α ε)} (h : O.Holds c) (hr : P.machine.run c is = some c') : O.Holds c' :=
  P.machine.run_preserves (fun s i s' hs hst => hv.step s i s' hs trivial hst) h hr

end Program
end Foundation
