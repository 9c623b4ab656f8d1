import OmniSupport.Foundation.Pool

/-! Hidden actions: when they leave every state related to itself, a run and the same run
without them end in related states. -/
namespace Foundation

namespace Machine
variable {σ ι : Type*} (m : Machine σ ι)

/-- Visible steps are matched from related states; hidden ones that meet the condition
leave the state related to the one the other run is in. -/
structure Unwinds (hidden : ι → Bool) (C : σ → ι → Prop) (R : σ → σ → Prop) : Prop where
  visible : ∀ s t i s', R s t → hidden i = false → m.step s i = some s' →
    ∃ t', m.step t i = some t' ∧ R s' t'
  hidden : ∀ s t i s', R s t → hidden i = true → C s i → m.step s i = some s' → R s' t

/-- The run rule. -/
theorem Unwinds.run {m : Machine σ ι} {hidden : ι → Bool} {C : σ → ι → Prop} {R : σ → σ → Prop}
    (h : m.Unwinds hidden C R) {s t s' : σ} {is : List ι} (hR : R s t) (hc : m.Within C s is)
    (hrun : m.run s is = some s') :
    ∃ t', m.run t (is.filter fun i => !hidden i) = some t' ∧ R s' t' := by
  induction is generalizing s t with
  | nil =>
    cases hrun
    exact ⟨t, rfl, hR⟩
  | cons i is ih =>
    obtain ⟨s₁, hstep, hrest⟩ := (m.run_cons).mp hrun
    have hc' := hc.2 s₁ hstep
    cases hi : hidden i with
    | true =>
      have hR' := h.hidden s t i s₁ hR hi hc.1 hstep
      rw [List.filter_cons_of_neg (by simp [hi])]
      exact ih hR' hc' hrest
    | false =>
      obtain ⟨t₁, ht, hR'⟩ := h.visible s t i s₁ hR hi hstep
      obtain ⟨t', hlast, hend⟩ := ih hR' hc' hrest
      rw [List.filter_cons_of_pos (by simp [hi])]
      exact ⟨t', (m.run_cons).mpr ⟨t₁, ht, hlast⟩, hend⟩

end Machine

namespace Program
variable {σ lo α ε : Type*} (P : Program σ lo α ε)

/-- Related shared states, with the processes in related local states. -/
def PoolRel (Rs : σ → σ → Prop) (Rl : lo → lo → Prop) (c d : Pool σ lo) : Prop :=
  Rs c.shared d.shared ∧ ∀ p, Rl (c.locals p) (d.locals p)

theorem PoolRel.put {Rs : σ → σ → Prop} {Rl : lo → lo → Prop} {c d : Pool σ lo} {p : Nat}
    {s t : σ} {l k : lo} (h : PoolRel Rs Rl c d) (hs : Rs s t) (hl : Rl l k) :
    PoolRel Rs Rl (c.put p s l) (d.put p t k) := by
  refine ⟨hs, fun q => ?_⟩
  by_cases hq : q = p
  · subst hq
    rw [Pool.put_locals_self, Pool.put_locals_self]
    exact hl
  · rw [c.put_locals_of_ne s l hq, d.put_locals_of_ne t k hq]
    exact h.2 q

theorem PoolRel.put_left {Rs : σ → σ → Prop} {Rl : lo → lo → Prop} {c d : Pool σ lo} {p : Nat}
    {s : σ} {l : lo} (h : PoolRel Rs Rl c d) (hs : Rs s d.shared) (hl : Rl l (d.locals p)) :
    PoolRel Rs Rl (c.put p s l) d := by
  refine ⟨hs, fun q => ?_⟩
  by_cases hq : q = p
  · subst hq
    rw [Pool.put_locals_self]
    exact hl
  · rw [c.put_locals_of_ne s l hq]
    exact h.2 q

/-- A move of a pool is hidden when its action is. -/
def hiddenMove (hidden : α → Bool) : Move α ε → Bool
  | .act _ a => hidden a
  | .env _ => false

/-- What one action has to show. -/
structure Unwinds (hidden : α → Bool) (C : σ → lo → α → Prop) (Rs : σ → σ → Prop)
    (Rl : lo → lo → Prop) : Prop where
  visible : ∀ p s t l k a s' l', Rs s t → Rl l k → hidden a = false → P.act p s l a = some (s', l') →
    ∃ t' k', P.act p t k a = some (t', k') ∧ Rs s' t' ∧ Rl l' k'
  hidden : ∀ p s t l k a s' l', Rs s t → Rl l k → hidden a = true → C s l a →
    P.act p s l a = some (s', l') → Rs s' t ∧ Rl l' k
  env : ∀ s t e s', Rs s t → P.env s e = some s' → ∃ t', P.env t e = some t' ∧ Rs s' t'

/-- The condition of an action, as one of the move. -/
def OfAction (C : σ → lo → α → Prop) (c : Pool σ lo) : Move α ε → Prop
  | .act p a => C c.shared (c.locals p) a
  | .env _ => True

instance (C : σ → lo → α → Prop) [∀ s l a, Decidable (C s l a)] (c : Pool σ lo)
    (move : Move α ε) : Decidable (OfAction C c move) :=
  match move with
  | .act p a => inferInstanceAs (Decidable (C c.shared (c.locals p) a))
  | .env _ => isTrue trivial

variable {P}

theorem Unwinds.machine {hidden : α → Bool} {C : σ → lo → α → Prop} {Rs : σ → σ → Prop}
    {Rl : lo → lo → Prop} (h : P.Unwinds hidden C Rs Rl) :
    P.machine.Unwinds (hiddenMove hidden) (OfAction C) (PoolRel Rs Rl) where
  visible c d i c' hR hi hstep := by
    cases i with
    | act p a =>
      obtain ⟨s, l, ha, rfl⟩ := P.step_act.mp hstep
      obtain ⟨t, k, hmatch, hs, hl⟩ := h.visible p _ _ _ _ a s l hR.1 (hR.2 p) hi ha
      exact ⟨d.put p t k, P.step_act.mpr ⟨t, k, hmatch, rfl⟩, hR.put hs hl⟩
    | env e =>
      obtain ⟨s, he, rfl⟩ := P.step_env.mp hstep
      obtain ⟨t, hmatch, hs⟩ := h.env _ _ e s hR.1 he
      exact ⟨{ d with shared := t }, P.step_env.mpr ⟨t, hmatch, rfl⟩, hs, hR.2⟩
  hidden c d i c' hR hi hc hstep := by
    cases i with
    | act p a =>
      obtain ⟨s, l, ha, rfl⟩ := P.step_act.mp hstep
      obtain ⟨hs, hl⟩ := h.hidden p _ _ _ _ a s l hR.1 (hR.2 p) hi hc ha
      exact hR.put_left hs hl
    | env e => cases hi

end Program
end Foundation
