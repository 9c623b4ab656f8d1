import OmniSupport.Foundation.Sightings

/-! Processes that uphold an invariant among others: each relies on what no statement undoes, and
guarantees the same to the others. -/
namespace Foundation.Process
variable {ρ σ τ κ ε ι ω α β : Type}

section upholds
variable (S : Statements σ τ κ ε) (I : σ → Prop) (R : σ → σ → Prop) (C : σ → τ → Prop)

/-- After the store `s`, from which others may have gone on to any store that `R` relates to it,
every statement keeps the invariant and goes on as `R` has it, and every result is as `Q` says of
the store it is returned in. Statements run under the condition `C`. -/
def Upholds (Q : α → σ → Prop) : Process ρ σ τ ε α → σ → Prop
  | .ret a, s => Q a s
  | .throw _, _ => True
  | .draw next, s => ∀ env n, (next env n).Upholds Q s
  | .call st next, s => ∀ s₁ s₂, R s s₁ → I s₁ → C s₁ st → S.exec st s₁ = .ok s₂ →
    (I s₂ ∧ R s₁ s₂) ∧ (next s₁).Upholds Q s₂
  | .attempt st next, s => ∀ s₁, R s s₁ → I s₁ → next.Upholds Q s₁ ∧
    ∀ s₂, C s₁ st → S.exec st s₁ = .ok s₂ → (I s₂ ∧ R s₁ s₂) ∧ next.Upholds Q s₂

variable {S I R C} {Q : α → σ → Prop} {P : β → σ → Prop} {s : σ}

theorem Upholds.bind {p : Process ρ σ τ ε α} {f : α → Process ρ σ τ ε β}
    (hp : p.Upholds S I R C Q s) (hf : ∀ a s', Q a s' → (f a).Upholds S I R C P s') :
    (p >>= f).Upholds S I R C P s := by
  rw [bind_eq]
  induction p generalizing s with
  | ret a => exact hf a s hp
  | throw e => trivial
  | draw next ih => exact fun env n => ih env n (hp env n)
  | call st next ih =>
    intro s₁ s₂ hR hI hC hexec
    obtain ⟨hkept, hnext⟩ := hp s₁ s₂ hR hI hC hexec
    exact ⟨hkept, ih s₁ hnext⟩
  | attempt st next ih =>
    intro s₁ hR hI
    obtain ⟨hfailed, hdone⟩ := hp s₁ hR hI
    refine ⟨ih hfailed, fun s₂ hC hexec => ?_⟩
    obtain ⟨hkept, hnext⟩ := hdone s₂ hC hexec
    exact ⟨hkept, ih hnext⟩

theorem Upholds.mono {p : Process ρ σ τ ε α} {Q' : α → σ → Prop} (hp : p.Upholds S I R C Q s)
    (hQ : ∀ a s', Q a s' → Q' a s') : p.Upholds S I R C Q' s := by
  induction p generalizing s with
  | ret a => exact hQ a s hp
  | throw e => trivial
  | draw next ih => exact fun env n => ih env n (hp env n)
  | call st next ih =>
    intro s₁ s₂ hR hI hC hexec
    obtain ⟨hkept, hnext⟩ := hp s₁ s₂ hR hI hC hexec
    exact ⟨hkept, ih s₁ hnext⟩
  | attempt st next ih =>
    intro s₁ hR hI
    obtain ⟨hfailed, hdone⟩ := hp s₁ hR hI
    refine ⟨ih hfailed, fun s₂ hC hexec => ?_⟩
    obtain ⟨hkept, hnext⟩ := hdone s₂ hC hexec
    exact ⟨hkept, ih hnext⟩

theorem upholds_pure {a : α} (h : Q a s) : (pure a : Process ρ σ τ ε α).Upholds S I R C Q s := h

theorem upholds_lift {x : Except ε α} (h : ∀ a, x = .ok a → Q a s) :
    (lift x : Process ρ σ τ ε α).Upholds S I R C Q s := by
  cases x with
  | ok a => exact h a rfl
  | error e => trivial

theorem upholds_drawn {f : ρ → Nat → α} (h : ∀ env n, Q (f env n) s) :
    (drawn f : Process ρ σ τ ε α).Upholds S I R C Q s :=
  h

theorem upholds_statement {st : τ} {f : σ → α}
    (h : ∀ s₁ s₂, R s s₁ → I s₁ → C s₁ st → S.exec st s₁ = .ok s₂ →
      (I s₂ ∧ R s₁ s₂) ∧ Q (f s₁) s₂) :
    (statement st f : Process ρ σ τ ε α).Upholds S I R C Q s :=
  h

/-- A statement that leaves the store as it is. -/
theorem upholds_read {st : τ} {f : σ → α} (hrefl : ∀ s, R s s)
    (hread : ∀ s, S.exec st s = .ok s) (h : ∀ s₁, R s s₁ → I s₁ → Q (f s₁) s₁) :
    (statement st f : Process ρ σ τ ε α).Upholds S I R C Q s := by
  intro s₁ s₂ hR hI _ hexec
  rw [hread] at hexec
  cases hexec
  exact ⟨⟨hI, hrefl s₁⟩, h s₁ hR hI⟩

/-- Statements that keep the invariant by themselves. -/
theorem Backed.upholds {V : τ → Prop} {Q : List σ → α → Prop} {seen : List σ}
    {p : Process ρ σ τ ε α} (hp : p.Backed S (fun _ => V) Q seen)
    (hV : ∀ st s₁ s₂, V st → I s₁ → S.exec st s₁ = .ok s₂ → I s₂ ∧ R s₁ s₂) (s : σ) :
    p.Upholds S I R C (fun a _ => ∃ seen, Q seen a) s := by
  induction p generalizing seen s with
  | ret a => exact ⟨seen, hp⟩
  | throw e => trivial
  | draw next ih => exact fun env n => ih env n (hp env n) s
  | call st next ih =>
    intro s₁ s₂ _ hI _ hexec
    exact ⟨hV st s₁ s₂ hp.1 hI hexec, ih s₁ (hp.2 s₁ s₂ hexec) s₂⟩
  | attempt st next ih =>
    intro s₁ _ hI
    refine ⟨ih (hp.2 s₁) s₁, fun s₂ _ hexec => ?_⟩
    exact ⟨hV st s₁ s₂ hp.1 hI hexec, ih (hp.2 s₁) s₂⟩

end upholds

section among
variable {S : Statements σ τ κ ε} {program : ι → Process ρ σ τ ε Unit} {write : ω → σ → σ}
  {I : σ → Prop} {R : σ → σ → Prop} {C : σ → τ → Prop} {W : ω → σ → Prop}

/-- The conditions on the statement that a move runs, and on the writes of others. -/
def Meets (C : σ → τ → Prop) (W : ω → σ → Prop) (c : Pool σ (Process ρ σ τ ε Unit)) :
    Move (Turn ρ ι) ω → Prop
  | .act p turn => ∀ st ∈ pending (c.locals p) turn, C c.shared st
  | .env w => W w c.shared

instance (C : σ → τ → Prop) (W : ω → σ → Prop) [∀ s st, Decidable (C s st)]
    [∀ w s, Decidable (W w s)] (c : Pool σ (Process ρ σ τ ε Unit)) :
    ∀ move : Move (Turn ρ ι) ω, Decidable (Meets C W c move)
  | .act p turn => inferInstanceAs (Decidable (∀ st ∈ pending (c.locals p) turn, C c.shared st))
  | .env w => inferInstanceAs (Decidable (W w c.shared))

/-- A turn upholds the invariant. -/
theorem Upholds.turn (hrefl : ∀ s, R s s)
    (hprogram : ∀ i s, I s → (program i).Upholds S I R C (fun _ _ => True) s) {s₀ s s' : σ}
    {l l' : Process ρ σ τ ε Unit} {a : Turn ρ ι} (hl : l.Upholds S I R C (fun _ _ => True) s₀)
    (hR : R s₀ s) (hI : I s) (hC : ∀ st ∈ pending l a, C s st)
    (hturn : turn S program s l a = some (s', l')) :
    (I s' ∧ R s s') ∧ ∃ s₁, R s₁ s' ∧ l'.Upholds S I R C (fun _ _ => True) s₁ := by
  have hstays : I s ∧ R s s := ⟨hI, hrefl s⟩
  cases l with
  | ret u | throw e =>
    cases a with
    | start i =>
      cases hturn
      exact ⟨hstays, s, hrefl s, hprogram i s hI⟩
    | next | fail => cases hturn
  | draw next =>
    cases a with
    | next env n =>
      cases hturn
      exact ⟨hstays, s₀, hR, hl env n⟩
    | start | fail => cases hturn
  | call st next =>
    cases a with
    | start j => cases hturn
    | fail =>
      cases hturn
      exact ⟨hstays, s, hrefl s, trivial⟩
    | next env n =>
      have hrun := hC st rfl
      simp only [Process.turn] at hturn
      cases hok : S.exec st s with
      | ok t =>
        rw [hok] at hturn
        cases hturn
        obtain ⟨hkept, hnext⟩ := hl s s' hR hI hrun hok
        exact ⟨hkept, s', hrefl s', hnext⟩
      | error e =>
        rw [hok] at hturn
        cases hturn
        exact ⟨hstays, s, hrefl s, trivial⟩
  | attempt st next =>
    obtain ⟨hfailed, hdone⟩ := hl s hR hI
    cases a with
    | start j => cases hturn
    | fail =>
      cases hturn
      exact ⟨hstays, s, hrefl s, hfailed⟩
    | next env n =>
      have hrun := hC st rfl
      simp only [Process.turn] at hturn
      cases hok : S.exec st s with
      | ok t =>
        rw [hok] at hturn
        cases hturn
        obtain ⟨hkept, hnext⟩ := hdone s' hrun hok
        exact ⟨hkept, s', hrefl s', hnext⟩
      | error e =>
        rw [hok] at hturn
        cases hturn
        exact ⟨hstays, s, hrefl s, hfailed⟩

/-- The run rule: what every process upholds, and every write of others, holds in the end, and
nothing that all rely on has been undone. -/
theorem among_upholds (hrefl : ∀ s, R s s) (htrans : ∀ s t u, R s t → R t u → R s u)
    (hprogram : ∀ i s, I s → (program i).Upholds S I R C (fun _ _ => True) s)
    (hwrite : ∀ w s, W w s → I s → I (write w s) ∧ R s (write w s)) {s : σ}
    {c : Pool σ (Process ρ σ τ ε Unit)} {moves : List (Move (Turn ρ ι) ω)} (hI : I s)
    (hwithin : (among S program write).machine.Within (Meets C W) (idle s) moves)
    (hrun : (among S program write).machine.run (idle s) moves = some c) :
    I c.shared ∧ R s c.shared := by
  have hkept : (I c.shared ∧ R s c.shared) ∧
      ∀ p, ∃ s₁, R s₁ c.shared ∧ (c.locals p).Upholds S I R C (fun _ _ => True) s₁ := by
    refine Machine.run_preserves_within _ (fun c₁ move c₂ hc hmove hstep => ?_)
      (P := fun c => (I c.shared ∧ R s c.shared) ∧
        ∀ p, ∃ s₁, R s₁ c.shared ∧ (c.locals p).Upholds S I R C (fun _ _ => True) s₁)
      ⟨⟨hI, hrefl s⟩, fun _ => ⟨s, hrefl s, trivial⟩⟩ hwithin hrun
    obtain ⟨⟨hI₁, hR₁⟩, hlocals⟩ := hc
    have hlater : ∀ s₂ p, R c₁.shared s₂ →
        ∃ s₁, R s₁ s₂ ∧ (c₁.locals p).Upholds S I R C (fun _ _ => True) s₁ := by
      intro s₂ p hR₂
      obtain ⟨s₁, hs₁, hl⟩ := hlocals p
      exact ⟨s₁, htrans _ _ _ hs₁ hR₂, hl⟩
    cases move with
    | env w =>
      obtain ⟨s₂, hw, rfl⟩ := (among S program write).step_env.mp hstep
      cases hw
      obtain ⟨hI₂, hR₂⟩ := hwrite w _ hmove hI₁
      exact ⟨⟨hI₂, htrans _ _ _ hR₁ hR₂⟩, fun p => hlater _ p hR₂⟩
    | act p a =>
      obtain ⟨s₂, l, hact, rfl⟩ := (among S program write).step_act.mp hstep
      obtain ⟨s₁, hs₁, hl⟩ := hlocals p
      obtain ⟨⟨hI₂, hR₂⟩, hnext⟩ := hl.turn hrefl hprogram hs₁ hI₁ hmove hact
      refine ⟨⟨hI₂, htrans _ _ _ hR₁ hR₂⟩, fun q => ?_⟩
      by_cases hq : q = p
      · rw [hq, Pool.put_locals_self]
        exact hnext
      · rw [c₁.put_locals_of_ne s₂ l hq]
        exact hlater s₂ q hR₂
  exact hkept.1

end among
end Foundation.Process
