import Mathlib.Logic.Function.Basic
import Mathlib.Tactic.Common

/-! Labelled machines: a partial step function in which the label resolves every
choice, runs as label lists, and the induction rules for them. -/
namespace Foundation

/-- `step s i = none` means that label `i` is not enabled in `s`. -/
structure Machine (σ ι : Type*) where
  step : σ → ι → Option σ

namespace Machine
variable {σ ι : Type*} (m : Machine σ ι)

def run (s : σ) : List ι → Option σ
  | [] => some s
  | i :: is => (m.step s i).bind fun s' => run s' is

@[simp] theorem run_nil (s : σ) : m.run s [] = some s := rfl

theorem run_cons {s s' : σ} {i : ι} {is : List ι} :
    m.run s (i :: is) = some s' ↔ ∃ s₁, m.step s i = some s₁ ∧ m.run s₁ is = some s' := by
  simp only [run, Option.bind_eq_some_iff]

theorem run_append {s s' : σ} {is js : List ι} :
    m.run s (is ++ js) = some s' ↔ ∃ s₁, m.run s is = some s₁ ∧ m.run s₁ js = some s' := by
  induction is generalizing s with
  | nil => simp
  | cons i is ih =>
    simp only [List.cons_append, run_cons, ih]
    constructor
    · rintro ⟨s₁, h₁, s₂, h₂, h₃⟩
      exact ⟨s₂, ⟨s₁, h₁, h₂⟩, h₃⟩
    · rintro ⟨s₂, ⟨s₁, h₁, h₂⟩, h₃⟩
      exact ⟨s₁, h₁, s₂, h₂, h₃⟩

theorem run_snoc {s s' : σ} {is : List ι} {i : ι} :
    m.run s (is ++ [i]) = some s' ↔ ∃ s₁, m.run s is = some s₁ ∧ m.step s₁ i = some s' := by
  rw [run_append]
  constructor
  · rintro ⟨s₁, h₁, h₂⟩
    obtain ⟨s₂, h₃, h₄⟩ := (m.run_cons).mp h₂
    cases h₄
    exact ⟨s₁, h₁, h₃⟩
  · rintro ⟨s₁, h₁, h₂⟩
    exact ⟨s₁, h₁, (m.run_cons).mpr ⟨s', h₂, rfl⟩⟩

/-- Whatever every step preserves, every run preserves. -/
theorem run_preserves {P : σ → Prop} (hstep : ∀ s i s', P s → m.step s i = some s' → P s')
    {s s' : σ} {is : List ι} (h : P s) (hr : m.run s is = some s') : P s' := by
  induction is generalizing s with
  | nil =>
    cases hr
    exact h
  | cons i is ih =>
    obtain ⟨s₁, h₁, h₂⟩ := (m.run_cons).mp hr
    exact ih (hstep s i s₁ h h₁) h₂

/-- Every step of the run meets the condition `C` on its start state and its label. -/
def Within (C : σ → ι → Prop) (s : σ) : List ι → Prop
  | [] => True
  | i :: is => C s i ∧ ∀ s', m.step s i = some s' → Within C s' is

/-- The rule for runs whose steps all meet a condition. -/
theorem run_preserves_within {C : σ → ι → Prop} {P : σ → Prop}
    (hstep : ∀ s i s', P s → C s i → m.step s i = some s' → P s')
    {s s' : σ} {is : List ι} (h : P s) (hc : m.Within C s is) (hr : m.run s is = some s') :
    P s' := by
  induction is generalizing s with
  | nil =>
    cases hr
    exact h
  | cons i is ih =>
    obtain ⟨s₁, h₁, h₂⟩ := (m.run_cons).mp hr
    exact ih (hstep s i s₁ h hc.1 h₁) (hc.2 s₁ h₁) h₂

theorem Within.mono {C D : σ → ι → Prop} {s : σ} {is : List ι} (h : m.Within C s is)
    (hcd : ∀ s i, C s i → D s i) : m.Within D s is := by
  induction is generalizing s with
  | nil => trivial
  | cons i is ih => exact ⟨hcd s i h.1, fun s' hs => ih (h.2 s' hs)⟩

/-- A weaker condition is enough in states that a run made of certain labels reaches. -/
theorem Within.of_invariant {C D : σ → ι → Prop} {P : σ → Prop} {L : ι → Prop} {s : σ}
    {is : List ι} (h : m.Within D s is) (hP : P s) (hl : ∀ i ∈ is, L i)
    (hstep : ∀ s i s', P s → L i → m.step s i = some s' → P s')
    (hcd : ∀ s i, P s → D s i → C s i) : m.Within C s is := by
  induction is generalizing s with
  | nil => trivial
  | cons i is ih =>
    refine ⟨hcd s i hP h.1, fun s' hs => ih (h.2 s' hs) ?_ ?_⟩
    · exact hstep s i s' hP (hl i List.mem_cons_self) hs
    · exact fun j hj => hl j (List.mem_cons_of_mem _ hj)

/-- The step after the first part of the run meets the condition. -/
theorem Within.step_at {C : σ → ι → Prop} {s s₁ : σ} {is js : List ι} {i : ι}
    (h : m.Within C s (is ++ i :: js)) (hr : m.run s is = some s₁) : C s₁ i := by
  induction is generalizing s with
  | nil =>
    cases hr
    exact h.1
  | cons j is ih =>
    obtain ⟨s₂, h₁, h₂⟩ := (m.run_cons).mp hr
    exact ih (h.2 s₂ h₁) h₂

theorem Within.of_append {C : σ → ι → Prop} {s : σ} {is js : List ι}
    (h : m.Within C s (is ++ js)) : m.Within C s is := by
  induction is generalizing s with
  | nil => trivial
  | cons i is ih => exact ⟨h.1, fun s' hs => ih (h.2 s' hs)⟩

/-- A condition on the labels alone holds within the run if it holds of each label. -/
theorem within_of_labels {D : ι → Prop} {s : σ} {is : List ι} (hd : ∀ i ∈ is, D i) :
    m.Within (fun _ i => D i) s is := by
  induction is generalizing s with
  | nil => trivial
  | cons i is ih =>
    exact ⟨hd i List.mem_cons_self, fun s' _ => ih fun j hj => hd j (List.mem_cons_of_mem _ hj)⟩

theorem Within.and_labels {C : σ → ι → Prop} {D : ι → Prop} {s : σ} {is : List ι}
    (h : m.Within C s is) (hd : ∀ i ∈ is, D i) : m.Within (fun s i => C s i ∧ D i) s is := by
  induction is generalizing s with
  | nil => trivial
  | cons i is ih =>
    exact ⟨⟨h.1, hd i List.mem_cons_self⟩,
      fun s' hs => ih (h.2 s' hs) fun j hj => hd j (List.mem_cons_of_mem _ hj)⟩

instance Within.decidable (C : σ → ι → Prop) [∀ s i, Decidable (C s i)] :
    ∀ (is : List ι) (s : σ), Decidable (m.Within C s is)
  | [], _ => isTrue trivial
  | i :: is, s =>
    match h : m.step s i with
    | none => decidable_of_iff (C s i) (by simp [Within, h])
    | some s₁ =>
      have := Within.decidable C is s₁
      decidable_of_iff (C s i ∧ m.Within C s₁ is) (by simp [Within, h])

section
variable {γ : Type*} (note : σ → ι → σ → List γ)

/-- The machine beside a log: what `note` reads off a step is put in front of it. -/
def logged : Machine (σ × List γ) ι where
  step c i := (m.step c.1 i).map fun s' => (s', note c.1 i s' ++ c.2)

variable {m note}

theorem logged_step {c c' : σ × List γ} {i : ι} : (m.logged note).step c i = some c' ↔
    m.step c.1 i = some c'.1 ∧ c'.2 = note c.1 i c'.1 ++ c.2 := by
  simp only [logged, Option.map_eq_some_iff]
  constructor
  · rintro ⟨s', hs, rfl⟩
    exact ⟨hs, rfl⟩
  · rintro ⟨hs, hlog⟩
    exact ⟨c'.1, hs, Prod.ext rfl hlog.symm⟩

/-- The log is an observer: without it, the run is one of the machine. -/
theorem run_of_logged {c c' : σ × List γ} {is : List ι}
    (h : (m.logged note).run c is = some c') : m.run c.1 is = some c'.1 := by
  induction is generalizing c with
  | nil =>
    cases h
    rfl
  | cons i is ih =>
    obtain ⟨c₁, hstep, hrest⟩ := (Machine.run_cons _).mp h
    exact (m.run_cons).mpr ⟨c₁.1, (logged_step.mp hstep).1, ih hrest⟩

/-- Every run of the machine has a log. -/
theorem exists_logged {c : σ × List γ} {is : List ι} {s' : σ} (h : m.run c.1 is = some s') :
    ∃ log, (m.logged note).run c is = some (s', log) := by
  induction is generalizing c with
  | nil =>
    cases h
    exact ⟨c.2, rfl⟩
  | cons i is ih =>
    obtain ⟨s₁, hstep, hrest⟩ := (m.run_cons).mp h
    have hlogged : (m.logged note).step c i = some (s₁, note c.1 i s₁ ++ c.2) :=
      logged_step.mpr ⟨hstep, rfl⟩
    obtain ⟨log, hlog⟩ := ih (c := (s₁, note c.1 i s₁ ++ c.2)) hrest
    exact ⟨log, (Machine.run_cons _).mpr ⟨_, hlogged, hlog⟩⟩

end

end Machine
end Foundation
