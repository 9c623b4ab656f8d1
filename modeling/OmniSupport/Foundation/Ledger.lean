import Mathlib.Data.List.Nodup
import Mathlib.Tactic.Common

/-! Work that is looked up in a ledger, carried out and then recorded, by any number of
processes. Nothing is carried out twice as long as no two processes are between lookup
and record on one item, and nobody stops between carrying it out and recording it. -/
namespace Foundation.Ledger

/-- Where one process stands with one item: not at it, carrying it out, or done with it
and about to record it. -/
inductive Phase where
  | off
  | running
  | ran
  deriving DecidableEq

structure State (κ : Type*) where
  phase : Nat → κ → Phase
  recorded : κ → Prop
  completed : List κ

variable {κ : Type*}

structure Once (st : State κ) : Prop where
  nodup : st.completed.Nodup
  recorded : ∀ k ∈ st.completed, st.recorded k ∨ ∃ p, st.phase p k = .ran
  running : ∀ p k, st.phase p k = .running → k ∉ st.completed
  apart : ∀ p q k, st.phase p k ≠ .off → st.phase q k ≠ .off → p = q

/-- `st'` differs from `st` in where process `p` stands with item `k`. -/
structure Moves (st st' : State κ) (p : Nat) (k : κ) (ph : Phase) : Prop where
  self : st'.phase p k = ph
  other : ∀ q j, q ≠ p ∨ j ≠ k → st'.phase q j = st.phase q j

section
variable {st st' : State κ} {p : Nat} {k : κ}

theorem Moves.eq_or {ph : Phase} (h : Moves st st' p k ph) (q : Nat) (j : κ) :
    (q = p ∧ j = k ∧ st'.phase q j = ph) ∨ ((q ≠ p ∨ j ≠ k) ∧ st'.phase q j = st.phase q j) := by
  by_cases hq : q = p
  · by_cases hj : j = k
    · subst hq
      subst hj
      exact Or.inl ⟨rfl, rfl, h.self⟩
    · exact Or.inr ⟨Or.inr hj, h.other q j (Or.inr hj)⟩
  · exact Or.inr ⟨Or.inl hq, h.other q j (Or.inl hq)⟩

/-- The lookup found nothing, and nobody else is at the item. -/
theorem Once.begin (h : Once st) (hm : Moves st st' p k .running)
    (hr : ∀ j, st'.recorded j ↔ st.recorded j) (hc : st'.completed = st.completed)
    (hnew : ¬ st.recorded k) (hfree : ∀ q, st.phase q k = .off) : Once st' where
  nodup := hc ▸ h.nodup
  recorded j hj := by
    rw [hc] at hj
    rcases h.recorded j hj with hrec | ⟨q, hq⟩
    · exact Or.inl ((hr j).mpr hrec)
    · refine Or.inr ⟨q, ?_⟩
      rcases hm.eq_or q j with ⟨-, rfl, -⟩ | ⟨-, he⟩
      · rw [hfree q] at hq
        cases hq
      · rw [he]
        exact hq
  running q j hq := by
    rw [hc]
    rcases hm.eq_or q j with ⟨rfl, rfl, -⟩ | ⟨-, he⟩
    · intro hj
      rcases h.recorded j hj with hrec | ⟨q', hq'⟩
      · exact hnew hrec
      · rw [hfree q'] at hq'
        cases hq'
    · exact h.running q j (he ▸ hq)
  apart q q' j hq hq' := by
    rcases hm.eq_or q j with ⟨rfl, rfl, -⟩ | ⟨-, he⟩ <;>
      rcases hm.eq_or q' j with ⟨rfl, hj, -⟩ | ⟨-, he'⟩
    · rfl
    · exact absurd (he'.trans (hfree q')) hq'
    · subst hj
      exact absurd (he.trans (hfree q)) hq
    · exact h.apart q q' j (he ▸ hq) (he' ▸ hq')

theorem Once.complete (h : Once st) (hm : Moves st st' p k .ran)
    (hr : ∀ j, st'.recorded j ↔ st.recorded j) (hc : st'.completed = k :: st.completed)
    (hp : st.phase p k = .running) : Once st' where
  nodup := by
    rw [hc]
    exact List.nodup_cons.mpr ⟨h.running p k hp, h.nodup⟩
  recorded j hj := by
    rw [hc] at hj
    rcases List.mem_cons.mp hj with rfl | hj
    · exact Or.inr ⟨p, hm.self⟩
    · rcases h.recorded j hj with hrec | ⟨q, hq⟩
      · exact Or.inl ((hr j).mpr hrec)
      · refine Or.inr ⟨q, ?_⟩
        rcases hm.eq_or q j with ⟨-, -, he⟩ | ⟨-, he⟩
        · exact he
        · rw [he]
          exact hq
  running q j hq := by
    rw [hc]
    rcases hm.eq_or q j with ⟨-, -, he⟩ | ⟨hne, he⟩
    · rw [he] at hq
      cases hq
    · rw [he] at hq
      refine List.not_mem_cons_of_ne_of_not_mem ?_ (h.running q j hq)
      rintro rfl
      have hqp : q = p := h.apart q p j (by simp [hq]) (by simp [hp])
      rcases hne with hne | hne
      · exact hne hqp
      · exact hne rfl
  apart q q' j hq hq' := by
    have hoff : ∀ r, st'.phase r j ≠ .off → st.phase r j ≠ .off := by
      intro r hr'
      rcases hm.eq_or r j with ⟨rfl, rfl, -⟩ | ⟨-, he⟩
      · simp [hp]
      · exact he ▸ hr'
    exact h.apart q q' j (hoff q hq) (hoff q' hq')

theorem Once.record (h : Once st) (hm : Moves st st' p k .off)
    (hr : ∀ j, st'.recorded j ↔ st.recorded j ∨ j = k) (hc : st'.completed = st.completed) :
    Once st' where
  nodup := hc ▸ h.nodup
  recorded j hj := by
    rw [hc] at hj
    rcases h.recorded j hj with hrec | ⟨q, hq⟩
    · exact Or.inl ((hr j).mpr (Or.inl hrec))
    · rcases hm.eq_or q j with ⟨-, hjk, -⟩ | ⟨-, he⟩
      · exact Or.inl ((hr j).mpr (Or.inr hjk))
      · exact Or.inr ⟨q, he ▸ hq⟩
  running q j hq := by
    rw [hc]
    rcases hm.eq_or q j with ⟨-, -, he⟩ | ⟨-, he⟩
    · rw [he] at hq
      cases hq
    · exact h.running q j (he ▸ hq)
  apart q q' j hq hq' := by
    have hoff : ∀ r, st'.phase r j ≠ .off → st.phase r j ≠ .off := by
      intro r hr'
      rcases hm.eq_or r j with ⟨-, -, he⟩ | ⟨-, he⟩
      · exact absurd he hr'
      · exact he ▸ hr'
    exact h.apart q q' j (hoff q hq) (hoff q' hq')

/-- Processes may give up what they have not carried out yet. -/
theorem Once.abandon (h : Once st)
    (hp : ∀ q j, st'.phase q j = st.phase q j ∨ (st'.phase q j = .off ∧ st.phase q j ≠ .ran))
    (hr : ∀ j, st.recorded j → st'.recorded j) (hc : st'.completed = st.completed) :
    Once st' where
  nodup := hc ▸ h.nodup
  recorded j hj := by
    rw [hc] at hj
    rcases h.recorded j hj with hrec | ⟨q, hq⟩
    · exact Or.inl (hr j hrec)
    · rcases hp q j with he | ⟨-, hne⟩
      · exact Or.inr ⟨q, he.trans hq⟩
      · exact absurd hq hne
  running q j hq := by
    rw [hc]
    rcases hp q j with he | ⟨he, -⟩
    · exact h.running q j (he ▸ hq)
    · rw [he] at hq
      cases hq
  apart q q' j hq hq' := by
    have hoff : ∀ r, st'.phase r j ≠ .off → st.phase r j ≠ .off := by
      intro r hr'
      rcases hp r j with he | ⟨he, -⟩
      · exact he ▸ hr'
      · exact absurd he hr'
    exact h.apart q q' j (hoff q hq) (hoff q' hq')

end
end Foundation.Ledger
