import Mathlib.Data.List.Basic
import Mathlib.Tactic.Common

/-! Texts joined with a separator: when the parts can be read back. -/
namespace Foundation.Text

section
variable {α : Type*} {sep : α} {a a' b b' : List α}

/-- The first part is determined when it does not contain the separator. -/
theorem append_sep_inj_left (ha : sep ∉ a) (ha' : sep ∉ a')
    (h : a ++ sep :: b = a' ++ sep :: b') : a = a' ∧ b = b' := by
  induction a generalizing a' with
  | nil =>
    cases a' with
    | nil => simpa using h
    | cons x a' =>
      simp only [List.nil_append, List.cons_append, List.cons.injEq] at h
      exact absurd (h.1 ▸ List.mem_cons_self) ha'
  | cons x a ih =>
    cases a' with
    | nil =>
      simp only [List.nil_append, List.cons_append, List.cons.injEq] at h
      exact absurd (h.1 ▸ List.mem_cons_self) ha
    | cons y a' =>
      simp only [List.cons_append, List.cons.injEq] at h
      obtain ⟨rfl, h⟩ := h
      obtain ⟨rfl, hb⟩ := ih (fun hm => ha (List.mem_cons_of_mem _ hm))
        (fun hm => ha' (List.mem_cons_of_mem _ hm)) h
      exact ⟨rfl, hb⟩

/-- The last part is determined when it does not contain the separator. -/
theorem append_sep_inj_right (hb : sep ∉ b) (hb' : sep ∉ b')
    (h : a ++ sep :: b = a' ++ sep :: b') : a = a' ∧ b = b' := by
  have hrev : b.reverse ++ sep :: a.reverse = b'.reverse ++ sep :: a'.reverse := by
    simpa using congrArg List.reverse h
  obtain ⟨h₁, h₂⟩ := append_sep_inj_left (by simpa using hb) (by simpa using hb') hrev
  exact ⟨List.reverse_injective h₂, List.reverse_injective h₁⟩

end

theorem toString_nat_injective {m n : Nat} (h : toString m = toString n) : m = n := by
  have hd : Nat.toDigits 10 m = Nat.toDigits 10 n := by
    have ht := congrArg String.toList h
    simpa [Nat.toString_eq_ofList_toDigits] using ht
  rw [← Nat.ofDigitChars_ten_toDigits (n := m), hd, Nat.ofDigitChars_ten_toDigits]

theorem notMem_toString_nat {ch : Char} (hc : ch.isDigit = false) (n : Nat) :
    ch ∉ (toString n).toList := by
  intro hm
  rw [Nat.toString_eq_ofList_toDigits, String.toList_ofList] at hm
  have hdigit := Nat.isDigit_of_mem_toDigits (by decide) (by decide) hm
  rw [hc] at hdigit
  cases hdigit

end Foundation.Text
