import OmniSupport.Foundation.Traces

/-! Programs that only read, with the number of calls they make: they return their value exactly
when none of these calls fails. -/
namespace Foundation

/-- None of the `k` calls from the `n`-th on fails. -/
def Clear (faults : Nat → Fault) (n k : Nat) : Prop := ∀ i < k, faults (n + i) = .none

instance (faults : Nat → Fault) (n k : Nat) : Decidable (Clear faults n k) :=
  inferInstanceAs (Decidable (∀ i < k, faults (n + i) = .none))

theorem clear_zero {faults : Nat → Fault} {n : Nat} : Clear faults n 0 :=
  fun i hi => absurd hi (Nat.not_lt_zero i)

theorem clear_one {faults : Nat → Fault} {n : Nat} : Clear faults n 1 ↔ faults n = .none := by
  constructor
  · intro h
    exact h 0 Nat.one_pos
  · intro h i hi
    obtain rfl : i = 0 := by omega
    exact h

theorem clear_add {faults : Nat → Fault} {n k k' : Nat} :
    Clear faults n (k + k') ↔ Clear faults n k ∧ Clear faults (n + k) k' := by
  constructor
  · intro h
    refine ⟨fun i hi => h i (by omega), fun i hi => ?_⟩
    rw [Nat.add_assoc]
    exact h (k + i) (by omega)
  · rintro ⟨hfirst, hlater⟩ i hi
    by_cases hik : i < k
    · exact hfirst i hik
    · have hone := hlater (i - k) (by omega)
      rwa [show n + k + (i - k) = n + i by omega] at hone

namespace Effect
variable {ρ σ κ ε α β : Type}

/-- All calls are of certain kinds; the value is returned when the answer is one and `k` calls
come through. -/
structure CountedRun (P : κ → Prop) (faults : Nat → Fault) (w : World σ κ) (d' k : Nat)
    (x : Except ε α) (r : Outcome ε α × World σ κ) : Prop where
  returns : ∀ a, r.1 = .ok a ↔ x = .ok a ∧ Clear faults w.calls.length k
  length : r.1.isOk = true → r.2.calls.length = w.calls.length + k ∧ r.2.draws = d'
  calls : ∃ cs, r.2.calls = w.calls ++ cs ∧ ∀ c ∈ cs, P c.kind
  kept : r.2.committed = w.committed
  outside : r.2.working = none

/-- From draw `d` and the store `s` until draw `d'`. -/
def Counted (P : κ → Prop) (env : ρ) (d d' : Nat) (s : σ) (k : Nat) (x : Except ε α)
    (e : Effect ρ σ κ ε α) : Prop :=
  ∀ faults w, w.working = none → w.draws = d → w.committed = s →
    CountedRun P faults w d' k x (e.run env faults w)

variable {P : κ → Prop} {env : ρ} {d d' d'' k k' : Nat} {s : σ} {x : Except ε α}
  {e : Effect ρ σ κ ε α}

/-- A run that is cut short, or whose answer is an error. -/
theorem CountedRun.stopped {faults : Nat → Fault} {w : World σ κ} {r : Outcome ε α × World σ κ}
    (hno : r.1.isOk = false) (hnot : ∀ a, x = .ok a → ¬Clear faults w.calls.length k)
    (hcalls : ∃ cs, r.2.calls = w.calls ++ cs ∧ ∀ c ∈ cs, P c.kind)
    (hkept : r.2.committed = w.committed) (houtside : r.2.working = none) :
    CountedRun P faults w d' k x r where
  returns a := by
    constructor
    · intro h
      rw [h] at hno
      cases hno
    · intro h
      exact absurd h.2 (hnot a h.1)
  length h := by
    rw [hno] at h
    cases h
  calls := hcalls
  kept := hkept
  outside := houtside

theorem counted_lift (x : Except ε α) :
    Counted P env d d s 0 x (lift x : Effect ρ σ κ ε α) := by
  rintro faults w hw rfl hs
  have hrun : (lift x : Effect ρ σ κ ε α).run env faults w = (Outcome.of x, w) := by
    cases x <;> rfl
  rw [hrun]
  refine ⟨fun a => ?_, fun _ => ⟨rfl, rfl⟩, ⟨[], (List.append_nil _).symm, by simp⟩, rfl, hw⟩
  rw [Outcome.of_eq_ok]
  exact ⟨fun h => ⟨h, clear_zero⟩, fun h => h.1⟩

theorem counted_pure (a : α) :
    Counted P env d d s 0 (.ok a) (pure a : Effect ρ σ κ ε α) := counted_lift (.ok a)

theorem counted_read {c : Client} {kind : κ} {err : ε} {f : σ → α} (hkind : P kind) :
    Counted P env d d s 1 (.ok (f s)) (read c kind err f : Effect ρ σ κ ε α) := by
  rintro faults w hw rfl rfl
  have hview := view_outside hw c
  have hcalls : ∀ fault, ∃ cs, (w.log kind fault).calls = w.calls ++ cs ∧ ∀ c ∈ cs, P c.kind := by
    intro fault
    refine ⟨[⟨kind, fault, w.working.isSome⟩], rfl, fun c hc => ?_⟩
    rw [List.mem_singleton.mp hc]
    exact hkind
  simp only [read, hview]
  cases hfault : faults w.calls.length with
  | none =>
    refine ⟨fun a => ?_, fun _ => ⟨?_, rfl⟩, hcalls .none, rfl, hw⟩
    · rw [clear_one, hfault]
      simp
    · simp [World.log]
  | throws | crash =>
    refine .stopped rfl (fun a _ hclear => ?_) (hcalls _) rfl hw
    rw [clear_one, hfault] at hclear
    cases hclear

theorem Counted.bind {f : α → Effect ρ σ κ ε β} {y : α → Except ε β}
    (he : Counted P env d d' s k x e)
    (hf : ∀ a, x = .ok a → Counted P env d' d'' s k' (y a) (f a)) :
    Counted P env d d'' s (k + k') (x >>= y) (e >>= f) := by
  intro faults w hw hd hs
  obtain ⟨hreturns, hlength, ⟨cs, hcs, hkinds⟩, hkept, houtside⟩ := he faults w hw hd hs
  cases hr : e.run env faults w with
  | mk outcome w' =>
    rw [hr] at hreturns hlength hcs hkept houtside
    cases outcome with
    | ok a =>
      obtain ⟨rfl, hclear⟩ := (hreturns a).mp rfl
      obtain ⟨hlen, hd'⟩ := hlength rfl
      have hnext := hf a rfl faults w' houtside hd' (hkept.trans hs)
      obtain ⟨cs', hcs', hkinds'⟩ := hnext.calls
      rw [bind_run_ok hr]
      refine ⟨fun b => ?_, fun hok => ?_, ⟨cs ++ cs', ?_, fun c hc => ?_⟩, ?_, hnext.outside⟩
      · rw [hnext.returns b, clear_add]
        simp only at hlen
        rw [hlen]
        exact ⟨fun h => ⟨h.1, hclear, h.2⟩, fun h => ⟨h.1, h.2.2⟩⟩
      · obtain ⟨hlen', hd''⟩ := hnext.length hok
        simp only at hlen
        exact ⟨by omega, hd''⟩
      · simp only at hcs
        rw [hcs', hcs, List.append_assoc]
      · rcases List.mem_append.mp hc with hc | hc
        · exact hkinds c hc
        · exact hkinds' c hc
      · exact hnext.kept.trans hkept
    | error err =>
      rw [bind_run_error hr]
      refine .stopped rfl (fun b hb hclear => ?_) ⟨cs, hcs, hkinds⟩ hkept houtside
      obtain ⟨a, hx, -⟩ := bind_eq_ok.mp hb
      have hok := (hreturns a).mpr ⟨hx, (clear_add.mp hclear).1⟩
      cases hok
    | crashed =>
      rw [bind_run_crashed hr]
      refine .stopped rfl (fun b hb hclear => ?_) ⟨cs, hcs, hkinds⟩ hkept houtside
      obtain ⟨a, hx, -⟩ := bind_eq_ok.mp hb
      have hok := (hreturns a).mpr ⟨hx, (clear_add.mp hclear).1⟩
      cases hok

theorem counted_lift_bind {x : Except ε α} {g : α → Effect ρ σ κ ε β} {y : α → Except ε β}
    (h : ∀ a, x = .ok a → Counted P env d d' s k (y a) (g a)) :
    Counted P env d d' s k (x >>= y) (lift x >>= g) := by
  have hwhole := (counted_lift x).bind h
  rwa [Nat.zero_add] at hwhole

/-- When the first answer is a value, the rest answers. -/
theorem Counted.andThen {a : α} {g : α → Effect ρ σ κ ε β} {y : Except ε β}
    (he : Counted P env d d' s k (.ok a) e) (hg : Counted P env d' d'' s k' y (g a)) :
    Counted P env d d'' s (k + k') y (e >>= g) := by
  refine he.bind (y := fun _ => y) fun b hb => ?_
  obtain rfl := Except.ok.inj hb
  exact hg

/-- The same program, counted by what is known to be equal. -/
theorem Counted.of_eq {x' : Except ε α} (h : Counted P env d d' s k x e) (hk : k' = k)
    (hx : x' = x) : Counted P env d d' s k' x' e := by
  rw [hk, hx]
  exact h

theorem CountedRun.isOk_iff {faults : Nat → Fault} {w : World σ κ}
    {r : Outcome ε α × World σ κ} (h : CountedRun P faults w d' k x r) :
    r.1.isOk = true ↔ (∃ a, x = .ok a) ∧ Clear faults w.calls.length k := by
  constructor
  · intro hok
    cases hr : r.1 with
    | ok a =>
      obtain ⟨hx, hclear⟩ := (h.returns a).mp hr
      exact ⟨⟨a, hx⟩, hclear⟩
    | error err =>
      rw [hr] at hok
      cases hok
    | crashed =>
      rw [hr] at hok
      cases hok
  · rintro ⟨⟨a, hx⟩, hclear⟩
    rw [(h.returns a).mpr ⟨hx, hclear⟩]
    rfl

end Effect
end Foundation
