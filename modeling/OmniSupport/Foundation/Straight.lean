import OmniSupport.Foundation.Refusal

/-! Calls that come to a write and then have a fixed number of statements left: which schedules
of faults leave that work undone. -/
namespace Foundation.Process
open Effect

variable {ρ σ τ κ ε α β : Type} (S : Statements σ τ κ ε) (env : ρ) (Q : σ → Prop)

/-- Exactly `k` statements are left, in the store `s`. `Q` holds once all of them have run,
and not before. -/
def Owes : Process ρ σ τ ε α → Nat → Nat → σ → Prop
  | .ret _, _, k, s => k = 0 ∧ Q s
  | .throw _, _, _, _ => False
  | .draw next, d, k, s => (next env d).Owes (d + 1) k s
  | .call st next, d, k, s =>
    ¬ Q s ∧ ∃ j s', k = j + 1 ∧ S.exec st s = .ok s' ∧ (next s).Owes d j s'
  | .attempt st next, _, k, s =>
    ¬ Q s ∧ k = 1 ∧ (∃ a, next = .ret a) ∧ ∃ s', S.exec st s = .ok s' ∧ Q s'

/-- `Q` holds before the first statement and after each. -/
def Keeps : Process ρ σ τ ε α → Nat → σ → Prop
  | .ret _, _, s | .throw _, _, s => Q s
  | .draw next, d, s => (next env d).Keeps (d + 1) s
  | .call st next, d, s => Q s ∧ ∀ s', S.exec st s = .ok s' → (next s).Keeps d s'
  | .attempt st next, _, s =>
    (∃ a, next = .ret a) ∧ Q s ∧ ∀ s', S.exec st s = .ok s' → Q s'

/-- `m` statements that `Q` does not depend on, then one after which `k` statements are owed. -/
def Opens : Process ρ σ τ ε α → Nat → Nat → Nat → σ → Prop
  | .draw next, d, m, k, s => (next env d).Opens (d + 1) m k s
  | .call st next, d, m, k, s => Q s ∧ ∃ s', S.exec st s = .ok s' ∧
      (m = 0 ∧ (next s).Owes S env Q d k s' ∨ ∃ j, m = j + 1 ∧ (next s).Opens d j k s')
  | .ret _, _, _, _, _ | .throw _, _, _, _, _ | .attempt _ _, _, _, _, _ => False

/-- After `n` statements: nothing fails up to the one that comes after `m` others, but one of
the `k` statements behind it does. -/
def Interrupted (faults : Nat → Fault) (n m k : Nat) : Prop :=
  (∀ i ≤ m, faults (n + i) = .none) ∧ ¬ ∀ i < k, faults (n + m + 1 + i) = .none

theorem interrupted_zero {faults : Nat → Fault} {n k : Nat} (h : faults n = .none) :
    Interrupted faults n 0 k ↔ ¬ ∀ i < k, faults (n + 1 + i) = .none := by
  have hfirst : ∀ i ≤ 0, faults (n + i) = .none := by
    intro i hi
    rw [Nat.le_zero.mp hi]
    exact h
  exact ⟨fun hinterrupted => hinterrupted.2, fun hfault => ⟨hfirst, hfault⟩⟩

theorem interrupted_succ {faults : Nat → Fault} {n m k : Nat} (h : faults n = .none) :
    Interrupted faults n (m + 1) k ↔ Interrupted faults (n + 1) m k := by
  have hlast : n + (m + 1) + 1 = n + 1 + m + 1 := by omega
  simp only [Interrupted, hlast]
  refine and_congr_left fun _ => ⟨fun hall i hi => ?_, fun hall i hi => ?_⟩
  · have hone := hall (i + 1) (by omega)
    rwa [show n + 1 + i = n + (i + 1) by omega]
  · cases i with
    | zero => exact h
    | succ i =>
      have hone := hall i (by omega)
      rwa [show n + (i + 1) = n + 1 + i by omega]

section runs
variable {S env Q} {p : Process ρ σ τ ε α} {d k m : Nat} {s s' : σ} {w : World σ κ}
  {faults : Nat → Fault}

/-- What a statement leaves of the world, by its fault. -/
theorem awaited_run (env : ρ) (faults : Nat → Fault) {st : τ} (hw : w.working = none)
    (hs : w.committed = s)
    (hexec : S.exec st s = .ok s') :
    (faults w.calls.length ≠ .none ∧
      ∃ r w', (awaited S st).run env faults w = (r, w') ∧ r.isOk = false ∧
        w'.committed = s) ∨
    faults w.calls.length = .none ∧ ∃ w', (awaited S st).run env faults w = (.ok s, w') ∧
      w'.committed = s' ∧ w'.working = none ∧ w'.draws = w.draws ∧
        w'.calls.length = w.calls.length + 1 := by
  have hview : w.view (S.client st) = s := by rw [view_outside hw, hs]
  simp only [awaited, Effect.call]
  cases faults w.calls.length with
  | crash => exact .inl ⟨by simp, _, _, rfl, rfl, hs⟩
  | throws => exact .inl ⟨by simp, _, _, rfl, rfl, hs⟩
  | none =>
    right
    rw [hview, hexec]
    have hlog : (w.log (S.kind st) .none).working = none := hw
    refine ⟨rfl, _, rfl, ?_, ?_, ?_, ?_⟩ <;> rw [write_outside hlog]
    · exact hw
    · rfl
    · simp [World.log]

theorem bind_run_stopped {e : Effect ρ σ κ ε α} {f : α → Effect ρ σ κ ε β} {r : Outcome ε α}
    {w' : World σ κ} (h : e.run env faults w = (r, w')) (hno : r.isOk = false) :
    ((e >>= f).run env faults w).2 = w' := by
  cases r with
  | ok a => cases hno
  | error x => rw [bind_run_error h]
  | crashed => rw [bind_run_crashed h]

theorem logged_run (env : ρ) (faults : Nat → Fault) {st : τ} (hw : w.working = none)
    (hs : w.committed = s) (hexec : S.exec st s = .ok s') :
    ∃ r w', (logged S st).run env faults w = (r, w') ∧
      (faults w.calls.length ≠ .none ∧ w'.committed = s ∨
        faults w.calls.length = .none ∧ w'.committed = s') := by
  have hview : w.view (S.client st) = s := by rw [view_outside hw, hs]
  simp only [logged, rethrowInTransaction, hw, swallow, Effect.call]
  cases faults w.calls.length with
  | crash => exact ⟨_, _, rfl, .inl ⟨by simp, hs⟩⟩
  | throws => exact ⟨_, _, rfl, .inl ⟨by simp, hs⟩⟩
  | none =>
    rw [hview, hexec]
    have hlog : (w.log (S.kind st) .none).working = none := hw
    refine ⟨_, _, rfl, .inr ⟨rfl, ?_⟩⟩
    rw [write_outside hlog]

/-- The owed statements are all run, exactly when none of them fails. -/
theorem Owes.run (h : p.Owes S env Q d k s) (hw : w.working = none) (hd : w.draws = d)
    (hs : w.committed = s) :
    Q ((toEffect S p).run env faults w).2.committed ↔
      ∀ i < k, faults (w.calls.length + i) = .none := by
  induction p generalizing d k s w with
  | ret a =>
    obtain ⟨rfl, hQ⟩ := h
    subst hs
    exact ⟨fun _ i hi => absurd hi (Nat.not_lt_zero i), fun _ => hQ⟩
  | throw e => exact h.elim
  | draw next ih =>
    have hrun : (Effect.draw (fun env n => (env, n)) : Effect ρ σ κ ε (ρ × Nat)).run env faults w =
        (.ok (env, w.draws), { w with draws := w.draws + 1 }) := rfl
    have hnext : (next env w.draws).Owes S env Q (w.draws + 1) k s := hd ▸ h
    rw [toEffect, bind_run_ok hrun]
    exact ih env w.draws (w := { w with draws := w.draws + 1 }) hnext hw rfl hs
  | call st next ih =>
    obtain ⟨hnot, j, s₁, rfl, hexec, hnext⟩ := h
    rw [toEffect]
    rcases awaited_run env faults hw hs hexec with
      ⟨hfault, r, w', hrun, hno, hsame⟩ | ⟨hnone, w', hrun, hs', hw', hd', hlen⟩
    · rw [bind_run_stopped hrun hno, hsame]
      refine ⟨fun hQ => absurd hQ hnot, fun hall => ?_⟩
      exact absurd (hall 0 (Nat.succ_pos j)) hfault
    · rw [bind_run_ok hrun, ih s hnext hw' (hd'.trans hd) hs', hlen]
      constructor
      · intro hall i hi
        cases i with
        | zero => exact hnone
        | succ i =>
          have hone := hall i (by omega)
          rwa [show w.calls.length + (i + 1) = w.calls.length + 1 + i by omega]
      · intro hall i hi
        have hone := hall (i + 1) (by omega)
        rwa [show w.calls.length + 1 + i = w.calls.length + (i + 1) by omega]
  | attempt st next ih =>
    obtain ⟨hnot, rfl, ⟨a, rfl⟩, s₁, hexec, hQ⟩ := h
    obtain ⟨r, w', hrun, hend⟩ := logged_run env faults hw hs hexec
    have hkept : ((toEffect S (.attempt st (.ret a))).run env faults w).2.committed =
        w'.committed := by
      rw [toEffect]
      cases r with
      | ok u =>
        rw [bind_run_ok hrun]
        rfl
      | error e => rw [bind_run_error hrun]
      | crashed => rw [bind_run_crashed hrun]
    have hfirst : (∀ i < 1, faults (w.calls.length + i) = .none) ↔
        faults w.calls.length = .none := by simp
    rw [hkept, hfirst]
    rcases hend with ⟨hfault, hsame⟩ | ⟨hnone, hnew⟩
    · rw [hsame]
      exact ⟨fun hq => absurd hq hnot, fun hnone => absurd hnone hfault⟩
    · rw [hnew]
      exact ⟨fun _ => hnone, fun _ => hQ⟩

/-- The statement that opens the work runs, but one of those it leaves does not. -/
theorem Opens.run (h : p.Opens S env Q d m k s) (hw : w.working = none) (hd : w.draws = d)
    (hs : w.committed = s) :
    Q ((toEffect S p).run env faults w).2.committed ↔
      ¬ Interrupted faults w.calls.length m k := by
  induction p generalizing d m s w with
  | ret | throw | attempt => exact h.elim
  | draw next ih =>
    have hrun : (Effect.draw (fun env n => (env, n)) : Effect ρ σ κ ε (ρ × Nat)).run env faults w =
        (.ok (env, w.draws), { w with draws := w.draws + 1 }) := rfl
    have hnext : (next env w.draws).Opens S env Q (w.draws + 1) m k s := hd ▸ h
    rw [toEffect, bind_run_ok hrun]
    exact ih env w.draws (w := { w with draws := w.draws + 1 }) hnext hw rfl hs
  | call st next ih =>
    obtain ⟨hQ, s₁, hexec, hnext⟩ := h
    rw [toEffect]
    rcases awaited_run env faults hw hs hexec with
      ⟨hfault, r, w', hrun, hno, hsame⟩ | ⟨hnone, w', hrun, hs', hw', hd', hlen⟩
    · rw [bind_run_stopped hrun hno, hsame]
      exact ⟨fun _ hinterrupted => hfault (hinterrupted.1 0 (Nat.zero_le m)), fun _ => hQ⟩
    · rw [bind_run_ok hrun]
      rcases hnext with ⟨rfl, howes⟩ | ⟨j, rfl, hopens⟩
      · rw [howes.run hw' (hd'.trans hd) hs', hlen, interrupted_zero hnone, not_not]
      · rw [ih s hopens hw' (hd'.trans hd) hs', hlen, interrupted_succ hnone]

theorem Keeps.ends (h : p.Keeps S env Q d s) :
    Ends env d s (fun _ _ => Q) Q (toEffect S p) := by
  induction p generalizing d s with
  | ret a => exact ends_pure h
  | throw e => exact ends_throw h
  | draw next ih => exact ends_draw_bind (ih env d h)
  | call st next ih =>
    refine ends_call_bind (fun a s' hcall => ?_) h.1
    cases hexec : S.exec st s with
    | error e =>
      rw [hexec] at hcall
      cases hcall
    | ok t =>
      rw [hexec] at hcall
      cases hcall
      exact ih s (h.2 s' hexec)
  | attempt st next ih =>
    obtain ⟨⟨a, rfl⟩, hQ, hexec⟩ := h
    have htry : Ends env d s (fun _ _ => Q) Q (toEffect S (tryExecute st)) :=
      ends_tryExecute hQ hexec
    exact ends_bind (f := fun _ => .ret a) htry fun _ _ _ hkept => ends_pure hkept

/-- Whatever fails, `Q` holds in the end. -/
theorem Keeps.run (h : p.Keeps S env Q d s) (hw : w.working = none) (hd : w.draws = d)
    (hs : w.committed = s) : Q ((toEffect S p).run env faults w).2.committed := by
  have hrun := h.ends faults w hw hd hs
  cases hr : ((toEffect S p).run env faults w).1 with
  | ok a => exact hrun.returns a hr
  | error e => exact hrun.stops (by rw [hr]; rfl)
  | crashed => exact hrun.stops (by rw [hr]; rfl)

end runs

section rules
variable {S env Q} {f : α → Process ρ σ τ ε β} {st : τ} {d m k : Nat} {s s' : σ}

theorem keeps_read {g : σ → α} (hexec : S.exec st s = .ok s) (hQ : Q s)
    (h : (f (g s)).Keeps S env Q d s) :
    ((statement st g : Process ρ σ τ ε α) >>= f).Keeps S env Q d s := by
  refine ⟨hQ, fun s' hok => ?_⟩
  rw [hexec] at hok
  cases hok
  exact h

theorem opens_read {g : σ → α} (hexec : S.exec st s = .ok s) (hQ : Q s)
    (h : (f (g s)).Opens S env Q d m k s) :
    ((statement st g : Process ρ σ τ ε α) >>= f).Opens S env Q d (m + 1) k s :=
  ⟨hQ, s, hexec, .inr ⟨m, rfl, h⟩⟩

theorem opens_write {g : σ → α} (hexec : S.exec st s = .ok s') (hQ : Q s)
    (h : (f (g s)).Owes S env Q d k s') :
    ((statement st g : Process ρ σ τ ε α) >>= f).Opens S env Q d 0 k s :=
  ⟨hQ, s', hexec, .inl ⟨rfl, h⟩⟩

theorem owes_statement {g : σ → α} (hexec : S.exec st s = .ok s') (hQ : ¬ Q s)
    (h : (f (g s)).Owes S env Q d k s') :
    ((statement st g : Process ρ σ τ ε α) >>= f).Owes S env Q d (k + 1) s :=
  ⟨hQ, k, s', rfl, hexec, h⟩

end rules
end Foundation.Process
