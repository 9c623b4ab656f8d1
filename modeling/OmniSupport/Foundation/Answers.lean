import OmniSupport.Foundation.Ends

/-! Programs that only read: the one value they can return, which they do return when no
call fails. -/
namespace Foundation

def Outcome.of {ε α : Type} : Except ε α → Outcome ε α
  | .ok a => .ok a
  | .error e => .error e

theorem Outcome.of_eq_ok {ε α : Type} {x : Except ε α} {a : α} :
    Outcome.of x = .ok a ↔ x = .ok a := by
  cases x with
  | ok b => simp [Outcome.of]
  | error e => simp [Outcome.of]

theorem Outcome.of_ne_crashed {ε α : Type} {x : Except ε α} : Outcome.crashed ≠ Outcome.of x := by
  cases x with
  | ok a => exact fun h => by cases h
  | error e => exact fun h => by cases h

theorem Outcome.of_eq_error {ε α : Type} {x : Except ε α} {err : ε}
    (h : Outcome.error err = Outcome.of x) :
    x = .error err := by
  cases x with
  | ok a => cases h
  | error e =>
    cases h
    rfl

namespace Effect
variable {ρ σ κ ε α β : Type}

/-- A statement that reads, and rejects arguments the database does not know. -/
def query (c : Client) (k : κ) (err : ε) (f : σ → Except ε α) : Effect ρ σ κ ε α :=
  call c k err fun s => (f s).map fun a => (a, s)

/-- `try { .. } catch { return a }`. -/
def recover (a : α) (e : Effect ρ σ κ ε α) : Effect ρ σ κ ε α where
  run env faults w :=
    match e.run env faults w with
    | (.error _, w') => (.ok a, w')
    | r => r

structure AnswersRun (faults : Nat → Fault) (d' : Nat) (s : σ) (x : Except ε α)
    (r : Outcome ε α × World σ κ) : Prop where
  returns : ∀ a, r.1 = .ok a → x = .ok a ∧ r.2.draws = d'
  kept : r.2.committed = s
  outside : r.2.working = none
  answers : (∀ n, faults n = .none) → r.1 = Outcome.of x

/-- From draw `d` and the committed store `s`, with no transaction open, until draw `d'`. -/
def Answers (env : ρ) (d d' : Nat) (s : σ) (e : Effect ρ σ κ ε α) (x : Except ε α) : Prop :=
  ∀ faults w, w.working = none → w.draws = d → w.committed = s →
    AnswersRun faults d' s x (e.run env faults w)

variable {env : ρ} {d d' d'' : Nat} {s : σ} {e : Effect ρ σ κ ε α} {x : Except ε α}

theorem AnswersRun.ok {faults : Nat → Fault} {a : α} {w : World σ κ} (hx : x = .ok a)
    (hw : w.working = none) (hd : w.draws = d') (hs : w.committed = s) :
    AnswersRun faults d' s x ((.ok a, w) : Outcome ε α × World σ κ) where
  returns b hb := by
    cases hb
    exact ⟨hx, hd⟩
  kept := hs
  outside := hw
  answers _ := by
    rw [hx]
    rfl

theorem AnswersRun.failed {faults : Nat → Fault} {r : Outcome ε α × World σ κ}
    (hno : r.1.isOk = false) (hw : r.2.working = none) (hs : r.2.committed = s)
    (h : (∀ n, faults n = .none) → r.1 = Outcome.of x) : AnswersRun faults d' s x r where
  returns a ha := by
    rw [ha] at hno
    cases hno
  kept := hs
  outside := hw
  answers := h

theorem AnswersRun.error {faults : Nat → Fault} {err : ε} {w : World σ κ} (hx : x = .error err)
    (hw : w.working = none) (hs : w.committed = s) :
    AnswersRun faults d' s x ((.error err, w) : Outcome ε α × World σ κ) :=
  .failed rfl hw hs fun _ => by
    rw [hx]
    rfl

/-- A call that a fault ended returns nothing. -/
theorem AnswersRun.cut {faults : Nat → Fault} {n : Nat} (hfault : faults n ≠ .none)
    {r : Outcome ε α × World σ κ} (hno : r.1.isOk = false) (hw : r.2.working = none)
    (hs : r.2.committed = s) : AnswersRun faults d' s x r :=
  .failed hno hw hs fun hall => absurd (hall n) hfault

theorem Answers.start (h : Answers env 0 d' s e x) :
    (e.run env (fun _ => .none) (World.start s : World σ κ)).1 = Outcome.of x :=
  (h (fun _ => .none) (World.start s) rfl rfl rfl).answers fun _ => rfl

theorem Answers.returns (h : Answers env 0 d' s e x) {faults : Nat → Fault} {a : α}
    (ha : (e.run env faults (World.start s : World σ κ)).1 = .ok a) : x = .ok a :=
  ((h faults (World.start s) rfl rfl rfl).returns a ha).1

theorem Answers.ends (h : Answers env d d' s e x) :
    Ends env d s (fun a n s' => x = .ok a ∧ n = d' ∧ s' = s) (fun s' => s' = s) e := by
  intro faults w hw hd hs
  obtain ⟨hreturns, hkept, houtside, -⟩ := h faults w hw hd hs
  exact ⟨fun a ha => ⟨(hreturns a ha).1, (hreturns a ha).2, hkept⟩, fun _ => hkept, houtside⟩

theorem answers_pure (a : α) : Answers env d d s (pure a : Effect ρ σ κ ε α) (.ok a) :=
  fun _ _ hw hd hs => .ok rfl hw hd hs

theorem answers_lift (x : Except ε α) : Answers env d d s (lift x : Effect ρ σ κ ε α) x := by
  intro faults w hw hd hs
  cases x with
  | ok a => exact .ok rfl hw hd hs
  | error e => exact .error rfl hw hs

theorem answers_draw (f : ρ → Nat → α) :
    Answers env d (d + 1) s (draw f : Effect ρ σ κ ε α) (.ok (f env d)) := by
  rintro faults w hw rfl hs
  exact .ok rfl hw rfl hs

theorem answers_read (c : Client) (k : κ) (err : ε) (f : σ → α) :
    Answers env d d s (read c k err f : Effect ρ σ κ ε α) (.ok (f s)) := by
  rintro faults w hw hd rfl
  have hview := view_outside hw c
  simp only [read]
  cases hfault : faults w.calls.length with
  | none =>
    rw [hview]
    exact .ok rfl hw hd rfl
  | throws | crash => exact .cut (by rw [hfault]; simp) rfl hw rfl

theorem answers_query (c : Client) (k : κ) (err : ε) (f : σ → Except ε α) :
    Answers env d d s (query c k err f : Effect ρ σ κ ε α) (f s) := by
  rintro faults w hw hd rfl
  have hview := view_outside hw c
  simp only [query, call, hview]
  cases hfault : faults w.calls.length with
  | throws | crash => exact .cut (by rw [hfault]; simp) rfl hw rfl
  | none =>
    have hlog : (w.log k .none).working = none := hw
    have hwrite := write_outside hlog c w.committed
    cases hf : f w.committed with
    | error err => exact .error rfl hw rfl
    | ok a =>
      simp only [Except.map, hwrite]
      exact .ok rfl hw hd rfl

theorem Answers.bind {f : α → Effect ρ σ κ ε β} {y : α → Except ε β}
    (he : Answers env d d' s e x) (hf : ∀ a, x = .ok a → Answers env d' d'' s (f a) (y a)) :
    Answers env d d'' s (e >>= f) (x >>= y) := by
  intro faults w hw hd hs
  obtain ⟨hreturns, hkept, houtside, hanswers⟩ := he faults w hw hd hs
  cases hr : e.run env faults w with
  | mk outcome w' =>
    rw [hr] at hreturns hkept houtside hanswers
    cases outcome with
    | ok a =>
      obtain ⟨rfl, hd'⟩ := hreturns a rfl
      rw [bind_run_ok hr]
      exact hf a rfl faults w' houtside hd' hkept
    | error err =>
      rw [bind_run_error hr]
      refine .failed rfl houtside hkept fun hall => ?_
      rw [Outcome.of_eq_error (hanswers hall)]
      rfl
    | crashed =>
      rw [bind_run_crashed hr]
      exact .failed rfl houtside hkept fun hall => absurd (hanswers hall) Outcome.of_ne_crashed

theorem answers_draw_bind {f : ρ → Nat → α} {g : α → Effect ρ σ κ ε β} {y : Except ε β}
    (h : Answers env (d + 1) d' s (g (f env d)) y) : Answers env d d' s (draw f >>= g) y :=
  (answers_draw f).bind (y := fun _ => y) fun a ha => by
    cases ha
    exact h

theorem answers_read_bind {c : Client} {k : κ} {err : ε} {f : σ → α} {g : α → Effect ρ σ κ ε β}
    {y : Except ε β} (h : Answers env d d' s (g (f s)) y) :
    Answers env d d' s (read c k err f >>= g) y :=
  (answers_read c k err f).bind (y := fun _ => y) fun a ha => by
    cases ha
    exact h

theorem Answers.map {f : α → β} (h : Answers env d d' s e x) :
    Answers env d d' s (f <$> e) (x.map f) := by
  have hbind := h.bind (y := fun a => .ok (f a)) fun a _ => answers_pure (f a)
  rw [map_eq_pure_bind]
  cases x with
  | ok a => exact hbind
  | error err => exact hbind

/-- Two reads at once, of which the first that rejects is the outcome. -/
theorem Answers.both {e' : Effect ρ σ κ ε β} {y : Except ε β} (he : Answers env d d' s e x)
    (he' : ∀ n, Answers env n n s e' y) :
    Answers env d d' s (both e e') (x >>= fun a => y.map fun b => (a, b)) := by
  intro faults w hw hd hs
  obtain ⟨hreturns, hkept, houtside, hanswers⟩ := he faults w hw hd hs
  simp only [Effect.both]
  cases hr : e.run env faults w with
  | mk outcome w₁ =>
    rw [hr] at hreturns hkept houtside hanswers
    obtain ⟨hreturns', hkept', houtside', hanswers'⟩ :=
      he' w₁.draws faults w₁ houtside rfl hkept
    cases hr' : e'.run env faults w₁ with
    | mk outcome' w₂ =>
      rw [hr'] at hreturns' hkept' houtside' hanswers'
      cases outcome with
      | crashed =>
        exact .failed rfl houtside hkept fun hall => absurd (hanswers hall) Outcome.of_ne_crashed
      | error err =>
        simp only [hr']
        cases outcome' with
        | crashed =>
          exact .failed rfl houtside' hkept' fun hall =>
            absurd (hanswers' hall) Outcome.of_ne_crashed
        | ok b | error err' =>
          refine .failed rfl houtside' hkept' fun hall => ?_
          rw [Outcome.of_eq_error (hanswers hall)]
          rfl
      | ok a =>
        obtain ⟨rfl, hd'⟩ := hreturns a rfl
        simp only [hr']
        cases outcome' with
        | ok b =>
          obtain ⟨rfl, hdraws⟩ := hreturns' b rfl
          exact .ok rfl houtside' (hdraws.trans hd') hkept'
        | error err =>
          refine .failed rfl houtside' hkept' fun hall => ?_
          rw [Outcome.of_eq_error (hanswers' hall)]
          rfl
        | crashed =>
          exact .failed rfl houtside' hkept' fun hall =>
            absurd (hanswers' hall) Outcome.of_ne_crashed

theorem Ends.recover {a : α} {Q : α → Nat → σ → Prop} {R : σ → Prop}
    (h : Ends env d s Q R e) (hcaught : ∀ n s', R s' → Q a n s') :
    Ends env d s Q R (recover a e) := by
  intro faults w hw hd hs
  obtain ⟨hreturns, hstops, houtside⟩ := h faults w hw hd hs
  simp only [Effect.recover]
  cases hr : e.run env faults w with
  | mk outcome w' =>
    rw [hr] at hreturns hstops houtside
    cases outcome with
    | ok b => exact .ok (hreturns b rfl) houtside
    | error err => exact .ok (hcaught _ _ (hstops rfl)) houtside
    | crashed => exact .stopped rfl (hstops rfl) houtside

section gives
variable {a : α}

/-- Outside of transactions and when no call fails, the program returns `a` and writes nothing. -/
def Gives (env : ρ) (d d' : Nat) (s : σ) (e : Effect ρ σ κ ε α) (a : α) : Prop :=
  ∀ w, w.working = none → w.draws = d → w.committed = s →
    ∃ w', e.run env (fun _ => .none) w = (.ok a, w') ∧
      w'.working = none ∧ w'.draws = d' ∧ w'.committed = s

theorem Gives.start (h : Gives env 0 d' s e a) :
    (e.run env (fun _ => .none) (World.start s)).1 = .ok a := by
  obtain ⟨w', hrun, -⟩ := h (World.start s) rfl rfl rfl
  rw [hrun]

theorem Answers.gives (h : Answers env d d' s e (.ok a)) : Gives env d d' s e a := by
  intro w hw hd hs
  obtain ⟨hreturns, hkept, houtside, hanswers⟩ := h (fun _ => .none) w hw hd hs
  have hok := hanswers fun _ => rfl
  exact ⟨_, Prod.ext hok rfl, houtside, (hreturns a hok).2, hkept⟩

theorem Gives.bind {f : α → Effect ρ σ κ ε β} {b : β} (he : Gives env d d' s e a)
    (hf : Gives env d' d'' s (f a) b) : Gives env d d'' s (e >>= f) b := by
  intro w hw hd hs
  obtain ⟨w', hrun, hw', hd', hs'⟩ := he w hw hd hs
  rw [bind_run_ok hrun]
  exact hf w' hw' hd' hs'

theorem Gives.recover (b : α) (h : Gives env d d' s e a) :
    Gives env d d' s (recover b e) a := by
  intro w hw hd hs
  obtain ⟨w', hrun, hkept⟩ := h w hw hd hs
  refine ⟨w', ?_, hkept⟩
  simp only [Effect.recover, hrun]

end gives

end Effect
end Foundation
