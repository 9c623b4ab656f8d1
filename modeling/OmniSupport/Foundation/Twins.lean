import OmniSupport.Foundation.Answers

/-! Two runs of one program from related stores: the rules by which both runs end alike, in
stores that are related again. -/
namespace Foundation.Effect
variable {ρ σ κ ε α β : Type}

/-- Two worlds at the same point of a program: `E` relates their committed stores and the stores
the program works on, and of the latter `P` is known besides. -/
structure Twin (E P : σ → σ → Prop) (w w' : World σ κ) : Prop where
  draws : w.draws = w'.draws
  calls : w.calls.length = w'.calls.length
  inside : w.working.isSome = w'.working.isSome
  committed : E w.committed w'.committed
  current : E (w.view .ambient) (w'.view .ambient)
  known : P (w.view .ambient) (w'.view .ambient)

structure TwinEnd (E : σ → σ → Prop) (Q : α → σ → σ → Prop) (r r' : Outcome ε α × World σ κ) :
    Prop where
  outcome : r.1 = r'.1
  returned : ∀ a, r.1 = .ok a → Twin E (Q a) r.2 r'.2
  ended : Twin E (fun _ _ => True) r.2 r'.2

/-- From twin worlds, with the same calls cut short, both runs end alike. -/
def Twins (env : ρ) (E P : σ → σ → Prop) (Q : α → σ → σ → Prop) (e : Effect ρ σ κ ε α) : Prop :=
  ∀ faults w w', Twin E P w w' → TwinEnd E Q (e.run env faults w) (e.run env faults w')

/-- What a statement may do in related stores. -/
inductive Alike (E : σ → σ → Prop) (Q : α → σ → σ → Prop) :
    Except ε (α × σ) → Except ε (α × σ) → Prop
  | ok {a : α} {s s' : σ} : E s s' → Q a s s' → Alike E Q (.ok (a, s)) (.ok (a, s'))
  | error (x : ε) : Alike E Q (.error x) (.error x)

section worlds
variable {E P : σ → σ → Prop} {Q : α → σ → σ → Prop} {w w' : World σ κ}

theorem Twin.start {s s' : σ} (hE : E s s') (hP : P s s') :
    Twin E P (World.start s : World σ κ) (World.start s') :=
  ⟨rfl, rfl, rfl, hE, hE, hP⟩

theorem Twin.mono (h : Twin E P w w') {P' : σ → σ → Prop} (hP : ∀ s s', E s s' → P s s' → P' s s') :
    Twin E P' w w' :=
  { h with known := hP _ _ h.current h.known }

theorem Twin.forget (h : Twin E P w w') : Twin E (fun _ _ => True) w w' :=
  h.mono fun _ _ _ _ => trivial

theorem Twin.log (h : Twin E P w w') (k : κ) (fault : Fault) :
    Twin E P (w.log k fault) (w'.log k fault) := by
  refine { h with calls := ?_ }
  simp [World.log, h.calls]

theorem view_write_ambient (s : σ) (w : World σ κ) : (w.write .ambient s).view .ambient = s := by
  cases hw : w.working with
  | none => simp [World.write, World.view, hw]
  | some t => simp [World.write, World.view, hw]

theorem Twin.write (h : Twin E P w w') {P' : σ → σ → Prop} {s s' : σ} (hE : E s s')
    (hP : P' s s') : Twin E P' (w.write .ambient s) (w'.write .ambient s') := by
  have hview : (w.write .ambient s).view .ambient = s := view_write_ambient s w
  have hview' : (w'.write .ambient s').view .ambient = s' := view_write_ambient s' w'
  have hinside := h.inside
  have hrest : (w.write .ambient s).draws = (w'.write .ambient s').draws ∧
      (w.write .ambient s).calls.length = (w'.write .ambient s').calls.length ∧
      (w.write .ambient s).working.isSome = (w'.write .ambient s').working.isSome ∧
      E (w.write .ambient s).committed (w'.write .ambient s').committed := by
    cases hw : w.working <;> cases hw' : w'.working <;>
      simp [World.write, hw, hw', h.draws, h.calls, h.committed, hE] at hinside ⊢
  refine ⟨hrest.1, hrest.2.1, hrest.2.2.1, hrest.2.2.2, ?_, ?_⟩
  · rw [hview, hview']
    exact hE
  · rw [hview, hview']
    exact hP

theorem TwinEnd.ok {a : α} (h : Twin E (Q a) w w') :
    TwinEnd E Q ((.ok a, w) : Outcome ε α × World σ κ) (.ok a, w') where
  outcome := rfl
  returned b hb := by
    cases hb
    exact h
  ended := h.forget

theorem TwinEnd.stop {outcome : Outcome ε α} (hno : outcome.isOk = false) (h : Twin E P w w') :
    TwinEnd E Q (outcome, w) (outcome, w') where
  outcome := rfl
  returned a ha := by
    cases ha
    cases hno
  ended := h.forget

end worlds

section rules
variable {env : ρ} {E P : σ → σ → Prop} {Q : α → σ → σ → Prop} {R : β → σ → σ → Prop}
  {e : Effect ρ σ κ ε α}

/-- Both runs of a whole program. -/
theorem Twins.run (h : Twins env E P Q e) {s s' : σ} (hE : E s s') (hP : P s s')
    (faults : Nat → Fault) :
    (e.run env faults (World.start s)).1 = (e.run env faults (World.start s')).1 ∧
      E (e.run env faults (World.start s)).2.committed
        (e.run env faults (World.start s')).2.committed := by
  have hend := h faults _ _ (Twin.start hE hP)
  exact ⟨hend.outcome, hend.ended.committed⟩

theorem Twins.mono (h : Twins env E P Q e) {P' : σ → σ → Prop} {Q' : α → σ → σ → Prop}
    (hP : ∀ s s', E s s' → P' s s' → P s s') (hQ : ∀ a s s', E s s' → Q a s s' → Q' a s s') :
    Twins env E P' Q' e := by
  intro faults w w' hw
  obtain ⟨houtcome, hreturned, hended⟩ := h faults w w' (hw.mono hP)
  exact ⟨houtcome, fun a ha => (hreturned a ha).mono (hQ a), hended⟩

/-- What is known and does not depend on the stores may be used of the program. -/
theorem Twins.of_known {fact : Prop} (hP : ∀ s s', P s s' → fact) (h : fact → Twins env E P Q e) :
    Twins env E P Q e :=
  fun faults w w' hw => h (hP _ _ hw.known) faults w w' hw

theorem twins_pure (a : α) (h : ∀ s s', E s s' → P s s' → Q a s s') :
    Twins env E P Q (pure a : Effect ρ σ κ ε α) :=
  fun _ _ _ hw => .ok (hw.mono h)

theorem Twins.bind {f : α → Effect ρ σ κ ε β} (he : Twins env E P Q e)
    (hf : ∀ a, Twins env E (Q a) R (f a)) : Twins env E P R (e >>= f) := by
  intro faults w w' hw
  obtain ⟨houtcome, hreturned, hended⟩ := he faults w w' hw
  cases hr : e.run env faults w with
  | mk outcome v =>
    cases hr' : e.run env faults w' with
    | mk outcome' v' =>
      rw [hr, hr'] at houtcome hended
      rw [hr, hr'] at hreturned
      obtain rfl : outcome = outcome' := houtcome
      cases outcome with
      | ok a =>
        rw [bind_run_ok hr, bind_run_ok hr']
        exact hf a faults v v' (hreturned a rfl)
      | error x =>
        rw [bind_run_error hr, bind_run_error hr']
        exact .stop rfl hended
      | crashed =>
        rw [bind_run_crashed hr, bind_run_crashed hr']
        exact .stop rfl hended

theorem twins_draw_bind {f : ρ → Nat → α} {g : α → Effect ρ σ κ ε β}
    (h : ∀ n, Twins env E P R (g (f env n))) : Twins env E P R (draw f >>= g) := by
  intro faults w w' hw
  have hnext : Twin E P { w with draws := w.draws + 1 } { w' with draws := w'.draws + 1 } :=
    { hw with draws := congrArg (fun n => n + 1) hw.draws }
  have hend := h w.draws faults _ _ hnext
  rw [bind_run_ok (show (draw f : Effect ρ σ κ ε α).run env faults w = (.ok (f env w.draws), _)
      from rfl),
    bind_run_ok (show (draw f : Effect ρ σ κ ε α).run env faults w' = (.ok (f env w'.draws), _)
      from rfl), ← hw.draws]
  exact hw.draws ▸ hend

theorem twins_lift {x : Except ε α} (h : ∀ a s s', x = .ok a → E s s' → P s s' → Q a s s') :
    Twins env E P Q (lift x : Effect ρ σ κ ε α) := by
  intro faults w w' hw
  cases x with
  | ok a => exact .ok (hw.mono fun s s' => h a s s' rfl)
  | error err => exact .stop rfl hw

theorem twins_lift_bind {x : Except ε α} {g : α → Effect ρ σ κ ε β}
    (h : ∀ a, x = .ok a → Twins env E P R (g a)) : Twins env E P R (lift x >>= g) := by
  cases x with
  | ok a => exact h a rfl
  | error err => exact fun _ _ _ hw => .stop rfl hw

/-- A read on the transaction at hand finds the same in both stores. -/
theorem twins_read {k : κ} {err : ε} {f : σ → α} (h : ∀ s s', E s s' → P s s' → f s = f s') :
    Twins env E P (fun a s s' => P s s' ∧ a = f s)
      (read .ambient k err f : Effect ρ σ κ ε α) := by
  intro faults w w' hw
  have hsame : f (w.view .ambient) = f (w'.view .ambient) := h _ _ hw.current hw.known
  simp only [read, ← hw.calls, ← hsame]
  cases faults w.calls.length with
  | none => exact .ok { hw.log k .none with known := ⟨hw.known, rfl⟩ }
  | throws => exact .stop rfl (hw.log k .throws)
  | crash => exact .stop rfl (hw.log k .crash)

/-- On the root client the committed stores are read. -/
theorem twins_readRoot {k : κ} {err : ε} {f : σ → α} (h : ∀ s s', E s s' → f s = f s') :
    Twins env E P (fun _ => P) (read .root k err f : Effect ρ σ κ ε α) := by
  intro faults w w' hw
  have hsame : f (w.view .root) = f (w'.view .root) := h _ _ hw.committed
  simp only [read, ← hw.calls, ← hsame]
  cases faults w.calls.length with
  | none => exact .ok (hw.log k .none)
  | throws => exact .stop rfl (hw.log k .throws)
  | crash => exact .stop rfl (hw.log k .crash)

theorem twins_call {k : κ} {err : ε} {f : σ → Except ε (α × σ)}
    (h : ∀ s s', E s s' → P s s' → Alike E Q (f s) (f s')) :
    Twins env E P Q (call .ambient k err f : Effect ρ σ κ ε α) := by
  intro faults w w' hw
  have halike := h _ _ hw.current hw.known
  simp only [call, ← hw.calls]
  cases faults w.calls.length with
  | none =>
    cases hx : f (w.view .ambient) with
    | ok r =>
      cases hx' : f (w'.view .ambient) with
      | ok r' =>
        rw [hx, hx'] at halike
        cases halike with
        | ok hE hQ => exact .ok ((hw.log k .none).write hE hQ)
      | error x =>
        rw [hx, hx'] at halike
        cases halike
    | error x =>
      cases hx' : f (w'.view .ambient) with
      | ok r' =>
        rw [hx, hx'] at halike
        cases halike
      | error x' =>
        rw [hx, hx'] at halike
        cases halike
        exact .stop rfl (hw.log k .throws)
  | throws => exact .stop rfl (hw.log k .throws)
  | crash => exact .stop rfl (hw.log k .crash)

theorem twins_query {k : κ} {err : ε} {f : σ → Except ε α}
    (h : ∀ s s', E s s' → P s s' → f s = f s') :
    Twins env E P (fun a s s' => P s s' ∧ f s = .ok a)
      (query .ambient k err f : Effect ρ σ κ ε α) := by
  refine twins_call fun s s' hE hP => ?_
  simp only [← h s s' hE hP]
  cases hx : f s with
  | ok a => exact .ok hE ⟨hP, hx⟩
  | error x => exact .error x

/-- A statement that always succeeds unless it is cut short. -/
theorem twins_write {k : κ} {err : ε} {f : σ → σ}
    (h : ∀ s s', E s s' → P s s' → E (f s) (f s') ∧ P (f s) (f s')) :
    Twins env E P (fun _ => P)
      (call .ambient k err (fun s => .ok ((), f s)) : Effect ρ σ κ ε Unit) :=
  twins_call fun s s' hE hP => .ok (h s s' hE hP).1 (h s s' hE hP).2

/-- A statement whose failure is only logged outside of transactions. -/
theorem twins_rethrow_call {k : κ} {err : ε} {f : σ → σ}
    (h : ∀ s s', E s s' → P s s' → E (f s) (f s') ∧ P (f s) (f s')) :
    Twins env E P (fun _ => P)
      (rethrowInTransaction (call .ambient k err fun s => .ok ((), f s)) : Effect ρ σ κ ε Unit) := by
  intro faults w w' hw
  have hwrite : Twins env E P (fun _ => P)
      (call .ambient k err (fun s => .ok ((), f s)) : Effect ρ σ κ ε Unit) := twins_write h
  have hinside := hw.inside
  cases hopen : w.working with
  | some t =>
    cases hopen' : w'.working with
    | some t' =>
      simp only [rethrowInTransaction, hopen, hopen']
      exact hwrite faults w w' hw
    | none => simp [hopen, hopen'] at hinside
  | none =>
    cases hopen' : w'.working with
    | some t' => simp [hopen, hopen'] at hinside
    | none =>
      have hnew := h _ _ hw.current hw.known
      simp only [rethrowInTransaction, hopen, hopen', swallow, call, ← hw.calls]
      cases faults w.calls.length with
      | none => exact .ok ((hw.log k .none).write hnew.1 hnew.2)
      | throws => exact .ok (hw.log k .throws)
      | crash => exact .stop rfl (hw.log k .crash)

theorem Twins.both {e' : Effect ρ σ κ ε β} (he : Twins env E P Q e)
    (he' : Twins env E (fun _ _ => True) R e') :
    Twins env E P (fun r => R r.2) (both e e') := by
  intro faults w w' hw
  obtain ⟨houtcome, -, hended⟩ := he faults w w' hw
  cases hr : e.run env faults w with
  | mk outcome v =>
    cases hr' : e.run env faults w' with
    | mk outcome' v' =>
      rw [hr, hr'] at houtcome hended
      obtain rfl : outcome = outcome' := houtcome
      obtain ⟨hsecond, hreturned, hlast⟩ := he' faults v v' hended
      cases hs : e'.run env faults v with
      | mk second u =>
        cases hs' : e'.run env faults v' with
        | mk second' u' =>
          rw [hs, hs'] at hsecond hlast
          rw [hs, hs'] at hreturned
          obtain rfl : second = second' := hsecond
          cases outcome with
          | crashed =>
            simp only [Effect.both, hr, hr']
            exact .stop rfl hended
          | ok a =>
            simp only [Effect.both, hr, hr', hs, hs']
            cases second with
            | ok b => exact .ok (hreturned b rfl)
            | error x => exact .stop rfl hlast
            | crashed => exact .stop rfl hlast
          | error x =>
            simp only [Effect.both, hr, hr', hs, hs']
            cases second with
            | ok b => exact .stop rfl hlast
            | error y => exact .stop rfl hlast
            | crashed => exact .stop rfl hlast

/-- A transaction works on copies of stores that are related, and leaves related ones. -/
theorem Twins.transaction {k : κ} {err : ε} (hb : Twins env E P Q e) :
    Twins env E P Q (transaction k err e) := by
  intro faults w w' hw
  have hinside := hw.inside
  cases hopen : w.working with
  | some t =>
    cases hopen' : w'.working with
    | some t' =>
      simp only [Effect.transaction, hopen, hopen']
      exact hb faults w w' hw
    | none => simp [hopen, hopen'] at hinside
  | none =>
    cases hopen' : w'.working with
    | some t' => simp [hopen, hopen'] at hinside
    | none =>
      have hbegin : Twin E P { w with working := some w.committed }
          { w' with working := some w'.committed } := by
        have hcurrent := hw.current
        have hknown := hw.known
        simp only [World.view, hopen, hopen', Option.getD_none] at hcurrent hknown
        exact ⟨hw.draws, hw.calls, rfl, hw.committed, hcurrent, hknown⟩
      obtain ⟨houtcome, hreturned, hended⟩ := hb faults _ _ hbegin
      simp only [Effect.transaction, hopen, hopen']
      cases hr : e.run env faults { w with working := some w.committed } with
      | mk outcome v =>
        cases hr' : e.run env faults { w' with working := some w'.committed } with
        | mk outcome' v' =>
          rw [hr, hr'] at houtcome hended
          rw [hr, hr'] at hreturned
          obtain rfl : outcome = outcome' := houtcome
          have hclosed : ∀ fault, Twin E (fun _ _ => True) { v.log k fault with working := none }
              { v'.log k fault with working := none } := fun fault =>
            ⟨hended.draws, (hended.log k fault).calls, rfl, hended.committed, hended.committed,
              trivial⟩
          cases outcome with
          | ok a =>
            have hdone := hreturned a rfl
            simp only [finish, ← hended.calls]
            cases faults v.calls.length with
            | none =>
              exact .ok ⟨hended.draws, (hended.log k .none).calls, rfl, hdone.current,
                hdone.current, hdone.known⟩
            | throws => exact .stop rfl (hclosed .throws)
            | crash => exact .stop rfl (hclosed .crash)
          | error x =>
            exact .stop rfl (P := fun _ _ => True) ⟨hended.draws, hended.calls, rfl,
              hended.committed, hended.committed, trivial⟩
          | crashed =>
            exact .stop rfl (P := fun _ _ => True) ⟨hended.draws, hended.calls, rfl,
              hended.committed, hended.committed, trivial⟩

end rules
end Foundation.Effect
