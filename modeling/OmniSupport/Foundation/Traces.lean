import OmniSupport.Foundation.Answers

/-! What the log of a program tells about the store: a relation between the calls of a part of a
run and the change of the store in it, which parts that follow each other compose. -/
namespace Foundation.Effect
variable {ρ σ κ ε α β : Type}

/-- It holds of a part without calls, and of the whole when it holds of two parts. -/
structure Compositional (R : List (CallRecord κ) → σ → σ → Prop) : Prop where
  start : ∀ s, R [] s s
  append : ∀ {cs cs' s s' s''}, R cs s s' → R cs' s' s'' → R (cs ++ cs') s s''

structure TraceRun (R : List (CallRecord κ) → σ → σ → Prop) (w w' : World σ κ) : Prop where
  outside : w'.working = none
  calls : ∃ cs, w'.calls = w.calls ++ cs ∧ R cs w.committed w'.committed

/-- Outside of transactions, the calls of every run are related to what it does to the store. -/
def Traces (R : List (CallRecord κ) → σ → σ → Prop) (e : Effect ρ σ κ ε α) : Prop :=
  ∀ env faults w, w.working = none → TraceRun R w (e.run env faults w).2

/-- All calls are of certain kinds, and the program closes the transactions it opens. -/
structure CallsRun (P : κ → Prop) (w w' : World σ κ) : Prop where
  outside : w.working = none → w'.working = none
  calls : ∃ cs, w'.calls = w.calls ++ cs ∧ ∀ c ∈ cs, P c.kind

def Calls (P : κ → Prop) (e : Effect ρ σ κ ε α) : Prop :=
  ∀ env faults w, CallsRun P w (e.run env faults w).2

/-- When the program returns, a call of this kind has come through. -/
def Logs (k : κ) (e : Effect ρ σ κ ε α) : Prop :=
  ∀ env faults w a, (e.run env faults w).1 = .ok a →
    ∃ c ∈ (e.run env faults w).2.calls, c.kind = k ∧ c.fault = .none

section runs
variable {R : List (CallRecord κ) → σ → σ → Prop} {P : κ → Prop} {w w' w'' : World σ κ}

theorem TraceRun.trans (hR : Compositional R) (h : TraceRun R w w') (h' : TraceRun R w' w'') :
    TraceRun R w w'' := by
  obtain ⟨cs, hcs, hrel⟩ := h.calls
  obtain ⟨cs', hcs', hrel'⟩ := h'.calls
  refine ⟨h'.outside, cs ++ cs', ?_, hR.append hrel hrel'⟩
  rw [hcs', hcs, List.append_assoc]

theorem CallsRun.same (hworking : w'.working = w.working) (hcalls : w'.calls = w.calls) :
    CallsRun P w w' := by
  refine ⟨fun hw => hworking.trans hw, [], ?_, fun c hc => by cases hc⟩
  rw [hcalls, List.append_nil]

theorem CallsRun.trans (h : CallsRun P w w') (h' : CallsRun P w' w'') : CallsRun P w w'' := by
  obtain ⟨cs, hcs, hkinds⟩ := h.calls
  obtain ⟨cs', hcs', hkinds'⟩ := h'.calls
  refine ⟨fun hw => h'.outside (h.outside hw), cs ++ cs', ?_, fun c hc => ?_⟩
  · rw [hcs', hcs, List.append_assoc]
  · rcases List.mem_append.mp hc with hc | hc
    · exact hkinds c hc
    · exact hkinds' c hc

theorem CallsRun.log {k : κ} (hk : P k) (fault : Fault) : CallsRun P w (w.log k fault) := by
  refine ⟨id, _, rfl, fun c hc => ?_⟩
  rw [List.mem_singleton.mp hc]
  exact hk

end runs

section traces
variable {R : List (CallRecord κ) → σ → σ → Prop} {e : Effect ρ σ κ ε α}
  {f : α → Effect ρ σ κ ε β}

theorem traces_pure (hR : Compositional R) (a : α) : Traces R (pure a : Effect ρ σ κ ε α) :=
  fun _ _ w hw => ⟨hw, [], (List.append_nil _).symm, hR.start w.committed⟩

theorem traces_draw (hR : Compositional R) (f : ρ → Nat → α) :
    Traces R (draw f : Effect ρ σ κ ε α) :=
  fun _ _ w hw => ⟨hw, [], (List.append_nil _).symm, hR.start w.committed⟩

/-- A call is related to what it does to the store, and to no change when it fails. -/
theorem traces_call {c : Client} {k : κ} {err : ε} {f : σ → Except ε (α × σ)}
    (hok : ∀ s a s', f s = .ok (a, s') → R [⟨k, .none, false⟩] s s')
    (hfails : ∀ s fault, fault ≠ .none → R [⟨k, fault, false⟩] s s) :
    Traces R (call c k err f : Effect ρ σ κ ε α) := by
  intro env faults w hw
  have hview := view_outside hw c
  have hrecord : w.working.isSome = false := by
    rw [hw]
    rfl
  have hlog : ∀ fault, fault ≠ .none → TraceRun R w (w.log k fault) := by
    intro fault hfault
    refine ⟨hw, [⟨k, fault, w.working.isSome⟩], rfl, ?_⟩
    rw [hrecord]
    exact hfails w.committed fault hfault
  simp only [call, hview]
  cases faults w.calls.length with
  | throws => exact hlog .throws (by decide)
  | crash => exact hlog .crash (by decide)
  | none =>
    cases hf : f w.committed with
    | error x => exact hlog .throws (by decide)
    | ok r =>
      have hworking : (w.log k .none).working = none := hw
      have hwrite := write_outside hworking c r.2
      simp only [hwrite]
      refine ⟨hw, [⟨k, .none, w.working.isSome⟩], rfl, ?_⟩
      rw [hrecord]
      exact hok w.committed r.1 r.2 hf

theorem traces_read {c : Client} {k : κ} {err : ε} {f : σ → α}
    (h : ∀ s fault, R [⟨k, fault, false⟩] s s) : Traces R (read c k err f : Effect ρ σ κ ε α) := by
  intro env faults w hw
  have hrecord : w.working.isSome = false := by
    rw [hw]
    rfl
  have hlog : ∀ fault, TraceRun R w (w.log k fault) := by
    intro fault
    refine ⟨hw, [⟨k, fault, w.working.isSome⟩], rfl, ?_⟩
    rw [hrecord]
    exact h w.committed fault
  simp only [read]
  cases faults w.calls.length <;> exact hlog _

theorem traces_query {c : Client} {k : κ} {err : ε} {f : σ → Except ε α}
    (h : ∀ s fault, R [⟨k, fault, false⟩] s s) :
    Traces R (query c k err f : Effect ρ σ κ ε α) := by
  refine traces_call (fun s a s' hf => ?_) fun s fault _ => h s fault
  cases hs : f s with
  | error x =>
    rw [hs] at hf
    cases hf
  | ok b =>
    rw [hs] at hf
    cases hf
    exact h s .none

theorem Traces.bind (hR : Compositional R) (he : Traces R e) (hf : ∀ a, Traces R (f a)) :
    Traces R (e >>= f) := by
  intro env faults w hw
  have hfirst := he env faults w hw
  cases hr : e.run env faults w with
  | mk outcome w' =>
    rw [hr] at hfirst
    cases outcome with
    | ok a =>
      rw [bind_run_ok hr]
      exact hfirst.trans hR (hf a env faults w' hfirst.outside)
    | error x =>
      rw [bind_run_error hr]
      exact hfirst
    | crashed =>
      rw [bind_run_crashed hr]
      exact hfirst

theorem Traces.swallow {e : Effect ρ σ κ ε Unit} (he : Traces R e) : Traces R (swallow e) := by
  intro env faults w hw
  have hrun := he env faults w hw
  simp only [Effect.swallow]
  cases hr : e.run env faults w with
  | mk outcome w' =>
    rw [hr] at hrun
    cases outcome <;> exact hrun

theorem Traces.both (hR : Compositional R) {e' : Effect ρ σ κ ε β} (he : Traces R e)
    (he' : Traces R e') : Traces R (both e e') := by
  intro env faults w hw
  have hfirst := he env faults w hw
  simp only [Effect.both]
  cases hr : e.run env faults w with
  | mk outcome w₁ =>
    rw [hr] at hfirst
    have hsecond := hfirst.trans hR (he' env faults w₁ hfirst.outside)
    cases hr' : e'.run env faults w₁ with
    | mk outcome' w₂ =>
      rw [hr'] at hsecond
      cases outcome with
      | crashed => exact hfirst
      | ok a | error x =>
        simp only [hr']
        cases outcome' <;> exact hsecond

theorem traces_forEach (hR : Compositional R) {xs : List α} {f : α → Effect ρ σ κ ε Unit}
    (hf : ∀ x ∈ xs, Traces R (f x)) : Traces R (forEach xs f) := by
  induction xs with
  | nil => exact traces_pure hR ()
  | cons x rest ih =>
    have hrest := ih fun y hy => hf y (List.mem_cons_of_mem _ hy)
    exact (hf x List.mem_cons_self).bind hR fun _ => hrest

/-- An atomic program is related as a whole: to the kinds of its calls, and to the one change it
commits or to none. -/
theorem traces_of_atomic {P : κ → Prop} {Q : σ → σ → Prop} (hcalls : Calls P e)
    (h : ∀ env d s, Atomic env d s (Q s) e)
    (hrel : ∀ cs s s', (∀ c ∈ cs, P c.kind) → s' = s ∨ Q s s' → R cs s s') : Traces R e := by
  intro env faults w hw
  obtain ⟨houtside, cs, hcs, hkinds⟩ := hcalls env faults w
  obtain ⟨_, _, hend⟩ := h env w.draws w.committed faults w hw rfl rfl
  refine ⟨houtside hw, cs, hcs, hrel cs _ _ hkinds ?_⟩
  rcases hend with ⟨-, -, hsame⟩ | ⟨-, hq, -⟩
  · exact .inl hsame
  · exact .inr hq

end traces

section calls
variable {P : κ → Prop} {e : Effect ρ σ κ ε α} {f : α → Effect ρ σ κ ε β}

theorem Calls.mono {P' : κ → Prop} (h : Calls P e) (hP : ∀ k, P k → P' k) : Calls P' e := by
  intro env faults w
  obtain ⟨houtside, cs, hcs, hkinds⟩ := h env faults w
  exact ⟨houtside, cs, hcs, fun c hc => hP _ (hkinds c hc)⟩

theorem calls_pure (a : α) : Calls P (pure a : Effect ρ σ κ ε α) :=
  fun _ _ _ => .same rfl rfl

theorem calls_draw (f : ρ → Nat → α) : Calls P (draw f : Effect ρ σ κ ε α) :=
  fun _ _ _ => .same rfl rfl

theorem calls_lift (x : Except ε α) : Calls P (lift x : Effect ρ σ κ ε α) := by
  intro env faults w
  cases x <;> exact .same rfl rfl

theorem calls_read {c : Client} {k : κ} {err : ε} {f : σ → α} (hk : P k) :
    Calls P (read c k err f : Effect ρ σ κ ε α) := by
  intro env faults w
  simp only [read]
  cases faults w.calls.length <;> exact .log hk _

theorem calls_call {c : Client} {k : κ} {err : ε} {f : σ → Except ε (α × σ)} (hk : P k) :
    Calls P (call c k err f : Effect ρ σ κ ε α) := by
  intro env faults w
  simp only [call]
  cases faults w.calls.length with
  | throws | crash => exact .log hk _
  | none =>
    cases f (w.view c) with
    | error x => exact .log hk _
    | ok r =>
      have hwrite : CallsRun P (w.log k .none) ((w.log k .none).write c r.2) := by
        cases c with
        | root => exact .same rfl rfl
        | ambient =>
          cases hworking : (w.log k .none).working with
          | none =>
            simp only [World.write, hworking]
            exact .same (by rw [hworking]) rfl
          | some s =>
            refine ⟨fun hnone => ?_, [], ?_, fun c hc => by cases hc⟩
            · rw [hworking] at hnone
              cases hnone
            · simp only [World.write, hworking, List.append_nil]
      exact (CallsRun.log hk .none).trans hwrite

theorem Calls.bind (he : Calls P e) (hf : ∀ a, Calls P (f a)) : Calls P (e >>= f) := by
  intro env faults w
  have hfirst := he env faults w
  cases hr : e.run env faults w with
  | mk outcome w' =>
    rw [hr] at hfirst
    cases outcome with
    | ok a =>
      rw [bind_run_ok hr]
      exact hfirst.trans (hf a env faults w')
    | error x =>
      rw [bind_run_error hr]
      exact hfirst
    | crashed =>
      rw [bind_run_crashed hr]
      exact hfirst

theorem Calls.swallow {e : Effect ρ σ κ ε Unit} (he : Calls P e) : Calls P (swallow e) := by
  intro env faults w
  have hrun := he env faults w
  simp only [Effect.swallow]
  cases hr : e.run env faults w with
  | mk outcome w' =>
    rw [hr] at hrun
    cases outcome <;> exact hrun

theorem Calls.rethrow {e : Effect ρ σ κ ε Unit} (he : Calls P e) :
    Calls P (rethrowInTransaction e) := by
  intro env faults w
  simp only [rethrowInTransaction]
  cases w.working with
  | none => exact he.swallow env faults w
  | some s => exact he env faults w

theorem Calls.transaction {k : κ} (hk : P k) (err : ε) (h : Calls P e) :
    Calls P (transaction k err e) := by
  intro env faults w
  simp only [Effect.transaction]
  cases hworking : w.working with
  | some s => exact h env faults w
  | none =>
    obtain ⟨-, cs, hcs, hkinds⟩ := h env faults { w with working := some w.committed }
    have hended : ∀ r : Outcome ε α × World σ κ, r.2.calls = w.calls ++ cs →
        CallsRun P w (finish k err faults r).2 := by
      rintro ⟨outcome, w'⟩ hbody
      have hclosed : CallsRun P w { w' with working := none } :=
        ⟨fun _ => rfl, cs, hbody, hkinds⟩
      cases outcome with
      | error x | crashed => exact hclosed
      | ok a =>
        simp only [finish]
        cases faults w'.calls.length with
        | none | throws | crash =>
          exact hclosed.trans ⟨fun _ => rfl, _, rfl, fun c hc => by
            rw [List.mem_singleton.mp hc]
            exact hk⟩
    exact hended _ hcs

end calls

section logs
variable {k : κ} {e : Effect ρ σ κ ε α} {f : α → Effect ρ σ κ ε β}

theorem logs_read {c : Client} {err : ε} {f : σ → α} :
    Logs k (read c k err f : Effect ρ σ κ ε α) := by
  intro env faults w a h
  simp only [read] at h ⊢
  cases hfault : faults w.calls.length with
  | throws | crash =>
    rw [hfault] at h
    cases h
  | none => exact ⟨⟨k, .none, w.working.isSome⟩, List.mem_append_right _ List.mem_cons_self, rfl, rfl⟩

theorem Logs.after (hf : ∀ a, Logs k (f a)) : Logs k (e >>= f) := by
  intro env faults w b h
  cases hr : e.run env faults w with
  | mk outcome w' =>
    cases outcome with
    | ok a =>
      rw [bind_run_ok hr] at h ⊢
      exact hf a env faults w' b h
    | error x =>
      rw [bind_run_error hr] at h
      cases h
    | crashed =>
      rw [bind_run_crashed hr] at h
      cases h

theorem Logs.bind {P : κ → Prop} (he : Logs k e) (hf : ∀ a, Calls P (f a)) :
    Logs k (e >>= f) := by
  intro env faults w b h
  cases hr : e.run env faults w with
  | mk outcome w' =>
    cases outcome with
    | ok a =>
      rw [bind_run_ok hr]
      obtain ⟨c, hc, hkind⟩ := he env faults w a (congrArg Prod.fst hr)
      rw [hr] at hc
      obtain ⟨-, cs, hcs, -⟩ := hf a env faults w'
      refine ⟨c, ?_, hkind⟩
      rw [hcs]
      exact List.mem_append_left cs hc
    | error x =>
      rw [bind_run_error hr] at h
      cases h
    | crashed =>
      rw [bind_run_crashed hr] at h
      cases h

theorem Logs.map (he : Logs k e) (g : α → β) : Logs k (g <$> e) := by
  rw [map_eq_pure_bind]
  exact he.bind (P := fun _ => True) fun _ => calls_pure _

end logs
end Foundation.Effect
