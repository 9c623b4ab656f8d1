import OmniSupport.Foundation.Sequence

/-! What a program can leave behind, under any schedule of faults: what holds when it
returns, and what holds when it rejects or is cut short. -/
namespace Foundation.Effect

variable {ρ σ κ ε α β : Type}

structure EndsRun (Q : α → Nat → σ → Prop) (R : σ → Prop) (r : Outcome ε α × World σ κ) :
    Prop where
  returns : ∀ a, r.1 = .ok a → Q a r.2.draws r.2.committed
  stops : r.1.isOk = false → R r.2.committed
  outside : r.2.working = none

/-- From draw `d` and the committed store `s`, with no transaction open. -/
def Ends (env : ρ) (d : Nat) (s : σ) (Q : α → Nat → σ → Prop) (R : σ → Prop)
    (e : Effect ρ σ κ ε α) : Prop :=
  ∀ faults w, w.working = none → w.draws = d → w.committed = s →
    EndsRun Q R (e.run env faults w)

variable {env : ρ} {d : Nat} {s : σ} {Q Q' : α → Nat → σ → Prop} {R R' : σ → Prop}

theorem EndsRun.ok {a : α} {w : World σ κ} (h : Q a w.draws w.committed) (hw : w.working = none) :
    EndsRun Q R ((.ok a, w) : Outcome ε α × World σ κ) where
  returns b hb := by
    cases hb
    exact h
  stops hstop := by cases hstop
  outside := hw

theorem EndsRun.stopped {r : Outcome ε α × World σ κ} (hno : r.1.isOk = false)
    (h : R r.2.committed) (hw : r.2.working = none) : EndsRun Q R r where
  returns a ha := by
    rw [ha] at hno
    cases hno
  stops _ := h
  outside := hw

theorem ends_pure {a : α} (h : Q a d s) : Ends env d s Q R (pure a : Effect ρ σ κ ε α) := by
  rintro faults w hw rfl rfl
  exact .ok h hw

theorem ends_throw {x : ε} (h : R s) : Ends env d s Q R (throw x : Effect ρ σ κ ε α) := by
  rintro faults w hw rfl rfl
  exact .stopped rfl h hw

theorem ends_lift {x : Except ε α} (h : ∀ a, x = .ok a → Q a d s) (hR : R s) :
    Ends env d s Q R (lift x : Effect ρ σ κ ε α) := by
  rintro faults w hw rfl rfl
  cases x with
  | ok a => exact .ok (h a rfl) hw
  | error e => exact .stopped rfl hR hw

theorem view_outside {w : World σ κ} (hw : w.working = none) (c : Client) :
    w.view c = w.committed := by
  cases c with
  | root => rfl
  | ambient =>
    simp only [World.view]
    rw [hw, Option.getD_none]

theorem write_outside {w : World σ κ} (hw : w.working = none) (c : Client) (s' : σ) :
    w.write c s' = { w with committed := s' } := by
  cases c <;> simp only [World.write, hw]

theorem ends_read {c : Client} {k : κ} {err : ε} {f : σ → α} (h : Q (f s) d s) (hR : R s) :
    Ends env d s Q R (read c k err f : Effect ρ σ κ ε α) := by
  rintro faults w hw rfl rfl
  have hview := view_outside hw c
  simp only [read]
  cases faults w.calls.length with
  | none =>
    rw [hview]
    exact .ok h hw
  | throws | crash => exact .stopped rfl hR hw

/-- A call takes effect, or leaves the store as it was. -/
theorem ends_call {c : Client} {k : κ} {err : ε} {f : σ → Except ε (α × σ)}
    (h : ∀ a s', f s = .ok (a, s') → Q a d s') (hR : R s) :
    Ends env d s Q R (call c k err f : Effect ρ σ κ ε α) := by
  rintro faults w hw rfl rfl
  have hview := view_outside hw c
  simp only [call, hview]
  cases faults w.calls.length with
  | throws | crash => exact .stopped rfl hR hw
  | none =>
    cases hf : f w.committed with
    | error x => exact .stopped rfl hR hw
    | ok r =>
      have hlog : (w.log k .none).working = none := hw
      have hwrite := write_outside hlog c r.2
      simp only [hwrite]
      exact .ok (h r.1 r.2 hf) hw

theorem ends_tell {f : σ → σ} {P : Unit → Nat → σ → Prop} (h : P () d (f s)) :
    Ends env d s P R (tell f : Effect ρ σ κ ε Unit) := by
  rintro faults w hw rfl rfl
  simp only [tell, write_outside hw]
  exact .ok h hw

theorem Ends.mono {e : Effect ρ σ κ ε α} (h : Ends env d s Q R e)
    (hQ : ∀ a d' s', Q a d' s' → Q' a d' s') (hR : ∀ s', R s' → R' s') :
    Ends env d s Q' R' e := by
  intro faults w hw hd hs
  obtain ⟨hreturns, hstops, houtside⟩ := h faults w hw hd hs
  exact ⟨fun a ha => hQ _ _ _ (hreturns a ha), fun hno => hR _ (hstops hno), houtside⟩

/-- What comes second starts where what comes first returned. -/
theorem Ends.bind {e : Effect ρ σ κ ε α} {f : α → Effect ρ σ κ ε β} {P : β → Nat → σ → Prop}
    (he : Ends env d s Q R e) (hf : ∀ a d' s', Q a d' s' → Ends env d' s' P R (f a)) :
    Ends env d s P R (e >>= f) := by
  intro faults w hw hd hs
  obtain ⟨hreturns, hstops, houtside⟩ := he faults w hw hd hs
  cases hr : e.run env faults w with
  | mk outcome w' =>
    rw [hr] at hreturns hstops houtside
    cases outcome with
    | ok a =>
      rw [bind_run_ok hr]
      exact hf a w'.draws w'.committed (hreturns a rfl) faults w' houtside rfl rfl
    | error x =>
      rw [bind_run_error hr]
      exact .stopped rfl (hstops rfl) houtside
    | crashed =>
      rw [bind_run_crashed hr]
      exact .stopped rfl (hstops rfl) houtside

/-- A program that returns ran its second part where the first had returned. -/
theorem Ends.bind_ok {e : Effect ρ σ κ ε α} {f : α → Effect ρ σ κ ε β} {faults : Nat → Fault}
    {w : World σ κ} {b : β} (he : Ends env d s Q R e) (hw : w.working = none) (hd : w.draws = d)
    (hs : w.committed = s) (h : ((e >>= f).run env faults w).1 = .ok b) :
    ∃ a w', Q a w'.draws w'.committed ∧ w'.working = none ∧
      (e >>= f).run env faults w = (f a).run env faults w' := by
  obtain ⟨hreturns, -, houtside⟩ := he faults w hw hd hs
  cases hr : e.run env faults w with
  | mk outcome w' =>
    rw [hr] at hreturns houtside
    cases outcome with
    | ok a => exact ⟨a, w', hreturns a rfl, houtside, bind_run_ok hr⟩
    | error x =>
      rw [bind_run_error hr] at h
      cases h
    | crashed =>
      rw [bind_run_crashed hr] at h
      cases h

/-- What holds however a program ends holds of the store it leaves. -/
theorem Ends.leaves {e : Effect ρ σ κ ε α} {P : σ → Prop} (h : Ends env 0 s (fun _ _ => P) P e)
    (faults : Nat → Fault) : P (e.run env faults (World.start s)).2.committed := by
  obtain ⟨hreturns, hstops, -⟩ := h faults (World.start s) rfl rfl rfl
  cases hr : (e.run env faults (World.start s)).1 with
  | ok a => exact hreturns a hr
  | error x => exact hstops (by rw [hr]; rfl)
  | crashed => exact hstops (by rw [hr]; rfl)

theorem ends_draw_bind {f : ρ → Nat → α} {g : α → Effect ρ σ κ ε β} {P : β → Nat → σ → Prop}
    (h : Ends env (d + 1) s P R (g (f env d))) : Ends env d s P R (draw f >>= g) := by
  rintro faults w hw rfl hs
  exact h faults { w with draws := w.draws + 1 } hw rfl hs

theorem ends_lift_bind {x : Except ε α} {g : α → Effect ρ σ κ ε β} {P : β → Nat → σ → Prop}
    (h : ∀ a, x = .ok a → Ends env d s P R (g a)) (hR : R s) :
    Ends env d s P R (lift x >>= g) := by
  refine (ends_lift (Q := fun a d' s' => x = .ok a ∧ d' = d ∧ s' = s)
    (fun a ha => ⟨ha, rfl, rfl⟩) hR).bind ?_
  rintro a d' s' ⟨ha, rfl, rfl⟩
  exact h a ha

theorem ends_read_bind {c : Client} {k : κ} {err : ε} {f : σ → α} {g : α → Effect ρ σ κ ε β}
    {P : β → Nat → σ → Prop} (h : Ends env d s P R (g (f s))) (hR : R s) :
    Ends env d s P R (read c k err f >>= g) := by
  refine (ends_read (Q := fun a d' s' => a = f s ∧ d' = d ∧ s' = s) ⟨rfl, rfl, rfl⟩ hR).bind ?_
  rintro a d' s' ⟨rfl, rfl, rfl⟩
  exact h

theorem ends_call_bind {c : Client} {k : κ} {err : ε} {f : σ → Except ε (α × σ)}
    {g : α → Effect ρ σ κ ε β} {P : β → Nat → σ → Prop}
    (h : ∀ a s', f s = .ok (a, s') → Ends env d s' P R (g a)) (hR : R s) :
    Ends env d s P R (call c k err f >>= g) := by
  refine (ends_call (Q := fun a d' s' => f s = .ok (a, s') ∧ d' = d)
    (fun a s' ha => ⟨ha, rfl⟩) hR).bind ?_
  rintro a d' s' ⟨ha, rfl⟩
  exact h a s' ha

/-- A program whose failure is only logged. -/
theorem Ends.swallow {e : Effect ρ σ κ ε Unit} {P : σ → Prop}
    (h : Ends env d s (fun _ _ => P) P e) : Ends env d s (fun _ _ => P) P (swallow e) := by
  intro faults w hw hd hs
  obtain ⟨hreturns, hstops, houtside⟩ := h faults w hw hd hs
  simp only [Effect.swallow]
  cases hr : e.run env faults w with
  | mk outcome w' =>
    rw [hr] at hreturns hstops houtside
    cases outcome with
    | ok a => exact .ok (hreturns a rfl) houtside
    | error x => exact .ok (hstops rfl) houtside
    | crashed => exact .stopped rfl (hstops rfl) houtside

theorem Ends.rethrow {e : Effect ρ σ κ ε Unit} {P : σ → Prop}
    (h : Ends env d s (fun _ _ => P) P e) :
    Ends env d s (fun _ _ => P) P (rethrowInTransaction e) := by
  intro faults w hw hd hs
  have hsame : (rethrowInTransaction e).run env faults w = (Effect.swallow e).run env faults w := by
    simp only [rethrowInTransaction, hw]
  rw [hsame]
  exact h.swallow faults w hw hd hs

theorem ends_forEach {xs : List α} {f : α → Effect ρ σ κ ε Unit} {P : σ → Prop}
    (h : ∀ x ∈ xs, ∀ d s, P s → Ends env d s (fun _ _ => P) P (f x)) (hs : P s) :
    Ends env d s (fun _ _ => P) P (forEach xs f) := by
  induction xs generalizing d s with
  | nil => exact ends_pure hs
  | cons x rest ih =>
    have hrest := fun d s hs => ih (d := d) (s := s) (fun y hy => h y (List.mem_cons_of_mem _ hy)) hs
    exact (h x List.mem_cons_self d s hs).bind fun _ d' s' hs' => hrest d' s' hs'

/-- The handler runs on what the rejected program left, and the error is passed on. -/
theorem Ends.onError {e : Effect ρ σ κ ε α} {handler : Effect ρ σ κ ε Unit} {S : σ → Prop}
    (h : Ends env d s Q S e) (hS : ∀ s', S s' → R s')
    (hhandler : ∀ d' s', S s' → Ends env d' s' (fun _ _ => R) R handler) :
    Ends env d s Q R (onError e handler) := by
  intro faults w hw hd hs
  obtain ⟨hreturns, hstops, houtside⟩ := h faults w hw hd hs
  simp only [Effect.onError]
  cases hr : e.run env faults w with
  | mk outcome w' =>
    rw [hr] at hreturns hstops houtside
    cases outcome with
    | ok a => exact .ok (hreturns a rfl) houtside
    | crashed => exact .stopped rfl (hS _ (hstops rfl)) houtside
    | error x =>
      have hcaught : Ends env w'.draws w'.committed Q R (handler >>= fun _ => throw x) :=
        (hhandler w'.draws w'.committed (hstops rfl)).bind fun _ _ _ hR => ends_throw hR
      exact hcaught faults w' houtside rfl rfl

/-- A new transaction leaves what its body can leave, or nothing. -/
theorem ends_transaction {body : Effect ρ σ κ ε α} {k : κ} {err : ε} (hb : Inside body)
    (h : ∀ a d' s', Yields env d s body a d' s' → Q a d' s') (hR : R s) :
    Ends env d s Q R (transaction k err body) := by
  rintro faults w hw rfl rfl
  rcases transaction_cases hb k err env faults hw with
    ⟨a, w₁, s', hbody, hs', -, -, hr⟩ | ⟨hcommitted, -, hno, -⟩
  · have hyields : Yields env w.draws w.committed body a w₁.draws s' :=
      ⟨faults, { w with working := some w.committed }, w₁, rfl, rfl, hbody, hs', rfl⟩
    rw [hr]
    exact .ok (h a _ _ hyields) rfl
  · refine .stopped hno (hcommitted ▸ hR) ?_
    simp only [transaction, hw]
    cases hbody : body.run env faults { w with working := some w.committed } with
    | mk outcome w₁ =>
      cases outcome with
      | ok a => cases hf : faults w₁.calls.length <;> simp only [finish, hf]
      | error x | crashed => rfl

section phases
variable {τ : Type} {part : σ → τ} {faults : Nat → Fault} {n : Nat} {before after : List Stage}
  {Mid End : σ → Prop}

/-- The write, and a second write after it. -/
theorem phases_then {e : Effect ρ σ κ ε α} {f : α → Effect ρ σ κ ε β}
    (he : Sequence part false faults env n d s before e Q)
    (hf : ∀ a d' s', Q a d' s' → (∀ t, part t = part s' → Mid t) ∧
      Phases part faults env (n + before.length) d' s' after [] (f a) (fun _ => True) End) :
    Phases part faults env n d s before after (e >>= f) Mid End := by
  intro w hw
  obtain ⟨hpass, hstop⟩ := he w hw
  by_cases hfirst : Passes faults n before
  · obtain ⟨a, d', s', w', hr, hw', hq⟩ := hpass hfirst
    obtain ⟨hmid, hafter⟩ := hf a d' s' hq
    rw [bind_run_ok hr]
    rcases hafter w' hw' with ⟨hno, hpart⟩ | ⟨-, hno, -⟩ | ⟨hyes, -, hend⟩
    · exact Or.inr (Or.inl ⟨hfirst, hno, hmid _ hpart⟩)
    · exact absurd trivial hno
    · exact Or.inr (Or.inr ⟨hfirst, hyes, hend⟩)
  · obtain ⟨hfailed, hpart⟩ := hstop hfirst
    rw [(bind_run_failed hfailed).2]
    exact Or.inl ⟨hfirst, hpart rfl⟩

/-- The last write, before calls that may fail but keep what it left. -/
theorem phases_last {e : Effect ρ σ κ ε α} {f : α → Effect ρ σ κ ε β}
    (he : Sequence part false faults env n d s before e Q)
    (hf : ∀ a d' s', Q a d' s' → Ends env d' s' (fun _ _ => End) End (f a)) :
    Phases part faults env n d s before [] (e >>= f) Mid End := by
  intro w hw
  obtain ⟨hpass, hstop⟩ := he w hw
  by_cases hfirst : Passes faults n before
  · obtain ⟨a, d', s', w', hr, ⟨-, hd', hworking, hcommitted⟩, hq⟩ := hpass hfirst
    obtain ⟨hreturns, hstops, -⟩ := hf a d' s' hq faults w' hworking hd' hcommitted
    rw [bind_run_ok hr]
    refine Or.inr (Or.inr ⟨hfirst, trivial, ?_⟩)
    cases hrest : ((f a).run env faults w').1 with
    | ok b => exact hreturns b hrest
    | error x => exact hstops (by rw [hrest]; rfl)
    | crashed => exact hstops (by rw [hrest]; rfl)
  · obtain ⟨hfailed, hpart⟩ := hstop hfirst
    rw [(bind_run_failed hfailed).2]
    exact Or.inl ⟨hfirst, hpart rfl⟩

end phases
end Foundation.Effect
