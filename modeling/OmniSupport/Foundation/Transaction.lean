import OmniSupport.Foundation.Effect

/-! Interactive transactions: a body that works on a copy of the store, and the rules by
which a program of reads, one transaction and calls after it is atomic. -/
namespace Foundation.Effect

variable {ρ σ κ ε α β : Type}

/-- The end of a transaction whose body ended so: commit, or roll back. -/
def finish (k : κ) (err : ε) (faults : Nat → Fault) :
    Outcome ε α × World σ κ → Outcome ε α × World σ κ
  | (.ok a, w) =>
    match faults w.calls.length with
    | .none => (.ok a,
      { w.log k .none with
        committed := w.view .ambient
        working := none
        commits := w.commits + 1 })
    | .throws => (.error err, { w.log k .throws with working := none })
    | .crash => (.crashed, { w.log k .crash with working := none })
  | (.error x, w) => (.error x, { w with working := none })
  | (.crashed, w) => (.crashed, { w with working := none })

/-- The ambient transaction runs `body` when there is one. Otherwise a new one does: its
copy of the store replaces the committed one if the body succeeds and the commit does. -/
def transaction (k : κ) (err : ε) (body : Effect ρ σ κ ε α) : Effect ρ σ κ ε α where
  run env faults w :=
    match w.working with
    | some _ => body.run env faults w
    | none => finish k err faults (body.run env faults { w with working := some w.committed })

section
variable {e : Effect ρ σ κ ε α} {f : α → Effect ρ σ κ ε β} {env : ρ} {faults : Nat → Fault}
  {w w' : World σ κ}

theorem bind_run_ok {a : α} (h : e.run env faults w = (.ok a, w')) :
    (e >>= f).run env faults w = (f a).run env faults w' := by
  change (andThen e f).run env faults w = _
  simp only [andThen, h]

theorem bind_run_error {x : ε} (h : e.run env faults w = (.error x, w')) :
    (e >>= f).run env faults w = (.error x, w') := by
  change (andThen e f).run env faults w = _
  simp only [andThen, h]

theorem bind_run_crashed (h : e.run env faults w = (.crashed, w')) :
    (e >>= f).run env faults w = (.crashed, w') := by
  change (andThen e f).run env faults w = _
  simp only [andThen, h]

/-- Nothing of a program runs after a call that ended it. -/
theorem bind_run_failed
    (h : (e.run env faults w).1.isOk = false) :
    ((e >>= f).run env faults w).1.isOk = false ∧
      ((e >>= f).run env faults w).2 = (e.run env faults w).2 := by
  cases hr : e.run env faults w with
  | mk outcome w' =>
    rw [hr] at h
    cases outcome with
    | ok a => cases h
    | error x =>
      rw [bind_run_error hr]
      exact ⟨rfl, rfl⟩
    | crashed =>
      rw [bind_run_crashed hr]
      exact ⟨rfl, rfl⟩

end

instance : LawfulMonad (Effect ρ σ κ ε) := by
  refine LawfulMonad.mk' _ ?_ ?_ ?_
  · intro α e
    refine congrArg Effect.mk (funext fun env => funext fun faults => funext fun w => ?_)
    change ((e >>= pure).run env faults w) = _
    cases he : e.run env faults w with
    | mk outcome w' => cases outcome <;> simp [bind, andThen, he, pure, ret]
  · intro α β a f
    rfl
  · intro α β γ e f g
    refine congrArg Effect.mk (funext fun env => funext fun faults => funext fun w => ?_)
    change ((e >>= f) >>= g).run env faults w = (e >>= fun a => f a >>= g).run env faults w
    cases he : e.run env faults w with
    | mk outcome w' => cases outcome <;> simp [bind, andThen, he]

/-- A result that is mapped leaves the run as it was. -/
theorem map_run (e : Effect ρ σ κ ε α) (f : α → β) (env : ρ) (faults : Nat → Fault)
    (w : World σ κ) :
    ((f <$> e).run env faults w).2 = (e.run env faults w).2 ∧
      ((f <$> e).run env faults w).1.isOk = (e.run env faults w).1.isOk := by
  rw [map_eq_pure_bind]
  cases hr : e.run env faults w with
  | mk outcome w' =>
    cases outcome with
    | ok a =>
      rw [bind_run_ok hr]
      exact ⟨rfl, rfl⟩
    | error x =>
      rw [bind_run_error hr]
      exact ⟨rfl, rfl⟩
    | crashed =>
      rw [bind_run_crashed hr]
      exact ⟨rfl, rfl⟩

section inside

/-- A run inside a transaction leaves the committed store alone, and it only succeeds when
every call it made did. -/
structure InsideRun (w : World σ κ) (r : Outcome ε α × World σ κ) : Prop where
  committed : r.2.committed = w.committed
  commits : r.2.commits = w.commits
  working : ∃ s, r.2.working = some s
  calls : ∃ cs, r.2.calls = w.calls ++ cs ∧ (r.1.isOk = true → ∀ c ∈ cs, c.fault = .none)

def Inside (e : Effect ρ σ κ ε α) : Prop :=
  ∀ env faults w s, w.working = some s → InsideRun w (e.run env faults w)

theorem InsideRun.of_no_call {w w' : World σ κ} {s : σ} {outcome : Outcome ε α}
    (hw : w'.working = some s) (hc : w'.committed = w.committed)
    (hn : w'.commits = w.commits) (hl : w'.calls = w.calls) : InsideRun w (outcome, w') where
  committed := hc
  commits := hn
  working := ⟨s, hw⟩
  calls := ⟨[], by simp [hl], fun _ c hc => by cases hc⟩

theorem inside_pure (a : α) : Inside (pure a : Effect ρ σ κ ε α) :=
  fun _ _ _ _ hw => .of_no_call hw rfl rfl rfl

theorem inside_draw (f : ρ → Nat → α) : Inside (draw f : Effect ρ σ κ ε α) :=
  fun _ _ _ _ hw => .of_no_call hw rfl rfl rfl

theorem inside_lift (x : Except ε α) : Inside (lift x : Effect ρ σ κ ε α) := by
  intro env faults w s hw
  cases x <;> exact .of_no_call hw rfl rfl rfl

/-- A call joins the transaction when it goes to the ambient client. -/
theorem inside_call (k : κ) (err : ε) (f : σ → Except ε (α × σ)) :
    Inside (call .ambient k err f : Effect ρ σ κ ε α) := by
  intro env faults w s hw
  simp only [call]
  cases faults w.calls.length with
  | crash => exact ⟨rfl, rfl, ⟨s, hw⟩, _, rfl, fun h => by cases h⟩
  | throws => exact ⟨rfl, rfl, ⟨s, hw⟩, _, rfl, fun h => by cases h⟩
  | none =>
    cases hf : f (w.view .ambient) with
    | error x => exact ⟨rfl, rfl, ⟨s, hw⟩, _, rfl, fun h => by cases h⟩
    | ok r =>
      have hwrite : (w.log k .none).write .ambient r.2 =
          { w.log k .none with working := some r.2 } := by
        simp [World.write, World.log, hw]
      refine ⟨?_, ?_, ⟨r.2, ?_⟩, [⟨k, .none, w.working.isSome⟩], ?_, fun _ c hc => ?_⟩
      · simp only [hwrite]
        rfl
      · simp only [hwrite]
        rfl
      · simp only [hwrite]
      · simp only [hwrite]
        rfl
      · rw [List.mem_singleton.mp hc]

theorem inside_read (k : κ) (err : ε) (f : σ → α) :
    Inside (read .ambient k err f : Effect ρ σ κ ε α) := by
  intro env faults w s hw
  simp only [read]
  cases faults w.calls.length with
  | crash | throws => exact ⟨rfl, rfl, ⟨s, hw⟩, _, rfl, fun h => by cases h⟩
  | none =>
    refine ⟨rfl, rfl, ⟨s, hw⟩, _, rfl, fun _ c hc => ?_⟩
    rw [List.mem_singleton.mp hc]

theorem Inside.bind {e : Effect ρ σ κ ε α} {f : α → Effect ρ σ κ ε β} (he : Inside e)
    (hf : ∀ a, Inside (f a)) : Inside (e >>= f) := by
  intro env faults w s hw
  obtain ⟨hc, hn, ⟨s₁, hs₁⟩, cs, hcs, hok⟩ := he env faults w s hw
  cases hr : e.run env faults w with
  | mk outcome w₁ =>
    rw [hr] at hc hn hs₁ hcs hok
    cases outcome with
    | ok a =>
      rw [bind_run_ok hr]
      obtain ⟨hc', hn', hs', cs', hcs', hok'⟩ := hf a env faults w₁ s₁ hs₁
      refine ⟨hc'.trans hc, hn'.trans hn, hs', cs ++ cs', ?_, fun h c hm => ?_⟩
      · rw [hcs', hcs, List.append_assoc]
      · rcases List.mem_append.mp hm with hm | hm
        · exact hok rfl c hm
        · exact hok' h c hm
    | error x =>
      rw [bind_run_error hr]
      exact ⟨hc, hn, ⟨s₁, hs₁⟩, cs, hcs, fun h => by cases h⟩
    | crashed =>
      rw [bind_run_crashed hr]
      exact ⟨hc, hn, ⟨s₁, hs₁⟩, cs, hcs, fun h => by cases h⟩

theorem Inside.rethrow {e : Effect ρ σ κ ε Unit} (he : Inside e) :
    Inside (rethrowInTransaction e) := by
  intro env faults w s hw
  simp only [rethrowInTransaction, hw]
  exact he env faults w s hw

end inside

section yields

/-- Inside a transaction, from draw `d` and working copy `s`, the program can succeed with
`a` at draw `d'`, leaving the copy `s'`. -/
def Yields (env : ρ) (d : Nat) (s : σ) (e : Effect ρ σ κ ε α) (a : α) (d' : Nat) (s' : σ) :
    Prop :=
  ∃ faults w w', w.working = some s ∧ w.draws = d ∧ e.run env faults w = (.ok a, w') ∧
    w'.working = some s' ∧ w'.draws = d'

variable {env : ρ} {d d' : Nat} {s s' : σ} {a : α}

theorem yields_pure {b : α} (h : Yields env d s (pure b : Effect ρ σ κ ε α) a d' s') :
    a = b ∧ d' = d ∧ s' = s := by
  obtain ⟨faults, w, w', hw, hd, hr, hw', hd'⟩ := h
  cases hr
  exact ⟨rfl, hd'.symm.trans hd, Option.some.inj (hw'.symm.trans hw)⟩

theorem yields_draw {f : ρ → Nat → α} (h : Yields env d s (draw f : Effect ρ σ κ ε α) a d' s') :
    a = f env d ∧ d' = d + 1 ∧ s' = s := by
  obtain ⟨faults, w, w', hw, rfl, hr, hw', rfl⟩ := h
  cases hr
  exact ⟨rfl, rfl, Option.some.inj (hw'.symm.trans hw)⟩

theorem yields_lift {x : Except ε α} (h : Yields env d s (lift x : Effect ρ σ κ ε α) a d' s') :
    x = .ok a ∧ d' = d ∧ s' = s := by
  obtain ⟨faults, w, w', hw, hd, hr, hw', hd'⟩ := h
  cases x with
  | ok b =>
    cases hr
    exact ⟨rfl, hd'.symm.trans hd, Option.some.inj (hw'.symm.trans hw)⟩
  | error e => cases hr

theorem yields_call {k : κ} {err : ε} {f : σ → Except ε (α × σ)}
    (h : Yields env d s (call .ambient k err f : Effect ρ σ κ ε α) a d' s') :
    f s = .ok (a, s') ∧ d' = d := by
  obtain ⟨faults, w, w', hw, rfl, hr, hw', rfl⟩ := h
  have hview : w.view .ambient = s := by
    simp only [World.view]
    rw [hw, Option.getD_some]
  simp only [call, hview] at hr
  cases hf : faults w.calls.length with
  | crash | throws => simp [hf] at hr
  | none =>
    simp only [hf] at hr
    cases hs : f s with
    | error x => simp [hs] at hr
    | ok r =>
      simp only [hs, Prod.mk.injEq, Outcome.ok.injEq] at hr
      obtain ⟨rfl, rfl⟩ := hr
      have hlog : (w.log k .none).working = some s := hw
      simp only [World.write, hlog, Option.some.injEq] at hw'
      refine ⟨by rw [← hw'], ?_⟩
      simp only [World.write, hlog]
      rfl

theorem yields_read {k : κ} {err : ε} {f : σ → α}
    (h : Yields env d s (read .ambient k err f : Effect ρ σ κ ε α) a d' s') :
    a = f s ∧ d' = d ∧ s' = s := by
  obtain ⟨faults, w, w', hw, rfl, hr, hw', rfl⟩ := h
  have hview : w.view .ambient = s := by
    simp only [World.view]
    rw [hw, Option.getD_some]
  simp only [read, hview] at hr
  cases hf : faults w.calls.length with
  | crash | throws => simp [hf] at hr
  | none =>
    simp only [hf, Prod.mk.injEq, Outcome.ok.injEq] at hr
    obtain ⟨rfl, rfl⟩ := hr
    exact ⟨rfl, rfl, Option.some.inj (hw'.symm.trans hw)⟩

theorem yields_bind {e : Effect ρ σ κ ε α} {f : α → Effect ρ σ κ ε β} {b : β} (he : Inside e)
    (h : Yields env d s (e >>= f) b d' s') :
    ∃ a d₁ s₁, Yields env d s e a d₁ s₁ ∧ Yields env d₁ s₁ (f a) b d' s' := by
  obtain ⟨faults, w, w', hw, hd, hr, hw', hd'⟩ := h
  obtain ⟨s₁, hs₁⟩ := (he env faults w s hw).working
  cases he : e.run env faults w with
  | mk outcome w₁ =>
    rw [he] at hs₁
    cases outcome with
    | ok a =>
      rw [bind_run_ok he] at hr
      exact ⟨a, w₁.draws, s₁, ⟨faults, w, w₁, hw, hd, he, hs₁, rfl⟩,
        faults, w₁, w', hs₁, rfl, hr, hw', hd'⟩
    | error x =>
      rw [bind_run_error he] at hr
      cases hr
    | crashed =>
      rw [bind_run_crashed he] at hr
      cases hr

theorem yields_rethrow {e : Effect ρ σ κ ε Unit} {u : Unit}
    (h : Yields env d s (rethrowInTransaction e) u d' s') : Yields env d s e u d' s' := by
  obtain ⟨faults, w, w', hw, hd, hr, hw', hd'⟩ := h
  simp only [rethrowInTransaction, hw] at hr
  exact ⟨faults, w, w', hw, hd, hr, hw', hd'⟩

end yields

section readOnly

/-- A run outside of transactions that writes nothing. -/
structure ReadOnlyRun (w : World σ κ) (r : Outcome ε α × World σ κ) : Prop where
  committed : r.2.committed = w.committed
  commits : r.2.commits = w.commits
  working : r.2.working = none
  calls : ∃ cs, r.2.calls = w.calls ++ cs ∧ ∀ c ∈ cs, c.inTransaction = false

def ReadOnly (e : Effect ρ σ κ ε α) : Prop :=
  ∀ env faults w, w.working = none → ReadOnlyRun w (e.run env faults w)

theorem readOnly_pure (a : α) : ReadOnly (pure a : Effect ρ σ κ ε α) :=
  fun _ _ _ hw => ⟨rfl, rfl, hw, [], by simp [pure, ret], fun c hc => by cases hc⟩

theorem readOnly_read (c : Client) (k : κ) (err : ε) (f : σ → α) :
    ReadOnly (read c k err f : Effect ρ σ κ ε α) := by
  intro env faults w hw
  simp only [read]
  cases faults w.calls.length <;> exact ⟨rfl, rfl, hw, _, rfl, by simp [hw]⟩

theorem readOnly_draw (f : ρ → Nat → α) : ReadOnly (draw f : Effect ρ σ κ ε α) :=
  fun _ _ _ hw => ⟨rfl, rfl, hw, [], by simp [draw], fun c hc => by cases hc⟩

theorem ReadOnly.bind {e : Effect ρ σ κ ε α} {f : α → Effect ρ σ κ ε β} (he : ReadOnly e)
    (hf : ∀ a, ReadOnly (f a)) : ReadOnly (e >>= f) := by
  intro env faults w hw
  obtain ⟨hc, hn, hw₁, cs, hcs, hin⟩ := he env faults w hw
  cases hr : e.run env faults w with
  | mk outcome w₁ =>
    rw [hr] at hc hn hw₁ hcs
    cases outcome with
    | ok a =>
      rw [bind_run_ok hr]
      obtain ⟨hc', hn', hw', cs', hcs', hin'⟩ := hf a env faults w₁ hw₁
      refine ⟨hc'.trans hc, hn'.trans hn, hw', cs ++ cs', ?_, fun c hm => ?_⟩
      · rw [hcs', hcs, List.append_assoc]
      · rcases List.mem_append.mp hm with hm | hm
        · exact hin c hm
        · exact hin' c hm
    | error x =>
      rw [bind_run_error hr]
      exact ⟨hc, hn, hw₁, cs, hcs, hin⟩
    | crashed =>
      rw [bind_run_crashed hr]
      exact ⟨hc, hn, hw₁, cs, hcs, hin⟩

end readOnly

section atomic

/-- The run failed, committed nothing and left the store as it was, or it committed once,
the store is as `Q` says, and no call of its transaction failed. -/
def AtomicRun (Q : σ → Prop) (w : World σ κ) (r : Outcome ε α × World σ κ) : Prop :=
  ∃ cs, r.2.calls = w.calls ++ cs ∧
    ((r.1.isOk = false ∧ r.2.commits = w.commits ∧ r.2.committed = w.committed) ∨
      (r.2.commits = w.commits + 1 ∧ Q r.2.committed ∧
        ∀ c ∈ cs, c.inTransaction = true → c.fault = .none))

/-- From draw `d` and the committed store `s` every run of the program is atomic. -/
def Atomic (env : ρ) (d : Nat) (s : σ) (Q : σ → Prop) (e : Effect ρ σ κ ε α) : Prop :=
  ∀ faults w, w.working = none → w.draws = d → w.committed = s →
    AtomicRun Q w (e.run env faults w)

variable {env : ρ} {d : Nat} {s : σ} {Q : σ → Prop}

theorem Atomic.mono {e : Effect ρ σ κ ε α} {P : σ → Prop} (h : Atomic env d s P e)
    (hpq : ∀ s', P s' → Q s') : Atomic env d s Q e := by
  intro faults w hw hd hs
  obtain ⟨cs, hcs, hor⟩ := h faults w hw hd hs
  refine ⟨cs, hcs, ?_⟩
  rcases hor with hfailed | ⟨hcommits, hp, hall⟩
  · exact Or.inl hfailed
  · exact Or.inr ⟨hcommits, hpq _ hp, hall⟩

/-- A program that returns has committed. -/
theorem Atomic.returns {e : Effect ρ σ κ ε α} {faults : Nat → Fault} {w : World σ κ} {a : α}
    (h : Atomic env d s Q e) (hw : w.working = none) (hd : w.draws = d) (hs : w.committed = s)
    (ha : (e.run env faults w).1 = .ok a) : Q (e.run env faults w).2.committed := by
  obtain ⟨cs, -, hor⟩ := h faults w hw hd hs
  rcases hor with ⟨hno, -⟩ | ⟨-, hq, -⟩
  · rw [ha] at hno
    cases hno
  · exact hq

/-- However an atomic program ends, it leaves the store as it was or as `Q` says. -/
theorem Atomic.leaves {e : Effect ρ σ κ ε α} (h : Atomic env 0 s Q e) (faults : Nat → Fault) :
    (e.run env faults (World.start s)).2.committed = s ∨
      Q (e.run env faults (World.start s)).2.committed := by
  obtain ⟨cs, -, hor⟩ := h faults (World.start s) rfl rfl rfl
  rcases hor with ⟨-, -, hsame⟩ | ⟨-, hq, -⟩
  · exact Or.inl hsame
  · exact Or.inr hq

/-- What is returned does not matter. -/
theorem Atomic.map {e : Effect ρ σ κ ε α} (h : Atomic env d s Q e) (f : α → β) :
    Atomic env d s Q (f <$> e) := by
  intro faults w hw hd hs
  obtain ⟨hworld, hok⟩ := map_run e f env faults w
  rw [AtomicRun, hworld, hok]
  exact h faults w hw hd hs

theorem atomic_draw_bind {f : ρ → Nat → α} {g : α → Effect ρ σ κ ε β}
    (h : Atomic env (d + 1) s Q (g (f env d))) : Atomic env d s Q (draw f >>= g) := by
  rintro faults w hw rfl hs
  exact h faults { w with draws := w.draws + 1 } hw rfl hs

theorem atomic_lift_bind {x : Except ε α} {g : α → Effect ρ σ κ ε β}
    (h : ∀ a, x = .ok a → Atomic env d s Q (g a)) : Atomic env d s Q (lift x >>= g) := by
  intro faults w hw hd hs
  cases x with
  | ok a => exact h a rfl faults w hw hd hs
  | error e => exact ⟨[], by simp [bind, andThen, lift], Or.inl ⟨rfl, rfl, rfl⟩⟩

/-- Before the transaction a program knows what it read from the store. -/
theorem atomic_read_bind {c : Client} {k : κ} {err : ε} {f : σ → α} {g : α → Effect ρ σ κ ε β}
    (h : Atomic env d s Q (g (f s))) : Atomic env d s Q (read c k err f >>= g) := by
  rintro faults w hw hd rfl
  have hview : w.view c = w.committed := by
    cases c with
    | root => rfl
    | ambient =>
      simp only [World.view]
      rw [hw, Option.getD_none]
  cases hf : faults w.calls.length with
  | none =>
    have hr : (read c k err f : Effect ρ σ κ ε α).run env faults w =
        (.ok (f w.committed), w.log k .none) := by
      simp only [read, hf, hview]
    rw [bind_run_ok hr]
    obtain ⟨cs, hcs, hor⟩ := h faults (w.log k .none) hw hd rfl
    refine ⟨⟨k, .none, false⟩ :: cs, by rw [hcs]; simp [World.log, hw], ?_⟩
    rcases hor with hfailed | ⟨hn, hq, hall⟩
    · exact Or.inl hfailed
    · refine Or.inr ⟨hn, hq, fun c hm ht => ?_⟩
      rcases List.mem_cons.mp hm with rfl | hm
      · cases ht
      · exact hall c hm ht
  | throws =>
    have hr : (read c k err f : Effect ρ σ κ ε α).run env faults w =
        (.error err, w.log k .throws) := by
      simp only [read, hf]
    rw [bind_run_error hr]
    exact ⟨_, rfl, Or.inl ⟨rfl, rfl, rfl⟩⟩
  | crash =>
    have hr : (read c k err f : Effect ρ σ κ ε α).run env faults w =
        (.crashed, w.log k .crash) := by
      simp only [read, hf]
    rw [bind_run_crashed hr]
    exact ⟨_, rfl, Or.inl ⟨rfl, rfl, rfl⟩⟩

/-- A call that rejects by itself ends the program. -/
theorem atomic_call_rejects {c : Client} {k : κ} {err x : ε} {f : σ → Except ε (α × σ)}
    {g : α → Effect ρ σ κ ε β} (hf : f s = .error x) :
    Atomic env d s Q (call c k err f >>= g) := by
  rintro faults w hw hd rfl
  have hview : w.view c = w.committed := by
    cases c with
    | root => rfl
    | ambient =>
      simp only [World.view]
      rw [hw, Option.getD_none]
  have hr : ∃ fault outcome, outcome.isOk = false ∧
      (call c k err f : Effect ρ σ κ ε α).run env faults w = (outcome, w.log k fault) := by
    cases hfault : faults w.calls.length with
    | none => exact ⟨.throws, .error x, rfl, by simp only [call, hfault, hview, hf]⟩
    | throws => exact ⟨.throws, .error err, rfl, by simp only [call, hfault]⟩
    | crash => exact ⟨.crash, .crashed, rfl, by simp only [call, hfault]⟩
  obtain ⟨fault, outcome, hno, hr⟩ := hr
  cases outcome with
  | ok a => cases hno
  | error y =>
    rw [bind_run_error hr]
    exact ⟨_, rfl, Or.inl ⟨rfl, rfl, rfl⟩⟩
  | crashed =>
    rw [bind_run_crashed hr]
    exact ⟨_, rfl, Or.inl ⟨rfl, rfl, rfl⟩⟩

/-- How a new transaction ends: it succeeds with every call made, and the store is the
copy its body left, or it leaves the store as it was. -/
theorem transaction_cases {body : Effect ρ σ κ ε α} (hb : Inside body) (k : κ) (err : ε)
    (env : ρ) (faults : Nat → Fault) {w : World σ κ} (hw : w.working = none) :
    (∃ a w₁ s', body.run env faults { w with working := some w.committed } = (.ok a, w₁) ∧
      w₁.working = some s' ∧ w₁.commits = w.commits ∧
      (∃ cs, w₁.calls = w.calls ++ cs ∧ ∀ c ∈ cs, c.fault = .none) ∧
      (transaction k err body).run env faults w =
        (.ok a, { w₁.log k .none with committed := s', working := none, commits := w₁.commits + 1 })) ∨
    (((transaction k err body).run env faults w).2.committed = w.committed ∧
      ((transaction k err body).run env faults w).2.commits = w.commits ∧
      ((transaction k err body).run env faults w).1.isOk = false ∧
      ∃ cs, ((transaction k err body).run env faults w).2.calls = w.calls ++ cs) := by
  obtain ⟨hc, hn, ⟨s', hs'⟩, cs, hcs, hok⟩ :=
    hb env faults { w with working := some w.committed } w.committed rfl
  simp only [transaction, hw]
  cases hr : body.run env faults { w with working := some w.committed } with
  | mk outcome w₁ =>
    rw [hr] at hc hn hs' hcs hok
    cases outcome with
    | ok a =>
      have hview : w₁.view .ambient = s' := by
        simp only [World.view]
        rw [hs', Option.getD_some]
      cases hf : faults w₁.calls.length with
      | none =>
        refine Or.inl ⟨a, w₁, s', rfl, hs', hn, ⟨cs, hcs, hok rfl⟩, ?_⟩
        simp only [finish, hf, hview]
      | throws =>
        refine Or.inr ?_
        simp only [finish, hf]
        exact ⟨hc, hn, rfl, _, by rw [← List.append_assoc, ← hcs]; rfl⟩
      | crash =>
        refine Or.inr ?_
        simp only [finish, hf]
        exact ⟨hc, hn, rfl, _, by rw [← List.append_assoc, ← hcs]; rfl⟩
    | error x => exact Or.inr ⟨hc, hn, rfl, cs, hcs⟩
    | crashed => exact Or.inr ⟨hc, hn, rfl, cs, hcs⟩

/-- A transaction followed by calls that write nothing is atomic, with every effect its
body can have. -/
theorem atomic_transaction_bind {body : Effect ρ σ κ ε α} {f : α → Effect ρ σ κ ε β} {k : κ}
    {err : ε} (hb : Inside body) (hf : ∀ a, ReadOnly (f a))
    (h : ∀ a d' s', Yields env d s body a d' s' → Q s') :
    Atomic env d s Q (transaction k err body >>= f) := by
  rintro faults w hw rfl rfl
  rcases transaction_cases hb k err env faults hw with
    ⟨a, w₁, s', hrun, hs', hn, ⟨cs, hcs, hok⟩, htx⟩ | ⟨hc, hn, hnok, cs, hcs⟩
  · rw [bind_run_ok htx]
    obtain ⟨hc', hn', -, cs', hcs', hin⟩ := hf a env faults
      { w₁.log k .none with committed := s', working := none, commits := w₁.commits + 1 } rfl
    refine ⟨cs ++ ⟨k, .none, true⟩ :: cs', ?_, Or.inr ⟨?_, ?_, fun c hm ht => ?_⟩⟩
    · rw [hcs']
      simp [World.log, hcs, hs']
    · rw [hn', hn]
    · rw [hc']
      exact h a w₁.draws s'
        ⟨faults, { w with working := some w.committed }, w₁, rfl, rfl, hrun, hs', rfl⟩
    · rcases List.mem_append.mp hm with hm | hm
      · exact hok c hm
      · rcases List.mem_cons.mp hm with rfl | hm
        · rfl
        · rw [hin c hm] at ht
          cases ht
  · cases hr : (transaction k err body).run env faults w with
    | mk outcome w₁ =>
      rw [hr] at hc hn hnok hcs
      cases outcome with
      | ok a => cases hnok
      | error x =>
        rw [bind_run_error hr]
        exact ⟨cs, hcs, Or.inl ⟨rfl, hn, hc⟩⟩
      | crashed =>
        rw [bind_run_crashed hr]
        exact ⟨cs, hcs, Or.inl ⟨rfl, hn, hc⟩⟩

/-- A transaction whose body cannot succeed ends the program. -/
theorem atomic_transaction_fails {body : Effect ρ σ κ ε α} {f : α → Effect ρ σ κ ε β} {k : κ}
    {err : ε} (hb : Inside body) (h : ∀ a d' s', ¬ Yields env d s body a d' s') :
    Atomic env d s Q (transaction k err body >>= f) := by
  rintro faults w hw rfl rfl
  rcases transaction_cases hb k err env faults hw with
    ⟨a, w₁, s', hrun, hs', -⟩ | ⟨hc, hn, hnok, cs, hcs⟩
  · exact absurd ⟨faults, { w with working := some w.committed }, w₁, rfl, rfl, hrun, hs', rfl⟩
      (h a w₁.draws s')
  · obtain ⟨hfailed, hworld⟩ := bind_run_failed hnok (f := f)
    rw [AtomicRun, hworld]
    exact ⟨cs, hcs, Or.inl ⟨hfailed, hn, hc⟩⟩

end atomic
end Foundation.Effect
