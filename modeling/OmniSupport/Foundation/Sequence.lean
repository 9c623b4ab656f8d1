import OmniSupport.Foundation.Transaction

/-! Programs whose calls take effect one by one. A schedule either lets a whole sequence
of calls pass or stops it somewhere, and a program that writes in the middle of its
sequence can be stopped before that write or after it. -/
namespace Foundation.Effect

variable {ρ σ κ ε α β τ : Type}

/-- How a call takes a throw: it ends the program, or it is swallowed. -/
inductive Stage where
  | strict
  | tolerant

def Stage.passes : Stage → Fault → Bool
  | _, .none => true
  | .tolerant, .throws => true
  | _, _ => false

/-- The schedule lets these calls pass, the first of them at position `n`. -/
def Passes (faults : Nat → Fault) : Nat → List Stage → Prop
  | _, [] => True
  | n, stage :: rest => stage.passes (faults n) = true ∧ Passes faults (n + 1) rest

instance decidablePasses (faults : Nat → Fault) :
    (n : Nat) → (stages : List Stage) → Decidable (Passes faults n stages)
  | _, [] => isTrue trivial
  | n, _ :: rest =>
    have := decidablePasses faults (n + 1) rest
    inferInstanceAs (Decidable (_ ∧ _))

variable {faults : Nat → Fault} {env : ρ} {n d : Nat} {s : σ}

theorem passes_append {as bs : List Stage} :
    Passes faults n (as ++ bs) ↔ Passes faults n as ∧ Passes faults (n + as.length) bs := by
  induction as generalizing n with
  | nil => simp [Passes]
  | cons stage as ih =>
    have hpos : n + 1 + as.length = n + (stage :: as).length := by
      rw [List.length_cons]
      omega
    simp only [List.cons_append, Passes, ih, hpos, and_assoc]

theorem passes_strict : Passes faults n [.strict] ↔ faults n = .none := by
  cases h : faults n <;> simp [Passes, Stage.passes, h]

/-- The store a call works on: the copy of the open transaction, or the committed one. -/
def At (inside : Bool) (n d : Nat) (s : σ) (w : World σ κ) : Prop :=
  w.calls.length = n ∧ w.draws = d ∧
    if inside then w.working = some s else w.working = none ∧ w.committed = s

theorem at_start (s : σ) : At false 0 0 s (World.start s : World σ κ) := ⟨rfl, rfl, rfl, rfl⟩

/-- From call `n`, draw `d` and store `s`, the program returns as `Q` says when the
schedule lets its calls pass. Otherwise it fails, and outside of a transaction that part
of the store is as it was. -/
def Sequence (part : σ → τ) (inside : Bool) (faults : Nat → Fault) (env : ρ) (n d : Nat) (s : σ)
    (stages : List Stage) (e : Effect ρ σ κ ε α) (Q : α → Nat → σ → Prop) : Prop :=
  ∀ w, At inside n d s w →
    (Passes faults n stages → ∃ a d' s' w', e.run env faults w = (.ok a, w') ∧
      At inside (n + stages.length) d' s' w' ∧ Q a d' s') ∧
    (¬ Passes faults n stages → (e.run env faults w).1.isOk = false ∧
      (inside = false → part (e.run env faults w).2.committed = part s))

section sequence
variable {part : σ → τ} {inside : Bool} {stages stages' : List Stage} {Q : α → Nat → σ → Prop}

theorem sequence_pure (a : α) :
    Sequence part inside faults env n d s [] (pure a : Effect ρ σ κ ε α)
      fun b d' s' => b = a ∧ d' = d ∧ s' = s :=
  fun w hw => ⟨fun _ => ⟨a, d, s, w, rfl, hw, rfl, rfl, rfl⟩, fun h => absurd trivial h⟩

theorem sequence_draw (f : ρ → Nat → α) :
    Sequence part inside faults env n d s [] (draw f : Effect ρ σ κ ε α)
      fun a d' s' => a = f env d ∧ d' = d + 1 ∧ s' = s := by
  rintro w ⟨hn, rfl, hs⟩
  exact ⟨fun _ => ⟨_, w.draws + 1, s, _, rfl, ⟨hn, rfl, hs⟩, rfl, rfl, rfl⟩,
    fun h => absurd trivial h⟩

theorem sequence_lift {x : Except ε α} {a : α} (h : x = .ok a) :
    Sequence part inside faults env n d s [] (lift x : Effect ρ σ κ ε α)
      fun b d' s' => b = a ∧ d' = d ∧ s' = s := by
  subst h
  exact fun w hw => ⟨fun _ => ⟨a, d, s, w, rfl, hw, rfl, rfl, rfl⟩, fun h => absurd trivial h⟩

theorem At.view {c : Client} {w : World σ κ} (hc : inside = true → c = .ambient)
    (hw : At inside n d s w) : w.view c = s := by
  obtain ⟨-, -, hs⟩ := hw
  cases inside with
  | true =>
    have hworking : w.working = some s := hs
    rw [hc rfl]
    simp only [World.view]
    rw [hworking, Option.getD_some]
  | false =>
    obtain ⟨hworking, hcommitted⟩ : w.working = none ∧ w.committed = s := hs
    cases c with
    | root => exact hcommitted
    | ambient =>
      simp only [World.view]
      rw [hworking, Option.getD_none, hcommitted]

theorem At.log {k : κ} {fault : Fault} {w : World σ κ} (hw : At inside n d s w) :
    At inside (n + 1) d s (w.log k fault) := by
  obtain ⟨rfl, hd, hs⟩ := hw
  exact ⟨by simp [World.log], hd, hs⟩

theorem At.write {c : Client} {s' : σ} {w : World σ κ} (hc : inside = true → c = .ambient)
    (hw : At inside n d s w) : At inside n d s' (w.write c s') := by
  obtain ⟨hn, hd, hs⟩ := hw
  cases inside with
  | true =>
    have hworking : w.working = some s := hs
    simp only [World.write, hc rfl, hworking]
    exact ⟨hn, hd, rfl⟩
  | false =>
    have hworking : w.working = none := hs.1
    have hwrite : w.write c s' = { w with committed := s' } := by
      cases c <;> simp only [World.write, hworking]
    rw [hwrite]
    exact ⟨hn, hd, hworking, rfl⟩

theorem At.committed {w : World σ κ} (hw : At inside n d s w) (h : inside = false) :
    w.committed = s := by
  subst h
  exact hw.2.2.2

/-- A call that does not reject by itself. -/
theorem sequence_call {c : Client} {k : κ} {err : ε} {f : σ → Except ε (α × σ)} {a : α} {s' : σ}
    (hc : inside = true → c = .ambient) (hf : f s = .ok (a, s')) :
    Sequence part inside faults env n d s [.strict] (call c k err f : Effect ρ σ κ ε α)
      fun b d' t => b = a ∧ d' = d ∧ t = s' := by
  intro w hw
  have hview := hw.view hc
  have hn := hw.1
  rw [passes_strict]
  cases hfault : faults n with
  | crash | throws =>
    refine ⟨fun h => absurd h (by decide), fun _ => ?_⟩
    simp only [call, hn, hfault]
    exact ⟨rfl, fun h => congrArg part (hw.log.committed h)⟩
  | none =>
    refine ⟨fun _ => ⟨a, d, s', (w.log k .none).write c s', ?_, hw.log.write hc, rfl, rfl, rfl⟩,
      fun h => absurd rfl h⟩
    simp only [call, hn, hfault, hview, hf]

theorem sequence_read {c : Client} {k : κ} {err : ε} {f : σ → α}
    (hc : inside = true → c = .ambient) :
    Sequence part inside faults env n d s [.strict] (read c k err f : Effect ρ σ κ ε α)
      fun a d' t => a = f s ∧ d' = d ∧ t = s := by
  intro w hw
  have hview := hw.view hc
  have hn := hw.1
  rw [passes_strict]
  cases hfault : faults n with
  | crash | throws =>
    refine ⟨fun h => absurd h (by decide), fun _ => ?_⟩
    simp only [read, hn, hfault]
    exact ⟨rfl, fun h => congrArg part (hw.log.committed h)⟩
  | none =>
    refine ⟨fun _ => ⟨f s, d, s, w.log k .none, ?_, hw.log, rfl, rfl, rfl⟩, fun h => absurd rfl h⟩
    simp only [read, hn, hfault, hview]

/-- Outside of transactions every client works on the committed store. -/
theorem sequence_call_outside {c : Client} {k : κ} {err : ε} {f : σ → Except ε (α × σ)} {a : α}
    {s' : σ} (hf : f s = .ok (a, s')) :
    Sequence part false faults env n d s [.strict] (call c k err f : Effect ρ σ κ ε α)
      fun b d' t => b = a ∧ d' = d ∧ t = s' :=
  sequence_call (fun h => absurd h Bool.false_ne_true) hf

theorem sequence_read_outside {c : Client} {k : κ} {err : ε} {f : σ → α} :
    Sequence part false faults env n d s [.strict] (read c k err f : Effect ρ σ κ ε α)
      fun a d' t => a = f s ∧ d' = d ∧ t = s :=
  sequence_read fun h => absurd h Bool.false_ne_true

/-- A call whose throw is only logged: afterwards its effect is there or it is not. -/
theorem sequence_swallow {c : Client} {k : κ} {err : ε} {f : σ → Except ε (Unit × σ)} {s' : σ}
    (hf : f s = .ok ((), s')) :
    Sequence part false faults env n d s [.tolerant] (swallow (call c k err f : Effect ρ σ κ ε Unit))
      fun _ d' t => d' = d ∧ (t = s ∨ t = s') := by
  intro w hw
  have hc : false = true → c = .ambient := fun h => by cases h
  have hview := hw.view hc
  have hn := hw.1
  cases hfault : faults n with
  | crash =>
    refine ⟨fun h => by simp [Passes, Stage.passes, hfault] at h, fun _ => ?_⟩
    simp only [swallow, call, hn, hfault]
    exact ⟨rfl, fun _ => congrArg part (hw.log.committed rfl)⟩
  | throws =>
    refine ⟨fun _ => ⟨(), d, s, w.log k .throws, ?_, hw.log, rfl, Or.inl rfl⟩,
      fun h => absurd (by simp [Passes, Stage.passes, hfault]) h⟩
    simp only [swallow, call, hn, hfault]
  | none =>
    refine ⟨fun _ => ⟨(), d, s', (w.log k .none).write c s', ?_, hw.log.write hc, rfl, Or.inr rfl⟩,
      fun h => absurd (by simp [Passes, Stage.passes, hfault]) h⟩
    simp only [swallow, call, hn, hfault, hview, hf]

/-- One sequence after another. What comes first may leave its store as it was. -/
theorem Sequence.bind {e : Effect ρ σ κ ε α} {f : α → Effect ρ σ κ ε β}
    {R : β → Nat → σ → Prop} (he : Sequence part inside faults env n d s stages e Q)
    (hsame : ∀ a d' s', Q a d' s' → part s' = part s)
    (hf : ∀ a d' s', Q a d' s' →
      Sequence part inside faults env (n + stages.length) d' s' stages' (f a) R) :
    Sequence part inside faults env n d s (stages ++ stages') (e >>= f) R := by
  intro w hw
  obtain ⟨hpass, hstop⟩ := he w hw
  rw [passes_append, List.length_append, ← Nat.add_assoc]
  by_cases hfirst : Passes faults n stages
  · obtain ⟨a, d', s', w', hr, hw', hq⟩ := hpass hfirst
    obtain ⟨hpass', hstop'⟩ := hf a d' s' hq w' hw'
    rw [bind_run_ok hr]
    refine ⟨fun h => hpass' h.2, fun h => ?_⟩
    obtain ⟨hfailed, hview⟩ := hstop' fun h' => h ⟨hfirst, h'⟩
    exact ⟨hfailed, fun hout => (hview hout).trans (hsame a d' s' hq)⟩
  · obtain ⟨hfailed, hpart⟩ := hstop hfirst
    obtain ⟨hfailed', hworld⟩ := bind_run_failed hfailed (f := f)
    rw [hworld]
    exact ⟨fun h => absurd h.1 hfirst, fun _ => ⟨hfailed', hpart⟩⟩

theorem Sequence.mono {e : Effect ρ σ κ ε α} {R : α → Nat → σ → Prop}
    (h : Sequence part inside faults env n d s stages e Q)
    (hqr : ∀ a d' s', Q a d' s' → R a d' s') :
    Sequence part inside faults env n d s stages e R := by
  intro w hw
  obtain ⟨hpass, hstop⟩ := h w hw
  refine ⟨fun hp => ?_, hstop⟩
  obtain ⟨a, d', s', w', hr, hw', hq⟩ := hpass hp
  exact ⟨a, d', s', w', hr, hw', hqr a d' s' hq⟩

/-- Inside a transaction a stopped sequence has no part of the committed store to keep. -/
theorem Sequence.inside_part {τ' : Type} (part' : σ → τ') {e : Effect ρ σ κ ε α}
    (h : Sequence part true faults env n d s stages e Q) :
    Sequence part' true faults env n d s stages e Q := by
  intro w hw
  obtain ⟨hpass, hstop⟩ := h w hw
  exact ⟨hpass, fun hno => ⟨(hstop hno).1, fun h => absurd h (by decide)⟩⟩

/-- One write after another, in one transaction. -/
theorem Sequence.bind_inside {e : Effect ρ σ κ ε α} {f : α → Effect ρ σ κ ε β}
    {R : β → Nat → σ → Prop} (he : Sequence part true faults env n d s stages e Q)
    (hf : ∀ a d' s', Q a d' s' →
      Sequence part true faults env (n + stages.length) d' s' stages' (f a) R) :
    Sequence part true faults env n d s (stages ++ stages') (e >>= f) R :=
  Sequence.inside_part part (Sequence.bind (he.inside_part fun _ => ()) (fun _ _ _ _ => rfl)
    fun a d' s' hq => (hf a d' s' hq).inside_part fun _ => ())

/-- A value returned after the last call. -/
theorem Sequence.bind_pure {e : Effect ρ σ κ ε α} {R : Nat → σ → Prop} {b : β}
    (he : Sequence part inside faults env n d s stages e fun _ => R) :
    Sequence part inside faults env n d s stages (e >>= fun _ => pure b) fun _ => R := by
  intro w hw
  obtain ⟨hpass, hstop⟩ := he w hw
  refine ⟨fun hfirst => ?_, fun hfirst => ?_⟩
  · obtain ⟨a, d', s', w', hr, hw', hq⟩ := hpass hfirst
    rw [bind_run_ok hr]
    exact ⟨b, d', s', w', rfl, hw', hq⟩
  · obtain ⟨hfailed, hpart⟩ := hstop hfirst
    obtain ⟨hno, hworld⟩ := bind_run_failed hfailed (f := fun _ => pure b)
    rw [hworld]
    exact ⟨hno, hpart⟩

theorem Sequence.map {e : Effect ρ σ κ ε α} {R : Nat → σ → Prop} (f : α → β)
    (he : Sequence part inside faults env n d s stages e fun _ => R) :
    Sequence part inside faults env n d s stages (f <$> e) fun _ => R := by
  intro w hw
  obtain ⟨hpass, hstop⟩ := he w hw
  obtain ⟨hworld, hok⟩ := map_run e f env faults w
  rw [hworld, hok]
  refine ⟨fun hfirst => ?_, hstop⟩
  obtain ⟨a, d', s', w', hr, hw', hq⟩ := hpass hfirst
  rw [map_eq_pure_bind, bind_run_ok hr]
  exact ⟨f a, d', s', w', rfl, hw', hq⟩

theorem passes_quiet (stages : List Stage) : Passes (fun _ => .none) n stages := by
  induction stages generalizing n with
  | nil => trivial
  | cons stage rest ih => exact ⟨by cases stage <;> rfl, ih⟩

/-- Without faults a sequence returns. -/
theorem Sequence.returns {e : Effect ρ σ κ ε α}
    (h : Sequence part false (fun _ => .none) env 0 0 s stages e Q) :
    ∃ a d', (e.run env (fun _ => .none) (World.start s : World σ κ)).1 = .ok a ∧
      Q a d' (e.run env (fun _ => .none) (World.start s : World σ κ)).2.committed := by
  obtain ⟨a, d', s', w', hr, hw', hq⟩ := (h (World.start s) (at_start s)).1 (passes_quiet stages)
  rw [hr, hw'.committed rfl]
  exact ⟨a, d', rfl, hq⟩

/-- Outside of transactions the error is only logged. -/
theorem Sequence.rethrow {e : Effect ρ σ κ ε Unit} {Q : Unit → Nat → σ → Prop}
    (h : Sequence part false faults env n d s stages (swallow e) Q) :
    Sequence part false faults env n d s stages (rethrowInTransaction e) Q := by
  intro w hw
  have hworking : w.working = none := hw.2.2.1
  have hsame : (rethrowInTransaction e).run env faults w = (swallow e).run env faults w := by
    simp only [rethrowInTransaction, hworking]
  rw [hsame]
  exact h w hw

/-- A new transaction is a sequence too, with the commit as its last call. -/
theorem sequence_transaction {body : Effect ρ σ κ ε α} {k : κ} {err : ε} (hb : Inside body)
    (h : Sequence part true faults env n d s stages body Q) :
    Sequence part false faults env n d s (stages ++ [.strict]) (transaction k err body) Q := by
  intro w hw
  obtain ⟨hn, hd, hworking, hcommitted⟩ := hw
  obtain ⟨hpass, hstop⟩ := h { w with working := some w.committed } ⟨hn, hd, by simp [hcommitted]⟩
  obtain ⟨hkept, -⟩ := hb env faults { w with working := some w.committed } w.committed rfl
  rw [passes_append, passes_strict, List.length_append, ← Nat.add_assoc]
  simp only [transaction, hworking]
  by_cases hbody : Passes faults n stages
  · obtain ⟨a, d', s', w', hr, hw', hq⟩ := hpass hbody
    have hview : w'.view .ambient = s' := hw'.view fun _ => rfl
    obtain ⟨hn', hd', hs'⟩ := hw'
    rw [hr] at hkept ⊢
    have hold : w'.committed = s := hkept.trans hcommitted
    cases hfault : faults (n + stages.length) with
    | none =>
      simp only [finish, hn', hfault, hview]
      refine ⟨fun _ => ⟨a, d', s', _, rfl, ⟨?_, hd', rfl, rfl⟩, hq⟩, fun h => absurd ⟨hbody, trivial⟩ h⟩
      simp [World.log, hn']
    | throws | crash =>
      simp only [finish, hn', hfault]
      exact ⟨fun h => absurd h.2 (by decide), fun _ => ⟨rfl, fun _ => congrArg part hold⟩⟩
  · have hfailed := (hstop hbody).1
    refine ⟨fun h => absurd h.1 hbody, fun _ => ?_⟩
    cases hr : body.run env faults { w with working := some w.committed } with
    | mk outcome w₁ =>
      rw [hr] at hfailed hkept
      have hold : w₁.committed = s := hkept.trans hcommitted
      cases outcome with
      | ok a => cases hfailed
      | error x | crashed => exact ⟨rfl, fun _ => congrArg part hold⟩

end sequence

section phases
variable {part : σ → τ} {stages before after : List Stage} {Q : α → Nat → σ → Prop}
  {Mid End : σ → Prop}

/-- What a run can leave: a program stopped before its write leaves that part of the store
as it was, one stopped after it leaves `Mid`, and one that is not stopped leaves `End`. -/
def Phases (part : σ → τ) (faults : Nat → Fault) (env : ρ) (n d : Nat) (s : σ)
    (before after : List Stage) (e : Effect ρ σ κ ε α) (Mid End : σ → Prop) : Prop :=
  ∀ w, At false n d s w →
    (¬ Passes faults n before ∧ part (e.run env faults w).2.committed = part s) ∨
      (Passes faults n before ∧ ¬ Passes faults (n + before.length) after ∧
        Mid (e.run env faults w).2.committed) ∨
      (Passes faults n before ∧ Passes faults (n + before.length) after ∧
        End (e.run env faults w).2.committed)

theorem Phases.map {e : Effect ρ σ κ ε α} (h : Phases part faults env n d s before after e Mid End)
    (f : α → β) : Phases part faults env n d s before after (f <$> e) Mid End := by
  intro w hw
  rw [(map_run e f env faults w).1]
  exact h w hw

/-- Calls before the write that change nothing. -/
theorem phases_bind {e : Effect ρ σ κ ε α} {f : α → Effect ρ σ κ ε β}
    (he : Sequence part false faults env n d s stages e Q)
    (hf : ∀ a d' s', Q a d' s' → part s' = part s ∧
      Phases part faults env (n + stages.length) d' s' before after (f a) Mid End) :
    Phases part faults env n d s (stages ++ before) after (e >>= f) Mid End := by
  intro w hw
  obtain ⟨hpass, hstop⟩ := he w hw
  rw [passes_append, List.length_append, ← Nat.add_assoc]
  by_cases hfirst : Passes faults n stages
  · obtain ⟨a, d', s', w', hr, hw', hq⟩ := hpass hfirst
    obtain ⟨hsame, hphases⟩ := hf a d' s' hq
    rw [bind_run_ok hr]
    rcases hphases w' hw' with ⟨hno, hpart⟩ | ⟨hyes, hno, hmid⟩ | ⟨hyes, hyes', hend⟩
    · exact Or.inl ⟨fun h => hno h.2, hpart.trans hsame⟩
    · exact Or.inr (Or.inl ⟨⟨hfirst, hyes⟩, hno, hmid⟩)
    · exact Or.inr (Or.inr ⟨⟨hfirst, hyes⟩, hyes', hend⟩)
  · obtain ⟨hfailed, hpart⟩ := hstop hfirst
    rw [(bind_run_failed hfailed).2]
    exact Or.inl ⟨fun h => hfirst h.1, hpart rfl⟩

/-- Steps that are no calls. -/
theorem phases_bind_nil {e : Effect ρ σ κ ε α} {f : α → Effect ρ σ κ ε β}
    (he : Sequence part false faults env n d s [] e Q)
    (hf : ∀ a d' s', Q a d' s' → part s' = part s ∧
      Phases part faults env n d' s' before after (f a) Mid End) :
    Phases part faults env n d s before after (e >>= f) Mid End :=
  phases_bind he hf

/-- The write, and what follows it. -/
theorem phases_write {e : Effect ρ σ κ ε α} {f : α → Effect ρ σ κ ε β}
    (he : Sequence part false faults env n d s before e Q)
    (hf : ∀ a d' s', Q a d' s' → (∀ t, part t = part s' → Mid t) ∧
      Sequence part false faults env (n + before.length) d' s' after (f a) fun _ _ t => End t) :
    Phases part faults env n d s before after (e >>= f) Mid End := by
  intro w hw
  obtain ⟨hpass, hstop⟩ := he w hw
  by_cases hfirst : Passes faults n before
  · obtain ⟨a, d', s', w', hr, hw', hq⟩ := hpass hfirst
    obtain ⟨hmid, hafter⟩ := hf a d' s' hq
    obtain ⟨hpass', hstop'⟩ := hafter w' hw'
    rw [bind_run_ok hr]
    by_cases hsecond : Passes faults (n + before.length) after
    · obtain ⟨b, d'', t, w'', hr', hw'', hend⟩ := hpass' hsecond
      have hcommitted : w''.committed = t := hw''.committed rfl
      rw [hr', hcommitted]
      exact Or.inr (Or.inr ⟨hfirst, hsecond, hend⟩)
    · obtain ⟨-, hpart⟩ := hstop' hsecond
      exact Or.inr (Or.inl ⟨hfirst, hsecond, hmid _ (hpart rfl)⟩)
  · obtain ⟨hfailed, hpart⟩ := hstop hfirst
    rw [(bind_run_failed hfailed).2]
    exact Or.inl ⟨hfirst, hpart rfl⟩

end phases
end Foundation.Effect
