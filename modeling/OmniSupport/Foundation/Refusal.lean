import OmniSupport.Foundation.Process

/-! Calls that apply one action or refuse it: before the action is applied such a call changes
nothing and throws refusals only, after that it throws nothing. -/
namespace Foundation

/-- What holds of the store at every turn, what holds when a statement runs, what a turn that
applies nothing leaves alone, and the errors that refuse a call. -/
structure Contract (σ τ ε : Type) where
  inv : σ → Prop
  runs : σ → τ → Prop
  keeps : σ → σ → Prop
  refusal : ε → Prop
  keeps_refl : ∀ s, keeps s s

/-- A process, the call it runs, and the store before and after each of its turns. -/
structure Observed (ρ σ τ ε ι : Type) where
  call : Option ι
  rest : Process ρ σ τ ε Unit
  turns : List (σ × σ)

namespace Process
variable {ρ σ τ κ ε α β ι : Type} (S : Statements σ τ κ ε) (T : Contract σ τ ε)

/-- The action is applied: nothing throws any more. -/
def Settled : Process ρ σ τ ε α → Prop
  | .ret _ => True
  | .throw _ => False
  | .draw next => ∀ env n, (next env n).Settled
  | .call st next => ∀ s, T.inv s → T.runs s st → (∃ s', S.exec st s = .ok s') ∧ (next s).Settled
  | .attempt _ next => next.Settled

/-- The action `A` is still to be applied, or refused. -/
def Undecided (A : σ → σ → Prop) : Process ρ σ τ ε α → Prop
  | .ret _ => False
  | .throw e => T.refusal e
  | .draw next => ∀ env n, (next env n).Undecided A
  | .call st next => ∀ s, T.inv s → T.runs s st →
      (∀ e, S.exec st s = .error e → T.refusal e) ∧
        ∀ s', S.exec st s = .ok s' →
          T.keeps s s' ∧ (next s).Undecided A ∨ A s s' ∧ (next s).Settled S T
  | .attempt st next => (∀ s s', T.inv s → S.exec st s = .ok s' → T.keeps s s') ∧ next.Undecided A

section rules
variable {S T} {A : σ → σ → Prop} {f : α → Process ρ σ τ ε β}

theorem Settled.bind {p : Process ρ σ τ ε α} (hp : p.Settled S T)
    (hf : ∀ a, (f a).Settled S T) : (p >>= f).Settled S T := by
  rw [bind_eq]
  induction p with
  | ret a => exact hf a
  | throw e => exact hp.elim
  | draw next ih => exact fun env n => ih env n (hp env n)
  | call st next ih =>
    intro s hs hst
    have hnext := hp s hs hst
    exact ⟨hnext.1, ih s hnext.2⟩
  | attempt st next ih => exact ih hp

theorem bind_bind {γ : Type} (p : Process ρ σ τ ε α) (f : α → Process ρ σ τ ε β)
    (g : β → Process ρ σ τ ε γ) : (p >>= f) >>= g = p >>= fun a => f a >>= g := by
  simp only [bind_eq]
  induction p with
  | ret a => rfl
  | throw e => rfl
  | draw next ih => exact congrArg draw (funext fun env => funext fun n => ih env n)
  | call st next ih => exact congrArg (call st) (funext fun s => ih s)
  | attempt st next ih => exact congrArg (attempt st) ih

theorem map_bind {γ : Type} (p : Process ρ σ τ ε α) (h : α → β) (g : β → Process ρ σ τ ε γ) :
    (h <$> p) >>= g = p >>= fun a => g (h a) :=
  bind_bind p (fun a => .ret (h a)) g

/-- What comes after a call that applies its action must not throw. -/
theorem Undecided.bind {p : Process ρ σ τ ε α} (hp : p.Undecided S T A)
    (hf : ∀ a, (f a).Settled S T) : (p >>= f).Undecided S T A := by
  rw [bind_eq]
  induction p with
  | ret a => exact hp.elim
  | throw e => exact hp
  | draw next ih => exact fun env n => ih env n (hp env n)
  | call st next ih =>
    intro s hs hst
    obtain ⟨hthrow, hok⟩ := hp s hs hst
    refine ⟨hthrow, fun s' hexec => ?_⟩
    rcases hok s' hexec with ⟨hkeeps, hnext⟩ | ⟨happlies, hnext⟩
    · exact .inl ⟨hkeeps, ih s hnext⟩
    · exact .inr ⟨happlies, hnext.bind hf⟩
  | attempt st next ih => exact ⟨hp.1, ih hp.2⟩

theorem settled_call {st : τ} {g : σ → α}
    (h : ∀ s, T.inv s → T.runs s st → (∃ s', S.exec st s = .ok s') ∧ (f (g s)).Settled S T) :
    ((statement st g : Process ρ σ τ ε α) >>= f).Settled S T :=
  h

theorem settled_drawn {g : ρ → Nat → α} (h : ∀ env n, (f (g env n)).Settled S T) :
    ((drawn g : Process ρ σ τ ε α) >>= f).Settled S T :=
  h

theorem undecided_drawn {g : ρ → Nat → α} (h : ∀ env n, (f (g env n)).Undecided S T A) :
    ((drawn g : Process ρ σ τ ε α) >>= f).Undecided S T A :=
  h

theorem undecided_read {st : τ} {g : σ → α} (hexec : ∀ s, S.exec st s = .ok s)
    (h : ∀ s, T.inv s → (f (g s)).Undecided S T A) :
    ((statement st g : Process ρ σ τ ε α) >>= f).Undecided S T A := by
  intro s hs hst
  rw [hexec]
  constructor
  · intro e he
    cases he
  · intro s' hok
    cases hok
    exact .inl ⟨T.keeps_refl s, h s hs⟩

/-- The statement that applies the action, keeps the rows, or is refused. -/
theorem undecided_statement {st : τ} {g : σ → α}
    (hthrow : ∀ s e, T.inv s → T.runs s st → S.exec st s = .error e → T.refusal e)
    (h : ∀ s s', T.inv s → T.runs s st → S.exec st s = .ok s' →
      T.keeps s s' ∧ (f (g s)).Undecided S T A ∨ A s s' ∧ (f (g s)).Settled S T) :
    ((statement st g : Process ρ σ τ ε α) >>= f).Undecided S T A :=
  fun s hs hst => ⟨fun e => hthrow s e hs hst, fun s' => h s s' hs hst⟩

end rules

section observed
variable (program : ι → Process ρ σ τ ε Unit)

/-- A turn of an observed process. No statement fails from without. -/
def observe (s : σ) (l : Observed ρ σ τ ε ι) : Turn ρ ι → Option (σ × Observed ρ σ τ ε ι)
  | .start i => (turn S program s l.rest (.start i)).map fun r => (r.1, ⟨some i, r.2, []⟩)
  | .next env n => (turn S program s l.rest (.next env n : Turn ρ ι)).map fun r =>
      (r.1, { l with rest := r.2, turns := l.turns ++ [(s, r.1)] })
  | .fail => none

variable {S T program}

/-- What a turn does to the store: nothing, or what the statement does that runs. -/
theorem turn_exec {s s' : σ} {p p' : Process ρ σ τ ε Unit} {a : Turn ρ ι}
    (h : turn S program s p a = some (s', p')) :
    s' = s ∨ ∃ st ∈ pending p a, S.exec st s = .ok s' := by
  cases p with
  | ret | throw | draw =>
    left
    cases a <;> cases h
    rfl
  | call st next | attempt st next =>
    cases a with
    | start i => cases h
    | fail =>
      cases h
      exact .inl rfl
    | next env n =>
      simp only [turn] at h
      cases hexec : S.exec st s with
      | ok t =>
        rw [hexec] at h
        cases h
        exact .inr ⟨st, rfl, hexec⟩
      | error e =>
        rw [hexec] at h
        cases h
        exact .inl rfl

theorem observe_exec {s s' : σ} {l l' : Observed ρ σ τ ε ι} {a : Turn ρ ι}
    (h : observe S program s l a = some (s', l')) :
    s' = s ∨ ∃ st ∈ pending l.rest a, S.exec st s = .ok s' := by
  cases a with
  | fail => cases h
  | start | next =>
    obtain ⟨r, hr, heq⟩ := Option.map_eq_some_iff.mp h
    cases heq
    have hturn : turn S program s l.rest _ = some (r.1, r.2) := hr
    exact turn_exec hturn

/-- The calls that `obliged` names have applied their action, or changed nothing yet. -/
def Answering (S : Statements σ τ κ ε) (T : Contract σ τ ε) (A : ι → σ → σ → Prop)
    (obliged : ι → Prop) (l : Observed ρ σ τ ε ι) : Prop :=
  ∀ i, l.call = some i → obliged i →
    ((∀ t ∈ l.turns, T.keeps t.1 t.2) ∧ l.rest.Undecided S T (A i)) ∨
      ((∃ t ∈ l.turns, A i t.1 t.2) ∧ l.rest.Settled S T)

variable {A : ι → σ → σ → Prop} {obliged : ι → Prop} {l l' : Observed ρ σ τ ε ι} {s s' : σ}
  {a : Turn ρ ι}

/-- What the next turn of an undecided process does. -/
theorem Undecided.turn {env : ρ} {n : Nat} {B : σ → σ → Prop} {p p' : Process ρ σ τ ε Unit}
    (hp : p.Undecided S T B) (hs : T.inv s)
    (hruns : ∀ st ∈ pending p (.next env n : Turn ρ ι), T.runs s st)
    (h : turn S program s p (.next env n : Turn ρ ι) = some (s', p')) :
    T.keeps s s' ∧ p'.Undecided S T B ∨ B s s' ∧ p'.Settled S T := by
  cases p with
  | ret u => exact hp.elim
  | throw e => cases h
  | draw next =>
    cases h
    exact .inl ⟨T.keeps_refl _, hp env n⟩
  | call st next =>
    obtain ⟨hthrow, hok⟩ := hp s hs (hruns st rfl)
    simp only [Process.turn] at h
    cases hexec : S.exec st s with
    | ok t =>
      rw [hexec] at h
      cases h
      exact hok _ hexec
    | error e =>
      rw [hexec] at h
      cases h
      exact .inl ⟨T.keeps_refl _, hthrow e hexec⟩
  | attempt st next =>
    simp only [Process.turn] at h
    cases hexec : S.exec st s with
    | ok t =>
      rw [hexec] at h
      cases h
      exact .inl ⟨hp.1 _ _ hs hexec, hp.2⟩
    | error e =>
      rw [hexec] at h
      cases h
      exact .inl ⟨T.keeps_refl _, hp.2⟩

theorem Settled.turn {env : ρ} {n : Nat} {p p' : Process ρ σ τ ε Unit}
    (hp : p.Settled S T) (hs : T.inv s)
    (hruns : ∀ st ∈ pending p (.next env n : Turn ρ ι), T.runs s st)
    (h : turn S program s p (.next env n : Turn ρ ι) = some (s', p')) : p'.Settled S T := by
  cases p with
  | ret u => cases h
  | throw e => exact hp.elim
  | draw next =>
    cases h
    exact hp env n
  | call st next =>
    obtain ⟨⟨t, hexec⟩, hnext⟩ := hp s hs (hruns st rfl)
    simp only [Process.turn, hexec] at h
    cases h
    exact hnext
  | attempt st next =>
    simp only [Process.turn] at h
    cases hexec : S.exec st s with
    | ok t | error e =>
      rw [hexec] at h
      cases h
      exact hp

/-- One turn keeps the promise of the process. -/
theorem Answering.observe (hprogram : ∀ i, obliged i → (program i).Undecided S T (A i))
    (hl : Answering S T A obliged l) (hs : T.inv s)
    (hruns : ∀ st ∈ pending l.rest a, T.runs s st)
    (h : observe S program s l a = some (s', l')) : Answering S T A obliged l' := by
  cases a with
  | fail => cases h
  | start i =>
    obtain ⟨r, hr, heq⟩ := Option.map_eq_some_iff.mp h
    cases heq
    intro i' hi' hobliged
    cases hi'
    have hprog : r.2 = program i := by
      cases hrest : l.rest with
      | ret | throw =>
        rw [hrest] at hr
        cases hr
        rfl
      | draw | call | attempt =>
        rw [hrest] at hr
        cases hr
    left
    rw [hprog]
    exact ⟨by simp, hprogram i hobliged⟩
  | next env n =>
    obtain ⟨r, hr, heq⟩ := Option.map_eq_some_iff.mp h
    cases heq
    have hturn : turn S program s l.rest (.next env n : Turn ρ ι) = some (r.1, r.2) := hr
    intro i hi hobliged
    rcases hl i hi hobliged with ⟨hkeeps, hrest⟩ | ⟨⟨t, ht, happlied⟩, hrest⟩
    · rcases hrest.turn hs hruns hturn with ⟨hsame, hnext⟩ | ⟨happlies, hnext⟩
      · left
        refine ⟨fun t ht => ?_, hnext⟩
        rcases List.mem_append.mp ht with hold | hnew
        · exact hkeeps t hold
        · rw [List.mem_singleton.mp hnew]
          exact hsame
      · right
        exact ⟨⟨(s, r.1), by simp, happlies⟩, hnext⟩
    · right
      exact ⟨⟨t, List.mem_append_left _ ht, happlied⟩, hrest.turn hs hruns hturn⟩

/-- A call that throws has refused, and none of its turns changed anything. -/
theorem Answering.thrown (hl : Answering S T A obliged l) {i : ι} {e : ε}
    (hcall : l.call = some i) (hobliged : obliged i) (hrest : l.rest = .throw e) :
    T.refusal e ∧ ∀ t ∈ l.turns, T.keeps t.1 t.2 := by
  rcases hl i hcall hobliged with ⟨hkeeps, hundecided⟩ | ⟨-, hsettled⟩
  · rw [hrest] at hundecided
    exact ⟨hundecided, hkeeps⟩
  · rw [hrest] at hsettled
    exact hsettled.elim

/-- A call that returns has applied its action in one of its turns. -/
theorem Answering.returned (hl : Answering S T A obliged l) {i : ι}
    (hcall : l.call = some i) (hobliged : obliged i) (hrest : l.rest = .ret ()) :
    ∃ t ∈ l.turns, A i t.1 t.2 := by
  rcases hl i hcall hobliged with ⟨-, hundecided⟩ | ⟨happlied, -⟩
  · rw [hrest] at hundecided
    exact hundecided.elim
  · exact happlied

end observed
end Process
end Foundation
