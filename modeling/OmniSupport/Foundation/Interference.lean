import OmniSupport.Foundation.Process

/-! Processes among other writers of their store: what they issue as long as the store is as
promised, and what they cannot tell apart. -/
namespace Foundation.Process
variable {ρ σ τ κ ε ι ω α β : Type}

/-- Every statement the program can come to satisfies `V`, and every result `Q`, when the stores
its statements see satisfy `K`. -/
def IssuesWhile (K : σ → Prop) (V : τ → Prop) (Q : α → Prop) : Process ρ σ τ ε α → Prop
  | .ret a => Q a
  | .throw _ => True
  | .draw next => ∀ env n, (next env n).IssuesWhile K V Q
  | .call st next => V st ∧ ∀ s, K s → (next s).IssuesWhile K V Q
  | .attempt st next => V st ∧ next.IssuesWhile K V Q

section issues
variable {K : σ → Prop} {V : τ → Prop} {Q : α → Prop} {R : β → Prop}

theorem IssuesWhile.bind {p : Process ρ σ τ ε α} {f : α → Process ρ σ τ ε β}
    (hp : p.IssuesWhile K V Q) (hf : ∀ a, Q a → (f a).IssuesWhile K V R) :
    (p >>= f).IssuesWhile K V R := by
  rw [bind_eq]
  induction p with
  | ret a => exact hf a hp
  | throw e => trivial
  | draw next ih => exact fun env n => ih env n (hp env n)
  | call st next ih => exact ⟨hp.1, fun s hs => ih s (hp.2 s hs)⟩
  | attempt st next ih => exact ⟨hp.1, ih hp.2⟩

theorem IssuesWhile.next {p : Process ρ σ τ ε α} {f : α → Process ρ σ τ ε β}
    (hp : p.IssuesWhile K V fun _ => True) (hf : ∀ a, (f a).IssuesWhile K V R) :
    (p >>= f).IssuesWhile K V R :=
  hp.bind fun a _ => hf a

theorem issuesWhile_pure {a : α} (h : Q a) :
    (pure a : Process ρ σ τ ε α).IssuesWhile K V Q := h

theorem issuesWhile_lift {x : Except ε α} (h : ∀ a, x = .ok a → Q a) :
    (lift x : Process ρ σ τ ε α).IssuesWhile K V Q := by
  cases x with
  | ok a => exact h a rfl
  | error e => trivial

theorem issuesWhile_statement {st : τ} {f : σ → α} (hV : V st) (h : ∀ s, K s → Q (f s)) :
    (statement st f : Process ρ σ τ ε α).IssuesWhile K V Q :=
  ⟨hV, h⟩

theorem issuesWhile_drawn {f : ρ → Nat → α} (h : ∀ env n, Q (f env n)) :
    (drawn f : Process ρ σ τ ε α).IssuesWhile K V Q :=
  h

theorem issuesWhile_tryExecute {st : τ} {Q : Unit → Prop} (hV : V st) (h : Q ()) :
    (tryExecute st : Process ρ σ τ ε Unit).IssuesWhile K V Q :=
  ⟨hV, h⟩

end issues

/-- The program goes on alike from stores that are related. -/
def Blind (R : σ → σ → Prop) : Process ρ σ τ ε α → Prop
  | .ret _ | .throw _ => True
  | .draw next => ∀ env n, (next env n).Blind R
  | .call _ next => (∀ s t, R s t → next s = next t) ∧ ∀ s, (next s).Blind R
  | .attempt _ next => next.Blind R

section blind
variable {R : σ → σ → Prop}

theorem Blind.bind {p : Process ρ σ τ ε α} {f : α → Process ρ σ τ ε β} (hp : p.Blind R)
    (hf : ∀ a, (f a).Blind R) : (p >>= f).Blind R := by
  rw [bind_eq]
  induction p with
  | ret a => exact hf a
  | throw e => trivial
  | draw next ih => exact fun env n => ih env n (hp env n)
  | call st next ih =>
    exact ⟨fun s t h => congrArg (fun p => p.andThen f) (hp.1 s t h), fun s => ih s (hp.2 s)⟩
  | attempt st next ih => exact ih hp

theorem blind_pure (a : α) : (pure a : Process ρ σ τ ε α).Blind R := trivial

theorem blind_lift (x : Except ε α) : (lift x : Process ρ σ τ ε α).Blind R := by
  cases x with
  | ok a => trivial
  | error e => trivial

theorem blind_statement {st : τ} {f : σ → α} (h : ∀ s t, R s t → f s = f t) :
    (statement st f : Process ρ σ τ ε α).Blind R :=
  ⟨fun s t hR => congrArg Process.ret (h s t hR), fun _ => trivial⟩

theorem blind_execute (st : τ) : (execute st : Process ρ σ τ ε Unit).Blind R :=
  blind_statement fun _ _ _ => rfl

theorem blind_drawn (f : ρ → Nat → α) : (drawn f : Process ρ σ τ ε α).Blind R :=
  fun _ _ => trivial

theorem blind_tryExecute (st : τ) : (tryExecute st : Process ρ σ τ ε Unit).Blind R := trivial

end blind

section among
variable (S : Statements σ τ κ ε) (program : ι → Process ρ σ τ ε Unit) (write : ω → σ → σ)

/-- Any number of processes, and writes of others between their statements. -/
def among : Program σ (Process ρ σ τ ε Unit) (Turn ρ ι) ω where
  act _ := turn S program
  env s w := some (write w s)

/-- The writes of others in a run. -/
def writesOf (moves : List (Move (Turn ρ ι) ω)) : List ω :=
  moves.filterMap fun
    | .env w => some w
    | .act _ _ => none

variable {S program write} {I : σ → Prop} {V : τ → Prop} {R : σ → σ → Prop} {s s' : σ}
  {p p' : Process ρ σ τ ε Unit} {a : Turn ρ ι}

/-- A turn leaves the store alone or runs one statement. -/
theorem turn_while (hprogram : ∀ i, (program i).IssuesWhile I V fun _ => True) (hI : I s)
    (hp : p.IssuesWhile I V fun _ => True) (hturn : turn S program s p a = some (s', p')) :
    (p'.IssuesWhile I V fun _ => True) ∧ (s' = s ∨ ∃ st, V st ∧ S.exec st s = .ok s') := by
  cases p with
  | ret u =>
    cases a with
    | start i =>
      cases hturn
      exact ⟨hprogram i, .inl rfl⟩
    | next | fail => cases hturn
  | throw e =>
    cases a with
    | start i =>
      cases hturn
      exact ⟨hprogram i, .inl rfl⟩
    | next | fail => cases hturn
  | draw next =>
    cases a with
    | next env n =>
      cases hturn
      exact ⟨hp env n, .inl rfl⟩
    | start | fail => cases hturn
  | call st next =>
    cases a with
    | start i => cases hturn
    | fail =>
      cases hturn
      exact ⟨trivial, .inl rfl⟩
    | next env n =>
      simp only [turn] at hturn
      cases hok : S.exec st s with
      | ok t =>
        rw [hok] at hturn
        cases hturn
        exact ⟨hp.2 s hI, .inr ⟨st, hp.1, hok⟩⟩
      | error e =>
        rw [hok] at hturn
        cases hturn
        exact ⟨trivial, .inl rfl⟩
  | attempt st next =>
    cases a with
    | start i => cases hturn
    | fail =>
      cases hturn
      exact ⟨hp.2, .inl rfl⟩
    | next env n =>
      simp only [turn] at hturn
      cases hok : S.exec st s with
      | ok t =>
        rw [hok] at hturn
        cases hturn
        exact ⟨hp.2, .inr ⟨st, hp.1, hok⟩⟩
      | error e =>
        rw [hok] at hturn
        cases hturn
        exact ⟨hp.2, .inl rfl⟩

/-- Statements that keep what is related to a store leave in a run what the writes of others
alone leave. -/
theorem among_alone {W : ω → Prop} (hprogram : ∀ i, (program i).IssuesWhile I V fun _ => True)
    (hexec : ∀ s st s' t, I s → R s t → V st → S.exec st s = .ok s' → I s' ∧ R s' t)
    (hwrite : ∀ w s t, W w → I s → R s t → I (write w s) ∧ R (write w s) (write w t)) {t : σ}
    {c c' : Pool σ (Process ρ σ τ ε Unit)} {moves : List (Move (Turn ρ ι) ω)} (hI : I c.shared)
    (hR : R c.shared t) (hlocals : ∀ p, (c.locals p).IssuesWhile I V fun _ => True)
    (hmoves : ∀ w ∈ writesOf moves, W w)
    (hrun : (among S program write).machine.run c moves = some c') :
    I c'.shared ∧ R c'.shared ((writesOf moves).foldl (fun t w => write w t) t) := by
  induction moves generalizing c t with
  | nil =>
    cases hrun
    exact ⟨hI, hR⟩
  | cons move moves ih =>
    obtain ⟨c₁, hstep, hrest⟩ := Machine.run_cons _ |>.mp hrun
    cases move with
    | env w =>
      obtain ⟨s₁, hw, rfl⟩ := (among S program write).step_env.mp hstep
      cases hw
      obtain ⟨hI', hR'⟩ := hwrite w _ t (hmoves w List.mem_cons_self) hI hR
      exact ih (c := ⟨_, c.locals⟩) hI' hR' hlocals
        (fun w hw => hmoves w (List.mem_cons_of_mem _ hw)) hrest
    | act p a =>
      obtain ⟨s₁, l, hact, rfl⟩ := (among S program write).step_act.mp hstep
      obtain ⟨hl, hstore⟩ := turn_while hprogram hI (hlocals p) hact
      have hnext : I s₁ ∧ R s₁ t := by
        rcases hstore with rfl | ⟨st, hV, hok⟩
        · exact ⟨hI, hR⟩
        · exact hexec _ st s₁ t hI hR hV hok
      refine ih hnext.1 hnext.2 (fun q => ?_) hmoves hrest
      by_cases hq : q = p
      · rw [hq, Pool.put_locals_self]
        exact hl
      · rw [c.put_locals_of_ne s₁ l hq]
        exact hlocals q

/-- The invariant rule: statements and writes that keep it keep it in every run. -/
theorem among_invariant {W : ω → Prop}
    (hprogram : ∀ i, (program i).IssuesWhile I V fun _ => True)
    (hexec : ∀ s st s', I s → V st → S.exec st s = .ok s' → I s')
    (hwrite : ∀ w s, W w → I s → I (write w s)) {c : Pool σ (Process ρ σ τ ε Unit)}
    {moves : List (Move (Turn ρ ι) ω)} (hI : I s) (hmoves : ∀ w ∈ writesOf moves, W w)
    (hrun : (among S program write).machine.run (idle s) moves = some c) : I c.shared :=
  (among_alone (R := fun _ _ => True) (t := s) (c := idle s) hprogram
    (fun s st s' _ h _ hV hok => ⟨hexec s st s' h hV hok, trivial⟩)
    (fun w s _ hw h _ => ⟨hwrite w s hw h, trivial⟩) hI trivial (fun _ => trivial) hmoves hrun).1

/-- Both executions fail, or both succeed in related stores. -/
inductive BothExec (R : σ → σ → Prop) : Except ε σ → Except ε σ → Prop where
  | ok {s t : σ} (h : R s t) : BothExec R (.ok s) (.ok t)
  | error (e : ε) : BothExec R (.error e) (.error e)

/-- Programs that go on alike take the same turns in related stores. -/
theorem turn_blind {t : σ} (hprogram : ∀ i, (program i).Blind R)
    (hissues : p.IssuesWhile I V fun _ => True)
    (hexec : ∀ st, V st → BothExec R (S.exec st s) (S.exec st t)) (hR : R s t) (hp : p.Blind R)
    (hturn : turn S program s p a = some (s', p')) :
    p'.Blind R ∧ ∃ t', turn S program t p a = some (t', p') ∧ R s' t' := by
  cases p with
  | ret u =>
    cases a with
    | start i =>
      cases hturn
      exact ⟨hprogram i, t, rfl, hR⟩
    | next | fail => cases hturn
  | throw e =>
    cases a with
    | start i =>
      cases hturn
      exact ⟨hprogram i, t, rfl, hR⟩
    | next | fail => cases hturn
  | draw next =>
    cases a with
    | next env n =>
      cases hturn
      exact ⟨hp env n, t, rfl, hR⟩
    | start | fail => cases hturn
  | call st next =>
    cases a with
    | start i => cases hturn
    | fail =>
      cases hturn
      exact ⟨trivial, t, rfl, hR⟩
    | next env n =>
      simp only [turn] at hturn ⊢
      have hboth := hexec st hissues.1
      generalize S.exec st s = x at hturn hboth
      generalize S.exec st t = y at hboth ⊢
      cases hboth with
      | ok hnext =>
        cases hturn
        exact ⟨hp.2 s, _, by rw [hp.1 s t hR], hnext⟩
      | error e =>
        cases hturn
        exact ⟨trivial, t, rfl, hR⟩
  | attempt st next =>
    cases a with
    | start i => cases hturn
    | fail =>
      cases hturn
      exact ⟨hp, t, rfl, hR⟩
    | next env n =>
      simp only [turn] at hturn ⊢
      have hboth := hexec st hissues.1
      generalize S.exec st s = x at hturn hboth
      generalize S.exec st t = y at hboth ⊢
      cases hboth with
      | ok hnext =>
        cases hturn
        exact ⟨hp, _, rfl, hnext⟩
      | error e =>
        cases hturn
        exact ⟨hp, t, rfl, hR⟩

/-- The pools are in related stores, and their processes at the same place. -/
structure SamePlace (V : τ → Prop) (R : σ → σ → Prop) (c d : Pool σ (Process ρ σ τ ε Unit)) :
    Prop where
  shared : R c.shared d.shared
  locals : c.locals = d.locals
  blind : ∀ p, (c.locals p).Blind R
  issues : ∀ p, (c.locals p).IssuesWhile (fun _ => True) V fun _ => True

/-- The same turn, or writes of others that keep stores related. -/
inductive SameMove (write : ω → σ → σ) (R : σ → σ → Prop) :
    Move (Turn ρ ι) ω → Move (Turn ρ ι) ω → Prop where
  | act (p : Nat) (a : Turn ρ ι) : SameMove write R (.act p a) (.act p a)
  | env {w w' : ω} (h : ∀ s t, R s t → R (write w s) (write w' t)) :
    SameMove write R (.env w) (.env w')

/-- Programs that cannot tell related stores apart take the same turns in both of two runs. -/
theorem among_blind (hprogram : ∀ i, (program i).Blind R)
    (hissues : ∀ i, (program i).IssuesWhile (fun _ => True) V fun _ => True)
    (hexec : ∀ st s t, V st → R s t → BothExec R (S.exec st s) (S.exec st t))
    {c c' d : Pool σ (Process ρ σ τ ε Unit)} {moves moves' : List (Move (Turn ρ ι) ω)}
    (hcd : SamePlace V R c d) (hmoves : List.Forall₂ (SameMove write R) moves moves')
    (hrun : (among S program write).machine.run c moves = some c') :
    ∃ d', (among S program write).machine.run d moves' = some d' ∧ SamePlace V R c' d' := by
  induction hmoves generalizing c d with
  | nil =>
    cases hrun
    exact ⟨d, rfl, hcd⟩
  | @cons move move' _ _ hmove _ ih =>
    obtain ⟨c₁, hstep, hrest⟩ := Machine.run_cons _ |>.mp hrun
    have hnext : ∃ d₁, (among S program write).machine.step d move' = some d₁ ∧
        SamePlace V R c₁ d₁ := by
      cases hmove with
      | env hwrite =>
        obtain ⟨s₁, hw, rfl⟩ := (among S program write).step_env.mp hstep
        cases hw
        exact ⟨_, (among S program write).step_env.mpr ⟨_, rfl, rfl⟩,
          hwrite _ _ hcd.shared, hcd.locals, hcd.blind, hcd.issues⟩
      | act p a =>
        obtain ⟨s₁, l, hact, rfl⟩ := (among S program write).step_act.mp hstep
        obtain ⟨hl, t₁, hact', hshared⟩ := turn_blind hprogram (hcd.issues p)
          (fun st hV => hexec st _ _ hV hcd.shared) hcd.shared (hcd.blind p) hact
        have hlater := (turn_while hissues trivial (hcd.issues p) hact).1
        rw [hcd.locals] at hact'
        refine ⟨_, (among S program write).step_act.mpr ⟨t₁, l, hact', rfl⟩, hshared, ?_,
          fun q => ?_, fun q => ?_⟩
        · simp only [Pool.put, hcd.locals]
        · by_cases hq : q = p
          · rw [hq, Pool.put_locals_self]
            exact hl
          · rw [c.put_locals_of_ne s₁ l hq]
            exact hcd.blind q
        · by_cases hq : q = p
          · rw [hq, Pool.put_locals_self]
            exact hlater
          · rw [c.put_locals_of_ne s₁ l hq]
            exact hcd.issues q
    obtain ⟨d₁, hd, hsame⟩ := hnext
    obtain ⟨d', hlast, hend⟩ := ih hsame hrest
    exact ⟨d', (Machine.run_cons _).mpr ⟨d₁, hd, hlast⟩, hend⟩

end among
end Foundation.Process
