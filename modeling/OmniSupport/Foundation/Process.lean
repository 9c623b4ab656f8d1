import OmniSupport.Foundation.Ends
import OmniSupport.Foundation.Pool

/-! Programs as trees of atomic statements. Run alone, such a tree is an effect; in a pool,
any number of them take turns, one statement at a time. -/
namespace Foundation

/-- What a statement does to the store, the call it counts as, the client it goes to, and
the error of one that is made to throw. -/
structure Statements (σ τ κ ε : Type) where
  exec : τ → σ → Except ε σ
  kind : τ → κ
  client : τ → Client
  error : ε

/-- `call` goes on with the store its statement has seen, from which it takes its result;
`attempt` goes on whether its statement fails or not. -/
inductive Process (ρ σ τ ε α : Type) where
  | ret (a : α)
  | throw (e : ε)
  | draw (next : ρ → Nat → Process ρ σ τ ε α)
  | call (statement : τ) (next : σ → Process ρ σ τ ε α)
  | attempt (statement : τ) (next : Process ρ σ τ ε α)

namespace Process
variable {ρ σ τ κ ε α β : Type}

def andThen : Process ρ σ τ ε α → (α → Process ρ σ τ ε β) → Process ρ σ τ ε β
  | .ret a, f => f a
  | .throw e, _ => .throw e
  | .draw next, f => .draw fun env n => (next env n).andThen f
  | .call statement next, f => .call statement fun s => (next s).andThen f
  | .attempt statement next, f => .attempt statement (next.andThen f)

instance : Monad (Process ρ σ τ ε) where
  pure := .ret
  bind := andThen

def lift : Except ε α → Process ρ σ τ ε α
  | .ok a => .ret a
  | .error e => .throw e

def drawn (f : ρ → Nat → α) : Process ρ σ τ ε α := .draw fun env n => .ret (f env n)

/-- A statement, and what it returns. -/
def statement (st : τ) (f : σ → α) : Process ρ σ τ ε α := .call st fun s => .ret (f s)

def execute (st : τ) : Process ρ σ τ ε Unit := statement st fun _ => ()

def tryExecute (st : τ) : Process ρ σ τ ε Unit := .attempt st (.ret ())

theorem bind_eq (p : Process ρ σ τ ε α) (f : α → Process ρ σ τ ε β) : p >>= f = p.andThen f := rfl

section effect
open Effect
variable (S : Statements σ τ κ ε)

/-- The statement as an awaited call that returns the store it has seen. -/
def awaited (st : τ) : Effect ρ σ κ ε σ :=
  Effect.call (S.client st) (S.kind st) S.error fun s => (S.exec st s).map fun s' => (s, s')

/-- A statement whose failure outside of a transaction is only logged. -/
def logged (st : τ) : Effect ρ σ κ ε Unit :=
  Effect.rethrowInTransaction (Effect.call (S.client st) (S.kind st) S.error fun s =>
    (S.exec st s).map fun s' => ((), s'))

/-- The program run alone. -/
def toEffect : Process ρ σ τ ε α → Effect ρ σ κ ε α
  | .ret a => pure a
  | .throw e => Effect.throw e
  | .draw next => Effect.draw (fun env n => (env, n)) >>= fun r => toEffect (next r.1 r.2)
  | .call st next => awaited S st >>= fun s => toEffect (next s)
  | .attempt st next => logged S st >>= fun _ => toEffect next

variable {S}

theorem toEffect_bind (p : Process ρ σ τ ε α) (f : α → Process ρ σ τ ε β) :
    toEffect S (p >>= f) = toEffect S p >>= fun a => toEffect S (f a) := by
  rw [bind_eq]
  induction p with
  | ret a => rfl
  | throw e => rfl
  | draw next ih =>
    simp only [andThen, toEffect, bind_assoc]
    exact congrArg _ (funext fun r => ih r.1 r.2)
  | call st next ih =>
    simp only [andThen, toEffect, bind_assoc]
    exact congrArg _ (funext fun s => ih s)
  | attempt st next ih =>
    simp only [andThen, toEffect, bind_assoc]
    exact congrArg _ (funext fun _ => ih)

variable {env : ρ} {d : Nat} {s : σ} {R : σ → Prop} {P : β → Nat → σ → Prop}
  {Q : α → Nat → σ → Prop}

theorem ends_bind {p : Process ρ σ τ ε α} {f : α → Process ρ σ τ ε β}
    (hp : Ends env d s Q R (toEffect S p))
    (hf : ∀ a d' s', Q a d' s' → Ends env d' s' P R (toEffect S (f a))) :
    Ends env d s P R (toEffect S (p >>= f)) := by
  rw [toEffect_bind]
  exact hp.bind hf

theorem ends_lift {x : Except ε α} (h : ∀ a, x = .ok a → Q a d s) (hR : R s) :
    Ends env d s Q R (toEffect S (lift x)) := by
  cases x with
  | ok a => exact ends_pure (h a rfl)
  | error e => exact ends_throw hR

theorem ends_drawn {f : ρ → Nat → α} (h : Q (f env d) (d + 1) s) :
    Ends env d s Q R (toEffect S (drawn f)) :=
  ends_draw_bind (ends_pure h)

theorem ends_statement {st : τ} {f : σ → α}
    (h : ∀ s', S.exec st s = .ok s' → Q (f s) d s') (hR : R s) :
    Ends env d s Q R (toEffect S (statement st f)) := by
  refine ends_call_bind (fun a s' hcall => ?_) hR
  cases hexec : S.exec st s with
  | error e =>
    rw [hexec] at hcall
    cases hcall
  | ok t =>
    rw [hexec] at hcall
    cases hcall
    exact ends_pure (h s' hexec)

/-- A logged statement takes effect or does not. -/
theorem ends_tryExecute {P : σ → Prop} {st : τ} (h : P s)
    (hP : ∀ s', S.exec st s = .ok s' → P s') :
    Ends env d s (fun _ _ => P) P (toEffect S (tryExecute st)) := by
  refine Ends.bind (Ends.rethrow (ends_call (fun a s' hcall => ?_) h)) fun _ _ _ h => ends_pure h
  cases hexec : S.exec st s with
  | error e =>
    rw [hexec] at hcall
    cases hcall
  | ok t =>
    rw [hexec] at hcall
    cases hcall
    exact hP s' hexec

end effect

/-- Every statement the program can come to satisfies `V`, and every result `Q`, whatever
stores its statements see. -/
def Issues (V : τ → Prop) (Q : α → Prop) : Process ρ σ τ ε α → Prop
  | .ret a => Q a
  | .throw _ => True
  | .draw next => ∀ env n, (next env n).Issues V Q
  | .call st next => V st ∧ ∀ s, (next s).Issues V Q
  | .attempt st next => V st ∧ next.Issues V Q

section issues
variable {V : τ → Prop} {Q : α → Prop} {R : β → Prop}

theorem Issues.bind {p : Process ρ σ τ ε α} {f : α → Process ρ σ τ ε β} (hp : p.Issues V Q)
    (hf : ∀ a, Q a → (f a).Issues V R) : (p >>= f).Issues V R := by
  rw [bind_eq]
  induction p with
  | ret a => exact hf a hp
  | throw e => trivial
  | draw next ih => exact fun env n => ih env n (hp env n)
  | call st next ih => exact ⟨hp.1, fun s => ih s (hp.2 s)⟩
  | attempt st next ih => exact ⟨hp.1, ih hp.2⟩

theorem issues_lift {x : Except ε α} (h : ∀ a, x = .ok a → Q a) :
    (lift x : Process ρ σ τ ε α).Issues V Q := by
  cases x with
  | ok a => exact h a rfl
  | error e => trivial

theorem issues_statement {st : τ} {f : σ → α} (hV : V st) (h : ∀ s, Q (f s)) :
    (statement st f : Process ρ σ τ ε α).Issues V Q :=
  ⟨hV, h⟩

theorem issues_drawn {f : ρ → Nat → α} (h : ∀ env n, Q (f env n)) :
    (drawn f : Process ρ σ τ ε α).Issues V Q :=
  h

theorem issues_tryExecute {st : τ} {Q : Unit → Prop} (hV : V st) (h : Q ()) :
    (tryExecute st : Process ρ σ τ ε Unit).Issues V Q :=
  ⟨hV, h⟩

end issues

/-- A process starts a call, runs its next statement, or lets that statement throw. -/
inductive Turn (ρ ι : Type) where
  | start (i : ι)
  | next (env : ρ) (n : Nat)
  | fail

section pool
variable {ι : Type} (S : Statements σ τ κ ε) (program : ι → Process ρ σ τ ε Unit)

/-- The statement that runs when the process takes its turn. -/
def pending : Process ρ σ τ ε Unit → Turn ρ ι → Option τ
  | .call st _, .next _ _ | .attempt st _, .next _ _ => some st
  | _, _ => none

def turn (s : σ) : Process ρ σ τ ε Unit → Turn ρ ι → Option (σ × Process ρ σ τ ε Unit)
  | .ret _, .start i | .throw _, .start i => some (s, program i)
  | .draw next, .next env n => some (s, next env n)
  | .call st next, .next _ _ =>
    match S.exec st s with
    | .ok s' => some (s', next s)
    | .error e => some (s, .throw e)
  | .attempt st next, .next _ _ =>
    match S.exec st s with
    | .ok s' => some (s', next)
    | .error _ => some (s, next)
  | .call _ _, .fail => some (s, .throw S.error)
  | .attempt _ next, .fail => some (s, next)
  | _, _ => none

def pool : Program σ (Process ρ σ τ ε Unit) (Turn ρ ι) Empty where
  act _ := turn S program
  env _ e := e.elim

/-- No call has started. -/
def idle (s : σ) : Pool σ (Process ρ σ τ ε Unit) := ⟨s, fun _ => .ret ()⟩

/-- The condition `C` on the statement a move runs and the store it runs in. -/
def Running (C : σ → τ → Prop) (c : Pool σ (Process ρ σ τ ε Unit)) : Move (Turn ρ ι) Empty → Prop
  | .act p turn => ∀ st ∈ pending (c.locals p) turn, C c.shared st
  | .env _ => True

instance (C : σ → τ → Prop) [∀ s st, Decidable (C s st)] (c : Pool σ (Process ρ σ τ ε Unit)) :
    ∀ move : Move (Turn ρ ι) Empty, Decidable (Running C c move)
  | .act p turn => inferInstanceAs (Decidable (∀ st ∈ pending (c.locals p) turn, C c.shared st))
  | .env e => e.elim

variable {S program} {I : σ → Prop} {V : τ → Prop} {C : σ → τ → Prop} {s s' : σ}
  {p p' : Process ρ σ τ ε Unit} {a : Turn ρ ι}

/-- One turn: the invariant is kept by the statement that ran, and what is left of the
program issues nothing new. -/
theorem turn_keeps (hprogram : ∀ i, (program i).Issues V fun _ => True)
    (hexec : ∀ s st s', I s → V st → C s st → S.exec st s = .ok s' → I s')
    (hI : I s) (hp : p.Issues V fun _ => True) (hC : ∀ st ∈ pending p a, C s st)
    (hturn : turn S program s p a = some (s', p')) :
    I s' ∧ p'.Issues V fun _ => True := by
  cases p with
  | ret u =>
    cases a with
    | start i =>
      cases hturn
      exact ⟨hI, hprogram i⟩
    | next | fail => cases hturn
  | throw e =>
    cases a with
    | start i =>
      cases hturn
      exact ⟨hI, hprogram i⟩
    | next | fail => cases hturn
  | draw next =>
    cases a with
    | next env n =>
      cases hturn
      exact ⟨hI, hp env n⟩
    | start | fail => cases hturn
  | call st next =>
    cases a with
    | start i => cases hturn
    | fail =>
      cases hturn
      exact ⟨hI, trivial⟩
    | next env n =>
      have hrun := hC st rfl
      simp only [turn] at hturn
      cases hok : S.exec st s with
      | ok t =>
        rw [hok] at hturn
        cases hturn
        exact ⟨hexec s st s' hI hp.1 hrun hok, hp.2 s⟩
      | error e =>
        rw [hok] at hturn
        cases hturn
        exact ⟨hI, trivial⟩
  | attempt st next =>
    cases a with
    | start i => cases hturn
    | fail =>
      cases hturn
      exact ⟨hI, hp.2⟩
    | next env n =>
      have hrun := hC st rfl
      simp only [turn] at hturn
      cases hok : S.exec st s with
      | ok t =>
        rw [hok] at hturn
        cases hturn
        exact ⟨hexec s st s' hI hp.1 hrun hok, hp.2⟩
      | error e =>
        rw [hok] at hturn
        cases hturn
        exact ⟨hI, hp.2⟩

/-- The run rule: statements the programs can come to keep the invariant when they meet the
condition, so runs whose moves meet it keep the invariant. -/
theorem pool_keeps (hprogram : ∀ i, (program i).Issues V fun _ => True)
    (hexec : ∀ s st s', I s → V st → C s st → S.exec st s = .ok s' → I s')
    {c : Pool σ (Process ρ σ τ ε Unit)} {moves : List (Move (Turn ρ ι) Empty)} (hs : I s)
    (hwithin : (pool S program).machine.Within (Running C) (idle s) moves)
    (hrun : (pool S program).machine.run (idle s) moves = some c) : I c.shared := by
  have hkept : I c.shared ∧ ∀ p, (c.locals p).Issues V fun _ => True := by
    refine Machine.run_preserves_within _ (fun c₁ move c₂ hc hmove hstep => ?_)
      (P := fun c => I c.shared ∧ ∀ p, (c.locals p).Issues V fun _ => True)
      ⟨hs, fun _ => trivial⟩ hwithin hrun
    cases move with
    | env e => exact e.elim
    | act p a =>
      obtain ⟨s₂, l, hact, rfl⟩ := (pool S program).step_act.mp hstep
      obtain ⟨hI, hl⟩ := turn_keeps hprogram hexec hc.1 (hc.2 p) hmove hact
      refine ⟨hI, fun q => ?_⟩
      by_cases hq : q = p
      · rw [hq, Pool.put_locals_self]
        exact hl
      · rw [c₁.put_locals_of_ne s₂ l hq]
        exact hc.2 q
  exact hkept.1

end pool
end Process
end Foundation
