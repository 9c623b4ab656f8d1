import Mathlib.Tactic.Common

/-! Programs that await calls, any of which may throw or be cut short by a crash. Calls go
to the root client or to the client of the ambient transaction, whose copy of the store
replaces the committed one when it commits and is dropped otherwise. -/
namespace Foundation

theorem bind_eq_ok {ε α β : Type} {x : Except ε α} {f : α → Except ε β} {b : β} :
    (x >>= f) = .ok b ↔ ∃ a, x = .ok a ∧ f a = .ok b := by
  cases x with
  | ok a => simp [bind, Except.bind]
  | error e => simp [bind, Except.bind]

inductive Fault where
  | none
  | throws
  | crash
  deriving DecidableEq

inductive Outcome (ε α : Type) where
  | ok (a : α)
  | error (e : ε)
  | crashed
  deriving DecidableEq

def Outcome.isError {ε α : Type} : Outcome ε α → Bool
  | .error _ => true
  | _ => false

def Outcome.isOk {ε α : Type} : Outcome ε α → Bool
  | .ok _ => true
  | _ => false

inductive Client where
  | root
  | ambient
  deriving DecidableEq

/-- A performed call, what became of it, and whether a transaction was open. -/
structure CallRecord (κ : Type) where
  kind : κ
  fault : Fault
  inTransaction : Bool
  deriving DecidableEq

/-- `working` is the copy of the store an open transaction works on, `commits` counts the
transactions that committed, `draws` the random values and clock readings taken. -/
structure World (σ κ : Type) where
  committed : σ
  working : Option σ
  calls : List (CallRecord κ)
  commits : Nat
  draws : Nat
  deriving DecidableEq

namespace World
variable {σ κ : Type}

def start (s : σ) : World σ κ := ⟨s, none, [], 0, 0⟩

def view (c : Client) (w : World σ κ) : σ :=
  match c with
  | .root => w.committed
  | .ambient => w.working.getD w.committed

def write (c : Client) (s : σ) (w : World σ κ) : World σ κ :=
  match c, w.working with
  | .ambient, some _ => { w with working := some s }
  | _, _ => { w with committed := s }

def log (k : κ) (fault : Fault) (w : World σ κ) : World σ κ :=
  { w with calls := w.calls ++ [⟨k, fault, w.working.isSome⟩] }

/-- Some call has thrown. -/
def failed (w : World σ κ) : Prop := ∃ c ∈ w.calls, c.fault = .throws

instance (w : World σ κ) : Decidable w.failed :=
  inferInstanceAs (Decidable (∃ c ∈ w.calls, c.fault = .throws))

end World

/-- A program in environment `ρ`; the schedule says what becomes of its `n`-th call. -/
structure Effect (ρ σ κ ε α : Type) where
  run : ρ → (Nat → Fault) → World σ κ → Outcome ε α × World σ κ

namespace Effect
variable {ρ σ κ ε α β : Type}

def ret (a : α) : Effect ρ σ κ ε α where
  run _ _ w := (.ok a, w)

def andThen (e : Effect ρ σ κ ε α) (f : α → Effect ρ σ κ ε β) : Effect ρ σ κ ε β where
  run env faults w :=
    match e.run env faults w with
    | (.ok a, w') => (f a).run env faults w'
    | (.error x, w') => (.error x, w')
    | (.crashed, w') => (.crashed, w')

instance : Monad (Effect ρ σ κ ε) where
  pure := ret
  bind := andThen

def throw (x : ε) : Effect ρ σ κ ε α where
  run _ _ w := (.error x, w)

/-- The result of a pure computation, or its error. -/
def lift (x : Except ε α) : Effect ρ σ κ ε α where
  run _ _ w :=
    match x with
    | .ok a => (.ok a, w)
    | .error e => (.error e, w)

def ask (f : ρ → α) : Effect ρ σ κ ε α where
  run env _ w := (.ok (f env), w)

/-- A random value or a clock reading. -/
def draw (f : ρ → Nat → α) : Effect ρ σ κ ε α where
  run env _ w := (.ok (f env w.draws), { w with draws := w.draws + 1 })

/-- One awaited call. `f` says what it does when it is not cut short, and with which error
it rejects by itself; `err` is the error of a call that throws. -/
def call (c : Client) (k : κ) (err : ε) (f : σ → Except ε (α × σ)) : Effect ρ σ κ ε α where
  run _ faults w :=
    match faults w.calls.length with
    | .crash => (.crashed, w.log k .crash)
    | .throws => (.error err, w.log k .throws)
    | .none =>
      match f (w.view c) with
      | .error x => (.error x, w.log k .throws)
      | .ok (a, s) => (.ok a, (w.log k .none).write c s)

def read (c : Client) (k : κ) (err : ε) (f : σ → α) : Effect ρ σ κ ε α where
  run _ faults w :=
    match faults w.calls.length with
    | .crash => (.crashed, w.log k .crash)
    | .throws => (.error err, w.log k .throws)
    | .none => (.ok (f (w.view c)), w.log k .none)

def modify (c : Client) (k : κ) (err : ε) (f : σ → σ) : Effect ρ σ κ ε Unit :=
  call c k err fun s => .ok ((), f s)

/-- A write whose failure the caller does not see, such as a message sent best effort. -/
def tell (f : σ → σ) : Effect ρ σ κ ε Unit where
  run _ _ w := (.ok (), w.write .root (f w.committed))

/-- `try { .. } catch { log }`. -/
def swallow (e : Effect ρ σ κ ε Unit) : Effect ρ σ κ ε Unit where
  run env faults w :=
    match e.run env faults w with
    | (.error _, w') => (.ok (), w')
    | r => r

/-- `catch` that passes the error on while a transaction is open, and logs it otherwise. -/
def rethrowInTransaction (e : Effect ρ σ κ ε Unit) : Effect ρ σ κ ε Unit where
  run env faults w :=
    match w.working with
    | some _ => e.run env faults w
    | none => (swallow e).run env faults w

/-- `Promise.all` of two calls: both are made, and the first failure is the outcome. -/
def both (e : Effect ρ σ κ ε α) (e' : Effect ρ σ κ ε β) : Effect ρ σ κ ε (α × β) where
  run env faults w :=
    match e.run env faults w with
    | (.crashed, w₁) => (.crashed, w₁)
    | (.error x, w₁) =>
      match e'.run env faults w₁ with
      | (.crashed, w₂) => (.crashed, w₂)
      | (_, w₂) => (.error x, w₂)
    | (.ok a, w₁) =>
      match e'.run env faults w₁ with
      | (.crashed, w₂) => (.crashed, w₂)
      | (.error x, w₂) => (.error x, w₂)
      | (.ok b, w₂) => (.ok (a, b), w₂)

/-- `try { .. } catch (error) { await handler; throw error }`. -/
def onError (e : Effect ρ σ κ ε α) (handler : Effect ρ σ κ ε Unit) : Effect ρ σ κ ε α where
  run env faults w :=
    match e.run env faults w with
    | (.error x, w') => (andThen handler fun _ => throw x).run env faults w'
    | r => r

def forEach (xs : List α) (f : α → Effect ρ σ κ ε Unit) : Effect ρ σ κ ε Unit :=
  match xs with
  | [] => ret ()
  | x :: rest => andThen (f x) fun _ => forEach rest f

/-- A program that never rejects, whatever becomes of its calls. -/
def Quiet (e : Effect ρ σ κ ε α) : Prop :=
  ∀ env faults w, (e.run env faults w).1.isError = false

theorem quiet_pure (a : α) : Quiet (pure a : Effect ρ σ κ ε α) := fun _ _ _ => rfl

theorem quiet_swallow (e : Effect ρ σ κ ε Unit) : Quiet (swallow e) := by
  intro env faults w
  simp only [swallow]
  cases he : e.run env faults w with
  | mk outcome w' => cases outcome <;> rfl

/-- What is quiet after a program leaves it to the program whether the whole rejects. -/
theorem bind_isError {e : Effect ρ σ κ ε α} {f : α → Effect ρ σ κ ε β} (hf : ∀ a, Quiet (f a))
    (env : ρ) (faults : Nat → Fault) (w : World σ κ) :
    ((e >>= f).run env faults w).1.isError = (e.run env faults w).1.isError := by
  change ((andThen e f).run env faults w).1.isError = _
  simp only [andThen]
  cases he : e.run env faults w with
  | mk outcome w' =>
    cases outcome with
    | ok a => exact hf a env faults w'
    | error x => rfl
    | crashed => rfl

theorem read_isError (c : Client) (k : κ) (err : ε) (f : σ → α) (env : ρ)
    (faults : Nat → Fault) (w : World σ κ) :
    ((read c k err f).run env faults w).1.isError = true ↔
      faults w.calls.length = .throws := by
  simp only [read]
  cases faults w.calls.length <;> simp [Outcome.isError]

theorem read_calls_length (c : Client) (k : κ) (err : ε) (f : σ → α) (env : ρ)
    (faults : Nat → Fault) (w : World σ κ) :
    ((read c k err f).run env faults w).2.calls.length = w.calls.length + 1 := by
  simp only [read]
  cases faults w.calls.length <;> simp [World.log]

theorem read_ne_crashed (c : Client) (k : κ) (err : ε) (f : σ → α) (env : ρ)
    (faults : Nat → Fault) (w : World σ κ) (hcrash : ∀ n, faults n ≠ .crash) :
    ((read c k err f).run env faults w).1 ≠ .crashed := by
  have h := hcrash w.calls.length
  simp only [read]
  cases hf : faults w.calls.length <;> simp_all

/-- `Promise.all` rejects exactly when one of its parts does. -/
theorem both_isError {e : Effect ρ σ κ ε α} {e' : Effect ρ σ κ ε β} {env : ρ}
    {faults : Nat → Fault} {w : World σ κ} (h : (e.run env faults w).1 ≠ .crashed)
    (h' : (e'.run env faults (e.run env faults w).2).1 ≠ .crashed) :
    ((both e e').run env faults w).1.isError = true ↔
      (e.run env faults w).1.isError = true ∨
        (e'.run env faults (e.run env faults w).2).1.isError = true := by
  simp only [both]
  cases he : e.run env faults w with
  | mk outcome w₁ =>
    rw [he] at h h'
    cases he' : e'.run env faults w₁ with
    | mk outcome' w₂ =>
      rw [he'] at h'
      cases outcome with
      | crashed => exact absurd rfl h
      | ok a | error x =>
        cases outcome' with
        | crashed => exact absurd rfl h'
        | ok b | error y => simp [he', Outcome.isError]

end Effect
end Foundation
