import OmniSupport.Foundation.Locks
import OmniSupport.Foundation.Process

/-! Calls that open transactions, at isolation level READ COMMITTED. A statement sees the
committed store and the writes of its own transaction, and waits for the rows and unique
values that another transaction has written. -/
namespace Foundation

/-- A call: statements that commit by themselves, and transactions. -/
inductive Script (ρ σ τ ε : Type) where
  | done
  | throw (e : ε)
  | draw (next : ρ → Nat → Script ρ σ τ ε)
  | call (statement : τ) (next : σ → Script ρ σ τ ε)
  | attempt (statement : τ) (next : Script ρ σ τ ε)
  | transaction (body : Process ρ σ τ ε Unit) (next : Script ρ σ τ ε)

/-- The keys a statement locks until the end of its transaction, and the stores that look
the same under a key. -/
structure Locking (σ τ κ : Type) where
  keys : τ → σ → List κ
  agrees : κ → σ → σ → Prop

/-- The committed store, the locks of the open transactions, and the statements that took
effect, in the order of the commits. -/
structure Server (σ τ κ : Type) where
  store : σ
  locks : Locks κ
  history : List τ

/-- Outside of a transaction, or inside of one that has run the statements of `buffer`. -/
inductive Standing (ρ σ τ ε : Type) where
  | outside (rest : Script ρ σ τ ε)
  | inside (buffer : List τ) (body : Process ρ σ τ ε Unit) (rest : Script ρ σ τ ε)

/-- A process, with the call it runs. -/
structure Caller (ρ σ τ ε ι : Type) where
  call : Option ι
  standing : Standing ρ σ τ ε

namespace Process
variable {ρ σ τ κ ε α β : Type} {S : Statements σ τ κ ε}

/-- Run alone, a statement is one call. -/
theorem toEffect_statement (st : τ) (f : σ → α) :
    (statement st f : Process ρ σ τ ε α).toEffect S =
      Effect.call (S.client st) (S.kind st) S.error fun s =>
        (S.exec st s).map fun s' => (f s, s') := by
  refine congrArg Effect.mk (funext fun env => funext fun faults => funext fun w => ?_)
  change (Effect.andThen (awaited S st) fun s => Effect.ret (f s)).run env faults w = _
  simp only [Effect.andThen, awaited, Effect.call]
  cases faults w.calls.length with
  | crash | throws => rfl
  | none =>
    cases hexec : S.exec st (w.view (S.client st)) with
    | ok s' => simp [Except.map, Effect.ret]
    | error e => simp [Except.map]

/-- A statement that changes nothing reads. -/
theorem toEffect_read {st : τ} (hexec : ∀ s, S.exec st s = .ok s) (f : σ → α) :
    (statement st f : Process ρ σ τ ε α).toEffect S =
      Effect.read (S.client st) (S.kind st) S.error f := by
  rw [toEffect_statement]
  refine congrArg Effect.mk (funext fun env => funext fun faults => funext fun w => ?_)
  simp only [hexec, Except.map]
  cases faults w.calls.length with
  | crash | throws => rfl
  | none =>
    cases w with
    | mk committed working calls commits draws => cases working <;> cases S.client st <;> rfl

theorem toEffect_drawn (f : ρ → Nat → α) :
    (drawn f : Process ρ σ τ ε α).toEffect S = Effect.draw f := rfl

theorem toEffect_lift (x : Except ε α) :
    (lift x : Process ρ σ τ ε α).toEffect S = Effect.lift x := by
  cases x <;> rfl

theorem toEffect_pure (a : α) : (pure a : Process ρ σ τ ε α).toEffect S = pure a := rfl

theorem toEffect_tryExecute (st : τ) :
    (tryExecute st : Process ρ σ τ ε Unit).toEffect S = logged S st :=
  bind_pure (logged S st)

theorem Issues.mono {V W : τ → Prop} {Q : α → Prop} {p : Process ρ σ τ ε α}
    (h : p.Issues V Q) (hVW : ∀ st, V st → W st) : p.Issues W Q := by
  induction p with
  | ret a => exact h
  | throw e => trivial
  | draw next ih => exact fun env n => ih env n (h env n)
  | call st next ih => exact ⟨hVW st h.1, fun s => ih s (h.2 s)⟩
  | attempt st next ih => exact ⟨hVW st h.1, ih h.2⟩

section follows
variable {γ : Type} (N : γ → τ → σ → Option γ) (K : σ → Prop)

/-- In whatever stores of `K` its statements run, the program runs only statements that the
protocol `N` lets it, from the protocol state `g` on, and `Q` holds of its result. -/
def Follows (Q : α → γ → Prop) : Process ρ σ τ ε α → γ → Prop
  | .ret a, g => Q a g
  | .throw _, _ => True
  | .draw next, g => ∀ env n, (next env n).Follows Q g
  | .call st next, g => ∀ s, K s → ∃ g', N g st s = some g' ∧ (next s).Follows Q g'
  | .attempt st next, g => ∀ s, K s → ∃ g', N g st s = some g' ∧ next.Follows Q g'

variable {N K} {Q : α → γ → Prop} {R : β → γ → Prop} {g : γ}

theorem Follows.bind {p : Process ρ σ τ ε α} {f : α → Process ρ σ τ ε β}
    (hp : Follows N K Q p g) (hf : ∀ a g, Q a g → Follows N K R (f a) g) :
    Follows N K R (p >>= f) g := by
  rw [bind_eq]
  induction p generalizing g with
  | ret a => exact hf a g hp
  | throw e => trivial
  | draw next ih => exact fun env n => ih env n (hp env n)
  | call st next ih =>
    intro s hs
    obtain ⟨g', hg, hnext⟩ := hp s hs
    exact ⟨g', hg, ih s hnext⟩
  | attempt st next ih =>
    intro s hs
    obtain ⟨g', hg, hnext⟩ := hp s hs
    exact ⟨g', hg, ih hnext⟩

theorem follows_statement {st : τ} {f : σ → α}
    (h : ∀ s, K s → ∃ g', N g st s = some g' ∧ Q (f s) g') :
    Follows N K Q (statement st f : Process ρ σ τ ε α) g :=
  h

theorem follows_drawn {f : ρ → Nat → α} (h : ∀ env n, Q (f env n) g) :
    Follows N K Q (drawn f : Process ρ σ τ ε α) g :=
  h

theorem Follows.mono {R : α → γ → Prop} {p : Process ρ σ τ ε α} (hp : Follows N K Q p g)
    (h : ∀ a g, Q a g → R a g) : Follows N K R p g := by
  induction p generalizing g with
  | ret a => exact h a g hp
  | throw e => trivial
  | draw next ih => exact fun env n => ih env n (hp env n)
  | call st next ih =>
    intro s hs
    obtain ⟨g', hg, hnext⟩ := hp s hs
    exact ⟨g', hg, ih s hnext⟩
  | attempt st next ih =>
    intro s hs
    obtain ⟨g', hg, hnext⟩ := hp s hs
    exact ⟨g', hg, ih hnext⟩

theorem follows_lift {x : Except ε α} (h : ∀ a, x = .ok a → Q a g) :
    Follows N K Q (lift x : Process ρ σ τ ε α) g := by
  cases x with
  | ok a => exact h a rfl
  | error e => trivial

/-- A program whose statements do not move the protocol. -/
theorem follows_of_issues {V : τ → Prop} {p : Process ρ σ τ ε α}
    (hp : p.Issues V fun _ => True) (hV : ∀ st s, V st → N g st s = some g) :
    Follows N K (fun _ g' => g' = g) p g := by
  induction p with
  | ret a => rfl
  | throw e => trivial
  | draw next ih => exact fun env n => ih env n (hp env n)
  | call st next ih => exact fun s _ => ⟨g, hV st s hp.1, ih s (hp.2 s)⟩
  | attempt st next ih => exact fun s _ => ⟨g, hV st s hp.1, ih hp.2⟩

end follows
end Process

namespace Script
variable {ρ σ τ κ ε α ι : Type}

/-- The statements of a process, then the call that goes on with its result. -/
def after : Process ρ σ τ ε α → (α → Script ρ σ τ ε) → Script ρ σ τ ε
  | .ret a, f => f a
  | .throw e, _ => .throw e
  | .draw next, f => .draw fun env n => after (next env n) f
  | .call statement next, f => .call statement fun s => after (next s) f
  | .attempt statement next, f => .attempt statement (after next f)

section effect
variable (S : Statements σ τ κ ε) (commit : κ)

/-- The call run alone. -/
def toEffect : Script ρ σ τ ε → Effect ρ σ κ ε Unit
  | .done => pure ()
  | .throw e => Effect.throw e
  | .draw next => Effect.draw (fun env n => (env, n)) >>= fun r => toEffect (next r.1 r.2)
  | .call st next => Process.awaited S st >>= fun s => toEffect (next s)
  | .attempt st next => Process.logged S st >>= fun _ => toEffect next
  | .transaction body next =>
    Effect.transaction commit S.error (body.toEffect S) >>= fun _ => toEffect next

theorem toEffect_after (p : Process ρ σ τ ε α) (f : α → Script ρ σ τ ε) :
    toEffect S commit (after p f) = p.toEffect S >>= fun a => toEffect S commit (f a) := by
  induction p with
  | ret a => rfl
  | throw e => rfl
  | draw next ih =>
    simp only [after, toEffect, Process.toEffect, bind_assoc]
    exact congrArg _ (funext fun r => ih r.1 r.2)
  | call st next ih =>
    simp only [after, toEffect, Process.toEffect, bind_assoc]
    exact congrArg _ (funext fun s => ih s)
  | attempt st next ih =>
    simp only [after, toEffect, Process.toEffect, bind_assoc]
    exact congrArg _ (funext fun _ => ih)

/-- A call without a transaction is its process. -/
theorem toEffect_ending (p : Process ρ σ τ ε Unit) :
    toEffect S commit (after p fun _ => .done) = p.toEffect S := by
  rw [toEffect_after]
  exact bind_pure (p.toEffect S)

end effect

/-- Every statement outside of the transactions satisfies `O`, every transaction `B`. -/
def Allows (O : τ → Prop) (B : Process ρ σ τ ε Unit → Prop) : Script ρ σ τ ε → Prop
  | .done | .throw _ => True
  | .draw next => ∀ env n, (next env n).Allows O B
  | .call st next => O st ∧ ∀ s, (next s).Allows O B
  | .attempt st next => O st ∧ next.Allows O B
  | .transaction body next => B body ∧ next.Allows O B

theorem Allows.mono {O O' : τ → Prop} {B : Process ρ σ τ ε Unit → Prop}
    {script : Script ρ σ τ ε} (h : script.Allows O B) (hO : ∀ st, O st → O' st) :
    script.Allows O' B := by
  induction script with
  | done | throw e => trivial
  | draw next ih => exact fun env n => ih env n (h env n)
  | call st next ih => exact ⟨hO st h.1, fun s => ih s (h.2 s)⟩
  | attempt st next ih => exact ⟨hO st h.1, ih h.2⟩
  | transaction body next ih => exact ⟨h.1, ih h.2⟩

theorem allows_after {O : τ → Prop} {B : Process ρ σ τ ε Unit → Prop} {Q : α → Prop}
    {p : Process ρ σ τ ε α} {f : α → Script ρ σ τ ε} (hp : p.Issues O Q)
    (hf : ∀ a, Q a → (f a).Allows O B) : (after p f).Allows O B := by
  induction p with
  | ret a => exact hf a hp
  | throw e => trivial
  | draw next ih => exact fun env n => ih env n (hp env n)
  | call st next ih => exact ⟨hp.1, fun s => ih s (hp.2 s)⟩
  | attempt st next ih => exact ⟨hp.1, ih hp.2⟩

end Script

namespace ReadCommitted
variable {ρ σ τ κ ε ι χ : Type}

section semantics
variable (S : Statements σ τ κ ε)

/-- What a statement does; a refused one does nothing. -/
def effect (st : τ) (s : σ) : σ :=
  match S.exec st s with
  | .ok s' => s'
  | .error _ => s

def effects (sts : List τ) (s : σ) : σ := sts.foldl (fun s st => effect S st s) s

/-- No statement is refused in the store that the ones before it leave. -/
def Admitted : List τ → σ → Prop
  | [], _ => True
  | st :: rest, s => (∃ s', S.exec st s = .ok s') ∧ Admitted rest (effect S st s)

variable [DecidableEq χ] (L : Locking σ τ χ) (program : ι → Script ρ σ τ ε)

abbrev Pool (ρ σ τ χ ε ι : Type) := Foundation.Pool (Server σ τ χ) (Caller ρ σ τ ε ι)

/-- A statement that is a transaction of its own. -/
def autocommit (p : Nat) (d : Server σ τ χ) (st : τ) : Option (Except ε (Server σ τ χ)) :=
  if d.locks.available (L.keys st d.store) p then
    some ((S.exec st d.store).map fun s => { d with store := s, history := d.history ++ [st] })
  else none

def rollback (p : Nat) (d : Server σ τ χ) : Server σ τ χ :=
  { d with locks := d.locks.releaseAll p }

def commit (p : Nat) (d : Server σ τ χ) (buffer : List τ) : Server σ τ χ where
  store := effects S buffer d.store
  locks := d.locks.releaseAll p
  history := d.history ++ buffer

/-- The next statement of an open transaction: executed, refused, or still waiting. -/
def execute (p : Nat) (d : Server σ τ χ) (buffer : List τ) (st : τ)
    (next : σ → Process ρ σ τ ε Unit) (rest : Script ρ σ τ ε) :
    Option (Server σ τ χ × Standing ρ σ τ ε) :=
  let view := effects S buffer d.store
  if d.locks.available (L.keys st view) p then
    match S.exec st view with
    | .ok _ =>
      some ({ d with locks := d.locks.acquireAll (L.keys st view) p },
        .inside (buffer ++ [st]) (next view) rest)
    | .error e => some (rollback p d, .outside (.throw e))
  else none

def turnOutside (p : Nat) (d : Server σ τ χ) :
    Script ρ σ τ ε → Process.Turn ρ ι → Option (Server σ τ χ × Standing ρ σ τ ε)
  | .draw next, .next env n => some (d, .outside (next env n))
  | .call st next, .next _ _ => (autocommit S L p d st).map fun
    | .ok d' => (d', .outside (next d.store))
    | .error e => (d, .outside (.throw e))
  | .attempt st next, .next _ _ => (autocommit S L p d st).map fun
    | .ok d' => (d', .outside next)
    | .error _ => (d, .outside next)
  | .transaction body next, .next _ _ => some (d, .inside [] body next)
  | .call _ _, .fail | .transaction _ _, .fail => some (d, .outside (.throw S.error))
  | .attempt _ next, .fail => some (d, .outside next)
  | _, _ => none

/-- What throws inside of a transaction rolls it back. -/
def turnInside (p : Nat) (d : Server σ τ χ) (buffer : List τ) (rest : Script ρ σ τ ε) :
    Process ρ σ τ ε Unit → Process.Turn ρ ι → Option (Server σ τ χ × Standing ρ σ τ ε)
  | .draw next, .next env n => some (d, .inside buffer (next env n) rest)
  | .call st next, .next _ _ => execute S L p d buffer st next rest
  | .attempt st next, .next _ _ => execute S L p d buffer st (fun _ => next) rest
  | .ret _, .next _ _ => some (commit S p d buffer, .outside rest)
  | .throw e, .next _ _ => some (rollback p d, .outside (.throw e))
  | _, .fail => some (rollback p d, .outside (.throw S.error))
  | _, _ => none

def goOn (p : Nat) (d : Server σ τ χ) :
    Standing ρ σ τ ε → Process.Turn ρ ι → Option (Server σ τ χ × Standing ρ σ τ ε)
  | .outside rest, a => turnOutside S L p d rest a
  | .inside buffer body rest, a => turnInside S L p d buffer rest body a

def starts : Standing ρ σ τ ε → Process.Turn ρ ι → Option ι
  | .outside .done, .start i | .outside (.throw _), .start i => some i
  | _, _ => none

def turn (p : Nat) (d : Server σ τ χ) (l : Caller ρ σ τ ε ι) (a : Process.Turn ρ ι) :
    Option (Server σ τ χ × Caller ρ σ τ ε ι) :=
  match starts l.standing a with
  | some i => some (d, ⟨some i, .outside (program i)⟩)
  | none => (goOn S L p d l.standing a).map fun r => (r.1, { l with standing := r.2 })

def pool : Program (Server σ τ χ) (Caller ρ σ τ ε ι) (Process.Turn ρ ι) Empty where
  act := turn S L program
  env _ e := e.elim

/-- No call has started. -/
def idle (s : σ) : Pool ρ σ τ χ ε ι := ⟨⟨s, .empty, []⟩, fun _ => ⟨none, .outside .done⟩⟩

/-- The first node of the rest is the statement `st`, and `next` is what follows it. -/
inductive AwaitsOutside : Script ρ σ τ ε → τ → (σ → Script ρ σ τ ε) → Prop
  | call (st : τ) (next : σ → Script ρ σ τ ε) : AwaitsOutside (.call st next) st next
  | attempt (st : τ) (next : Script ρ σ τ ε) : AwaitsOutside (.attempt st next) st fun _ => next

inductive AwaitsInside : Process ρ σ τ ε Unit → τ → (σ → Process ρ σ τ ε Unit) → Prop
  | call (st : τ) (next : σ → Process ρ σ τ ε Unit) : AwaitsInside (.call st next) st next
  | attempt (st : τ) (next : Process ρ σ τ ε Unit) :
      AwaitsInside (.attempt st next) st fun _ => next

/-- What a turn that starts no call can do. -/
inductive WentOn (p : Nat) (d : Server σ τ χ) :
    Standing ρ σ τ ε → Process.Turn ρ ι → Server σ τ χ → Standing ρ σ τ ε → Prop
  | drawOutside (next : ρ → Nat → Script ρ σ τ ε) (env : ρ) (n : Nat) :
      WentOn p d (.outside (.draw next)) (.next env n) d (.outside (next env n))
  | raise (rest : Script ρ σ τ ε) (a : Process.Turn ρ ι) (e : ε) :
      WentOn p d (.outside rest) a d (.outside (.throw e))
  | skip (st : τ) (next : Script ρ σ τ ε) (a : Process.Turn ρ ι) :
      WentOn p d (.outside (.attempt st next)) a d (.outside next)
  | autocommit {rest : Script ρ σ τ ε} {st : τ} {next : σ → Script ρ σ τ ε} {s : σ}
      (env : ρ) (n : Nat) (hawaits : AwaitsOutside rest st next)
      (havailable : d.locks.available (L.keys st d.store) p)
      (hexec : S.exec st d.store = .ok s) :
      WentOn p d (.outside rest) (.next env n)
        { d with store := s, history := d.history ++ [st] } (.outside (next d.store))
  | begin (body : Process ρ σ τ ε Unit) (next : Script ρ σ τ ε) (env : ρ) (n : Nat) :
      WentOn p d (.outside (.transaction body next)) (.next env n) d (.inside [] body next)
  | drawInside (buffer : List τ) (next : ρ → Nat → Process ρ σ τ ε Unit) (env : ρ) (n : Nat)
      (rest : Script ρ σ τ ε) :
      WentOn p d (.inside buffer (.draw next) rest) (.next env n) d
        (.inside buffer (next env n) rest)
  | execute {buffer : List τ} {body : Process ρ σ τ ε Unit} {st : τ}
      {next : σ → Process ρ σ τ ε Unit} {rest : Script ρ σ τ ε} {s : σ}
      (env : ρ) (n : Nat) (hawaits : AwaitsInside body st next)
      (havailable : d.locks.available (L.keys st (effects S buffer d.store)) p)
      (hexec : S.exec st (effects S buffer d.store) = .ok s) :
      WentOn p d (.inside buffer body rest) (.next env n)
        { d with locks := d.locks.acquireAll (L.keys st (effects S buffer d.store)) p }
        (.inside (buffer ++ [st]) (next (effects S buffer d.store)) rest)
  | rollback (buffer : List τ) (body : Process ρ σ τ ε Unit) (rest : Script ρ σ τ ε)
      (a : Process.Turn ρ ι) (e : ε) :
      WentOn p d (.inside buffer body rest) a (rollback p d) (.outside (.throw e))
  | commit (buffer : List τ) (rest : Script ρ σ τ ε) (env : ρ) (n : Nat) :
      WentOn p d (.inside buffer (.ret ()) rest) (.next env n) (commit S p d buffer)
        (.outside rest)

end semantics

section inversion
variable {S : Statements σ τ κ ε} [DecidableEq χ] {L : Locking σ τ χ}
  {program : ι → Script ρ σ τ ε} {p : Nat} {d d' : Server σ τ χ} {a : Process.Turn ρ ι}
  {at' : Standing ρ σ τ ε}

theorem AwaitsOutside.allows {rest : Script ρ σ τ ε} {st : τ} {next : σ → Script ρ σ τ ε}
    {O : τ → Prop} {B : Process ρ σ τ ε Unit → Prop} (h : AwaitsOutside rest st next)
    (hrest : rest.Allows O B) : O st ∧ ∀ s, (next s).Allows O B := by
  cases h with
  | call st next => exact hrest
  | attempt st next => exact ⟨hrest.1, fun _ => hrest.2⟩

theorem AwaitsInside.issues {body : Process ρ σ τ ε Unit} {st : τ}
    {next : σ → Process ρ σ τ ε Unit} {V : τ → Prop} (h : AwaitsInside body st next)
    (hbody : body.Issues V fun _ => True) : V st ∧ ∀ s, (next s).Issues V fun _ => True := by
  cases h with
  | call st next => exact hbody
  | attempt st next => exact ⟨hbody.1, fun _ => hbody.2⟩

theorem autocommit_some {st : τ} {r : Except ε (Server σ τ χ)}
    (h : autocommit S L p d st = some r) : d.locks.available (L.keys st d.store) p ∧
      r = (S.exec st d.store).map fun s =>
        { d with store := s, history := d.history ++ [st] } := by
  simp only [autocommit] at h
  split at h
  · rename_i havailable
    cases h
    exact ⟨havailable, rfl⟩
  · cases h

theorem execute_cases {buffer : List τ} {body : Process ρ σ τ ε Unit} {st : τ}
    {next : σ → Process ρ σ τ ε Unit} {rest : Script ρ σ τ ε} (env : ρ) (n : Nat)
    (hawaits : AwaitsInside body st next)
    (h : execute S L p d buffer st next rest = some (d', at')) :
    WentOn (ι := ι) S L p d (.inside buffer body rest) (.next env n) d' at' := by
  simp only [execute] at h
  split at h
  · rename_i havailable
    cases hexec : S.exec st (effects S buffer d.store) with
    | ok s =>
      rw [hexec] at h
      cases h
      exact .execute env n hawaits havailable hexec
    | error e =>
      rw [hexec] at h
      cases h
      exact .rollback buffer body rest _ e
  · cases h

theorem turnOutside_cases {rest : Script ρ σ τ ε}
    (h : turnOutside S L p d rest a = some (d', at')) :
    WentOn S L p d (.outside rest) a d' at' := by
  cases rest with
  | done | throw => cases a <;> cases h
  | draw next =>
    cases a with
    | next env n =>
      cases h
      exact .drawOutside next env n
    | start | fail => cases h
  | call st next =>
    cases a with
    | start i => cases h
    | fail =>
      cases h
      exact .raise _ _ _
    | next env n =>
      obtain ⟨r, hr, heq⟩ := Option.map_eq_some_iff.mp h
      obtain ⟨havailable, rfl⟩ := autocommit_some hr
      cases hexec : S.exec st d.store with
      | ok s =>
        rw [hexec] at heq
        cases heq
        exact .autocommit env n (.call st next) havailable hexec
      | error e =>
        rw [hexec] at heq
        cases heq
        exact .raise _ _ e
  | attempt st next =>
    cases a with
    | start i => cases h
    | fail =>
      cases h
      exact .skip st next _
    | next env n =>
      obtain ⟨r, hr, heq⟩ := Option.map_eq_some_iff.mp h
      obtain ⟨havailable, rfl⟩ := autocommit_some hr
      cases hexec : S.exec st d.store with
      | ok s =>
        rw [hexec] at heq
        cases heq
        exact .autocommit env n (.attempt st next) havailable hexec
      | error e =>
        rw [hexec] at heq
        cases heq
        exact .skip st next _
  | transaction body next =>
    cases a with
    | start i => cases h
    | fail =>
      cases h
      exact .raise _ _ _
    | next env n =>
      cases h
      exact .begin body next env n

theorem turnInside_cases {buffer : List τ} {body : Process ρ σ τ ε Unit}
    {rest : Script ρ σ τ ε} (h : turnInside S L p d buffer rest body a = some (d', at')) :
    WentOn S L p d (.inside buffer body rest) a d' at' := by
  cases a with
  | start i => cases body <;> cases h
  | fail =>
    cases body <;> cases h <;> exact .rollback buffer _ rest _ _
  | next env n =>
    cases body with
    | ret u =>
      cases h
      exact .commit buffer rest env n
    | throw e =>
      cases h
      exact .rollback buffer _ rest _ e
    | draw next =>
      cases h
      exact .drawInside buffer next env n rest
    | call st next => exact execute_cases env n (.call st next) h
    | attempt st next => exact execute_cases env n (.attempt st next) h

/-- A turn starts a call, or goes on with one. -/
theorem turn_cases {l l' : Caller ρ σ τ ε ι} (h : turn S L program p d l a = some (d', l')) :
    (∃ i rest, l.standing = .outside rest ∧ d' = d ∧ l' = ⟨some i, .outside (program i)⟩) ∨
      WentOn S L p d l.standing a d' l'.standing ∧ l'.call = l.call := by
  simp only [turn] at h
  split at h
  · rename_i i hstart
    cases h
    left
    cases hat : l.standing with
    | outside rest => exact ⟨i, rest, rfl, rfl, rfl⟩
    | inside buffer body rest =>
      rw [hat] at hstart
      cases hstart
  · right
    obtain ⟨r, hr, heq⟩ := Option.map_eq_some_iff.mp h
    cases heq
    cases hat : l.standing with
    | outside rest =>
      rw [hat] at hr
      exact ⟨turnOutside_cases hr, rfl⟩
    | inside buffer body rest =>
      rw [hat] at hr
      exact ⟨turnInside_cases hr, rfl⟩

end inversion

section effects
variable {S : Statements σ τ κ ε} {st : τ} {sts sts' : List τ} {s s' : σ}

theorem effect_of_exec (h : S.exec st s = .ok s') : effect S st s = s' := by
  simp [effect, h]

theorem effects_append : effects S (sts ++ sts') s = effects S sts' (effects S sts s) :=
  List.foldl_append

theorem effects_snoc : effects S (sts ++ [st]) s = effect S st (effects S sts s) :=
  effects_append

theorem admitted_append : Admitted S (sts ++ sts') s ↔
    Admitted S sts s ∧ Admitted S sts' (effects S sts s) := by
  induction sts generalizing s with
  | nil => simp [Admitted, effects]
  | cons st rest ih =>
    simp only [List.cons_append, Admitted, ih, and_assoc]
    rfl

theorem admitted_snoc (h : Admitted S sts s) (hexec : S.exec st (effects S sts s) = .ok s') :
    Admitted S (sts ++ [st]) s :=
  admitted_append.mpr ⟨h, ⟨s', hexec⟩, trivial⟩

/-- What every statement keeps that is executed holds after all of them. -/
theorem effects_keep {P : σ → Prop} {V : τ → Prop}
    (hexec : ∀ st s s', P s → V st → S.exec st s = .ok s' → P s') (hV : ∀ st ∈ sts, V st)
    (h : Admitted S sts s) (hs : P s) : P (effects S sts s) := by
  induction sts generalizing s with
  | nil => exact hs
  | cons st rest ih =>
    obtain ⟨⟨s₁, hst⟩, hrest⟩ := h
    have hone : P (effect S st s) := by
      rw [effect_of_exec hst]
      exact hexec st s s₁ hs (hV st List.mem_cons_self) hst
    exact ih (fun st' hst' => hV st' (List.mem_cons_of_mem _ hst')) hrest hone

section marks
variable {μ : Type} {I : σ → Prop} {V : τ → Prop} {mark : τ → Option μ} {Spent : μ → σ → Prop}

/-- What a statement has spent stays spent. -/
theorem spent_effects {m : μ} (hI : ∀ st s s', I s → V st → S.exec st s = .ok s' → I s')
    (hkeeps : ∀ st s s', I s → V st → S.exec st s = .ok s' → Spent m s → Spent m s')
    (hV : ∀ st ∈ sts, V st) (h : Admitted S sts s) (hs : I s) (hspent : Spent m s) :
    Spent m (effects S sts s) := by
  refine (effects_keep (P := fun s => I s ∧ Spent m s) ?_ hV h ⟨hs, hspent⟩).2
  rintro st s s' ⟨hs, hspent⟩ hst hexec
  exact ⟨hI st s s' hs hst hexec, hkeeps st s s' hs hst hexec hspent⟩

variable (Spent) in
/-- A thing that only an unspent mark spends is spent at most once. -/
theorem nodup_marks (hI : ∀ st s s', I s → V st → S.exec st s = .ok s' → I s')
    (hkeeps : ∀ m st s s', I s → V st → S.exec st s = .ok s' → Spent m s → Spent m s')
    (hspends : ∀ m st s s', I s → V st → mark st = some m → S.exec st s = .ok s' →
      ¬ Spent m s ∧ Spent m s')
    (hV : ∀ st ∈ sts, V st) (h : Admitted S sts s) (hs : I s) :
    (sts.filterMap mark).Nodup ∧ ∀ m ∈ sts.filterMap mark, ¬ Spent m s := by
  induction sts generalizing s with
  | nil => simp
  | cons st rest ih =>
    obtain ⟨⟨s₁, hexec⟩, hrest⟩ := h
    rw [effect_of_exec hexec] at hrest
    have hst := hV st List.mem_cons_self
    obtain ⟨hnodup, hunspent⟩ := ih (fun st' h' => hV st' (List.mem_cons_of_mem _ h')) hrest
      (hI st s s₁ hs hst hexec)
    have hbefore : ∀ m ∈ rest.filterMap mark, ¬ Spent m s := fun m hm hspent =>
      hunspent m hm (hkeeps m st s s₁ hs hst hexec hspent)
    cases hmark : mark st with
    | none =>
      rw [List.filterMap_cons_none hmark]
      exact ⟨hnodup, hbefore⟩
    | some m =>
      obtain ⟨hnot, hspent⟩ := hspends m st s s₁ hs hst hmark hexec
      rw [List.filterMap_cons_some hmark]
      refine ⟨List.nodup_cons.mpr ⟨fun hm => hunspent m hm hspent, hnodup⟩, fun m' hm' => ?_⟩
      rcases List.mem_cons.mp hm' with rfl | hm'
      · exact hnot
      · exact hbefore m' hm'

end marks
end effects

/-- The laws of the locks of the statements `V` that transactions are made of: a statement
changes nothing under keys it does not lock, and whether it is refused, and what it shows
under its keys, depends on what these show. -/
structure Lawful (S : Statements σ τ κ ε) (L : Locking σ τ χ) (V : τ → Prop) : Prop where
  equivalence : ∀ k, Equivalence (L.agrees k)
  fixed : ∀ st s t, V st → L.keys st s = L.keys st t
  frame : ∀ st s s' k, S.exec st s = .ok s' → k ∉ L.keys st s → L.agrees k s s'
  determined : ∀ st s t s', V st → S.exec st s = .ok s' →
    (∀ k ∈ L.keys st s, L.agrees k s t) →
    ∃ t', S.exec st t = .ok t' ∧ ∀ k ∈ L.keys st s, L.agrees k s' t'

theorem Lawful.mono {S : Statements σ τ κ ε} {L : Locking σ τ χ} {V W : τ → Prop}
    (hL : Lawful S L V) (h : ∀ st, W st → V st) : Lawful S L W where
  equivalence := hL.equivalence
  fixed st s t hst := hL.fixed st s t (h st hst)
  frame := hL.frame
  determined st s t s' hst := hL.determined st s t s' (h st hst)

section lawful
variable {S : Statements σ τ κ ε} {L : Locking σ τ χ} {V : τ → Prop} {st : τ} {sts : List τ}
  {s t s' t' : σ} {k : χ} {K : χ → Prop}

theorem Lawful.agrees_effect (hL : Lawful S L V) (hk : k ∉ L.keys st s) :
    L.agrees k s (effect S st s) := by
  cases hexec : S.exec st s with
  | ok s' =>
    rw [effect_of_exec hexec]
    exact hL.frame st s s' k hexec hk
  | error e =>
    have hsame : effect S st s = s := by simp [effect, hexec]
    rw [hsame]
    exact (hL.equivalence k).refl s

theorem Lawful.agrees_effects (hL : Lawful S L V) (hV : ∀ st ∈ sts, V st)
    (hk : ∀ st ∈ sts, k ∉ L.keys st s) : L.agrees k s (effects S sts s) := by
  induction sts generalizing s with
  | nil => exact (hL.equivalence k).refl s
  | cons st rest ih =>
    have hone := hL.agrees_effect (hk st List.mem_cons_self)
    refine (hL.equivalence k).trans hone (ih (fun st' h' => hV st' (List.mem_cons_of_mem _ h')) ?_)
    intro st' hst'
    rw [hL.fixed st' _ s (hV st' (List.mem_cons_of_mem _ hst'))]
    exact hk st' (List.mem_cons_of_mem _ hst')

/-- A statement whose keys are among `K` keeps two stores in agreement on `K`. -/
theorem Lawful.execute_both (hL : Lawful S L V) (hst : V st)
    (hkeys : ∀ k ∈ L.keys st s, K k) (hexec : S.exec st s = .ok s')
    (hagree : ∀ k, K k → L.agrees k s t) :
    ∃ t', S.exec st t = .ok t' ∧ ∀ k, K k → L.agrees k s' t' := by
  obtain ⟨t', ht', hsame⟩ := hL.determined st s t s' hst hexec fun k hk => hagree k (hkeys k hk)
  refine ⟨t', ht', fun k hk => ?_⟩
  by_cases hmem : k ∈ L.keys st s
  · exact hsame k hmem
  · have hs : L.agrees k s s' := hL.frame st s s' k hexec hmem
    have ht : L.agrees k t t' := by
      refine hL.frame st t t' k ht' ?_
      rw [hL.fixed st t s hst]
      exact hmem
    exact (hL.equivalence k).trans ((hL.equivalence k).symm hs)
      ((hL.equivalence k).trans (hagree k hk) ht)

/-- What others commit refuses no statement of an open transaction, as long as they leave
the keys it has locked. -/
theorem Lawful.admitted_transfer (hL : Lawful S L V) (hV : ∀ st ∈ sts, V st)
    (h : Admitted S sts s) (hkeys : ∀ st ∈ sts, ∀ k ∈ L.keys st s, K k)
    (hagree : ∀ k, K k → L.agrees k s t) : Admitted S sts t := by
  induction sts generalizing s t with
  | nil => trivial
  | cons st rest ih =>
    obtain ⟨⟨s', hexec⟩, hrest⟩ := h
    obtain ⟨t', ht', hsame⟩ := hL.execute_both (hV st List.mem_cons_self)
      (hkeys st List.mem_cons_self) hexec hagree
    rw [effect_of_exec hexec] at hrest
    refine ⟨⟨t', ht'⟩, ?_⟩
    rw [effect_of_exec ht']
    have hVrest : ∀ st ∈ rest, V st := fun st' h' => hV st' (List.mem_cons_of_mem _ h')
    refine ih hVrest hrest (fun st' hst' k hk => ?_) hsame
    rw [hL.fixed st' s' s (hVrest st' hst')] at hk
    exact hkeys st' (List.mem_cons_of_mem _ hst') k hk

end lawful

section serial
variable (S : Statements σ τ κ ε) (H : τ → Prop)

/-- The committed store is what the statements of the history make of the first one, each
executed when it is its turn. -/
structure Serial (s : σ) (d : Server σ τ χ) : Prop where
  planned : ∀ st ∈ d.history, H st
  admitted : Admitted S d.history s
  store : d.store = effects S d.history s

variable {S H} {s s' : σ} {d : Server σ τ χ}

theorem Serial.autocommit {st : τ} (h : Serial S H s d) (hst : H st)
    (hexec : S.exec st d.store = .ok s') :
    Serial S H s { d with store := s', history := d.history ++ [st] } where
  planned st' hst' := by
    rcases List.mem_append.mp hst' with hold | hnew
    · exact h.planned st' hold
    · rw [List.mem_singleton.mp hnew]
      exact hst
  admitted := by
    have hnext : S.exec st (effects S d.history s) = .ok s' := h.store ▸ hexec
    exact admitted_snoc h.admitted hnext
  store := by
    have hone : effect S st d.store = s' := effect_of_exec hexec
    rw [effects_snoc, ← h.store, hone]

theorem Serial.commit {p : Nat} {buffer : List τ} (h : Serial S H s d)
    (hbuffer : ∀ st ∈ buffer, H st) (hadmitted : Admitted S buffer d.store) :
    Serial S H s (commit S p d buffer) where
  planned st hst := by
    rcases List.mem_append.mp hst with hold | hnew
    · exact h.planned st hold
    · exact hbuffer st hnew
  admitted := by
    refine admitted_append.mpr ⟨h.admitted, ?_⟩
    rw [← h.store]
    exact hadmitted
  store := by
    rw [ReadCommitted.commit, effects_append, ← h.store]

end serial

section orderly
variable (S : Statements σ τ κ ε) (L : Locking σ τ χ) (O V : τ → Prop)

/-- The statements a process still has to run, and those of its open transaction. -/
def WithinPlan : Standing ρ σ τ ε → Prop
  | .outside rest => rest.Allows O fun body => body.Issues V fun _ => True
  | .inside buffer body rest =>
    (∀ st ∈ buffer, V st) ∧ body.Issues V (fun _ => True) ∧
      rest.Allows O fun body => body.Issues V fun _ => True

/-- An open transaction holds the keys of its statements, none of which the committed store
would refuse. -/
def HoldsKeys (p : Nat) (d : Server σ τ χ) : Standing ρ σ τ ε → Prop
  | .outside _ => True
  | .inside buffer _ _ =>
    (∀ st ∈ buffer, ∀ k ∈ L.keys st d.store, d.locks.heldBy k p) ∧ Admitted S buffer d.store

/-- What a process holds stays locked, and looks the same. -/
def SameUnder (q : Nat) (d d' : Server σ τ χ) : Prop :=
  ∀ k, d.locks.heldBy k q → d'.locks.heldBy k q ∧ L.agrees k d.store d'.store

/-- What the call of a process may run outside of its transactions. -/
def allowed (outside : ι → τ → Prop) (l : Caller ρ σ τ ε ι) (st : τ) : Prop :=
  ∃ i, l.call = some i ∧ outside i st

/-- The statements of the calls: `outside` of the transactions of each, and `V` in them. -/
def planned (outside : ι → τ → Prop) (st : τ) : Prop := (∃ i, outside i st) ∨ V st

def orderly (outside : ι → τ → Prop) (s : σ) :
    Program.Outline (Server σ τ χ) (Caller ρ σ τ ε ι) where
  inv := Serial S (planned V outside) s
  own p l d := WithinPlan (allowed outside l) V l.standing ∧ HoldsKeys S L p d l.standing
  pair _ _ := True

variable {S L O V} {outside : ι → τ → Prop} {H : τ → Prop} {s : σ} {p q : Nat}
  {d d' : Server σ τ χ} {here there : Standing ρ σ τ ε}

theorem HoldsKeys.of_same (hL : Lawful S L V) (hplan : WithinPlan O V here)
    (h : HoldsKeys S L q d here) (hsame : SameUnder L q d d') : HoldsKeys S L q d' here := by
  cases here with
  | outside rest => trivial
  | inside buffer body rest =>
    obtain ⟨hheld, hadmitted⟩ := h
    have hkeys : ∀ st ∈ buffer, ∀ k ∈ L.keys st d.store, d.locks.heldBy k q := hheld
    refine ⟨fun st hst k hk => ?_, ?_⟩
    · rw [hL.fixed st d'.store d.store (hplan.1 st hst)] at hk
      exact (hsame k (hkeys st hst k hk)).1
    · exact hL.admitted_transfer (K := fun k => d.locks.heldBy k q) hplan.1 hadmitted hkeys
        fun k hk => (hsame k hk).2

theorem orderly_idle (s : σ) :
    (orderly S L V outside s).Holds (idle s : Pool ρ σ τ χ ε ι) where
  inv := ⟨by simp [idle], trivial, rfl⟩
  own _ := ⟨trivial, trivial⟩
  pair _ _ _ := trivial

variable [DecidableEq χ] {program : ι → Script ρ σ τ ε} {a : Process.Turn ρ ι}

/-- A turn leaves less to run. -/
theorem WentOn.plan (hplan : WithinPlan O V here) (h : WentOn S L p d here a d' there) :
    WithinPlan O V there := by
  cases h with
  | drawOutside next env n => exact hplan env n
  | raise rest a e => trivial
  | skip st next a => exact hplan.2
  | autocommit env n hawaits havailable hexec => exact (hawaits.allows hplan).2 _
  | begin body next env n => exact ⟨by simp, hplan.1, hplan.2⟩
  | drawInside buffer next env n rest => exact ⟨hplan.1, hplan.2.1 env n, hplan.2.2⟩
  | @execute buffer body st next rest s₁ env n hawaits havailable hexec =>
    obtain ⟨hst, hnext⟩ := hawaits.issues hplan.2.1
    refine ⟨fun st' hst' => ?_, hnext _, hplan.2.2⟩
    rcases List.mem_append.mp hst' with hold | hnew
    · exact hplan.1 st' hold
    · rw [List.mem_singleton.mp hnew]
      exact hst
  | rollback buffer body rest a e => trivial
  | commit buffer rest env n => exact hplan.2.2

/-- The transaction of the actor stays admitted. -/
theorem WentOn.holdsKeys (hL : Lawful S L V) (hplan : WithinPlan O V here)
    (hkeys : HoldsKeys S L p d here) (h : WentOn S L p d here a d' there) :
    HoldsKeys S L p d' there := by
  cases h with
  | drawOutside | raise | skip | autocommit | rollback | commit => trivial
  | begin body next env n => exact ⟨by simp, trivial⟩
  | drawInside buffer next env n rest => exact hkeys
  | @execute buffer body st next rest s₁ env n hawaits havailable hexec =>
    obtain ⟨hst, -⟩ := hawaits.issues hplan.2.1
    refine ⟨fun st' hst' k hk => ?_, admitted_snoc hkeys.2 hexec⟩
    rcases List.mem_append.mp hst' with hold | hnew
    · exact (hkeys.1 st' hold k hk).acquireAll_self
    · rw [List.mem_singleton.mp hnew, hL.fixed st _ (effects S buffer d.store) hst] at hk
      exact Locks.heldBy_acquireAll hk

/-- What a turn commits goes on the serial history. -/
theorem WentOn.serial (hO : ∀ st, O st → H st) (hV : ∀ st, V st → H st)
    (hserial : Serial S H s d) (hplan : WithinPlan O V here)
    (hkeys : HoldsKeys S L p d here) (h : WentOn S L p d here a d' there) : Serial S H s d' := by
  cases h with
  | drawOutside | raise | skip | begin | drawInside => exact hserial
  | autocommit env n hawaits havailable hexec =>
    exact hserial.autocommit (hO _ (hawaits.allows hplan).1) hexec
  | execute | rollback => exact ⟨hserial.planned, hserial.admitted, hserial.store⟩
  | commit buffer rest env n =>
    exact hserial.commit (fun st hst => hV st (hplan.1 st hst)) hkeys.2

/-- What one turn does to another process: nothing under the keys that one holds. -/
theorem WentOn.same (hL : Lawful S L V) (hpq : q ≠ p) (hplan : WithinPlan O V here)
    (hkeys : HoldsKeys S L p d here) (h : WentOn S L p d here a d' there) :
    SameUnder L q d d' := by
  have hrefl : ∀ k, L.agrees k d.store d.store := fun k => (hL.equivalence k).refl _
  intro k hk
  cases h with
  | drawOutside | raise | skip | begin | drawInside => exact ⟨hk, hrefl k⟩
  | autocommit env n hawaits havailable hexec =>
    exact ⟨hk, hL.frame _ _ _ k hexec (havailable.not_mem hk hpq)⟩
  | execute env n hawaits havailable hexec => exact ⟨hk.acquireAll havailable hpq, hrefl k⟩
  | rollback buffer body rest a e => exact ⟨hk.releaseAll hpq, hrefl k⟩
  | commit buffer rest env n =>
    have hfree : ∀ st ∈ buffer, k ∉ L.keys st d.store := by
      intro st hst hmem
      exact hk.ne (hkeys.1 st hst k hmem) hpq rfl
    exact ⟨hk.releaseAll hpq, hL.agrees_effects hplan.1 hfree⟩

/-- Any number of calls at once: the outline of the pool. -/
theorem orderly_valid (hL : Lawful S L V)
    (hprogram : ∀ i, (program i).Allows (outside i) fun body => body.Issues V fun _ => True) :
    (orderly S L V outside s).Valid (pool S L program) fun _ _ => True where
  symm _ _ h := h
  act c p a d' l' hc _ hact := by
    obtain ⟨hplan, hkeys⟩ := hc.own p
    rcases turn_cases hact with ⟨i, rest, -, rfl, rfl⟩ | ⟨hwent, hcall⟩
    · have hallowed : ∀ st, outside i st → allowed outside ⟨some i, .outside (program i)⟩ st :=
        fun st hst => ⟨i, rfl, hst⟩
      exact ⟨hc.inv, (hprogram i).mono hallowed, trivial⟩
    · have hsame : allowed outside l' = allowed outside (c.locals p) :=
        funext fun st => by rw [allowed, hcall, allowed]
      have hserial := hwent.serial (fun st ⟨i, _, hst⟩ => .inl ⟨i, hst⟩) (fun st => .inr)
        hc.inv hplan hkeys
      refine ⟨hserial, ?_, hwent.holdsKeys hL hplan hkeys⟩
      rw [hsame]
      exact hwent.plan hplan
  others c p a d' l' hc _ hact q hq := by
    refine ⟨⟨(hc.own q).1, ?_⟩, trivial⟩
    rcases turn_cases hact with ⟨i, rest, -, rfl, rfl⟩ | ⟨hwent, -⟩
    · exact (hc.own q).2
    · have hsame := hwent.same hL hq (hc.own p).1 (hc.own p).2
      exact (hc.own q).2.of_same hL (hc.own q).1 hsame
  env c e := e.elim

/-- The run rule: whatever the turns, the calls leave what their committed statements leave
one after the other, and none of these would then be refused. -/
theorem run_orderly (hL : Lawful S L V)
    (hprogram : ∀ i, (program i).Allows (outside i) fun body => body.Issues V fun _ => True)
    {c : Pool ρ σ τ χ ε ι} {moves : List (Move (Process.Turn ρ ι) Empty)}
    (hrun : (pool S L program).machine.run (idle s) moves = some c) :
    (orderly S L V outside s).Holds c :=
  (orderly_valid hL hprogram).run (orderly_idle s) hrun

/-- The turn that commits the transaction of a process. -/
def commits : Standing ρ σ τ ε → Process.Turn ρ ι → Bool
  | .inside _ (.ret _) _, .next _ _ => true
  | _, _ => false

/-- The statements that a turn puts into effect, unless they are refused. -/
def committing : Standing ρ σ τ ε → Process.Turn ρ ι → List τ
  | .outside (.call st _), .next _ _ | .outside (.attempt st _), .next _ _ => [st]
  | .inside buffer (.ret _) _, .next _ _ => buffer
  | _, _ => []

theorem committing_outside (rest : Script ρ σ τ ε) (a : Process.Turn ρ ι) :
    committing (.outside rest) a = [] ∨
      ∃ st next, AwaitsOutside rest st next ∧ committing (.outside rest) a = [st] := by
  cases rest with
  | done | throw | draw | transaction => exact .inl rfl
  | call st next =>
    cases a with
    | next env n => exact .inr ⟨st, next, .call st next, rfl⟩
    | start | fail => exact .inl rfl
  | attempt st next =>
    cases a with
    | next env n => exact .inr ⟨st, fun _ => next, .attempt st next, rfl⟩
    | start | fail => exact .inl rfl

theorem committing_inside (buffer : List τ) (body : Process ρ σ τ ε Unit) (rest : Script ρ σ τ ε)
    (a : Process.Turn ρ ι) : committing (.inside buffer body rest) a = [] ∨
      committing (.inside buffer body rest) a = buffer := by
  cases body with
  | ret u => cases a <;> simp [committing]
  | throw | draw | call | attempt => exact .inl rfl

/-- A turn changes the store by the statements it puts into effect, if it does. -/
theorem turn_store {l l' : Caller ρ σ τ ε ι} (hkeys : HoldsKeys S L p d l.standing)
    (h : turn S L program p d l a = some (d', l')) :
    d'.store = d.store ∨ Admitted S (committing l.standing a) d.store ∧
      d'.store = effects S (committing l.standing a) d.store := by
  rcases turn_cases h with ⟨j, rest, -, rfl, -⟩ | ⟨hwent, -⟩
  · exact .inl rfl
  · obtain ⟨call, here⟩ := l
    obtain ⟨call', there⟩ := l'
    cases hwent with
    | drawOutside | raise | skip | begin | drawInside | execute | rollback => exact .inl rfl
    | autocommit env n hawaits havailable hexec =>
      have hone := effect_of_exec hexec
      cases hawaits with
      | call st next => exact .inr ⟨⟨⟨_, hexec⟩, trivial⟩, hone.symm⟩
      | attempt st next => exact .inr ⟨⟨⟨_, hexec⟩, trivial⟩, hone.symm⟩
    | commit buffer rest env n => exact .inr ⟨hkeys.2, rfl⟩

/-- A turn that is not a commit leaves the store to what the call may run outside of its
transactions. -/
theorem turn_keeps {P : σ → σ → Prop} {l l' : Caller ρ σ τ ε ι}
    (hrefl : ∀ s, P s s) (hexec : ∀ st s s', O st → S.exec st s = .ok s' → P s s')
    (hplan : WithinPlan O V l.standing) (hnot : commits l.standing a = false)
    (h : turn S L program p d l a = some (d', l')) : P d.store d'.store := by
  rcases turn_cases h with ⟨i, rest, -, rfl, -⟩ | ⟨hwent, -⟩
  · exact hrefl _
  · obtain ⟨call, here⟩ := l
    obtain ⟨call', there⟩ := l'
    cases hwent with
    | drawOutside | raise | skip | begin | drawInside | execute | rollback => exact hrefl _
    | autocommit env n hawaits havailable hok => exact hexec _ _ _ (hawaits.allows hplan).1 hok
    | commit => cases hnot

end orderly
end ReadCommitted
end Foundation
