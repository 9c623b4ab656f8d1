import Mathlib.Data.List.Forall2
import Mathlib.Data.List.Induction
import OmniSupport.Foundation.History
import OmniSupport.Foundation.Interference

/-! What a statement rests on: the stores that the earlier statements of its call have run in,
in order, among those that the run has gone through since the call started. -/
namespace Foundation
variable {α β σ : Type}

/-- The conditions hold of some of the states, one after the other. -/
def InOrder (Ps : List (σ → Prop)) (states : List σ) : Prop :=
  ∃ chosen, chosen.Sublist states ∧ List.Forall₂ (fun P s => P s) Ps chosen

namespace InOrder
variable {Ps Qs : List (σ → Prop)} {P : σ → Prop} {states states' : List σ} {s : σ}

theorem nil (states : List σ) : InOrder [] states := ⟨[], List.nil_sublist _, .nil⟩

theorem mono (h : InOrder Ps states) (hle : states.Sublist states') : InOrder Ps states' := by
  obtain ⟨chosen, hchosen, hall⟩ := h
  exact ⟨chosen, hchosen.trans hle, hall⟩

theorem append (h : InOrder Ps states) (h' : InOrder Qs states') :
    InOrder (Ps ++ Qs) (states ++ states') := by
  obtain ⟨chosen, hchosen, hall⟩ := h
  obtain ⟨chosen', hchosen', hall'⟩ := h'
  exact ⟨chosen ++ chosen', hchosen.append hchosen', List.rel_append hall hall'⟩

theorem snoc (h : InOrder Ps states) (hs : P s) : InOrder (Ps ++ [P]) (states ++ [s]) :=
  h.append ⟨[s], List.Sublist.refl _, .cons hs .nil⟩

/-- Each of the conditions holds of one of the states. -/
theorem exists_of_mem (h : InOrder Ps states) (hP : P ∈ Ps) : ∃ s ∈ states, P s := by
  obtain ⟨chosen, hchosen, hall⟩ := h
  induction hall with
  | nil => cases hP
  | @cons Q s Ps chosen hQ _ ih =>
    rcases List.mem_cons.mp hP with rfl | hlater
    · exact ⟨s, hchosen.subset List.mem_cons_self, hQ⟩
    · exact ih hlater ((List.sublist_cons_self s chosen).trans hchosen)

end InOrder

namespace Process
variable {ρ τ κ ε ι ω : Type}

/-- Every statement that the program can come to is as `V` demands for the stores that the
statements before it have run in, and every result as `Q` does. The program goes on after
statements that succeed. -/
def Backed (S : Statements σ τ κ ε) (V : List σ → τ → Prop) (Q : List σ → α → Prop) :
    Process ρ σ τ ε α → List σ → Prop
  | .ret a, seen => Q seen a
  | .throw _, _ => True
  | .draw next, seen => ∀ env n, (next env n).Backed S V Q seen
  | .call st next, seen => V seen st ∧ ∀ s s', S.exec st s = .ok s' →
    (next s).Backed S V Q (seen ++ [s])
  | .attempt st next, seen => V seen st ∧ ∀ s, next.Backed S V Q (seen ++ [s])

section backed
variable {S : Statements σ τ κ ε} {V : List σ → τ → Prop} {Q : List σ → α → Prop} {R : List σ → β → Prop} {seen : List σ}

theorem Backed.bind {p : Process ρ σ τ ε α} {f : α → Process ρ σ τ ε β} (hp : p.Backed S V Q seen)
    (hf : ∀ seen' a, Q seen' a → (f a).Backed S V R seen') : (p >>= f).Backed S V R seen := by
  rw [bind_eq]
  induction p generalizing seen with
  | ret a => exact hf seen a hp
  | throw e => trivial
  | draw next ih => exact fun env n => ih env n (hp env n)
  | call st next ih => exact ⟨hp.1, fun s s' hok => ih s (hp.2 s s' hok)⟩
  | attempt st next ih => exact ⟨hp.1, fun s => ih (hp.2 s)⟩

theorem Backed.mono {p : Process ρ σ τ ε α} {Q' : List σ → α → Prop} (hp : p.Backed S V Q seen)
    (hQ : ∀ seen' a, Q seen' a → Q' seen' a) : p.Backed S V Q' seen := by
  induction p generalizing seen with
  | ret a => exact hQ seen a hp
  | throw e => trivial
  | draw next ih => exact fun env n => ih env n (hp env n)
  | call st next ih => exact ⟨hp.1, fun s s' hok => ih s (hp.2 s s' hok)⟩
  | attempt st next ih => exact ⟨hp.1, fun s => ih (hp.2 s)⟩

theorem Backed.next {p : Process ρ σ τ ε α} {f : α → Process ρ σ τ ε β}
    (hp : p.Backed S V (fun _ _ => True) seen) (hf : ∀ seen' a, (f a).Backed S V R seen') :
    (p >>= f).Backed S V R seen :=
  hp.bind fun seen' a _ => hf seen' a

theorem backed_pure {a : α} (h : Q seen a) : (pure a : Process ρ σ τ ε α).Backed S V Q seen := h

theorem backed_lift {x : Except ε α} (h : ∀ a, x = .ok a → Q seen a) :
    (lift x : Process ρ σ τ ε α).Backed S V Q seen := by
  cases x with
  | ok a => exact h a rfl
  | error e => trivial

theorem backed_lift_bind {x : Except ε α} {f : α → Process ρ σ τ ε β}
    (h : ∀ a, x = .ok a → (f a).Backed S V R seen) : (lift x >>= f).Backed S V R seen :=
  (backed_lift (Q := fun seen' a => seen' = seen ∧ x = .ok a) fun _ hx => ⟨rfl, hx⟩).bind
    fun _ a ⟨hseen, hx⟩ => hseen ▸ h a hx

/-- The program goes on with what the statement has seen. -/
theorem backed_statement_bind {st : τ} {g : σ → α} {f : α → Process ρ σ τ ε β} (hV : V seen st)
    (h : ∀ s, (f (g s)).Backed S V R (seen ++ [s])) : (statement st g >>= f).Backed S V R seen :=
  ⟨hV, fun s _ _ => h s⟩

theorem backed_executed_bind {st : τ} {f : Unit → Process ρ σ τ ε β} (hV : V seen st)
    (h : ∀ s s', S.exec st s = .ok s' → (f ()).Backed S V R (seen ++ [s])) :
    (execute st >>= f).Backed S V R seen :=
  ⟨hV, h⟩

theorem backed_drawn_bind {g : ρ → Nat → α} {f : α → Process ρ σ τ ε β}
    (h : ∀ env n, (f (g env n)).Backed S V R seen) : (drawn g >>= f).Backed S V R seen :=
  h

theorem backed_statement {st : τ} {f : σ → α} (hV : V seen st) (h : ∀ s, Q (seen ++ [s]) (f s)) :
    (statement st f : Process ρ σ τ ε α).Backed S V Q seen :=
  ⟨hV, fun s _ _ => h s⟩

end backed

section among
variable (S : Statements σ τ κ ε) (program : ι → Process ρ σ τ ε Unit) (write : ω → σ → σ)

/-- The stores in which the moves of a run take place. -/
def visited (c : Pool σ (Process ρ σ τ ε Unit)) (moves : List (Move (Turn ρ ι) ω)) : List σ :=
  ((among S program write).machine.history c moves).map fun step => step.before.shared

/-- The process has last started the call `i`, and the run has gone through these stores since. -/
structure LastCall (s : σ) (moves : List (Move (Turn ρ ι) ω)) (p : Nat) (i : ι)
    (states : List σ) : Prop where
  split : ∃ before during c, moves = before ++ .act p (.start i) :: during ∧
    (∀ j, .act p (.start j) ∉ during) ∧
    (among S program write).machine.run (idle s) before = some c ∧
    states = visited S program write c (.act p (.start i) :: during)

variable {S program write} {V : ι → List σ → τ → Prop} {Q : List σ → Unit → Prop} {s s' : σ}
  {c : Pool σ (Process ρ σ τ ε Unit)} {moves : List (Move (Turn ρ ι) ω)} {p : Nat} {i : ι}
  {states seen : List σ}

theorem LastCall.start (hrun : (among S program write).machine.run (idle s) moves = some c)
    {c' : Pool σ (Process ρ σ τ ε Unit)}
    (hstep : (among S program write).machine.step c (.act p (.start i)) = some c') :
    LastCall S program write s (moves ++ [.act p (.start i)]) p i [c.shared] := by
  refine ⟨moves, [], c, rfl, fun _ => List.not_mem_nil, hrun, ?_⟩
  rw [visited, Machine.history_cons _ hstep]
  rfl

/-- A move that starts no call of the process adds the store that it takes place in. -/
theorem LastCall.snoc (h : LastCall S program write s moves p i states)
    (hrun : (among S program write).machine.run (idle s) moves = some c)
    {move : Move (Turn ρ ι) ω} {c' : Pool σ (Process ρ σ τ ε Unit)}
    (hstep : (among S program write).machine.step c move = some c')
    (hmove : ∀ j, move ≠ .act p (.start j)) :
    LastCall S program write s (moves ++ [move]) p i (states ++ [c.shared]) := by
  obtain ⟨before, during, c₀, rfl, hnone, hbefore, rfl⟩ := h
  obtain ⟨c₁, hfirst, hlater⟩ := Machine.run_append _ |>.mp hrun
  obtain rfl : c₀ = c₁ := Option.some.inj (hbefore.symm.trans hfirst)
  refine ⟨before, during ++ [move], c₀, by simp, fun j hmem => ?_, hbefore, ?_⟩
  · rcases List.mem_append.mp hmem with hold | hnew
    · exact hnone j hold
    · exact hmove j (List.mem_singleton.mp hnew).symm
  · rw [visited, visited, ← List.cons_append, Machine.history_append _ hlater,
      Machine.history_cons _ hstep, List.map_append]
    rfl

/-- A turn that is no start runs a statement as demanded, or none. -/
theorem Backed.turn {V : List σ → τ → Prop} {l l' : Process ρ σ τ ε Unit} {a : Turn ρ ι}
    (h : l.Backed S V Q seen) (ha : ∀ j, a ≠ .start j)
    (hturn : turn S program s l a = some (s', l')) :
    l'.Backed S V Q seen ∨ l'.Backed S V Q (seen ++ [s]) := by
  cases l with
  | ret u | throw e =>
    cases a with
    | start j => exact absurd rfl (ha j)
    | next | fail => cases hturn
  | draw next =>
    cases a with
    | next env n =>
      cases hturn
      exact .inl (h env n)
    | start | fail => cases hturn
  | call st next =>
    cases a with
    | start j => cases hturn
    | fail =>
      cases hturn
      exact .inl trivial
    | next env n =>
      simp only [Process.turn] at hturn
      cases hok : S.exec st s with
      | ok t =>
        rw [hok] at hturn
        cases hturn
        exact .inr (h.2 s s' hok)
      | error e =>
        rw [hok] at hturn
        cases hturn
        exact .inl trivial
  | attempt st next =>
    cases a with
    | start j => cases hturn
    | fail =>
      cases hturn
      exact .inr (h.2 s)
    | next env n =>
      simp only [Process.turn] at hturn
      cases hok : S.exec st s with
      | ok t | error e =>
        rw [hok] at hturn
        cases hturn
        exact .inr (h.2 s)

/-- What is pending is as demanded. -/
theorem Backed.pending {V : List σ → τ → Prop} {l : Process ρ σ τ ε Unit} {a : Turn ρ ι} {st : τ}
    (h : l.Backed S V Q seen) (hst : pending l a = some st) : V seen st := by
  cases l with
  | ret | throw | draw => cases a <;> cases hst
  | call st' next | attempt st' next =>
    cases a with
    | next env n =>
      cases hst
      exact h.1
    | start | fail => cases hst

/-- In every run, what is left of a process's last call is backed by stores that the run has gone
through since. -/
theorem among_underway (hprogram : ∀ i, (program i).Backed S (V i) (fun _ _ => True) [])
    (hrun : (among S program write).machine.run (idle s) moves = some c) (p : Nat) :
    c.locals p = .ret () ∨ ∃ i states seen, LastCall S program write s moves p i states ∧
      seen.Sublist states ∧ (c.locals p).Backed S (V i) (fun _ _ => True) seen := by
  induction moves using List.reverseRecOn generalizing c with
  | nil =>
    cases hrun
    exact .inl rfl
  | append_singleton moves move ih =>
    obtain ⟨c₁, hbefore, hstep⟩ := Machine.run_snoc _ |>.mp hrun
    cases move with
    | env w =>
      obtain ⟨s₁, hw, rfl⟩ := (among S program write).step_env.mp hstep
      refine (ih hbefore).imp_right fun ⟨i, states, seen, hlast, hseen, hbacked⟩ => ?_
      exact ⟨i, _, seen, hlast.snoc hbefore hstep (fun j heq => by cases heq),
        hseen.trans (List.sublist_append_left _ _), hbacked⟩
    | act q a =>
      obtain ⟨s₁, l, hact, rfl⟩ := (among S program write).step_act.mp hstep
      by_cases hq : p = q
      · subst hq
        rw [Pool.put_locals_self]
        cases a with
        | start i =>
          have hl : l = program i := by
            simp only [among] at hact
            cases hlocal : c₁.locals p with
            | ret | throw =>
              rw [hlocal] at hact
              cases hact
              rfl
            | draw | call | attempt =>
              rw [hlocal] at hact
              cases hact
          rw [hl]
          exact .inr ⟨i, _, [], LastCall.start hbefore hstep, List.nil_sublist _, hprogram i⟩
        | next env n | fail =>
          rcases ih hbefore with hidle | ⟨i, states, seen, hlast, hseen, hbacked⟩
          · simp only [among, hidle] at hact
            cases hact
          · have hnext := hlast.snoc hbefore hstep fun j heq => by cases heq
            rcases hbacked.turn (fun j heq => by cases heq) hact with hsame | hmore
            · exact .inr ⟨i, _, seen, hnext, hseen.trans (List.sublist_append_left _ _), hsame⟩
            · exact .inr ⟨i, _, _, hnext, hseen.append (List.Sublist.refl _), hmore⟩
      · rw [c₁.put_locals_of_ne s₁ l hq]
        refine (ih hbefore).imp_right fun ⟨i, states, seen, hlast, hseen, hbacked⟩ => ?_
        refine ⟨i, _, seen, hlast.snoc hbefore hstep fun j heq => ?_,
          hseen.trans (List.sublist_append_left _ _), hbacked⟩
        cases heq
        exact hq rfl

/-- A turn changes the store by the statement that is pending alone. -/
theorem turn_runs {l l' : Process ρ σ τ ε Unit} {a : Turn ρ ι}
    (hturn : turn S program s l a = some (s', l')) :
    s' = s ∨ ∃ st, pending l a = some st ∧ S.exec st s = .ok s' := by
  cases l with
  | ret | throw | draw =>
    cases a <;> cases hturn
    exact .inl rfl
  | call st next | attempt st next =>
    cases a with
    | start j => cases hturn
    | fail =>
      cases hturn
      exact .inl rfl
    | next env n =>
      simp only [Process.turn] at hturn
      cases hok : S.exec st s with
      | ok t =>
        rw [hok] at hturn
        cases hturn
        exact .inr ⟨st, rfl, hok⟩
      | error e =>
        rw [hok] at hturn
        cases hturn
        exact .inl rfl

/-- The statement by which a process has brought `P` about, and what it rests on. -/
structure Cause (S : Statements σ τ κ ε) (program : ι → Process ρ σ τ ε Unit) (write : ω → σ → σ)
    (V : ι → List σ → τ → Prop) (P : σ → Prop) (s : σ) (moves : List (Move (Turn ρ ι) ω))
    (before : List (Move (Turn ρ ι) ω)) (p : Nat) (i : ι) (states : List σ) (st : τ)
    (s₁ s₂ : σ) : Prop where
  run : ∃ a later c, moves = before ++ .act p a :: later ∧
    (among S program write).machine.run (idle s) before = some c ∧ c.shared = s₁
  exec : S.exec st s₁ = .ok s₂
  absent : ¬ P s₁
  present : P s₂
  lastCall : LastCall S program write s before p i states
  rests : ∃ seen, seen.Sublist states ∧ V i seen st

/-- What the writes of others never bring about was so at first, or a call has brought it about by
a statement that rests on stores of the run since the call started. -/
theorem among_cause {P : σ → Prop}
    (hprogram : ∀ i, (program i).Backed S (V i) (fun _ _ => True) [])
    (hwrite : ∀ w s, P (write w s) → P s)
    (hrun : (among S program write).machine.run (idle s) moves = some c) (h : P c.shared) :
    P s ∨ ∃ before p i states st s₁ s₂,
      Cause S program write V P s moves before p i states st s₁ s₂ := by
  induction moves using List.reverseRecOn generalizing c with
  | nil =>
    cases hrun
    exact .inl h
  | append_singleton moves move ih =>
    obtain ⟨c₁, hbefore, hstep⟩ := Machine.run_snoc _ |>.mp hrun
    by_cases hP : P c₁.shared
    · refine (ih hbefore hP).imp_right fun ⟨before, p, i, states, st, s₁, s₂, hcause⟩ => ?_
      obtain ⟨a, later, c₂, rfl, hrun₂, hshared⟩ := hcause.run
      exact ⟨before, p, i, states, st, s₁, s₂,
        { hcause with run := ⟨a, later ++ [move], c₂, by simp, hrun₂, hshared⟩ }⟩
    · cases move with
      | env w =>
        obtain ⟨s₁, hw, rfl⟩ := (among S program write).step_env.mp hstep
        cases hw
        exact absurd (hwrite w _ h) hP
      | act p a =>
        obtain ⟨s₂, l, hact, rfl⟩ := (among S program write).step_act.mp hstep
        rcases turn_runs hact with rfl | ⟨st, hpending, hexec⟩
        · exact absurd h hP
        · rcases among_underway hprogram hbefore p with hidle | ⟨i, states, seen, hlast, hseen, hV⟩
          · rw [hidle] at hpending
            cases a <;> cases hpending
          · exact .inr ⟨moves, p, i, states, st, c₁.shared, s₂,
              ⟨a, [], c₁, rfl, hbefore, rfl⟩, hexec, hP, h, hlast, seen, hseen,
              hV.pending hpending⟩

/-- A call that is under way after some of the moves, and the stores since it started. -/
def UnderWay (S : Statements σ τ κ ε) (program : ι → Process ρ σ τ ε Unit) (write : ω → σ → σ)
    (s : σ) (moves : List (Move (Turn ρ ι) ω)) (Q : ι → List σ → Prop) : Prop :=
  ∃ before later p i states, moves = before ++ later ∧
    LastCall S program write s before p i states ∧ Q i states

theorem UnderWay.mono {Q Q' : ι → List σ → Prop} (h : UnderWay S program write s moves Q)
    (hQ : ∀ i states, Q i states → Q' i states) : UnderWay S program write s moves Q' := by
  obtain ⟨before, later, p, i, states, hmoves, hlast, hheld⟩ := h
  exact ⟨before, later, p, i, states, hmoves, hlast, hQ i states hheld⟩

theorem Cause.underWay {P : σ → Prop} {before : List (Move (Turn ρ ι) ω)} {st : τ} {s₁ s₂ : σ}
    (h : Cause S program write V P s moves before p i states st s₁ s₂) {Q : ι → List σ → Prop}
    (hQ : Q i states) : UnderWay S program write s moves Q := by
  obtain ⟨a, later, c, hmoves, -, -⟩ := h.run
  exact ⟨before, _, p, i, states, hmoves, h.lastCall, hQ⟩

/-- What is on record and was not at first comes from a call, and rests on what it has seen. -/
theorem among_recorded {log : σ → List α} {record : α → τ} {x : α}
    (hprogram : ∀ i, (program i).Backed S (V i) (fun _ _ => True) [])
    (hexec : ∀ st s s', S.exec st s = .ok s' → ∀ x ∈ log s', x ∈ log s ∨ st = record x)
    (hwrite : ∀ w s, log (write w s) ⊆ log s)
    (hrun : (among S program write).machine.run (idle s) moves = some c) (hx : x ∈ log c.shared)
    (hnew : x ∉ log s) : UnderWay S program write s moves fun i states =>
      ∃ seen, seen.Sublist states ∧ V i seen (record x) := by
  rcases among_cause (P := fun s => x ∈ log s) hprogram (fun w s h => hwrite w s h) hrun hx with
    hold | ⟨before, p, i, states, st, s₁, s₂, hcause⟩
  · exact absurd hold hnew
  · obtain ⟨seen, hseen, hV⟩ := hcause.rests
    rw [(hexec st s₁ s₂ hcause.exec x hcause.present).resolve_left hcause.absent] at hV
    exact hcause.underWay ⟨seen, hseen, hV⟩

/-- The stores since a call started are stores of the run. -/
theorem LastCall.visited (h : LastCall S program write s moves p i states)
    (hrun : (among S program write).machine.run (idle s) moves = some c) {t : σ}
    (ht : t ∈ states) : ∃ first rest c', moves = first ++ rest ∧
      (among S program write).machine.run (idle s) first = some c' ∧ c'.shared = t := by
  obtain ⟨before, during, c₀, rfl, -, hbefore, rfl⟩ := h
  obtain ⟨c₁, hfirst, hlater⟩ := Machine.run_append _ |>.mp hrun
  obtain rfl : c₀ = c₁ := Option.some.inj (hbefore.symm.trans hfirst)
  obtain ⟨step, hstep, rfl⟩ := List.mem_map.mp ht
  obtain ⟨js, ks, heq, hjs, -, -⟩ := Machine.split_of_mem_history _ hlater hstep
  exact ⟨before ++ js, step.label :: ks, step.before, by rw [heq, List.append_assoc],
    Machine.run_append _ |>.mpr ⟨c₀, hbefore, hjs⟩, rfl⟩

theorem Cause.extend {P : σ → Prop} {before : List (Move (Turn ρ ι) ω)} {st : τ} {s₁ s₂ : σ}
    (h : Cause S program write V P s moves before p i states st s₁ s₂)
    (more : List (Move (Turn ρ ι) ω)) :
    Cause S program write V P s (moves ++ more) before p i states st s₁ s₂ := by
  obtain ⟨a, later, c, rfl, hrun, hshared⟩ := h.run
  exact { h with run := ⟨a, later ++ more, c, by simp, hrun, hshared⟩ }

/-- What calls bring about only where they have seen it goes back to a call that has it from
elsewhere. -/
theorem among_origin {P : σ → Prop} {Q : ι → List σ → Prop}
    (hprogram : ∀ i, (program i).Backed S (V i) (fun _ _ => True) [])
    (hwrite : ∀ w s, P (write w s) → P s)
    (hexec : ∀ i seen st s₁ s₂, V i seen st → S.exec st s₁ = .ok s₂ → ¬ P s₁ → P s₂ →
      Q i seen ∨ ∃ t ∈ seen, P t)
    (hrun : (among S program write).machine.run (idle s) moves = some c) (h : P c.shared) :
    P s ∨ ∃ before p i states st s₁ s₂,
      Cause S program write V P s moves before p i states st s₁ s₂ ∧
        ∃ seen, seen.Sublist states ∧ Q i seen := by
  -- The call's own store is one of an earlier run.
  induction hlength : moves.length using Nat.strongRecOn generalizing moves c with
  | ind n ih =>
    rcases among_cause hprogram hwrite hrun h with
      hold | ⟨before, p, i, states, st, s₁, s₂, hcause⟩
    · exact .inl hold
    · obtain ⟨seen, hseen, hV⟩ := hcause.rests
      rcases hexec i seen st s₁ s₂ hV hcause.exec hcause.absent hcause.present with
        hsource | ⟨t, ht, hPt⟩
      · exact .inr ⟨before, p, i, states, st, s₁, s₂, hcause, seen, hseen, hsource⟩
      · obtain ⟨a, later, c₁, hmoves, hbefore, -⟩ := hcause.run
        obtain ⟨first, rest, c₂, hsplit, hfirst, rfl⟩ :=
          hcause.lastCall.visited hbefore (hseen.subset ht)
        have hshorter : first.length < n := by
          rw [← hlength, hmoves, hsplit]
          simp only [List.length_append, List.length_cons]
          omega
        refine (ih _ hshorter hfirst hPt rfl).imp_right ?_
        rintro ⟨before', p', i', states', st', s₁', s₂', hearlier, hQ⟩
        refine ⟨before', p', i', states', st', s₁', s₂', ?_, hQ⟩
        rw [hmoves, hsplit, List.append_assoc]
        exact hearlier.extend _

end among
end Process
end Foundation
