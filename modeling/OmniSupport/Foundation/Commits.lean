import OmniSupport.Foundation.Ends

/-! Programs with one transaction, of which the calls up to its commit decide whether it takes
effect, and what follows leaves a part of the store alone. -/
namespace Foundation.Effect
variable {ρ σ κ ε α β τ : Type}

/-- The run commits nothing, and a part of the store is as it was. -/
structure FramesRun (part : σ → τ) (w w' : World σ κ) : Prop where
  outside : w'.working = none
  commits : w'.commits = w.commits
  part : part w'.committed = part w.committed

def Frames (part : σ → τ) (e : Effect ρ σ κ ε α) : Prop :=
  ∀ env faults w, w.working = none → FramesRun part w (e.run env faults w).2

section frames
variable {part : σ → τ} {e : Effect ρ σ κ ε α} {f : α → Effect ρ σ κ ε β}

theorem FramesRun.trans {w w' w'' : World σ κ} (h : FramesRun part w w')
    (h' : FramesRun part w' w'') : FramesRun part w w'' :=
  ⟨h'.outside, h'.commits.trans h.commits, h'.part.trans h.part⟩

theorem frames_pure (a : α) : Frames part (pure a : Effect ρ σ κ ε α) :=
  fun _ _ _ hw => ⟨hw, rfl, rfl⟩

theorem frames_draw (f : ρ → Nat → α) : Frames part (draw f : Effect ρ σ κ ε α) :=
  fun _ _ _ hw => ⟨hw, rfl, rfl⟩

theorem frames_call {c : Client} {k : κ} {err : ε} {f : σ → Except ε (α × σ)}
    (h : ∀ s a s', f s = .ok (a, s') → part s' = part s) :
    Frames part (call c k err f : Effect ρ σ κ ε α) := by
  intro env faults w hw
  have hview := view_outside hw c
  simp only [call, hview]
  cases faults w.calls.length with
  | throws | crash => exact ⟨hw, rfl, rfl⟩
  | none =>
    cases hf : f w.committed with
    | error x => exact ⟨hw, rfl, rfl⟩
    | ok r =>
      have hlog : (w.log k .none).working = none := hw
      have hwrite := write_outside hlog c r.2
      simp only [hwrite]
      exact ⟨hw, rfl, h _ _ _ hf⟩

theorem Frames.bind (he : Frames part e) (hf : ∀ a, Frames part (f a)) :
    Frames part (e >>= f) := by
  intro env faults w hw
  have hfirst := he env faults w hw
  cases hr : e.run env faults w with
  | mk outcome w' =>
    rw [hr] at hfirst
    cases outcome with
    | ok a =>
      rw [bind_run_ok hr]
      exact hfirst.trans (hf a env faults w' hfirst.outside)
    | error x =>
      rw [bind_run_error hr]
      exact hfirst
    | crashed =>
      rw [bind_run_crashed hr]
      exact hfirst

/-- A failure that is only logged outside of a transaction. -/
theorem Frames.rethrow {e : Effect ρ σ κ ε Unit} (he : Frames part e) :
    Frames part (rethrowInTransaction e) := by
  intro env faults w hw
  have hrun := he env faults w hw
  simp only [rethrowInTransaction, hw, Effect.swallow]
  cases hr : e.run env faults w with
  | mk outcome w' =>
    rw [hr] at hrun
    cases outcome <;> exact hrun

end frames

/-- From draw `d` and store `s`, whatever the schedule: the program commits once and leaves the
store as `Q` says, or commits nothing and leaves that part of the store alone. -/
def Saves (part : σ → τ) (env : ρ) (d : Nat) (s : σ) (Q : σ → Prop) (e : Effect ρ σ κ ε α) : Prop :=
  ∀ faults w, w.working = none → w.draws = d → w.committed = s →
    ((e.run env faults w).2.commits = w.commits ∧
      part (e.run env faults w).2.committed = part s) ∨
    ((e.run env faults w).2.commits = w.commits + 1 ∧ Q (e.run env faults w).2.committed)

section saves
variable {part : σ → τ} {env : ρ} {d : Nat} {s : σ} {Q : σ → Prop}

theorem saves_draw_bind {f : ρ → Nat → α} {g : α → Effect ρ σ κ ε β}
    (h : Saves part env (d + 1) s Q (g (f env d))) : Saves part env d s Q (draw f >>= g) := by
  rintro faults w hw rfl hs
  exact h faults { w with draws := w.draws + 1 } hw rfl hs

theorem saves_lift_bind {x : Except ε α} {g : α → Effect ρ σ κ ε β}
    (h : ∀ a, x = .ok a → Saves part env d s Q (g a)) : Saves part env d s Q (lift x >>= g) := by
  intro faults w hw hd hs
  cases x with
  | ok a => exact h a rfl faults w hw hd hs
  | error e => exact .inl ⟨rfl, congrArg part hs⟩

theorem saves_read_bind {c : Client} {k : κ} {err : ε} {f : σ → α} {g : α → Effect ρ σ κ ε β}
    (h : Saves part env d s Q (g (f s))) : Saves part env d s Q (read c k err f >>= g) := by
  rintro faults w hw hd rfl
  have hview := view_outside hw c
  cases hfault : faults w.calls.length with
  | none =>
    have hr : (read c k err f : Effect ρ σ κ ε α).run env faults w =
        (.ok (f w.committed), w.log k .none) := by
      simp only [read, hfault, hview]
    rw [bind_run_ok hr]
    exact h faults (w.log k .none) hw hd rfl
  | throws =>
    have hr : (read c k err f : Effect ρ σ κ ε α).run env faults w =
        (.error err, w.log k .throws) := by
      simp only [read, hfault]
    rw [bind_run_error hr]
    exact .inl ⟨rfl, rfl⟩
  | crash =>
    have hr : (read c k err f : Effect ρ σ κ ε α).run env faults w = (.crashed, w.log k .crash) := by
      simp only [read, hfault]
    rw [bind_run_crashed hr]
    exact .inl ⟨rfl, rfl⟩

theorem saves_transaction_bind {body : Effect ρ σ κ ε α} {k : κ} {err : ε}
    {f : α → Effect ρ σ κ ε β} (hb : Inside body) (hf : ∀ a, Frames part (f a))
    (h : ∀ a d' s' t, Yields env d s body a d' s' → part t = part s' → Q t) :
    Saves part env d s Q (transaction k err body >>= f) := by
  rintro faults w hw rfl rfl
  rcases transaction_cases hb k err env faults hw with
    ⟨a, w₁, s', hbody, hs', hcommits, -, hr⟩ | ⟨hsame, hcommits, hfailed, -⟩
  · have hyields : Yields env w.draws w.committed body a w₁.draws s' :=
      ⟨faults, { w with working := some w.committed }, w₁, rfl, rfl, hbody, hs', rfl⟩
    obtain ⟨-, hframe, hpart⟩ := hf a env faults
      { w₁.log k .none with committed := s', working := none, commits := w₁.commits + 1 } rfl
    rw [bind_run_ok hr]
    refine .inr ⟨?_, h a _ s' _ hyields hpart⟩
    rw [hframe, hcommits]
  · obtain ⟨-, hworld⟩ := bind_run_failed hfailed (f := f)
    rw [hworld]
    exact .inl ⟨hcommits, congrArg part hsame⟩

end saves

/-- From call `n`, draw `d` and store `s`: the program commits once, and the store is as `Q`
says, when the schedule lets the calls up to the commit pass. Otherwise it commits nothing, and
that part of the store is as it was. -/
def Commits (part : σ → τ) (faults : Nat → Fault) (env : ρ) (n d : Nat) (s : σ)
    (stages : List Stage) (e : Effect ρ σ κ ε α) (Q : σ → Prop) : Prop :=
  ∀ w, At false n d s w →
    (¬ Passes faults n stages ∧ (e.run env faults w).2.commits = w.commits ∧
      part (e.run env faults w).2.committed = part s) ∨
    (Passes faults n stages ∧ (e.run env faults w).2.commits = w.commits + 1 ∧
      Q (e.run env faults w).2.committed)

section commits
variable {part : σ → τ} {faults : Nat → Fault} {env : ρ} {n d : Nat} {s : σ}
  {stages : List Stage} {Q : σ → Prop}

theorem commits_lift_bind {x : Except ε α} {a : α} {g : α → Effect ρ σ κ ε β} (hx : x = .ok a)
    (h : Commits part faults env n d s stages (g a) Q) :
    Commits part faults env n d s stages (lift x >>= g) Q := by
  subst hx
  exact h

theorem commits_read_bind {c : Client} {k : κ} {err : ε} {f : σ → α} {g : α → Effect ρ σ κ ε β}
    (h : Commits part faults env (n + 1) d s stages (g (f s)) Q) :
    Commits part faults env n d s (.strict :: stages) (read c k err f >>= g) Q := by
  intro w hw
  have hview := hw.view (c := c) (by simp)
  obtain ⟨rfl, -, -, hcommitted⟩ := id hw
  cases hfault : faults w.calls.length with
  | none =>
    have hr : (read c k err f : Effect ρ σ κ ε α).run env faults w = (.ok (f s), w.log k .none) := by
      simp only [read, hfault, hview]
    have hstage : Stage.strict.passes (faults w.calls.length) = true := by
      rw [hfault]
      rfl
    rw [bind_run_ok hr]
    rcases h _ hw.log with ⟨hno, hcommits, hpart⟩ | ⟨hyes, hcommits, hq⟩
    · exact .inl ⟨fun hpass => hno hpass.2, hcommits, hpart⟩
    · exact .inr ⟨⟨hstage, hyes⟩, hcommits, hq⟩
  | throws =>
    have hr : (read c k err f : Effect ρ σ κ ε α).run env faults w =
        (.error err, w.log k .throws) := by
      simp only [read, hfault]
    rw [bind_run_error hr]
    refine .inl ⟨fun hpass => ?_, rfl, congrArg part hcommitted⟩
    have hstage := hpass.1
    rw [hfault] at hstage
    cases hstage
  | crash =>
    have hr : (read c k err f : Effect ρ σ κ ε α).run env faults w = (.crashed, w.log k .crash) := by
      simp only [read, hfault]
    rw [bind_run_crashed hr]
    refine .inl ⟨fun hpass => ?_, rfl, congrArg part hcommitted⟩
    have hstage := hpass.1
    rw [hfault] at hstage
    cases hstage

/-- The transaction, and calls that leave the part alone. -/
theorem commits_transaction_bind {body : Effect ρ σ κ ε α} {k : κ} {err : ε}
    {f : α → Effect ρ σ κ ε β} {R : α → Nat → σ → Prop} (hb : Inside body)
    (h : Sequence part true faults env n d s stages body R) (hf : ∀ a, Frames part (f a))
    (hQ : ∀ a d' s' t, R a d' s' → part t = part s' → Q t) :
    Commits part faults env n d s (stages ++ [.strict]) (transaction k err body >>= f) Q := by
  intro w hw
  obtain ⟨hpass, hstop⟩ := sequence_transaction hb h w hw
  obtain ⟨-, -, hworking, hcommitted⟩ := id hw
  rcases transaction_cases hb k err env faults hworking with
    ⟨a, w₁, s', -, -, hcommits, -, hr⟩ | ⟨hsame, hcommits, hfailed, -⟩
  · have hpassed : Passes faults n (stages ++ [.strict]) := by
      by_contra hno
      have hfailed := (hstop hno).1
      rw [hr] at hfailed
      cases hfailed
    obtain ⟨a', d', s'', w', hr', hw', hR⟩ := hpass hpassed
    have hboth := hr'.symm.trans hr
    have hw'' := hw'.2.2
    rw [bind_run_ok hr']
    obtain ⟨-, hframe, hpart⟩ := hf a' env faults w' hw''.1
    refine .inr ⟨hpassed, ?_, hQ a' d' s'' _ hR (hpart.trans (congrArg part hw''.2))⟩
    have hend : w'.commits = w₁.commits + 1 := congrArg (fun r => r.2.commits) hboth
    rw [hframe, hend, hcommits]
  · obtain ⟨-, hworld⟩ := bind_run_failed hfailed (f := f)
    rw [hworld]
    refine .inl ⟨fun hpassed => ?_, hcommits, congrArg part (hsame.trans hcommitted)⟩
    obtain ⟨a', d', s'', w', hr', -⟩ := hpass hpassed
    rw [hr'] at hfailed
    cases hfailed

end commits
end Foundation.Effect
