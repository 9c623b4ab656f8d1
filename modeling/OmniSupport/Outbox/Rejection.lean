import OmniSupport.Outbox.RowTransitions

/-! What a handler that rejects does to its delivery: `publish` rejects, and the row is not
marked processed at the end of it. -/
namespace OmniSupport.Outbox.OutboxProcessor
open Foundation

variable {Payload : Type} {config : OutboxConfig}

/-- The steps with which a worker leaves a delivery. -/
def endsDelivery : OutboxStep → Bool
  | .mark | .markThrows _ | .crash => true
  | _ => false

/-- Up to the end of the delivery `publish` can only reject, and the row can only be
marked failed. -/
def RejectsDelivery (config : OutboxConfig) (w : WorkerId) (record : OutboxEvent Payload)
    (c : Pool (OutboxStore Payload) (Task Payload)) : Prop :=
  ∀ is c', (machine config).run c is = some c' →
    (∀ step, .act w step ∈ is → endsDelivery step = false) →
    (∀ task, settle (c'.locals w) = some task → ∃ error rest, task = .failing record error rest) ∧
      ∀ s task, mark config w c'.shared (c'.locals w) = some (s, task) →
        ∃ error, s = c'.shared.markFailed record w error

/-- The handler at `index` has rejected, or `publish` has. -/
def Rejecting (record : OutboxEvent Payload) (index : Nat) : Task Payload → Prop
  | .delivering r runs _ => r = record ∧ runs[index]? = some (.settled false)
  | .failing r _ _ => r = record
  | _ => False

section
variable {record : OutboxEvent Payload} {index : Nat} {task task' : Task Payload}
  {s s' : OutboxStore Payload} {w : WorkerId}

theorem Rejecting.settle (h : Rejecting record index task) (hs : settle task = some task') :
    ∃ error rest, task' = .failing record error rest := by
  cases task with
  | delivering r runs rest =>
    obtain ⟨rfl, hrun⟩ := h
    have hfail : failures runs ≠ 0 := by
      have hm : HandlerRun.settled false ∈ runs := List.mem_of_getElem? hrun
      have hpos : 0 < failures runs := List.countP_pos_iff.mpr ⟨_, hm, by simp⟩
      omega
    simp only [OutboxProcessor.settle, hfail, if_false] at hs
    split at hs <;> cases hs
    exact ⟨_, rest, rfl⟩
  | _ => cases hs

theorem Rejecting.mark (h : Rejecting record index task)
    (hm : mark config w s task = some (s', task')) :
    ∃ error, s' = s.markFailed record w error := by
  cases task with
  | failing r error rest =>
    cases h
    cases hm
    exact ⟨error, rfl⟩
  | completing r rest => exact h.elim
  | _ => cases hm

/-- The other handlers still settle, but the one that rejected stays as it is. -/
theorem Rejecting.handler {j : Nat} {step : HandlerStep} (h : Rejecting record index task)
    (hs : stepHandler s j step task = some (s', task')) : Rejecting record index task' := by
  obtain ⟨r, runs, rest, run, run', rfl, hrun, hone, rfl⟩ := stepHandler_eq_some hs
  obtain ⟨hr, hindex⟩ := h
  have hj : j ≠ index := by
    rintro rfl
    rw [hrun, Option.some.injEq] at hindex
    subst hindex
    cases step <;> cases hone
  exact ⟨hr, by rw [List.getElem?_set_ne hj]; exact hindex⟩

theorem Rejecting.act {step : OutboxStep} (h : Rejecting record index task)
    (hend : endsDelivery step = false) (ha : act config w s task step = some (s', task')) :
    Rejecting record index task' := by
  cases step with
  | handler j step => exact h.handler ha
  | settle =>
    obtain ⟨t, ht, he⟩ := Option.map_eq_some_iff.mp ha
    cases he
    obtain ⟨error, rest, rfl⟩ := h.settle ht
    rfl
  | mark | markThrows _ | crash => cases hend
  | _ =>
    cases task with
    | delivering | failing => cases ha
    | _ => exact h.elim

theorem Rejecting.run {c c' : Pool (OutboxStore Payload) (Task Payload)}
    {is : List (Move OutboxStep (OutboxMove Payload))} (h : Rejecting record index (c.locals w))
    (hend : ∀ step, .act w step ∈ is → endsDelivery step = false)
    (hr : (machine config).run c is = some c') : Rejecting record index (c'.locals w) := by
  induction is generalizing c with
  | nil =>
    cases hr
    exact h
  | cons i is ih =>
    obtain ⟨c₁, hstep, hrest⟩ := Machine.run_cons _ |>.mp hr
    refine ih ?_ (fun step hm => hend step (List.mem_cons_of_mem _ hm)) hrest
    cases i with
    | act v step =>
      obtain ⟨s, task, ha, rfl⟩ := (program config).step_act.mp hstep
      by_cases hv : w = v
      · subst v
        rw [Pool.put_locals_self]
        exact h.act (hend step List.mem_cons_self) ha
      · rw [c.put_locals_of_ne s task hv]
        exact h
    | env e =>
      obtain ⟨s, -, rfl⟩ := (program config).step_env.mp hstep
      exact h

end

/-- A handler that throws makes its delivery reject. -/
theorem throw_rejectsDelivery {w : WorkerId} {record : OutboxEvent Payload}
    {runs : List HandlerRun} {rest : List (OutboxEvent Payload)} {index : Nat}
    {c c' : Pool (OutboxStore Payload) (Task Payload)}
    (htask : c.locals w = .delivering record runs rest)
    (hrun : runs[index]? = some .running)
    (hs : (machine config).step c (.act w (.handler index .throw)) = some c') :
    RejectsDelivery config w record c' := by
  obtain ⟨s, task, ha, rfl⟩ := (program config).step_act.mp hs
  have hrej : Rejecting record index task := by
    obtain ⟨r, runs', rest', run, run', he, hget, hone, rfl⟩ := stepHandler_eq_some ha
    rw [htask, Task.delivering.injEq] at he
    obtain ⟨rfl, rfl, rfl⟩ := he
    rw [hrun, Option.some.injEq] at hget
    subst hget
    cases hone
    exact ⟨rfl, List.getElem?_set_self (List.getElem?_eq_some_iff.mp hrun).1⟩
  intro is c₂ hr hend
  have hlast := Rejecting.run (w := w) (by rw [Pool.put_locals_self]; exact hrej) hend hr
  exact ⟨fun task ht => hlast.settle ht, fun s task hm => hlast.mark hm⟩

end OmniSupport.Outbox.OutboxProcessor
