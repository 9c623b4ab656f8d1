import OmniSupport.Outbox.OutboxProcessor

/-! What one step of the system can do to one stored row, said once: the transitions of a
row, and that every step moves every row along them. -/
namespace OmniSupport.Outbox
open Foundation

variable {Payload : Type}

namespace OutboxEvent

/-- The columns no statement ever writes. -/
structure SameEvent (r r' : OutboxEvent Payload) : Prop where
  id : r'.id = r.id
  eventId : r'.eventId = r.eventId
  eventType : r'.eventType = r.eventType

theorem SameEvent.refl (r : OutboxEvent Payload) : r.SameEvent r := ⟨rfl, rfl, rfl⟩

/-- The statuses of rows that `purge` and `deleteProcessed` may delete. -/
def finished (r : OutboxEvent Payload) : Prop :=
  r.status = .processed ∨ r.status = .cancelled

/-- `lockedBy` and `lockedAt` are set exactly while the row is being processed. -/
structure Locked (r : OutboxEvent Payload) : Prop where
  lockedBy : r.lockedBy.isSome ↔ r.status = .processing
  lockedAt : r.lockedAt.isSome ↔ r.status = .processing

end OutboxEvent

namespace Task

/-- The row whose outcome a worker is about to write. -/
def marks : Task Payload → Option Uuid
  | .completing record _ | .failing record _ _ => some record.id
  | _ => none

end Task

/-- The transitions of a row: the move that makes it and the condition it checks. -/
inductive Transition (config : OutboxConfig) (c : Pool (OutboxStore Payload) (Task Payload)) :
    Move OutboxStep (OutboxMove Payload) → OutboxEvent Payload → OutboxEvent Payload → Prop where
  | same (i r) : Transition config c i r r
  | deadLettered (v r) (h : r.leaseExpired c.shared.now config.leaseMs)
      (ha : r.maxAttempts ≤ r.attempts) :
      Transition config c (.act v .poll) r (r.deadLetterExpired c.shared.now)
  | claimed (v picked r) (hp : r.id ∈ picked) (h : r.claimable c.shared.now config.leaseMs) :
      Transition config c (.act v (.claim picked)) r (r.claim c.shared.now v)
  | processed (w record rest r) (hl : c.locals w = .completing record rest)
      (h : r.heldBy record.id w) : Transition config c (.act w .mark) r (r.processed c.shared.now)
  | failed (w record error rest r) (hl : c.locals w = .failing record error rest)
      (h : r.heldBy record.id w) :
      Transition config c (.act w .mark) r (.failed c.shared.now record error r)
  | retried (v r maxAttempts) (h : r.retryable) :
      Transition config c (.act v .apply) r (r.retry c.shared.now maxAttempts)
  | cancelled (v r) (h : r.cancellable) :
      Transition config c (.act v .apply) r (r.cancel c.shared.now)

namespace Transition
variable {config : OutboxConfig} {c : Pool (OutboxStore Payload) (Task Payload)}
  {i : Move OutboxStep (OutboxMove Payload)} {r r' : OutboxEvent Payload}

theorem sameEvent (h : Transition config c i r r') : r.SameEvent r' := by
  cases h <;> exact ⟨rfl, rfl, rfl⟩

theorem locked (h : Transition config c i r r') (hl : r.Locked) : r'.Locked := by
  cases h with
  | same => exact hl
  | deadLettered => constructor <;> simp [OutboxEvent.deadLetterExpired]
  | claimed => constructor <;> simp [OutboxEvent.claim]
  | processed => constructor <;> simp [OutboxEvent.processed]
  | failed w record error rest r =>
    by_cases hd : record.maxAttempts ≤ record.attempts <;>
      constructor <;> simp [OutboxEvent.failed, hd]
  | retried v r maxAttempts hr =>
    rcases hr with hr | hr <;>
      exact ⟨by simpa [OutboxEvent.retry, hr] using hl.lockedBy,
        by simpa [OutboxEvent.retry, hr] using hl.lockedAt⟩
  | cancelled => constructor <;> simp [OutboxEvent.cancel]

/-- A finished row keeps its status. -/
theorem finished (h : Transition config c i r r') (hf : r.finished) : r'.status = r.status := by
  cases h with
  | same => rfl
  | deadLettered v r h =>
    rcases hf with hf | hf <;> simp [OutboxEvent.leaseExpired, hf] at h
  | claimed v picked r hp h =>
    rcases hf with hf | hf <;> simp [OutboxEvent.claimable, OutboxEvent.leaseExpired, hf] at h
  | processed w record rest r hl h =>
    rcases hf with hf | hf <;> simp [OutboxEvent.heldBy, hf] at h
  | failed w record error rest r hl h =>
    rcases hf with hf | hf <;> simp [OutboxEvent.heldBy, hf] at h
  | retried v r maxAttempts h =>
    rcases hf with hf | hf <;> simp [OutboxEvent.retryable, hf] at h
  | cancelled v r h =>
    rcases hf with hf | hf <;> simp [OutboxEvent.cancellable, hf] at h

/-- A row under lease stays as it is, unless its holder writes the outcome or the lease
has expired when some worker claims. -/
theorem leased (h : Transition config c i r r') {w : WorkerId} (hs : r.status = .processing)
    (hw : r.lockedBy = some w) :
    r' = r ∨ (i = .act w .mark ∧ (c.locals w).marks = some r.id) ∨
      (r.leaseExpired c.shared.now config.leaseMs ∧
        ∃ v, i = .act v .poll ∨ ∃ picked, i = .act v (.claim picked)) := by
  cases h with
  | same => exact Or.inl rfl
  | deadLettered v r h => exact Or.inr (Or.inr ⟨h, v, Or.inl rfl⟩)
  | claimed v picked r hp h =>
    rcases h with ⟨h | h, -⟩ | h
    · simp [hs] at h
    · simp [hs] at h
    · exact Or.inr (Or.inr ⟨h, v, Or.inr ⟨picked, rfl⟩⟩)
  | processed v record rest r hl h =>
    obtain rfl : v = w := by simpa [OutboxEvent.heldBy, hw] using h.2.1.symm
    exact Or.inr (Or.inl ⟨rfl, by rw [hl, h.1]; rfl⟩)
  | failed v record error rest r hl h =>
    obtain rfl : v = w := by simpa [OutboxEvent.heldBy, hw] using h.2.1.symm
    exact Or.inr (Or.inl ⟨rfl, by rw [hl, h.1]; rfl⟩)
  | retried v r maxAttempts h => simp [OutboxEvent.retryable, hs] at h
  | cancelled v r h => simp [OutboxEvent.cancellable, hs] at h

end Transition

namespace OutboxStore

/-- Row ids are a key, and none is drawn twice. -/
structure Keyed (s : OutboxStore Payload) : Prop where
  ids : (s.rows.map OutboxEvent.id).Nodup
  known : ∀ r ∈ s.rows, r.id ∈ s.uuids

theorem Keyed.eq {s : OutboxStore Payload} (h : s.Keyed) {r r' : OutboxEvent Payload}
    (hr : r ∈ s.rows) (hr' : r' ∈ s.rows) (he : r.id = r'.id) : r = r' :=
  List.inj_on_of_nodup_map h.ids hr hr' he

/-- A new row: its id was never drawn before, and it waits to be delivered. -/
structure Fresh (s : OutboxStore Payload) (r : OutboxEvent Payload) : Prop where
  id : r.id ∉ s.uuids
  status : r.status = .pending
  lockedBy : r.lockedBy = none
  lockedAt : r.lockedAt = none

/-- The rows of `s'` are those of `s` moved along `T`, less finished ones, plus new ones. -/
structure RowStep (T : OutboxEvent Payload → OutboxEvent Payload → Prop)
    (s s' : OutboxStore Payload) : Prop where
  keyed : s'.Keyed
  uuids : s.uuids ⊆ s'.uuids
  now : s.now ≤ s'.now
  completed : s.completed ⊆ s'.completed
  kept : ∀ r ∈ s.rows, r.finished ∨ ∃ r' ∈ s'.rows, T r r'
  source : ∀ r' ∈ s'.rows, (∃ r ∈ s.rows, T r r') ∨ s.Fresh r'

section
variable {T : OutboxEvent Payload → OutboxEvent Payload → Prop} {s s' : OutboxStore Payload}
  {p : OutboxEvent Payload → Prop} [DecidablePred p]
  {f : OutboxEvent Payload → OutboxEvent Payload}

theorem RowStep.frame (hk : s.Keyed) (hT : ∀ r, T r r) (hr : s'.rows = s.rows)
    (hu : s'.uuids = s.uuids) (hn : s.now ≤ s'.now) (hc : s.completed ⊆ s'.completed) :
    RowStep T s s' where
  keyed := ⟨by rw [hr]; exact hk.ids, by rw [hr, hu]; exact hk.known⟩
  uuids := by rw [hu]; exact List.Subset.refl _
  now := hn
  completed := hc
  kept r h := Or.inr ⟨r, by rw [hr]; exact h, hT r⟩
  source r h := Or.inl ⟨r, by rw [hr] at h; exact h, hT r⟩

theorem RowStep.updateRows (hk : s.Keyed) (hT : ∀ r, T r r) (hid : ∀ r, (f r).id = r.id)
    (hf : ∀ r ∈ s.rows, p r → T r (f r)) : RowStep T s (s.updateRows p f) where
  keyed := by
    have hmap : (s.updateRows p f).rows.map OutboxEvent.id = s.rows.map OutboxEvent.id :=
      Table.map_updateMany hid
    refine ⟨by rw [hmap]; exact hk.ids, fun r' hr' => ?_⟩
    rcases Table.mem_updateMany.mp hr' with ⟨r, hr, -, rfl⟩ | ⟨hr, -⟩
    · rw [hid]
      exact hk.known r hr
    · exact hk.known r' hr
  uuids := List.Subset.refl _
  now := le_rfl
  completed := List.Subset.refl _
  kept r hr := by
    by_cases hp : p r
    · exact Or.inr ⟨f r, Table.mem_updateMany.mpr (Or.inl ⟨r, hr, hp, rfl⟩), hf r hr hp⟩
    · exact Or.inr ⟨r, Table.mem_updateMany.mpr (Or.inr ⟨hr, hp⟩), hT r⟩
  source r' hr' := by
    rcases Table.mem_updateMany.mp hr' with ⟨r, hr, hp, rfl⟩ | ⟨hr, -⟩
    · exact Or.inl ⟨r, hr, hf r hr hp⟩
    · exact Or.inl ⟨r', hr, hT r'⟩

theorem RowStep.deleteRows (hk : s.Keyed) (hT : ∀ r, T r r) (hp : ∀ r, p r → r.finished) :
    RowStep T s (s.deleteRows p) where
  keyed := ⟨hk.ids.sublist ((List.filter_sublist).map OutboxEvent.id),
    fun r hr => hk.known r (Table.mem_deleteMany.mp hr).1⟩
  uuids := List.Subset.refl _
  now := le_rfl
  completed := List.Subset.refl _
  kept r hr := by
    by_cases h : p r
    · exact Or.inl (hp r h)
    · exact Or.inr ⟨r, Table.mem_deleteMany.mpr ⟨hr, h⟩, hT r⟩
  source r hr := Or.inl ⟨r, (Table.mem_deleteMany.mp hr).1, hT r⟩

theorem RowStep.insertRow (hk : s.Keyed) (hT : ∀ r, T r r) {r : OutboxEvent Payload}
    (hr : s.Fresh r) : RowStep T s (s.insertRow r) where
  keyed := by
    constructor
    · simp only [OutboxStore.insertRow, List.map_append, List.map_cons, List.map_nil]
      refine List.Nodup.append hk.ids (by simp) fun id hid hid' => ?_
      obtain ⟨r₀, hr₀, rfl⟩ := List.mem_map.mp hid
      rw [List.mem_singleton] at hid'
      exact hr.id (hid' ▸ hk.known r₀ hr₀)
    · intro r' hr'
      rcases List.mem_append.mp hr' with h | h
      · exact List.mem_cons_of_mem _ (hk.known r' h)
      · rw [List.mem_singleton] at h
        rw [h]
        exact List.mem_cons_self
  uuids := List.subset_cons_self _ _
  now := le_rfl
  completed := List.Subset.refl _
  kept r₀ h := Or.inr ⟨r₀, List.mem_append_left _ h, hT r₀⟩
  source r' h := by
    rcases List.mem_append.mp h with h | h
    · exact Or.inl ⟨r', h, hT r'⟩
    · rw [List.mem_singleton] at h
      exact Or.inr (h ▸ hr)

theorem RowStep.guardReplay (hk : s.Keyed) (hT : ∀ r, T r r) (h : RowStep T s s') :
    RowStep T s (s.guardReplay s') := by
  unfold OutboxStore.guardReplay
  split
  · exact h
  · exact .frame hk hT rfl rfl le_rfl (List.Subset.refl _)

end
end OutboxStore

namespace OutboxProcessor
open OutboxStore
variable {config : OutboxConfig} {c c' : Pool (OutboxStore Payload) (Task Payload)}
  {i : Move OutboxStep (OutboxMove Payload)}

theorem claim_rowStep {w : WorkerId} {picked : List Uuid} (hk : c.shared.Keyed)
    (h : c.shared.canClaim config picked) :
    RowStep (Transition config c (.act w (.claim picked))) c.shared (c.shared.claim w picked) := by
  refine .updateRows hk (.same _) (fun _ => rfl) fun r hr hp => ?_
  obtain ⟨r₀, hr₀, he, hc⟩ := h.2 r.id hp
  rw [hk.eq hr₀ hr he] at hc
  exact .claimed w picked r hp hc

theorem runOnce_rows {key : HandlerKey} {s s' : OutboxStore Payload} {run run' : HandlerRun}
    {step : HandlerStep} (h : runOnce key s run step = some (s', run')) :
    s'.rows = s.rows ∧ s'.uuids = s.uuids ∧ s'.now = s.now ∧ s.completed ⊆ s'.completed := by
  cases run <;> cases step <;> simp only [runOnce, Option.some.injEq, Prod.mk.injEq,
    reduceCtorEq] at h <;> obtain ⟨rfl, -⟩ := h <;> exact ⟨rfl, rfl, rfl, by simp⟩

theorem stepHandler_eq_some {s s' : OutboxStore Payload} {index : Nat} {step : HandlerStep}
    {task task' : Task Payload} (h : stepHandler s index step task = some (s', task')) :
    ∃ record runs rest run run', task = .delivering record runs rest ∧ runs[index]? = some run ∧
      runOnce (handlerKey record index) s run step = some (s', run') ∧
      task' = .delivering record (runs.set index run') rest := by
  cases task with
  | delivering record runs rest =>
    simp only [stepHandler, Option.bind_eq_some_iff, Option.map_eq_some_iff, Prod.exists] at h
    obtain ⟨run, hrun, s₁, run', hone, he⟩ := h
    cases he
    exact ⟨record, runs, rest, run, run', rfl, hrun, hone, rfl⟩
  | _ => simp [stepHandler] at h

theorem act_rowStep {w : WorkerId} {step : OutboxStep} {s' : OutboxStore Payload}
    {task' : Task Payload} (hk : c.shared.Keyed)
    (h : act config w c.shared (c.locals w) step = some (s', task')) :
    RowStep (Transition config c (.act w step)) c.shared s' := by
  have hsame : ∀ r, Transition config c (.act w step) r r := .same _
  cases step with
  | poll =>
    simp only [act] at h
    split at h <;> cases h
    exact .updateRows hk hsame (fun _ => rfl) fun r _ hp => .deadLettered w r hp.1 hp.2
  | claim picked =>
    simp only [act] at h
    split at h
    · split at h <;> cases h
      rename_i hc
      exact claim_rowStep hk hc
    · cases h
  | handler index step =>
    obtain ⟨_, _, _, _, _, _, _, hone, _⟩ := stepHandler_eq_some h
    obtain ⟨hr, hu, hn, hd⟩ := runOnce_rows hone
    exact .frame hk hsame hr hu hn.ge hd
  | mark =>
    simp only [act, mark] at h
    split at h <;> cases h
    · rename_i record rest hl
      exact .updateRows hk hsame (fun _ => rfl) fun r _ hp => .processed w record rest r hl hp
    · rename_i record error rest hl
      exact .updateRows hk hsame (fun _ => rfl) fun r _ hp => .failed w record error rest r hl hp
  | apply =>
    simp only [act, apply] at h
    split at h <;> cases h
    · exact .guardReplay hk hsame
        (.updateRows hk hsame (fun _ => rfl) fun r _ hp => .retried w r _ hp.2)
    · exact .updateRows hk hsame (fun _ => rfl) fun r _ hp => .cancelled w r hp.2
  | applyReplay id eventId =>
    simp only [act, applyReplay] at h
    split at h
    · split at h <;> cases h
      rename_i hfresh
      unfold OutboxStore.replayOutbox
      split
      · exact .frame hk hsame rfl rfl le_rfl (List.Subset.refl _)
      · exact .guardReplay hk hsame (.insertRow hk hsame ⟨hfresh, rfl, rfl, rfl⟩)
    · cases h
  | crash =>
    cases h
    exact .frame hk hsame rfl rfl le_rfl (List.Subset.refl _)
  | _ =>
    simp only [act, Option.map_eq_some_iff, Prod.mk.injEq] at h
    obtain ⟨_, _, rfl, _⟩ := h
    exact .frame hk hsame rfl rfl le_rfl (List.Subset.refl _)

/-- Only the steps of a handler touch the ledger and the completions. -/
theorem act_ledger {w : WorkerId} {step : OutboxStep} {s s' : OutboxStore Payload}
    {task task' : Task Payload} (h : act config w s task step = some (s', task')) :
    (∃ index hstep, step = .handler index hstep) ∨
      (s'.ledger = s.ledger ∧ s'.completed = s.completed) := by
  cases step with
  | handler index hstep => exact Or.inl ⟨index, hstep, rfl⟩
  | poll =>
    simp only [act] at h
    split at h <;> cases h
    exact Or.inr ⟨rfl, rfl⟩
  | claim picked =>
    simp only [act] at h
    split at h
    · split at h <;> cases h
      exact Or.inr ⟨rfl, rfl⟩
    · cases h
  | mark =>
    simp only [act, mark] at h
    split at h <;> cases h <;> exact Or.inr ⟨rfl, rfl⟩
  | apply =>
    simp only [act, apply] at h
    split at h <;> cases h
    · unfold OutboxStore.retryOutbox OutboxStore.guardReplay
      split <;> exact Or.inr ⟨rfl, rfl⟩
    · exact Or.inr ⟨rfl, rfl⟩
  | applyReplay id eventId =>
    simp only [act, applyReplay] at h
    split at h
    · split at h <;> cases h
      unfold OutboxStore.replayOutbox OutboxStore.guardReplay
      split
      · exact Or.inr ⟨rfl, rfl⟩
      · split <;> exact Or.inr ⟨rfl, rfl⟩
    · cases h
  | crash =>
    cases h
    exact Or.inr ⟨rfl, rfl⟩
  | _ =>
    simp only [act, Option.map_eq_some_iff, Prod.mk.injEq] at h
    obtain ⟨_, _, rfl, _⟩ := h
    exact Or.inr ⟨rfl, rfl⟩

/-- No move of the environment touches the completions, and none adds to the ledger. -/
theorem move_ledger {m : OutboxMove Payload} {s s' : OutboxStore Payload}
    (h : move s m = some s') : s'.ledger ⊆ s.ledger ∧ s'.completed = s.completed := by
  cases m with
  | enqueue id event =>
    simp only [move] at h
    split at h <;> cases h
    unfold OutboxStore.enqueue
    split <;> exact ⟨List.Subset.refl _, rfl⟩
  | forget key =>
    cases h
    exact ⟨List.filter_subset_self _, rfl⟩
  | _ =>
    cases h
    exact ⟨List.Subset.refl _, rfl⟩

theorem move_rowStep (config : OutboxConfig) {m : OutboxMove Payload} {s' : OutboxStore Payload}
    (hk : c.shared.Keyed)
    (h : move c.shared m = some s') : RowStep (Transition config c (.env m)) c.shared s' := by
  have hsame : ∀ r, Transition config c (.env m) r r := .same _
  cases m with
  | enqueue id event =>
    simp only [move] at h
    split at h <;> cases h
    rename_i hfresh
    unfold OutboxStore.enqueue
    split
    · exact .frame hk hsame rfl rfl le_rfl (List.Subset.refl _)
    · exact .insertRow hk hsame ⟨hfresh, rfl, rfl, rfl⟩
  | purge retentionMs =>
    cases h
    exact .deleteRows hk hsame fun r hp => hp.1
  | deleteProcessed ids =>
    cases h
    exact .deleteRows hk hsame fun r hp => Or.inl hp.1
  | forget key =>
    cases h
    exact .frame hk hsame rfl rfl le_rfl (List.Subset.refl _)
  | tick ms =>
    cases h
    exact .frame hk hsame rfl rfl (Nat.le_add_right _ _) (List.Subset.refl _)

/-- Every step moves every stored row along one of the transitions. -/
theorem step_rowStep (hk : c.shared.Keyed) (h : (machine config).step c i = some c') :
    RowStep (Transition config c i) c.shared c'.shared := by
  cases i with
  | act w step =>
    obtain ⟨s', task', ha, rfl⟩ := (program config).step_act.mp h
    exact act_rowStep hk ha
  | env m =>
    obtain ⟨s', hm, rfl⟩ := (program config).step_env.mp h
    exact move_rowStep config hk hm

end OutboxProcessor
end OmniSupport.Outbox
