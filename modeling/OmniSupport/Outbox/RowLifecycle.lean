import OmniSupport.Outbox.RowTransitions

/-! The row state machine over whole runs: the lock columns follow the status, a lease has
one holder until it is given up or expires, and finished rows stay as they are. -/
namespace OmniSupport.Outbox
open Foundation

variable {Payload : Type}

/-- The lease a worker's copy of a row shows has not run out. -/
def OutboxEvent.leaseRuns (now leaseMs : Nat) (record : OutboxEvent Payload) : Prop :=
  ∃ lockedAt, record.lockedAt = some lockedAt ∧ now ≤ lockedAt + leaseMs

/-- The rows a worker has claimed and not yet written an outcome for. -/
def Task.batch : Task Payload → List (OutboxEvent Payload)
  | .delivering record _ rest | .completing record rest | .failing record _ rest => record :: rest
  | _ => []

/-- What the copy `record` in worker `w`'s batch stands for while its lease runs. -/
def OutboxStore.Holds (s : OutboxStore Payload) (w : WorkerId) (record : OutboxEvent Payload) :
    Prop :=
  ∃ r ∈ s.rows, r.id = record.id ∧ r.status = .processing ∧ r.lockedBy = some w ∧
    r.lockedAt = record.lockedAt

namespace OutboxProcessor
open OutboxStore
variable {config : OutboxConfig}

/-- A worker whose copy of row `id` shows a lease that still runs. -/
def Leases (config : OutboxConfig) (c : Pool (OutboxStore Payload) (Task Payload)) (w : WorkerId)
    (id : Uuid) : Prop :=
  ∃ record ∈ (c.locals w).batch, record.id = id ∧ record.leaseRuns c.shared.now config.leaseMs

structure Batch (config : OutboxConfig) (w : WorkerId) (task : Task Payload)
    (s : OutboxStore Payload) : Prop where
  ids : (task.batch.map OutboxEvent.id).Nodup
  held : ∀ record ∈ task.batch, record.leaseRuns s.now config.leaseMs → s.Holds w record

abbrev leaseOutline (config : OutboxConfig) :
    Program.Outline (OutboxStore Payload) (Task Payload) where
  inv s := s.Keyed ∧ ∀ r ∈ s.rows, r.Locked
  own := Batch config
  pair _ _ := True

theorem batch_deliver (records : List (OutboxEvent Payload)) :
    (deliver config records).batch = records := by
  cases records <;> rfl

section
variable {c c' : Pool (OutboxStore Payload) (Task Payload)}
  {i : Move OutboxStep (OutboxMove Payload)} {s' : OutboxStore Payload} {w : WorkerId}

theorem locked_step (hl : ∀ r ∈ c.shared.rows, r.Locked)
    (h : RowStep (Transition config c i) c.shared s') : ∀ r ∈ s'.rows, r.Locked := by
  intro r' hr'
  rcases h.source r' hr' with ⟨r, hr, ht⟩ | hf
  · exact ht.locked (hl r hr)
  · constructor <;> simp [hf.status, hf.lockedBy, hf.lockedAt]

/-- While its lease runs, only the holder's own outcome takes a row away from it. -/
theorem holds_step {record : OutboxEvent Payload}
    (h : RowStep (Transition config c i) c.shared s')
    (hrun : record.leaseRuns s'.now config.leaseMs)
    (hheld : record.leaseRuns c.shared.now config.leaseMs → c.shared.Holds w record)
    (hmark : i = .act w .mark → (c.locals w).marks ≠ some record.id) : s'.Holds w record := by
  obtain ⟨t, ht, hle⟩ := hrun
  have hnow : c.shared.now ≤ t + config.leaseMs := h.now.trans hle
  obtain ⟨r, hr, hid, hs, hw, hat⟩ := hheld ⟨t, ht, hnow⟩
  rcases h.kept r hr with hf | ⟨r', hr', htr⟩
  · rcases hf with hf | hf <;> rw [hs] at hf <;> cases hf
  · rcases htr.leased hs hw with rfl | ⟨hi, hm⟩ | ⟨⟨-, hexp⟩, -⟩
    · exact ⟨r', hr', hid, hs, hw, hat⟩
    · rw [hid] at hm
      exact absurd hm (hmark hi)
    · rw [hat, ht, Option.any_some, decide_eq_true_eq] at hexp
      exact absurd hexp (Nat.not_lt.mpr hnow)

theorem batch_settle {task task' : Task Payload} (h : settle task = some task') :
    task'.batch = task.batch := by
  cases task with
  | delivering record runs rest =>
    simp only [settle] at h
    split at h
    · cases h
    · split at h <;> cases h <;> rfl
  | _ => cases h

theorem batch_markThrows {task task' : Task Payload} {message : String}
    (h : markThrows message task = some task') :
    task'.batch = task.batch ∨ task'.batch = [] := by
  cases task with
  | completing record rest =>
    cases h
    exact Or.inl rfl
  | failing record error rest =>
    cases h
    exact Or.inr rfl
  | _ => cases h

theorem batch_read {s : OutboxStore Payload} {id : Uuid} {task task' : Task Payload}
    {found : OutboxEvent Payload → Task Payload} (hf : ∀ r, (found r).batch = [])
    (h : read s id found task = some task') : task'.batch = [] := by
  cases task with
  | idle =>
    simp only [read, Option.some.injEq] at h
    subst h
    split
    · rfl
    · exact hf _
  | _ => cases h

theorem batch_mark {s : OutboxStore Payload} {task task' : Task Payload}
    (h : mark config w s task = some (s', task')) :
    ∃ record, task.marks = some record.id ∧ task.batch = record :: task'.batch := by
  cases task with
  | completing record rest =>
    cases h
    exact ⟨record, rfl, by rw [batch_deliver]; rfl⟩
  | failing record error rest =>
    cases h
    exact ⟨record, rfl, by rw [batch_deliver]; rfl⟩
  | _ => cases h

/-- The steps in the middle of a batch. -/
def midBatch : OutboxStep → Prop
  | .handler .. | .settle | .markThrows _ => True
  | _ => False

/-- But for a claim, a worker's batch only loses rows; at a mark, the marked one. -/
theorem batch_act {s : OutboxStore Payload} {task task' : Task Payload} {step : OutboxStep}
    (h : act config w s task step = some (s', task')) :
    (∃ picked, step = .claim picked ∧ s' = s.claim w picked ∧
      task'.batch = s.claimed w picked) ∨
    (task'.batch = task.batch ∧ midBatch step) ∨ task'.batch = [] ∨
    (step = .mark ∧ ∃ record, task.marks = some record.id ∧
      task.batch = record :: task'.batch) := by
  cases step with
  | claim picked =>
    simp only [act] at h
    split at h
    · split at h <;> cases h
      exact Or.inl ⟨picked, rfl, rfl, batch_deliver _⟩
    · cases h
  | handler index step =>
    obtain ⟨record, runs, rest, run, run', rfl, -, -, rfl⟩ := stepHandler_eq_some h
    exact Or.inr (Or.inl ⟨rfl, trivial⟩)
  | mark => exact Or.inr (Or.inr (Or.inr ⟨rfl, batch_mark h⟩))
  | settle =>
    obtain ⟨t, ht, he⟩ := Option.map_eq_some_iff.mp h
    cases he
    exact Or.inr (Or.inl ⟨batch_settle ht, trivial⟩)
  | markThrows message =>
    obtain ⟨t, ht, he⟩ := Option.map_eq_some_iff.mp h
    cases he
    rcases batch_markThrows ht with hb | hb
    · exact Or.inr (Or.inl ⟨hb, trivial⟩)
    · exact Or.inr (Or.inr (Or.inl hb))
  | crash =>
    cases h
    exact Or.inr (Or.inr (Or.inl rfl))
  | poll =>
    simp only [act] at h
    split at h <;> cases h
    exact Or.inr (Or.inr (Or.inl rfl))
  | apply =>
    simp only [act, apply] at h
    split at h <;> cases h <;> exact Or.inr (Or.inr (Or.inl rfl))
  | applyReplay id eventId =>
    simp only [act, applyReplay] at h
    split at h
    · split at h <;> cases h
      exact Or.inr (Or.inr (Or.inl rfl))
    · cases h
  | throws =>
    obtain ⟨t, ht, he⟩ := Option.map_eq_some_iff.mp h
    cases he
    cases task <;> cases ht <;> exact Or.inr (Or.inr (Or.inl rfl))
  | retry id retryMaxAttempts =>
    obtain ⟨t, ht, he⟩ := Option.map_eq_some_iff.mp h
    cases he
    exact Or.inr (Or.inr (Or.inl (batch_read (fun _ => rfl) ht)))
  | cancel id =>
    obtain ⟨t, ht, he⟩ := Option.map_eq_some_iff.mp h
    cases he
    exact Or.inr (Or.inr (Or.inl (batch_read (fun _ => rfl) ht)))
  | replay id retryMaxAttempts =>
    obtain ⟨t, ht, he⟩ := Option.map_eq_some_iff.mp h
    cases he
    refine Or.inr (Or.inr (Or.inl (batch_read (fun r => ?_) ht)))
    split <;> rfl

/-- Right after a claim, every row it returned is held by the claimer. -/
theorem batch_claimed {s : OutboxStore Payload} {picked : List Uuid} {record : OutboxEvent Payload}
    (hm : record ∈ s.claimed w picked) : (s.claim w picked).Holds w record := by
  rw [OutboxStore.claimed, List.mem_insertionSort, List.mem_filter] at hm
  obtain ⟨hr, hp⟩ := hm
  refine ⟨record, hr, rfl, ?_⟩
  rcases Table.mem_updateMany.mp hr with ⟨r, -, -, rfl⟩ | ⟨-, hn⟩
  · exact ⟨rfl, rfl, rfl⟩
  · exact absurd (by simpa using hp) hn

theorem claimed_ids {s : OutboxStore Payload} {picked : List Uuid}
    (hk : (s.claim w picked).Keyed) : ((s.claimed w picked).map OutboxEvent.id).Nodup := by
  have hfilter := hk.ids.sublist
    ((List.filter_sublist (p := fun r => r.id ∈ picked)).map OutboxEvent.id)
  exact ((List.perm_insertionSort _ _).map OutboxEvent.id).nodup_iff.mpr hfilter

theorem batch_own {step : OutboxStep} {task' : Task Payload}
    (hown : Batch config w (c.locals w) c.shared)
    (h : act config w c.shared (c.locals w) step = some (s', task'))
    (hs : RowStep (Transition config c (.act w step)) c.shared s') :
    Batch config w task' s' := by
  rcases batch_act h with ⟨picked, -, rfl, hb⟩ | ⟨hb, hne⟩ | hb | ⟨-, record, hm, hb⟩
  · exact ⟨by rw [hb]; exact claimed_ids hs.keyed,
      fun record hr _ => batch_claimed (hb ▸ hr)⟩
  · refine ⟨by rw [hb]; exact hown.ids, fun record hr hrun => ?_⟩
    rw [hb] at hr
    refine holds_step hs hrun (hown.held record hr) fun hi => ?_
    cases hi
    exact hne.elim
  · constructor <;> simp [hb]
  · have hids := hown.ids
    rw [hb, List.map_cons, List.nodup_cons] at hids
    refine ⟨hids.2, fun r hr hrun => ?_⟩
    refine holds_step hs hrun (hown.held r (hb ▸ List.mem_cons_of_mem _ hr)) fun _ he => ?_
    rw [hm, Option.some.injEq] at he
    exact hids.1 (he ▸ List.mem_map_of_mem hr)

theorem leaseOutline_valid :
    (leaseOutline config : Program.Outline (OutboxStore Payload) (Task Payload)).Valid
      (program config) fun _ _ => True where
  symm _ _ _ := trivial
  act c w step s task h _ ha := by
    have hs := act_rowStep h.inv.1 ha
    exact ⟨⟨hs.keyed, locked_step h.inv.2 hs⟩, batch_own (h.own w) ha hs⟩
  others c w step s task h _ ha v hv := by
    have hs := act_rowStep h.inv.1 ha
    refine ⟨⟨(h.own v).ids, fun record hr hrun => ?_⟩, trivial⟩
    refine holds_step hs hrun ((h.own v).held record hr) fun hi => ?_
    cases hi
    exact absurd rfl hv
  env c m s h _ hm := by
    have hs := move_rowStep config h.inv.1 hm
    refine ⟨⟨hs.keyed, locked_step h.inv.2 hs⟩, fun v => ⟨(h.own v).ids, fun record hr hrun => ?_⟩⟩
    exact holds_step hs hrun ((h.own v).held record hr) fun hi => by cases hi

theorem leaseOutline_init (now : Time) :
    (leaseOutline config : Program.Outline (OutboxStore Payload) (Task Payload)).Holds
      (init now) where
  inv := by
    refine ⟨?_, by simp [init, OutboxStore.init]⟩
    constructor <;> simp [init, OutboxStore.init]
  own p := by constructor <;> simp [init, Task.batch]
  pair _ _ _ := trivial

theorem keyed_of_run {now : Time} {is : List (Move OutboxStep (OutboxMove Payload))}
    (hr : (machine config).run (init now) is = some c) :
    (leaseOutline config : Program.Outline (OutboxStore Payload) (Task Payload)).Holds c :=
  leaseOutline_valid.run (leaseOutline_init now) hr

/-- The rows under the id of a finished row, now and later: at most that row, in the
status it finished in. -/
theorem finished_run {r : OutboxEvent Payload} (hf : r.finished)
    (h : (leaseOutline config : Program.Outline (OutboxStore Payload) (Task Payload)).Holds c)
    (hu : r.id ∈ c.shared.uuids)
    (hr : ∀ r' ∈ c.shared.rows, r'.id = r.id → r'.status = r.status)
    {js : List (Move OutboxStep (OutboxMove Payload))}
    (hj : (machine config).run c js = some c') :
    ∀ r' ∈ c'.shared.rows, r'.id = r.id → r'.status = r.status := by
  have hall := (machine config).run_preserves
    (P := fun c => (leaseOutline config).Holds c ∧ r.id ∈ c.shared.uuids ∧
      ∀ r' ∈ c.shared.rows, r'.id = r.id → r'.status = r.status)
    (fun c i c' hc hs => ?_) ⟨h, hu, hr⟩ hj
  · exact hall.2.2
  · obtain ⟨hh, hu, hr⟩ := hc
    have hstep := step_rowStep hh.inv.1 hs
    refine ⟨leaseOutline_valid.step c i c' hh trivial hs, hstep.uuids hu, fun r' hr' hid => ?_⟩
    rcases hstep.source r' hr' with ⟨r₀, hr₀, ht⟩ | hfresh
    · have hst := hr r₀ hr₀ (ht.sameEvent.id.symm.trans hid)
      rw [ht.finished (by rw [OutboxEvent.finished, hst]; exact hf), hst]
    · exact absurd (hid ▸ hu) hfresh.id

end

/-- The outbox row state machine. (a) The lock column is set exactly while a row is being
processed. (b) No two workers have a running lease on one row, and a row under lease
leaves its holder only by the holder's own outcome, or when some worker claims after the
lease expired. (c) A finished row keeps its status until it is deleted. -/
theorem outbox_row_lifecycle (config : OutboxConfig) (now : Time)
    (is : List (Move OutboxStep (OutboxMove Payload)))
    (c : Pool (OutboxStore Payload) (Task Payload))
    (hrun : (machine config).run (init now) is = some c) :
    (∀ r ∈ c.shared.rows, r.lockedBy.isSome ↔ r.status = .processing) ∧
    (∀ id v w, Leases config c v id → Leases config c w id → v = w) ∧
    (∀ i c', (machine config).step c i = some c' →
      ∀ r ∈ c.shared.rows, ∀ w, r.status = .processing → r.lockedBy = some w →
        r ∈ c'.shared.rows ∨ (i = .act w .mark ∧ (c.locals w).marks = some r.id) ∨
        (r.leaseExpired c.shared.now config.leaseMs ∧
          ∃ v, i = .act v .poll ∨ ∃ picked, i = .act v (.claim picked))) ∧
    (∀ js c', (machine config).run c js = some c' →
      ∀ r ∈ c.shared.rows, r.status = .processed ∨ r.status = .cancelled →
        ∀ r' ∈ c'.shared.rows, r'.id = r.id → r'.status = r.status) := by
  have h := keyed_of_run hrun
  obtain ⟨hkeyed, hlocked⟩ := h.inv
  refine ⟨fun r hr => (hlocked r hr).lockedBy, ?_, ?_, ?_⟩
  · rintro id v w ⟨a, ha, haid, halease⟩ ⟨b, hb, hbid, hblease⟩
    obtain ⟨r, hr, hrid, -, hv, -⟩ := (h.own v).held a ha halease
    obtain ⟨r', hr', hrid', -, hw, -⟩ := (h.own w).held b hb hblease
    have he : r = r' := hkeyed.eq hr hr' (by rw [hrid, hrid', haid, hbid])
    rw [he, hw, Option.some.injEq] at hv
    exact hv.symm
  · intro i c' hs r hr w hst hw
    have hstep := step_rowStep hkeyed hs
    rcases hstep.kept r hr with hf | ⟨r', hr', ht⟩
    · rcases hf with hf | hf <;> rw [hst] at hf <;> cases hf
    · rcases ht.leased hst hw with rfl | hmark | hexp
      · exact Or.inl hr'
      · exact Or.inr (Or.inl hmark)
      · exact Or.inr (Or.inr hexp)
  · intro js c' hj r hr hf
    exact finished_run hf h (hkeyed.known r hr) (fun r' hr' hid => by rw [hkeyed.eq hr' hr hid]) hj

/-- One handler of one event type, leases of five minutes. -/
def demoConfig : OutboxConfig := ⟨["TICKET_CREATED"], defaultLeaseMs, defaultBatchSize⟩

def demoEvent : OutboxPayload Unit where
  eventId := ⟨"e1", rfl⟩
  eventType := "TICKET_CREATED"
  occurredAt := 0
  tenantId := some 7
  aggregateId := some 8
  aggregateType := some "Ticket"
  payload := ()

/-- The event id drawn for a replay. -/
def demoReplayId : EventId := ⟨"e2", rfl⟩

/-- A worker's lease expires during the delivery, a second worker takes the row over and
completes it, the first comes back too late. -/
def takeOver : List (Move OutboxStep (OutboxMove Unit)) :=
  [.env (.enqueue 1 demoEvent), .act 0 .poll, .act 0 (.claim [1]), .act 0 (.handler 0 .check),
    .env (.tick 300001), .act 1 .poll, .act 1 (.claim [1]), .act 0 (.handler 0 .succeed),
    .act 0 (.handler 0 .record), .act 0 .settle, .act 0 .mark, .act 1 (.handler 0 .check),
    .act 1 .settle, .act 1 .mark]

theorem outbox_row_lifecycle_take_over :
    ∃ c, (machine demoConfig).run (init 0) takeOver = some c ∧
      ((∀ r ∈ c.shared.rows, r.lockedBy.isSome ↔ r.status = .processing) ∧
      (∀ id v w, Leases demoConfig c v id → Leases demoConfig c w id → v = w) ∧
      (∀ i c', (machine demoConfig).step c i = some c' →
        ∀ r ∈ c.shared.rows, ∀ w, r.status = .processing → r.lockedBy = some w →
          r ∈ c'.shared.rows ∨ (i = .act w .mark ∧ (c.locals w).marks = some r.id) ∨
          (r.leaseExpired c.shared.now demoConfig.leaseMs ∧
            ∃ v, i = .act v .poll ∨ ∃ picked, i = .act v (.claim picked))) ∧
      (∀ js c', (machine demoConfig).run c js = some c' →
        ∀ r ∈ c.shared.rows, r.status = .processed ∨ r.status = .cancelled →
          ∀ r' ∈ c'.shared.rows, r'.id = r.id → r'.status = r.status)) := by
  have hsome : ((machine demoConfig).run (init 0) takeOver).isSome := by decide
  obtain ⟨c, hc⟩ := Option.isSome_iff_exists.mp hsome
  exact ⟨c, hc, outbox_row_lifecycle demoConfig 0 takeOver c hc⟩

end OutboxProcessor
end OmniSupport.Outbox
