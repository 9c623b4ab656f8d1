import OmniSupport.Outbox.RowLifecycle

/-! Which rows were tried before they are dead-lettered. A claim counts an attempt for every
row of the batch, but the rows are published one after the other. -/
namespace OmniSupport.Outbox
open Foundation

variable {Payload : Type}

/-- The row whose event the dispatcher is publishing. -/
def Task.publishing : Task Payload → Option Uuid
  | .delivering record _ _ => some record.id
  | _ => none

/-- The rows of a batch that a step gives up before their turn. -/
def Task.leftBehind : Task Payload → OutboxStep → List (OutboxEvent Payload)
  | task, .crash => task.batch.tail
  | .failing _ _ rest, .markThrows _ => rest
  | _, _ => []

namespace OutboxProcessor
open OutboxStore
variable {config : OutboxConfig}

/-- The row under `publish` after a step of its worker. -/
def publishes (_ : Pool (OutboxStore Payload) (Task Payload)) :
    Move OutboxStep (OutboxMove Payload) → Pool (OutboxStore Payload) (Task Payload) → List Uuid
  | .act w _, c' => (c'.locals w).publishing.toList
  | .env _, _ => []

/-- The system beside the ids of the rows that `publish` was started for. -/
def published (config : OutboxConfig) :
    Machine (Pool (OutboxStore Payload) (Task Payload) × List Uuid)
      (Move OutboxStep (OutboxMove Payload)) :=
  (machine config).logged publishes

/-- Worker `w` holds `record` on its last attempt, and no one has published it so far. -/
def LastChance (s : OutboxStore Payload) (tried : List Uuid) (w : WorkerId)
    (record : OutboxEvent Payload) : Prop :=
  record.id ∉ tried ∧ ∃ r ∈ s.rows, r.heldBy record.id w ∧ r.maxAttempts ≤ r.attempts

/-- The rows a step dead-letters because their last lease has run out. -/
def expiring (config : OutboxConfig) (s : OutboxStore Payload) :
    OutboxStep → List (OutboxEvent Payload)
  | .poll => s.rows.filter fun r =>
      r.leaseExpired s.now config.leaseMs ∧ r.maxAttempts ≤ r.attempts
  | _ => []

/-- No row loses its last attempt while it waits behind another row of the batch: its worker
does not crash or throw out of the batch, and the lease does not run out. -/
def Spares (config : OutboxConfig) (c : Pool (OutboxStore Payload) (Task Payload) × List Uuid) :
    Move OutboxStep (OutboxMove Payload) → Prop
  | .act v step =>
    (∀ record ∈ (c.1.locals v).leftBehind step, ¬ LastChance c.1.shared c.2 v record) ∧
    ∀ r ∈ expiring config c.1.shared step, ∀ w ∈ r.lockedBy,
      ∀ record ∈ (c.1.locals w).batch.tail, record.id = r.id → record.id ∈ c.2
  | .env _ => True

instance (s : OutboxStore Payload) (tried : List Uuid) (w : WorkerId)
    (record : OutboxEvent Payload) : Decidable (LastChance s tried w record) :=
  inferInstanceAs (Decidable (_ ∧ _))

instance (c : Pool (OutboxStore Payload) (Task Payload) × List Uuid) :
    DecidablePred (Spares config c)
  | .act v step => inferInstanceAs (Decidable
      ((∀ record ∈ (c.1.locals v).leftBehind step, ¬ LastChance c.1.shared c.2 v record) ∧
      ∀ r ∈ expiring config c.1.shared step, ∀ w ∈ r.lockedBy,
        ∀ record ∈ (c.1.locals w).batch.tail, record.id = r.id → record.id ∈ c.2))
  | .env _ => isTrue trivial

/-- The rows at the head of a batch were tried, and so was every row that has used up its
attempts, unless it waits for its holder. -/
structure Watched (config : OutboxConfig)
    (c : Pool (OutboxStore Payload) (Task Payload) × List Uuid) : Prop where
  keyed : c.1.shared.Keyed
  locked : ∀ r ∈ c.1.shared.rows, r.Locked
  head : ∀ w, ∀ record ∈ (c.1.locals w).batch.head?, record.id ∈ c.2
  waiting : ∀ r ∈ c.1.shared.rows, r.status = .processing → r.maxAttempts ≤ r.attempts →
    r.id ∈ c.2 ∨ ∃ w, r.lockedBy = some w ∧ ∃ record ∈ (c.1.locals w).batch.tail, record.id = r.id

section
variable {c c' : Pool (OutboxStore Payload) (Task Payload) × List Uuid}
  {i : Move OutboxStep (OutboxMove Payload)} {w : WorkerId} {step : OutboxStep}
  {s s' : OutboxStore Payload} {task task' : Task Payload}

theorem publishing_head {records : List (OutboxEvent Payload)} {record : OutboxEvent Payload}
    (h : record ∈ (deliver config records).batch.head?) :
    (deliver config records).publishing = some record.id := by
  cases records with
  | nil => cases h
  | cons first rest =>
    cases h
    rfl

/-- The head of a batch is under `publish`, or was the head before. -/
theorem head_act (h : act config w s task step = some (s', task')) :
    ∀ record ∈ task'.batch.head?,
      task'.publishing = some record.id ∨ record ∈ task.batch.head? := by
  intro record hrecord
  by_cases hclaim : ∃ picked, step = .claim picked
  · obtain ⟨picked, rfl⟩ := hclaim
    simp only [act] at h
    split at h
    · split at h <;> cases h
      exact Or.inl (publishing_head hrecord)
    · cases h
  · by_cases hmark : step = .mark
    · subst hmark
      simp only [act, mark] at h
      split at h <;> cases h <;> exact Or.inl (publishing_head hrecord)
    · rcases batch_act h with ⟨picked, hp, -⟩ | ⟨hbatch, -⟩ | hbatch | ⟨hm, -⟩
      · exact absurd ⟨picked, hp⟩ hclaim
      · rw [hbatch] at hrecord
        exact Or.inr hrecord
      · rw [hbatch] at hrecord
        cases hrecord
      · exact absurd hm hmark

theorem mem_head_or_tail {records : List (OutboxEvent Payload)} {record : OutboxEvent Payload}
    (h : record ∈ records) : record ∈ records.tail ∨ record ∈ records.head? := by
  cases records with
  | nil => cases h
  | cons first rest =>
    rcases List.mem_cons.mp h with rfl | hrest
    · exact Or.inr rfl
    · exact Or.inl hrest

/-- A row of a batch stays in it, unless it is given up or its turn comes. -/
theorem tail_act (h : act config w s task step = some (s', task')) :
    ∀ record ∈ task.batch.tail, record ∈ task'.batch.tail ∨ record ∈ task'.batch.head? ∨
      record ∈ task.leftBehind step := by
  intro record hrecord
  cases step with
  | crash => exact Or.inr (Or.inr hrecord)
  | mark =>
    obtain ⟨first, -, hbatch⟩ := batch_mark h
    rw [hbatch] at hrecord
    rcases mem_head_or_tail hrecord with htail | hhead
    · exact Or.inl htail
    · exact Or.inr (Or.inl hhead)
  | handler index step =>
    obtain ⟨_, _, _, _, _, rfl, -, -, rfl⟩ := stepHandler_eq_some h
    exact Or.inl hrecord
  | settle =>
    obtain ⟨t, ht, he⟩ := Option.map_eq_some_iff.mp h
    cases he
    rw [batch_settle ht]
    exact Or.inl hrecord
  | markThrows message =>
    cases task with
    | completing first rest =>
      cases h
      exact Or.inl hrecord
    | failing first error rest => exact Or.inr (Or.inr hrecord)
    | delivering => cases h
    | _ => cases hrecord
  | _ =>
    -- the other steps start without a batch
    cases task <;> first | (cases hrecord; done) | cases h

theorem tried_mono (h : (published config).step c i = some c') : c.2 ⊆ c'.2 := by
  rw [(Machine.logged_step.mp h).2]
  exact List.subset_append_right _ _

/-- The head of every batch was tried. -/
theorem head_step (h : Watched config c) (hstep : (published config).step c i = some c')
    (w : WorkerId) : ∀ record ∈ (c'.1.locals w).batch.head?, record.id ∈ c'.2 := by
  obtain ⟨hmachine, hlog⟩ := Machine.logged_step.mp hstep
  have hmono := tried_mono hstep
  intro record hrecord
  cases i with
  | env m =>
    obtain ⟨s', -, he⟩ := (program config).step_env.mp hmachine
    rw [he] at hrecord
    exact hmono (h.head w record hrecord)
  | act v step =>
    obtain ⟨s', task', hact, he⟩ := (program config).step_act.mp hmachine
    by_cases hv : w = v
    · subst hv
      have hlocal : c'.1.locals w = task' := by
        rw [he]
        exact Pool.put_locals_self ..
      rw [hlocal] at hrecord
      rcases head_act hact record hrecord with hpub | hold
      · rw [hlog]
        refine List.mem_append_left _ ?_
        simp only [publishes, hlocal, hpub, Option.toList_some, List.mem_singleton]
      · exact hmono (h.head w record hold)
    · rw [he, Pool.put_locals_of_ne _ _ _ hv] at hrecord
      exact hmono (h.head w record hrecord)

/-- A row that waits for its holder on its last attempt goes on waiting or is tried. -/
theorem waiting_step (h : Watched config c) (hspares : Spares config c i)
    (hstep : (published config).step c i = some c') {r : OutboxEvent Payload}
    (hr : r ∈ c.1.shared.rows) (hstatus : r.status = .processing)
    (hlast : r.maxAttempts ≤ r.attempts) :
    r.id ∈ c'.2 ∨ ∃ w, r.lockedBy = some w ∧
      ∃ record ∈ (c'.1.locals w).batch.tail, record.id = r.id := by
  have hmono := tried_mono hstep
  obtain ⟨hmachine, -⟩ := Machine.logged_step.mp hstep
  rcases h.waiting r hr hstatus hlast with htried | ⟨w, hw, record, hrecord, hid⟩
  · exact Or.inl (hmono htried)
  · cases i with
    | env m =>
      obtain ⟨s', -, he⟩ := (program config).step_env.mp hmachine
      rw [he]
      exact Or.inr ⟨w, hw, record, hrecord, hid⟩
    | act v step =>
      obtain ⟨s', task', hact, he⟩ := (program config).step_act.mp hmachine
      by_cases hv : w = v
      · subst hv
        have hlocal : c'.1.locals w = task' := by
          rw [he]
          exact Pool.put_locals_self ..
        rcases tail_act hact record hrecord with htail | hhead | hleft
        · exact Or.inr ⟨w, hw, record, hlocal.symm ▸ htail, hid⟩
        · have htried := head_step h hstep w record (hlocal.symm ▸ hhead)
          exact Or.inl (hid ▸ htried)
        · have hkept := hspares.1 record hleft
          by_cases htried : record.id ∈ c.2
          · exact Or.inl (hmono (hid ▸ htried))
          · exact absurd ⟨htried, r, hr, ⟨hid.symm, hw, hstatus⟩, hlast⟩ hkept
      · refine Or.inr ⟨w, hw, record, ?_, hid⟩
        rw [he, Pool.put_locals_of_ne _ _ _ hv]
        exact hrecord

/-- Right after a claim, each row it took is at the head of the batch or waits in it. -/
theorem claimed_step (h : Watched config c) {picked : List Uuid}
    (hstep : (published config).step c (.act w (.claim picked)) = some c')
    {r : OutboxEvent Payload} (hr : r ∈ c'.1.shared.rows) (hpicked : r.id ∈ picked) :
    r.id ∈ c'.2 ∨ ∃ record ∈ (c'.1.locals w).batch.tail, record.id = r.id := by
  obtain ⟨hmachine, -⟩ := Machine.logged_step.mp hstep
  obtain ⟨s', task', hact, he⟩ := (program config).step_act.mp hmachine
  have hlocal : c'.1.locals w = task' := by
    rw [he]
    exact Pool.put_locals_self ..
  have hbatch : r ∈ (c'.1.locals w).batch := by
    have hclaim : act config w c.1.shared (c.1.locals w) (.claim picked) = some (s', task') := hact
    simp only [act] at hclaim
    split at hclaim
    · split at hclaim <;> cases hclaim
      rw [hlocal, batch_deliver, OutboxStore.claimed, List.mem_insertionSort, List.mem_filter]
      rw [he] at hr
      exact ⟨hr, decide_eq_true hpicked⟩
    · cases hclaim
  rcases mem_head_or_tail hbatch with htail | hhead
  · exact Or.inr ⟨r, htail, rfl⟩
  · exact Or.inl (head_step h hstep w r hhead)

theorem watched_step (h : Watched config c) (hspares : Spares config c i)
    (hstep : (published config).step c i = some c') : Watched config c' := by
  obtain ⟨hmachine, -⟩ := Machine.logged_step.mp hstep
  have hrows := step_rowStep h.keyed hmachine
  refine ⟨hrows.keyed, locked_step h.locked hrows, head_step h hstep, fun r' hr' hs hlast => ?_⟩
  rcases hrows.source r' hr' with ⟨r, hr, ht⟩ | hfresh
  · cases ht with
    | same => exact waiting_step h hspares hstep hr hs hlast
    | claimed v picked r hp hclaimable =>
      rcases claimed_step h hstep hr' hp with htried | hwaits
      · exact Or.inl htried
      · exact Or.inr ⟨v, rfl, hwaits⟩
    | failed w record error rest r hl hheld =>
      by_cases hdead : record.maxAttempts ≤ record.attempts <;>
        simp [OutboxEvent.failed, hdead] at hs
    | retried v r maxAttempts hretryable => cases hs
    | deadLettered => cases hs
    | processed => cases hs
    | cancelled => cases hs
  · rw [hfresh.status] at hs
    cases hs

theorem watched_init (now : Time) :
    Watched config ((init now : Pool (OutboxStore Payload) (Task Payload)), []) where
  keyed := by constructor <;> simp [init, OutboxStore.init]
  locked := by simp [init, OutboxStore.init]
  head w record hrecord := by cases hrecord
  waiting r hr := by cases hr

/-- A row that enters `DEAD_LETTER` was at the head of a batch, or its last lease ran out. -/
theorem dead_letter_step (h : Watched config c) (hspares : Spares config c i)
    (hstep : (published config).step c i = some c') {r' : OutboxEvent Payload}
    (hr' : r' ∈ c'.1.shared.rows) (hdead : r'.status = .deadLetter)
    (hnew : ∀ r ∈ c.1.shared.rows, r.id = r'.id → r.status ≠ .deadLetter) : r'.id ∈ c.2 := by
  obtain ⟨hmachine, -⟩ := Machine.logged_step.mp hstep
  have hrows := step_rowStep h.keyed hmachine
  rcases hrows.source r' hr' with ⟨r, hr, ht⟩ | hfresh
  · have hbefore := hnew r hr ht.sameEvent.id.symm
    cases ht with
    | same => exact absurd hdead hbefore
    | deadLettered v r hexpired hlast =>
      rcases h.waiting r hr hexpired.1 hlast with htried | ⟨w, hw, record, hrecord, hid⟩
      · exact htried
      · have hexpiring : r ∈ expiring config c.1.shared .poll :=
          List.mem_filter.mpr ⟨hr, decide_eq_true ⟨hexpired, hlast⟩⟩
        have htried : record.id ∈ c.2 := hspares.2 r hexpiring w hw record hrecord hid
        rw [hid] at htried
        exact htried
    | failed w record error rest r hl hheld =>
      have hhead : record ∈ (c.1.locals w).batch.head? := by
        rw [hl]
        rfl
      have htried : record.id ∈ c.2 := h.head w record hhead
      rw [← hheld.1] at htried
      exact htried
    | claimed => cases hdead
    | processed => cases hdead
    | retried => cases hdead
    | cancelled => cases hdead
  · rw [hfresh.status] at hdead
    cases hdead

end

/-- In runs where no untried row loses its last attempt behind another row of its batch, only
rows that `publish` was started for are dead-lettered. -/
theorem dead_letters_tried (config : OutboxConfig) (now : Time)
    (is : List (Move OutboxStep (OutboxMove Payload))) (i : Move OutboxStep (OutboxMove Payload))
    (c c' : Pool (OutboxStore Payload) (Task Payload) × List Uuid)
    (hspares : (published config).Within (Spares config) (init now, []) (is ++ [i]))
    (hrun : (published config).run (init now, []) is = some c)
    (hstep : (published config).step c i = some c') :
    ∀ r' ∈ c'.1.shared.rows, r'.status = .deadLetter →
      (∀ r ∈ c.1.shared.rows, r.id = r'.id → r.status ≠ .deadLetter) → r'.id ∈ c.2 := by
  have hwatched : Watched config c :=
    (published config).run_preserves_within (fun _ _ _ h hc hs => watched_step h hc hs)
      (watched_init now) hspares.of_append hrun
  exact fun r' hr' hdead hnew =>
    dead_letter_step hwatched (hspares.step_at _ hrun) hstep hr' hdead hnew

/-- A handler of a row with one attempt fails. -/
def failedTry : List (Move OutboxStep (OutboxMove Unit)) :=
  [.env (.enqueue 1 demoEvent), .act 0 (.cancel 1), .act 0 .apply, .act 0 (.replay 1 1),
    .act 0 (.applyReplay 2 demoReplayId), .act 0 .poll, .act 0 (.claim [2]),
    .act 0 (.handler 0 .check), .act 0 (.handler 0 .throw), .act 0 .settle]

theorem dead_letters_tried_failed :
    ∃ c c', (published demoConfig).run (init 0, []) failedTry = some c ∧
      (published demoConfig).step c (.act 0 .mark) = some c' ∧
      ∀ r' ∈ c'.1.shared.rows, r'.status = .deadLetter →
        (∀ r ∈ c.1.shared.rows, r.id = r'.id → r.status ≠ .deadLetter) → r'.id ∈ c.2 := by
  have hsome : ((published demoConfig).run (init 0, []) (failedTry ++ [.act 0 .mark])).isSome := by
    decide
  obtain ⟨c', hc'⟩ := Option.isSome_iff_exists.mp hsome
  obtain ⟨c, hc, hstep⟩ := ((published demoConfig).run_snoc).mp hc'
  exact ⟨c, c', hc, hstep,
    dead_letters_tried demoConfig 0 failedTry (.act 0 .mark) c c' (by decide) hc hstep⟩

/-- Worker `w` claims both rows, crashes while the first one is published, and the lease
runs out. -/
def crashing (w : WorkerId) : List (Move OutboxStep (OutboxMove Unit)) :=
  [.act w .poll, .act w (.claim [1, 2]), .act w .crash, .env (.tick 300001)]

def fiveCrashes : List (Move OutboxStep (OutboxMove Unit)) :=
  [.env (.enqueue 1 demoEvent), .env (.enqueue 2 { demoEvent with eventId := demoReplayId })] ++
    ([0, 1, 2, 3, 4] : List WorkerId).flatMap crashing

/-- The second row is dead-lettered, and no worker ever published it. -/
theorem crashes_dead_letter_untried :
    ∃ c c', (published demoConfig).run (init 0, []) fiveCrashes = some c ∧
      (published demoConfig).step c (.act 5 .poll) = some c' ∧
      ∃ r' ∈ c'.1.shared.rows, r'.status = .deadLetter ∧
        (∀ r ∈ c.1.shared.rows, r.id = r'.id → r.status ≠ .deadLetter) ∧ r'.id ∉ c.2 := by
  have hrun : (((published demoConfig).run (init 0, []) fiveCrashes).any fun c =>
      ((published demoConfig).step c (.act 5 .poll)).any fun c' => c'.1.shared.rows.any fun r' =>
        r'.status = .deadLetter ∧
        (∀ r ∈ c.1.shared.rows, r.id = r'.id → r.status ≠ .deadLetter) ∧ r'.id ∉ c.2) = true := by
    decide +kernel
  obtain ⟨c, hc, hafter⟩ := (Option.any_eq_true _ _).mp hrun
  obtain ⟨c', hc', hrows⟩ := (Option.any_eq_true _ _).mp hafter
  obtain ⟨r', hr', hfacts⟩ := List.any_eq_true.mp hrows
  exact ⟨c, c', hc, hc', r', hr', of_decide_eq_true hfacts⟩

end OutboxProcessor
end OmniSupport.Outbox
