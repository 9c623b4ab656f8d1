import OmniSupport.Messaging.WebhookProcessing

/-! What one step can do to a stored webhook event, and the state machine of the rows: the
lock column, the terminal statuses, who writes the outcome, and when two executions of the
handler can overlap. -/
namespace OmniSupport.Messaging
open Foundation

variable {Payload Message ω lo η ε : Type}

namespace WebhookEvent

/-- `lockedBy` and `lockedAt` are set exactly while the row is being processed. -/
structure Locked (r : WebhookEvent Payload) : Prop where
  lockedBy : r.lockedBy.isSome ↔ r.status = .processing
  lockedAt : r.lockedAt.isSome ↔ r.status = .processing

def finished (r : WebhookEvent Payload) : Prop := r.status = .processed ∨ r.status = .cancelled

/-- A column the outcome write sets has changed, or the status has become an outcome. -/
def OutcomeWritten (r r' : WebhookEvent Payload) : Prop :=
  (r'.status ≠ r.status ∧ ∃ outcome : ProcessingOutcome, r'.status = outcome.status) ∨
    r'.processed ≠ r.processed ∨ r'.processedAt ≠ r.processedAt ∨ r'.error ≠ r.error ∨
    r'.retryCount ≠ r.retryCount

/-- A new row waits to be claimed. -/
structure Waiting (r : WebhookEvent Payload) : Prop where
  status : r.status = .received
  lockedBy : r.lockedBy = none
  lockedAt : r.lockedAt = none

end WebhookEvent

namespace WebhookTask

/-- The row a call has claimed, and when its lease began. -/
def lease : WebhookTask Payload lo → Option (Uuid × Time)
  | .reading id lockedAt | .handling id lockedAt _ | .completing id lockedAt _ =>
    some (id, lockedAt)
  | _ => none

/-- The instant the `staleBefore` of a call is taken from. -/
def startedAt : WebhookTask Payload lo → Option Time
  | .stamping _ startedAt | .claiming _ startedAt _ => some startedAt
  | _ => none

end WebhookTask

/-- The transitions of a row. -/
inductive Transition (c : Pool (WebhookStore Payload ω) (WebhookTask Payload lo)) :
    Move (WebhookStep η) (WebhookMove Payload ε) → WebhookEvent Payload → WebhookEvent Payload →
      Prop where
  | same (i r) : Transition c i r r
  | claimed (w id startedAt lockedAt r) (hl : c.locals w = .claiming id startedAt lockedAt)
      (h : r.claimable id startedAt) : Transition c (.act w .next) r (r.claim lockedAt w)
  | completed (w id lockedAt outcome r) (hl : c.locals w = .completing id lockedAt outcome)
      (h : r.heldBy id w) : Transition c (.act w .next) r (r.complete c.shared.now outcome)
  | cancelled (w r) (h : r.retryable) : Transition c (.act w .next) r r.cancel

namespace Transition
variable {c : Pool (WebhookStore Payload ω) (WebhookTask Payload lo)}
  {i : Move (WebhookStep η) (WebhookMove Payload ε)} {r r' : WebhookEvent Payload}

theorem id_eq (h : Transition c i r r') : r'.id = r.id := by
  cases h <;> rfl

theorem locked (h : Transition c i r r') (hl : r.Locked) : r'.Locked := by
  cases h with
  | same => exact hl
  | claimed => constructor <;> simp [WebhookEvent.claim]
  | completed w id lockedAt outcome =>
    cases outcome <;> constructor <;>
      simp [WebhookEvent.complete, ProcessingOutcome.status]
  | cancelled w r hr =>
    have hs : r.status ≠ .processing := by
      rcases hr with hr | hr | hr <;> simp [hr]
    have hby : r.lockedBy.isSome = false := by simpa [hs] using hl.lockedBy
    have hat : r.lockedAt.isSome = false := by simpa [hs] using hl.lockedAt
    constructor <;> simp [WebhookEvent.cancel, hby, hat]

/-- A finished row keeps its status. -/
theorem finished (h : Transition c i r r') (hl : r.Locked) (hf : r.finished) :
    r'.status = r.status := by
  cases h with
  | same => rfl
  | claimed w id startedAt lockedAt r hw h =>
    rcases hf with hf | hf <;>
      simp [WebhookEvent.claimable, WebhookEvent.retryable, WebhookEvent.stale, hf] at h
  | completed w id lockedAt outcome r hw h =>
    have hs : r.status = .processing := hl.lockedBy.mp (by simp [h.2])
    rcases hf with hf | hf <;> simp [hs] at hf
  | cancelled w r h =>
    rcases hf with hf | hf <;> simp [WebhookEvent.retryable, hf] at h

/-- A row under lease stays as it is, unless its holder writes the outcome or a call that
started after the lease expired claims it. -/
theorem leased (h : Transition c i r r') {w : WorkerId} (hs : r.status = .processing)
    (hw : r.lockedBy = some w) :
    r' = r ∨ (i = .act w .next ∧ ∃ lockedAt outcome,
        c.locals w = .completing r.id lockedAt outcome) ∨
      ∃ v startedAt, (c.locals v).startedAt = some startedAt ∧ r.stale startedAt := by
  cases h with
  | same => exact Or.inl rfl
  | claimed v id startedAt lockedAt r hl h =>
    rcases h.2.2 with hr | hstale
    · simp [WebhookEvent.retryable, hs] at hr
    · exact Or.inr (Or.inr ⟨v, startedAt, by rw [hl]; rfl, hstale⟩)
  | completed v id lockedAt outcome r hl h =>
    obtain rfl : v = w := by simpa [WebhookEvent.heldBy, hw] using h.2.symm
    exact Or.inr (Or.inl ⟨rfl, lockedAt, outcome, by rw [hl, h.1]⟩)
  | cancelled v r h => simp [WebhookEvent.retryable, hs] at h

/-- Only the holder's outcome write changes a column of the outcome. -/
theorem outcome (h : Transition c i r r') (hw : r.OutcomeWritten r') :
    ∃ w lockedAt outcome, i = .act w .next ∧ c.locals w = .completing r.id lockedAt outcome ∧
      r.lockedBy = some w ∧ r' = r.complete c.shared.now outcome := by
  cases h with
  | same => simp [WebhookEvent.OutcomeWritten] at hw
  | claimed w id startedAt lockedAt r hl h =>
    rcases hw with ⟨-, o, ho⟩ | hw
    · cases o <;> cases ho
    · simp [WebhookEvent.claim] at hw
  | completed w id lockedAt outcome r hl h =>
    exact ⟨w, lockedAt, outcome, rfl, by rw [hl, h.1], h.2, rfl⟩
  | cancelled w r h =>
    rcases hw with ⟨-, o, ho⟩ | hw
    · cases o <;> cases ho
    · simp [WebhookEvent.cancel] at hw

end Transition

namespace WebhookStore

abbrev Keyed (s : WebhookStore Payload ω) : Prop :=
  Table.Keyed WebhookEvent.id s.rows s.uuids

/-- No row that is being processed is deleted, and new rows wait. -/
structure RowStep (T : WebhookEvent Payload → WebhookEvent Payload → Prop)
    (s s' : WebhookStore Payload ω) : Prop where
  moved : Table.Moved WebhookEvent.id T (fun r => r.status ≠ .processing) WebhookEvent.Waiting
    s.rows s.uuids s'.rows s'.uuids
  now : s.now ≤ s'.now

variable {s s' : WebhookStore Payload ω}
  {T : WebhookEvent Payload → WebhookEvent Payload → Prop}

theorem RowStep.refl (hk : s.Keyed) (hT : ∀ r, T r r) : RowStep T s s :=
  ⟨.refl hk hT, le_rfl⟩

theorem RowStep.indexed (h : RowStep T s s') {s'' : WebhookStore Payload ω}
    (hi : s'.indexed = some s'') : RowStep T s s'' := by
  simp only [WebhookStore.indexed] at hi
  split at hi <;> cases hi
  exact h

/-- Row `id` is under the lease of `w` that began at `lockedAt`. -/
def Leased (s : WebhookStore Payload ω) (w : WorkerId) (id : Uuid) (lockedAt : Time) : Prop :=
  ∃ r ∈ s.rows, r.id = id ∧ r.status = .processing ∧ r.lockedBy = some w ∧
    r.lockedAt = some lockedAt

end WebhookStore

namespace WebhookProcessing
open WebhookStore
variable {H : InboundHandler Payload Message ω lo η ε}
  {c c' : Pool (WebhookStore Payload ω) (WebhookTask Payload lo)}
  {i : Move (WebhookStep η) (WebhookMove Payload ε)} {s' : WebhookStore Payload ω}
  {task' : WebhookTask Payload lo} {w : WorkerId}

theorem claim_rowStep {id : Uuid} {startedAt lockedAt : Time} (hk : c.shared.Keyed)
    (hl : c.locals w = .claiming id startedAt lockedAt)
    (h : c.shared.claim id startedAt lockedAt w = some s') :
    RowStep (Transition c (.act w .next : Move (WebhookStep η) (WebhookMove Payload ε)))
      c.shared s' := by
  have hmoved : RowStep (Transition c
      (.act w .next : Move (WebhookStep η) (WebhookMove Payload ε))) c.shared
      (c.shared.updateRows (WebhookEvent.claimable id startedAt)
        (WebhookEvent.claim lockedAt w)) :=
    ⟨.updateMany hk (fun r => .same _ r) (fun _ => rfl)
      fun r _ hp => .claimed w id startedAt lockedAt r hl hp, le_rfl⟩
  exact hmoved.indexed h

theorem next_rowStep (hk : c.shared.Keyed)
    (h : next H w c.shared (c.locals w) = some (s', task')) :
    RowStep (Transition c (.act w .next : Move (WebhookStep η) (WebhookMove Payload ε)))
      c.shared s' := by
  have hsame : ∀ r, Transition c (.act w .next : Move (WebhookStep η) (WebhookMove Payload ε)) r r :=
    fun r => .same _ r
  cases hl : c.locals w with
  | idle | creating _ | ended =>
    rw [hl] at h
    cases h
  | retrying | replaying | cancelling | starting | stamping | reading =>
    rw [hl] at h
    cases h
    exact .refl hk hsame
  | handling id lockedAt run =>
    rw [hl] at h
    obtain ⟨outcome, -, he⟩ := Option.map_eq_some_iff.mp h
    cases he
    exact .refl hk hsame
  | cancellingRow id =>
    rw [hl] at h
    cases h
    exact ⟨.updateMany hk hsame (fun _ => rfl) fun r _ hp => .cancelled w r hp.2, le_rfl⟩
  | completing id lockedAt outcome =>
    rw [hl] at h
    cases h
    exact ⟨.updateMany hk hsame (fun _ => rfl)
      fun r _ hp => .completed w id lockedAt outcome r hl hp, le_rfl⟩
  | claiming id startedAt lockedAt =>
    rw [hl] at h
    simp only [next] at h
    cases hclaim : c.shared.claim id startedAt lockedAt w with
    | none =>
      rw [hclaim] at h
      cases h
      exact .refl hk hsame
    | some s₁ =>
      rw [hclaim] at h
      cases h
      exact claim_rowStep hk hl hclaim

theorem create_rowStep {T : WebhookEvent Payload → WebhookEvent Payload → Prop} {id : Uuid}
    {task : WebhookTask Payload lo} (hk : c.shared.Keyed) (hT : ∀ r, T r r)
    (h : create c.shared id task = some (s', task')) : RowStep T c.shared s' := by
  cases task with
  | creating original =>
    simp only [create] at h
    split at h
    · cases h
    · rename_i hfresh
      have hinsert : RowStep T c.shared
          (c.shared.insertRow (original.replay id c.shared.now)) :=
        ⟨.insert hk hT hfresh ⟨rfl, rfl, rfl⟩, le_rfl⟩
      cases hindex : (c.shared.insertRow (original.replay id c.shared.now)).indexed with
      | none =>
        rw [hindex] at h
        cases h
        exact .refl hk hT
      | some s₁ =>
        rw [hindex] at h
        cases h
        exact hinsert.indexed hindex
  | _ => cases h

theorem act_rowStep {step : WebhookStep η} (hk : c.shared.Keyed)
    (h : act H w c.shared (c.locals w) step = some (s', task')) :
    RowStep (Transition c (.act w step : Move (WebhookStep η) (WebhookMove Payload ε)))
      c.shared s' := by
  have hsame : ∀ r, Transition c (.act w step : Move (WebhookStep η) (WebhookMove Payload ε)) r r :=
    fun r => .same _ r
  cases step with
  | next => exact next_rowStep hk h
  | create id => exact create_rowStep hk hsame h
  | handler step =>
    cases hl : c.locals w with
    | handling id lockedAt run =>
      rw [hl] at h
      obtain ⟨r, -, he⟩ := Option.map_eq_some_iff.mp h
      cases he
      exact ⟨.refl hk hsame, le_rfl⟩
    | _ =>
      rw [hl] at h
      cases h
  | crash =>
    cases h
    exact .refl hk hsame
  | _ =>
    obtain ⟨t, -, he⟩ := Option.map_eq_some_iff.mp h
    cases he
    exact .refl hk hsame

theorem move_rowStep {m : WebhookMove Payload ε} (hk : c.shared.Keyed)
    (h : move H c.shared m = some s') :
    RowStep (Transition c (.env m : Move (WebhookStep η) (WebhookMove Payload ε))) c.shared s' := by
  have hsame : ∀ r, Transition c (.env m : Move (WebhookStep η) (WebhookMove Payload ε)) r r :=
    fun r => .same _ r
  cases m with
  | receive id eventType payload signature =>
    simp only [move] at h
    split at h
    · cases h
    · rename_i hfresh
      cases h
      exact ⟨.insert hk hsame hfresh ⟨rfl, rfl, rfl⟩, le_rfl⟩
  | purge retentionMs =>
    cases h
    refine ⟨.deleteMany hk hsame fun r _ hp hs => ?_, le_rfl⟩
    rcases hp.1 with hf | hf | hf <;> rw [hs] at hf <;> cases hf
  | tick ms =>
    cases h
    exact ⟨.refl hk hsame, Nat.le_add_right _ _⟩
  | elsewhere step =>
    obtain ⟨base, -, rfl⟩ := Option.map_eq_some_iff.mp h
    exact ⟨.refl hk hsame, le_rfl⟩

theorem step_rowStep (hk : c.shared.Keyed) (h : (machine H).step c i = some c') :
    RowStep (Transition c i) c.shared c'.shared := by
  cases i with
  | act w step =>
    obtain ⟨s', task', ha, rfl⟩ := (program H).step_act.mp h
    exact act_rowStep hk ha
  | env m =>
    obtain ⟨s', hm, rfl⟩ := (program H).step_env.mp h
    exact move_rowStep hk hm

/-- How a call comes to hold a lease, and its start. -/
structure LeaseStep (w : WorkerId) (step : WebhookStep η) (s s' : WebhookStore Payload ω)
    (task task' : WebhookTask Payload lo) : Prop where
  lease : ∀ id t, task'.lease = some (id, t) →
    (task.lease = some (id, t) ∧
      ¬ (step = .next ∧ ∃ lockedAt outcome, task = .completing id lockedAt outcome)) ∨
    ∃ startedAt, step = .next ∧ task = .claiming id startedAt t ∧ task' = .reading id t ∧
      s.claim id startedAt t w = some s' ∧ s.claimCount id startedAt = 1
  startedAt : ∀ t, task'.startedAt = some t → task.startedAt = some t ∨ t = s.now

theorem LeaseStep.idle {step : WebhookStep η} {s : WebhookStore Payload ω}
    {task : WebhookTask Payload lo} (h : task'.lease = none) (h' : task'.startedAt = none) :
    LeaseStep w step s s' task task' where
  lease id t ht := by simp [h] at ht
  startedAt t ht := by simp [h'] at ht

theorem next_leaseStep {s : WebhookStore Payload ω} {task : WebhookTask Payload lo}
    (h : next H w s task = some (s', task')) : LeaseStep (η := η) w .next s s' task task' := by
  cases task with
  | idle | creating _ | ended => cases h
  | retrying id | cancelling id =>
    cases h
    by_cases hf : (s'.find id).isSome <;> simp only [hf, if_true, Bool.false_eq_true, if_false] <;>
      exact .idle rfl rfl
  | replaying id =>
    cases h
    cases s'.find id with
    | none => exact .idle rfl rfl
    | some original =>
      by_cases hr : original.eventType = .whatsappInbound ∧ original.replayable
      · simp only [hr, and_self, if_true]
        exact .idle rfl rfl
      · simp only [hr, if_false]
        exact .idle rfl rfl
  | cancellingRow id | completing id lockedAt outcome =>
    cases h
    exact .idle rfl rfl
  | starting id =>
    cases h
    exact ⟨fun _ _ ht => (by cases ht), fun t ht => Or.inr (Option.some.inj ht).symm⟩
  | stamping id startedAt =>
    cases h
    exact ⟨fun _ _ ht => (by cases ht), fun t ht => Or.inl ht⟩
  | claiming id startedAt lockedAt =>
    simp only [next] at h
    cases hclaim : s.claim id startedAt lockedAt w with
    | none =>
      rw [hclaim] at h
      cases h
      exact .idle rfl rfl
    | some s₁ =>
      rw [hclaim] at h
      cases h
      by_cases hcount : s.claimCount id startedAt = 1
      · simp only [hcount, if_true]
        refine ⟨fun id' t ht => ?_, fun _ ht => (by cases ht)⟩
        cases ht
        exact Or.inr ⟨startedAt, rfl, rfl, rfl, hclaim, hcount⟩
      · simp only [hcount, if_false]
        exact .idle rfl rfl
  | reading id lockedAt =>
    cases h
    cases s'.find id with
    | none => exact .idle rfl rfl
    | some event =>
      simp only [received]
      cases H.parseInboundMessage event.payload <;>
        exact ⟨fun _ _ ht => Or.inl ⟨ht, by simp⟩, fun _ ht => (by cases ht)⟩
  | handling id lockedAt run =>
    obtain ⟨outcome, -, he⟩ := Option.map_eq_some_iff.mp h
    cases he
    exact ⟨fun _ _ ht => Or.inl ⟨ht, by simp⟩, fun _ ht => (by cases ht)⟩

theorem act_leaseStep {step : WebhookStep η} {s : WebhookStore Payload ω}
    {task : WebhookTask Payload lo} (h : act H w s task step = some (s', task')) :
    LeaseStep w step s s' task task' := by
  cases step with
  | next => exact next_leaseStep h
  | create id =>
    cases task with
    | creating original =>
      simp only [act, create] at h
      split at h
      · cases h
      · split at h <;> cases h <;> exact .idle rfl rfl
    | _ => cases h
  | handler step =>
    cases task with
    | handling id lockedAt run =>
      obtain ⟨r, -, he⟩ := Option.map_eq_some_iff.mp h
      cases he
      exact ⟨fun _ _ ht => Or.inl ⟨ht, by simp⟩, fun _ ht => (by cases ht)⟩
    | _ => cases h
  | crash =>
    cases h
    exact .idle rfl rfl
  | throws =>
    obtain ⟨t, ht, he⟩ := Option.map_eq_some_iff.mp h
    cases he
    cases task <;> cases ht <;> exact .idle rfl rfl
  | _ =>
    obtain ⟨t, ht, he⟩ := Option.map_eq_some_iff.mp h
    cases he
    cases task <;> cases ht
    exact .idle rfl rfl

/-- A lease runs out, or its row stays with the call until the call writes the outcome. -/
theorem leased_step {id : Uuid} {t : Time} (h : RowStep (Transition c i) c.shared s')
    (hstarted : ∀ v, ∀ startedAt, (c.locals v).startedAt = some startedAt →
      startedAt ≤ c.shared.now)
    (hheld : c.shared.Leased w id t ∨ t + leaseMs < c.shared.now)
    (hwrite : ¬ (i = .act w .next ∧ ∃ lockedAt outcome,
      c.locals w = .completing id lockedAt outcome)) :
    s'.Leased w id t ∨ t + leaseMs < s'.now := by
  rcases hheld with ⟨r, hr, hid, hs, hw, hat⟩ | hexp
  · rcases h.moved.kept r hr with hf | ⟨r', hr', htr⟩
    · exact absurd hs hf
    · rcases htr.leased hs hw with rfl | hcompletes | ⟨v, startedAt, hv, -, hstale⟩
      · exact Or.inl ⟨r', hr', hid, hs, hw, hat⟩
      · rw [hid] at hcompletes
        exact absurd hcompletes hwrite
      · rw [hat, Option.any_some, decide_eq_true_eq] at hstale
        exact Or.inr (lt_of_lt_of_le hstale ((hstarted v startedAt hv).trans h.now))
  · exact Or.inr (lt_of_lt_of_le hexp h.now)

/-- What a call knows: it has started in the past, and holds its row while its lease runs. -/
structure Owns (w : WorkerId) (task : WebhookTask Payload lo) (s : WebhookStore Payload ω) :
    Prop where
  startedAt : ∀ t, task.startedAt = some t → t ≤ s.now
  lease : ∀ id t, task.lease = some (id, t) → s.Leased w id t ∨ t + leaseMs < s.now

abbrev leaseOutline : Program.Outline (WebhookStore Payload ω) (WebhookTask Payload lo) where
  inv s := s.Keyed ∧ ∀ r ∈ s.rows, r.Locked
  own := Owns
  pair _ _ := True

theorem locked_step (hl : ∀ r ∈ c.shared.rows, r.Locked)
    (h : RowStep (Transition c i) c.shared s') : ∀ r ∈ s'.rows, r.Locked := by
  intro r' hr'
  rcases h.moved.source r' hr' with ⟨r, hr, ht⟩ | ⟨-, hnew⟩
  · exact ht.locked (hl r hr)
  · constructor <;> simp [hnew.status, hnew.lockedBy, hnew.lockedAt]

/-- Right after its claim a call holds its row. -/
theorem leased_claim {s : WebhookStore Payload ω} {id : Uuid} {startedAt lockedAt : Time}
    (hclaim : s.claim id startedAt lockedAt w = some s')
    (hcount : s.claimCount id startedAt = 1) : s'.Leased w id lockedAt := by
  have hpos : 0 < s.claimCount id startedAt := by omega
  obtain ⟨r, hr, hp⟩ := Table.count_pos.mp hpos
  simp only [WebhookStore.claim, indexed] at hclaim
  split at hclaim <;> cases hclaim
  exact ⟨r.claim lockedAt w, Table.mem_updateMany.mpr (Or.inl ⟨r, hr, hp, rfl⟩),
    hp.1, rfl, rfl, rfl⟩

theorem leaseOutline_valid :
    (leaseOutline : Program.Outline (WebhookStore Payload ω) (WebhookTask Payload lo)).Valid
      (program H) fun _ _ => True where
  symm _ _ _ := trivial
  act c w step s task h _ ha := by
    have hs := act_rowStep h.inv.1 ha
    have hstarted := fun v => (h.own v).startedAt
    have hstep := act_leaseStep ha
    refine ⟨⟨hs.moved.keyed, locked_step h.inv.2 hs⟩, fun t ht => ?_, fun id t ht => ?_⟩
    · rcases hstep.startedAt t ht with hold | rfl
      · exact (hstarted w t hold).trans hs.now
      · exact hs.now
    · rcases hstep.lease id t ht with ⟨hold, hwrite⟩ | ⟨startedAt, -, -, -, hclaim, hcount⟩
      · refine leased_step hs hstarted ((h.own w).lease id t hold) fun hc => hwrite ?_
        exact ⟨by simpa using hc.1, hc.2⟩
      · exact Or.inl (leased_claim hclaim hcount)
  others c w step s task h _ ha v hv := by
    have hs := act_rowStep h.inv.1 ha
    have hstarted := fun v => (h.own v).startedAt
    refine ⟨⟨fun t ht => (hstarted v t ht).trans hs.now, fun id t ht => ?_⟩, trivial⟩
    refine leased_step hs hstarted ((h.own v).lease id t ht) fun hc => hv ?_
    have hact := hc.1
    simp only [Move.act.injEq] at hact
    exact hact.1.symm
  env c m s h _ hm := by
    have hs := move_rowStep h.inv.1 hm
    have hstarted := fun v => (h.own v).startedAt
    refine ⟨⟨hs.moved.keyed, locked_step h.inv.2 hs⟩, fun v =>
      ⟨fun t ht => (hstarted v t ht).trans hs.now, fun id t ht => ?_⟩⟩
    exact leased_step hs hstarted ((h.own v).lease id t ht) fun hc => by cases hc.1

theorem leaseOutline_init (now : Time) (base : ω) :
    (leaseOutline : Program.Outline (WebhookStore Payload ω) (WebhookTask Payload lo)).Holds
      (init now base) where
  inv := by
    refine ⟨?_, by simp [init]⟩
    constructor <;> simp [init]
  own p := by constructor <;> simp [init, WebhookTask.startedAt, WebhookTask.lease]
  pair _ _ _ := trivial

theorem leaseOutline_of_run {now : Time} {base : ω}
    {is : List (Move (WebhookStep η) (WebhookMove Payload ε))}
    (hr : (machine H).run (init now base) is = some c) :
    (leaseOutline : Program.Outline (WebhookStore Payload ω) (WebhookTask Payload lo)).Holds c :=
  leaseOutline_valid.run (leaseOutline_init now base) hr

/-- The rows under the id of a finished row, now and later: at most that row, in the status
it finished in. -/
theorem finished_run {r : WebhookEvent Payload} (hf : r.finished)
    (h : (leaseOutline : Program.Outline (WebhookStore Payload ω)
      (WebhookTask Payload lo)).Holds c)
    (hr : r ∈ c.shared.rows) {js : List (Move (WebhookStep η) (WebhookMove Payload ε))}
    (hj : (machine H).run c js = some c') :
    ∀ r' ∈ c'.shared.rows, r'.id = r.id → r'.status = r.status := by
  have hrows : ∀ r' ∈ c.shared.rows, r'.id = r.id → r'.Locked ∧ r'.status = r.status := by
    intro r' hr' hid
    rw [h.inv.1.eq hr' hr hid]
    exact ⟨h.inv.2 r hr, rfl⟩
  have hall := (machine H).run_preserves
    (P := fun c => (leaseOutline : Program.Outline (WebhookStore Payload ω)
        (WebhookTask Payload lo)).Holds c ∧ r.id ∈ c.shared.uuids ∧
      ∀ r' ∈ c.shared.rows, r'.id = r.id → r'.Locked ∧ r'.status = r.status)
    (fun c i c' hc hs => ?_) ⟨h, h.inv.1.known r hr, hrows⟩ hj
  · exact fun r' hr' hid => (hall.2.2 r' hr' hid).2
  · obtain ⟨hh, hu, hrows⟩ := hc
    have hstep := step_rowStep hh.inv.1 hs
    refine ⟨leaseOutline_valid.step c i c' hh trivial hs, hstep.moved.grows hu, ?_⟩
    refine hstep.moved.under (fun r₁ r₂ ht => ht.id_eq) (fun r₁ r₂ ht hP => ?_) hu hrows
    refine ⟨ht.locked hP.1, ?_⟩
    have hkeeps := ht.finished hP.1 (by rw [WebhookEvent.finished, hP.2]; exact hf)
    exact hkeeps.trans hP.2

/-- A row that is claimed while it is being processed is stale. -/
theorem stale_of_claimed {s : WebhookStore Payload ω} {id : Uuid} {startedAt : Time}
    {r : WebhookEvent Payload} (hk : s.Keyed) (hcount : s.claimCount id startedAt = 1)
    (hr : r ∈ s.rows) (hid : r.id = id) (hs : r.status = .processing) : r.stale startedAt := by
  have hpos : 0 < s.claimCount id startedAt := by omega
  obtain ⟨r₀, hr₀, hp⟩ := Table.count_pos.mp hpos
  have hsame : r₀ = r := hk.eq hr₀ hr (hp.1.trans hid.symm)
  rw [hsame] at hp
  rcases hp.2.2 with hretry | hstale
  · simp [WebhookEvent.retryable, hs] at hretry
  · exact hstale

/-- When a call claims a row that another one has claimed and not given up, the lease of
the other has expired. -/
theorem claim_after_lease {id : Uuid} {v w : WorkerId} {t t' : Time}
    (h : (leaseOutline : Program.Outline (WebhookStore Payload ω)
      (WebhookTask Payload lo)).Holds c)
    (hs : (machine H).step c i = some c') (hv : (c.locals v).lease = some (id, t))
    (hw : (c.locals w).lease = none) (hclaimed : (c'.locals w).lease = some (id, t')) :
    t + leaseMs < c.shared.now := by
  cases i with
  | env m =>
    obtain ⟨s', -, rfl⟩ := (program H).step_env.mp hs
    rw [hw] at hclaimed
    cases hclaimed
  | act p step =>
    obtain ⟨s', task', ha, rfl⟩ := (program H).step_act.mp hs
    by_cases hp : w = p
    · subst p
      rw [Pool.put_locals_self] at hclaimed
      rcases (act_leaseStep ha).lease id t' hclaimed with
        ⟨hold, -⟩ | ⟨startedAt, -, hl, -, hclaim, hcount⟩
      · rw [hw] at hold
        cases hold
      · have hpast : startedAt ≤ c.shared.now := (h.own w).startedAt startedAt (by rw [hl]; rfl)
        rcases (h.own v).lease id t hv with ⟨r, hr, hid, hst, -, hat⟩ | hexp
        · have hstale := stale_of_claimed h.inv.1 hcount hr hid hst
          rw [WebhookEvent.stale, hat, Option.any_some, decide_eq_true_eq] at hstale
          exact lt_of_lt_of_le hstale.2 hpast
        · exact hexp
    · rw [c.put_locals_of_ne s' task' hp, hw] at hclaimed
      cases hclaimed

/-- The webhook row state machine. The lock column is set exactly while a row is being
processed; a processed or cancelled row keeps its status; only the call whose number is in
`lockedBy` writes the outcome; and when a call claims a row during another call's execution
of the handler, the lease of that call has expired. -/
theorem webhook_row_lifecycle (H : InboundHandler Payload Message ω lo η ε) (now : Time)
    (base : ω) (is : List (Move (WebhookStep η) (WebhookMove Payload ε)))
    (c : Pool (WebhookStore Payload ω) (WebhookTask Payload lo))
    (hrun : (machine H).run (init now base) is = some c) :
    (∀ r ∈ c.shared.rows, r.lockedBy.isSome ↔ r.status = .processing) ∧
    (∀ js c', (machine H).run c js = some c' →
      ∀ r ∈ c.shared.rows, r.status = .processed ∨ r.status = .cancelled →
        ∀ r' ∈ c'.shared.rows, r'.id = r.id → r'.status = r.status) ∧
    (∀ i c', (machine H).step c i = some c' →
      ∀ r ∈ c.shared.rows, ∀ r' ∈ c'.shared.rows, r'.id = r.id → r.OutcomeWritten r' →
        ∃ w lockedAt outcome, i = .act w .next ∧
          c.locals w = .completing r.id lockedAt outcome ∧ r.lockedBy = some w ∧
          r' = r.complete c.shared.now outcome) ∧
    (∀ i c', (machine H).step c i = some c' →
      ∀ v w id t t', (c.locals v).lease = some (id, t) → (c.locals w).lease = none →
        (c'.locals w).lease = some (id, t') → t + leaseMs < c.shared.now) := by
  have h := leaseOutline_of_run hrun
  refine ⟨fun r hr => (h.inv.2 r hr).lockedBy, ?_, ?_, ?_⟩
  · exact fun js c' hj r hr hf => finished_run hf h hr hj
  · intro i c' hs r hr r' hr' hid hwritten
    have hstep := step_rowStep h.inv.1 hs
    rcases hstep.moved.source r' hr' with ⟨r₀, hr₀, ht⟩ | ⟨hfresh, -⟩
    · have hsame : r₀ = r := h.inv.1.eq hr₀ hr (ht.id_eq.symm.trans hid)
      rw [hsame] at ht
      exact ht.outcome hwritten
    · exact absurd (hid ▸ h.inv.1.known r hr) hfresh
  · exact fun i c' hs v w id t t' hv hw hclaimed => claim_after_lease h hs hv hw hclaimed

/-- A handler whose only step ends it. -/
def demoHandler : InboundHandler Unit Unit Unit Bool Unit Unit where
  parseInboundMessage _ := some ()
  execute _ := false
  step _ s _ := some (s, true)
  outcome done := if done then some .processed else none
  elsewhere _ s := some s

/-- A call claims the row, its lease expires during the handler, an operator's retry takes
the row over and completes it, and the first call comes back too late. -/
def takeOver : List (Move (WebhookStep Unit) (WebhookMove Unit Unit)) :=
  [.env (.receive 1 .whatsappInbound () "sig"), .act 0 (.process 1), .act 0 .next, .act 0 .next,
    .act 0 .next, .act 0 .next, .env (.tick 300001), .act 1 (.retry 1), .act 1 .next,
    .act 1 .next, .act 1 .next, .act 1 .next, .act 1 .next, .act 1 (.handler ()), .act 1 .next,
    .act 1 .next, .act 0 (.handler ()), .act 0 .next, .act 0 .next]

theorem webhook_row_lifecycle_take_over :
    ∃ c, (machine demoHandler).run (init 0 ()) takeOver = some c ∧
      ((∀ r ∈ c.shared.rows, r.lockedBy.isSome ↔ r.status = .processing) ∧
      (∀ js c', (machine demoHandler).run c js = some c' →
        ∀ r ∈ c.shared.rows, r.status = .processed ∨ r.status = .cancelled →
          ∀ r' ∈ c'.shared.rows, r'.id = r.id → r'.status = r.status) ∧
      (∀ i c', (machine demoHandler).step c i = some c' →
        ∀ r ∈ c.shared.rows, ∀ r' ∈ c'.shared.rows, r'.id = r.id → r.OutcomeWritten r' →
          ∃ w lockedAt outcome, i = .act w .next ∧
            c.locals w = .completing r.id lockedAt outcome ∧ r.lockedBy = some w ∧
            r' = r.complete c.shared.now outcome) ∧
      (∀ i c', (machine demoHandler).step c i = some c' →
        ∀ v w id t t', (c.locals v).lease = some (id, t) → (c.locals w).lease = none →
          (c'.locals w).lease = some (id, t') → t + leaseMs < c.shared.now)) := by
  have hsome : ((machine demoHandler).run (init 0 ()) takeOver).isSome := by decide
  obtain ⟨c, hc⟩ := Option.isSome_iff_exists.mp hsome
  exact ⟨c, hc, webhook_row_lifecycle demoHandler 0 () takeOver c hc⟩

end WebhookProcessing
end OmniSupport.Messaging
