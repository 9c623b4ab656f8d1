import OmniSupport.Outbox.RowLifecycle

/-! The attempts of a row against the attempts it was granted. A claim counts one in its
second statement, a retry grants some in its second statement, and both rely on what the
first one has seen. -/
namespace OmniSupport.Outbox
open Foundation

variable {Payload : Type}

/-- No more attempts than granted, and one left while the row waits for a worker. -/
structure OutboxEvent.Accounted (r : OutboxEvent Payload) : Prop where
  bound : r.attempts ≤ r.maxAttempts
  waiting : r.status = .pending ∨ r.status = .failed → r.attempts < r.maxAttempts

namespace OutboxProcessor
open OutboxStore
variable {config : OutboxConfig}

/-- No attempt was counted since the retry read the row it is about to set back. -/
def ReadStands (s : OutboxStore Payload) : Task Payload → Prop
  | .retrying id attempts _ => ∀ r ∈ s.rows, r.id = id → r.retryable → r.attempts = attempts
  | _ => True

instance (s : OutboxStore Payload) : DecidablePred (ReadStands s)
  | .retrying id attempts _ =>
    inferInstanceAs (Decidable (∀ r ∈ s.rows, r.id = id → r.retryable → r.attempts = attempts))
  | .idle | .claiming | .delivering .. | .completing .. | .failing .. | .cancelling _
  | .replaying .. | .crashed => isTrue trivial

/-- The row is as the first statement of the call has left or seen it: a claim takes over no
exhausted row whose lease ran out after the dead letters were written, and no attempt was
counted between the read and the update of a retry. -/
def Timely (config : OutboxConfig) (c : Pool (OutboxStore Payload) (Task Payload)) :
    Move OutboxStep (OutboxMove Payload) → Prop
  | .act _ (.claim picked) => ∀ r ∈ c.shared.rows, r.id ∈ picked →
      r.leaseExpired c.shared.now config.leaseMs → r.attempts < r.maxAttempts
  | .act w .apply => ReadStands c.shared (c.locals w)
  | _ => True

instance (c : Pool (OutboxStore Payload) (Task Payload)) : DecidablePred (Timely config c)
  | .act _ (.claim picked) =>
    inferInstanceAs (Decidable (∀ r ∈ c.shared.rows, r.id ∈ picked →
      r.leaseExpired c.shared.now config.leaseMs → r.attempts < r.maxAttempts))
  | .act w .apply => inferInstanceAs (Decidable (ReadStands c.shared (c.locals w)))
  | .act _ .poll | .act _ (.handler ..) | .act _ .settle | .act _ .mark | .act _ (.markThrows _)
  | .act _ .crash | .act _ (.retry ..) | .act _ (.cancel _) | .act _ (.replay ..)
  | .act _ (.applyReplay ..) | .act _ .throws | .env _ => isTrue trivial

/-- `retryMaxAttempts` is at least one, as the schema of the settings asks. -/
def Grants : Move OutboxStep (OutboxMove Payload) → Prop
  | .act _ (.retry _ retryMaxAttempts) | .act _ (.replay _ retryMaxAttempts) =>
    1 ≤ retryMaxAttempts
  | _ => True

/-- The worker's copies have the counts of the rows it holds. -/
def AsClaimed (w : WorkerId) (task : Task Payload) (s : OutboxStore Payload) : Prop :=
  ∀ record ∈ task.batch, ∀ r ∈ s.rows, r.heldBy record.id w →
    r.attempts = record.attempts ∧ r.maxAttempts = record.maxAttempts

/-- What an operator's call is about to grant. -/
def Granting : Task Payload → Prop
  | .retrying _ _ granted | .replaying _ granted => 1 ≤ granted
  | _ => True

abbrev attemptOutline : Program.Outline (OutboxStore Payload) (Task Payload) where
  inv s := s.Keyed ∧ ∀ r ∈ s.rows, r.Accounted
  own w task s := AsClaimed w task s ∧ Granting task
  pair _ _ := True

section
variable {c : Pool (OutboxStore Payload) (Task Payload)} {s s' : OutboxStore Payload}
  {i : Move OutboxStep (OutboxMove Payload)} {w : WorkerId} {r r' : OutboxEvent Payload}

theorem accounted_updateRows {p : OutboxEvent Payload → Prop} [DecidablePred p]
    {f : OutboxEvent Payload → OutboxEvent Payload} (h : ∀ r ∈ s.rows, r.Accounted)
    (hf : ∀ r ∈ s.rows, p r → (f r).Accounted) : ∀ r ∈ (s.updateRows p f).rows, r.Accounted := by
  intro r' hr'
  rcases Table.mem_updateMany.mp hr' with ⟨r, hr, hp, rfl⟩ | ⟨hr, -⟩
  · exact hf r hr hp
  · exact h r' hr

theorem accounted_insertRow (h : ∀ r ∈ s.rows, r.Accounted) (hr : r.Accounted) :
    ∀ r' ∈ (s.insertRow r).rows, r'.Accounted := by
  intro r' hr'
  rcases List.mem_append.mp hr' with hold | hnew
  · exact h r' hold
  · rw [List.mem_singleton.mp hnew]
    exact hr

theorem accounted_guardReplay (h : ∀ r ∈ s.rows, r.Accounted)
    (h' : ∀ r ∈ s'.rows, r.Accounted) : ∀ r ∈ (s.guardReplay s').rows, r.Accounted := by
  unfold OutboxStore.guardReplay
  split
  · exact h'
  · exact h

/-- The claim counts an attempt the row still had. -/
theorem accounted_claim {picked : List Uuid} (hk : c.shared.Keyed)
    (h : ∀ r ∈ c.shared.rows, r.Accounted) (hcan : c.shared.canClaim config picked)
    (htimely : Timely config c (.act w (.claim picked))) :
    ∀ r ∈ (c.shared.claim w picked).rows, r.Accounted := by
  refine accounted_updateRows h fun r hr hp => ?_
  obtain ⟨r₀, hr₀, hid, hclaimable⟩ := hcan.2 r.id hp
  obtain rfl := hk.eq hr₀ hr hid
  have hleft : r₀.attempts < r₀.maxAttempts := by
    rcases hclaimable with ⟨hstatus, -⟩ | hexpired
    · exact (h r₀ hr).waiting hstatus
    · exact htimely r₀ hr hp hexpired
  constructor
  · exact hleft
  · simp [OutboxEvent.claim]

theorem accounted_markFailed {record : OutboxEvent Payload} {error : String}
    (h : ∀ r ∈ s.rows, r.Accounted)
    (hcopy : ∀ r ∈ s.rows, r.heldBy record.id w →
      r.attempts = record.attempts ∧ r.maxAttempts = record.maxAttempts) :
    ∀ r ∈ (s.markFailed record w error).rows, r.Accounted := by
  refine accounted_updateRows h fun r hr hheld => ?_
  obtain ⟨hattempts, hmax⟩ := hcopy r hr hheld
  constructor
  · exact (h r hr).bound
  · by_cases hdead : record.maxAttempts ≤ record.attempts
    · simp [OutboxEvent.failed, hdead]
    · simp only [OutboxEvent.failed]
      omega

/-- A retry grants attempts on top of the ones the operator has read. -/
theorem accounted_retry {id : Uuid} {attempts granted : Nat} (h : ∀ r ∈ s.rows, r.Accounted)
    (hgranted : 1 ≤ granted)
    (htimely : ∀ r ∈ s.rows, r.id = id → r.retryable → r.attempts = attempts) :
    ∀ r ∈ (s.retryOutbox id (attempts + granted)).rows, r.Accounted := by
  refine accounted_guardReplay h (accounted_updateRows h fun r hr hp => ?_)
  have hread := htimely r hr hp.1 hp.2
  constructor
  · simp only [OutboxEvent.retry]
    omega
  · simp only [OutboxEvent.retry]
    omega

theorem accounted_replay {id : Uuid} {eventId : EventId} {granted : Nat}
    {original : OutboxEvent Payload} (h : ∀ r ∈ s.rows, r.Accounted) (hgranted : 1 ≤ granted) :
    ∀ r ∈ (s.replayOutbox id eventId granted original).rows, r.Accounted := by
  unfold OutboxStore.replayOutbox
  split
  · exact h
  · refine accounted_guardReplay h (accounted_insertRow h ?_)
    exact ⟨Nat.zero_le _, fun _ => hgranted⟩

theorem accounted_act {step : OutboxStep} {task' : Task Payload}
    (h : attemptOutline.Holds c) (htimely : Timely config c (.act w step))
    (hact : act config w c.shared (c.locals w) step = some (s', task')) :
    ∀ r ∈ s'.rows, r.Accounted := by
  obtain ⟨hk, hacc⟩ := h.inv
  obtain ⟨hcopies, hgranting⟩ := h.own w
  cases step with
  | poll =>
    simp only [act] at hact
    split at hact <;> cases hact
    refine accounted_updateRows hacc fun r hr hp => ⟨(hacc r hr).bound, ?_⟩
    simp [OutboxEvent.deadLetterExpired]
  | claim picked =>
    simp only [act] at hact
    split at hact
    · split at hact <;> cases hact
      rename_i hcan
      exact accounted_claim hk hacc hcan htimely
    · cases hact
  | handler index step =>
    obtain ⟨_, _, _, _, _, _, _, hone, _⟩ := stepHandler_eq_some hact
    rw [(runOnce_rows hone).1]
    exact hacc
  | mark =>
    simp only [act, mark] at hact
    split at hact <;> cases hact
    · refine accounted_updateRows hacc fun r hr hp => ⟨(hacc r hr).bound, ?_⟩
      simp [OutboxEvent.processed]
    · rename_i record error rest hl
      refine accounted_markFailed hacc fun r hr hheld => hcopies record ?_ r hr hheld
      rw [hl]
      exact List.mem_cons_self
  | apply =>
    simp only [act, apply] at hact
    split at hact <;> cases hact
    · rename_i id attempts granted hl
      have hstands : ReadStands c.shared (c.locals w) := htimely
      rw [hl] at hgranting hstands
      exact accounted_retry hacc hgranting hstands
    · refine accounted_updateRows hacc fun r hr hp => ⟨(hacc r hr).bound, ?_⟩
      simp [OutboxEvent.cancel]
  | applyReplay id eventId =>
    simp only [act, applyReplay] at hact
    split at hact
    · rename_i original granted hl
      split at hact <;> cases hact
      rw [hl] at hgranting
      exact accounted_replay hacc hgranting
    · cases hact
  | crash =>
    cases hact
    exact hacc
  | _ =>
    simp only [act, Option.map_eq_some_iff, Prod.mk.injEq] at hact
    obtain ⟨_, _, rfl, _⟩ := hact
    exact hacc

theorem accounted_move {m : OutboxMove Payload} (h : ∀ r ∈ s.rows, r.Accounted)
    (hm : move s m = some s') : ∀ r ∈ s'.rows, r.Accounted := by
  cases m with
  | enqueue id event =>
    simp only [move] at hm
    split at hm <;> cases hm
    unfold OutboxStore.enqueue
    split
    · exact h
    · exact accounted_insertRow h ⟨Nat.zero_le _, fun _ => Nat.zero_lt_succ _⟩
  | purge retentionMs =>
    cases hm
    exact fun r hr => h r (Table.mem_deleteMany.mp hr).1
  | deleteProcessed ids =>
    cases hm
    exact fun r hr => h r (Table.mem_deleteMany.mp hr).1
  | forget key =>
    cases hm
    exact h
  | tick ms =>
    cases hm
    exact h

/-- A row comes to be held by a worker through its own claim only. -/
theorem transition_heldBy {id : Uuid} (h : Transition config c i r r') (hheld : r'.heldBy id w) :
    r' = r ∨ ∃ picked, i = .act w (.claim picked) := by
  cases h with
  | same => exact Or.inl rfl
  | claimed v picked r hp hclaimable =>
    obtain rfl : v = w := Option.some.inj hheld.2.1
    exact Or.inr ⟨picked, rfl⟩
  | failed v record error rest r hl hfailed =>
    cases hheld.2.1
  | deadLettered | processed | cancelled => cases hheld.2.1
  | retried => cases hheld.2.2

theorem asClaimed_step {task : Task Payload} (h : AsClaimed w task c.shared)
    (hs : RowStep (Transition config c i) c.shared s')
    (hother : ∀ picked, i ≠ .act w (.claim picked)) : AsClaimed w task s' := by
  intro record hm r' hr' hheld
  rcases hs.source r' hr' with ⟨r, hr, ht⟩ | hfresh
  · rcases transition_heldBy ht hheld with rfl | ⟨picked, hi⟩
    · exact h record hm r' hr hheld
    · exact absurd hi (hother picked)
  · have hstatus := hheld.2.2
    rw [hfresh.status] at hstatus
    cases hstatus

/-- What a claim returns are the rows as it left them. -/
theorem asClaimed_claim {picked : List Uuid} (hk : (s.claim w picked).Keyed)
    {task : Task Payload} (hb : task.batch = s.claimed w picked) :
    AsClaimed w task (s.claim w picked) := by
  intro record hm r hr hheld
  rw [hb, OutboxStore.claimed, List.mem_insertionSort, List.mem_filter] at hm
  obtain rfl := hk.eq hm.1 hr hheld.1.symm
  exact ⟨rfl, rfl⟩

theorem asClaimed_act {step : OutboxStep} {task' : Task Payload}
    (h : AsClaimed w (c.locals w) c.shared)
    (hact : act config w c.shared (c.locals w) step = some (s', task'))
    (hs : RowStep (Transition config c (.act w step)) c.shared s') : AsClaimed w task' s' := by
  rcases batch_act hact with ⟨picked, -, rfl, hb⟩ | ⟨hb, hmid⟩ | hb | ⟨rfl, record, -, hb⟩
  · exact asClaimed_claim hs.keyed hb
  · have hsame : AsClaimed w (c.locals w) s' := by
      refine asClaimed_step h hs fun picked he => ?_
      cases he
      exact hmid
    intro record hm
    rw [hb] at hm
    exact hsame record hm
  · intro record hm
    rw [hb] at hm
    cases hm
  · have hsame : AsClaimed w (c.locals w) s' := asClaimed_step h hs fun picked he => by cases he
    intro record' hm
    exact hsame record' (hb ▸ List.mem_cons_of_mem record hm)

theorem granting_read {id : Uuid} {found : OutboxEvent Payload → Task Payload}
    {task task' : Task Payload} (hfound : ∀ row, Granting (found row))
    (h : read s id found task = some task') : Granting task' := by
  cases task with
  | idle =>
    simp only [read, Option.some.injEq] at h
    subst h
    split
    · trivial
    · exact hfound _
  | _ => cases h

theorem granting_deliver (records : List (OutboxEvent Payload)) :
    Granting (deliver config records) := by
  cases records <;> trivial

theorem granting_act {step : OutboxStep} {task task' : Task Payload}
    (hgrants : Grants (.act w step : Move OutboxStep (OutboxMove Payload)))
    (hact : act config w s task step = some (s', task')) : Granting task' := by
  cases step with
  | retry id granted =>
    obtain ⟨t, ht, he⟩ := Option.map_eq_some_iff.mp hact
    cases he
    refine granting_read (fun _ => ?_) ht
    exact hgrants
  | replay id granted =>
    obtain ⟨t, ht, he⟩ := Option.map_eq_some_iff.mp hact
    cases he
    refine granting_read (fun row => ?_) ht
    split
    · exact hgrants
    · trivial
  | cancel id =>
    obtain ⟨t, ht, he⟩ := Option.map_eq_some_iff.mp hact
    cases he
    refine granting_read (fun _ => ?_) ht
    trivial
  | poll =>
    simp only [act] at hact
    split at hact <;> cases hact
    trivial
  | claim picked =>
    simp only [act] at hact
    split at hact
    · split at hact <;> cases hact
      exact granting_deliver _
    · cases hact
  | handler index step =>
    obtain ⟨_, _, _, _, _, _, _, _, rfl⟩ := stepHandler_eq_some hact
    trivial
  | mark =>
    simp only [act, mark] at hact
    split at hact <;> cases hact <;> exact granting_deliver _
  | apply =>
    simp only [act, apply] at hact
    split at hact <;> cases hact <;> trivial
  | applyReplay id eventId =>
    simp only [act, applyReplay] at hact
    split at hact
    · split at hact <;> cases hact
      trivial
    · cases hact
  | crash =>
    cases hact
    trivial
  | settle =>
    obtain ⟨t, ht, he⟩ := Option.map_eq_some_iff.mp hact
    cases he
    cases task with
    | delivering record runs rest =>
      simp only [settle] at ht
      split at ht
      · cases ht
      · split at ht <;> cases ht <;> trivial
    | _ => cases ht
  | markThrows message =>
    obtain ⟨t, ht, he⟩ := Option.map_eq_some_iff.mp hact
    cases he
    cases task <;> cases ht <;> trivial
  | throws =>
    obtain ⟨t, ht, he⟩ := Option.map_eq_some_iff.mp hact
    cases he
    cases task <;> cases ht <;> trivial

theorem attemptOutline_valid :
    (attemptOutline : Program.Outline (OutboxStore Payload) (Task Payload)).Valid
      (program config) fun c i => Timely config c i ∧ Grants i where
  symm _ _ _ := trivial
  act c w step s task h hc ha := by
    have hs := act_rowStep h.inv.1 ha
    exact ⟨⟨hs.keyed, accounted_act h hc.1 ha⟩, asClaimed_act (h.own w).1 ha hs,
      granting_act hc.2 ha⟩
  others c w step s task h hc ha v hv := by
    have hs := act_rowStep h.inv.1 ha
    refine ⟨⟨asClaimed_step (h.own v).1 hs fun picked he => ?_, (h.own v).2⟩, trivial⟩
    cases he
    exact hv rfl
  env c m s h _ hm := by
    have hs := move_rowStep config h.inv.1 hm
    exact ⟨⟨hs.keyed, accounted_move h.inv.2 hm⟩,
      fun v => ⟨asClaimed_step (h.own v).1 hs (fun picked he => by cases he), (h.own v).2⟩⟩

theorem attemptOutline_init (now : Time) :
    (attemptOutline : Program.Outline (OutboxStore Payload) (Task Payload)).Holds (init now) where
  inv := by
    refine ⟨?_, by simp [init, OutboxStore.init]⟩
    constructor <;> simp [init, OutboxStore.init]
  own p := ⟨by simp [AsClaimed, init, Task.batch], trivial⟩
  pair _ _ _ := trivial

/-- The row a retry has set back has as many attempts left as were granted. -/
theorem retry_grants {id : Uuid} {attempts granted : Nat} (hk : s.Keyed) (hr : r ∈ s.rows)
    (hid : r.id = id) (hretryable : r.retryable) (hread : r.attempts = attempts)
    (hr' : r' ∈ (s.retryOutbox id (attempts + granted)).rows) (hid' : r'.id = id)
    (hpending : r'.status = .pending) : r'.maxAttempts = r'.attempts + granted := by
  have hold : r' ∈ s.rows → False := by
    intro hmem
    obtain rfl := hk.eq hmem hr (hid'.trans hid.symm)
    rcases hretryable with hstatus | hstatus <;> rw [hpending] at hstatus <;> cases hstatus
  unfold OutboxStore.retryOutbox OutboxStore.guardReplay at hr'
  split at hr'
  · rcases Table.mem_updateMany.mp hr' with ⟨row, hrow, hp, rfl⟩ | ⟨hmem, -⟩
    · obtain rfl := hk.eq hrow hr (hp.1.trans hid.symm)
      simp only [OutboxEvent.retry]
      omega
    · exact absurd hmem hold
  · exact absurd hr' hold

end

/-- In runs whose second statements find the rows as the first ones did, no row has more
attempts than granted, a waiting row has one left, and a retry leaves exactly the attempts
of the settings. -/
theorem attempts_accounted (config : OutboxConfig) (now : Time)
    (is : List (Move OutboxStep (OutboxMove Payload)))
    (c : Pool (OutboxStore Payload) (Task Payload)) (hsettings : ∀ i ∈ is, Grants i)
    (htimely : (machine config).Within (Timely config) (init now) is)
    (hrun : (machine config).run (init now) is = some c) :
    (∀ r ∈ c.shared.rows, r.attempts ≤ r.maxAttempts ∧
      (r.status = .pending ∨ r.status = .failed → r.attempts < r.maxAttempts)) ∧
    ∀ js w c₁ id attempts granted, is = js ++ [.act w .apply] →
      (machine config).run (init now) js = some c₁ →
      c₁.locals w = .retrying id attempts granted →
      ∀ r ∈ c₁.shared.rows, r.id = id → r.retryable →
      ∀ r' ∈ c.shared.rows, r'.id = id → r'.status = .pending →
        1 ≤ granted ∧ r'.maxAttempts = r'.attempts + granted := by
  have hwithin := htimely.and_labels _ hsettings
  refine ⟨fun r hr => ?_, ?_⟩
  · have h := (attemptOutline_valid.run_within (attemptOutline_init now) hwithin hrun).inv.2 r hr
    exact ⟨h.bound, h.waiting⟩
  · rintro js w c₁ id attempts granted rfl hjs hl r hr hid hretryable r' hr' hid' hpending
    have h := attemptOutline_valid.run_within (attemptOutline_init now) (hwithin.of_append _) hjs
    have hstands : ReadStands c₁.shared (c₁.locals w) := htimely.step_at _ hjs
    rw [hl] at hstands
    have hread := hstands r hr hid hretryable
    obtain ⟨c₂, hc₂, hstep⟩ := ((machine config).run_append).mp hrun
    obtain rfl : c₂ = c₁ := Option.some.inj (hc₂.symm.trans hjs)
    obtain ⟨c₃, hstep, hnil⟩ := ((machine config).run_cons).mp hstep
    cases hnil
    obtain ⟨s', task', hact, rfl⟩ := (program config).step_act.mp hstep
    have happly : apply c₂.shared (c₂.locals w) = some (s', task') := hact
    rw [hl] at happly
    cases happly
    have hgranted : 1 ≤ granted := by
      have hown := (h.own w).2
      rw [hl] at hown
      exact hown
    exact ⟨hgranted, retry_grants h.inv.1 hr hid hretryable hread hr' hid' hpending⟩

/-- A handler fails until the attempts are used up, and an operator retries the row. -/
def exhaustedRun : List (Move OutboxStep (OutboxMove Unit)) :=
  [.env (.enqueue 1 demoEvent), .act 0 .poll, .act 0 (.claim [1]), .act 0 (.handler 0 .check),
    .act 0 (.handler 0 .throw), .act 0 .settle, .act 0 .mark, .act 1 (.retry 1 3), .act 1 .apply]

theorem attempts_accounted_exhausted :
    ∃ c, (machine demoConfig).run (init 0) exhaustedRun = some c ∧
      (∀ r ∈ c.shared.rows, r.attempts ≤ r.maxAttempts ∧
        (r.status = .pending ∨ r.status = .failed → r.attempts < r.maxAttempts)) ∧
      ∀ js w c₁ id attempts granted, exhaustedRun = js ++ [.act w .apply] →
        (machine demoConfig).run (init 0) js = some c₁ →
        c₁.locals w = .retrying id attempts granted →
        ∀ r ∈ c₁.shared.rows, r.id = id → r.retryable →
        ∀ r' ∈ c.shared.rows, r'.id = id → r'.status = .pending →
          1 ≤ granted ∧ r'.maxAttempts = r'.attempts + granted := by
  have hsome : ((machine demoConfig).run (init 0) exhaustedRun).isSome := by decide
  obtain ⟨c, hc⟩ := Option.isSome_iff_exists.mp hsome
  exact ⟨c, hc, attempts_accounted demoConfig 0 exhaustedRun c (by simp [exhaustedRun, Grants])
    (by decide) hc⟩

/-- A replay with one attempt: its lease runs out between the two statements of another
worker's claim. -/
def lateClaim : List (Move OutboxStep (OutboxMove Unit)) :=
  [.env (.enqueue 1 demoEvent), .act 0 (.cancel 1), .act 0 .apply, .act 0 (.replay 1 1),
    .act 0 (.applyReplay 2 demoReplayId), .act 0 .poll, .act 0 (.claim [2]),
    .env (.tick 300000), .act 1 .poll, .env (.tick 1), .act 1 (.claim [2])]

theorem late_claim_exceeds :
    (∀ i ∈ lateClaim, Grants i) ∧ ∃ c, (machine demoConfig).run (init 0) lateClaim = some c ∧
      ∃ r ∈ c.shared.rows, r.maxAttempts < r.attempts := by
  have hrow : (((machine demoConfig).run (init 0) lateClaim).any fun c =>
      c.shared.rows.any fun r => r.maxAttempts < r.attempts) = true := by
    decide
  obtain ⟨c, hc, hrows⟩ := (Option.any_eq_true _ _).mp hrow
  obtain ⟨r, hr, hmore⟩ := List.any_eq_true.mp hrows
  exact ⟨by simp [lateClaim, Grants], c, hc, r, hr, of_decide_eq_true hmore⟩

end OutboxProcessor
end OmniSupport.Outbox
