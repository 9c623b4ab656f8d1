import OmniSupport.Operations.ActiveReplays

/-! Operators' calls apply their action, or refuse it and leave the rows alone, except where an
update brings a replay back to life beside another unfinished one. -/
namespace OmniSupport.Operations
open Foundation Outbox Messaging Process

variable {Payload Inbound Message : Type}

section terms
variable (s s' : OperationsStore Payload Inbound)

def refuses : AppError → Prop
  | .notFound .. | .conflict _ => True
  | _ => False

structure KeepsRows : Prop where
  outbox : s'.outbox.rows = s.outbox.rows
  webhooks : s'.webhooks.rows = s.webhooks.rows

/-- What a statement of an operator runs into: it makes a dead or skipped replay unfinished
again while another replay of the same event is unfinished, or the event that it has claimed
is gone before it is read. -/
def Obstructed : OperationsStatement Payload Inbound → Prop
  | .retryOutbox id _ => ∃ r ∈ s.outbox.rows, r.id = id ∧ r.status = .deadLetter ∧
      ∃ r' ∈ s.outbox.rows, r'.activeReplay ∧ r'.replayOfId = r.replayOfId
  | .claimWebhook id .. => ∃ r ∈ s.webhooks.rows, r.id = id ∧ r.eventType = .whatsappInbound ∧
      r.status = .skipped ∧ ∃ r' ∈ s.webhooks.rows, r'.activeReplay ∧ r'.replayOfId = r.replayOfId
  | .readWebhook id => s.webhooks.find id = none
  | _ => False

instance : DecidablePred (Obstructed s)
  | .retryOutbox id _ =>
    inferInstanceAs (Decidable (∃ r ∈ s.outbox.rows, r.id = id ∧ r.status = _ ∧ _))
  | .claimWebhook id _ _ _ =>
    inferInstanceAs (Decidable (∃ r ∈ s.webhooks.rows, r.id = id ∧ r.eventType = _ ∧ _))
  | .readWebhook id =>
    decidable_of_iff ((s.webhooks.find id).isNone = true) Option.isNone_iff_eq_none
  | .findSettings | .upsertSettings .. | .findOutbox _ | .cancelOutbox _
  | .createOutboxReplay .. | .findWebhook _ | .createWebhookReplay .. | .completeWebhook ..
  | .cancelWebhook _ | .purgeOutbox _ | .purgeWebhooks _ | .createIntervention _
  | .createAudit _ => isFalse id

/-- What it means that the action of a call is applied. -/
def Applied : OperationsCall → Prop
  | .retryOutbox id .. => ∃ r ∈ s.outbox.rows, r.id = id ∧ r.retryable ∧
      ∃ maxAttempts, r.retry s.outbox.now maxAttempts ∈ s'.outbox.rows
  | .cancelOutbox id .. => ∃ r ∈ s.outbox.rows, r.id = id ∧ r.cancellable ∧
      r.cancel s.outbox.now ∈ s'.outbox.rows
  | .replayOutbox id .. => ∃ r ∈ s'.outbox.rows, r ∉ s.outbox.rows ∧ r.replayOfId = some id ∧
      r.status = .pending
  | .retryWebhook id .. => ∃ r ∈ s.webhooks.rows, r.id = id ∧ ∃ startedAt lockedAt w,
      r.claimable id startedAt ∧ r.claim lockedAt w ∈ s'.webhooks.rows
  | .replayWebhook id .. => ∃ r ∈ s'.webhooks.rows, r ∉ s.webhooks.rows ∧
      r.replayOfId = some id ∧ r.status = .received
  | .cancelWebhook id .. => ∃ r ∈ s.webhooks.rows, r.id = id ∧ r.retryable ∧
      r.cancel ∈ s'.webhooks.rows
  | .updateSettings .. | .process _ => True

end terms

/-- The calls that act on a row. -/
def onRow : OperationsCall → Prop
  | .updateSettings .. | .process _ => False
  | _ => True

def operatorTerms : Contract (OperationsStore Payload Inbound)
    (OperationsStatement Payload Inbound) AppError where
  inv := Indexed
  runs s st := ¬ Obstructed s st
  keeps := KeepsRows
  refusal := refuses
  keeps_refl _ := ⟨rfl, rfl⟩

abbrev Undecides {α : Type} (A : OperationsStore Payload Inbound → OperationsStore Payload Inbound → Prop)
    (p : OperationsProcess Payload Inbound Message α) : Prop :=
  p.Undecided operationsStatements operatorTerms A

abbrev Settles {α : Type} (p : OperationsProcess Payload Inbound Message α) : Prop :=
  p.Settled operationsStatements operatorTerms

section statements
variable {s s' : OperationsStore Payload Inbound}

/-- An update that is not obstructed breaks no index. -/
theorem retryOutbox_ok {id : Uuid} {maxAttempts : Nat} (hs : Indexed s)
    (hfree : ¬ Obstructed s (.retryOutbox id maxAttempts)) :
    OutboxStore.activeReplayUnique (Table.updateMany (OperationsStore.retryable id)
      (OutboxEvent.retry s.outbox.now maxAttempts) s.outbox.rows) := by
  refine Table.UniqueOn.updateOne hs.1.replays hs.1.keys.ids (fun _ hr => hr.1) (fun _ => rfl) ?_
  intro r hr hretry hnew
  have hof : r.replayOfId.isSome := hnew.1
  rcases hretry.2 with hfailed | hdead
  · exact .inl ⟨hof, .inr (.inr hfailed)⟩
  · refine .inr fun r' hr' hactive hsame => hfree ?_
    exact ⟨r, hr, hretry.1, hdead, r', hr', hactive, hsame⟩

theorem claimWebhook_ok {id : Uuid} {startedAt lockedAt : Time} {w : Messaging.WorkerId}
    (hs : Indexed s) (hfree : ¬ Obstructed s (.claimWebhook id startedAt lockedAt w)) :
    WebhookStore.activeReplayUnique (Table.updateMany (WebhookEvent.claimable id startedAt)
      (WebhookEvent.claim lockedAt w) s.webhooks.rows) := by
  refine Table.UniqueOn.updateOne hs.2.replays hs.2.keys.nodup (fun _ hr => hr.1)
    (fun _ => rfl) ?_
  intro r hr hclaim hnew
  have hof : r.replayOfId.isSome := hnew.1
  rcases hclaim.2.2 with (hreceived | hskipped | hfailed) | ⟨hprocessing, -⟩
  · exact .inl ⟨hof, .inl hreceived⟩
  · refine .inr fun r' hr' hactive hsame => hfree ?_
    exact ⟨r, hr, hclaim.1, hclaim.2.1, hskipped, r', hr', hactive, hsame⟩
  · exact .inl ⟨hof, .inr (.inr hfailed)⟩
  · exact .inl ⟨hof, .inr (.inl hprocessing)⟩

/-- An update by the id that finds one row, or none. -/
theorem update_cases {ρ : Type} {key : ρ → Uuid} {id : Uuid} {rows : List ρ} {p : ρ → Prop}
    [DecidablePred p] {f : ρ → ρ} (hkeys : (rows.map key).Nodup) (hp : ∀ r, p r → key r = id) :
    Table.count p rows = 1 ∧ (∃ r ∈ rows, p r ∧ f r ∈ Table.updateMany p f rows) ∨
      Table.count p rows ≠ 1 ∧ Table.updateMany p f rows = rows := by
  have hone := Table.count_le_one hkeys hp
  by_cases hpos : 0 < Table.count p rows
  · obtain ⟨r, hr, hpr⟩ := Table.count_pos.mp hpos
    left
    exact ⟨by omega, r, hr, hpr, Table.mem_updateMany.mpr (.inl ⟨r, hr, hpr, rfl⟩)⟩
  · right
    have hzero : Table.count p rows = 0 := by omega
    exact ⟨by omega, Table.updateMany_of_none (Table.count_eq_zero.mp hzero)⟩

end statements

section calls
variable {α β : Type}
  {A : OperationsStore Payload Inbound → OperationsStore Payload Inbound → Prop}

theorem settles_record {target : Target} {targetId : Option Uuid} {action : Action}
    {actor : OperatorActor} {reason : String} {result : InterventionResult} :
    Settles (PlatformOperationsService.record target targetId action actor reason result :
      OperationsProcess Payload Inbound Message OperationalIntervention) :=
  fun _ _ _ _ _ _ _ => ⟨⟨_, rfl⟩, trivial⟩

theorem undecides_require {condition : Bool} {message : String}
    {f : Unit → OperationsProcess Payload Inbound Message β}
    (h : condition = true → Undecides A (f ())) :
    Undecides A (lift (Database.require condition (.conflict message)) >>= f) := by
  cases condition with
  | true => exact h rfl
  | false => exact trivial

theorem undecides_get {f : OperationalSettings → OperationsProcess Payload Inbound Message β}
    (h : ∀ settings, Undecides A (f settings)) :
    Undecides A (OperationalSettingsService.get >>= f) := by
  unfold OperationalSettingsService.get
  rw [bind_bind]
  refine undecided_drawn fun env n => ?_
  cases env.cached n with
  | some value => exact h value
  | none => exact undecided_read (fun _ => rfl) fun s _ => h _

theorem undecides_findOutbox {id : Uuid}
    {f : OutboxEvent Payload → OperationsProcess Payload Inbound Message β}
    (h : ∀ row, row.id = id → Undecides A (f row)) :
    Undecides A (PlatformOperationsService.findOutbox id >>= f) := by
  unfold PlatformOperationsService.findOutbox
  rw [bind_bind]
  refine undecided_read (fun _ => rfl) fun s _ => ?_
  cases hfound : s.outbox.find id with
  | none => exact trivial
  | some row => exact h row (Table.mem_of_find? hfound).2

theorem undecides_findWebhook {id : Uuid}
    {f : WebhookEvent Inbound → OperationsProcess Payload Inbound Message β}
    (h : ∀ row, row.id = id → Undecides A (f row)) :
    Undecides A (PlatformOperationsService.findWebhook id >>= f) := by
  unfold PlatformOperationsService.findWebhook
  rw [bind_bind]
  refine undecided_read (fun _ => rfl) fun s _ => ?_
  cases hfound : s.webhooks.find id with
  | none => exact trivial
  | some row => exact h row (Table.mem_of_find? hfound).2

/-- After an update of one row by its id, which is the action. -/
theorem undecides_counted {st : OperationsStatement Payload Inbound}
    {count : OperationsStore Payload Inbound → Nat} {message : String}
    {f : Unit → OperationsProcess Payload Inbound Message β}
    (hok : ∀ s, Indexed s → ¬ Obstructed s st → ∃ s', OperationsStatement.exec st s = .ok s')
    (hcases : ∀ s s', Indexed s → OperationsStatement.exec st s = .ok s' →
      count s = 1 ∧ A s s' ∨ count s ≠ 1 ∧ KeepsRows s s')
    (hf : Settles (f ())) :
    Undecides A (statement st count >>= fun n =>
      lift (Database.require (n = 1) (.conflict message)) >>= f) := by
  refine undecided_statement (fun s e hs hfree herror => ?_) fun s s' hs hfree hexec => ?_
  · obtain ⟨s', hexec⟩ := hok s hs hfree
    have herror' : OperationsStatement.exec st s = .error e := herror
    rw [hexec] at herror'
    cases herror'
  · rcases hcases s s' hs hexec with ⟨hone, happlied⟩ | ⟨hnone, hkeeps⟩
    · right
      refine ⟨happlied, ?_⟩
      simp only [hone, decide_true]
      exact hf
    · left
      refine ⟨hkeeps, ?_⟩
      simp only [hnone, decide_false]
      exact trivial

theorem retryOutbox_undecided {id : Uuid} {actor : OperatorActor} {reason : String} :
    Undecides (fun s s' => Applied s s' (.retryOutbox id actor reason))
      (PlatformOperationsService.retryOutbox id actor reason :
        OperationsProcess Payload Inbound Message _) := by
  refine undecides_get fun settings => undecides_findOutbox fun row _ => ?_
  refine undecides_counted (fun s hs hfree => ?_) (fun s s' hs hexec => ?_) settles_record
  · simp only [OperationsStatement.exec, retryOutbox_ok hs hfree, if_true]
    exact ⟨_, rfl⟩
  · simp only [OperationsStatement.exec] at hexec
    split at hexec
    · cases hexec
      rcases update_cases (f := OutboxEvent.retry s.outbox.now _) hs.1.keys.ids
        (fun r (hr : OperationsStore.retryable id r) => hr.1) with ⟨hone, r, hr, hretry, hnew⟩ | hnone
      · exact .inl ⟨hone, r, hr, hretry.1, hretry.2, _, hnew⟩
      · exact .inr ⟨hnone.1, hnone.2, rfl⟩
    · cases hexec

theorem cancelOutbox_undecided {id : Uuid} {actor : OperatorActor} {reason : String} :
    Undecides (fun s s' => Applied s s' (.cancelOutbox id actor reason))
      (PlatformOperationsService.cancelOutbox id actor reason :
        OperationsProcess Payload Inbound Message _) := by
  refine undecides_findOutbox fun row _ => ?_
  refine undecides_counted (fun s hs hfree => ⟨_, rfl⟩) (fun s s' hs hexec => ?_) settles_record
  cases hexec
  rcases update_cases (f := OutboxEvent.cancel s.outbox.now) hs.1.keys.ids
    (fun r (hr : OperationsStore.cancellable id r) => hr.1) with ⟨hone, r, hr, hcancel, hnew⟩ | hnone
  · exact .inl ⟨hone, r, hr, hcancel.1, hcancel.2, hnew⟩
  · exact .inr ⟨hnone.1, hnone.2, rfl⟩

theorem cancelWebhook_undecided {id : Uuid} {actor : OperatorActor} {reason : String} :
    Undecides (fun s s' => Applied s s' (.cancelWebhook id actor reason))
      (PlatformOperationsService.cancelWebhook id actor reason :
        OperationsProcess Payload Inbound Message _) := by
  refine undecides_findWebhook fun row _ => ?_
  refine undecides_counted (fun s hs hfree => ⟨_, rfl⟩) (fun s s' hs hexec => ?_) settles_record
  cases hexec
  rcases update_cases (f := WebhookEvent.cancel) hs.2.keys.nodup
    (fun r (hr : OperationsStore.cancellableWebhook id r) => hr.1) with
    ⟨hone, r, hr, hcancel, hnew⟩ | hnone
  · exact .inl ⟨hone, r, hr, hcancel.1, hcancel.2, hnew⟩
  · exact .inr ⟨hnone.1, rfl, hnone.2⟩

/-- The insert of a replay is the action of its call; a unique index refuses it. -/
theorem undecides_create {st : OperationsStatement Payload Inbound}
    {f : Unit → OperationsProcess Payload Inbound Message β}
    (hthrow : ∀ s e, OperationsStatement.exec st s = .error e →
      e = OperationsStatement.replayExists)
    (hok : ∀ s s', OperationsStatement.exec st s = .ok s' → A s s') (hf : Settles (f ())) :
    Undecides A (execute st >>= f) := by
  refine undecided_statement (fun s e _ _ herror => ?_) fun s s' _ _ hexec => .inr ?_
  · rw [hthrow s e herror]
    trivial
  · exact ⟨hok s s' hexec, hf⟩

theorem replayOutbox_undecided {id : Uuid} {actor : OperatorActor} {reason : String} :
    Undecides (fun s s' => Applied s s' (.replayOutbox id actor reason))
      (PlatformOperationsService.replayOutbox id actor reason :
        OperationsProcess Payload Inbound Message _) := by
  refine undecides_findOutbox fun original hid => undecides_require fun _ => ?_
  refine undecides_get fun settings => undecided_drawn fun env n => undecided_drawn fun env' n' => ?_
  refine undecides_create (fun s e herror => ?_) (fun s s' hexec => ?_) settles_record
  · simp only [OperationsStatement.exec] at herror
    split at herror <;> cases herror
    rfl
  · simp only [OperationsStatement.exec] at hexec
    split at hexec
    · rename_i hfree
      cases hexec
      refine ⟨original.replay (env.uuid n) (env'.eventId n') s.outbox.now settings.retryMaxAttempts,
        by simp [OperationsStore.setOutbox, OutboxStore.insertRow], ?_, ?_, rfl⟩
      · exact fun hold => (hfree.1 _ hold).1 rfl
      · exact congrArg some hid
    · cases hexec

/-- Once an event is claimed, its processing throws nothing. -/
theorem settles_processClaimed {id : Uuid} {w : Messaging.WorkerId} :
    Settles (WebhookProcessingService.processClaimed id w :
      OperationsProcess Payload Inbound Message ProcessingOutcome) := by
  refine settled_call fun s hs hfree => ⟨⟨s, rfl⟩, ?_⟩
  cases hfound : s.webhooks.find id with
  | none => exact absurd hfound hfree
  | some event =>
    refine settled_drawn fun env n => settled_call fun s' _ _ => ⟨⟨_, rfl⟩, trivial⟩

theorem claimWebhook_exec {s : OperationsStore Payload Inbound} {id : Uuid}
    {startedAt lockedAt : Time} {w : Messaging.WorkerId} (hs : Indexed s)
    (hfree : ¬ Obstructed s (.claimWebhook id startedAt lockedAt w)) :
    OperationsStatement.exec (.claimWebhook id startedAt lockedAt w) s =
      .ok (s.setWebhooks
        (s.webhooks.updateRows (WebhookEvent.claimable id startedAt)
          (WebhookEvent.claim lockedAt w)) (s.claimCount id startedAt)) := by
  simp only [OperationsStatement.exec, claimWebhook_ok hs hfree, if_true]
  rfl

theorem settles_process {id : Uuid} :
    Settles (WebhookProcessingService.process id :
      OperationsProcess Payload Inbound Message (Option ProcessingOutcome)) := by
  refine settled_drawn fun env n => settled_drawn fun env' n' => settled_drawn fun env'' n'' => ?_
  refine settled_call fun s hs hfree => ⟨⟨_, claimWebhook_exec hs hfree⟩, ?_⟩
  split
  · exact settles_processClaimed.bind fun _ => trivial
  · trivial

theorem retryWebhook_undecided {id : Uuid} {actor : OperatorActor} {reason : String} :
    Undecides (fun s s' => Applied s s' (.retryWebhook id actor reason))
      (PlatformOperationsService.retryWebhook id actor reason :
        OperationsProcess Payload Inbound Message _) := by
  refine undecides_findWebhook fun row _ => ?_
  unfold WebhookProcessingService.process
  simp only [bind_bind]
  refine undecided_drawn fun env n => undecided_drawn fun env' n' =>
    undecided_drawn fun env'' n'' => ?_
  refine undecided_statement (fun s e hs hfree herror => ?_) fun s s' hs hfree hexec => ?_
  · have hok := claimWebhook_exec hs hfree
    cases hok.symm.trans herror
  · have hok := claimWebhook_exec hs hfree
    cases hok.symm.trans hexec
    rcases update_cases (f := WebhookEvent.claim (env''.clock n'') (env.uuid n)) hs.2.keys.nodup
      (fun r (hr : WebhookEvent.claimable id (env'.clock n') r) => hr.1) with
      ⟨hone, r, hr, hclaimed, hnew⟩ | ⟨hnone, hsame⟩
    · right
      have hcount : s.claimCount id (env'.clock n') = 1 := hone
      refine ⟨⟨r, hr, hclaimed.1, _, _, _, hclaimed, hnew⟩, ?_⟩
      simp only [hcount, if_true, map_bind]
      exact settles_processClaimed.bind fun _ => settles_record
    · left
      have hcount : s.claimCount id (env'.clock n') ≠ 1 := hnone
      refine ⟨⟨rfl, hsame⟩, ?_⟩
      simp only [hcount, if_false]
      exact trivial

theorem replayWebhook_undecided {id : Uuid} {actor : OperatorActor} {reason : String} :
    Undecides (fun s s' => Applied s s' (.replayWebhook id actor reason))
      (PlatformOperationsService.replayWebhook id actor reason :
        OperationsProcess Payload Inbound Message _) := by
  refine undecides_findWebhook fun original hid => undecides_require fun _ =>
    undecides_require fun _ => undecided_drawn fun env n => ?_
  refine undecides_create (fun s e herror => ?_) (fun s s' hexec => ?_)
    (settles_process.bind fun _ => settles_record)
  · simp only [OperationsStatement.exec] at herror
    split at herror <;> cases herror
    rfl
  · simp only [OperationsStatement.exec] at hexec
    split at hexec
    · rename_i hfree
      cases hexec
      refine ⟨original.replay (env.uuid n) s.webhooks.now,
        by simp [OperationsStore.setWebhooks, WebhookStore.insertRow], ?_, ?_, rfl⟩
      · exact fun hold => hfree.1 _ hold rfl
      · exact congrArg some hid
    · cases hexec

end calls

/-- No statement of an operator, or of the processing of an event, is obstructed. -/
def Unobstructed
    (c : Pool (OperationsStore Payload Inbound) (OperationsLocal Payload Inbound Message)) :
    Move (OperationsStep Inbound Message) (OperationsMove Payload Inbound) → Prop
  | .act p (.call turn) => ∀ st ∈ pending (c.locals p).operator.rest turn, ¬ Obstructed c.shared st
  | .act _ (.work _) | .env _ => True

instance (c : Pool (OperationsStore Payload Inbound) (OperationsLocal Payload Inbound Message)) :
    DecidablePred (Unobstructed c)
  | .act p (.call turn) =>
    inferInstanceAs (Decidable (∀ st ∈ pending (c.locals p).operator.rest turn, _))
  | .act _ (.work _) | .env _ => isTrue trivial

section runs
variable {config : OutboxConfig} {s : OperationsStore Payload Inbound}
  {c : Pool (OperationsStore Payload Inbound) (OperationsLocal Payload Inbound Message)}
  {moves : List (Move (OperationsStep Inbound Message) (OperationsMove Payload Inbound))}

theorem operationsProgram_undecided (call : OperationsCall) (h : onRow call) :
    Undecides (fun s s' => Applied s s' call)
      (operationsProgram call : OperationsProcess Payload Inbound Message Unit) := by
  cases call with
  | retryOutbox => exact retryOutbox_undecided.bind fun _ => trivial
  | cancelOutbox => exact cancelOutbox_undecided.bind fun _ => trivial
  | replayOutbox => exact replayOutbox_undecided.bind fun _ => trivial
  | retryWebhook => exact retryWebhook_undecided.bind fun _ => trivial
  | replayWebhook => exact replayWebhook_undecided.bind fun _ => trivial
  | cancelWebhook => exact cancelWebhook_undecided.bind fun _ => trivial
  | updateSettings | process => exact h.elim

theorem indexed_run (hs : Indexed s)
    (hrun : (OperationsMachine.program config).machine.run (OperationsMachine.idle s) moves =
      some c) : Indexed c.shared := by
  refine Machine.run_preserves (P := fun c => Indexed c.shared) _ (fun c move c' hc hstep => ?_)
    hs hrun
  cases move with
  | act p a =>
    obtain ⟨s', l', hact, rfl⟩ := (OperationsMachine.program config).step_act.mp hstep
    exact hc.act hact
  | env m =>
    obtain ⟨s', hmove, rfl⟩ := (OperationsMachine.program config).step_env.mp hstep
    exact hc.move hmove

/-- The promises of the operators' calls. -/
def promises : Program.Outline (OperationsStore Payload Inbound)
    (OperationsLocal Payload Inbound Message) where
  inv := Indexed
  own _ l _ := Answering operationsStatements operatorTerms (fun call s s' => Applied s s' call)
    onRow l.operator
  pair _ _ := True

theorem promises_valid : (promises : Program.Outline (OperationsStore Payload Inbound)
    (OperationsLocal Payload Inbound Message)).Valid (OperationsMachine.program config)
      Unobstructed where
  symm _ _ h := h
  act c p a s' l' hc hfree hact := by
    refine ⟨hc.inv.act hact, ?_⟩
    cases a with
    | call turn =>
      obtain ⟨r, hr, heq⟩ := Option.map_eq_some_iff.mp hact
      cases heq
      exact (hc.own p).observe operationsProgram_undecided hc.inv hfree hr
    | work step =>
      simp only [OperationsMachine.program, OperationsMachine.act, OperationsMachine.work] at hact
      split at hact
      · obtain ⟨r, -, heq⟩ := Option.map_eq_some_iff.mp hact
        cases heq
        exact hc.own p
      · cases hact
  others c p a s' l' hc _ _ q _ := ⟨hc.own q, trivial⟩
  env c m s' hc _ hmove := ⟨hc.inv.move hmove, hc.own⟩

/-- Whatever the interleaving, no event has two unfinished replays. Where no statement is
obstructed, a call of an operator that returns has applied its action, and one that throws has
found nothing or a conflict and has left the rows alone. -/
theorem operator_calls_apply_or_refuse (hs : Indexed s)
    (hrun : (OperationsMachine.program config).machine.run (OperationsMachine.idle s) moves =
      some c) :
    (OutboxStore.activeReplayUnique c.shared.outbox.rows ∧
      WebhookStore.activeReplayUnique c.shared.webhooks.rows) ∧
    ((OperationsMachine.program config).machine.Within Unobstructed (OperationsMachine.idle s)
        moves →
      ∀ p call, (c.locals p).operator.call = some call → onRow call →
        ((c.locals p).operator.rest = .ret () →
          ∃ t ∈ (c.locals p).operator.turns, Applied t.1 t.2 call) ∧
        ∀ e, (c.locals p).operator.rest = .throw e →
          refuses e ∧ ∀ t ∈ (c.locals p).operator.turns, KeepsRows t.1 t.2) := by
  have hindexed := indexed_run hs hrun
  refine ⟨⟨hindexed.1.replays, hindexed.2.replays⟩, fun hfree p call hcall hrow => ?_⟩
  have hidle : (promises : Program.Outline (OperationsStore Payload Inbound)
      (OperationsLocal Payload Inbound Message)).Holds (OperationsMachine.idle s) :=
    ⟨hs, fun _ _ hnone => absurd hnone.symm (Option.some_ne_none _), fun _ _ _ => trivial⟩
  have hpromise := (promises_valid.run_within hidle hfree hrun).own p
  exact ⟨hpromise.returned hcall hrow, fun e => hpromise.thrown hcall hrow⟩

end runs

section demo

def demoEnv (id : Uuid) (eventId : EventId) (outcome : ProcessingOutcome) :
    OperationsEnv Unit Unit where
  clock _ := 0
  uuid _ := id
  eventId _ := eventId
  cached _ := some ⟨false, 1, 14, 30⟩
  parseInboundMessage _ := some ()
  execute _ _ := outcome

def emptyStore : OperationsStore Unit Unit where
  outbox := OutboxStore.init 0
  webhooks := ⟨[], 0, [], ()⟩
  settings := []
  interventions := []
  audits := []
  written := 0

abbrev DemoMove := Move (OperationsStep Unit Unit) (OperationsMove Unit Unit)

def operatorTurns (p n : Nat) (call : OperationsCall) (env : OperationsEnv Unit Unit) :
    List DemoMove :=
  .act p (.call (.start call)) :: List.replicate n (.act p (.call (.next env 0)))

def works (steps : List OutboxStep) : List DemoMove :=
  steps.map fun step => .act 0 (.work step)

def demoConfig : OutboxConfig := ⟨[], defaultLeaseMs, defaultBatchSize⟩

def demoEvent : OutboxPayload Unit where
  eventId := ⟨"a", rfl⟩
  eventType := "TICKET_CREATED"
  occurredAt := 0
  tenantId := none
  aggregateId := none
  aggregateType := none
  payload := ()

def admin : OperatorActor := ⟨9, "PLATFORM_ADMIN"⟩

def thrown {ρ σ τ ε α : Type} : Process ρ σ τ ε α → Option ε
  | .throw e => some e
  | _ => none

theorem thrown_eq_some {ρ σ τ ε α : Type} {p : Process ρ σ τ ε α} {e : ε}
    (h : thrown p = some e) : p = .throw e := by
  cases p with
  | throw e' =>
    cases h
    rfl
  | _ => cases h

def runDemo (moves : List DemoMove) :
    Option (Pool (OperationsStore Unit Unit) (OperationsLocal Unit Unit Unit)) :=
  (OperationsMachine.program demoConfig).machine.run (OperationsMachine.idle emptyStore) moves

/-- The call of a process, and what it has thrown. -/
def answerOf (p : Nat) (moves : List DemoMove) :
    Option (Option OperationsCall × Option AppError) :=
  (runDemo moves).map fun c => ((c.locals p).operator.call, thrown (c.locals p).operator.rest)

/-- An event is delivered and replayed. The replay dies, a second one waits, and the dead one
is retried. -/
def deadReplayRetried : List DemoMove :=
  .env (.enqueue 1 demoEvent) :: works [.poll, .claim [1], .settle, .mark] ++
    operatorTurns 1 9 (.replayOutbox 1 admin "again") (demoEnv 2 ⟨"b", rfl⟩ .processed) ++
    works [.poll, .claim [2], .settle, .markThrows "down", .mark] ++
    operatorTurns 1 9 (.replayOutbox 1 admin "again") (demoEnv 3 ⟨"c", rfl⟩ .processed) ++
    operatorTurns 2 3 (.retryOutbox 2 admin "once more") (demoEnv 4 ⟨"d", rfl⟩ .processed)

/-- The same with a stored message whose first replay is skipped. -/
def skippedReplayRetried : List DemoMove :=
  .env (.receive 1 .whatsappInbound () "sig") ::
    operatorTurns 0 7 (.process 1) (demoEnv 0 ⟨"b", rfl⟩ .processed) ++
    operatorTurns 1 14 (.replayWebhook 1 admin "again") (demoEnv 2 ⟨"b", rfl⟩ (.skipped "x")) ++
    operatorTurns 1 3 (.replayWebhook 1 admin "again") (demoEnv 3 ⟨"c", rfl⟩ .processed) ++
    operatorTurns 2 5 (.retryWebhook 2 admin "once more") (demoEnv 4 ⟨"d", rfl⟩ .processed)

/-- Both retries fail on the index with the error of the database. -/
theorem operator_retry_neither_applies_nor_refuses :
    (∃ c, runDemo deadReplayRetried = some c ∧
      (c.locals 2).operator.call = some (.retryOutbox 2 admin "once more") ∧
      (c.locals 2).operator.rest = .throw .database ∧ ¬ refuses .database) ∧
    ∃ c, runDemo skippedReplayRetried = some c ∧
      (c.locals 2).operator.call = some (.retryWebhook 2 admin "once more") ∧
      (c.locals 2).operator.rest = .throw .database ∧ ¬ refuses .database := by
  have hfails : ∀ moves call, answerOf 2 moves = some (some call, some .database) →
      ∃ c, runDemo moves = some c ∧ (c.locals 2).operator.call = some call ∧
        (c.locals 2).operator.rest = .throw .database ∧ ¬ refuses .database := by
    intro moves call hanswer
    obtain ⟨c, hrun, heq⟩ := Option.map_eq_some_iff.mp hanswer
    obtain ⟨hcall, hthrown⟩ := Prod.mk.inj heq
    exact ⟨c, hrun, hcall, thrown_eq_some hthrown, fun h => h⟩
  exact ⟨hfails _ _ (by decide), hfails _ _ (by decide)⟩

def cancelling : List DemoMove :=
  .env (.enqueue 1 demoEvent) ::
    operatorTurns 1 6 (.cancelOutbox 1 admin "stop") (demoEnv 2 ⟨"b", rfl⟩ .processed)

def returned {ρ σ τ ε α : Type} : Process ρ σ τ ε α → Bool
  | .ret _ => true
  | _ => false

theorem operator_calls_apply_or_refuse_cancel :
    ∃ c, runDemo cancelling = some c ∧
      ∃ t ∈ (c.locals 1).operator.turns, Applied t.1 t.2 (.cancelOutbox 1 admin "stop") := by
  have hresult : (runDemo cancelling).map (fun c =>
      ((c.locals 1).operator.call, returned (c.locals 1).operator.rest)) =
        some (some (.cancelOutbox 1 admin "stop"), true) := by
    decide
  obtain ⟨c, hrun, heq⟩ := Option.map_eq_some_iff.mp hresult
  obtain ⟨hcall, hreturned⟩ := Prod.mk.inj heq
  have hrest : (c.locals 1).operator.rest = .ret () := by
    cases hrest : (c.locals 1).operator.rest with
    | ret u => rfl
    | _ =>
      rw [hrest] at hreturned
      cases hreturned
  have hindexed : Indexed emptyStore :=
    ⟨⟨⟨by decide, by decide⟩, by decide⟩, ⟨⟨by decide, by decide⟩, by decide, by decide⟩⟩
  have hfree : (OperationsMachine.program demoConfig).machine.Within Unobstructed
      (OperationsMachine.idle emptyStore) cancelling := by
    decide
  have hpromise := (operator_calls_apply_or_refuse hindexed hrun).2 hfree 1 _ hcall trivial
  exact ⟨c, hrun, hpromise.1 hrest⟩

end demo
end OmniSupport.Operations
