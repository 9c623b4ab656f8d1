import OmniSupport.Foundation.Rows
import OmniSupport.Operations.PlatformOperations

/-! Operators, outbox workers and the inbound route at work on the same rows: at most one
unfinished replay of an event, whatever their interleaving. -/
namespace OmniSupport.Operations
open Foundation Outbox Messaging

variable {Payload Inbound Message : Type}

inductive OperationsCall where
  | retryOutbox (id : Uuid) (actor : OperatorActor) (reason : String)
  | cancelOutbox (id : Uuid) (actor : OperatorActor) (reason : String)
  | replayOutbox (id : Uuid) (actor : OperatorActor) (reason : String)
  | retryWebhook (id : Uuid) (actor : OperatorActor) (reason : String)
  | replayWebhook (id : Uuid) (actor : OperatorActor) (reason : String)
  | cancelWebhook (id : Uuid) (actor : OperatorActor) (reason : String)
  | updateSettings (changes : List (String × SettingValue)) (actor : OperatorActor)
      (reason : String)
  | process (id : Uuid)
  deriving DecidableEq

def ending {α : Type} (p : OperationsProcess Payload Inbound Message α) :
    OperationsProcess Payload Inbound Message Unit := do
  let _ ← p
  return ()

def operationsProgram : OperationsCall → OperationsProcess Payload Inbound Message Unit
  | .retryOutbox id actor reason => ending (PlatformOperationsService.retryOutbox id actor reason)
  | .cancelOutbox id actor reason => ending (PlatformOperationsService.cancelOutbox id actor reason)
  | .replayOutbox id actor reason => ending (PlatformOperationsService.replayOutbox id actor reason)
  | .retryWebhook id actor reason => ending (PlatformOperationsService.retryWebhook id actor reason)
  | .replayWebhook id actor reason =>
    ending (PlatformOperationsService.replayWebhook id actor reason)
  | .cancelWebhook id actor reason =>
    ending (PlatformOperationsService.cancelWebhook id actor reason)
  | .updateSettings changes actor reason =>
    ending (PlatformOperationsService.updateSettings changes actor reason)
  | .process id => ending (WebhookProcessingService.process id)

abbrev Operator (Payload Inbound Message : Type) :=
  Observed (OperationsEnv Inbound Message) (OperationsStore Payload Inbound)
    (OperationsStatement Payload Inbound) AppError OperationsCall

/-- A process serves calls, and runs the loop of an outbox worker. -/
structure OperationsLocal (Payload Inbound Message : Type) where
  operator : Operator Payload Inbound Message
  task : Outbox.Task Payload

inductive OperationsStep (Inbound Message : Type) where
  | call (turn : Process.Turn (OperationsEnv Inbound Message) OperationsCall)
  | work (step : OutboxStep)

/-- What else happens to the rows: events are stored, old rows deleted, and time passes. -/
inductive OperationsMove (Payload Inbound : Type) where
  | enqueue (id : Uuid) (event : OutboxPayload Payload)
  | deleteProcessed (ids : List Uuid)
  | forget (key : String)
  | receive (id : Uuid) (eventType : WebhookEventType) (payload : Inbound) (signature : String)
  | purgeOutbox (retentionMs : Nat)
  | purgeWebhooks (retentionMs : Nat)
  | tick (ms : Nat)

/-- The steps of the machine of the outbox that are those of a worker. -/
def ofWorker : OutboxStep → Bool
  | .poll | .claim _ | .handler .. | .settle | .mark | .markThrows _ | .crash => true
  | .retry .. | .cancel _ | .replay .. | .apply | .applyReplay .. | .throws => false

namespace OperationsMachine
variable (config : OutboxConfig)

def work (p : Nat) (s : OperationsStore Payload Inbound) (l : OperationsLocal Payload Inbound Message)
    (step : OutboxStep) :
    Option (OperationsStore Payload Inbound × OperationsLocal Payload Inbound Message) :=
  if ofWorker step then
    (OutboxProcessor.act config p s.outbox l.task step).map fun r =>
      ({ s with outbox := r.1 }, { l with task := r.2 })
  else none

def act (p : Nat) (s : OperationsStore Payload Inbound)
    (l : OperationsLocal Payload Inbound Message) : OperationsStep Inbound Message →
      Option (OperationsStore Payload Inbound × OperationsLocal Payload Inbound Message)
  | .call turn =>
    (Process.observe operationsStatements operationsProgram s l.operator turn).map fun r =>
      (r.1, { l with operator := r.2 })
  | .work step => work config p s l step

def move (s : OperationsStore Payload Inbound) :
    OperationsMove Payload Inbound → Option (OperationsStore Payload Inbound)
  | .enqueue id event =>
    (OutboxProcessor.move s.outbox (.enqueue id event)).map fun outbox =>
      { s with outbox := outbox }
  | .deleteProcessed ids => some { s with outbox := s.outbox.deleteProcessed ids }
  | .forget key =>
    (OutboxProcessor.move s.outbox (.forget key)).map fun outbox => { s with outbox := outbox }
  | .receive id eventType payload signature =>
    if id ∈ s.webhooks.uuids then none
    else some { s with
      webhooks := s.webhooks.insertRow
        (recordEvent id s.webhooks.now eventType payload signature) }
  | .purgeOutbox retentionMs => some { s with outbox := s.outbox.purge retentionMs }
  | .purgeWebhooks retentionMs => some { s with webhooks := s.webhooks.purge retentionMs }
  | .tick ms => some { s with
      outbox := { s.outbox with now := s.outbox.now + ms }
      webhooks := { s.webhooks with now := s.webhooks.now + ms } }

def program : Program (OperationsStore Payload Inbound)
    (OperationsLocal Payload Inbound Message) (OperationsStep Inbound Message)
    (OperationsMove Payload Inbound) where
  act := act config
  env := move

def idle (s : OperationsStore Payload Inbound) :
    Pool (OperationsStore Payload Inbound) (OperationsLocal Payload Inbound Message) :=
  ⟨s, fun _ => ⟨⟨none, .ret (), []⟩, .idle⟩⟩

end OperationsMachine

section outbox
variable {s s' : OutboxStore Payload} {p : OutboxEvent Payload → Prop} [DecidablePred p]
  {f : OutboxEvent Payload → OutboxEvent Payload}

/-- The rows of the outbox with their keys and their index. -/
structure ReplaysKept (s : OutboxStore Payload) : Prop where
  keys : s.Keyed
  replays : OutboxStore.activeReplayUnique s.rows

theorem keyed_updateRows (h : s.Keyed) (hid : ∀ r, (f r).id = r.id) :
    (s.updateRows p f).Keyed := by
  have hkeyed : Table.Keyed OutboxEvent.id s.rows s.uuids := ⟨h.ids, h.known⟩
  have hupdated : Table.Keyed OutboxEvent.id (Table.updateMany p f s.rows) s.uuids :=
    hkeyed.updateMany hid
  exact ⟨hupdated.nodup, hupdated.known⟩

theorem ReplaysKept.updateRows (h : ReplaysKept s) (hid : ∀ r, (f r).id = r.id)
    (hof : ∀ r, (f r).replayOfId = r.replayOfId)
    (hactive : ∀ r ∈ s.rows, p r → (f r).activeReplay → r.activeReplay) :
    ReplaysKept (s.updateRows p f) where
  keys := keyed_updateRows h.keys hid
  replays := Table.UniqueOn.updateMany h.replays hof hactive

theorem ReplaysKept.deleteRows (h : ReplaysKept s) : ReplaysKept (s.deleteRows p) where
  keys := by
    have hkeyed : Table.Keyed OutboxEvent.id s.rows s.uuids := ⟨h.keys.ids, h.keys.known⟩
    exact ⟨hkeyed.deleteMany.nodup, hkeyed.deleteMany.known⟩
  replays := Table.UniqueOn.deleteMany h.replays

theorem ReplaysKept.insertRow {r : OutboxEvent Payload} (h : ReplaysKept s)
    (hnew : ∀ r' ∈ s.rows, r'.id ≠ r.id)
    (hreplays : OutboxStore.activeReplayUnique (s.rows ++ [r])) : ReplaysKept (s.insertRow r) where
  keys := by
    have hkeyed : Table.Keyed OutboxEvent.id s.rows s.uuids := ⟨h.keys.ids, h.keys.known⟩
    exact ⟨(hkeyed.insert hnew).nodup, (hkeyed.insert hnew).known⟩
  replays := hreplays

/-- A row that is no unfinished replay becomes none by what the workers write. -/
theorem ReplaysKept.work {config : OutboxConfig} {w : Outbox.WorkerId} {step : OutboxStep}
    {task task' : Outbox.Task Payload} (h : ReplaysKept s) (hstep : ofWorker step = true)
    (hact : OutboxProcessor.act config w s task step = some (s', task')) : ReplaysKept s' := by
  cases step with
  | retry | cancel | replay | apply | applyReplay | throws => cases hstep
  | poll =>
    simp only [OutboxProcessor.act] at hact
    split at hact <;> cases hact
    refine h.updateRows (fun _ => rfl) (fun _ => rfl) fun r _ _ hnew => ?_
    simp [OutboxEvent.activeReplay, OutboxEvent.deadLetterExpired] at hnew
  | claim picked =>
    simp only [OutboxProcessor.act] at hact
    split at hact
    · split at hact
      · rename_i hcan
        cases hact
        refine h.updateRows (fun _ => rfl) (fun _ => rfl) fun r hr hpicked hnew => ?_
        obtain ⟨r₀, hr₀, hid, hclaimable⟩ := hcan.2 r.id hpicked
        rw [h.keys.eq hr₀ hr hid] at hclaimable
        refine ⟨hnew.1, ?_⟩
        rcases hclaimable with ⟨hpending | hfailed, -⟩ | ⟨hprocessing, -⟩
        · exact .inl hpending
        · exact .inr (.inr hfailed)
        · exact .inr (.inl hprocessing)
      · cases hact
    · cases hact
  | handler index step =>
    obtain ⟨_, _, _, _, _, _, _, hrun, _⟩ := OutboxProcessor.stepHandler_eq_some hact
    obtain ⟨hrows, huuids, -, -⟩ := OutboxProcessor.runOnce_rows hrun
    refine ⟨⟨?_, ?_⟩, ?_⟩
    · rw [hrows]
      exact h.keys.ids
    · rw [hrows, huuids]
      exact h.keys.known
    · rw [hrows]
      exact h.replays
  | mark =>
    have hheld : ∀ {id} {r : OutboxEvent Payload}, r.heldBy id w → r.status = .processing :=
      fun hr => hr.2.2
    simp only [OutboxProcessor.act, OutboxProcessor.mark] at hact
    split at hact <;> cases hact
    · refine h.updateRows (fun _ => rfl) (fun _ => rfl) fun r _ hr hnew => ?_
      exact ⟨hnew.1, .inr (.inl (hheld hr))⟩
    · refine h.updateRows (fun _ => rfl) (fun _ => rfl) fun r _ hr hnew => ?_
      exact ⟨hnew.1, .inr (.inl (hheld hr))⟩
  | settle | markThrows =>
    obtain ⟨t, -, heq⟩ := Option.map_eq_some_iff.mp hact
    cases heq
    exact h
  | crash =>
    cases hact
    exact h

end outbox

section webhooks
variable {s : WebhookStore Inbound Unit} {p : WebhookEvent Inbound → Prop} [DecidablePred p]
  {f : WebhookEvent Inbound → WebhookEvent Inbound}

structure WebhookReplaysKept (s : WebhookStore Inbound Unit) : Prop where
  keys : Table.Keyed WebhookEvent.id s.rows s.uuids
  replays : WebhookStore.activeReplayUnique s.rows
  locked : ∀ r ∈ s.rows, r.lockedBy.isSome → r.status = .processing

theorem locked_updateRows (h : ∀ r ∈ s.rows, r.lockedBy.isSome → r.status = .processing)
    (hf : ∀ r ∈ s.rows, p r → (r.lockedBy.isSome → r.status = .processing) →
      (f r).lockedBy.isSome → (f r).status = .processing) :
    ∀ r ∈ (s.updateRows p f).rows, r.lockedBy.isSome → r.status = .processing := by
  intro r hr
  rcases Table.mem_updateMany.mp hr with ⟨r₀, hr₀, hp, rfl⟩ | ⟨hr₀, -⟩
  · exact hf r₀ hr₀ hp (h r₀ hr₀)
  · exact h r hr₀

theorem WebhookReplaysKept.updateRows (h : WebhookReplaysKept s) (hid : ∀ r, (f r).id = r.id)
    (hof : ∀ r, (f r).replayOfId = r.replayOfId)
    (hactive : ∀ r ∈ s.rows, p r → (f r).activeReplay → r.activeReplay)
    (hlocked : ∀ r ∈ s.rows, p r → (r.lockedBy.isSome → r.status = .processing) →
      (f r).lockedBy.isSome → (f r).status = .processing) :
    WebhookReplaysKept (s.updateRows p f) where
  keys := h.keys.updateMany hid
  replays := Table.UniqueOn.updateMany h.replays hof hactive
  locked := locked_updateRows h.locked hlocked

theorem WebhookReplaysKept.purge {retentionMs : Nat} (h : WebhookReplaysKept s) :
    WebhookReplaysKept (s.purge retentionMs) where
  keys := h.keys.deleteMany
  replays := Table.UniqueOn.deleteMany h.replays
  locked r hr := h.locked r (Table.mem_deleteMany.mp hr).1

theorem WebhookReplaysKept.insertRow {r : WebhookEvent Inbound} (h : WebhookReplaysKept s)
    (hnew : ∀ r' ∈ s.rows, r'.id ≠ r.id) (hlocked : r.lockedBy = none)
    (hreplays : WebhookStore.activeReplayUnique (s.rows ++ [r])) :
    WebhookReplaysKept (s.insertRow r) where
  keys := h.keys.insert hnew
  replays := hreplays
  locked r' hr' := by
    rcases List.mem_append.mp hr' with hold | hlast
    · exact h.locked r' hold
    · rw [List.mem_singleton.mp hlast, hlocked]
      exact fun hsome => absurd hsome Bool.false_ne_true

end webhooks

section invariant
variable {s s' : OperationsStore Payload Inbound}

/-- Both tables of rows with their keys and their index. -/
def Indexed (s : OperationsStore Payload Inbound) : Prop :=
  ReplaysKept s.outbox ∧ WebhookReplaysKept s.webhooks

theorem Indexed.exec {st : OperationsStatement Payload Inbound} (h : Indexed s)
    (hexec : OperationsStatement.exec st s = .ok s') : Indexed s' := by
  obtain ⟨houtbox, hwebhooks⟩ := h
  cases st with
  | findSettings | upsertSettings | findOutbox | findWebhook | readWebhook | createIntervention
  | createAudit =>
    cases hexec
    exact ⟨houtbox, hwebhooks⟩
  | retryOutbox id maxAttempts =>
    simp only [OperationsStatement.exec] at hexec
    split at hexec
    · rename_i hunique
      cases hexec
      exact ⟨⟨keyed_updateRows houtbox.keys fun _ => rfl, hunique⟩, hwebhooks⟩
    · cases hexec
  | cancelOutbox id =>
    cases hexec
    refine ⟨houtbox.updateRows (fun _ => rfl) (fun _ => rfl) fun r _ _ hnew => ?_, hwebhooks⟩
    simp [OutboxEvent.activeReplay, OutboxEvent.cancel] at hnew
  | createOutboxReplay id eventId retryMaxAttempts original =>
    simp only [OperationsStatement.exec] at hexec
    split at hexec
    · rename_i hfree
      cases hexec
      exact ⟨houtbox.insertRow (fun r hr => (hfree.1 r hr).1) hfree.2, hwebhooks⟩
    · cases hexec
  | createWebhookReplay id original =>
    simp only [OperationsStatement.exec] at hexec
    split at hexec
    · rename_i hfree
      cases hexec
      exact ⟨houtbox, hwebhooks.insertRow hfree.1 rfl hfree.2⟩
    · cases hexec
  | claimWebhook id startedAt lockedAt worker =>
    simp only [OperationsStatement.exec] at hexec
    split at hexec
    · rename_i hunique
      cases hexec
      refine ⟨houtbox, ⟨hwebhooks.keys.updateMany fun _ => rfl, hunique, ?_⟩⟩
      exact locked_updateRows hwebhooks.locked fun _ _ _ _ _ => rfl
    · cases hexec
  | completeWebhook id worker outcome =>
    cases hexec
    refine ⟨houtbox, hwebhooks.updateRows (fun _ => rfl) (fun _ => rfl) (fun r hr hheld hnew => ?_)
      fun _ _ _ _ hsome => absurd hsome Bool.false_ne_true⟩
    have hprocessing := hwebhooks.locked r hr (by rw [hheld.2]; rfl)
    exact ⟨hnew.1, .inr (.inl hprocessing)⟩
  | cancelWebhook id =>
    cases hexec
    refine ⟨houtbox, hwebhooks.updateRows (fun _ => rfl) (fun _ => rfl) (fun r _ _ hnew => ?_)
      fun r hr hcancelled hold hsome => ?_⟩
    · simp [WebhookEvent.activeReplay, WebhookEvent.cancel] at hnew
    · have hprocessing := hold hsome
      rcases hcancelled.2 with hstatus | hstatus | hstatus <;> simp [hprocessing] at hstatus
  | purgeOutbox retentionMs =>
    cases hexec
    exact ⟨houtbox.deleteRows, hwebhooks⟩
  | purgeWebhooks retentionMs =>
    cases hexec
    exact ⟨houtbox, hwebhooks.purge⟩

theorem Indexed.move {m : OperationsMove Payload Inbound} (h : Indexed s)
    (hmove : OperationsMachine.move s m = some s') : Indexed s' := by
  obtain ⟨houtbox, hwebhooks⟩ := h
  cases m with
  | enqueue id event =>
    obtain ⟨outbox, hstored, rfl⟩ := Option.map_eq_some_iff.mp hmove
    refine ⟨?_, hwebhooks⟩
    simp only [OutboxProcessor.move] at hstored
    split at hstored
    · cases hstored
    · rename_i hfresh
      cases hstored
      unfold OutboxStore.enqueue
      split
      · exact houtbox
      · have hnot : ¬ (toCreateInput id s.outbox.now event).activeReplay := by
          simp [OutboxEvent.activeReplay, toCreateInput]
        refine houtbox.insertRow (fun r hr hsame => hfresh ?_)
          (Table.UniqueOn.insert houtbox.replays hnot)
        have hid : r.id = id := hsame
        rw [← hid]
        exact houtbox.keys.known r hr
  | deleteProcessed ids =>
    cases hmove
    exact ⟨houtbox.deleteRows, hwebhooks⟩
  | forget key =>
    cases hmove
    exact ⟨⟨⟨houtbox.keys.ids, houtbox.keys.known⟩, houtbox.replays⟩, hwebhooks⟩
  | receive id eventType payload signature =>
    simp only [OperationsMachine.move] at hmove
    split at hmove
    · cases hmove
    · rename_i hfresh
      cases hmove
      have hnot : ¬ (recordEvent id s.webhooks.now eventType payload signature).activeReplay := by
        simp [WebhookEvent.activeReplay, recordEvent]
      refine ⟨houtbox, hwebhooks.insertRow (fun r hr hsame => hfresh ?_) rfl
        (Table.UniqueOn.insert hwebhooks.replays hnot)⟩
      have hid : r.id = id := hsame
      rw [← hid]
      exact hwebhooks.keys.known r hr
  | purgeOutbox retentionMs =>
    cases hmove
    exact ⟨houtbox.deleteRows, hwebhooks⟩
  | purgeWebhooks retentionMs =>
    cases hmove
    exact ⟨houtbox, hwebhooks.purge⟩
  | tick ms =>
    cases hmove
    exact ⟨⟨⟨houtbox.keys.ids, houtbox.keys.known⟩, houtbox.replays⟩,
      ⟨hwebhooks.keys, hwebhooks.replays, hwebhooks.locked⟩⟩

/-- Whatever the actor does, the indexes stay in force. -/
theorem Indexed.act {config : OutboxConfig} {p : Nat} {step : OperationsStep Inbound Message}
    {l l' : OperationsLocal Payload Inbound Message} (h : Indexed s)
    (hact : OperationsMachine.act config p s l step = some (s', l')) : Indexed s' := by
  cases step with
  | call turn =>
    obtain ⟨r, hr, heq⟩ := Option.map_eq_some_iff.mp hact
    cases heq
    rcases Process.observe_exec hr with hsame | ⟨st, -, hexec⟩
    · rw [hsame]
      exact h
    · exact h.exec hexec
  | work step =>
    simp only [OperationsMachine.act, OperationsMachine.work] at hact
    split at hact
    · rename_i hstep
      obtain ⟨r, hr, heq⟩ := Option.map_eq_some_iff.mp hact
      cases heq
      exact ⟨h.1.work hstep hr, h.2⟩
    · cases hact

end invariant
end OmniSupport.Operations
