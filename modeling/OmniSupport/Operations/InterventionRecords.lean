import OmniSupport.Foundation.Straight
import OmniSupport.Operations.CleanRefusals

/-! What an operator changes is recorded, unless a statement that comes after the change fails:
the rows, the intervention and its audit record are written one after another. -/
namespace OmniSupport.Operations
open Foundation Outbox Messaging Process

variable {Payload Inbound Message : Type}

abbrev OperationsEffect (Payload Inbound Message : Type) :=
  Effect (OperationsEnv Inbound Message) (OperationsStore Payload Inbound)
    (OperationsStatement Payload Inbound) AppError

namespace PlatformOperationsService

def dayMs : Nat := 24 * 60 * 60 * 1000

/-- The two deletions of `purge`, sent together. -/
def deletions (settings : OperationalSettings) :
    OperationsEffect Payload Inbound Message (Nat × Nat) :=
  let outboxMs := settings.outboxRetentionDays * dayMs
  let webhookMs := settings.webhookRetentionDays * dayMs
  Effect.both
    (toEffect operationsStatements (statement (.purgeOutbox outboxMs) fun s =>
      s.purgeCount outboxMs))
    (toEffect operationsStatements (statement (.purgeWebhooks webhookMs) fun s =>
      s.purgeWebhookCount webhookMs))

/-- The retention job has no actor and no reason, and leaves no record. -/
def purge (actor : Option OperatorActor) (reason : Option String) :
    OperationsEffect Payload Inbound Message (Nat × Nat) := do
  let settings ← toEffect operationsStatements OperationalSettingsService.get
  let deleted ← deletions settings
  match actor, reason with
  | some actor, some reason =>
    if reason = "" then return deleted
    else
      let _ ← toEffect operationsStatements (record .settings none .purge actor reason {
        outcome := .succeeded, detail := some (.purged deleted.1 deleted.2) })
      return deleted
  | _, _ => return deleted

end PlatformOperationsService

/-- The interventions of operators, by what they are about. -/
inductive OperatorCall where
  | retryOutbox (id : Uuid)
  | cancelOutbox (id : Uuid)
  | replayOutbox (id : Uuid)
  | retryWebhook (id : Uuid)
  | replayWebhook (id : Uuid)
  | cancelWebhook (id : Uuid)
  | updateSettings (changes : List (String × SettingValue))
  | purge
  deriving DecidableEq

namespace OperatorCall

def target : OperatorCall → Target
  | .retryOutbox _ | .cancelOutbox _ | .replayOutbox _ => .outbox
  | .retryWebhook _ | .replayWebhook _ | .cancelWebhook _ => .webhook
  | .updateSettings _ | .purge => .settings

def targetId : OperatorCall → Option Uuid
  | .retryOutbox id | .cancelOutbox id | .replayOutbox id | .retryWebhook id | .replayWebhook id
  | .cancelWebhook id => some id
  | .updateSettings _ | .purge => none

def action : OperatorCall → Action
  | .retryOutbox _ | .retryWebhook _ => .retry
  | .cancelOutbox _ | .cancelWebhook _ => .cancel
  | .replayOutbox _ | .replayWebhook _ => .replay
  | .updateSettings _ => .configure
  | .purge => .purge

/-- The call alone, statement by statement. -/
def effect (actor : OperatorActor) (reason : String) :
    OperatorCall → OperationsEffect Payload Inbound Message Unit
  | .retryOutbox id => toEffect operationsStatements
      (ending (PlatformOperationsService.retryOutbox id actor reason))
  | .cancelOutbox id => toEffect operationsStatements
      (ending (PlatformOperationsService.cancelOutbox id actor reason))
  | .replayOutbox id => toEffect operationsStatements
      (ending (PlatformOperationsService.replayOutbox id actor reason))
  | .retryWebhook id => toEffect operationsStatements
      (ending (PlatformOperationsService.retryWebhook id actor reason))
  | .replayWebhook id => toEffect operationsStatements
      (ending (PlatformOperationsService.replayWebhook id actor reason))
  | .cancelWebhook id => toEffect operationsStatements
      (ending (PlatformOperationsService.cancelWebhook id actor reason))
  | .updateSettings changes => toEffect operationsStatements
      (ending (PlatformOperationsService.updateSettings changes actor reason))
  | .purge => do
    let _ ← PlatformOperationsService.purge (some actor) (some reason)
    return ()

end OperatorCall

section terms
variable (actor : OperatorActor) (reason : String) (call : OperatorCall)
  (s s' : OperationsStore Payload Inbound)

/-- The call has added an intervention that names the actor, the target and the reason, and an
audit record of it that does. -/
def Recorded : Prop :=
  ∃ row audit, s'.interventions = s.interventions ++ [row] ∧ s'.audits = s.audits ++ [audit] ∧
    (row.targetType = call.target ∧ row.targetId = call.targetId ∧ row.action = call.action ∧
      row.actorId = actor.id ∧ row.reason = reason) ∧
    audit.actorId = actor.id ∧ audit.actorRole = actor.role ∧
    audit.resource = "operations." ++ call.target.text ∧ audit.resourceId = call.targetId ∧
    audit.metadata.intervention = row.id ∧ audit.metadata.action = call.action ∧
    audit.metadata.reason = reason

/-- What was changed is recorded. -/
def Accounted : Prop := s'.written = s.written ∨ Recorded actor reason call s s'

/-- A change of the call that is not recorded yet. -/
structure Unrecorded : Prop where
  changed : s.written < s'.written
  interventions : s'.interventions = s.interventions
  audits : s'.audits = s.audits

end terms

section record
variable {actor : OperatorActor} {reason : String} {call : OperatorCall}
  {s s' : OperationsStore Payload Inbound} {α : Type} {d : Nat}

theorem not_accounted (hchanged : s.written < s'.written) (haudits : s'.audits = s.audits) :
    ¬ Accounted actor reason call s s' := by
  rintro (hsame | ⟨row, audit, -, hnew, -⟩)
  · omega
  · have hlength := congrArg List.length (haudits.symm.trans hnew)
    simp at hlength

theorem Unrecorded.not_accounted (h : Unrecorded s s') : ¬ Accounted actor reason call s s' :=
  Operations.not_accounted h.changed h.audits

/-- Two statements are left when the record is to be made. -/
theorem owes_record {env : OperationsEnv Inbound Message} {result : InterventionResult}
    {g : OperationalIntervention → α} (call : OperatorCall) (h : Unrecorded s s') :
    (PlatformOperationsService.record call.target call.targetId call.action actor reason result >>=
      fun row => (pure (g row) : OperationsProcess Payload Inbound Message α)).Owes
        operationsStatements env (Accounted actor reason call s) d 2 s' := by
  refine ⟨h.not_accounted, 1, _, rfl, rfl, ?_⟩
  refine ⟨not_accounted h.changed h.audits, rfl, ⟨_, rfl⟩, _, rfl, .inr ?_⟩
  refine ⟨PlatformOperationsService.intervention call.target call.targetId call.action actor reason
      result (env.uuid d) (env.clock (d + 1)),
    PlatformOperationsService.interventionAudit call.target call.targetId call.action actor reason
      result (env.uuid d), ?_, ?_, ?_⟩
  · exact congrArg (· ++ _) h.interventions
  · exact congrArg (· ++ _) h.audits
  · exact ⟨⟨rfl, rfl, rfl, rfl, rfl⟩, rfl, rfl, rfl, rfl, rfl, rfl, rfl⟩

/-- A record of nothing changed. -/
theorem keeps_record {env : OperationsEnv Inbound Message} {result : InterventionResult}
    {g : OperationalIntervention → α} {target : Target} {targetId : Option Uuid} {action : Action}
    (h : s'.written = s.written) :
    (PlatformOperationsService.record target targetId action actor reason result >>=
      fun row => (pure (g row) : OperationsProcess Payload Inbound Message α)).Keeps
        operationsStatements env (Accounted actor reason call s) d s' := by
  refine ⟨.inl h, fun s₁ hrow => ?_⟩
  cases hrow
  refine ⟨⟨_, rfl⟩, .inl h, fun s₂ haudit => ?_⟩
  cases haudit
  exact .inl h

end record

section terms
variable (env : OperationsEnv Inbound Message) (s : OperationsStore Payload Inbound)

/-- What the first `get` of a call returns, and the statements it takes. -/
def currentSettings : OperationalSettings :=
  (env.cached 0).getD (OperationalSettings.stored s.settings)

def settingsReads : Nat := if (env.cached 0).isSome then 0 else 1

def Accepts (st : OperationsStatement Payload Inbound) : Prop :=
  ∃ s', OperationsStatement.exec st s = .ok s'

/-- The call comes to a statement that changes a row, and the database accepts it. -/
def Acts : OperatorCall → Prop
  | .retryOutbox id => ∃ row, s.outbox.find id = some row ∧ s.retryCount id = 1 ∧
      Accepts s (.retryOutbox id (row.attempts + (currentSettings env s).retryMaxAttempts))
  | .cancelOutbox id => s.cancelCount id = 1
  | .replayOutbox id => ∃ row, s.outbox.find id = some row ∧ row.replayable ∧
      Accepts s (.createOutboxReplay (env.uuid 1) (env.eventId 2)
        (currentSettings env s).retryMaxAttempts row)
  | .retryWebhook id => s.claimCount id (env.clock 1) = 1 ∧
      Accepts s (.claimWebhook id (env.clock 1) (env.clock 2) (env.uuid 0))
  | .replayWebhook id => ∃ row, s.webhooks.find id = some row ∧
      row.eventType = .whatsappInbound ∧ row.replayable ∧
      Accepts s (.createWebhookReplay (env.uuid 0) row)
  | .cancelWebhook id => s.cancelWebhookCount id = 1
  | .updateSettings changes => changes ≠ []
  | .purge => True

/-- The statements before the one that changes the first row. -/
def readsBefore : OperatorCall → Nat
  | .retryOutbox _ | .replayOutbox _ => settingsReads env + 1
  | .cancelOutbox _ | .retryWebhook _ | .replayWebhook _ | .cancelWebhook _ => 1
  | .updateSettings _ | .purge => settingsReads env

/-- The statements after it, the audit insert included. -/
def statementsLeft : OperatorCall → Nat
  | .retryOutbox _ | .cancelOutbox _ | .replayOutbox _ | .cancelWebhook _ => 2
  | .retryWebhook _ => 4
  | .replayWebhook _ => 5
  | .updateSettings _ | .purge => 3

end terms

section rules
variable {env : OperationsEnv Inbound Message} {s : OperationsStore Payload Inbound}
  {Q : OperationsStore Payload Inbound → Prop} {α : Type} {d m k : Nat}

theorem opens_get {f : OperationalSettings → OperationsProcess Payload Inbound Message α} (hQ : Q s)
    (h : (f (currentSettings env s)).Opens operationsStatements env Q 1 m k s) :
    (OperationalSettingsService.get >>= f).Opens operationsStatements env Q 0
      (settingsReads env + m) k s := by
  unfold OperationalSettingsService.get
  simp only [drawn, bind_eq, andThen, Opens, settingsReads]
  simp only [currentSettings] at h
  cases hcached : env.cached 0 with
  | some value =>
    rw [hcached] at h
    have hskip : (if (some value).isSome = true then 0 else 1) + m = m := by simp
    rw [hskip]
    exact h
  | none =>
    rw [hcached] at h
    have hread : (if (none : Option OperationalSettings).isSome = true then 0 else 1) + m = m + 1 := by
      simp [Nat.add_comm]
    rw [hread]
    exact opens_read rfl hQ h

theorem keeps_get {f : OperationalSettings → OperationsProcess Payload Inbound Message α} (hQ : Q s)
    (h : (f (currentSettings env s)).Keeps operationsStatements env Q 1 s) :
    (OperationalSettingsService.get >>= f).Keeps operationsStatements env Q 0 s := by
  unfold OperationalSettingsService.get
  simp only [drawn, bind_eq, andThen, Keeps]
  simp only [currentSettings] at h
  cases hcached : env.cached 0 with
  | some value =>
    rw [hcached] at h
    exact h
  | none =>
    rw [hcached] at h
    exact keeps_read rfl hQ h

theorem opens_findOutbox {id : Uuid} {row : OutboxEvent Payload}
    {f : OutboxEvent Payload → OperationsProcess Payload Inbound Message α} (hQ : Q s)
    (hfind : s.outbox.find id = some row) (h : (f row).Opens operationsStatements env Q d m k s) :
    (PlatformOperationsService.findOutbox id >>= f).Opens operationsStatements env Q d (m + 1) k
      s := by
  unfold PlatformOperationsService.findOutbox
  rw [bind_bind]
  refine opens_read rfl hQ ?_
  rw [hfind]
  exact h

theorem keeps_findOutbox {id : Uuid}
    {f : OutboxEvent Payload → OperationsProcess Payload Inbound Message α} (hQ : Q s)
    (h : ∀ row, s.outbox.find id = some row → (f row).Keeps operationsStatements env Q d s) :
    (PlatformOperationsService.findOutbox id >>= f).Keeps operationsStatements env Q d s := by
  unfold PlatformOperationsService.findOutbox
  rw [bind_bind]
  refine keeps_read rfl hQ ?_
  cases hfind : s.outbox.find id with
  | none => exact hQ
  | some row => exact h row hfind

theorem opens_findWebhook {id : Uuid} {row : WebhookEvent Inbound}
    {f : WebhookEvent Inbound → OperationsProcess Payload Inbound Message α} (hQ : Q s)
    (hfind : s.webhooks.find id = some row) (h : (f row).Opens operationsStatements env Q d m k s) :
    (PlatformOperationsService.findWebhook id >>= f).Opens operationsStatements env Q d (m + 1) k
      s := by
  unfold PlatformOperationsService.findWebhook
  rw [bind_bind]
  refine opens_read rfl hQ ?_
  rw [hfind]
  exact h

theorem keeps_findWebhook {id : Uuid}
    {f : WebhookEvent Inbound → OperationsProcess Payload Inbound Message α} (hQ : Q s)
    (h : ∀ row, s.webhooks.find id = some row → (f row).Keeps operationsStatements env Q d s) :
    (PlatformOperationsService.findWebhook id >>= f).Keeps operationsStatements env Q d s := by
  unfold PlatformOperationsService.findWebhook
  rw [bind_bind]
  refine keeps_read rfl hQ ?_
  cases hfind : s.webhooks.find id with
  | none => exact hQ
  | some row => exact h row hfind

/-- An update by the id that finds its row changes it. -/
theorem opens_counted {st : OperationsStatement Payload Inbound}
    {count : OperationsStore Payload Inbound → Nat} {e : AppError}
    {s' : OperationsStore Payload Inbound}
    {f : Unit → OperationsProcess Payload Inbound Message α} (hQ : Q s)
    (hexec : OperationsStatement.exec st s = .ok s') (hcount : count s = 1)
    (h : (f ()).Owes operationsStatements env Q d k s') :
    (statement st count >>= fun n => lift (Database.require (n = 1) e) >>= f).Opens
      operationsStatements env Q d 0 k s := by
  refine opens_write hexec hQ ?_
  simp only [hcount, decide_true]
  exact h

theorem keeps_counted {st : OperationsStatement Payload Inbound}
    {count : OperationsStore Payload Inbound → Nat} {e : AppError}
    {f : Unit → OperationsProcess Payload Inbound Message α} (hQ : Q s)
    (hexec : ∀ s', OperationsStatement.exec st s = .ok s' → count s ≠ 1 ∧ Q s') :
    (statement st count >>= fun n => lift (Database.require (n = 1) e) >>= f).Keeps
      operationsStatements env Q d s := by
  refine ⟨hQ, fun s' hok => ?_⟩
  obtain ⟨hcount, hkept⟩ := hexec s' hok
  simp only [andThen, hcount, decide_false]
  exact hkept

theorem keeps_require {condition : Bool} {e : AppError}
    {f : Unit → OperationsProcess Payload Inbound Message α} (hQ : Q s)
    (h : condition = true → (f ()).Keeps operationsStatements env Q d s) :
    (lift (Database.require condition e) >>= f).Keeps operationsStatements env Q d s := by
  cases condition with
  | true => exact h rfl
  | false => exact hQ

end rules

section calls
variable {env : OperationsEnv Inbound Message} {s s' : OperationsStore Payload Inbound}
  {actor : OperatorActor} {reason : String} {id : Uuid}

/-- When the call acts, it comes to its change and then owes the record; otherwise nothing is
ever left unrecorded. -/
def Straightforward (env : OperationsEnv Inbound Message) (s : OperationsStore Payload Inbound)
    (actor : OperatorActor) (reason : String) (call : OperatorCall)
    (p : OperationsProcess Payload Inbound Message Unit) : Prop :=
  (Acts env s call → p.Opens operationsStatements env (Accounted actor reason call s) 0
    (readsBefore env call) (statementsLeft call) s) ∧
  (¬ Acts env s call →
    p.Keeps operationsStatements env (Accounted actor reason call s) 0 s)

theorem accounted_refl {call : OperatorCall} : Accounted actor reason call s s := .inl rfl

theorem accounted_of_zero {call : OperatorCall} {n : Nat} (h : s'.written = s.written + n)
    (hn : n = 0) : Accounted actor reason call s s' := by
  left
  omega

theorem retryOutbox_straightforward (hs : Indexed s) :
    Straightforward env s actor reason (.retryOutbox id)
      (ending (PlatformOperationsService.retryOutbox id actor reason)) := by
  have hone : s.retryCount id ≤ 1 := Table.count_le_one hs.1.keys.ids fun _ hr => hr.1
  unfold ending PlatformOperationsService.retryOutbox
  simp only [bind_bind]
  constructor
  · rintro ⟨row, hfind, hcount, s₁, hexec⟩
    refine opens_get accounted_refl (opens_findOutbox accounted_refl hfind ?_)
    refine opens_counted accounted_refl hexec hcount (owes_record (.retryOutbox id) ?_)
    simp only [OperationsStatement.exec] at hexec
    split at hexec <;> cases hexec
    refine ⟨?_, rfl, rfl⟩
    simp only [OperationsStore.setOutbox]
    omega
  · intro hidle
    refine keeps_get accounted_refl (keeps_findOutbox accounted_refl fun row hfind => ?_)
    refine keeps_counted accounted_refl fun s₁ hexec => ?_
    have hcount : s.retryCount id ≠ 1 := fun hcount => hidle ⟨row, hfind, hcount, s₁, hexec⟩
    refine ⟨hcount, ?_⟩
    simp only [OperationsStatement.exec] at hexec
    split at hexec <;> cases hexec
    exact accounted_of_zero rfl (by omega)

theorem cancelOutbox_straightforward (hs : Indexed s) :
    Straightforward env s actor reason (.cancelOutbox id)
      (ending (PlatformOperationsService.cancelOutbox id actor reason)) := by
  have hone : s.cancelCount id ≤ 1 := Table.count_le_one hs.1.keys.ids fun _ hr => hr.1
  unfold ending PlatformOperationsService.cancelOutbox
  simp only [bind_bind]
  constructor
  · intro hcount
    obtain ⟨r, hfind, -⟩ := Table.find?_of_count hs.1.keys.ids (fun _ hr => hr.1) hcount
    refine opens_findOutbox accounted_refl hfind ?_
    refine opens_counted accounted_refl rfl hcount (owes_record (.cancelOutbox id) ?_)
    refine ⟨?_, rfl, rfl⟩
    have hwritten : s.cancelCount id = 1 := hcount
    simp only [OperationsStore.setOutbox]
    omega
  · intro hcount
    refine keeps_findOutbox accounted_refl fun row hfind => ?_
    refine keeps_counted accounted_refl fun s₁ hexec => ⟨hcount, ?_⟩
    cases hexec
    exact accounted_of_zero rfl (by
      have hnot : s.cancelCount id ≠ 1 := hcount
      omega)

theorem cancelWebhook_straightforward (hs : Indexed s) :
    Straightforward env s actor reason (.cancelWebhook id)
      (ending (PlatformOperationsService.cancelWebhook id actor reason)) := by
  have hone : s.cancelWebhookCount id ≤ 1 := Table.count_le_one hs.2.keys.nodup fun _ hr => hr.1
  unfold ending PlatformOperationsService.cancelWebhook
  simp only [bind_bind]
  constructor
  · intro hcount
    obtain ⟨r, hfind, -⟩ := Table.find?_of_count hs.2.keys.nodup (fun _ hr => hr.1) hcount
    refine opens_findWebhook accounted_refl hfind ?_
    refine opens_counted accounted_refl rfl hcount (owes_record (.cancelWebhook id) ?_)
    refine ⟨?_, rfl, rfl⟩
    have hwritten : s.cancelWebhookCount id = 1 := hcount
    simp only [OperationsStore.setWebhooks]
    omega
  · intro hcount
    refine keeps_findWebhook accounted_refl fun row hfind => ?_
    refine keeps_counted accounted_refl fun s₁ hexec => ⟨hcount, ?_⟩
    cases hexec
    exact accounted_of_zero rfl (by
      have hnot : s.cancelWebhookCount id ≠ 1 := hcount
      omega)

theorem replayOutbox_straightforward :
    Straightforward env s actor reason (.replayOutbox id)
      (ending (PlatformOperationsService.replayOutbox id actor reason)) := by
  unfold ending PlatformOperationsService.replayOutbox
  simp only [bind_bind]
  constructor
  · rintro ⟨row, hfind, hreplayable, s₁, hexec⟩
    refine opens_findOutbox accounted_refl hfind ?_
    simp only [Database.require, hreplayable, decide_true]
    refine opens_get (m := 0) accounted_refl ?_
    refine ⟨accounted_refl, s₁, hexec, .inl ⟨rfl, owes_record (.replayOutbox id) ?_⟩⟩
    simp only [OperationsStatement.exec] at hexec
    split at hexec <;> cases hexec
    exact ⟨Nat.lt_succ_self _, rfl, rfl⟩
  · intro hidle
    refine keeps_findOutbox accounted_refl fun row hfind => ?_
    refine keeps_require accounted_refl fun hreplayable => ?_
    refine keeps_get accounted_refl ⟨accounted_refl, fun s₁ hexec => ?_⟩
    exact absurd ⟨row, hfind, of_decide_eq_true hreplayable, s₁, hexec⟩ hidle

theorem updateSettings_straightforward {changes : List (String × SettingValue)} :
    Straightforward env s actor reason (.updateSettings changes)
      (ending (PlatformOperationsService.updateSettings changes actor reason)) := by
  unfold ending PlatformOperationsService.updateSettings OperationalSettingsService.update
  simp only [bind_bind]
  constructor
  · intro hchanges
    have hpositive : 0 < changes.length := List.length_pos_iff.mpr hchanges
    refine opens_get (m := 0) accounted_refl ?_
    refine opens_write rfl accounted_refl ?_
    have hwritten : s.written < s.written + changes.length := by omega
    refine owes_statement rfl (not_accounted hwritten rfl) ?_
    exact owes_record (.updateSettings changes) ⟨hwritten, rfl, rfl⟩
  · intro hnone
    have hempty : changes = [] := not_not.mp hnone
    refine keeps_get accounted_refl ⟨accounted_refl, fun s₁ hexec => ?_⟩
    cases hexec
    have hwritten : s.written + changes.length = s.written := by rw [hempty]; rfl
    refine ⟨.inl hwritten, fun s₂ hread => ?_⟩
    cases hread
    exact keeps_record hwritten

/-- The event that was claimed is read, processed and completed. -/
theorem owes_processClaimed {call : OperatorCall} {w : Messaging.WorkerId}
    {event : WebhookEvent Inbound} {d k : Nat} {α : Type}
    {f : ProcessingOutcome → OperationsProcess Payload Inbound Message α}
    (hfind : s'.webhooks.find id = some event) (hopen : Unrecorded s s')
    (h : ∀ outcome s₁, Unrecorded s s₁ → (f outcome).Owes operationsStatements env
      (Accounted actor reason call s) (d + 1) k s₁) :
    (WebhookProcessingService.processClaimed id w >>= f).Owes operationsStatements env
      (Accounted actor reason call s) d (k + 2) s' := by
  unfold WebhookProcessingService.processClaimed
  simp only [bind_bind]
  have hread : operationsStatements.exec (.readWebhook id) s' = .ok s' := rfl
  refine owes_statement hread hopen.not_accounted ?_
  simp only [hfind]
  change Owes _ _ _ (execute (.completeWebhook id w (OperationsEnv.received event.payload env d)) >>=
    fun _ => f (OperationsEnv.received event.payload env d)) (d + 1) (k + 1) s'
  refine owes_statement rfl hopen.not_accounted ?_
  refine h _ _ ⟨?_, hopen.interventions, hopen.audits⟩
  have hchanged := hopen.changed
  simp only [OperationsStore.setWebhooks]
  omega

/-- The claim of an event whose row is there. -/
theorem claimed_of_exec {startedAt lockedAt : Time} {w : Messaging.WorkerId}
    (hs : Indexed s) (hcount : s.claimCount id startedAt = 1)
    (hexec : OperationsStatement.exec (.claimWebhook id startedAt lockedAt w) s = .ok s') :
    (∃ event, s'.webhooks.find id = some event) ∧ s'.written = s.written + 1 ∧
      s'.interventions = s.interventions ∧ s'.audits = s.audits := by
  have hpositive : 0 < s.claimCount id startedAt := by omega
  obtain ⟨r, hr, hclaim⟩ := Table.count_pos.mp hpositive
  simp only [OperationsStatement.exec] at hexec
  split at hexec
  · cases hexec
    have hkeys : Table.Keyed WebhookEvent.id
        (Table.updateMany (WebhookEvent.claimable id startedAt) (WebhookEvent.claim lockedAt w)
          s.webhooks.rows) s.webhooks.uuids := hs.2.keys.updateMany fun _ => rfl
    have hmem := Table.mem_updateMany (f := WebhookEvent.claim lockedAt w).mpr
      (.inl ⟨r, hr, hclaim, rfl⟩)
    refine ⟨⟨r.claim lockedAt w, ?_⟩, ?_, rfl, rfl⟩
    · have hfind := Table.find?_of_mem hkeys.nodup hmem
      rw [show (r.claim lockedAt w).id = id from hclaim.1] at hfind
      exact hfind
    · simp only [OperationsStore.setWebhooks, hcount]
  · cases hexec

theorem retryWebhook_straightforward (hs : Indexed s) :
    Straightforward env s actor reason (.retryWebhook id)
      (ending (PlatformOperationsService.retryWebhook id actor reason)) := by
  have hone : s.claimCount id (env.clock 1) ≤ 1 :=
    Table.count_le_one hs.2.keys.nodup fun _ hr => hr.1
  unfold ending PlatformOperationsService.retryWebhook WebhookProcessingService.process
  simp only [bind_bind]
  constructor
  · rintro ⟨hcount, s₁, hexec⟩
    obtain ⟨r, hfind, -⟩ := Table.find?_of_count hs.2.keys.nodup (fun _ hr => hr.1) hcount
    refine opens_findWebhook accounted_refl hfind ?_
    refine ⟨accounted_refl, s₁, hexec, .inl ⟨rfl, ?_⟩⟩
    obtain ⟨⟨event, hfound⟩, hwritten, hinterventions, haudits⟩ := claimed_of_exec hs hcount hexec
    simp only [andThen, hcount, if_true, map_bind]
    have hopen : Unrecorded s s₁ := ⟨by omega, hinterventions, haudits⟩
    exact owes_processClaimed hfound hopen fun outcome s₂ hchanged =>
      owes_record (.retryWebhook id) hchanged
  · intro hidle
    refine keeps_findWebhook accounted_refl fun row hfind => ?_
    refine ⟨accounted_refl, fun s₁ hexec => ?_⟩
    have hcount : s.claimCount id (env.clock 1) ≠ 1 := fun hcount => hidle ⟨hcount, s₁, hexec⟩
    simp only [andThen, hcount, if_false]
    have hexec' : OperationsStatement.exec
      (.claimWebhook id (env.clock 1) (env.clock 2) (env.uuid 0)) s = .ok s₁ := hexec
    simp only [OperationsStatement.exec] at hexec'
    split at hexec' <;> cases hexec'
    exact accounted_of_zero rfl (Nat.lt_one_iff.mp (lt_of_le_of_ne hone hcount))

/-- The replay that has just been stored is free to be claimed. -/
theorem replay_claimable {row : WebhookEvent Inbound} (hs : Indexed s)
    (hinbound : row.eventType = .whatsappInbound)
    (hexec : OperationsStatement.exec (.createWebhookReplay id row) s = .ok s')
    (startedAt lockedAt : Time) (w : Messaging.WorkerId) :
    s'.claimCount id startedAt = 1 ∧ Unrecorded s s' ∧
      Accepts s' (.claimWebhook id startedAt lockedAt w) := by
  have hkept : Indexed s' := hs.exec hexec
  simp only [OperationsStatement.exec] at hexec
  split at hexec
  · rename_i hfree
    cases hexec
    have hnone : s.claimCount id startedAt = 0 :=
      Table.count_eq_zero.mpr fun r hr hclaim => hfree.1 r hr hclaim.1
    have hnew : (row.replay id s.webhooks.now).claimable id startedAt :=
      ⟨rfl, hinbound, .inl (.inl rfl)⟩
    refine ⟨?_, ⟨Nat.lt_succ_self _, rfl, rfl⟩, _, claimWebhook_exec hkept ?_⟩
    · have hcount : Table.count (WebhookEvent.claimable id startedAt)
          (s.webhooks.rows ++ [row.replay id s.webhooks.now]) = 0 + 1 := by
        rw [Table.count_append, Table.count_singleton, if_pos hnew]
        exact congrArg (· + 1) hnone
      exact hcount
    · rintro ⟨r, hr, hid, -, hskipped, -⟩
      rcases List.mem_append.mp hr with hold | hlast
      · exact hfree.1 r hold hid
      · rw [List.mem_singleton.mp hlast] at hskipped
        cases hskipped
  · cases hexec

theorem replayWebhook_straightforward (hs : Indexed s) :
    Straightforward env s actor reason (.replayWebhook id)
      (ending (PlatformOperationsService.replayWebhook id actor reason)) := by
  unfold ending PlatformOperationsService.replayWebhook
  simp only [bind_bind]
  constructor
  · rintro ⟨row, hfind, hinbound, hreplayable, s₁, hexec⟩
    refine opens_findWebhook accounted_refl hfind ?_
    simp only [Database.require, hinbound, hreplayable, decide_true]
    refine ⟨accounted_refl, s₁, hexec, .inl ⟨rfl, ?_⟩⟩
    obtain ⟨hcount, hopen, s₂, hclaim⟩ :=
      replay_claimable hs hinbound hexec (env.clock 2) (env.clock 3) (env.uuid 1)
    obtain ⟨⟨event, hfound⟩, hwritten, hinterventions, haudits⟩ :=
      claimed_of_exec (hs.exec hexec) hcount hclaim
    refine ⟨hopen.not_accounted, 4, s₂, rfl, hclaim, ?_⟩
    simp only [andThen, hcount, if_true]
    rw [← bind_eq, map_bind]
    have hchanged := hopen.changed
    have hopen' : Unrecorded s s₂ :=
      ⟨by omega, hinterventions.trans hopen.interventions, haudits.trans hopen.audits⟩
    exact owes_processClaimed hfound hopen' fun outcome s₃ hrecord =>
      owes_record (.replayWebhook id) hrecord
  · intro hidle
    refine keeps_findWebhook accounted_refl fun row hfind => ?_
    refine keeps_require accounted_refl fun hinbound =>
      keeps_require accounted_refl fun hreplayable => ?_
    refine ⟨accounted_refl, fun s₁ hexec => ?_⟩
    exact absurd ⟨row, hfind, of_decide_eq_true hinbound, of_decide_eq_true hreplayable, s₁, hexec⟩
      hidle

end calls

section purge
variable {env : OperationsEnv Inbound Message} {s : OperationsStore Payload Inbound}
  {actor : OperatorActor} {reason : String} {faults : Nat → Fault}
  {w : World (OperationsStore Payload Inbound) (OperationsStatement Payload Inbound)}

/-- The rows that the deletions of a purge remove, when the first of them is statement `n`. -/
def purgedRows (settings : OperationalSettings) (s : OperationsStore Payload Inbound)
    (faults : Nat → Fault) (n : Nat) : Nat :=
  (if faults n = .none then
    s.purgeCount (settings.outboxRetentionDays * PlatformOperationsService.dayMs)
  else 0) +
  if faults n ≠ .crash ∧ faults (n + 1) = .none then
    s.purgeWebhookCount (settings.webhookRetentionDays * PlatformOperationsService.dayMs)
  else 0

/-- The purge goes on when neither deletion fails. -/
theorem deletions_run (env : OperationsEnv Inbound Message) (faults : Nat → Fault)
    (settings : OperationalSettings) (hw : w.working = none)
    (hs : w.committed = s) :
    ∃ r w', (PlatformOperationsService.deletions settings).run env faults w = (r, w') ∧
      w'.committed.interventions = s.interventions ∧ w'.committed.audits = s.audits ∧
      w'.committed.written = s.written + purgedRows settings s faults w.calls.length ∧
      (faults w.calls.length = .none ∧ faults (w.calls.length + 1) = .none ∧
          r.isOk = true ∧ w'.working = none ∧ w'.calls.length = w.calls.length + 2 ∨
        (faults w.calls.length ≠ .none ∨ faults (w.calls.length + 1) ≠ .none) ∧
          r.isOk = false) := by
  subst hs
  have hcount : ∀ (outbox : OutboxStore Payload) n ms, OperationsStore.purgeWebhookCount
      { w.committed with outbox := outbox, written := n } ms =
        w.committed.purgeWebhookCount ms := fun _ _ _ => rfl
  refine ⟨_, _, rfl, ?_⟩
  cases hfirst : faults w.calls.length <;> cases hsecond : faults (w.calls.length + 1) <;>
    simp [toEffect, statement, awaited, bind,
      Effect.andThen, Effect.call, purgedRows, hfirst, hsecond, operationsStatements,
      OperationsStatement.client, OperationsStatement.exec, World.view, World.write, World.log, hw,
      Except.map, pure, Effect.ret, Outcome.isOk, OperationsStore.setOutbox,
      OperationsStore.setWebhooks, Nat.add_assoc, hcount]

/-- The settings are in the cache, or are read. -/
theorem get_run (env : OperationsEnv Inbound Message) (s : OperationsStore Payload Inbound)
    (faults : Nat → Fault) :
    ∃ r w', (toEffect operationsStatements OperationalSettingsService.get).run env faults
        (World.start s) = (r, w') ∧ w'.committed = s ∧
      ((∀ i < settingsReads env, faults i = .none) ∧ r = .ok (currentSettings env s) ∧
          w'.working = none ∧ w'.calls.length = settingsReads env ∨
        (¬ ∀ i < settingsReads env, faults i = .none) ∧ r.isOk = false) := by
  refine ⟨_, _, rfl, ?_⟩
  cases hcached : env.cached 0 with
  | some value =>
    simp [andThen, toEffect, settingsReads, currentSettings, hcached, World.start, pure, Effect.ret]
  | none =>
    cases hfirst : faults 0 <;>
      simp [OperationalSettingsService.read, andThen,
        toEffect, settingsReads, currentSettings, hcached, hfirst, bind, Effect.andThen,
        World.start, pure, Effect.ret, statement, awaited, Effect.call, operationsStatements,
        OperationsStatement.client, OperationsStatement.exec, World.view, World.write, World.log,
        Except.map, Outcome.isOk]

end purge

section results
variable {env : OperationsEnv Inbound Message} {s : OperationsStore Payload Inbound}
  {actor : OperatorActor} {reason : String} {faults : Nat → Fault}

/-- A statement fails, or the process crashes, after the call has changed a row and before the
audit record is written. A purge without a reason writes none. -/
def Lost (env : OperationsEnv Inbound Message) (s : OperationsStore Payload Inbound)
    (faults : Nat → Fault) (reason : String) : OperatorCall → Prop
  | .purge => (∀ i < settingsReads env, faults i = .none) ∧
      0 < purgedRows (currentSettings env s) s faults (settingsReads env) ∧
      ¬ (reason ≠ "" ∧ ∀ i < 4, faults (settingsReads env + i) = .none)
  | other => Acts env s other ∧
      Interrupted faults 0 (readsBefore env other) (statementsLeft other)

theorem Straightforward.accounted {call : OperatorCall}
    {p : OperationsProcess Payload Inbound Message Unit}
    (h : Straightforward env s actor reason call p) :
    Accounted actor reason call s
        ((toEffect operationsStatements p).run env faults (World.start s)).2.committed ↔
      ¬ (Acts env s call ∧ Interrupted faults 0 (readsBefore env call) (statementsLeft call)) := by
  by_cases hacts : Acts env s call
  · have hopens := h.1 hacts
    rw [hopens.run (w := World.start s) rfl rfl rfl]
    simp [hacts, World.start]
  · have hkept : Accounted actor reason call s
        ((toEffect operationsStatements p).run env faults (World.start s)).2.committed :=
      (h.2 hacts).run rfl rfl rfl
    simp [hacts, hkept]

theorem bind_pure_run {α β : Type} {e : OperationsEffect Payload Inbound Message α} {g : α → β}
    {w : World (OperationsStore Payload Inbound) (OperationsStatement Payload Inbound)} :
    ((e >>= fun a => pure (g a)).run env faults w).2 = (e.run env faults w).2 := by
  rw [← map_eq_pure_bind]
  exact (Effect.map_run e g env faults w).1

/-- The record made last is complete when its two statements run. -/
theorem record_run (call : OperatorCall) {result : InterventionResult}
    {w : World (OperationsStore Payload Inbound) (OperationsStatement Payload Inbound)}
    (hw : w.working = none) (hinterventions : w.committed.interventions = s.interventions)
    (haudits : w.committed.audits = s.audits) (hwritten : s.written ≤ w.committed.written) :
    Accounted actor reason call s
        ((toEffect operationsStatements (PlatformOperationsService.record call.target call.targetId
          call.action actor reason result)).run env faults w).2.committed ↔
      (s.written < w.committed.written →
        ∀ i < 2, faults (w.calls.length + i) = .none) := by
  rw [← bind_pure_run (g := fun row => row)]
  have hprocess : (toEffect operationsStatements (PlatformOperationsService.record call.target
      call.targetId call.action actor reason result) >>= fun row => pure row) =
        toEffect operationsStatements ((PlatformOperationsService.record call.target call.targetId
          call.action actor reason result : OperationsProcess Payload Inbound Message _) >>=
            fun row => pure row) := by
    rw [toEffect_bind]
    rfl
  rw [hprocess]
  by_cases hchanged : s.written < w.committed.written
  · have hopen : Unrecorded s w.committed := ⟨hchanged, hinterventions, haudits⟩
    rw [(owes_record call hopen).run hw rfl rfl]
    simp [hchanged]
  · have hsame : w.committed.written = s.written := by omega
    exact ⟨fun _ h => absurd h hchanged, fun _ => (keeps_record hsame).run hw rfl rfl⟩

theorem purge_accounted :
    Accounted actor reason .purge s
        ((OperatorCall.purge.effect actor reason).run env faults (World.start s)).2.committed ↔
      ¬ Lost env s faults reason .purge := by
  obtain ⟨r, w, hget, hs, hcases⟩ := get_run env s faults
  unfold OperatorCall.effect
  rw [bind_pure_run]
  unfold PlatformOperationsService.purge
  rcases hcases with ⟨hreads, rfl, hw, hlength⟩ | ⟨hreads, hno⟩
  · rw [Effect.bind_run_ok hget]
    obtain ⟨r', w', hrun, hinterventions, haudits, hwritten, hend⟩ :=
      deletions_run env faults (currentSettings env s) hw hs
    rw [hlength] at hwritten hend
    have hwhole : (∀ i < 4, faults (settingsReads env + i) = .none) ↔
        (faults (settingsReads env) = .none ∧ faults (settingsReads env + 1) = .none) ∧
          ∀ i < 2, faults (settingsReads env + 2 + i) = .none := by
      constructor
      · intro hall
        refine ⟨⟨hall 0 (by omega), hall 1 (by omega)⟩, fun i hi => ?_⟩
        have hone := hall (2 + i) (by omega)
        rwa [← Nat.add_assoc] at hone
      · rintro ⟨⟨hfirst, hsecond⟩, hlast⟩ i hi
        match i with
        | 0 => exact hfirst
        | 1 => exact hsecond
        | i + 2 =>
          have hone := hlast i (by omega)
          rwa [Nat.add_assoc, Nat.add_comm 2 i] at hone
    have hremoved : Accounted actor reason .purge s w'.committed ↔
        ¬ 0 < purgedRows (currentSettings env s) s faults (settingsReads env) := by
      constructor
      · intro haccounted hpositive
        exact not_accounted (by omega) haudits haccounted
      · intro hzero
        exact .inl (by omega)
    have hlost : Lost env s faults reason .purge ↔
        0 < purgedRows (currentSettings env s) s faults (settingsReads env) ∧
          ¬ (reason ≠ "" ∧ ∀ i < 4, faults (settingsReads env + i) = .none) :=
      ⟨fun h => h.2, fun h => ⟨hreads, h⟩⟩
    rw [hlost]
    rcases hend with ⟨hfirst, hsecond, hyes, hw', hlength'⟩ | ⟨hfault, hno⟩
    · cases r' with
      | error e => cases hyes
      | crashed => cases hyes
      | ok deleted =>
        rw [Effect.bind_run_ok hrun]
        by_cases hreason : reason = ""
        · simp only [hreason, if_true]
          change Accounted actor "" .purge s w'.committed ↔ _
          rw [hreason] at hremoved
          rw [hremoved]
          simp
        · simp only [hreason, if_false, bind_pure_run]
          refine Iff.trans (record_run .purge hw' hinterventions haudits (by omega)) ?_
          rw [hlength', hwhole]
          have hpurged : s.written < w'.committed.written ↔
              0 < purgedRows (currentSettings env s) s faults (settingsReads env) := by omega
          rw [hpurged]
          simp [hreason, hfirst, hsecond]
    · rw [bind_run_stopped hrun hno, hremoved]
      have hnot : ¬ ∀ i < 4, faults (settingsReads env + i) = .none := by
        rw [hwhole]
        rintro ⟨⟨hfirst, hsecond⟩, -⟩
        exact hfault.elim (fun h => h hfirst) fun h => h hsecond
      simp [hnot]
  · rw [bind_run_stopped hget hno, hs]
    have hkept : Accounted actor reason .purge s s := accounted_refl
    simp [Lost, hreads, hkept]

/-- Whatever a call changes is recorded with its actor, target and reason, exactly when no
statement is lost between the change and the audit record. -/
theorem interventions_recorded (hs : Indexed s) (call : OperatorCall) :
    Accounted actor reason call s
        ((call.effect actor reason).run env faults (World.start s)).2.committed ↔
      ¬ Lost env s faults reason call := by
  cases call with
  | purge => exact purge_accounted
  | retryOutbox id => exact (retryOutbox_straightforward hs).accounted
  | cancelOutbox id => exact (cancelOutbox_straightforward hs).accounted
  | replayOutbox id => exact replayOutbox_straightforward.accounted
  | retryWebhook id => exact (retryWebhook_straightforward hs).accounted
  | replayWebhook id => exact (replayWebhook_straightforward hs).accounted
  | cancelWebhook id => exact (cancelWebhook_straightforward hs).accounted
  | updateSettings changes => exact updateSettings_straightforward.accounted

end results

section demo

/-- One event waits to be delivered. -/
def waitingStore : OperationsStore Unit Unit :=
  { emptyStore with outbox := emptyStore.outbox.enqueue 1 demoEvent }

def cancelled (faults : Nat → Fault) : OperationsStore Unit Unit :=
  (((OperatorCall.cancelOutbox 1).effect admin "requested by the customer").run
    (demoEnv 2 demoEvent.eventId .processed) faults (World.start waitingStore)).2.committed

/-- The event is cancelled, and the audit insert or the insert before it fails. -/
theorem cancellation_unrecorded :
    ¬ Accounted admin "requested by the customer" (.cancelOutbox 1) waitingStore
        (cancelled fun n => if n = 3 then .throws else .none) ∧
      ¬ Accounted admin "requested by the customer" (.cancelOutbox 1) waitingStore
        (cancelled fun n => if n = 2 then .crash else .none) :=
  ⟨not_accounted (by decide) (by decide), not_accounted (by decide) (by decide)⟩

theorem interventions_recorded_cancel :
    Accounted admin "requested by the customer" (.cancelOutbox 1) waitingStore
        (cancelled fun _ => .none) := by
  have hindexed : Indexed waitingStore :=
    ⟨⟨⟨by decide, by decide⟩, by decide⟩, ⟨⟨by decide, by decide⟩, by decide, by decide⟩⟩
  refine (interventions_recorded hindexed (.cancelOutbox 1)).mpr ?_
  rintro ⟨-, -, hlost⟩
  exact hlost fun _ _ => rfl

end demo
end OmniSupport.Operations
