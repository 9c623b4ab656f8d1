import OmniSupport.Notification.NotificationService
import OmniSupport.Outbox.Rejection

/-! Which failures of a notification handler reach the outbox: only those of the lookups
the handler makes itself, since the service catches everything after them. -/
namespace OmniSupport.Notification
open Foundation Outbox NotificationService

/-- The lookups a handler makes before it enters the service. -/
def ownLookups : EventBody → Nat
  | .ticketCreated .. | .ticketAssigned .. | .ticketEscalated .. => 1
  | .commentAdded .. => 2
  | _ => 0

/-- The step of the worker whose handler ended so. -/
def settlesAs (index : Nat) : Outcome AppError Unit → OutboxStep
  | .ok _ => .handler index .succeed
  | .error _ => .handler index .throw
  | .crashed => .crash

/-- The handler of `event` rejects, and so does every delivery of the event in which it
ends like this. -/
def FailureSurfaces (config : OutboxConfig) (event : EventBody) (outcome : Outcome AppError Unit) :
    Prop :=
  outcome.isError = true ∧
    ∀ (w : WorkerId) (record : OutboxEvent EventBody) runs rest index
      (c c' : Pool (OutboxStore EventBody) (Outbox.Task EventBody)),
      record.payload = event → c.locals w = .delivering record runs rest →
      runs[index]? = some .running →
      (OutboxProcessor.machine config).step c (.act w (settlesAs index outcome)) = some c' →
      OutboxProcessor.RejectsDelivery config w record c'

theorem isError_failureSurfaces {config : OutboxConfig} {event : EventBody}
    {outcome : Outcome AppError Unit} (h : outcome.isError = true) :
    FailureSurfaces config event outcome := by
  cases outcome with
  | error x =>
    exact ⟨rfl, fun w record runs rest index c c' _ htask hrun hs =>
      OutboxProcessor.throw_rejectsDelivery htask hrun hs⟩
  | ok | crashed => cases h

theorem quiet_notifyTicketCreated (dto : NotifyTicketCreatedDto) :
    Effect.Quiet (notifyTicketCreated dto) :=
  Effect.quiet_swallow _

theorem quiet_notifyTicketAssigned (dto : NotifyTicketAssignedDto) :
    Effect.Quiet (notifyTicketAssigned dto) :=
  Effect.quiet_swallow _

theorem quiet_notifyTicketEscalated (dto : NotifyTicketEscalatedDto) :
    Effect.Quiet (notifyTicketEscalated dto) :=
  Effect.quiet_swallow _

theorem quiet_notifyTicketResolved (ticketId tenantId : Uuid) :
    Effect.Quiet (notifyTicketResolved ticketId tenantId) :=
  Effect.quiet_swallow _

theorem quiet_notifyCommentAdded (dto : NotifyCommentAddedDto) :
    Effect.Quiet (notifyCommentAdded dto) :=
  Effect.quiet_swallow _

/-- A handler that looks its ticket up and enters the service rejects with the lookup. -/
theorem findTicket_then_isError {service : Option Ticket → NotifyM Unit}
    (hq : ∀ found, Effect.Quiet (service found)) (ticketId tenantId : Uuid)
    (env : NotificationEnv) (store : NotificationStore) (faults : Nat → Fault) :
    ((findTicket ticketId tenantId >>= service).run env faults (World.start store)).1.isError
      = true ↔ faults 0 = .throws := by
  rw [Effect.bind_isError hq]
  exact Effect.read_isError ..

theorem findTicket_and_findUser_isError (ticketId tenantId authorId : Uuid)
    (env : NotificationEnv) (store : NotificationStore) {faults : Nat → Fault}
    (hcrash : ∀ n, faults n ≠ .crash) :
    ((Effect.both (findTicket ticketId tenantId) (findUser authorId)).run env faults
      (World.start store)).1.isError = true ↔ faults 0 = .throws ∨ faults 1 = .throws := by
  have hsecond := Effect.read_calls_length .root NotificationCall.ticketFindFirst
    AppError.database (fun s : NotificationStore => s.tickets.find? fun ticket =>
      ticket.id = ticketId ∧ ticket.tenantId = tenantId) env faults (World.start store)
  unfold findTicket findUser
  rw [Effect.both_isError (Effect.read_ne_crashed _ _ _ _ _ _ _ hcrash)
    (Effect.read_ne_crashed _ _ _ _ _ _ _ hcrash), Effect.read_isError, Effect.read_isError,
    hsecond]
  rfl

theorem handler_isError_iff {event : EventBody} {handler : NotifyM Unit}
    (hh : notificationHandler event = some handler) (env : NotificationEnv)
    (store : NotificationStore) (faults : Nat → Fault) (hcrash : ∀ n, faults n ≠ .crash) :
    (handler.run env faults (World.start store)).1.isError = true ↔
      ∃ n < ownLookups event, faults n = .throws := by
  cases event with
  | ticketCreated ticketId tenantId =>
    cases hh
    refine (findTicket_then_isError (fun found => ?_) ticketId tenantId env store faults).trans
      (by simp [ownLookups])
    cases found with
    | none => exact Effect.quiet_pure ()
    | some ticket => exact quiet_notifyTicketCreated _
  | ticketAssigned ticketId tenantId =>
    cases hh
    refine (findTicket_then_isError (fun found => ?_) ticketId tenantId env store faults).trans
      (by simp [ownLookups])
    cases found with
    | none => exact Effect.quiet_pure ()
    | some ticket => exact quiet_notifyTicketAssigned _
  | ticketEscalated ticketId tenantId =>
    cases hh
    refine (findTicket_then_isError (fun found => ?_) ticketId tenantId env store faults).trans
      (by simp [ownLookups])
    cases found with
    | none => exact Effect.quiet_pure ()
    | some ticket => exact quiet_notifyTicketEscalated _
  | ticketResolved ticketId tenantId =>
    cases hh
    have hq := quiet_notifyTicketResolved ticketId tenantId env faults (World.start store)
    simp [hq, ownLookups]
  | commentAdded ticketId tenantId commentId authorId commentType =>
    cases hh
    rw [Effect.bind_isError]
    · rw [findTicket_and_findUser_isError ticketId tenantId authorId env store hcrash]
      constructor
      · rintro (h | h)
        · exact ⟨0, Nat.zero_lt_two, h⟩
        · exact ⟨1, Nat.one_lt_two, h⟩
      · rintro ⟨n, hn, h⟩
        have hcases : n = 0 ∨ n = 1 := by
          simp only [ownLookups] at hn
          omega
        rcases hcases with rfl | rfl
        · exact Or.inl h
        · exact Or.inr h
    · rintro ⟨found, author⟩
      cases found with
      | none => exact Effect.quiet_pure ()
      | some ticket =>
        cases author with
        | none => exact Effect.quiet_pure ()
        | some author => exact quiet_notifyCommentAdded _
  | _ => cases hh

/-- In a run in which some call threw, the failure reaches the outbox exactly when one of
the handler's own lookups threw. -/
theorem failureSurfaces_iff (config : OutboxConfig) (env : NotificationEnv)
    (store : NotificationStore) (faults : Nat → Fault) (event : EventBody)
    (handler : NotifyM Unit) (hh : notificationHandler event = some handler)
    (hcrash : ∀ n, faults n ≠ .crash) :
    (handler.run env faults (World.start store)).2.failed →
      (FailureSurfaces config event (handler.run env faults (World.start store)).1 ↔
        ∃ n < ownLookups event, faults n = .throws) := by
  intro _
  rw [← handler_isError_iff hh env store faults hcrash]
  exact ⟨fun h => h.1, isError_failureSurfaces⟩

def demoTicket : Ticket :=
  { (default : Ticket) with id := 1, tenantId := 2, ticketNumber := 7, customerId := 3 }

def demoStore : NotificationStore where
  tickets := [demoTicket]
  customers := [{ (default : Customer) with id := 3, tenantId := 2 }]
  tenants := [{ (default : Tenant) with id := 2 }]
  users := []
  emails := []
  notifications := []
  messages := []

def demoEnv : NotificationEnv := ⟨"https://desk", id, id⟩

def demoCreated : EventBody := .ticketCreated 1 2 3 4 .medium "GENERAL"

def failAt (k n : Nat) : Fault := if n = k then .throws else .none

/-- The lookup of the created ticket fails, and the failure reaches the outbox. -/
theorem failureSurfaces_lookup :
    ∃ handler, notificationHandler demoCreated = some handler ∧
      (handler.run demoEnv (failAt 0) (World.start demoStore)).2.failed ∧
      FailureSurfaces ⟨["TICKET_CREATED"], 0, 0⟩ demoCreated
        (handler.run demoEnv (failAt 0) (World.start demoStore)).1 := by
  refine ⟨_, rfl, by decide, ?_⟩
  refine (failureSurfaces_iff ⟨["TICKET_CREATED"], 0, 0⟩ demoEnv demoStore (failAt 0)
    demoCreated _ rfl ?_ (by decide)).mpr ⟨0, by decide, rfl⟩
  intro n
  simp only [failAt]
  split <;> simp

/-- The fourth call, the e-mail to the customer, fails; the handler resolves. -/
theorem email_failure_swallowed :
    ¬ ∀ (config : OutboxConfig) (env : NotificationEnv) (store : NotificationStore)
      (faults : Nat → Fault) (event : EventBody) (handler : NotifyM Unit),
      notificationHandler event = some handler → (∀ n, faults n ≠ .crash) →
      (handler.run env faults (World.start store)).2.failed →
      FailureSurfaces config event (handler.run env faults (World.start store)).1 := by
  intro h
  have hnc : ∀ n, failAt 3 n ≠ .crash := by
    intro n
    simp only [failAt]
    split <;> simp
  have hs := (h ⟨["TICKET_CREATED"], 0, 0⟩ demoEnv demoStore (failAt 3) demoCreated _ rfl hnc
    (by decide)).1
  revert hs
  decide

end OmniSupport.Notification
