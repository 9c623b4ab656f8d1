import OmniSupport.Ticket.TicketLifecycle
import Mathlib.Data.List.Permutation

/-! Calls on one ticket that commit while the row is still the one they have read run as in
some serial order; without this one of two calls is lost. -/
namespace OmniSupport.Ticketing
open Foundation Database Outbox TicketService

section retimed
variable {t : Time} {ticket : TicketEntity}

/-- The entity of a row that was written at another time. -/
def retimed (t : Time) (ticket : TicketEntity) : TicketEntity :=
  { ticket with row := { ticket.row with updatedAt := t } }

theorem changeStatus_retimed (now : Time) (header : EventHeader) (newStatus : TicketStatus)
    (changedById : Uuid) : (retimed t ticket).changeStatus now header newStatus changedById =
      (ticket.changeStatus now header newStatus changedById).map (retimed t) := by
  by_cases hmove : ticket.row.status.canTransitionTo newStatus = true
  · simp only [TicketEntity.changeStatus, retimed, hmove, if_true]
    rfl
  · simp only [TicketEntity.changeStatus, retimed, hmove]
    rfl

theorem movedEntity_retimed (now : Time) (header header' : EventHeader) (newStatus : TicketStatus)
    (changedById : Uuid) : movedEntity newStatus now header header' changedById (retimed t ticket) =
      (movedEntity newStatus now header header' changedById ticket).map (retimed t) := by
  simp only [movedEntity]
  split
  · simp only [TicketEntity.resolve, changeStatus_retimed]
    cases ticket.changeStatus now header .resolved changedById <;> rfl
  · exact changeStatus_retimed _ _ _ _

theorem escalate_retimed (now : Time) (header : EventHeader) (reason : String) (changedById : Actor) :
    (retimed t ticket).escalate now header reason changedById =
      (ticket.escalate now header reason changedById).map (retimed t) := by
  by_cases hdone : ticket.row.isEscalated = true
  · simp only [TicketEntity.escalate, retimed, hdone, if_true]
    rfl
  · simp only [TicketEntity.escalate, retimed, hdone]
    rfl

theorem withPriority_retimed (value : Option String) :
    withPriority value (retimed t ticket) = (withPriority value ticket).map (retimed t) := by
  cases value with
  | none => rfl
  | some priority =>
    by_cases hset : priority ≠ "" ∧ priority ≠ ticket.row.priority.text
    · have hset' : priority ≠ "" ∧ priority ≠ (retimed t ticket).row.priority.text := hset
      simp only [withPriority]
      rw [if_pos hset, if_pos hset']
      cases TicketPriority.create priority <;> rfl
    · have hset' : ¬ (priority ≠ "" ∧ priority ≠ (retimed t ticket).row.priority.text) := hset
      simp only [withPriority]
      rw [if_neg hset, if_neg hset']
      rfl

theorem withCategory_retimed (value : Option String) :
    withCategory value (retimed t ticket) = (withCategory value ticket).map (retimed t) := by
  cases value with
  | none => rfl
  | some category =>
    by_cases hset : category ≠ "" ∧ category ≠ ticket.row.category
    · have hset' : category ≠ "" ∧ category ≠ (retimed t ticket).row.category := hset
      simp only [withCategory, TicketEntity.updateCategory]
      rw [if_pos hset, if_pos hset']
      cases ticketCategory category <;> rfl
    · have hset' : ¬ (category ≠ "" ∧ category ≠ (retimed t ticket).row.category) := hset
      simp only [withCategory]
      rw [if_neg hset, if_neg hset']
      rfl

theorem updateDetails_retimed (title description : Option String) (tags : Option (List String))
    (dueAt : Option Time) : (retimed t ticket).updateDetails title description tags dueAt =
      (ticket.updateDetails title description tags dueAt).map (retimed t) := by
  simp only [TicketEntity.updateDetails, retimed]
  cases TicketEntity.detail "Ticket title cannot be empty" ticket.row.title title with
  | error e => rfl
  | ok title =>
    cases TicketEntity.detail "Ticket description cannot be empty" ticket.row.description
      description <;> rfl

theorem bind_map {ε α β : Type} {x y : Except ε α} {f f' : α → Except ε β} {g : α → α}
    {k : β → β} (hx : x = y.map g) (hf : ∀ a, f (g a) = (f' a).map k) :
    (x >>= f) = (y >>= f').map k := by
  subst hx
  cases y with
  | error e => rfl
  | ok a => exact hf a

theorem bind_map_same {ε α β : Type} {f f' : α → Except ε β} {k : β → β} (x : Except ε α)
    (hf : ∀ a, f a = (f' a).map k) : (x >>= f) = (x >>= f').map k := by
  cases x with
  | error e => rfl
  | ok a => exact hf a

theorem updatedEntity_retimed (dto : UpdateTicketDto) :
    updatedEntity dto (retimed t ticket) = (updatedEntity dto ticket).map (retimed t) :=
  bind_map (withPriority_retimed _) fun _ => bind_map (withCategory_retimed _)
    fun _ => updateDetails_retimed _ _ _ _

def retimedOutcome (t : Time) (outcome : CallOutcome) : CallOutcome :=
  (outcome.1.map (retimed t), outcome.2)

theorem outcome_retimed (call : LifecycleCall) :
    call.outcome (retimed t ticket) = (call.outcome ticket).map (retimedOutcome t) := by
  unfold LifecycleCall.outcome
  cases call.command with
  | updateTicket dto =>
    change plannedUpdate dto _ = (plannedUpdate dto _).map _
    exact bind_map_same _ fun _ => bind_map (updatedEntity_retimed dto) fun _ => rfl
  | assignTicket dto =>
    change plannedAssign call dto _ = (plannedAssign call dto _).map _
    exact bind_map_same _ fun _ => rfl
  | changeStatus dto =>
    change plannedStatus call dto _ = (plannedStatus call dto _).map _
    exact bind_map_same _ fun _ => bind_map (movedEntity_retimed _ _ _ _ _) fun _ => rfl
  | escalateTicket dto =>
    change plannedEscalation call dto _ = (plannedEscalation call dto _).map _
    exact bind_map_same _ fun _ => bind_map (escalate_retimed _ _ _ _) fun _ => rfl
  | addComment dto => 
    simp only [plannedComment, changeStatus_retimed]
    by_cases hinternal : dto.authorRole = .customer ∧ dto.type = .internalNote
    · rw [if_pos hinternal, if_pos hinternal]
      rfl
    · rw [if_neg hinternal, if_neg hinternal]
      by_cases hreply : replies dto ticket.row
      · rw [if_pos hreply, if_pos (show replies dto (retimed t ticket).row from hreply)]
        cases ticket.changeStatus call.time call.header .inProgress dto.authorId <;> rfl
      · rw [if_neg hreply, if_neg (show ¬ replies dto (retimed t ticket).row from hreply)]
        rfl
  | markSlaBreached => rfl
theorem transaction_retimed (call : LifecycleCall) (outcome : CallOutcome) :
    call.transaction (retimedOutcome t outcome) = call.transaction outcome := by
  obtain ⟨written, events⟩ := outcome
  cases written <;> rfl

/-- A plan does not depend on when the row was last written. -/
theorem plan_sameColumns {call : LifecycleCall} {copy row : Ticket} (h : sameColumns copy row) :
    call.plan copy = call.plan row := by
  have hbreached : row.slaBreached = copy.slaBreached := by rw [← h]
  have hentity : TicketEntity.reconstitute row =
      retimed row.updatedAt (TicketEntity.reconstitute copy) :=
    congrArg TicketEntity.reconstitute h.symm
  unfold LifecycleCall.plan
  rw [hbreached, hentity, outcome_retimed]
  split
  · rfl
  · cases call.outcome (.reconstitute copy) with
    | error e => rfl
    | ok outcome => exact (transaction_retimed call outcome).symm

end retimed

section effects

/-- The event records the escalation of the ticket. -/
def isEscalationOf (id : Uuid) : EventBody → Bool
  | .ticketEscalated ticketId .. => ticketId = id
  | _ => false

def escalations (id : Uuid) (events : List DomainEvent) : Nat :=
  events.countP fun event => isEscalationOf id event.body

/-- The TICKET_ESCALATED rows of the ticket. -/
def escalationRows (id : Uuid) (rows : List (OutboxEvent EventBody)) : Nat :=
  rows.countP fun row => isEscalationOf id row.payload

theorem escalationRows_outboxRows (id : Uuid) (events : List DomainEvent)
    (stamps : List (Uuid × Time)) (h : events.length = stamps.length) :
    escalationRows id (outboxRows events stamps) = escalations id events := by
  induction events generalizing stamps with
  | nil => rfl
  | cons event rest ih =>
    cases stamps with
    | nil => cases h
    | cons stamp stamps =>
      have hrest := ih stamps (Nat.succ.inj h)
      simp only [escalationRows, escalations, outboxRows, List.zipWith_cons_cons,
        List.countP_cons] at hrest ⊢
      rw [hrest]
      rfl

/-- An operation that leaves the state of the ticket alone. -/
structure KeepsState (row row' : Ticket) : Prop where
  id : row'.id = row.id
  status : row'.status = row.status
  isEscalated : row'.isEscalated = row.isEscalated
  slaBreached : row'.slaBreached = row.slaBreached

variable {ticket ticket' : TicketEntity}

/-- The columns `updateTicket` may change. -/
def Edited (row row' : Ticket) : Prop :=
  ∃ title description priority category tags dueAt,
    row' = { row with
      title := title
      description := description
      priority := priority
      category := category
      tags := tags
      dueAt := dueAt }

theorem Edited.refl (row : Ticket) : Edited row row := ⟨_, _, _, _, _, _, rfl⟩

theorem Edited.trans {row row' row'' : Ticket} (h : Edited row row') (h' : Edited row' row'') :
    Edited row row'' := by
  obtain ⟨_, _, _, _, _, _, rfl⟩ := h
  obtain ⟨title, description, priority, category, tags, dueAt, rfl⟩ := h'
  exact ⟨title, description, priority, category, tags, dueAt, rfl⟩

theorem Edited.keepsState {row row' : Ticket} (h : Edited row row') : KeepsState row row' := by
  obtain ⟨_, _, _, _, _, _, rfl⟩ := h
  exact ⟨rfl, rfl, rfl, rfl⟩

theorem withPriority_edited {value : Option String} (h : withPriority value ticket = .ok ticket') :
    Edited ticket.row ticket'.row := by
  cases value with
  | none =>
    cases h
    exact .refl _
  | some priority =>
    simp only [withPriority] at h
    split at h
    · cases hcreate : TicketPriority.create priority with
      | error e =>
        rw [hcreate] at h
        cases h
      | ok created =>
        rw [hcreate] at h
        cases h
        exact ⟨_, _, _, _, _, _, rfl⟩
    · cases h
      exact .refl _

theorem withCategory_edited {value : Option String} (h : withCategory value ticket = .ok ticket') :
    Edited ticket.row ticket'.row := by
  cases value with
  | none =>
    cases h
    exact .refl _
  | some category =>
    simp only [withCategory] at h
    split at h
    · obtain ⟨created, -, hset⟩ := bind_eq_ok.mp h
      cases hset
      exact ⟨_, _, _, _, _, _, rfl⟩
    · cases h
      exact .refl _

theorem updateDetails_edited {title description : Option String} {tags : Option (List String)}
    {dueAt : Option Time} (h : ticket.updateDetails title description tags dueAt = .ok ticket') :
    Edited ticket.row ticket'.row := by
  obtain ⟨newTitle, -, h⟩ := bind_eq_ok.mp h
  obtain ⟨newDescription, -, h⟩ := bind_eq_ok.mp h
  cases h
  exact ⟨_, _, _, _, _, _, rfl⟩

theorem updatedEntity_edited {dto : UpdateTicketDto} (h : updatedEntity dto ticket = .ok ticket') :
    Edited ticket.row ticket'.row := by
  obtain ⟨first, hfirst, h⟩ := bind_eq_ok.mp h
  obtain ⟨second, hsecond, h⟩ := bind_eq_ok.mp h
  exact (withPriority_edited hfirst).trans ((withCategory_edited hsecond).trans
    (updateDetails_edited h))

theorem updatedEntity_keeps {dto : UpdateTicketDto} (h : updatedEntity dto ticket = .ok ticket') :
    KeepsState ticket.row ticket'.row :=
  (updatedEntity_edited h).keepsState

/-- What a call makes of a ticket and publishes about it. -/
structure Progresses (row row' : Ticket) (events : List DomainEvent) : Prop where
  id : row'.id = row.id
  status : row'.status = row.status ∨ row.status.canTransitionTo row'.status = true
  slaBreached : row'.slaBreached = row.slaBreached
  escalation : (row'.isEscalated = row.isEscalated ∧ escalations row.id events = 0) ∨
    (row.isEscalated = false ∧ row'.isEscalated = true ∧ escalations row.id events = 1)

theorem changeStatus_progresses {now : Time} {header : EventHeader} {newStatus : TicketStatus}
    {changedById : Uuid} {row : Ticket}
    (h : (TicketEntity.reconstitute row).changeStatus now header newStatus changedById =
      .ok ticket') :
    Progresses row ticket'.row ticket'.events ∧ ∀ id, escalations id ticket'.events = 0 := by
  simp only [TicketEntity.changeStatus] at h
  split at h
  · rename_i hmove
    cases h
    exact ⟨⟨rfl, Or.inr hmove, rfl, Or.inl ⟨rfl, rfl⟩⟩, fun _ => rfl⟩
  · cases h

theorem movedEntity_progresses {now : Time} {header header' : EventHeader}
    {newStatus : TicketStatus} {changedById : Uuid} {row : Ticket}
    (h : movedEntity newStatus now header header' changedById (.reconstitute row) = .ok ticket') :
    Progresses row ticket'.row ticket'.events := by
  simp only [movedEntity] at h
  split at h
  · obtain ⟨moved, hmoved, h⟩ := bind_eq_ok.mp h
    cases h
    obtain ⟨hrow, hnone⟩ := changeStatus_progresses hmoved
    refine ⟨hrow.id, hrow.status, hrow.slaBreached, Or.inl ⟨?_, ?_⟩⟩
    · rcases hrow.escalation with hsame | hraised
      · exact hsame.1
      · rw [hnone] at hraised
        cases hraised.2.2
    · have hfirst := hnone row.id
      simp only [escalations, List.countP_append] at hfirst ⊢
      rw [hfirst]
      rfl
  · exact (changeStatus_progresses h).1

theorem escalate_progresses {now : Time} {header : EventHeader} {reason : String}
    {escalatedById : Actor} {row : Ticket}
    (h : (TicketEntity.reconstitute row).escalate now header reason escalatedById = .ok ticket') :
    Progresses row ticket'.row ticket'.events := by
  simp only [TicketEntity.escalate] at h
  split at h
  · cases h
  · rename_i hnot
    cases h
    have hfalse : row.isEscalated = false := Bool.eq_false_iff.mpr hnot
    refine ⟨rfl, Or.inl rfl, rfl, Or.inr ⟨hfalse, rfl, ?_⟩⟩
    simp [escalations, EventHeader.event, isEscalationOf, TicketEntity.reconstitute]

/-- The spec of every call: a write makes the ticket progress, and a call that does not
write it publishes no escalation. -/
theorem outcome_spec {call : LifecycleCall} {row : Ticket} {outcome : CallOutcome}
    (h : call.outcome (.reconstitute row) = .ok outcome) :
    (∀ written, outcome.1 = some written → Progresses row written.row outcome.2) ∧
      (outcome.1 = none → ∀ id, escalations id outcome.2 = 0) := by
  unfold LifecycleCall.outcome at h
  cases hcommand : call.command with
  | updateTicket dto =>
    rw [hcommand] at h
    obtain ⟨_, -, h⟩ := bind_eq_ok.mp h
    obtain ⟨updated, hupdated, h⟩ := bind_eq_ok.mp h
    cases h
    have hkeeps := updatedEntity_keeps hupdated
    refine ⟨fun written hwritten => ?_, fun hnone => by cases hnone⟩
    obtain rfl : updated = written := Option.some.inj hwritten
    exact ⟨hkeeps.id, Or.inl hkeeps.status, hkeeps.slaBreached, Or.inl ⟨hkeeps.isEscalated, rfl⟩⟩
  | assignTicket dto =>
    rw [hcommand] at h
    obtain ⟨_, -, h⟩ := bind_eq_ok.mp h
    cases h
    refine ⟨fun written hwritten => ?_, fun hnone => by cases hnone⟩
    cases hwritten
    exact ⟨rfl, Or.inl rfl, rfl, Or.inl ⟨rfl, rfl⟩⟩
  | changeStatus dto =>
    rw [hcommand] at h
    obtain ⟨newStatus, -, h⟩ := bind_eq_ok.mp h
    obtain ⟨moved, hmoved, h⟩ := bind_eq_ok.mp h
    cases h
    refine ⟨fun written hwritten => ?_, fun hnone => by cases hnone⟩
    cases hwritten
    exact movedEntity_progresses hmoved
  | escalateTicket dto =>
    rw [hcommand] at h
    obtain ⟨_, -, h⟩ := bind_eq_ok.mp h
    obtain ⟨escalated, hescalated, h⟩ := bind_eq_ok.mp h
    cases h
    refine ⟨fun written hwritten => ?_, fun hnone => by cases hnone⟩
    cases hwritten
    exact escalate_progresses hescalated
  | addComment dto =>
    rw [hcommand] at h
    simp only [plannedComment] at h
    split at h
    · cases h
    · split at h
      · cases hmove : (TicketEntity.reconstitute row).changeStatus call.time call.header
          .inProgress dto.authorId with
        | error e =>
          rw [hmove] at h
          cases h
        | ok moved =>
          rw [hmove] at h
          cases h
          obtain ⟨hrow, hnone⟩ := changeStatus_progresses hmove
          refine ⟨fun written hwritten => ?_, fun hnone => by cases hnone⟩
          cases hwritten
          refine ⟨hrow.id, hrow.status, hrow.slaBreached, Or.inl ⟨?_, ?_⟩⟩
          · rcases hrow.escalation with hsame | hraised
            · exact hsame.1
            · rw [hnone] at hraised
              cases hraised.2.2
          · have hfirst := hnone row.id
            simp only [escalations, List.countP_append] at hfirst ⊢
            rw [hfirst]
            rfl
      · cases h
        refine ⟨fun written hwritten => ?_, fun _ _ => rfl⟩
        cases hwritten
  | markSlaBreached =>
    rw [hcommand] at h
    cases h
    refine ⟨fun written hwritten => ?_, fun _ _ => rfl⟩
    cases hwritten

/-- What one version of the row keeps of the one before. -/
structure Succeeds (row row' : Ticket) : Prop where
  status : row'.status = row.status ∨ row.status.canTransitionTo row'.status = true
  slaBreached : row.slaBreached = true → row'.slaBreached = true

/-- One TICKET_ESCALATED row at most, and none before the ticket is escalated. -/
def EscalatedOnce (id : Uuid) (row : Ticket) (rows : List (OutboxEvent EventBody)) : Prop :=
  row.id = id ∧ escalationRows id rows ≤ if row.isEscalated then 1 else 0

theorem transaction_eq_some {call : LifecycleCall} {outcome : CallOutcome}
    {planned : Planned Ticket (OutboxEvent EventBody)}
    (h : call.transaction outcome = some planned) :
    planned.write = outcome.1.map (fun entity => Ticket.write call.writtenAt entity.row) ∧
      ∀ id, escalationRows id planned.entries = escalations id outcome.2 := by
  obtain ⟨written, events⟩ := outcome
  simp only [LifecycleCall.transaction] at h
  split at h
  · rename_i hboth
    cases h
    exact ⟨rfl, fun id => escalationRows_outboxRows id events call.stamps hboth.1⟩
  · cases h

/-- The spec of a plan that writes, by the entity it writes. -/
theorem plan_write {call : LifecycleCall} {row : Ticket}
    {planned : Planned Ticket (OutboxEvent EventBody)} {f : Ticket → Ticket}
    (h : call.plan row = some planned) (hwrite : planned.write = some f) :
    Succeeds row (f row) ∧ (f row).id = row.id ∧
      (((f row).isEscalated = row.isEscalated ∧ escalationRows row.id planned.entries = 0) ∨
        (row.isEscalated = false ∧ (f row).isEscalated = true ∧
          escalationRows row.id planned.entries = 1)) := by
  unfold LifecycleCall.plan at h
  split at h
  · cases h
    simp only at hwrite
    split at hwrite
    · cases hwrite
    · cases hwrite
      exact ⟨⟨Or.inl rfl, fun _ => rfl⟩, rfl, Or.inl ⟨rfl, rfl⟩⟩
  · cases houtcome : call.outcome (.reconstitute row) with
    | error e =>
      rw [houtcome] at h
      cases h
    | ok outcome =>
      rw [houtcome] at h
      obtain ⟨hmap, hrows⟩ := transaction_eq_some h
      rw [hwrite] at hmap
      obtain ⟨written, hwritten, rfl⟩ := Option.map_eq_some_iff.mp hmap.symm
      have hprogress := (outcome_spec houtcome).1 written hwritten
      refine ⟨⟨hprogress.status, fun hb => hprogress.slaBreached.trans hb⟩, rfl, ?_⟩
      rw [hrows]
      exact hprogress.escalation

/-- A plan that writes nothing publishes no escalation. -/
theorem plan_quiet {call : LifecycleCall} {copy : Ticket}
    {planned : Planned Ticket (OutboxEvent EventBody)} (h : call.plan copy = some planned)
    (hwrite : planned.write = none) (id : Uuid) : escalationRows id planned.entries = 0 := by
  unfold LifecycleCall.plan at h
  split at h
  · cases h
    rfl
  · cases houtcome : call.outcome (.reconstitute copy) with
    | error e =>
      rw [houtcome] at h
      cases h
    | ok outcome =>
      rw [houtcome] at h
      obtain ⟨hmap, hrows⟩ := transaction_eq_some h
      rw [hwrite] at hmap
      rw [hrows]
      exact (outcome_spec houtcome).2 (Option.map_eq_none_iff.mp hmap.symm) id

/-- Only a call that writes the ticket has a write in its plan. -/
theorem plan_writesTicket {call : LifecycleCall} {copy : Ticket}
    {planned : Planned Ticket (OutboxEvent EventBody)} (h : call.plan copy = some planned)
    (hwrite : planned.write.isSome = true) : call.writesTicket copy = true := by
  unfold LifecycleCall.writesTicket
  cases hcommand : call.command with
  | addComment dto =>
    by_cases hreply : replies dto copy
    · exact decide_eq_true hreply
    · have houtcome : call.outcome (.reconstitute copy) =
          plannedComment call dto (.reconstitute copy) := by
        simp only [LifecycleCall.outcome, hcommand]
      have hstatement : call.isStatement = false := by
        simp only [LifecycleCall.isStatement, hcommand]
      have hkept : ∀ outcome, plannedComment call dto (.reconstitute copy) = .ok outcome →
          outcome.1 = none := by
        intro outcome hok
        unfold plannedComment at hok
        by_cases hinternal : dto.authorRole = .customer ∧ dto.type = .internalNote
        · simp only [if_pos hinternal] at hok
          cases hok
        · simp only [if_neg hinternal] at hok
          rw [if_neg (show ¬ replies dto (TicketEntity.reconstitute copy).row from hreply)] at hok
          cases hok
          rfl
      simp only [LifecycleCall.plan, hstatement, houtcome, Bool.false_eq_true, if_false] at h
      split at h
      · rename_i outcome hok
        rw [(transaction_eq_some h).1, hkept outcome hok] at hwrite
        cases hwrite
      · cases h
  | _ => rfl

theorem Undisturbed.current {c : LifecyclePool} {move : LifecycleMove} (h : Undisturbed c move) :
    lifecycle.Current c move := by
  rintro p call copy planned rfl hcall hplan hwrite
  have hsame := h (call, copy) hcall (plan_writesTicket hplan hwrite)
  have hstored : call.plan copy = call.plan c.shared.value := plan_sameColumns hsame
  exact hstored.symm.trans hplan

end effects

/-- The escalations published since the start are those of the row. -/
def EscalatedSince (row : Ticket) (outbox : List (OutboxEvent EventBody)) (value : Ticket)
    (rows : List (OutboxEvent EventBody)) : Prop :=
  value.id = row.id ∧ escalationRows row.id rows + (if row.isEscalated then 1 else 0) ≤
    escalationRows row.id outbox + if value.isEscalated then 1 else 0

theorem EscalatedSince.write {row value : Ticket} {outbox rows : List (OutboxEvent EventBody)}
    {call : LifecycleCall} {planned : Planned Ticket (OutboxEvent EventBody)} {f : Ticket → Ticket}
    (h : EscalatedSince row outbox value rows) (hplan : call.plan value = some planned)
    (hwrite : planned.write = some f) :
    EscalatedSince row outbox (f value) (rows ++ planned.entries) := by
  obtain ⟨-, hid, hcount⟩ := plan_write hplan hwrite
  obtain ⟨hvalue, hle⟩ := h
  refine ⟨hid.trans hvalue, ?_⟩
  rw [hvalue] at hcount
  have happend : escalationRows row.id (rows ++ planned.entries) =
      escalationRows row.id rows + escalationRows row.id planned.entries := List.countP_append
  rw [happend]
  rcases hcount with ⟨hsame, hzero⟩ | ⟨hbefore, hafter, hone⟩
  · rw [hsame, hzero]
    exact hle
  · simp only [hbefore, hafter, hone, if_true, Bool.false_eq_true, if_false] at hle ⊢
    omega

theorem EscalatedSince.quiet {row copy value : Ticket} {outbox rows : List (OutboxEvent EventBody)}
    {call : LifecycleCall} {planned : Planned Ticket (OutboxEvent EventBody)}
    (h : EscalatedSince row outbox value rows) (hplan : call.plan copy = some planned)
    (hwrite : planned.write = none) :
    EscalatedSince row outbox value (rows ++ planned.entries) := by
  have happend : escalationRows row.id (rows ++ planned.entries) =
      escalationRows row.id rows + escalationRows row.id planned.entries := List.countP_append
  refine ⟨h.1, ?_⟩
  rw [happend, plan_quiet hplan hwrite]
  exact h.2

/-- What every version of the row keeps of the next one it keeps of all later ones. -/
theorem pairwise_of_isChain {versions : List Ticket} {P : Ticket → Prop}
    (h : versions.IsChain Succeeds) (hP : ∀ row row', Succeeds row row' → P row → P row') :
    versions.Pairwise fun before after => P before → P after := by
  have htrans : IsTrans Ticket fun before after => P before → P after :=
    ⟨fun _ _ _ h h' hp => h' (h hp)⟩
  exact (h.imp fun row row' hs => hP row row' hs).pairwise

theorem Succeeds.closed {row row' : Ticket} (h : Succeeds row row') (hclosed : row.status = .closed) :
    row'.status = .closed := by
  rcases h.status with hsame | hmove
  · exact hsame.trans hclosed
  · rw [hclosed] at hmove
    cases hmove

/-- Calls that commit while the row is the one they have read leave the row and the outbox
events of some serial order; statuses follow the transition table, CLOSED is final, the
ticket is escalated once, and a breach is never taken back. -/
theorem ticket_lifecycle_serial (row : Ticket) (outbox : List (OutboxEvent EventBody))
    (moves : List LifecycleMove) (c : LifecyclePool)
    (hundisturbed : lifecycle.program.machine.Within Undisturbed (storedTicket row outbox) moves)
    (hrun : lifecycle.program.machine.run (storedTicket row outbox) moves = some c) :
    lifecycle.Serializable row outbox c.shared ∧
      c.shared.versions.getLast? = some c.shared.value ∧
      c.shared.versions.IsChain (fun before after =>
        after.status = before.status ∨ before.status.canTransitionTo after.status = true) ∧
      c.shared.versions.Pairwise (fun before after =>
        before.status = .closed → after.status = .closed) ∧
      escalationRows row.id c.shared.log ≤
        escalationRows row.id outbox + (if row.isEscalated then 0 else 1) ∧
      (escalationRows row.id outbox ≤ (if row.isEscalated then 1 else 0) →
        escalationRows row.id c.shared.log ≤ 1) ∧
      c.shared.versions.Pairwise (fun before after =>
        before.slaBreached = true → after.slaBreached = true) := by
  have hcurrent := hundisturbed.mono _ fun _ _ h => Undisturbed.current h
  have hstart : EscalatedSince row outbox row outbox := ⟨rfl, le_refl _⟩
  have hkept : lifecycle.Kept row outbox Succeeds (EscalatedSince row outbox) c.shared :=
    Snapshots.run_kept (fun _ _ _ _ hplan hwrite => (plan_write hplan hwrite).1)
      (fun _ _ _ _ _ hplan hwrite h => h.write hplan hwrite)
      (fun _ _ _ _ _ hplan hwrite h => h.quiet hplan hwrite) hstart hcurrent hrun
  obtain ⟨⟨ops, hserved⟩, hchain, hlast, -, hcount⟩ := hkept
  obtain ⟨log', hserial, hperm⟩ := hserved.run
  have hone : (if c.shared.value.isEscalated = true then 1 else 0) ≤ 1 := by
    split <;> omega
  refine ⟨⟨ops, log', hserved.perm, hserial, hperm⟩, hlast, hchain.imp fun _ _ h => h.status,
    pairwise_of_isChain hchain fun _ _ h => h.closed, ?_, fun hrecorded => ?_,
    pairwise_of_isChain hchain fun _ _ h => h.slaBreached⟩
  · cases hescalated : row.isEscalated with
    | false =>
      simp only [hescalated, Bool.false_eq_true, if_false] at hcount ⊢
      omega
    | true =>
      simp only [hescalated, if_true] at hcount ⊢
      omega
  · omega

section demo

/-- One call with the command, on a ticket that was open when it was read. -/
def demoCall (command : LifecycleCommand) (eventId : EventId) : LifecycleCall where
  command := command
  agentRole := .agent
  time := 1
  writtenAt := 1
  header := ⟨eventId, 1⟩
  header' := ⟨⟨"ff", by decide⟩, 1⟩
  commentId := 0
  commentHeader := ⟨⟨"fe", by decide⟩, 1⟩
  stamps := [(0, 1)]

def openTicket : Ticket :=
  { (default : Ticket) with id := 3, tenantId := 2, status := .open, category := "GENERAL" }

def closeCall : LifecycleCall :=
  demoCall (.changeStatus ⟨2, 3, "CLOSED", 1, .agent⟩) ⟨"a", by decide⟩

def startCall : LifecycleCall :=
  demoCall (.changeStatus ⟨2, 3, "IN_PROGRESS", 1, .agent⟩) ⟨"b", by decide⟩

/-- Both calls read the open ticket; the second one commits over the first. -/
def lostClose : List LifecycleMove :=
  [.act 0 (.read closeCall), .act 1 (.read startCall), .act 0 .commit, .act 1 .commit]

/-- A breach is recorded while nobody holds a copy, and the ticket closed afterwards. -/
def undisturbedClose : List LifecycleMove :=
  [.act 0 (.atomically (demoCall .markSlaBreached ⟨"c", by decide⟩)), .act 1 (.read startCall),
    .act 1 .fail, .act 0 (.read closeCall), .act 0 .commit]

end demo

/-- The closed ticket is stored IN_PROGRESS again, which no serial order does. -/
theorem closed_ticket_reopened :
    ∃ c, lifecycle.program.machine.run (storedTicket openTicket []) lostClose = some c ∧
      c.shared.versions.map Ticket.status = [.open, .closed, .inProgress] ∧
      ¬ lifecycle.Serializable openTicket [] c.shared := by
  have hsome : (lifecycle.program.machine.run (storedTicket openTicket []) lostClose).map
      (fun c => (c.shared.versions.map Ticket.status, c.shared.committed)) =
        some ([.open, .closed, .inProgress], [closeCall, startCall]) := rfl
  obtain ⟨c, hc, hboth⟩ := Option.map_eq_some_iff.mp hsome
  obtain ⟨hstatuses, hcommitted⟩ := Prod.mk.inj hboth
  refine ⟨c, hc, hstatuses, ?_⟩
  rintro ⟨ops, log', hperm, hserial, -⟩
  rw [hcommitted] at hperm
  -- each of the two calls is refused after the other one
  rcases List.perm_pair.mp hperm with rfl | rfl
  · have hnone : lifecycle.serial.run (openTicket, []) [closeCall, startCall] = none := by decide
    rw [hnone] at hserial
    cases hserial
  · have hnone : lifecycle.serial.run (openTicket, []) [startCall, closeCall] = none := by decide
    rw [hnone] at hserial
    cases hserial

theorem ticket_lifecycle_serial_close :
    ∃ c, lifecycle.program.machine.run (storedTicket openTicket []) undisturbedClose = some c ∧
      lifecycle.Serializable openTicket [] c.shared ∧ escalationRows 3 c.shared.log ≤ 1 := by
  have hsome :
      (lifecycle.program.machine.run (storedTicket openTicket []) undisturbedClose).isSome := by
    decide
  obtain ⟨c, hc⟩ := Option.isSome_iff_exists.mp hsome
  obtain ⟨hserial, -, -, -, -, hone, -⟩ :=
    ticket_lifecycle_serial openTicket [] undisturbedClose c (by decide) hc
  exact ⟨c, hc, hserial, hone (by decide)⟩

end OmniSupport.Ticketing
