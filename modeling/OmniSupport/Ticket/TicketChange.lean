import OmniSupport.Ticket.TicketWrites
import Mathlib.Data.List.Forall2
import Mathlib.Data.List.Nodup

/-! The ticket service against its abstract model: each call either changes nothing or
performs one change of the store, the aggregate rows together with their activity, audit
and outbox rows. -/
namespace OmniSupport.Ticketing
open Foundation Database Effect Outbox TicketService

inductive TicketCommand where
  | createTicket (dto : CreateTicketDto)
  | updateTicket (dto : UpdateTicketDto)
  | assignTicket (dto : AssignTicketDto)
  | changeStatus (dto : ChangeStatusDto)
  | escalateTicket (dto : EscalateTicketDto)
  | addComment (dto : AddCommentDto)
  | editComment (dto : EditCommentDto)
  | deleteComment (dto : DeleteCommentDto)

/-- What the calls return. -/
inductive TicketReply where
  | ticket (row : Ticket)
  | commented (reply : TicketCommentWithAuthor)
  | comment (row : TicketComment)
  | done
  deriving DecidableEq

def perform : TicketCommand → ServiceM TicketReply
  | .createTicket dto => TicketReply.ticket <$> createTicket dto
  | .updateTicket dto => TicketReply.ticket <$> updateTicket dto
  | .assignTicket dto => TicketReply.ticket <$> assignTicket dto
  | .changeStatus dto => TicketReply.ticket <$> changeStatus dto
  | .escalateTicket dto => TicketReply.ticket <$> escalateTicket dto
  | .addComment dto => TicketReply.commented <$> addComment dto
  | .editComment dto => TicketReply.comment <$> editComment dto
  | .deleteComment dto => (fun _ => TicketReply.done) <$> deleteComment dto

/-- One change of the store: what it does to the rows of the aggregates, the activity and
audit rows it adds, and the events its aggregates raised. -/
structure Change where
  rows : Store → Store
  activities : List ActivityLog
  audits : List AuditLog
  raised : List DomainEvent

/-- The store after the change: one pending outbox row for each event raised. -/
structure CommittedWith (change : Change) (s s' : Store) : Prop where
  store : ∃ rows, List.Forall₂ RowOf change.raised rows ∧
    s' = { change.rows s with
      activities := s.activities ++ change.activities
      audits := s.audits ++ change.audits
      outbox := s.outbox ++ rows }
  pending : ∀ event ∈ change.raised, ∃ r ∈ s'.outbox,
    r.eventId = event.eventId ∧ r.status = .pending ∧ r.payload = event.body
  once : ∀ event ∈ change.raised,
    Table.count (fun r : OutboxEvent EventBody => r.eventId = event.eventId) s'.outbox = 1

/-- The events carry the ids of these draws. -/
def DrawnAt (env : ServiceEnv) (ns : List Nat) (events : List DomainEvent) : Prop :=
  events.map (fun event => event.eventId) = ns.map env.eventId

def createdChange (dto : CreateTicketDto) (ticket : TicketEntity) (customer : Customer)
    (savedAt activeAt customerAt activityAt auditAt : Time) : Change :=
  let saved := Ticket.storedAt savedAt ticket.row
  { rows := fun s =>
      ((s.nextTicketNumber dto.tenantId).2.insertTicket saved).updateCustomer customer.id
        (Customer.write customerAt (customer.recordActivity activeAt))
    activities := [createdActivity dto saved activityAt]
    audits := [createdAudit dto saved auditAt]
    raised := ticket.events }

def ticketChange (ticket : TicketEntity) (writtenAt : Time) (activity : ActivityLog)
    (audit : AuditLog) : Change where
  rows := fun s => s.updateTicket ticket.row.id (Ticket.write writtenAt ticket.row)
  activities := [activity]
  audits := [audit]
  raised := ticket.events

def updatedChange (dto : UpdateTicketDto) (before : Ticket) (ticket : TicketEntity)
    (writtenAt activityAt auditAt : Time) : Change :=
  let values := changedValues dto before
  { rows := fun s => s.updateTicket ticket.row.id (Ticket.write writtenAt ticket.row)
    activities := if values = [] then [] else [updatedActivity dto values activityAt]
    audits := if values = [] then [] else [updatedAudit dto values auditAt]
    raised := ticket.events }

/-- `reply` is the ticket a customer's comment has set in progress. -/
def commentedChange (dto : AddCommentDto) (comment : TicketCommentEntity) (author : User)
    (reply : Option TicketEntity) (savedAt writtenAt activityAt : Time) : Change where
  rows := fun s =>
    let s := s.insertComment (TicketComment.storedAt savedAt comment.row)
    match reply with
    | none => s
    | some ticket => s.updateTicket ticket.row.id (Ticket.write writtenAt ticket.row)
  activities := [commentActivity dto comment.row.id author activityAt]
  audits := []
  raised := (match reply with
    | none => []
    | some ticket => ticket.events) ++ comment.events

/-- What a call does when it succeeds: the domain operation on the row it has read. -/
inductive Performs (env : ServiceEnv) (s : Store) : TicketCommand → Change → Prop
  | createTicket (dto : CreateTicketDto) (customer : Customer) (tenant : Tenant)
      (priority : TicketPriority) (id : Uuid) (n : Nat)
      (today createdAt savedAt activeAt customerAt activityAt auditAt : Time)
      (hcustomer : s.findCustomer dto.customerId dto.tenantId = some customer)
      (hblocked : customer.isBlocked = false)
      (htenant : s.findTenant dto.tenantId = some tenant)
      (hagent : ∀ agentId, dto.assignedAgentId = some agentId →
        (s.findAssignableAgent agentId dto.tenantId).isSome)
      (hlimit : canCreateTicket tenant
        (s.countCreatedSince dto.tenantId (startOfUtcDay today)) = true)
      (hpriority : TicketPriority.create (dto.priority.getD "MEDIUM") = .ok priority) :
      Performs env s (.createTicket dto) (createdChange dto
        (.create (env.header n) (createProps dto tenant id (s.nextTicketNumber dto.tenantId).1
          priority createdAt)) customer savedAt activeAt customerAt activityAt auditAt)
  | updateTicket (dto : UpdateTicketDto) (row : Ticket) (updated : TicketEntity)
      (writtenAt activityAt auditAt : Time)
      (hticket : s.findTicket dto.ticketId dto.tenantId = some row)
      (hactive : row.status.isActive = true)
      (hupdated : updatedEntity dto (.reconstitute row) = .ok updated) :
      Performs env s (.updateTicket dto)
        (updatedChange dto row updated writtenAt activityAt auditAt)
  | assignTicket (dto : AssignTicketDto) (row : Ticket) (agent : User) (n : Nat)
      (assignedAt writtenAt activityAt auditAt : Time)
      (hticket : s.findTicket dto.ticketId dto.tenantId = some row)
      (hagent : s.findAssignableAgent dto.agentId dto.tenantId = some agent)
      (hpolicy : (TicketEntity.reconstitute row).canAssign agent.role = true) :
      Performs env s (.assignTicket dto) (ticketChange
        ((TicketEntity.reconstitute row).assign assignedAt (env.header n) dto.agentId
          dto.assignedById)
        writtenAt (assignedActivity dto agent row.assignedAgentId activityAt)
        (assignedAudit dto auditAt))
  | changeStatus (dto : ChangeStatusDto) (row : Ticket) (newStatus : TicketStatus)
      (moved : TicketEntity) (n m : Nat) (movedAt writtenAt activityAt auditAt : Time)
      (hticket : s.findTicket dto.ticketId dto.tenantId = some row)
      (hstatus : TicketStatus.create dto.newStatus = .ok newStatus) (hnm : n ≠ m)
      (hmoved : movedEntity newStatus movedAt (env.header n) (env.header m) dto.changedById
        (.reconstitute row) = .ok moved) :
      Performs env s (.changeStatus dto) (ticketChange moved writtenAt
        (statusActivity dto row.status activityAt) (statusAudit dto row.status auditAt))
  | escalateTicket (dto : EscalateTicketDto) (row : Ticket) (escalated : TicketEntity) (n : Nat)
      (escalatedAt loggedAt writtenAt activityAt auditAt : Time)
      (hticket : s.findTicket dto.ticketId dto.tenantId = some row)
      (hpolicy : (TicketEntity.reconstitute row).canEscalate = true)
      (hescalated : (TicketEntity.reconstitute row).escalate escalatedAt (env.header n) dto.reason
        dto.escalatedById = .ok escalated) :
      Performs env s (.escalateTicket dto) (ticketChange escalated writtenAt
        (escalatedActivity dto loggedAt activityAt) (escalatedAudit dto auditAt))
  | addComment (dto : AddCommentDto) (row : Ticket) (author : User) (commentId : Uuid) (n : Nat)
      (createdAt savedAt writtenAt activityAt : Time)
      (hticket : s.findTicket dto.ticketId dto.tenantId = some row)
      (hauthor : s.findUser dto.authorId = some author)
      (hinternal : ¬ (dto.authorRole = .customer ∧ dto.type = .internalNote))
      (hstays : ¬ (dto.authorRole = .customer ∧ row.status = .pendingCustomer)) :
      Performs env s (.addComment dto) (commentedChange dto
        (.create (env.header n) (commentProps dto commentId createdAt)) author none savedAt
        writtenAt activityAt)
  | addReply (dto : AddCommentDto) (row : Ticket) (author : User) (moved : TicketEntity)
      (commentId : Uuid) (n m : Nat) (createdAt savedAt movedAt writtenAt activityAt : Time)
      (hticket : s.findTicket dto.ticketId dto.tenantId = some row)
      (hauthor : s.findUser dto.authorId = some author)
      (hinternal : ¬ (dto.authorRole = .customer ∧ dto.type = .internalNote))
      (hreply : dto.authorRole = .customer ∧ row.status = .pendingCustomer) (hnm : n ≠ m)
      (hmoved : (TicketEntity.reconstitute row).changeStatus movedAt (env.header m) .inProgress
        dto.authorId = .ok moved) :
      Performs env s (.addComment dto) (commentedChange dto
        (.create (env.header n) (commentProps dto commentId createdAt)) author (some moved)
        savedAt writtenAt activityAt)
  | editComment (dto : EditCommentDto) (row : TicketComment) (ticket : Ticket)
      (edited : TicketCommentEntity) (editedAt writtenAt activityAt : Time)
      (hcomment : s.findComment dto.commentId dto.tenantId = some row)
      (hauthor : row.authorId = dto.authorId)
      (hticket : s.findTicket row.ticketId dto.tenantId = some ticket)
      (hactive : ticket.status.isActive = true)
      (hedited : (TicketCommentEntity.reconstitute row).edit editedAt dto.content = .ok edited) :
      Performs env s (.editComment dto)
        { rows := fun s => s.updateComment edited.row.id (TicketComment.write writtenAt edited.row)
          activities := [editedActivity dto edited.row activityAt]
          audits := []
          raised := edited.events }
  | deleteComment (dto : DeleteCommentDto) (row : TicketComment) (ticket : Ticket)
      (activityAt : Time) (hcomment : s.findComment dto.commentId dto.tenantId = some row)
      (hallowed : row.authorId = dto.authorId ∨ dto.authorRole = .platformAdmin ∨
        dto.authorRole = .tenantManager)
      (hticket : s.findTicket row.ticketId dto.tenantId = some ticket)
      (hactive : ticket.status.isActive = true ∨ dto.authorRole = .platformAdmin) :
      Performs env s (.deleteComment dto)
        { rows := Store.deleteComment dto.commentId dto.tenantId
          activities := [deletedActivity dto row activityAt]
          audits := []
          raised := [] }

section events
variable {env : ServiceEnv} {s : Store} {time : Time} {n m : Nat}
  {row : Ticket} {ticket : TicketEntity}

theorem DrawnAt.new {ns : List Nat} {events : List DomainEvent} (h : DrawnAt env ns events)
    (hfresh : FreshIds env s) {event : DomainEvent} (hevent : event ∈ events)
    {r : OutboxEvent EventBody} (hr : r ∈ s.outbox) : r.eventId ≠ event.eventId := by
  have hmem : event.eventId ∈ ns.map env.eventId := by
    rw [← h]
    exact List.mem_map_of_mem hevent
  obtain ⟨k, -, hk⟩ := List.mem_map.mp hmem
  rw [← hk]
  exact hfresh.new k r hr

theorem DrawnAt.nodup {ns : List Nat} {events : List DomainEvent} (h : DrawnAt env ns events)
    (hfresh : FreshIds env s) (hns : ns.Nodup) :
    (events.map fun event => event.eventId).Nodup := by
  rw [show events.map (fun event => event.eventId) = ns.map env.eventId from h]
  exact List.Nodup.map hfresh.injective hns

theorem changeStatus_events {newStatus : TicketStatus} {changedById : Uuid}
    (h : (TicketEntity.reconstitute row).changeStatus time (env.header n) newStatus changedById =
      .ok ticket) : DrawnAt env [n] ticket.events := by
  simp only [TicketEntity.changeStatus] at h
  split at h <;> cases h
  rfl

theorem movedEntity_events {newStatus : TicketStatus} {changedById : Uuid}
    (h : movedEntity newStatus time (env.header n) (env.header m) changedById
      (.reconstitute row) = .ok ticket) :
    DrawnAt env [n] ticket.events ∨ DrawnAt env [n, m] ticket.events := by
  simp only [movedEntity] at h
  split at h
  · simp only [TicketEntity.resolve, bind, Except.bind] at h
    split at h
    · cases h
    · rename_i moved hmoved
      cases h
      have hfirst := changeStatus_events hmoved
      refine Or.inr ?_
      simp only [DrawnAt] at hfirst
      simp only [DrawnAt, List.map_append, hfirst]
      rfl
  · exact Or.inl (changeStatus_events h)

theorem escalate_events {reason : String} {escalatedById : Actor}
    (h : (TicketEntity.reconstitute row).escalate time (env.header n) reason escalatedById =
      .ok ticket) : DrawnAt env [n] ticket.events := by
  simp only [TicketEntity.escalate] at h
  split at h <;> cases h
  rfl

theorem edit_events {comment : TicketComment} {edited : TicketCommentEntity} {content : String}
    (h : (TicketCommentEntity.reconstitute comment).edit time content = .ok edited) :
    edited.events = [] := by
  simp only [TicketCommentEntity.edit] at h
  split at h <;> cases h
  rfl

theorem updateDetails_events {title description : Option String} {tags : Option (List String)}
    {dueAt : Option Time} {ticket' : TicketEntity}
    (h : ticket.updateDetails title description tags dueAt = .ok ticket') :
    ticket'.events = ticket.events := by
  simp only [TicketEntity.updateDetails, bind, Except.bind] at h
  split at h
  · cases h
  · split at h <;> cases h
    rfl

theorem updateCategory_events {category : String} {ticket' : TicketEntity}
    (h : ticket.updateCategory category = .ok ticket') : ticket'.events = ticket.events := by
  simp only [TicketEntity.updateCategory, bind, Except.bind] at h
  split at h <;> cases h
  rfl

theorem withPriority_events {value : Option String} {ticket' : TicketEntity}
    (h : withPriority value ticket = .ok ticket') : ticket'.events = ticket.events := by
  unfold withPriority at h
  cases value with
  | none =>
    cases h
    rfl
  | some priority =>
    simp only at h
    split at h
    · cases hp : TicketPriority.create priority with
      | error e =>
        rw [hp] at h
        cases h
      | ok created =>
        rw [hp] at h
        cases h
        rfl
    · cases h
      rfl

theorem withCategory_events {value : Option String} {ticket' : TicketEntity}
    (h : withCategory value ticket = .ok ticket') : ticket'.events = ticket.events := by
  unfold withCategory at h
  cases value with
  | none =>
    cases h
    rfl
  | some category =>
    simp only at h
    split at h
    · exact updateCategory_events h
    · cases h
      rfl

/-- An update raises no event. -/
theorem updatedEntity_events {dto : UpdateTicketDto}
    (h : updatedEntity dto (.reconstitute row) = .ok ticket) : ticket.events = [] := by
  obtain ⟨first, hfirst, h⟩ := bind_eq_ok.mp h
  obtain ⟨second, hsecond, h⟩ := bind_eq_ok.mp h
  calc ticket.events = second.events := updateDetails_events h
    _ = first.events := withCategory_events hsecond
    _ = [] := withPriority_events hfirst

end events

section committed
variable {env : ServiceEnv} {s s' : Store} {change : Change} {d d' : Nat}

theorem count_eventId_eq_one {outbox rows : List (OutboxEvent EventBody)}
    {events : List DomainEvent} {event : DomainEvent} (hall : List.Forall₂ RowOf events rows)
    (hnew : ∀ event ∈ events, ∀ r ∈ outbox, r.eventId ≠ event.eventId)
    (hnodup : (events.map fun event => event.eventId).Nodup) (hm : event ∈ events) :
    Table.count (fun r : OutboxEvent EventBody => r.eventId = event.eventId) (outbox ++ rows)
      = 1 := by
  have hold : outbox.countP (fun r => r.eventId = event.eventId) = 0 := by
    rw [List.countP_eq_zero]
    intro r hr
    simpa using hnew event hm r hr
  have hrows : rows.countP (fun r => r.eventId = event.eventId) =
      (events.map fun event => event.eventId).count event.eventId := by
    rw [← forall₂_rowOf_eventIds hall, List.count, List.countP_map]
    exact List.countP_congr fun r _ => by simp
  have hone := List.count_eq_one_of_mem hnodup (List.mem_map_of_mem hm)
  rw [Table.count, List.countP_append, hold, hrows, hone]

/-- Rows for new events, appended to the outbox, commit the change. -/
theorem CommittedWith.of_rows {ns : List Nat} {rows : List (OutboxEvent EventBody)}
    (hfresh : FreshIds env s) (hns : ns.Nodup) (hdrawn : DrawnAt env ns change.raised)
    (hall : List.Forall₂ RowOf change.raised rows)
    (hs' : s' = { change.rows s with
      activities := s.activities ++ change.activities
      audits := s.audits ++ change.audits
      outbox := s.outbox ++ rows }) : CommittedWith change s s' where
  store := ⟨rows, hall, hs'⟩
  pending event hm := by
    obtain ⟨k, hk, hget⟩ := List.getElem_of_mem hm
    have hk' : k < rows.length := hall.length_eq ▸ hk
    obtain ⟨id, time, hrow⟩ := hall.get hk hk'
    refine ⟨rows[k], ?_, ?_⟩
    · rw [hs']
      exact List.mem_append_right _ (List.getElem_mem hk')
    · simp only [List.get_eq_getElem] at hrow
      rw [hrow, hget]
      exact ⟨rfl, rfl, rfl⟩
  once event hm := by
    rw [hs']
    exact count_eventId_eq_one hall (fun event hm r hr => hdrawn.new hfresh hm hr)
      (hdrawn.nodup hfresh hns) hm

end committed

section bodies
variable {env : ServiceEnv} {s s' : Store} {d d' : Nat}

theorem inside_ticketWrites (ticket : TicketEntity) (activity : Time → ActivityLog)
    (audit : Time → AuditLog) : Inside (ticketWrites ticket activity audit) :=
  (inside_ticketUpdate _).bind fun _ => (inside_activityCreate _).bind fun _ =>
    (inside_auditCreate _).bind fun _ => (inside_publishAll _).bind fun _ => inside_pure _

/-- The ticket with its activity and audit rows, before its events are published. -/
theorem yields_ticketWrites_rows {ticket : TicketEntity} {activity : Time → ActivityLog}
    {audit : Time → AuditLog} {updated : Ticket}
    (h : Yields env d s (ticketWrites ticket activity audit) updated d' s') :
    ∃ writtenAt activityAt auditAt d₁ u, Yields env d₁
      (((s.updateTicket ticket.row.id (Ticket.write writtenAt ticket.row)).insertActivity
        (activity activityAt)).insertAudit (audit auditAt)) (publishTicketEvents ticket) u d' s' := by
  obtain ⟨_, _, _, hupdate, h₁⟩ := yields_bind (inside_ticketUpdate _) h
  obtain ⟨writtenAt, rfl, -⟩ := yields_ticketUpdate hupdate
  obtain ⟨_, _, _, hactivity, h₂⟩ := yields_bind (inside_activityCreate _) h₁
  obtain ⟨activityAt, rfl, -⟩ := yields_activityCreate hactivity
  obtain ⟨_, d₁, _, haudit, h₃⟩ := yields_bind (inside_auditCreate _) h₂
  obtain ⟨auditAt, rfl, -⟩ := yields_auditCreate haudit
  obtain ⟨u, _, _, hpublish, h₄⟩ := yields_bind (inside_publishAll _) h₃
  obtain ⟨-, rfl, rfl⟩ := yields_pure h₄
  exact ⟨writtenAt, activityAt, auditAt, d₁, u, hpublish⟩

theorem yields_ticketWrites {ticket : TicketEntity} {activity : Time → ActivityLog}
    {audit : Time → AuditLog} {updated : Ticket} {ns : List Nat}
    (h : Yields env d s (ticketWrites ticket activity audit) updated d' s') (hfresh : FreshIds env s)
    (hns : ns.Nodup) (hdrawn : DrawnAt env ns ticket.events) :
    ∃ writtenAt activityAt auditAt,
      CommittedWith (ticketChange ticket writtenAt (activity activityAt) (audit auditAt)) s s' := by
  obtain ⟨writtenAt, activityAt, auditAt, d₁, u, hpublish⟩ := yields_ticketWrites_rows h
  obtain ⟨rows, hall, rfl⟩ := yields_publishAll hpublish (fun _ hm _ hr => hdrawn.new hfresh hm hr)
    (hdrawn.nodup hfresh hns)
  exact ⟨writtenAt, activityAt, auditAt, .of_rows hfresh hns hdrawn hall rfl⟩

theorem inside_updateTicketWrites (dto : UpdateTicketDto) (ticket : TicketEntity)
    (values : List (String × JsonValue × JsonValue)) :
    Inside (updateTicketWrites dto ticket values) := by
  refine (inside_ticketUpdate _).bind fun _ => ?_
  split
  · exact inside_pure _
  · exact (inside_activityCreate _).bind fun _ => (inside_auditCreate _).bind fun _ =>
      inside_pure _

/-- An update that changes no value writes the ticket alone. -/
theorem yields_updateTicketWrites_rows {dto : UpdateTicketDto} {ticket : TicketEntity}
    {values : List (String × JsonValue × JsonValue)} {updated : Ticket}
    (h : Yields env d s (updateTicketWrites dto ticket values) updated d' s') :
    ∃ writtenAt activityAt auditAt,
      (values = [] ∧ s' = s.updateTicket ticket.row.id (Ticket.write writtenAt ticket.row)) ∨
      (values ≠ [] ∧ s' =
        ((s.updateTicket ticket.row.id (Ticket.write writtenAt ticket.row)).insertActivity
          (updatedActivity dto values activityAt)).insertAudit
            (updatedAudit dto values auditAt)) := by
  obtain ⟨_, _, _, hupdate, h₁⟩ := yields_bind (inside_ticketUpdate _) h
  obtain ⟨writtenAt, rfl, -⟩ := yields_ticketUpdate hupdate
  split at h₁
  · rename_i hnone
    obtain ⟨-, -, rfl⟩ := yields_pure h₁
    exact ⟨writtenAt, 0, 0, .inl ⟨hnone, rfl⟩⟩
  · rename_i hsome
    obtain ⟨_, _, _, hactivity, h₂⟩ := yields_bind (inside_activityCreate _) h₁
    obtain ⟨activityAt, rfl, -⟩ := yields_activityCreate hactivity
    obtain ⟨_, _, _, haudit, h₃⟩ := yields_bind (inside_auditCreate _) h₂
    obtain ⟨auditAt, rfl, -⟩ := yields_auditCreate haudit
    obtain ⟨-, -, rfl⟩ := yields_pure h₃
    exact ⟨writtenAt, activityAt, auditAt, .inr ⟨hsome, rfl⟩⟩

theorem yields_updateTicketWrites {dto : UpdateTicketDto} {before : Ticket}
    {ticket : TicketEntity} {saved : Ticket}
    (h : Yields env d s (updateTicketWrites dto ticket (changedValues dto before)) saved d' s')
    (hfresh : FreshIds env s) (hevents : ticket.events = []) :
    ∃ writtenAt activityAt auditAt,
      CommittedWith (updatedChange dto before ticket writtenAt activityAt auditAt) s s' := by
  have hdrawn : DrawnAt env [] ticket.events := by simp [DrawnAt, hevents]
  have hrows : List.Forall₂ RowOf ticket.events [] := hevents ▸ .nil
  obtain ⟨writtenAt, activityAt, auditAt, ⟨hnone, rfl⟩ | ⟨hsome, rfl⟩⟩ :=
    yields_updateTicketWrites_rows h
  · refine ⟨writtenAt, 0, 0, .of_rows hfresh .nil hdrawn hrows ?_⟩
    simp [updatedChange, hnone, Store.updateTicket]
  · refine ⟨writtenAt, activityAt, auditAt, .of_rows hfresh .nil hdrawn hrows ?_⟩
    simp only [updatedChange, hsome, if_false, List.append_nil]
    rfl

theorem inside_createTicketWrites (dto : CreateTicketDto) (customer : Customer) (tenant : Tenant) :
    Inside (createTicketWrites dto customer tenant) :=
  (inside_getNextTicketNumber _).bind fun _ => (inside_draw _).bind fun _ =>
    (inside_countCreatedSince _ _).bind fun _ => (inside_lift _).bind fun _ =>
    (inside_lift _).bind fun _ => (inside_draw _).bind fun _ => (inside_draw _).bind fun _ =>
    (inside_draw _).bind fun _ => (inside_ticketSave _).bind fun _ => (inside_draw _).bind fun _ =>
    (inside_customerUpdate _).bind fun _ => (inside_activityCreate _).bind fun _ =>
    (inside_auditCreate _).bind fun _ => (inside_publishAll _).bind fun _ => inside_pure _

/-- The new ticket, the activity of its customer and both rows about it, before its event is
published. -/
theorem yields_createTicketWrites_rows {dto : CreateTicketDto} {customer : Customer}
    {tenant : Tenant} {saved : Ticket}
    (h : Yields env d s (createTicketWrites dto customer tenant) saved d' s') :
    ∃ priority id n today createdAt savedAt activeAt customerAt activityAt auditAt d₁ u,
      let ticket := TicketEntity.create (env.header n) (createProps dto tenant id
        (s.nextTicketNumber dto.tenantId).1 priority createdAt)
      canCreateTicket tenant (s.countCreatedSince dto.tenantId (startOfUtcDay today)) = true ∧
      TicketPriority.create (dto.priority.getD "MEDIUM") = .ok priority ∧
      saved = ticket.row.storedAt savedAt ∧ (∀ t ∈ s.tickets, t.id ≠ id) ∧
      Yields env d₁ (((((s.nextTicketNumber dto.tenantId).2.insertTicket saved).updateCustomer
        customer.id (Customer.write customerAt (customer.recordActivity activeAt))).insertActivity
          (createdActivity dto saved activityAt)).insertAudit (createdAudit dto saved auditAt))
        (publishTicketEvents ticket) u d' s' := by
  obtain ⟨number, d₁, s₁, hnext, h₁⟩ := yields_bind (inside_getNextTicketNumber _) h
  obtain ⟨hnumber, rfl⟩ := yields_getNextTicketNumber hnext
  obtain ⟨rfl, rfl⟩ : (s.nextTicketNumber dto.tenantId).1 = number ∧
      (s.nextTicketNumber dto.tenantId).2 = s₁ := by
    rw [hnumber]
    exact ⟨rfl, rfl⟩
  obtain ⟨today, _, _, htoday, h₂⟩ := yields_bind (inside_draw _) h₁
  obtain ⟨-, -, rfl⟩ := yields_draw htoday
  obtain ⟨count, _, _, hcount, h₃⟩ := yields_bind (inside_countCreatedSince _ _) h₂
  obtain ⟨rfl, rfl, -⟩ := yields_countCreatedSince hcount
  obtain ⟨_, _, _, hcheck, h₄⟩ := yields_bind (inside_lift _) h₃
  obtain ⟨hlimit, -, rfl⟩ := yields_lift hcheck
  obtain ⟨priority, _, _, hcreate, h₅⟩ := yields_bind (inside_lift _) h₄
  obtain ⟨hpriority, -, rfl⟩ := yields_lift hcreate
  obtain ⟨id, _, _, hid, h₆⟩ := yields_bind (inside_draw _) h₅
  obtain ⟨-, -, rfl⟩ := yields_draw hid
  obtain ⟨createdAt, _, _, hcreated, h₇⟩ := yields_bind (inside_draw _) h₆
  obtain ⟨-, -, rfl⟩ := yields_draw hcreated
  obtain ⟨header, n, _, hheader, h₈⟩ := yields_bind (inside_draw _) h₇
  obtain ⟨rfl, -, rfl⟩ := yields_draw hheader
  obtain ⟨saved, _, _, hsave, h₉⟩ := yields_bind (inside_ticketSave _) h₈
  obtain ⟨savedAt, rfl, rfl, -, hnew⟩ := yields_ticketSave hsave
  obtain ⟨activeAt, _, _, hactive, h₁₀⟩ := yields_bind (inside_draw _) h₉
  obtain ⟨-, -, rfl⟩ := yields_draw hactive
  obtain ⟨_, _, _, hcustomer, h₁₁⟩ := yields_bind (inside_customerUpdate _) h₁₀
  obtain ⟨customerAt, rfl, -⟩ := yields_customerUpdate hcustomer
  obtain ⟨_, _, _, hactivity, h₁₂⟩ := yields_bind (inside_activityCreate _) h₁₁
  obtain ⟨activityAt, rfl, -⟩ := yields_activityCreate hactivity
  obtain ⟨_, _, _, haudit, h₁₃⟩ := yields_bind (inside_auditCreate _) h₁₂
  obtain ⟨auditAt, rfl, -⟩ := yields_auditCreate haudit
  obtain ⟨u, _, _, hpublish, h₁₄⟩ := yields_bind (inside_publishAll _) h₁₃
  obtain ⟨rfl, rfl, rfl⟩ := yields_pure h₁₄
  -- taking the number changes the sequences alone
  obtain ⟨sequences, hnext⟩ := nextTicketNumber_sequences (s := s) dto.tenantId
  have htickets : (s.nextTicketNumber dto.tenantId).2.tickets = s.tickets := by rw [hnext]
  simp only [Store.countCreatedSince, htickets] at hlimit
  exact ⟨priority, id, _, today, createdAt, savedAt, activeAt, customerAt, activityAt, auditAt, _,
    u, require_ok hlimit, hpriority, rfl, fun t ht => hnew t (htickets ▸ ht), hpublish⟩

theorem yields_createTicketWrites {dto : CreateTicketDto} {customer : Customer} {tenant : Tenant}
    {saved : Ticket} (h : Yields env d s (createTicketWrites dto customer tenant) saved d' s')
    (hfresh : FreshIds env s) :
    ∃ priority id n today createdAt savedAt activeAt customerAt activityAt auditAt,
      canCreateTicket tenant (s.countCreatedSince dto.tenantId (startOfUtcDay today)) = true ∧
      TicketPriority.create (dto.priority.getD "MEDIUM") = .ok priority ∧
      (∀ t ∈ s.tickets, t.id ≠ id) ∧
      CommittedWith (createdChange dto
        (.create (env.header n) (createProps dto tenant id (s.nextTicketNumber dto.tenantId).1
          priority createdAt)) customer savedAt activeAt customerAt activityAt auditAt) s s' := by
  obtain ⟨priority, id, n, today, createdAt, savedAt, activeAt, customerAt, activityAt, auditAt, d₁,
    u, hlimit, hpriority, rfl, hnew, hpublish⟩ := yields_createTicketWrites_rows h
  obtain ⟨sequences, hnext⟩ := nextTicketNumber_sequences (s := s) dto.tenantId
  have houtbox : (s.nextTicketNumber dto.tenantId).2.outbox = s.outbox := by rw [hnext]
  have hactivities : (s.nextTicketNumber dto.tenantId).2.activities = s.activities := by rw [hnext]
  have haudits : (s.nextTicketNumber dto.tenantId).2.audits = s.audits := by rw [hnext]
  obtain ⟨rows, hall, rfl⟩ := yields_publishAll hpublish
    (fun event hm r hr => by
      rw [List.mem_singleton.mp hm]
      exact hfresh.new _ r (houtbox ▸ hr))
    (List.nodup_singleton _)
  refine ⟨priority, id, n, today, createdAt, savedAt, activeAt, customerAt, activityAt, auditAt,
    hlimit, hpriority, hnew, .of_rows hfresh (List.nodup_singleton _) rfl hall ?_⟩
  simp only [createdChange, Store.insertAudit, Store.insertActivity,
    Store.updateCustomer, Store.insertTicket, hactivities, haudits, houtbox]

theorem inside_replyStatus (dto : AddCommentDto) (ticket : TicketEntity) :
    Inside (replyStatus dto ticket) := by
  unfold replyStatus
  split
  · exact (inside_draw _).bind fun _ => (inside_draw _).bind fun _ => (inside_lift _).bind fun _ =>
      (inside_ticketUpdate _).bind fun _ => inside_pure _
  · exact inside_pure _

theorem inside_addCommentWrites (dto : AddCommentDto) (ticket : TicketEntity)
    (comment : TicketCommentEntity) (author : User) :
    Inside (addCommentWrites dto ticket comment author) :=
  (inside_commentSave _).bind fun _ => (inside_replyStatus _ _).bind fun _ =>
    (inside_activityCreate _).bind fun _ => (inside_publishAll _).bind fun _ =>
    inside_publishAll _

/-- A customer's reply moves a pending ticket; any other comment leaves the ticket. -/
theorem yields_replyStatus {dto : AddCommentDto} {ticket ticket' : TicketEntity}
    (h : Yields env d s (replyStatus dto ticket) ticket' d' s') :
    (dto.authorRole = .customer ∧ ticket.row.status = .pendingCustomer ∧
      ticket.changeStatus (env.clock d) (env.header (d + 1)) .inProgress dto.authorId =
        .ok ticket' ∧
      ∃ writtenAt, s' = s.updateTicket ticket'.row.id (Ticket.write writtenAt ticket'.row)) ∨
    (¬ (dto.authorRole = .customer ∧ ticket.row.status = .pendingCustomer) ∧ ticket' = ticket ∧
      s' = s) := by
  unfold replyStatus at h
  split at h
  · rename_i hreplies
    obtain ⟨movedAt, _, _, htime, h₁⟩ := yields_bind (inside_draw _) h
    obtain ⟨rfl, rfl, rfl⟩ := yields_draw htime
    obtain ⟨header, _, _, hheader, h₂⟩ := yields_bind (inside_draw _) h₁
    obtain ⟨rfl, rfl, rfl⟩ := yields_draw hheader
    obtain ⟨moved, _, _, hmove, h₃⟩ := yields_bind (inside_lift _) h₂
    obtain ⟨hmoved, -, rfl⟩ := yields_lift hmove
    obtain ⟨_, _, _, hupdate, h₄⟩ := yields_bind (inside_ticketUpdate _) h₃
    obtain ⟨writtenAt, rfl, -⟩ := yields_ticketUpdate hupdate
    obtain ⟨rfl, -, rfl⟩ := yields_pure h₄
    exact .inl ⟨hreplies.1, hreplies.2, hmoved, writtenAt, rfl⟩
  · rename_i hstays
    obtain ⟨rfl, -, rfl⟩ := yields_pure h
    exact .inr ⟨hstays, rfl, rfl⟩

/-- A comment that leaves the status of its ticket alone raises one event. -/
theorem yields_addCommentWrites_plain {dto : AddCommentDto} {row : Ticket}
    {comment : TicketCommentEntity} {author : User} {u : Unit} {n : Nat}
    (h : Yields env d s (addCommentWrites dto (.reconstitute row) comment author) u d' s')
    (hfresh : FreshIds env s) (hdrawn : DrawnAt env [n] comment.events)
    (hstays : ¬ (dto.authorRole = .customer ∧ row.status = .pendingCustomer)) :
    ∃ savedAt writtenAt activityAt,
      CommittedWith (commentedChange dto comment author none savedAt writtenAt activityAt) s s' := by
  obtain ⟨_, _, _, hsave, h₁⟩ := yields_bind (inside_commentSave _) h
  obtain ⟨savedAt, rfl, -⟩ := yields_commentSave hsave
  obtain ⟨ticket, _, _, hreply, h₂⟩ := yields_bind (inside_replyStatus _ _) h₁
  obtain ⟨hcustomer, hpending, -⟩ | ⟨-, rfl, rfl⟩ := yields_replyStatus hreply
  · exact absurd ⟨hcustomer, hpending⟩ hstays
  obtain ⟨_, _, _, hactivity, h₃⟩ := yields_bind (inside_activityCreate _) h₂
  obtain ⟨activityAt, rfl, -⟩ := yields_activityCreate hactivity
  obtain ⟨_, _, _, hticket, h₄⟩ := yields_bind (inside_publishAll _) h₃
  obtain ⟨-, -, rfl⟩ := yields_pure hticket
  obtain ⟨rows, hall, rfl⟩ := yields_publishAll h₄ (fun _ hm _ hr => hdrawn.new hfresh hm hr)
    (hdrawn.nodup hfresh (List.nodup_singleton n))
  refine ⟨savedAt, 0, activityAt, .of_rows hfresh (List.nodup_singleton n) hdrawn hall ?_⟩
  simp only [commentedChange, List.append_nil]
  rfl

/-- A customer's reply to a pending ticket raises the ticket's event, then its own. -/
theorem yields_addCommentWrites_reply {dto : AddCommentDto} {row : Ticket}
    {comment : TicketCommentEntity} {author : User} {u : Unit} {n : Nat}
    (h : Yields env d s (addCommentWrites dto (.reconstitute row) comment author) u d' s')
    (hfresh : FreshIds env s) (hdrawn : DrawnAt env [n] comment.events) (hn : n < d)
    (hreplies : dto.authorRole = .customer ∧ row.status = .pendingCustomer) :
    ∃ moved m savedAt movedAt writtenAt activityAt, n ≠ m ∧
      (TicketEntity.reconstitute row).changeStatus movedAt (env.header m) .inProgress
        dto.authorId = .ok moved ∧
      CommittedWith (commentedChange dto comment author (some moved) savedAt writtenAt activityAt)
        s s' := by
  obtain ⟨_, d₁, _, hsave, h₁⟩ := yields_bind (inside_commentSave _) h
  obtain ⟨savedAt, rfl, hd₁, -⟩ := yields_commentSave hsave
  obtain ⟨ticket, _, _, hreply, h₂⟩ := yields_bind (inside_replyStatus _ _) h₁
  obtain ⟨-, -, hmoved, writtenAt, rfl⟩ | ⟨hstays, -⟩ := yields_replyStatus hreply
  swap
  · exact absurd hreplies hstays
  obtain ⟨_, _, _, hactivity, h₃⟩ := yields_bind (inside_activityCreate _) h₂
  obtain ⟨activityAt, rfl, -⟩ := yields_activityCreate hactivity
  obtain ⟨_, _, _, hticket, h₄⟩ := yields_bind (inside_publishAll _) h₃
  have hmovedAt := changeStatus_events hmoved
  have hnm : n ≠ d₁ + 1 := by omega
  have hboth : DrawnAt env [d₁ + 1, n] (ticket.events ++ comment.events) := by
    simp only [DrawnAt] at hmovedAt hdrawn
    simp only [DrawnAt, List.map_append, hmovedAt, hdrawn]
    rfl
  have hns : [d₁ + 1, n].Nodup := by simpa using Ne.symm hnm
  have hnodup := hboth.nodup hfresh hns
  obtain ⟨rows, hall, rfl⟩ := yields_publishAll hticket (fun _ hm _ hr => hmovedAt.new hfresh hm hr)
    (hmovedAt.nodup hfresh (List.nodup_singleton _))
  obtain ⟨rows', hall', rfl⟩ := yields_publishAll h₄
    (fun event hm r hr => by
      rcases List.mem_append.mp hr with hr | hr
      · exact hdrawn.new hfresh hm hr
      · -- a row of the ticket's own event
        intro he
        have hid : r.eventId ∈ ticket.events.map fun event => event.eventId := by
          rw [← forall₂_rowOf_eventIds hall]
          exact List.mem_map_of_mem hr
        rw [List.map_append] at hnodup
        exact (List.nodup_append.mp hnodup).2.2 _ hid _ (List.mem_map_of_mem hm) he)
    (hdrawn.nodup hfresh (List.nodup_singleton n))
  refine ⟨ticket, d₁ + 1, savedAt, _, writtenAt, activityAt, hnm, hmoved,
    .of_rows hfresh hns hboth (List.rel_append hall hall') ?_⟩
  simp only [commentedChange, List.append_nil, ← List.append_assoc]
  rfl

theorem inside_editCommentWrites (dto : EditCommentDto) (comment : TicketCommentEntity) :
    Inside (editCommentWrites dto comment) :=
  (inside_commentUpdate _).bind fun _ => (inside_activityCreate _).bind fun _ => inside_pure _

theorem inside_deleteCommentWrites (dto : DeleteCommentDto) (comment : TicketComment) :
    Inside (deleteCommentWrites dto comment) :=
  (inside_commentDelete _ _).bind fun _ => inside_activityCreate _

end bodies
end OmniSupport.Ticketing
