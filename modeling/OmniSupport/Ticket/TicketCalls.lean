import OmniSupport.Foundation.Traces
import OmniSupport.Ticket.TicketService

/-! Which calls the ticket service awaits: every write but the comment clears the dashboard
cache after its commit. -/
namespace OmniSupport.Ticketing
open Foundation Database Effect TicketService

/-- Neither the statement that records a breach nor the one that clears the dashboard cache. -/
def OrdinaryCall (k : ServiceCall) : Prop :=
  (∀ id tenantId, k ≠ .ticketBreach id tenantId) ∧ ∀ tenantId, k ≠ .cacheInvalidate tenantId

section calls

theorem calls_publishAll (events : List DomainEvent) :
    Calls OrdinaryCall (OutboxPublisher.publishAll events) := by
  have hrows : ∀ events, Calls OrdinaryCall (OutboxPublisher.toRows events) := by
    intro events
    induction events with
    | nil => exact calls_pure _
    | cons event rest ih =>
      exact ((calls_draw _).bind fun _ => (calls_draw _).bind fun _ => calls_pure _).bind fun _ =>
        ih.bind fun _ => calls_pure _
  unfold OutboxPublisher.publishAll
  split
  · exact calls_pure _
  · exact (hrows _).bind fun _ => calls_call (by simp [OrdinaryCall])

theorem calls_ticketUpdate (ticket : Ticket) :
    Calls OrdinaryCall (TicketRepository.update ticket) :=
  (calls_draw _).bind fun _ => calls_call (by simp [OrdinaryCall])

theorem calls_activityCreate (activity : Time → ActivityLog) :
    Calls OrdinaryCall (ActivityRepository.create activity) :=
  (calls_draw _).bind fun _ => calls_call (by simp [OrdinaryCall])

theorem calls_ticketWrites (ticket : TicketEntity) (activity : Time → ActivityLog)
    (audit : Time → AuditLog) : Calls OrdinaryCall (ticketWrites ticket activity audit) := by
  have haudit : Calls OrdinaryCall (AuditRepository.create audit) :=
    (calls_draw _).bind fun _ => (calls_call (by simp [OrdinaryCall])).rethrow
  exact (calls_ticketUpdate _).bind fun _ => (calls_activityCreate _).bind fun _ =>
    haudit.bind fun _ => (calls_publishAll _).bind fun _ => calls_pure _

theorem calls_getTicketOrThrow (id tenantId : Uuid) :
    Calls OrdinaryCall (getTicketOrThrow id tenantId) :=
  (calls_read (by simp [OrdinaryCall])).bind fun _ => (calls_lift _).bind fun _ => calls_pure _

theorem calls_addJobs (jobs : List AIJob) : Calls OrdinaryCall (addJobs jobs) :=
  calls_read (by simp [OrdinaryCall])

theorem calls_replyStatus (dto : AddCommentDto) (ticket : TicketEntity) :
    Calls OrdinaryCall (replyStatus dto ticket) := by
  unfold replyStatus
  split
  · exact (calls_draw _).bind fun _ => (calls_draw _).bind fun _ => (calls_lift _).bind fun _ =>
      (calls_ticketUpdate _).bind fun _ => calls_pure _
  · exact calls_pure _

theorem calls_addCommentWrites (dto : AddCommentDto) (ticket : TicketEntity)
    (comment : TicketCommentEntity) (author : User) :
    Calls OrdinaryCall (addCommentWrites dto ticket comment author) := by
  have hsave : Calls OrdinaryCall (CommentRepository.save comment.row) :=
    (calls_draw _).bind fun _ => calls_call (by simp [OrdinaryCall])
  exact hsave.bind fun _ => (calls_replyStatus _ _).bind fun _ =>
    (calls_activityCreate _).bind fun _ => (calls_publishAll _).bind fun _ => calls_publishAll _

/-- A comment leaves the caches alone. -/
theorem calls_addComment (dto : AddCommentDto) : Calls OrdinaryCall (addComment dto) := by
  refine (calls_getTicketOrThrow _ _).bind fun _ =>
    (calls_read (by simp [OrdinaryCall])).bind fun _ => (calls_lift _).bind fun _ =>
    (calls_lift _).bind fun _ => (calls_draw _).bind fun _ => (calls_draw _).bind fun _ =>
    (calls_draw _).bind fun _ => ?_
  refine (Calls.transaction (by simp [OrdinaryCall]) _ (calls_addCommentWrites _ _ _ _)).bind
    fun _ => (calls_draw _).bind fun _ => (calls_draw _).bind fun _ => ?_
  refine Calls.bind ?_ fun _ => calls_pure _
  unfold addSentiment
  split
  · exact calls_addJobs _
  · exact calls_pure _

end calls

section invalidation
variable {α : Type} {tenantId : Uuid}

theorem logs_refresh (a : α) :
    Logs (.cacheInvalidate tenantId) (invalidateDashboardCache tenantId >>= fun _ => pure a) :=
  logs_read.bind (P := OrdinaryCall) fun _ => calls_pure a

theorem logs_createTicket (dto : CreateTicketDto) :
    Logs (.cacheInvalidate dto.tenantId) (createTicket dto) := by
  refine .after fun _ => .after fun _ => .after fun _ => .after fun _ => .after fun _ => ?_
  split
  · exact .after fun _ => .after fun _ => logs_refresh _
  · exact .after fun _ => .after fun _ => .after fun _ => logs_refresh _

theorem logs_updateTicket (dto : UpdateTicketDto) :
    Logs (.cacheInvalidate dto.tenantId) (updateTicket dto) :=
  .after fun _ => .after fun _ => .after fun _ => .after fun _ => logs_refresh _

theorem logs_assignTicket (dto : AssignTicketDto) :
    Logs (.cacheInvalidate dto.tenantId) (assignTicket dto) :=
  .after fun _ => .after fun _ => .after fun _ => .after fun _ => .after fun _ => .after fun _ =>
    logs_refresh _

theorem logs_changeStatus (dto : ChangeStatusDto) :
    Logs (.cacheInvalidate dto.tenantId) (changeStatus dto) := by
  refine .after fun _ => .after fun newStatus => .after fun _ => .after fun _ => .after fun _ =>
    .after fun moved => .after fun updated => ?_
  have hsummary : Calls OrdinaryCall (addSummary dto newStatus moved.row) := by
    unfold addSummary
    split
    · exact calls_addJobs _
    · exact calls_pure _
  exact logs_read.bind fun _ => hsummary.bind fun _ => calls_pure updated

theorem logs_escalateTicket (dto : EscalateTicketDto) :
    Logs (.cacheInvalidate dto.tenantId) (escalateTicket dto) :=
  .after fun _ => .after fun _ => .after fun _ => .after fun _ => .after fun _ => .after fun _ =>
    .after fun _ => logs_refresh _

end invalidation
end OmniSupport.Ticketing
