import OmniSupport.Messaging.InboundWhatsApp
import OmniSupport.Ticket.TicketChange

/-! What the steps of the handler write: the ticket or the comment a message becomes, and
nothing else of either kind. -/
namespace OmniSupport.Messaging
open Foundation Database Effect Ticketing TicketService ProcessInboundWhatsApp

variable {env : ServiceEnv} {d d' : Nat} {s s' : Store}

/-- Publishing writes the outbox alone. -/
theorem yields_publishAll_rows {events : List DomainEvent} {u : Unit}
    (h : Yields env d s (OutboxPublisher.publishAll events) u d' s') :
    s'.tickets = s.tickets ∧ s'.comments = s.comments := by
  obtain ⟨outbox, rfl⟩ := yields_publishAll_outbox h
  exact ⟨rfl, rfl⟩

/-- One new ticket under a new id, open and in no thread yet. -/
structure TicketAdded (dto : CreateTicketDto) (saved : Ticket) (s s' : Store) : Prop where
  tickets : s'.tickets = s.tickets ++ [saved]
  comments : s'.comments = s.comments
  new : ∀ t ∈ s.tickets, t.id ≠ saved.id
  tenantId : saved.tenantId = dto.tenantId
  status : saved.status = .open

/-- One new comment under a new id, whose ticket may change, but not its thread. -/
structure CommentAdded (s s' : Store) : Prop where
  comments : ∃ comment, s'.comments = s.comments ++ [comment] ∧
    ∀ c ∈ s.comments, c.id ≠ comment.id
  tickets : s'.tickets.map thread = s.tickets.map thread

theorem yields_replyStatus_rows {dto : AddCommentDto} {ticket ticket' : TicketEntity}
    (h : Yields env d s (replyStatus dto ticket) ticket' d' s') :
    s'.comments = s.comments ∧ s'.tickets.map thread = s.tickets.map thread := by
  obtain ⟨-, -, -, writtenAt, rfl⟩ | ⟨-, -, rfl⟩ := yields_replyStatus h
  · exact ⟨rfl, Table.map_updateMany fun _ => rfl⟩
  · exact ⟨rfl, rfl⟩

theorem yields_addCommentWrites_rows {dto : AddCommentDto} {ticket : TicketEntity}
    {comment : TicketCommentEntity} {author : User} {u : Unit}
    (h : Yields env d s (addCommentWrites dto ticket comment author) u d' s') :
    CommentAdded s s' := by
  obtain ⟨_, _, s₁, hsave, h₁⟩ := yields_bind (inside_commentSave _) h
  obtain ⟨savedAt, rfl, -, hnew⟩ := yields_commentSave hsave
  obtain ⟨ticket', _, s₂, hreply, h₂⟩ := yields_bind (inside_replyStatus _ _) h₁
  obtain ⟨hkept, hthreads⟩ := yields_replyStatus_rows hreply
  obtain ⟨_, _, s₃, hactivity, h₃⟩ := yields_bind (inside_activityCreate _) h₂
  obtain ⟨activityAt, rfl, -⟩ := yields_activityCreate hactivity
  obtain ⟨_, _, s₄, hpublish, h₄⟩ := yields_bind (inside_publishAll _) h₃
  obtain ⟨htickets₄, hcomments₄⟩ := yields_publishAll_rows hpublish
  obtain ⟨htickets₅, hcomments₅⟩ := yields_publishAll_rows h₄
  have hall : s'.comments = s₂.comments ∧ s'.tickets = s₂.tickets :=
    ⟨hcomments₅.trans hcomments₄, htickets₅.trans htickets₄⟩
  refine ⟨⟨comment.row.storedAt savedAt, ?_, hnew⟩, ?_⟩
  · rw [hall.1, hkept]
    rfl
  · rw [hall.2, hthreads]
    rfl

theorem yields_createTicketWrites_added {dto : CreateTicketDto} {customer : Customer}
    {tenant : Tenant} {saved : Ticket}
    (h : Yields env d s (createTicketWrites dto customer tenant) saved d' s') :
    TicketAdded dto saved s s' := by
  obtain ⟨priority, id, n, today, createdAt, savedAt, activeAt, customerAt, activityAt, auditAt, d₁,
    u, -, -, hsaved, hnew, hpublish⟩ := yields_createTicketWrites_rows h
  obtain ⟨htickets, hcomments⟩ := yields_publishAll_rows hpublish
  obtain ⟨sequences, hnext⟩ := nextTicketNumber_sequences (s := s) dto.tenantId
  rw [hnext] at htickets hcomments
  subst hsaved
  exact ⟨htickets, hcomments, hnew, rfl, rfl⟩

/-- `createTicket` has added its ticket when it comes past its commit, and nothing when it
does not. -/
theorem ends_createTicketSaved (dto : CreateTicketDto) :
    Ends env d s (fun saved _ s' => TicketAdded dto saved s s') (fun s' => s' = s)
      (createTicketSaved dto) := by
  simp only [createTicketSaved, CustomerRepository.findById]
  refine ends_read_bind (ends_lift_bind (fun customer _ => ?_) rfl) rfl
  refine ends_lift_bind (fun _ _ => ?_) rfl
  refine ends_read_bind (ends_lift_bind (fun tenant _ => ?_) rfl) rfl
  have hwrites : ∀ d', Ends env d' s (fun saved _ s' => TicketAdded dto saved s s')
      (fun s' => s' = s) (inTransaction (createTicketWrites dto customer tenant)) := fun d' =>
    ends_transaction (inside_createTicketWrites _ _ _)
      (fun saved _ _ hy => yields_createTicketWrites_added hy) rfl
  cases dto.assignedAgentId with
  | none => exact hwrites _
  | some agentId =>
    simp only [discard, Functor.discard, LawfulFunctor.map_const, Function.comp_apply,
      map_eq_pure_bind, bind_assoc, pure_bind, findAssignableAgentOrThrow]
    exact ends_read_bind (ends_lift_bind (fun _ _ => hwrites _) rfl) rfl

theorem ends_addCommentSaved (dto : AddCommentDto) :
    Ends env d s (fun _ _ s' => CommentAdded s s') (fun s' => s' = s) (addCommentSaved dto) := by
  simp only [addCommentSaved, getTicketOrThrow, TicketRepository.findById, bind_assoc, pure_bind]
  refine ends_read_bind (ends_lift_bind (fun ticket _ => ?_) rfl) rfl
  refine ends_read_bind (ends_lift_bind (fun author _ => ?_) rfl) rfl
  refine ends_lift_bind (fun _ _ => ?_) rfl
  refine ends_draw_bind (ends_draw_bind (ends_draw_bind ?_))
  refine Ends.bind (ends_transaction (inside_addCommentWrites _ _ _ _)
    (fun _ _ _ hy => yields_addCommentWrites_rows hy) rfl) fun _ _ _ hadded => ?_
  exact ends_pure hadded

/-- A call of the ticket service as one step: it has come past its commit, or it threw and
wrote nothing. -/
theorem commit_cases {α : Type} {work : ServiceM α} {faults : Nat → Fault} {text : String}
    {next : α → InboundCall} {t t' : InboundStore} {call : InboundCall}
    {Q : α → Nat → Store → Prop} (he : Ends env 0 t.store Q (fun s' => s' = t.store) work)
    (h : commit work env faults text next t = some (t', call)) :
    (∃ a d', Q a d' t'.store ∧ call = next a) ∨ (t' = t ∧ ∃ message, call = .threw message) := by
  obtain ⟨hreturns, hstops, -⟩ := he faults (World.start t.store) rfl rfl rfl
  simp only [commit] at h
  cases hr : work.run env faults (World.start t.store) with
  | mk outcome w =>
    rw [hr] at h hreturns hstops
    cases outcome with
    | ok a =>
      cases h
      exact Or.inl ⟨a, w.draws, hreturns a rfl, rfl⟩
    | error x =>
      cases h
      have hsame : w.committed = t.store := hstops rfl
      exact Or.inr ⟨by rw [hsame], _, rfl⟩
    | crashed => cases h

end OmniSupport.Messaging
