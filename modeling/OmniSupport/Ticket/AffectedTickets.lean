import OmniSupport.Ticket.LifecycleSerial
import OmniSupport.Ticket.ReadPaths
import OmniSupport.Ticket.TicketAtomicity

/-! The tickets a write affects: each call of the ticket service affects at most the one
ticket it is about. -/
namespace OmniSupport.Ticketing
open Foundation Database Effect Outbox TicketService

/-- The history of a ticket. -/
def historyOf (ticketId : Uuid) (s : Store) : List ActivityLog :=
  s.activities.filter fun a => a.ticketId = some ticketId

/-- A comment that stands in one of the stores only was added, edited or deleted. -/
def CommentChanged (s s' : Store) (comment : TicketComment) : Prop :=
  ¬ (comment ∈ s'.comments ↔ comment ∈ s.comments)

/-- An attachment the store did not have. -/
def NewAttachment (s s' : Store) (attachment : Attachment) : Prop :=
  attachment ∈ s'.attachments ∧ ∀ a ∈ s.attachments, a.id ≠ attachment.id

/-- The ticket was changed, one of its comments was, its history tells so, or a file was
attached to it or to one of its comments. -/
inductive Affected (s s' : Store) (ticket : Ticket) : Prop
  | changed (h : ticket ∉ s'.tickets)
  | commented (comment : TicketComment) (hid : comment.ticketId = ticket.id)
      (h : CommentChanged s s' comment)
  | recorded (h : historyOf ticket.id s' ≠ historyOf ticket.id s)
  | attached (attachment : Attachment) (h : NewAttachment s s' attachment)
      (hid : attachment.ticketId = some ticket.id)
  | attachedToComment (attachment : Attachment) (comment : TicketComment)
      (h : NewAttachment s s' attachment) (hcomment : comment ∈ s.comments)
      (hlink : attachment.commentId = some comment.id) (hid : comment.ticketId = ticket.id)

/-- Everything about the other tickets is as it was. -/
structure TouchesOnly (ticketId : Uuid) (s s' : Store) : Prop where
  tickets : ∀ ticket ∈ s.tickets, ticket.id ≠ ticketId → ticket ∈ s'.tickets
  comments : ∀ comment, comment.ticketId ≠ ticketId →
    (comment ∈ s'.comments ↔ comment ∈ s.comments)
  history : ∀ id, id ≠ ticketId → historyOf id s' = historyOf id s
  attachments : ∀ attachment, ¬ NewAttachment s s' attachment

variable {env : ServiceEnv} {s s' : Store} {ticketId : Uuid} {ticket : Ticket}

theorem TouchesOnly.affected (h : TouchesOnly ticketId s s') (hm : ticket ∈ s.tickets)
    (haffected : Affected s s' ticket) : ticket.id = ticketId := by
  by_contra hother
  cases haffected with
  | changed hno => exact hno (h.tickets ticket hm hother)
  | commented comment hid hchanged => exact hchanged (h.comments comment (hid ▸ hother))
  | recorded hrecorded => exact hrecorded (h.history ticket.id hother)
  | attached attachment hnew hid => exact h.attachments attachment hnew
  | attachedToComment attachment comment hnew hcomment hlink hid =>
    exact h.attachments attachment hnew

/-- What a change of the store does to the rows of one ticket only. -/
structure Change.Only (change : Change) (ticketId : Uuid) (s : Store) : Prop where
  tickets : ∀ ticket ∈ s.tickets, ticket.id ≠ ticketId → ticket ∈ (change.rows s).tickets
  comments : ∀ comment, comment.ticketId ≠ ticketId →
    (comment ∈ (change.rows s).comments ↔ comment ∈ s.comments)
  attachments : ∀ attachment ∈ (change.rows s).attachments, ∃ a ∈ s.attachments,
    a.id = attachment.id
  activities : ∀ a ∈ change.activities, a.ticketId = some ticketId

theorem Change.Only.touches {change : Change} (h : change.Only ticketId s)
    (hcommitted : CommittedWith change s s') : TouchesOnly ticketId s s' := by
  obtain ⟨rows, -, rfl⟩ := hcommitted.store
  refine ⟨h.tickets, h.comments, fun id hother => ?_, fun attachment hnew => ?_⟩
  · have hnone : change.activities.filter (fun a => a.ticketId = some id) = [] := by
      rw [List.filter_eq_nil_iff]
      intro a ha
      rw [h.activities a ha]
      simpa using Ne.symm hother
    simp only [historyOf, List.filter_append, hnone, List.append_nil]
  · obtain ⟨a, ha, hid⟩ := h.attachments attachment hnew.1
    exact hnew.2 a ha hid

theorem updateTicket_only {f : Ticket → Ticket} (hm : ticket ∈ s.tickets)
    (hother : ticket.id ≠ ticketId) : ticket ∈ (s.updateTicket ticketId f).tickets :=
  Table.mem_updateMany.mpr (Or.inr ⟨hm, hother⟩)

/-- A write of the ticket alone. -/
theorem ticketRows_only {change : Change} {f : Ticket → Ticket}
    (hrows : change.rows s = s.updateTicket ticketId f)
    (hactivities : ∀ a ∈ change.activities, a.ticketId = some ticketId) :
    change.Only ticketId s where
  tickets ticket hm hother := by
    rw [hrows]
    exact updateTicket_only hm hother
  comments comment _ := by
    rw [hrows]
    exact Iff.rfl
  attachments attachment ha := by
    rw [hrows] at ha
    exact ⟨attachment, ha, rfl⟩
  activities := hactivities

/-- A write of a comment that leaves its ticket alone. -/
theorem commentRows_only {change : Change} {comment : TicketComment}
    {f : TicketComment → TicketComment} (hkeys : (s.comments.map TicketComment.id).Nodup)
    (hm : comment ∈ s.comments) (hf : ∀ row, (f row).ticketId = row.ticketId)
    (hrows : change.rows s = s.updateComment comment.id f)
    (hactivities : ∀ a ∈ change.activities, a.ticketId = some comment.ticketId) :
    change.Only comment.ticketId s where
  tickets ticket hm hother := by
    rw [hrows]
    exact hm
  comments row hother := by
    have hsame : ∀ row ∈ s.comments, row.id = comment.id → row = comment := fun row hrow hid =>
      List.inj_on_of_nodup_map hkeys hrow hm hid
    rw [hrows, Store.updateComment, Table.mem_updateMany]
    constructor
    · rintro (⟨row', hrow', hid, rfl⟩ | ⟨hrow, -⟩)
      · rw [hsame row' hrow' hid, hf] at hother
        exact absurd rfl hother
      · exact hrow
    · intro hrow
      refine Or.inr ⟨hrow, fun hid => ?_⟩
      rw [hsame row hrow hid] at hother
      exact absurd rfl hother
  attachments attachment ha := by
    rw [hrows] at ha
    exact ⟨attachment, ha, rfl⟩
  activities := hactivities

theorem deleteComment_only {change : Change} {comment : TicketComment} (tenantId : Uuid)
    (hkeys : (s.comments.map TicketComment.id).Nodup) (hm : comment ∈ s.comments)
    (hrows : change.rows s = s.deleteComment comment.id tenantId)
    (hactivities : ∀ a ∈ change.activities, a.ticketId = some comment.ticketId) :
    change.Only comment.ticketId s where
  tickets ticket hm hother := by
    rw [hrows]
    exact hm
  comments row hother := by
    rw [hrows, Store.deleteComment, Table.mem_deleteMany]
    refine ⟨fun h => h.1, fun hrow => ⟨hrow, fun hdeleted => ?_⟩⟩
    rw [List.inj_on_of_nodup_map hkeys hrow hm hdeleted.1] at hother
    exact absurd rfl hother
  attachments attachment ha := by
    rw [hrows] at ha
    rcases Table.mem_updateMany.mp ha with ⟨a, ha', -, rfl⟩ | ⟨ha', -⟩
    · exact ⟨a, ha', rfl⟩
    · exact ⟨attachment, ha', rfl⟩
  activities := hactivities

theorem findComment_some {comment : TicketComment} {id tenantId : Uuid}
    (h : s.findComment id tenantId = some comment) :
    comment ∈ s.comments ∧ comment.id = id ∧ comment.tenantId = tenantId := by
  have hcond := List.find?_some h
  rw [decide_eq_true_eq] at hcond
  exact ⟨List.mem_of_find?_eq_some h, hcond⟩

/-- The ticket a call writes on: the one it names, or the one of its comment. -/
def commandTicket (s : Store) : TicketCommand → Option Uuid
  | .createTicket _ => none
  | .updateTicket dto => some dto.ticketId
  | .assignTicket dto => some dto.ticketId
  | .changeStatus dto => some dto.ticketId
  | .escalateTicket dto => some dto.ticketId
  | .addComment dto => some dto.ticketId
  | .editComment dto => (s.findComment dto.commentId dto.tenantId).map TicketComment.ticketId
  | .deleteComment dto => (s.findComment dto.commentId dto.tenantId).map TicketComment.ticketId

theorem commented_only {dto : AddCommentDto} {comment : TicketCommentEntity} {author : User}
    {reply : Option TicketEntity} {savedAt writtenAt activityAt : Time}
    (hcomment : comment.row.ticketId = dto.ticketId)
    (hreply : ∀ ticket, reply = some ticket → ticket.row.id = dto.ticketId) :
    (commentedChange dto comment author reply savedAt writtenAt activityAt).Only dto.ticketId
      s where
  tickets ticket hm hother := by
    cases reply with
    | none => exact hm
    | some moved => exact updateTicket_only hm (hreply moved rfl ▸ hother)
  comments row hother := by
    have hinsert : row ∈ (s.insertComment (TicketComment.storedAt savedAt comment.row)).comments ↔
        row ∈ s.comments := by
      rw [Store.insertComment, List.mem_append, List.mem_singleton]
      refine or_iff_left fun he => ?_
      rw [he] at hother
      exact hother hcomment
    cases reply with
    | none => exact hinsert
    | some moved => exact hinsert
  attachments attachment ha := by
    cases reply with
    | none => exact ⟨attachment, ha, rfl⟩
    | some moved => exact ⟨attachment, ha, rfl⟩
  activities a ha := by
    rw [List.mem_singleton.mp ha]
    rfl

/-- Every call of the ticket service writes on one ticket only. -/
theorem performs_only {command : TicketCommand} {change : Change}
    (hkeys : (s.comments.map TicketComment.id).Nodup) (h : Performs env s command change)
    (hcommand : commandTicket s command = some ticketId) : change.Only ticketId s := by
  cases h with
  | createTicket => cases hcommand
  | updateTicket dto row updated writtenAt activityAt auditAt hticket hactive hupdated =>
    obtain rfl : dto.ticketId = ticketId := Option.some.inj hcommand
    have hid : updated.row.id = dto.ticketId :=
      (updatedEntity_keeps hupdated).id.trans (findTicket_some hticket).2.1
    rw [← hid]
    refine ticketRows_only rfl fun a ha => ?_
    simp only [updatedChange] at ha
    split at ha
    · cases ha
    · rw [List.mem_singleton.mp ha, hid]
      rfl
  | assignTicket dto row agent n assignedAt writtenAt activityAt auditAt hticket hagent hpolicy =>
    obtain rfl : dto.ticketId = ticketId := Option.some.inj hcommand
    rw [← (findTicket_some hticket).2.1]
    refine ticketRows_only rfl fun a ha => ?_
    rw [List.mem_singleton.mp ha, (findTicket_some hticket).2.1]
    rfl
  | changeStatus dto row newStatus moved n m movedAt writtenAt activityAt auditAt hticket hstatus
      hnm hmoved =>
    obtain rfl : dto.ticketId = ticketId := Option.some.inj hcommand
    have hid : moved.row.id = dto.ticketId :=
      (movedEntity_progresses hmoved).id.trans (findTicket_some hticket).2.1
    rw [← hid]
    refine ticketRows_only rfl fun a ha => ?_
    rw [List.mem_singleton.mp ha, hid]
    rfl
  | escalateTicket dto row escalated n escalatedAt loggedAt writtenAt activityAt auditAt hticket
      hpolicy hescalated =>
    obtain rfl : dto.ticketId = ticketId := Option.some.inj hcommand
    have hid : escalated.row.id = dto.ticketId :=
      (escalate_progresses hescalated).id.trans (findTicket_some hticket).2.1
    rw [← hid]
    refine ticketRows_only rfl fun a ha => ?_
    rw [List.mem_singleton.mp ha, hid]
    rfl
  | addComment dto row author commentId n createdAt savedAt writtenAt activityAt =>
    obtain rfl : dto.ticketId = ticketId := Option.some.inj hcommand
    exact commented_only rfl fun ticket hnone => by cases hnone
  | addReply dto row author moved commentId n m createdAt savedAt movedAt writtenAt activityAt
      hticket hauthor hinternal hreply hnm hmoved =>
    obtain rfl : dto.ticketId = ticketId := Option.some.inj hcommand
    refine commented_only rfl fun ticket hsome => ?_
    cases hsome
    exact (changeStatus_progresses hmoved).1.id.trans (findTicket_some hticket).2.1
  | editComment dto row ticket edited editedAt writtenAt activityAt hcomment hauthor hticket
      hactive hedited =>
    simp only [commandTicket, hcomment, Option.map_some, Option.some.injEq] at hcommand
    subst hcommand
    obtain ⟨hid, hticketId⟩ : edited.row.id = row.id ∧ edited.row.ticketId = row.ticketId := by
      simp only [TicketCommentEntity.edit] at hedited
      split at hedited
      · cases hedited
      · cases hedited
        exact ⟨rfl, rfl⟩
    refine commentRows_only (f := TicketComment.write writtenAt edited.row) hkeys
      (findComment_some hcomment).1 (fun _ => rfl) ?_ fun a ha => ?_
    · rw [← hid]
    · rw [List.mem_singleton.mp ha, ← hticketId]
      rfl
  | deleteComment dto row ticket activityAt hcomment hallowed hticket hactive =>
    simp only [commandTicket, hcomment, Option.map_some, Option.some.injEq] at hcommand
    subst hcommand
    refine deleteComment_only dto.tenantId hkeys (findComment_some hcomment).1 ?_
      fun a ha => ?_
    · rw [(findComment_some hcomment).2.1]
    · rw [List.mem_singleton.mp ha]
      rfl

/-- A create writes on its new ticket only. -/
theorem created_touches {dto : CreateTicketDto} (h : CreatedAs env s dto s') :
    ∃ id, (∀ t ∈ s.tickets, t.id ≠ id) ∧ TouchesOnly id s s' := by
  obtain ⟨customer, tenant, priority, id, n, createdAt, savedAt, activeAt, customerAt, activityAt,
    auditAt, hnew, -, hcommitted⟩ := h
  obtain ⟨sequences, hnext⟩ := nextTicketNumber_sequences (s := s) dto.tenantId
  have htickets : (s.nextTicketNumber dto.tenantId).2.tickets = s.tickets := by rw [hnext]
  have hcomments : (s.nextTicketNumber dto.tenantId).2.comments = s.comments := by rw [hnext]
  have hattachments : (s.nextTicketNumber dto.tenantId).2.attachments = s.attachments := by
    rw [hnext]
  refine ⟨id, hnew, Change.Only.touches ⟨fun ticket hm _ => ?_, fun comment _ => ?_,
    fun attachment ha => ?_, fun a ha => ?_⟩ hcommitted⟩
  · refine List.mem_append_left _ ?_
    rw [htickets]
    exact hm
  · rw [← hcomments]
    exact Iff.rfl
  · refine ⟨attachment, ?_, rfl⟩
    rw [← hattachments]
    exact ha
  · rw [List.mem_singleton.mp ha]
    rfl

end OmniSupport.Ticketing
