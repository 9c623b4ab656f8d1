import OmniSupport.Tenancy.NoteScope
import OmniSupport.Tenancy.TenantIsolation
import OmniSupport.Ticket.TicketAtomicity

/-! The calls that add, edit or delete an internal note: whichever it is, it leaves one activity on
the ticket, and besides it only what is about the note. -/
namespace OmniSupport.Tenancy
open Foundation Effect Database Table Ticketing TicketService

section changes
variable {A ticketId : Uuid} {env : ServiceEnv} {s s₁ : Store}

/-- The comment that the call names is an internal note of the ticket. -/
def namesNote (A ticketId commentId tenantId : Uuid) (s : Store) : Bool :=
  (s.findComment commentId tenantId).any (isNote A ticketId)

/-- The call adds, edits or deletes an internal note of the ticket. -/
def TenantCall.isNoteCall (A ticketId : Uuid) (s : Store) : TenantCall → Bool
  | .addComment dto => dto.tenantId = A && dto.ticketId = ticketId && dto.type = .internalNote
  | .editComment dto => namesNote A ticketId dto.commentId dto.tenantId s
  | .deleteComment dto => namesNote A ticketId dto.commentId dto.tenantId s
  | _ => false

/-- What a call on a note leaves: the ticket is there, and has one activity more. -/
def NoteChanged (A ticketId : Uuid) (s s₁ : Store) : Prop :=
  (s.findTicket ticketId A).isSome ∧
    ((s.comments.map TicketComment.id).Nodup → NotesApart A ticketId 1 0 s₁ s)

theorem namesNote_iff {commentId tenantId : Uuid} {comment : TicketComment}
    (h : namesNote A ticketId commentId tenantId s = true)
    (hfound : s.findComment commentId tenantId = some comment) :
    isNote A ticketId comment = true ∧ comment.ticketId = ticketId ∧ tenantId = A := by
  rw [namesNote, hfound] at h
  have hnote : isNote A ticketId comment = true := h
  have howner := (mem_of_find?_owned hfound).2.2
  simp only [isNote, Bool.and_eq_true, decide_eq_true_eq] at hnote
  refine ⟨h, hnote.1.2, howner.symm.trans hnote.1.1⟩

/-- An activity of the ticket beside a change of its notes. -/
theorem noteChanged_of (activity : ActivityLog) (rows : List (Outbox.OutboxEvent EventBody))
    (hticket : (s.findTicket ticketId A).isSome)
    (hrest : otherTables s₁ = otherTables s)
    (hcomments : (s.comments.map TicketComment.id).Nodup →
      SameView (fun comment => !isNote A ticketId comment) s₁.comments s.comments ∧
        (s₁.comments.map TicketComment.id).Nodup)
    (hactivity : onTicket A ticketId activity = true)
    (hactivities : s₁.activities = s.activities ++ [activity])
    (houtbox : s₁.outbox = s.outbox ++ rows)
    (hrows : ∀ row ∈ rows, isNoteEvent A ticketId row.payload = true) :
    NoteChanged A ticketId s s₁ := by
  refine ⟨hticket, fun hkeys => ⟨hrest, (hcomments hkeys).1, (hcomments hkeys).2, hkeys, ?_, ?_⟩⟩
  · rw [hactivities, List.countP_append, List.countP_singleton, if_pos hactivity]
  · rw [houtbox]
    exact (SameView.refl _ s.outbox).append_hidden fun row hrow => by simp [hrows row hrow]

theorem atomic_addNote (hfresh : FreshIds env s) {dto : AddCommentDto}
    (hnote : (TenantCall.addComment dto).isNoteCall A ticketId s = true) :
    Atomic env 0 s (NoteChanged A ticketId s) (addComment dto) := by
  obtain ⟨⟨rfl, rfl⟩, htype⟩ : (dto.tenantId = A ∧ dto.ticketId = ticketId) ∧
      dto.type = .internalNote := by
    simpa [TenantCall.isNoteCall] using hnote
  refine atomic_addComment_of fun row author u d' s' hticket _ hinternal hy => ?_
  have hstaff : ¬ (dto.authorRole = .customer ∧ row.status = .pendingCustomer) :=
    fun h => hinternal ⟨h.1, htype⟩
  obtain ⟨_, _, _, hsave, -⟩ := yields_bind (inside_commentSave _) hy
  obtain ⟨-, -, -, hnew⟩ := yields_commentSave hsave
  obtain ⟨savedAt, writtenAt, activityAt, ⟨rows, hrows, rfl⟩, -, -⟩ :=
    yields_addCommentWrites_plain hy hfresh rfl hstaff
  refine noteChanged_of (commentActivity dto (env.uuid 0) author activityAt) rows
    (by rw [hticket]; rfl) rfl (fun hkeys => ⟨?_, nodup_insert hkeys hnew⟩) ?_ rfl rfl ?_
  · refine (SameView.refl _ s.comments).append_hidden fun comment hcomment => ?_
    rw [List.mem_singleton.mp hcomment]
    simp [isNote, TicketComment.storedAt, TicketCommentEntity.create, commentProps, htype]
  · simp [onTicket, commentActivity, activity]
  · cases hrows with
    | cons hrow hnone =>
      cases hnone
      intro row hmem
      obtain ⟨_, _, rfl⟩ := hrow
      rw [List.mem_singleton.mp hmem]
      simp [Outbox.toCreateInput, DomainEvent.toPayload, EventHeader.event, isNoteEvent,
        commentProps, htype]

/-- With unique ids the rows that are written are the note. -/
theorem eq_of_findComment {commentId tenantId : Uuid} {comment : TicketComment}
    (hkeys : (s.comments.map TicketComment.id).Nodup)
    (hfound : s.findComment commentId tenantId = some comment) :
    ∀ row ∈ s.comments, row.id = commentId → row = comment := by
  obtain ⟨hmem, hid, -⟩ := mem_of_find?_owned hfound
  exact fun row hrow hrowId =>
    List.inj_on_of_nodup_map hkeys hrow hmem (hrowId.trans hid.symm)

theorem atomic_editNote {dto : EditCommentDto}
    (hnote : (TenantCall.editComment dto).isNoteCall A ticketId s = true) :
    Atomic env 0 s (NoteChanged A ticketId s) (editComment dto) := by
  refine atomic_read_bind (atomic_orThrow fun comment hfound => ?_)
  refine atomic_require fun _ => ?_
  refine atomic_getTicketOrThrow fun ticket hticket => ?_
  refine atomic_require fun _ => ?_
  refine atomic_draw_bind ?_
  refine atomic_lift_bind fun edited hedited => ?_
  obtain ⟨hcomment, hticketId, hA⟩ := namesNote_iff hnote hfound
  have hrow : edited.row.id = comment.id ∧ edited.row.type = comment.type ∧
      edited.row.ticketId = comment.ticketId := by
    unfold TicketCommentEntity.edit at hedited
    split at hedited
    · cases hedited
    · cases hedited
      exact ⟨rfl, rfl, rfl⟩
  refine atomic_inTransaction (inside_editCommentWrites _ _) fun u d' s' hy => ?_
  obtain ⟨_, _, _, hupdate, h₁⟩ := yields_bind (inside_commentUpdate _) hy
  obtain ⟨writtenAt, rfl, -⟩ := yields_commentUpdate hupdate
  obtain ⟨_, _, _, hactivity, h₂⟩ := yields_bind (inside_activityCreate _) h₁
  obtain ⟨activityAt, rfl, -⟩ := yields_activityCreate hactivity
  obtain ⟨-, -, rfl⟩ := yields_pure h₂
  refine noteChanged_of (editedActivity dto edited.row activityAt) [] ?_ rfl
    (fun hkeys => ⟨?_, ?_⟩) ?_ rfl (List.append_nil _).symm ?_
  · rw [← hticketId, ← hA, hticket]
    rfl
  · refine (SameView.refl _ s.comments).updateMany_hidden fun row hmem hid => ?_
    have hsame : row = comment :=
      eq_of_findComment hkeys hfound row hmem (hid.trans (hrow.1.trans
        (mem_of_find?_owned hfound).2.1))
    have hwritten : isNote A ticketId (TicketComment.write writtenAt edited.row row) = true := by
      rw [hsame]
      simpa [isNote, TicketComment.write, hrow.2.1] using hcomment
    simp [hsame ▸ hcomment, hwritten]
  · exact nodup_updateComment writtenAt edited.row hkeys
  · simp [onTicket, editedActivity, activity, hrow.2.2, hticketId, hA]
  · exact fun row hmem => absurd hmem List.not_mem_nil

theorem atomic_deleteNote {dto : DeleteCommentDto}
    (hnote : (TenantCall.deleteComment dto).isNoteCall A ticketId s = true) :
    Atomic env 0 s (NoteChanged A ticketId s) (deleteComment dto) := by
  refine atomic_read_bind (atomic_orThrow fun comment hfound => ?_)
  refine atomic_require fun _ => ?_
  refine atomic_getTicketOrThrow fun ticket hticket => ?_
  refine atomic_require fun _ => ?_
  obtain ⟨hcomment, hticketId, hA⟩ := namesNote_iff hnote hfound
  refine atomic_inTransaction (inside_deleteCommentWrites _ _) fun u d' s' hy => ?_
  obtain ⟨_, _, _, hdelete, h₁⟩ := yields_bind (inside_commentDelete _ _) hy
  obtain ⟨rfl, -⟩ := yields_commentDelete hdelete
  obtain ⟨activityAt, rfl, -⟩ := yields_activityCreate h₁
  refine noteChanged_of (deletedActivity dto comment activityAt) [] ?_ rfl
    (fun hkeys => ⟨?_, ?_⟩) ?_ rfl (List.append_nil _).symm ?_
  · rw [← hticketId, ← hA, hticket]
    rfl
  · refine (SameView.refl _ s.comments).deleteMany_hidden fun row hmem hrow => ?_
    rw [eq_of_findComment hkeys hfound row hmem hrow.1]
    simp [hcomment]
  · exact hkeys.sublist (List.filter_sublist.map TicketComment.id)
  · simp [onTicket, deletedActivity, activity, hticketId, hA]
  · exact fun row hmem => absurd hmem List.not_mem_nil

theorem atomic_noteCall (hfresh : FreshIds env s) {call : TenantCall}
    (hnote : call.isNoteCall A ticketId s = true) :
    Atomic env 0 s (NoteChanged A ticketId s) call.perform := by
  cases call with
  | addComment dto => exact atomic_addNote hfresh hnote
  | editComment dto => exact atomic_editNote hnote
  | deleteComment dto => exact atomic_deleteNote hnote
  | _ => cases hnote

end changes
end OmniSupport.Tenancy
