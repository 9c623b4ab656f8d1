import OmniSupport.Ticket.AffectedTickets
import OmniSupport.Ticket.TicketRequests

/-! Which requests write on tickets that their caller may not see: only those that edit or
delete a comment by its id. -/
namespace OmniSupport.Ticketing
open Foundation Database Effect TicketService Attachments

variable {env : ServiceEnv} {s s' : Store} {user : RequestUser} {tenantId : Uuid}
  {files : FileServices}

/-- The organization the caller acts in. -/
structure InContext (user : RequestUser) (s : Store) (tenantId : Uuid) : Prop where
  role : user.role ≠ .platformAdmin
  organization : user.tenantId = some tenantId
  active : ∃ tenant, s.findTenant tenantId = some tenant ∧ assertTenantActive tenant = .ok ()

/-- Every ticket affected is one the caller may see. -/
def OnVisible (user : RequestUser) (tenantId : Uuid) (s s' : Store) : Prop :=
  ∀ ticket ∈ s.tickets, Affected s s' ticket → Visible (toActor user tenantId) s ticket

theorem TouchesOnly.onVisible {ticket : Ticket} (h : TouchesOnly ticket.id s s')
    (hkeys : (s.tickets.map Ticket.id).Nodup)
    (hvisible : Visible (toActor user tenantId) s ticket) : OnVisible user tenantId s s' := by
  intro affected hm haffected
  have hid := h.affected hm haffected
  rw [List.inj_on_of_nodup_map hkeys hm hvisible.1 hid]
  exact hvisible

theorem TouchesOnly.onVisible_of_new {ticketId : Uuid} (h : TouchesOnly ticketId s s')
    (hnew : ∀ ticket ∈ s.tickets, ticket.id ≠ ticketId) : OnVisible user tenantId s s' := by
  intro affected hm haffected
  exact absurd (h.affected hm haffected) (hnew affected hm)

/-- The caller wrote the comment the request names, which stands on an active ticket that
they may not see. -/
structure OnHidden (user : RequestUser) (tenantId commentId : Uuid) (s : Store) : Prop where
  context : InContext user s tenantId
  hidden : ∃ comment ticket, s.findComment commentId tenantId = some comment ∧
    comment.authorId = user.id ∧ s.findTicket comment.ticketId tenantId = some ticket ∧
    ticket.status.isActive = true ∧
    TicketAccessPolicy.canView (viewerOf (toActor user tenantId) s) ticket = false

/-- The comment a request names without its ticket. No comment is edited to blank. -/
def namedComment : TicketRequest → Option Uuid
  | .editComment commentId content => if JsText.trim content = "" then none else some commentId
  | .deleteComment commentId => some commentId
  | _ => none

/-- The request edits or deletes a comment of its caller on a ticket hidden from them. -/
def HiddenWrite (user : RequestUser) (request : TicketRequest) (s : Store) : Prop :=
  ∃ tenantId commentId, namedComment request = some commentId ∧
    OnHidden user tenantId commentId s

section guards
variable {d : Nat} {Q : Store → Prop} {α β : Type}

theorem ends_tenantContext :
    Ends env d s (fun tenantId d' s' => InContext user s tenantId ∧ d' = d ∧ s' = s)
      (fun _ => True) (tenantContext user) := by
  unfold tenantContext
  split
  · exact ends_throw trivial
  · rename_i hrole
    cases htenantId : user.tenantId with
    | none => exact ends_throw trivial
    | some tenantId =>
      refine ends_read_bind ?_ trivial
      refine ends_lift_bind (fun tenant htenant => ?_) trivial
      refine ends_lift_bind (fun u hactive => ?_) trivial
      exact ends_pure ⟨⟨hrole, htenantId, tenant, orThrow_ok htenant, hactive⟩, rfl, rfl⟩

theorem ends_authorizeTicket {ticketId : Uuid} :
    Ends env d s (fun _ d' s' => (∃ ticket, ticket.id = ticketId ∧
        Visible (toActor user tenantId) s ticket) ∧ d' = d ∧ s' = s)
      (fun _ => True) (authorizeTicket user tenantId ticketId) := by
  have hguard : Answers env d d s
      (TicketAccessService.assertCanAccess (toActor user tenantId) ticketId) _ :=
    answers_assertCanAccess
  refine (hguard.ends.mono (fun _ _ _ h => h) fun _ _ => trivial).bind ?_
  rintro ticket d' s' ⟨hticket, rfl, rfl⟩
  obtain ⟨hfound, hview⟩ := guard_ok.mp hticket
  obtain ⟨hm, hid, htenant⟩ := findTicket_some hfound
  exact ends_pure ⟨⟨ticket, hid, hm, htenant, hview⟩, rfl, rfl⟩

theorem atomic_resolveViewer {actor : TicketActor} {g : TicketViewer → ServiceM β}
    (h : Atomic env d s Q (g (viewerOf actor s))) :
    Atomic env d s Q (TicketAccessService.resolveViewer actor >>= g) := by
  unfold TicketAccessService.resolveViewer
  by_cases hrole : actor.role = .customer
  · have hviewer : viewerOf actor s = ⟨actor.id, actor.role,
        (s.findCustomerLink actor.id actor.tenantId).map Auth.CustomerLink.customerId⟩ := by
      rw [viewerOf, if_pos hrole]
    rw [if_neg (not_not_intro hrole)]
    simp only [bind_assoc, pure_bind]
    refine atomic_read_bind ?_
    rw [← hviewer]
    exact h
  · have hviewer : viewerOf actor s = ⟨actor.id, actor.role, none⟩ := by
      rw [viewerOf, if_neg hrole]
    rw [if_pos hrole, ← hviewer]
    exact h

theorem atomic_authorizeTicket {ticketId : Uuid} {g : Unit → ServiceM β}
    (h : ∀ ticket, ticket.id = ticketId → Visible (toActor user tenantId) s ticket →
      Atomic env d s Q (g ())) :
    Atomic env d s Q (authorizeTicket user tenantId ticketId >>= g) := by
  simp only [authorizeTicket, TicketAccessService.assertCanAccess, TicketRepository.findById,
    bind_assoc, pure_bind]
  refine atomic_read_bind (atomic_orThrow fun ticket hticket => ?_)
  refine atomic_resolveViewer (atomic_require fun hview => ?_)
  obtain ⟨hm, hid, htenant⟩ := findTicket_some hticket
  exact h ticket hid ⟨hm, htenant, hview⟩

theorem atomic_requirePermission {permission : Identity.Permission} {g : Unit → ServiceM β}
    (h : Atomic env d s Q (g ())) :
    Atomic env d s Q (requirePermission user permission >>= g) := by
  simp only [requirePermission, bind_assoc]
  exact atomic_read_bind (atomic_require fun _ => h)

theorem atomic_ticketCustomer {body : CreateTicketBody} {g : Uuid → ServiceM β}
    (h : ∀ customerId, Atomic env d s Q (g customerId)) :
    Atomic env d s Q (TicketController.ticketCustomer user tenantId body >>= g) := by
  unfold TicketController.ticketCustomer
  split
  · simp only [TicketAccessService.requireOwnCustomerId, bind_assoc]
    exact atomic_resolveViewer (atomic_orThrow fun customerId _ => h customerId)
  · exact atomic_orThrow fun customerId _ => h customerId

end guards

section routes
variable (hfresh : FreshIds env s) (htickets : (s.tickets.map Ticket.id).Nodup)
  (hcomments : (s.comments.map TicketComment.id).Nodup)
include hfresh htickets hcomments

/-- A call that only performs on a ticket the caller may see. -/
theorem atomic_command {command : TicketCommand}
    (h : ∀ change, Performs env s command change → ∃ ticket,
      commandTicket s command = some ticket.id ∧ Visible (toActor user tenantId) s ticket) :
    Atomic env 0 s (OnVisible user tenantId s) (respond <$> perform command) := by
  refine ((atomic_perform hfresh command).mono fun s' hperformed => ?_).map _
  obtain ⟨change, hperforms, hcommitted⟩ := hperformed
  obtain ⟨ticket, hcommand, hvisible⟩ := h change hperforms
  have honly := performs_only hcomments hperforms hcommand
  exact (honly.touches hcommitted).onVisible htickets hvisible

theorem atomic_ticketRoute {ticketId : Uuid} {permission : Option Identity.Permission}
    {command : TicketCommand} (hcommand : commandTicket s command = some ticketId) :
    Atomic env 0 s (OnVisible user tenantId s)
      (ticketRoute user tenantId ticketId permission (respond <$> perform command)) := by
  refine atomic_authorizeTicket fun ticket hid hvisible => ?_
  have hhandler : Atomic env 0 s (OnVisible user tenantId s) (respond <$> perform command) :=
    atomic_command hfresh htickets hcomments fun _ _ => ⟨ticket, hid ▸ hcommand, hvisible⟩
  cases permission with
  | none => exact hhandler
  | some permission => exact atomic_requirePermission hhandler

omit htickets hcomments in
theorem atomic_create {body : CreateTicketBody} :
    Atomic env 0 s (OnVisible user tenantId s) (TicketController.create user tenantId body) := by
  refine atomic_ticketCustomer fun customerId => ?_
  refine Atomic.map (Atomic.map ((atomic_createTicket hfresh _).mono fun s' hcreated => ?_) _) _
  obtain ⟨id, hnew, htouches⟩ := created_touches hcreated
  exact htouches.onVisible_of_new hnew

/-- What a call by comment id leaves to be checked: the ticket of the comment is one the
caller may see. -/
theorem atomic_byComment {commentId : Uuid} {command : TicketCommand}
    (hcommand : commandTicket s command =
      (s.findComment commentId tenantId).map TicketComment.ticketId)
    (h : ∀ change, Performs env s command change → ∃ comment ticket,
      s.findComment commentId tenantId = some comment ∧
      s.findTicket comment.ticketId tenantId = some ticket ∧
      TicketAccessPolicy.canView (viewerOf (toActor user tenantId) s) ticket = true) :
    Atomic env 0 s (OnVisible user tenantId s) (respond <$> perform command) := by
  refine atomic_command hfresh htickets hcomments fun change hperforms => ?_
  obtain ⟨comment, ticket, hcomment, hticket, hview⟩ := h change hperforms
  obtain ⟨hm, hid, htenant⟩ := findTicket_some hticket
  refine ⟨ticket, ?_, hm, htenant, hview⟩
  rw [hcommand, hcomment, hid]
  rfl

theorem atomic_editComment_request {commentId : Uuid} {content : String}
    (hcontext : InContext user s tenantId)
    (hsafe : ¬ HiddenWrite user (.editComment commentId content) s) :
    Atomic env 0 s (OnVisible user tenantId s)
      (CommentController.update user tenantId commentId content) := by
  refine atomic_byComment hfresh htickets hcomments rfl fun change hperforms => ?_
  cases hperforms with
  | editComment _ comment ticket edited editedAt writtenAt activityAt hcomment hauthor hticket
      hactive hedited =>
    refine ⟨comment, ticket, hcomment, hticket, ?_⟩
    by_contra hview
    have hcontent : namedComment (.editComment commentId content) = some commentId := by
      by_cases hblank : JsText.trim content = ""
      · simp only [TicketCommentEntity.edit, if_pos hblank] at hedited
        cases hedited
      · exact if_neg hblank
    exact hsafe ⟨tenantId, commentId, hcontent, hcontext, comment, ticket, hcomment, hauthor,
      hticket, hactive, eq_false_of_ne_true hview⟩

theorem atomic_deleteComment_request {commentId : Uuid} (hcontext : InContext user s tenantId)
    (hsafe : ¬ HiddenWrite user (.deleteComment commentId) s) :
    Atomic env 0 s (OnVisible user tenantId s)
      (CommentController.delete user tenantId commentId) := by
  refine atomic_byComment hfresh htickets hcomments rfl fun change hperforms => ?_
  cases hperforms with
  | deleteComment _ comment ticket activityAt hcomment hallowed hticket hactive =>
    refine ⟨comment, ticket, hcomment, hticket, ?_⟩
    have hactive' : ticket.status.isActive = true := hactive.resolve_right hcontext.role
    rcases hallowed with hauthor | hadmin | hmanager
    · by_contra hview
      exact hsafe ⟨tenantId, commentId, rfl, hcontext, comment, ticket, hcomment, hauthor,
        hticket, hactive', eq_false_of_ne_true hview⟩
    · exact absurd hadmin hcontext.role
    · have hrole : (viewerOf (toActor user tenantId) s).role = .tenantManager := hmanager
      simp only [TicketAccessPolicy.canView, hrole]

end routes

section uploads
variable {d : Nat} {data : UploadAttachmentData}

/-- The ticket an upload is for: the one of its comment, or the one it names. -/
structure LinkedTo (data : UploadAttachmentData) (s : Store) (ticketId : Option Uuid) : Prop where
  named : ∀ id, data.ticketId = some id → ticketId = some id
  comment : ∀ id, data.commentId = some id → ∃ comment,
    s.findComment id data.tenantId = some comment ∧ ticketId = some comment.ticketId

theorem resolveComment_ok {found : Option TicketComment} {commentId ticketId : Uuid}
    (h : AttachmentService.resolveComment data found commentId = .ok ticketId) :
    ∃ comment, found = some comment ∧ comment.ticketId = ticketId ∧
      ∀ id, data.ticketId = some id → comment.ticketId = id := by
  cases found with
  | none => cases h
  | some comment =>
    simp only [AttachmentService.resolveComment] at h
    split at h
    · rename_i hsame
      cases h
      exact ⟨comment, rfl, rfl, hsame⟩
    · cases h

theorem ends_linkedTicketId :
    Ends env d s (fun ticketId d' s' => LinkedTo data s ticketId ∧ d' = d ∧ s' = s)
      (fun _ => True) (AttachmentService.linkedTicketId data) := by
  unfold AttachmentService.linkedTicketId
  cases hcomment : data.commentId with
  | none =>
    refine ends_pure ⟨⟨fun id hid => hid, fun id hid => ?_⟩, rfl, rfl⟩
    rw [hcomment] at hid
    cases hid
  | some commentId =>
    refine ends_read_bind (ends_lift_bind (fun ticketId hticketId => ?_) trivial) trivial
    obtain ⟨comment, hfound, rfl, hnamed⟩ := resolveComment_ok hticketId
    refine ends_pure ⟨⟨fun id hid => congrArg some (hnamed id hid), fun id hid => ?_⟩, rfl, rfl⟩
    rw [hcomment] at hid
    cases hid
    exact ⟨comment, hfound, rfl⟩

theorem ends_checkTicket {ticketId : Option Uuid} :
    Ends env d s (fun id d' s' => id = ticketId ∧ d' = d ∧ s' = s) (fun _ => True)
      (AttachmentService.checkTicket tenantId ticketId) := by
  cases ticketId with
  | none => exact ends_pure ⟨rfl, rfl, rfl⟩
  | some ticketId =>
    refine ends_read_bind (ends_lift_bind (fun ticket _ => ?_) trivial) trivial
    exact ends_pure ⟨rfl, rfl, rfl⟩

theorem ends_validate {options : AttachmentPolicyOptions} {filename mimeType : String}
    {content : Bytes} :
    Ends env d s (fun _ d' s' => d' = d ∧ s' = s) (fun _ => True)
      (AttachmentPolicyValidator.validate options filename mimeType content) := by
  have hscan : Ends env d s (fun _ d' s' => d' = d ∧ s' = s) (fun _ => True)
      (AttachmentPolicyValidator.scan options
        (AttachmentPolicyValidator.problems options mimeType content) content filename) := by
    unfold AttachmentPolicyValidator.scan
    split
    · exact ends_pure ⟨rfl, rfl⟩
    · split
      · exact ends_read ⟨rfl, rfl⟩ trivial
      · exact ends_pure ⟨rfl, rfl⟩
  refine hscan.bind ?_
  rintro antivirus d' s' ⟨rfl, rfl⟩
  exact ends_pure ⟨rfl, rfl⟩

/-- What an upload leaves: one attachment the store did not have. -/
structure Uploaded (data : UploadAttachmentData) (s : Store) (attachment : Attachment)
    (s' : Store) : Prop where
  inserted : s' = AttachmentService.insertAttachment attachment s
  new : ∀ a ∈ s.attachments, a.id ≠ attachment.id
  linked : LinkedTo data s attachment.ticketId
  onComment : attachment.commentId = data.commentId

theorem ends_uploadAttachment :
    Ends env d s (fun attachment _ s' => Uploaded data s attachment s') (fun _ => True)
      (AttachmentService.uploadAttachment files data) := by
  have hresolve : Ends env d s (fun ticketId d' s' => LinkedTo data s ticketId ∧ d' = d ∧ s' = s)
      (fun _ => True) (AttachmentService.resolveTicketId data) := by
    refine ends_linkedTicketId.bind ?_
    rintro linked d' s' ⟨hlinked, rfl, rfl⟩
    refine ends_checkTicket.mono ?_ fun _ _ => trivial
    rintro ticketId d' s' ⟨rfl, rfl, rfl⟩
    exact ⟨hlinked, rfl, rfl⟩
  refine hresolve.bind ?_
  rintro ticketId d' s' ⟨hlinked, rfl, rfl⟩
  refine ends_validate.bind ?_
  rintro result d' s' ⟨rfl, rfl⟩
  refine ends_lift_bind (fun u _ => ?_) trivial
  refine ends_read_bind ?_ trivial
  refine ends_draw_bind (ends_draw_bind ?_)
  refine ends_call (fun attachment s'' hinsert => ?_) trivial
  split at hinsert
  · cases hinsert
  · rename_i hnew
    cases hinsert
    exact ⟨rfl, fun a ha hid => hnew ⟨a, ha, hid⟩, hlinked, rfl⟩

theorem ends_authorizeNamed {ticketId : Option Uuid} :
    Ends env d s (fun _ d' s' => (∀ id, ticketId = some id → ∃ ticket, ticket.id = id ∧
        Visible (toActor user tenantId) s ticket) ∧ d' = d ∧ s' = s)
      (fun _ => True) (AttachmentController.authorizeNamed user tenantId ticketId) := by
  cases ticketId with
  | none =>
    refine ends_pure ⟨fun id hid => ?_, rfl, rfl⟩
    cases hid
  | some ticketId =>
    refine ends_authorizeTicket.mono (fun _ d' s' h => ⟨fun id hid => ?_, h.2⟩) fun _ _ => trivial
    cases hid
    exact h.1

/-- An upload affects the ticket it is linked to only. -/
theorem Uploaded.affected {attachment : Attachment} {ticket : Ticket}
    (h : Uploaded data s attachment s') (hcomments : (s.comments.map TicketComment.id).Nodup)
    (hm : ticket ∈ s.tickets) (haffected : Affected s s' ticket) :
    attachment.ticketId = some ticket.id := by
  obtain ⟨rfl, hnew, hlinked, honComment⟩ := h
  have hsame : ∀ a, NewAttachment s (AttachmentService.insertAttachment attachment s) a →
      a = attachment := by
    rintro a ⟨ha, hother⟩
    rcases List.mem_append.mp ha with hold | hnew
    · exact absurd rfl (hother a hold)
    · exact List.mem_singleton.mp hnew
  cases haffected with
  | changed hno => exact absurd hm hno
  | commented comment hid hchanged => exact absurd Iff.rfl hchanged
  | recorded hrecorded => exact absurd rfl hrecorded
  | attached a hnew' hid =>
    rw [← hsame a hnew']
    exact hid
  | attachedToComment a comment hnew' hcomment hlink hid =>
    rw [hsame a hnew', honComment] at hlink
    obtain ⟨found, hfound, hticketId⟩ := hlinked.comment comment.id hlink
    obtain ⟨hmem, hfoundId, -⟩ := findComment_some hfound
    rw [hticketId, ← hid, List.inj_on_of_nodup_map hcomments hmem hcomment hfoundId]

theorem ends_upload {body : UploadBody} (htickets : (s.tickets.map Ticket.id).Nodup)
    (hcomments : (s.comments.map TicketComment.id).Nodup) :
    Ends env d s (fun _ _ s' => OnVisible user tenantId s s') (fun _ => True)
      (AttachmentController.upload files user tenantId body) := by
  refine ends_authorizeNamed.bind ?_
  rintro u d' s₁ ⟨hnamed, rfl, rfl⟩
  refine ends_uploadAttachment.bind fun attachment d' s' huploaded => ?_
  refine ends_authorizeNamed.bind ?_
  rintro u d'' s₂ ⟨hafter, rfl, rfl⟩
  refine ends_pure fun ticket hm haffected => ?_
  have hid := huploaded.affected hcomments hm haffected
  -- the insert changes nothing the second check looks at
  obtain ⟨checked, hchecked, hvisible⟩ : ∃ checked, checked.id = ticket.id ∧
      Visible (toActor user tenantId) s₁ checked := by
    cases hbody : body.ticketId with
    | some id =>
      obtain rfl : id = ticket.id := by
        have hlink := huploaded.linked.named id hbody
        rw [hid] at hlink
        exact (Option.some.inj hlink).symm
      exact hnamed ticket.id hbody
    | none =>
      have hcheck := hafter ticket.id (by rw [hbody]; exact hid)
      rw [huploaded.inserted] at hcheck
      exact hcheck
  rw [← List.inj_on_of_nodup_map htickets hvisible.1 hm hchecked]
  exact hvisible

end uploads

end OmniSupport.Ticketing
