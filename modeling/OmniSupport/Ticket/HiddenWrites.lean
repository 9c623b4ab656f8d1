import OmniSupport.Ticket.WritesVisible

/-! Writes on tickets the caller may not see: a request makes one exactly when it edits or
deletes, by the id of the comment, what the caller once wrote on such a ticket. -/
namespace OmniSupport.Ticketing
open Foundation Database Effect TicketService Attachments

variable {env : ServiceEnv} {s : Store} {user : RequestUser} {tenantId : Uuid}
  {files : FileServices} {request : TicketRequest}

/-- Whenever the request succeeds, the caller may see every ticket it affected. -/
def WritesOnVisible (env : ServiceEnv) (files : FileServices) (user : RequestUser)
    (request : TicketRequest) (s : Store) : Prop :=
  ∀ faults reply, ((handle files user request).run env faults (World.start s)).1 = .ok reply →
    ∀ ticket ∈ s.tickets,
      Affected s ((handle files user request).run env faults (World.start s)).2.committed ticket →
      ∃ tenantId, user.tenantId = some tenantId ∧ Visible (toActor user tenantId) s ticket

section visible
variable (hfresh : FreshIds env s) (htickets : (s.tickets.map Ticket.id).Nodup)
  (hcomments : (s.comments.map TicketComment.id).Nodup)
include hfresh htickets hcomments

/-- Every route but the upload ends with one call of the ticket service. -/
theorem atomic_route (hcontext : InContext user s tenantId)
    (hsafe : ¬ HiddenWrite user request s) (hupload : ∀ body, request ≠ .upload body) :
    Atomic env 0 s (OnVisible user tenantId s) (route files user tenantId request) := by
  cases request with
  | create body => exact atomic_requirePermission (atomic_create hfresh)
  | update | assign | changeStatus | escalate | addComment =>
    simp only [route, TicketController.update, TicketController.assign,
      TicketController.changeStatus, TicketController.escalate, TicketController.addComment]
    exact atomic_ticketRoute hfresh htickets hcomments rfl
  | editComment commentId content =>
    exact atomic_editComment_request hfresh htickets hcomments hcontext hsafe
  | deleteComment commentId =>
    exact atomic_deleteComment_request hfresh htickets hcomments hcontext hsafe
  | upload body => exact absurd rfl (hupload body)

theorem route_onVisible {faults : Nat → Fault} {w : World Store ServiceCall} {reply : HttpReply}
    (hcontext : InContext user s tenantId) (hsafe : ¬ HiddenWrite user request s)
    (hw : w.working = none) (hd : w.draws = 0) (hs : w.committed = s)
    (hok : ((route files user tenantId request).run env faults w).1 = .ok reply) :
    OnVisible user tenantId s ((route files user tenantId request).run env faults w).2.committed := by
  by_cases hupload : ∃ body, request = .upload body
  · obtain ⟨body, rfl⟩ := hupload
    have hends : Ends env 0 s (fun _ _ s' => OnVisible user tenantId s s') (fun _ => True)
        (AttachmentController.upload files user tenantId body) := ends_upload htickets hcomments
    exact (hends faults w hw hd hs).returns reply hok
  · have hatomic : Atomic env 0 s (OnVisible user tenantId s) (route files user tenantId request) :=
      atomic_route hfresh htickets hcomments hcontext hsafe fun body h => hupload ⟨body, h⟩
    exact hatomic.returns hw hd hs hok

theorem writesOnVisible_of_not_hidden (hsafe : ¬ HiddenWrite user request s) :
    WritesOnVisible env files user request s := by
  intro faults reply hok ticket hm haffected
  have hcontext : Ends env 0 s (fun tenantId d' s' => InContext user s tenantId ∧ d' = 0 ∧ s' = s)
      (fun _ => True) (tenantContext user) := ends_tenantContext
  obtain ⟨tenantId, w, ⟨hin, hd, hs⟩, hw, hrun⟩ := hcontext.bind_ok rfl rfl rfl hok
  have hsame : (handle files user request).run env faults (World.start s) =
      (route files user tenantId request).run env faults w := hrun
  rw [hsame] at hok haffected
  exact ⟨tenantId, hin.organization,
    route_onVisible hfresh htickets hcomments hin hsafe hw hd hs hok ticket hm haffected⟩

end visible

section hidden
variable {faults : Nat → Fault} {n d : Nat}

theorem sequence_tenantContext (h : InContext user s tenantId) :
    Sequence (fun _ => ()) false faults env n d s [.strict] (tenantContext user)
      fun a _ s' => a = tenantId ∧ s' = s := by
  obtain ⟨hrole, horganization, tenant, htenant, hactive⟩ := h
  unfold tenantContext
  rw [if_neg hrole, horganization]
  refine sequence_read_outside.bind (fun _ _ _ _ => rfl) ?_
  rintro found d₁ s₁ ⟨rfl, -, rfl⟩
  refine (sequence_lift (a := tenant) (by rw [htenant]; rfl)).bind (fun _ _ _ _ => rfl) ?_
  rintro tenant' d₂ s₂ ⟨rfl, -, rfl⟩
  refine (sequence_lift hactive).bind (fun _ _ _ _ => rfl) ?_
  rintro u d₃ s₃ ⟨-, -, rfl⟩
  exact (sequence_pure tenantId).mono fun _ _ _ h => ⟨h.1, h.2.2⟩

theorem sequence_getTicketOrThrow {id : Uuid} {ticket : Ticket}
    (h : s.findTicket id tenantId = some ticket) :
    Sequence (fun _ => ()) false faults env n d s [.strict] (getTicketOrThrow id tenantId)
      fun a _ s' => a = .reconstitute ticket ∧ s' = s := by
  refine sequence_read_outside.bind (fun _ _ _ _ => rfl) ?_
  rintro found d₁ s₁ ⟨rfl, -, rfl⟩
  refine (sequence_lift (a := ticket) (by rw [h]; rfl)).bind (fun _ _ _ _ => rfl) ?_
  rintro row d₂ s₂ ⟨rfl, -, rfl⟩
  exact (sequence_pure _).mono fun _ _ _ h => ⟨h.1, h.2.2⟩

/-- The activity of a call, last in its transaction. -/
theorem sequence_recordActivity (entry : Time → ActivityLog) :
    Sequence (fun _ => ()) true faults env n d s [.strict] (ActivityRepository.create entry)
      fun _ _ s' => ∃ time, s' = s.insertActivity (entry time) := by
  refine (sequence_draw ServiceEnv.clock).bind (fun _ _ _ _ => rfl) ?_
  rintro time d₁ s₁ ⟨-, -, rfl⟩
  refine Sequence.mono (sequence_call (fun _ => rfl) rfl) ?_
  rintro u d₂ s₂ ⟨-, -, rfl⟩
  exact ⟨time, rfl⟩

/-- A new entry in the history of a ticket. -/
theorem historyOf_insertActivity {ticketId : Uuid} {s' : Store} {entry : ActivityLog}
    (hentry : entry.ticketId = some ticketId) (hsame : s'.activities = s.activities) :
    historyOf ticketId (s'.insertActivity entry) ≠ historyOf ticketId s := by
  have hgrown : historyOf ticketId (s'.insertActivity entry) = historyOf ticketId s ++ [entry] := by
    simp only [historyOf, Store.insertActivity, hsame, List.filter_append]
    rw [List.filter_cons_of_pos (by simp [hentry]), List.filter_nil]
  intro hequal
  have hlength := congrArg List.length (hgrown.symm.trans hequal)
  rw [List.length_append, List.length_singleton] at hlength
  omega

theorem sequence_editCommentWrites {dto : EditCommentDto} {comment : TicketCommentEntity}
    (hrow : ∃ row ∈ s.comments, row.id = comment.row.id) :
    Sequence (fun _ => ()) true faults env n d s [.strict, .strict] (editCommentWrites dto comment)
      fun _ _ s' =>
        historyOf comment.row.ticketId s' ≠ historyOf comment.row.ticketId s := by
  obtain ⟨stored, hstored⟩ :
      ∃ stored, s.comments.find? (fun row => row.id = comment.row.id) = some stored := by
    obtain ⟨row, hm, hid⟩ := hrow
    rw [← Option.isSome_iff_exists, List.find?_isSome]
    exact ⟨row, hm, decide_eq_true hid⟩
  have hupdate : Sequence (fun _ => ()) true faults env n d s [.strict]
      (CommentRepository.update comment.row) fun _ _ s' => s'.activities = s.activities := by
    refine (sequence_draw ServiceEnv.clock).bind (fun _ _ _ _ => rfl) ?_
    rintro now d₁ s₁ ⟨-, -, rfl⟩
    have hcall : CommentRepository.updateRow now comment.row s₁ =
        .ok (TicketComment.write now comment.row stored,
          s₁.updateComment comment.row.id (TicketComment.write now comment.row)) := by
      simp only [CommentRepository.updateRow, hstored]
    refine Sequence.mono (sequence_call (fun _ => rfl) hcall) ?_
    rintro updated d₂ s₂ ⟨-, -, rfl⟩
    rfl
  refine hupdate.bind (fun _ _ _ _ => rfl) fun updated d₁ s₁ hsame => ?_
  refine Sequence.bind_pure (Sequence.mono (sequence_recordActivity _) ?_)
  rintro u d₂ s₂ ⟨now, rfl⟩
  exact historyOf_insertActivity rfl hsame

theorem sequence_deleteCommentWrites {dto : DeleteCommentDto} {comment : TicketComment} :
    Sequence (fun _ => ()) true faults env n d s [.strict, .strict] (deleteCommentWrites dto comment)
      fun _ _ s' => historyOf comment.ticketId s' ≠ historyOf comment.ticketId s := by
  refine (sequence_call (fun _ => rfl) rfl).bind (fun _ _ _ _ => rfl) ?_
  rintro u d₁ s₁ ⟨-, -, rfl⟩
  refine Sequence.mono (sequence_recordActivity _) ?_
  rintro u d₂ s₂ ⟨now, rfl⟩
  exact historyOf_insertActivity rfl rfl

variable {comment : TicketComment} {ticket : Ticket}

/-- The calls of an edit or a deletion: two reads, two writes and the commit. -/
def byCommentStages : List Stage := [.strict, .strict, .strict, .strict, .strict]

theorem sequence_editComment {dto : EditCommentDto}
    (hcomment : s.findComment dto.commentId dto.tenantId = some comment)
    (hauthor : comment.authorId = dto.authorId)
    (hticket : s.findTicket comment.ticketId dto.tenantId = some ticket)
    (hactive : ticket.status.isActive = true) (hcontent : JsText.trim dto.content ≠ "") :
    Sequence (fun _ => ()) false faults env n d s byCommentStages (editComment dto)
      fun _ _ s' => historyOf comment.ticketId s' ≠ historyOf comment.ticketId s := by
  obtain ⟨hm, -, -⟩ := findComment_some hcomment
  refine sequence_read_outside.bind (fun _ _ _ _ => rfl) ?_
  rintro found d₁ s₁ ⟨rfl, -, rfl⟩
  refine (sequence_lift (a := comment) (by rw [hcomment]; rfl)).bind (fun _ _ _ _ => rfl) ?_
  rintro row d₂ s₂ ⟨rfl, -, rfl⟩
  refine (sequence_lift (a := ()) (by simp [require, hauthor])).bind (fun _ _ _ _ => rfl) ?_
  rintro u d₃ s₃ ⟨-, -, rfl⟩
  refine (sequence_getTicketOrThrow hticket).bind (fun _ _ _ _ => rfl) ?_
  rintro entity d₄ s₄ ⟨rfl, rfl⟩
  refine (sequence_lift (if_pos hactive)).bind (fun _ _ _ _ => rfl) ?_
  rintro u d₅ s₅ ⟨-, -, rfl⟩
  refine (sequence_draw ServiceEnv.clock).bind (fun _ _ _ _ => rfl) ?_
  rintro time d₆ s₆ ⟨-, -, rfl⟩
  refine (sequence_lift (if_neg hcontent)).bind (fun _ _ _ _ => rfl) ?_
  rintro edited d₇ s₇ ⟨rfl, -, rfl⟩
  exact sequence_transaction (inside_editCommentWrites _ _)
    (sequence_editCommentWrites ⟨row, hm, rfl⟩)

theorem sequence_deleteComment {dto : DeleteCommentDto}
    (hcomment : s.findComment dto.commentId dto.tenantId = some comment)
    (hauthor : comment.authorId = dto.authorId)
    (hticket : s.findTicket comment.ticketId dto.tenantId = some ticket)
    (hactive : ticket.status.isActive = true) :
    Sequence (fun _ => ()) false faults env n d s byCommentStages (deleteComment dto)
      fun _ _ s' => historyOf comment.ticketId s' ≠ historyOf comment.ticketId s := by
  refine sequence_read_outside.bind (fun _ _ _ _ => rfl) ?_
  rintro found d₁ s₁ ⟨rfl, -, rfl⟩
  refine (sequence_lift (a := comment) (by rw [hcomment]; rfl)).bind (fun _ _ _ _ => rfl) ?_
  rintro row d₂ s₂ ⟨rfl, -, rfl⟩
  refine (sequence_lift (a := ()) (by simp [require, hauthor])).bind (fun _ _ _ _ => rfl) ?_
  rintro u d₃ s₃ ⟨-, -, rfl⟩
  refine (sequence_getTicketOrThrow hticket).bind (fun _ _ _ _ => rfl) ?_
  rintro entity d₄ s₄ ⟨rfl, rfl⟩
  have hactive' : (TicketEntity.reconstitute ticket).isActive = true := hactive
  refine (sequence_lift (a := ()) (by simp [require, hactive'])).bind (fun _ _ _ _ => rfl) ?_
  rintro u d₅ s₅ ⟨-, -, rfl⟩
  exact sequence_transaction (inside_deleteCommentWrites _ _) sequence_deleteCommentWrites

/-- Without faults a hidden write succeeds, and the history of the ticket tells of it. -/
theorem hidden_write_affects (h : HiddenWrite user request s) :
    ¬ WritesOnVisible env files user request s := by
  obtain ⟨tenantId, commentId, hnamed, hcontext, comment, ticket, hcomment, hauthor, hticket,
    hactive, hview⟩ := h
  obtain ⟨hm, hid, -⟩ := findTicket_some hticket
  have hhandler : Sequence (fun _ => ()) false (fun _ => .none) env 0 0 s
      ([.strict] ++ byCommentStages) (handle files user request)
      fun _ _ s' => historyOf ticket.id s' ≠ historyOf ticket.id s := by
    refine (sequence_tenantContext hcontext).bind (fun _ _ _ _ => rfl) ?_
    rintro id d₁ s₁ ⟨rfl, rfl⟩
    rw [hid]
    cases request with
    | editComment namedId content =>
      by_cases hblank : JsText.trim content = ""
      · simp only [namedComment, if_pos hblank] at hnamed
        cases hnamed
      · obtain rfl : namedId = commentId := by
          simpa only [namedComment, if_neg hblank, Option.some.injEq] using hnamed
        exact Sequence.map _ (Sequence.map _
          (sequence_editComment hcomment hauthor hticket hactive hblank))
    | deleteComment namedId =>
      obtain rfl : namedId = commentId := Option.some.inj hnamed
      exact Sequence.map _ (Sequence.map _
        (sequence_deleteComment hcomment hauthor hticket hactive))
    | create | update | assign | changeStatus | escalate | addComment | upload => cases hnamed
  obtain ⟨reply, d', hok, hhistory⟩ := hhandler.returns
  intro hvisible
  obtain ⟨id, horganization, -, -, hsees⟩ :=
    hvisible (fun _ => .none) reply hok ticket hm (.recorded hhistory)
  obtain rfl : tenantId = id := Option.some.inj (hcontext.organization.symm.trans horganization)
  rw [hview] at hsees
  cases hsees

end hidden

section demo

/-- Files of any type, kept in the local store. -/
def demoFiles : FileServices where
  options := ⟨false, 1000, [], none⟩
  upload _ options := ⟨options.filename, "local"⟩

def demoAgent : RequestUser := ⟨1, "agent@example.com", .agent, some 2⟩

def demoManager : RequestUser := ⟨9, "manager@example.com", .tenantManager, some 2⟩

/-- A ticket assigned to one of two agents. -/
def assignedStore : Store where
  tickets := [{ (default : Ticket) with
    id := 3, tenantId := 2, assignedAgentId := some 1, category := "GENERAL" }]
  comments := []
  customers := []
  tenants := [{ (default : Tenant) with id := 2, status := .active }]
  users := [
    { (default : User) with
      id := 1, email := "agent@example.com", role := .agent, tenantId := some 2, status := .active },
    { (default : User) with
      id := 5, email := "other@example.com", role := .agent, tenantId := some 2, status := .active },
    { (default : User) with
      id := 9, email := "manager@example.com", role := .tenantManager, tenantId := some 2,
      status := .active }]
  refreshTokens := []
  sequences := []
  activities := []
  audits := []
  outbox := []

/-- Each request draws twenty values at most. -/
def requestEnv (k : Nat) : ServiceEnv where
  uuid n := sampleEnv.uuid (20 * k + n)
  eventId n := sampleEnv.eventId (20 * k + n)
  clock n := sampleEnv.clock (20 * k + n)

/-- The store after these requests, from request `k` on. -/
def afterRequests : Nat → List (RequestUser × TicketRequest) → Store → Store
  | _, [], s => s
  | k, (user, request) :: rest, s => afterRequests (k + 1) rest
    ((handle demoFiles user request).run (requestEnv k) (fun _ => .none) (World.start s)).2.committed

/-- The agent comments on their ticket, and the manager gives the ticket to the other. -/
def reassignedStore : Store :=
  afterRequests 0 [(demoAgent, .addComment 3 "On it." .publicComment), (demoManager, .assign 3 5)]
    assignedStore

end demo

end OmniSupport.Ticketing
