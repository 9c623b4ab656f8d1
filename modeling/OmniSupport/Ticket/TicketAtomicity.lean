import OmniSupport.Ticket.TicketChange

/-! Every call of the ticket service refines its abstract model: whatever fails in its
transaction, the store is as before, and a commit performs one whole change. -/
namespace OmniSupport.Ticketing
open Foundation Database Effect Outbox TicketService

/-- The stores a committed call can leave. -/
def Performed (env : ServiceEnv) (s : Store) (command : TicketCommand) (s' : Store) :
    Prop :=
  ∃ change, Performs env s command change ∧ CommittedWith change s s'

section reads
variable {env : ServiceEnv} {s : Store} {d : Nat} {Q : Store → Prop} {α β : Type}

theorem atomic_getTicketOrThrow {id tenantId : Uuid} {g : TicketEntity → ServiceM β}
    (h : ∀ row, s.findTicket id tenantId = some row → Atomic env d s Q (g (.reconstitute row))) :
    Atomic env d s Q (getTicketOrThrow id tenantId >>= g) := by
  simp only [getTicketOrThrow, TicketRepository.findById, bind_assoc, pure_bind]
  exact atomic_read_bind (atomic_orThrow h)

theorem atomic_findAssignableAgentOrThrow {agentId tenantId : Uuid} {g : User → ServiceM β}
    (h : ∀ agent, s.findAssignableAgent agentId tenantId = some agent →
      Atomic env d s Q (g agent)) :
    Atomic env d s Q (findAssignableAgentOrThrow agentId tenantId >>= g) := by
  simp only [findAssignableAgentOrThrow, bind_assoc]
  exact atomic_read_bind (atomic_orThrow h)

theorem readOnly_addJobs (jobs : List AIJob) : ReadOnly (addJobs jobs) :=
  readOnly_read _ _ _ _

theorem readOnly_invalidateDashboardCache (tenantId : Uuid) :
    ReadOnly (invalidateDashboardCache tenantId) :=
  readOnly_read _ _ _ _

theorem readOnly_refresh {tenantId : Uuid} (a : α) :
    ReadOnly (invalidateDashboardCache tenantId >>= fun _ => pure a) :=
  (readOnly_invalidateDashboardCache tenantId).bind fun _ => readOnly_pure a

/-- A transaction that ends the call. -/
theorem atomic_inTransaction {body : ServiceM α} (hb : Inside body)
    (h : ∀ a d' s', Yields env d s body a d' s' → Q s') :
    Atomic env d s Q (inTransaction body) := by
  rw [← bind_pure (inTransaction body)]
  exact atomic_transaction_bind hb (fun _ => readOnly_pure _) h

end reads

/-! Up to its transaction a call only reads, and after it no row is written: what the writes of
the transaction leave is what the call leaves. -/
section walks
variable {env : ServiceEnv} {s : Store} {d : Nat} {Q : Store → Prop}

theorem atomic_updateTicket_of {dto : UpdateTicketDto}
    (h : ∀ row updated written d' s', s.findTicket dto.ticketId dto.tenantId = some row →
      row.status.isActive = true → updatedEntity dto (.reconstitute row) = .ok updated →
      Yields env d s (updateTicketWrites dto updated (changedValues dto row)) written d' s' →
      Q s') :
    Atomic env d s Q (updateTicket dto) := by
  refine atomic_getTicketOrThrow fun row hticket => ?_
  refine atomic_require fun hactive => ?_
  refine atomic_lift_bind fun updated hupdated => ?_
  exact atomic_transaction_bind (inside_updateTicketWrites _ _ _) (fun _ => readOnly_refresh _)
    fun written d' s' hy => h row updated written d' s' hticket hactive hupdated hy

theorem atomic_assignTicket_of {dto : AssignTicketDto}
    (h : ∀ row agent written d' s', s.findTicket dto.ticketId dto.tenantId = some row →
      s.findAssignableAgent dto.agentId dto.tenantId = some agent →
      (TicketEntity.reconstitute row).canAssign agent.role = true →
      Yields env (d + 2) s (ticketWrites ((TicketEntity.reconstitute row).assign (env.clock d)
          (env.header (d + 1)) dto.agentId dto.assignedById)
        (assignedActivity dto agent row.assignedAgentId) (assignedAudit dto)) written d' s' →
      Q s') :
    Atomic env d s Q (assignTicket dto) := by
  refine atomic_getTicketOrThrow fun row hticket => ?_
  refine atomic_findAssignableAgentOrThrow fun agent hagent => ?_
  refine atomic_require fun hpolicy => ?_
  refine atomic_draw_bind (atomic_draw_bind ?_)
  exact atomic_transaction_bind (inside_ticketWrites _ _ _) (fun _ => readOnly_refresh _)
    fun written d' s' hy => h row agent written d' s' hticket hagent hpolicy hy

theorem atomic_changeStatus_of {dto : ChangeStatusDto}
    (h : ∀ row newStatus moved written d' s',
      s.findTicket dto.ticketId dto.tenantId = some row →
      TicketStatus.create dto.newStatus = .ok newStatus →
      movedEntity newStatus (env.clock d) (env.header (d + 1)) (env.header (d + 2)) dto.changedById
        (.reconstitute row) = .ok moved →
      Yields env (d + 3) s (ticketWrites moved (statusActivity dto row.status)
        (statusAudit dto row.status)) written d' s' → Q s') :
    Atomic env d s Q (changeStatus dto) := by
  refine atomic_getTicketOrThrow fun row hticket => ?_
  refine atomic_lift_bind fun newStatus hstatus => ?_
  refine atomic_draw_bind (atomic_draw_bind (atomic_draw_bind ?_))
  refine atomic_lift_bind fun moved hmoved => ?_
  refine atomic_transaction_bind (inside_ticketWrites _ _ _) (fun _ => ?_)
    fun written d' s' hy => h row newStatus moved written d' s' hticket hstatus hmoved hy
  refine (readOnly_invalidateDashboardCache _).bind fun _ => ?_
  refine ReadOnly.bind ?_ fun _ => readOnly_pure _
  unfold addSummary
  split
  · exact readOnly_addJobs _
  · exact readOnly_pure _

theorem atomic_escalateTicket_of {dto : EscalateTicketDto}
    (h : ∀ row escalated written d' s', s.findTicket dto.ticketId dto.tenantId = some row →
      (TicketEntity.reconstitute row).canEscalate = true →
      (TicketEntity.reconstitute row).escalate (env.clock d) (env.header (d + 1)) dto.reason
        dto.escalatedById = .ok escalated →
      Yields env (d + 3) s (ticketWrites escalated (escalatedActivity dto (env.clock (d + 2)))
        (escalatedAudit dto)) written d' s' → Q s') :
    Atomic env d s Q (escalateTicket dto) := by
  refine atomic_getTicketOrThrow fun row hticket => ?_
  refine atomic_require fun hpolicy => ?_
  refine atomic_draw_bind (atomic_draw_bind ?_)
  refine atomic_lift_bind fun escalated hescalated => ?_
  refine atomic_draw_bind ?_
  exact atomic_transaction_bind (inside_ticketWrites _ _ _) (fun _ => readOnly_refresh _)
    fun written d' s' hy => h row escalated written d' s' hticket hpolicy hescalated hy

theorem atomic_createTicket_of {dto : CreateTicketDto}
    (h : ∀ customer tenant saved d' s',
      s.findCustomer dto.customerId dto.tenantId = some customer → customer.isBlocked = false →
      s.findTenant dto.tenantId = some tenant →
      (∀ agentId, dto.assignedAgentId = some agentId →
        (s.findAssignableAgent agentId dto.tenantId).isSome) →
      Yields env d s (createTicketWrites dto customer tenant) saved d' s' → Q s') :
    Atomic env d s Q (createTicket dto) := by
  simp only [createTicket, CustomerRepository.findById]
  refine atomic_read_bind (atomic_orThrow fun customer hcustomer => ?_)
  refine atomic_require fun hblocked => ?_
  refine atomic_read_bind (atomic_orThrow fun tenant htenant => ?_)
  have hblocked' : customer.isBlocked = false := by simpa using hblocked
  have hwrites : (∀ agentId, dto.assignedAgentId = some agentId →
      (s.findAssignableAgent agentId dto.tenantId).isSome) →
      Atomic env d s Q
        (inTransaction (createTicketWrites dto customer tenant) >>= fun saved => do
          addTicketAnalysis saved.id dto.tenantId (dto.title ++ "\n\n" ++ dto.description)
          invalidateDashboardCache dto.tenantId
          return saved) := by
    intro hagent
    refine atomic_transaction_bind (inside_createTicketWrites _ _ _) (fun saved => ?_)
      fun saved d' s' hy => h customer tenant saved d' s' hcustomer hblocked' htenant hagent hy
    exact (readOnly_addJobs _).bind fun _ => readOnly_refresh _
  cases hassigned : dto.assignedAgentId with
  | none => exact hwrites fun agentId h => by simp [hassigned] at h
  | some agentId =>
    simp only [discard, Functor.discard, LawfulFunctor.map_const, Function.comp_apply,
      map_eq_pure_bind, bind_assoc, pure_bind]
    refine atomic_findAssignableAgentOrThrow fun agent hagent => hwrites fun agentId' h => ?_
    obtain rfl : agentId = agentId' := by simpa [hassigned] using h
    rw [hagent]
    rfl

theorem atomic_addComment_of {dto : AddCommentDto}
    (h : ∀ row author u d' s', s.findTicket dto.ticketId dto.tenantId = some row →
      s.findUser dto.authorId = some author →
      ¬ (dto.authorRole = .customer ∧ dto.type = .internalNote) →
      Yields env (d + 3) s (addCommentWrites dto (.reconstitute row)
        (.create (env.header (d + 2)) (commentProps dto (env.uuid d) (env.clock (d + 1)))) author)
        u d' s' → Q s') :
    Atomic env d s Q (addComment dto) := by
  refine atomic_getTicketOrThrow fun row hticket => ?_
  refine atomic_read_bind (atomic_orThrow fun author hauthor => ?_)
  refine atomic_require fun hinternal => ?_
  have hinternal' : ¬ (dto.authorRole = .customer ∧ dto.type = .internalNote) := by
    rintro ⟨hrole, htype⟩
    simp [hrole, htype] at hinternal
  refine atomic_draw_bind (atomic_draw_bind (atomic_draw_bind ?_))
  refine atomic_transaction_bind (inside_addCommentWrites _ _ _ _) (fun _ => ?_)
    fun u d' s' hy => h row author u d' s' hticket hauthor hinternal' hy
  refine (readOnly_draw _).bind fun _ => (readOnly_draw _).bind fun _ => ?_
  refine ReadOnly.bind ?_ fun _ => readOnly_pure _
  unfold addSentiment
  split
  · exact readOnly_addJobs _
  · exact readOnly_pure _

end walks

section calls
variable {env : ServiceEnv} {s : Store}

theorem atomic_updateTicket (hfresh : FreshIds env s) (dto : UpdateTicketDto) :
    Atomic env 0 s (Performed env s (.updateTicket dto)) (updateTicket dto) := by
  refine atomic_updateTicket_of fun row updated u d' s' hticket hactive hupdated hy => ?_
  obtain ⟨writtenAt, activityAt, auditAt, hcommitted⟩ :=
    yields_updateTicketWrites hy hfresh (updatedEntity_events hupdated)
  exact ⟨_, .updateTicket dto row updated writtenAt activityAt auditAt hticket hactive hupdated,
    hcommitted⟩

theorem atomic_assignTicket (hfresh : FreshIds env s) (dto : AssignTicketDto) :
    Atomic env 0 s (Performed env s (.assignTicket dto)) (assignTicket dto) := by
  refine atomic_assignTicket_of fun row agent u d' s' hticket hagent hpolicy hy => ?_
  obtain ⟨writtenAt, activityAt, auditAt, hcommitted⟩ :=
    yields_ticketWrites hy hfresh (List.nodup_singleton 1) rfl
  exact ⟨_, .assignTicket dto row agent 1 _ writtenAt activityAt auditAt hticket hagent hpolicy,
    hcommitted⟩

theorem atomic_changeStatus (hfresh : FreshIds env s) (dto : ChangeStatusDto) :
    Atomic env 0 s (Performed env s (.changeStatus dto)) (changeStatus dto) := by
  refine atomic_changeStatus_of fun row newStatus moved u d' s' hticket hstatus hmoved hy => ?_
  have hns : [1, 2].Nodup := by decide
  obtain ⟨writtenAt, activityAt, auditAt, hcommitted⟩ :
      ∃ writtenAt activityAt auditAt, CommittedWith (ticketChange moved writtenAt
        (statusActivity dto row.status activityAt) (statusAudit dto row.status auditAt)) s s' := by
    rcases movedEntity_events hmoved with hone | htwo
    · exact yields_ticketWrites hy hfresh (List.nodup_singleton 1) hone
    · exact yields_ticketWrites hy hfresh hns htwo
  exact ⟨_, .changeStatus dto row newStatus moved 1 2 _ writtenAt activityAt auditAt hticket
    hstatus (by decide) hmoved, hcommitted⟩

theorem atomic_escalateTicket (hfresh : FreshIds env s) (dto : EscalateTicketDto) :
    Atomic env 0 s (Performed env s (.escalateTicket dto)) (escalateTicket dto) := by
  refine atomic_escalateTicket_of fun row escalated u d' s' hticket hpolicy hescalated hy => ?_
  obtain ⟨writtenAt, activityAt, auditAt, hcommitted⟩ :=
    yields_ticketWrites hy hfresh (List.nodup_singleton 1) (escalate_events hescalated)
  exact ⟨_, .escalateTicket dto row escalated 1 _ _ writtenAt activityAt auditAt hticket hpolicy
    hescalated, hcommitted⟩

theorem atomic_addComment (hfresh : FreshIds env s) (dto : AddCommentDto) :
    Atomic env 0 s (Performed env s (.addComment dto)) (addComment dto) := by
  refine atomic_addComment_of fun row author u d' s' hticket hauthor hinternal hy => ?_
  by_cases hreplies : dto.authorRole = .customer ∧ row.status = .pendingCustomer
  · obtain ⟨moved, m, savedAt, movedAt, writtenAt, activityAt, hnm, hmoved, hcommitted⟩ :=
      yields_addCommentWrites_reply hy hfresh rfl (by decide) hreplies
    exact ⟨_, .addReply dto row author moved _ 2 m _ savedAt movedAt writtenAt activityAt hticket
      hauthor hinternal hreplies hnm hmoved, hcommitted⟩
  · obtain ⟨savedAt, writtenAt, activityAt, hcommitted⟩ :=
      yields_addCommentWrites_plain hy hfresh rfl hreplies
    exact ⟨_, .addComment dto row author _ 2 _ savedAt writtenAt activityAt hticket hauthor
      hinternal hreplies, hcommitted⟩

theorem atomic_editComment (hfresh : FreshIds env s) (dto : EditCommentDto) :
    Atomic env 0 s (Performed env s (.editComment dto)) (editComment dto) := by
  refine atomic_read_bind (atomic_orThrow fun row hcomment => ?_)
  refine atomic_require fun hauthor => ?_
  refine atomic_getTicketOrThrow fun ticket hticket => ?_
  refine atomic_require fun hactive => ?_
  refine atomic_draw_bind ?_
  refine atomic_lift_bind fun edited hedited => ?_
  refine atomic_inTransaction (inside_editCommentWrites _ _) fun u d' s' hy => ?_
  obtain ⟨_, _, _, hupdate, h₁⟩ := yields_bind (inside_commentUpdate _) hy
  obtain ⟨writtenAt, rfl, -⟩ := yields_commentUpdate hupdate
  obtain ⟨_, _, _, hactivity, h₂⟩ := yields_bind (inside_activityCreate _) h₁
  obtain ⟨activityAt, rfl, -⟩ := yields_activityCreate hactivity
  obtain ⟨-, -, rfl⟩ := yields_pure h₂
  have hevents := edit_events hedited
  have hdrawn : DrawnAt env [] edited.events := by simp [DrawnAt, hevents]
  have hrows : List.Forall₂ RowOf edited.events [] := hevents ▸ List.Forall₂.nil
  refine ⟨_, .editComment dto row ticket edited _ writtenAt activityAt hcomment
    (by simpa using hauthor) hticket hactive hedited,
    .of_rows hfresh List.nodup_nil hdrawn hrows ?_⟩
  simp only [List.append_nil]
  rfl

theorem atomic_deleteComment (hfresh : FreshIds env s) (dto : DeleteCommentDto) :
    Atomic env 0 s (Performed env s (.deleteComment dto)) (deleteComment dto) := by
  refine atomic_read_bind (atomic_orThrow fun row hcomment => ?_)
  refine atomic_require fun hallowed => ?_
  refine atomic_getTicketOrThrow fun ticket hticket => ?_
  refine atomic_require fun hactive => ?_
  refine atomic_inTransaction (inside_deleteCommentWrites _ _) fun u d' s' hy => ?_
  obtain ⟨_, _, _, hdelete, h₁⟩ := yields_bind (inside_commentDelete _ _) hy
  obtain ⟨rfl, -⟩ := yields_commentDelete hdelete
  obtain ⟨activityAt, rfl, -⟩ := yields_activityCreate h₁
  have hallowed' : row.authorId = dto.authorId ∨ dto.authorRole = .platformAdmin ∨
      dto.authorRole = .tenantManager := by simpa [or_assoc] using hallowed
  have hactive' : ticket.status.isActive = true ∨ dto.authorRole = .platformAdmin := by
    simpa [TicketEntity.isActive, TicketEntity.reconstitute] using hactive
  refine ⟨_, .deleteComment dto row ticket activityAt hcomment hallowed' hticket hactive',
    .of_rows hfresh List.nodup_nil rfl List.Forall₂.nil ?_⟩
  simp only [List.append_nil]
  rfl

/-- The change of a create, whose ticket is new. -/
def CreatedAs (env : ServiceEnv) (s : Store) (dto : CreateTicketDto) (s' : Store) : Prop :=
  ∃ customer tenant priority id n createdAt savedAt activeAt customerAt activityAt auditAt,
    let change := createdChange dto (.create (env.header n) (createProps dto tenant id
      (s.nextTicketNumber dto.tenantId).1 priority createdAt)) customer savedAt activeAt customerAt
      activityAt auditAt
    (∀ t ∈ s.tickets, t.id ≠ id) ∧ Performs env s (.createTicket dto) change ∧
      CommittedWith change s s'

theorem atomic_createTicket (hfresh : FreshIds env s) (dto : CreateTicketDto) :
    Atomic env 0 s (CreatedAs env s dto) (createTicket dto) := by
  refine atomic_createTicket_of
    fun customer tenant saved d' s' hcustomer hblocked htenant hagent hy => ?_
  obtain ⟨priority, id, n, today, createdAt, savedAt, activeAt, customerAt, activityAt, auditAt,
    hlimit, hpriority, hnew, hcommitted⟩ := yields_createTicketWrites hy hfresh
  exact ⟨customer, tenant, priority, id, n, createdAt, savedAt, activeAt, customerAt, activityAt,
    auditAt, hnew, .createTicket dto customer tenant priority id n today createdAt savedAt activeAt
      customerAt activityAt auditAt hcustomer hblocked htenant hagent hlimit hpriority,
    hcommitted⟩

theorem atomic_perform (hfresh : FreshIds env s) (command : TicketCommand) :
    Atomic env 0 s (Performed env s command) (perform command) := by
  cases command with
  | createTicket dto =>
    refine ((atomic_createTicket hfresh dto).mono fun s' h => ?_).map _
    obtain ⟨_, _, _, _, _, _, _, _, _, _, _, -, hperforms, hcommitted⟩ := h
    exact ⟨_, hperforms, hcommitted⟩
  | updateTicket dto => exact (atomic_updateTicket hfresh dto).map _
  | assignTicket dto => exact (atomic_assignTicket hfresh dto).map _
  | changeStatus dto => exact (atomic_changeStatus hfresh dto).map _
  | escalateTicket dto => exact (atomic_escalateTicket hfresh dto).map _
  | addComment dto => exact (atomic_addComment hfresh dto).map _
  | editComment dto => exact (atomic_editComment hfresh dto).map _
  | deleteComment dto => exact (atomic_deleteComment hfresh dto).map _

end calls

/-- The store after a call of the ticket service is the store before it, or one whole
change of it. It is the store before whenever a call of the transaction failed, and the
changed one as soon as the transaction has committed, as it has when the call returns. -/
theorem ticket_writes_all_or_nothing (env : ServiceEnv) (s : Store) (command : TicketCommand)
    (faults : Nat → Fault) (hfresh : FreshIds env s) :
    let r := (perform command).run env faults (World.start s)
    ((∃ c ∈ r.2.calls, c.inTransaction = true ∧ c.fault ≠ .none) → r.2.committed = s) ∧
      (r.2.commits = 0 → r.2.committed = s) ∧
      (r.2.commits ≠ 0 → r.2.commits = 1 ∧ Performed env s command r.2.committed) ∧
      (r.1.isOk = true → r.2.commits = 1) := by
  intro r
  obtain ⟨cs, hcs, hor⟩ := atomic_perform hfresh command faults (World.start s) rfl rfl rfl
  have hcalls : r.2.calls = cs := by
    rw [hcs]
    rfl
  rcases hor with ⟨hfailed, hcommits, hcommitted⟩ | ⟨hcommits, hperformed, hall⟩
  · have hzero : r.2.commits = 0 := hcommits
    have hsame : r.2.committed = s := hcommitted
    refine ⟨fun _ => hsame, fun _ => hsame, fun h => absurd hzero h, fun hok => ?_⟩
    have hboth : false = true := hfailed.symm.trans hok
    cases hboth
  · have hone : r.2.commits = 1 := hcommits
    refine ⟨fun ⟨c, hc, ht, hfault⟩ => ?_, fun h => by omega, fun _ => ⟨hone, hperformed⟩,
      fun _ => hone⟩
    rw [hcalls] at hc
    exact absurd (hall c hc ht) hfault

section demo

def demoUser : User :=
  { (default : User) with id := 1, tenantId := some 2, role := .customer }

def demoTicket : Ticket :=
  { (default : Ticket) with
    id := 3
    tenantId := 2
    status := .pendingCustomer
    category := "GENERAL" }

def demoStore : Store where
  tickets := [demoTicket]
  comments := []
  customers := []
  tenants := []
  users := [demoUser]
  refreshTokens := []
  sequences := []
  activities := []
  audits := []
  outbox := []

def demoReply : TicketCommand :=
  .addComment ⟨2, 3, 1, .customer, "Done.", .publicComment⟩

end demo

/-- A customer's reply commits the ticket with both events, and nothing of it stays when
its last insert throws. -/
theorem ticket_writes_all_or_nothing_reply :
    Performed sampleEnv demoStore demoReply
        ((perform demoReply).run sampleEnv (fun _ => .none) (World.start demoStore)).2.committed ∧
      ((perform demoReply).run sampleEnv (fun n => if n = 6 then .throws else .none)
        (World.start demoStore)).2.committed = demoStore :=
  ⟨((ticket_writes_all_or_nothing sampleEnv demoStore demoReply (fun _ => .none)
      (sampleEnv_freshIds rfl)).2.2.1 (by decide)).2,
    (ticket_writes_all_or_nothing sampleEnv demoStore demoReply
      (fun n => if n = 6 then .throws else .none) (sampleEnv_freshIds rfl)).1 (by decide)⟩

end OmniSupport.Ticketing
