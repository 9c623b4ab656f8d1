import OmniSupport.Customer.WorkWrites
import OmniSupport.Tenancy.CallScope
import OmniSupport.Ticket.StoredTicket

/-! The calls of the ticket and the customer service made for one organization, each run in two
stores that have in common what such calls can tell. -/
namespace OmniSupport.Tenancy
open Foundation Effect Database Table

/-- The ids drawn during a call are no ids of stored rows. -/
structure NewIds (env : ServiceEnv) (s : Store) : Prop where
  tickets : ∀ n, ∀ ticket ∈ s.tickets, ticket.id ≠ env.uuid n
  comments : ∀ n, ∀ comment ∈ s.comments, comment.id ≠ env.uuid n
  customers : ∀ n, ∀ customer ∈ s.customers, customer.id ≠ env.uuid n

def BothNew (env : ServiceEnv) (s s' : Store) : Prop := NewIds env s ∧ NewIds env s'

section statements
variable {env : ServiceEnv} {A id : Uuid} {P : Store → Store → Prop} (S : CallScope env A)

theorem twins_orThrow_bind {α β : Type} {R : β → Store → Store → Prop} {E : Store → Store → Prop}
    {error : AppError} {found : Option α} {g : α → ServiceM β}
    (h : ∀ a, found = some a → Twins env E P R (g a)) :
    Twins env E P R (lift (orThrow error found) >>= g) :=
  twins_lift_bind fun a ha => h a (orThrow_ok ha)

theorem twins_activityCreate {entry : Time → ActivityLog}
    (hA : ∀ now, (entry now).tenantId = A) :
    Twins env S.Same P (fun _ => Anything) (ActivityRepository.create entry) :=
  twins_draw_bind fun _ => twins_call fun _ _ h _ => .ok (S.insertActivity h (hA _)) trivial

theorem twins_auditCreate (entry : Time → AuditLog) :
    Twins env S.Same Anything (fun _ => Anything) (AuditRepository.create entry) :=
  twins_draw_bind fun _ => twins_rethrow_call fun _ _ h _ => ⟨S.insertAudit _ h, trivial⟩

theorem twins_toRows {E : Store → Store → Prop} (events : List DomainEvent) :
    Twins env E P (fun rows s s' => P s s' ∧ List.Forall₂ RowOf events rows)
      (OutboxPublisher.toRows events) := by
  induction events with
  | nil => exact twins_pure _ fun _ _ _ hP => ⟨hP, .nil⟩
  | cons event rest ih =>
    have hrow : Twins env E P (fun row s s' => P s s' ∧ RowOf event row)
        (OutboxPublisher.toRow event) :=
      twins_draw_bind fun _ => twins_draw_bind fun _ => twins_pure _ fun _ _ _ hP =>
        ⟨hP, _, _, rfl⟩
    refine hrow.bind fun row => .of_known (fun _ _ hP => hP.2) fun hrowOf => ?_
    refine (ih.mono (fun _ _ _ hP => hP.1) fun _ _ _ _ hP => hP).bind fun rows => ?_
    exact twins_pure _ fun _ _ _ hP => ⟨hP.1, .cons hrowOf hP.2⟩

theorem twins_publishAll {events : List DomainEvent} (htells : ∀ event ∈ events, S.Tells event) :
    Twins env S.Same P (fun _ => Anything) (OutboxPublisher.publishAll events) := by
  unfold OutboxPublisher.publishAll
  split
  · exact twins_pure _ fun _ _ _ _ => trivial
  · exact (twins_toRows events).bind fun rows => twins_call fun _ _ h hP =>
      .ok (S.enqueueMany h hP.2 htells) trivial

/-- What the queues and caches are told is no row of the store. -/
theorem twins_tell {kind : ServiceCall} :
    Twins env S.Same P (fun _ => P) (read .root kind .database fun _ => () : ServiceM Unit) :=
  twins_readRoot fun _ _ _ => rfl

theorem twins_ticketUpdate {ticket : Ticket}
    (howns : ∀ s s', P s s' → OwnsTicket A ticket.id s s') :
    Twins env S.Same P (fun _ => Anything) (TicketRepository.update ticket) := by
  refine twins_draw_bind fun n => twins_call fun s s' h hP => ?_
  have hrow := S.ticketRow h (howns s s' hP)
  simp only [TicketRepository.updateRow, ← hrow]
  cases s.tickets.find? fun row => row.id = ticket.id with
  | none => exact .error _
  | some row =>
    dsimp only
    split
    · exact .ok (S.updateTicket _ _ h (howns s s' hP)) trivial
    · exact .error _

theorem twins_customerUpdate {customer : Customer}
    (howns : ∀ s s', P s s' → OwnsCustomer A customer.id s s') :
    Twins env S.Same P (fun _ => Anything) (CustomerRepository.update customer) := by
  refine twins_draw_bind fun n => twins_call fun s s' h hP => ?_
  have hrow := S.customerRow h (howns s s' hP)
  simp only [CustomerRepository.updateRow, ← hrow]
  cases s.customers.find? fun row => row.id = customer.id with
  | none => exact .error _
  | some row => exact .ok (S.updateCustomer _ _ h (howns s s' hP)) trivial

theorem twins_commentUpdate {comment : TicketComment}
    (hnames : ∀ s s', P s s' → S.Names comment.id s s')
    (howns : ∀ s s', P s s' → OwnsComment A comment.id s s') :
    Twins env S.Same P (fun _ => Anything) (CommentRepository.update comment) := by
  refine twins_draw_bind fun n => twins_call fun s s' h hP => ?_
  have hrow := S.commentRow h (hnames s s' hP) (howns s s' hP)
  simp only [CommentRepository.updateRow, ← hrow]
  cases s.comments.find? fun row => row.id = comment.id with
  | none => exact .error _
  | some row => exact .ok (S.updateComment _ _ h (hnames s s' hP) (howns s s' hP)) trivial

theorem twins_nextTicketNumber
    (hP : ∀ s s' sequences sequences', P s s' →
      P { s with sequences := sequences } { s' with sequences := sequences' }) :
    Twins env S.Same P (fun _ => P) (TicketRepository.getNextTicketNumber A) := by
  refine twins_call fun s s' h hs => ?_
  obtain ⟨hnumber, hnext⟩ := S.nextTicketNumber h
  obtain ⟨sequences, hseq⟩ := nextTicketNumber_sequences (s := s) A
  obtain ⟨sequences', hseq'⟩ := nextTicketNumber_sequences (s := s') A
  have hpair : s'.nextTicketNumber A = ((s.nextTicketNumber A).1, (s'.nextTicketNumber A).2) := by
    rw [hnumber]
  have hkept : P (s.nextTicketNumber A).2 (s'.nextTicketNumber A).2 := by
    rw [hseq, hseq']
    exact hP s s' sequences sequences' hs
  rw [hpair]
  exact .ok hnext hkept

theorem twins_countCreatedSince (since : Time) :
    Twins env S.Same P (fun _ => P) (TicketRepository.countCreatedSince A since) := by
  refine twins_call fun s s' h hP => ?_
  rw [S.countCreatedSince h]
  exact .ok h hP

/-- The id of the new row is drawn, and neither store has a ticket with it. -/
theorem twins_ticketSave {ticket : Ticket} {customerId : Uuid} {n : Nat}
    (hA : ticket.tenantId = A) (hid : ticket.id = env.uuid n) :
    Twins env S.Same (fun s s' => BothNew env s s' ∧ OwnsCustomer A customerId s s')
      (fun _ => OwnsCustomer A customerId) (TicketRepository.save ticket) := by
  refine twins_draw_bind fun m => twins_call fun s s' h hP => ?_
  obtain ⟨⟨hnew, hnew'⟩, howns⟩ := hP
  have hfree : ∀ row ∈ s.tickets, row.id ≠ ticket.id := hid ▸ hnew.tickets n
  have hfree' : ∀ row ∈ s'.tickets, row.id ≠ ticket.id := hid ▸ hnew'.tickets n
  have hnone : ¬ ∃ row ∈ s.tickets, row.id = ticket.id := fun ⟨row, hrow, heq⟩ =>
    hfree row hrow heq
  have hnone' : ¬ ∃ row ∈ s'.tickets, row.id = ticket.id := fun ⟨row, hrow, heq⟩ =>
    hfree' row hrow heq
  have hstored : (ticket.storedAt (env.clock m)).id = ticket.id := rfl
  simp only [hstored, hnone, hnone', false_or]
  split
  · exact .error _
  · exact .ok (S.insertTicket h hA hfree hfree') howns

/-- The id is new, so only a customer of the organization can have the e-mail address. -/
theorem twins_customerSave {customer : Customer} {n : Nat} (hA : customer.tenantId = A)
    (hid : customer.id = env.uuid n) :
    Twins env S.Same (BothNew env) (fun _ => Anything) (CustomerRepository.save customer) := by
  refine twins_draw_bind fun m => twins_call fun s s' h hP => ?_
  have hfree : ∀ row ∈ s.customers, row.id ≠ customer.id := hid ▸ hP.1.customers n
  have hfree' : ∀ row ∈ s'.customers, row.id ≠ customer.id := hid ▸ hP.2.customers n
  have hemails : (∃ row ∈ s.customers, row.tenantId = A ∧ row.email = customer.email) ↔
      ∃ row ∈ s'.customers, row.tenantId = A ∧ row.email = customer.email := S.emailTaken h
  have htaken : s.customerTaken (CustomerRepository.newRow (env.clock m) customer) ↔
      s'.customerTaken (CustomerRepository.newRow (env.clock m) customer) := by
    constructor
    · rintro ⟨row, hrow, hsame | ⟨hrowA, hemail⟩⟩
      · exact absurd hsame (hfree row hrow)
      · obtain ⟨row', hrow', hA', hemail'⟩ := hemails.mp ⟨row, hrow, hrowA.trans hA, hemail⟩
        exact ⟨row', hrow', .inr ⟨hA'.trans hA.symm, hemail'⟩⟩
    · rintro ⟨row, hrow, hsame | ⟨hrowA, hemail⟩⟩
      · exact absurd hsame (hfree' row hrow)
      · obtain ⟨row', hrow', hA', hemail'⟩ := hemails.mpr ⟨row, hrow, hrowA.trans hA, hemail⟩
        exact ⟨row', hrow', .inr ⟨hA'.trans hA.symm, hemail'⟩⟩
  simp only [htaken]
  split
  · exact .error _
  · exact .ok (S.insertCustomer h hA hfree hfree') trivial

/-- The ticket of the comment is the organization's, and both stores have the same users. -/
theorem twins_commentSave {comment : TicketComment} {ticketId : Uuid} {n : Nat}
    (hA : comment.tenantId = A) (hadds : ∀ now, S.Adds (comment.storedAt now))
    (hid : comment.id = env.uuid n) (hticket : comment.ticketId = ticketId) :
    Twins env S.Same (fun s s' => BothNew env s s' ∧ OwnsTicket A ticketId s s')
      (fun _ => OwnsTicket A ticketId) (CommentRepository.save comment) := by
  refine twins_draw_bind fun m => twins_call fun s s' h hP => ?_
  obtain ⟨⟨hnew, hnew'⟩, howns⟩ := hP
  have hfree : ∀ row ∈ s.comments, row.id ≠ comment.id := hid ▸ hnew.comments n
  have hfree' : ∀ row ∈ s'.comments, row.id ≠ comment.id := hid ▸ hnew'.comments n
  have hnone : ¬ ∃ row ∈ s.comments, row.id = comment.id := fun ⟨row, hrow, heq⟩ =>
    hfree row hrow heq
  have hnone' : ¬ ∃ row ∈ s'.comments, row.id = comment.id := fun ⟨row, hrow, heq⟩ =>
    hfree' row hrow heq
  have hstands : ∃ ticket ∈ s.tickets, ticket.id = comment.ticketId := by
    obtain ⟨ticket, hmem, hkey, -⟩ := howns
    exact ⟨ticket, hmem, hkey.trans hticket.symm⟩
  have hstands' : ∃ ticket ∈ s'.tickets, ticket.id = comment.ticketId :=
    hticket ▸ S.ticketStands h howns
  have hstored : (comment.storedAt (env.clock m)).id = comment.id := rfl
  have hstoredTicket : (comment.storedAt (env.clock m)).ticketId = comment.ticketId := rfl
  simp only [hstored, hstoredTicket, hnone, hnone', hstands, hstands', not_true_eq_false,
    false_or, ← S.users h]
  split
  · exact .error _
  · exact .ok (S.insertComment h hA (hadds _) hfree hfree') howns

theorem twins_commentDelete (hnames : ∀ s s', P s s' → S.Names id s s') :
    Twins env S.Same P (fun _ => Anything) (CommentRepository.delete id A) :=
  twins_call fun s s' h hP => .ok (S.deleteComment h (hnames s s' hP)) trivial

/-- A ticket that refers to the customer does so in both stores, which reject the deletion or
neither does. -/
theorem twins_customerDelete (hrefers : ∀ s s', P s s' → S.Refers id s s') :
    Twins env S.Same P (fun _ => Anything) (CustomerRepository.delete id A) := by
  refine twins_call fun s s' h hP => ?_
  rw [← S.findCustomer h, ← S.referenced h (hrefers s s' hP)]
  split
  · exact .error _
  · exact .ok (S.deleteCustomer h (hrefers s s' hP)) trivial

end statements

section lookups
variable {env : ServiceEnv} {A id : Uuid} {P : Store → Store → Prop} (S : CallScope env A)

open Ticketing in
theorem twins_getTicketOrThrow :
    Twins env S.Same P (fun ticket s s' =>
        P s s' ∧ (ticket.row.id = id ∧ ticket.events = []) ∧ OwnsTicket A ticket.row.id s s')
      (TicketService.getTicketOrThrow id A) := by
  have hfind : Twins env S.Same P (fun found s s' => P s s' ∧ found = s.findTicket id A)
      (TicketRepository.findById id A) := twins_read fun _ _ h _ => S.findTicket h
  refine hfind.bind fun found => twins_orThrow_bind fun ticket hfound => twins_pure _ ?_
  rintro s s' - ⟨hP, rfl⟩
  exact ⟨hP, ⟨(mem_of_find?_owned hfound).2.1, rfl⟩, owns_findTicket hfound⟩

open Customers in
theorem twins_getCustomerOrThrow :
    Twins env S.Same P
      (fun customer s s' => P s s' ∧ customer.row.id = id ∧ OwnsCustomer A customer.row.id s s')
      (CustomerService.getCustomerOrThrow id A) := by
  have hfind : Twins env S.Same P (fun found s s' => P s s' ∧ found = s.findCustomer id A)
      (CustomerRepository.findById id A) := twins_read fun _ _ h _ => S.findCustomer h
  refine hfind.bind fun found => twins_orThrow_bind fun customer hfound => twins_pure _ ?_
  rintro s s' - ⟨hP, rfl⟩
  exact ⟨hP, (mem_of_find?_owned hfound).2.1, owns_findCustomer hfound⟩

open Ticketing in
/-- The agent is looked up among the users, which both stores share. -/
theorem twins_findAssignableAgentOrThrow (agentId : Uuid) :
    Twins env S.Same P (fun _ => P) (TicketService.findAssignableAgentOrThrow agentId A) := by
  have hfind : Twins env S.Same P (fun _ => P)
      (read .root .userFind .database (Store.findAssignableAgent agentId A) :
        ServiceM (Option User)) := by
    refine twins_readRoot fun s s' h => ?_
    simp only [Store.findAssignableAgent, S.users h]
  exact hfind.bind fun found => twins_lift fun _ _ _ _ _ hP => hP

open Customers in
theorem twins_assertAssignable (agentId : Option Uuid) :
    Twins env S.Same P (fun _ => P) (CustomerService.assertAssignable agentId A) := by
  cases agentId with
  | none => exact twins_pure _ fun _ _ _ hP => hP
  | some agentId =>
    have hfind : Twins env S.Same P (fun _ => P) (UserRepository.findById agentId (some A)) := by
      refine twins_readRoot fun s s' h => ?_
      simp only [Store.findUserIn, S.users h]
    exact hfind.bind fun found => twins_lift fun _ _ _ _ _ hP => hP

/-- A page and the number of the rows that a filter on the organization selects. -/
theorem twins_findPage {E : Store → Store → Prop} {ρ : Type} {findKind countKind : ServiceCall}
    {error : AppError} {select : TextSearch → Store → Except AppError (List ρ)} {le : ρ → ρ → Bool}
    {pagination : PaginationOptions} (h : ∀ text s s', E s s' → select text s = select text s') :
    Twins env E P (fun _ => Anything)
      (findPage findKind countKind error select le pagination) := by
  refine twins_draw_bind fun n => ?_
  have hquery : ∀ {α : Type} (kind : ServiceCall) (rows : List ρ → α) (P : Store → Store → Prop),
      Twins env E P (fun a s s' => P s s' ∧ (select env.text s).map rows = .ok a)
        (query .ambient kind error fun s => (select env.text s).map rows) :=
    fun kind rows P => twins_query fun s s' hs _ => by rw [h env.text s s' hs]
  have hrows := hquery findKind (fun rows =>
    Paging.page (toSkip pagination.page pagination.limit) pagination.limit
      (Paging.orderRows le (env.ties n) rows)) P
  have htotal := hquery countKind List.length Anything
  exact (hrows.both htotal).bind fun _ => twins_pure _ fun _ _ _ _ => trivial

end lookups

section tickets
variable {env : ServiceEnv} {P : Store → Store → Prop}
open Ticketing TicketService

/-- The entity has raised only events that the scope tells. -/
def Told {A : Uuid} (S : CallScope env A) (events : List DomainEvent) : Prop :=
  ∀ event ∈ events, S.Tells event

section told
variable {A : Uuid} (S : CallScope env A) {now : Time} {n m : Nat} {ticket moved : TicketEntity}

theorem told_single {body : EventBody} (h : body.eventType ≠ "COMMENT_ADDED") :
    Told S [(env.header n).event body] := by
  intro event hevent
  rw [List.mem_singleton.mp hevent]
  exact S.tells h

theorem Told.append {events events' : List DomainEvent} {S : CallScope env A}
    (h : Told S events) (h' : Told S events') : Told S (events ++ events') := by
  intro event hevent
  rcases List.mem_append.mp hevent with hfirst | hsecond
  · exact h event hfirst
  · exact h' event hsecond

theorem told_changeStatus {newStatus : TicketStatus} {changedById : Uuid}
    (hnone : ticket.events = [])
    (h : ticket.changeStatus now (env.header n) newStatus changedById = .ok moved) :
    Told S moved.events := by
  simp only [TicketEntity.changeStatus, hnone] at h
  split at h
  · cases h
    exact told_single S (by simp [EventBody.eventType])
  · cases h

theorem told_movedEntity {newStatus : TicketStatus} {changedById : Uuid}
    (hnone : ticket.events = [])
    (h : movedEntity newStatus now (env.header n) (env.header m) changedById ticket = .ok moved) :
    Told S moved.events := by
  unfold movedEntity at h
  split at h
  · obtain ⟨first, hfirst, h⟩ := bind_eq_ok.mp h
    cases h
    exact (told_changeStatus S hnone hfirst).append (told_single S (by simp [EventBody.eventType]))
  · exact told_changeStatus S hnone h

theorem told_escalate {reason : String} {escalatedById : Actor} (hnone : ticket.events = [])
    (h : ticket.escalate now (env.header n) reason escalatedById = .ok moved) :
    Told S moved.events := by
  simp only [TicketEntity.escalate, hnone] at h
  split at h
  · cases h
  · cases h
    exact told_single S (by simp [EventBody.eventType])

end told

theorem twins_ticketWrites {A : Uuid} (S : CallScope env A) {ticket : TicketEntity}
    {activity : Time → ActivityLog} {audit : Time → AuditLog}
    (hA : ∀ now, (activity now).tenantId = A) (htold : Told S ticket.events)
    (howns : ∀ s s', P s s' → OwnsTicket A ticket.row.id s s') :
    Twins env S.Same P (fun _ => Anything) (ticketWrites ticket activity audit) :=
  (twins_ticketUpdate S howns).bind fun _ => (twins_activityCreate S hA).bind fun _ =>
    (twins_auditCreate S audit).bind fun _ => (twins_publishAll S htold).bind fun _ =>
    twins_pure _ fun _ _ _ _ => trivial

/-- After the commit only the cache is told. -/
theorem twins_refresh {A : Uuid} (S : CallScope env A) {work : ServiceM Ticket}
    (h : Twins env S.Same P (fun _ => Anything) work) :
    Twins env S.Same P (fun _ => Anything) (do
      let updated ← TicketService.inTransaction work
      invalidateDashboardCache A
      return updated) :=
  h.transaction.bind fun _ => (twins_tell S).bind fun _ => twins_pure _ fun _ _ _ _ => trivial

theorem twins_createTicketWrites (dto : CreateTicketDto) (S : CallScope env dto.tenantId)
    (customer : Customer) (tenant : Tenant) :
    Twins env S.Same (fun s s' => BothNew env s s' ∧ OwnsCustomer dto.tenantId customer.id s s')
      (fun _ => Anything) (createTicketWrites dto customer tenant) := by
  have hnumber : Twins env S.Same
      (fun s s' => BothNew env s s' ∧ OwnsCustomer dto.tenantId customer.id s s')
      (fun _ s s' => BothNew env s s' ∧ OwnsCustomer dto.tenantId customer.id s s')
      (TicketRepository.getNextTicketNumber dto.tenantId) :=
    twins_nextTicketNumber S fun s s' sequences sequences' hP =>
      ⟨⟨⟨hP.1.1.tickets, hP.1.1.comments, hP.1.1.customers⟩,
        ⟨hP.1.2.tickets, hP.1.2.comments, hP.1.2.customers⟩⟩, hP.2⟩
  refine hnumber.bind fun number => twins_draw_bind fun _ =>
    (twins_countCreatedSince S _).bind fun today => twins_lift_bind fun _ _ =>
    twins_lift_bind fun priority _ => twins_draw_bind fun n => twins_draw_bind fun _ =>
    twins_draw_bind fun _ => ?_
  refine Twins.bind (twins_ticketSave S (n := n) rfl rfl) fun saved => twins_draw_bind fun _ => ?_
  refine Twins.bind (twins_customerUpdate S fun _ _ howns => howns) fun _ => ?_
  exact Twins.bind (twins_activityCreate S fun _ => rfl) fun _ =>
    (twins_auditCreate S _).bind fun _ =>
    (twins_publishAll S (told_single S (by simp [EventBody.eventType]))).bind fun _ =>
    twins_pure _ fun _ _ _ _ => trivial

theorem twins_createTicket (dto : CreateTicketDto) (S : CallScope env dto.tenantId) :
    Twins env S.Same (BothNew env) (fun _ => Anything) (createTicket dto) := by
  have hfind : Twins env S.Same (BothNew env)
      (fun found s s' => BothNew env s s' ∧ found = s.findCustomer dto.customerId dto.tenantId)
      (CustomerRepository.findById dto.customerId dto.tenantId) :=
    twins_read fun _ _ h _ => S.findCustomer h
  refine hfind.bind fun found => twins_orThrow_bind fun customer hfound =>
    twins_lift_bind fun _ _ => ?_
  have htenant : Twins env S.Same
      (fun s s' => BothNew env s s' ∧ found = s.findCustomer dto.customerId dto.tenantId)
      (fun _ s s' => BothNew env s s' ∧ OwnsCustomer dto.tenantId customer.id s s')
      (read .root .tenantFind .database (Store.findTenant dto.tenantId) :
        ServiceM (Option Tenant)) := by
    refine (twins_readRoot fun s s' h => ?_).mono (fun _ _ _ hP => hP) ?_
    · simp only [Store.findTenant, S.tenants h]
    · rintro a s s' - ⟨hP, rfl⟩
      exact ⟨hP, owns_findCustomer hfound⟩
  have hwrites : ∀ tenant, Twins env S.Same
      (fun s s' => BothNew env s s' ∧ OwnsCustomer dto.tenantId customer.id s s')
      (fun _ => Anything) (do
        let saved ← TicketService.inTransaction (createTicketWrites dto customer tenant)
        addTicketAnalysis saved.id dto.tenantId (dto.title ++ "\n\n" ++ dto.description)
        invalidateDashboardCache dto.tenantId
        return saved) := fun tenant =>
    (twins_createTicketWrites dto S customer tenant).transaction.bind fun saved =>
      (twins_tell S).bind fun _ => (twins_tell S).bind fun _ => twins_pure _ fun _ _ _ _ => trivial
  refine htenant.bind fun record => twins_orThrow_bind fun tenant _ => ?_
  cases dto.assignedAgentId with
  | none => exact hwrites tenant
  | some agentId =>
    simp only [discard, Functor.discard, LawfulFunctor.map_const, Function.comp_apply,
      map_eq_pure_bind, bind_assoc, pure_bind]
    exact (twins_findAssignableAgentOrThrow S agentId).bind fun _ => hwrites tenant

theorem twins_updateTicket (dto : UpdateTicketDto) (S : CallScope env dto.tenantId) :
    Twins env S.Same P (fun _ => Anything) (updateTicket dto) := by
  refine (twins_getTicketOrThrow S).bind fun ticket => twins_lift_bind fun _ _ =>
    twins_lift_bind fun updated hupdated => ?_
  have hid : updated.row.id = ticket.row.id := (updatedEntity_keeps hupdated).id
  have hwrites : Twins env S.Same
      (fun s s' => P s s' ∧ (ticket.row.id = dto.ticketId ∧ ticket.events = []) ∧
        OwnsTicket dto.tenantId ticket.row.id s s') (fun _ => Anything)
      (updateTicketWrites dto updated (changedValues dto ticket.row)) := by
    refine (twins_ticketUpdate S fun s s' hP => hid ▸ hP.2.2).bind fun written => ?_
    split
    · exact twins_pure _ fun _ _ _ _ => trivial
    · exact Twins.bind (twins_activityCreate S fun _ => rfl) fun _ =>
        (twins_auditCreate S _).bind fun _ => twins_pure _ fun _ _ _ _ => trivial
  exact twins_refresh S hwrites

theorem twins_assignTicket (dto : AssignTicketDto) (S : CallScope env dto.tenantId) :
    Twins env S.Same P (fun _ => Anything) (assignTicket dto) := by
  refine (twins_getTicketOrThrow S).bind fun ticket =>
    .of_known (fun _ _ hP => hP.2.1) fun hknown => ?_
  refine (twins_findAssignableAgentOrThrow S dto.agentId).bind fun agent =>
    twins_lift_bind fun _ _ => twins_draw_bind fun _ => twins_draw_bind fun _ => ?_
  refine twins_refresh S (twins_ticketWrites S (fun _ => rfl) ?_ fun _ _ hP => hP.2.2)
  simp only [TicketEntity.assign, hknown.2]
  exact told_single S (by simp [EventBody.eventType])

theorem movedEntity_id {now : Time} {header header' : EventHeader} {newStatus : TicketStatus}
    {changedById : Uuid} {ticket moved : TicketEntity}
    (h : movedEntity newStatus now header header' changedById ticket = .ok moved) :
    moved.row.id = ticket.row.id := by
  unfold movedEntity at h
  split at h
  · exact (resolve_keeps h).id
  · exact (changeStatus_keeps h).id

theorem twins_changeStatus (dto : ChangeStatusDto) (S : CallScope env dto.tenantId) :
    Twins env S.Same P (fun _ => Anything) (changeStatus dto) := by
  refine (twins_getTicketOrThrow S).bind fun ticket =>
    .of_known (fun _ _ hP => hP.2.1) fun hknown => ?_
  refine twins_lift_bind fun newStatus _ => twins_draw_bind fun _ => twins_draw_bind fun _ =>
    twins_draw_bind fun _ => twins_lift_bind fun moved hmoved => ?_
  have hid : moved.row.id = ticket.row.id := movedEntity_id hmoved
  have htold : Told S moved.events := told_movedEntity S hknown.2 hmoved
  refine Twins.bind (Twins.transaction (twins_ticketWrites S (fun _ => rfl) htold fun _ _ hP =>
    hid ▸ hP.2.2)) fun written => (twins_tell S).bind fun _ => ?_
  have hsummary : Twins env S.Same Anything (fun _ => Anything)
      (addSummary dto newStatus moved.row) := by
    unfold addSummary
    split
    · exact twins_tell S
    · exact twins_pure _ fun _ _ _ _ => trivial
  exact hsummary.bind fun _ => twins_pure _ fun _ _ _ _ => trivial

theorem twins_escalateTicket (dto : EscalateTicketDto) (S : CallScope env dto.tenantId) :
    Twins env S.Same P (fun _ => Anything) (escalateTicket dto) := by
  refine (twins_getTicketOrThrow S).bind fun ticket =>
    .of_known (fun _ _ hP => hP.2.1) fun hknown => ?_
  refine twins_lift_bind fun _ _ => twins_draw_bind fun _ => twins_draw_bind fun _ =>
    twins_lift_bind fun escalated hescalated => twins_draw_bind fun _ => ?_
  have hid : escalated.row.id = ticket.row.id := (escalate_keeps hescalated).id
  exact twins_refresh S (twins_ticketWrites S (fun _ => rfl)
    (told_escalate S hknown.2 hescalated) fun _ _ hP => hid ▸ hP.2.2)

end tickets

section comments
variable {env : ServiceEnv} {A : Uuid} {P : Store → Store → Prop}
open Ticketing TicketService

/-- What the scope has to allow of a comment that is added. -/
structure Commentable (dto : AddCommentDto) (S : CallScope env A) : Prop where
  adds : ∀ comment : TicketComment, comment.tenantId = dto.tenantId →
    comment.ticketId = dto.ticketId → comment.type = dto.type → S.Adds comment
  tells : ∀ n id, S.Tells ((env.header n).event
    (.commentAdded dto.ticketId dto.tenantId id dto.authorId dto.type))

theorem twins_addCommentWrites (dto : AddCommentDto) (S : CallScope env dto.tenantId)
    (hallows : Commentable dto S) {ticket : TicketEntity} {comment : TicketCommentEntity} {n m : Nat}
    {createdAt : Time} (author : User)
    (hcomment : comment = .create (env.header m) (commentProps dto (env.uuid n) createdAt))
    (hticket : ticket.row.id = dto.ticketId) (hnone : ticket.events = []) :
    Twins env S.Same (fun s s' => BothNew env s s' ∧ OwnsTicket dto.tenantId dto.ticketId s s')
      (fun _ => Anything) (addCommentWrites dto ticket comment author) := by
  subst hcomment
  have hreply : Twins env S.Same (OwnsTicket dto.tenantId dto.ticketId)
      (fun replied _ _ => Told S replied.events) (replyStatus dto ticket) := by
    unfold replyStatus
    split
    · refine twins_draw_bind fun _ => twins_draw_bind fun _ =>
        twins_lift_bind fun moved hmoved => ?_
      have hmovedId : moved.row.id = dto.ticketId := (changeStatus_keeps hmoved).id.trans hticket
      exact (twins_ticketUpdate S fun _ _ howns => hmovedId ▸ howns).bind fun _ =>
        twins_pure _ fun _ _ _ _ => told_changeStatus S hnone hmoved
    · refine twins_pure _ fun _ _ _ _ event hevent => ?_
      rw [hnone] at hevent
      cases hevent
  have htells : Told S (TicketCommentEntity.create (env.header m)
      (commentProps dto (env.uuid n) createdAt)).events := by
    intro event hevent
    rw [List.mem_singleton.mp hevent]
    exact hallows.tells m (env.uuid n)
  have hsave : Twins env S.Same
      (fun s s' => BothNew env s s' ∧ OwnsTicket dto.tenantId dto.ticketId s s')
      (fun _ => OwnsTicket dto.tenantId dto.ticketId)
      (CommentRepository.save (commentProps dto (env.uuid n) createdAt)) :=
    twins_commentSave S rfl (fun _ => hallows.adds _ rfl rfl rfl) rfl rfl
  refine hsave.bind fun _ => hreply.bind fun moved => .of_known (fun _ _ hP => hP) fun htold => ?_
  exact Twins.bind (twins_activityCreate S fun _ => rfl) fun _ =>
    (twins_publishAll S htold).bind fun _ => twins_publishAll S htells

theorem twins_addComment (dto : AddCommentDto) (S : CallScope env dto.tenantId)
    (hallows : Commentable dto S) :
    Twins env S.Same (BothNew env) (fun _ => Anything) (addComment dto) := by
  refine (twins_getTicketOrThrow S).bind fun ticket =>
    .of_known (fun _ _ hP => hP.2.1) fun hknown => ?_
  obtain ⟨hid, hnone⟩ := hknown
  have hauthor : Twins env S.Same
      (fun s s' => BothNew env s s' ∧ (ticket.row.id = dto.ticketId ∧ ticket.events = []) ∧
        OwnsTicket dto.tenantId ticket.row.id s s')
      (fun _ s s' => BothNew env s s' ∧ OwnsTicket dto.tenantId dto.ticketId s s')
      (read .root .userFind .database (Store.findUser dto.authorId) : ServiceM (Option User)) := by
    refine (twins_readRoot fun s s' h => ?_).mono (fun _ _ _ hP => hP) fun _ _ _ _ hP => ?_
    · simp only [Store.findUser, S.users h]
    · exact ⟨hP.1, hid ▸ hP.2.2⟩
  refine hauthor.bind fun found => twins_lift_bind fun author _ => twins_lift_bind fun _ _ =>
    twins_draw_bind fun n => twins_draw_bind fun _ => twins_draw_bind fun _ => ?_
  refine Twins.bind (Twins.transaction
    (twins_addCommentWrites dto S hallows author rfl hid hnone))
    fun _ => twins_draw_bind fun _ => twins_draw_bind fun _ => ?_
  have hsentiment : Twins env S.Same Anything (fun _ => Anything) (addSentiment dto) := by
    unfold addSentiment
    split
    · exact twins_tell S
    · exact twins_pure _ fun _ _ _ _ => trivial
  exact hsentiment.bind fun _ => twins_pure _ fun _ _ _ _ => trivial

/-- A comment is looked up in the organization before it is written by its id alone. -/
theorem twins_findComment_bind {α : Type} (S : CallScope env A) {commentId : Uuid}
    {error : AppError} {f : TicketComment → ServiceM α}
    (hnames : ∀ s s', P s s' → S.Names commentId s s')
    (h : ∀ comment, comment.id = commentId →
      Twins env S.Same (fun s s' => P s s' ∧ OwnsComment A comment.id s s') (fun _ => Anything)
        (f comment)) :
    Twins env S.Same P (fun _ => Anything) (do
      let found ← CommentRepository.findById commentId A
      let comment ← lift (orThrow error found)
      f comment) := by
  have hfind : Twins env S.Same P
      (fun found s s' => P s s' ∧ found = s.findComment commentId A)
      (CommentRepository.findById commentId A) :=
    twins_read fun s s' h hP => S.findComment h (hnames s s' hP)
  refine hfind.bind fun found => twins_orThrow_bind fun comment hfound => ?_
  have hid : ∀ s s', (P s s' ∧ found = s.findComment commentId A) → comment.id = commentId := by
    rintro s s' ⟨-, rfl⟩
    exact (mem_of_find?_owned hfound).2.1
  refine .of_known hid fun hid => (h comment hid).mono ?_ fun _ _ _ _ h => h
  rintro s s' - ⟨hP, rfl⟩
  exact ⟨hP, owns_findComment hfound⟩

theorem twins_editComment (dto : EditCommentDto) (S : CallScope env dto.tenantId)
    (hnames : ∀ s s', P s s' → S.Names dto.commentId s s') :
    Twins env S.Same P (fun _ => Anything) (editComment dto) := by
  refine twins_findComment_bind S hnames fun comment hcomment => twins_lift_bind fun _ _ =>
    (twins_getTicketOrThrow S).bind fun ticket => twins_lift_bind fun _ _ => twins_draw_bind fun _ =>
    twins_lift_bind fun edited hedited => ?_
  have hid : edited.row.id = comment.id := by
    unfold TicketCommentEntity.edit at hedited
    split at hedited
    · cases hedited
    · cases hedited
      rfl
  refine Twins.transaction (Twins.bind (twins_commentUpdate S (fun s s' hP => ?_)
    fun _ _ hP => hid ▸ hP.1.2) fun _ => ?_)
  · rw [hid, hcomment]
    exact hnames s s' hP.1.1
  · exact Twins.bind (twins_activityCreate S fun _ => rfl) fun _ =>
      twins_pure _ fun _ _ _ _ => trivial

theorem twins_deleteComment (dto : DeleteCommentDto) (S : CallScope env dto.tenantId)
    (hnames : ∀ s s', P s s' → S.Names dto.commentId s s') :
    Twins env S.Same P (fun _ => Anything) (deleteComment dto) := by
  refine twins_findComment_bind S hnames fun comment _ => twins_lift_bind fun _ _ =>
    (twins_getTicketOrThrow S).bind fun ticket => twins_lift_bind fun _ _ => ?_
  exact Twins.transaction (Twins.bind (twins_commentDelete S fun s s' hP => hnames s s' hP.1.1)
    fun _ => twins_activityCreate S fun _ => rfl)

end comments

section customers
variable {env : ServiceEnv} {P : Store → Store → Prop}
open Customers CustomerService

theorem twins_createCustomer (dto : CreateCustomerDto) (S : CallScope env dto.tenantId) :
    Twins env S.Same (BothNew env) (fun _ => Anything) (createCustomer dto) := by
  have htaken : Twins env S.Same (BothNew env) (fun _ => BothNew env)
      (CustomerRepository.existsByEmail dto.email dto.tenantId) := by
    refine (twins_read fun s s' h _ => ?_).mono (fun _ _ _ hP => hP) fun _ _ _ _ hP => hP.1
    rw [S.customersWithEmail h]
  refine htaken.bind fun taken => twins_lift_bind fun _ _ =>
    (twins_assertAssignable S dto.assignedAgentId).bind fun _ => twins_draw_bind fun n =>
    twins_lift_bind fun email _ => twins_draw_bind fun _ => twins_draw_bind fun _ => ?_
  refine Twins.transaction (Twins.bind (twins_customerSave S (n := n) rfl rfl) fun saved => ?_)
  exact Twins.bind (twins_activityCreate S fun _ => rfl) fun _ =>
    (twins_auditCreate S _).bind fun _ =>
    (twins_publishAll S (told_single S (by simp [EventBody.eventType]))).bind fun _ =>
    twins_pure _ fun _ _ _ _ => trivial

theorem updatedRow_id (dto : UpdateCustomerDto) (customer : CustomerEntity) :
    (withNewStatus (newStatus dto customer.row) (withAgent (newAgent dto customer.row)
      (customer.updateProfile dto.fullName dto.phone dto.company dto.notes))).row.id =
        customer.row.id :=
  (withNewStatus_row _ _).1.trans (withAgent_row _ _).1

theorem twins_updateCustomer (dto : UpdateCustomerDto) (S : CallScope env dto.tenantId) :
    Twins env S.Same P (fun _ => Anything) (updateCustomer dto) := by
  refine (twins_getCustomerOrThrow S).bind fun customer =>
    (twins_assertAssignable S (newAgent dto customer.row)).bind fun _ => Twins.transaction ?_
  refine Twins.bind (twins_customerUpdate S fun _ _ hP => updatedRow_id dto customer ▸ hP.2.2)
    fun written => ?_
  split
  · exact twins_pure _ fun _ _ _ _ => trivial
  · exact Twins.bind (twins_activityCreate S fun _ => rfl) fun _ =>
      (twins_auditCreate S _).bind fun _ => twins_pure _ fun _ _ _ _ => trivial

/-- The tickets of the organization are looked at before; what else refers to the customer must
be in the scope too. -/
theorem twins_deleteCustomer (customerId tenantId deletedById : Uuid) (deletedByRole : UserRole)
    (S : CallScope env tenantId) :
    Twins env S.Same
      (fun s s' => OwnsCustomer tenantId customerId s s' → S.Refers customerId s s')
      (fun _ => Anything) (deleteCustomer customerId tenantId deletedById deletedByRole) := by
  have hfind : Twins env S.Same
      (fun s s' => OwnsCustomer tenantId customerId s s' → S.Refers customerId s s')
      (fun _ => S.Refers customerId) (getCustomerOrThrow customerId tenantId) := by
    refine (twins_getCustomerOrThrow S).mono (fun _ _ _ h => h) fun found s s' _ h => ?_
    obtain ⟨hwithin, hid, howns⟩ := h
    rw [hid] at howns
    exact hwithin howns
  have hcount : Twins env S.Same (S.Refers customerId) (fun _ => S.Refers customerId)
      (CustomerRepository.hasTickets customerId tenantId) :=
    (twins_read fun _ _ h _ => S.hasTickets h).mono (fun _ _ _ h => h) fun _ _ _ _ h => h.1
  refine hfind.bind fun _ => hcount.bind fun referenced => twins_lift_bind fun _ _ => ?_
  exact ((twins_customerDelete S fun _ _ h => h).bind fun _ => twins_auditCreate S _).transaction

theorem twins_updateRiskScore (customerId tenantId : Uuid) (score : JsNumber) (label : String)
    (S : CallScope env tenantId) :
    Twins env S.Same P (fun _ => Anything)
      (Identity.CustomerService.updateRiskScore customerId tenantId score label) := by
  have hfind : Twins env S.Same P
      (fun found s s' => P s s' ∧ found = s.findCustomer customerId tenantId)
      (CustomerRepository.findById customerId tenantId) := twins_read fun _ _ h _ => S.findCustomer h
  refine hfind.bind fun found => twins_orThrow_bind fun customer hfound => twins_draw_bind fun n =>
    twins_lift_bind fun scored hscored => ?_
  have hid : scored.row.id = customer.id ∧ Told S scored.events := by
    obtain ⟨riskScore, -, hscored⟩ := bind_eq_ok.mp hscored
    cases hscored
    exact ⟨rfl, told_single S (by simp [EventBody.eventType])⟩
  have howns : ∀ s s', (P s s' ∧ found = s.findCustomer customerId tenantId) →
      OwnsCustomer tenantId scored.row.id s s' := by
    rintro s s' ⟨-, rfl⟩
    rw [hid.1]
    exact owns_findCustomer hfound
  refine (twins_customerUpdate S howns).bind fun _ => ?_
  exact Twins.bind (twins_activityCreate S fun _ => rfl) fun _ =>
    (twins_publishAll S hid.2).bind fun _ => twins_pure _ fun _ _ _ _ => trivial

end customers
end OmniSupport.Tenancy
