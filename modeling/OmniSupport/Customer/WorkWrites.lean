import OmniSupport.Customer.CustomerService
import OmniSupport.Identity.SessionsEnd
import OmniSupport.Ticket.AffectedTickets

/-! Whom the calls on tickets and customers give work to, and what the removal of an agent
takes away. -/
namespace OmniSupport.Customers
open Foundation Database Effect Ticketing Identity

variable {env : ServiceEnv} {d d' : Nat} {s s' t : Store}

/-- The agent has an active ticket or a customer of the organization. -/
def HasWork (s : Store) (tenantId agentId : Uuid) : Prop :=
  (∃ ticket ∈ s.tickets, ticket.tenantId = tenantId ∧ ticket.assignedAgentId = some agentId ∧
    ticket.status.isActive = true) ∨
  ∃ customer ∈ s.customers, customer.tenantId = tenantId ∧ customer.assignedAgentId = some agentId

/-- The primary keys. -/
structure KeyedRows (s : Store) : Prop where
  tickets : (s.tickets.map Ticket.id).Nodup
  customers : (s.customers.map Customer.id).Nodup

/-- Work only goes to agents of `A`; the accounts stay as they are. -/
structure WorkGoes (A : Uuid → Uuid → Prop) (s s' : Store) : Prop where
  work : ∀ tenantId agentId, HasWork s' tenantId agentId →
    HasWork s tenantId agentId ∨ A tenantId agentId
  users : s'.users = s.users
  keyed : KeyedRows s'

/-- The rows that tell who has work. -/
def workRows (s : Store) : List Ticket × List Customer × List User :=
  (s.tickets, s.customers, s.users)

section goes
variable {A : Uuid → Uuid → Prop}

theorem WorkGoes.refl (h : KeyedRows s) : WorkGoes A s s where
  work _ _ hwork := Or.inl hwork
  users := rfl
  keyed := h

theorem WorkGoes.of_workRows (h : WorkGoes A s t) (hrows : workRows s' = workRows t) :
    WorkGoes A s s' := by
  simp only [workRows, Prod.mk.injEq] at hrows
  obtain ⟨htickets, hcustomers, husers⟩ := hrows
  refine ⟨fun tenantId agentId hwork => ?_, husers.trans h.users, ?_⟩
  · rw [HasWork, htickets, hcustomers] at hwork
    exact h.work tenantId agentId hwork
  · exact ⟨htickets ▸ h.keyed.tickets, hcustomers ▸ h.keyed.customers⟩

/-- A write of one ticket whose assignee, if the row is active, had work or is to get it. -/
theorem WorkGoes.updateTicket {row : Ticket} {f : Ticket → Ticket} (hkeyed : KeyedRows s)
    (hm : row ∈ s.tickets) (hid : ∀ row, (f row).id = row.id)
    (hwork : ∀ agentId, (f row).assignedAgentId = some agentId → (f row).status.isActive = true →
      HasWork s (f row).tenantId agentId ∨ A (f row).tenantId agentId) :
    WorkGoes A s (s.updateTicket row.id f) where
  work tenantId agentId h := by
    rcases h with ⟨ticket, hticket, rfl, hassigned, hactive⟩ | hcustomer
    · rcases Table.mem_updateMany.mp hticket with ⟨before, hbefore, hsame, rfl⟩ | ⟨hticket, -⟩
      · obtain rfl : before = row := List.inj_on_of_nodup_map hkeyed.tickets hbefore hm hsame
        exact hwork agentId hassigned hactive
      · exact Or.inl (Or.inl ⟨ticket, hticket, rfl, hassigned, hactive⟩)
    · exact Or.inl (Or.inr hcustomer)
  users := rfl
  keyed := by
    refine ⟨?_, hkeyed.customers⟩
    rw [Store.updateTicket, Table.map_updateMany hid]
    exact hkeyed.tickets

theorem WorkGoes.insertTicket {row : Ticket} (h : WorkGoes A s t)
    (hnew : ∀ ticket ∈ t.tickets, ticket.id ≠ row.id)
    (hwork : ∀ agentId, row.assignedAgentId = some agentId → A row.tenantId agentId) :
    WorkGoes A s (t.insertTicket row) where
  work tenantId agentId hhas := by
    rcases hhas with ⟨ticket, hticket, htenant, hassigned, hactive⟩ | hcustomer
    · rcases List.mem_append.mp hticket with hticket | hticket
      · exact h.work _ _ (Or.inl ⟨ticket, hticket, htenant, hassigned, hactive⟩)
      · rw [List.mem_singleton.mp hticket] at htenant hassigned
        exact Or.inr (htenant ▸ hwork agentId hassigned)
    · exact h.work _ _ (Or.inr hcustomer)
  users := h.users
  keyed := ⟨Table.nodup_insert h.keyed.tickets hnew, h.keyed.customers⟩

/-- A write of one customer whose agent had work or is to get it. -/
theorem WorkGoes.updateCustomer {row : Customer} {f : Customer → Customer} (h : WorkGoes A s t)
    (hm : row ∈ t.customers) (hid : ∀ row, (f row).id = row.id)
    (hwork : ∀ agentId, (f row).assignedAgentId = some agentId →
      HasWork t (f row).tenantId agentId ∨ A (f row).tenantId agentId) :
    WorkGoes A s (t.updateCustomer row.id f) where
  work tenantId agentId hhas := by
    rcases hhas with hticket | ⟨customer, hcustomer, rfl, hassigned⟩
    · exact h.work _ _ (Or.inl hticket)
    · rcases Table.mem_updateMany.mp hcustomer with ⟨before, hbefore, hsame, rfl⟩ | ⟨hcustomer, -⟩
      · obtain rfl : before = row := List.inj_on_of_nodup_map h.keyed.customers hbefore hm hsame
        rcases hwork agentId hassigned with hhas | hgets
        · exact h.work _ _ hhas
        · exact Or.inr hgets
      · exact h.work _ _ (Or.inr ⟨customer, hcustomer, rfl, hassigned⟩)
  users := h.users
  keyed := by
    refine ⟨h.keyed.tickets, ?_⟩
    rw [Store.updateCustomer, Table.map_updateMany hid]
    exact h.keyed.customers

theorem WorkGoes.insertCustomer {row : Customer} (h : WorkGoes A s t)
    (hnew : ∀ customer ∈ t.customers, customer.id ≠ row.id)
    (hwork : ∀ agentId, row.assignedAgentId = some agentId → A row.tenantId agentId) :
    WorkGoes A s (t.insertCustomer row) where
  work tenantId agentId hhas := by
    rcases hhas with hticket | ⟨customer, hcustomer, htenant, hassigned⟩
    · exact h.work _ _ (Or.inl hticket)
    · rcases List.mem_append.mp hcustomer with hcustomer | hcustomer
      · exact h.work _ _ (Or.inr ⟨customer, hcustomer, htenant, hassigned⟩)
      · rw [List.mem_singleton.mp hcustomer] at htenant hassigned
        exact Or.inr (htenant ▸ hwork agentId hassigned)
  users := h.users
  keyed := ⟨h.keyed.tickets, Table.nodup_insert h.keyed.customers hnew⟩

end goes

section bodies
open TicketService

theorem yields_publishAll_work {events : List DomainEvent} {u : Unit}
    (h : Yields env d s (OutboxPublisher.publishAll events) u d' s') :
    workRows s' = workRows s := by
  obtain ⟨outbox, rfl⟩ := yields_publishAll_outbox h
  rfl

theorem workRows_insert_update {row : Ticket} {id : Uuid} {f : Customer → Customer}
    (h : workRows s' = workRows s) :
    workRows ((s'.insertTicket row).updateCustomer id f) =
      workRows ((s.insertTicket row).updateCustomer id f) := by
  simp only [workRows, Prod.mk.injEq] at h
  obtain ⟨htickets, hcustomers, husers⟩ := h
  simp [workRows, Store.insertTicket, Store.updateCustomer, htickets, hcustomers, husers]

theorem yields_ticketWrites_work {ticket : TicketEntity} {activity : Time → ActivityLog}
    {audit : Time → AuditLog} {updated : Ticket}
    (h : Yields env d s (ticketWrites ticket activity audit) updated d' s') :
    ∃ time, workRows s' =
      workRows (s.updateTicket ticket.row.id (Ticket.write time ticket.row)) := by
  obtain ⟨writtenAt, activityAt, auditAt, d₁, u, hpublish⟩ := yields_ticketWrites_rows h
  exact ⟨writtenAt, (yields_publishAll_work hpublish).trans rfl⟩

theorem yields_updateTicketWrites_work {dto : UpdateTicketDto} {ticket : TicketEntity}
    {values : List (String × JsonValue × JsonValue)} {updated : Ticket}
    (h : Yields env d s (updateTicketWrites dto ticket values) updated d' s') :
    ∃ time, workRows s' =
      workRows (s.updateTicket ticket.row.id (Ticket.write time ticket.row)) := by
  obtain ⟨writtenAt, activityAt, auditAt, ⟨-, rfl⟩ | ⟨-, rfl⟩⟩ := yields_updateTicketWrites_rows h
  · exact ⟨writtenAt, rfl⟩
  · exact ⟨writtenAt, rfl⟩

/-- A new ticket for the agent of the request, and the activity of its customer. -/
theorem yields_createTicketWrites_work {dto : CreateTicketDto} {customer : Customer}
    {tenant : Tenant} {saved : Ticket}
    (h : Yields env d s (createTicketWrites dto customer tenant) saved d' s') :
    ∃ activeAt time, saved.tenantId = dto.tenantId ∧
      saved.assignedAgentId = dto.assignedAgentId ∧ (∀ ticket ∈ s.tickets, ticket.id ≠ saved.id) ∧
      workRows s' = workRows ((s.insertTicket saved).updateCustomer customer.id
        (Customer.write time (customer.recordActivity activeAt))) := by
  obtain ⟨priority, id, n, today, createdAt, savedAt, activeAt, customerAt, activityAt, auditAt, d₁,
    u, -, -, hsaved, hnew, hpublish⟩ := yields_createTicketWrites_rows h
  obtain ⟨sequences, hnext⟩ := nextTicketNumber_sequences (s := s) dto.tenantId
  have hrows : workRows (s.nextTicketNumber dto.tenantId).2 = workRows s := by
    rw [hnext]
    rfl
  subst hsaved
  refine ⟨activeAt, customerAt, rfl, rfl, hnew, ?_⟩
  exact (yields_publishAll_work hpublish).trans (workRows_insert_update hrows)

end bodies

/-- The account exists and is active. -/
def Active (s : Store) (userId : Uuid) : Prop :=
  ∃ user ∈ s.users, user.id = userId ∧ user.status = .active

section tickets
open TicketService
variable {A : Uuid → Uuid → Prop}

theorem active_of_findAssignableAgent {agentId tenantId : Uuid} {agent : User}
    (h : s.findAssignableAgent agentId tenantId = some agent) : Active s agentId := by
  have hcond := List.find?_some h
  simp only [decide_eq_true_eq] at hcond
  exact ⟨agent, List.mem_of_find?_eq_some h, hcond.1, hcond.2.2.2⟩

/-- The write of a changed entity: its assignee, if it is active, had work or is to get it. -/
theorem WorkGoes.writeTicket {row written : Ticket} {time : Time} (hkeyed : KeyedRows s)
    (hm : row ∈ s.tickets) (hid : written.id = row.id)
    (hrows : workRows s' = workRows (s.updateTicket written.id (Ticket.write time written)))
    (hwork : ∀ agentId, written.assignedAgentId.or row.assignedAgentId = some agentId →
      written.status.isActive = true → HasWork s row.tenantId agentId ∨ A row.tenantId agentId) :
    WorkGoes A s s' := by
  rw [hid] at hrows
  have hgoes : WorkGoes A s (s.updateTicket row.id (Ticket.write time written)) :=
    .updateTicket hkeyed hm (fun _ => rfl) hwork
  exact hgoes.of_workRows hrows

theorem hasWork_of_ticket {row : Ticket} {agentId : Uuid} (hm : row ∈ s.tickets)
    (hassigned : row.assignedAgentId = some agentId) (hactive : row.status.isActive = true) :
    HasWork s row.tenantId agentId :=
  Or.inl ⟨row, hm, rfl, hassigned, hactive⟩

theorem atomic_updateTicket_work (hkeyed : KeyedRows s) (dto : UpdateTicketDto) :
    Atomic env 0 s (WorkGoes A s) (updateTicket dto) := by
  refine atomic_updateTicket_of fun row updated u d' s' hticket hactive hupdated hy => ?_
  obtain ⟨time, hrows⟩ := yields_updateTicketWrites_work hy
  have hm := (findTicket_some hticket).1
  obtain ⟨_, _, _, _, _, _, hrow⟩ := updatedEntity_edited hupdated
  refine WorkGoes.writeTicket hkeyed hm (by rw [hrow]; rfl) hrows fun agentId hassigned hopen => ?_
  rw [hrow] at hassigned hopen
  simp only [TicketEntity.reconstitute, Option.or_self] at hassigned hopen
  exact Or.inl (hasWork_of_ticket hm hassigned hopen)

theorem atomic_escalateTicket_work (hkeyed : KeyedRows s) (dto : EscalateTicketDto) :
    Atomic env 0 s (WorkGoes A s) (escalateTicket dto) := by
  refine atomic_escalateTicket_of fun row escalated u d' s' hticket hpolicy hescalated hy => ?_
  obtain ⟨time, hrows⟩ := yields_ticketWrites_work hy
  have hm := (findTicket_some hticket).1
  simp only [TicketEntity.escalate] at hescalated
  split at hescalated
  · cases hescalated
  · cases hescalated
    refine WorkGoes.writeTicket hkeyed hm (by rfl) hrows fun agentId hassigned hopen => ?_
    simp only [TicketEntity.reconstitute, Option.or_self] at hassigned hopen
    exact Or.inl (hasWork_of_ticket hm hassigned hopen)

theorem atomic_assignTicket_work (hkeyed : KeyedRows s) (dto : AssignTicketDto) :
    Atomic env 0 s (WorkGoes (fun _ => Active s) s) (assignTicket dto) := by
  refine atomic_assignTicket_of fun row agent u d' s' hticket hagent hpolicy hy => ?_
  obtain ⟨time, hrows⟩ := yields_ticketWrites_work hy
  have hm := (findTicket_some hticket).1
  refine WorkGoes.writeTicket hkeyed hm (by rfl) hrows fun agentId hassigned _ => Or.inr ?_
  have hsame : dto.agentId = agentId := Option.some.inj hassigned
  exact hsame ▸ active_of_findAssignableAgent hagent

/-- The assignees of a resolved ticket that is opened again. -/
def Reopened (s : Store) (dto : ChangeStatusDto) (tenantId agentId : Uuid) : Prop :=
  ∃ row, s.findTicket dto.ticketId dto.tenantId = some row ∧ row.status = .resolved ∧
    dto.newStatus = "OPEN" ∧ row.tenantId = tenantId ∧ row.assignedAgentId = some agentId

theorem statusCreate_ok {value : String} {status : TicketStatus}
    (h : TicketStatus.create value = .ok status) : status.text = value := by
  simp only [TicketStatus.create] at h
  split at h
  · rename_i found hfound
    cases h
    simpa using List.find?_some hfound
  · cases h

theorem changeStatus_row {now : Time} {header : EventHeader} {newStatus : TicketStatus}
    {changedById : Uuid} {row : Ticket} {moved : TicketEntity}
    (h : (TicketEntity.reconstitute row).changeStatus now header newStatus changedById =
      .ok moved) :
    row.status.canTransitionTo newStatus = true ∧ ∃ resolvedAt closedAt,
      moved.row =
        { row with status := newStatus, resolvedAt := resolvedAt, closedAt := closedAt } := by
  simp only [TicketEntity.changeStatus] at h
  split at h
  · rename_i hmove
    cases h
    exact ⟨hmove, _, _, rfl⟩
  · cases h

theorem movedEntity_row {now : Time} {header header' : EventHeader} {newStatus : TicketStatus}
    {changedById : Uuid} {row : Ticket} {moved : TicketEntity}
    (h : movedEntity newStatus now header header' changedById (.reconstitute row) = .ok moved) :
    row.status.canTransitionTo newStatus = true ∧ ∃ resolvedAt closedAt,
      moved.row =
        { row with status := newStatus, resolvedAt := resolvedAt, closedAt := closedAt } := by
  simp only [movedEntity] at h
  split at h
  · rename_i hresolved
    obtain rfl : newStatus = .resolved := of_decide_eq_true hresolved
    obtain ⟨changed, hchanged, h⟩ := bind_eq_ok.mp h
    cases h
    have hrow := changeStatus_row hchanged
    exact hrow
  · exact changeStatus_row h

/-- An active status comes from an active one, or from RESOLVED by opening again. -/
theorem active_of_transition {status next : TicketStatus}
    (h : status.canTransitionTo next = true) (hactive : next.isActive = true) :
    status.isActive = true ∨ (status = .resolved ∧ next = .open) := by
  cases status <;> cases next <;> simp_all [TicketStatus.canTransitionTo,
    TicketStatus.transitions, TicketStatus.isActive]

theorem atomic_changeStatus_work (hkeyed : KeyedRows s) (dto : ChangeStatusDto) :
    Atomic env 0 s (WorkGoes (Reopened s dto) s) (changeStatus dto) := by
  refine atomic_changeStatus_of fun row newStatus moved u d' s' hticket hstatus hmoved hy => ?_
  obtain ⟨time, hrows⟩ := yields_ticketWrites_work hy
  have hm := (findTicket_some hticket).1
  obtain ⟨hmove, resolvedAt, closedAt, hrow⟩ := movedEntity_row hmoved
  refine WorkGoes.writeTicket hkeyed hm (by rw [hrow]) hrows fun agentId hassigned hopen => ?_
  rw [hrow] at hassigned hopen
  simp only [Option.or_self] at hassigned hopen
  rcases active_of_transition hmove hopen with hactive | ⟨hresolved, rfl⟩
  · exact Or.inl (hasWork_of_ticket hm hassigned hactive)
  · exact Or.inr ⟨row, hticket, hresolved, (statusCreate_ok hstatus).symm, rfl, hassigned⟩

/-- A write of a customer in memory that keeps its agent. -/
theorem WorkGoes.touchCustomer {customer : Customer} (h : WorkGoes A s t)
    (hm : customer ∈ t.customers) (written : Customer) (time : Time)
    (hid : written.id = customer.id) (hsame : written.assignedAgentId = customer.assignedAgentId) :
    WorkGoes A s (t.updateCustomer written.id (Customer.write time written)) := by
  rw [hid]
  refine h.updateCustomer hm (fun _ => rfl) fun agentId hassigned => Or.inl (Or.inr ?_)
  have hor : written.assignedAgentId.or customer.assignedAgentId = some agentId := hassigned
  rw [hsame, Option.or_self] at hor
  exact ⟨customer, hm, rfl, hor⟩

theorem findCustomer_mem {id tenantId : Uuid} {customer : Customer}
    (h : s.findCustomer id tenantId = some customer) :
    customer ∈ s.customers ∧ customer.tenantId = tenantId := by
  have hcond := List.find?_some h
  simp only [decide_eq_true_eq] at hcond
  exact ⟨List.mem_of_find?_eq_some h, hcond.2⟩

theorem atomic_createTicket_work (hkeyed : KeyedRows s) (dto : CreateTicketDto) :
    Atomic env 0 s (WorkGoes (fun _ => Active s) s) (createTicket dto) := by
  refine atomic_createTicket_of
    fun customer tenant saved d' s' hcustomer hblocked htenant hagent hy => ?_
  obtain ⟨activeAt, time, htenantId, hassigned, hnew, hrows⟩ := yields_createTicketWrites_work hy
  have hinserted : WorkGoes (fun _ => Active s) s (s.insertTicket saved) := by
    refine (WorkGoes.refl hkeyed).insertTicket hnew fun agentId hid => ?_
    obtain ⟨agent, hfound⟩ :=
      Option.isSome_iff_exists.mp (hagent agentId (hassigned.symm.trans hid))
    exact active_of_findAssignableAgent hfound
  have htouched := hinserted.touchCustomer (findCustomer_mem hcustomer).1
    (customer.recordActivity activeAt) time rfl rfl
  exact htouched.of_workRows hrows

end tickets

section customers
open CustomerService
variable {A : Uuid → Uuid → Prop}

theorem inside_customerSave (customer : Customer) : Inside (CustomerRepository.save customer) :=
  (inside_draw _).bind fun _ => inside_call _ _ _

theorem inside_createCustomerWrites (dto : CreateCustomerDto) (customer : CustomerEntity) :
    Inside (createCustomerWrites dto customer) :=
  (inside_customerSave _).bind fun _ => (inside_activityCreate _).bind fun _ =>
    (inside_auditCreate _).bind fun _ => (inside_publishAll _).bind fun _ => inside_pure _

theorem inside_updateCustomerWrites (dto : UpdateCustomerDto) (customer : Customer)
    (values : List (String × Option JsonValue × JsonValue)) :
    Inside (updateCustomerWrites dto customer values) := by
  refine (inside_customerUpdate _).bind fun _ => ?_
  split
  · exact inside_pure _
  · exact (inside_activityCreate _).bind fun _ => (inside_auditCreate _).bind fun _ =>
      inside_pure _

theorem yields_customerSave {customer saved : Customer}
    (h : Yields env d s (CustomerRepository.save customer) saved d' s') :
    ∃ time, saved = CustomerRepository.newRow time customer ∧ s' = s.insertCustomer saved ∧
      ∀ row ∈ s.customers, row.id ≠ saved.id := by
  obtain ⟨time, d₁, s₁, hdraw, hcall⟩ := yields_bind (inside_draw _) h
  obtain ⟨rfl, rfl, rfl⟩ := yields_draw hdraw
  obtain ⟨hf, rfl⟩ := yields_call hcall
  split at hf
  · cases hf
  · rename_i hnot
    cases hf
    exact ⟨_, rfl, rfl, fun row hrow hid => hnot ⟨row, hrow, Or.inl hid⟩⟩

theorem yields_createCustomerWrites_work {dto : CreateCustomerDto} {customer : CustomerEntity}
    {saved : Customer} (h : Yields env d s (createCustomerWrites dto customer) saved d' s') :
    ∃ time, saved = CustomerRepository.newRow time customer.row ∧
      (∀ row ∈ s.customers, row.id ≠ saved.id) ∧
      workRows s' = workRows (s.insertCustomer saved) := by
  obtain ⟨row, _, _, hsave, h₁⟩ := yields_bind (inside_customerSave _) h
  obtain ⟨savedAt, hrow, rfl, hnew⟩ := yields_customerSave hsave
  obtain ⟨_, _, _, hactivity, h₂⟩ := yields_bind (inside_activityCreate _) h₁
  obtain ⟨activityAt, rfl, -⟩ := yields_activityCreate hactivity
  obtain ⟨_, _, _, haudit, h₃⟩ := yields_bind (inside_auditCreate _) h₂
  obtain ⟨auditAt, rfl, -⟩ := yields_auditCreate haudit
  obtain ⟨_, _, _, hpublish, h₄⟩ := yields_bind (inside_publishAll _) h₃
  obtain ⟨rfl, -, rfl⟩ := yields_pure h₄
  exact ⟨savedAt, hrow, hnew, (yields_publishAll_work hpublish).trans rfl⟩

theorem yields_updateCustomerWrites_work {dto : UpdateCustomerDto} {customer updated : Customer}
    {values : List (String × Option JsonValue × JsonValue)}
    (h : Yields env d s (updateCustomerWrites dto customer values) updated d' s') :
    ∃ time, workRows s' =
      workRows (s.updateCustomer customer.id (Customer.write time customer)) := by
  obtain ⟨_, _, _, hupdate, h₁⟩ := yields_bind (inside_customerUpdate _) h
  obtain ⟨writtenAt, rfl, -⟩ := yields_customerUpdate hupdate
  refine ⟨writtenAt, ?_⟩
  split at h₁
  · obtain ⟨-, -, rfl⟩ := yields_pure h₁
    rfl
  · obtain ⟨_, _, _, hactivity, h₂⟩ := yields_bind (inside_activityCreate _) h₁
    obtain ⟨activityAt, rfl, -⟩ := yields_activityCreate hactivity
    obtain ⟨_, _, _, haudit, h₃⟩ := yields_bind (inside_auditCreate _) h₂
    obtain ⟨auditAt, rfl, -⟩ := yields_auditCreate haudit
    obtain ⟨-, -, rfl⟩ := yields_pure h₃
    rfl

theorem atomic_assertAssignable {agentId : Option Uuid} {tenantId : Uuid} {β : Type}
    {g : Unit → ServiceM β} {Q : Store → Prop} (h : Atomic env d s Q (g ())) :
    Atomic env d s Q (assertAssignable agentId tenantId >>= g) := by
  cases agentId with
  | none => exact h
  | some agentId =>
    simp only [assertAssignable, assertAssignableAgent, UserRepository.findById, bind_assoc]
    exact atomic_read_bind (atomic_lift_bind fun _ _ => h)

theorem atomic_createCustomer_work (hkeyed : KeyedRows s) (dto : CreateCustomerDto) :
    Atomic env 0 s (WorkGoes (fun _ agentId => dto.assignedAgentId = some agentId) s)
      (createCustomer dto) := by
  simp only [createCustomer, CustomerRepository.existsByEmail]
  refine atomic_read_bind (atomic_require fun htaken => atomic_assertAssignable ?_)
  refine atomic_draw_bind (atomic_lift_bind fun email _ => ?_)
  refine atomic_draw_bind (atomic_draw_bind ?_)
  refine atomic_inTransaction (inside_createCustomerWrites _ _) fun saved d' s' hy => ?_
  obtain ⟨time, hsaved, hnew, hrows⟩ := yields_createCustomerWrites_work hy
  refine ((WorkGoes.refl hkeyed).insertCustomer hnew fun agentId hassigned => ?_).of_workRows hrows
  rw [hsaved] at hassigned
  exact hassigned

theorem withNewStatus_row (status : Option String) (customer : CustomerEntity) :
    (withNewStatus status customer).row.id = customer.row.id ∧
      (withNewStatus status customer).row.assignedAgentId = customer.row.assignedAgentId := by
  unfold withNewStatus
  split <;> exact ⟨rfl, rfl⟩

theorem withAgent_row (agentId : Option Uuid) (customer : CustomerEntity) :
    (withAgent agentId customer).row.id = customer.row.id ∧
      (withAgent agentId customer).row.assignedAgentId =
        agentId.or customer.row.assignedAgentId := by
  cases agentId <;> exact ⟨rfl, rfl⟩

/-- The row an update writes. -/
def updatedRow (dto : UpdateCustomerDto) (customer : Customer) : Customer :=
  (withNewStatus (newStatus dto customer) (withAgent (newAgent dto customer)
    ((CustomerEntity.reconstitute customer).updateProfile dto.fullName dto.phone dto.company
      dto.notes))).row

theorem updatedRow_spec (dto : UpdateCustomerDto) (customer : Customer) :
    (updatedRow dto customer).id = customer.id ∧ (updatedRow dto customer).assignedAgentId =
      (newAgent dto customer).or customer.assignedAgentId := by
  obtain ⟨hid, hassigned⟩ := withNewStatus_row (newStatus dto customer)
    (withAgent (newAgent dto customer) ((CustomerEntity.reconstitute customer).updateProfile
      dto.fullName dto.phone dto.company dto.notes))
  obtain ⟨hid', hassigned'⟩ := withAgent_row (newAgent dto customer)
    ((CustomerEntity.reconstitute customer).updateProfile dto.fullName dto.phone dto.company
      dto.notes)
  exact ⟨hid.trans hid', hassigned.trans hassigned'⟩

theorem atomic_updateCustomer_work (hkeyed : KeyedRows s) (dto : UpdateCustomerDto) :
    Atomic env 0 s (WorkGoes (fun _ agentId => dto.assignedAgentId = some agentId) s)
      (updateCustomer dto) := by
  simp only [updateCustomer, getCustomerOrThrow, CustomerRepository.findById, bind_assoc,
    pure_bind]
  refine atomic_read_bind (atomic_orThrow fun customer hcustomer => atomic_assertAssignable ?_)
  refine atomic_inTransaction (inside_updateCustomerWrites _ _ _) fun saved d' s' hy => ?_
  obtain ⟨time, hwritten⟩ := yields_updateCustomerWrites_work hy
  have hrows : workRows s' = workRows (s.updateCustomer (updatedRow dto customer).id
      (Customer.write time (updatedRow dto customer))) := hwritten
  have hm := (findCustomer_mem hcustomer).1
  obtain ⟨hid, hagent⟩ := updatedRow_spec dto customer
  rw [hid] at hrows
  have hgoes : WorkGoes (fun _ agentId => dto.assignedAgentId = some agentId) s
      (s.updateCustomer customer.id (Customer.write time (updatedRow dto customer))) := by
    refine (WorkGoes.refl hkeyed).updateCustomer hm (fun _ => rfl) fun agentId hassigned => ?_
    simp only [Customer.write, hagent] at hassigned
    cases hnew : newAgent dto customer with
    | none =>
      rw [hnew, Option.none_or, Option.or_self] at hassigned
      exact Or.inl (Or.inr ⟨customer, hm, rfl, hassigned⟩)
    | some newId =>
      rw [hnew, Option.some_or, Option.some_or, Option.some.injEq] at hassigned
      subst hassigned
      exact Or.inr (Option.eq_some_of_filter_eq_some hnew)
  exact hgoes.of_workRows hrows

end customers
end OmniSupport.Customers
