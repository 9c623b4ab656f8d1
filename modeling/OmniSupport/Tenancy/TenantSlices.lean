import OmniSupport.Tenancy.CallScope

/-! Two stores that hold the same rows of one organization: every statement that is made for this
organization answers alike in both, and changes only its rows. -/
namespace OmniSupport.Tenancy
open Foundation Effect Database Table

/-- Both stores hold the same rows of the organization `A`, and of the others the rows that `o`
and `o'` hold. -/
structure SameSlice (A : Uuid) (o o' s s' : Store) : Prop where
  users : s.users = s'.users
  tenants : s.tenants = s'.tenants
  tickets : KeyedSlices Ticket.tenantId Ticket.id A s.tickets s'.tickets
    (o.tickets.filter fun t => t.tenantId ≠ A) (o'.tickets.filter fun t => t.tenantId ≠ A)
  comments : KeyedSlices TicketComment.tenantId TicketComment.id A s.comments s'.comments
    (o.comments.filter fun c => c.tenantId ≠ A) (o'.comments.filter fun c => c.tenantId ≠ A)
  customers : KeyedSlices Customer.tenantId Customer.id A s.customers s'.customers
    (o.customers.filter fun c => c.tenantId ≠ A) (o'.customers.filter fun c => c.tenantId ≠ A)
  activities : Slices ActivityLog.tenantId A s.activities s'.activities
    (o.activities.filter fun a => a.tenantId ≠ A) (o'.activities.filter fun a => a.tenantId ≠ A)
  sequences : Slices TicketSequence.tenantId A s.sequences s'.sequences
    (o.sequences.filter fun q => q.tenantId ≠ A) (o'.sequences.filter fun q => q.tenantId ≠ A)

section finds
variable {A id : Uuid} {o o' s s' : Store}

theorem SameSlice.findTicket (h : SameSlice A o o' s s') :
    s.findTicket id A = s'.findTicket id A :=
  h.tickets.find? fun _ ht => (of_decide_eq_true ht).2

theorem SameSlice.findComment (h : SameSlice A o o' s s') :
    s.findComment id A = s'.findComment id A :=
  h.comments.find? fun _ hc => (of_decide_eq_true hc).2

theorem SameSlice.findCustomer (h : SameSlice A o o' s s') :
    s.findCustomer id A = s'.findCustomer id A :=
  h.customers.find? fun _ hc => (of_decide_eq_true hc).2

theorem SameSlice.hasTickets (h : SameSlice A o o' s s') :
    s.hasTickets id A = s'.hasTickets id A := by
  have hmem : (∃ t ∈ s.tickets, t.customerId = id ∧ t.tenantId = A) ↔
      ∃ t ∈ s'.tickets, t.customerId = id ∧ t.tenantId = A := by
    constructor
    · rintro ⟨t, ht, hid, hA⟩
      exact ⟨t, (h.tickets.mem_iff hA).mp ht, hid, hA⟩
    · rintro ⟨t, ht, hid, hA⟩
      exact ⟨t, (h.tickets.mem_iff hA).mpr ht, hid, hA⟩
  rw [Bool.eq_iff_iff]
  simpa [Store.hasTickets] using hmem

end finds

section writes
variable {A : Uuid} {o o' s s' : Store}

theorem SameSlice.insertActivity (h : SameSlice A o o' s s') {row : ActivityLog}
    (hA : row.tenantId = A) : SameSlice A o o' (s.insertActivity row) (s'.insertActivity row) :=
  { h with activities := h.activities.append hA }

theorem SameSlice.insertAudit (h : SameSlice A o o' s s') (row : AuditLog) :
    SameSlice A o o' (s.insertAudit row) (s'.insertAudit row) :=
  { h with }

theorem SameSlice.enqueueMany (h : SameSlice A o o' s s')
    (rows : List (Outbox.OutboxEvent EventBody)) :
    SameSlice A o o' (s.enqueueMany rows) (s'.enqueueMany rows) := by
  obtain ⟨outbox, hrows⟩ := enqueueMany_outbox (s := s) rows
  obtain ⟨outbox', hrows'⟩ := enqueueMany_outbox (s := s') rows
  rw [hrows, hrows']
  exact { h with }

/-- The number is taken from the sequence row of the organization, which both stores share. -/
theorem SameSlice.nextTicketNumber (h : SameSlice A o o' s s') :
    (s.nextTicketNumber A).1 = (s'.nextTicketNumber A).1 ∧
      SameSlice A o o' (s.nextTicketNumber A).2 (s'.nextTicketNumber A).2 := by
  have hsame := h.sequences.find? (p := fun sequence => sequence.tenantId = A)
    fun _ hrow => of_decide_eq_true hrow
  have howner : ∀ row : TicketSequence, row.tenantId = A → row.tenantId = A := fun _ hrow => hrow
  unfold Store.nextTicketNumber
  rw [← hsame]
  cases s.sequences.find? fun sequence => sequence.tenantId = A with
  | none => exact ⟨rfl, { h with sequences := h.sequences.append rfl }⟩
  | some sequence =>
    refine ⟨rfl, { h with sequences := h.sequences.updateMany (fun _ => rfl) ?_ ?_ }⟩
    · exact fun row _ => howner row
    · exact fun row _ => howner row

theorem SameSlice.countCreatedSince (h : SameSlice A o o' s s') (since : Time) :
    s.countCreatedSince A since = s'.countCreatedSince A since :=
  h.tickets.countP fun _ ht => (of_decide_eq_true ht).1

theorem SameSlice.customersWithEmail (h : SameSlice A o o' s s') (email : String) :
    s.customersWithEmail email A = s'.customersWithEmail email A :=
  h.customers.countP fun _ hc => (of_decide_eq_true hc).2

theorem SameSlice.insertTicket (h : SameSlice A o o' s s') {row : Ticket} (hA : row.tenantId = A)
    (hnew : ∀ ticket ∈ s.tickets, ticket.id ≠ row.id)
    (hnew' : ∀ ticket ∈ s'.tickets, ticket.id ≠ row.id) :
    SameSlice A o o' (s.insertTicket row) (s'.insertTicket row) :=
  { h with tickets := h.tickets.append hA hnew hnew' }

theorem SameSlice.insertComment (h : SameSlice A o o' s s') {row : TicketComment}
    (hA : row.tenantId = A) (hnew : ∀ comment ∈ s.comments, comment.id ≠ row.id)
    (hnew' : ∀ comment ∈ s'.comments, comment.id ≠ row.id) :
    SameSlice A o o' (s.insertComment row) (s'.insertComment row) :=
  { h with comments := h.comments.append hA hnew hnew' }

theorem SameSlice.insertCustomer (h : SameSlice A o o' s s') {row : Customer}
    (hA : row.tenantId = A) (hnew : ∀ customer ∈ s.customers, customer.id ≠ row.id)
    (hnew' : ∀ customer ∈ s'.customers, customer.id ≠ row.id) :
    SameSlice A o o' (s.insertCustomer row) (s'.insertCustomer row) :=
  { h with customers := h.customers.append hA hnew hnew' }

/-- The filter of an update is the id alone: it is safe for a row of the organization. -/
theorem SameSlice.updateTicket (h : SameSlice A o o' s s') {id : Uuid}
    (howns : OwnsTicket A id s s') (now : Time) (ticket : Ticket) :
    SameSlice A o o' (s.updateTicket id (ticket.write now))
      (s'.updateTicket id (ticket.write now)) :=
  { h with tickets := h.tickets.updateKey (fun _ => rfl) (fun _ => rfl) howns }

theorem SameSlice.updateComment (h : SameSlice A o o' s s') {id : Uuid}
    (howns : OwnsComment A id s s') (now : Time) (comment : TicketComment) :
    SameSlice A o o' (s.updateComment id (comment.write now))
      (s'.updateComment id (comment.write now)) :=
  { h with comments := h.comments.updateKey (fun _ => rfl) (fun _ => rfl) howns }

theorem SameSlice.updateCustomer (h : SameSlice A o o' s s') {id : Uuid}
    (howns : OwnsCustomer A id s s') (now : Time) (customer : Customer) :
    SameSlice A o o' (s.updateCustomer id (customer.write now))
      (s'.updateCustomer id (customer.write now)) :=
  { h with customers := h.customers.updateKey (fun _ => rfl) (fun _ => rfl) howns }

theorem SameSlice.deleteComment (h : SameSlice A o o' s s') (id : Uuid) :
    SameSlice A o o' (s.deleteComment id A) (s'.deleteComment id A) :=
  { h with comments := h.comments.deleteMany (fun _ _ hrow => hrow.2) fun _ _ hrow => hrow.2 }

/-- No ticket or activity of another organization refers to the customer. -/
def ReferredWithin (A customerId : Uuid) (s : Store) : Prop :=
  (∀ ticket ∈ s.tickets, ticket.customerId = customerId → ticket.tenantId = A) ∧
    ∀ row ∈ s.activities, row.customerId = some customerId → row.tenantId = A

theorem ReferredWithin.customerReferenced {id : Uuid} (h : ReferredWithin A id s) :
    s.customerReferenced id = s.hasTickets id A := by
  rw [Bool.eq_iff_iff]
  simp only [Store.customerReferenced, Store.hasTickets, List.any_eq_true, decide_eq_true_eq,
    Bool.and_eq_true]
  constructor
  · rintro ⟨ticket, hmem, hid⟩
    exact ⟨ticket, hmem, hid, h.1 ticket hmem hid⟩
  · rintro ⟨ticket, hmem, hid, -⟩
    exact ⟨ticket, hmem, hid⟩

/-- The activities that lose their customer are the organization's own. -/
theorem SameSlice.deleteCustomer (h : SameSlice A o o' s s') {id : Uuid}
    (hrefers : ReferredWithin A id s) (hrefers' : ReferredWithin A id s') :
    SameSlice A o o' (s.deleteCustomer id A) (s'.deleteCustomer id A) := by
  unfold Store.deleteCustomer
  rw [← h.findCustomer]
  split
  · exact { h with
      customers := h.customers.deleteMany (fun _ _ hrow => hrow.2) fun _ _ hrow => hrow.2
      activities := h.activities.updateMany (fun _ => rfl) hrefers.2 hrefers'.2 }
  · exact h

theorem SameSlice.emailTaken (h : SameSlice A o o' s s') {email : String} :
    (∃ row ∈ s.customers, row.tenantId = A ∧ row.email = email) ↔
      ∃ row ∈ s'.customers, row.tenantId = A ∧ row.email = email := by
  constructor
  · rintro ⟨row, hrow, hA, hemail⟩
    exact ⟨row, (h.customers.mem_iff hA).mp hrow, hA, hemail⟩
  · rintro ⟨row, hrow, hA, hemail⟩
    exact ⟨row, (h.customers.mem_iff hA).mpr hrow, hA, hemail⟩

end writes

/-- The calls for an organization keep its slice, whatever they name, add and tell. -/
def sliceScope (env : ServiceEnv) (A : Uuid) (o o' : Store) : CallScope env A where
  Same := SameSlice A o o'
  Names _ := Anything
  Adds _ := True
  Tells _ := True
  Refers id s s' := ReferredWithin A id s ∧ ReferredWithin A id s'
  users h := h.users
  tenants h := h.tenants
  findTicket h := h.findTicket
  findComment h _ := h.findComment
  findCustomer h := h.findCustomer
  ticketRow h howns := h.tickets.find?_key howns
  commentRow h _ howns := h.comments.find?_key howns
  customerRow h howns := h.customers.find?_key howns
  ticketStands h howns := by
    obtain ⟨ticket, hmem, hid, -⟩ := h.tickets.owns howns
    exact ⟨ticket, hmem, hid⟩
  hasTickets h := h.hasTickets
  referenced h hrefers := by
    rw [hrefers.1.customerReferenced, hrefers.2.customerReferenced, h.hasTickets]
  emailTaken h := h.emailTaken
  customersWithEmail h := h.customersWithEmail _
  countCreatedSince h := h.countCreatedSince _
  nextTicketNumber h := h.nextTicketNumber
  insertActivity h hA := h.insertActivity hA
  insertAudit row h := h.insertAudit row
  enqueueMany h _ _ := h.enqueueMany _
  insertTicket h hA hnew hnew' := h.insertTicket hA hnew hnew'
  insertComment h hA _ hnew hnew' := h.insertComment hA hnew hnew'
  insertCustomer h hA hnew hnew' := h.insertCustomer hA hnew hnew'
  updateTicket now ticket h howns := h.updateTicket howns now ticket
  updateComment now comment h _ howns := h.updateComment howns now comment
  updateCustomer now customer h howns := h.updateCustomer howns now customer
  deleteComment h _ := h.deleteComment _
  deleteCustomer h hrefers := h.deleteCustomer hrefers.1 hrefers.2
  tells _ := trivial

end OmniSupport.Tenancy
