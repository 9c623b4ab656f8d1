import OmniSupport.Customer.CustomerReads
import OmniSupport.Foundation.Slices
import OmniSupport.Foundation.Twins
import OmniSupport.Identity.AccountService
import OmniSupport.Ticket.TicketAccess

/-! Relations between two stores that the calls for one organization keep: what such a relation has
to say of each statement of the ticket and the customer service. -/
namespace OmniSupport.Tenancy
open Foundation Effect Database Table

/-- Nothing is known but that the stores are related. -/
abbrev Anything (_ _ : Store) : Prop := True

def OwnsTicket (A id : Uuid) (s _ : Store) : Prop := Owns Ticket.tenantId Ticket.id A s.tickets id

def OwnsComment (A id : Uuid) (s _ : Store) : Prop :=
  Owns TicketComment.tenantId TicketComment.id A s.comments id

def OwnsCustomer (A id : Uuid) (s _ : Store) : Prop :=
  Owns Customer.tenantId Customer.id A s.customers id

/-- The stores have `Same` in common as far as calls for the organization `A` can tell, which name
only comments that `Names` allows, add only those that `Adds` does, tell only events that `Tells`
does and delete only customers that `Refers` does. -/
structure CallScope (env : ServiceEnv) (A : Uuid) where
  Same : Store → Store → Prop
  Names : Uuid → Store → Store → Prop
  Adds : TicketComment → Prop
  Tells : DomainEvent → Prop
  Refers : Uuid → Store → Store → Prop
  users : ∀ {s s'}, Same s s' → s.users = s'.users
  tenants : ∀ {s s'}, Same s s' → s.tenants = s'.tenants
  findTicket : ∀ {s s' id}, Same s s' → s.findTicket id A = s'.findTicket id A
  findComment : ∀ {s s' id}, Same s s' → Names id s s' → s.findComment id A = s'.findComment id A
  findCustomer : ∀ {s s' id}, Same s s' → s.findCustomer id A = s'.findCustomer id A
  ticketRow : ∀ {s s' id}, Same s s' → OwnsTicket A id s s' →
    (s.tickets.find? fun row => row.id = id) = s'.tickets.find? fun row => row.id = id
  commentRow : ∀ {s s' id}, Same s s' → Names id s s' → OwnsComment A id s s' →
    (s.comments.find? fun row => row.id = id) = s'.comments.find? fun row => row.id = id
  customerRow : ∀ {s s' id}, Same s s' → OwnsCustomer A id s s' →
    (s.customers.find? fun row => row.id = id) = s'.customers.find? fun row => row.id = id
  ticketStands : ∀ {s s' id}, Same s s' → OwnsTicket A id s s' →
    ∃ ticket ∈ s'.tickets, ticket.id = id
  hasTickets : ∀ {s s' id}, Same s s' → s.hasTickets id A = s'.hasTickets id A
  referenced : ∀ {s s' id}, Same s s' → Refers id s s' →
    s.customerReferenced id = s'.customerReferenced id
  emailTaken : ∀ {s s' email}, Same s s' →
    ((∃ row ∈ s.customers, row.tenantId = A ∧ row.email = email) ↔
      ∃ row ∈ s'.customers, row.tenantId = A ∧ row.email = email)
  customersWithEmail : ∀ {s s' email}, Same s s' →
    s.customersWithEmail email A = s'.customersWithEmail email A
  countCreatedSince : ∀ {s s' since}, Same s s' →
    s.countCreatedSince A since = s'.countCreatedSince A since
  nextTicketNumber : ∀ {s s'}, Same s s' →
    (s.nextTicketNumber A).1 = (s'.nextTicketNumber A).1 ∧
      Same (s.nextTicketNumber A).2 (s'.nextTicketNumber A).2
  insertActivity : ∀ {s s' row}, Same s s' → row.tenantId = A →
    Same (s.insertActivity row) (s'.insertActivity row)
  insertAudit : ∀ {s s'} row, Same s s' → Same (s.insertAudit row) (s'.insertAudit row)
  enqueueMany : ∀ {s s' events rows}, Same s s' → List.Forall₂ RowOf events rows →
    (∀ event ∈ events, Tells event) → Same (s.enqueueMany rows) (s'.enqueueMany rows)
  insertTicket : ∀ {s s' row}, Same s s' → row.tenantId = A →
    (∀ ticket ∈ s.tickets, ticket.id ≠ row.id) → (∀ ticket ∈ s'.tickets, ticket.id ≠ row.id) →
    Same (s.insertTicket row) (s'.insertTicket row)
  insertComment : ∀ {s s' row}, Same s s' → row.tenantId = A → Adds row →
    (∀ comment ∈ s.comments, comment.id ≠ row.id) →
    (∀ comment ∈ s'.comments, comment.id ≠ row.id) →
    Same (s.insertComment row) (s'.insertComment row)
  insertCustomer : ∀ {s s' row}, Same s s' → row.tenantId = A →
    (∀ customer ∈ s.customers, customer.id ≠ row.id) →
    (∀ customer ∈ s'.customers, customer.id ≠ row.id) →
    Same (s.insertCustomer row) (s'.insertCustomer row)
  updateTicket : ∀ {s s' id} (now : Time) (ticket : Ticket), Same s s' → OwnsTicket A id s s' →
    Same (s.updateTicket id (ticket.write now)) (s'.updateTicket id (ticket.write now))
  updateComment : ∀ {s s' id} (now : Time) (comment : TicketComment), Same s s' →
    Names id s s' → OwnsComment A id s s' →
    Same (s.updateComment id (comment.write now)) (s'.updateComment id (comment.write now))
  updateCustomer : ∀ {s s' id} (now : Time) (customer : Customer), Same s s' →
    OwnsCustomer A id s s' →
    Same (s.updateCustomer id (customer.write now)) (s'.updateCustomer id (customer.write now))
  deleteComment : ∀ {s s' id}, Same s s' → Names id s s' →
    Same (s.deleteComment id A) (s'.deleteComment id A)
  deleteCustomer : ∀ {s s' id}, Same s s' → Refers id s s' →
    Same (s.deleteCustomer id A) (s'.deleteCustomer id A)
  tells : ∀ {n body}, body.eventType ≠ "COMMENT_ADDED" → Tells ((env.header n).event body)

section finds
variable {A id : Uuid} {s s' : Store}

theorem owns_findTicket {ticket : Ticket} (h : s.findTicket id A = some ticket) :
    OwnsTicket A ticket.id s s' := by
  obtain ⟨hmem, -, howner⟩ := mem_of_find?_owned h
  exact ⟨ticket, hmem, rfl, howner⟩

theorem owns_findComment {comment : TicketComment} (h : s.findComment id A = some comment) :
    OwnsComment A comment.id s s' := by
  obtain ⟨hmem, -, howner⟩ := mem_of_find?_owned h
  exact ⟨comment, hmem, rfl, howner⟩

theorem owns_findCustomer {customer : Customer} (h : s.findCustomer id A = some customer) :
    OwnsCustomer A customer.id s s' := by
  obtain ⟨hmem, -, howner⟩ := mem_of_find?_owned h
  exact ⟨customer, hmem, rfl, howner⟩

end finds
end OmniSupport.Tenancy
