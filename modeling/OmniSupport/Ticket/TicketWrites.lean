import OmniSupport.Database.ServiceRules
import OmniSupport.Ticket.TicketService

/-! What each statement of the repositories does inside a transaction, and that it joins
the transaction it is called in. -/
namespace OmniSupport.Ticketing
open Foundation Database Effect Outbox

variable {env : ServiceEnv} {d d' : Nat} {s s' : Store}

section rows

/-- The row that was there as it is written, and the store with it. -/
theorem ticketUpdateRow_ok {time : Time} {ticket updated : Ticket}
    (h : TicketRepository.updateRow time ticket s = .ok (updated, s')) :
    (∃ row, (s.tickets.find? fun row => row.id = ticket.id) = some row ∧
      updated = Ticket.write time ticket row) ∧ ticket.category ∈ Store.categories ∧
      s' = s.updateTicket ticket.id (Ticket.write time ticket) := by
  unfold TicketRepository.updateRow at h
  split at h
  · cases h
  · rename_i row hrow
    split at h
    · rename_i hcategory
      cases h
      exact ⟨⟨row, hrow, rfl⟩, hcategory, rfl⟩
    · cases h

theorem customerUpdateRow_ok {time : Time} {customer updated : Customer}
    (h : CustomerRepository.updateRow time customer s = .ok (updated, s')) :
    (∃ row, (s.customers.find? fun row => row.id = customer.id) = some row ∧
      updated = Customer.write time customer row) ∧
      s' = s.updateCustomer customer.id (Customer.write time customer) := by
  unfold CustomerRepository.updateRow at h
  split at h
  · cases h
  · rename_i row hrow
    cases h
    exact ⟨⟨row, hrow, rfl⟩, rfl⟩

theorem commentUpdateRow_ok {time : Time} {comment updated : TicketComment}
    (h : CommentRepository.updateRow time comment s = .ok (updated, s')) :
    (∃ row, (s.comments.find? fun row => row.id = comment.id) = some row ∧
      updated = TicketComment.write time comment row) ∧
      s' = s.updateComment comment.id (TicketComment.write time comment) := by
  unfold CommentRepository.updateRow at h
  split at h
  · cases h
  · rename_i row hrow
    cases h
    exact ⟨⟨row, hrow, rfl⟩, rfl⟩

end rows

section inside

theorem inside_getNextTicketNumber (tenantId : Uuid) :
    Inside (TicketRepository.getNextTicketNumber tenantId) :=
  inside_call _ _ _

theorem inside_countCreatedSince (tenantId : Uuid) (since : Time) :
    Inside (TicketRepository.countCreatedSince tenantId since) :=
  inside_call _ _ _

theorem inside_ticketSave (ticket : Ticket) : Inside (TicketRepository.save ticket) :=
  (inside_draw _).bind fun _ => inside_call _ _ _

theorem inside_ticketUpdate (ticket : Ticket) : Inside (TicketRepository.update ticket) :=
  (inside_draw _).bind fun _ => inside_call _ _ _

theorem inside_customerUpdate (customer : Customer) :
    Inside (CustomerRepository.update customer) :=
  (inside_draw _).bind fun _ => inside_call _ _ _

theorem inside_commentSave (comment : TicketComment) : Inside (CommentRepository.save comment) :=
  (inside_draw _).bind fun _ => inside_call _ _ _

theorem inside_commentUpdate (comment : TicketComment) :
    Inside (CommentRepository.update comment) :=
  (inside_draw _).bind fun _ => inside_call _ _ _

theorem inside_commentDelete (id tenantId : Uuid) :
    Inside (CommentRepository.delete id tenantId) :=
  inside_call _ _ _

theorem inside_activityCreate (entry : Time → ActivityLog) :
    Inside (ActivityRepository.create entry) :=
  (inside_draw _).bind fun _ => inside_call _ _ _

theorem inside_auditCreate (entry : Time → AuditLog) : Inside (AuditRepository.create entry) :=
  (inside_draw _).bind fun _ => (inside_call _ _ _).rethrow

end inside

section yields

theorem yields_getNextTicketNumber {tenantId : Uuid} {n : Nat}
    (h : Yields env d s (TicketRepository.getNextTicketNumber tenantId) n d' s') :
    s.nextTicketNumber tenantId = (n, s') ∧ d' = d := by
  obtain ⟨hf, hd⟩ := yields_call h
  exact ⟨by simpa using hf, hd⟩

theorem yields_countCreatedSince {tenantId : Uuid} {since : Time} {n : Nat}
    (h : Yields env d s (TicketRepository.countCreatedSince tenantId since) n d' s') :
    n = s.countCreatedSince tenantId since ∧ s' = s ∧ d' = d := by
  obtain ⟨hf, hd⟩ := yields_call h
  cases hf
  exact ⟨rfl, rfl, hd⟩

theorem yields_ticketSave {ticket saved : Ticket}
    (h : Yields env d s (TicketRepository.save ticket) saved d' s') :
    ∃ time, saved = Ticket.storedAt time ticket ∧ s' = s.insertTicket saved ∧ d ≤ d' ∧
      ∀ t ∈ s.tickets, t.id ≠ ticket.id := by
  obtain ⟨time, d₁, s₁, hdraw, hcall⟩ := yields_bind (inside_draw _) h
  obtain ⟨rfl, rfl, rfl⟩ := yields_draw hdraw
  obtain ⟨hf, rfl⟩ := yields_call hcall
  split at hf
  · cases hf
  · rename_i hnot
    cases hf
    exact ⟨_, rfl, rfl, Nat.le_succ d, fun t ht hid => hnot (Or.inl ⟨t, ht, hid⟩)⟩

theorem yields_ticketUpdate {ticket updated : Ticket}
    (h : Yields env d s (TicketRepository.update ticket) updated d' s') :
    ∃ time, s' = s.updateTicket ticket.id (Ticket.write time ticket) ∧ d ≤ d' := by
  obtain ⟨time, d₁, s₁, hdraw, hcall⟩ := yields_bind (inside_draw _) h
  obtain ⟨rfl, rfl, rfl⟩ := yields_draw hdraw
  obtain ⟨hf, rfl⟩ := yields_call hcall
  exact ⟨_, (ticketUpdateRow_ok hf).2.2, Nat.le_succ d⟩

theorem yields_customerUpdate {customer updated : Customer}
    (h : Yields env d s (CustomerRepository.update customer) updated d' s') :
    ∃ time, s' = s.updateCustomer customer.id (Customer.write time customer) ∧ d ≤ d' := by
  obtain ⟨time, d₁, s₁, hdraw, hcall⟩ := yields_bind (inside_draw _) h
  obtain ⟨rfl, rfl, rfl⟩ := yields_draw hdraw
  obtain ⟨hf, rfl⟩ := yields_call hcall
  exact ⟨_, (customerUpdateRow_ok hf).2, Nat.le_succ d⟩

theorem yields_commentSave {comment : TicketComment} {u : Unit}
    (h : Yields env d s (CommentRepository.save comment) u d' s') :
    ∃ time, s' = s.insertComment (TicketComment.storedAt time comment) ∧ d ≤ d' ∧
      ∀ c ∈ s.comments, c.id ≠ comment.id := by
  obtain ⟨time, d₁, s₁, hdraw, hcall⟩ := yields_bind (inside_draw _) h
  obtain ⟨rfl, rfl, rfl⟩ := yields_draw hdraw
  obtain ⟨hf, rfl⟩ := yields_call hcall
  split at hf
  · cases hf
  · rename_i hnot
    cases hf
    exact ⟨_, rfl, Nat.le_succ d, fun c hc hid => hnot (Or.inl ⟨c, hc, hid⟩)⟩

theorem yields_commentUpdate {comment updated : TicketComment}
    (h : Yields env d s (CommentRepository.update comment) updated d' s') :
    ∃ time, s' = s.updateComment comment.id (TicketComment.write time comment) ∧ d ≤ d' := by
  obtain ⟨time, d₁, s₁, hdraw, hcall⟩ := yields_bind (inside_draw _) h
  obtain ⟨rfl, rfl, rfl⟩ := yields_draw hdraw
  obtain ⟨hf, rfl⟩ := yields_call hcall
  exact ⟨_, (commentUpdateRow_ok hf).2, Nat.le_succ d⟩

theorem yields_commentDelete {id tenantId : Uuid} {u : Unit}
    (h : Yields env d s (CommentRepository.delete id tenantId) u d' s') :
    s' = s.deleteComment id tenantId ∧ d' = d := by
  obtain ⟨hf, rfl⟩ := yields_call h
  cases hf
  exact ⟨rfl, rfl⟩

theorem yields_activityCreate {entry : Time → ActivityLog} {u : Unit}
    (h : Yields env d s (ActivityRepository.create entry) u d' s') :
    ∃ time, s' = s.insertActivity (entry time) ∧ d ≤ d' := by
  obtain ⟨time, d₁, s₁, hdraw, hcall⟩ := yields_bind (inside_draw _) h
  obtain ⟨rfl, rfl, rfl⟩ := yields_draw hdraw
  obtain ⟨hf, rfl⟩ := yields_call hcall
  cases hf
  exact ⟨_, rfl, Nat.le_succ d⟩

theorem yields_auditCreate {entry : Time → AuditLog} {u : Unit}
    (h : Yields env d s (AuditRepository.create entry) u d' s') :
    ∃ time, s' = s.insertAudit (entry time) ∧ d ≤ d' := by
  obtain ⟨time, d₁, s₁, hdraw, hcall⟩ := yields_bind (inside_draw _) h
  obtain ⟨rfl, rfl, rfl⟩ := yields_draw hdraw
  obtain ⟨hf, rfl⟩ := yields_call (yields_rethrow hcall)
  cases hf
  exact ⟨_, rfl, Nat.le_succ d⟩

end yields
end OmniSupport.Ticketing
