import OmniSupport.Customer.WorkWrites

/-! Calls one after the other, among them removals of agents: whom a removal has taken work
from gets none again, as long as no ticket of theirs is opened again and no customer is
given to them. -/
namespace OmniSupport.Customers
open Foundation Database Effect Ticketing Identity CustomerService

variable {env : ServiceEnv} {d d' : Nat} {s s' t : Store}

section removal
variable {input : RemoveInput}

/-- What a removal has committed: the agent has no work, and the replacement is active. -/
structure RemovalDone (input : RemoveInput) (s s' : Store) : Prop where
  taken : ¬ HasWork s' input.tenantId input.userId
  work : ∀ tenantId agentId, HasWork s' tenantId agentId →
    HasWork s tenantId agentId ∨ Active s agentId
  users : ∃ removedAt writtenAt, s'.users =
    (s.updateUser input.userId (StaffLifecycleService.removed removedAt writtenAt)).users
  stored : ∃ user ∈ s.users, user.id = input.userId
  keyed : KeyedRows s'

theorem RemovalDone.of_workRows (h : RemovalDone input s t) (hrows : workRows s' = workRows t) :
    RemovalDone input s s' := by
  simp only [workRows, Prod.mk.injEq] at hrows
  obtain ⟨htickets, hcustomers, husers⟩ := hrows
  have hsame : ∀ tenantId agentId, HasWork s' tenantId agentId ↔ HasWork t tenantId agentId := by
    intro tenantId agentId
    simp only [HasWork, htickets, hcustomers]
  refine ⟨fun hwork => h.taken ((hsame _ _).mp hwork),
    fun tenantId agentId hwork => h.work _ _ ((hsame _ _).mp hwork), ?_, h.stored,
    ⟨htickets ▸ h.keyed.tickets, hcustomers ▸ h.keyed.customers⟩⟩
  obtain ⟨removedAt, writtenAt, hremoved⟩ := h.users
  exact ⟨removedAt, writtenAt, husers.trans hremoved⟩

/-- The two bulk updates of a removal. -/
def reassigned (input : RemoveInput) (ticketsAt customersAt : Time) (s : Store) : Store :=
  (s.reassignTickets input.tenantId input.userId input.replacementAgentId
    ticketsAt).reassignCustomers input.tenantId input.userId input.replacementAgentId customersAt

/-- Whoever has work afterwards had it before and is not the removed agent, or is the
replacement. -/
theorem hasWork_reassigned {ticketsAt customersAt : Time} {tenantId agentId : Uuid}
    (h : HasWork (reassigned input ticketsAt customersAt s) tenantId agentId) :
    (HasWork s tenantId agentId ∧ ¬ (tenantId = input.tenantId ∧ agentId = input.userId)) ∨
      input.replacementAgentId = some agentId := by
  rcases h with ⟨ticket, hticket, rfl, hassigned, hactive⟩ | ⟨customer, hcustomer, rfl, hassigned⟩
  · have hopen : ticket.status ≠ .resolved ∧ ticket.status ≠ .closed := by
      constructor <;> intro hstatus <;> rw [hstatus] at hactive <;> cases hactive
    rcases Table.mem_updateMany.mp hticket with ⟨before, hbefore, -, rfl⟩ | ⟨hticket, hnot⟩
    · exact Or.inr hassigned
    · refine Or.inl ⟨Or.inl ⟨ticket, hticket, rfl, hassigned, hactive⟩, ?_⟩
      rintro ⟨htenant, rfl⟩
      exact hnot ⟨htenant, hassigned, hopen⟩
  · rcases Table.mem_updateMany.mp hcustomer with ⟨before, hbefore, -, rfl⟩ | ⟨hcustomer, hnot⟩
    · exact Or.inr hassigned
    · refine Or.inl ⟨Or.inr ⟨customer, hcustomer, rfl, hassigned⟩, ?_⟩
      rintro ⟨htenant, rfl⟩
      exact hnot ⟨htenant, hassigned⟩

theorem keyedRows_reassigned (input : RemoveInput) (ticketsAt customersAt : Time)
    (h : KeyedRows s) :
    KeyedRows (reassigned input ticketsAt customersAt s) where
  tickets := by
    have hids : ((reassigned input ticketsAt customersAt s).tickets.map Ticket.id) =
        s.tickets.map Ticket.id := Table.map_updateMany fun _ => rfl
    rw [hids]
    exact h.tickets
  customers := by
    have hids : ((reassigned input ticketsAt customersAt s).customers.map Customer.id) =
        s.customers.map Customer.id := Table.map_updateMany fun _ => rfl
    rw [hids]
    exact h.customers

theorem yields_writeRemoval_work {u : Unit} (hkeyed : KeyedRows s)
    (hother : input.replacementAgentId ≠ some input.userId)
    (hreplacement : ∀ agentId, input.replacementAgentId = some agentId → Active s agentId)
    (h : Yields env d s (StaffLifecycleService.writeRemoval input) u d' s') :
    RemovalDone input s s' := by
  obtain ⟨ticketsAt, _, _, hdraw, h₁⟩ := yields_bind (inside_draw _) h
  obtain ⟨-, -, rfl⟩ := yields_draw hdraw
  obtain ⟨_, _, _, htickets, h₂⟩ := yields_bind (inside_write _ _) h₁
  obtain ⟨rfl, -⟩ := yields_write htickets
  obtain ⟨customersAt, _, _, hdraw, h₃⟩ := yields_bind (inside_draw _) h₂
  obtain ⟨-, -, rfl⟩ := yields_draw hdraw
  obtain ⟨_, _, _, hcustomers, h₄⟩ := yields_bind (inside_write _ _) h₃
  obtain ⟨rfl, -⟩ := yields_write hcustomers
  obtain ⟨_, _, _, hmemberships, h₅⟩ := yields_bind (inside_write _ _) h₄
  obtain ⟨rfl, -⟩ := yields_write hmemberships
  obtain ⟨removedAt, _, _, hdraw, h₆⟩ := yields_bind (inside_draw _) h₅
  obtain ⟨-, -, rfl⟩ := yields_draw hdraw
  obtain ⟨writtenAt, _, _, hdraw, h₇⟩ := yields_bind (inside_draw _) h₆
  obtain ⟨-, -, rfl⟩ := yields_draw hdraw
  obtain ⟨hf, -⟩ := yields_call h₇
  split at hf
  · rename_i hfound
    cases hf
    obtain ⟨user, huser⟩ := Option.isSome_iff_exists.mp hfound
    have hkeys := keyedRows_reassigned input ticketsAt customersAt hkeyed
    refine ⟨fun hwork => ?_, fun tenantId agentId hwork => ?_, ⟨removedAt, writtenAt, rfl⟩,
      ⟨user, Store.findUser_mem huser⟩, hkeys.tickets, hkeys.customers⟩
    · rcases hasWork_reassigned hwork with ⟨-, hnot⟩ | hself
      · exact hnot ⟨rfl, rfl⟩
      · exact hother hself
    · rcases hasWork_reassigned hwork with ⟨hbefore, -⟩ | hagent
      · exact Or.inl hbefore
      · exact Or.inr (hreplacement agentId hagent)
  · cases hf

/-- A removal that returns has taken all work from the agent; one that does not has done so
or nothing. -/
theorem ends_remove_work (hkeyed : KeyedRows s) :
    Ends env 0 s (fun _ _ => RemovalDone input s)
      (fun s' => s' = s ∨ RemovalDone input s s') (StaffLifecycleService.remove input) := by
  have hsame : s = s ∨ RemovalDone input s s := Or.inl rfl
  refine ends_lift_bind (fun _ _ => ends_lift_bind (fun _ hother => ?_) hsame) hsame
  refine ends_read_bind (ends_lift_bind (fun _ _ => ?_) hsame) hsame
  have hother : input.replacementAgentId ≠ some input.userId :=
    of_decide_eq_true (require_ok hother)
  -- After the check of the replacement, the transaction and the two calls that follow it.
  have hrest : ∀ d', (∀ agentId, input.replacementAgentId = some agentId → Active s agentId) →
      Ends env d' s (fun _ _ => RemovalDone input s) (fun s' => s' = s ∨ RemovalDone input s s')
        (do
          Effect.transaction .commit .database (StaffLifecycleService.writeRemoval input)
          SessionRevoker.revokeAllUserTokens input.userId "ACCOUNT_REMOVED"
          AuditRepository.create (StaffLifecycleService.removalAudit input)) := by
    intro d' hreplacement
    refine Ends.bind (ends_transaction (inside_writeRemoval input) (fun _ _ s' hy =>
      yields_writeRemoval_work hkeyed hother hreplacement hy) hsame) fun _ d₁ s₁ hdone => ?_
    refine Ends.mono (Q := fun _ _ => RemovalDone input s) (R := RemovalDone input s) ?_
      (fun _ _ _ h => h) fun _ h => Or.inr h
    refine Ends.bind (ends_draw_bind (ends_call (fun _ s₂ hcall => ?_) hdone))
      fun _ _ s₂ hrevoked => ends_auditCreate hrevoked fun _ => hrevoked.of_workRows rfl
    cases hcall
    exact hdone.of_workRows rfl
  unfold StaffLifecycleService.requireReplacement
  cases hid : input.replacementAgentId with
  | none => exact hrest _ fun agentId h => by rw [hid] at h; cases h
  | some replacementId =>
    simp only [bind_assoc]
    refine ends_read_bind (ends_lift_bind (fun _ hfound => ?_) hsame) hsame
    obtain ⟨agent, hagent⟩ := Option.isSome_iff_exists.mp (require_ok hfound)
    have hcond := List.find?_some hagent
    simp only [decide_eq_true_eq] at hcond
    refine hrest _ fun agentId h => ?_
    rw [hid, Option.some.injEq] at h
    exact ⟨agent, List.mem_of_find?_eq_some hagent, hcond.1.trans h, hcond.2.2.2⟩

end removal

inductive DeskCommand where
  | createTicket (dto : CreateTicketDto)
  | assignTicket (dto : AssignTicketDto)
  | changeStatus (dto : ChangeStatusDto)
  | updateTicket (dto : UpdateTicketDto)
  | escalateTicket (dto : EscalateTicketDto)
  | createCustomer (dto : CreateCustomerDto)
  | updateCustomer (dto : UpdateCustomerDto)
  | remove (input : RemoveInput)

/-- A call, with the values it draws and what becomes of its awaited calls. -/
structure DeskCall where
  command : DeskCommand
  env : ServiceEnv
  faults : Nat → Fault

/-- Whether the call returns, and what it has committed. -/
def performDesk (call : DeskCall) (s : Store) : Bool × Store :=
  let ended {α : Type} (program : ServiceM α) : Bool × Store :=
    let r := program.run call.env call.faults (World.start s)
    (r.1.isOk, r.2.committed)
  match call.command with
  | .createTicket dto => ended (TicketService.createTicket dto)
  | .assignTicket dto => ended (TicketService.assignTicket dto)
  | .changeStatus dto => ended (TicketService.changeStatus dto)
  | .updateTicket dto => ended (TicketService.updateTicket dto)
  | .escalateTicket dto => ended (TicketService.escalateTicket dto)
  | .createCustomer dto => ended (createCustomer dto)
  | .updateCustomer dto => ended (updateCustomer dto)
  | .remove input => ended (StaffLifecycleService.remove input)

/-- The organization and the agent of a removal that has returned. -/
def removals (s : Store) (call : DeskCall) (_ : Store) : List (Uuid × Uuid) :=
  match call.command with
  | .remove input =>
    if (performDesk call s).1 then [(input.tenantId, input.userId)] else []
  | _ => []

/-- One call after the other, beside the removals that have completed. -/
def desk : Machine (Store × List (Uuid × Uuid)) DeskCall :=
  (⟨fun s call => some (performDesk call s).2⟩ : Machine Store DeskCall).logged removals

/-- The account carries the mark of its removal. -/
def Removed (s : Store) (userId : Uuid) : Prop :=
  ∃ user ∈ s.users, user.id = userId ∧ user.removedAt.isSome = true

instance (s : Store) (userId : Uuid) : Decidable (Removed s userId) :=
  inferInstanceAs (Decidable (∃ user ∈ s.users, _))

/-- No ticket of a removed agent is opened again, and no customer is given to one. -/
def KeepsAway (s : Store) (call : DeskCall) : Prop :=
  match call.command with
  | .changeStatus dto => ∀ row ∈ s.findTicket dto.ticketId dto.tenantId,
    row.status = .resolved → dto.newStatus = "OPEN" →
      ∀ agentId ∈ row.assignedAgentId, ¬ Removed s agentId
  | .createCustomer dto => ∀ agentId ∈ dto.assignedAgentId, ¬ Removed s agentId
  | .updateCustomer dto => ∀ agentId ∈ dto.assignedAgentId, ¬ Removed s agentId
  | _ => True

instance (s : Store) : DecidablePred (KeepsAway s)
  | ⟨.changeStatus dto, _, _⟩ => inferInstanceAs (Decidable
      (∀ row ∈ s.findTicket dto.ticketId dto.tenantId, row.status = .resolved →
        dto.newStatus = "OPEN" → ∀ agentId ∈ row.assignedAgentId, ¬ Removed s agentId))
  | ⟨.createCustomer dto, _, _⟩ =>
    inferInstanceAs (Decidable (∀ agentId ∈ dto.assignedAgentId, ¬ Removed s agentId))
  | ⟨.updateCustomer dto, _, _⟩ =>
    inferInstanceAs (Decidable (∀ agentId ∈ dto.assignedAgentId, ¬ Removed s agentId))
  | ⟨.createTicket _, _, _⟩ | ⟨.assignTicket _, _, _⟩ | ⟨.updateTicket _, _, _⟩
  | ⟨.escalateTicket _, _, _⟩ | ⟨.remove _, _, _⟩ => isTrue trivial

/-- The invariant of a run: removed agents have no work and cannot get any. -/
structure WorkAway (s : Store) (gone : List (Uuid × Uuid)) : Prop where
  keyed : KeyedRows s
  without : ∀ r ∈ gone, ¬ HasWork s r.1 r.2
  removed : ∀ r ∈ gone, Removed s r.2
  inactive : ∀ r ∈ gone, ¬ Active s r.2

section steps
variable {gone : List (Uuid × Uuid)} {A : Uuid → Uuid → Prop} {input : RemoveInput}

theorem WorkAway.goes (h : WorkAway s gone) (hgoes : WorkGoes A s s')
    (hA : ∀ r ∈ gone, ¬ A r.1 r.2) : WorkAway s' gone where
  keyed := hgoes.keyed
  without r hr hwork := by
    rcases hgoes.work r.1 r.2 hwork with hbefore | hgets
    · exact h.without r hr hbefore
    · exact hA r hr hgets
  removed r hr := by
    rw [Removed, hgoes.users]
    exact h.removed r hr
  inactive r hr := by
    rw [Active, hgoes.users]
    exact h.inactive r hr

/-- A call whose one transaction only gives work to the agents of `A`. -/
theorem WorkAway.atomic {α : Type} {program : ServiceM α} (h : WorkAway s gone)
    (hprogram : Atomic env 0 s (WorkGoes A s) program) (hA : ∀ r ∈ gone, ¬ A r.1 r.2)
    (faults : Nat → Fault) :
    WorkAway (program.run env faults (World.start s)).2.committed gone := by
  rcases hprogram.leaves faults with hsame | hgoes
  · rw [hsame]
    exact h
  · exact h.goes hgoes hA

theorem removed_of_done {userId : Uuid} (h : RemovalDone input s s')
    (hremoved : Removed s userId ∨ userId = input.userId) : Removed s' userId := by
  obtain ⟨removedAt, writtenAt, husers⟩ := h.users
  have hwritten : ∀ user ∈ s.users, user.id = input.userId → Removed s' input.userId := by
    intro user huser hid
    rw [Removed, husers]
    exact ⟨_, Table.mem_updateMany.mpr (Or.inl ⟨user, huser, hid, rfl⟩), hid, rfl⟩
  rcases hremoved with ⟨user, huser, hid, hmark⟩ | rfl
  · by_cases hself : user.id = input.userId
    · obtain rfl : userId = input.userId := hid.symm.trans hself
      exact hwritten user huser hself
    · rw [Removed, husers]
      exact ⟨user, Table.mem_updateMany.mpr (Or.inr ⟨huser, hself⟩), hid, hmark⟩
  · obtain ⟨user, huser, hid⟩ := h.stored
    exact hwritten user huser hid

theorem active_of_done {userId : Uuid} (h : RemovalDone input s s') (hactive : Active s' userId) :
    Active s userId ∧ userId ≠ input.userId := by
  obtain ⟨removedAt, writtenAt, husers⟩ := h.users
  rw [Active, husers] at hactive
  obtain ⟨user, huser, hid, hstatus⟩ := hactive
  rcases Table.mem_updateMany.mp huser with ⟨before, -, -, rfl⟩ | ⟨huser, hother⟩
  · cases hstatus
  · exact ⟨⟨user, huser, hid, hstatus⟩, fun hself => hother (hid.trans hself)⟩

theorem WorkAway.done (h : WorkAway s gone) (hdone : RemovalDone input s s') :
    WorkAway s' gone where
  keyed := hdone.keyed
  without r hr hwork := by
    rcases hdone.work r.1 r.2 hwork with hbefore | hactive
    · exact h.without r hr hbefore
    · exact h.inactive r hr hactive
  removed r hr := removed_of_done hdone (Or.inl (h.removed r hr))
  inactive r hr hactive := h.inactive r hr (active_of_done hdone hactive).1

/-- A removal that has returned joins those before it. -/
theorem WorkAway.returned (h : WorkAway s gone) (hdone : RemovalDone input s s') :
    WorkAway s' ((input.tenantId, input.userId) :: gone) := by
  obtain ⟨hkeyed, hwithout, hremoved, hinactive⟩ := h.done hdone
  refine ⟨hkeyed, fun r hr => ?_, fun r hr => ?_, fun r hr => ?_⟩ <;>
    rcases List.mem_cons.mp hr with rfl | hr
  · exact hdone.taken
  · exact hwithout r hr
  · exact removed_of_done hdone (Or.inr rfl)
  · exact hremoved r hr
  · exact fun hactive => (active_of_done hdone hactive).2 rfl
  · exact hinactive r hr

theorem workAway_remove (h : WorkAway s gone) (faults : Nat → Fault) :
    let r := (StaffLifecycleService.remove input).run env faults (World.start s)
    WorkAway r.2.committed
      ((if r.1.isOk then [(input.tenantId, input.userId)] else []) ++ gone) := by
  intro r
  obtain ⟨hreturns, hstops, -⟩ :
      EndsRun (fun _ _ => RemovalDone input s) (fun s' => s' = s ∨ RemovalDone input s s') r :=
    ends_remove_work h.keyed faults (World.start s) rfl rfl rfl
  cases hok : r.1.isOk with
  | true =>
    obtain ⟨u, hu⟩ : ∃ u, r.1 = .ok u := by
      cases hout : r.1 with
      | ok u => exact ⟨u, rfl⟩
      | error e | crashed =>
        rw [hout] at hok
        cases hok
    exact h.returned (hreturns u hu)
  | false =>
    rcases hstops hok with hsame | hdone
    · have hstays : WorkAway r.2.committed gone := by
        rw [hsame]
        exact h
      exact hstays
    · exact h.done hdone

theorem workAway_step {p p' : Store × List (Uuid × Uuid)} {call : DeskCall}
    (h : WorkAway p.1 p.2) (hc : KeepsAway p.1 call) (hs : desk.step p call = some p') :
    WorkAway p'.1 p'.2 := by
  obtain ⟨s, gone⟩ := p
  obtain ⟨s', gone'⟩ := p'
  obtain ⟨hstep, hlog⟩ := Machine.logged_step.mp hs
  simp only [Option.some.injEq] at h hc hstep hlog
  subst hstep hlog
  obtain ⟨command, env, faults⟩ := call
  have hactive : ∀ r ∈ gone, ¬ Active s r.2 := h.inactive
  have hgiven : ∀ given : Option Uuid, (∀ agentId ∈ given, ¬ Removed s agentId) →
      ∀ r ∈ gone, ¬ given = some r.2 :=
    fun given hnot r hr hid => hnot r.2 hid (h.removed r hr)
  cases command with
  | createTicket dto => exact h.atomic (atomic_createTicket_work h.keyed dto) hactive faults
  | assignTicket dto => exact h.atomic (atomic_assignTicket_work h.keyed dto) hactive faults
  | updateTicket dto =>
    exact h.atomic (A := fun _ => Active s) (atomic_updateTicket_work h.keyed dto) hactive faults
  | escalateTicket dto =>
    exact h.atomic (A := fun _ => Active s) (atomic_escalateTicket_work h.keyed dto) hactive faults
  | changeStatus dto =>
    refine h.atomic (atomic_changeStatus_work h.keyed dto) (fun r hr hreopened => ?_) faults
    obtain ⟨row, hfound, hresolved, hopen, -, hassigned⟩ := hreopened
    exact hc row hfound hresolved hopen r.2 hassigned (h.removed r hr)
  | createCustomer dto =>
    have hnot : ∀ agentId ∈ dto.assignedAgentId, ¬ Removed s agentId := hc
    have hgoes : Atomic env 0 s (WorkGoes (fun _ agentId => dto.assignedAgentId = some agentId) s)
        (createCustomer dto) := atomic_createCustomer_work h.keyed dto
    simp only [performDesk, removals, List.nil_append]
    exact h.atomic hgoes (hgiven dto.assignedAgentId hnot) faults
  | updateCustomer dto =>
    have hnot : ∀ agentId ∈ dto.assignedAgentId, ¬ Removed s agentId := hc
    have hgoes : Atomic env 0 s (WorkGoes (fun _ agentId => dto.assignedAgentId = some agentId) s)
        (updateCustomer dto) := atomic_updateCustomer_work h.keyed dto
    simp only [performDesk, removals, List.nil_append]
    exact h.atomic hgoes (hgiven dto.assignedAgentId hnot) faults
  | remove input => exact workAway_remove h faults

end steps

/-- Whoever has been removed has no active ticket and no customer of the organization, in
every state that calls of the desk reach, as long as none of them opens a resolved ticket of
a removed agent again or gives a customer to one. -/
theorem removed_agents_keep_no_work (s s' : Store) (calls : List DeskCall)
    (gone : List (Uuid × Uuid)) (hkeyed : KeyedRows s)
    (hkeeps : desk.Within (fun p call => KeepsAway p.1 call) (s, []) calls)
    (hrun : desk.run (s, []) calls = some (s', gone)) :
    ∀ r ∈ gone, ¬ HasWork s' r.1 r.2 := by
  have hstart : WorkAway s [] :=
    ⟨hkeyed, fun r hr => (by cases hr), fun r hr => (by cases hr), fun r hr => (by cases hr)⟩
  have haway := desk.run_preserves_within (P := fun p => WorkAway p.1 p.2)
    (fun p call p' h hc hs => workAway_step h hc hs) hstart hkeeps hrun
  exact haway.without

section demo

instance (s : Store) (tenantId agentId : Uuid) : Decidable (HasWork s tenantId agentId) :=
  inferInstanceAs (Decidable (_ ∨ _))

def workedTicket (id : Uuid) (status : TicketStatus) : Ticket :=
  { (default : Ticket) with
    id := id
    tenantId := 1
    customerId := 5
    assignedAgentId := some 3
    status := status
    category := "GENERAL" }

def workedCustomer : Customer :=
  { (default : Customer) with
    id := 5
    tenantId := 1
    assignedAgentId := some 3 }

/-- The agent has an open ticket, a resolved one and a customer. -/
def workedStore : Store :=
  { staffedStore with
    tickets := [workedTicket 6 .open, workedTicket 7 .resolved]
    customers := [workedCustomer] }

theorem workedStore_keyed : KeyedRows workedStore where
  tickets := by decide
  customers := by decide

def deskCall (command : DeskCommand) : DeskCall := ⟨command, sampleEnv, fun _ => .none⟩

def removeAgent : DeskCall := deskCall (.remove ⟨1, 2, 3, none⟩)

def moveTicket (ticketId : Uuid) (status : String) : DeskCall :=
  deskCall (.changeStatus ⟨1, ticketId, status, 2, .tenantManager⟩)

/-- The customer is given to the agent. -/
def giveCustomer : DeskCall :=
  deskCall (.updateCustomer ⟨1, 5, 2, .tenantManager, none, none, none, none, some 3, none⟩)

/-- The calls reach a state in which a removed agent has work. -/
def LeavesWork (calls : List DeskCall) : Prop :=
  ∃ s' gone, desk.run (workedStore, []) calls = some (s', gone) ∧ ∃ r ∈ gone, HasWork s' r.1 r.2

theorem leavesWork_of_any {calls : List DeskCall}
    (h : ((desk.run (workedStore, []) calls).any fun p => ∃ r ∈ p.2, HasWork p.1 r.1 r.2) = true) :
    LeavesWork calls := by
  obtain ⟨⟨s', gone⟩, hrun, hwork⟩ := (Option.any_eq_true _ _).mp h
  exact ⟨s', gone, hrun, of_decide_eq_true hwork⟩

end demo

/-- The work that is left stays taken while other calls go on. -/
theorem removed_agents_keep_no_work_moved :
    ∃ s' gone, desk.run (workedStore, []) [removeAgent, moveTicket 6 "IN_PROGRESS"] =
      some (s', gone) ∧ (1, 3) ∈ gone ∧ ∀ r ∈ gone, ¬ HasWork s' r.1 r.2 := by
  have hrun : ((desk.run (workedStore, []) [removeAgent, moveTicket 6 "IN_PROGRESS"]).any
      fun p => (1, 3) ∈ p.2) = true := by decide +kernel
  obtain ⟨⟨s', gone⟩, hc, hremoved⟩ := (Option.any_eq_true _ _).mp hrun
  have hkeeps : desk.Within (fun p call => KeepsAway p.1 call) (workedStore, [])
      [removeAgent, moveTicket 6 "IN_PROGRESS"] := by decide +kernel
  exact ⟨s', gone, hc, of_decide_eq_true hremoved,
    removed_agents_keep_no_work workedStore s' _ gone workedStore_keyed hkeeps hc⟩

/-- The resolved ticket of a removed agent is opened again, and a customer is given to the
agent after the removal. -/
theorem removed_agent_gets_work : KeyedRows workedStore ∧
    LeavesWork [removeAgent, moveTicket 7 "OPEN"] ∧ LeavesWork [removeAgent, giveCustomer] := by
  refine ⟨workedStore_keyed, leavesWork_of_any ?_, leavesWork_of_any ?_⟩ <;> decide +kernel

end OmniSupport.Customers
