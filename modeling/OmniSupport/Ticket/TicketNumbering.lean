import OmniSupport.Foundation.Locks
import OmniSupport.Foundation.Pool
import OmniSupport.Ticket.TicketService

/-! Any number of calls of `createTicket` at once, statement by statement, at isolation
level READ COMMITTED: a statement sees the committed rows and the writes of its own
transaction, and the upsert of a sequence row locks it until the transaction ends. -/
namespace OmniSupport.Ticketing
open Foundation Database Outbox TicketService

/-- The committed store, the locked sequence rows and the clock. -/
structure Site where
  store : Store
  locks : Locks Uuid
  now : Time

/-- What a call knows when it opens its transaction. -/
structure OpenCreate where
  dto : CreateTicketDto
  customer : Customer
  tenant : Tenant
  openedAt : Time

/-- Where a call stands. `writes` is what its transaction has written so far; after
`saved` the count says how many of the statements that follow are done. -/
inductive CreateCall where
  | idle
  | foundCustomer (dto : CreateTicketDto) (customer : Customer)
  | foundTenant (dto : CreateTicketDto) (customer : Customer) (tenant : Tenant)
  | foundAgent (dto : CreateTicketDto) (customer : Customer) (tenant : Tenant)
  | opened (call : OpenCreate)
  | numbered (call : OpenCreate) (ticketNumber : Nat) (writes : Store → Store)
  | counted (call : OpenCreate) (ticketNumber : Nat) (today : Time) (writes : Store → Store)
  | saved (call : OpenCreate) (ticket : TicketEntity) (saved : Ticket) (done : Nat)
      (writes : Store → Store)

/-- The steps of a call, with the random values and the instants it gets. -/
inductive CreateAction where
  | findCustomer (dto : CreateTicketDto)
  | findTenant
  | findAgent
  | openTransaction
  | getNextTicketNumber
  | countCreatedSince (today : Time)
  | save (id : Uuid) (createdAt : Time) (header : EventHeader) (savedAt : Time)
  | updateCustomer (lastActivityAt writtenAt : Time)
  | createActivity (occurredAt : Time)
  | createAudit (occurredAt : Time)
  | publish (id : Uuid) (enqueuedAt : Time)
  | commit
  | fail

/-- Time passes, or another part of the system writes: any rows, but it neither creates
nor deletes tickets, and the sequence rows are not its own. -/
inductive SiteEvent where
  | tick (ms : Nat)
  | write (store : Store)

/-- What stays of a ticket whatever is done to it later. -/
def ticketKey (ticket : Ticket) : Uuid × Nat × Time :=
  (ticket.tenantId, ticket.ticketNumber, ticket.createdAt)

namespace CreateCall

def transaction : CreateCall → Option OpenCreate
  | .opened call | .numbered call .. | .counted call .. | .saved call .. => some call
  | _ => none

/-- The sequence row the transaction has locked. -/
def locked : CreateCall → Option Uuid
  | .numbered call .. | .counted call .. | .saved call .. => some call.dto.tenantId
  | _ => none

/-- The text of the priority a call asks for. -/
def priority (state : CreateCall) : String :=
  match state.transaction with
  | some call => call.dto.priority.getD "MEDIUM"
  | none => ""

end CreateCall

/-- An instant of the running transaction. -/
def Site.during (site : Site) (call : OpenCreate) (time : Time) : Prop :=
  call.openedAt ≤ time ∧ time ≤ site.now

instance (site : Site) (call : OpenCreate) (time : Time) : Decidable (site.during call time) :=
  inferInstanceAs (Decidable (_ ∧ _))

/-- The statements that follow the insert of the ticket, in their order. -/
def laterWrite (call : OpenCreate) (ticket : TicketEntity) (saved : Ticket) (site : Site) :
    Nat → CreateAction → Option (Store → Store)
  | 0, .updateCustomer lastActivityAt writtenAt =>
    if ∃ c ∈ site.store.customers, c.id = call.customer.id then
      some (Store.updateCustomer call.customer.id
        (Customer.write writtenAt (call.customer.recordActivity lastActivityAt)))
    else none
  | 1, .createActivity occurredAt =>
    some (Store.insertActivity (createdActivity call.dto saved occurredAt))
  | 2, .createAudit occurredAt => some (Store.insertAudit (createdAudit call.dto saved occurredAt))
  | 3, .publish id enqueuedAt =>
    some fun s => s.enqueueMany (ticket.events.map fun event =>
      toCreateInput id enqueuedAt event.toPayload)
  | _, _ => none

def laterStep (site : Site) (state : CreateCall) (action : CreateAction) :
    Option (Site × CreateCall) :=
  match state with
  | .saved call ticket row done writes =>
    (laterWrite call ticket row site done action).map fun write =>
      (site, .saved call ticket row (done + 1) fun s => write (writes s))
  | _ => none

/-- One statement of call `p`. A statement that is not enabled can only fail: a locked
sequence row makes the upsert wait, and a failed check ends the call. -/
def createStep (p : Nat) (site : Site) (state : CreateCall) : CreateAction → Option (Site × CreateCall)
  | .findCustomer dto =>
    match state, site.store.findCustomer dto.customerId dto.tenantId with
    | .idle, some customer =>
      if customer.isBlocked then none else some (site, .foundCustomer dto customer)
    | _, _ => none
  | .findTenant =>
    match state with
    | .foundCustomer dto customer =>
      (site.store.findTenant dto.tenantId).map fun tenant =>
        (site, .foundTenant dto customer tenant)
    | _ => none
  | .findAgent =>
    match state with
    | .foundTenant dto customer tenant =>
      let found := dto.assignedAgentId.all fun agentId =>
        (site.store.findAssignableAgent agentId dto.tenantId).isSome
      if found then some (site, .foundAgent dto customer tenant) else none
    | _ => none
  | .openTransaction =>
    match state with
    | .foundAgent dto customer tenant => some (site, .opened ⟨dto, customer, tenant, site.now⟩)
    | _ => none
  | .getNextTicketNumber =>
    match state with
    | .opened call =>
      let tenantId := call.dto.tenantId
      if site.locks.free tenantId then
        some ({ site with locks := site.locks.acquire tenantId p },
          .numbered call (site.store.nextTicketNumber tenantId).1
            fun s => (s.nextTicketNumber tenantId).2)
      else none
    | _ => none
  | .countCreatedSince today =>
    match state with
    | .numbered call ticketNumber writes =>
      let count := (writes site.store).countCreatedSince call.dto.tenantId (startOfUtcDay today)
      if site.during call today ∧ canCreateTicket call.tenant count then
        some (site, .counted call ticketNumber today writes)
      else none
    | _ => none
  | .save id createdAt header savedAt =>
    match state, TicketPriority.create (state.priority) with
    | .counted call ticketNumber _ writes, .ok priority =>
      let ticket := TicketEntity.create header
        (createProps call.dto call.tenant id ticketNumber priority createdAt)
      let row := ticket.row.storedAt savedAt
      if site.during call savedAt ∧ (¬ ∃ t ∈ site.store.tickets, t.id = row.id) ∧
          row.category ∈ Store.categories then
        some (site, .saved call ticket row 0 fun s => (writes s).insertTicket row)
      else none
    | _, _ => none
  | .commit =>
    match state with
    | .saved call _ _ 4 writes =>
      some ({ site with
        store := writes site.store
        locks := site.locks.release (some call.dto.tenantId) }, .idle)
    | _ => none
  | .fail => some ({ site with locks := site.locks.release state.locked }, .idle)
  | action => laterStep site state action

def siteStep (site : Site) : SiteEvent → Option Site
  | .tick ms => some { site with now := site.now + ms }
  | .write store =>
    if store.tickets.map ticketKey = site.store.tickets.map ticketKey ∧
        store.sequences = site.store.sequences then
      some { site with store := store }
    else none

def createProgram : Program Site CreateCall CreateAction SiteEvent where
  act := createStep
  env := siteStep

end OmniSupport.Ticketing
