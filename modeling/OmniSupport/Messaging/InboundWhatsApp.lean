import OmniSupport.Messaging.WebhookProcessing
import OmniSupport.Ticket.TicketService

/-! The handler of inbound WhatsApp messages, statement by statement: whom the message is
from, the open ticket it belongs to, and the comment or the ticket it becomes. -/
namespace OmniSupport.Messaging
open Foundation Database Ticketing TicketService

/-- The fields of a posted form that the provider reads. -/
structure TwilioPayload where
  From : Option String
  Body : Option String
  To : Option String
  deriving DecidableEq

structure WhatsAppWebhookPayload where
  sender : String
  recipient : String
  body : String
  deriving DecidableEq

/-- `replace(pattern, '')`: the first occurrence only. -/
def removeFirst (pattern : List Char) : List Char → List Char
  | [] => []
  | ch :: rest =>
    if pattern.isPrefixOf (ch :: rest) then (ch :: rest).drop pattern.length
    else ch :: removeFirst pattern rest

def withoutChannel (number : String) : String :=
  String.ofList (removeFirst "whatsapp:".toList number.toList)

/-- An absent field and an empty one are both falsy. -/
def truthy (value : Option String) : Option String :=
  value.filter fun text => text ≠ ""

def parseInboundMessage (payload : TwilioPayload) : Option WhatsAppWebhookPayload := do
  let sender ← truthy payload.From
  let body ← truthy payload.Body
  let recipient ← truthy payload.To
  return ⟨withoutChannel sender, withoutChannel recipient, body⟩

/-- Only digits and a leading plus are compared. -/
def normalizePhone (value : String) : String :=
  let trimmed := (JsText.trim value).toList
  String.ofList ((if trimmed.head? = some '+' then ['+'] else []) ++ trimmed.filter Char.isDigit)

/-- A row of `tenant_integrations`; `phoneNumber` is that of its `config`, when it is a
text. -/
structure TenantIntegration where
  tenantId : Uuid
  provider : String
  isEnabled : Bool
  phoneNumber : Option String
  deriving DecidableEq

structure InboundStore where
  store : Store
  integrations : List TenantIntegration
  deriving DecidableEq

/-- A number shared by several organizations cannot be routed. -/
def resolveTenantId (businessNumber : String) (s : InboundStore) : Option Uuid :=
  let target := normalizePhone businessNumber
  match s.integrations.filter fun integration =>
      integration.provider = "whatsapp" ∧ integration.isEnabled ∧
        integration.phoneNumber.map normalizePhone = some target with
  | [integration] => some integration.tenantId
  | _ => none

def customersByPhone (tenantId : Uuid) (phone : String) (s : Store) : List Customer :=
  s.customers.filter fun customer =>
    customer.tenantId = tenantId ∧ customer.phone = some phone

/-- The links of the customer whose user is active. -/
def activeLinks (tenantId customerId : Uuid) (s : Store) : List Auth.CustomerLink :=
  s.customerLinks.filter fun link =>
    link.tenantId = tenantId ∧ link.customerId = customerId ∧
      ∃ user ∈ s.users, user.id = link.userId ∧ user.status = .active

def openTickets (tenantId customerId : Uuid) (sender : String) (s : Store) : List Ticket :=
  s.tickets.filter fun ticket =>
    ticket.tenantId = tenantId ∧ ticket.customerId = customerId ∧
      ticket.externalRef = some sender ∧ ticket.status ≠ .resolved ∧ ticket.status ≠ .closed

/-- `findFirst` without an order: any row it selects. -/
def FoundFirst {α : Type} (rows : List α) : Option α → Prop
  | none => rows = []
  | some row => row ∈ rows

instance {α : Type} [DecidableEq α] (rows : List α) : DecidablePred (FoundFirst rows)
  | none => inferInstanceAs (Decidable (rows = []))
  | some row => inferInstanceAs (Decidable (row ∈ rows))

/-- `orderBy: { createdAt: 'desc' }`. -/
def FoundNewest (rows : List Ticket) (found : Option Ticket) : Prop :=
  FoundFirst rows found ∧ ∀ ticket ∈ found, ∀ row ∈ rows, row.createdAt ≤ ticket.createdAt

instance (rows : List Ticket) : DecidablePred (FoundNewest rows) :=
  fun _ => inferInstanceAs (Decidable (_ ∧ _))

/-- The update of `externalRef`, for later messages from the same number. -/
def setExternalRef (tenantId ticketId : Uuid) (sender : String) (now : Time) (s : Store) : Store :=
  { s with
    tickets := Table.updateMany (fun ticket => ticket.id = ticketId ∧ ticket.tenantId = tenantId)
      (fun ticket => { ticket with externalRef := some sender, updatedAt := now }) s.tickets }

/-- `createTicket` up to its commit. -/
def createTicketSaved (dto : CreateTicketDto) : ServiceM Ticket := do
  let found ← CustomerRepository.findById dto.customerId dto.tenantId
  let customer ← Effect.lift (orThrow (.notFound "Customer" dto.customerId) found)
  Effect.lift (require (!customer.isBlocked)
    (.forbidden "Cannot create ticket for blocked customer"))
  let tenantRecord ← Effect.read .root .tenantFind .database (Store.findTenant dto.tenantId)
  let tenant ← Effect.lift (orThrow (.notFound "Tenant" dto.tenantId) tenantRecord)
  match dto.assignedAgentId with
  | none => pure ()
  | some agentId => discard (findAssignableAgentOrThrow agentId dto.tenantId)
  inTransaction (createTicketWrites dto customer tenant)

theorem createTicket_eq (dto : CreateTicketDto) :
    createTicket dto = createTicketSaved dto >>= fun saved => do
      addTicketAnalysis saved.id dto.tenantId (dto.title ++ "\n\n" ++ dto.description)
      invalidateDashboardCache dto.tenantId
      return saved := by
  cases hagent : dto.assignedAgentId <;>
    simp only [createTicket, createTicketSaved, hagent, bind_assoc]

/-- `addComment` up to its commit. -/
def addCommentSaved (dto : AddCommentDto) : ServiceM (TicketComment × User) := do
  let ticket ← getTicketOrThrow dto.ticketId dto.tenantId
  let found ← Effect.read .root .userFind .database (Store.findUser dto.authorId)
  let author ← Effect.lift (orThrow (.notFound "User" dto.authorId) found)
  Effect.lift (require (!(dto.authorRole = .customer && dto.type = .internalNote))
    (.forbidden "Customers cannot add internal notes"))
  let commentId ← Effect.draw ServiceEnv.uuid
  let createdAt ← now
  let header ← newHeader
  let comment := TicketCommentEntity.create header (commentProps dto commentId createdAt)
  inTransaction (addCommentWrites dto ticket comment author)
  return (comment.row, author)

theorem addComment_eq (dto : AddCommentDto) :
    addComment dto = addCommentSaved dto >>= fun saved => do
      let returnedAt ← now
      let returnedAt' ← now
      addSentiment dto
      return ⟨{ saved.1 with createdAt := returnedAt, updatedAt := returnedAt' },
        authorDetails saved.2⟩ := by
  simp only [addComment, addCommentSaved, bind_assoc, pure_bind]

inductive InboundWhatsAppOutcome where
  | commented (ticketId : Uuid)
  | ticketCreated (ticketId : Uuid)
  | skipped (reason : String)
  deriving DecidableEq

/-- Where `execute` stands: before the statement its constructor names. From
`analysingComment` and `analysing` on, the comment or the ticket is committed. -/
inductive InboundCall where
  | resolving (message : WhatsAppWebhookPayload)
  | findingCustomer (message : WhatsAppWebhookPayload) (tenantId : Uuid)
  | findingLink (message : WhatsAppWebhookPayload) (tenantId : Uuid) (customer : Customer)
  | findingTicket (message : WhatsAppWebhookPayload) (tenantId : Uuid) (customer : Customer)
      (authorId : Uuid)
  | commenting (dto : AddCommentDto)
  | analysingComment (ticketId : Uuid)
  | creating (sender : String) (dto : CreateTicketDto)
  | analysing (tenantId : Uuid) (sender : String) (ticketId : Uuid)
  | invalidating (tenantId : Uuid) (sender : String) (ticketId : Uuid)
  | threading (tenantId : Uuid) (sender : String) (ticketId : Uuid)
  | returned (outcome : InboundWhatsAppOutcome)
  | threw (message : String)

/-- `write` runs a call of the ticket service up to its commit; `after` is a call it makes
after it, to the AI queue or to the cache. `throws` is what any other statement does
instead. -/
inductive InboundStep where
  | resolve
  | customer (found : Option Customer)
  | link (found : Option Auth.CustomerLink)
  | ticket (found : Option Ticket)
  | write (env : ServiceEnv) (faults : Nat → Fault) (driverMessage : String)
  | after
  | thread (now : Time)
  | throws (message : String)

namespace ProcessInboundWhatsApp

/-- `error.message`; that of a database error is the driver's. -/
def errorMessage (driverMessage : String) : AppError → String
  | .notFound resource id => resource ++ " with id '" ++ toString id ++ "' not found"
  | .unauthorized message | .forbidden message | .domain message _ | .conflict message
  | .validation message | .validationOf message _ | .infrastructure message
  | .plain message => message
  | .database => driverMessage

def resolved (message : WhatsAppWebhookPayload) : Option Uuid → InboundCall
  | none => .returned (.skipped "No organization uses this WhatsApp number")
  | some tenantId => .findingCustomer message tenantId

def customerFound (message : WhatsAppWebhookPayload) (tenantId : Uuid) :
    Option Customer → InboundCall
  | none => .returned (.skipped "Unknown sender")
  | some customer => .findingLink message tenantId customer

def linkFound (message : WhatsAppWebhookPayload) (tenantId : Uuid) (customer : Customer) :
    Option Auth.CustomerLink → InboundCall
  | none => .returned (.skipped "Customer has no linked user account")
  | some link => .findingTicket message tenantId customer link.userId

def ticketFound (message : WhatsAppWebhookPayload) (tenantId : Uuid) (customer : Customer)
    (authorId : Uuid) : Option Ticket → InboundCall
  | some openTicket => .commenting
    { tenantId := tenantId
      ticketId := openTicket.id
      authorId := authorId
      authorRole := .customer
      content := message.body
      type := .publicComment }
  | none => .creating (normalizePhone message.sender)
    { tenantId := tenantId
      customerId := customer.id
      createdById := authorId
      createdByRole := .customer
      title := "WhatsApp message from " ++ customer.fullName
      description := message.body
      priority := none
      category := none
      tags := none
      source := some "whatsapp"
      dueAt := none
      assignedAgentId := none }

/-- A call of the ticket service as one step; a crash in it is a crash of the process. -/
def commit {α : Type} (work : ServiceM α) (env : ServiceEnv) (faults : Nat → Fault)
    (driverMessage : String) (next : α → InboundCall) (s : InboundStore) :
    Option (InboundStore × InboundCall) :=
  match work.run env faults (World.start s.store) with
  | (.ok a, w) => some ({ s with store := w.committed }, next a)
  | (.error e, w) => some ({ s with store := w.committed }, .threw (errorMessage driverMessage e))
  | (.crashed, _) => none

def write (env : ServiceEnv) (faults : Nat → Fault) (driverMessage : String) (s : InboundStore) :
    InboundCall → Option (InboundStore × InboundCall)
  | .commenting dto =>
    commit (addCommentSaved dto) env faults driverMessage
      (fun _ => .analysingComment dto.ticketId) s
  | .creating sender dto =>
    commit (createTicketSaved dto) env faults driverMessage
      (fun saved => .analysing dto.tenantId sender saved.id) s
  | _ => none

def after : InboundCall → Option InboundCall
  | .analysingComment ticketId => some (.returned (.commented ticketId))
  | .analysing tenantId sender ticketId => some (.invalidating tenantId sender ticketId)
  | .invalidating tenantId sender ticketId => some (.threading tenantId sender ticketId)
  | _ => none

def throws (message : String) : InboundCall → Option InboundCall
  | .commenting _ | .creating .. | .returned _ | .threw _ => none
  | _ => some (.threw message)

def step (i : InboundStep) (s : InboundStore) (call : InboundCall) :
    Option (InboundStore × InboundCall) :=
  match i, call with
  | .resolve, .resolving message => some (s, resolved message (resolveTenantId message.recipient s))
  | .customer found, .findingCustomer message tenantId =>
    if FoundFirst (customersByPhone tenantId (normalizePhone message.sender) s.store) found then
      some (s, customerFound message tenantId found)
    else none
  | .link found, .findingLink message tenantId customer =>
    if FoundFirst (activeLinks tenantId customer.id s.store) found then
      some (s, linkFound message tenantId customer found)
    else none
  | .ticket found, .findingTicket message tenantId customer authorId =>
    if FoundNewest (openTickets tenantId customer.id (normalizePhone message.sender) s.store)
        found then
      some (s, ticketFound message tenantId customer authorId found)
    else none
  | .write env faults driverMessage, call => write env faults driverMessage s call
  | .after, call => (after call).map fun call' => (s, call')
  | .thread now, .threading tenantId sender ticketId =>
    some ({ s with store := setExternalRef tenantId ticketId sender now s.store },
      .returned (.ticketCreated ticketId))
  | .throws message, call => (throws message call).map fun call' => (s, call')
  | _, _ => none

def outcome : InboundCall → Option ProcessingOutcome
  | .returned (.skipped reason) => some (.skipped reason)
  | .returned (.commented _) | .returned (.ticketCreated _) => some .processed
  | .threw message => some (.failed message)
  | _ => none

/-- The thread a ticket belongs to. -/
def thread (t : Ticket) : Uuid × Uuid × Uuid × Option String :=
  (t.id, t.tenantId, t.customerId, t.externalRef)

/-- No ticket goes or changes its thread, and new tickets have new ids. -/
structure SameThreads (s s' : Store) : Prop where
  kept : ∀ t ∈ s.tickets, ∃ t' ∈ s'.tickets, thread t' = thread t
  source : ∀ t' ∈ s'.tickets, (∃ t ∈ s.tickets, thread t' = thread t) ∨
    ∀ t ∈ s.tickets, t.id ≠ t'.id

instance (s s' : Store) : Decidable (SameThreads s s') :=
  decidable_of_iff ((∀ t ∈ s.tickets, ∃ t' ∈ s'.tickets, thread t' = thread t) ∧
      ∀ t' ∈ s'.tickets, (∃ t ∈ s.tickets, thread t' = thread t) ∨ ∀ t ∈ s.tickets, t.id ≠ t'.id)
    ⟨fun h => ⟨h.1, h.2⟩, fun h => ⟨h.kept, h.source⟩⟩

/-- `elsewhere` is every other operation: only the handler sets `externalRef`. -/
def handler : InboundHandler TwilioPayload WhatsAppWebhookPayload InboundStore InboundCall
    InboundStep InboundStore where
  parseInboundMessage := parseInboundMessage
  execute := .resolving
  step := step
  outcome := outcome
  elsewhere s' s := if SameThreads s.store s'.store then some s' else none

end ProcessInboundWhatsApp
end OmniSupport.Messaging
