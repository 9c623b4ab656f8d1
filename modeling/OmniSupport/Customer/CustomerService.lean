import OmniSupport.Database.Queries
import OmniSupport.Identity.AccountEntity
import OmniSupport.Ticket.TicketService

/-! The calls of the customer service that write the profile of a customer, and whom they
let it be assigned to. -/
namespace OmniSupport

/-- `[^\s@]+@[^\s@]+\.[^\s@]+`, for the whole text. -/
def emailValid (email : String) : Bool :=
  let mailbox := email.toList.takeWhile fun ch => ch ≠ '@'
  let domain := (email.toList.dropWhile fun ch => ch ≠ '@').drop 1
  let plain (text : List Char) := text.all fun ch => !JsText.isSpace ch && ch ≠ '@'
  plain mailbox && plain domain && mailbox ≠ [] && '.' ∈ (domain.drop 1).dropLast

/-- `Email.create`; the text is the stored value. -/
def createEmail (input : String) : Except AppError String :=
  let normalized := JsText.trim (JsText.toLowerCase input)
  if emailValid normalized then .ok normalized
  else .error (.plain ("Invalid email address: " ++ input))

namespace CustomerEntity

def create (header : EventHeader) (props : Customer) : CustomerEntity where
  row := props
  events := [header.event (.customerCreated props.id props.tenantId props.email props.fullName)]

def assignAgent (agentId : Uuid) (customer : CustomerEntity) : CustomerEntity :=
  { customer with row := { customer.row with assignedAgentId := some agentId } }

def updateProfile (fullName phone company notes : Option String) (customer : CustomerEntity) :
    CustomerEntity :=
  let row := customer.row
  { customer with
    row :=
      { row with
        fullName := (fullName.map JsText.trim).getD row.fullName
        phone := phone.or row.phone
        company := company.or row.company
        notes := notes.or row.notes } }

def withStatus (status : CustomerStatus) (customer : CustomerEntity) : CustomerEntity :=
  { customer with row := { customer.row with status := status } }

def block (customer : CustomerEntity) : CustomerEntity := customer.withStatus .blocked

def activate (customer : CustomerEntity) : CustomerEntity := customer.withStatus .active

def deactivate (customer : CustomerEntity) : CustomerEntity := customer.withStatus .inactive

end CustomerEntity
end OmniSupport

namespace OmniSupport.Database
open Foundation

namespace Store

def customersWithEmail (email : String) (tenantId : Uuid) (s : Store) : Nat :=
  Table.count (fun customer => customer.email = email ∧ customer.tenantId = tenantId) s.customers

def insertCustomer (row : Customer) (s : Store) : Store :=
  { s with customers := s.customers ++ [row] }

/-- The unique columns `id`, and `tenantId` with `email`. -/
def customerTaken (row : Customer) (s : Store) : Prop :=
  ∃ customer ∈ s.customers, customer.id = row.id ∨
    (customer.tenantId = row.tenantId ∧ customer.email = row.email)

instance (row : Customer) (s : Store) : Decidable (s.customerTaken row) :=
  inferInstanceAs (Decidable (∃ customer ∈ s.customers, _))

end Store

namespace CustomerRepository

def existsByEmail (email : String) (tenantId : Uuid) : ServiceM Bool :=
  Effect.read .ambient .customerCount .database fun s =>
    0 < s.customersWithEmail (JsText.toLowerCase email) tenantId

/-- The columns a new row has no value for are null; the database sets the times. -/
def newRow (now : Time) (customer : Customer) : Customer :=
  { customer with lastActivityAt := none, createdAt := now, updatedAt := now }

def save (customer : Customer) : ServiceM Customer := do
  let now ← Effect.draw ServiceEnv.clock
  let row := newRow now customer
  Effect.call .ambient .customerCreate (.infrastructure "Failed to save customer") fun s =>
    if s.customerTaken row then
      .error (.infrastructure "Customer email already exists for this tenant")
    else .ok (row, s.insertCustomer row)

end CustomerRepository
end OmniSupport.Database

namespace OmniSupport.Customers
open Foundation Database

structure CreateCustomerDto where
  tenantId : Uuid
  createdById : Uuid
  createdByRole : UserRole
  fullName : String
  email : String
  phone : Option String
  company : Option String
  notes : Option String
  assignedAgentId : Option Uuid
  externalId : Option String

structure UpdateCustomerDto where
  tenantId : Uuid
  customerId : Uuid
  updatedById : Uuid
  updatedByRole : UserRole
  fullName : Option String
  phone : Option String
  company : Option String
  notes : Option String
  assignedAgentId : Option Uuid
  status : Option String

namespace CustomerService

def inTransaction {α : Type} (work : ServiceM α) : ServiceM α :=
  Effect.transaction .commit .database work

def isStaffRole (role : UserRole) : Bool := role = .agent || role = .tenantManager

/-- Only the role is looked at, not the status. -/
def assertAssignableAgent (agentId tenantId : Uuid) : ServiceM Unit := do
  let agent ← UserRepository.findById agentId (some tenantId)
  Effect.lift (require (agent.any fun user => isStaffRole user.role)
    (.validation "Assigned agent must be a staff member of this organization"))

def assertAssignable (agentId : Option Uuid) (tenantId : Uuid) : ServiceM Unit :=
  match agentId with
  | none => pure ()
  | some agentId => assertAssignableAgent agentId tenantId

def getCustomerOrThrow (id tenantId : Uuid) : ServiceM CustomerEntity := do
  let found ← CustomerRepository.findById id tenantId
  let customer ← Effect.lift (orThrow (.notFound "Customer" id) found)
  return CustomerEntity.reconstitute customer

def activity (tenantId customerId actorId : Uuid) (actorRole : UserRole)
    (eventType : ActivityEventType) (description : String) (oldValue newValue : Option JsonObject)
    (occurredAt : Time) : ActivityLog where
  tenantId := tenantId
  ticketId := none
  customerId := some customerId
  actorId := some actorId
  actorRole := some actorRole
  eventType := eventType
  description := description
  oldValue := oldValue
  newValue := newValue
  occurredAt := occurredAt

def customerAudit (tenantId customerId actorId : Uuid) (actorRole : UserRole)
    (action : AuditAction) (oldValue newValue : Option JsonObject) (occurredAt : Time) :
    AuditLog where
  tenantId := some tenantId
  actorId := some actorId
  actorRole := some actorRole
  action := action
  resource := "customers"
  resourceId := some customerId
  oldValue := oldValue
  newValue := newValue
  occurredAt := occurredAt

def createProps (dto : CreateCustomerDto) (id : Uuid) (email : String) (createdAt : Time) :
    Customer where
  id := id
  tenantId := dto.tenantId
  assignedAgentId := dto.assignedAgentId
  fullName := dto.fullName
  email := email
  phone := dto.phone
  company := dto.company
  notes := dto.notes
  status := .active
  riskScore := some 0
  riskLabel := none
  metadata := []
  externalId := dto.externalId
  lastActivityAt := none
  createdAt := createdAt
  updatedAt := createdAt

def createdActivity (dto : CreateCustomerDto) (saved : Customer) : Time → ActivityLog :=
  activity dto.tenantId saved.id dto.createdById dto.createdByRole .customerCreated
    ("Customer " ++ dto.fullName ++ " created") none
    (some [("customerId", .id saved.id), ("email", .text dto.email)])

def createdAudit (dto : CreateCustomerDto) (saved : Customer) : Time → AuditLog :=
  customerAudit dto.tenantId saved.id dto.createdById dto.createdByRole .create none
    (some [("fullName", .text dto.fullName), ("email", .text dto.email)])

def createCustomerWrites (dto : CreateCustomerDto) (customer : CustomerEntity) :
    ServiceM Customer := do
  let saved ← CustomerRepository.save customer.row
  ActivityRepository.create (createdActivity dto saved)
  AuditRepository.create (createdAudit dto saved)
  OutboxPublisher.publishAll customer.events
  return saved

def createCustomer (dto : CreateCustomerDto) : ServiceM Customer := do
  let taken ← CustomerRepository.existsByEmail dto.email dto.tenantId
  Effect.lift (require (!taken)
    (.conflict "A customer with this email already exists in your organization"))
  assertAssignable dto.assignedAgentId dto.tenantId
  let id ← Effect.draw ServiceEnv.uuid
  let email ← Effect.lift (createEmail dto.email)
  let createdAt ← now
  let header ← newHeader
  inTransaction (createCustomerWrites dto
    (CustomerEntity.create header (createProps dto id email createdAt)))

/-- A value that is given and not the current one, under its name, before and after; what
was undefined before has no value. -/
def changedText (name : String) (current value : Option String) :
    List (String × Option JsonValue × JsonValue) :=
  match value with
  | none => []
  | some text => if value ≠ current then [(name, current.map .text, .text text)] else []

/-- The agent to assign: one that is given and not the current one. -/
def newAgent (dto : UpdateCustomerDto) (customer : Customer) : Option Uuid :=
  dto.assignedAgentId.filter fun agentId => some agentId ≠ customer.assignedAgentId

def newStatus (dto : UpdateCustomerDto) (customer : Customer) : Option String :=
  dto.status.filter fun status => status ≠ "" && status ≠ customer.status.text

def changedValues (dto : UpdateCustomerDto) (customer : Customer) :
    List (String × Option JsonValue × JsonValue) :=
  changedText "fullName" (some customer.fullName) dto.fullName ++
    changedText "phone" customer.phone dto.phone ++
    changedText "company" customer.company dto.company ++
    changedText "notes" customer.notes dto.notes ++
    ((newAgent dto customer).map fun agentId =>
      ("assignedAgentId", customer.assignedAgentId.map .id, .id agentId)).toList ++
    ((newStatus dto customer).map fun status =>
      ("status", some (.text customer.status.text), .text status)).toList

def oldValues (values : List (String × Option JsonValue × JsonValue)) : JsonObject :=
  values.filterMap fun v => v.2.1.map fun value => (v.1, value)

def newValues (values : List (String × Option JsonValue × JsonValue)) : JsonObject :=
  values.map fun v => (v.1, v.2.2)

def withAgent (agentId : Option Uuid) (customer : CustomerEntity) : CustomerEntity :=
  match agentId with
  | none => customer
  | some agentId => customer.assignAgent agentId

def withNewStatus (status : Option String) (customer : CustomerEntity) : CustomerEntity :=
  match status with
  | some "BLOCKED" => customer.block
  | some "ACTIVE" => customer.activate
  | some "INACTIVE" => customer.deactivate
  | _ => customer

def updatedActivity (dto : UpdateCustomerDto)
    (values : List (String × Option JsonValue × JsonValue)) : Time → ActivityLog :=
  activity dto.tenantId dto.customerId dto.updatedById dto.updatedByRole .customerUpdated
    "Customer profile updated" (some (oldValues values)) (some (newValues values))

def updatedAudit (dto : UpdateCustomerDto)
    (values : List (String × Option JsonValue × JsonValue)) : Time → AuditLog :=
  customerAudit dto.tenantId dto.customerId dto.updatedById dto.updatedByRole .update
    (some (oldValues values)) (some (newValues values))

def updateCustomerWrites (dto : UpdateCustomerDto) (customer : Customer)
    (values : List (String × Option JsonValue × JsonValue)) : ServiceM Customer := do
  let updated ← CustomerRepository.update customer
  if values = [] then return updated
  ActivityRepository.create (updatedActivity dto values)
  AuditRepository.create (updatedAudit dto values)
  return updated

def updateCustomer (dto : UpdateCustomerDto) : ServiceM Customer := do
  let customer ← getCustomerOrThrow dto.customerId dto.tenantId
  let row := customer.row
  let profiled := customer.updateProfile dto.fullName dto.phone dto.company dto.notes
  assertAssignable (newAgent dto row) dto.tenantId
  let updated := withNewStatus (newStatus dto row) (withAgent (newAgent dto row) profiled)
  inTransaction (updateCustomerWrites dto updated.row (changedValues dto row))

end CustomerService
end OmniSupport.Customers
