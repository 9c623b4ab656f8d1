import OmniSupport.Customer.CustomerService

/-! The calls of the customer service that read, and the deletion of a customer with what it does
to the rows that refer to the customer. -/
namespace OmniSupport.Database
open Foundation

structure CustomerFilters where
  tenantId : Uuid
  status : Option String := none
  assignedAgentId : Option Uuid := none
  search : Option String := none
  riskLabel : Option String := none
  dateFrom : Option Time := none
  dateTo : Option Time := none

namespace Store

def hasTickets (id tenantId : Uuid) (s : Store) : Bool :=
  s.tickets.any fun ticket => ticket.customerId = id && ticket.tenantId = tenantId

/-- A ticket of any organization refers to the customer: `ON DELETE RESTRICT`. -/
def customerReferenced (id : Uuid) (s : Store) : Bool :=
  s.tickets.any fun ticket => ticket.customerId = id

/-- Activities and invitations lose the reference to the customer, the link to an account goes
with it. -/
def deleteCustomer (id tenantId : Uuid) (s : Store) : Store :=
  if (s.findCustomer id tenantId).isSome then
    { s with
      customers := Table.deleteMany (fun row => row.id = id ∧ row.tenantId = tenantId) s.customers
      activities := Table.updateMany (fun row => row.customerId = some id)
        (fun row => { row with customerId := none }) s.activities
      invitations := Table.updateMany (fun row => row.customerId = some id)
        (fun row => { row with customerId := none }) s.invitations
      customerLinks := Table.deleteMany (fun row => row.customerId = id) s.customerLinks }
  else s

end Store

namespace CustomerRepository

def enumsKnown (filters : CustomerFilters) : Bool :=
  enumKnown (CustomerStatus.values.map CustomerStatus.text) (filters.status.map .one)

/-- Empty texts are left out. -/
def buildWhereClause (filters : CustomerFilters) (text : TextSearch) (customer : Customer) : Bool :=
  customer.tenantId = filters.tenantId &&
    enumMatches customer.status.text (filters.status.map .one) &&
    (filters.assignedAgentId.all fun agentId => customer.assignedAgentId = some agentId) &&
    (filters.riskLabel.all fun label => label = "" || customer.riskLabel = some label) &&
    withinDates filters.dateFrom filters.dateTo customer.createdAt &&
    filters.search.all fun search => search = "" ||
      text.contains customer.fullName (JsText.trim search) ||
      text.contains customer.email (JsText.trim search) ||
      customer.company.any fun company => text.contains company (JsText.trim search)

def select (filters : CustomerFilters) (text : TextSearch) (s : Store) :
    Except AppError (List Customer) :=
  if enumsKnown filters then .ok (s.customers.filter (buildWhereClause filters text))
  else .error (.infrastructure "Failed to list customers")

/-- What is null stands after the values. -/
def nullsLast {α : Type} (le : α → α → Bool) : Option α → Option α → Bool
  | _, none => true
  | none, some _ => false
  | some a, some a' => le a a'

def validSortFields : List (String × (Customer → Customer → Bool)) :=
  [("createdAt", fun c c' => c.createdAt ≤ c'.createdAt),
    ("updatedAt", fun c c' => c.updatedAt ≤ c'.updatedAt),
    ("fullName", fun c c' => !decide (c'.fullName < c.fullName)),
    ("riskScore", fun c c' => nullsLast (fun r r' => r ≤ r') c.riskScore c'.riskScore),
    ("lastActivityAt", fun c c' =>
      nullsLast (fun t t' => t ≤ t') c.lastActivityAt c'.lastActivityAt)]

/-- The newest first, unless the field is one to sort by. -/
def buildOrderBy (sortBy : Option String) (sortOrder : SortOrder) : Customer → Customer → Bool :=
  match validSortFields.find? fun field => field.1 = sortBy.getD "createdAt" with
  | some field => sortOrder.apply field.2
  | none => SortOrder.desc.apply fun c c' => c.createdAt ≤ c'.createdAt

def findAll (filters : CustomerFilters) (pagination : PaginationOptions) :
    ServiceM (PaginatedResult Customer) :=
  findPage .customerFindMany .customerCount (.infrastructure "Failed to list customers")
    (select filters) (buildOrderBy pagination.sortBy pagination.sortOrder) pagination

def hasTickets (id tenantId : Uuid) : ServiceM Bool :=
  Effect.read .ambient .ticketFind .database (Store.hasTickets id tenantId)

/-- `deleteMany`, which the database rejects while a ticket refers to the customer. -/
def delete (id tenantId : Uuid) : ServiceM Unit :=
  Effect.call .ambient .customerDeleteMany (.infrastructure "Failed to delete customer") fun s =>
    if (s.findCustomer id tenantId).isSome ∧ s.customerReferenced id = true then
      .error (.infrastructure "Failed to delete customer")
    else .ok ((), s.deleteCustomer id tenantId)

end CustomerRepository
end OmniSupport.Database

namespace OmniSupport.Customers.CustomerService
open Foundation Database

def deletedAudit (customerId tenantId deletedById : Uuid) (deletedByRole : UserRole) :
    Time → AuditLog :=
  customerAudit tenantId customerId deletedById deletedByRole .delete none none

def deleteCustomerWrites (customerId tenantId deletedById : Uuid) (deletedByRole : UserRole) :
    ServiceM Unit := do
  CustomerRepository.delete customerId tenantId
  AuditRepository.create (deletedAudit customerId tenantId deletedById deletedByRole)

/-- Tickets reference their customer; deleting would fail on the foreign key. -/
def deleteCustomer (customerId tenantId deletedById : Uuid) (deletedByRole : UserRole) :
    ServiceM Unit := do
  let _ ← getCustomerOrThrow customerId tenantId
  let referenced ← CustomerRepository.hasTickets customerId tenantId
  Effect.lift (require (!referenced) (.conflict ("This customer has tickets and cannot be deleted. "
    ++ "Block or deactivate the customer instead.")))
  inTransaction (deleteCustomerWrites customerId tenantId deletedById deletedByRole)

def getCustomer (customerId tenantId : Uuid) : ServiceM CustomerEntity :=
  getCustomerOrThrow customerId tenantId

def listCustomers (filters : CustomerFilters) (pagination : PaginationOptions) :
    ServiceM (PaginatedResult Customer) :=
  CustomerRepository.findAll filters pagination

def getCustomerTimeline (customerId tenantId : Uuid) (page limit : Nat) :
    ServiceM (PaginatedResult ActivityLog) := do
  let _ ← getCustomerOrThrow customerId tenantId
  ActivityRepository.findByCustomer customerId tenantId page limit

end OmniSupport.Customers.CustomerService
