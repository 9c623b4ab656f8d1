import OmniSupport.Ticket.TicketAccess

/-! The ticket listing as the controller serves it: the scope of the caller over the
filters of the query. -/
namespace OmniSupport.Ticketing
open Foundation Effect Database

structure TicketResponse where
  id : Uuid
  tenantId : Uuid
  ticketNumber : Nat
  customerId : Uuid
  assignedAgentId : Option Uuid
  createdById : Uuid
  title : String
  description : String
  status : TicketStatus
  priority : TicketPriority
  category : String
  tags : List String
  source : String
  isEscalated : Bool
  escalatedAt : Option Time
  escalatedReason : Option String
  resolvedAt : Option Time
  closedAt : Option Time
  firstResponseAt : Option Time
  dueAt : Option Time
  slaBreached : Bool
  createdAt : Time
  updatedAt : Time
  deriving DecidableEq

/-- The query after validation: lists are split at commas, and a text other than `true` is
no escalation. -/
structure ListTicketsQuery where
  page : Nat
  limit : Nat
  sortBy : Option String
  sortOrder : SortOrder
  status : Option (List String)
  priority : Option (List String)
  category : Option String
  assignedAgentId : Option Uuid
  customerId : Option Uuid
  isEscalated : Bool
  search : Option String
  dateFrom : Option Time
  dateTo : Option Time
  tags : Option (List String)

def paginatedResponse {ρ : Type} (data : List ρ) (total page limit : Nat) : PaginatedResult ρ where
  data := data
  total := total
  page := page
  limit := limit
  totalPages := (total + limit - 1) / limit

namespace TicketController

def toTicketResponse (ticket : Ticket) : TicketResponse where
  id := ticket.id
  tenantId := ticket.tenantId
  ticketNumber := ticket.ticketNumber
  customerId := ticket.customerId
  assignedAgentId := ticket.assignedAgentId
  createdById := ticket.createdById
  title := ticket.title
  description := ticket.description
  status := ticket.status
  priority := ticket.priority
  category := ticket.category
  tags := ticket.tags
  source := ticket.source
  isEscalated := ticket.isEscalated
  escalatedAt := ticket.escalatedAt
  escalatedReason := ticket.escalatedReason
  resolvedAt := ticket.resolvedAt
  closedAt := ticket.closedAt
  firstResponseAt := ticket.firstResponseAt
  dueAt := ticket.dueAt
  slaBreached := ticket.slaBreached
  createdAt := ticket.createdAt
  updatedAt := ticket.updatedAt

/-- The scope of the caller comes before the parameters of the query. -/
def listFilters (tenantId : Uuid) (scope : TicketListScope) (query : ListTicketsQuery) :
    TicketFilters where
  tenantId := tenantId
  status := query.status.map .many
  priority := query.priority.map .many
  category := query.category
  assignedAgentId := scope.assignedAgentId.or query.assignedAgentId
  customerId := scope.customerId.or query.customerId
  isEscalated := some query.isEscalated
  search := query.search
  dateFrom := query.dateFrom
  dateTo := query.dateTo
  tags := query.tags

def listPagination (query : ListTicketsQuery) : PaginationOptions :=
  ⟨query.page, query.limit, query.sortBy, query.sortOrder⟩

def findAll (actor : TicketActor) (query : ListTicketsQuery) :
    ServiceM (PaginatedResult TicketResponse) := do
  let scope ← TicketAccessService.listScope actor
  if scope.none then return paginatedResponse [] 0 query.page query.limit
  else do
    let result ← TicketService.listTickets (listFilters actor.tenantId scope query)
      (listPagination query)
    return paginatedResponse (result.data.map toTicketResponse) result.total result.page
      result.limit

end TicketController
end OmniSupport.Ticketing
