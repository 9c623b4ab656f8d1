import OmniSupport.Foundation.Answers
import OmniSupport.Foundation.Paging
import OmniSupport.Database.Repositories
import OmniSupport.Shared.JsText

/-! Listings: the rows a `where` selects, one page of them in order, and their number. -/
namespace OmniSupport.Database
open Foundation

/-- Offset for a 1-based page. -/
def toSkip (page limit : Nat) : Nat := (max page 1 - 1) * limit

def toTotalPages (total limit : Nat) : Nat :=
  if 0 < limit then (total + limit - 1) / limit else 0

inductive SortOrder where
  | asc
  | desc
  deriving DecidableEq

def SortOrder.apply {ρ : Type} (order : SortOrder) (le : ρ → ρ → Bool) : ρ → ρ → Bool :=
  match order with
  | .asc => le
  | .desc => fun row row' => le row' row

structure PaginationOptions where
  page : Nat
  limit : Nat
  sortBy : Option String := none
  sortOrder : SortOrder := .desc

structure PaginatedResult (ρ : Type) where
  data : List ρ
  total : Nat
  page : Nat
  limit : Nat
  totalPages : Nat
  deriving DecidableEq

/-- The page of these rows. -/
def pageOf {ρ : Type} (pagination : PaginationOptions) (le : ρ → ρ → Bool) (ties : Nat → Nat)
    (rows : List ρ) : PaginatedResult ρ where
  data := Paging.page (toSkip pagination.page pagination.limit) pagination.limit
    (Paging.orderRows le ties rows)
  total := rows.length
  page := pagination.page
  limit := pagination.limit
  totalPages := toTotalPages rows.length pagination.limit

/-- `Promise.all` of `findMany` and `count` under one `where`. -/
def findPage {ρ : Type} (findKind countKind : ServiceCall) (error : AppError)
    (select : TextSearch → Store → Except AppError (List ρ)) (le : ρ → ρ → Bool)
    (pagination : PaginationOptions) : ServiceM (PaginatedResult ρ) := do
  let rule ← Effect.draw fun env n => (env.text, env.ties n)
  let (records, total) ← Effect.both
    (Effect.query .ambient findKind error fun s => (select rule.1 s).map fun rows =>
      Paging.page (toSkip pagination.page pagination.limit) pagination.limit
        (Paging.orderRows le rule.2 rows))
    (Effect.query .ambient countKind error fun s => (select rule.1 s).map List.length)
  return ⟨records, total, pagination.page, pagination.limit,
    toTotalPages total pagination.limit⟩

section pages

theorem toSkip_succ (k limit : Nat) : toSkip (k + 1) limit = k * limit := by
  have hpage : max (k + 1) 1 - 1 = k := by omega
  rw [toSkip, hpage]

/-- The pages are enough for the rows. -/
theorem le_toTotalPages {limit : Nat} (hpos : 0 < limit) (total : Nat) :
    total ≤ toTotalPages total limit * limit := by
  rw [toTotalPages, if_pos hpos]
  have hsplit := Nat.div_add_mod' (total + limit - 1) limit
  have hmod := Nat.mod_lt (total + limit - 1) hpos
  omega

variable {ρ : Type} {env : ServiceEnv} {d : Nat} {s : Store} {findKind countKind : ServiceCall}
  {error : AppError} {select : TextSearch → Store → Except AppError (List ρ)}
  {le : ρ → ρ → Bool} {pagination : PaginationOptions}

theorem answers_findPage :
    Effect.Answers env d (d + 1) s (findPage findKind countKind error select le pagination)
      ((select env.text s).map (pageOf pagination le (env.ties d))) := by
  unfold findPage
  refine Effect.answers_draw_bind ?_
  have hrows : Effect.Answers env (d + 1) (d + 1) s _ _ :=
    Effect.answers_query .ambient findKind error fun s => (select env.text s).map fun rows =>
      Paging.page (toSkip pagination.page pagination.limit) pagination.limit
        (Paging.orderRows le (env.ties d) rows)
  have htotal : ∀ n, Effect.Answers env n n s _ _ := fun n =>
    Effect.answers_query .ambient countKind error fun s => (select env.text s).map List.length
  have hpage := (hrows.both htotal).bind fun r _ => Effect.answers_pure
    (⟨r.1, r.2, pagination.page, pagination.limit,
      toTotalPages r.2 pagination.limit⟩ : PaginatedResult ρ)
  cases hs : select env.text s with
  | error err =>
    rw [hs] at hpage
    exact hpage
  | ok rows =>
    rw [hs] at hpage
    exact hpage

theorem mem_pageOf {ties : Nat → Nat} {rows : List ρ} {row : ρ}
    (h : row ∈ (pageOf pagination le ties rows).data) : row ∈ rows :=
  Paging.mem_orderRows.mp (Paging.mem_of_mem_page h)

/-- With a positive limit the pages together hold every row. -/
theorem exists_pageOf {limit : Nat} (hpos : 0 < limit) {sortBy : Option String}
    {sortOrder : SortOrder} {ties : Nat → Nat} {rows : List ρ} {row : ρ} (h : row ∈ rows) :
    ∃ page, row ∈ (pageOf ⟨page, limit, sortBy, sortOrder⟩ le ties rows).data := by
  have hordered : row ∈ Paging.orderRows le ties rows := Paging.mem_orderRows.mpr h
  obtain ⟨n, hn⟩ := Paging.exists_page hpos hordered
  refine ⟨n + 1, ?_⟩
  rw [pageOf, toSkip_succ]
  exact hn

end pages

/-- A filter on an enumeration: one text, which is left out when empty, or several. -/
inductive EnumFilter where
  | one (text : String)
  | many (texts : List String)
  deriving DecidableEq

def EnumFilter.texts : EnumFilter → Option (List String)
  | .one text => if text = "" then none else some [text]
  | .many texts => some texts

/-- The client rejects a text that is no value of the enumeration. -/
def enumKnown (values : List String) (filter : Option EnumFilter) : Bool :=
  (filter.bind EnumFilter.texts).all fun texts => texts.all fun text => text ∈ values

def enumMatches (value : String) (filter : Option EnumFilter) : Bool :=
  (filter.bind EnumFilter.texts).all fun texts => value ∈ texts

/-- `{ gte, lte }`. -/
def withinDates (dateFrom dateTo : Option Time) (time : Time) : Bool :=
  (dateFrom.all fun bound => bound ≤ time) && dateTo.all fun bound => time ≤ bound

structure TicketFilters where
  tenantId : Uuid
  status : Option EnumFilter := none
  priority : Option EnumFilter := none
  category : Option String := none
  assignedAgentId : Option Uuid := none
  customerId : Option Uuid := none
  isEscalated : Option Bool := none
  slaBreached : Option Bool := none
  dateFrom : Option Time := none
  dateTo : Option Time := none
  search : Option String := none
  tags : Option (List String) := none
  deriving DecidableEq

end OmniSupport.Database

namespace OmniSupport

def CustomerStatus.text : CustomerStatus → String
  | .active => "ACTIVE"
  | .inactive => "INACTIVE"
  | .blocked => "BLOCKED"

def CustomerStatus.values : List CustomerStatus := [.active, .inactive, .blocked]

end OmniSupport

namespace OmniSupport.Database
open Foundation

namespace TicketRepository

def enumsKnown (filters : TicketFilters) : Bool :=
  enumKnown (TicketStatus.values.map TicketStatus.text) filters.status &&
    enumKnown (TicketPriority.values.map TicketPriority.text) filters.priority &&
    enumKnown Store.categories (filters.category.map .one)

/-- An empty search text and an empty list of tags are left out. -/
def buildWhereClause (filters : TicketFilters) (text : TextSearch) (ticket : Ticket) : Bool :=
  ticket.tenantId = filters.tenantId &&
    enumMatches ticket.status.text filters.status &&
    enumMatches ticket.priority.text filters.priority &&
    enumMatches ticket.category (filters.category.map .one) &&
    (filters.assignedAgentId.all fun agentId => ticket.assignedAgentId = some agentId) &&
    (filters.customerId.all fun customerId => ticket.customerId = customerId) &&
    (filters.isEscalated.all fun isEscalated => ticket.isEscalated = isEscalated) &&
    (filters.slaBreached.all fun slaBreached => ticket.slaBreached = slaBreached) &&
    withinDates filters.dateFrom filters.dateTo ticket.createdAt &&
    (filters.search.all fun search => search = "" ||
      text.contains ticket.title (JsText.trim search) ||
      text.contains ticket.description (JsText.trim search)) &&
    filters.tags.all fun tags => tags = [] || tags.any fun tag => tag ∈ ticket.tags

def select (filters : TicketFilters) (text : TextSearch) (s : Store) :
    Except AppError (List Ticket) :=
  if enumsKnown filters then .ok (s.tickets.filter (buildWhereClause filters text))
  else .error (.infrastructure "Failed to list tickets")

/-- A ticket that is never due stands after the others. -/
def dueLe : Option Time → Option Time → Bool
  | _, none => true
  | none, some _ => false
  | some dueAt, some dueAt' => dueAt ≤ dueAt'

/-- Enumerations are in the order of their declaration. -/
def validSortFields : List (String × (Ticket → Ticket → Bool)) :=
  [("createdAt", fun t t' => t.createdAt ≤ t'.createdAt),
    ("updatedAt", fun t t' => t.updatedAt ≤ t'.updatedAt),
    ("priority", fun t t' =>
      TicketPriority.values.idxOf t.priority ≤ TicketPriority.values.idxOf t'.priority),
    ("status", fun t t' =>
      TicketStatus.values.idxOf t.status ≤ TicketStatus.values.idxOf t'.status),
    ("ticketNumber", fun t t' => t.ticketNumber ≤ t'.ticketNumber),
    ("dueAt", fun t t' => dueLe t.dueAt t'.dueAt)]

/-- The newest first, unless the field is one to sort by. -/
def buildOrderBy (sortBy : Option String) (sortOrder : SortOrder) : Ticket → Ticket → Bool :=
  match validSortFields.find? fun field => field.1 = sortBy.getD "createdAt" with
  | some field => sortOrder.apply field.2
  | none => SortOrder.desc.apply fun t t' => t.createdAt ≤ t'.createdAt

def findAll (filters : TicketFilters) (pagination : PaginationOptions) :
    ServiceM (PaginatedResult Ticket) :=
  findPage .ticketFindMany .ticketCount (.infrastructure "Failed to list tickets")
    (select filters) (buildOrderBy pagination.sortBy pagination.sortOrder) pagination

end TicketRepository

namespace ActivityRepository

/-- The activities a `where` selects, the latest first. -/
def findBy (p : ActivityLog → Bool) (error : AppError) (page limit : Nat) :
    ServiceM (PaginatedResult ActivityLog) :=
  findPage .activityFindMany .activityCount error (fun _ s => .ok (s.activities.filter p))
    (fun a a' => a'.occurredAt ≤ a.occurredAt) { page := page, limit := limit }

def findByTicket (ticketId tenantId : Uuid) (page limit : Nat) :
    ServiceM (PaginatedResult ActivityLog) :=
  findBy (fun a => a.ticketId = some ticketId && a.tenantId = tenantId)
    (.infrastructure "Failed to find ticket activities") page limit

def findByCustomer (customerId tenantId : Uuid) (page limit : Nat) :
    ServiceM (PaginatedResult ActivityLog) :=
  findBy (fun a => a.customerId = some customerId && a.tenantId = tenantId)
    (.infrastructure "Failed to find customer activities") page limit

end ActivityRepository
end OmniSupport.Database
