import OmniSupport.Database.Queries
import OmniSupport.Shared.JsText

/-! Search over tickets, customers and public comments of an organization. -/
namespace OmniSupport.Search
open Foundation Database

inductive SearchResultType where
  | ticket
  | customer
  | comment
  deriving DecidableEq

def SearchResultType.text : SearchResultType → String
  | .ticket => "ticket"
  | .customer => "customer"
  | .comment => "comment"

structure SearchResult where
  type : SearchResultType
  id : Uuid
  title : String
  excerpt : String
  url : String
  metadata : JsonObject
  rank : Rat
  deriving DecidableEq

/-- The ticket of a ticket or comment hit. -/
def SearchResult.ticketId (hit : SearchResult) : Option Uuid :=
  match hit.type with
  | .ticket => some hit.id
  | .customer => none
  | .comment =>
    match hit.metadata.lookup "ticketId" with
    | some (.id ticketId) => some ticketId
    | _ => none

structure SearchOptions where
  tenantId : Uuid
  query : String
  types : List String
  limit : Nat
  page : Nat
  assignedAgentId : Option Uuid

/-- `ORDER BY "rank" DESC LIMIT`. -/
def topRanked {ρ : Type} (rank : ρ → Rat) (ties : Nat → Nat) (limit : Nat) (rows : List ρ) :
    List ρ :=
  (Paging.orderRows (fun row row' => rank row' ≤ rank row) ties rows).take limit

theorem mem_of_topRanked {ρ : Type} {rank : ρ → Rat} {ties : Nat → Nat} {limit : Nat}
    {rows : List ρ} {row : ρ} (h : row ∈ topRanked rank ties limit rows) : row ∈ rows :=
  Paging.mem_orderRows.mp (List.mem_of_mem_take h)

/-- The rules of the database for one query. -/
def queryRules : ServiceM (TextSearch × (Nat → Nat)) :=
  Effect.draw fun env n => (env.text, env.ties n)

/-- A search that fails finds nothing. -/
def searchQuery (select : Store → List SearchResult) : ServiceM (List SearchResult) :=
  Effect.recover [] (Effect.read .root .searchQuery .database select)

namespace TicketProjection

def ticketDocument (ticket : Ticket) : List String := [ticket.title, ticket.description]

def ticketRow (rank : Rat) (ticket : Ticket) : SearchResult where
  type := .ticket
  id := ticket.id
  title := "#" ++ toString ticket.ticketNumber ++ " - " ++ ticket.title
  excerpt := JsText.firstUnits 200 ticket.description
  url := "/tickets/" ++ toString ticket.id
  metadata := [("status", .text ticket.status.text), ("priority", .text ticket.priority.text)]
  rank := rank

def searchTickets (tenantId : Uuid) (query : String) (limit : Nat)
    (assignedAgentId : Option Uuid) : ServiceM (List SearchResult) := do
  let (text, ties) ← queryRules
  searchQuery fun s =>
    (topRanked (fun ticket => text.rank (ticketDocument ticket) query) ties limit
      (s.tickets.filter fun ticket => ticket.tenantId = tenantId &&
        text.searches (ticketDocument ticket) query &&
        assignedAgentId.all fun agentId => ticket.assignedAgentId = some agentId)).map
      fun ticket => ticketRow (text.rank (ticketDocument ticket) query) ticket

/-- The ticket a comment is joined with. -/
def joinTicket (comment : TicketComment) (s : Store) : Option Ticket :=
  s.tickets.find? fun ticket => ticket.id = comment.ticketId ∧ ticket.tenantId = comment.tenantId

def commentRow (rank : Rat) (joined : TicketComment × Ticket) : SearchResult where
  type := .comment
  id := joined.1.id
  title := "Comment on #" ++ toString joined.2.ticketNumber ++ " - " ++ joined.2.title
  excerpt := JsText.firstUnits 200 joined.1.content
  url := "/tickets/" ++ toString joined.1.ticketId ++ "#comment-" ++ toString joined.1.id
  metadata := [("ticketId", .id joined.1.ticketId)]
  rank := rank

/-- Public comments with their tickets; internal notes are never returned by search. -/
def commentRows (tenantId : Uuid) (query : String) (assignedAgentId : Option Uuid)
    (text : TextSearch) (s : Store) : List (TicketComment × Ticket) :=
  (s.comments.filterMap fun comment =>
    (joinTicket comment s).map fun ticket => (comment, ticket)).filter fun joined =>
      joined.1.tenantId = tenantId && joined.1.type = .publicComment &&
        text.searches [joined.1.content] query &&
        assignedAgentId.all fun agentId => joined.2.assignedAgentId = some agentId

def searchComments (tenantId : Uuid) (query : String) (limit : Nat)
    (assignedAgentId : Option Uuid) : ServiceM (List SearchResult) := do
  let (text, ties) ← queryRules
  searchQuery fun s =>
    (topRanked (fun joined => text.rank [joined.1.content] query) ties limit
      (commentRows tenantId query assignedAgentId text s)).map
      fun joined => commentRow (text.rank [joined.1.content] query) joined

end TicketProjection

namespace CustomerProjection

def customerDocument (customer : Customer) : List String :=
  [customer.fullName, customer.email, customer.company.getD ""]

def customerRow (rank : Rat) (customer : Customer) : SearchResult where
  type := .customer
  id := customer.id
  title := customer.fullName
  excerpt := customer.email ++
    (if customer.company.getD "" = "" then "" else " • " ++ customer.company.getD "")
  url := "/customers/" ++ toString customer.id
  metadata := [("email", .text customer.email), ("status", .text customer.status.text)]
  rank := rank

def searchCustomers (tenantId : Uuid) (query : String) (limit : Nat) :
    ServiceM (List SearchResult) := do
  let (text, ties) ← queryRules
  searchQuery fun s =>
    (topRanked (fun customer => text.rank (customerDocument customer) query) ties limit
      (s.customers.filter fun customer => customer.tenantId = tenantId &&
        text.searches (customerDocument customer) query)).map
      fun customer => customerRow (text.rank (customerDocument customer) query) customer

end CustomerProjection

namespace SearchService

def included (type : SearchResultType) (options : SearchOptions)
    (search : ServiceM (List SearchResult)) : ServiceM (List SearchResult) :=
  if type.text ∈ options.types then search else return []

/-- One page of the hits of every type, best first, and their number. -/
def search (options : SearchOptions) : ServiceM (List SearchResult × Nat) :=
  if JsText.length (JsText.trim options.query) < 2 then return ([], 0)
  else do
    let searchText := JsText.firstUnits 200 (JsText.trim options.query)
    let tickets ← included .ticket options
      (TicketProjection.searchTickets options.tenantId searchText 10 options.assignedAgentId)
    let customers ← included .customer options
      (CustomerProjection.searchCustomers options.tenantId searchText 10)
    let comments ← included .comment options
      (TicketProjection.searchComments options.tenantId searchText 10 options.assignedAgentId)
    let results := (tickets ++ (customers ++ comments)).mergeSort fun r r' => r'.rank ≤ r.rank
    return (Paging.page ((options.page - 1) * options.limit) options.limit results, results.length)

end SearchService

namespace SearchController

structure SearchUser where
  id : Uuid
  role : UserRole

/-- Query texts; a page or a limit is the whole number its text stands for, if it does. -/
structure SearchQuery where
  q : Option String
  types : Option String
  page : Option Int
  limit : Option Int

def clampInt (value : Option Int) (fallback min max : Nat) : Nat :=
  match value with
  | some n => (Max.max (Min.min n max) min).toNat
  | none => fallback

def parsedTypes (types : Option String) : List String :=
  match types with
  | none => ["ticket", "customer", "comment"]
  | some text =>
    if text = "" then ["ticket", "customer", "comment"]
    else ((text.splitOn ",").map JsText.trim).filter fun type => type ≠ ""

/-- Agents only see tickets assigned to them. -/
def search (user : SearchUser) (tenantId : Uuid) (query : SearchQuery) :
    ServiceM (List SearchResult × Nat) :=
  SearchService.search
    { tenantId := tenantId
      query := query.q.getD ""
      types := parsedTypes query.types
      page := clampInt query.page 1 1 1000
      limit := clampInt query.limit 20 1 100
      assignedAgentId := if user.role = .agent then some user.id else none }

end SearchController

/-- A ticket of the organization that is within the scope of the search. -/
def InScope (tenantId : Uuid) (assignedAgentId : Option Uuid) (s : Store) (ticket : Ticket) :
    Prop :=
  ticket ∈ s.tickets ∧ ticket.tenantId = tenantId ∧
    ∀ agentId, assignedAgentId = some agentId → ticket.assignedAgentId = some agentId

/-- A ticket or comment hit names a ticket in scope. -/
def HitInScope (tenantId : Uuid) (assignedAgentId : Option Uuid) (s : Store)
    (hit : SearchResult) : Prop :=
  hit.type ≠ .customer → ∃ ticket, InScope tenantId assignedAgentId s ticket ∧
    hit.ticketId = some ticket.id

section hits
variable {env : ServiceEnv} {d : Nat} {s : Store} {tenantId : Uuid} {assignedAgentId : Option Uuid}
  {query : String} {limit : Nat}

theorem agent_all {ticket : Ticket}
    (h : (assignedAgentId.all fun agentId => ticket.assignedAgentId = some agentId) = true) :
    ∀ agentId, assignedAgentId = some agentId → ticket.assignedAgentId = some agentId := by
  rintro agentId rfl
  simpa using h

/-- What a search of one type may return, also when it failed. -/
def HitsEnd (s : Store) (P : SearchResult → Prop) (hits : List SearchResult) (_ : Nat)
    (s' : Store) : Prop :=
  s' = s ∧ ∀ hit ∈ hits, P hit

theorem ends_searchQuery {P : SearchResult → Prop} {select : Store → List SearchResult}
    (h : ∀ hit ∈ select s, P hit) :
    Effect.Ends env d s (HitsEnd s P) (fun s' => s' = s) (searchQuery select) := by
  refine Effect.Ends.recover (Effect.ends_read ⟨rfl, h⟩ rfl) fun n s' hs => ⟨hs, ?_⟩
  intro hit hm
  cases hm

theorem ends_searchTickets :
    Effect.Ends env d s (HitsEnd s (HitInScope tenantId assignedAgentId s)) (fun s' => s' = s)
      (TicketProjection.searchTickets tenantId query limit assignedAgentId) := by
  refine Effect.ends_draw_bind (ends_searchQuery fun hit hm _ => ?_)
  obtain ⟨ticket, hticket, rfl⟩ := List.mem_map.mp hm
  have hselected := List.mem_filter.mp (mem_of_topRanked hticket)
  simp only [Bool.and_eq_true, decide_eq_true_eq] at hselected
  obtain ⟨hmem, ⟨htenant, -⟩, hagent⟩ := hselected
  exact ⟨ticket, ⟨hmem, htenant, agent_all hagent⟩, rfl⟩

theorem ends_searchComments :
    Effect.Ends env d s (HitsEnd s (HitInScope tenantId assignedAgentId s)) (fun s' => s' = s)
      (TicketProjection.searchComments tenantId query limit assignedAgentId) := by
  refine Effect.ends_draw_bind (ends_searchQuery fun hit hm _ => ?_)
  obtain ⟨joined, hjoined, rfl⟩ := List.mem_map.mp hm
  have hselected := List.mem_filter.mp (mem_of_topRanked hjoined)
  simp only [Bool.and_eq_true, decide_eq_true_eq] at hselected
  obtain ⟨hrow, ⟨⟨htenant, -⟩, -⟩, hagent⟩ := hselected
  obtain ⟨comment, -, hjoin⟩ := List.mem_filterMap.mp hrow
  obtain ⟨ticket, hfound, rfl⟩ := Option.map_eq_some_iff.mp hjoin
  have hmem := List.mem_of_find?_eq_some hfound
  have hcond := List.find?_some hfound
  simp only [decide_eq_true_eq] at hcond
  obtain ⟨hid, hsame⟩ := hcond
  exact ⟨ticket, ⟨hmem, hsame.trans htenant, agent_all hagent⟩, congrArg some hid.symm⟩

theorem ends_searchCustomers (agentId : Option Uuid) :
    Effect.Ends env d s (HitsEnd s (HitInScope tenantId agentId s)) (fun s' => s' = s)
      (CustomerProjection.searchCustomers tenantId query limit) := by
  refine Effect.ends_draw_bind (ends_searchQuery fun hit hm hother => ?_)
  obtain ⟨customer, -, rfl⟩ := List.mem_map.mp hm
  exact absurd rfl hother

theorem ends_included {P : SearchResult → Prop} {type : SearchResultType} {options : SearchOptions}
    {search : ServiceM (List SearchResult)}
    (h : Effect.Ends env d s (HitsEnd s P) (fun s' => s' = s) search) :
    Effect.Ends env d s (HitsEnd s P) (fun s' => s' = s)
      (SearchService.included type options search) := by
  unfold SearchService.included
  split
  · exact h
  · refine Effect.ends_pure ⟨rfl, fun hit hm => ?_⟩
    cases hm

/-- Every ticket or comment hit names a ticket in scope, whichever searches failed. -/
theorem ends_search {options : SearchOptions} :
    Effect.Ends env d s
      (fun r _ _ => ∀ hit ∈ r.1, HitInScope options.tenantId options.assignedAgentId s hit)
      (fun s' => s' = s) (SearchService.search options) := by
  unfold SearchService.search
  split
  · refine Effect.ends_pure fun hit hm => ?_
    cases hm
  · refine (ends_included ends_searchTickets).bind ?_
    rintro tickets d₁ s₁ ⟨rfl, htickets⟩
    refine (ends_included (ends_searchCustomers options.assignedAgentId)).bind ?_
    rintro customers d₂ s₂ ⟨rfl, hcustomers⟩
    refine (ends_included ends_searchComments).bind ?_
    rintro comments d₃ s₃ ⟨rfl, hcomments⟩
    refine Effect.ends_pure fun hit hm => ?_
    have hall := List.mem_mergeSort.mp (Paging.mem_of_mem_page hm)
    rcases List.mem_append.mp hall with hticket | hrest
    · exact htickets hit hticket
    · rcases List.mem_append.mp hrest with hcustomer | hcomment
      · exact hcustomers hit hcustomer
      · exact hcomments hit hcomment

end hits
end OmniSupport.Search
