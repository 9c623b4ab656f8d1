import OmniSupport.Database.Queries

/-! The rows an export reads, batch by batch behind a cursor. -/
namespace OmniSupport.Report
open Foundation Database

structure ReportFilters where
  status : Option String := none
  dateFrom : Option Time := none
  dateTo : Option Time := none
  deriving DecidableEq

inductive ReportSubject where
  | tickets
  | customers
  deriving DecidableEq

structure ReportJob where
  tenantId : Uuid
  requestedById : Uuid
  subject : ReportSubject
  deriving DecidableEq

structure TicketColumns where
  id : Uuid
  ticketNumber : Nat
  title : String
  status : TicketStatus
  priority : TicketPriority
  category : String
  isEscalated : Bool
  createdAt : Time
  resolvedAt : Option Time
  customerId : Uuid
  assignedAgentId : Option Uuid
  deriving DecidableEq

structure CustomerColumns where
  id : Uuid
  fullName : String
  email : String
  company : Option String
  status : CustomerStatus
  riskLabel : Option String
  createdAt : Time
  deriving DecidableEq

inductive ReportRow where
  | ticket (columns : TicketColumns)
  | customer (columns : CustomerColumns)
  deriving DecidableEq

def ReportRow.id : ReportRow → Uuid
  | .ticket columns => columns.id
  | .customer columns => columns.id

def ticketRow (ticket : Ticket) : ReportRow :=
  .ticket
    { id := ticket.id
      ticketNumber := ticket.ticketNumber
      title := ticket.title
      status := ticket.status
      priority := ticket.priority
      category := ticket.category
      isEscalated := ticket.isEscalated
      createdAt := ticket.createdAt
      resolvedAt := ticket.resolvedAt
      customerId := ticket.customerId
      assignedAgentId := ticket.assignedAgentId }

def customerRow (customer : Customer) : ReportRow :=
  .customer
    { id := customer.id
      fullName := customer.fullName
      email := customer.email
      company := customer.company
      status := customer.status
      riskLabel := customer.riskLabel
      createdAt := customer.createdAt }

namespace ReportService

def batchSize : Nat := 1000

/-- Row-level rule: agents only see tickets assigned to them. -/
def ticketWhere (job : ReportJob) (requesterRole : UserRole) (filters : ReportFilters)
    (ticket : Ticket) : Bool :=
  ticket.tenantId = job.tenantId &&
    (requesterRole ≠ .agent || ticket.assignedAgentId = some job.requestedById) &&
    enumMatches ticket.status.text (filters.status.map .one) &&
    withinDates filters.dateFrom filters.dateTo ticket.createdAt

def customerWhere (job : ReportJob) (filters : ReportFilters) (customer : Customer) : Bool :=
  customer.tenantId = job.tenantId &&
    enumMatches customer.status.text (filters.status.map .one) &&
    withinDates filters.dateFrom filters.dateTo customer.createdAt

def readPage (job : ReportJob) (requesterRole : UserRole) (filters : ReportFilters)
    (cursor : Option Uuid) : ServiceM (List ReportRow) :=
  match job.subject with
  | .tickets =>
    Effect.query .root .ticketFindMany .database fun s =>
      if enumKnown (TicketStatus.values.map TicketStatus.text) (filters.status.map .one) then
        .ok ((Paging.batch Ticket.id batchSize (ticketWhere job requesterRole filters) cursor
          s.tickets).map ticketRow)
      else .error .database
  | .customers =>
    Effect.query .root .customerFindMany .database fun s =>
      if enumKnown (CustomerStatus.values.map CustomerStatus.text) (filters.status.map .one) then
        .ok ((Paging.batch Customer.id batchSize (customerWhere job filters) cursor
          s.customers).map customerRow)
      else .error .database

/-- The rows of all batches, unless `fuel` batches are not all. A batch that is not full is
the last one. -/
def readBatches (job : ReportJob) (requesterRole : UserRole) (filters : ReportFilters) :
    Nat → Option Uuid → ServiceM (Option (List ReportRow))
  | 0, _ => return none
  | fuel + 1, cursor => do
    let page ← readPage job requesterRole filters cursor
    if page.length < batchSize then return some page
    else
      let rest ← readBatches job requesterRole filters fuel (page.getLast?.map ReportRow.id)
      return rest.map fun rows => page ++ rows

end ReportService

section batches
variable {env : ServiceEnv} {d : Nat} {s : Store} {job : ReportJob} {requesterRole : UserRole}
  {filters : ReportFilters}

theorem answers_readPage (hsubject : job.subject = .tickets)
    (hknown : enumKnown (TicketStatus.values.map TicketStatus.text)
      (filters.status.map .one) = true) (cursor : Option Uuid) :
    Effect.Answers env d d s (ReportService.readPage job requesterRole filters cursor)
      (.ok ((Paging.batch Ticket.id ReportService.batchSize
        (ReportService.ticketWhere job requesterRole filters) cursor s.tickets).map
          ticketRow)) := by
  simp only [ReportService.readPage, hsubject, hknown, if_true]
  exact Effect.answers_query .root ServiceCall.ticketFindMany AppError.database fun s : Store =>
    .ok ((Paging.batch Ticket.id ReportService.batchSize
      (ReportService.ticketWhere job requesterRole filters) cursor s.tickets).map ticketRow)

/-- From a cursor that the rest of the rows follows, the batches hold the rest. -/
theorem answers_readBatches (hsubject : job.subject = .tickets)
    (hknown : enumKnown (TicketStatus.values.map TicketStatus.text)
      (filters.status.map .one) = true) {rest : List Ticket} {fuel : Nat}
    (hfuel : rest.length < fuel) {cursor : Option Uuid}
    (hbatch : ∀ seen rest', rest = seen ++ rest' →
      Paging.batch Ticket.id ReportService.batchSize
        (ReportService.ticketWhere job requesterRole filters)
        ((seen.getLast?.map Ticket.id).or cursor) s.tickets =
          rest'.take ReportService.batchSize) :
    Effect.Answers env d d s (ReportService.readBatches job requesterRole filters fuel cursor)
      (.ok (some (rest.map ticketRow))) := by
  induction fuel generalizing rest cursor with
  | zero => exact absurd hfuel (Nat.not_lt_zero _)
  | succ fuel ih =>
    have hpage : Effect.Answers env d d s
        (ReportService.readPage job requesterRole filters cursor) _ :=
      answers_readPage hsubject hknown cursor
    have hfirst := hbatch [] rest rfl
    simp only [List.getLast?_nil, Option.map_none, Option.none_or] at hfirst
    rw [hfirst] at hpage
    refine hpage.bind (y := fun _ => .ok (some (rest.map ticketRow))) fun page hp => ?_
    cases hp
    by_cases hlast : rest.length < ReportService.batchSize
    · have htake : rest.take ReportService.batchSize = rest := List.take_of_length_le hlast.le
      rw [htake, List.length_map, if_pos hlast]
      exact Effect.answers_pure _
    · have hfull : (rest.take ReportService.batchSize).length = ReportService.batchSize := by
        rw [List.length_take]
        omega
      rw [List.length_map, hfull, if_neg (lt_irrefl _)]
      have hne : rest.take ReportService.batchSize ≠ [] := by
        intro hnil
        rw [hnil] at hfull
        exact absurd hfull (by decide)
      have hgetLast : (rest.take ReportService.batchSize).getLast? =
          some ((rest.take ReportService.batchSize).getLast hne) :=
        List.getLast?_eq_some_getLast hne
      have hcursor : ((rest.take ReportService.batchSize).map ticketRow).getLast?.map ReportRow.id =
          (rest.take ReportService.batchSize).getLast?.map Ticket.id := by
        rw [List.getLast?_map, hgetLast]
        rfl
      have hshort : (rest.drop ReportService.batchSize).length < fuel := by
        have hpos : 0 < ReportService.batchSize := by decide
        rw [List.length_drop]
        omega
      have hgoesOn : ∀ seen rest', rest.drop ReportService.batchSize = seen ++ rest' →
          Paging.batch Ticket.id ReportService.batchSize
            (ReportService.ticketWhere job requesterRole filters)
            ((seen.getLast?.map Ticket.id).or
              ((rest.take ReportService.batchSize).getLast?.map Ticket.id)) s.tickets =
            rest'.take ReportService.batchSize := by
        intro seen rest' hsplit
        have hall := hbatch (rest.take ReportService.batchSize ++ seen) rest' (by
          rw [List.append_assoc, ← hsplit, List.take_append_drop])
        rw [← hall, List.getLast?_append, hgetLast]
        cases seen.getLast? <;> rfl
      have hrest := ih hshort hgoesOn
      rw [hcursor]
      refine hrest.bind (y := fun _ => .ok (some (rest.map ticketRow))) fun rows hrows => ?_
      cases hrows
      have hmap : (rest.take ReportService.batchSize).map ticketRow ++
          (rest.drop ReportService.batchSize).map ticketRow = rest.map ticketRow := by
        rw [← List.map_append, List.take_append_drop]
      rw [Option.map_some, hmap]
      exact Effect.answers_pure _

/-- With unique ids and enough fuel the export reads the rows its `where` selects. -/
theorem answers_export (hsubject : job.subject = .tickets)
    (hknown : enumKnown (TicketStatus.values.map TicketStatus.text)
      (filters.status.map .one) = true)
    (hkeys : (s.tickets.map Ticket.id).Nodup) {fuel : Nat} (hfuel : s.tickets.length < fuel) :
    Effect.Answers env d d s (ReportService.readBatches job requesterRole filters fuel none)
      (.ok (some ((Paging.byKey Ticket.id (s.tickets.filter
        (ReportService.ticketWhere job requesterRole filters))).map ticketRow))) := by
  have hperm := Paging.byKey_perm Ticket.id
    (s.tickets.filter (ReportService.ticketWhere job requesterRole filters))
  refine answers_readBatches hsubject hknown ?_ fun seen rest' hsplit => ?_
  · have hle := List.length_filter_le (ReportService.ticketWhere job requesterRole filters)
      s.tickets
    rw [hperm.length_eq]
    omega
  · rcases List.eq_nil_or_concat seen with rfl | ⟨before, last, rfl⟩
    · rw [List.nil_append] at hsplit
      rw [← hsplit]
      rfl
    · rw [List.concat_eq_append, List.append_assoc, List.singleton_append] at hsplit
      rw [List.concat_eq_append, List.getLast?_append]
      exact Paging.batch_after hkeys hsplit

end batches
end OmniSupport.Report
