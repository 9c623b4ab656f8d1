import OmniSupport.Ticket.ReadPaths
import OmniSupport.Ticket.TicketWrites

/-! A ticket after domain operations, as the repository stores it and reads it back: a column
that is set stays set, and not every category is a value of its column. -/
namespace OmniSupport
open Foundation Database Effect

namespace TicketEntity

def markSlaBreached (ticket : TicketEntity) : TicketEntity :=
  { ticket with row := { ticket.row with slaBreached := true } }

def addTag (tag : String) (ticket : TicketEntity) : TicketEntity :=
  if tag ∈ ticket.row.tags then ticket
  else { ticket with row := { ticket.row with tags := ticket.row.tags ++ [tag] } }

end TicketEntity

namespace Ticketing

structure DetailsInput where
  title : Option String
  description : Option String
  tags : Option (List String)
  dueAt : Option Time

inductive TicketOperation where
  | changeStatus (newStatus : TicketStatus) (changedById : Uuid)
  | resolve (resolvedById : Uuid)
  | assign (agentId assignedById : Uuid)
  | escalate (reason : String) (escalatedById : Actor)
  | markSlaBreached
  | updatePriority (priority : TicketPriority)
  | updateCategory (category : String)
  | updateDetails (details : DetailsInput)
  | addTag (tag : String)

/-- An operation with its clock reading and the headers of the events it raises. -/
structure OperationAt where
  operation : TicketOperation
  now : Time
  header : EventHeader
  header' : EventHeader

/-- The entity after an operation that throws before it changes anything. -/
def orKept (ticket : TicketEntity) : Except AppError TicketEntity → TicketEntity
  | .ok changed => changed
  | .error _ => ticket

/-- A title is set before a blank description throws. -/
def afterDetails (details : DetailsInput) (ticket : TicketEntity) : TicketEntity :=
  match ticket.updateDetails details.title details.description details.tags details.dueAt with
  | .ok changed => changed
  | .error _ =>
    match TicketEntity.detail "Ticket title cannot be empty" ticket.row.title details.title with
    | .ok title => { ticket with row := { ticket.row with title := title } }
    | .error _ => ticket

/-- The entity after an operation, whether it returns or throws. -/
def after (ticket : TicketEntity) (op : OperationAt) : TicketEntity :=
  match op.operation with
  | .changeStatus newStatus changedById =>
    orKept ticket (ticket.changeStatus op.now op.header newStatus changedById)
  | .resolve resolvedById =>
    orKept ticket (ticket.resolve op.now op.header op.header' resolvedById)
  | .assign agentId assignedById => ticket.assign op.now op.header agentId assignedById
  | .escalate reason escalatedById =>
    orKept ticket (ticket.escalate op.now op.header reason escalatedById)
  | .markSlaBreached => ticket.markSlaBreached
  | .updatePriority priority => ticket.updatePriority priority
  | .updateCategory category => orKept ticket (ticket.updateCategory category)
  | .updateDetails details => afterDetails details ticket
  | .addTag tag => ticket.addTag tag

/-- The entity of a stored row after a sequence of operations. -/
def obtained (row : Ticket) (operations : List OperationAt) : TicketEntity :=
  operations.foldl after (.reconstitute row)

/-- `update` followed by `findById`. -/
def updateThenFind (ticket : Ticket) : ServiceM (Option Ticket) := do
  let _ ← TicketRepository.update ticket
  TicketRepository.findById ticket.id ticket.tenantId

/-- The category is a value of its column, and no time of a resolution or closure that is stored
has been unset. -/
structure Storable (row ticket : Ticket) : Prop where
  category : ticket.category ∈ Store.categories
  resolvedAt : row.resolvedAt.isSome = true → ticket.resolvedAt.isSome = true
  closedAt : row.closedAt.isSome = true → ticket.closedAt.isSome = true

instance (row ticket : Ticket) : Decidable (Storable row ticket) :=
  decidable_of_iff (ticket.category ∈ Store.categories ∧
      (row.resolvedAt.isSome = true → ticket.resolvedAt.isSome = true) ∧
      (row.closedAt.isSome = true → ticket.closedAt.isSome = true))
    ⟨fun h => ⟨h.1, h.2.1, h.2.2⟩, fun h => ⟨h.category, h.resolvedAt, h.closedAt⟩⟩

section operations

/-- What no operation changes, and what none unsets. -/
structure KeepsColumns (row ticket : Ticket) : Prop where
  id : ticket.id = row.id
  tenantId : ticket.tenantId = row.tenantId
  ticketNumber : ticket.ticketNumber = row.ticketNumber
  customerId : ticket.customerId = row.customerId
  createdById : ticket.createdById = row.createdById
  source : ticket.source = row.source
  metadata : ticket.metadata = row.metadata
  createdAt : ticket.createdAt = row.createdAt
  externalRef : ticket.externalRef = row.externalRef
  assignedAgentId : row.assignedAgentId.isSome = true → ticket.assignedAgentId.isSome = true
  escalatedAt : row.escalatedAt.isSome = true → ticket.escalatedAt.isSome = true
  escalatedReason : row.escalatedReason.isSome = true → ticket.escalatedReason.isSome = true
  firstResponseAt : row.firstResponseAt.isSome = true → ticket.firstResponseAt.isSome = true
  dueAt : row.dueAt.isSome = true → ticket.dueAt.isSome = true

theorem KeepsColumns.refl (row : Ticket) : KeepsColumns row row := by
  constructor <;> simp

theorem KeepsColumns.trans {row row' row'' : Ticket} (h : KeepsColumns row row')
    (h' : KeepsColumns row' row'') : KeepsColumns row row'' where
  id := h'.id.trans h.id
  tenantId := h'.tenantId.trans h.tenantId
  ticketNumber := h'.ticketNumber.trans h.ticketNumber
  customerId := h'.customerId.trans h.customerId
  createdById := h'.createdById.trans h.createdById
  source := h'.source.trans h.source
  metadata := h'.metadata.trans h.metadata
  createdAt := h'.createdAt.trans h.createdAt
  externalRef := h'.externalRef.trans h.externalRef
  assignedAgentId := h'.assignedAgentId ∘ h.assignedAgentId
  escalatedAt := h'.escalatedAt ∘ h.escalatedAt
  escalatedReason := h'.escalatedReason ∘ h.escalatedReason
  firstResponseAt := h'.firstResponseAt ∘ h.firstResponseAt
  dueAt := h'.dueAt ∘ h.dueAt

variable {ticket changed : TicketEntity}

theorem keeps_orKept {x : Except AppError TicketEntity}
    (h : ∀ changed, x = .ok changed → KeepsColumns ticket.row changed.row) :
    KeepsColumns ticket.row (orKept ticket x).row := by
  cases x with
  | ok changed => exact h changed rfl
  | error e => exact .refl ticket.row

theorem changeStatus_keeps {now : Time} {header : EventHeader} {newStatus : TicketStatus}
    {changedById : Uuid} (h : ticket.changeStatus now header newStatus changedById = .ok changed) :
    KeepsColumns ticket.row changed.row := by
  simp only [TicketEntity.changeStatus] at h
  split at h
  · cases h
    constructor <;> simp
  · cases h

theorem resolve_keeps {now : Time} {header header' : EventHeader} {resolvedById : Uuid}
    (h : ticket.resolve now header header' resolvedById = .ok changed) :
    KeepsColumns ticket.row changed.row := by
  obtain ⟨moved, hmoved, h⟩ := bind_eq_ok.mp h
  have hkeeps := changeStatus_keeps hmoved
  cases h
  exact hkeeps

theorem assign_keeps (now : Time) (header : EventHeader) (agentId assignedById : Uuid) :
    KeepsColumns ticket.row (ticket.assign now header agentId assignedById).row := by
  constructor <;> simp +contextual [TicketEntity.assign]

theorem escalate_keeps {now : Time} {header : EventHeader} {reason : String}
    {escalatedById : Actor} (h : ticket.escalate now header reason escalatedById = .ok changed) :
    KeepsColumns ticket.row changed.row := by
  simp only [TicketEntity.escalate] at h
  split at h
  · cases h
  · cases h
    constructor <;> simp

theorem updateCategory_keeps {category : String}
    (h : ticket.updateCategory category = .ok changed) : KeepsColumns ticket.row changed.row := by
  obtain ⟨stored, -, h⟩ := bind_eq_ok.mp h
  cases h
  constructor <;> simp

theorem afterDetails_keeps (details : DetailsInput) :
    KeepsColumns ticket.row (afterDetails details ticket).row := by
  unfold afterDetails
  split
  · rename_i changed h
    obtain ⟨title, -, h⟩ := bind_eq_ok.mp h
    obtain ⟨description, -, h⟩ := bind_eq_ok.mp h
    cases h
    constructor <;> simp +contextual
  · split
    · constructor <;> simp
    · exact .refl ticket.row

theorem after_keeps (ticket : TicketEntity) (op : OperationAt) :
    KeepsColumns ticket.row (after ticket op).row := by
  unfold after
  cases op.operation with
  | changeStatus newStatus changedById => exact keeps_orKept fun _ h => changeStatus_keeps h
  | resolve resolvedById => exact keeps_orKept fun _ h => resolve_keeps h
  | assign agentId assignedById => exact assign_keeps _ _ agentId assignedById
  | escalate reason escalatedById => exact keeps_orKept fun _ h => escalate_keeps h
  | markSlaBreached => constructor <;> simp [TicketEntity.markSlaBreached]
  | updatePriority priority => constructor <;> simp [TicketEntity.updatePriority]
  | updateCategory category => exact keeps_orKept fun _ h => updateCategory_keeps h
  | updateDetails details => exact afterDetails_keeps details
  | addTag tag =>
    simp only [TicketEntity.addTag]
    split
    · exact .refl ticket.row
    · constructor <;> simp

theorem obtained_keeps (row : Ticket) (operations : List OperationAt) :
    KeepsColumns row (obtained row operations).row := by
  have hall : ∀ (operations : List OperationAt) (ticket : TicketEntity),
      KeepsColumns ticket.row (operations.foldl after ticket).row := by
    intro operations
    induction operations with
    | nil => exact fun ticket => .refl ticket.row
    | cons op operations ih => exact fun ticket => (after_keeps ticket op).trans (ih _)
  exact hall operations (.reconstitute row)

end operations

section storing
variable {row ticket : Ticket} {s : Store} {time : Time}

theorem or_eq_left_iff {α : Type} {a b : Option α} :
    a.or b = a ↔ (b.isSome = true → a.isSome = true) := by
  cases a <;> cases b <;> simp

/-- A write leaves what the entity holds, unless the row holds a time the entity has unset. -/
theorem write_eq_iff (h : KeepsColumns row ticket) :
    Ticket.write time ticket row = { ticket with updatedAt := time } ↔
      (row.resolvedAt.isSome = true → ticket.resolvedAt.isSome = true) ∧
      (row.closedAt.isSome = true → ticket.closedAt.isSome = true) := by
  have hassigned := or_eq_left_iff.mpr h.assignedAgentId
  have hescalated := or_eq_left_iff.mpr h.escalatedAt
  have hreason := or_eq_left_iff.mpr h.escalatedReason
  have hresponse := or_eq_left_iff.mpr h.firstResponseAt
  have hdue := or_eq_left_iff.mpr h.dueAt
  rw [← or_eq_left_iff, ← or_eq_left_iff]
  simp [Ticket.write, h.id, h.tenantId, h.ticketNumber, h.customerId,
    h.createdById, h.source, h.createdAt, h.externalRef, hassigned, hescalated, hreason,
    hresponse, hdue]

/-- The row a read of the written ticket finds. -/
theorem findTicket_written (hids : (s.tickets.map Ticket.id).Nodup) (hrow : row ∈ s.tickets)
    (h : KeepsColumns row ticket) :
    (s.updateTicket ticket.id (Ticket.write time ticket)).findTicket ticket.id ticket.tenantId =
      some (Ticket.write time ticket row) := by
  have hkey : ∀ r : Ticket, (Ticket.write time ticket r).id = r.id := fun _ => rfl
  have hkeys : ((s.updateTicket ticket.id (Ticket.write time ticket)).tickets.map
      Ticket.id).Nodup := by
    rw [Store.updateTicket, Table.map_updateMany hkey]
    exact hids
  have hmem : Ticket.write time ticket row ∈
      (s.updateTicket ticket.id (Ticket.write time ticket)).tickets :=
    Table.mem_updateMany.mpr (.inl ⟨row, hrow, h.id.symm, rfl⟩)
  have htenant : (Ticket.write time ticket row).tenantId = ticket.tenantId := h.tenantId.symm
  have hfound := findTicket_of_mem hkeys hmem htenant
  rw [h.id] at hfound ⊢
  exact hfound

/-- `update` and the read after it. -/
theorem updateThenFind_run {env : ServiceEnv} :
    ((updateThenFind ticket).run env (fun _ => .none) (World.start s)).1 =
      match TicketRepository.updateRow (env.clock 0) ticket s with
      | .error error => .error error
      | .ok (_, s') => .ok (s'.findTicket ticket.id ticket.tenantId) := by
  cases hupdate : TicketRepository.updateRow (env.clock 0) ticket s with
  | error error =>
    simp [updateThenFind, TicketRepository.update, bind, Effect.andThen, Effect.draw, Effect.call,
      World.view, World.start, hupdate]
  | ok result =>
    simp [updateThenFind, TicketRepository.update, bind, Effect.andThen, Effect.draw, Effect.call,
      World.view, World.write, World.log, World.start, hupdate,
      TicketRepository.findById, Effect.read]

end storing

/-- For every stored row and every sequence of operations: the ticket is read back as it was
handed to `update`, stamped with the time of the write, exactly when it is storable. -/
theorem read_back_iff {s : Store} {row : Ticket} (hids : (s.tickets.map Ticket.id).Nodup)
    (hrow : row ∈ s.tickets) (operations : List OperationAt) (env : ServiceEnv) :
    ((updateThenFind (obtained row operations).row).run env (fun _ => .none)
        (World.start s)).1 =
      .ok (some { (obtained row operations).row with updatedAt := env.clock 0 }) ↔
    Storable row (obtained row operations).row := by
  have hkeeps := obtained_keeps row operations
  generalize (obtained row operations).row = ticket at hkeeps ⊢
  have hfound : (s.tickets.find? fun r => r.id = ticket.id) = some row := by
    rw [hkeeps.id]
    exact Table.find?_of_mem hids hrow
  rw [updateThenFind_run, TicketRepository.updateRow, hfound]
  by_cases hcategory : ticket.category ∈ Store.categories
  · simp only [if_pos hcategory, findTicket_written hids hrow hkeeps, Outcome.ok.injEq,
      Option.some.injEq]
    rw [write_eq_iff hkeeps]
    exact ⟨fun h => ⟨hcategory, h.1, h.2⟩, fun h => ⟨h.resolvedAt, h.closedAt⟩⟩
  · have hno : ¬ Storable row ticket := fun h => hcategory h.category
    simp [hcategory, hno]

section runs

def resolvedRow : Ticket :=
  { (default : Ticket) with
    id := 1
    tenantId := 2
    status := .resolved
    category := "GENERAL"
    resolvedAt := some 5 }

def resolvedStore : Store where
  tickets := [resolvedRow]
  comments := []
  customers := []
  tenants := []
  users := []
  refreshTokens := []
  sequences := []
  activities := []
  audits := []
  outbox := []

def operationAt (now : Time) (operation : TicketOperation) : OperationAt :=
  ⟨operation, now, ⟨sampleEnv.eventId 0, now⟩, ⟨sampleEnv.eventId 1, now⟩⟩

/-- One operation on a stored row, stored and read back. -/
def readBack (row : Ticket) (op : OperationAt) : Outcome AppError (Option Ticket) :=
  ((updateThenFind (obtained row [op]).row).run sampleEnv (fun _ => .none)
    (World.start { resolvedStore with tickets := [row] })).1

end runs

/-- A resolved ticket that is assigned, tagged and closed is read back so. -/
theorem read_back_iff_closed :
    ((updateThenFind (obtained resolvedRow [operationAt 7 (.assign 3 4),
        operationAt 8 (.addTag "vip"), operationAt 9 (.changeStatus .closed 4)]).row).run sampleEnv
        (fun _ => .none) (World.start resolvedStore)).1 =
      .ok (some { (obtained resolvedRow [operationAt 7 (.assign 3 4),
        operationAt 8 (.addTag "vip"), operationAt 9 (.changeStatus .closed 4)]).row with
          updatedAt := sampleEnv.clock 0 }) :=
  (read_back_iff (by decide) (by decide) _ sampleEnv).mpr (by decide)

/-- A reopened ticket is read back with the old time of its resolution, and keeps it when it is
resolved again. -/
theorem reopened_keeps_resolution :
    ∃ reopened started again,
      (obtained resolvedRow [operationAt 9 (.changeStatus .open 4)]).row.resolvedAt = none ∧
      readBack resolvedRow (operationAt 9 (.changeStatus .open 4)) = .ok (some reopened) ∧
      reopened.resolvedAt = some 5 ∧
      readBack reopened (operationAt 20 (.changeStatus .inProgress 4)) = .ok (some started) ∧
      readBack started (operationAt 21 (.resolve 4)) = .ok (some again) ∧
      again.status = .resolved ∧ again.resolvedAt = some 5 :=
  ⟨_, _, _, rfl, rfl, rfl, rfl, rfl, rfl, rfl⟩

end Ticketing
end OmniSupport
