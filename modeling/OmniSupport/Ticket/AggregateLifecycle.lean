import Mathlib.Logic.Relation
import OmniSupport.Database.ServiceRules
import OmniSupport.Foundation.History
import OmniSupport.Ticket.TicketAggregate

/-! The ticket aggregate under any sequence of its methods: its status, the times that go with
it, and the events it has raised. -/
namespace OmniSupport.TicketAggregate
open Foundation

/-- A call of a method, with the clock and the event headers it draws. -/
inductive Op where
  | changeStatus (now : Time) (header : EventHeader) (newStatus : TicketStatus) (changedById : Uuid)
  | resolve (now : Time) (header header' : EventHeader) (resolvedById : Uuid)
  | assign (now : Time) (header : EventHeader) (agentId assignedById : Uuid)
  | escalate (now : Time) (header : EventHeader) (reason : String) (escalatedById : Actor)
  | markSlaBreached
  | updatePriority (priority : TicketPriority)
  | updateDetails (title description : Option String) (tags : Option (List String))
      (dueAt : Option Time)
  | updateCategory (category : String)
  | addTag (tag : String)

namespace Op

def call (this : TicketEntity) : Op → Called
  | .changeStatus now header newStatus changedById =>
    TicketAggregate.changeStatus now header newStatus changedById this
  | .resolve now header header' resolvedById =>
    TicketAggregate.resolve now header header' resolvedById this
  | .assign now header agentId assignedById =>
    TicketAggregate.assign now header agentId assignedById this
  | .escalate now header reason escalatedById =>
    TicketAggregate.escalate now header reason escalatedById this
  | .markSlaBreached => TicketAggregate.markSlaBreached this
  | .updatePriority priority => TicketAggregate.updatePriority priority this
  | .updateDetails title description tags dueAt =>
    TicketAggregate.updateDetails title description tags dueAt this
  | .updateCategory category => TicketAggregate.updateCategory category this
  | .addTag tag => TicketAggregate.addTag tag this

def throws (this : TicketEntity) (op : Op) : Prop := ∃ e, (op.call this).1 = .error e

/-- `changeStatus`, `resolve` and `escalate`. -/
def guarded : Op → Bool
  | .changeStatus .. | .resolve .. | .escalate .. => true
  | _ => false

/-- The events of a call that returns on a ticket. -/
def events (this : TicketEntity) : Op → List DomainEvent
  | .changeStatus _ header newStatus changedById =>
    [header.event (.ticketStatusChanged this.row.id this.row.tenantId this.row.status newStatus
      changedById)]
  | .resolve _ header header' resolvedById =>
    [header.event (.ticketStatusChanged this.row.id this.row.tenantId this.row.status .resolved
      resolvedById),
    header'.event (.ticketResolved this.row.id this.row.tenantId this.row.customerId
      this.row.assignedAgentId resolvedById)]
  | .assign _ header agentId assignedById =>
    [header.event (.ticketAssigned this.row.id this.row.tenantId this.row.customerId agentId
      this.row.assignedAgentId assignedById)]
  | .escalate _ header reason escalatedById =>
    [header.event (.ticketEscalated this.row.id this.row.tenantId this.row.customerId
      this.row.assignedAgentId reason escalatedById)]
  | _ => []

/-- The events of a call: none when it throws. -/
def emitted (this : TicketEntity) (op : Op) : List DomainEvent :=
  match (op.call this).1 with
  | .ok () => op.events this
  | .error _ => []

/-- The status a call moves the ticket to. -/
def target (this : TicketEntity) (op : Op) : Option TicketStatus :=
  (match op with
    | .changeStatus _ _ newStatus _ => some newStatus
    | .resolve .. => some .resolved
    | _ => none).filter fun newStatus => this.row.status.canTransitionTo newStatus

end Op

/-- The ticket goes through the calls, whether they return or throw. -/
def aggregate : Machine TicketEntity Op := ⟨fun this op => some (op.call this).2⟩

def statusChange (event : DomainEvent) : Option (TicketStatus × TicketStatus) :=
  match event.body with
  | .ticketStatusChanged _ _ oldStatus newStatus _ => some (oldStatus, newStatus)
  | _ => none

def isEscalation (event : DomainEvent) : Bool :=
  match event.body with
  | .ticketEscalated .. => true
  | _ => false

def isCreation (event : DomainEvent) : Bool :=
  match event.body with
  | .ticketCreated .. => true
  | _ => false

/-- Each change begins where the one before it ended, and the table allows it. -/
def Linked : TicketStatus → List (TicketStatus × TicketStatus) → TicketStatus → Prop
  | first, [], last => first = last
  | first, (oldStatus, newStatus) :: rest, last =>
    oldStatus = first ∧ oldStatus.canTransitionTo newStatus = true ∧ Linked newStatus rest last

/-- The times that go with the status. -/
structure Timely (row : Ticket) : Prop where
  active : row.status.isActive = true → row.resolvedAt = none ∧ row.closedAt = none
  resolved : row.status = .resolved → row.resolvedAt.isSome = true
  closed : row.closedAt.isSome = true ↔ row.status = .closed

/-- What a call leaves, and the events it raises. -/
structure CallSpec (this : TicketEntity) (op : Op) : Prop where
  events : (op.call this).2.events = this.events ++ op.emitted this
  kept : op.target this = none → (op.call this).2.row.status = this.row.status ∧
    (op.call this).2.row.resolvedAt = this.row.resolvedAt ∧
    (op.call this).2.row.closedAt = this.row.closedAt
  moved : ∀ newStatus, op.target this = some newStatus →
    (op.call this).2.row.status = newStatus ∧
    (op.call this).2.row.resolvedAt.isSome =
      (!newStatus.isActive && (newStatus.isResolved || this.row.resolvedAt.isSome)) ∧
    (op.call this).2.row.closedAt.isSome =
      (!newStatus.isActive && (newStatus.isClosed || this.row.closedAt.isSome))
  responded : ∀ t, this.row.firstResponseAt = some t →
    (op.call this).2.row.firstResponseAt = some t
  refused : op.guarded = true → op.throws this → (op.call this).2 = this
  changes : (op.emitted this).filterMap statusChange =
    (op.target this).toList.map fun newStatus => (this.row.status, newStatus)
  escalations : (op.emitted this).countP isEscalation +
    (if (op.call this).2.row.isEscalated then 0 else 1) ≤ if this.row.isEscalated then 0 else 1
  created : ∀ event ∈ op.emitted this, isCreation event = false

variable {this : TicketEntity}

/-- A call that throws and leaves the ticket. -/
theorem spec_of_refused {op : Op} {e : AppError} (hcall : op.call this = (.error e, this))
    (htarget : op.target this = none) : CallSpec this op := by
  have hnone : op.emitted this = [] := by simp [Op.emitted, hcall]
  constructor <;> simp [hnone, hcall, htarget]

/-- The fields of the life cycle are the same. -/
structure SameCycle (row row' : Ticket) : Prop where
  status : row'.status = row.status
  resolvedAt : row'.resolvedAt = row.resolvedAt
  closedAt : row'.closedAt = row.closedAt
  firstResponseAt : row'.firstResponseAt = row.firstResponseAt
  isEscalated : row'.isEscalated = row.isEscalated

/-- A call that raises no event and leaves the fields of the life cycle. -/
theorem spec_of_quiet {op : Op} (hguarded : op.guarded = false) (hnone : op.events this = [])
    (htarget : op.target this = none) (hevents : (op.call this).2.events = this.events)
    (hsame : SameCycle this.row (op.call this).2.row) : CallSpec this op := by
  have hemitted : op.emitted this = [] := by
    unfold Op.emitted
    split
    · exact hnone
    · rfl
  constructor
  · simp [hemitted, hevents]
  · exact fun _ => ⟨hsame.status, hsame.resolvedAt, hsame.closedAt⟩
  · simp [htarget]
  · simp [hsame.firstResponseAt]
  · simp [hguarded]
  · simp [hemitted, htarget]
  · simp [hemitted, hsame.isEscalated]
  · simp [hemitted]

theorem changeStatus_spec (now : Time) (header : EventHeader) (newStatus : TicketStatus)
    (changedById : Uuid) : CallSpec this (.changeStatus now header newStatus changedById) := by
  have hcall : EndsAs ((Op.changeStatus now header newStatus changedById).call this) this
    (this.changeStatus now header newStatus changedById) := changeStatus_endsAs _ _
  unfold EndsAs TicketEntity.changeStatus at hcall
  by_cases h : this.row.status.canTransitionTo newStatus = true
  · simp only [h, if_true] at hcall
    have htarget : (Op.changeStatus now header newStatus changedById).target this =
      some newStatus := by simp [Op.target, h]
    have hemitted : (Op.changeStatus now header newStatus changedById).emitted this =
        (Op.changeStatus now header newStatus changedById).events this := by
      simp [Op.emitted, hcall]
    constructor
    · simp [hcall, hemitted, Op.events]
    · simp [htarget]
    · intro status hstatus
      rw [htarget] at hstatus
      cases hstatus
      simp only [hcall]
      cases newStatus <;>
        simp [TicketStatus.isActive, TicketStatus.isResolved, TicketStatus.isClosed]
    · simp [hcall]
    · simp [hcall, Op.throws]
    · simp [hemitted, Op.events, htarget, statusChange, EventHeader.event]
    · simp [hemitted, Op.events, hcall, isEscalation, EventHeader.event]
    · simp [hemitted, Op.events, isCreation, EventHeader.event]
  · simp only [h] at hcall
    exact spec_of_refused hcall (by simp [Op.target, h])

theorem resolve_spec (now : Time) (header header' : EventHeader) (resolvedById : Uuid) :
    CallSpec this (.resolve now header header' resolvedById) := by
  have hcall : EndsAs ((Op.resolve now header header' resolvedById).call this) this
    (this.resolve now header header' resolvedById) := resolve_endsAs _
  unfold EndsAs TicketEntity.resolve TicketEntity.changeStatus at hcall
  by_cases h : this.row.status.canTransitionTo .resolved = true
  · simp only [h, if_true] at hcall
    have htarget : (Op.resolve now header header' resolvedById).target this = some .resolved := by
      simp [Op.target, h]
    have hemitted : (Op.resolve now header header' resolvedById).emitted this =
        (Op.resolve now header header' resolvedById).events this := by
      rw [Op.emitted, hcall]
      rfl
    constructor
    · simp [hcall, hemitted, Op.events, bind, Except.bind, pure, Except.pure]
    · simp [htarget]
    · intro status hstatus
      rw [htarget] at hstatus
      cases hstatus
      simp [hcall, bind, Except.bind, pure, Except.pure, TicketStatus.isActive,
        TicketStatus.isResolved, TicketStatus.isClosed]
    · simp [hcall, bind, Except.bind, pure, Except.pure]
    · simp [hcall, Op.throws, bind, Except.bind, pure, Except.pure]
    · simp [hemitted, Op.events, htarget, statusChange, EventHeader.event]
    · simp [hemitted, Op.events, hcall, isEscalation, EventHeader.event, bind, Except.bind, pure,
        Except.pure]
    · simp [hemitted, Op.events, isCreation, EventHeader.event]
  · simp only [h] at hcall
    exact spec_of_refused hcall (by simp [Op.target, h])

theorem assign_spec (now : Time) (header : EventHeader) (agentId assignedById : Uuid) :
    CallSpec this (.assign now header agentId assignedById) := by
  have hcall : EndsAs ((Op.assign now header agentId assignedById).call this) this
    (.ok (this.assign now header agentId assignedById)) := assign_endsAs _ _
  unfold EndsAs TicketEntity.assign at hcall
  have hemitted : (Op.assign now header agentId assignedById).emitted this =
      (Op.assign now header agentId assignedById).events this := by
    rw [Op.emitted, hcall]
  have htarget : (Op.assign now header agentId assignedById).target this = none := rfl
  constructor
  · simp [hcall, hemitted, Op.events]
  · simp [hcall]
  · simp [htarget]
  · intro t ht
    simp [hcall, ht]
  · simp [Op.guarded]
  · simp [hemitted, Op.events, htarget, statusChange, EventHeader.event]
  · simp [hemitted, Op.events, hcall, isEscalation, EventHeader.event]
  · simp [hemitted, Op.events, isCreation, EventHeader.event]

theorem escalate_spec (now : Time) (header : EventHeader) (reason : String)
    (escalatedById : Actor) : CallSpec this (.escalate now header reason escalatedById) := by
  have hcall : EndsAs ((Op.escalate now header reason escalatedById).call this) this
    (this.escalate now header reason escalatedById) := escalate_endsAs _ _
  have htarget : (Op.escalate now header reason escalatedById).target this = none := rfl
  unfold EndsAs TicketEntity.escalate at hcall
  by_cases h : this.row.isEscalated = true
  · simp only [h, if_true] at hcall
    exact spec_of_refused hcall htarget
  · simp only [h] at hcall
    have hemitted : (Op.escalate now header reason escalatedById).emitted this =
        (Op.escalate now header reason escalatedById).events this := by
      rw [Op.emitted, hcall]
      rfl
    constructor
    · simp [hcall, hemitted, Op.events]
    · simp [hcall]
    · simp [htarget]
    · simp [hcall]
    · simp [hcall, Op.throws]
    · simp [hemitted, Op.events, htarget, statusChange, EventHeader.event]
    · simp [hemitted, Op.events, hcall, h, isEscalation, EventHeader.event]
    · simp [hemitted, Op.events, isCreation, EventHeader.event]

theorem updateDetails_spec (title description : Option String) (tags : Option (List String))
    (dueAt : Option Time) : CallSpec this (.updateDetails title description tags dueAt) := by
  have hcall : (Op.updateDetails title description tags dueAt).call this =
    TicketAggregate.updateDetails title description tags dueAt this := rfl
  have hends := @updateDetails_call this title description tags dueAt
  cases hstep : this.updateDetails title description tags dueAt with
  | error e =>
    rw [hstep] at hends
    obtain ⟨text, hends⟩ := hends
    rw [hends] at hcall
    refine spec_of_quiet rfl rfl rfl ?_ ?_
    · rw [hcall]
      rfl
    · rw [hcall]
      exact ⟨rfl, rfl, rfl, rfl, rfl⟩
  | ok ticket =>
    rw [hstep] at hends
    rw [hends] at hcall
    obtain ⟨newTitle, -, hstep⟩ := bind_eq_ok.mp hstep
    obtain ⟨newDescription, -, hstep⟩ := bind_eq_ok.mp hstep
    cases hstep
    refine spec_of_quiet rfl rfl rfl ?_ ?_
    · rw [hcall]
    · rw [hcall]
      exact ⟨rfl, rfl, rfl, rfl, rfl⟩

theorem updateCategory_spec (category : String) : CallSpec this (.updateCategory category) := by
  have hop : (Op.updateCategory category).call this =
    TicketAggregate.updateCategory category this := rfl
  have hcall := @updateCategory_endsAs this category
  unfold EndsAs TicketEntity.updateCategory at hcall
  rw [← hop] at hcall
  generalize ticketCategory category = stored at hcall
  cases stored with
  | error e => exact spec_of_refused hcall rfl
  | ok stored =>
    have hleft := congrArg Prod.snd hcall
    refine spec_of_quiet rfl rfl rfl ?_ ?_
    · rw [hleft]
      rfl
    · rw [hleft]
      exact ⟨rfl, rfl, rfl, rfl, rfl⟩

theorem addTag_spec (tag : String) : CallSpec this (.addTag tag) := by
  have hcall : (Op.addTag tag).call this = TicketAggregate.addTag tag this := rfl
  by_cases htag : tag ∈ this.row.tags
  · simp only [TicketAggregate.addTag, htag, if_true] at hcall
    refine spec_of_quiet rfl rfl rfl ?_ ?_
    · rw [hcall]
    · rw [hcall]
      exact ⟨rfl, rfl, rfl, rfl, rfl⟩
  · simp only [TicketAggregate.addTag, htag, if_false] at hcall
    refine spec_of_quiet rfl rfl rfl ?_ ?_
    · rw [hcall]
      rfl
    · rw [hcall]
      exact ⟨rfl, rfl, rfl, rfl, rfl⟩

theorem call_spec (op : Op) : CallSpec this op := by
  cases op with
  | changeStatus now header newStatus changedById => exact changeStatus_spec ..
  | resolve now header header' resolvedById => exact resolve_spec ..
  | assign now header agentId assignedById => exact assign_spec ..
  | escalate now header reason escalatedById => exact escalate_spec ..
  | markSlaBreached => exact spec_of_quiet rfl rfl rfl rfl ⟨rfl, rfl, rfl, rfl, rfl⟩
  | updatePriority priority => exact spec_of_quiet rfl rfl rfl rfl ⟨rfl, rfl, rfl, rfl, rfl⟩
  | updateDetails title description tags dueAt => exact updateDetails_spec ..
  | updateCategory category => exact updateCategory_spec category
  | addTag tag => exact addTag_spec tag

theorem Timely.call (h : Timely this.row) (op : Op) : Timely (op.call this).2.row := by
  have hspec : CallSpec this op := call_spec op
  cases htarget : op.target this with
  | none =>
    obtain ⟨hstatus, hresolved, hclosed⟩ := hspec.kept htarget
    constructor
    · rw [hstatus, hresolved, hclosed]
      exact h.active
    · rw [hstatus, hresolved]
      exact h.resolved
    · rw [hstatus, hclosed]
      exact h.closed
  | some newStatus =>
    obtain ⟨hstatus, hresolved, hclosed⟩ := hspec.moved newStatus htarget
    have hmove : this.row.status.canTransitionTo newStatus = true :=
      (Option.filter_eq_some_iff.mp htarget).2
    have hopen : this.row.closedAt.isSome = false := by
      rw [← Bool.not_eq_true, h.closed]
      intro hterminal
      rw [hterminal] at hmove
      simp [TicketStatus.canTransitionTo, TicketStatus.transitions] at hmove
    constructor
    · intro hactive
      rw [hstatus] at hactive
      rw [hactive] at hresolved hclosed
      simpa using And.intro hresolved hclosed
    · intro hstate
      rw [hstatus] at hstate
      rw [hresolved, hstate]
      rfl
    · rw [hclosed, hstatus, hopen]
      cases newStatus <;> simp [TicketStatus.isActive, TicketStatus.isClosed]

theorem Linked.append {first middle last : TicketStatus}
    {pairs pairs' : List (TicketStatus × TicketStatus)} (h : Linked first pairs middle)
    (h' : Linked middle pairs' last) : Linked first (pairs ++ pairs') last := by
  induction pairs generalizing first with
  | nil =>
    cases h
    exact h'
  | cons pair pairs ih => exact ⟨h.1, h.2.1, ih h.2.2⟩

/-- The last status is reached along the table. -/
theorem Linked.reached {first last : TicketStatus} {pairs : List (TicketStatus × TicketStatus)}
    (h : Linked first pairs last) :
    Relation.ReflTransGen (fun a b => TicketStatus.canTransitionTo a b = true) first last := by
  induction pairs generalizing first with
  | nil =>
    cases h
    exact .refl
  | cons pair pairs ih =>
    obtain ⟨hfirst, hmove, hrest⟩ := h
    exact .head (hfirst ▸ hmove) (ih hrest)

theorem linked_call (op : Op) :
    Linked this.row.status ((op.emitted this).filterMap statusChange)
      (op.call this).2.row.status := by
  have hspec : CallSpec this op := call_spec op
  rw [hspec.changes]
  cases htarget : op.target this with
  | none => exact (hspec.kept htarget).1.symm
  | some newStatus =>
    have hmove := (Option.filter_eq_some_iff.mp htarget).2
    exact ⟨rfl, hmove, (hspec.moved newStatus htarget).1.symm⟩

/-- What the calls so far leave in the ticket and in its log. -/
structure Sound (this : TicketEntity) : Prop where
  timely : Timely this.row
  linked : Linked .open (this.events.filterMap statusChange) this.row.status
  escalations : this.events.countP isEscalation + (if this.row.isEscalated then 0 else 1) ≤ 1

theorem Sound.call (h : Sound this) (op : Op) : Sound (op.call this).2 := by
  have hspec : CallSpec this op := call_spec op
  refine ⟨h.timely.call op, ?_, ?_⟩
  · rw [hspec.events, List.filterMap_append]
    exact h.linked.append (linked_call op)
  · have hbefore := h.escalations
    have hstep := hspec.escalations
    rw [hspec.events, List.countP_append]
    omega

theorem Sound.created {header : EventHeader} {props : Ticket} (hopen : props.status = .open)
    (hresolved : props.resolvedAt = none) (hclosed : props.closedAt = none) :
    Sound (TicketEntity.create header props) := by
  refine ⟨⟨?_, ?_, ?_⟩, ?_, ?_⟩
  · exact fun _ => ⟨hresolved, hclosed⟩
  · simp [TicketEntity.create, hopen]
  · simp [TicketEntity.create, hopen, hclosed]
  · exact hopen.symm
  · cases hescalated : props.isEscalated <;>
      simp [TicketEntity.create, EventHeader.event, isEscalation, hescalated]

/-- The log grows by the events of each call. -/
theorem run_events {ticket : TicketEntity} {ops : List Op}
    (hr : aggregate.run this ops = some ticket) :
    ticket.events = this.events ++
      (aggregate.history this ops).flatMap fun step => step.label.emitted step.before := by
  induction ops generalizing this with
  | nil =>
    cases hr
    simp [Machine.history]
  | cons op ops ih =>
    obtain ⟨next, hnext, hrest⟩ := (aggregate.run_cons).mp hr
    rw [aggregate.history_cons hnext, List.flatMap_cons, ih hrest, ← List.append_assoc]
    cases hnext
    rw [(call_spec op).events]

theorem run_total (this : TicketEntity) (ops : List Op) :
    ∃ ticket, aggregate.run this ops = some ticket := by
  induction ops generalizing this with
  | nil => exact ⟨this, rfl⟩
  | cons op ops ih =>
    obtain ⟨ticket, hr⟩ := ih (op.call this).2
    exact ⟨ticket, (aggregate.run_cons).mpr ⟨_, rfl, hr⟩⟩

def sampleOps : List Op :=
  [.changeStatus 1 (Database.sampleEnv.header 1) .inProgress 4,
    .assign 2 (Database.sampleEnv.header 2) 4 5,
    .resolve 3 (Database.sampleEnv.header 3) (Database.sampleEnv.header 4) 4,
    .escalate 5 (Database.sampleEnv.header 5) "late" (.user 5),
    .changeStatus 6 (Database.sampleEnv.header 6) .closed 4,
    .resolve 7 (Database.sampleEnv.header 7) (Database.sampleEnv.header 8) 4]

end OmniSupport.TicketAggregate
