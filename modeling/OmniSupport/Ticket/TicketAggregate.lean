import OmniSupport.Foundation.History
import OmniSupport.Ticket.TicketEntity

/-! The methods of the ticket aggregate statement by statement: what a method has done to the
ticket when it throws stays. -/
namespace OmniSupport.TicketAggregate
open Foundation

/-- How a call ends, and the ticket it leaves. -/
abbrev Called := Except AppError Unit × TicketEntity

/-- An assignment to fields of the ticket. -/
def assigned (this : TicketEntity) (f : Ticket → Ticket) : TicketEntity :=
  { this with row := f this.row }

def addDomainEvent (this : TicketEntity) (event : DomainEvent) : TicketEntity :=
  { this with events := this.events ++ [event] }

def changeStatus (now : Time) (header : EventHeader) (newStatus : TicketStatus)
    (changedById : Uuid) (this : TicketEntity) : Called :=
  let oldStatus := this.row.status
  if !oldStatus.canTransitionTo newStatus then
    (.error (.domain ("Cannot transition from " ++ oldStatus.text ++ " to " ++ newStatus.text)
      "DOMAIN_ERROR"), this)
  else
    let this := assigned this fun row => { row with status := newStatus }
    let this :=
      -- Reopened: previous resolution/closure no longer applies.
      if newStatus.isActive then
        assigned this fun row => { row with resolvedAt := none, closedAt := none }
      else this
    let this :=
      if newStatus.isResolved && this.row.resolvedAt.isNone then
        assigned this fun row => { row with resolvedAt := some now }
      else this
    let this :=
      if newStatus.isClosed && this.row.closedAt.isNone then
        assigned this fun row => { row with closedAt := some now }
      else this
    (.ok (), addDomainEvent this (header.event
      (.ticketStatusChanged this.row.id this.row.tenantId oldStatus newStatus changedById)))

def assign (now : Time) (header : EventHeader) (agentId assignedById : Uuid)
    (this : TicketEntity) : Called :=
  let previousAgentId := this.row.assignedAgentId
  let this := assigned this fun row => { row with assignedAgentId := some agentId }
  let this :=
    if this.row.firstResponseAt.isNone then
      assigned this fun row => { row with firstResponseAt := some now }
    else this
  (.ok (), addDomainEvent this (header.event
    (.ticketAssigned this.row.id this.row.tenantId this.row.customerId agentId previousAgentId
      assignedById)))

def escalate (now : Time) (header : EventHeader) (reason : String) (escalatedById : Actor)
    (this : TicketEntity) : Called :=
  if this.row.isEscalated then
    (.error (.domain "Ticket is already escalated" "DOMAIN_ERROR"), this)
  else
    let this := assigned this fun row =>
      { row with
        isEscalated := true
        escalatedAt := some now
        escalatedReason := some reason
        priority := .critical }
    (.ok (), addDomainEvent this (header.event
      (.ticketEscalated this.row.id this.row.tenantId this.row.customerId
        this.row.assignedAgentId reason escalatedById)))

def resolve (now : Time) (header header' : EventHeader) (resolvedById : Uuid)
    (this : TicketEntity) : Called :=
  match changeStatus now header .resolved resolvedById this with
  | (.error e, this) => (.error e, this)
  | (.ok (), this) => (.ok (), addDomainEvent this (header'.event
      (.ticketResolved this.row.id this.row.tenantId this.row.customerId
        this.row.assignedAgentId resolvedById)))

def markSlaBreached (this : TicketEntity) : Called :=
  (.ok (), assigned this fun row => { row with slaBreached := true })

def updatePriority (priority : TicketPriority) (this : TicketEntity) : Called :=
  (.ok (), assigned this fun row => { row with priority := priority })

/-- A text that is given is trimmed and set, unless it is blank. -/
def setDetail (message : String) (field : Ticket → String → Ticket) (value : Option String)
    (this : TicketEntity) : Called :=
  match value with
  | none => (.ok (), this)
  | some value =>
    let text := JsText.trim value
    if text = "" then (.error (.domain message "DOMAIN_ERROR"), this)
    else (.ok (), assigned this fun row => field row text)

/-- The title is set before the description is looked at. -/
def updateDetails (title description : Option String) (tags : Option (List String))
    (dueAt : Option Time) (this : TicketEntity) : Called :=
  match setDetail "Ticket title cannot be empty" (fun row text => { row with title := text })
      title this with
  | (.error e, this) => (.error e, this)
  | (.ok (), this) =>
    match setDetail "Ticket description cannot be empty"
        (fun row text => { row with description := text }) description this with
    | (.error e, this) => (.error e, this)
    | (.ok (), this) =>
      let this := assigned this fun row =>
        { row with tags := (tags.map List.eraseDups).getD row.tags }
      (.ok (), assigned this fun row => { row with dueAt := dueAt.or row.dueAt })

def updateCategory (category : String) (this : TicketEntity) : Called :=
  match ticketCategory category with
  | .error e => (.error e, this)
  | .ok category => (.ok (), assigned this fun row => { row with category := category })

def addTag (tag : String) (this : TicketEntity) : Called :=
  if tag ∈ this.row.tags then (.ok (), this)
  else (.ok (), assigned this fun row => { row with tags := row.tags ++ [tag] })

/-- The call ends as the step does that changes the ticket or is refused. -/
def EndsAs (called : Called) (this : TicketEntity) (step : Except AppError TicketEntity) : Prop :=
  called = match step with
    | .ok ticket => (.ok (), ticket)
    | .error e => (.error e, this)

variable {this : TicketEntity} {now : Time} {header header' : EventHeader}

theorem changeStatus_endsAs (newStatus : TicketStatus) (changedById : Uuid) :
    EndsAs (changeStatus now header newStatus changedById this) this
      (this.changeStatus now header newStatus changedById) := by
  unfold EndsAs changeStatus TicketEntity.changeStatus
  by_cases h : this.row.status.canTransitionTo newStatus = true
  · simp only [h, Bool.not_true, Bool.false_eq_true, if_false, if_true]
    cases newStatus <;> cases hr : this.row.resolvedAt <;> cases hc : this.row.closedAt <;>
      simp [assigned, addDomainEvent, TicketStatus.isActive, TicketStatus.isResolved,
        TicketStatus.isClosed, hr, hc]
  · simp [h]

theorem resolve_endsAs (resolvedById : Uuid) :
    EndsAs (resolve now header header' resolvedById this) this
      (this.resolve now header header' resolvedById) := by
  have hfirst : EndsAs (changeStatus now header .resolved resolvedById this) this
      (this.changeStatus now header .resolved resolvedById) := changeStatus_endsAs _ _
  unfold EndsAs at hfirst
  unfold EndsAs resolve TicketEntity.resolve
  cases hstep : this.changeStatus now header .resolved resolvedById with
  | error e =>
    rw [hstep] at hfirst
    rw [hfirst]
    rfl
  | ok ticket =>
    rw [hstep] at hfirst
    rw [hfirst]
    rfl

theorem assign_endsAs (agentId assignedById : Uuid) :
    EndsAs (assign now header agentId assignedById this) this
      (.ok (this.assign now header agentId assignedById)) := by
  unfold EndsAs assign TicketEntity.assign
  cases hresponse : this.row.firstResponseAt <;> simp [assigned, addDomainEvent, hresponse]

theorem escalate_endsAs (reason : String) (escalatedById : Actor) :
    EndsAs (escalate now header reason escalatedById this) this
      (this.escalate now header reason escalatedById) := by
  unfold EndsAs escalate TicketEntity.escalate
  by_cases h : this.row.isEscalated = true
  · simp [h]
  · simp [h, assigned, addDomainEvent]

theorem updateCategory_endsAs (category : String) :
    EndsAs (updateCategory category this) this (this.updateCategory category) := by
  unfold EndsAs updateCategory TicketEntity.updateCategory
  cases ticketCategory category <;> rfl

/-- A text is set, or refused and the ticket left as it is. -/
theorem setDetail_endsAs (this : TicketEntity) (message : String)
    (field : Ticket → String → Ticket) (current : String) (value : Option String)
    (hcurrent : field this.row current = this.row) :
    EndsAs (setDetail message field value this) this
      ((TicketEntity.detail message current value).map fun text =>
        assigned this fun row => field row text) := by
  cases value with
  | none => simp [EndsAs, setDetail, TicketEntity.detail, Except.map, assigned, hcurrent]
  | some value =>
    by_cases h : JsText.trim value = ""
    · simp [EndsAs, setDetail, TicketEntity.detail, Except.map, h]
    · simp [EndsAs, setDetail, TicketEntity.detail, Except.map, h]

/-- An update of the details ends as its step does, but a refused one may have set the title. -/
theorem updateDetails_call (title description : Option String) (tags : Option (List String))
    (dueAt : Option Time) :
    match this.updateDetails title description tags dueAt with
    | .ok ticket => updateDetails title description tags dueAt this = (.ok (), ticket)
    | .error e => ∃ title', updateDetails title description tags dueAt this =
        (.error e, assigned this fun row => { row with title := title' }) := by
  have htitle := setDetail_endsAs this "Ticket title cannot be empty"
    (fun row text => { row with title := text }) this.row.title title rfl
  unfold EndsAs at htitle
  cases hfirst : TicketEntity.detail "Ticket title cannot be empty" this.row.title title with
  | error e =>
    rw [hfirst] at htitle
    simp only [TicketEntity.updateDetails, hfirst, updateDetails, htitle]
    exact ⟨this.row.title, rfl⟩
  | ok text =>
    rw [hfirst] at htitle
    have hdescription := setDetail_endsAs (assigned this fun row => { row with title := text })
      "Ticket description cannot be empty" (fun row text => { row with description := text })
      this.row.description description rfl
    unfold EndsAs at hdescription
    cases hsecond : TicketEntity.detail "Ticket description cannot be empty"
        this.row.description description with
    | error e =>
      rw [hsecond] at hdescription
      simp only [Except.map] at htitle hdescription
      simp only [TicketEntity.updateDetails, hfirst, hsecond, updateDetails, htitle, hdescription]
      exact ⟨text, rfl⟩
    | ok text' =>
      rw [hsecond] at hdescription
      simp only [Except.map] at htitle hdescription
      simp only [TicketEntity.updateDetails, hfirst, hsecond, updateDetails, htitle, hdescription]
      rfl

end OmniSupport.TicketAggregate
