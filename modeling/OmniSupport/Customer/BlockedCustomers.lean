import OmniSupport.Customer.WorkWrites
import OmniSupport.Foundation.History
import OmniSupport.Foundation.Snapshot

/-! The status of one customer under its updates, ticket creation and risk scoring at once: each
call writes all columns from the copy it has read. -/
namespace OmniSupport.Customers
open Foundation Database CustomerService

inductive CustomerCommand where
  | updateCustomer (dto : UpdateCustomerDto)
  | createTicket
  | updateRiskScore (score : JsNumber) (label : String)

/-- A call with the instants it reads and the header of its event. -/
structure CustomerCall where
  command : CustomerCommand
  activeAt : Time
  writtenAt : Time
  header : EventHeader

/-- The status a text names. -/
def namedStatus (text : String) : Option CustomerStatus :=
  CustomerStatus.values.find? fun status => status.text = text

namespace CustomerCall

/-- The row the call passes to `CustomerRepository.update`, made of its copy. -/
def row (call : CustomerCall) (copy : Customer) : Except AppError Customer :=
  match call.command with
  | .updateCustomer dto => .ok (updatedRow dto copy)
  | .createTicket => do
    require (!copy.isBlocked) (.forbidden "Cannot create ticket for blocked customer")
    return copy.recordActivity call.activeAt
  | .updateRiskScore score label => do
    let scored ← (CustomerEntity.reconstitute copy).updateRiskScore call.header score label
    return scored.row

/-- What its update does to the stored row. -/
def plan (call : CustomerCall) (copy : Customer) : Option (Planned Customer Empty) :=
  match call.row copy with
  | .ok row => some ⟨some (Customer.write call.writtenAt row), []⟩
  | .error _ => none

/-- The status an update names. -/
def setsStatus (call : CustomerCall) : Option CustomerStatus :=
  match call.command with
  | .updateCustomer dto => dto.status.bind namedStatus
  | .createTicket | .updateRiskScore _ _ => none

end CustomerCall

/-- The calls on one customer. -/
def customerCalls : Snapshots Customer CustomerCall Empty Empty where
  plan := CustomerCall.plan
  key := id
  atomic _ := false

abbrev CustomerPool := Pool (Versioned Customer CustomerCall Empty)
  (Option (CustomerCall × Customer))

abbrev CustomerMove := Move (SnapshotAction CustomerCall) Empty

def storedCustomer (row : Customer) : CustomerPool := Snapshots.idle row []

/-- The status the last committed update that named one has set. -/
def lastStatus (status : CustomerStatus) (committed : List CustomerCall) : CustomerStatus :=
  committed.foldl (fun status call => call.setsStatus.getD status) status

/-- A call that names no status commits while the stored status is the one it has read. -/
def StatusCurrent (c : CustomerPool) (move : CustomerMove) : Prop :=
  ∀ p call copy, move = .act p .commit → c.locals p = some (call, copy) →
    call.setsStatus = none → copy.status = c.shared.value.status

section rows
variable {call : CustomerCall} {copy : Customer}

theorem namedStatus_text (status : CustomerStatus) : namedStatus status.text = some status := by
  cases status <;> decide

theorem withAgent_status (agentId : Option Uuid) (customer : CustomerEntity) :
    (withAgent agentId customer).row.status = customer.row.status := by
  cases agentId <;> rfl

theorem withNewStatus_status (status : Option String) (customer : CustomerEntity) :
    (withNewStatus status customer).row.status =
      (status.bind namedStatus).getD customer.row.status := by
  unfold withNewStatus
  split
  · rfl
  · rfl
  · rfl
  · rename_i hblocked hactive hinactive
    cases status with
    | none => rfl
    | some text =>
      have hno : namedStatus text = none := by
        refine List.find?_eq_none.mpr fun status _ h => ?_
        have htext : status.text = text := of_decide_eq_true h
        cases status with
        | blocked => exact hblocked (congrArg some htext.symm)
        | active => exact hactive (congrArg some htext.symm)
        | inactive => exact hinactive (congrArg some htext.symm)
      rw [Option.bind_some, hno, Option.getD_none]

/-- The status of the row is the one the update names, or the copy's. -/
theorem updatedRow_status (dto : UpdateCustomerDto) (copy : Customer) :
    (updatedRow dto copy).status = (dto.status.bind namedStatus).getD copy.status := by
  unfold updatedRow
  rw [withNewStatus_status, withAgent_status]
  change ((newStatus dto copy).bind namedStatus).getD copy.status = _
  cases hstatus : dto.status with
  | none => simp [newStatus, hstatus]
  | some text =>
    rw [newStatus, hstatus, Option.filter_some]
    split
    · rfl
    · -- the text is empty, or names the status the copy has
      rename_i hsame
      have hcases : text = "" ∨ text = copy.status.text := by
        by_contra hno
        rw [not_or] at hno
        simp [hno] at hsame
      rcases hcases with rfl | rfl
      · have hempty : namedStatus "" = none := by decide
        rw [Option.bind_none, Option.bind_some, hempty]
      · rw [Option.bind_none, Option.bind_some, namedStatus_text]
        rfl

theorem row_status {row : Customer} (h : call.row copy = .ok row) :
    row.status = call.setsStatus.getD copy.status := by
  unfold CustomerCall.row at h
  unfold CustomerCall.setsStatus
  cases hcommand : call.command with
  | updateCustomer dto =>
    rw [hcommand] at h
    cases h
    exact updatedRow_status dto copy
  | createTicket =>
    rw [hcommand] at h
    obtain ⟨_, -, hrow⟩ := bind_eq_ok.mp h
    cases hrow
    rfl
  | updateRiskScore score label =>
    rw [hcommand] at h
    obtain ⟨scored, hscored, hrow⟩ := bind_eq_ok.mp h
    obtain ⟨_, -, hok⟩ := bind_eq_ok.mp hscored
    cases hok
    cases hrow
    rfl

end rows

section steps
variable {c c' : CustomerPool} {move : CustomerMove} {status : CustomerStatus}

/-- A commit leaves the status its call names, or else the one of its copy. -/
theorem commit_status {call : CustomerCall} {copy : Customer}
    {s s' : Versioned Customer CustomerCall Empty}
    (h : customerCalls.commit call copy s = some s') :
    s'.value.status = call.setsStatus.getD copy.status ∧ s'.committed = s.committed ++ [call] := by
  obtain ⟨planned, hplan, -, rfl⟩ := Snapshots.commit_eq_some.mp h
  simp only [customerCalls, CustomerCall.plan] at hplan
  cases hrow : call.row copy with
  | error e =>
    rw [hrow] at hplan
    cases hplan
  | ok row =>
    rw [hrow] at hplan
    cases hplan
    have hstatus : row.status = call.setsStatus.getD copy.status := row_status hrow
    exact ⟨hstatus, rfl⟩

theorem lastStatus_snoc (committed : List CustomerCall) (call : CustomerCall) :
    lastStatus status (committed ++ [call]) =
      call.setsStatus.getD (lastStatus status committed) := by
  simp [lastStatus]

/-- While the status is the last one set, a step keeps it so exactly when it is current. -/
theorem status_step (hc : c.shared.value.status = lastStatus status c.shared.committed)
    (hs : customerCalls.program.machine.step c move = some c') :
    c'.shared.value.status = lastStatus status c'.shared.committed ↔ StatusCurrent c move := by
  cases move with
  | env e => exact e.elim
  | act p action =>
    obtain ⟨s', l, hact, rfl⟩ := (Program.step_act _).mp hs
    have hact' : customerCalls.act c.shared (c.locals p) action = some (s', l) := hact
    have hquiet : s' = c.shared → action ≠ .commit → ((c.put p s' l).shared.value.status =
        lastStatus status (c.put p s' l).shared.committed ↔ StatusCurrent c (.act p action)) := by
      rintro rfl hno
      refine iff_of_true hc fun q call copy hmove _ _ => ?_
      cases hmove
      exact absurd rfl hno
    cases hlocal : c.locals p with
    | none =>
      rw [hlocal] at hact'
      cases action with
      | read call =>
        simp only [Snapshots.act] at hact'
        split at hact'
        · cases hact'
        · cases hact'
          exact hquiet rfl (by simp)
      | atomically call =>
        have hfalse : customerCalls.atomic call = false := rfl
        simp only [Snapshots.act, hfalse, Bool.false_eq_true, if_false] at hact'
        cases hact'
      | commit | fail => cases hact'
    | some held =>
      obtain ⟨call, copy⟩ := held
      rw [hlocal] at hact'
      cases action with
      | commit =>
        obtain ⟨s₁, hcommit, heq⟩ := Option.map_eq_some_iff.mp hact'
        cases heq
        obtain ⟨hstatus, hcommitted⟩ := commit_status hcommit
        rw [Pool.put_shared, hstatus, hcommitted, lastStatus_snoc, ← hc]
        constructor
        · rintro heq q call' copy' hmove hheld hnone
          cases hmove
          rw [hlocal] at hheld
          cases hheld
          rwa [hnone] at heq
        · intro hcurrent
          cases hset : call.setsStatus with
          | some named => rfl
          | none => exact hcurrent p call copy rfl hlocal hset
      | fail =>
        cases hact'
        exact hquiet rfl (by simp)
      | read call' | atomically call' => cases hact'

end steps

/-- The stored status is always the one the last committed update has set in exactly the runs
in which every other call commits while the status is still the one it has read. -/
theorem blocked_customer_stays_iff (row : Customer) (moves : List CustomerMove) (c : CustomerPool)
    (hrun : customerCalls.program.machine.run (storedCustomer row) moves = some c) :
    (∀ step ∈ customerCalls.program.machine.history (storedCustomer row) moves,
      step.after.shared.value.status = lastStatus row.status step.after.shared.committed) ↔
      ∀ step ∈ customerCalls.program.machine.history (storedCustomer row) moves,
        StatusCurrent step.before step.label := by
  have hstart : (storedCustomer row).shared.value.status =
      lastStatus row.status (storedCustomer row).shared.committed := rfl
  have hiff := customerCalls.program.machine.history_forall_iff
    (P := fun c => c.shared.value.status = lastStatus row.status c.shared.committed)
    (C := StatusCurrent) (fun _ _ _ hc hs => status_step hc hs) hstart hrun
  exact hiff

section demo

def activeCustomer : Customer :=
  { (default : Customer) with id := 5, tenantId := 2, status := .active }

def blockCall : CustomerCall where
  command := .updateCustomer ⟨2, 5, 1, .agent, none, none, none, none, none, some "BLOCKED"⟩
  activeAt := 1
  writtenAt := 1
  header := sampleEnv.header 1

def ticketCall : CustomerCall where
  command := .createTicket
  activeAt := 2
  writtenAt := 2
  header := sampleEnv.header 2

/-- The customer is blocked while the transaction of a new ticket waits. -/
def blockedMeanwhile : List CustomerMove :=
  [.act 0 (.read ticketCall), .act 1 (.read blockCall), .act 1 .commit, .act 0 .commit]

def blockedAfterwards : List CustomerMove :=
  [.act 0 (.read ticketCall), .act 1 (.read blockCall), .act 0 .commit, .act 1 .commit]

end demo

/-- Both calls have finished, and the blocked customer is active. -/
theorem blocked_customer_active :
    ∃ c, customerCalls.program.machine.run (storedCustomer activeCustomer) blockedMeanwhile = some c ∧
      c.shared.committed = [blockCall, ticketCall] ∧ c.shared.value.status = .active ∧
      c.shared.value.status ≠ lastStatus activeCustomer.status c.shared.committed :=
  ⟨_, rfl, rfl, rfl, by decide⟩

theorem blocked_customer_stays_iff_afterwards :
    ∃ c, customerCalls.program.machine.run (storedCustomer activeCustomer) blockedAfterwards =
        some c ∧
      ((∀ step ∈ customerCalls.program.machine.history (storedCustomer activeCustomer)
          blockedAfterwards,
        step.after.shared.value.status =
          lastStatus activeCustomer.status step.after.shared.committed) ↔
        ∀ step ∈ customerCalls.program.machine.history (storedCustomer activeCustomer)
          blockedAfterwards, StatusCurrent step.before step.label) :=
  ⟨_, rfl, blocked_customer_stays_iff activeCustomer blockedAfterwards _ rfl⟩

end OmniSupport.Customers
