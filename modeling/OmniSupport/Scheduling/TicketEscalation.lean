import OmniSupport.Database.Queries
import OmniSupport.Foundation.History
import OmniSupport.Foundation.Traces
import OmniSupport.Ticket.LifecycleSerial
import OmniSupport.Ticket.ReadPaths
import OmniSupport.Ticket.TicketAtomicity
import OmniSupport.Ticket.TicketCalls

/-! The escalation job: it records the breach of each overdue ticket, then escalates the ticket.
Which tickets the next run finds depends on the records alone. -/
namespace OmniSupport
open Foundation Database Ticketing

namespace OverdueTicketSpecification

def isSatisfiedBy (referenceDate : Time) (ticket : TicketEntity) : Bool :=
  ticket.row.dueAt.any (fun dueAt => dueAt < referenceDate) && ticket.isActive &&
    !ticket.row.slaBreached

end OverdueTicketSpecification

namespace Database

namespace TicketRepository

/-- The `where` of the breach. -/
def unbreached (id tenantId : Uuid) (row : Ticket) : Prop :=
  row.id = id ∧ row.tenantId = tenantId ∧ row.slaBreached = false

instance (id tenantId : Uuid) : DecidablePred (unbreached id tenantId) :=
  fun _ => inferInstanceAs (Decidable (_ ∧ _ ∧ _))

def breachTicket (id tenantId : Uuid) (now : Time) (s : Store) : Store :=
  { s with tickets := Table.updateMany (unbreached id tenantId) (breach now) s.tickets }

def markSlaBreached (id tenantId : Uuid) : ServiceM Bool := do
  let now ← Effect.draw ServiceEnv.clock
  Effect.call .ambient (.ticketBreach id tenantId) .database fun s =>
    .ok (decide (Table.count (unbreached id tenantId) s.tickets = 1),
      breachTicket id tenantId now s)

/-- The `where` of the overdue tickets. -/
def overdueWhere (tenantId : Uuid) (date : Time) (row : Ticket) : Bool :=
  row.tenantId = tenantId && row.dueAt.any (fun dueAt => dueAt < date) &&
    (row.status ≠ .resolved && row.status ≠ .closed) && row.slaBreached = false

def overdueTickets (tenantId : Uuid) (referenceDate date : Time) (s : Store) : List TicketEntity :=
  ((s.tickets.filter (overdueWhere tenantId date)).map TicketEntity.reconstitute).filter
    (OverdueTicketSpecification.isSatisfiedBy referenceDate)

def findOverdueTickets (tenantId : Uuid) : ServiceM (List TicketEntity) := do
  let referenceDate ← Database.now
  let date ← Database.now
  Effect.read .ambient .ticketFindMany .database (overdueTickets tenantId referenceDate date)

end TicketRepository

namespace TenantRepository

/-- The newest first. -/
def findAll (page limit : Nat) : ServiceM (PaginatedResult Tenant) :=
  findPage .tenantFindMany .tenantCount (.infrastructure "Failed to list tenants")
    (fun _ s => .ok s.tenants) (fun t t' => t'.createdAt ≤ t.createdAt)
    { page := page, limit := limit }

end TenantRepository
end Database

namespace Scheduling
open Effect TicketRepository

def tenantPageSize : Nat := 200

namespace TicketEscalationJob

/-- One failing ticket does not stop the escalation of the others. -/
def escalateOverdue (tenantId : Uuid) (ticket : TicketEntity) : ServiceM Unit :=
  Effect.swallow do
    let _ ← markSlaBreached ticket.row.id tenantId
    if ticket.canEscalate then
      let _ ← TicketService.escalateTicket {
        tenantId := tenantId
        ticketId := ticket.row.id
        reason := "Automated SLA escalation"
        escalatedById := .system
        escalatedByRole := .system }
    else return

def escalateTenant (tenant : Tenant) : ServiceM Unit :=
  Effect.swallow do
    let overdueTickets ← findOverdueTickets tenant.id
    Effect.forEach overdueTickets (escalateOverdue tenant.id)

/-- The loop over the pages, of which `fuel` are read at most. -/
def fromPage : Nat → Nat → ServiceM Unit
  | 0, _ => return
  | fuel + 1, page => do
    let tenants ← TenantRepository.findAll page tenantPageSize
    Effect.forEach tenants.data escalateTenant
    if tenants.totalPages ≤ page ∨ tenants.data = [] then return
    else fromPage fuel (page + 1)

def run (fuel : Nat) : ServiceM Unit := fromPage fuel 1

end TicketEscalationJob

/-- What happens to a ticket in a part of a run: its breach is recorded if and only if it was
before, or a statement of this part has recorded it. -/
structure Recorded (cs : List (CallRecord ServiceCall)) (row row' : Ticket) : Prop where
  id : row'.id = row.id
  tenantId : row'.tenantId = row.tenantId
  slaBreached : row'.slaBreached = true ↔
    row.slaBreached = true ∨ ⟨.ticketBreach row.id row.tenantId, .none, false⟩ ∈ cs

/-- The tickets are the same ones, each with the record of its breach, and so are the tenants. -/
structure TicketsRecorded (cs : List (CallRecord ServiceCall)) (s s' : Store) : Prop where
  tenants : s'.tenants = s.tenants
  tickets : (s.tickets.map Ticket.id).Nodup → List.Forall₂ (Recorded cs) s.tickets s'.tickets

section recorded
variable {cs cs' : List (CallRecord ServiceCall)} {s s' s'' : Store} {row row' row'' : Ticket}

theorem Recorded.refl (h : ⟨.ticketBreach row.id row.tenantId, .none, false⟩ ∉ cs) :
    Recorded cs row row :=
  ⟨rfl, rfl, by simp [h]⟩

theorem Recorded.trans (h : Recorded cs row row') (h' : Recorded cs' row' row'') :
    Recorded (cs ++ cs') row row'' := by
  refine ⟨h'.id.trans h.id, h'.tenantId.trans h.tenantId, ?_⟩
  rw [h'.slaBreached, h.slaBreached, h.id, h.tenantId, List.mem_append, or_assoc]

theorem forall₂_ids {rows rows' : List Ticket} (h : List.Forall₂ (Recorded cs) rows rows') :
    rows'.map Ticket.id = rows.map Ticket.id := by
  induction h with
  | nil => rfl
  | cons hrow _ ih => rw [List.map_cons, List.map_cons, hrow.id, ih]

theorem exists_recorded {rows rows' : List Ticket} (h : List.Forall₂ (Recorded cs) rows rows')
    (hmem : row ∈ rows) : ∃ row' ∈ rows', Recorded cs row row' := by
  induction h with
  | nil => cases hmem
  | cons hrow _ ih =>
    rcases List.mem_cons.mp hmem with rfl | hlater
    · exact ⟨_, List.mem_cons_self, hrow⟩
    · obtain ⟨row', hmem', hrow'⟩ := ih hlater
      exact ⟨row', List.mem_cons_of_mem _ hmem', hrow'⟩

/-- Calls that record no breach, in a part that leaves the tickets alone. -/
theorem TicketsRecorded.refl (h : ∀ id tenantId, ⟨.ticketBreach id tenantId, .none, false⟩ ∉ cs)
    (s : Store) : TicketsRecorded cs s s :=
  ⟨rfl, fun _ => List.forall₂_same.mpr fun row _ => .refl (h row.id row.tenantId)⟩

theorem compositional_recorded : Compositional TicketsRecorded where
  start s := .refl (by simp) s
  append {cs cs' s s' s''} h h' := by
    refine ⟨h'.tenants.trans h.tenants, fun hkeys => ?_⟩
    have hfirst := h.tickets hkeys
    have hsecond := h'.tickets (forall₂_ids hfirst ▸ hkeys)
    rw [List.forall₂_iff_get] at hfirst hsecond ⊢
    obtain ⟨hlength, hrows⟩ := hfirst
    obtain ⟨hlength', hrows'⟩ := hsecond
    exact ⟨hlength.trans hlength', fun i hi hi'' =>
      (hrows i hi (hlength ▸ hi)).trans (hrows' i (hlength ▸ hi) hi'')⟩

/-- Calls of other kinds record no breach. -/
theorem recorded_other {k : ServiceCall} (hk : ∀ id tenantId, k ≠ .ticketBreach id tenantId)
    (s : Store) (fault : Fault) : TicketsRecorded [⟨k, fault, false⟩] s s :=
  .refl (fun id tenantId h => by
    cases List.mem_singleton.mp h
    exact hk id tenantId rfl) s

theorem recorded_breach {id tenantId : Uuid} {now : Time} :
    TicketsRecorded [⟨.ticketBreach id tenantId, .none, false⟩] s
      (breachTicket id tenantId now s) := by
  refine ⟨rfl, fun _ => ?_⟩
  simp only [breachTicket, Table.updateMany]
  rw [List.forall₂_map_right_iff]
  refine List.forall₂_same.mpr fun row _ => ?_
  split
  · rename_i hrow
    obtain ⟨rfl, rfl, -⟩ := hrow
    exact ⟨rfl, rfl, by simp [breach]⟩
  · rename_i hrow
    refine ⟨rfl, rfl, ?_⟩
    constructor
    · exact .inl
    · rintro (hbefore | hmarks)
      · exact hbefore
      · cases List.mem_singleton.mp hmarks
        by_contra hno
        exact hrow ⟨rfl, rfl, Bool.not_eq_true _ ▸ hno⟩

/-- A row that a service has read and writes back keeps its record. -/
theorem recorded_update {written : Ticket} {time : Time} (hcalls : ∀ c ∈ cs, ∀ id tenantId,
    c.kind ≠ .ticketBreach id tenantId) (hmem : row ∈ s.tickets) (hid : written.id = row.id)
    (hbreached : written.slaBreached = row.slaBreached)
    (htenants : s'.tenants = s.tenants)
    (hrows : s'.tickets = (s.updateTicket written.id (Ticket.write time written)).tickets) :
    TicketsRecorded cs s s' := by
  refine ⟨htenants, fun hkeys => ?_⟩
  have hnone : ∀ id tenantId, ⟨.ticketBreach id tenantId, .none, false⟩ ∉ cs :=
    fun id tenantId hmem => hcalls _ hmem id tenantId rfl
  rw [hrows]
  simp only [Store.updateTicket, Table.updateMany]
  rw [List.forall₂_map_right_iff]
  refine List.forall₂_same.mpr fun other hother => ?_
  split
  · rename_i hsame
    have heq : other = row := List.inj_on_of_nodup_map hkeys hother hmem (hsame.trans hid)
    refine ⟨rfl, rfl, ?_⟩
    simp only [Ticket.write, hbreached, heq, hnone, or_false]
  · exact .refl (hnone _ _)

end recorded

section calls

/-- Not the statement that records a breach. -/
def OtherCall (k : ServiceCall) : Prop := ∀ id tenantId, k ≠ .ticketBreach id tenantId

theorem calls_escalateTicket (dto : EscalateTicketDto) :
    Calls OtherCall (TicketService.escalateTicket dto) := by
  have hother : ∀ k, OrdinaryCall k → OtherCall k := fun _ h => h.1
  refine ((calls_getTicketOrThrow _ _).mono hother).bind fun _ => (calls_lift _).bind fun _ =>
    (calls_draw _).bind fun _ =>
    (calls_draw _).bind fun _ => (calls_lift _).bind fun _ => (calls_draw _).bind fun _ => ?_
  refine (Calls.transaction (fun _ _ h => by cases h) _
    ((calls_ticketWrites _ _ _).mono hother)).bind fun _ => ?_
  exact (calls_read fun _ _ h => by cases h).bind fun _ => calls_pure _

end calls

section traces

/-- An escalation leaves the records of the breaches as they are. -/
theorem traces_escalateTicket (dto : EscalateTicketDto) :
    Traces TicketsRecorded (TicketService.escalateTicket dto) := by
  refine traces_of_atomic (Q := fun s s' => ∃ row ∈ s.tickets, ∃ written time,
      written.id = row.id ∧ written.slaBreached = row.slaBreached ∧ s'.tenants = s.tenants ∧
      s'.tickets = (s.updateTicket written.id (Ticket.write time written)).tickets)
    (calls_escalateTicket dto) (fun env d s => ?_) fun cs s s' hcalls hend => ?_
  · refine atomic_escalateTicket_of fun row escalated u d' s' hticket hpolicy hescalated hy => ?_
    obtain ⟨time, _, _, _, _, hpublish⟩ := yields_ticketWrites_rows hy
    obtain ⟨outbox, rfl⟩ := yields_publishAll_outbox hpublish
    have hkept := escalate_progresses hescalated
    exact ⟨row, (findTicket_some hticket).1, escalated.row, time, hkept.id, hkept.slaBreached,
      rfl, rfl⟩
  · rcases hend with rfl | ⟨row, hmem, written, time, hid, hbreached, htenants, hrows⟩
    · exact .refl (fun id tenantId hmem => hcalls _ hmem id tenantId rfl) s'
    · exact recorded_update (fun c hc => hcalls c hc) hmem hid hbreached htenants hrows

theorem traces_markSlaBreached (id tenantId : Uuid) :
    Traces TicketsRecorded (markSlaBreached id tenantId) := by
  refine (traces_draw compositional_recorded _).bind compositional_recorded fun time => ?_
  refine traces_call (fun s found s' hs => ?_) fun s fault hfault => ?_
  · cases hs
    exact recorded_breach
  · refine .refl (fun id tenantId hmem => ?_) s
    cases List.mem_singleton.mp hmem
    exact hfault rfl

theorem traces_escalateOverdue (tenantId : Uuid) (ticket : TicketEntity) :
    Traces TicketsRecorded (TicketEscalationJob.escalateOverdue tenantId ticket) := by
  refine Traces.swallow ?_
  refine (traces_markSlaBreached _ _).bind compositional_recorded fun _ => ?_
  split
  · exact (traces_escalateTicket _).bind compositional_recorded fun _ =>
      traces_pure compositional_recorded ()
  · exact traces_pure compositional_recorded ()

theorem traces_escalateTenant (tenant : Tenant) :
    Traces TicketsRecorded (TicketEscalationJob.escalateTenant tenant) := by
  have hfind : Traces TicketsRecorded (findOverdueTickets tenant.id) :=
    (traces_draw compositional_recorded _).bind compositional_recorded fun _ =>
      (traces_draw compositional_recorded _).bind compositional_recorded fun _ =>
        traces_read (recorded_other fun _ _ h => by cases h)
  refine Traces.swallow (hfind.bind compositional_recorded fun tickets => ?_)
  exact traces_forEach compositional_recorded fun ticket _ => traces_escalateOverdue _ ticket

theorem traces_findAll (page limit : Nat) :
    Traces TicketsRecorded (TenantRepository.findAll page limit) := by
  refine (traces_draw compositional_recorded _).bind compositional_recorded fun rule => ?_
  refine (Traces.both compositional_recorded ?_ ?_).bind compositional_recorded fun _ =>
    traces_pure compositional_recorded _
  · exact traces_query (recorded_other fun _ _ h => by cases h)
  · exact traces_query (recorded_other fun _ _ h => by cases h)

theorem traces_tenants (tenants : List Tenant) :
    Traces TicketsRecorded (forEach tenants TicketEscalationJob.escalateTenant) :=
  traces_forEach compositional_recorded fun tenant _ => traces_escalateTenant tenant

/-- A run of the job records breaches by its statements alone. -/
theorem traces_fromPage (fuel page : Nat) :
    Traces TicketsRecorded (TicketEscalationJob.fromPage fuel page) := by
  induction fuel generalizing page with
  | zero => exact traces_pure compositional_recorded ()
  | succ fuel ih =>
    refine (traces_findAll _ _).bind compositional_recorded fun tenants => ?_
    refine (traces_tenants _).bind compositional_recorded fun _ => ?_
    split
    · exact traces_pure compositional_recorded ()
    · exact ih (page + 1)

section rounds
variable {env : ServiceEnv} {faults : Nat → Fault} {w : World Store ServiceCall}

/-- A round goes on to the next page only when there is one. -/
theorem fromPage_round {n m page : Nat} (hw : w.working = none)
    (hnext : page < toTotalPages w.committed.tenants.length tenantPageSize →
      ∀ w', w'.working = none → w'.committed.tenants = w.committed.tenants →
        (TicketEscalationJob.fromPage n (page + 1)).run env faults w' =
          (TicketEscalationJob.fromPage m (page + 1)).run env faults w') :
    (TicketEscalationJob.fromPage (n + 1) page).run env faults w =
      (TicketEscalationJob.fromPage (m + 1) page).run env faults w := by
  have hpage : Answers env w.draws (w.draws + 1) w.committed
      (TenantRepository.findAll page tenantPageSize) _ := answers_findPage
  obtain ⟨hreturns, hkept, houtside, -⟩ := hpage faults w hw rfl rfl
  simp only [TicketEscalationJob.fromPage]
  cases hfound : (TenantRepository.findAll page tenantPageSize).run env faults w with
  | mk outcome w₁ =>
    rw [hfound] at hreturns hkept houtside
    cases outcome with
    | error x => rw [bind_run_error hfound, bind_run_error hfound]
    | crashed => rw [bind_run_crashed hfound, bind_run_crashed hfound]
    | ok tenants =>
      rw [bind_run_ok hfound, bind_run_ok hfound]
      have htotal : tenants.totalPages =
          toTotalPages w.committed.tenants.length tenantPageSize := by
        have hsame := (hreturns tenants rfl).1
        cases hsame
        rfl
      have hround := traces_tenants tenants.data env faults w₁ houtside
      cases hrun : (forEach tenants.data TicketEscalationJob.escalateTenant).run env faults w₁ with
      | mk outcome w₂ =>
        rw [hrun] at hround
        cases outcome with
        | error x => rw [bind_run_error hrun, bind_run_error hrun]
        | crashed => rw [bind_run_crashed hrun, bind_run_crashed hrun]
        | ok u =>
          rw [bind_run_ok hrun, bind_run_ok hrun]
          split
          · rfl
          · rename_i hmore
            obtain ⟨cs, -, hrecorded⟩ := hround.calls
            refine hnext ?_ w₂ hround.outside (hrecorded.tenants.trans (by rw [hkept]))
            rw [← htotal]
            exact not_le.mp fun hle => hmore (.inl hle)

/-- One round for each page is enough: with more of them the run is the same. -/
theorem fromPage_enough {fuel page : Nat} (more : Nat) (hw : w.working = none)
    (h : toTotalPages w.committed.tenants.length tenantPageSize ≤ page + fuel) :
    (TicketEscalationJob.fromPage (fuel + 1 + more) page).run env faults w =
      (TicketEscalationJob.fromPage (fuel + 1) page).run env faults w := by
  induction fuel generalizing page w with
  | zero =>
    rw [Nat.add_right_comm]
    refine fromPage_round hw fun hpage => ?_
    omega
  | succ fuel ih =>
    rw [Nat.add_right_comm]
    refine fromPage_round hw fun hpage w' hw' htenants => ?_
    refine ih hw' ?_
    rw [htenants]
    omega

end rounds
end traces

/-- What the other calls make of the tickets between two runs: they write the record of a breach
back as they have read it. -/
def KeepRecords (s s' : Store) : Prop :=
  (s'.tickets.map Ticket.id).Nodup ∧ ∀ row ∈ s.tickets, ∃ row' ∈ s'.tickets,
    row'.id = row.id ∧ row'.tenantId = row.tenantId ∧ row'.slaBreached = row.slaBreached

instance (s s' : Store) : Decidable (KeepRecords s s') :=
  inferInstanceAs (Decidable (_ ∧ ∀ row ∈ s.tickets, ∃ row' ∈ s'.tickets, _))

theorem TicketsRecorded.keepRecords {s s' : Store} (h : TicketsRecorded [] s s')
    (hkeys : (s.tickets.map Ticket.id).Nodup) : KeepRecords s s' := by
  have hrows := h.tickets hkeys
  refine ⟨forall₂_ids hrows ▸ hkeys, fun row hmem => ?_⟩
  obtain ⟨row', hmem', hrow⟩ := exists_recorded hrows hmem
  have hbreached := hrow.slaBreached
  simp only [List.not_mem_nil, or_false] at hbreached
  exact ⟨row', hmem', hrow.id, hrow.tenantId, Bool.eq_iff_iff.mpr hbreached⟩

/-- So do the calls of the ticket service on stored tickets. -/
theorem performed_keepRecords {env : ServiceEnv} {s s' : Store} {command : TicketCommand}
    (hkeys : (s.tickets.map Ticket.id).Nodup) (hstored : ∀ dto, command ≠ .createTicket dto)
    (h : Performed env s command s') : KeepRecords s s' := by
  obtain ⟨change, hperforms, ⟨⟨outbox, -, rfl⟩, -, -⟩⟩ := h
  have hwrites : ∀ (written : Ticket) {row : Ticket} {id tenantId : Uuid} {time : Time}
      {rows : Store},
      s.findTicket id tenantId = some row → written.id = row.id →
      written.slaBreached = row.slaBreached → rows.tenants = s.tenants →
      rows.tickets = (s.updateTicket written.id (Ticket.write time written)).tickets →
      KeepRecords s rows := by
    intro written row id tenantId time rows hticket hid hbreached htenants hrows
    have hmem := (findTicket_some hticket).1
    have hrecorded : TicketsRecorded [] s rows :=
      recorded_update (by simp) hmem hid hbreached htenants hrows
    exact hrecorded.keepRecords hkeys
  have hsame : KeepRecords s s := (TicketsRecorded.refl (by simp) s).keepRecords hkeys
  cases hperforms with
  | createTicket dto => exact absurd rfl (hstored dto)
  | updateTicket dto row updated _ _ _ hticket _ hupdated =>
    have hkept := updatedEntity_keeps hupdated
    exact hwrites _ hticket hkept.id hkept.slaBreached rfl rfl
  | assignTicket dto row agent n time _ _ _ hticket =>
    exact hwrites ((TicketEntity.reconstitute row).assign time (env.header n) dto.agentId
      dto.assignedById).row hticket rfl rfl rfl rfl
  | changeStatus dto row newStatus moved n m _ _ _ _ hticket _ _ hmoved =>
    have hkept := movedEntity_progresses hmoved
    exact hwrites _ hticket hkept.id hkept.slaBreached rfl rfl
  | escalateTicket dto row escalated n _ _ _ _ _ hticket _ hescalated =>
    have hkept := escalate_progresses hescalated
    exact hwrites _ hticket hkept.id hkept.slaBreached rfl rfl
  | addReply dto row author moved _ n m _ _ _ _ _ hticket _ _ _ _ hmoved =>
    obtain ⟨hkept, -⟩ := changeStatus_progresses hmoved
    exact hwrites _ hticket hkept.id hkept.slaBreached rfl rfl
  | addComment | editComment | deleteComment => exact hsame

inductive EscalationTurn where
  | job (fuel : Nat) (env : ServiceEnv) (faults : Nat → Fault)
  | others (s' : Store)

/-- Runs of the job one after the other, each of which may fail or be cut short anywhere, and
what happens between them. -/
def escalationRuns : Machine Store EscalationTurn where
  step s
    | .job fuel env faults =>
      some ((TicketEscalationJob.run fuel).run env faults (World.start s)).2.committed
    | .others s' => if KeepRecords s s' then some s' else none

/-- In this run the statement that records the breach of the ticket takes effect. -/
def records (id tenantId : Uuid) (step : Machine.Step Store EscalationTurn) : Prop :=
  match step.label with
  | .job fuel env faults => ⟨.ticketBreach id tenantId, .none, false⟩ ∈
      ((TicketEscalationJob.run fuel).run env faults (World.start step.before)).2.calls
  | .others _ => False

instance (id tenantId : Uuid) : DecidablePred (records id tenantId)
  | ⟨_, .job _ _ _, _⟩ => inferInstanceAs (Decidable (_ ∈ _))
  | ⟨_, .others _, _⟩ => inferInstanceAs (Decidable False)

section selection
variable {s s' : Store} {row row' : Ticket} {turn : EscalationTurn} {turns : List EscalationTurn}

theorem mem_overdueTickets {tenantId : Uuid} {referenceDate date : Time} :
    .reconstitute row ∈ overdueTickets tenantId referenceDate date s ↔
      row ∈ s.tickets ∧ row.tenantId = tenantId ∧ row.status.isActive = true ∧
        row.slaBreached = false ∧
        ∃ dueAt, row.dueAt = some dueAt ∧ dueAt < referenceDate ∧ dueAt < date := by
  have hinjective : Function.Injective TicketEntity.reconstitute := fun a b h =>
    congrArg TicketEntity.row h
  rw [overdueTickets, List.mem_filter, List.mem_map_of_injective hinjective, List.mem_filter]
  cases hdue : row.dueAt <;> cases hstatus : row.status <;>
    simp [overdueWhere, OverdueTicketSpecification.isSatisfiedBy, TicketEntity.reconstitute,
      TicketEntity.isActive, TicketStatus.isActive, hdue, hstatus] <;> grind

theorem recorded_step (hkeys : (s.tickets.map Ticket.id).Nodup) (h : row ∈ s.tickets)
    (hs : escalationRuns.step s turn = some s') :
    (s'.tickets.map Ticket.id).Nodup ∧ ∃ row' ∈ s'.tickets, row'.id = row.id ∧
      row'.tenantId = row.tenantId ∧ (row'.slaBreached = true ↔
        row.slaBreached = true ∨ records row.id row.tenantId ⟨s, turn, s'⟩) := by
  cases turn with
  | job fuel env faults =>
    cases hs
    obtain ⟨-, cs, hcs, hrecorded⟩ := traces_fromPage fuel 1 env faults (World.start s) rfl
    have hrows := hrecorded.tickets hkeys
    have hcalls : ((TicketEscalationJob.run fuel).run env faults (World.start s)).2.calls = cs := hcs
    refine ⟨forall₂_ids hrows ▸ hkeys, ?_⟩
    obtain ⟨row', hmem, hrow⟩ := exists_recorded hrows h
    refine ⟨row', hmem, hrow.id, hrow.tenantId, ?_⟩
    simp only [records]
    rw [hcalls]
    exact hrow.slaBreached
  | others s₁ =>
    simp only [escalationRuns] at hs
    split at hs
    · rename_i hkeep
      cases hs
      obtain ⟨hkeys', hkept⟩ := hkeep
      obtain ⟨row', hmem, hid, htenant, hbreached⟩ := hkept row h
      refine ⟨hkeys', row', hmem, hid, htenant, ?_⟩
      simp only [records, hbreached, or_false]
    · cases hs

theorem recorded_run (hkeys : (s.tickets.map Ticket.id).Nodup) (h : row ∈ s.tickets)
    (hrun : escalationRuns.run s turns = some s') :
    (s'.tickets.map Ticket.id).Nodup ∧ ∃ row' ∈ s'.tickets, row'.id = row.id ∧
      row'.tenantId = row.tenantId ∧ (row'.slaBreached = true ↔ row.slaBreached = true ∨
        ∃ step ∈ escalationRuns.history s turns, records row.id row.tenantId step) := by
  induction turns generalizing s row with
  | nil =>
    cases hrun
    exact ⟨hkeys, row, h, rfl, rfl, by simp [Machine.history]⟩
  | cons turn turns ih =>
    obtain ⟨s₁, hs, hrest⟩ := (Machine.run_cons _).mp hrun
    obtain ⟨hkeys₁, row₁, h₁, hid₁, htenant₁, hbreached₁⟩ := recorded_step hkeys h hs
    obtain ⟨hkeys', row', h', hid', htenant', hbreached'⟩ := ih hkeys₁ h₁ hrest
    refine ⟨hkeys', row', h', hid'.trans hid₁, htenant'.trans htenant₁, ?_⟩
    rw [hbreached', hbreached₁, Machine.history_cons _ hs, hid₁, htenant₁]
    simp only [List.exists_mem_cons_iff, or_assoc]

/-- A ticket that was selected as overdue, is still active and has the same due date is selected
again by the next run if and only if no run since has recorded its breach. -/
theorem selected_again_iff {referenceDate date referenceDate' date' : Time}
    (hkeys : (s.tickets.map Ticket.id).Nodup) (hrun : escalationRuns.run s turns = some s')
    (hselected : .reconstitute row ∈ overdueTickets row.tenantId referenceDate date s)
    (hrow' : row' ∈ s'.tickets) (hid : row'.id = row.id) (hdue : row'.dueAt = row.dueAt)
    (hactive : row'.status.isActive = true) (hreference : referenceDate ≤ referenceDate')
    (hdate : date ≤ date') :
    .reconstitute row' ∈ overdueTickets row.tenantId referenceDate' date' s' ↔
      ∀ step ∈ escalationRuns.history s turns, ¬ records row.id row.tenantId step := by
  obtain ⟨hmem, -, -, hunbreached, dueAt, hdueAt, hbefore, hbefore'⟩ :=
    mem_overdueTickets.mp hselected
  obtain ⟨hkeys', row₁, hmem₁, hid₁, htenant₁, hbreached₁⟩ := recorded_run hkeys hmem hrun
  have hsame : row₁ = row' := List.inj_on_of_nodup_map hkeys' hmem₁ hrow' (hid₁.trans hid.symm)
  subst hsame
  have hnone : row₁.slaBreached = false ↔
      ∀ step ∈ escalationRuns.history s turns, ¬ records row.id row.tenantId step := by
    rw [← Bool.not_eq_true, hbreached₁, hunbreached]
    simp
  rw [← hnone, mem_overdueTickets]
  constructor
  · exact fun hagain => hagain.2.2.2.1
  · intro hfree
    have hlater : dueAt < referenceDate' := lt_of_lt_of_le hbefore hreference
    have hlater' : dueAt < date' := lt_of_lt_of_le hbefore' hdate
    exact ⟨hrow', htenant₁, hactive, hfree, dueAt, hdue.trans hdueAt, hlater, hlater'⟩

end selection

section demo

def overdueTicket : Ticket :=
  { (default : Ticket) with
    id := 3
    tenantId := 2
    status := .open
    category := "GENERAL"
    dueAt := some 900 }

def overdueStore : Store where
  tickets := [overdueTicket]
  comments := []
  customers := []
  tenants := [{ (default : Tenant) with id := 2, status := .active }]
  users := []
  refreshTokens := []
  sequences := []
  activities := []
  audits := []
  outbox := []

def escalationEnv : ServiceEnv := { sampleEnv with clock := fun n => 1000 + n }

/-- A run in which the call with this number throws. -/
def runFailing (n : Nat) : EscalationTurn :=
  .job 1 escalationEnv fun call => if call = n then .throws else .none

theorem overdueTicket_selected :
    .reconstitute overdueTicket ∈ overdueTickets overdueTicket.tenantId 1001 1002 overdueStore :=
  mem_overdueTickets.mpr ⟨List.mem_singleton.mpr rfl, rfl, rfl, rfl, 900, rfl, by decide, by decide⟩

/-- The breach is not recorded in the first run, and no ticket is found in the second. -/
theorem selected_again_unrecorded : ∃ s', escalationRuns.run overdueStore
      [runFailing 3, runFailing 2] = some s' ∧
    .reconstitute overdueTicket ∈ overdueTickets overdueTicket.tenantId 2001 2002 s' := by
  have hsome : (escalationRuns.run overdueStore [runFailing 3, runFailing 2]).any
      (fun s' => overdueTicket ∈ s'.tickets) = true := by decide +kernel
  obtain ⟨s', hrun, hmem⟩ := (Option.any_eq_true _ _).mp hsome
  have hnone : ∀ step ∈ escalationRuns.history overdueStore [runFailing 3, runFailing 2],
      ¬ records overdueTicket.id overdueTicket.tenantId step := by decide +kernel
  exact ⟨s', hrun, (selected_again_iff (by decide) hrun overdueTicket_selected
    (of_decide_eq_true hmem) rfl rfl rfl (by decide) (by decide)).mpr hnone⟩

/-- The escalation throws after the breach has been recorded. -/
theorem failed_escalation_forgotten :
    .reconstitute overdueTicket ∈ overdueTickets overdueTicket.tenantId 1001 1002 overdueStore ∧
    ∃ s' row', escalationRuns.run overdueStore [runFailing 4] = some s' ∧ row' ∈ s'.tickets ∧
      row'.id = overdueTicket.id ∧ row'.dueAt = overdueTicket.dueAt ∧
      row'.status.isActive = true ∧ row'.isEscalated = false ∧ ∀ tenantId referenceDate date,
        .reconstitute row' ∉ overdueTickets tenantId referenceDate date s' := by
  refine ⟨overdueTicket_selected, _, breach 1003 overdueTicket, rfl, by decide +kernel, rfl, rfl,
    rfl, rfl, ?_⟩
  intro tenantId referenceDate date hagain
  have hunbreached := (mem_overdueTickets.mp hagain).2.2.2.1
  cases hunbreached

end demo
end Scheduling
end OmniSupport
