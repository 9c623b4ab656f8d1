import OmniSupport.Database.Store
import OmniSupport.Foundation.Paging
import OmniSupport.Ticket.TicketEntity
import Mathlib.Data.List.Dedup
import Mathlib.Data.Rat.Defs

/-! The dashboard metrics of a tenant, and what its counts say about the ticket table. -/
namespace OmniSupport.Analytics
open Foundation Database

/-- `Record<string, number>`. -/
abbrev CountRecord := String → Option Nat

structure AgentWorkload where
  agentId : Uuid
  agentName : String
  openTickets : Nat
  resolvedToday : Nat
  avgResponseTimeHours : Nat
  deriving DecidableEq

structure DashboardMetrics where
  totalTickets : Nat
  openTickets : Nat
  resolvedToday : Nat
  criticalTickets : Nat
  escalatedTickets : Nat
  avgResolutionTimeHours : Rat
  slaBreachRate : Rat
  agentWorkload : List AgentWorkload
  ticketsByStatus : CountRecord
  ticketsByPriority : CountRecord
  ticketsByCategory : CountRecord

/-- `groupBy` with a count: one row for each value that occurs. -/
def groupBy {ρ κ : Type} [DecidableEq κ] (column : ρ → κ) (rows : List ρ) : List (κ × Nat) :=
  (rows.map column).dedup.map fun value =>
    (value, Table.count (fun row => column row = value) rows)

/-- A row of a `groupBy` becomes an entry of an object. -/
def withGroup (acc : CountRecord) (group : String × Nat) : CountRecord :=
  Function.update acc group.1 (some group.2)

def toRecord (groups : List (String × Nat)) : CountRecord := groups.foldl withGroup fun _ => none

/-- The count in the row of an agent, or 0 when the agent has none. -/
def countFor (rows : List (Option Uuid × Nat)) (agentId : Uuid) : Nat :=
  ((rows.find? fun row => row.1 = some agentId).map Prod.snd).getD 0

/-- `status: { notIn: ['RESOLVED', 'CLOSED'] }`. -/
def Unfinished (ticket : Ticket) : Prop := ticket.status ∉ [TicketStatus.resolved, .closed]

instance : DecidablePred Unfinished := fun _ => inferInstanceAs (Decidable (_ ∉ _))

def ResolvedSince (todayStart : Time) (ticket : Ticket) : Prop :=
  ticket.status = .resolved ∧ ∃ time ∈ ticket.resolvedAt, todayStart ≤ time

instance (todayStart : Time) : DecidablePred (ResolvedSince todayStart) := fun _ =>
  inferInstanceAs (Decidable (_ ∧ ∃ time ∈ _, _))

def tenantTickets (tenantId : Uuid) (s : Store) : List Ticket :=
  s.tickets.filter fun ticket => ticket.tenantId = tenantId

/-- The active agents of the tenant. -/
def findAgents (tenantId : Uuid) (s : Store) : List User :=
  s.users.filter fun user =>
    user.tenantId = some tenantId ∧ user.role = .agent ∧ user.status = .active

/-- The last hundred resolved tickets; `ties` orders those of one instant. -/
def resolvedWithTime (ties : Nat → Nat) (tickets : List Ticket) : List Ticket :=
  Paging.page 0 100 (Paging.orderRows (fun t t' => t'.resolvedAt.getD 0 ≤ t.resolvedAt.getD 0) ties
    (tickets.filter fun ticket => ticket.status = .resolved ∧ ticket.resolvedAt.isSome))

def averageResolutionMs (tickets : List Ticket) : Rat :=
  if 0 < tickets.length then
    (tickets.foldl (fun (sum : Rat) t => sum + ((t.resolvedAt.getD 0 : Rat) - t.createdAt)) 0) /
      tickets.length
  else 0

/-- The two grouped queries count the tickets of these agents. -/
def workloadOf (todayStart : Time) (agents : List User) (tickets : List Ticket) :
    List AgentWorkload :=
  let agentIds := agents.map User.id
  let ofAgents := tickets.filter fun ticket => ∃ id ∈ ticket.assignedAgentId, id ∈ agentIds
  let openByAgent := groupBy Ticket.assignedAgentId (ofAgents.filter fun t => Unfinished t)
  let resolvedTodayByAgent :=
    groupBy Ticket.assignedAgentId (ofAgents.filter fun t => ResolvedSince todayStart t)
  agents.map fun agent =>
    { agentId := agent.id
      agentName := agent.firstName ++ " " ++ agent.lastName
      openTickets := countFor openByAgent agent.id
      resolvedToday := countFor resolvedTodayByAgent agent.id
      avgResponseTimeHours := 0 }

def computeDashboardMetrics (tenantId : Uuid) (now : Time) (ties : Nat → Nat) (s : Store) :
    DashboardMetrics :=
  let todayStart := startOfUtcDay now
  let tickets := tenantTickets tenantId s
  let statusMap := toRecord (groupBy (fun ticket => ticket.status.text) tickets)
  let priorityMap := toRecord (groupBy (fun ticket => ticket.priority.text) tickets)
  let slaBreached := Table.count (fun ticket => ticket.slaBreached = true) tickets
  { totalTickets := tickets.length
    openTickets := (statusMap "OPEN").getD 0
    resolvedToday := Table.count (ResolvedSince todayStart) tickets
    criticalTickets := (priorityMap "CRITICAL").getD 0
    escalatedTickets :=
      Table.count (fun ticket => ticket.isEscalated = true ∧ Unfinished ticket) tickets
    avgResolutionTimeHours :=
      averageResolutionMs (resolvedWithTime ties tickets) / (1000 * 60 * 60)
    slaBreachRate := if 0 < tickets.length then (slaBreached : Rat) / tickets.length else 0
    agentWorkload := workloadOf todayStart (findAgents tenantId s) tickets
    ticketsByStatus := statusMap
    ticketsByPriority := priorityMap
    ticketsByCategory := toRecord (groupBy Ticket.category tickets) }

/-- Two metrics agree on the counts of the ticket table. -/
structure SameCounts (metrics metrics' : DashboardMetrics) : Prop where
  byStatus : metrics.ticketsByStatus = metrics'.ticketsByStatus
  byPriority : metrics.ticketsByPriority = metrics'.ticketsByPriority
  byCategory : metrics.ticketsByCategory = metrics'.ticketsByCategory
  escalated : metrics.escalatedTickets = metrics'.escalatedTickets
  workload : metrics.agentWorkload = metrics'.agentWorkload

section counts
variable {ρ κ : Type} [DecidableEq κ] {column : ρ → κ} {rows : List ρ}

theorem mem_groupBy {value : κ} {n : Nat} : (value, n) ∈ groupBy column rows ↔
    n = Table.count (fun row => column row = value) rows ∧ 0 < n := by
  have hoccurs : value ∈ (rows.map column).dedup ↔
      0 < Table.count (fun row => column row = value) rows := by
    simp [Table.count_pos]
  simp only [groupBy, List.mem_map, Prod.mk.injEq]
  constructor
  · rintro ⟨_, hm, rfl, rfl⟩
    exact ⟨rfl, hoccurs.mp hm⟩
  · rintro ⟨rfl, hpos⟩
    exact ⟨value, hoccurs.mpr hpos, rfl, rfl⟩

theorem groupBy_keys : ((groupBy column rows).map Prod.fst).Nodup := by
  have hkeys : (groupBy column rows).map Prod.fst = (rows.map column).dedup := by
    simp [groupBy, Function.comp_def]
  rw [hkeys]
  exact List.nodup_dedup _

theorem foldl_withGroup {groups : List (String × Nat)} {acc : CountRecord} {k : String}
    (h : k ∉ groups.map Prod.fst) : groups.foldl withGroup acc k = acc k := by
  induction groups generalizing acc with
  | nil => rfl
  | cons group groups ih =>
    rw [List.map_cons, List.mem_cons, not_or] at h
    rw [List.foldl_cons, ih h.2]
    exact Function.update_of_ne h.1 _ _

theorem toRecord_of_mem {groups : List (String × Nat)} {k : String} {n : Nat}
    (hkeys : (groups.map Prod.fst).Nodup) (h : (k, n) ∈ groups) : toRecord groups k = some n := by
  obtain ⟨before, after, rfl⟩ := List.append_of_mem h
  have hafter : k ∉ after.map Prod.fst := by
    rw [List.map_append, List.map_cons] at hkeys
    exact (List.nodup_cons.mp (List.nodup_append.mp hkeys).2.1).1
  rw [toRecord, List.foldl_append, List.foldl_cons, foldl_withGroup hafter]
  simp [withGroup]

/-- The record has the count of every value that occurs, and no entry for the others. -/
theorem toRecord_groupBy {column : ρ → String} (k : String) :
    (toRecord (groupBy column rows) k).getD 0 =
      Table.count (fun row => column row = k) rows := by
  rcases Nat.eq_zero_or_pos (Table.count (fun row => column row = k) rows) with hzero | hpos
  · have hno : k ∉ (groupBy column rows).map Prod.fst := by
      intro hmem
      obtain ⟨⟨value, n⟩, hgroup, rfl⟩ := List.mem_map.mp hmem
      obtain ⟨hn, hpos⟩ := mem_groupBy.mp hgroup
      have hnone : n = 0 := hn.trans hzero
      omega
    rw [hzero, toRecord, foldl_withGroup hno]
    rfl
  · rw [toRecord_of_mem groupBy_keys (mem_groupBy.mpr ⟨rfl, hpos⟩)]
    rfl

theorem countFor_groupBy {column : ρ → Option Uuid} (agentId : Uuid) :
    countFor (groupBy column rows) agentId =
      Table.count (fun row => column row = some agentId) rows := by
  rcases Nat.eq_zero_or_pos (Table.count (fun row => column row = some agentId) rows)
    with hzero | hpos
  · have hno : (groupBy column rows).find? (fun row => row.1 = some agentId) = none := by
      refine List.find?_eq_none.mpr ?_
      rintro ⟨value, n⟩ hgroup hvalue
      have hcount := mem_groupBy.mp hgroup
      have hsame : value = some agentId := of_decide_eq_true hvalue
      rw [hsame] at hcount
      omega
    rw [hzero, countFor, hno]
    rfl
  · have hgroup := mem_groupBy.mpr ⟨rfl, hpos⟩
    have hfind := Table.find?_of_mem groupBy_keys hgroup
    rw [countFor, hfind]
    rfl

end counts

section workload
variable {agents : List User} {tickets : List Ticket}

theorem count_ofAgents {agent : User} (hagent : agent ∈ agents) (p : Ticket → Prop)
    [DecidablePred p] :
    Table.count (fun t => t.assignedAgentId = some agent.id)
        ((tickets.filter fun t => ∃ id ∈ t.assignedAgentId, id ∈ agents.map User.id).filter
          fun t => p t) =
      Table.count (fun t => t.assignedAgentId = some agent.id ∧ p t) tickets := by
  have hid : agent.id ∈ agents.map User.id := List.mem_map_of_mem hagent
  simp only [Table.count, List.countP_filter]
  apply List.countP_congr
  intro ticket _
  constructor
  · intro h
    simp only [Bool.and_eq_true, decide_eq_true_eq] at h
    simp [h.1.1, h.1.2]
  · intro h
    simp only [decide_eq_true_eq] at h
    simp only [Bool.and_eq_true, decide_eq_true_eq]
    exact ⟨⟨h.1, h.2⟩, agent.id, h.1, hid⟩

/-- Each agent has the counts of the unfinished and the resolved tickets assigned to them. -/
theorem workloadOf_eq (todayStart : Time) (agents : List User) (tickets : List Ticket) :
    workloadOf todayStart agents tickets = agents.map fun agent =>
      { agentId := agent.id
        agentName := agent.firstName ++ " " ++ agent.lastName
        openTickets := Table.count
          (fun t => t.assignedAgentId = some agent.id ∧ Unfinished t) tickets
        resolvedToday := Table.count
          (fun t => t.assignedAgentId = some agent.id ∧ ResolvedSince todayStart t) tickets
        avgResponseTimeHours := 0 } := by
  apply List.map_congr_left
  intro agent hagent
  rw [countFor_groupBy, countFor_groupBy, count_ofAgents hagent, count_ofAgents hagent]

/-- The workload of a later day is the same if no ticket counted as resolved drops out. -/
theorem workloadOf_eq_iff {todayStart todayStart' : Time} (h : todayStart ≤ todayStart') :
    workloadOf todayStart agents tickets = workloadOf todayStart' agents tickets ↔
      ∀ agent ∈ agents, ∀ t ∈ tickets, t.assignedAgentId = some agent.id →
        ResolvedSince todayStart t → ResolvedSince todayStart' t := by
  have hlater : ∀ t, ResolvedSince todayStart' t → ResolvedSince todayStart t := by
    intro t hresolved
    obtain ⟨hstatus, time, htime, hle⟩ := hresolved
    exact ⟨hstatus, time, htime, h.trans hle⟩
  rw [workloadOf_eq, workloadOf_eq, List.map_inj_left]
  apply forall₂_congr
  intro agent _
  have himp : ∀ t, (t.assignedAgentId = some agent.id ∧ ResolvedSince todayStart' t) →
      (t.assignedAgentId = some agent.id ∧ ResolvedSince todayStart t) :=
    fun t ht => ⟨ht.1, hlater t ht.2⟩
  constructor
  · intro heq t ht hagent hresolved
    have hsame := congrArg AgentWorkload.resolvedToday heq
    exact ((Table.count_eq_iff_of_imp himp).mp hsame.symm t ht ⟨hagent, hresolved⟩).2
  · intro hall
    rw [(Table.count_eq_iff_of_imp himp).mpr fun t ht hresolved =>
      ⟨hresolved.1, hall t ht hresolved.1 hresolved.2⟩]

end workload
end OmniSupport.Analytics
