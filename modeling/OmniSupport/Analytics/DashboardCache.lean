import OmniSupport.Analytics.DashboardMetrics
import OmniSupport.Foundation.ReadThrough
import OmniSupport.Ticket.ReadPaths
import OmniSupport.Ticket.TicketAtomicity
import OmniSupport.Ticket.TicketCalls

/-! The dashboard behind its cache. Writes on tickets clear it, except for comments, though a
customer's reply sets a pending ticket in progress. -/
namespace OmniSupport.Analytics
open Foundation Database Effect Ticketing TicketService

/-- `replies` counts the replies that have moved a pending ticket, and `written` says whether
a write has returned. No step depends on them. -/
structure Desk where
  store : Store
  replies : Nat
  written : Bool

/-- A call of the ticket service, with the schedule of its awaited calls. -/
structure WriteCall where
  command : TicketCommand
  env : ServiceEnv
  faults : Nat → Fault

structure ReadContext where
  now : Time
  ties : Nat → Nat

/-- The tenant of a call that writes on tickets or adds a comment. -/
def writtenTenant : TicketCommand → Option Uuid
  | .createTicket dto => some dto.tenantId
  | .updateTicket dto => some dto.tenantId
  | .assignTicket dto => some dto.tenantId
  | .changeStatus dto => some dto.tenantId
  | .escalateTicket dto => some dto.tenantId
  | .addComment dto => some dto.tenantId
  | .editComment _ | .deleteComment _ => none

/-- A comment of a customer on a ticket that waits for them. -/
def Replies (dto : AddCommentDto) (s : Store) : Prop :=
  dto.authorRole = .customer ∧
    ∃ row ∈ s.findTicket dto.ticketId dto.tenantId, row.status = .pendingCustomer

instance (dto : AddCommentDto) (s : Store) : Decidable (Replies dto s) :=
  inferInstanceAs (Decidable (_ ∧ ∃ row ∈ _, _))

def repliesBy (command : TicketCommand) (s : Store) : Nat :=
  match command with
  | .addComment dto => if Replies dto s then 1 else 0
  | _ => 0

def cleared (tenantId : Uuid) (calls : List (CallRecord ServiceCall)) : Bool :=
  calls.any fun c => c.kind = .cacheInvalidate tenantId ∧ c.fault = .none

/-- A write that succeeds, and whether it has cleared the dashboard. -/
def writeTicket (tenantId : Uuid) (desk : Desk) (call : WriteCall) : Option (Desk × Bool) :=
  if writtenTenant call.command = some tenantId then
    let ended := (perform call.command).run call.env call.faults (World.start desk.store)
    if ended.1.isOk then
      some (⟨ended.2.committed, desk.replies + repliesBy call.command desk.store, true⟩,
        cleared tenantId ended.2.calls)
    else none
  else none

def ttlSeconds : Nat := 300

def dashboard (tenantId : Uuid) : ReadThrough Desk WriteCall ReadContext DashboardMetrics where
  write := writeTicket tenantId
  compute context desk := computeDashboardMetrics tenantId context.now context.ties desk.store
  now := ReadContext.now
  ttl := ttlSeconds * 1000

abbrev CachedDesk := Cached Desk ReadContext DashboardMetrics

abbrev DashboardLabel := CacheLabel WriteCall ReadContext

/-- `AnalyticsService.getDashboardMetrics`: the cached metrics, or new ones. -/
def getDashboardMetrics (tenantId : Uuid) (c : CachedDesk) (context : ReadContext) :
    DashboardMetrics :=
  (dashboard tenantId).answer c context

def openDesk (s : Store) : CachedDesk := ReadThrough.start ⟨s, 0, false⟩

/-- A read after a write has the counts of the store as it is. -/
def ReadsStore (tenantId : Uuid) (step : Machine.Step CachedDesk DashboardLabel) : Prop :=
  ∀ context storedAt, step.label = .read context storedAt → step.before.data.written = true →
    SameCounts (getDashboardMetrics tenantId step.before context)
      (computeDashboardMetrics tenantId context.now context.ties step.before.data.store)

/-- The live entry was computed before a reply that moved a pending ticket, or on a day before
today with a resolved ticket of an active agent that does not count today. -/
def Outdated (tenantId : Uuid) (c : CachedDesk) (context : ReadContext) : Prop :=
  ∃ entry ∈ (dashboard tenantId).live c context, entry.source.replies < c.data.replies ∨
    ∃ agent ∈ findAgents tenantId c.data.store, ∃ ticket ∈ tenantTickets tenantId c.data.store,
      ticket.assignedAgentId = some agent.id ∧
      ResolvedSince (startOfUtcDay entry.context.now) ticket ∧
      ¬ ResolvedSince (startOfUtcDay context.now) ticket

/-- No read after a write comes upon an outdated entry. -/
def ReadsCurrent (tenantId : Uuid) (c : CachedDesk) (label : DashboardLabel) : Prop :=
  ∀ context storedAt, label = .read context storedAt → c.data.written = true →
    ¬ Outdated tenantId c context

instance (tenantId : Uuid) (c : CachedDesk) (context : ReadContext) :
    Decidable (Outdated tenantId c context) :=
  inferInstanceAs (Decidable (∃ entry ∈ _, _ ∨ ∃ agent ∈ _, ∃ ticket ∈ _, _ ∧ _ ∧ _))

instance (tenantId : Uuid) (c : CachedDesk) :
    ∀ label, Decidable (ReadsCurrent tenantId c label)
  | .write _ => isTrue fun _ _ h => by cases h
  | .read context _ =>
    decidable_of_iff (c.data.written = true → ¬ Outdated tenantId c context)
      ⟨fun h _ _ hread => by cases hread; exact h, fun h => h context _ rfl⟩

section comments
variable {env : ServiceEnv} {d d' : Nat} {s s' : Store} {dto : AddCommentDto}

/-- What a comment does to the tickets: a reply takes one out of the pending ones. -/
structure Commented (dto : AddCommentDto) (s s' : Store) : Prop where
  users : s'.users = s.users
  stays : ¬ Replies dto s → s'.tickets = s.tickets
  moves : Replies dto s → ∃ row ∈ s.tickets, ∃ moved : Ticket, ∃ time,
    row.tenantId = dto.tenantId ∧ row.status = .pendingCustomer ∧ moved.id = row.id ∧
    moved.status = .inProgress ∧
    s'.tickets = (s.updateTicket moved.id (Ticket.write time moved)).tickets

theorem changeStatus_moved {time : Time} {header : EventHeader} {status : TicketStatus}
    {userId : Uuid} {row : Ticket} {moved : TicketEntity}
    (h : (TicketEntity.reconstitute row).changeStatus time header status userId = .ok moved) :
    moved.row.id = row.id ∧ moved.row.status = status := by
  simp only [TicketEntity.changeStatus] at h
  split at h
  · cases h
    exact ⟨rfl, rfl⟩
  · cases h

theorem yields_addCommentWrites_tickets {row : Ticket} {comment : TicketCommentEntity}
    {author : User} {u : Unit}
    (hrow : s.findTicket dto.ticketId dto.tenantId = some row)
    (h : Yields env d s (addCommentWrites dto (.reconstitute row) comment author) u d' s') :
    Commented dto s s' := by
  obtain ⟨_, _, _, hsave, h₁⟩ := yields_bind (inside_commentSave _) h
  obtain ⟨savedAt, rfl, -⟩ := yields_commentSave hsave
  obtain ⟨ticket, _, s₂, hreply, h₂⟩ := yields_bind (inside_replyStatus _ _) h₁
  obtain ⟨_, _, _, hactivity, h₃⟩ := yields_bind (inside_activityCreate _) h₂
  obtain ⟨activityAt, rfl, -⟩ := yields_activityCreate hactivity
  obtain ⟨_, _, _, hticket, h₄⟩ := yields_bind (inside_publishAll _) h₃
  obtain ⟨outbox, rfl⟩ := yields_publishAll_outbox hticket
  obtain ⟨outbox', rfl⟩ := yields_publishAll_outbox h₄
  have hreplies : Replies dto s ↔
      dto.authorRole = .customer ∧ row.status = .pendingCustomer := by
    simp [Replies, hrow]
  obtain ⟨hcustomer, hpending, hmoved, writtenAt, rfl⟩ | ⟨hstays, -, rfl⟩ :=
    yields_replyStatus hreply
  · obtain ⟨hid, hstatus⟩ := changeStatus_moved hmoved
    obtain ⟨hmem, -, htenant⟩ := findTicket_some hrow
    refine ⟨rfl, fun hno => absurd (hreplies.mpr ⟨hcustomer, hpending⟩) hno, fun _ => ?_⟩
    exact ⟨row, hmem, ticket.row, writtenAt, htenant, hpending, hid, hstatus, rfl⟩
  · exact ⟨rfl, fun _ => rfl, fun hyes => absurd (hreplies.mp hyes) hstays⟩

theorem ends_addComment (dto : AddCommentDto) :
    Ends env d s (fun _ _ s' => Commented dto s s') (fun _ => True) (addComment dto) := by
  simp only [addComment, getTicketOrThrow, TicketRepository.findById, bind_assoc, pure_bind]
  refine ends_read_bind (ends_lift_bind (fun row hrow => ?_) trivial) trivial
  refine ends_read_bind (ends_lift_bind (fun author _ => ?_) trivial) trivial
  refine ends_lift_bind (fun _ _ => ?_) trivial
  refine ends_draw_bind (ends_draw_bind (ends_draw_bind ?_))
  refine Ends.bind (ends_transaction (inside_addCommentWrites _ _ _ _)
    (fun _ _ _ hy => yields_addCommentWrites_tickets (orThrow_ok hrow) hy) trivial)
    fun _ _ _ hcommented => ?_
  refine ends_draw_bind (ends_draw_bind ?_)
  unfold addSentiment
  split
  · exact ends_read_bind (ends_pure hcommented) trivial
  · exact ends_pure hcommented

end comments

section kept
variable {tenantId : Uuid} {desk desk₀ desk' : Desk} {call : WriteCall}

def pending (tenantId : Uuid) (s : Store) : Nat :=
  Table.count (fun t => t.tenantId = tenantId ∧ t.status = .pendingCustomer) s.tickets

/-- What has become of the tickets since the entry was computed, by the writes that keep it. -/
structure KeptDesk (tenantId : Uuid) (desk₀ desk : Desk) : Prop where
  users : desk.store.users = desk₀.store.users
  replies : desk₀.replies ≤ desk.replies
  same : desk.replies = desk₀.replies → desk.store.tickets = desk₀.store.tickets
  moved : desk₀.replies < desk.replies → pending tenantId desk.store < pending tenantId desk₀.store

theorem KeptDesk.pending_le (h : KeptDesk tenantId desk₀ desk) :
    pending tenantId desk.store ≤ pending tenantId desk₀.store := by
  rcases Nat.eq_or_lt_of_le h.replies with heq | hlt
  · rw [pending, pending, h.same heq.symm]
  · exact Nat.le_of_lt (h.moved hlt)

theorem Commented.pending_lt {dto : AddCommentDto} {s s' : Store} (h : Commented dto s s')
    (hreplies : Replies dto s) : pending dto.tenantId s' < pending dto.tenantId s := by
  obtain ⟨row, hmem, moved, time, htenant, hstatus, hid, hmoved, htickets⟩ := h.moves hreplies
  have hwritten : ∀ t, ¬ (Ticket.write time moved t).status = .pendingCustomer := by
    intro t hpending
    have hsame : moved.status = .pendingCustomer := hpending
    rw [hmoved] at hsame
    cases hsame
  rw [pending, pending, htickets]
  exact Table.count_updateMany_lt (fun t _ hq => absurd hq.2 (hwritten t)) hmem hid.symm
    ⟨htenant, hstatus⟩ fun hq => hwritten row hq.2

theorem logs_perform {command : TicketCommand} (h : writtenTenant command = some tenantId)
    (hno : ∀ dto, command ≠ .addComment dto) :
    Logs (.cacheInvalidate tenantId) (perform command) := by
  cases command with
  | createTicket dto =>
    cases h
    exact (logs_createTicket dto).map _
  | updateTicket dto =>
    cases h
    exact (logs_updateTicket dto).map _
  | assignTicket dto =>
    cases h
    exact (logs_assignTicket dto).map _
  | changeStatus dto =>
    cases h
    exact (logs_changeStatus dto).map _
  | escalateTicket dto =>
    cases h
    exact (logs_escalateTicket dto).map _
  | addComment dto => exact absurd rfl (hno dto)
  | editComment dto | deleteComment dto => cases h

theorem ends_performComment {env : ServiceEnv} {s : Store} (dto : AddCommentDto) :
    Ends env 0 s (fun _ _ s' => Commented dto s s') (fun _ => True)
      (perform (.addComment dto)) := by
  rw [perform, map_eq_pure_bind]
  exact (ends_addComment dto).bind fun _ _ _ h => ends_pure h

theorem writeTicket_some {drops : Bool} (h : writeTicket tenantId desk call = some (desk', drops)) :
    writtenTenant call.command = some tenantId ∧ ∃ reply w,
      (perform call.command).run call.env call.faults (World.start desk.store) = (.ok reply, w) ∧
      desk' = ⟨w.committed, desk.replies + repliesBy call.command desk.store, true⟩ ∧
      drops = cleared tenantId w.calls := by
  unfold writeTicket at h
  split at h
  · rename_i htenant
    cases hr : (perform call.command).run call.env call.faults (World.start desk.store) with
    | mk outcome w =>
      rw [hr] at h
      cases outcome with
      | ok reply =>
        obtain ⟨rfl, rfl⟩ := Prod.mk.inj (Option.some.inj h)
        exact ⟨htenant, reply, w, rfl, rfl, rfl⟩
      | error x | crashed => cases h
  · cases h

/-- A write that does not clear the dashboard is a comment. -/
theorem writeTicket_kept (h : writeTicket tenantId desk call = some (desk', false)) :
    ∃ dto, dto.tenantId = tenantId ∧ Commented dto desk.store desk'.store ∧
      desk'.replies = desk.replies + if Replies dto desk.store then 1 else 0 := by
  obtain ⟨htenant, reply, w, hr, rfl, hkept⟩ := writeTicket_some h
  have hcomment : ∃ dto, call.command = .addComment dto := by
    by_contra hno
    have hlogs := logs_perform htenant fun dto hdto => hno ⟨dto, hdto⟩
    obtain ⟨c, hc, hkind⟩ := hlogs _ _ _ _ (congrArg Prod.fst hr)
    rw [hr] at hc
    have hcleared : cleared tenantId w.calls = true :=
      List.any_eq_true.mpr ⟨c, hc, decide_eq_true hkind⟩
    rw [← hkept] at hcleared
    cases hcleared
  obtain ⟨dto, hdto⟩ := hcomment
  rw [hdto] at hr htenant ⊢
  have hends : Ends call.env 0 desk.store (fun _ _ s' => Commented dto desk.store s')
      (fun _ => True) (perform (.addComment dto)) := ends_performComment dto
  have hcommented := (hends call.faults (World.start desk.store) rfl rfl rfl).returns reply
    (congrArg Prod.fst hr)
  rw [hr] at hcommented
  exact ⟨dto, Option.some.inj htenant, hcommented, rfl⟩

theorem keeping_dashboard : (dashboard tenantId).Keeping (KeptDesk tenantId) where
  refl desk := by
    constructor <;> simp
  write desk₀ desk call desk' h hwrite := by
    obtain ⟨dto, rfl, hcommented, hreplies⟩ := writeTicket_kept hwrite
    have husers := hcommented.users.trans h.users
    have hle := h.replies
    by_cases hmoves : Replies dto desk.store
    · rw [if_pos hmoves] at hreplies
      refine ⟨husers, by omega, fun heq => by omega, fun _ => ?_⟩
      exact Nat.lt_of_lt_of_le (hcommented.pending_lt hmoves) h.pending_le
    · rw [if_neg hmoves, Nat.add_zero] at hreplies
      have htickets := hcommented.stays hmoves
      refine ⟨husers, by omega, fun heq => ?_, fun hlt => ?_⟩
      · rw [htickets, h.same (by omega)]
      · have hsame : pending dto.tenantId desk'.store = pending dto.tenantId desk.store := by
          rw [pending, pending, htickets]
        rw [hsame]
        exact h.moved (by omega)

end kept

section reads
variable {tenantId : Uuid} {c : CachedDesk} {context : ReadContext}

theorem startOfUtcDay_mono {t t' : Time} (h : t ≤ t') : startOfUtcDay t ≤ startOfUtcDay t' := by
  have hday : ∀ t, startOfUtcDay t = msPerDay * (t / msPerDay) := by
    intro t
    exact Nat.sub_eq_of_eq_add (Nat.div_add_mod t msPerDay).symm
  rw [hday, hday]
  exact Nat.mul_le_mul_left _ (Nat.div_le_div_right h)

/-- Fewer pending tickets show in the counts by status. -/
theorem not_sameCounts {now now' : Time} {ties ties' : Nat → Nat} {s s' : Store}
    (h : pending tenantId s' < pending tenantId s) :
    ¬ SameCounts (computeDashboardMetrics tenantId now ties s)
      (computeDashboardMetrics tenantId now' ties' s') := by
  intro hsame
  have htext : ∀ status : TicketStatus,
      status.text = "PENDING_CUSTOMER" ↔ status = .pendingCustomer := by
    intro status
    cases status <;> simp [TicketStatus.text]
  have hcount : ∀ s, Table.count (fun t : Ticket => t.status.text = "PENDING_CUSTOMER")
      (tenantTickets tenantId s) = pending tenantId s := by
    intro s
    simp only [Table.count, tenantTickets, pending, List.countP_filter]
    apply List.countP_congr
    intro t _
    simp [htext, and_comm]
  have hrecord := congrFun hsame.byStatus "PENDING_CUSTOMER"
  have hboth := congrArg (fun n => n.getD 0) hrecord
  simp only [computeDashboardMetrics, toRecord_groupBy, hcount] at hboth
  omega

/-- Of the same tickets, the counts of two days differ by the tickets that no longer count as
resolved today. -/
theorem sameCounts_iff {now now' : Time} {ties ties' : Nat → Nat} {s s' : Store}
    (htickets : s'.tickets = s.tickets) (husers : s'.users = s.users) (hnow : now ≤ now') :
    SameCounts (computeDashboardMetrics tenantId now ties s)
        (computeDashboardMetrics tenantId now' ties' s') ↔
      ∀ agent ∈ findAgents tenantId s', ∀ ticket ∈ tenantTickets tenantId s',
        ticket.assignedAgentId = some agent.id → ResolvedSince (startOfUtcDay now) ticket →
        ResolvedSince (startOfUtcDay now') ticket := by
  have hrows : tenantTickets tenantId s = tenantTickets tenantId s' := by
    rw [tenantTickets, tenantTickets, htickets]
  have hagents : findAgents tenantId s = findAgents tenantId s' := by
    rw [findAgents, findAgents, husers]
  rw [← workloadOf_eq_iff (startOfUtcDay_mono hnow)]
  constructor
  · intro hsame
    have hworkload := hsame.workload
    simp only [computeDashboardMetrics, hrows, hagents] at hworkload
    exact hworkload
  · intro hworkload
    constructor <;> simp only [computeDashboardMetrics, hrows, hagents]
    exact hworkload

theorem read_iff (h : (dashboard tenantId).Derived (KeptDesk tenantId) c)
    (htime : c.time ≤ context.now) :
    SameCounts (getDashboardMetrics tenantId c context)
        (computeDashboardMetrics tenantId context.now context.ties c.data.store) ↔
      ¬ Outdated tenantId c context := by
  rcases ReadThrough.answer_cases h context with
    ⟨hlive, hanswer⟩ | ⟨entry, hlive, hanswer, hkept, hearlier⟩
  · rw [getDashboardMetrics, hanswer]
    refine ⟨fun _ hout => ?_, fun _ => ⟨rfl, rfl, rfl, rfl, rfl⟩⟩
    obtain ⟨entry, hentry, -⟩ := hout
    rw [hlive] at hentry
    cases hentry
  · have hout : Outdated tenantId c context ↔ entry.source.replies < c.data.replies ∨
        ∃ agent ∈ findAgents tenantId c.data.store, ∃ ticket ∈ tenantTickets tenantId c.data.store,
          ticket.assignedAgentId = some agent.id ∧
          ResolvedSince (startOfUtcDay entry.context.now) ticket ∧
          ¬ ResolvedSince (startOfUtcDay context.now) ticket := by
      simp only [Outdated, hlive, Option.mem_def, Option.some.injEq, exists_eq_left']
    rw [getDashboardMetrics, hanswer, hout]
    rcases Nat.eq_or_lt_of_le hkept.replies with heq | hlt
    · have hnow : entry.context.now ≤ context.now := Nat.le_trans hearlier htime
      have htickets := hkept.same heq.symm
      simp only [dashboard, sameCounts_iff htickets hkept.users hnow, heq, lt_irrefl, false_or,
        not_exists, not_and, not_not]
    · refine ⟨fun hsame => absurd hsame (not_sameCounts (hkept.moved hlt)), fun hno => ?_⟩
      exact absurd (.inl hlt) hno

end reads

/-- Over every sequence of writes and reads: the reads after a write have the counts of the
store exactly when none of them comes upon an outdated entry. -/
theorem dashboard_follows_iff {tenantId : Uuid} {s : Store} {labels : List DashboardLabel}
    {c : CachedDesk} (hr : (dashboard tenantId).machine.run (openDesk s) labels = some c) :
    (∀ step ∈ (dashboard tenantId).machine.history (openDesk s) labels, ReadsStore tenantId step) ↔
      ∀ step ∈ (dashboard tenantId).machine.history (openDesk s) labels,
        ReadsCurrent tenantId step.before step.label := by
  apply forall₂_congr
  intro step hstep
  obtain ⟨before, after, rfl, hbefore, hlabel, -⟩ := Machine.split_of_mem_history _ hr hstep
  have hderived := ReadThrough.derived_run keeping_dashboard hbefore
  apply forall₂_congr
  intro context storedAt
  apply forall₂_congr
  intro hread _
  rw [hread] at hlabel
  have htimes : step.before.time ≤ context.now := by
    simp only [ReadThrough.machine] at hlabel
    split at hlabel
    · rename_i htimes
      exact htimes.1
    · cases hlabel
  exact read_iff hderived htimes

section demo

/-- A read, a customer's reply, and a read some time after the first. -/
def demoLabels (later : Time) : List DashboardLabel :=
  [.read ⟨0, id⟩ 0, .write ⟨demoReply, sampleEnv, fun _ => .none⟩, .read ⟨later, id⟩ later]

/-- A read after a write that answers another count for a status than the store has. -/
def miscounts (tenantId : Uuid) (status : String)
    (step : Machine.Step CachedDesk DashboardLabel) : Bool :=
  match step.label with
  | .write _ => false
  | .read context _ =>
    step.before.data.written &&
      ((getDashboardMetrics tenantId step.before context).ticketsByStatus status ≠
        (computeDashboardMetrics tenantId context.now context.ties
          step.before.data.store).ticketsByStatus status)

end demo

/-- The entry has expired by the time of the second read. -/
theorem dashboard_follows_iff_expired :
    ∃ c, (dashboard 2).machine.run (openDesk demoStore) (demoLabels 300000) = some c ∧
      ∀ step ∈ (dashboard 2).machine.history (openDesk demoStore) (demoLabels 300000),
        ReadsStore 2 step := by
  have hsome : ((dashboard 2).machine.run (openDesk demoStore) (demoLabels 300000)).isSome :=
    by decide +kernel
  have hr := (Option.some_get hsome).symm
  have hwithin : (dashboard 2).machine.Within (ReadsCurrent 2) (openDesk demoStore)
      (demoLabels 300000) := by decide +kernel
  exact ⟨_, hr, (dashboard_follows_iff hr).mpr ((Machine.within_iff_history _ hr).mp hwithin)⟩

/-- A minute after the first read, the dashboard still counts the ticket as pending. -/
theorem reply_leaves_dashboard :
    ¬ ∀ step ∈ (dashboard 2).machine.history (openDesk demoStore) (demoLabels 60000),
      ReadsStore 2 step := by
  intro hreads
  have hmiscounts : ((dashboard 2).machine.history (openDesk demoStore)
      (demoLabels 60000)).any (miscounts 2 "PENDING_CUSTOMER") = true := by decide +kernel
  obtain ⟨step, hstep, hmis⟩ := List.any_eq_true.mp hmiscounts
  cases hlabel : step.label with
  | write call => simp [miscounts, hlabel] at hmis
  | read context storedAt =>
    simp only [miscounts, hlabel, Bool.and_eq_true, decide_eq_true_eq] at hmis
    exact hmis.2 (congrFun (hreads step hstep context storedAt hlabel hmis.1).byStatus _)

end OmniSupport.Analytics
