import OmniSupport.Database.ServiceRules
import OmniSupport.Ticket.TicketNumbering
import Mathlib.Data.List.Range

/-! Concurrent calls of `createTicket` are serialized by the lock on the sequence row, so
numbers have no gap and the daily limit is checked against all committed tickets. -/
namespace OmniSupport.Ticketing
open Foundation Database Outbox TicketService

section store
variable {s s' : Store} {t : Uuid}

def lastNumber (t : Uuid) (s : Store) : Nat :=
  ((s.sequences.find? fun sequence => sequence.tenantId = t).map TicketSequence.lastNumber).getD 0

/-- The numbers of the tenant's tickets, in commit order. -/
def numbersOf (t : Uuid) (s : Store) : List Nat :=
  (s.tickets.filter fun ticket => ticket.tenantId = t).map Ticket.ticketNumber

/-- The tickets of the tenant created on the UTC day that starts at `day`. -/
def createdOn (t : Uuid) (day : Time) (s : Store) : Nat :=
  Table.count (fun ticket => ticket.tenantId = t ∧ startOfUtcDay ticket.createdAt = day) s.tickets

theorem nextTicketNumber_fst : (s.nextTicketNumber t).1 = lastNumber t s + 1 := by
  simp only [Store.nextTicketNumber, lastNumber]
  cases hfind : s.sequences.find? fun sequence => sequence.tenantId = t with
  | some sequence => simp
  | none => simp

theorem nextTicketNumber_tickets : (s.nextTicketNumber t).2.tickets = s.tickets := by
  obtain ⟨sequences, hnext⟩ := nextTicketNumber_sequences (s := s) t
  rw [hnext]

theorem find?_updateMany_sequences (t t' : Uuid) (rows : List TicketSequence) :
    (Table.updateMany (fun row => row.tenantId = t)
      (fun row => { row with lastNumber := row.lastNumber + 1 }) rows).find?
        (fun row => row.tenantId = t') =
      (rows.find? fun row => row.tenantId = t').map fun row =>
        if t' = t then { row with lastNumber := row.lastNumber + 1 } else row := by
  induction rows with
  | nil => rfl
  | cons row rest ih =>
    simp only [Table.updateMany, List.map_cons] at ih ⊢
    by_cases hrow : row.tenantId = t
    · by_cases ht : t' = t
      · simp [hrow, ht]
      · simp only [hrow, if_true]
        rw [List.find?_cons_of_neg (by simpa using Ne.symm ht),
          List.find?_cons_of_neg (by simpa [hrow] using Ne.symm ht)]
        exact ih
    · simp only [hrow, if_false]
      by_cases ht' : row.tenantId = t'
      · have hne : t' ≠ t := ht' ▸ hrow
        simp [ht', hne]
      · rw [List.find?_cons_of_neg (by simpa using ht'), List.find?_cons_of_neg (by simpa using ht')]
        exact ih

theorem lastNumber_next (t' : Uuid) : lastNumber t' (s.nextTicketNumber t).2 =
    if t' = t then lastNumber t s + 1 else lastNumber t' s := by
  simp only [Store.nextTicketNumber, lastNumber]
  cases hfind : s.sequences.find? fun sequence => sequence.tenantId = t with
  | some sequence =>
    simp only [find?_updateMany_sequences]
    by_cases ht : t' = t
    · subst ht
      simp [hfind]
    · simp only [ht, if_false, Option.map_id']
  | none =>
    by_cases ht : t' = t
    · subst ht
      simp [List.find?_append, hfind]
    · have hne : ¬ t = t' := fun h => ht h.symm
      simp [List.find?_append, ht, hne]

/-- The stores agree on what a create transaction of the tenant reads. -/
structure SameTickets (t : Uuid) (s s' : Store) : Prop where
  last : lastNumber t s' = lastNumber t s
  numbers : numbersOf t s' = numbersOf t s
  onDay : ∀ day, createdOn t day s' = createdOn t day s
  since : ∀ since, s'.countCreatedSince t since = s.countCreatedSince t since

theorem SameTickets.refl (t : Uuid) (s : Store) : SameTickets t s s :=
  ⟨rfl, rfl, fun _ => rfl, fun _ => rfl⟩

/-- All of it depends on the ticket keys and the sequence rows. -/
theorem SameTickets.of_keys (htickets : s'.tickets.map ticketKey = s.tickets.map ticketKey)
    (hsequences : s'.sequences = s.sequences) : SameTickets t s s' where
  last := by rw [lastNumber, lastNumber, hsequences]
  numbers := by
    have hnumbers : ∀ s : Store, numbersOf t s =
        ((s.tickets.map ticketKey).filter fun key => key.1 = t).map fun key => key.2.1 := by
      intro s
      rw [List.filter_map, List.map_map]
      rfl
    rw [hnumbers, hnumbers, htickets]
  onDay day := by
    have hcount : ∀ s : Store, createdOn t day s =
        (s.tickets.map ticketKey).countP fun key => key.1 = t ∧ startOfUtcDay key.2.2 = day := by
      intro s
      rw [List.countP_map]
      rfl
    rw [hcount, hcount, htickets]
  since since := by
    have hcount : ∀ s : Store, s.countCreatedSince t since =
        (s.tickets.map ticketKey).countP fun key => key.1 = t ∧ since ≤ key.2.2 := by
      intro s
      rw [List.countP_map]
      rfl
    rw [hcount, hcount, htickets]

/-- The writes of a create transaction: its ticket and its number. -/
structure InsertsTicket (writes : Store → Store) (t : Uuid) (row : Ticket) : Prop where
  tickets : ∀ s, (writes s).tickets = s.tickets ++ [row]
  sequences : ∀ s, (writes s).sequences = (s.nextTicketNumber t).2.sequences
  tenant : row.tenantId = t

variable {writes : Store → Store} {row : Ticket} {t' : Uuid}

theorem InsertsTicket.last (h : InsertsTicket writes t row) (t' : Uuid) :
    lastNumber t' (writes s) = if t' = t then lastNumber t s + 1 else lastNumber t' s := by
  rw [← lastNumber_next, lastNumber, lastNumber, h.sequences s]

theorem InsertsTicket.numbers (h : InsertsTicket writes t row) (t' : Uuid) :
    numbersOf t' (writes s) =
      if t' = t then numbersOf t s ++ [row.ticketNumber] else numbersOf t' s := by
  simp only [numbersOf, h.tickets s, List.filter_append, List.map_append]
  by_cases ht : t' = t
  · subst ht
    simp [h.tenant]
  · have hne : ¬ row.tenantId = t' := fun he => ht (he.symm.trans h.tenant)
    simp [ht, hne]

theorem InsertsTicket.onDay (h : InsertsTicket writes t row) (t' : Uuid) (day : Time) :
    createdOn t' day (writes s) = createdOn t' day s +
      if t = t' ∧ startOfUtcDay row.createdAt = day then 1 else 0 := by
  simp only [createdOn, h.tickets s, Table.count_append, Table.count_singleton, h.tenant]

theorem InsertsTicket.since (h : InsertsTicket writes t row) (t' : Uuid) (since : Time) :
    (writes s).countCreatedSince t' since = s.countCreatedSince t' since +
      if t = t' ∧ since ≤ row.createdAt then 1 else 0 := by
  simp only [Store.countCreatedSince, h.tickets s, Table.count_append, Table.count_singleton,
    h.tenant]

/-- A create transaction of one tenant leaves the tickets of the others alone. -/
theorem InsertsTicket.same (h : InsertsTicket writes t row) (hne : t' ≠ t) :
    SameTickets t' s (writes s) where
  last := by rw [h.last, if_neg hne]
  numbers := by rw [h.numbers, if_neg hne]
  onDay day := by rw [h.onDay, if_neg fun hand => hne hand.1.symm, Nat.add_zero]
  since since := by rw [h.since, if_neg fun hand => hne hand.1.symm, Nat.add_zero]

theorem startOfUtcDay_mono {a b : Time} (h : a ≤ b) : startOfUtcDay a ≤ startOfUtcDay b := by
  have hform : ∀ t : Time, startOfUtcDay t = msPerDay * (t / msPerDay) := by
    intro t
    exact Nat.sub_eq_of_eq_add (Nat.div_add_mod t msPerDay).symm
  rw [hform, hform]
  exact Nat.mul_le_mul_left _ (Nat.div_le_div_right h)

theorem startOfUtcDay_le (t : Time) : startOfUtcDay t ≤ t := Nat.sub_le _ _

/-- A day is part of the time since it began. -/
theorem createdOn_le (day : Time) : createdOn t day s ≤ s.countCreatedSince t day := by
  refine List.countP_mono_left fun ticket _ h => ?_
  have hboth : ticket.tenantId = t ∧ startOfUtcDay ticket.createdAt = day := by simpa using h
  have hle := startOfUtcDay_le ticket.createdAt
  simpa [hboth.1, ← hboth.2] using hle

end store
/-- What one statement of a call can do, seen from the tickets and the locks. -/
inductive CreateStepped (p : Nat) (site : Site) : CreateCall → Site → CreateCall → Prop
  | fail {state : CreateCall} :
      CreateStepped p site state { site with locks := site.locks.release state.locked } .idle
  | findCustomer {dto : CreateTicketDto} {customer : Customer} :
      CreateStepped p site .idle site (.foundCustomer dto customer)
  | findTenant {dto : CreateTicketDto} {customer : Customer} {tenant : Tenant}
      (htenant : site.store.findTenant dto.tenantId = some tenant) :
      CreateStepped p site (.foundCustomer dto customer) site (.foundTenant dto customer tenant)
  | findAgent {dto : CreateTicketDto} {customer : Customer} {tenant : Tenant} :
      CreateStepped p site (.foundTenant dto customer tenant) site
        (.foundAgent dto customer tenant)
  | openTransaction {dto : CreateTicketDto} {customer : Customer} {tenant : Tenant} :
      CreateStepped p site (.foundAgent dto customer tenant) site
        (.opened ⟨dto, customer, tenant, site.now⟩)
  | getNextTicketNumber {call : OpenCreate} (hfree : site.locks.free call.dto.tenantId) :
      CreateStepped p site (.opened call)
        { site with locks := site.locks.acquire call.dto.tenantId p }
        (.numbered call (lastNumber call.dto.tenantId site.store + 1)
          fun s => (s.nextTicketNumber call.dto.tenantId).2)
  | countCreatedSince {call : OpenCreate} {n : Nat} {writes : Store → Store} {today : Time}
      (hduring : site.during call today)
      (hlimit : canCreateTicket call.tenant ((writes site.store).countCreatedSince
        call.dto.tenantId (startOfUtcDay today)) = true) :
      CreateStepped p site (.numbered call n writes) site (.counted call n today writes)
  | save {call : OpenCreate} {n : Nat} {writes : Store → Store} {today : Time}
      {ticket : TicketEntity} {row : Ticket} (hduring : site.during call row.createdAt)
      (htenant : row.tenantId = call.dto.tenantId) (hnumber : row.ticketNumber = n) :
      CreateStepped p site (.counted call n today writes) site
        (.saved call ticket row 0 fun s => (writes s).insertTicket row)
  | later {call : OpenCreate} {ticket : TicketEntity} {row : Ticket} {done : Nat}
      {writes write : Store → Store} (htickets : ∀ s, (write s).tickets = s.tickets)
      (hsequences : ∀ s, (write s).sequences = s.sequences) :
      CreateStepped p site (.saved call ticket row done writes) site
        (.saved call ticket row (done + 1) fun s => write (writes s))
  | commit {call : OpenCreate} {ticket : TicketEntity} {row : Ticket} {done : Nat}
      {writes : Store → Store} :
      CreateStepped p site (.saved call ticket row done writes)
        { site with
          store := writes site.store
          locks := site.locks.release (some call.dto.tenantId) } .idle

theorem enqueueMany_tables (rows : List (OutboxEvent EventBody)) (s : Store) :
    (s.enqueueMany rows).tickets = s.tickets ∧ (s.enqueueMany rows).sequences = s.sequences := by
  obtain ⟨outbox, hrows⟩ := enqueueMany_outbox (s := s) rows
  rw [hrows]
  exact ⟨rfl, rfl⟩

/-- The statements after the insert write other tables. -/
theorem laterWrite_tables {call : OpenCreate} {ticket : TicketEntity} {row : Ticket} {site : Site}
    {done : Nat} {action : CreateAction} {write : Store → Store}
    (h : laterWrite call ticket row site done action = some write) :
    (∀ s, (write s).tickets = s.tickets) ∧ ∀ s, (write s).sequences = s.sequences := by
  unfold laterWrite at h
  split at h
  · split at h
    · cases h
      exact ⟨fun _ => rfl, fun _ => rfl⟩
    · cases h
  · cases h
    exact ⟨fun _ => rfl, fun _ => rfl⟩
  · cases h
    exact ⟨fun _ => rfl, fun _ => rfl⟩
  · cases h
    exact ⟨fun s => (enqueueMany_tables _ s).1, fun s => (enqueueMany_tables _ s).2⟩
  · cases h

theorem laterStep_cases {p : Nat} {site site' : Site} {state state' : CreateCall}
    {action : CreateAction} (h : laterStep site state action = some (site', state')) :
    CreateStepped p site state site' state' := by
  cases state with
  | saved call ticket row done writes =>
    obtain ⟨write, hwrite, heq⟩ := Option.map_eq_some_iff.mp h
    obtain ⟨htickets, hsequences⟩ := laterWrite_tables hwrite
    cases heq
    exact .later htickets hsequences
  | _ => cases h

theorem createStep_cases {p : Nat} {site site' : Site} {state state' : CreateCall}
    {action : CreateAction} (h : createStep p site state action = some (site', state')) :
    CreateStepped p site state site' state' := by
  cases action with
  | updateCustomer _ _ | createActivity _ | createAudit _ | publish _ _ => exact laterStep_cases h
  | fail =>
    cases h
    exact .fail
  | findCustomer dto =>
    simp only [createStep] at h
    split at h
    · split at h <;> cases h
      exact .findCustomer
    · cases h
  | findTenant =>
    cases state with
    | foundCustomer dto customer =>
      obtain ⟨tenant, htenant, heq⟩ := Option.map_eq_some_iff.mp h
      cases heq
      exact .findTenant htenant
    | _ => cases h
  | findAgent =>
    cases state with
    | foundTenant dto customer tenant =>
      simp only [createStep] at h
      split at h <;> cases h
      exact .findAgent
    | _ => cases h
  | openTransaction =>
    cases state with
    | foundAgent dto customer tenant =>
      cases h
      exact .openTransaction
    | _ => cases h
  | getNextTicketNumber =>
    cases state with
    | opened call =>
      simp only [createStep, nextTicketNumber_fst] at h
      split at h
      · rename_i hfree
        cases h
        exact .getNextTicketNumber hfree
      · cases h
    | _ => cases h
  | countCreatedSince today =>
    cases state with
    | numbered call n writes =>
      simp only [createStep] at h
      split at h
      · rename_i hboth
        cases h
        exact .countCreatedSince hboth.1 hboth.2
      · cases h
    | _ => cases h
  | save id createdAt header savedAt =>
    simp only [createStep] at h
    split at h
    · split at h
      · rename_i hboth
        cases h
        exact .save hboth.1 rfl rfl
      · cases h
    · cases h
  | commit =>
    simp only [createStep] at h
    split at h
    · cases h
      exact .commit
    · cases h

theorem canCreateTicket_lt {tenant : Tenant} {n : Nat} (h : canCreateTicket tenant n = true) :
    n < tenant.maxTicketsPerDay := by
  simp only [canCreateTicket, Bool.and_eq_true, decide_eq_true_eq] at h
  exact h.2

section outline
variable (t : Uuid) (limit : Nat)

/-- The tenant's numbers are 1, 2, .. in commit order, and no day is over the limit. -/
structure Numbered (site : Site) : Prop where
  numbers : numbersOf t site.store = List.range' 1 (lastNumber t site.store)
  onDay : ∀ day, createdOn t day site.store ≤ limit

/-- A copy of the tenant that shows the limit. -/
def Limited (dto : CreateTicketDto) (tenant : Tenant) : Prop :=
  dto.tenantId = t → tenant.maxTicketsPerDay = limit

/-- Less than the limit has been created since the day of `time` began. -/
def Room (dto : CreateTicketDto) (time : Time) (site : Site) : Prop :=
  dto.tenantId = t → site.store.countCreatedSince t (startOfUtcDay time) < limit

/-- What call `p` knows of the site: the lock it holds keeps it true. -/
def Knows (p : Nat) : CreateCall → Site → Prop
  | .idle, _ | .foundCustomer .., _ => True
  | .foundTenant dto _ tenant, _ | .foundAgent dto _ tenant, _ => Limited t limit dto tenant
  | .opened call, _ => Limited t limit call.dto call.tenant
  | .numbered call n writes, site => Limited t limit call.dto call.tenant ∧
    site.locks.heldBy call.dto.tenantId p ∧ n = lastNumber call.dto.tenantId site.store + 1 ∧
    writes = fun s => (s.nextTicketNumber call.dto.tenantId).2
  | .counted call n today writes, site => site.locks.heldBy call.dto.tenantId p ∧
    n = lastNumber call.dto.tenantId site.store + 1 ∧
    (writes = fun s => (s.nextTicketNumber call.dto.tenantId).2) ∧
    startOfUtcDay today = startOfUtcDay call.openedAt ∧ Room t limit call.dto today site
  | .saved call _ row _ writes, site => site.locks.heldBy call.dto.tenantId p ∧
    row.ticketNumber = lastNumber call.dto.tenantId site.store + 1 ∧
    InsertsTicket writes call.dto.tenantId row ∧ Room t limit call.dto row.createdAt site

/-- The limit of the tenant is what it was, and the day has not changed since the
transaction of the acting call began. -/
def Assumed (c : Pool Site CreateCall) (move : Move CreateAction SiteEvent) : Prop :=
  (∀ tenant, c.shared.store.findTenant t = some tenant → tenant.maxTicketsPerDay = limit) ∧
    match move with
    | .act p _ => ∀ call, (c.locals p).transaction = some call →
      startOfUtcDay c.shared.now = startOfUtcDay call.openedAt
    | .env _ => True

instance (c : Pool Site CreateCall) (move : Move CreateAction SiteEvent) :
    Decidable (Assumed t limit c move) :=
  match move with
  | .act p _ => inferInstanceAs (Decidable ((∀ tenant ∈ c.shared.store.findTenant t, _) ∧
    ∀ call ∈ (c.locals p).transaction, _))
  | .env _ => inferInstanceAs (Decidable ((∀ tenant ∈ c.shared.store.findTenant t, _) ∧ True))

def numberingOutline : Program.Outline Site CreateCall where
  inv := Numbered t limit
  own := Knows t limit
  pair _ _ := True

variable {t limit}

theorem Numbered.same {site site' : Site} (h : Numbered t limit site)
    (hsame : SameTickets t site.store site'.store) : Numbered t limit site' where
  numbers := by rw [hsame.numbers, hsame.last, h.numbers]
  onDay day := hsame.onDay day ▸ h.onDay day

theorem Room.same {dto : CreateTicketDto} {time : Time} {site site' : Site}
    (h : Room t limit dto time site) (hsame : SameTickets dto.tenantId site.store site'.store) :
    Room t limit dto time site' := by
  intro ht
  have hroom := h ht
  rw [ht] at hsame
  rwa [hsame.since]

/-- A call keeps what it knows while its lock and its tenant's tickets are left alone. -/
theorem Knows.same {p : Nat} {state : CreateCall} {site site' : Site}
    (h : Knows t limit p state site)
    (hkeeps : ∀ k, state.locked = some k →
      site'.locks.heldBy k p ∧ SameTickets k site.store site'.store) :
    Knows t limit p state site' := by
  cases state with
  | idle | foundCustomer | foundTenant | foundAgent | opened => exact h
  | numbered call n writes =>
    obtain ⟨hlock, hsame⟩ := hkeeps _ rfl
    obtain ⟨hlimited, -, hn, hwrites⟩ := h
    exact ⟨hlimited, hlock, by rw [hsame.last, hn], hwrites⟩
  | counted call n today writes =>
    obtain ⟨hlock, hsame⟩ := hkeeps _ rfl
    obtain ⟨-, hn, hwrites, hday, hroom⟩ := h
    exact ⟨hlock, by rw [hsame.last, hn], hwrites, hday, hroom.same hsame⟩
  | saved call ticket row done writes =>
    obtain ⟨hlock, hsame⟩ := hkeeps _ rfl
    obtain ⟨-, hn, hinserts, hroom⟩ := h
    exact ⟨hlock, by rw [hsame.last, hn], hinserts, hroom.same hsame⟩

theorem Knows.lock {p : Nat} {state : CreateCall} {site : Site} (h : Knows t limit p state site)
    {k : Uuid} (hk : state.locked = some k) : site.locks.heldBy k p := by
  cases state with
  | idle | foundCustomer | foundTenant | foundAgent | opened => cases hk
  | numbered => cases hk; exact h.2.1
  | counted => cases hk; exact h.1
  | saved => cases hk; exact h.1

theorem Site.during.day {site : Site} {call : OpenCreate} {time : Time}
    (h : site.during call time) (hday : startOfUtcDay site.now = startOfUtcDay call.openedAt) :
    startOfUtcDay time = startOfUtcDay call.openedAt := by
  have hlow := startOfUtcDay_mono h.1
  have hhigh := startOfUtcDay_mono h.2
  exact Nat.le_antisymm (hhigh.trans hday.le) hlow

/-- The commit of the next ticket, while the tenant's row is locked. -/
theorem Numbered.commit {site : Site} {writes : Store → Store} {row : Ticket} {k : Uuid}
    {locks : Locks Uuid} (h : Numbered t limit site) (hinserts : InsertsTicket writes k row)
    (hnumber : row.ticketNumber = lastNumber k site.store + 1)
    (hroom : k = t → site.store.countCreatedSince t (startOfUtcDay row.createdAt) < limit) :
    Numbered t limit { site with store := writes site.store, locks := locks } := by
  by_cases hk : t = k
  · subst hk
    refine ⟨?_, fun day => ?_⟩
    · change numbersOf t (writes site.store) = List.range' 1 (lastNumber t (writes site.store))
      rw [hinserts.numbers, hinserts.last, if_pos rfl, if_pos rfl, h.numbers, hnumber,
        List.range'_1_concat, Nat.add_comm 1]
    · change createdOn t day (writes site.store) ≤ limit
      rw [hinserts.onDay]
      by_cases hday : startOfUtcDay row.createdAt = day
      · subst hday
        have hle := createdOn_le (s := site.store) (t := t) (startOfUtcDay row.createdAt)
        have hlt := hroom rfl
        simp only [true_and, if_true]
        omega
      · simp only [hday, and_false, if_false]
        exact h.onDay day
  · exact h.same (hinserts.same hk)

/-- What a statement of one call leaves to the others: their locks, and the tickets of
the tenants whose rows they have locked. -/
theorem CreateStepped.frame {p q : Nat} {site site' : Site} {state state' : CreateCall}
    (h : CreateStepped p site state site' state') (hown : Knows t limit p state site)
    (hqp : q ≠ p) {k : Uuid} (hk : site.locks.heldBy k q) :
    site'.locks.heldBy k q ∧ SameTickets k site.store site'.store := by
  cases h with
  | fail =>
    exact ⟨hk.release hqp fun k' hk' => hown.lock hk', .refl k _⟩
  | findCustomer | findTenant | findAgent | openTransaction | countCreatedSince | save | later =>
    exact ⟨hk, .refl k _⟩
  | getNextTicketNumber hfree => exact ⟨hk.acquire hfree, .refl k _⟩
  | commit =>
    obtain ⟨hlock, -, hinserts, -⟩ := hown
    have hreleased := hk.release hqp fun k' (hk' : some _ = some k') =>
      Option.some.inj hk' ▸ hlock
    exact ⟨hreleased, hinserts.same (hk.ne hlock hqp)⟩

/-- A statement keeps the invariant and what its call knows. -/
theorem CreateStepped.own {p : Nat} {site site' : Site} {state state' : CreateCall}
    (h : CreateStepped p site state site' state') (hinv : Numbered t limit site)
    (hown : Knows t limit p state site)
    (hlimit : ∀ tenant, site.store.findTenant t = some tenant → tenant.maxTicketsPerDay = limit)
    (hday : ∀ call, state.transaction = some call →
      startOfUtcDay site.now = startOfUtcDay call.openedAt) :
    Numbered t limit site' ∧ Knows t limit p state' site' := by
  cases h with
  | fail | findCustomer => exact ⟨⟨hinv.numbers, hinv.onDay⟩, trivial⟩
  | findTenant htenant =>
    refine ⟨hinv, fun ht => ?_⟩
    exact hlimit _ (ht ▸ htenant)
  | findAgent | openTransaction => exact ⟨hinv, hown⟩
  | getNextTicketNumber hfree =>
    exact ⟨⟨hinv.numbers, hinv.onDay⟩, hown, Locks.heldBy_acquire _ _ _, rfl, rfl⟩
  | @countCreatedSince call n writes today hduring hallowed =>
    obtain ⟨hlimited, hlock, hn, rfl⟩ := hown
    refine ⟨hinv, hlock, hn, rfl, hduring.day (hday _ rfl), fun ht => ?_⟩
    have hlt := canCreateTicket_lt hallowed
    simp only [Store.countCreatedSince, nextTicketNumber_tickets, hlimited ht, ht] at hlt
    exact hlt
  | @save call n writes today ticket row hduring htenant hnumber =>
    obtain ⟨hlock, hn, rfl, htoday, hroom⟩ := hown
    refine ⟨hinv, hlock, hnumber.trans hn, ⟨fun s => ?_, fun s => rfl, htenant⟩, fun ht => ?_⟩
    · simp only [Store.insertTicket, nextTicketNumber_tickets]
    · rw [hduring.day (hday _ rfl), ← htoday]
      exact hroom ht
  | later htickets hsequences =>
    obtain ⟨hlock, hn, hinserts, hroom⟩ := hown
    refine ⟨hinv, hlock, hn, ⟨fun s => ?_, fun s => ?_, hinserts.tenant⟩, hroom⟩
    · rw [htickets, hinserts.tickets]
    · rw [hsequences, hinserts.sequences]
  | commit =>
    obtain ⟨-, hn, hinserts, hroom⟩ := hown
    refine ⟨hinv.commit hinserts hn fun ht => ?_, trivial⟩
    exact hroom ht

theorem numberingOutline_valid :
    (numberingOutline t limit).Valid createProgram (Assumed t limit) where
  symm _ _ _ := trivial
  act c p a site state h hc ha :=
    (createStep_cases ha).own h.inv (h.own p) hc.1 hc.2
  others c p a site state h hc ha q hqp := by
    refine ⟨(h.own q).same fun k hk => ?_, trivial⟩
    exact (createStep_cases ha).frame (h.own p) hqp ((h.own q).lock hk)
  env c e site h hc he := by
    cases e with
    | tick ms =>
      cases he
      exact ⟨⟨h.inv.numbers, h.inv.onDay⟩,
        fun q => (h.own q).same fun k hk => ⟨(h.own q).lock hk, .refl k _⟩⟩
    | write store =>
      simp only [createProgram, siteStep] at he
      split at he
      · rename_i hkeys
        cases he
        refine ⟨h.inv.same (.of_keys hkeys.1 hkeys.2), fun q => ?_⟩
        exact (h.own q).same fun k hk => ⟨(h.own q).lock hk, .of_keys hkeys.1 hkeys.2⟩
      · cases he

/-- Every call idle, nothing locked. -/
def createStart (store : Store) (now : Time) : Pool Site CreateCall :=
  ⟨⟨store, .empty, now⟩, fun _ => .idle⟩

theorem createStart_holds {store : Store} (now : Time)
    (htickets : ∀ ticket ∈ store.tickets, ticket.tenantId ≠ t)
    (hsequences : ∀ sequence ∈ store.sequences, sequence.tenantId ≠ t) :
    (numberingOutline t limit).Holds (createStart store now) where
  inv := by
    have hnone : store.sequences.find? (fun sequence => sequence.tenantId = t) = none := by
      simpa [List.find?_eq_none] using hsequences
    have hnumbers : numbersOf t store = [] := by
      simpa [numbersOf, List.filter_eq_nil_iff] using htickets
    refine ⟨?_, fun day => ?_⟩
    · change numbersOf t store = List.range' 1 (lastNumber t store)
      simp [hnumbers, lastNumber, hnone]
    · have hzero : createdOn t day store = 0 :=
        Table.count_eq_zero.mpr fun ticket hm hand => htickets ticket hm hand.1
      change createdOn t day store ≤ limit
      omega
  own _ := trivial
  pair _ _ _ := trivial

end outline

/-- The committed tickets of a tenant carry the numbers 1 to n in commit order, a call
that fails takes no number, and no UTC day has more tickets than the limit. -/
theorem ticket_numbers_and_limit (t : Uuid) (limit : Nat) (store : Store) (now : Time)
    (moves : List (Move CreateAction SiteEvent)) (c : Pool Site CreateCall)
    (htickets : ∀ ticket ∈ store.tickets, ticket.tenantId ≠ t)
    (hsequences : ∀ sequence ∈ store.sequences, sequence.tenantId ≠ t)
    (hassumed : createProgram.machine.Within (Assumed t limit) (createStart store now) moves)
    (hrun : createProgram.machine.run (createStart store now) moves = some c) :
    numbersOf t c.shared.store = List.range' 1 (numbersOf t c.shared.store).length ∧
      (c.shared.store.nextTicketNumber t).1 = (numbersOf t c.shared.store).length + 1 ∧
      (∀ p c', createProgram.machine.step c (.act p .fail) = some c' →
        c'.shared.store = c.shared.store) ∧
      ∀ day, createdOn t day c.shared.store ≤ limit := by
  have hholds := numberingOutline_valid.run_within (createStart_holds now htickets hsequences)
    hassumed hrun
  have hnumbers := hholds.inv.numbers
  have hlength : (numbersOf t c.shared.store).length = lastNumber t c.shared.store := by
    rw [hnumbers, List.length_range']
  refine ⟨?_, ?_, fun p c' hstep => ?_, hholds.inv.onDay⟩
  · rw [hlength]
    exact hnumbers
  · rw [nextTicketNumber_fst, hlength]
  · obtain ⟨site, state, hact, rfl⟩ := createProgram.step_act.mp hstep
    cases hact
    rfl

section demo

def demoCreate : CreateTicketDto where
  tenantId := 2
  customerId := 4
  createdById := 1
  createdByRole := .customer
  title := "Help"
  description := "It broke."
  priority := none
  category := none
  tags := none
  source := none
  dueAt := none
  assignedAgentId := none

def limitedStore : Store where
  tickets := []
  comments := []
  customers := [{ (default : Customer) with id := 4, tenantId := 2 }]
  tenants := [{ (default : Tenant) with id := 2, maxTicketsPerDay := 1 }]
  users := []
  refreshTokens := []
  sequences := []
  activities := []
  audits := []
  outbox := []

def demoHeader : EventHeader := ⟨⟨"0", by decide⟩, 0⟩

def upToSave (p : Nat) (id : Uuid) : List (Move CreateAction SiteEvent) :=
  [.act p .openTransaction, .act p .getNextTicketNumber, .act p (.countCreatedSince 0),
    .act p (.save id 0 demoHeader 0)]

/-- Two calls; one is rolled back after its insert, the other one takes its number. -/
def demoCreates : List (Move CreateAction SiteEvent) :=
  [.act 0 (.findCustomer demoCreate), .act 1 (.findCustomer demoCreate), .act 0 .findTenant,
    .act 1 .findTenant, .act 0 .findAgent, .act 1 .findAgent] ++
  upToSave 0 7 ++ [.act 0 .fail] ++ upToSave 1 8 ++
  [.act 1 (.updateCustomer 0 0), .act 1 (.createActivity 0), .act 1 (.createAudit 0),
    .act 1 (.publish 9 0), .act 1 .commit]

end demo

theorem ticket_numbers_and_limit_rollback :
    ∃ c, createProgram.machine.run (createStart limitedStore 0) demoCreates = some c ∧
      numbersOf 2 c.shared.store = List.range' 1 (numbersOf 2 c.shared.store).length ∧
      ∀ day, createdOn 2 day c.shared.store ≤ 1 := by
  have hsome : (createProgram.machine.run (createStart limitedStore 0) demoCreates).isSome := by
    decide
  obtain ⟨c, hc⟩ := Option.isSome_iff_exists.mp hsome
  have hassumed : createProgram.machine.Within (Assumed 2 1) (createStart limitedStore 0)
      demoCreates := by decide
  obtain ⟨hnumbers, -, -, hdays⟩ := ticket_numbers_and_limit 2 1 limitedStore 0 demoCreates c
    (by decide) (by decide) hassumed hc
  exact ⟨c, hc, hnumbers, hdays⟩

end OmniSupport.Ticketing
