import OmniSupport.Foundation.PagePartition
import OmniSupport.Ticket.TicketAccess

/-! The pages of the ticket list, one query each: tickets with equal sort keys may stand in
another order in every query, so that a page can repeat tickets and another leave them out. -/
namespace OmniSupport.Ticketing
open Foundation Effect Database Paging

section order

theorem sorts_dueLe : Sorts fun t t' : Ticket => TicketRepository.dueLe t.dueAt t'.dueAt where
  trans t t' t'' := by
    cases t.dueAt <;> cases t'.dueAt <;> cases t''.dueAt <;>
      simp only [TicketRepository.dueLe, decide_eq_true_eq, Bool.false_eq_true, imp_self,
        false_implies, implies_true]
    exact le_trans
  total t t' := by
    cases t.dueAt <;> cases t'.dueAt <;>
      simp [TicketRepository.dueLe, le_total]

theorem sorts_validSortFields :
    ∀ field ∈ TicketRepository.validSortFields, Sorts field.2 := by
  intro field hfield
  simp only [TicketRepository.validSortFields, List.mem_cons, List.not_mem_nil, or_false] at hfield
  rcases hfield with rfl | rfl | rfl | rfl | rfl | rfl
  · exact .of_key Ticket.createdAt
  · exact .of_key Ticket.updatedAt
  · exact .of_key fun t : Ticket => TicketPriority.values.idxOf t.priority
  · exact .of_key fun t : Ticket => TicketStatus.values.idxOf t.status
  · exact .of_key Ticket.ticketNumber
  · exact sorts_dueLe

theorem sorts_apply {le : Ticket → Ticket → Bool} (h : Sorts le) (order : SortOrder) :
    Sorts (order.apply le) := by
  cases order with
  | asc => exact h
  | desc => exact h.flip

/-- Every order of the list compares the tickets by a sort key. -/
theorem sorts_buildOrderBy (sortBy : Option String) (sortOrder : SortOrder) :
    Sorts (TicketRepository.buildOrderBy sortBy sortOrder) := by
  unfold TicketRepository.buildOrderBy
  split
  next field hfield =>
    have hsorts := sorts_validSortFields field (List.mem_of_find?_eq_some hfield)
    exact sorts_apply hsorts sortOrder
  next => exact sorts_apply (.of_key Ticket.createdAt) _

end order

section pages
variable {filters : TicketFilters} {limit : Nat} {sortBy : Option String} {sortOrder : SortOrder}
  {text : TextSearch} {s : Store} {env : ServiceEnv}

/-- The tickets that the `where` of the list selects. -/
def matching (filters : TicketFilters) (text : TextSearch) (s : Store) : List Ticket :=
  s.tickets.filter (TicketRepository.buildWhereClause filters text)

/-- Pages `1..totalPages` hold every matching ticket exactly once, in whatever order each query
finds tickets with equal sort keys. -/
def PagesPartition (filters : TicketFilters) (limit : Nat) (sortBy : Option String)
    (sortOrder : SortOrder) (text : TextSearch) (s : Store) : Prop :=
  ∀ envs : Nat → ServiceEnv, (∀ k, (envs k).text = text) →
    ∃ pages : Nat → PaginatedResult Ticket,
      (∀ k, ((TicketRepository.findAll filters ⟨k + 1, limit, sortBy, sortOrder⟩).run (envs k)
        (fun _ => .none) (World.start s)).1 = .ok (pages k)) ∧
      ((List.range (pages 0).totalPages).flatMap fun k => (pages k).data).Perm
        (matching filters text s)

theorem findAll_page (h : TicketRepository.enumsKnown filters = true) (page : Nat) :
    ((TicketRepository.findAll filters ⟨page, limit, sortBy, sortOrder⟩).run env (fun _ => .none)
        (World.start s)).1 =
      .ok (pageOf ⟨page, limit, sortBy, sortOrder⟩
        (TicketRepository.buildOrderBy sortBy sortOrder) (env.ties 0)
        (matching filters env.text s)) := by
  have hpage : Answers env 0 1 s
      (TicketRepository.findAll filters ⟨page, limit, sortBy, sortOrder⟩) _ := answers_findPage
  rw [hpage.start, TicketRepository.select, if_pos h]
  rfl

theorem matching_nodup (hids : (s.tickets.map Ticket.id).Nodup) :
    (matching filters text s).Nodup :=
  hids.of_map.sublist List.filter_sublist

/-- The pages of the list are those of the ordered rows. -/
theorem pagesPartition_iff_pages (h : TicketRepository.enumsKnown filters = true) :
    PagesPartition filters limit sortBy sortOrder text s ↔
      ∀ ties : Nat → Nat → Nat,
        ((List.range (toTotalPages (matching filters text s).length limit)).flatMap fun k =>
          page (k * limit) limit (orderRows (TicketRepository.buildOrderBy sortBy sortOrder)
            (ties k) (matching filters text s))).Perm (matching filters text s) := by
  constructor
  · intro hpartition ties
    let envs : Nat → ServiceEnv := fun k => { sampleEnv with text := text, ties := fun _ => ties k }
    obtain ⟨pages, hpages, hperm⟩ := hpartition envs fun _ => rfl
    have hshown : ∀ k, pages k = _ := fun k =>
      Outcome.ok.inj ((hpages k).symm.trans (findAll_page h (k + 1)))
    simp only [hshown, pageOf, toSkip_succ] at hperm
    exact hperm
  · intro hperm envs htext
    refine ⟨_, fun k => findAll_page h (k + 1), ?_⟩
    simp only [htext, pageOf, toSkip_succ]
    exact hperm fun k => (envs k).ties 0

/-- Tickets with numbers of their own are paged without gaps and repetitions by their numbers. -/
theorem partition_by_number (h : TicketRepository.enumsKnown filters = true) (hpos : 0 < limit)
    (hids : (s.tickets.map Ticket.id).Nodup)
    (hnumbers : ∀ t ∈ matching filters text s, ∀ t' ∈ matching filters text s,
      t.ticketNumber = t'.ticketNumber → t = t') :
    PagesPartition filters limit (some "ticketNumber") sortOrder text s := by
  rw [pagesPartition_iff_pages h, pages_partition_iff (sorts_buildOrderBy _ _) hpos
    (matching_nodup hids) (le_toTotalPages hpos _)]
  intro ticket hticket
  refine onOnePage_of_distinct (sorts_buildOrderBy _ _) (matching_nodup hids) hticket ?_
  intro other hother hle hge
  have hfield : TicketRepository.buildOrderBy (some "ticketNumber") sortOrder =
      sortOrder.apply fun t t' : Ticket => decide (t.ticketNumber ≤ t'.ticketNumber) := rfl
  rw [hfield] at hle hge
  refine hnumbers other hother ticket hticket ?_
  cases sortOrder with
  | asc => exact le_antisymm (of_decide_eq_true hge) (of_decide_eq_true hle)
  | desc => exact le_antisymm (of_decide_eq_true hle) (of_decide_eq_true hge)

end pages

/-- For every table, filter, page size and order of the list: its pages hold every matching ticket
exactly once, whatever the order of equal keys, exactly when no matching tickets with equal sort
keys stand on both sides of the end of a page. -/
theorem pages_partition_tickets_iff (filters : TicketFilters)
    (h : TicketRepository.enumsKnown filters = true) (limit : Nat) (hpos : 0 < limit)
    (sortBy : Option String) (sortOrder : SortOrder) (text : TextSearch) (s : Store)
    (hids : (s.tickets.map Ticket.id).Nodup) :
    PagesPartition filters limit sortBy sortOrder text s ↔
      ∀ ticket ∈ matching filters text s,
        OnOnePage (TicketRepository.buildOrderBy sortBy sortOrder) limit
          (matching filters text s) ticket := by
  rw [pagesPartition_iff_pages h]
  exact pages_partition_iff (sorts_buildOrderBy sortBy sortOrder) hpos (matching_nodup hids)
    (le_toTotalPages hpos _)

section demo

def pagedTicket (id : Uuid) (status : TicketStatus) : Ticket :=
  { (default : Ticket) with
    id := id
    tenantId := 2
    status := status }

/-- Three tickets, two of which are open. -/
def pagedStore : Store where
  tickets := [pagedTicket 1 .open, pagedTicket 3 .open, pagedTicket 5 .closed]
  comments := []
  customers := []
  tenants := []
  users := []
  refreshTokens := []
  sequences := []
  activities := []
  audits := []
  outbox := []

end demo

/-- In pages of two the open tickets stand on the first one. -/
theorem pages_partition_tickets_iff_two :
    PagesPartition { tenantId := 2 } 2 (some "status") .asc {} pagedStore :=
  (pages_partition_tickets_iff { tenantId := 2 } (by decide) 2 (by decide) (some "status") .asc {}
    pagedStore (by decide)).mpr (by decide +kernel)

/-- In pages of one the second query may find the open tickets in the other order, so that the
first two pages show the same one. -/
theorem page_repeats_ticket :
    ¬ PagesPartition { tenantId := 2 } 1 (some "status") .asc {} pagedStore := by
  have hsorts := sorts_buildOrderBy (some "status") .asc
  have hnodup : (matching { tenantId := 2 } {} pagedStore).Nodup := matching_nodup (by decide)
  rw [pagesPartition_iff_pages (by decide),
    pages_partition_iff hsorts (by decide) hnodup (le_toTotalPages (by decide) _)]
  decide +kernel

end OmniSupport.Ticketing
