import OmniSupport.Identity.RoleStore
import OmniSupport.Report.ReportService
import OmniSupport.Search.SearchService
import OmniSupport.Ticket.TicketController

/-! Every read path shows the tickets that the policy lets the actor see: the guard, the
listing and its scope, the export and the search. -/
namespace OmniSupport.Ticketing
open Foundation Effect Database

variable {env : ServiceEnv} {s : Store} {actor : TicketActor} {ticket : Ticket}

/-- `assertCanAccess` succeeds for the ticket when no call fails. -/
def Accessible (env : ServiceEnv) (actor : TicketActor) (s : Store) (ticket : Ticket) : Prop :=
  ∃ ticketId, ((TicketAccessService.assertCanAccess actor ticketId).run env (fun _ => .none)
    (World.start s)).1 = .ok ticket

/-- The filters of a listing that is given only the tenant and the scope of the actor. -/
def scopeFilters (actor : TicketActor) (scope : TicketListScope) : TicketFilters :=
  { tenantId := actor.tenantId
    assignedAgentId := scope.assignedAgentId
    customerId := scope.customerId }

/-- The ticket stands on a page of that listing when no call fails. -/
def Listed (env : ServiceEnv) (actor : TicketActor) (s : Store) (limit : Nat)
    (sortBy : Option String) (sortOrder : SortOrder) (ticket : Ticket) : Prop :=
  ∃ scope, ((TicketAccessService.listScope actor).run env (fun _ => .none) (World.start s)).1 =
      .ok scope ∧ scope.none = false ∧
    ∃ page result, ((TicketService.listTickets (scopeFilters actor scope)
        ⟨page, limit, sortBy, sortOrder⟩).run env (fun _ => .none) (World.start s)).1 =
      .ok result ∧ ticket ∈ result.data

theorem findTicket_of_mem {tenantId : Uuid} (hkeys : (s.tickets.map Ticket.id).Nodup)
    (h : ticket ∈ s.tickets) (htenant : ticket.tenantId = tenantId) :
    s.findTicket ticket.id tenantId = some ticket := by
  have hsome : (s.findTicket ticket.id tenantId).isSome = true := by
    rw [Store.findTicket, List.find?_isSome]
    exact ⟨ticket, h, by simp [htenant]⟩
  obtain ⟨found, hfound⟩ := Option.isSome_iff_exists.mp hsome
  have hmem := List.mem_of_find?_eq_some hfound
  have hcond := List.find?_some hfound
  rw [decide_eq_true_eq] at hcond
  rw [hfound, List.inj_on_of_nodup_map hkeys hmem h hcond.1]

theorem findTicket_some {id tenantId : Uuid} (h : s.findTicket id tenantId = some ticket) :
    ticket ∈ s.tickets ∧ ticket.id = id ∧ ticket.tenantId = tenantId := by
  have hcond := List.find?_some h
  rw [decide_eq_true_eq] at hcond
  exact ⟨List.mem_of_find?_eq_some h, hcond⟩

/-- What the guard lets pass. -/
theorem guard_ok {ticketId : Uuid} :
    (do
      let ticket ← orThrow (.notFound "Ticket" ticketId) (s.findTicket ticketId actor.tenantId)
      require (TicketAccessPolicy.canView (viewerOf actor s) ticket)
        (.forbidden "You do not have access to this ticket")
      return ticket) = (.ok ticket : Except AppError Ticket) ↔
    s.findTicket ticketId actor.tenantId = some ticket ∧
      TicketAccessPolicy.canView (viewerOf actor s) ticket = true := by
  constructor
  · intro h
    obtain ⟨found, hfound, hrest⟩ := bind_eq_ok.mp h
    obtain ⟨_, hview, hret⟩ := bind_eq_ok.mp hrest
    cases hret
    exact ⟨orThrow_ok hfound, require_ok hview⟩
  · rintro ⟨hfound, hview⟩
    rw [hfound]
    change (require (TicketAccessPolicy.canView (viewerOf actor s) ticket)
      (.forbidden "You do not have access to this ticket") >>= fun _ => .ok ticket) = _
    rw [hview]
    rfl

theorem accessible_iff (hkeys : (s.tickets.map Ticket.id).Nodup) :
    Accessible env actor s ticket ↔ Visible actor s ticket := by
  have hanswer : ∀ ticketId, ((TicketAccessService.assertCanAccess actor ticketId).run env
      (fun _ => .none) (World.start s)).1 = .ok ticket ↔
      s.findTicket ticketId actor.tenantId = some ticket ∧
        TicketAccessPolicy.canView (viewerOf actor s) ticket = true := by
    intro ticketId
    rw [answers_assertCanAccess.start, Outcome.of_eq_ok]
    exact guard_ok
  constructor
  · rintro ⟨ticketId, hrun⟩
    obtain ⟨hfound, hview⟩ := (hanswer ticketId).mp hrun
    obtain ⟨hmem, -, htenant⟩ := findTicket_some hfound
    exact ⟨hmem, htenant, hview⟩
  · rintro ⟨hmem, htenant, hview⟩
    exact ⟨ticket.id, (hanswer ticket.id).mpr ⟨findTicket_of_mem hkeys hmem htenant, hview⟩⟩

/-- The scope selects what the policy lets the actor see. -/
theorem scope_iff :
    TicketAccessPolicy.canView (viewerOf actor s) ticket = true ↔
      (scopeIn actor s).none = false ∧
        (∀ agentId, (scopeIn actor s).assignedAgentId = some agentId →
          ticket.assignedAgentId = some agentId) ∧
        ∀ customerId, (scopeIn actor s).customerId = some customerId →
          ticket.customerId = customerId := by
  have hrole : (viewerOf actor s).role = actor.role := rfl
  unfold TicketAccessPolicy.canView scopeIn
  rw [hrole]
  cases hactor : actor.role with
  | platformAdmin => simp
  | tenantManager => simp
  | agent =>
    simp only [viewerOf, true_and, Option.some.injEq, forall_eq', reduceCtorEq, false_implies,
      implies_true, and_true]
    exact decide_eq_true_iff
  | customer =>
    unfold TicketAccessService.scopeOf
    cases (viewerOf actor s).customerId with
    | none => simp
    | some customerId => simp

theorem mem_select {filters : TicketFilters} {text : TextSearch} {rows : List Ticket}
    (h : TicketRepository.select filters text s = .ok rows) (hm : ticket ∈ rows) :
    ticket ∈ s.tickets ∧ ticket.tenantId = filters.tenantId ∧
      (∀ agentId, filters.assignedAgentId = some agentId →
        ticket.assignedAgentId = some agentId) ∧
      ∀ customerId, filters.customerId = some customerId → ticket.customerId = customerId := by
  unfold TicketRepository.select at h
  split at h
  · cases h
    obtain ⟨hmem, hwhere⟩ := List.mem_filter.mp hm
    simp only [TicketRepository.buildWhereClause, Bool.and_eq_true, decide_eq_true_eq] at hwhere
    have hagent := hwhere.1.1.1.1.1.1.2
    have hcustomer := hwhere.1.1.1.1.1.2
    have htenant := hwhere.1.1.1.1.1.1.1.1.1.1
    refine ⟨hmem, htenant, fun agentId he => ?_, fun customerId he => ?_⟩
    · rw [he] at hagent
      simpa using hagent
    · rw [he] at hcustomer
      simpa using hcustomer
  · cases h

/-- Without other filters the listing selects the rows in scope. -/
theorem select_scope {scope : TicketListScope} {text : TextSearch} :
    ∃ rows, TicketRepository.select (scopeFilters actor scope) text s = .ok rows ∧
      ∀ ticket, ticket ∈ rows ↔ ticket ∈ s.tickets ∧ ticket.tenantId = actor.tenantId ∧
        (∀ agentId, scope.assignedAgentId = some agentId →
          ticket.assignedAgentId = some agentId) ∧
        ∀ customerId, scope.customerId = some customerId → ticket.customerId = customerId := by
  refine ⟨s.tickets.filter (TicketRepository.buildWhereClause (scopeFilters actor scope) text),
    rfl, fun ticket => ?_⟩
  rw [List.mem_filter]
  refine and_congr_right fun _ => ?_
  cases hagent : scope.assignedAgentId <;> cases hcustomer : scope.customerId <;>
    simp [TicketRepository.buildWhereClause, scopeFilters, enumMatches, withinDates, hagent,
      hcustomer, and_assoc]

theorem listed_iff {limit : Nat} (hpos : 0 < limit) {sortBy : Option String}
    {sortOrder : SortOrder} :
    Listed env actor s limit sortBy sortOrder ticket ↔ Visible actor s ticket := by
  have hscope : ((TicketAccessService.listScope actor).run env (fun _ => .none)
      (World.start s)).1 = .ok (scopeIn actor s) := answers_listScope.start
  obtain ⟨rows, hrows, hmem⟩ : ∃ rows, TicketRepository.select
      (scopeFilters actor (scopeIn actor s)) env.text s = .ok rows ∧ _ := select_scope
  have hlist : ∀ page, ((TicketService.listTickets (scopeFilters actor (scopeIn actor s))
      ⟨page, limit, sortBy, sortOrder⟩).run env (fun _ => .none) (World.start s)).1 =
      .ok (pageOf ⟨page, limit, sortBy, sortOrder⟩
        (TicketRepository.buildOrderBy sortBy sortOrder) (env.ties 0) rows) := by
    intro page
    rw [answers_listTickets.start, hrows]
    rfl
  have hvisible : Visible actor s ticket ↔ (scopeIn actor s).none = false ∧ ticket ∈ rows := by
    rw [Visible, scope_iff, hmem]
    tauto
  rw [hvisible]
  constructor
  · rintro ⟨scope, hrun, hsome, page, result, hresult, hdata⟩
    rw [hscope] at hrun
    cases hrun
    rw [hlist page] at hresult
    cases hresult
    exact ⟨hsome, mem_pageOf hdata⟩
  · rintro ⟨hsome, hrow⟩
    obtain ⟨page, hpage⟩ := exists_pageOf hpos hrow
    exact ⟨scopeIn actor s, hscope, hsome, page, _, hlist page, hpage⟩

/-- Whatever the query asks for, and whichever calls fail, the controller shows tickets the
actor may see. -/
theorem findAll_shows {query : ListTicketsQuery} {faults : Nat → Fault}
    {result : PaginatedResult TicketResponse}
    (h : ((TicketController.findAll actor query).run env faults (World.start s)).1 = .ok result)
    {response : TicketResponse} (hm : response ∈ result.data) :
    ∃ ticket, Visible actor s ticket ∧ TicketController.toTicketResponse ticket = response := by
  have hscope : Answers env 0 0 s (TicketAccessService.listScope actor) (.ok (scopeIn actor s)) :=
    answers_listScope
  cases hnone : (scopeIn actor s).none with
  | true =>
    have hempty : Answers env 0 0 s (TicketController.findAll actor query)
        (.ok (paginatedResponse [] 0 query.page query.limit)) := by
      refine hscope.bind (y := fun _ => .ok (paginatedResponse [] 0 query.page query.limit))
        fun scope hs => ?_
      cases hs
      rw [if_pos hnone]
      exact answers_pure _
    cases hempty.returns h
    cases hm
  | false =>
    let filters := TicketController.listFilters actor.tenantId (scopeIn actor s) query
    let page := TicketController.listPagination query
    have hlisted : Answers env 0 1 s (TicketController.findAll actor query)
        ((TicketRepository.select filters env.text s).map
          (pageOf page (TicketRepository.buildOrderBy page.sortBy page.sortOrder) (env.ties 0)) >>=
            fun result => .ok (paginatedResponse
              (result.data.map TicketController.toTicketResponse) result.total result.page
              result.limit)) := by
      refine hscope.bind (y := fun _ => _) fun scope hs => ?_
      cases hs
      rw [if_neg (by rw [hnone]; exact Bool.false_ne_true)]
      exact answers_listTickets.bind fun result _ => answers_pure _
    obtain ⟨listed, hselect, hret⟩ := bind_eq_ok.mp (hlisted.returns h)
    cases hret
    obtain ⟨ticket, hticket, rfl⟩ := List.mem_map.mp hm
    cases hrows : TicketRepository.select filters env.text s with
    | error err =>
      rw [hrows] at hselect
      cases hselect
    | ok rows =>
      rw [hrows] at hselect
      cases hselect
      obtain ⟨hmem, htenant, hagent, hcustomer⟩ := mem_select hrows (mem_pageOf hticket)
      refine ⟨ticket, ⟨hmem, htenant, scope_iff.mpr ⟨hnone, fun agentId he => ?_,
        fun customerId he => ?_⟩⟩, rfl⟩
      · refine hagent agentId ?_
        simp only [filters, TicketController.listFilters, he, Option.some_or]
      · refine hcustomer customerId ?_
        simp only [filters, TicketController.listFilters, he, Option.some_or]

/-- The permissions of the actor in their organization. -/
def heldBy (actor : TicketActor) (s : Store) : List Identity.Permission :=
  Identity.getEffectivePermissions ⟨actor.id, actor.role, some actor.tenantId⟩ s

/-- Reports and search are for managers and agents. -/
theorem staff_of_held {permission : Identity.Permission}
    (hadmin : permission ∉ Identity.Permission.classBoundary .platformAdmin)
    (hcustomer : permission ∉ Identity.Permission.classBoundary .customer)
    (h : permission ∈ heldBy actor s) : actor.role = .tenantManager ∨ actor.role = .agent := by
  have hclass : permission ∈ Identity.Permission.classBoundary actor.role :=
    Identity.Permission.effective_subset _ _ h
  cases hrole : actor.role with
  | tenantManager => exact Or.inl rfl
  | agent => exact Or.inr rfl
  | platformAdmin => exact absurd (hrole ▸ hclass) hadmin
  | customer => exact absurd (hrole ▸ hclass) hcustomer

/-- For staff the policy looks at the assigned agent of an agent only. -/
theorem staff_canView (hstaff : actor.role = .tenantManager ∨ actor.role = .agent) :
    TicketAccessPolicy.canView (viewerOf actor s) ticket = true ↔
      (actor.role = .agent → ticket.assignedAgentId = some actor.id) := by
  have hrole : (viewerOf actor s).role = actor.role := rfl
  unfold TicketAccessPolicy.canView
  rw [hrole]
  rcases hstaff with hmanager | hagent
  · simp [hmanager]
  · rw [hagent]
    simp only [forall_const]
    exact decide_eq_true_iff

theorem ticketWhere_iff (hstaff : actor.role = .tenantManager ∨ actor.role = .agent)
    {job : Report.ReportJob} (htenant : job.tenantId = actor.tenantId)
    (hrequester : job.requestedById = actor.id) :
    ticket ∈ s.tickets.filter (Report.ReportService.ticketWhere job actor.role {}) ↔
      Visible actor s ticket := by
  rw [Visible, staff_canView hstaff, List.mem_filter]
  refine and_congr_right fun _ => ?_
  simp only [Report.ReportService.ticketWhere, htenant, hrequester, enumMatches, withinDates,
    Option.map_none, Option.bind_none, Option.all_none, Bool.and_true, Bool.and_eq_true,
    Bool.or_eq_true, decide_eq_true_eq]
  refine and_congr_right fun _ => ?_
  exact or_iff_not_imp_left.trans (imp_congr not_ne_iff Iff.rfl)

/-- The export of tickets the actor may ask for. -/
def exportJob (actor : TicketActor) : Report.ReportJob := ⟨actor.tenantId, actor.id, .tickets⟩

/-- The guard and the scoped listing show one set of tickets. The query of a caller adds
none to it, the export of those who may ask for one has its rows, and every ticket or comment
hit of those who may search belongs to it. -/
theorem read_paths_agree (env : ServiceEnv) (actor : TicketActor) (s : Store)
    (hkeys : (s.tickets.map Ticket.id).Nodup) :
    (∀ ticket limit sortBy sortOrder, 0 < limit →
      (Accessible env actor s ticket ↔ Listed env actor s limit sortBy sortOrder ticket)) ∧
    (∀ query faults result,
      ((TicketController.findAll actor query).run env faults (World.start s)).1 = .ok result →
      ∀ response ∈ result.data, ∃ ticket, Accessible env actor s ticket ∧
        TicketController.toTicketResponse ticket = response) ∧
    (.reportsCreate ∈ heldBy actor s → ∀ fuel, s.tickets.length < fuel →
      ∃ rows, ((Report.ReportService.readBatches (exportJob actor) actor.role {} fuel none).run env
          (fun _ => .none) (World.start s)).1 = .ok (some rows) ∧
        ∀ row, row ∈ rows ↔ ∃ ticket, Accessible env actor s ticket ∧
          Report.ticketRow ticket = row) ∧
    (.searchUse ∈ heldBy actor s → ∀ query faults result,
      ((Search.SearchController.search ⟨actor.id, actor.role⟩ actor.tenantId query).run env faults
        (World.start s)).1 = .ok result →
      ∀ hit ∈ result.1, hit.type ≠ .customer →
        ∃ ticket, Accessible env actor s ticket ∧ hit.ticketId = some ticket.id) := by
  refine ⟨fun ticket limit sortBy sortOrder hpos => ?_, fun query faults result hrun => ?_,
    fun hheld fuel hfuel => ?_, fun hheld query faults result hrun => ?_⟩
  · rw [accessible_iff hkeys, listed_iff hpos]
  · intro response hm
    obtain ⟨ticket, hvisible, hresponse⟩ := findAll_shows hrun hm
    exact ⟨ticket, (accessible_iff hkeys).mpr hvisible, hresponse⟩
  · have hstaff := staff_of_held (by decide) (by decide) hheld
    have hexport : Answers env 0 0 s (Report.ReportService.readBatches (exportJob actor)
        actor.role {} fuel none) _ := Report.answers_export rfl rfl hkeys hfuel
    refine ⟨_, hexport.start, fun row => ?_⟩
    rw [List.mem_map]
    refine exists_congr fun ticket => and_congr_left fun _ => ?_
    rw [(Paging.byKey_perm Ticket.id _).mem_iff, ticketWhere_iff hstaff rfl rfl,
      accessible_iff hkeys]
  · intro hit hm htype
    have hstaff := staff_of_held (by decide) (by decide) hheld
    have hends : Ends env 0 s _ _
        (Search.SearchController.search ⟨actor.id, actor.role⟩ actor.tenantId query) :=
      Search.ends_search
    have hhits := (hends faults (World.start s) rfl rfl rfl).returns result hrun
    obtain ⟨ticket, ⟨hmem, htenant, hagent⟩, hid⟩ := hhits hit hm htype
    refine ⟨ticket, (accessible_iff hkeys).mpr ⟨hmem, htenant, (staff_canView hstaff).mpr ?_⟩, hid⟩
    intro hrole
    exact hagent actor.id (if_pos hrole)

/-- An agent, with a ticket assigned to them and one assigned to a colleague. -/
def readingAgent : TicketActor := ⟨1, .agent, "", 2⟩

def readingStore : Store where
  tickets := [{ (default : Ticket) with id := 3, tenantId := 2, assignedAgentId := some 1 },
    { (default : Ticket) with id := 4, tenantId := 2, assignedAgentId := some 5 }]
  comments := []
  customers := []
  tenants := []
  users := []
  refreshTokens := []
  sequences := []
  activities := []
  audits := []
  outbox := []

theorem read_paths_of_agent :
    (∀ ticket, Accessible sampleEnv readingAgent readingStore ticket ↔
      Listed sampleEnv readingAgent readingStore 20 none .desc ticket) ∧
    .searchUse ∈ heldBy readingAgent readingStore ∧
    ∃ rows, ((Report.ReportService.readBatches (exportJob readingAgent) .agent {} 3 none).run
        sampleEnv (fun _ => .none) (World.start readingStore)).1 = .ok (some rows) ∧
      ∀ row, row ∈ rows ↔ ∃ ticket, Accessible sampleEnv readingAgent readingStore ticket ∧
        Report.ticketRow ticket = row := by
  have hpaths := read_paths_agree sampleEnv readingAgent readingStore (by decide)
  exact ⟨fun ticket => hpaths.1 ticket 20 none .desc (by decide), by decide,
    hpaths.2.2.1 (by decide) 3 (by decide)⟩

end OmniSupport.Ticketing
