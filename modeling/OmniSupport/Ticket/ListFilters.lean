import OmniSupport.Ticket.ReadPaths

/-! The ticket list from the query string to its rows: what the schema and the controller make of
the filters, and for which queries the list is the one that was asked for. -/
namespace OmniSupport.Ticketing
open Foundation Effect Database

/-- `split(',')`. -/
def splitAtCommas (text : String) : List String := (text.toList.splitOn ',').map String.ofList

/-- The query string as it arrives. -/
structure ListTicketsParams where
  page : Nat
  limit : Nat
  sortBy : Option String := none
  sortOrder : SortOrder := .desc
  status : Option String := none
  priority : Option String := none
  category : Option String := none
  assignedAgentId : Option Uuid := none
  customerId : Option Uuid := none
  isEscalated : Option String := none
  search : Option String := none
  dateFrom : Option Time := none
  dateTo : Option Time := none
  tags : Option String := none

namespace ListTicketsParams

/-- `listTicketsQuerySchema.parse`. -/
def parse (params : ListTicketsParams) : ListTicketsQuery where
  page := params.page
  limit := params.limit
  sortBy := params.sortBy
  sortOrder := params.sortOrder
  status := params.status.map splitAtCommas
  priority := params.priority.map splitAtCommas
  category := params.category
  assignedAgentId := params.assignedAgentId
  customerId := params.customerId
  isEscalated := params.isEscalated = some "true"
  search := params.search
  dateFrom := params.dateFrom
  dateTo := params.dateTo
  tags := params.tags.map splitAtCommas

/-- The filters on enumerations hold values of theirs. -/
structure EnumsValid (params : ListTicketsParams) : Prop where
  status : ∀ text ∈ params.status, ∀ value ∈ splitAtCommas text,
    value ∈ TicketStatus.values.map TicketStatus.text
  priority : ∀ text ∈ params.priority, ∀ value ∈ splitAtCommas text,
    value ∈ TicketPriority.values.map TicketPriority.text
  category : ∀ value ∈ params.category, value ∈ Store.categories

/-- The ticket satisfies every filter that is present. An empty search text finds every ticket. -/
structure Asks (params : ListTicketsParams) (text : TextSearch) (ticket : Ticket) : Prop where
  status : ∀ texts ∈ params.status, ticket.status.text ∈ splitAtCommas texts
  priority : ∀ texts ∈ params.priority, ticket.priority.text ∈ splitAtCommas texts
  category : ∀ category ∈ params.category, ticket.category = category
  assignedAgentId : ∀ agentId ∈ params.assignedAgentId, ticket.assignedAgentId = some agentId
  customerId : ∀ customerId ∈ params.customerId, ticket.customerId = customerId
  isEscalated : ∀ value ∈ params.isEscalated, ticket.isEscalated = decide (value = "true")
  dateFrom : ∀ bound ∈ params.dateFrom, bound ≤ ticket.createdAt
  dateTo : ∀ bound ∈ params.dateTo, ticket.createdAt ≤ bound
  search : ∀ search ∈ params.search, search = "" ∨
    text.contains ticket.title (JsText.trim search) = true ∨
    text.contains ticket.description (JsText.trim search) = true
  tags : ∀ texts ∈ params.tags, ∃ tag ∈ splitAtCommas texts, tag ∈ ticket.tags

instance (params : ListTicketsParams) (text : TextSearch) (ticket : Ticket) :
    Decidable (params.Asks text ticket) :=
  decidable_of_iff (
      (∀ texts ∈ params.status, ticket.status.text ∈ splitAtCommas texts) ∧
      (∀ texts ∈ params.priority, ticket.priority.text ∈ splitAtCommas texts) ∧
      (∀ category ∈ params.category, ticket.category = category) ∧
      (∀ agentId ∈ params.assignedAgentId, ticket.assignedAgentId = some agentId) ∧
      (∀ customerId ∈ params.customerId, ticket.customerId = customerId) ∧
      (∀ value ∈ params.isEscalated, ticket.isEscalated = decide (value = "true")) ∧
      (∀ bound ∈ params.dateFrom, bound ≤ ticket.createdAt) ∧
      (∀ bound ∈ params.dateTo, ticket.createdAt ≤ bound) ∧
      (∀ search ∈ params.search, search = "" ∨
        text.contains ticket.title (JsText.trim search) = true ∨
        text.contains ticket.description (JsText.trim search) = true) ∧
      ∀ texts ∈ params.tags, ∃ tag ∈ splitAtCommas texts, tag ∈ ticket.tags)
    ⟨fun h => ⟨h.1, h.2.1, h.2.2.1, h.2.2.2.1, h.2.2.2.2.1, h.2.2.2.2.2.1, h.2.2.2.2.2.2.1,
        h.2.2.2.2.2.2.2.1, h.2.2.2.2.2.2.2.2.1, h.2.2.2.2.2.2.2.2.2⟩,
      fun h => ⟨h.status, h.priority, h.category, h.assignedAgentId, h.customerId, h.isEscalated,
        h.dateFrom, h.dateTo, h.search, h.tags⟩⟩

/-- The filters that the scope of the actor does not restrict already. -/
def unscoped (params : ListTicketsParams) (scope : TicketListScope) : ListTicketsParams :=
  { params with
    assignedAgentId := if scope.assignedAgentId.isSome then none else params.assignedAgentId
    customerId := if scope.customerId.isSome then none else params.customerId }

/-- The query that the list answers: without `isEscalated` the tickets are not escalated. -/
def served (params : ListTicketsParams) (scope : TicketListScope) : ListTicketsParams :=
  { params.unscoped scope with isEscalated := some (params.isEscalated.getD "") }

/-- A filter names another agent or customer than the scope. -/
def Overruled (params : ListTicketsParams) (scope : TicketListScope) : Prop :=
  (∃ agentId ∈ scope.assignedAgentId, ∃ asked ∈ params.assignedAgentId, asked ≠ agentId) ∨
    ∃ customerId ∈ scope.customerId, ∃ asked ∈ params.customerId, asked ≠ customerId

end ListTicketsParams

/-- The tickets of the actor's scope that the query asks for. -/
def askedRows (params : ListTicketsParams) (text : TextSearch) (actor : TicketActor) (s : Store) :
    List Ticket :=
  s.tickets.filter fun ticket => ticket.tenantId = actor.tenantId ∧
    TicketAccessPolicy.canView (viewerOf actor s) ticket = true ∧ params.Asks text ticket

/-- The page of these rows as the list shows it. -/
def listing (params : ListTicketsParams) (ties : Nat → Nat) (rows : List Ticket) :
    PaginatedResult TicketResponse :=
  let page := pageOf (TicketController.listPagination params.parse)
    (TicketRepository.buildOrderBy params.sortBy params.sortOrder) ties rows
  paginatedResponse (page.data.map TicketController.toTicketResponse) page.total page.page
    page.limit

/-- Without `isEscalated` the query finds no escalated ticket, and where a filter is overruled by
the scope, the other filters find none at all. -/
structure ServesAsked (params : ListTicketsParams) (text : TextSearch) (actor : TicketActor)
    (s : Store) : Prop where
  escalated : ¬ params.Overruled (scopeIn actor s) → params.isEscalated = none →
    ∀ ticket, Visible actor s ticket → params.Asks text ticket → ticket.isEscalated = false
  overruled : params.Overruled (scopeIn actor s) → ∀ ticket, Visible actor s ticket →
    ¬ (params.served (scopeIn actor s)).Asks text ticket

section clause
variable {params : ListTicketsParams} {text : TextSearch} {scope : TicketListScope}
  {tenantId : Uuid} {ticket : Ticket} {env : ServiceEnv} {s : Store} {actor : TicketActor}

theorem splitAtCommas_ne_nil (text : String) : splitAtCommas text ≠ [] := by
  simp [splitAtCommas, List.splitOn, List.splitOnP_ne_nil]

theorem enumsKnown_parse (h : params.EnumsValid) :
    TicketRepository.enumsKnown (TicketController.listFilters tenantId scope params.parse) =
      true := by
  have hstatus : enumKnown (TicketStatus.values.map TicketStatus.text)
      ((params.status.map splitAtCommas).map .many) = true := by
    have hvalid := h.status
    cases hp : params.status with
    | none => rfl
    | some texts =>
      rw [hp] at hvalid
      simpa [enumKnown, EnumFilter.texts] using hvalid
  have hpriority : enumKnown (TicketPriority.values.map TicketPriority.text)
      ((params.priority.map splitAtCommas).map .many) = true := by
    have hvalid := h.priority
    cases hp : params.priority with
    | none => rfl
    | some texts =>
      rw [hp] at hvalid
      simpa [enumKnown, EnumFilter.texts] using hvalid
  have hcategory : enumKnown Store.categories (params.category.map .one) = true := by
    have hvalid := h.category
    cases hp : params.category with
    | none => rfl
    | some category =>
      rw [hp] at hvalid
      have hmem := hvalid category rfl
      by_cases hempty : category = ""
      · simp [enumKnown, EnumFilter.texts, hempty]
      · simp [enumKnown, EnumFilter.texts, hempty, hmem]
  simp only [TicketRepository.enumsKnown, TicketController.listFilters, ListTicketsParams.parse,
    hstatus, hpriority, hcategory, Bool.and_self]

theorem all_iff {α : Type} {filter : Option α} {p : α → Bool} :
    filter.all p = true ↔ ∀ a ∈ filter, p a = true := by
  cases filter <;> simp

theorem enumMatches_many {value : String} {filter : Option String} :
    enumMatches value ((filter.map splitAtCommas).map .many) = true ↔
      ∀ texts ∈ filter, value ∈ splitAtCommas texts := by
  cases filter <;> simp [enumMatches, EnumFilter.texts]

theorem enumMatches_one {value : String} {filter : Option String} (h : ∀ text ∈ filter, text ≠ "") :
    enumMatches value (filter.map .one) = true ↔ ∀ text ∈ filter, value = text := by
  cases filter with
  | none => simp [enumMatches]
  | some text => simp [enumMatches, EnumFilter.texts, h text rfl]

theorem withinDates_iff {dateFrom dateTo : Option Time} {time : Time} :
    withinDates dateFrom dateTo time = true ↔
      (∀ bound ∈ dateFrom, bound ≤ time) ∧ ∀ bound ∈ dateTo, time ≤ bound := by
  simp only [withinDates, Bool.and_eq_true, all_iff, decide_eq_true_eq]

/-- The scope comes before the filter. -/
theorem restricted_iff {α : Type} {own filter : Option α} {p : α → Prop} [DecidablePred p] :
    ((own.or filter).all fun a => p a) = true ↔
      (∀ a, own = some a → p a) ∧ ∀ a ∈ (if own.isSome then none else filter), p a := by
  cases own <;> simp [all_iff]

/-- The `where` of the list finds, within the scope, what the served query asks for. -/
theorem where_iff (h : params.EnumsValid) :
    TicketRepository.buildWhereClause
        (TicketController.listFilters tenantId scope params.parse) text ticket = true ↔
      ticket.tenantId = tenantId ∧
        (∀ agentId, scope.assignedAgentId = some agentId →
          ticket.assignedAgentId = some agentId) ∧
        (∀ customerId, scope.customerId = some customerId → ticket.customerId = customerId) ∧
        (params.served scope).Asks text ticket := by
  have hcategory : ∀ category ∈ params.category, category ≠ "" := by
    intro category hmem hempty
    have hvalid := h.category category hmem
    rw [hempty] at hvalid
    exact absurd hvalid (by decide)
  have hsearch : (params.search.all fun search => search = "" ||
        text.contains ticket.title (JsText.trim search) ||
        text.contains ticket.description (JsText.trim search)) = true ↔
      ∀ search ∈ params.search, search = "" ∨
        text.contains ticket.title (JsText.trim search) = true ∨
        text.contains ticket.description (JsText.trim search) = true := by
    simp only [all_iff, Bool.or_eq_true, decide_eq_true_eq, or_assoc]
  have htags : ((params.tags.map splitAtCommas).all fun tags => tags = [] ||
        tags.any fun tag => tag ∈ ticket.tags) = true ↔
      ∀ texts ∈ params.tags, ∃ tag ∈ splitAtCommas texts, tag ∈ ticket.tags := by
    cases params.tags with
    | none => simp
    | some texts => simp [splitAtCommas_ne_nil]
  have hescalated : decide (ticket.isEscalated = params.parse.isEscalated) = true ↔
      ticket.isEscalated = decide (params.isEscalated.getD "" = "true") := by
    cases hvalue : params.isEscalated <;> simp [ListTicketsParams.parse, hvalue]
  have hclause : TicketRepository.buildWhereClause
        (TicketController.listFilters tenantId scope params.parse) text ticket =
      (decide (ticket.tenantId = tenantId) &&
        enumMatches ticket.status.text ((params.status.map splitAtCommas).map .many) &&
        enumMatches ticket.priority.text ((params.priority.map splitAtCommas).map .many) &&
        enumMatches ticket.category (params.category.map .one) &&
        ((scope.assignedAgentId.or params.assignedAgentId).all fun agentId =>
          ticket.assignedAgentId = some agentId) &&
        ((scope.customerId.or params.customerId).all fun customerId =>
          ticket.customerId = customerId) &&
        decide (ticket.isEscalated = params.parse.isEscalated) && true &&
        withinDates params.dateFrom params.dateTo ticket.createdAt &&
        (params.search.all fun search => search = "" ||
          text.contains ticket.title (JsText.trim search) ||
          text.contains ticket.description (JsText.trim search)) &&
        (params.tags.map splitAtCommas).all fun tags => tags = [] ||
          tags.any fun tag => tag ∈ ticket.tags) := rfl
  rw [hclause]
  simp only [Bool.and_eq_true, hescalated, hsearch, htags, enumMatches_many,
    enumMatches_one hcategory, withinDates_iff, restricted_iff, decide_eq_true_eq, and_true]
  constructor
  · rintro ⟨⟨⟨⟨⟨⟨⟨⟨⟨htenant, hstatus⟩, hpriority⟩, hcat⟩, hagent, hasked⟩, hcustomer, hnamed⟩, hesc⟩,
      hdates⟩, hfound⟩, htagged⟩
    refine ⟨htenant, hagent, hcustomer, hstatus, hpriority, hcat, hasked, hnamed, ?_, hdates.1,
      hdates.2, hfound, htagged⟩
    intro value hvalue
    cases hvalue
    exact hesc
  · rintro ⟨htenant, hagent, hcustomer, h⟩
    exact ⟨⟨⟨⟨⟨⟨⟨⟨⟨htenant, h.status⟩, h.priority⟩, h.category⟩, hagent, h.assignedAgentId⟩, hcustomer,
      h.customerId⟩, h.isEscalated _ rfl⟩, h.dateFrom, h.dateTo⟩, h.search⟩, h.tags⟩

/-- Of the tickets in scope the `where` selects those that the served query asks for. -/
theorem select_served (h : params.EnumsValid) (hsome : (scopeIn actor s).none = false) :
    TicketRepository.select
        (TicketController.listFilters actor.tenantId (scopeIn actor s) params.parse) text s =
      .ok (askedRows (params.served (scopeIn actor s)) text actor s) := by
  rw [TicketRepository.select, if_pos (enumsKnown_parse h)]
  refine congrArg _ (List.filter_congr fun ticket _ => ?_)
  rw [Bool.eq_iff_iff, where_iff h, decide_eq_true_eq, scope_iff]
  tauto

/-- An actor who sees no ticket is shown none. -/
theorem askedRows_none (hnone : (scopeIn actor s).none = true) :
    askedRows params text actor s = [] := by
  refine List.filter_eq_nil_iff.mpr fun ticket _ hasked => ?_
  have hview := (of_decide_eq_true hasked).2.1
  rw [(scope_iff.mp hview).1] at hnone
  cases hnone

theorem findAll_run (h : params.EnumsValid) :
    ((TicketController.findAll actor params.parse).run env (fun _ => .none) (World.start s)).1 =
      .ok (listing params (env.ties 0)
        (askedRows (params.served (scopeIn actor s)) env.text actor s)) := by
  have hscope : Answers env 0 0 s (TicketAccessService.listScope actor) (.ok (scopeIn actor s)) :=
    answers_listScope
  cases hnone : (scopeIn actor s).none with
  | true =>
    have hempty : Answers env 0 0 s (TicketController.findAll actor params.parse)
        (.ok (paginatedResponse [] 0 params.page params.limit)) := by
      refine hscope.bind (y := fun _ => .ok _) fun scope hs => ?_
      cases hs
      rw [if_pos hnone]
      exact answers_pure _
    rw [hempty.start, askedRows_none hnone]
    simp [listing, pageOf, TicketController.listPagination, ListTicketsParams.parse,
      Paging.page, Paging.orderRows, Outcome.of]
  | false =>
    have hlisted : Answers env 0 1 s (TicketController.findAll actor params.parse)
        (((TicketRepository.select (TicketController.listFilters actor.tenantId (scopeIn actor s)
            params.parse) env.text s).map (pageOf (TicketController.listPagination params.parse)
              (TicketRepository.buildOrderBy params.sortBy params.sortOrder) (env.ties 0))) >>=
          fun result => .ok (paginatedResponse
            (result.data.map TicketController.toTicketResponse) result.total result.page
            result.limit)) := by
      refine hscope.bind (y := fun _ => _) fun scope hs => ?_
      cases hs
      rw [if_neg (by rw [hnone]; exact Bool.false_ne_true)]
      exact answers_listTickets.bind fun result _ => answers_pure _
    rw [hlisted.start, select_served h hnone]
    rfl

end clause

section asked
variable {params : ListTicketsParams} {text : TextSearch} {ticket : Ticket} {env : ServiceEnv}
  {s : Store} {actor : TicketActor}

/-- In the scope the query asks for nothing that the scope overrules. -/
theorem asks_iff (hview : TicketAccessPolicy.canView (viewerOf actor s) ticket = true) :
    params.Asks text ticket ↔ ¬ params.Overruled (scopeIn actor s) ∧
      (params.unscoped (scopeIn actor s)).Asks text ticket := by
  obtain ⟨-, hagent, hcustomer⟩ := scope_iff.mp hview
  constructor
  · intro h
    refine ⟨?_, { h with assignedAgentId := ?_, customerId := ?_ }⟩
    · rintro (⟨agentId, hown, asked, hasked, hne⟩ | ⟨customerId, hown, asked, hasked, hne⟩)
      · have hassigned := (hagent agentId hown).symm.trans (h.assignedAgentId asked hasked)
        exact hne (Option.some.inj hassigned).symm
      · exact hne ((h.customerId asked hasked).symm.trans (hcustomer customerId hown))
    · intro asked hasked
      refine h.assignedAgentId asked ?_
      simp only [ListTicketsParams.unscoped] at hasked
      split at hasked
      · cases hasked
      · exact hasked
    · intro asked hasked
      refine h.customerId asked ?_
      simp only [ListTicketsParams.unscoped] at hasked
      split at hasked
      · cases hasked
      · exact hasked
  · rintro ⟨hfree, h⟩
    refine { h with assignedAgentId := ?_, customerId := ?_ }
    · intro asked hasked
      cases hown : (scopeIn actor s).assignedAgentId with
      | none =>
        refine h.assignedAgentId asked ?_
        simpa [ListTicketsParams.unscoped, hown] using hasked
      | some agentId =>
        have heq : asked = agentId := by
          by_contra hne
          exact hfree (.inl ⟨agentId, hown, asked, hasked, hne⟩)
        rw [heq]
        exact hagent agentId hown
    · intro asked hasked
      cases hown : (scopeIn actor s).customerId with
      | none =>
        refine h.customerId asked ?_
        simpa [ListTicketsParams.unscoped, hown] using hasked
      | some customerId =>
        have heq : asked = customerId := by
          by_contra hne
          exact hfree (.inr ⟨customerId, hown, asked, hasked, hne⟩)
        rw [heq]
        exact hcustomer customerId hown

/-- With `isEscalated` in the query that filter is served, and without it tickets that are not
escalated. -/
theorem served_iff {scope : TicketListScope} :
    (params.served scope).Asks text ticket ↔ (params.unscoped scope).Asks text ticket ∧
      (params.isEscalated = none → ticket.isEscalated = false) := by
  constructor
  · intro h
    have hvalue := h.isEscalated _ rfl
    refine ⟨{ h with isEscalated := fun value hmem => ?_ }, fun hnone => ?_⟩
    · have hparam : params.isEscalated = some value := hmem
      simpa [hparam] using hvalue
    · simpa [hnone] using hvalue
  · rintro ⟨h, hnone⟩
    refine { h with isEscalated := fun value hmem => ?_ }
    cases hmem
    cases hparam : params.isEscalated with
    | none => simpa [hparam] using hnone hparam
    | some value => exact h.isEscalated value hparam

theorem mem_askedRows : ticket ∈ askedRows params text actor s ↔
    Visible actor s ticket ∧ params.Asks text ticket := by
  simp only [askedRows, List.mem_filter, decide_eq_true_eq, Visible, and_assoc]

/-- Where the scope overrules no filter, the served rows are those asked for that are not
escalated, or all of them if the query names `isEscalated`. -/
theorem askedRows_served (hfree : ¬ params.Overruled (scopeIn actor s)) :
    askedRows (params.served (scopeIn actor s)) text actor s =
      (askedRows params text actor s).filter fun ticket =>
        params.isEscalated = none → ticket.isEscalated = false := by
  rw [askedRows, askedRows, List.filter_filter]
  refine List.filter_congr fun ticket _ => ?_
  rw [← Bool.decide_and, decide_eq_decide]
  constructor
  · rintro ⟨htenant, hview, hserved⟩
    obtain ⟨hasks, hnone⟩ := served_iff.mp hserved
    exact ⟨hnone, htenant, hview, (asks_iff hview).mpr ⟨hfree, hasks⟩⟩
  · rintro ⟨hnone, htenant, hview, hasks⟩
    exact ⟨htenant, hview, served_iff.mpr ⟨((asks_iff hview).mp hasks).2, hnone⟩⟩

/-- A query that the scope overrules asks for no ticket. -/
theorem askedRows_overruled (hover : params.Overruled (scopeIn actor s)) :
    askedRows params text actor s = [] := by
  refine List.eq_nil_iff_forall_not_mem.mpr fun ticket hmem => ?_
  obtain ⟨hvisible, hasks⟩ := mem_askedRows.mp hmem
  exact ((asks_iff hvisible.2.2).mp hasks).1 hover

theorem served_length_iff :
    (askedRows (params.served (scopeIn actor s)) text actor s).length =
        (askedRows params text actor s).length ↔
      ServesAsked params text actor s := by
  by_cases hover : params.Overruled (scopeIn actor s)
  · rw [askedRows_overruled hover, List.length_nil, List.length_eq_zero_iff,
      List.eq_nil_iff_forall_not_mem]
    constructor
    · intro hempty
      refine ⟨fun hfree => absurd hover hfree, fun _ ticket hvisible hserved => ?_⟩
      exact hempty ticket (mem_askedRows.mpr ⟨hvisible, hserved⟩)
    · intro hserves ticket hmem
      obtain ⟨hvisible, hserved⟩ := mem_askedRows.mp hmem
      exact hserves.overruled hover ticket hvisible hserved
  · rw [askedRows_served hover, List.length_filter_eq_length_iff]
    constructor
    · intro hall
      refine ⟨fun _ hnone ticket hvisible hasks => ?_, fun h => absurd h hover⟩
      exact of_decide_eq_true (hall ticket (mem_askedRows.mpr ⟨hvisible, hasks⟩)) hnone
    · intro hserves ticket hmem
      obtain ⟨hvisible, hasks⟩ := mem_askedRows.mp hmem
      exact decide_eq_true fun hnone => hserves.escalated hover hnone ticket hvisible hasks

theorem ServesAsked.rows_eq (h : ServesAsked params text actor s) :
    askedRows (params.served (scopeIn actor s)) text actor s =
      askedRows params text actor s := by
  have hlength := served_length_iff.mpr h
  by_cases hover : params.Overruled (scopeIn actor s)
  · rw [askedRows_overruled hover] at hlength ⊢
    exact List.length_eq_zero_iff.mp hlength
  · rw [askedRows_served hover] at hlength ⊢
    exact List.filter_eq_self.mpr (List.length_filter_eq_length_iff.mp hlength)

end asked

/-- For every store, actor and valid query: the list counts and shows exactly the tickets in the
actor's scope that satisfy the filters present, exactly when the query names `isEscalated` or
finds no escalated ticket, and no filter that finds tickets is overruled by the scope. -/
theorem list_honours_filters_iff (params : ListTicketsParams) (h : params.EnumsValid)
    (actor : TicketActor) (env : ServiceEnv) (s : Store) :
    ((TicketController.findAll actor params.parse).run env (fun _ => .none) (World.start s)).1 =
        .ok (listing params (env.ties 0) (askedRows params env.text actor s)) ↔
      ServesAsked params env.text actor s := by
  rw [findAll_run h]
  constructor
  · intro heq
    have htotal := congrArg PaginatedResult.total (Outcome.ok.inj heq)
    exact served_length_iff.mp htotal
  · intro hserves
    rw [hserves.rows_eq]

section demo

def listedTicket (id : Uuid) (isEscalated : Bool) : Ticket :=
  { (default : Ticket) with
    id := id
    tenantId := 2
    category := "GENERAL"
    isEscalated := isEscalated }

def listedStore : Store where
  tickets := [listedTicket 1 false, listedTicket 3 true]
  comments := []
  customers := []
  tenants := []
  users := []
  refreshTokens := []
  sequences := []
  activities := []
  audits := []
  outbox := []

def listingManager : TicketActor := ⟨9, .tenantManager, "manager@example.com", 2⟩

/-- Escalated tickets with one of two statuses. -/
def escalatedParams : ListTicketsParams :=
  { page := 1, limit := 20, status := some "OPEN,CLOSED", isEscalated := some "true" }

end demo

theorem list_honours_filters_iff_escalated :
    ((TicketController.findAll listingManager escalatedParams.parse).run sampleEnv
        (fun _ => .none) (World.start listedStore)).1 =
      .ok (listing escalatedParams (sampleEnv.ties 0)
        (askedRows escalatedParams sampleEnv.text listingManager listedStore)) := by
  have hvalid : escalatedParams.EnumsValid :=
    ⟨by decide +kernel, by decide +kernel, by decide +kernel⟩
  have hserves : ServesAsked escalatedParams sampleEnv.text listingManager listedStore := by
    refine ⟨fun _ hnone => (by cases hnone), fun hover => ?_⟩
    rcases hover with ⟨agentId, hown, -⟩ | ⟨customerId, hown, -⟩ <;> cases hown
  exact (list_honours_filters_iff escalatedParams hvalid listingManager sampleEnv listedStore).mpr
    hserves

/-- Without filters a manager is shown one of the two tickets. -/
theorem no_filters_leave_out_escalated :
    ∃ result, ((TicketController.findAll listingManager
        (ListTicketsParams.parse { page := 1, limit := 20 })).run sampleEnv (fun _ => .none)
          (World.start listedStore)).1 = .ok result ∧
      result.total = 1 ∧ result.data.map TicketResponse.id = [1] ∧
      (askedRows { page := 1, limit := 20 } sampleEnv.text listingManager listedStore).map
        Ticket.id = [1, 3] := by
  refine ⟨_, findAll_run ⟨?_, ?_, ?_⟩, by decide +kernel, by decide +kernel, by decide +kernel⟩
  · exact fun _ h => by cases h
  · exact fun _ h => by cases h
  · exact fun _ h => by cases h

end OmniSupport.Ticketing
