import OmniSupport.Foundation.PagePartition
import OmniSupport.Database.ServiceRules
import OmniSupport.Search.SearchService

/-! The pages of the search against the rows that match: of every type the search takes at most
ten rows before it merges, counts and pages them. -/
namespace OmniSupport.Search
open Foundation Effect Database Paging

/-- The options that the controller makes of a request. -/
def SearchController.optionsOf (user : SearchUser) (tenantId : Uuid) (query : SearchQuery) :
    SearchOptions where
  tenantId := tenantId
  query := query.q.getD ""
  types := parsedTypes query.types
  page := clampInt query.page 1 1 1000
  limit := clampInt query.limit 20 1 100
  assignedAgentId := if user.role = .agent then some user.id else none

namespace SearchOptions

def searchText (options : SearchOptions) : String :=
  JsText.firstUnits 200 (JsText.trim options.query)

/-- The rows of one type that match the search text in the scope, as hits. -/
def hits (options : SearchOptions) (text : TextSearch) (s : Store) :
    SearchResultType → List SearchResult
  | .ticket =>
    (s.tickets.filter fun ticket => ticket.tenantId = options.tenantId &&
      text.searches (TicketProjection.ticketDocument ticket) options.searchText &&
      options.assignedAgentId.all fun agentId => ticket.assignedAgentId = some agentId).map
      fun ticket => TicketProjection.ticketRow
        (text.rank (TicketProjection.ticketDocument ticket) options.searchText) ticket
  | .customer =>
    (s.customers.filter fun customer => customer.tenantId = options.tenantId &&
      text.searches (CustomerProjection.customerDocument customer) options.searchText).map
      fun customer => CustomerProjection.customerRow
        (text.rank (CustomerProjection.customerDocument customer) options.searchText) customer
  | .comment =>
    (TicketProjection.commentRows options.tenantId options.searchText options.assignedAgentId text
      s).map fun joined =>
        TicketProjection.commentRow (text.rank [joined.1.content] options.searchText) joined

/-- The query for one type. -/
def queryOf (options : SearchOptions) : SearchResultType → ServiceM (List SearchResult)
  | .ticket =>
    TicketProjection.searchTickets options.tenantId options.searchText 10 options.assignedAgentId
  | .customer => CustomerProjection.searchCustomers options.tenantId options.searchText 10
  | .comment =>
    TicketProjection.searchComments options.tenantId options.searchText 10 options.assignedAgentId

/-- Those hits, when the type is asked for. -/
def asked (options : SearchOptions) (text : TextSearch) (s : Store) (type : SearchResultType) :
    List SearchResult :=
  if type.text ∈ options.types then options.hits text s type else []

/-- All rows of the requested types that match. -/
def allHits (options : SearchOptions) (text : TextSearch) (s : Store) : List SearchResult :=
  options.asked text s .ticket ++ (options.asked text s .customer ++ options.asked text s .comment)

end SearchOptions

/-- Every page reports the number of matching rows, and pages `1..totalPages` hold each of these
rows exactly once, the best first. -/
structure CoversMatches (allHits : List SearchResult) (limit : Nat)
    (pages : Nat → List SearchResult × Nat) : Prop where
  total : ∀ k, (pages k).2 = allHits.length
  rows : toTotalPages (pages 0).2 limit ≤ 1000 →
    ((List.range (toTotalPages (pages 0).2 limit)).flatMap fun k => (pages k).1).Perm allHits
  ranked : toTotalPages (pages 0).2 limit ≤ 1000 →
    ((List.range (toTotalPages (pages 0).2 limit)).flatMap fun k => (pages k).1).Pairwise
      fun hit hit' => hit'.rank ≤ hit.rank

/-- The answer to the search for page `k + 1`. -/
def Answered (user : SearchController.SearchUser) (tenantId : Uuid)
    (query : SearchController.SearchQuery) (env : ServiceEnv) (s : Store)
    (pages : Nat → List SearchResult × Nat) : Prop :=
  ∀ k : Nat, ((SearchController.search user tenantId { query with page := some (k + 1) }).run env
    (fun _ => .none) (World.start s)).1 = .ok (pages k)

section found
variable {env : ServiceEnv} {d : Nat} {s : Store} {limit : Nat} {hits found : List SearchResult}
  {options : SearchOptions}

/-- The best `limit` of the hits, or all of them. -/
structure Best (limit : Nat) (hits found : List SearchResult) : Prop where
  length : found.length = min limit hits.length
  all : hits.length ≤ limit → found.Perm hits

theorem best_topRanked {ρ : Type} {rank : ρ → Rat} {ties : Nat → Nat} {rows : List ρ}
    (f : ρ → SearchResult) :
    Best limit (rows.map f) ((topRanked rank ties limit rows).map f) := by
  have hperm := orderRows_perm (fun row row' => decide (rank row' ≤ rank row)) ties rows
  constructor
  · rw [List.length_map, List.length_map, topRanked, List.length_take, hperm.length_eq]
  · intro hle
    have hlength : (orderRows (fun row row' => decide (rank row' ≤ rank row)) ties rows).length ≤
        limit := by
      rw [hperm.length_eq]
      simpa using hle
    rw [topRanked, List.take_of_length_le hlength]
    exact hperm.map f

theorem gives_searchQuery {select : TextSearch × (Nat → Nat) → Store → List SearchResult} :
    Gives env d (d + 1) s (queryRules >>= fun rules => searchQuery (select rules))
      (select (env.text, env.ties d) s) := by
  have hrules : Gives env d (d + 1) s queryRules (env.text, env.ties d) :=
    (answers_draw fun (env : ServiceEnv) n => (env.text, env.ties n)).gives
  have hread : Gives env (d + 1) (d + 1) s
      (Effect.read .root .searchQuery .database (select (env.text, env.ties d)) : ServiceM _)
      (select (env.text, env.ties d) s) := (answers_read _ _ _ _).gives
  exact hrules.bind (hread.recover [])

/-- The query for a type finds the best ten of its hits. -/
theorem gives_queryOf (type : SearchResultType) :
    ∃ found, Best 10 (options.hits env.text s type) found ∧
      Gives env d (d + 1) s (options.queryOf type) found := by
  cases type with
  | ticket | customer | comment => exact ⟨_, best_topRanked _, gives_searchQuery⟩

/-- Only a type that is asked for is searched. -/
theorem gives_included (type : SearchResultType) :
    ∃ found d', Best 10 (options.asked env.text s type) found ∧
      Gives env d d' s (SearchService.included type options (options.queryOf type)) found := by
  unfold SearchService.included SearchOptions.asked
  by_cases hasked : type.text ∈ options.types
  · obtain ⟨found, hbest, hgives⟩ := gives_queryOf type
    rw [if_pos hasked, if_pos hasked]
    exact ⟨found, d + 1, hbest, hgives⟩
  · rw [if_neg hasked, if_neg hasked]
    exact ⟨[], d, ⟨rfl, fun _ => List.Perm.refl _⟩, (answers_pure []).gives⟩

/-- The merged hits that every page of the search is cut from. -/
structure Merged (options : SearchOptions) (text : TextSearch) (s : Store)
    (merged : List SearchResult) : Prop where
  length : merged.length = min 10 (options.asked text s .ticket).length +
    (min 10 (options.asked text s .customer).length + min 10 (options.asked text s .comment).length)
  all : (∀ type, (options.asked text s type).length ≤ 10) → merged.Perm (options.allHits text s)
  ranked : merged.Pairwise fun hit hit' => hit'.rank ≤ hit.rank

theorem sorts_rank : Sorts fun r r' : SearchResult => decide (r'.rank ≤ r.rank) where
  trans a b c hab hbc :=
    decide_eq_true (Rat.le_trans (of_decide_eq_true hbc) (of_decide_eq_true hab))
  total a b := by
    rw [Bool.or_eq_true, decide_eq_true_eq, decide_eq_true_eq]
    exact Rat.le_total

theorem merged_mergeSort {tickets customers comments : List SearchResult} {text : TextSearch}
    (htickets : Best 10 (options.asked text s .ticket) tickets)
    (hcustomers : Best 10 (options.asked text s .customer) customers)
    (hcomments : Best 10 (options.asked text s .comment) comments) :
    Merged options text s
      ((tickets ++ (customers ++ comments)).mergeSort fun r r' => r'.rank ≤ r.rank) := by
  have hperm := List.mergeSort_perm (tickets ++ (customers ++ comments))
    fun r r' => decide (r'.rank ≤ r.rank)
  constructor
  · rw [hperm.length_eq, List.length_append, List.length_append, htickets.length,
      hcustomers.length, hcomments.length]
  · intro hall
    have hrest := (hcustomers.all (hall .customer)).append (hcomments.all (hall .comment))
    exact hperm.trans ((htickets.all (hall .ticket)).append hrest)
  · exact (pairwise_mergeSort_of_sorts sorts_rank _).imp of_decide_eq_true

/-- Whatever the page, the search merges the same hits, counts them and shows the page. -/
theorem gives_search (options : SearchOptions) (env : ServiceEnv) (s : Store)
    (hlong : 2 ≤ JsText.length (JsText.trim options.query)) :
    ∃ merged d', Merged options env.text s merged ∧
      ∀ page, Gives env 0 d' s (SearchService.search { options with page := page })
        (Paging.page ((page - 1) * options.limit) options.limit merged, merged.length) := by
  obtain ⟨tickets, d₁, hbestTickets, htickets⟩ := gives_included (d := 0) .ticket
  obtain ⟨customers, d₂, hbestCustomers, hcustomers⟩ := gives_included (d := d₁) .customer
  obtain ⟨comments, d₃, hbestComments, hcomments⟩ := gives_included (d := d₂) .comment
  refine ⟨_, d₃, merged_mergeSort hbestTickets hbestCustomers hbestComments, fun page => ?_⟩
  have hshort : ¬ JsText.length (JsText.trim options.query) < 2 := by omega
  unfold SearchService.search
  rw [if_neg hshort]
  exact htickets.bind (hcustomers.bind (hcomments.bind (answers_pure _).gives))

end found

section pages
variable {env : ServiceEnv} {s : Store} {options : SearchOptions} {merged : List SearchResult}

theorem asked_le_iff {text : TextSearch} :
    (∀ type, (options.asked text s type).length ≤ 10) ↔
      ∀ type, type.text ∈ options.types → (options.hits text s type).length ≤ 10 := by
  refine forall_congr' fun type => ?_
  unfold SearchOptions.asked
  split
  · simp [*]
  · simp [*]

/-- Only when no type has more than ten matching rows are all of them counted. -/
theorem Merged.length_eq_iff {text : TextSearch} (h : Merged options text s merged) :
    merged.length = (options.allHits text s).length ↔
      ∀ type, (options.asked text s type).length ≤ 10 := by
  rw [h.length, SearchOptions.allHits, List.length_append, List.length_append]
  constructor
  · intro htotal type
    cases type with
    | ticket | customer | comment => omega
  · intro hall
    have htickets := hall .ticket
    have hcustomers := hall .customer
    have hcomments := hall .comment
    omega

theorem clampInt_pos {value : Option Int} {fallback most : Nat} (h : 0 < fallback) :
    0 < SearchController.clampInt value fallback 1 most := by
  unfold SearchController.clampInt
  split <;> omega

theorem clampInt_page {k : Nat} (h : k < 1000) :
    SearchController.clampInt (some ((k : Int) + 1)) 1 1 1000 = k + 1 := by
  unfold SearchController.clampInt
  simp only
  omega

/-- One page of the merged hits and their number. -/
def mergedPage (merged : List SearchResult) (limit : Nat) (page : Option Int) :
    List SearchResult × Nat :=
  (Paging.page ((SearchController.clampInt page 1 1 1000 - 1) * limit) limit merged, merged.length)

/-- The pages up to the last one are all of the merged hits. -/
theorem mergedPages_eq {limit : Nat} (hpos : 0 < limit)
    (hn : toTotalPages merged.length limit ≤ 1000) :
    ((List.range (toTotalPages merged.length limit)).flatMap fun k : Nat =>
      (mergedPage merged limit (some (k + 1))).1) = merged := by
  have hall : ∀ k ∈ List.range (toTotalPages merged.length limit),
      (mergedPage merged limit (some (k + 1))).1 = Paging.page (k * limit) limit merged := by
    intro k hk
    have hlt : k < 1000 := Nat.lt_of_lt_of_le (List.mem_range.mp hk) hn
    rw [mergedPage, clampInt_page hlt, Nat.add_sub_cancel]
  rw [List.flatMap_congr hall, flatMap_page,
    List.take_of_length_le (le_toTotalPages hpos merged.length)]

end pages

section served
variable {user : SearchController.SearchUser} {tenantId : Uuid}
  {query : SearchController.SearchQuery} {env : ServiceEnv} {s : Store}

theorem search_page (page : Option Int) :
    SearchController.search user tenantId { query with page := page } =
      SearchService.search { SearchController.optionsOf user tenantId query with
        page := SearchController.clampInt page 1 1 1000 } :=
  rfl

/-- The requests are answered with the pages of the same merged hits. -/
theorem exists_answered (user : SearchController.SearchUser) (tenantId : Uuid)
    (query : SearchController.SearchQuery) (env : ServiceEnv) (s : Store)
    (hlong : 2 ≤ JsText.length (JsText.trim (query.q.getD ""))) :
    ∃ merged, Merged (SearchController.optionsOf user tenantId query) env.text s merged ∧
      Answered user tenantId query env s fun k =>
        mergedPage merged (SearchController.clampInt query.limit 20 1 100) (some (k + 1)) := by
  obtain ⟨merged, d', hmerged, hgives⟩ :=
    gives_search (SearchController.optionsOf user tenantId query) env s hlong
  refine ⟨merged, hmerged, fun k => ?_⟩
  have hpage := (hgives (SearchController.clampInt (some (k + 1)) 1 1 1000)).start
  simp only [search_page, mergedPage]
  exact hpage

end served

/-- For every store, request of at least two characters, set of types and page size: the total is
the number of matching rows and the pages hold each of them once, by rank, exactly when of every
requested type at most ten rows match. -/
theorem pages_cover_matches_iff (user : SearchController.SearchUser) (tenantId : Uuid)
    (query : SearchController.SearchQuery) (env : ServiceEnv) (s : Store)
    (hlong : 2 ≤ JsText.length (JsText.trim (query.q.getD ""))) :
    (∃ pages, Answered user tenantId query env s pages ∧
        CoversMatches ((SearchController.optionsOf user tenantId query).allHits env.text s)
          (SearchController.clampInt query.limit 20 1 100) pages) ↔
      ∀ type : SearchResultType, type.text ∈ SearchController.parsedTypes query.types →
        ((SearchController.optionsOf user tenantId query).hits env.text s type).length ≤ 10 := by
  obtain ⟨merged, hmerged, hanswered⟩ := exists_answered user tenantId query env s hlong
  have hpos : 0 < SearchController.clampInt query.limit 20 1 100 := clampInt_pos (by decide)
  have hiff := hmerged.length_eq_iff.trans asked_le_iff
  constructor
  · rintro ⟨pages, hpages, hcovers⟩
    have hfirst := Outcome.ok.inj ((hpages 0).symm.trans (hanswered 0))
    have htotal := hcovers.total 0
    rw [hfirst] at htotal
    exact hiff.mp htotal
  · intro hten
    refine ⟨_, hanswered, ⟨fun k => hiff.mpr hten, fun hn => ?_, fun hn => ?_⟩⟩
    · have hall := hmerged.all (asked_le_iff.mpr hten)
      rwa [← mergedPages_eq hpos hn] at hall
    · have hranked := hmerged.ranked
      rwa [← mergedPages_eq hpos hn] at hranked

section demo

/-- Tickets about the printer. -/
def printerStore (count : Nat) : Store where
  tickets := (List.range count).map fun n =>
    { (default : Ticket) with
      id := n
      tenantId := 2
      title := "printer" }
  comments := []
  customers := []
  tenants := []
  users := []
  refreshTokens := []
  sequences := []
  activities := []
  audits := []
  outbox := []

def searchManager : SearchController.SearchUser := ⟨9, .tenantManager⟩

/-- The search for `printer` in pages of four. -/
def printerQuery : SearchController.SearchQuery := ⟨some " printer ", none, none, some 4⟩

end demo

/-- Ten tickets are found on three pages. -/
theorem pages_cover_matches_iff_ten :
    ∃ pages, Answered searchManager 2 printerQuery sampleEnv (printerStore 10) pages ∧
      CoversMatches ((SearchController.optionsOf searchManager 2 printerQuery).allHits
        sampleEnv.text (printerStore 10))
        (SearchController.clampInt printerQuery.limit 20 1 100) pages := by
  refine (pages_cover_matches_iff searchManager 2 printerQuery sampleEnv (printerStore 10)
    (by decide +kernel)).mpr fun type _ => ?_
  cases type with
  | ticket | customer | comment => decide +kernel

/-- Of eleven tickets ten are counted. -/
theorem eleventh_match_lost :
    ¬ ∃ pages, Answered searchManager 2 printerQuery sampleEnv (printerStore 11) pages ∧
      CoversMatches ((SearchController.optionsOf searchManager 2 printerQuery).allHits
        sampleEnv.text (printerStore 11))
        (SearchController.clampInt printerQuery.limit 20 1 100) pages := by
  rintro ⟨pages, hpages, hcovers⟩
  obtain ⟨merged, hmerged, hanswered⟩ := exists_answered searchManager 2 printerQuery sampleEnv
    (printerStore 11) (by decide +kernel)
  have hfirst := Outcome.ok.inj ((hpages 0).symm.trans (hanswered 0))
  have htotal := hcovers.total 0
  rw [hfirst] at htotal
  have hlength := hmerged.length.symm.trans htotal
  exact absurd hlength (by decide +kernel)

end OmniSupport.Search
