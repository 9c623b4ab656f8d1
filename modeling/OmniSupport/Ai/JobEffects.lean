import OmniSupport.Ai.JobStatements
import OmniSupport.Database.ServiceRules

/-! What runs of the jobs leave of the rows that other services write meanwhile, and what the
jobs about customers are told about sentiments. -/
namespace OmniSupport.AI
open Foundation Process Effect Database Identity Ticketing AIService

/-- A write of other services: to the tables, and to the settings of the tenants. -/
structure OtherWrite where
  db : Store → Store
  settings : (Uuid → Option Json) → Uuid → Option Json

def OtherWrite.apply (w : OtherWrite) (s : AiStore) : AiStore :=
  { s with db := w.db s.db, settings := w.settings s.settings }

/-- Any number of workers and users, and the writes of other services. -/
abbrev aiPool (config : AIConfig) :=
  among statements (AiRequest.process config) OtherWrite.apply

section sentiments

/-- No sentiment is of a customer, and no prompt tells of one. -/
structure SentimentsAside (s : AiStore) : Prop where
  results : ∀ row ∈ s.results, row.Aside
  asked : ∀ prompt ∈ s.asked, ∀ context ∈ prompt.customer, context.avgSentimentScore = 0

variable {config : AIConfig} {s : AiStore}

theorem SentimentsAside.recentSentiments (h : SentimentsAside s) (ties : Nat → Nat)
    (customerId tenantId : Uuid) : recentSentiments ties customerId tenantId s = [] := by
  have hnone : (s.results.filter fun row =>
      row.customerId = some customerId && row.type = .sentiment && row.tenantId = tenantId) = [] := by
    refine List.filter_eq_nil_iff.mpr fun row hrow hcond => ?_
    simp only [Bool.and_eq_true, decide_eq_true_eq] at hcond
    have hno := h.results row hrow hcond.1.2
    rw [hcond.1.1] at hno
    cases hno
  have hordered := (Paging.orderRows_perm (fun r r' : AIResult => r'.createdAt ≤ r.createdAt) ties
    []).eq_nil
  simp only [AIService.recentSentiments, hnone, hordered, List.take_nil]

theorem SentimentsAside.ask (h : SentimentsAside s) {prompt : Prompt}
    (hprompt : ∀ context ∈ prompt.customer, context.avgSentimentScore = 0) :
    SentimentsAside ((AiStatement.ask prompt).apply s) where
  results := h.results
  asked p hp := by
    rcases List.mem_append.mp hp with hold | hnew
    · exact h.asked p hold
    · rw [List.mem_singleton.mp hnew]
      exact hprompt

theorem sentiments_admits (hs : SentimentsAside s) : Admits config SentimentsAside fun st =>
    ∀ s, SentimentsAside s → SentimentsAside (st.apply s) where
  store := ⟨s, hs⟩
  read _ _ h := h
  ask prompt hprompt s h := h.ask fun context hcontext => by
    rw [hprompt] at hcontext
    cases hcontext
  askRisk s hs tickets ties customerId tenantId s' h := by
    refine h.ask fun context hcontext => ?_
    cases hcontext
    simp only [customerContext, hs.recentSentiments]
    rfl
  createResult row haside s h := by
    refine { h with results := fun row' hrow => ?_ }
    rcases List.mem_append.mp hrow with hold | hnew
    · exact h.results row' hold
    · rw [List.mem_singleton.mp hnew]
      exact haside
  acceptResult id tenantId acceptedById acceptedAt s h := by
    refine { h with results := fun row hrow => ?_ }
    rcases Table.mem_updateMany.mp hrow with ⟨before, hbefore, -, rfl⟩ | ⟨hrow, -⟩
    · exact h.results before hbefore
    · exact h.results row hrow
  updateCategory _ _ _ _ _ _ _ h := ⟨h.results, h.asked⟩
  createActivity _ _ h := ⟨h.results, h.asked⟩
  publish _ _ h := ⟨h.results, h.asked⟩
  escalate _ _ _ _ _ _ _ _ h := ⟨h.results, h.asked⟩
  updateRiskScore _ _ _ _ _ _ h := ⟨h.results, h.asked⟩

/-- Sentiments are stored with the ticket alone, and the jobs that score a customer look for those
stored with the customer: in every run the average that the provider is told is 0. -/
theorem risk_scores_without_sentiment (config : AIConfig) (s : AiStore)
    (hresults : ∀ row ∈ s.results, row.Aside) (hasked : s.asked = [])
    (moves : List (Move (Turn AiEnv AiRequest) OtherWrite))
    (c : Pool AiStore (AiM Unit))
    (hrun : (aiPool config).machine.run (idle s) moves = some c) :
    ∀ prompt ∈ c.shared.asked, ∀ context ∈ prompt.customer, context.avgSentimentScore = 0 := by
  have hs : SentimentsAside s := ⟨hresults, fun prompt hprompt => by
    rw [hasked] at hprompt
    cases hprompt⟩
  have hend : SentimentsAside c.shared := by
    have hwrite : ∀ (w : OtherWrite) s, True → SentimentsAside s → SentimentsAside (w.apply s) :=
      fun _ _ _ h => ⟨h.results, h.asked⟩
    refine among_invariant (issues_request (sentiments_admits hs)) (fun s st s' h hV hok => ?_)
      hwrite hs (fun _ _ => trivial) hrun
    cases hok
    exact hV s h
  exact hend.asked

section demo

def quietEnv : AiEnv where
  service := sampleEnv
  faults _ := .none
  provider :=
    { categorizeTicket := fun _ _ => .error .database
      analyzeSentiment := fun _ => .error .database
      predictUrgency := fun _ _ => .error .database
      suggestResponse := fun _ _ => .error .database
      generateResolutionSummary := fun _ => .error .database
      calculateRiskScore := fun _ => .error .database }

def plainConfig : AIConfig := ⟨⟨fun _ => none, toString, fun _ => []⟩, 75⟩

/-- An angry customer: the sentiment of the ticket is stored. -/
def angryStore : AiStore where
  db :=
    { tickets := [{ (default : Ticket) with id := 3, tenantId := 2, customerId := 7 }]
      comments := []
      customers := [{ (default : Customer) with id := 7, tenantId := 2 }]
      tenants := []
      users := []
      refreshTokens := []
      sequences := []
      activities := []
      audits := []
      outbox := [] }
  settings _ := none
  results := [⟨1, 2, some 3, none, .sentiment, .sentiment ⟨⟨some (-1), "-1"⟩, "FRUSTRATED",
    ⟨some 1, "1"⟩⟩, some ⟨some 1, "1"⟩, 0, none, none, none, 0⟩]
  activities := []
  messages := []
  asked := []

def scoring : List (Move (Turn AiEnv AiRequest) OtherWrite) :=
  .act 0 (.start (.job ⟨"risk-score", 2, none, some 7, "Angry again"⟩)) ::
    List.replicate 7 (.act 0 (.next quietEnv 0))

theorem risk_scores_of_angry_customer :
    ∃ c, (aiPool plainConfig).machine.run (idle angryStore) scoring = some c ∧
      c.shared.asked.length = 1 ∧
      ∀ prompt ∈ c.shared.asked, ∀ context ∈ prompt.customer, context.avgSentimentScore = 0 := by
  obtain ⟨c, hrun⟩ : ∃ c, (aiPool plainConfig).machine.run (idle angryStore) scoring = some c :=
    ⟨_, rfl⟩
  have hasked : ((aiPool plainConfig).machine.run (idle angryStore) scoring).map
      (fun c => c.shared.asked.length) = some 1 := rfl
  rw [hrun] at hasked
  refine ⟨c, hrun, Option.some.inj hasked, ?_⟩
  have hresults : ∀ row ∈ angryStore.results, row.Aside := by
    intro row hrow _
    rw [List.mem_singleton.mp hrow]
  exact risk_scores_without_sentiment plainConfig angryStore hresults rfl scoring c hrun

end demo

end sentiments

section rows

def uncategorized (ticket : Ticket) : Ticket := { ticket with category := "", updatedAt := 0 }

/-- The tables without what the jobs write: the categories of the tickets, the customers, whose
rows a risk score writes as a whole, and the activities and events about these. -/
def asideJobs (s : Store) : Store :=
  { s with
    tickets := s.tickets.map uncategorized
    customers := []
    activities := []
    outbox := [] }

/-- No tenant lets the jobs escalate. -/
def Unescalated (config : AIConfig) (s : AiStore) : Prop :=
  ∀ tenantId, autoEscalates config tenantId s = false

/-- The write takes nothing from a category or a customer, and lets no job escalate. -/
structure OtherWrite.Apart (config : AIConfig) (w : OtherWrite) : Prop where
  rows : ∀ s t, asideJobs s = asideJobs t → asideJobs (w.db s) = asideJobs (w.db t)
  unescalated : ∀ s, Unescalated config s → Unescalated config (w.apply s)

variable {config : AIConfig} {s : AiStore}

/-- The call writes a customer and its events. -/
theorem ends_updateRiskScore {env : ServiceEnv} {d : Nat} {s : Store} {customerId tenantId : Uuid}
    {score : JsNumber} {label : String} :
    Ends env d s (fun _ _ t => asideJobs t = asideJobs s) (fun t => asideJobs t = asideJobs s)
      (CustomerService.updateRiskScore customerId tenantId score label) := by
  refine ends_read_bind (ends_lift_bind (fun customer _ => ?_) rfl) rfl
  refine ends_draw_bind (ends_lift_bind (fun scored _ => ?_) rfl)
  refine Ends.bind (Q := fun _ _ t => asideJobs t = asideJobs s)
    (ends_draw_bind (ends_call (fun updated s' hwritten => ?_) rfl)) ?_
  · unfold CustomerRepository.updateRow at hwritten
    split at hwritten
    · cases hwritten
    · cases hwritten
      rfl
  · intro updated d₁ s₁ h₁
    refine Ends.bind (Q := fun _ _ t => asideJobs t = asideJobs s)
      (ends_draw_bind (ends_call (fun u s' hs' => ?_) h₁)) fun _ d₂ s₂ h₂ => ?_
    · cases hs'
      exact h₁
    · refine Ends.bind (ends_publishAll h₂ fun rows => ?_) fun _ _ _ h => ends_pure h
      obtain ⟨outbox, hrows⟩ := enqueueMany_outbox (s := s₂) rows
      rw [hrows]
      exact h₂

theorem unescalated_admits (hs : Unescalated config s) : Admits config (Unescalated config)
    fun st => ∀ s, Unescalated config s →
      Unescalated config (st.apply s) ∧ asideJobs (st.apply s).db = asideJobs s.db where
  store := ⟨s, hs⟩
  read _ _ h := ⟨h, rfl⟩
  ask _ _ _ h := ⟨h, rfl⟩
  askRisk _ _ _ _ _ _ _ h := ⟨h, rfl⟩
  createResult _ _ _ h := ⟨h, rfl⟩
  acceptResult _ _ _ _ _ h := ⟨h, rfl⟩
  updateCategory ticketId tenantId value category now _ s h := by
    refine ⟨h, ?_⟩
    have hrows : (Table.updateMany (fun row => row.id = ticketId ∧ row.tenantId = tenantId)
        (AiStatement.categorize category now) s.db.tickets).map uncategorized =
        s.db.tickets.map uncategorized := Table.map_updateMany fun _ => rfl
    exact congrArg (fun rows => ({ asideJobs s.db with tickets := rows } : Store)) hrows
  createActivity _ _ h := ⟨h, rfl⟩
  publish _ _ h := ⟨h, rfl⟩
  escalate s hs tenantId hon _ _ _ _ _ := by
    rw [hs tenantId] at hon
    cases hon
  updateRiskScore customerId tenantId score label env s h := by
    have hends : Ends env.service 0 s.db (fun _ _ t => asideJobs t = asideJobs s.db)
        (fun t => asideJobs t = asideJobs s.db)
        ((fun _ => ()) <$> CustomerService.updateRiskScore customerId tenantId score label) :=
      ends_updateRiskScore.bind fun _ _ _ h => ends_pure h
    exact ⟨h, hends.leaves env.faults⟩

/-- While no tenant lets the jobs escalate, what other services write to a ticket, a comment or a
user meanwhile is never lost: a run leaves, beside categories, customers and what is recorded
about them, the rows that the writes of the other services alone leave. -/
theorem jobs_leave_other_writes (config : AIConfig) (s : AiStore) (hs : Unescalated config s)
    (moves : List (Move (Turn AiEnv AiRequest) OtherWrite))
    (hwrites : ∀ w ∈ writesOf moves, w.Apart config) (c : Pool AiStore (AiM Unit))
    (hrun : (aiPool config).machine.run (idle s) moves = some c) :
    asideJobs c.shared.db =
      asideJobs ((writesOf moves).foldl (fun t w => w.apply t) s).db := by
  refine (among_alone (R := fun s t : AiStore => asideJobs s.db = asideJobs t.db)
    (issues_request (unescalated_admits hs)) ?_ ?_ (c := idle s) hs rfl (fun _ => trivial) hwrites
      hrun).2
  · intro s st s' t h hR hV hok
    cases hok
    obtain ⟨hnext, hsame⟩ := hV s h
    exact ⟨hnext, hsame.trans hR⟩
  · exact fun w s t hw h hR => ⟨hw.unescalated s h, hw.rows _ _ hR⟩

section demo

/-- A provider that is sure of one category. -/
def billingEnv : AiEnv :=
  { quietEnv with
    provider :=
      { quietEnv.provider with
        categorizeTicket := fun _ _ => .ok ⟨"BILLING", ⟨some (9 / 10), "0.9"⟩, ""⟩ } }

def assignWrite : OtherWrite where
  db s := s.updateTicket 3 fun row => { row with assignedAgentId := some 4 }
  settings settings := settings

theorem assignWrite_apart : assignWrite.Apart plainConfig where
  rows s t h := by
    have hcomm : ∀ s, asideJobs (assignWrite.db s) = assignWrite.db (asideJobs s) := by
      intro s
      have hrows : (Table.updateMany (fun row : Ticket => row.id = 3)
          (fun row => { row with assignedAgentId := some 4 }) s.tickets).map uncategorized =
          Table.updateMany (fun row => row.id = 3)
            (fun row => { row with assignedAgentId := some 4 }) (s.tickets.map uncategorized) := by
        simp only [Table.updateMany, List.map_map]
        refine List.map_congr_left fun row _ => ?_
        by_cases hid : row.id = 3
        · simp [uncategorized, hid]
        · simp [uncategorized, hid]
      exact congrArg (fun rows => ({ asideJobs s with tickets := rows } : Store)) hrows
    rw [hcomm, hcomm, h]
  unescalated _ h := h

/-- An agent is assigned while the provider thinks about the category. -/
def categorizing : List (Move (Turn AiEnv AiRequest) OtherWrite) :=
  .act 0 (.start (.job ⟨"categorize", 2, some 3, none, "Charged twice"⟩)) ::
    (List.replicate 4 (.act 0 (.next billingEnv 0)) ++
      .env assignWrite :: List.replicate 7 (.act 0 (.next billingEnv 0)))

theorem jobs_leave_assignment :
    ∃ c, (aiPool plainConfig).machine.run (idle angryStore) categorizing = some c ∧
      c.shared.db.tickets.map (fun row => (row.category, row.assignedAgentId)) =
        [("BILLING", some 4)] ∧
      asideJobs c.shared.db = asideJobs (assignWrite.apply angryStore).db := by
  have htickets : ((aiPool plainConfig).machine.run (idle angryStore) categorizing).map
      (fun c => c.shared.db.tickets.map fun row => (row.category, row.assignedAgentId)) =
        some [("BILLING", some 4)] := by decide +kernel
  obtain ⟨c, hrun, hrows⟩ := Option.map_eq_some_iff.mp htickets
  refine ⟨c, hrun, hrows, ?_⟩
  refine jobs_leave_other_writes plainConfig angryStore (fun _ => rfl) categorizing
    (fun w hw => ?_) c hrun
  rw [List.mem_singleton.mp hw]
  exact assignWrite_apart

end demo

end rows
end OmniSupport.AI
