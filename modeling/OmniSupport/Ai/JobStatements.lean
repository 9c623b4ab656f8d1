import OmniSupport.Ai.AIService
import OmniSupport.Foundation.Interference

/-! What the statements of the jobs are, whatever they read and whatever the provider answers. -/
namespace OmniSupport.AI
open Foundation Process Database Identity Ticketing AIService

/-- The answer of the flag for automatic escalation in this store. -/
def autoEscalates (config : AIConfig) (tenantId : Uuid) (s : AiStore) : Bool :=
  Id.run (FeatureFlagService.isEnabled config.flags (fun id => pure (getTenantFlags (s.settings id)))
    FeatureFlag.aiAutoEscalation.text
    { tenantId := some tenantId, fallbackEnabled := some false })

/-- The sentiments that are kept are of tickets, of no customer. -/
def AIResult.Aside (row : AIResult) : Prop := row.type = .sentiment → row.customerId = none

/-- The context in a prompt about a customer. -/
def Prompt.customer : Prompt → Option CustomerContext
  | .calculateRiskScore context => some context
  | _ => none

/-- What is enough for every statement of the jobs to satisfy `V`, in stores that satisfy `K`. -/
structure Admits (config : AIConfig) (K : AiStore → Prop) (V : AiStatement → Prop) : Prop where
  store : ∃ s, K s
  read : ∀ kind, V (.read kind)
  ask : ∀ prompt, prompt.customer = none → V (.ask prompt)
  askRisk : ∀ s, K s → ∀ tickets ties customerId tenantId,
    V (.ask (.calculateRiskScore
      (customerContext tickets (recentSentiments ties customerId tenantId s))))
  createResult : ∀ row : AIResult, row.Aside → V (.createResult row)
  acceptResult : ∀ id tenantId acceptedById acceptedAt,
    V (.acceptResult id tenantId acceptedById acceptedAt)
  updateCategory : ∀ ticketId tenantId value category now, ticketCategory value = .ok category →
    V (.updateCategory ticketId tenantId category now)
  createActivity : ∀ row, V (.createActivity row)
  publish : ∀ message, V (.publish message)
  escalate : ∀ s, K s → ∀ tenantId, autoEscalates config tenantId s = true → ∀ ticketId reason env,
    V (.service ((fun _ => ()) <$> TicketService.escalateTicket
      ⟨tenantId, ticketId, reason, .system, .system⟩) env)
  updateRiskScore : ∀ customerId tenantId score label env,
    V (.service ((fun _ => ()) <$> CustomerService.updateRiskScore customerId tenantId score label)
      env)

section blocks
variable {config : AIConfig} {K : AiStore → Prop} {V : AiStatement → Prop}

theorem issues_now : now.IssuesWhile K V fun _ => True := issuesWhile_drawn fun _ _ => trivial

/-- The answer of a flag is one it has in a store of the run. -/
theorem issues_isEnabled (h : Admits config K V) {feature : String}
    {context : FeatureEvaluationContext} {Q : Bool → Prop}
    (hQ : ∀ s, K s → Q (Id.run (FeatureFlagService.isEnabled config.flags
      (fun id => pure (getTenantFlags (s.settings id))) feature context))) :
    (FeatureFlagService.isEnabled config.flags tenantFlags feature context : AiM Bool).IssuesWhile
      K V Q := by
  obtain ⟨store, hstore⟩ := h.store
  unfold FeatureFlagService.isEnabled at hQ ⊢
  cases hoverride : FeatureFlagService.getGlobalOverride config.flags feature with
  | some override =>
    rw [hoverride] at hQ
    exact hQ store hstore
  | none =>
    simp only [hoverride] at hQ ⊢
    cases htenant : context.tenantId with
    | none =>
      rw [htenant] at hQ
      exact hQ store hstore
    | some tenantId =>
      simp only [htenant] at hQ ⊢
      refine ⟨h.read _, fun s hs => ?_⟩
      have hanswer := hQ s hs
      simp only [pure_bind] at hanswer
      simp only [Process.andThen]
      cases hget : (getTenantFlags (s.settings tenantId)).get feature with
      | none =>
        rw [hget] at hanswer
        exact hanswer
      | some definition =>
        simp only [hget] at hanswer ⊢
        split at hanswer
        · rename_i htruthy
          rw [if_pos htruthy]
          exact hanswer
        · rename_i htruthy
          rw [if_neg htruthy]
          exact hanswer

theorem issues_mayProcess (h : Admits config K V) (feature : FeatureFlag) (data : AIJobData)
    (subjectId : Uuid) : (mayProcess config feature data subjectId).IssuesWhile K V fun _ => True :=
  (issues_isEnabled (Q := fun _ => True) h fun _ _ => trivial).next fun _ => trivial

theorem issues_findTicket (h : Admits config K V) (ticketId tenantId : Uuid) :
    (findTicket ticketId tenantId).IssuesWhile K V fun _ => True :=
  issuesWhile_statement (h.read _) fun _ _ => trivial

theorem issues_ask {α : Type} {prompt : Prompt} {answer : IAIProvider → Except AppError α}
    (hV : V (.ask prompt)) : (ask prompt answer).IssuesWhile K V fun _ => True :=
  IssuesWhile.next (issuesWhile_statement hV fun _ _ => trivial) fun _ =>
    IssuesWhile.next (issuesWhile_drawn fun _ _ => trivial) fun _ =>
      issuesWhile_lift fun _ _ => trivial

theorem issues_service {α : Type} {body : ServiceM α}
    (hV : ∀ env, V (.service ((fun _ => ()) <$> body) env)) :
    (service body).IssuesWhile K V fun _ => True := by
  refine fun env n => ⟨hV env, fun s _ => ?_⟩
  dsimp only
  split
  · trivial
  · trivial
  · trivial

theorem issues_saveResult (h : Admits config K V) {data : AIJobData}
    {ticketId customerId : Option Uuid} {type : AIResultType} {result : AIAnswer}
    {confidence : Option JsNumber} {wasAccepted : Option Bool} {startTime : Time}
    (haside : type = .sentiment → customerId = none) :
    (saveResult data ticketId customerId type result confidence wasAccepted
      startTime).IssuesWhile K V fun _ => True :=
  IssuesWhile.next (issuesWhile_drawn fun _ _ => trivial) fun _ => issues_now.next fun _ =>
    issues_now.next fun _ =>
      IssuesWhile.next (issuesWhile_statement (h.createResult _ haside) fun _ _ => trivial)
        fun _ => issuesWhile_pure trivial

theorem issues_createActivity (h : Admits config K V) {data : AIJobData} {ticketId : Uuid}
    {eventType : AIActivityType} {description : String} {newValue : JsonObject} :
    (createActivity data ticketId eventType description newValue).IssuesWhile K V fun _ => True :=
  issues_now.next fun _ => issuesWhile_statement (h.createActivity _) fun _ _ => trivial

theorem issues_publish (h : Admits config K V) (message : Notification.WSMessage) :
    (tryExecute (.publish message) : AiM Unit).IssuesWhile K V fun _ => True :=
  issuesWhile_tryExecute (h.publish message) trivial

theorem issues_autoEscalation (h : Admits config K V) (tenantId : Uuid) :
    (isAutoEscalationEnabled config tenantId).IssuesWhile K V fun enabled =>
      enabled = true → ∃ s, K s ∧ autoEscalates config tenantId s = true :=
  issues_isEnabled h fun s hs henabled => ⟨s, hs, henabled⟩

theorem ticketCategory_of_updateCategory {ticket categorized : TicketEntity} {value : String}
    (h : ticket.updateCategory value = .ok categorized) :
    ticketCategory value = .ok categorized.row.category := by
  obtain ⟨category, hcategory, hrow⟩ := bind_eq_ok.mp h
  rw [← Except.ok.inj hrow]
  exact hcategory

theorem issues_categorized {ticket : TicketEntity} {value : String}
    {x : Except AppError TicketEntity} (hx : ticket.updateCategory value = x) :
    (lift x : AiM TicketEntity).IssuesWhile K V fun categorized =>
      ticketCategory value = .ok categorized.row.category :=
  issuesWhile_lift fun _ h => ticketCategory_of_updateCategory (hx.trans h)

theorem issues_escalate (h : Admits config K V) {data : AIJobData} {ticketId : Uuid}
    {reason : String} (henabled : ∃ s, K s ∧ autoEscalates config data.tenantId s = true) :
    (escalate data ticketId reason).IssuesWhile K V fun _ => True := by
  obtain ⟨s, hs, hon⟩ := henabled
  exact (issues_service fun env => h.escalate s hs _ hon _ _ env).next fun _ => trivial

end blocks

section jobs
variable {config : AIConfig} {K : AiStore → Prop} {V : AiStatement → Prop}

theorem issues_ticketJob (h : Admits config K V) {feature : FeatureFlag} {data : AIJobData}
    {job : Uuid → Ticket → AiM Unit}
    (hjob : ∀ ticketId ticket, (job ticketId ticket).IssuesWhile K V fun _ => True) :
    (ticketJob config feature data job).IssuesWhile K V fun _ => True := by
  unfold ticketJob
  split
  · refine (issues_findTicket h _ _).next fun found => ?_
    split
    · refine (issues_mayProcess h _ _ _).next fun may => ?_
      split
      · exact hjob _ _
      · trivial
    · trivial
  · trivial

theorem issues_categorization (h : Admits config K V) (data : AIJobData) :
    (processCategorizationJob config data).IssuesWhile K V fun _ => True := by
  refine issues_ticketJob h fun ticketId ticket => ?_
  refine issues_now.next fun startTime => ?_
  refine (issues_ask (h.ask _ rfl)).next fun result => ?_
  refine (issues_saveResult h fun _ => rfl).next fun _ => ?_
  dsimp only
  split
  · generalize hx : TicketEntity.updateCategory result.category _ = x
    refine (issues_categorized hx).bind fun categorized hcategory => ?_
    refine issues_now.next fun updatedAt => ?_
    refine IssuesWhile.next (issuesWhile_statement (h.updateCategory _ _ _ _ _ hcategory)
      fun _ _ => trivial) fun _ => ?_
    exact (issues_createActivity h).next fun _ => issues_publish h _
  · exact issues_publish h _

theorem issues_sentiment (h : Admits config K V) (data : AIJobData) :
    (processSentimentJob config data).IssuesWhile K V fun _ => True := by
  refine issues_ticketJob h fun ticketId ticket => ?_
  refine issues_now.next fun startTime => ?_
  refine (issues_ask (h.ask _ rfl)).next fun result => ?_
  refine (issues_saveResult h fun _ => rfl).next fun _ => ?_
  refine (issues_publish h _).next fun _ => ?_
  split
  · refine (issues_autoEscalation h _).bind fun enabled henabled => ?_
    split
    · rename_i hon
      refine (issues_findTicket h _ _).next fun found => ?_
      split
      · split
        · exact issues_escalate h (henabled hon)
        · trivial
      · trivial
    · trivial
  · trivial

theorem issues_urgency (h : Admits config K V) (data : AIJobData) :
    (processUrgencyJob config data).IssuesWhile K V fun _ => True := by
  refine issues_ticketJob h fun ticketId ticket => ?_
  refine issues_now.next fun startTime => ?_
  refine (issues_ask (h.ask _ rfl)).next fun result => ?_
  refine (issues_saveResult h fun _ => rfl).next fun _ => ?_
  dsimp only
  split
  · refine (issues_autoEscalation h _).bind fun enabled henabled => ?_
    split
    · rename_i hon
      refine (issues_escalate h (henabled hon)).next fun _ => ?_
      exact (issues_createActivity h).next fun _ => issues_publish h _
    · exact issues_publish h _
  · exact issues_publish h _

theorem issues_publicComments (h : Admits config K V) {le : TicketComment → TicketComment → Bool}
    {take : Option Nat} {ticketId : Uuid} :
    (findPublicComments le take ticketId).IssuesWhile K V fun _ => True :=
  IssuesWhile.next (issuesWhile_drawn fun _ _ => trivial) fun _ =>
    IssuesWhile.next (issuesWhile_statement (h.read _) fun _ _ => trivial) fun _ =>
      issuesWhile_lift fun _ _ => trivial

theorem issues_suggestResponse (h : Admits config K V) (data : AIJobData) :
    (processSuggestResponseJob config data).IssuesWhile K V fun _ => True := by
  refine issues_ticketJob h fun ticketId ticket => ?_
  refine (issues_publicComments h).next fun comments => ?_
  refine issues_now.next fun startTime => ?_
  refine (issues_ask (h.ask _ rfl)).next fun result => ?_
  refine (issues_saveResult h fun _ => rfl).next fun _ => ?_
  split
  · exact issues_publish h _
  · trivial

theorem issues_summarize (h : Admits config K V) (data : AIJobData) :
    (processSummarizeJob config data).IssuesWhile K V fun _ => True := by
  refine issues_ticketJob h fun ticketId ticket => ?_
  refine (issues_publicComments h).next fun comments => ?_
  refine issues_now.next fun startTime => ?_
  refine (issues_ask (h.ask _ rfl)).next fun result => ?_
  refine (issues_saveResult h fun _ => rfl).next fun _ => ?_
  exact issues_createActivity h

theorem issues_riskScore (h : Admits config K V) (data : AIJobData) :
    (processRiskScoreJob config data).IssuesWhile K V fun _ => True := by
  unfold processRiskScoreJob
  split
  · refine (issues_mayProcess h _ _ _).next fun may => ?_
    split
    · refine IssuesWhile.next (issuesWhile_drawn fun _ _ => trivial) fun ties => ?_
      refine IssuesWhile.next (issuesWhile_statement (h.read _) fun _ _ => trivial) fun found => ?_
      split
      · rename_i tickets
        refine IssuesWhile.next (issuesWhile_drawn fun _ _ => trivial) fun ties => ?_
        refine (issuesWhile_statement (Q := fun sentiments => ∃ s, K s ∧
          sentiments = recentSentiments ties _ data.tenantId s) (h.read _)
            fun s hs => ⟨s, hs, rfl⟩).bind ?_
        rintro _ ⟨s, hs, rfl⟩
        refine issues_now.next fun startTime => ?_
        refine (issues_ask (h.askRisk s hs _ _ _ _)).next fun result => ?_
        refine (issues_saveResult h (by intro htype; cases htype)).next fun _ => ?_
        exact (issues_service fun env => h.updateRiskScore _ _ _ _ env).next fun _ => trivial
      · trivial
    · trivial
  · trivial

/-- Every statement of a request is one of those that are admitted. -/
theorem issues_request (h : Admits config K V) (request : AiRequest) :
    (request.process config).IssuesWhile K V fun _ => True := by
  have hticket : ∀ (data : AIJobData) (process : AIJobData → AiM Unit),
      (process data).IssuesWhile K V (fun _ => True) → IssuesWhile K V (fun _ => True)
        (if data.ticketId.isNone then
          Process.throw (.plain ("AI job " ++ data.jobType ++ " requires a ticketId"))
        else process data) := by
    intro data process hprocess
    split
    · trivial
    · exact hprocess
  cases request with
  | accept suggestionId tenantId acceptedById =>
    exact issues_now.next fun _ =>
      issuesWhile_statement (h.acceptResult _ _ _ _) fun _ _ => trivial
  | job data =>
    unfold AiRequest.process handle
    dsimp only
    split
    · exact hticket data _ (issues_categorization h data)
    · exact hticket data _ (issues_sentiment h data)
    · exact hticket data _ (issues_urgency h data)
    · exact hticket data _ (issues_suggestResponse h data)
    · exact hticket data _ (issues_summarize h data)
    · split
      · trivial
      · exact issues_riskScore h data
    · trivial

end jobs
end OmniSupport.AI
