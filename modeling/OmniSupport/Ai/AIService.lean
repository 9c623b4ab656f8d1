import OmniSupport.Foundation.Paging
import OmniSupport.Foundation.Process
import OmniSupport.Identity.AccountService
import OmniSupport.Identity.FeatureFlagService
import OmniSupport.Notification.NotificationService
import OmniSupport.Ticket.TicketService

/-! The jobs of the AI worker: each reads its ticket or customer, asks the provider, stores the
result and acts on it. Their statements may interleave with anything else. -/
namespace OmniSupport.AI
open Foundation Database Identity Ticketing Notification

structure AICategorizationResult where
  category : String
  confidence : JsNumber
  reasoning : String

structure AISentimentResult where
  score : JsNumber
  label : String
  confidence : JsNumber

structure AIUrgencyResult where
  score : JsNumber
  recommendedPriority : String
  reasoning : String

structure AIResponseSuggestion where
  content : String
  tone : String
  reasoning : String

structure AIResolutionSummary where
  summary : String
  keyPoints : List String
  resolutionType : String

structure AIRiskScore where
  score : JsNumber
  label : String
  factors : List String

/-- What the text about a customer is made of. -/
structure CustomerContext where
  totalTickets : Nat
  unresolvedTickets : Nat
  escalatedTickets : Nat
  avgSentimentScore : Rat
  recentTicketPriorities : List TicketPriority

structure IAIProvider where
  categorizeTicket : String → String → Except AppError AICategorizationResult
  analyzeSentiment : String → Except AppError AISentimentResult
  predictUrgency : String → String → Except AppError AIUrgencyResult
  suggestResponse : String → String → Except AppError AIResponseSuggestion
  generateResolutionSummary : String → Except AppError AIResolutionSummary
  calculateRiskScore : CustomerContext → Except AppError AIRiskScore

/-- What the provider has been handed. -/
inductive Prompt where
  | categorizeTicket (title description : String)
  | analyzeSentiment (text : String)
  | predictUrgency (title description : String)
  | suggestResponse (ticketContext conversationHistory : String)
  | generateResolutionSummary (ticketContext : String)
  | calculateRiskScore (customerContext : CustomerContext)

inductive AIResultType where
  | categorization
  | sentiment
  | urgency
  | responseSuggestion
  | resolutionSummary
  | riskScore
  deriving DecidableEq, Repr

/-- The JSON of a result. -/
inductive AIAnswer where
  | categorization (result : AICategorizationResult)
  | sentiment (result : AISentimentResult)
  | urgency (result : AIUrgencyResult)
  | suggestion (result : AIResponseSuggestion)
  | summary (result : AIResolutionSummary)
  | riskScore (result : AIRiskScore)

/-- The member `score`, where there is one. -/
def AIAnswer.score : AIAnswer → Option JsNumber
  | .sentiment result => some result.score
  | .urgency result => some result.score
  | .riskScore result => some result.score
  | .categorization _ | .suggestion _ | .summary _ => none

structure AIResult where
  id : Uuid
  tenantId : Uuid
  ticketId : Option Uuid
  customerId : Option Uuid
  type : AIResultType
  result : AIAnswer
  confidence : Option JsNumber
  processingMs : Nat
  wasAccepted : Option Bool
  acceptedAt : Option Time
  acceptedById : Option Uuid
  createdAt : Time

inductive AIActivityType where
  | aiCategorized
  | aiEscalated
  | aiSummaryGenerated
  deriving DecidableEq

structure AIActivity where
  tenantId : Uuid
  ticketId : Uuid
  eventType : AIActivityType
  description : String
  newValue : JsonObject
  occurredAt : Time

/-- The database with the settings of the tenants, the results of the jobs and their activities,
beside what has gone to the rooms and to the provider. -/
structure AiStore where
  db : Store
  settings : Uuid → Option Json
  results : List AIResult
  activities : List AIActivity
  messages : List WSMessage
  asked : List Prompt

/-- The draws of a job: the answers of the provider among them, and the faults of the calls of
other services. -/
structure AiEnv where
  service : ServiceEnv
  faults : Nat → Fault
  provider : IAIProvider

inductive AiCall where
  | ticketFind
  | tenantFind
  | commentFindMany
  | customerFind
  | resultFindMany
  | provider
  | resultCreate
  | resultUpdate
  | ticketUpdateMany
  | activityCreate
  | publish
  | service
  deriving DecidableEq

inductive AiStatement where
  | read (kind : AiCall)
  | ask (prompt : Prompt)
  | createResult (row : AIResult)
  | acceptResult (id tenantId acceptedById : Uuid) (acceptedAt : Time)
  | updateCategory (ticketId tenantId : Uuid) (category : String) (now : Time)
  | createActivity (row : AIActivity)
  | publish (message : WSMessage)
  | service (body : ServiceM Unit) (env : AiEnv)

namespace AiStatement

def kind : AiStatement → AiCall
  | read kind => kind
  | ask _ => .provider
  | createResult _ => .resultCreate
  | acceptResult .. => .resultUpdate
  | updateCategory .. => .ticketUpdateMany
  | createActivity _ => .activityCreate
  | publish _ => .publish
  | service .. => .service

/-- Only the category is written, beside the time of the update. -/
def categorize (category : String) (now : Time) (row : Ticket) : Ticket :=
  { row with category := category, updatedAt := now }

def accept (acceptedById : Uuid) (acceptedAt : Time) (row : AIResult) : AIResult :=
  { row with
    wasAccepted := some true
    acceptedAt := some acceptedAt
    acceptedById := some acceptedById }

/-- A call of another service leaves what it has committed, whether it returns or not. -/
def apply (s : AiStore) : AiStatement → AiStore
  | read _ => s
  | ask prompt => { s with asked := s.asked ++ [prompt] }
  | createResult row => { s with results := s.results ++ [row] }
  | acceptResult id tenantId acceptedById acceptedAt =>
    { s with
      results := Table.updateMany (fun row => row.id = id ∧ row.tenantId = tenantId)
        (accept acceptedById acceptedAt) s.results }
  | updateCategory ticketId tenantId category now =>
    { s with
      db :=
        { s.db with
          tickets := Table.updateMany (fun row => row.id = ticketId ∧ row.tenantId = tenantId)
            (categorize category now) s.db.tickets } }
  | createActivity row => { s with activities := s.activities ++ [row] }
  | publish message => { s with messages := s.messages ++ [message] }
  | service body env =>
    { s with db := (body.run env.service env.faults (World.start s.db)).2.committed }

end AiStatement

def statements : Statements AiStore AiStatement AiCall AppError where
  exec st s := .ok (st.apply s)
  kind := AiStatement.kind
  client _ := .root
  error := .database

abbrev AiM := Process AiEnv AiStore AiStatement AppError

structure AIJobData where
  jobType : String
  tenantId : Uuid
  ticketId : Option Uuid
  customerId : Option Uuid
  content : String

structure AIConfig where
  flags : FlagSettings
  escalationUrgencyThreshold : Rat

/-- `toFixed`: the nearest decimal, of two the one further from zero. -/
def toFixed (digits : Nat) (n : JsNumber) : String :=
  match n.value with
  | none => n.text
  | some value =>
    if 10 ^ 21 ≤ |value| then n.text
    else
      let scaled := (|value| * 10 ^ digits + 1 / 2).floor.toNat
      let fraction := toString (scaled % 10 ^ digits)
      let padded := String.ofList (List.replicate (digits - fraction.length) '0') ++ fraction
      (if value < 0 then "-" else "") ++ toString (scaled / 10 ^ digits) ++
        if digits = 0 then "" else "." ++ padded

def atLeast (n : JsNumber) (bound : Rat) : Bool := n.value.any (bound ≤ ·)

def scale (factor : Rat) (n : JsNumber) : JsNumber := { n with value := n.value.map (· * factor) }

def number (n : JsNumber) : JsonValue := .number (n.value.getD 0)

namespace AiPolicy

def shouldProcess (featureEnabled tenantActive : Bool) (contentLength : Nat) : Bool :=
  featureEnabled && tenantActive && 8 ≤ contentLength

end AiPolicy

namespace AIService
open Process

def now : AiM Time := drawn fun env n => env.service.clock n

def findTicket (ticketId tenantId : Uuid) : AiM (Option Ticket) :=
  statement (.read .ticketFind) fun s => s.db.findTicket ticketId tenantId

def tenantFlags (tenantId : Uuid) : AiM Json :=
  statement (.read .tenantFind) fun s => getTenantFlags (s.settings tenantId)

/-- An answer of the provider to the prompt. -/
def ask {α : Type} (prompt : Prompt) (answer : IAIProvider → Except AppError α) : AiM α := do
  execute (.ask prompt)
  let result ← drawn fun env _ => answer env.provider
  lift result

/-- A call of another service; a crash ends the job, too. -/
def service {α : Type} (body : ServiceM α) : AiM α :=
  .draw fun env _ => .call (.service ((fun _ => ()) <$> body) env) fun s =>
    match (body.run env.service env.faults (World.start s.db)).1 with
    | .ok a => .ret a
    | .error e => .throw e
    | .crashed => .throw (.plain "crashed")

def saveResult (data : AIJobData) (ticketId customerId : Option Uuid) (type : AIResultType)
    (result : AIAnswer) (confidence : Option JsNumber) (wasAccepted : Option Bool)
    (startTime : Time) : AiM Uuid := do
  let id ← drawn fun env n => env.service.uuid n
  let finished ← now
  let createdAt ← now
  execute (.createResult
    { id, tenantId := data.tenantId, ticketId, customerId, type, result, confidence
      processingMs := finished - startTime, wasAccepted
      acceptedAt := none, acceptedById := none, createdAt })
  return id

def createActivity (data : AIJobData) (ticketId : Uuid) (eventType : AIActivityType)
    (description : String) (newValue : JsonObject) : AiM Unit := do
  let occurredAt ← now
  execute (.createActivity
    { tenantId := data.tenantId, ticketId, eventType, description, newValue, occurredAt })

section jobs
variable (config : AIConfig)

/-- The flag of a kind of job, which is on when nothing is said about it, and the policy. -/
def mayProcess (feature : FeatureFlag) (data : AIJobData) (subjectId : Uuid) : AiM Bool := do
  let enabled ← FeatureFlagService.isEnabled config.flags tenantFlags feature.text
    { tenantId := some data.tenantId, subjectId := some subjectId, fallbackEnabled := some true }
  return enabled && AiPolicy.shouldProcess true true (JsText.length data.content)

def isAutoEscalationEnabled (tenantId : Uuid) : AiM Bool :=
  FeatureFlagService.isEnabled config.flags tenantFlags FeatureFlag.aiAutoEscalation.text
    { tenantId := some tenantId, fallbackEnabled := some false }

/-- What the jobs on tickets start with: nothing is done for a ticket that the organization does
not have. -/
def ticketJob (feature : FeatureFlag) (data : AIJobData) (job : Uuid → Ticket → AiM Unit) :
    AiM Unit := do
  let some ticketId := data.ticketId | return ()
  let some ticket ← findTicket ticketId data.tenantId | return ()
  if ← mayProcess config feature data ticketId then job ticketId ticket

/-- The escalation that the system asks for. -/
def escalate (data : AIJobData) (ticketId : Uuid) (reason : String) : AiM Unit := do
  let _ ← service (TicketService.escalateTicket ⟨data.tenantId, ticketId, reason, .system, .system⟩)

def processCategorizationJob (data : AIJobData) : AiM Unit :=
  ticketJob config .aiCategorization data fun ticketId ticket => do
    let startTime ← now
    let result ← ask (.categorizeTicket ticket.title ticket.description) fun provider =>
      provider.categorizeTicket ticket.title ticket.description
    let _ ← saveResult data (some ticketId) none .categorization (.categorization result)
      (some result.confidence) none startTime
    if atLeast result.confidence (7 / 10) then
      let categorized ← lift ((TicketEntity.reconstitute ticket).updateCategory result.category)
      let updatedAt ← now
      execute (.updateCategory ticketId data.tenantId categorized.row.category updatedAt)
      createActivity data ticketId .aiCategorized
        ("AI categorized ticket as " ++ result.category ++ " (confidence: " ++
          toFixed 0 (scale 100 result.confidence) ++ "%)")
        [("category", .text result.category), ("confidence", number result.confidence)]
    tryExecute (.publish
      { target := .ticket ticketId
        event := "ai:categorized"
        data := [("ticketId", .id ticketId), ("category", .text result.category),
          ("confidence", number result.confidence)] })

/-- The ticket is read again before it is escalated. -/
def processSentimentJob (data : AIJobData) : AiM Unit :=
  ticketJob config .aiSentiment data fun ticketId _ => do
    let startTime ← now
    let result ← ask (.analyzeSentiment data.content) fun provider =>
      provider.analyzeSentiment data.content
    let _ ← saveResult data (some ticketId) none .sentiment (.sentiment result)
      (some result.confidence) none startTime
    tryExecute (.publish
      { target := .ticket ticketId
        event := "ai:sentiment"
        data := [("ticketId", .id ticketId), ("sentiment", .texts [result.score.text, result.label,
          result.confidence.text])] })
    if result.label = "FRUSTRATED" ∧ atLeast result.confidence (8 / 10) then
      if ← isAutoEscalationEnabled config data.tenantId then
        let some ticket ← findTicket ticketId data.tenantId | return ()
        if !ticket.isEscalated && ticket.status.isActive then
          escalate data ticketId
            ("AI detected frustrated customer (sentiment score: " ++ toFixed 2 result.score ++ ")")

/-- The ticket that decides about the escalation is the one read at the start. -/
def processUrgencyJob (data : AIJobData) : AiM Unit :=
  ticketJob config .aiUrgency data fun ticketId ticket => do
    let startTime ← now
    let result ← ask (.predictUrgency ticket.title ticket.description) fun provider =>
      provider.predictUrgency ticket.title ticket.description
    let _ ← saveResult data (some ticketId) none .urgency (.urgency result)
      (some (scale (1 / 100) result.score)) none startTime
    if atLeast result.score config.escalationUrgencyThreshold && !ticket.isEscalated &&
        ticket.status.isActive then
      if ← isAutoEscalationEnabled config data.tenantId then
        escalate data ticketId ("AI predicted high urgency score: " ++ result.score.text ++
          "/100. " ++ result.reasoning)
        createActivity data ticketId .aiEscalated
          ("AI auto-escalated ticket due to urgency score: " ++ result.score.text)
          [("urgencyScore", number result.score), ("reasoning", .text result.reasoning)]
    tryExecute (.publish
      { target := .ticket ticketId
        event := "ai:urgency"
        data := [("ticketId", .id ticketId), ("urgency", .texts [result.score.text,
          result.recommendedPriority, result.reasoning])] })

/-- The public comments of the ticket with their authors, in the order of the query. -/
def publicComments (le : TicketComment → TicketComment → Bool) (ties : Nat → Nat) (ticketId : Uuid)
    (s : AiStore) : List (TicketComment × Option User) :=
  (Paging.orderRows le ties (s.db.comments.filter fun comment =>
    comment.ticketId = ticketId && comment.type = .publicComment)).map fun comment =>
      (comment, s.db.users.find? fun user => user.id = comment.authorId)

def authored (rows : List (TicketComment × Option User)) :
    Except AppError (List (TicketComment × User)) :=
  rows.mapM fun row => (orThrow AppError.database row.2).map fun author => (row.1, author)

/-- A comment whose author is missing makes the query fail. -/
def findPublicComments (le : TicketComment → TicketComment → Bool) (take : Option Nat)
    (ticketId : Uuid) : AiM (List (TicketComment × User)) := do
  let ties ← drawn fun env n => env.service.ties n
  let rows ← statement (.read .commentFindMany) (publicComments le ties ticketId)
  lift (authored ((take.map fun n => rows.take n).getD rows))

def joined (separator : String) (texts : List String) : String := separator.intercalate texts

def roleText : UserRole → String
  | .platformAdmin => "PLATFORM_ADMIN"
  | .tenantManager => "TENANT_MANAGER"
  | .agent => "AGENT"
  | .customer => "CUSTOMER"

def processSuggestResponseJob (data : AIJobData) : AiM Unit :=
  ticketJob config .aiResponseSuggestion data fun ticketId ticket => do
    let recentComments ← findPublicComments (fun c c' => c'.createdAt ≤ c.createdAt) (some 5)
      ticketId
    let conversationHistory := joined "\n\n" (recentComments.reverse.map fun row =>
      row.2.firstName ++ " (" ++ roleText row.2.role ++ "): " ++ row.1.content)
    let ticketContext := "Title: " ++ ticket.title ++ "\nDescription: " ++ ticket.description ++
      "\nStatus: " ++ ticket.status.text ++ "\nCategory: " ++ ticket.category
    let startTime ← now
    let result ← ask (.suggestResponse ticketContext conversationHistory) fun provider =>
      provider.suggestResponse ticketContext conversationHistory
    let suggestionId ← saveResult data (some ticketId) none .responseSuggestion
      (.suggestion result) none (some false) startTime
    if let some agentId := ticket.assignedAgentId then
      tryExecute (.publish
        { target := .user agentId
          event := "ai:response-suggestion"
          data := [("ticketId", .id ticketId), ("suggestionId", .id suggestionId),
            ("suggestion", .texts [result.content, result.tone, result.reasoning])] })

def processSummarizeJob (data : AIJobData) : AiM Unit :=
  ticketJob config .aiSummary data fun ticketId ticket => do
    let comments ← findPublicComments (fun c c' => c.createdAt ≤ c'.createdAt) none ticketId
    let commentsText := joined "\n\n" (comments.map fun row =>
      row.2.firstName ++ ": " ++ row.1.content)
    let fullContext := "\nTicket: " ++ ticket.title ++ "\nDescription: " ++ ticket.description ++
      "\nCategory: " ++ ticket.category ++ "\nPriority: " ++ ticket.priority.text ++
      "\nConversation:\n" ++ commentsText ++ "\n      "
    let startTime ← now
    let result ← ask (.generateResolutionSummary fullContext) fun provider =>
      provider.generateResolutionSummary fullContext
    let _ ← saveResult data (some ticketId) none .resolutionSummary (.summary result) none none
      startTime
    createActivity data ticketId .aiSummaryGenerated "AI generated resolution summary"
      [("resolutionType", .text result.resolutionType)]

/-- The sentiment results of the customer, the latest first. -/
def recentSentiments (ties : Nat → Nat) (customerId tenantId : Uuid) (s : AiStore) :
    List AIResult :=
  (Paging.orderRows (fun r r' => r'.createdAt ≤ r.createdAt) ties (s.results.filter fun row =>
    row.customerId = some customerId && row.type = .sentiment && row.tenantId = tenantId)).take 10

def avgSentiment (results : List AIResult) : Rat :=
  if results.length > 0 then
    (results.map fun row => ((row.result.score.bind JsNumber.value).getD 0)).sum / results.length
  else 0

/-- The latest tickets of a customer of the organization. -/
def customerTickets (ties : Nat → Nat) (customerId tenantId : Uuid) (s : AiStore) :
    Option (List Ticket) :=
  (s.db.findCustomer customerId tenantId).map fun customer =>
    (Paging.orderRows (fun t t' => t'.createdAt ≤ t.createdAt) ties
      (s.db.tickets.filter fun ticket => ticket.customerId = customer.id)).take 20

def customerContext (tickets : List Ticket) (sentiments : List AIResult) : CustomerContext where
  totalTickets := tickets.length
  unresolvedTickets := tickets.countP fun ticket =>
    !(ticket.status = .resolved || ticket.status = .closed)
  escalatedTickets := tickets.countP Ticket.isEscalated
  avgSentimentScore := avgSentiment sentiments
  recentTicketPriorities := (tickets.take 5).map Ticket.priority

def processRiskScoreJob (data : AIJobData) : AiM Unit := do
  let some customerId := data.customerId | return ()
  if ← mayProcess config .aiRiskScore data customerId then
    let ties ← drawn fun env n => env.service.ties n
    let some tickets ← statement (.read .customerFind) (customerTickets ties customerId
      data.tenantId) | return ()
    let ties ← drawn fun env n => env.service.ties n
    let sentiments ← statement (.read .resultFindMany) (recentSentiments ties customerId
      data.tenantId)
    let context := customerContext tickets sentiments
    let startTime ← now
    let result ← ask (.calculateRiskScore context) fun provider =>
      provider.calculateRiskScore context
    let _ ← saveResult data none (some customerId) .riskScore (.riskScore result)
      (some (scale (1 / 100) result.score)) none startTime
    let _ ← service (CustomerService.updateRiskScore customerId data.tenantId result.score
      result.label)

/-- The handlers that the worker is created with. -/
def handle (data : AIJobData) : AiM Unit :=
  let withTicket (process : AIJobData → AiM Unit) : AiM Unit :=
    if data.ticketId.isNone then
      throw (.plain ("AI job " ++ data.jobType ++ " requires a ticketId"))
    else process data
  match data.jobType with
  | "categorize" => withTicket (processCategorizationJob config)
  | "sentiment" => withTicket (processSentimentJob config)
  | "urgency" => withTicket (processUrgencyJob config)
  | "suggest-response" => withTicket (processSuggestResponseJob config)
  | "summarize" => withTicket (processSummarizeJob config)
  | "risk-score" =>
    if data.customerId.isNone then throw (.plain "AI job risk-score requires a customerId")
    else processRiskScoreJob config data
  | jobType => throw (.plain ("No handler for AI job type: " ++ jobType))

end jobs

def acceptResponseSuggestion (suggestionId tenantId acceptedById : Uuid) : AiM Unit := do
  let acceptedAt ← now
  execute (.acceptResult suggestionId tenantId acceptedById acceptedAt)

end AIService

/-- What starts a process: a job that the worker takes, or a user who accepts a suggestion. -/
inductive AiRequest where
  | job (data : AIJobData)
  | accept (suggestionId tenantId acceptedById : Uuid)

def AiRequest.process (config : AIConfig) : AiRequest → AiM Unit
  | job data => AIService.handle config data
  | accept suggestionId tenantId acceptedById =>
    AIService.acceptResponseSuggestion suggestionId tenantId acceptedById

end OmniSupport.AI
