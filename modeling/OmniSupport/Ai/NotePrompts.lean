import OmniSupport.Ai.JobEffects
import OmniSupport.Foundation.Views
import OmniSupport.Tenancy.TenantCalls

/-! Two runs of the jobs that differ in internal notes: the provider is asked the same in both. -/
namespace OmniSupport.AI
open Foundation Process Effect Database Identity Ticketing Tenancy AIService

section stores

def isPublic (comment : TicketComment) : Bool := comment.type = .publicComment

def withoutComments (s : Store) : Store := { s with comments := [] }

/-- The tables differ in internal notes alone. -/
structure NotesAside (s t : Store) : Prop where
  rest : withoutComments s = withoutComments t
  comments : Table.SameView isPublic s.comments t.comments

variable {s t : Store} {env : ServiceEnv} {B : Uuid}

/-- What is read from the other tables is the same. -/
theorem NotesAside.reads (h : NotesAside s t) {β : Sort*} {f : Store → β}
    (hf : ∀ s, f (withoutComments s) = f s) : f s = f t := by
  rw [← hf s, ← hf t, h.rest]

theorem NotesAside.writes (h : NotesAside s t) {f : Store → Store}
    (hf : ∀ s, withoutComments (f s) = f (withoutComments s))
    (hcomments : ∀ s, (f s).comments = s.comments) : NotesAside (f s) (f t) where
  rest := by rw [hf, hf, h.rest]
  comments := by
    rw [hcomments, hcomments]
    exact h.comments

theorem nextTicketNumber_withoutComments (s : Store) : (withoutComments s).nextTicketNumber B =
    ((s.nextTicketNumber B).1, withoutComments (s.nextTicketNumber B).2) := by
  have hrows : (withoutComments s).sequences = s.sequences := rfl
  unfold Store.nextTicketNumber
  rw [hrows]
  cases s.sequences.find? fun sequence => sequence.tenantId = B with
  | none => rfl
  | some sequence => rfl

theorem NotesAside.nextTicketNumber (h : NotesAside s t) :
    (s.nextTicketNumber B).1 = (t.nextTicketNumber B).1 ∧
      NotesAside (s.nextTicketNumber B).2 (t.nextTicketNumber B).2 := by
  have hnumber : (s.nextTicketNumber B).1 = (t.nextTicketNumber B).1 :=
    h.reads (f := fun s => (s.nextTicketNumber B).1) fun s => by
      rw [nextTicketNumber_withoutComments]
  refine ⟨hnumber, h.writes (f := fun s => (s.nextTicketNumber B).2) (fun s => ?_) fun s => ?_⟩
  · rw [nextTicketNumber_withoutComments]
  · obtain ⟨sequences, hs⟩ := nextTicketNumber_sequences (s := s) B
    rw [hs]

theorem NotesAside.enqueueMany (h : NotesAside s t)
    (rows : List (Outbox.OutboxEvent EventBody)) :
    NotesAside (s.enqueueMany rows) (t.enqueueMany rows) := by
  induction rows generalizing s t with
  | nil => exact h
  | cons row rows ih =>
    refine ih (h.writes (f := fun s => s.enqueue row) (fun s => ?_) fun s => ?_)
    · have hknown : (withoutComments s).outbox = s.outbox := rfl
      unfold Store.enqueue
      rw [hknown]
      split
      · rfl
      · rfl
    · unfold Store.enqueue
      split
      · rfl
      · rfl

/-- Calls that are about no comment keep stores apart by internal notes alone. -/
def publicScope (env : ServiceEnv) (B : Uuid) : CallScope env B where
  Same := NotesAside
  Names _ _ _ := False
  Adds _ := False
  Tells _ := True
  Refers _ _ _ := False
  users h := h.reads fun _ => rfl
  tenants h := h.reads fun _ => rfl
  findTicket h := h.reads fun _ => rfl
  findComment _ hnames := hnames.elim
  findCustomer h := h.reads fun _ => rfl
  ticketRow {_ _ id} h _ := h.reads
    (f := fun s => s.tickets.find? fun row => row.id = id) fun _ => rfl
  commentRow _ hnames := hnames.elim
  customerRow {_ _ id} h _ := h.reads
    (f := fun s => s.customers.find? fun row => row.id = id) fun _ => rfl
  ticketStands h howns := by
    obtain ⟨ticket, hmem, hid, -⟩ := howns
    have htickets : Store.tickets _ = Store.tickets _ := h.reads fun _ => rfl
    exact ⟨ticket, htickets ▸ hmem, hid⟩
  hasTickets h := h.reads fun _ => rfl
  referenced _ hrefers := hrefers.elim
  emailTaken {_ _ email} h := iff_of_eq <| h.reads
    (f := fun s => ∃ row ∈ s.customers, row.tenantId = B ∧ row.email = email) fun _ => rfl
  customersWithEmail h := h.reads fun _ => rfl
  countCreatedSince h := h.reads fun _ => rfl
  nextTicketNumber h := h.nextTicketNumber
  insertActivity {_ _ row} h _ := h.writes (f := Store.insertActivity row) (fun _ => rfl) fun _ => rfl
  insertAudit row h := h.writes (f := Store.insertAudit row) (fun _ => rfl) fun _ => rfl
  enqueueMany h _ _ := h.enqueueMany _
  insertTicket {_ _ row} h _ _ _ := h.writes (f := Store.insertTicket row) (fun _ => rfl) fun _ => rfl
  insertComment _ _ hadds := hadds.elim
  insertCustomer {_ _ row} h _ _ _ :=
    h.writes (f := Store.insertCustomer row) (fun _ => rfl) fun _ => rfl
  updateTicket {_ _ id} now ticket h _ :=
    h.writes (f := Store.updateTicket id (ticket.write now)) (fun _ => rfl) fun _ => rfl
  updateComment _ _ _ hnames := hnames.elim
  updateCustomer {_ _ id} now customer h _ :=
    h.writes (f := Store.updateCustomer id (customer.write now)) (fun _ => rfl) fun _ => rfl
  deleteComment _ hnames := hnames.elim
  deleteCustomer _ hrefers := hrefers.elim
  tells _ := trivial

end stores

section programs

/-- The stores differ in internal notes alone: the provider has been asked the same. -/
structure SameButNotes (s t : AiStore) : Prop where
  db : NotesAside s.db t.db
  rest : { s with db := t.db } = t

variable {config : AIConfig} {s t : AiStore}

theorem SameButNotes.reads (h : SameButNotes s t) {β : Sort*} {f : AiStore → β}
    (hf : ∀ s db, f { s with db := db } = f s) : f s = f t := by
  rw [← h.rest]
  exact (hf s t.db).symm

theorem SameButNotes.readsDb (h : SameButNotes s t) {β : Sort*} {f : Store → β}
    (hf : ∀ s, f (withoutComments s) = f s) : f s.db = f t.db := h.db.reads hf

/-- What only public comments and their authors make of a ticket. -/
theorem SameButNotes.publicComments (h : SameButNotes s t) (le : TicketComment → TicketComment → Bool)
    (ties : Nat → Nat) (ticketId : Uuid) :
    publicComments le ties ticketId s = publicComments le ties ticketId t := by
  have hselect : ∀ rows : List TicketComment, (rows.filter fun comment =>
      comment.ticketId = ticketId && comment.type = .publicComment) =
        (rows.filter isPublic).filter fun comment => comment.ticketId = ticketId := by
    intro rows
    rw [List.filter_filter]
    rfl
  have husers : s.db.users = t.db.users := h.readsDb fun _ => rfl
  have hcomments : s.db.comments.filter isPublic = t.db.comments.filter isPublic := h.db.comments
  unfold AIService.publicComments
  rw [hselect, hselect, hcomments, husers]

theorem blind_now : now.Blind SameButNotes := blind_drawn _

theorem blind_findTicket (ticketId tenantId : Uuid) :
    (findTicket ticketId tenantId).Blind SameButNotes :=
  blind_statement fun _ _ h => h.readsDb (f := fun s => s.findTicket ticketId tenantId) fun _ => rfl

theorem blind_isEnabled (feature : String) (context : FeatureEvaluationContext) :
    (FeatureFlagService.isEnabled config.flags tenantFlags feature context : AiM Bool).Blind
      SameButNotes := by
  unfold FeatureFlagService.isEnabled
  cases FeatureFlagService.getGlobalOverride config.flags feature with
  | some override => trivial
  | none =>
    cases context.tenantId with
    | none => trivial
    | some tenantId =>
      refine Blind.bind (blind_statement fun s t h => ?_) fun flags => ?_
      · exact h.reads (f := fun s => getTenantFlags (s.settings tenantId)) fun _ _ => rfl
      · split
        · trivial
        · split
          · trivial
          · trivial

theorem blind_ask {α : Type} (prompt : Prompt) (answer : IAIProvider → Except AppError α) :
    (ask prompt answer).Blind SameButNotes :=
  (blind_execute _).bind fun _ => (blind_drawn _).bind fun result => blind_lift result

theorem blind_saveResult (data : AIJobData) (ticketId customerId : Option Uuid)
    (type : AIResultType) (result : AIAnswer) (confidence : Option JsNumber)
    (wasAccepted : Option Bool) (startTime : Time) :
    (saveResult data ticketId customerId type result confidence wasAccepted startTime).Blind
      SameButNotes :=
  (blind_drawn _).bind fun _ => blind_now.bind fun _ => blind_now.bind fun _ =>
    (blind_execute _).bind fun _ => blind_pure _

theorem blind_createActivity (data : AIJobData) (ticketId : Uuid) (eventType : AIActivityType)
    (description : String) (newValue : JsonObject) :
    (createActivity data ticketId eventType description newValue).Blind SameButNotes :=
  blind_now.bind fun _ => blind_execute _

theorem blind_service {α : Type} {body : ServiceM α} (h : ∀ env : AiEnv, ∀ s t, SameButNotes s t →
      (body.run env.service env.faults (World.start s.db)).1 =
        (body.run env.service env.faults (World.start t.db)).1) :
    (service body).Blind SameButNotes := by
  refine fun env n => ⟨fun s t hR => ?_, fun s => ?_⟩
  · dsimp only
    rw [h env s t hR]
  · dsimp only
    split
    · trivial
    · trivial
    · trivial

/-- A call of another service that is about no comment. -/
theorem alike_service {α : Type} {body : ServiceM α} {env : AiEnv}
    (h : Twins env.service NotesAside Anything (fun _ => Anything) body) (hR : SameButNotes s t) :
    (body.run env.service env.faults (World.start s.db)).1 =
        (body.run env.service env.faults (World.start t.db)).1 ∧
      SameButNotes ((AiStatement.service ((fun _ => ()) <$> body) env).apply s)
        ((AiStatement.service ((fun _ => ()) <$> body) env).apply t) := by
  have hbody : Twins env.service NotesAside Anything (fun _ => Anything)
      ((fun _ => ()) <$> body) := h.bind fun _ => twins_pure _ fun _ _ _ _ => trivial
  refine ⟨(h.run hR.db trivial env.faults).1, (hbody.run hR.db trivial env.faults).2, ?_⟩
  rw [← hR.rest]
  rfl

theorem twins_escalation (env : AiEnv) (tenantId ticketId : Uuid) (reason : String) :
    Twins env.service NotesAside Anything (fun _ => Anything)
      (TicketService.escalateTicket ⟨tenantId, ticketId, reason, .system, .system⟩) :=
  twins_escalateTicket ⟨tenantId, ticketId, reason, .system, .system⟩
    (publicScope env.service tenantId)

theorem twins_scoring (env : AiEnv) (customerId tenantId : Uuid) (score : JsNumber)
    (label : String) : Twins env.service NotesAside Anything (fun _ => Anything)
      (CustomerService.updateRiskScore customerId tenantId score label) :=
  twins_updateRiskScore customerId tenantId score label (publicScope env.service tenantId)

theorem blind_escalate (data : AIJobData) (ticketId : Uuid) (reason : String) :
    (escalate data ticketId reason).Blind SameButNotes :=
  (blind_service fun env _ _ h => (alike_service (twins_escalation env _ _ _) h).1).bind
    fun _ => blind_pure _

theorem blind_ticketJob {feature : FeatureFlag} {data : AIJobData} {job : Uuid → Ticket → AiM Unit}
    (hjob : ∀ ticketId ticket, (job ticketId ticket).Blind SameButNotes) :
    (ticketJob config feature data job).Blind SameButNotes := by
  unfold ticketJob
  split
  · refine (blind_findTicket _ _).bind fun found => ?_
    split
    · refine ((blind_isEnabled _ _).bind fun _ => blind_pure _).bind fun may => ?_
      split
      · exact hjob _ _
      · trivial
    · trivial
  · trivial

theorem blind_categorization (data : AIJobData) :
    (processCategorizationJob config data).Blind SameButNotes := by
  refine blind_ticketJob fun ticketId ticket => ?_
  refine blind_now.bind fun startTime => (blind_ask _ _).bind fun result => ?_
  refine (blind_saveResult _ _ _ _ _ _ _ _).bind fun _ => ?_
  dsimp only
  split
  · generalize TicketEntity.updateCategory result.category _ = x
    refine (blind_lift x).bind fun categorized => blind_now.bind fun updatedAt => ?_
    refine (blind_execute _).bind fun _ => (blind_createActivity _ _ _ _ _).bind fun _ => ?_
    exact blind_tryExecute _
  · exact blind_tryExecute _

theorem blind_sentiment (data : AIJobData) :
    (processSentimentJob config data).Blind SameButNotes := by
  refine blind_ticketJob fun ticketId ticket => ?_
  refine blind_now.bind fun startTime => (blind_ask _ _).bind fun result => ?_
  refine (blind_saveResult _ _ _ _ _ _ _ _).bind fun _ => (blind_tryExecute _).bind fun _ => ?_
  split
  · refine (blind_isEnabled _ _).bind fun enabled => ?_
    split
    · refine (blind_findTicket _ _).bind fun found => ?_
      split
      · split
        · exact blind_escalate _ _ _
        · trivial
      · trivial
    · trivial
  · trivial

theorem blind_urgency (data : AIJobData) :
    (processUrgencyJob config data).Blind SameButNotes := by
  refine blind_ticketJob fun ticketId ticket => ?_
  refine blind_now.bind fun startTime => (blind_ask _ _).bind fun result => ?_
  refine (blind_saveResult _ _ _ _ _ _ _ _).bind fun _ => ?_
  dsimp only
  split
  · refine (blind_isEnabled _ _).bind fun enabled => ?_
    split
    · refine (blind_escalate _ _ _).bind fun _ => (blind_createActivity _ _ _ _ _).bind fun _ => ?_
      exact blind_tryExecute _
    · exact blind_tryExecute _
  · exact blind_tryExecute _

/-- The query skips internal notes. -/
theorem blind_publicComments (le : TicketComment → TicketComment → Bool) (take : Option Nat)
    (ticketId : Uuid) : (findPublicComments le take ticketId).Blind SameButNotes :=
  (blind_drawn _).bind fun ties =>
    (blind_statement fun _ _ h => h.publicComments le ties ticketId).bind fun _ => blind_lift _

theorem blind_suggestResponse (data : AIJobData) :
    (processSuggestResponseJob config data).Blind SameButNotes := by
  refine blind_ticketJob fun ticketId ticket => ?_
  refine (blind_publicComments _ _ _).bind fun comments => blind_now.bind fun startTime => ?_
  refine (blind_ask _ _).bind fun result => (blind_saveResult _ _ _ _ _ _ _ _).bind fun _ => ?_
  split
  · exact blind_tryExecute _
  · trivial

theorem blind_summarize (data : AIJobData) :
    (processSummarizeJob config data).Blind SameButNotes := by
  refine blind_ticketJob fun ticketId ticket => ?_
  refine (blind_publicComments _ _ _).bind fun comments => blind_now.bind fun startTime => ?_
  refine (blind_ask _ _).bind fun result => (blind_saveResult _ _ _ _ _ _ _ _).bind fun _ => ?_
  exact blind_createActivity _ _ _ _ _

theorem blind_riskScore (data : AIJobData) :
    (processRiskScoreJob config data).Blind SameButNotes := by
  unfold processRiskScoreJob
  split
  · rename_i customerId _
    refine ((blind_isEnabled _ _).bind fun _ => blind_pure _).bind fun may => ?_
    split
    · refine (blind_drawn _).bind fun ties => (blind_statement fun s t h => ?_).bind fun found => ?_
      · exact h.readsDb (f := fun db => (db.findCustomer customerId data.tenantId).map
          fun customer => (Paging.orderRows (fun t t' : Ticket => t'.createdAt ≤ t.createdAt) ties
            (db.tickets.filter fun ticket => ticket.customerId = customer.id)).take 20)
          fun _ => rfl
      · split
        · refine (blind_drawn _).bind fun ties => (blind_statement fun s t h => ?_).bind
            fun sentiments => ?_
          · exact h.reads (f := recentSentiments ties customerId data.tenantId) fun _ _ => rfl
          · refine blind_now.bind fun startTime => (blind_ask _ _).bind fun result => ?_
            refine (blind_saveResult _ _ _ _ _ _ _ _).bind fun _ => ?_
            exact (blind_service fun env _ _ h => (alike_service (twins_scoring env _ _ _ _) h).1).bind
              fun _ => blind_pure _
        · trivial
    · trivial
  · trivial

theorem blind_request (request : AiRequest) : (request.process config).Blind SameButNotes := by
  have hticket : ∀ (data : AIJobData) (process : AIJobData → AiM Unit),
      (process data).Blind SameButNotes → Blind SameButNotes
        (if data.ticketId.isNone then
          Process.throw (.plain ("AI job " ++ data.jobType ++ " requires a ticketId"))
        else process data) := by
    intro data process hprocess
    split
    · trivial
    · exact hprocess
  cases request with
  | accept suggestionId tenantId acceptedById => exact blind_now.bind fun _ => blind_execute _
  | job data =>
    unfold AiRequest.process handle
    dsimp only
    split
    · exact hticket data _ (blind_categorization data)
    · exact hticket data _ (blind_sentiment data)
    · exact hticket data _ (blind_urgency data)
    · exact hticket data _ (blind_suggestResponse data)
    · exact hticket data _ (blind_summarize data)
    · split
      · trivial
      · exact blind_riskScore data
    · trivial

end programs

section runs
variable {config : AIConfig} {s t : AiStore}

/-- What every statement of the jobs does in stores that differ in internal notes. -/
def Unnoticed (st : AiStatement) : Prop :=
  ∀ s t, SameButNotes s t → SameButNotes (st.apply s) (st.apply t)

theorem unnoticed_of_aside {st : AiStatement} {f : AiStore → AiStore} (hst : ∀ s, st.apply s = f s)
    (hdb : ∀ s, (f s).db = s.db) (hf : ∀ s db, { f s with db := db } = f { s with db := db }) :
    Unnoticed st := by
  intro s t h
  rw [hst, hst]
  refine ⟨?_, ?_⟩
  · rw [hdb, hdb]
    exact h.db
  · rw [hdb, hf, h.rest]

theorem unnoticed_admits (s : AiStore) : Admits config (fun _ => True) Unnoticed where
  store := ⟨s, trivial⟩
  read _ _ _ h := h
  ask _ _ := unnoticed_of_aside (fun _ => rfl) (fun _ => rfl) fun _ _ => rfl
  askRisk _ _ _ _ _ _ := unnoticed_of_aside (fun _ => rfl) (fun _ => rfl) fun _ _ => rfl
  createResult _ _ := unnoticed_of_aside (fun _ => rfl) (fun _ => rfl) fun _ _ => rfl
  acceptResult _ _ _ _ := unnoticed_of_aside (fun _ => rfl) (fun _ => rfl) fun _ _ => rfl
  createActivity _ := unnoticed_of_aside (fun _ => rfl) (fun _ => rfl) fun _ _ => rfl
  publish _ := unnoticed_of_aside (fun _ => rfl) (fun _ => rfl) fun _ _ => rfl
  updateCategory ticketId tenantId _ category now _ s t h := by
    let write (s : Store) : Store :=
      { s with
        tickets := Table.updateMany (fun row => row.id = ticketId ∧ row.tenantId = tenantId)
          (AiStatement.categorize category now) s.tickets }
    refine ⟨h.db.writes (f := write) (fun _ => rfl) fun _ => rfl, ?_⟩
    rw [← h.rest]
    rfl
  escalate _ _ tenantId _ ticketId reason env _ _ h :=
    (alike_service (twins_escalation env tenantId ticketId reason) h).2
  updateRiskScore customerId tenantId score label env _ _ h :=
    (alike_service (twins_scoring env customerId tenantId score label) h).2

/-- The provider is told no internal note: of two runs whose stores, and whose writes of other
services meanwhile, differ in internal notes alone, either asks it what the other does, and stores
and publishes the same. -/
theorem prompts_without_notes (config : AIConfig) (s t : AiStore) (h : SameButNotes s t)
    (moves moves' : List (Move (Turn AiEnv AiRequest) OtherWrite))
    (hmoves : List.Forall₂ (SameMove OtherWrite.apply SameButNotes) moves moves')
    (c : Pool AiStore (AiM Unit)) (hrun : (aiPool config).machine.run (idle s) moves = some c) :
    ∃ d, (aiPool config).machine.run (idle t) moves' = some d ∧
      c.shared.asked = d.shared.asked ∧ c.shared.results = d.shared.results ∧
      c.shared.messages = d.shared.messages ∧ c.shared.activities = d.shared.activities := by
  have hstart : SamePlace Unnoticed SameButNotes (idle s) (idle t : Pool AiStore (AiM Unit)) :=
    ⟨h, rfl, fun _ => trivial, fun _ => trivial⟩
  obtain ⟨d, hd, hsame⟩ := among_blind blind_request (issues_request (unnoticed_admits s))
    (fun st s t hV hR => .ok (hV s t hR)) hstart hmoves hrun
  refine ⟨d, hd, ?_, ?_, ?_, ?_⟩
  · exact hsame.shared.reads (f := AiStore.asked) fun _ _ => rfl
  · exact hsame.shared.reads (f := AiStore.results) fun _ _ => rfl
  · exact hsame.shared.reads (f := AiStore.messages) fun _ _ => rfl
  · exact hsame.shared.reads (f := AiStore.activities) fun _ _ => rfl

section demo

def publicComment : TicketComment :=
  { (default : TicketComment) with id := 1, ticketId := 3, type := .publicComment, content := "Hello?" }

def internalNote : TicketComment :=
  { publicComment with id := 2, type := .internalNote, content := "Rude" }

/-- A ticket with a comment that its author can be told. -/
def discussedStore : AiStore :=
  { angryStore with
    db := { angryStore.db with comments := [publicComment], users := [default] } }

def notedStore : AiStore :=
  { discussedStore with
    db := { discussedStore.db with comments := [publicComment, internalNote] } }

def noteWrite : OtherWrite where
  db s := { s with comments := s.comments ++ [internalNote] }
  settings settings := settings

def idleWrite : OtherWrite where
  db s := s
  settings settings := settings

def suggesting (w : OtherWrite) : List (Move (Turn AiEnv AiRequest) OtherWrite) :=
  .act 0 (.start (.job ⟨"suggest-response", 2, some 3, none, "Hello there?"⟩)) ::
    .act 0 (.next quietEnv 0) :: .env w :: List.replicate 6 (.act 0 (.next quietEnv 0))

theorem prompts_without_note :
    ∃ c d, (aiPool plainConfig).machine.run (idle notedStore) (suggesting noteWrite) = some c ∧
      (aiPool plainConfig).machine.run (idle discussedStore) (suggesting idleWrite) = some d ∧
      c.shared.asked.length = 1 ∧ c.shared.asked = d.shared.asked := by
  have hasked : ((aiPool plainConfig).machine.run (idle notedStore) (suggesting noteWrite)).map
      (fun c => c.shared.asked.length) = some 1 := by decide +kernel
  obtain ⟨c, hrun, hone⟩ := Option.map_eq_some_iff.mp hasked
  have hstart : SameButNotes notedStore discussedStore := ⟨⟨rfl, rfl⟩, rfl⟩
  have hwrites : List.Forall₂ (SameMove OtherWrite.apply SameButNotes) (suggesting noteWrite)
      (suggesting idleWrite) := by
    refine .cons (.act _ _) (.cons (.act _ _) (.cons (.env fun s t h => ?_) ?_))
    · refine ⟨⟨h.db.rest, h.db.comments.append_hidden fun comment hcomment => ?_⟩, ?_⟩
      · rw [List.mem_singleton.mp hcomment]
        rfl
      · rw [← h.rest]
        rfl
    · exact List.forall₂_same.mpr fun move hmove => by
        rw [List.eq_of_mem_replicate hmove]
        exact .act _ _
  obtain ⟨d, hd, hsame, -⟩ := prompts_without_notes plainConfig notedStore discussedStore hstart
    (suggesting noteWrite) (suggesting idleWrite) hwrites c hrun
  exact ⟨c, d, hrun, hd, hone, hsame⟩

end demo

end runs
end OmniSupport.AI
