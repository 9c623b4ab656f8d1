import OmniSupport.Foundation.Pool
import OmniSupport.Foundation.Rows
import OmniSupport.Report.ReportService

/-! Report jobs and the workers that run them: a job is claimed, its rows are read batch by
batch, a file is stored and the job completed, each by a statement of its own. -/
namespace OmniSupport.Report
open Foundation Database

abbrev StoragePath := String

inductive ReportStatus where
  | pending
  | running
  | completed
  | failed
  | cancelled
  | expired
  deriving DecidableEq

/-- `REPORT_LIFETIME_MS`. -/
def reportLifetimeMs : Nat := 24 * 60 * 60 * 1000

/-- `RECORD_RETENTION_MS`. -/
def recordRetentionMs : Nat := 30 * 24 * 60 * 60 * 1000

/-- `STALE_RUN_MS`. -/
def staleRunMs : Nat := 15 * 60 * 1000

def maxReportRows : Nat := 200000

/-- A row of `report_jobs`. -/
structure JobRow extends ReportJob where
  id : Uuid
  filters : ReportFilters
  status : ReportStatus
  startedAt : Option Time
  storagePath : Option StoragePath
  rowCount : Option Nat
  error : Option String
  expiresAt : Option Time
  createdAt : Time
  updatedAt : Time
  deriving DecidableEq

/-- An attempt at a job: the clock when its worker listed the claimable jobs, the row it
listed, and the start that its claim stores. -/
structure ReportRun where
  listedAt : Time
  job : JobRow
  startedAt : Time
  deriving DecidableEq

/-- `ReportCancelledError` is none of these: it ends the run without a trace. -/
inductive ReportError where
  | conflict (message : String)
  | forbidden (message : String)
  | other
  deriving DecidableEq

/-- The text a failed job keeps. -/
def ReportError.text : ReportError → String
  | .conflict message | .forbidden message => message
  | .other => "Report generation failed"

namespace JobRow

def cancellable (id tenantId requesterId : Uuid) (r : JobRow) : Prop :=
  r.id = id ∧ r.tenantId = tenantId ∧ r.requestedById = requesterId ∧
    (r.status = .pending ∨ r.status = .running)

instance (id tenantId requesterId : Uuid) (r : JobRow) :
    Decidable (r.cancellable id tenantId requesterId) :=
  inferInstanceAs (Decidable (_ ∧ _))

/-- `startedAt < staleBefore`, for the `staleBefore` of a worker that listed the jobs then. -/
def claimable (listedAt : Time) (r : JobRow) : Prop :=
  r.status = .pending ∨
    r.status = .running ∧ r.startedAt.any fun startedAt => startedAt + staleRunMs < listedAt

instance (listedAt : Time) (r : JobRow) : Decidable (r.claimable listedAt) :=
  inferInstanceAs (Decidable (_ ∨ _))

/-- The job is still the one of this run. -/
def heldBy (run : ReportRun) (r : JobRow) : Prop :=
  r.id = run.job.id ∧ r.status = .running ∧ r.startedAt = some run.startedAt

instance (run : ReportRun) (r : JobRow) : Decidable (r.heldBy run) :=
  inferInstanceAs (Decidable (_ ∧ _))

def overdue (now : Time) (r : JobRow) : Prop :=
  r.status = .completed ∧ r.expiresAt.any fun expiresAt => expiresAt ≤ now

instance (now : Time) (r : JobRow) : Decidable (r.overdue now) :=
  inferInstanceAs (Decidable (_ ∧ _))

def purgeable (now : Time) (r : JobRow) : Prop :=
  (r.status = .expired ∨ r.status = .failed ∨ r.status = .cancelled) ∧
    r.updatedAt + recordRetentionMs < now

instance (now : Time) (r : JobRow) : Decidable (r.purgeable now) :=
  inferInstanceAs (Decidable (_ ∧ _))

def cancel (now : Time) (r : JobRow) : JobRow :=
  { r with status := .cancelled, updatedAt := now }

def claim (now startedAt : Time) (r : JobRow) : JobRow :=
  { r with status := .running, startedAt := some startedAt, updatedAt := now }

def complete (now : Time) (path : StoragePath) (rowCount : Nat) (expiresAt : Time) (r : JobRow) :
    JobRow :=
  { r with
    status := .completed
    storagePath := some path
    rowCount := some rowCount
    error := none
    expiresAt := some expiresAt
    updatedAt := now }

def fail (now : Time) (error : ReportError) (r : JobRow) : JobRow :=
  { r with status := .failed, error := some error.text, updatedAt := now }

def expire (now : Time) (r : JobRow) : JobRow :=
  { r with status := .expired, storagePath := none, updatedAt := now }

end JobRow

/-- `files` is what the storage holds, `paths` what it ever held. -/
structure ReportStore where
  jobs : List JobRow
  ids : List Uuid
  files : List StoragePath
  paths : List StoragePath
  tickets : List Ticket
  customers : List Customer
  now : Time

namespace ReportStore

def updateJobs (p : JobRow → Prop) [DecidablePred p] (f : JobRow → JobRow) (s : ReportStore) :
    ReportStore :=
  { s with jobs := Table.updateMany p f s.jobs }

def find (s : ReportStore) (id : Uuid) : Option JobRow := s.jobs.find? fun r => r.id = id

/-- What `storage.delete` leaves. -/
def deleteFile (path : StoragePath) (s : ReportStore) : ReportStore :=
  { s with files := s.files.filter fun file => file ≠ path }

def upload (path : StoragePath) (s : ReportStore) : ReportStore :=
  { s with files := path :: s.files, paths := path :: s.paths }

end ReportStore

/-- Where a worker stands in `processPending`: its constructor names the statement that comes
next. -/
inductive ReportTask where
  | idle
  | findingExpired
  | deletingFile (path : StoragePath) (job : JobRow) (rest : List JobRow)
  | expiring (job : JobRow) (rest : List JobRow)
  | purging
  | listing
  | next (listedAt : Time) (jobs : List JobRow)
  | claiming (run : ReportRun) (rest : List JobRow)
  | authorizing (run : ReportRun) (rest : List JobRow)
  | reading (run : ReportRun) (rest : List JobRow) (role : UserRole) (records : List ReportRow)
      (cursor : Option Uuid)
  | checking (run : ReportRun) (rest : List JobRow) (role : UserRole) (records page : List ReportRow)
  | uploading (run : ReportRun) (rest : List JobRow) (role : UserRole) (records : List ReportRow)
  | completing (run : ReportRun) (rest : List JobRow) (role : UserRole) (records : List ReportRow)
      (path : StoragePath)
  | deletingUpload (run : ReportRun) (rest : List JobRow) (path : StoragePath)
  | auditing (run : ReportRun) (rest : List JobRow)
  | failing (run : ReportRun) (rest : List JobRow) (error : ReportError)

/-- `clock` is what the worker has last read off its clock. -/
structure ReportWorker where
  clock : Time
  task : ReportTask

/-- `picked` are the rows a query returns; `answer` is the role of the requester, or why the
requester may not have the report. -/
inductive ReportStep where
  | look (time : Time)
  | start
  | found (picked : List JobRow)
  | authorize (answer : Except ReportError UserRole)
  | upload (path : StoragePath)
  | go
  | throws
  | crash

inductive ReportMove where
  | create (id : Uuid) (job : ReportJob) (filters : ReportFilters)
  | cancel (id tenantId requesterId : Uuid)
  | rewriteTickets (tickets : List Ticket)
  | rewriteCustomers (customers : List Customer)
  | tick (ms : Nat)

namespace ReportService

/-- The page of `readBatches`, if the status it filters by exists. -/
def pageRows (job : ReportJob) (requesterRole : UserRole) (filters : ReportFilters)
    (cursor : Option Uuid) (tickets : List Ticket) (customers : List Customer) :
    Option (List ReportRow) :=
  match job.subject with
  | .tickets =>
    if enumKnown (TicketStatus.values.map TicketStatus.text) (filters.status.map .one) then
      some ((Paging.batch Ticket.id batchSize (ticketWhere job requesterRole filters) cursor
        tickets).map ticketRow)
    else none
  | .customers =>
    if enumKnown (CustomerStatus.values.map CustomerStatus.text) (filters.status.map .one) then
      some ((Paging.batch Customer.id batchSize (customerWhere job filters) cursor
        customers).map customerRow)
    else none

/-- `take: limit` of the rows that satisfy `p`, in no order. -/
def picks (p : JobRow → Prop) [DecidablePred p] (limit : Nat) (rows picked : List JobRow) : Prop :=
  picked.Nodup ∧ (∀ r ∈ picked, r ∈ rows ∧ p r) ∧
    picked.length = min limit (Table.count p rows)

instance (p : JobRow → Prop) [DecidablePred p] (limit : Nat) (rows picked : List JobRow) :
    Decidable (picks p limit rows picked) :=
  inferInstanceAs (Decidable (_ ∧ _))

/-- The same, the oldest first. -/
def picksOldest (p : JobRow → Prop) [DecidablePred p] (limit : Nat) (rows picked : List JobRow) :
    Prop :=
  picks p limit rows picked ∧ picked.Pairwise (fun r r' => r.createdAt ≤ r'.createdAt) ∧
    ∀ r ∈ rows, p r → r ∉ picked → ∀ r' ∈ picked, r'.createdAt ≤ r.createdAt

instance (p : JobRow → Prop) [DecidablePred p] (limit : Nat) (rows picked : List JobRow) :
    Decidable (picksOldest p limit rows picked) :=
  inferInstanceAs (Decidable (_ ∧ _))

/-- After the last of the expired jobs old records are purged. -/
def expireNext : List JobRow → ReportTask
  | [] => .purging
  | job :: rest =>
    match job.storagePath with
    | some path => .deletingFile path job rest
    | none => .expiring job rest

/-- A batch that came back: none, too many rows, or the check of the job is next. -/
def afterPage (run : ReportRun) (rest : List JobRow) (role : UserRole)
    (records page : List ReportRow) :
    ReportTask :=
  if page = [] then .uploading run rest role records
  else if maxReportRows < (records ++ page).length then
    .failing run rest (.conflict "Report exceeds 200000 rows; narrow the filters")
  else .checking run rest role (records ++ page) page

/-- A batch that was not full is the last one. -/
def afterCheck (run : ReportRun) (rest : List JobRow) (role : UserRole)
    (records page : List ReportRow) :
    ReportTask :=
  if page.length < batchSize then .uploading run rest role records
  else .reading run rest role records (page.getLast?.map ReportRow.id)

/-- The next statement, when its outcome is up to the store. -/
def go (s : ReportStore) (w : ReportWorker) : Option (ReportStore × ReportTask) :=
  match w.task with
  | .deletingFile path job rest => some (s.deleteFile path, .expiring job rest)
  | .expiring job rest =>
    some (s.updateJobs (fun r => r.id = job.id ∧ r.status = .completed) (JobRow.expire s.now),
      expireNext rest)
  | .purging => some ({ s with jobs := Table.deleteMany (JobRow.purgeable w.clock) s.jobs }, .listing)
  | .next _ [] => some (s, .idle)
  | .next listedAt (job :: rest) => some (s, .claiming ⟨listedAt, job, w.clock⟩ rest)
  | .claiming run rest =>
    some (s.updateJobs (fun r => r.id = run.job.id ∧ r.claimable run.listedAt)
        (JobRow.claim s.now run.startedAt),
      if Table.count (fun r => r.id = run.job.id ∧ r.claimable run.listedAt) s.jobs = 1 then
        .authorizing run rest
      else .next run.listedAt rest)
  | .reading run rest role records cursor =>
    some (s, match pageRows run.job.toReportJob role run.job.filters cursor s.tickets
        s.customers with
      | none => .failing run rest .other
      | some page => afterPage run rest role records page)
  | .checking run rest role records page =>
    some (s, if ∃ r ∈ s.jobs, r.heldBy run then afterCheck run rest role records page
      else .next run.listedAt rest)
  | .completing run rest _ records path =>
    some (s.updateJobs (JobRow.heldBy run)
        (JobRow.complete s.now path records.length (w.clock + reportLifetimeMs)),
      if Table.count (JobRow.heldBy run) s.jobs = 1 then .auditing run rest
      else .deletingUpload run rest path)
  | .deletingUpload run rest path => some (s.deleteFile path, .next run.listedAt rest)
  | .auditing run rest => some (s, .next run.listedAt rest)
  | .failing run rest error =>
    some (s.updateJobs (JobRow.heldBy run) (JobRow.fail s.now error), .next run.listedAt rest)
  | .idle | .findingExpired | .listing | .authorizing .. | .uploading .. => none

/-- A call of the database or the storage fails. Failures of the audit insert are swallowed. -/
def throws : ReportTask → Option ReportTask
  | .findingExpired | .deletingFile .. | .expiring .. | .purging | .listing | .claiming ..
  | .failing .. => some .idle
  | .authorizing run rest | .reading run rest .. | .checking run rest .. | .uploading run rest ..
  | .completing run rest .. | .deletingUpload run rest _ => some (.failing run rest .other)
  | .auditing run rest => some (.next run.listedAt rest)
  | .idle | .next .. => none

/-- A query of the jobs returns. -/
def found (s : ReportStore) (w : ReportWorker) (picked : List JobRow) : Option ReportTask :=
  match w.task with
  | .findingExpired =>
    if picks (JobRow.overdue w.clock) 50 s.jobs picked then some (expireNext picked) else none
  | .listing =>
    if picksOldest (JobRow.claimable w.clock) 5 s.jobs picked then some (.next w.clock picked)
    else none
  | _ => none

/-- The requester is looked up, and the permissions of the report are asserted. -/
def authorize (answer : Except ReportError UserRole) : ReportTask → Option ReportTask
  | .authorizing run rest => some (match answer with
    | .ok role => .reading run rest role [] none
    | .error error => .failing run rest error)
  | _ => none

/-- Every upload stores its file under a path of its own. -/
def upload (s : ReportStore) (path : StoragePath) : ReportTask → Option (ReportStore × ReportTask)
  | .uploading run rest role records =>
    if path ∈ s.paths then none
    else some (s.upload path, .completing run rest role records path)
  | _ => none

def act (_ : Nat) (s : ReportStore) (w : ReportWorker) :
    ReportStep → Option (ReportStore × ReportWorker)
  | .look time =>
    if w.clock ≤ time ∧ time ≤ s.now then some (s, { w with clock := time }) else none
  | .start =>
    match w.task with
    | .idle => some (s, { w with task := .findingExpired })
    | _ => none
  | .found picked => (found s w picked).map fun task => (s, { w with task := task })
  | .authorize answer => (authorize answer w.task).map fun task => (s, { w with task := task })
  | .upload path => (upload s path w.task).map fun r => (r.1, { w with task := r.2 })
  | .go => (go s w).map fun r => (r.1, { w with task := r.2 })
  | .throws => (throws w.task).map fun task => (s, { w with task := task })
  | .crash => some (s, { w with task := .idle })

/-- The row that `create` stores. -/
def newJob (id : Uuid) (job : ReportJob) (filters : ReportFilters) (now : Time) : JobRow where
  toReportJob := job
  id := id
  filters := filters
  status := .pending
  startedAt := none
  storagePath := none
  rowCount := none
  error := none
  expiresAt := none
  createdAt := now
  updatedAt := now

/-- Requesters create and cancel jobs, and everything else may happen to the rows that the
reports read. -/
def move (s : ReportStore) : ReportMove → Option ReportStore
  | .create id job filters =>
    if id ∈ s.ids then none
    else some { s with jobs := s.jobs ++ [newJob id job filters s.now], ids := id :: s.ids }
  | .cancel id tenantId requesterId =>
    some (s.updateJobs (JobRow.cancellable id tenantId requesterId) (JobRow.cancel s.now))
  | .rewriteTickets tickets =>
    if (tickets.map Ticket.id).Nodup then some { s with tickets := tickets } else none
  | .rewriteCustomers customers =>
    if (customers.map Customer.id).Nodup then some { s with customers := customers } else none
  | .tick ms => some { s with now := s.now + ms }

def program : Program ReportStore ReportWorker ReportStep ReportMove where
  act := act
  env := move

def machine : Machine (Pool ReportStore ReportWorker) (Move ReportStep ReportMove) :=
  program.machine

/-- No job has been created, and no worker runs. -/
def init (now : Time) : Pool ReportStore ReportWorker :=
  ⟨⟨[], [], [], [], [], [], now⟩, fun _ => ⟨0, .idle⟩⟩

end ReportService
end OmniSupport.Report
