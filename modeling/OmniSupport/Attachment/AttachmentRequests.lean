import OmniSupport.Foundation.Interference
import OmniSupport.Http.RequestGate

/-! Requests on attachments statement by statement, and the process that serves them among others:
upload, signed download links and deletion. -/
namespace OmniSupport.Attachments
open Foundation

/-- The extension that a storage key may end with: up to ten letters and digits. -/
def safeExtension (filename : String) : List Char :=
  let extension := (filename.toList.reverse.takeWhile (· ≠ '.')).reverse
  if '.' ∈ filename.toList ∧ extension ≠ [] ∧ extension.length ≤ 10 ∧
    extension.all Char.isAlphanum = true
  then '.' :: extension.map Char.toLower else []

def fileName (filename : String) (now : Time) (uuid : Uuid) : List Char :=
  (toString now).toList ++ '-' :: ((toString uuid).toList ++ safeExtension filename)

def buildStoragePath (options : UploadOptions) (now : Time) (uuid : Uuid) : String :=
  String.ofList ((toString options.tenantId).toList ++
    '/' :: (options.folder.toList ++ '/' :: fileName options.filename now uuid))

end OmniSupport.Attachments

namespace OmniSupport.Http
open Foundation Database Identity Ticketing Attachments Process

section upload
variable (config : WebConfig) (data : UploadAttachmentData)

def linkedTicketId : WebM (Option Uuid) :=
  match data.commentId with
  | none => return data.ticketId
  | some commentId => do
    let comment ← statement (.read .commentFind) fun s =>
      s.db.findComment commentId data.tenantId
    let ticketId ← lift (AttachmentService.resolveComment data comment commentId)
    return some ticketId

def checkTicket (tenantId : Uuid) : Option Uuid → WebM (Option Uuid)
  | none => return none
  | some ticketId => do
    let found ← statement (.read .ticketFind) fun s => s.db.findTicket ticketId tenantId
    let _ ← lift (orThrow (.notFound "Ticket" ticketId) found)
    return some ticketId

def resolveTicketId : WebM (Option Uuid) := do
  let linked ← linkedTicketId data
  checkTicket data.tenantId linked

/-- What the file is found to be, when its scan goes through. -/
def verdictOf (found : List String) : AntivirusVerdict :=
  match config.policy.scanner with
  | none => .notScanned
  | some isClean =>
    if found = [] then if isClean data.content data.filename then .clean else .infected
    else .notScanned

def scan (found : List String) : WebM AntivirusVerdict :=
  if config.policy.scanner.isSome ∧ found = [] then
    statement (.read .policyValidate) fun _ => verdictOf config data found
  else return verdictOf config data found

def validate : WebM AntivirusVerdict := do
  let found := AttachmentPolicyValidator.problems config.policy data.mimeType data.content
  let antivirus ← scan config data found
  let reasons := found ++ AttachmentPolicyValidator.antivirusProblems config.policy antivirus
  lift (require (reasons = [])
    (.validationOf "File rejected by security policy" [("reasons", reasons)]))
  return antivirus

/-- The file under the path that it is given. -/
def storedFile (ticketId : Option Uuid) (antivirus : AntivirusVerdict) (now : Time)
    (uuid : Uuid) : StoredFile where
  uuid := uuid
  path := buildStoragePath ⟨data.filename, data.mimeType, data.content.length, data.tenantId,
    AttachmentService.folderOf ticketId⟩ now uuid
  content := data.content
  filename := data.filename
  mimeType := data.mimeType
  antivirus := antivirus

def storageUpload (ticketId : Option Uuid) (antivirus : AntivirusVerdict) : WebM StoredFile := do
  let now ← clock
  let uuid ← drawn ServiceEnv.uuid
  let file := storedFile data ticketId antivirus now uuid
  execute (.name file)
  execute (.storeFile file)
  return file

def createAttachment (ticketId : Option Uuid) (file : StoredFile) : WebM Attachment := do
  let id ← drawn ServiceEnv.uuid
  let createdAt ← clock
  let row := AttachmentService.attachmentRow data ticketId ⟨file.path, config.provider⟩
    file.antivirus id createdAt
  execute (.createAttachment row)
  return row

def uploadAttachment : WebM Attachment := do
  let ticketId ← resolveTicketId data
  let antivirus ← validate config data
  let file ← storageUpload data ticketId antivirus
  createAttachment config data ticketId file

end upload

/-- `NotFoundError` without an id. -/
def attachmentNotFound : AppError := .domain "Attachment not found" "NOT_FOUND"

def findAttachment (id tenantId : Uuid) (s : Store) : Option Attachment :=
  s.attachments.find? fun attachment => attachment.id = id ∧ attachment.tenantId = tenantId

def getAttachment (id tenantId : Uuid) : WebM Attachment := do
  let found ← statement (.read .attachmentFind) fun s => findAttachment id tenantId s.db
  lift (orThrow attachmentNotFound found)

def downloadUrlTtlSeconds : Nat := 15 * 60

/-- The file passed its security checks, as far as they are required. -/
def assertDownloadable (config : WebConfig) (attachment : Attachment) : Except AppError Unit := do
  require (attachment.status ≠ .infected && attachment.status ≠ .rejected)
    (.forbidden "This file failed security checks and cannot be downloaded")
  require (attachment.status = .clean || !config.policy.requireAntivirusScan)
    (.forbidden "This file has not been scanned yet")

def signUrl (config : WebConfig) (context : RequestContext) (id tenantId : Uuid) : WebM Unit := do
  let attachment ← getAttachment id tenantId
  lift (assertDownloadable config attachment)
  let now ← clock
  execute (.issueUrl ⟨id, context, attachment.storagePath, some downloadUrlTtlSeconds, now⟩)

def mayDelete (user : RequestUser) (attachment : Attachment) : Bool :=
  attachment.uploadedById = user.id || user.role ∈ [.platformAdmin, .tenantManager]

/-- The row goes even when the file cannot be removed. -/
def deleteAttachment (context : RequestContext) (id tenantId : Uuid) : WebM Unit := do
  let attachment ← getAttachment id tenantId
  lift (require (mayDelete context.user attachment)
    (.forbidden "Unauthorized to delete attachment"))
  tryExecute (.removeFile ⟨attachment.storagePath, attachment.id, context⟩)
  execute (.deleteAttachment attachment.id)

namespace AttachmentController

def authorizeNamed (context : RequestContext) : Option Uuid → WebM Unit
  | none => return ()
  | some ticketId => TicketAccess.assertCanAccess (actor context) ticketId

def uploadData (context : RequestContext) (tenantId : Uuid) (body : UploadBody) :
    UploadAttachmentData :=
  ⟨tenantId, context.user.id, body.filename, body.mimeType, body.content, body.ticketId,
    body.commentId⟩

/-- The ticket of a comment is looked at when the file has been stored. -/
def upload (config : WebConfig) (context : RequestContext) (tenantId : Uuid) (body : UploadBody) :
    WebM Unit := do
  authorizeNamed context body.ticketId
  let attachment ← uploadAttachment config (uploadData context tenantId body)
  if body.ticketId.isNone then authorizeNamed context attachment.ticketId

/-- Uploader and managers, for an attachment without a ticket. -/
def ownsAttachment (user : RequestUser) (attachment : Attachment) : Bool :=
  attachment.uploadedById = user.id || user.role = .tenantManager

def assertCanReadAttachment (context : RequestContext) (id tenantId : Uuid) : WebM Unit := do
  let attachment ← getAttachment id tenantId
  match attachment.ticketId with
  | some ticketId => TicketAccess.assertCanAccess (actor context) ticketId
  | none =>
    lift (require (ownsAttachment context.user attachment)
      (.forbidden "You do not have access to this attachment"))

def getDownloadUrl (config : WebConfig) (context : RequestContext) (id tenantId : Uuid) :
    WebM Unit := do
  assertCanReadAttachment context id tenantId
  signUrl config context id tenantId

def delete (context : RequestContext) (id tenantId : Uuid) : WebM Unit := do
  assertCanReadAttachment context id tenantId
  deleteAttachment context id tenantId

end AttachmentController

/-- Routes on attachments; what the handlers of the others write is among the writes of others. -/
inductive WebRoute where
  | other (guards : RouteGuards)
  | upload (body : UploadBody)
  | downloadUrl (id : Uuid)
  | delete (id : Uuid)

/-- All routes on attachments are behind the same middlewares. -/
def attachmentGuards : RouteGuards where
  tenant := some ⟨false⟩
  context := true
  ticketId := none
  permissions := []
  ticketContext h := by cases h

namespace WebRoute

def guards : WebRoute → RouteGuards
  | other guards => guards
  | upload _ | downloadUrl _ | delete _ => attachmentGuards

def handle (config : WebConfig) (context : RequestContext) (tenantId : Uuid) : WebRoute → WebM Unit
  | other _ => return ()
  | upload body => AttachmentController.upload config context tenantId body
  | downloadUrl id => AttachmentController.getDownloadUrl config context id tenantId
  | delete id => AttachmentController.delete context id tenantId

end WebRoute

structure WebRequest where
  token : Option String
  route : WebRoute

/-- Behind `requireTenantContext` there is an organization. -/
def webRequest (config : WebConfig) (request : WebRequest) : WebM Unit := do
  let context ← gate config request.token request.route.guards
  match context.tenantId with
  | none => return ()
  | some tenantId => request.route.handle config context tenantId

/-- What other services write to the database, and the time that goes by. -/
structure OtherWrite where
  db : Store → Store
  elapsed : Time

def OtherWrite.apply (w : OtherWrite) (s : WebStore) : WebStore :=
  { s with db := w.db s.db, now := s.now + w.elapsed }

/-- Any number of requests, and writes of others between their statements. -/
def web (config : WebConfig) :
    Program WebStore (WebM Unit) (Turn ServiceEnv WebRequest) OtherWrite :=
  among statements (webRequest config) OtherWrite.apply

end OmniSupport.Http
