import OmniSupport.Database.Repositories
import OmniSupport.Shared.JsText

/-! Uploads: the policy a file must pass, the ticket it belongs to, and its row. -/
namespace OmniSupport.Attachments
open Foundation Database

abbrev Bytes := List UInt8

inductive AntivirusVerdict where
  | clean
  | infected
  | notScanned
  deriving DecidableEq

/-- The limits of the deployment, and its scanner if there is one. -/
structure AttachmentPolicyOptions where
  requireAntivirusScan : Bool
  maxBytes : Nat
  allowedMimeTypes : List String
  scanner : Option (Bytes → String → Bool)

structure AttachmentPolicyResult where
  allowed : Bool
  reasons : List String
  antivirus : AntivirusVerdict
  deriving DecidableEq

namespace FileContentValidator

def oleSignature : Bytes := [0xd0, 0xcf, 0x11, 0xe0, 0xa1, 0xb1, 0x1a, 0xe1]

def zipSignature : Bytes := [0x50, 0x4b, 0x03, 0x04]

/-- Leading bytes per MIME type. -/
def signatures : List (String × List Bytes) :=
  [("image/png", [[0x89, 0x50, 0x4e, 0x47, 0x0d, 0x0a, 0x1a, 0x0a]]),
    ("image/jpeg", [[0xff, 0xd8, 0xff]]),
    ("image/gif", [[0x47, 0x49, 0x46, 0x38, 0x37, 0x61], [0x47, 0x49, 0x46, 0x38, 0x39, 0x61]]),
    ("application/pdf", [[0x25, 0x50, 0x44, 0x46]]),
    ("application/msword", [oleSignature]),
    ("application/vnd.ms-excel", [oleSignature]),
    ("application/vnd.openxmlformats-officedocument.wordprocessingml.document", [zipSignature]),
    ("application/vnd.openxmlformats-officedocument.spreadsheetml.sheet", [zipSignature])]

/-- Executables are never accepted, whatever type was declared. -/
def executableSignatures : List Bytes :=
  [[0x4d, 0x5a], [0x7f, 0x45, 0x4c, 0x46], [0xca, 0xfe, 0xba, 0xbe], [0xfe, 0xed, 0xfa, 0xce],
    [0xcf, 0xfa, 0xed, 0xfe]]

def startsWithAny (known : List Bytes) (content : Bytes) : Bool :=
  known.any fun signature => signature.isPrefixOf content

/-- `toString('ascii')` reads the low seven bits. -/
def ascii (bytes : Bytes) : String :=
  String.ofList (bytes.map fun byte => Char.ofNat (byte.toNat % 128))

def mismatch : String := "File content does not match its declared type"

/-- A reason to reject the file, if there is one. -/
def validate (content : Bytes) (mimeType : String) : Option String :=
  let type := JsText.toLowerCase mimeType
  if startsWithAny executableSignatures content then some "Executable files are not allowed"
  else if type ∈ ["text/plain", "text/csv"] then
    if 0 ∈ content.take 4096 then some mismatch else none
  else if type = "image/webp" then
    if ascii (content.take 4) = "RIFF" ∧ ascii ((content.take 12).drop 8) = "WEBP" then none
    else some mismatch
  else
    match signatures.lookup type with
    | none => some "Unsupported file type"
    | some known => if startsWithAny known content then none else some mismatch

end FileContentValidator

namespace AttachmentPolicyValidator

/-- What is wrong with the file before it is scanned. -/
def problems (options : AttachmentPolicyOptions) (mimeType : String) (content : Bytes) :
    List String :=
  (if JsText.toLowerCase mimeType ∈ options.allowedMimeTypes.map JsText.toLowerCase then []
    else ["Unsupported MIME type"]) ++
  (if 0 < content.length ∧ content.length ≤ options.maxBytes then []
    else ["File exceeds the allowed size"]) ++
  (FileContentValidator.validate content mimeType).toList

/-- Without a scanner files are not scanned, never clean; a file with problems is not
either. -/
def scan (options : AttachmentPolicyOptions) (found : List String) (content : Bytes)
    (filename : String) : ServiceM AntivirusVerdict :=
  match options.scanner with
  | none => return .notScanned
  | some isClean =>
    if found = [] then
      Effect.read .root .policyValidate .database fun _ =>
        if isClean content filename then .clean else .infected
    else return .notScanned

def antivirusProblems (options : AttachmentPolicyOptions) (antivirus : AntivirusVerdict) :
    List String :=
  if antivirus = .infected then ["Antivirus scan failed"]
  else if antivirus = .notScanned ∧ options.requireAntivirusScan then
    ["Antivirus scanning is required but not available"]
  else []

def validate (options : AttachmentPolicyOptions) (filename mimeType : String) (content : Bytes) :
    ServiceM AttachmentPolicyResult := do
  let found := problems options mimeType content
  let antivirus ← scan options found content filename
  let reasons := found ++ antivirusProblems options antivirus
  return ⟨reasons = [], reasons, antivirus⟩

end AttachmentPolicyValidator

structure UploadOptions where
  filename : String
  mimeType : String
  sizeBytes : Nat
  tenantId : Uuid
  folder : String

structure UploadResult where
  storagePath : String
  provider : String

/-- The storage provider answers an upload with where it has put the file. -/
structure FileServices where
  options : AttachmentPolicyOptions
  upload : Bytes → UploadOptions → UploadResult

/-- `content` holds the bytes of the encoded text of the request. -/
structure UploadAttachmentData where
  tenantId : Uuid
  uploaderId : Uuid
  filename : String
  mimeType : String
  content : Bytes
  ticketId : Option Uuid
  commentId : Option Uuid

namespace AttachmentService

def resolveComment (data : UploadAttachmentData) (comment : Option TicketComment)
    (commentId : Uuid) : Except AppError Uuid :=
  match comment with
  | none => .error (.notFound "Comment" commentId)
  | some comment =>
    if ∀ ticketId, data.ticketId = some ticketId → comment.ticketId = ticketId then
      .ok comment.ticketId
    else .error (.notFound "Comment" commentId)

/-- The ticket of the comment, or the one the upload names. -/
def linkedTicketId (data : UploadAttachmentData) : ServiceM (Option Uuid) :=
  match data.commentId with
  | none => return data.ticketId
  | some commentId => do
    let comment ← Effect.read .root .commentFind .database
      (Store.findComment commentId data.tenantId)
    let ticketId ← Effect.lift (resolveComment data comment commentId)
    return some ticketId

def checkTicket (tenantId : Uuid) : Option Uuid → ServiceM (Option Uuid)
  | none => return none
  | some ticketId => do
    let found ← Effect.read .root .ticketFind .database (Store.findTicket ticketId tenantId)
    let _ ← Effect.lift (orThrow (.notFound "Ticket" ticketId) found)
    return some ticketId

/-- The ticket and comment an attachment is linked to must belong to the uploader's
organization. A comment implies its ticket. -/
def resolveTicketId (data : UploadAttachmentData) : ServiceM (Option Uuid) := do
  let linked ← linkedTicketId data
  checkTicket data.tenantId linked

def folderOf (ticketId : Option Uuid) : String :=
  match ticketId with
  | some ticketId => "tickets/" ++ toString ticketId
  | none => "general"

def attachmentRow (data : UploadAttachmentData) (ticketId : Option Uuid)
    (uploaded : UploadResult) (antivirus : AntivirusVerdict) (id : Uuid) (createdAt : Time) :
    Attachment where
  id := id
  tenantId := data.tenantId
  ticketId := ticketId
  commentId := data.commentId
  uploadedById := data.uploaderId
  filename := data.filename
  originalName := data.filename
  mimeType := data.mimeType
  sizeBytes := data.content.length
  storageProvider := if uploaded.provider = "s3" then .s3 else .local
  storagePath := uploaded.storagePath
  status := if antivirus = .clean then .clean else .pending
  createdAt := createdAt

def insertAttachment (row : Attachment) (s : Store) : Store :=
  { s with attachments := s.attachments ++ [row] }

/-- The id and the time of a new row are set as it is inserted. -/
def createAttachment (row : Uuid → Time → Attachment) : ServiceM Attachment := do
  let id ← Effect.draw ServiceEnv.uuid
  let createdAt ← now
  let attachment := row id createdAt
  Effect.call .root .attachmentCreate .database fun s =>
    if ∃ a ∈ s.attachments, a.id = attachment.id then .error .database
    else .ok (attachment, insertAttachment attachment s)

def uploadAttachment (files : FileServices) (data : UploadAttachmentData) :
    ServiceM Attachment := do
  let ticketId ← resolveTicketId data
  let policyResult ← AttachmentPolicyValidator.validate files.options data.filename data.mimeType
    data.content
  Effect.lift (require policyResult.allowed
    (.validationOf "File rejected by security policy" [("reasons", policyResult.reasons)]))
  let uploaded ← Effect.read .root .storageUpload .database fun _ =>
    files.upload data.content
      ⟨data.filename, data.mimeType, data.content.length, data.tenantId, folderOf ticketId⟩
  createAttachment (attachmentRow data ticketId uploaded policyResult.antivirus)

end AttachmentService
end OmniSupport.Attachments
