import OmniSupport.Attachment.SignedUrls
import OmniSupport.Auth.TokenService
import OmniSupport.Foundation.Process
import OmniSupport.Ticket.TicketRequests

/-! What a request passes on its way to a handler: its token, the account, the organization, the
ticket its path names and the permissions, each looked at in a statement of its own. -/
namespace OmniSupport.Http
open Foundation Database Identity Ticketing Attachments
open Auth (AccessTokenPayload JwtError TokenService.blockedStatus)

structure TenantMiddlewareOptions where
  allowTenantless : Bool

/-- What stands before the handler of a route, after the token; each permission guard is passed
with any of its permissions. Tickets are looked up in an organization. -/
structure RouteGuards where
  tenant : Option TenantMiddlewareOptions
  context : Bool
  ticketId : Option Uuid
  permissions : List (List Permission)
  ticketContext : ticketId.isSome = true → context = true

/-- The request after the middlewares: `tenantId` is the organization that it acts in. -/
structure RequestContext where
  user : RequestUser
  tenantId : Option Uuid

structure Served where
  guards : RouteGuards
  context : RequestContext

/-- A file and the path that it has been given. -/
structure StoredFile where
  uuid : Uuid
  path : String
  content : Bytes
  filename : String
  mimeType : String
  antivirus : AntivirusVerdict

structure IssuedUrl where
  attachmentId : Uuid
  context : RequestContext
  call : SignCall

structure Removal where
  path : String
  attachmentId : Uuid
  context : RequestContext

/-- The database, the clock and the stored files; beside them what has been named, served, given
out and removed so far. -/
structure WebStore where
  db : Store
  now : Time
  files : String → Option Bytes
  named : List StoredFile
  served : List Served
  issued : List IssuedUrl
  removals : List Removal

inductive WebCall where
  | clock
  | userFind
  | tenantFind
  | ticketFind
  | commentFind
  | customerLinkFind
  | membershipFind
  | attachmentFind
  | policyValidate
  | randomUuid
  | serve
  | storageUpload
  | attachmentCreate
  | signedUrl
  | storageDelete
  | attachmentDelete
  deriving DecidableEq

inductive WebStatement where
  | read (kind : WebCall)
  | serve (served : Served)
  | name (file : StoredFile)
  | storeFile (file : StoredFile)
  | createAttachment (row : Attachment)
  | issueUrl (url : IssuedUrl)
  | removeFile (removal : Removal)
  | deleteAttachment (id : Uuid)

namespace WebStatement

def kind : WebStatement → WebCall
  | read kind => kind
  | serve _ => .serve
  | name _ => .randomUuid
  | storeFile _ => .storageUpload
  | createAttachment _ => .attachmentCreate
  | issueUrl _ => .signedUrl
  | removeFile _ => .storageDelete
  | deleteAttachment _ => .attachmentDelete

/-- A file that is not there cannot be removed, nor a row deleted that is not. -/
def exec : WebStatement → WebStore → Except AppError WebStore
  | read _, s => .ok s
  | serve served, s => .ok { s with served := s.served ++ [served] }
  | name file, s => .ok { s with named := s.named ++ [file] }
  | storeFile file, s =>
    .ok { s with files := Function.update s.files file.path (some file.content) }
  | createAttachment row, s =>
    if ∃ attachment ∈ s.db.attachments, attachment.id = row.id then .error .database
    else .ok { s with db := AttachmentService.insertAttachment row s.db }
  | issueUrl url, s => .ok { s with issued := s.issued ++ [url] }
  | removeFile removal, s =>
    if (s.files removal.path).isSome then
      .ok { s with
        files := Function.update s.files removal.path none
        removals := s.removals ++ [removal] }
    else .error (.infrastructure "Local storage delete failed")
  | deleteAttachment id, s =>
    if ∃ attachment ∈ s.db.attachments, attachment.id = id then
      .ok { s with
        db :=
          { s.db with
            attachments := Table.deleteMany (fun attachment => attachment.id = id)
              s.db.attachments } }
    else .error .database

end WebStatement

def statements : Statements WebStore WebStatement WebCall AppError where
  exec := WebStatement.exec
  kind := WebStatement.kind
  client _ := .root
  error := .database

abbrev WebM := Process ServiceEnv WebStore WebStatement AppError

structure WebConfig where
  verifyAccess : String → Time → Except JwtError AccessTokenPayload
  policy : AttachmentPolicyOptions
  provider : String

open Process

def clock : WebM Time := statement (.read .clock) WebStore.now

section token
variable (config : WebConfig)

def verifyAccessToken (token : String) (now : Time) : Except AppError AccessTokenPayload :=
  match config.verifyAccess token now with
  | .error .expired => .error (.unauthorized "Access token expired")
  | .error .invalid => .error (.unauthorized "Invalid access token")
  | .ok payload =>
    if payload.type = .access then .ok payload else .error (.unauthorized "Invalid access token")

def assertUnlocked : Option Time → WebM Unit
  | none => return ()
  | some lockedUntil => do
    let now ← clock
    lift (require (lockedUntil ≤ now) (.unauthorized "Account is temporarily locked"))

/-- Neither suspended nor cancelled. -/
def usableTenant (tenant : Tenant) : Bool :=
  tenant.status ≠ .suspended && tenant.status ≠ .cancelled

def assertOrganizationUsable : Option Uuid → WebM Unit
  | none => return ()
  | some tenantId => do
    let tenant ← statement (.read .tenantFind) fun s => s.db.findTenant tenantId
    lift (require (tenant.any usableTenant)
      (.forbidden "Your organization account is not active"))

def assertAccountUsable (user : User) : WebM Unit := do
  lift (require (¬ TokenService.blockedStatus user) (.forbidden "Your account is not active"))
  assertUnlocked user.lockedUntil
  assertOrganizationUsable user.tenantId

/-- The account is as the token says. -/
def agrees (payload : AccessTokenPayload) (user : User) : Bool :=
  user.role = payload.role && user.email = payload.email && user.tenantId = payload.tenantId

def assertAccessTokenUsable (payload : AccessTokenPayload) : WebM Unit := do
  let found ← statement (.read .userFind) fun s => s.db.findUser payload.sub
  let user ← lift (orThrow (.unauthorized "Session is no longer valid") found)
  lift (require (agrees payload user) (.unauthorized "Session is no longer valid"))
  assertAccountUsable user

def requestUser (payload : AccessTokenPayload) : RequestUser :=
  ⟨payload.sub, payload.email, payload.role, payload.tenantId⟩

def authMiddleware (token : Option String) : WebM RequestContext := do
  let token ← lift (orThrow (.unauthorized "No authentication token provided") token)
  let now ← clock
  let payload ← lift (verifyAccessToken config token now)
  assertAccessTokenUsable payload
  return ⟨requestUser payload, payload.tenantId⟩

end token

/-- Platform admins are not tenant-scoped. -/
def tenantMiddleware (options : TenantMiddlewareOptions) (context : RequestContext) :
    WebM RequestContext :=
  if context.user.role = .platformAdmin then return { context with tenantId := none }
  else
    match context.user.tenantId with
    | none =>
      if options.allowTenantless then return { context with tenantId := none }
      else lift (.error (.forbidden "User is not associated with any organization"))
    | some tenantId => do
      let found ← statement (.read .tenantFind) fun s => s.db.findTenant tenantId
      let tenant ← lift (orThrow (.forbidden "Organization not found") found)
      lift (assertTenantActive tenant)
      return { context with tenantId := some tenantId }

def tenantGuard (guards : RouteGuards) (context : RequestContext) : WebM RequestContext :=
  match guards.tenant with
  | none => return context
  | some options => tenantMiddleware options context

def requireTenantContext (guards : RouteGuards) (context : RequestContext) : WebM Unit :=
  lift (require (!guards.context || context.tenantId.isSome)
    (.forbidden "This action requires an organization context"))

def actor (context : RequestContext) : TicketActor :=
  toActor context.user (context.tenantId.getD 0)

namespace TicketAccess

def resolveViewer (actor : TicketActor) : WebM TicketViewer :=
  if actor.role ≠ .customer then return ⟨actor.id, actor.role, none⟩
  else do
    let link ← statement (.read .customerLinkFind) fun s =>
      s.db.findCustomerLink actor.id actor.tenantId
    return ⟨actor.id, actor.role, link.map Auth.CustomerLink.customerId⟩

def assertCanAccess (actor : TicketActor) (ticketId : Uuid) : WebM Unit := do
  let found ← statement (.read .ticketFind) fun s => s.db.findTicket ticketId actor.tenantId
  let ticket ← lift (orThrow (.notFound "Ticket" ticketId) found)
  let viewer ← resolveViewer actor
  lift (require (TicketAccessPolicy.canView viewer ticket)
    (.forbidden "You do not have access to this ticket"))

end TicketAccess

/-- `router.param` of the routes on a ticket. -/
def authorizeTicket (guards : RouteGuards) (context : RequestContext) : WebM Unit :=
  match guards.ticketId with
  | none => return ()
  | some ticketId => TicketAccess.assertCanAccess (actor context) ticketId

/-- Only the grants of tenant roles are stored. -/
def effectivePermissions (user : RequestUser) : WebM (List Permission) :=
  match user.tenantId with
  | none => return Permission.computeEffectivePermissions user.role []
  | some tenantId => do
    let grants ← statement (.read .membershipFind) fun s => s.db.tenantGrants user.id tenantId
    return Permission.computeEffectivePermissions user.role grants

def permits (granted : List Permission) (guard : List Permission) : Bool :=
  guard.any fun permission => permission ∈ granted

def requirePermission (granted : List Permission) (guard : List Permission) :
    Except AppError Unit :=
  require (permits granted guard) (.forbidden ("This action requires the " ++
    " or ".intercalate (guard.map Permission.key) ++ " permission"))

/-- The first guard resolves the permissions for all of them. -/
def permissionGuards (guards : RouteGuards) (context : RequestContext) : WebM Unit :=
  if guards.permissions = [] then return ()
  else do
    let granted ← effectivePermissions context.user
    lift (guards.permissions.forM (requirePermission granted))

/-- The middlewares of a route, in the order of the routers. -/
def gate (config : WebConfig) (token : Option String) (guards : RouteGuards) :
    WebM RequestContext := do
  let authenticated ← authMiddleware config token
  let context ← tenantGuard guards authenticated
  requireTenantContext guards context
  authorizeTicket guards context
  permissionGuards guards context
  execute (.serve ⟨guards, context⟩)
  return context

end OmniSupport.Http
