import OmniSupport.Foundation.Pool
import OmniSupport.Foundation.Rows
import OmniSupport.Messaging.InboundWhatsApp

/-! The messaging channels of tenants: every call reads the channel's row and writes it back in
a statement of its own, so calls on one channel interleave. -/
namespace OmniSupport.Channels
open Foundation Messaging

inductive ChannelProvider where
  | whatsapp
  | email
  deriving DecidableEq

structure WhatsAppChannelConfig where
  phoneNumber : String
  displayName : Option String
  deriving DecidableEq

structure EmailChannelConfig where
  fromName : String
  replyTo : Option String
  deriving DecidableEq

inductive ChannelConfig where
  | whatsapp (config : WhatsAppChannelConfig)
  | email (config : EmailChannelConfig)
  deriving DecidableEq

namespace ChannelConfig

def provider : ChannelConfig → ChannelProvider
  | .whatsapp _ => .whatsapp
  | .email _ => .email

def phoneNumber : ChannelConfig → Option String
  | .whatsapp config => some config.phoneNumber
  | .email _ => none

end ChannelConfig

def ChannelProvider.text : ChannelProvider → String
  | .whatsapp => "whatsapp"
  | .email => "email"

inductive ChannelTestStatus where
  | succeeded
  | failed
  deriving DecidableEq

structure ChannelTestResult where
  status : ChannelTestStatus
  checkedAt : Time
  message : String
  deriving DecidableEq

structure ChannelMetadata where
  secretRotatedAt : Option Time := none
  lastTest : Option ChannelTestResult := none
  configVersion : Option Nat := none
  testedConfigVersion : Option Nat := none
  deriving DecidableEq

/-- A row of `tenant_integrations`. Configs are numbered in the order in which they are written,
and `written` is the number of the row's config: no statement reads it. -/
structure TenantIntegration where
  id : Uuid
  tenantId : Uuid
  provider : ChannelProvider
  isEnabled : Bool
  config : ChannelConfig
  webhookSecret : Option String
  lastSyncAt : Option Time
  metadata : ChannelMetadata
  updatedAt : Time
  written : Nat
  deriving DecidableEq

/-- `tested` are the numbers of the configs that a successful test has read. -/
structure ChannelStore where
  integrations : List TenantIntegration
  ids : List Uuid
  writes : Nat
  tested : List Nat

inductive ChannelError where
  | validation (message : String)
  | conflict (message : String)
  | notFound (provider : ChannelProvider)
  | database (message : String)
  deriving DecidableEq

structure ChannelView where
  provider : ChannelProvider
  isEnabled : Bool
  config : ChannelConfig
  hasSigningSecret : Bool
  secretRotatedAt : Option Time
  lastTest : Option ChannelTestResult
  sharedProviderConfigured : Bool
  updatedAt : Time
  deriving DecidableEq

inductive ChannelResult where
  | view (view : ChannelView)
  | secret (secret : String) (rotatedAt : Time)
  | tested (result : ChannelTestResult)
  | removed
  deriving DecidableEq

inductive ChannelCall where
  | configure (tenantId : Uuid) (config : ChannelConfig)
  | rotateSecret (tenantId : Uuid) (provider : ChannelProvider)
  | test (tenantId : Uuid) (provider : ChannelProvider)
  | setEnabled (tenantId : Uuid) (provider : ChannelProvider) (enabled : Bool)
  | remove (tenantId : Uuid) (provider : ChannelProvider)
  deriving DecidableEq

/-- What a call takes from outside of the database when a statement runs. `encrypted` is what is
stored of `secret`, and `verified` the answer of the email provider in time, or why there is
none. -/
structure ChannelEnv where
  now : Time
  id : Uuid
  secret : String
  encrypted : String
  whatsappConfigured : Bool
  emailConfigured : Bool
  verified : Except String Bool

/-- Where a call stands: its constructor names what comes next. -/
inductive ChannelTask where
  | idle
  | ended (result : Except ChannelError ChannelResult)
  | checkingConfig (tenantId : Uuid) (config : ChannelConfig)
  | findingConfigured (tenantId : Uuid) (config : ChannelConfig)
  | upserting (tenantId : Uuid) (config : ChannelConfig) (existing : Option TenantIntegration)
  | findingRotated (tenantId : Uuid) (provider : ChannelProvider)
  | rotating (integration : TenantIntegration)
  | findingTested (tenantId : Uuid) (provider : ChannelProvider)
  | testing (integration : TenantIntegration)
  | recording (integration : TenantIntegration) (result : ChannelTestResult)
  | findingSwitched (tenantId : Uuid) (provider : ChannelProvider) (enabled : Bool)
  | checkingSwitched (integration : TenantIntegration) (enabled : Bool)
  | switching (integration : TenantIntegration) (enabled : Bool)
  | findingRemoved (tenantId : Uuid) (provider : ChannelProvider)
  | removing (integration : TenantIntegration)
  | auditing (result : ChannelResult)

inductive ChannelStep where
  | call (call : ChannelCall)
  | go (env : ChannelEnv)
  | throws (env : ChannelEnv) (message : String)
  | crash

namespace ChannelMetadata

/-- The last test succeeded, and it was one of the current version. -/
def passes (metadata : ChannelMetadata) : Bool :=
  (metadata.lastTest.any fun test => test.status = .succeeded) &&
    metadata.testedConfigVersion = some (metadata.configVersion.getD 0)

def configured (metadata : ChannelMetadata) : ChannelMetadata :=
  { metadata with configVersion := some (metadata.configVersion.getD 0 + 1) }

def rotated (rotatedAt : Time) (metadata : ChannelMetadata) : ChannelMetadata :=
  { metadata with secretRotatedAt := some rotatedAt }

def recorded (result : ChannelTestResult) (metadata : ChannelMetadata) : ChannelMetadata :=
  { metadata with
    lastTest := some result
    testedConfigVersion :=
      if result.status = .succeeded then some (metadata.configVersion.getD 0)
      else metadata.testedConfigVersion }

end ChannelMetadata

namespace ChannelStore

def find (s : ChannelStore) (tenantId : Uuid) (provider : ChannelProvider) :
    Option TenantIntegration :=
  s.integrations.find? fun r => r.tenantId = tenantId ∧ r.provider = provider

/-- `update` by id, with the updated row: there is none when the row is gone. -/
def update (id : Uuid) (f : TenantIntegration → TenantIntegration) (s : ChannelStore) :
    Option (ChannelStore × TenantIntegration) :=
  (s.integrations.find? fun r => r.id = id).map fun r =>
    ({ s with integrations := Table.updateMany (fun r => r.id = id) f s.integrations }, f r)

def delete (id : Uuid) (s : ChannelStore) : Option ChannelStore :=
  if ∃ r ∈ s.integrations, r.id = id then
    some { s with integrations := Table.deleteMany (fun r => r.id = id) s.integrations }
  else none

/-- `tenantId: { not: tenantId }`, and the same number. -/
def phoneTaken (s : ChannelStore) (tenantId : Uuid) (phoneNumber : String) : Bool :=
  s.integrations.any fun other =>
    other.provider = .whatsapp && other.tenantId ≠ tenantId &&
      other.config.phoneNumber.any fun phone => normalizePhone phone = normalizePhone phoneNumber

end ChannelStore

namespace TenantIntegration

def configure (now : Time) (written : Nat) (config : ChannelConfig) (metadata : ChannelMetadata)
    (r : TenantIntegration) : TenantIntegration :=
  { r with isEnabled := false, config := config, metadata := metadata, updatedAt := now,
           written := written }

def rotate (now : Time) (encrypted : String) (metadata : ChannelMetadata) (r : TenantIntegration) :
    TenantIntegration :=
  { r with webhookSecret := some encrypted, metadata := metadata, updatedAt := now }

def record (now : Time) (metadata : ChannelMetadata) (r : TenantIntegration) : TenantIntegration :=
  { r with lastSyncAt := some now, metadata := metadata, updatedAt := now }

def switch (now : Time) (enabled : Bool) (r : TenantIntegration) : TenantIntegration :=
  { r with isEnabled := enabled, updatedAt := now }

end TenantIntegration

def ChannelError.message : ChannelError → String
  | .validation message | .conflict message | .database message => message
  | .notFound provider => "Integration with id '" ++ provider.text ++ "' not found"

namespace ChannelIntegrationService

/-- `/^\+\d{8,15}$/`. -/
def isE164 (text : String) : Bool :=
  match text.toList with
  | '+' :: digits => digits.all Char.isDigit && (8 ≤ digits.length && digits.length ≤ 15)
  | _ => false

def normalizeConfig : ChannelConfig → Except ChannelError ChannelConfig
  | .whatsapp config =>
    if isE164 (normalizePhone config.phoneNumber) then
      .ok (.whatsapp ⟨normalizePhone config.phoneNumber, config.displayName⟩)
    else .error (.validation "WhatsApp number must be in E.164 format")
  | .email config => .ok (.email ⟨config.fromName, config.replyTo.map JsText.toLowerCase⟩)

def assertPhoneAvailable (s : ChannelStore) (tenantId : Uuid) (config : ChannelConfig) :
    Except ChannelError Unit :=
  if s.phoneTaken tenantId (config.phoneNumber.getD "") then
    .error (.conflict "This WhatsApp number is used by another organization")
  else .ok ()

/-- What the connection test answers, or the message of the error that ends it. -/
def runTest (s : ChannelStore) (env : ChannelEnv) (integration : TenantIntegration) :
    Except String String :=
  match integration.provider with
  | .whatsapp =>
    if ¬ env.whatsappConfigured then
      .error "Shared WhatsApp provider credentials are not configured"
    else if ¬ isE164 (integration.config.phoneNumber.getD "") then
      .error "WhatsApp number must be in E.164 format"
    else match assertPhoneAvailable s integration.tenantId integration.config with
      | .error error => .error error.message
      | .ok () => .ok "Shared WhatsApp provider is configured and the number is routable"
  | .email =>
    if ¬ env.emailConfigured then .error "Shared email provider is not configured"
    else match env.verified with
      | .error message => .error message
      | .ok false => .error "Email provider rejected the connection"
      | .ok true => .ok "Email provider accepted the connection"

def testResult (now : Time) : Except String String → ChannelTestResult
  | .ok message => ⟨.succeeded, now, message⟩
  | .error message => ⟨.failed, now, message⟩

def toView (env : ChannelEnv) (integration : TenantIntegration) : ChannelView where
  provider := integration.provider
  isEnabled := integration.isEnabled
  config := integration.config
  hasSigningSecret := integration.webhookSecret.isSome
  secretRotatedAt := integration.metadata.secretRotatedAt
  lastTest := integration.metadata.lastTest
  sharedProviderConfigured :=
    match integration.provider with
    | .whatsapp => env.whatsappConfigured
    | .email => env.emailConfigured
  updatedAt := integration.updatedAt

/-- How a call begins: before its first statement `configure` checks what it was given. -/
def start : ChannelCall → ChannelTask
  | .configure tenantId config =>
    match normalizeConfig config with
    | .error error => .ended (.error error)
    | .ok normalized =>
      match normalized.provider with
      | .whatsapp => .checkingConfig tenantId normalized
      | .email => .findingConfigured tenantId normalized
  | .rotateSecret tenantId provider => .findingRotated tenantId provider
  | .test tenantId provider => .findingTested tenantId provider
  | .setEnabled tenantId provider enabled => .findingSwitched tenantId provider enabled
  | .remove tenantId provider => .findingRemoved tenantId provider

/-- `find`, and what comes after it. -/
def found (s : ChannelStore) (tenantId : Uuid) (provider : ChannelProvider)
    (next : TenantIntegration → ChannelTask) : ChannelTask :=
  match s.find tenantId provider with
  | some integration => next integration
  | none => .ended (.error (.notFound provider))

/-- An update or a deletion of a row that is gone throws. -/
def afterWrite (s : ChannelStore) : Option (ChannelStore × ChannelResult) → ChannelStore × ChannelTask
  | some (s', result) => (s', .auditing result)
  | none => (s, .ended (.error (.database "Record to update not found.")))

/-- A successful test counts for the config that it has read. -/
def countTest (integration : TenantIntegration) (result : ChannelTestResult) (s : ChannelStore) :
    ChannelStore :=
  if result.status = .succeeded then { s with tested := integration.written :: s.tested } else s

/-- The row that `upsert` inserts. -/
def newIntegration (env : ChannelEnv) (written : Nat) (tenantId : Uuid) (config : ChannelConfig)
    (metadata : ChannelMetadata) : TenantIntegration where
  id := env.id
  tenantId := tenantId
  provider := config.provider
  isEnabled := false
  config := config
  webhookSecret := none
  lastSyncAt := none
  metadata := metadata
  updatedAt := env.now
  written := written

/-- The row of the tenant and the provider is updated, or inserted when there is none. -/
def upsert (s : ChannelStore) (env : ChannelEnv) (tenantId : Uuid) (config : ChannelConfig)
    (metadata : ChannelMetadata) : Option (ChannelStore × TenantIntegration) :=
  match s.find tenantId config.provider with
  | some r =>
    some ({ s with
      integrations := Table.updateMany (fun r' => r'.id = r.id)
        (TenantIntegration.configure env.now s.writes config metadata) s.integrations
      writes := s.writes + 1 }, r.configure env.now s.writes config metadata)
  | none =>
    if env.id ∈ s.ids then none
    else some ({ s with
      integrations := s.integrations ++ [newIntegration env s.writes tenantId config metadata]
      ids := env.id :: s.ids
      writes := s.writes + 1 }, newIntegration env s.writes tenantId config metadata)

/-- The gate of `setEnabled`. -/
def switchGate (integration : TenantIntegration) (enabled : Bool) : ChannelTask :=
  if ¬ enabled then .switching integration enabled
  else if ¬ integration.metadata.passes then
    .ended (.error (.conflict
      "Run a successful connection test of the current configuration first"))
  else match integration.provider with
    | .whatsapp => .checkingSwitched integration enabled
    | .email => .switching integration enabled

/-- The next statement of a call. -/
def go (s : ChannelStore) (env : ChannelEnv) : ChannelTask → Option (ChannelStore × ChannelTask)
  | .idle | .ended _ => none
  | .checkingConfig tenantId config =>
    match assertPhoneAvailable s tenantId config with
    | .error error => some (s, .ended (.error error))
    | .ok () => some (s, .findingConfigured tenantId config)
  | .findingConfigured tenantId config =>
    some (s, .upserting tenantId config (s.find tenantId config.provider))
  | .upserting tenantId config existing =>
    (upsert s env tenantId config
      ((existing.map TenantIntegration.metadata).getD {}).configured).map fun r =>
        (r.1, .auditing (.view (toView env r.2)))
  | .findingRotated tenantId provider => some (s, found s tenantId provider .rotating)
  | .rotating integration =>
    some (afterWrite s ((s.update integration.id (TenantIntegration.rotate env.now env.encrypted
      (integration.metadata.rotated env.now))).map fun r => (r.1, .secret env.secret env.now)))
  | .findingTested tenantId provider => some (s, found s tenantId provider .testing)
  | .testing integration =>
    some (s, .recording integration (testResult env.now (runTest s env integration)))
  | .recording integration result =>
    some (afterWrite s ((s.update integration.id (TenantIntegration.record env.now
      (integration.metadata.recorded result))).map fun r =>
        (countTest integration result r.1, .tested result)))
  | .findingSwitched tenantId provider enabled =>
    some (s, found s tenantId provider fun integration => switchGate integration enabled)
  | .checkingSwitched integration enabled =>
    match assertPhoneAvailable s integration.tenantId integration.config with
    | .error error => some (s, .ended (.error error))
    | .ok () => some (s, .switching integration enabled)
  | .switching integration enabled =>
    some (afterWrite s ((s.update integration.id (TenantIntegration.switch env.now enabled)).map
      fun r => (r.1, .view (toView env r.2))))
  | .findingRemoved tenantId provider => some (s, found s tenantId provider .removing)
  | .removing integration => 
    some (afterWrite s ((s.delete integration.id).map fun s' => (s', .removed)))
  | .auditing result => some (s, .ended (.ok result))

/-- A statement throws: within a connection test the error is the result of the test. -/
def throws (env : ChannelEnv) (message : String) : ChannelTask → Option ChannelTask
  | .idle | .ended _ => none
  | .testing integration => some (.recording integration (testResult env.now (.error message)))
  | _ => some (.ended (.error (.database message)))

def act (_ : Nat) (s : ChannelStore) (task : ChannelTask) :
    ChannelStep → Option (ChannelStore × ChannelTask)
  | .call call =>
    match task with
    | .idle | .ended _ => some (s, start call)
    | _ => none
  | .go env => go s env task
  | .throws env message => (throws env message task).map fun task' => (s, task')
  | .crash => some (s, .idle)

def program : Program ChannelStore ChannelTask ChannelStep Empty where
  act := act
  env _ e := e.elim

def machine : Machine (Pool ChannelStore ChannelTask) (Move ChannelStep Empty) := program.machine

/-- No channel is configured, and no call runs. -/
def init : Pool ChannelStore ChannelTask :=
  ⟨⟨[], [], 0, []⟩, fun _ => .idle⟩

end ChannelIntegrationService
end OmniSupport.Channels
