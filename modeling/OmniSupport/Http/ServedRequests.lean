import OmniSupport.Attachment.AttachmentRequests
import OmniSupport.Foundation.Sightings

/-! Requests that are served: what has been seen of the account, its organization, the ticket and
the permissions since the request came in, whatever else is written meanwhile. -/
namespace OmniSupport.Http
open Foundation Database Identity Ticketing Attachments Process
open Auth (AccessTokenPayload TokenService.blockedStatus)

abbrev Check := WebStore → Prop

section checks
variable (config : WebConfig)

def lockChecks (user : User) : List Check :=
  user.lockedUntil.toList.map fun lockedUntil s => lockedUntil ≤ s.now

def organizationChecks (tenantId : Option Uuid) : List Check :=
  tenantId.toList.map fun tenantId s => (s.db.findTenant tenantId).any usableTenant = true

def accountChecks (text : String) (payload : AccessTokenPayload) (user : User) : List Check :=
  [fun s => verifyAccessToken config text s.now = .ok payload,
    fun s => s.db.findUser payload.sub = some user] ++
  lockChecks user ++ organizationChecks user.tenantId

/-- The middleware looks at the organization of the account once more. -/
def tenantChecks (guards : RouteGuards) (user : RequestUser) : List Check :=
  if guards.tenant.isSome ∧ user.role ≠ .platformAdmin then organizationChecks user.tenantId
  else []

/-- A customer's own record is looked up after the ticket. -/
def viewChecks (actor : TicketActor) (ticketId : Uuid) (ticket : Ticket) : List Check :=
  let visible : Check := fun s => TicketAccessPolicy.canView (viewerOf actor s.db) ticket = true
  if actor.role = .customer then
    [fun s => s.db.findTicket ticketId actor.tenantId = some ticket, visible]
  else [fun s => s.db.findTicket ticketId actor.tenantId = some ticket ∧ visible s]

/-- The guards are passed with the permissions in the store, those of no organization in none. -/
def permissionChecks (guards : RouteGuards) (user : RequestUser) : List Check :=
  if guards.permissions = [] then []
  else user.tenantId.toList.map fun _ s => ∀ guard ∈ guards.permissions,
    permits (getEffectivePermissions ⟨user.id, user.role, user.tenantId⟩ s.db) guard = true

/-- The organization that a request acts in. -/
def scopeOf (guards : RouteGuards) (user : RequestUser) : Option Uuid :=
  if guards.tenant.isSome ∧ user.role = .platformAdmin then none else user.tenantId

end checks

/-- What a request has shown to come by the middlewares of its route. -/
structure Admission (config : WebConfig) (token : Option String) (guards : RouteGuards)
    (context : RequestContext) where
  text : String
  payload : AccessTokenPayload
  user : User
  ticketChecks : List Check
  presented : token = some text
  named : context.user = requestUser payload
  agreed : agrees payload user = true
  open_account : ¬ TokenService.blockedStatus user
  scope : context.tenantId = scopeOf guards context.user
  organization : guards.context = true → context.tenantId.isSome = true
  ticket : guards.ticketId = none ∧ ticketChecks = [] ∨ ∃ ticketId ticket,
    guards.ticketId = some ticketId ∧ ticketChecks = viewChecks (actor context) ticketId ticket
  outside : context.user.tenantId = none → ∀ guard ∈ guards.permissions,
    permits (Permission.computeEffectivePermissions context.user.role []) guard = true

/-- The states of these checks, one after the other. -/
def Admission.checks {config : WebConfig} {token : Option String} {guards : RouteGuards}
    {context : RequestContext} (a : Admission config token guards context) : List Check :=
  accountChecks config a.text a.payload a.user ++ tenantChecks guards context.user ++
    a.ticketChecks ++ permissionChecks guards context.user

/-- The request has passed its checks in the course of these states. -/
def Admitted (config : WebConfig) (token : Option String) (guards : RouteGuards)
    (context : RequestContext) (states : List WebStore) : Prop :=
  ∃ a : Admission config token guards context, InOrder a.checks states

section backed
variable {V : List WebStore → WebStatement → Prop} {Ps : List Check} {seen : List WebStore}
  {config : WebConfig}

/-- No demands are made on reads. -/
def Lenient (V : List WebStore → WebStatement → Prop) : Prop := ∀ seen kind, V seen (.read kind)

theorem backed_assertUnlocked (hV : Lenient V) (hPs : InOrder Ps seen) {user : User} :
    (assertUnlocked user.lockedUntil).Backed statements V
      (fun seen' _ => InOrder (Ps ++ lockChecks user) seen') seen := by
  unfold lockChecks
  cases user.lockedUntil with
  | none =>
    rw [Option.toList_none, List.map_nil, List.append_nil]
    exact backed_pure hPs
  | some lockedUntil =>
    refine backed_statement_bind (hV _ _) fun s => backed_lift fun u hu => ?_
    exact hPs.snoc (of_decide_eq_true (require_ok hu))

theorem backed_assertOrganizationUsable (hV : Lenient V) (hPs : InOrder Ps seen)
    {tenantId : Option Uuid} :
    (assertOrganizationUsable tenantId).Backed statements V
      (fun seen' _ => InOrder (Ps ++ organizationChecks tenantId) seen') seen := by
  unfold organizationChecks
  cases tenantId with
  | none =>
    rw [Option.toList_none, List.map_nil, List.append_nil]
    exact backed_pure hPs
  | some tenantId =>
    refine backed_statement_bind (hV _ _) fun s => backed_lift fun u hu => ?_
    exact hPs.snoc (require_ok hu)

/-- The account behind the token agrees with it and may be used. -/
theorem backed_authMiddleware (hV : Lenient V) {token : Option String} :
    (authMiddleware config token).Backed statements V (fun seen' context => ∃ text payload user,
      token = some text ∧ context = ⟨requestUser payload, payload.tenantId⟩ ∧
      agrees payload user = true ∧ ¬ TokenService.blockedStatus user ∧
      InOrder (accountChecks config text payload user) seen') [] := by
  refine backed_lift_bind fun text htext => ?_
  replace htext := orThrow_ok htext
  refine backed_statement_bind (hV _ _) fun s₁ => backed_lift_bind fun payload hpayload => ?_
  refine Backed.bind (Q := fun seen' _ => ∃ user, agrees payload user = true ∧
    ¬ TokenService.blockedStatus user ∧ InOrder (accountChecks config text payload user) seen') ?_
    fun seen' u huser => ?_
  · refine backed_statement_bind (hV _ _) fun s₂ => backed_lift_bind fun user huser => ?_
    replace huser := orThrow_ok huser
    refine backed_lift_bind fun u hagrees => backed_lift_bind fun u' hopen => ?_
    replace hagrees := require_ok hagrees
    replace hopen := require_ok hopen
    have hread : InOrder [fun s => verifyAccessToken config text s.now = .ok payload,
        fun s => s.db.findUser payload.sub = some user] ([] ++ [s₁] ++ [s₂]) :=
      ⟨[s₁, s₂], List.Sublist.refl _, .cons hpayload (.cons huser .nil)⟩
    refine (backed_assertUnlocked hV hread).bind fun seen' _ hlock => ?_
    refine (backed_assertOrganizationUsable hV hlock).mono fun seen'' _ hchecks => ?_
    exact ⟨user, hagrees, of_decide_eq_true hopen, hchecks⟩
  · obtain ⟨user, hagrees, hopen, hchecks⟩ := huser
    exact backed_pure ⟨text, payload, user, htext, rfl, hagrees, hopen, hchecks⟩

/-- The status texts of the two organization checks agree. -/
theorem usable_of_active {tenant : Tenant} {u : Unit} (h : assertTenantActive tenant = .ok u) :
    usableTenant tenant = true := by
  unfold assertTenantActive at h
  unfold usableTenant
  cases hstatus : tenant.status with
  | active | trial => rfl
  | suspended | cancelled =>
    rw [hstatus] at h
    cases h

theorem backed_tenantMiddleware (hV : Lenient V) (hPs : InOrder Ps seen)
    {options : TenantMiddlewareOptions} {context : RequestContext} :
    (tenantMiddleware options context).Backed statements V (fun seen' context' =>
      context'.user = context.user ∧
      context'.tenantId = (if context.user.role = .platformAdmin then none
        else context.user.tenantId) ∧
      InOrder (Ps ++ if context.user.role ≠ .platformAdmin
        then organizationChecks context.user.tenantId else []) seen') seen := by
  unfold tenantMiddleware
  by_cases hadmin : context.user.role = .platformAdmin
  · simp only [if_pos hadmin, if_neg (not_not_intro hadmin), List.append_nil]
    exact backed_pure ⟨rfl, rfl, hPs⟩
  · simp only [if_neg hadmin, if_pos hadmin]
    cases htenant : context.user.tenantId with
    | none =>
      cases options.allowTenantless with
      | true => exact backed_pure ⟨rfl, rfl, by simpa [organizationChecks] using hPs⟩
      | false => trivial
    | some tenantId =>
      refine backed_statement_bind (hV _ _) fun s => backed_lift_bind fun tenant hfound => ?_
      replace hfound := orThrow_ok hfound
      refine backed_lift_bind fun u hactive => backed_pure ⟨rfl, rfl, hPs.snoc ?_⟩
      simp only [hfound, Option.any_some]
      exact usable_of_active hactive

theorem backed_tenantGuard (hV : Lenient V) (hPs : InOrder Ps seen) {guards : RouteGuards}
    {context : RequestContext} (hcontext : context.tenantId = context.user.tenantId) :
    (tenantGuard guards context).Backed statements V (fun seen' context' =>
      context'.user = context.user ∧ context'.tenantId = scopeOf guards context.user ∧
      InOrder (Ps ++ tenantChecks guards context.user) seen') seen := by
  unfold tenantGuard scopeOf tenantChecks
  cases guards.tenant with
  | none =>
    refine backed_pure ⟨rfl, ?_, ?_⟩
    · simpa using hcontext
    · simpa using hPs
  | some options =>
    refine (backed_tenantMiddleware hV hPs).mono fun seen' context' h => ?_
    simpa using h

theorem viewerOf_staff {actor : TicketActor} (h : actor.role ≠ .customer) (s : Store) :
    viewerOf actor s = ⟨actor.id, actor.role, none⟩ := by
  simp only [viewerOf, if_neg h]

/-- The ticket and its viewer have been seen. -/
theorem backed_assertCanAccess (hV : Lenient V) (hPs : InOrder Ps seen) {actor : TicketActor}
    {ticketId : Uuid} :
    (TicketAccess.assertCanAccess actor ticketId).Backed statements V (fun seen' _ =>
      ∃ ticket, InOrder (Ps ++ viewChecks actor ticketId ticket) seen') seen := by
  refine backed_statement_bind (hV _ _) fun s₁ => backed_lift_bind fun ticket hticket => ?_
  replace hticket := orThrow_ok hticket
  unfold TicketAccess.resolveViewer
  by_cases hcustomer : actor.role = .customer
  · rw [if_neg (not_not_intro hcustomer)]
    refine backed_statement_bind (hV _ _) fun s₂ => backed_lift fun u hview => ?_
    replace hview := require_ok hview
    refine ⟨ticket, ?_⟩
    unfold viewChecks
    rw [if_pos hcustomer, List.append_assoc]
    refine hPs.append ⟨[s₁, s₂], List.Sublist.refl _, .cons hticket (.cons ?_ .nil)⟩
    simpa only [viewerOf, if_pos hcustomer] using hview
  · rw [if_pos hcustomer]
    refine backed_lift fun u hview => ?_
    replace hview := require_ok hview
    refine ⟨ticket, ?_⟩
    unfold viewChecks
    rw [if_neg hcustomer]
    refine hPs.snoc ⟨hticket, ?_⟩
    simp only [viewerOf_staff hcustomer]
    exact hview

theorem permits_all_of_forM {guards : List (List Permission)} {granted : List Permission}
    {u : Unit} (h : guards.forM (requirePermission granted) = .ok u) :
    ∀ guard ∈ guards, permits granted guard = true := by
  induction guards with
  | nil => exact fun guard hmem => absurd hmem List.not_mem_nil
  | cons guard guards ih =>
    change (requirePermission granted guard >>= fun _ =>
      guards.forM (requirePermission granted)) = .ok u at h
    obtain ⟨u', hfirst, hlater⟩ := bind_eq_ok.mp h
    exact List.forall_mem_cons.mpr ⟨require_ok hfirst, ih hlater⟩

theorem backed_permissionGuards (hV : Lenient V) (hPs : InOrder Ps seen) {guards : RouteGuards}
    {context : RequestContext} :
    (permissionGuards guards context).Backed statements V (fun seen' _ =>
      (context.user.tenantId = none → ∀ guard ∈ guards.permissions,
        permits (Permission.computeEffectivePermissions context.user.role []) guard = true) ∧
      InOrder (Ps ++ permissionChecks guards context.user) seen') seen := by
  unfold permissionGuards permissionChecks
  by_cases hnone : guards.permissions = []
  · rw [if_pos hnone, if_pos hnone, List.append_nil]
    refine backed_pure ⟨fun _ guard hmem => ?_, hPs⟩
    rw [hnone] at hmem
    cases hmem
  · rw [if_neg hnone, if_neg hnone]
    unfold effectivePermissions
    cases htenant : context.user.tenantId with
    | none =>
      refine backed_lift fun u hguards => ⟨fun _ => permits_all_of_forM hguards, ?_⟩
      simpa using hPs
    | some tenantId =>
      refine backed_statement_bind (hV _ _) fun s => backed_lift fun u hguards => ?_
      refine ⟨fun h => (by cases h), hPs.snoc ?_⟩
      exact permits_all_of_forM hguards

theorem some_of_requireTenantContext {guards : RouteGuards} {tenantId : Option Uuid} {e : AppError}
    {u : Unit} (h : require (!guards.context || tenantId.isSome) e = .ok u)
    (hcontext : guards.context = true) : tenantId.isSome = true := by
  have hsome := require_ok h
  rw [hcontext] at hsome
  exact hsome

/-- A request is served when it is admitted, and goes on as admitted. -/
theorem backed_gate (hV : Lenient V) {token : Option String} {guards : RouteGuards}
    (hserve : ∀ seen context, Admitted config token guards context seen →
      V seen (.serve ⟨guards, context⟩)) :
    (gate config token guards).Backed statements V (fun seen' context =>
      Admitted config token guards context seen') [] := by
  refine (backed_authMiddleware hV).bind fun seen₁ context₁ hauth => ?_
  obtain ⟨text, payload, user, htext, rfl, hagrees, hopen, haccount⟩ := hauth
  refine (backed_tenantGuard hV haccount rfl).bind fun seen₂ context hcontext => ?_
  obtain ⟨huser, hscope, htenant⟩ := hcontext
  refine backed_lift_bind fun u horganization => ?_
  refine Backed.bind (Q := fun seen' _ => ∃ ticketChecks,
    (guards.ticketId = none ∧ ticketChecks = [] ∨ ∃ ticketId ticket,
      guards.ticketId = some ticketId ∧
        ticketChecks = viewChecks (actor context) ticketId ticket) ∧
    InOrder (accountChecks config text payload user ++ tenantChecks guards context.user ++
      ticketChecks) seen') ?_ fun seen₃ _ hticket => ?_
  · unfold authorizeTicket
    rw [huser]
    cases hid : guards.ticketId with
    | none =>
      refine backed_pure ⟨[], .inl ⟨rfl, rfl⟩, ?_⟩
      rw [List.append_nil]
      exact htenant
    | some ticketId =>
      refine (backed_assertCanAccess hV htenant).mono fun seen' _ hview => ?_
      obtain ⟨ticket, hview⟩ := hview
      exact ⟨_, .inr ⟨ticketId, ticket, rfl, rfl⟩, hview⟩
  · obtain ⟨ticketChecks, hkind, hchecks⟩ := hticket
    refine (backed_permissionGuards hV hchecks).bind fun seen₄ _ hpermissions => ?_
    obtain ⟨houtside, hall⟩ := hpermissions
    have hadmitted : Admitted config token guards context seen₄ :=
      ⟨{ text, payload, user, ticketChecks
         presented := htext
         named := huser
         agreed := hagrees
         open_account := hopen
         scope := by rw [hscope, huser]
         organization := some_of_requireTenantContext horganization
         ticket := hkind
         outside := houtside }, hall⟩
    refine ⟨hserve seen₄ context hadmitted, fun s _ _ => ?_⟩
    obtain ⟨a, hchecks⟩ := hadmitted
    exact ⟨a, hchecks.mono (List.sublist_append_left _ _)⟩

theorem backed_getAttachment (hV : Lenient V) (hPs : InOrder Ps seen) {id tenantId : Uuid} :
    (getAttachment id tenantId).Backed statements V (fun seen' attachment =>
      InOrder (Ps ++ [fun s => findAttachment id tenantId s.db = some attachment]) seen') seen := by
  refine backed_statement_bind (hV _ _) fun s => backed_lift fun attachment hfound => ?_
  replace hfound := orThrow_ok hfound
  exact hPs.snoc hfound

end backed

/-- The attachment of a request, and that its user may see it. -/
structure Readable (context : RequestContext) (tenantId id : Uuid) where
  attachment : Attachment
  ticketChecks : List Check
  visible : attachment.ticketId = none ∧
      AttachmentController.ownsAttachment context.user attachment = true ∧ ticketChecks = [] ∨
    ∃ ticketId ticket, attachment.ticketId = some ticketId ∧
      ticketChecks = viewChecks (actor context) ticketId ticket

def Readable.checks {context : RequestContext} {tenantId id : Uuid}
    (r : Readable context tenantId id) : List Check :=
  (fun s => findAttachment id tenantId s.db = some r.attachment) :: r.ticketChecks

/-- The request has been admitted, may see the attachment, and has read it once more. -/
def Reads (config : WebConfig) (request : WebRequest) (context : RequestContext) (id : Uuid)
    (attachment : Attachment) (states : List WebStore) : Prop :=
  ∃ tenantId, context.tenantId = some tenantId ∧
    ∃ (a : Admission config request.token attachmentGuards context)
      (r : Readable context tenantId id),
      InOrder (a.checks ++ r.checks ++
        [fun s => findAttachment id tenantId s.db = some attachment]) states

/-- What the statements of a request rest on. -/
def Rests (config : WebConfig) (request : WebRequest) (seen : List WebStore) :
    WebStatement → Prop
  | .serve served => request.route.guards = served.guards ∧
    Admitted config request.token served.guards served.context seen
  | .issueUrl url => request.route = .downloadUrl url.attachmentId ∧ ∃ attachment,
    Reads config request url.context url.attachmentId attachment seen ∧
      assertDownloadable config attachment = .ok () ∧
      attachment.storagePath = url.call.storagePath ∧
      url.call.expiresIn = some downloadUrlTtlSeconds
  | .removeFile removal => request.route = .delete removal.attachmentId ∧ ∃ attachment,
    Reads config request removal.context removal.attachmentId attachment seen ∧
      mayDelete removal.context.user attachment = true ∧ attachment.storagePath = removal.path
  | .read _ | .name _ | .storeFile _ | .createAttachment _ | .deleteAttachment _ => True

section rests
variable {config : WebConfig} {request : WebRequest} {context : RequestContext}
  {tenantId id : Uuid} {Ps : List Check} {seen : List WebStore}
  {V : List WebStore → WebStatement → Prop}

theorem lenient_rests : Lenient (Rests config request) := fun _ _ => trivial

theorem backed_assertCanRead (hV : Lenient V) (hPs : InOrder Ps seen) :
    (AttachmentController.assertCanReadAttachment context id tenantId).Backed statements V
      (fun seen' _ => ∃ r : Readable context tenantId id, InOrder (Ps ++ r.checks) seen') seen := by
  refine (backed_getAttachment hV hPs).bind fun seen₁ attachment hread => ?_
  cases hticket : attachment.ticketId with
  | none =>
    refine backed_lift fun u howner => ?_
    replace howner := require_ok howner
    exact ⟨⟨attachment, [], .inl ⟨hticket, howner, rfl⟩⟩, hread⟩
  | some ticketId =>
    refine (backed_assertCanAccess hV hread).mono fun seen₂ _ hview => ?_
    obtain ⟨ticket, hview⟩ := hview
    refine ⟨⟨attachment, _, .inr ⟨ticketId, ticket, hticket, rfl⟩⟩, ?_⟩
    rw [List.append_assoc] at hview
    exact hview

theorem findAttachment_id {attachment : Attachment} {s : Store}
    (h : findAttachment id tenantId s = some attachment) : attachment.id = id := by
  have hfound := List.find?_some h
  simp only [Bool.decide_and, Bool.and_eq_true, decide_eq_true_eq] at hfound
  exact hfound.1

theorem findAttachment_mem {attachment : Attachment} {s : Store}
    (h : findAttachment id tenantId s = some attachment) : attachment ∈ s.attachments :=
  List.mem_of_find?_eq_some h

theorem backed_getDownloadUrl (hroute : request.route = .downloadUrl id)
    (htenant : context.tenantId = some tenantId)
    (a : Admission config request.token attachmentGuards context)
    (hchecks : InOrder a.checks seen) :
    (AttachmentController.getDownloadUrl config context id tenantId).Backed statements
      (Rests config request) (fun _ _ => True) seen := by
  refine (backed_assertCanRead lenient_rests hchecks).bind fun seen₁ _ ⟨r, hreadable⟩ => ?_
  refine (backed_getAttachment lenient_rests hreadable).bind fun seen₂ attachment hread => ?_
  refine backed_lift_bind fun u hdownloadable => ?_
  refine backed_statement_bind trivial fun s => ⟨⟨hroute, attachment, ?_, ?_, rfl, rfl⟩, ?_⟩
  · exact ⟨tenantId, htenant, a, r, hread.mono (List.sublist_append_left _ _)⟩
  · exact hdownloadable
  · exact fun _ _ _ => trivial

theorem backed_delete (hroute : request.route = .delete id)
    (htenant : context.tenantId = some tenantId)
    (a : Admission config request.token attachmentGuards context)
    (hchecks : InOrder a.checks seen) :
    (AttachmentController.delete context id tenantId).Backed statements
      (Rests config request) (fun _ _ => True) seen := by
  refine (backed_assertCanRead lenient_rests hchecks).bind fun seen₁ _ ⟨r, hreadable⟩ => ?_
  refine (backed_getAttachment lenient_rests hreadable).bind fun seen₂ attachment hread => ?_
  refine backed_lift_bind fun u hallowed => ?_
  replace hallowed := require_ok hallowed
  have hid : attachment.id = id := by
    obtain ⟨s, -, hfound⟩ := hread.exists_of_mem (List.mem_append_right _ List.mem_cons_self)
    exact findAttachment_id hfound
  refine ⟨⟨by rw [hroute, hid], attachment, ?_, hallowed, rfl⟩, fun s =>
    ⟨trivial, fun _ _ _ => trivial⟩⟩
  rw [hid]
  exact ⟨tenantId, htenant, a, r, hread⟩

theorem backed_authorizeNamed (hV : Lenient V) {ticketId : Option Uuid} :
    (AttachmentController.authorizeNamed context ticketId).Backed statements V (fun _ _ => True) seen := by
  cases ticketId with
  | none => exact backed_pure trivial
  | some ticketId =>
    exact (backed_assertCanAccess hV (InOrder.nil seen)).mono fun _ _ _ => trivial

theorem backed_resolveTicketId (hV : Lenient V) {data : UploadAttachmentData} :
    (resolveTicketId data).Backed statements V (fun _ _ => True) seen := by
  refine Backed.next ?_ fun seen₂ linked => ?_
  · unfold linkedTicketId
    split
    · exact backed_pure trivial
    · exact backed_statement_bind (hV _ _) fun _ => backed_lift_bind fun _ _ => trivial
  · cases linked with
    | none => exact backed_pure trivial
    | some ticketId =>
      exact backed_statement_bind (hV _ _) fun _ => backed_lift_bind fun _ _ => trivial

/-- The file has no problems, and the verdict on it is no reason to reject it. -/
theorem backed_validate (hV : Lenient V) {data : UploadAttachmentData} :
    (validate config data).Backed statements V (fun _ antivirus =>
      antivirus = verdictOf config data [] ∧
      AttachmentPolicyValidator.problems config.policy data.mimeType data.content = [] ∧
      AttachmentPolicyValidator.antivirusProblems config.policy antivirus = []) seen := by
  refine Backed.bind (Q := fun _ antivirus => antivirus = verdictOf config data
    (AttachmentPolicyValidator.problems config.policy data.mimeType data.content)) ?_
    fun seen₁ antivirus hverdict => backed_lift_bind fun u hreasons => ?_
  · unfold scan
    split
    · exact backed_statement (hV _ _) fun _ => rfl
    · exact backed_pure rfl
  · have hnone := List.append_eq_nil_iff.mp (of_decide_eq_true (require_ok hreasons))
    rw [hnone.1] at hverdict
    exact backed_pure ⟨hverdict, hnone⟩

/-- No demands are made on the statements of an upload. -/
theorem backed_upload {body : UploadBody} :
    (AttachmentController.upload config context tenantId body).Backed statements (Rests config request)
      (fun _ _ => True) seen := by
  refine (backed_authorizeNamed lenient_rests).next fun seen₁ _ => ?_
  refine Backed.next ?_ fun seen₂ attachment => ?_
  · refine (backed_resolveTicketId lenient_rests).next fun seen₂ ticketId => ?_
    refine (backed_validate lenient_rests).bind fun seen₃ antivirus _ => ?_
    refine Backed.next ?_ fun seen₄ file => ?_
    · exact backed_statement_bind trivial fun _ _ _ =>
        ⟨trivial, fun _ _ _ => ⟨trivial, fun _ _ _ => trivial⟩⟩
    · exact fun _ _ => ⟨trivial, fun _ _ _ => ⟨trivial, fun _ _ _ => trivial⟩⟩
  · split
    · exact backed_authorizeNamed lenient_rests
    · exact backed_pure trivial

/-- Every statement of a request rests on what the request has seen. -/
theorem backed_webRequest (config : WebConfig) (request : WebRequest) :
    (webRequest config request).Backed statements (Rests config request) (fun _ _ => True) [] := by
  obtain ⟨token, route⟩ := request
  refine (backed_gate lenient_rests fun seen context hadmitted => ⟨rfl, hadmitted⟩).bind
    fun seen₁ context ⟨a, hchecks⟩ => ?_
  cases htenant : context.tenantId with
  | none => exact backed_pure trivial
  | some tenantId =>
    cases route with
    | other guards => exact backed_pure trivial
    | upload body => exact backed_upload
    | downloadUrl id => exact backed_getDownloadUrl rfl htenant a hchecks
    | delete id => exact backed_delete rfl htenant a hchecks

end rests

/-- A request that is under way after some of the moves, and the stores since it came in. -/
abbrev Requested (config : WebConfig) (s : WebStore)
    (moves : List (Move (Turn ServiceEnv WebRequest) OtherWrite))
    (Q : WebRequest → List WebStore → Prop) : Prop :=
  UnderWay statements (webRequest config) OtherWrite.apply s moves Q

section records
variable {config : WebConfig} {s : WebStore}
  {moves : List (Move (Turn ServiceEnv WebRequest) OtherWrite)}
  {c : Pool WebStore (WebM Unit)}

/-- What has been served, given out and removed comes from one kind of statement each. -/
theorem records_of_exec {st : WebStatement} {s s' : WebStore} (h : st.exec s = .ok s') :
    (∀ served ∈ s'.served, served ∈ s.served ∨ st = .serve served) ∧
    (∀ url ∈ s'.issued, url ∈ s.issued ∨ st = .issueUrl url) ∧
    ∀ removal ∈ s'.removals, removal ∈ s.removals ∨ st = .removeFile removal := by
  have hsame : ∀ {α : Type} {l : List α} {P : α → Prop}, ∀ x ∈ l, x ∈ l ∨ P x :=
    fun _ hx => .inl hx
  have hlast : ∀ {α : Type} {l : List α} {y : α}, ∀ x ∈ l ++ [y], x ∈ l ∨ y = x := by
    intro α l y x hx
    exact (List.mem_append.mp hx).imp_right fun hy => (List.mem_singleton.mp hy).symm
  cases st with
  | serve served =>
    cases h
    exact ⟨fun x hx => (hlast x hx).imp_right (congrArg WebStatement.serve), hsame, hsame⟩
  | issueUrl url =>
    cases h
    exact ⟨hsame, fun x hx => (hlast x hx).imp_right (congrArg WebStatement.issueUrl), hsame⟩
  | removeFile removal =>
    simp only [WebStatement.exec] at h
    split at h
    · cases h
      exact ⟨hsame, hsame, fun x hx =>
        (hlast x hx).imp_right (congrArg WebStatement.removeFile)⟩
    · cases h
  | read | name | storeFile =>
    cases h
    exact ⟨hsame, hsame, hsame⟩
  | createAttachment | deleteAttachment =>
    simp only [WebStatement.exec] at h
    split at h
    · cases h <;> exact ⟨hsame, hsame, hsame⟩
    · cases h <;> exact ⟨hsame, hsame, hsame⟩

theorem requested_of_record {α : Type} {log : WebStore → List α} {record : α → WebStatement}
    {x : α} (hrun : (web config).machine.run (idle s) moves = some c)
    (hexec : ∀ st s s', WebStatement.exec st s = .ok s' →
      ∀ x ∈ log s', x ∈ log s ∨ st = record x)
    (hwrite : ∀ (w : OtherWrite) s, log (w.apply s) = log s) (hx : x ∈ log c.shared)
    (hnew : x ∉ log s) : Requested config s moves fun request states =>
      ∃ seen, seen.Sublist states ∧ Rests config request seen (record x) := by
  refine among_recorded (backed_webRequest config) hexec (fun w s => ?_) hrun hx hnew
  rw [hwrite]
  exact List.Subset.refl _

end records

/-- In every run, a request that is served has passed its checks since it came in: its token was
valid, its account agreed with the token and was open, its organization was active, and it held a
permission of each guard, each at a moment of its own and in this order. -/
theorem served_requests_admitted (config : WebConfig) (s : WebStore)
    (moves : List (Move (Turn ServiceEnv WebRequest) OtherWrite))
    (c : Pool WebStore (WebM Unit)) (hrun : (web config).machine.run (idle s) moves = some c) :
    ∀ served ∈ c.shared.served, served ∉ s.served →
      Requested config s moves fun request states => request.route.guards = served.guards ∧
        Admitted config request.token served.guards served.context states := by
  intro served hserved hnew
  refine (requested_of_record hrun (fun _ _ _ h => (records_of_exec h).1) (fun _ _ => rfl) hserved
    hnew).mono fun request states ⟨seen, hseen, hguards, admission, hchecks⟩ => ?_
  exact ⟨hguards, admission, hchecks.mono hseen⟩

section demo

def demoClaims : AccessTokenPayload := ⟨1, some 2, .agent, "agent@example.com", .access⟩

def demoWeb : WebConfig where
  verifyAccess token _ := if token = "jwt" then .ok demoClaims else .error .invalid
  policy := ⟨true, 100, ["text/plain"], some fun _ _ => true⟩
  provider := "local"

def demoWebStore : WebStore where
  db :=
    { tickets := [
        { (default : Ticket) with
          id := 3
          tenantId := 2
          assignedAgentId := some 1 }]
      comments := []
      customers := []
      tenants := [{ (default : Tenant) with id := 2, status := .active }]
      users := [
        { (default : User) with
          id := 1
          tenantId := some 2
          email := "agent@example.com"
          role := .agent
          status := .active }]
      refreshTokens := []
      sequences := []
      activities := []
      audits := []
      outbox := [] }
  now := 0
  files _ := none
  named := []
  served := []
  issued := []
  removals := []

/-- The next statement; what it draws is numbered. -/
def webTurn (p n : Nat) : Move (Turn ServiceEnv WebRequest) OtherWrite :=
  .act p (.next sampleEnv n)

def ticketGuards : RouteGuards where
  tenant := some ⟨false⟩
  context := true
  ticketId := some 3
  permissions := [[.ticketsUpdate]]
  ticketContext _ := rfl

def suspendTenants : OtherWrite where
  db s := { s with tenants := s.tenants.map fun tenant => { tenant with status := .suspended } }
  elapsed := 5

/-- The organization is suspended when the request has passed its last check. -/
def suspendedMeanwhile : List (Move (Turn ServiceEnv WebRequest) OtherWrite) :=
  .act 0 (.start ⟨some "jwt", .other ticketGuards⟩) :: List.replicate 6 (webTurn 0 1) ++
    [.env suspendTenants, webTurn 0 1]

theorem served_requests_admitted_suspended :
    ∃ c, (web demoWeb).machine.run (idle demoWebStore) suspendedMeanwhile = some c ∧
      c.shared.served.length = 1 ∧ (c.shared.db.findTenant 2).any usableTenant = false ∧
      ∀ served ∈ c.shared.served, served ∉ demoWebStore.served →
        Requested demoWeb demoWebStore suspendedMeanwhile fun request states =>
          request.route.guards = served.guards ∧
            Admitted demoWeb request.token served.guards served.context states := by
  have hsome : ((web demoWeb).machine.run (idle demoWebStore) suspendedMeanwhile).any (fun c =>
      c.shared.served.length = 1 ∧ (c.shared.db.findTenant 2).any usableTenant = false) = true := by
    decide +kernel
  obtain ⟨c, hrun, hfacts⟩ := (Option.any_eq_true _ _).mp hsome
  obtain ⟨hserved, hsuspended⟩ := of_decide_eq_true hfacts
  exact ⟨c, hrun, hserved, hsuspended, served_requests_admitted demoWeb demoWebStore _ c hrun⟩

end demo
end OmniSupport.Http
