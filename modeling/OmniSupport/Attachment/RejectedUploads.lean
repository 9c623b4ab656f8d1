import OmniSupport.Foundation.Counted
import OmniSupport.Database.ServiceRules
import OmniSupport.Ticket.TicketAccess
import OmniSupport.Ticket.TicketRequests

/-! Uploads that fail: what they leave behind depends on whether the file is stored by then. -/
namespace OmniSupport.Ticketing
open Foundation Database Effect Attachments

/-- No new row and no new file. A file is stored when the storage call comes through. -/
structure LeavesNothing (s : Store) (w : World Store ServiceCall) : Prop where
  rows : w.committed.attachments = s.attachments
  files : ¬∃ c ∈ w.calls, c.kind = .storageUpload ∧ c.fault = .none

section answers
variable (user : RequestUser) (tenantId : Uuid) (s : Store)

/-- The answer of the access check, and the reads it takes to let someone in. -/
def access (ticketId : Uuid) : Except AppError Unit := do
  let ticket ← orThrow (.notFound "Ticket" ticketId) (s.findTicket ticketId tenantId)
  require (TicketAccessPolicy.canView (viewerOf (toActor user tenantId) s) ticket)
    (.forbidden "You do not have access to this ticket")

def viewerReads : Nat := if user.role = .customer then 1 else 0

def accessReads : Nat := 1 + viewerReads user

def namedAccess : Option Uuid → Except AppError Unit
  | none => .ok ()
  | some ticketId => access user tenantId s ticketId

def namedReads : Option Uuid → Nat
  | none => 0
  | some _ => accessReads user

end answers

section answers
variable (data : UploadAttachmentData) (s : Store)

/-- The ticket of the comment, or the one the upload names. -/
def linkedTicket : Except AppError (Option Uuid) :=
  match data.commentId with
  | none => .ok data.ticketId
  | some commentId => do
    let ticketId ← AttachmentService.resolveComment data
      (s.findComment commentId data.tenantId) commentId
    return some ticketId

def commentReads : Nat := if data.commentId.isSome then 1 else 0

def existingTicket (tenantId : Uuid) : Option Uuid → Except AppError (Option Uuid)
  | none => .ok none
  | some ticketId => do
    let _ ← orThrow (.notFound "Ticket" ticketId) (s.findTicket ticketId tenantId)
    return some ticketId

def ticketReads : Nat := if data.commentId.isSome || data.ticketId.isSome then 1 else 0

def fileProblems (options : AttachmentPolicyOptions) : List String :=
  AttachmentPolicyValidator.problems options data.mimeType data.content

def scanVerdict (options : AttachmentPolicyOptions) : AntivirusVerdict :=
  match options.scanner with
  | none => .notScanned
  | some isClean =>
    if fileProblems data options = [] then
      if isClean data.content data.filename then .clean else .infected
    else .notScanned

def scanReads (options : AttachmentPolicyOptions) : Nat :=
  if options.scanner.isSome && fileProblems data options = [] then 1 else 0

def policyVerdict (options : AttachmentPolicyOptions) : AttachmentPolicyResult :=
  let reasons := fileProblems data options ++
    AttachmentPolicyValidator.antivirusProblems options (scanVerdict data options)
  ⟨reasons = [], reasons, scanVerdict data options⟩

/-- The ticket and the verdict of an upload that is accepted. -/
def accepted (files : FileServices) (user : RequestUser) :
    Except AppError (Option Uuid × AntivirusVerdict) := do
  namedAccess user data.tenantId s data.ticketId
  let linked ← linkedTicket data s
  let ticketId ← existingTicket s data.tenantId linked
  let result := policyVerdict data files.options
  require result.allowed
    (.validationOf "File rejected by security policy" [("reasons", result.reasons)])
  return (ticketId, result.antivirus)

/-- The calls of an accepted upload before it stores the file. -/
def callsBefore (files : FileServices) (user : RequestUser) : Nat :=
  namedReads user data.ticketId +
    (commentReads data + (ticketReads data + scanReads data files.options))

end answers

/-- The ticket that is checked after the insert only: that of the comment, when the upload
names no ticket itself. -/
def lateTicket (data : UploadAttachmentData) (s : Store) : Option Uuid :=
  if data.ticketId.isNone then
    data.commentId.bind fun commentId =>
      (s.findComment commentId data.tenantId).map TicketComment.ticketId
  else none

/-- What comes after the storage call, the `n`-th, goes well: the insert of the row, and the
check that comes after it. -/
structure GoesWell (env : ServiceEnv) (faults : Nat → Fault) (n : Nat) (s : Store)
    (user : RequestUser) (data : UploadAttachmentData) : Prop where
  insert : faults (n + 1) = .none
  newId : ∀ attachment ∈ s.attachments, attachment.id ≠ env.uuid 0
  reads : Clear faults (n + 2) (namedReads user (lateTicket data s))
  access : namedAccess user data.tenantId s (lateTicket data s) = .ok ()

/-- The upload is accepted, its file is stored, and something fails after that. -/
structure FailsAfterStoring (files : FileServices) (env : ServiceEnv) (faults : Nat → Fault)
    (s : Store) (user : RequestUser) (data : UploadAttachmentData) : Prop where
  accepted : ∃ checked, accepted data s files user = .ok checked
  stored : Clear faults 0 (callsBefore data files user + 1)
  fails : ¬GoesWell env faults (callsBefore data files user) s user data

/-- The part of an upload before the file is stored. -/
def checkUpload (files : FileServices) (user : RequestUser) (data : UploadAttachmentData) :
    ServiceM (Option Uuid × AntivirusVerdict) := do
  AttachmentController.authorizeNamed user data.tenantId data.ticketId
  let linked ← AttachmentService.linkedTicketId data
  let ticketId ← AttachmentService.checkTicket data.tenantId linked
  let result ← AttachmentPolicyValidator.validate files.options data.filename data.mimeType
    data.content
  Effect.lift (require result.allowed
    (.validationOf "File rejected by security policy" [("reasons", result.reasons)]))
  return (ticketId, result.antivirus)

def storeFile (files : FileServices) (data : UploadAttachmentData) (ticketId : Option Uuid) :
    ServiceM UploadResult :=
  Effect.read .root .storageUpload .database fun _ =>
    files.upload data.content ⟨data.filename, data.mimeType, data.content.length, data.tenantId,
      AttachmentService.folderOf ticketId⟩

/-- The part after the insert of the row. -/
def answerUpload (user : RequestUser) (data : UploadAttachmentData) (attachment : Attachment) :
    ServiceM HttpReply := do
  AttachmentController.authorizeNamed user data.tenantId
    (if data.ticketId.isNone then attachment.ticketId else none)
  return .uploaded attachment.id attachment.filename attachment.mimeType attachment.sizeBytes
    attachment.status

theorem upload_eq (files : FileServices) (user : RequestUser) (tenantId : Uuid)
    (body : UploadBody) :
    AttachmentController.upload files user tenantId body =
      checkUpload files user (AttachmentController.uploadData user tenantId body) >>= fun checked =>
        storeFile files (AttachmentController.uploadData user tenantId body) checked.1 >>=
          fun uploaded => AttachmentService.createAttachment
            (AttachmentService.attachmentRow
              (AttachmentController.uploadData user tenantId body) checked.1 uploaded checked.2) >>=
            answerUpload user (AttachmentController.uploadData user tenantId body) := by
  simp only [AttachmentController.upload, AttachmentService.uploadAttachment, checkUpload,
    AttachmentService.resolveTicketId, storeFile, bind_assoc, pure_bind]
  rfl

section counts
variable {P : ServiceCall → Prop} {env : ServiceEnv} {d : Nat} {s : Store} {user : RequestUser}
  {tenantId : Uuid} {data : UploadAttachmentData} {files : FileServices}

theorem counted_resolveViewer (hP : P .customerLinkFind) :
    Counted P env d d s (viewerReads user) (.ok (viewerOf (toActor user tenantId) s))
      (TicketAccessService.resolveViewer (toActor user tenantId)) := by
  have hactor : (toActor user tenantId).role = user.role := rfl
  unfold TicketAccessService.resolveViewer viewerOf viewerReads
  by_cases hrole : user.role = .customer
  · rw [hactor, if_neg (not_not_intro hrole), if_pos hrole, if_pos hrole]
    change Counted P env d d s (1 + 0) _ _
    refine (counted_read hP).andThen ?_
    exact counted_pure _
  · rw [hactor, if_pos hrole, if_neg hrole, if_neg hrole]
    exact counted_pure _

theorem counted_authorizeTicket (hticket : P .ticketFind) (hlink : P .customerLinkFind)
    {ticketId : Uuid} :
    Counted P env d d s (accessReads user) (access user tenantId s ticketId)
      (authorizeTicket user tenantId ticketId) := by
  simp only [authorizeTicket, TicketAccessService.assertCanAccess, TicketRepository.findById,
    bind_assoc, pure_bind]
  refine (counted_read hticket).andThen (counted_lift_bind fun ticket _ => ?_)
  have hallowed : Counted P env d d s 0
      (require (TicketAccessPolicy.canView (viewerOf (toActor user tenantId) s) ticket)
        (.forbidden "You do not have access to this ticket"))
      (lift (require (TicketAccessPolicy.canView (viewerOf (toActor user tenantId) s) ticket)
        (.forbidden "You do not have access to this ticket")) >>= fun _ => pure ()) := by
    refine (counted_lift_bind (y := .ok) fun _ _ => counted_pure _).of_eq rfl ?_
    exact (bind_pure _).symm
  change Counted P env d d s (viewerReads user + 0) _ _
  exact Counted.andThen (counted_resolveViewer hlink) hallowed

theorem counted_authorizeNamed (hticket : P .ticketFind) (hlink : P .customerLinkFind)
    {ticketId : Option Uuid} :
    Counted P env d d s (namedReads user ticketId) (namedAccess user tenantId s ticketId)
      (AttachmentController.authorizeNamed user tenantId ticketId) := by
  cases ticketId with
  | none => exact counted_pure ()
  | some ticketId => exact counted_authorizeTicket hticket hlink

theorem counted_linkedTicketId (hcomment : P .commentFind) :
    Counted P env d d s (commentReads data) (linkedTicket data s)
      (AttachmentService.linkedTicketId data) := by
  unfold AttachmentService.linkedTicketId linkedTicket commentReads
  cases data.commentId with
  | none => exact counted_pure _
  | some commentId =>
    change Counted P env d d s (1 + 0) _ _
    refine (counted_read hcomment).andThen (counted_lift_bind fun ticketId _ => ?_)
    exact counted_pure _

theorem counted_checkTicket (hticket : P .ticketFind) {ticketId : Option Uuid} :
    Counted P env d d s (if ticketId.isSome then 1 else 0) (existingTicket s tenantId ticketId)
      (AttachmentService.checkTicket tenantId ticketId) := by
  cases ticketId with
  | none => exact counted_pure _
  | some ticketId =>
    change Counted P env d d s (1 + 0) _ _
    refine (counted_read hticket).andThen (counted_lift_bind fun _ _ => ?_)
    exact counted_pure _

theorem counted_validate {options : AttachmentPolicyOptions} (hscan : P .policyValidate) :
    Counted P env d d s (scanReads data options) (.ok (policyVerdict data options))
      (AttachmentPolicyValidator.validate options data.filename data.mimeType data.content) := by
  have hverdict : Counted P env d d s (scanReads data options) (.ok (scanVerdict data options))
      (AttachmentPolicyValidator.scan options (fileProblems data options) data.content
        data.filename) := by
    unfold AttachmentPolicyValidator.scan scanReads scanVerdict
    cases options.scanner with
    | none => exact counted_pure _
    | some isClean =>
      by_cases hfound : fileProblems data options = []
      · simp only [hfound, if_pos, Option.isSome_some, decide_true, Bool.and_self]
        exact counted_read (f := fun _ =>
          if isClean data.content data.filename then AntivirusVerdict.clean
          else AntivirusVerdict.infected) hscan
      · simp only [hfound, if_neg, not_false_eq_true, Option.isSome_some, decide_false,
          Bool.and_false, Bool.false_eq_true]
        exact counted_pure _
  change Counted P env d d s (scanReads data options + 0) _ _
  refine hverdict.andThen ?_
  exact counted_pure _

/-- The ticket of an accepted upload is looked up if a comment or a ticket is named. -/
theorem linkedTicket_isSome {linked : Option Uuid} (h : linkedTicket data s = .ok linked) :
    (if linked.isSome then 1 else 0) = ticketReads data := by
  unfold linkedTicket at h
  unfold ticketReads
  cases hcomment : data.commentId with
  | none =>
    rw [hcomment] at h
    rw [← Except.ok.inj h]
    rfl
  | some commentId =>
    rw [hcomment] at h
    obtain ⟨ticketId, -, hlinked⟩ := bind_eq_ok.mp h
    rw [← Except.ok.inj hlinked]
    rfl

end counts

section checks

/-- Nothing is stored before the checks are through. -/
theorem counted_checkUpload (env : ServiceEnv) (s : Store) (user : RequestUser)
    (data : UploadAttachmentData) (files : FileServices) :
    Counted (fun kind => kind ≠ .storageUpload) env 0 0 s (callsBefore data files user)
      (accepted data s files user) (checkUpload files user data) := by
  refine (counted_authorizeNamed (by decide) (by decide)).bind fun _ _ => ?_
  refine (counted_linkedTicketId (by decide)).bind fun linked hlinked => ?_
  have hticket : Counted (fun kind => kind ≠ .storageUpload) env 0 0 s (ticketReads data)
      (existingTicket s data.tenantId linked)
      (AttachmentService.checkTicket data.tenantId linked) :=
    (counted_checkTicket (by decide)).of_eq (linkedTicket_isSome hlinked).symm rfl
  refine hticket.bind fun ticketId _ => ?_
  change Counted _ env 0 0 s (scanReads data files.options + 0) _ _
  refine (counted_validate (by decide)).andThen (counted_lift_bind fun _ _ => ?_)
  exact counted_pure _

end checks

section tail
variable {env : ServiceEnv} {faults : Nat → Fault} {s : Store} {user : RequestUser}
  {data : UploadAttachmentData} {files : FileServices} {w : World Store ServiceCall} {n : Nat}

theorem lateTicket_eq {ticketId : Option Uuid} {antivirus : AntivirusVerdict}
    (h : accepted data s files user = .ok (ticketId, antivirus)) :
    (if data.ticketId.isNone then ticketId else none) = lateTicket data s := by
  obtain ⟨u, -, h⟩ := bind_eq_ok.mp h
  obtain ⟨linked, hlinked, h⟩ := bind_eq_ok.mp h
  obtain ⟨checked, hchecked, h⟩ := bind_eq_ok.mp h
  obtain ⟨u', -, h⟩ := bind_eq_ok.mp h
  have hsame : checked = linked := by
    cases linked with
    | none => exact (Except.ok.inj hchecked).symm
    | some id =>
      obtain ⟨ticket, -, hfound⟩ := bind_eq_ok.mp hchecked
      exact (Except.ok.inj hfound).symm
  have hticket : checked = ticketId := congrArg Prod.fst (Except.ok.inj h)
  rw [← hticket, hsame, lateTicket]
  by_cases hnone : data.ticketId.isNone = true
  · rw [if_pos hnone, if_pos hnone]
    unfold linkedTicket at hlinked
    cases hcomment : data.commentId with
    | none =>
      rw [hcomment] at hlinked
      rw [← Except.ok.inj hlinked]
      exact Option.isNone_iff_eq_none.mp hnone
    | some commentId =>
      rw [hcomment] at hlinked
      obtain ⟨id, hresolved, hid⟩ := bind_eq_ok.mp hlinked
      rw [← Except.ok.inj hid, Option.bind_some]
      cases hfound : s.findComment commentId data.tenantId with
      | none =>
        rw [hfound] at hresolved
        cases hresolved
      | some comment =>
        rw [hfound] at hresolved
        simp only [AttachmentService.resolveComment] at hresolved
        split at hresolved
        · rw [← Except.ok.inj hresolved]
          rfl
        · cases hresolved
  · rw [if_neg hnone, if_neg hnone]

/-- The insert comes through exactly when its call does and the id is new. -/
theorem createAttachment_run (row : Uuid → Time → Attachment) (hw : w.working = none)
    (hd : w.draws = 0) (hs : w.committed = s) {attachment : Attachment}
    (hrow : row (env.uuid 0) (env.clock 1) = attachment) :
    (¬(faults w.calls.length = .none ∧ ∀ a ∈ s.attachments, a.id ≠ attachment.id) ∧
      ((AttachmentService.createAttachment row).run env faults w).1.isOk = false) ∨
    (faults w.calls.length = .none ∧ ∀ a ∈ s.attachments, a.id ≠ attachment.id) ∧
      ∃ w', (AttachmentService.createAttachment row).run env faults w = (.ok attachment, w') ∧
        w'.committed = AttachmentService.insertAttachment attachment s ∧
        w'.working = none ∧ w'.draws = 2 ∧ w'.calls.length = w.calls.length + 1 := by
  have hrun : (AttachmentService.createAttachment row).run env faults w =
      (Effect.call .root .attachmentCreate .database fun s =>
        if ∃ a ∈ s.attachments, a.id = (row (env.uuid w.draws) (env.clock (w.draws + 1))).id then
          .error .database
        else .ok (row (env.uuid w.draws) (env.clock (w.draws + 1)),
          AttachmentService.insertAttachment
            (row (env.uuid w.draws) (env.clock (w.draws + 1))) s)).run env faults
        { w with draws := w.draws + 1 + 1 } := rfl
  rw [hrun, hd, hrow]
  have hview : ({ w with draws := 0 + 1 + 1 } : World Store ServiceCall).view .root = s := hs
  simp only [Effect.call, hview]
  cases hfault : faults w.calls.length with
  | throws | crash => exact .inl ⟨by simp, rfl⟩
  | none =>
    by_cases htaken : ∃ a ∈ s.attachments, a.id = attachment.id
    · rw [if_pos htaken]
      obtain ⟨a, ha, hid⟩ := htaken
      exact .inl ⟨fun h => h.2 a ha hid, rfl⟩
    · rw [if_neg htaken]
      refine .inr ⟨⟨rfl, fun a ha hid => htaken ⟨a, ha, hid⟩⟩, _, rfl, rfl, hw, rfl, ?_⟩
      simp [World.write, World.log]

theorem counted_answerUpload (env : ServiceEnv) (user : RequestUser) (data : UploadAttachmentData)
    (attachment : Attachment) {d : Nat} {t : Store} :
    Counted (fun _ => True) env d d t
      (namedReads user (if data.ticketId.isNone then attachment.ticketId else none))
      (namedAccess user data.tenantId t
          (if data.ticketId.isNone then attachment.ticketId else none) >>= fun _ =>
        .ok (.uploaded attachment.id attachment.filename attachment.mimeType attachment.sizeBytes
          attachment.status))
      (answerUpload user data attachment) := by
  have hnamed : Counted (fun _ => True) env d d t
      (namedReads user (if data.ticketId.isNone then attachment.ticketId else none))
      (namedAccess user data.tenantId t (if data.ticketId.isNone then attachment.ticketId else none))
      (AttachmentController.authorizeNamed user data.tenantId
        (if data.ticketId.isNone then attachment.ticketId else none)) :=
    counted_authorizeNamed trivial trivial
  exact hnamed.bind fun _ _ => counted_pure _

/-- The insert of an attachment changes nothing the access check reads. -/
theorem namedAccess_insert (attachment : Attachment) (tenantId : Uuid) (ticketId : Option Uuid) :
    namedAccess user tenantId (AttachmentService.insertAttachment attachment s) ticketId =
      namedAccess user tenantId s ticketId := by
  cases ticketId <;> rfl

/-- What comes after the storage call returns exactly when it goes well. -/
theorem tail_isOk_iff {ticketId : Option Uuid} {antivirus : AntivirusVerdict}
    (uploaded : UploadResult)
    (haccepted : accepted data s files user = .ok (ticketId, antivirus))
    (hw : w.working = none) (hd : w.draws = 0) (hs : w.committed = s)
    (hn : w.calls.length = n + 1) :
    ((AttachmentService.createAttachment
        (AttachmentService.attachmentRow data ticketId uploaded antivirus) >>=
      answerUpload user data).run env faults w).1.isOk = true ↔
      GoesWell env faults n s user data := by
  generalize hrow : AttachmentService.attachmentRow data ticketId uploaded antivirus
    (env.uuid 0) (env.clock 1) = attachment
  have hid : attachment.id = env.uuid 0 := by
    rw [← hrow]
    rfl
  have hlate : (if data.ticketId.isNone then attachment.ticketId else none) =
      lateTicket data s := by
    rw [← hrow]
    exact lateTicket_eq haccepted
  rcases createAttachment_run _ hw hd hs hrow with
    ⟨hfails, hno⟩ | ⟨⟨hinsert, hnew⟩, w', hrun, hs', hw', hd', hn'⟩
  · rw [(bind_run_failed hno).1]
    constructor
    · intro h
      cases h
    · intro h
      refine absurd ⟨?_, fun a ha => ?_⟩ hfails
      · rw [hn]
        exact h.insert
      · rw [hid]
        exact h.newId a ha
  · have hsecond := counted_answerUpload env user data attachment faults w' hw' hd' hs'
    have hcount : w'.calls.length = n + 2 := by omega
    rw [bind_run_ok hrun, hsecond.isOk_iff, hlate, namedAccess_insert, hcount]
    constructor
    · rintro ⟨⟨reply, hreply⟩, hclear⟩
      obtain ⟨u, haccess, -⟩ := bind_eq_ok.mp hreply
      rw [hn] at hinsert
      exact ⟨hinsert, fun a ha => hid ▸ hnew a ha, hclear, haccess⟩
    · intro h
      exact ⟨⟨_, bind_eq_ok.mpr ⟨(), h.access, rfl⟩⟩, h.reads⟩

theorem calls_answerUpload (attachment : Attachment) :
    Calls (fun _ => True) (answerUpload user data attachment) := by
  have hviewer : ∀ actor, Calls (fun _ => True) (TicketAccessService.resolveViewer actor) := by
    intro actor
    unfold TicketAccessService.resolveViewer
    split
    · exact calls_pure _
    · exact (calls_read trivial).bind fun _ => calls_pure _
  refine Calls.bind ?_ fun _ => calls_pure _
  cases if data.ticketId.isNone then attachment.ticketId else none with
  | none => exact calls_pure _
  | some ticketId =>
    refine Calls.bind ?_ fun _ => calls_pure _
    refine (calls_read trivial).bind fun _ => (calls_lift _).bind fun _ => ?_
    exact (hviewer _).bind fun _ => (calls_lift _).bind fun _ => calls_pure _

/-- Calls are only added to the log. -/
theorem calls_tail (user : RequestUser) (data : UploadAttachmentData)
    (row : Uuid → Time → Attachment) :
    Calls (fun _ => True) (AttachmentService.createAttachment row >>= answerUpload user data) := by
  have hcreate : Calls (fun _ => True) (AttachmentService.createAttachment row) :=
    (calls_draw _).bind fun _ => (calls_draw _).bind fun _ => calls_call trivial
  exact hcreate.bind calls_answerUpload

/-- Without a stored file there is no row either. -/
theorem leavesNothing_of_calls {cs : List (CallRecord ServiceCall)} (hs : w.committed = s)
    (hcalls : w.calls = cs) (hnone : ∀ c ∈ cs, c.kind = .storageUpload → c.fault ≠ .none) :
    LeavesNothing s w where
  rows := by rw [hs]
  files := by
    rintro ⟨c, hc, hkind, hfault⟩
    rw [hcalls] at hc
    exact hnone c hc hkind hfault

/-- After the checks: something is left behind when the file is stored and what follows fails. -/
theorem stored_leaves_nothing_iff {checked : Option Uuid × AntivirusVerdict}
    (haccepted : accepted data s files user = .ok checked) (hw : w.working = none)
    (hd : w.draws = 0) (hs : w.committed = s) (hn : w.calls.length = n)
    (hnothing : ∀ c ∈ w.calls, c.kind = .storageUpload → c.fault ≠ .none)
    {r : Outcome AppError HttpReply × World Store ServiceCall}
    (hr : (storeFile files data checked.1 >>= fun uploaded =>
      AttachmentService.createAttachment
        (AttachmentService.attachmentRow data checked.1 uploaded checked.2) >>=
        answerUpload user data).run env faults w = r) :
    (r.1.isOk = false → LeavesNothing s r.2) ↔
      ¬(faults n = .none ∧ ¬GoesWell env faults n s user data) := by
  have hfailed : ∀ fault, fault ≠ .none → LeavesNothing s (w.log .storageUpload fault) := by
    intro fault hfault
    refine leavesNothing_of_calls hs rfl fun c hc hkind => ?_
    rcases List.mem_append.mp hc with hc | hc
    · exact hnothing c hc hkind
    · rw [List.mem_singleton.mp hc]
      exact hfault
  cases hfault : faults n with
  | throws =>
    have hstore : (storeFile files data checked.1).run env faults w =
        (.error .database, w.log .storageUpload .throws) := by
      simp only [storeFile, Effect.read, hn, hfault]
    rw [bind_run_error hstore] at hr
    rw [← hr]
    exact iff_of_true (fun _ => hfailed .throws (by decide)) fun h => by cases h.1
  | crash =>
    have hstore : (storeFile files data checked.1).run env faults w =
        (.crashed, w.log .storageUpload .crash) := by
      simp only [storeFile, Effect.read, hn, hfault]
    rw [bind_run_crashed hstore] at hr
    rw [← hr]
    exact iff_of_true (fun _ => hfailed .crash (by decide)) fun h => by cases h.1
  | none =>
    have hstore : ∃ uploaded, (storeFile files data checked.1).run env faults w =
        (.ok uploaded, w.log .storageUpload .none) := by
      simp only [storeFile, Effect.read, hn, hfault]
      exact ⟨_, rfl⟩
    obtain ⟨uploaded, hstore⟩ := hstore
    rw [bind_run_ok hstore] at hr
    have hlength : (w.log .storageUpload .none).calls.length = n + 1 := by
      simp [World.log, hn]
    have hwell : r.1.isOk = true ↔ GoesWell env faults n s user data := by
      rw [← hr]
      exact tail_isOk_iff uploaded haccepted hw hd hs hlength
    have hstored : ¬LeavesNothing s r.2 := by
      obtain ⟨cs, hcs, -⟩ := (calls_tail user data
        (AttachmentService.attachmentRow data checked.1 uploaded checked.2) env faults
        (w.log .storageUpload .none)).calls
      rw [hr] at hcs
      intro hleft
      refine hleft.files ⟨⟨.storageUpload, .none, w.working.isSome⟩, ?_, rfl, rfl⟩
      rw [hcs]
      simp [World.log]
    rw [← hwell]
    constructor
    · rintro hleft ⟨-, hno⟩
      exact hstored (hleft (Bool.not_eq_true _ ▸ hno))
    · intro hall hno
      refine absurd ⟨rfl, ?_⟩ hall
      rw [hno]
      decide

end tail

section demo

/-- A customer whose record is not the one of the ticket. -/
def otherCustomer : RequestUser := ⟨3, "o@example.com", .customer, some 2⟩

def plainFiles : FileServices where
  options := ⟨false, 100, ["text/plain"], none⟩
  upload _ _ := ⟨"2/tickets/9/a.txt", "local"⟩

def ticketOfAnother : Store where
  tickets := [{ (default : Ticket) with id := 9, tenantId := 2, customerId := 5 }]
  comments := [{ (default : TicketComment) with id := 7, tenantId := 2, ticketId := 9 }]
  customers := []
  tenants := []
  users := []
  refreshTokens := []
  sequences := []
  activities := []
  audits := []
  outbox := []
  customerLinks := [⟨3, 4, 2⟩]

def onComment : UploadBody := ⟨"a.txt", "text/plain", [104, 105], none, some 7⟩

end demo

end OmniSupport.Ticketing
