import OmniSupport.Foundation.RelyGuarantee
import OmniSupport.Http.ServedRequests

/-! The files behind the attachments, whatever requests overlap: a path is given to one file, the
rows describe accepted files, and a file goes only by a request that may delete it. -/
namespace OmniSupport.Attachments
open Foundation

section path
variable {options options' : UploadOptions} {now now' : Time} {uuid uuid' : Uuid}

theorem isAlphanum_toLower {ch : Char} (h : ch.isAlphanum = true) :
    ch.toLower.isAlphanum = true := by
  unfold Char.isAlphanum at h ⊢
  rcases Bool.or_eq_true_iff.mp h with halpha | hdigit
  · rw [Char.isAlpha_toLower_eq_isAlpha, halpha, Bool.true_or]
  · have hlower : ¬ ch.isUpper = true := by
      have hnine : '9'.val.toNat = 57 := rfl
      have hcapital : 'A'.val.toNat = 65 := rfl
      simp only [Char.isDigit, Char.isUpper, Bool.and_eq_true, decide_eq_true_eq, ge_iff_le,
        UInt32.le_iff_toNat_le] at hdigit ⊢
      omega
    rw [Char.toLower_eq_of_not_isUpper hlower, hdigit, Bool.or_true]

/-- An extension is empty, or a dot with letters and digits. -/
theorem safeExtension_cases (filename : String) : safeExtension filename = [] ∨
    ∃ text, safeExtension filename = '.' :: text ∧ ∀ ch ∈ text, ch.isAlphanum = true := by
  unfold safeExtension
  dsimp only
  split
  · rename_i hsafe
    refine .inr ⟨_, rfl, fun ch hmem => ?_⟩
    obtain ⟨ch', hch', rfl⟩ := List.mem_map.mp hmem
    exact isAlphanum_toLower (List.all_eq_true.mp hsafe.2.2.2 ch' hch')
  · exact .inl rfl

theorem slash_notMem_fileName (filename : String) : '/' ∉ fileName filename now uuid := by
  have hdigits : ∀ n : Nat, '/' ∉ (toString n).toList := Text.notMem_toString_nat (by decide)
  have hextension : '/' ∉ safeExtension filename := by
    rcases safeExtension_cases filename with hnone | ⟨text, htext, halnum⟩
    · rw [hnone]
      exact List.not_mem_nil
    · rw [htext]
      intro hmem
      rcases List.mem_cons.mp hmem with heq | hlater
      · exact absurd heq (by decide)
      · exact absurd (halnum _ hlater) (by decide)
  simp only [fileName, List.mem_append, List.mem_cons, not_or]
  exact ⟨hdigits now, by decide, hdigits uuid, hextension⟩

/-- The digits of the id end where the extension starts. -/
theorem takeWhile_uuid (filename : String) : ((toString uuid).toList ++
    safeExtension filename).takeWhile Char.isDigit = (toString uuid).toList := by
  have hdigits : ∀ ch ∈ (toString uuid).toList, ch.isDigit = true := by
    intro ch hmem
    cases hdigit : ch.isDigit with
    | true => rfl
    | false => exact absurd hmem (Text.notMem_toString_nat hdigit uuid)
  rw [List.takeWhile_append_of_pos hdigits]
  rcases safeExtension_cases filename with hnone | ⟨text, htext, -⟩
  · rw [hnone, List.takeWhile_nil, List.append_nil]
  · rw [htext, List.takeWhile_cons_of_neg (by decide), List.append_nil]

/-- Two files with different ids have different paths. -/
theorem buildStoragePath_inj (h : buildStoragePath options now uuid =
    buildStoragePath options' now' uuid') : uuid = uuid' := by
  have hpath := String.ofList_injective h
  simp only [← List.cons_append, ← List.append_assoc] at hpath
  obtain ⟨-, hname⟩ := Text.append_sep_inj_right (slash_notMem_fileName _)
    (slash_notMem_fileName _) hpath
  have hminus : ∀ n : Nat, '-' ∉ (toString n).toList := Text.notMem_toString_nat (by decide)
  obtain ⟨-, hlast⟩ := Text.append_sep_inj_left (hminus now) (hminus now') hname
  have hdigits := congrArg (List.takeWhile Char.isDigit) hlast
  rw [takeWhile_uuid, takeWhile_uuid] at hdigits
  exact Text.toString_nat_injective (String.toList_inj.mp hdigits)

end path

end OmniSupport.Attachments

namespace OmniSupport.Http
open Foundation Database Identity Ticketing Attachments Process

/-- A file that has been given its path and passed the policy. -/
structure Accepted (config : WebConfig) (file : StoredFile) : Prop where
  named : ∃ options now, file.path = buildStoragePath options now file.uuid
  problems : AttachmentPolicyValidator.problems config.policy file.mimeType file.content = []
  verdict : AttachmentPolicyValidator.antivirusProblems config.policy file.antivirus = []
  scanned : file.antivirus = .clean →
    ∃ isClean ∈ config.policy.scanner, isClean file.content file.filename = true

structure Describes (row : Attachment) (file : StoredFile) : Prop where
  path : row.storagePath = file.path
  filename : row.filename = file.filename
  mimeType : row.mimeType = file.mimeType
  sizeBytes : row.sizeBytes = file.content.length
  status : row.status = if file.antivirus = .clean then .clean else .pending

/-- The file is stored, or has been removed. -/
def Kept (s : WebStore) (file : StoredFile) : Prop :=
  s.files file.path = some file.content ∨ ∃ removal ∈ s.removals, removal.path = file.path

/-- The files of a store and what is known about them. -/
structure FilesSound (config : WebConfig) (s : WebStore) : Prop where
  uuids : ∀ file ∈ s.named, ∀ file' ∈ s.named, file.uuid = file'.uuid → file = file'
  accepted : ∀ file ∈ s.named, Accepted config file
  stored : ∀ path content, s.files path = some content →
    ∃ file ∈ s.named, file.path = path ∧ file.content = content
  rows : ∀ row ∈ s.db.attachments, ∃ file ∈ s.named, Describes row file ∧ Kept s file
  issued : ∀ url ∈ s.issued, ∃ file ∈ s.named, file.path = url.call.storagePath

/-- What no statement undoes. -/
structure Grows (s t : WebStore) : Prop where
  named : s.named ⊆ t.named
  removals : s.removals ⊆ t.removals
  files : ∀ path content, s.files path = some content →
    t.files path = some content ∨ ∃ removal ∈ t.removals, removal.path = path

section sound
variable {config : WebConfig} {s t u : WebStore} {file file' : StoredFile}

theorem Grows.refl (s : WebStore) : Grows s s where
  named := List.Subset.refl _
  removals := List.Subset.refl _
  files _ _ h := .inl h

theorem Grows.trans (h : Grows s t) (h' : Grows t u) : Grows s u where
  named := List.Subset.trans h.named h'.named
  removals := List.Subset.trans h.removals h'.removals
  files path content hfile := by
    rcases h.files path content hfile with hstored | ⟨removal, hmem, hpath⟩
    · exact h'.files path content hstored
    · exact .inr ⟨removal, h'.removals hmem, hpath⟩

theorem Kept.grows (h : Kept s file) (hgrows : Grows s t) : Kept t file := by
  rcases h with hstored | ⟨removal, hmem, hpath⟩
  · exact hgrows.files _ _ hstored
  · exact .inr ⟨removal, hgrows.removals hmem, hpath⟩

/-- A path is given to one file. -/
theorem FilesSound.path_inj (h : FilesSound config s) (hfile : file ∈ s.named)
    (hfile' : file' ∈ s.named) (hpath : file.path = file'.path) : file = file' := by
  obtain ⟨options, now, hnamed⟩ := (h.accepted file hfile).named
  obtain ⟨options', now', hnamed'⟩ := (h.accepted file' hfile').named
  rw [hnamed, hnamed'] at hpath
  exact h.uuids file hfile file' hfile' (buildStoragePath_inj hpath)

/-- A store with the same files, and no rows or links but old ones. -/
theorem FilesSound.of_same (h : FilesSound config s) (hfiles : t.files = s.files)
    (hnamed : t.named = s.named) (hremovals : t.removals = s.removals)
    (hrows : t.db.attachments ⊆ s.db.attachments)
    (hissued : ∀ url ∈ t.issued, ∃ file ∈ s.named, file.path = url.call.storagePath) :
    FilesSound config t ∧ Grows s t := by
  have hgrows : Grows s t := by
    refine ⟨?_, ?_, fun path content hfile => .inl ?_⟩
    · rw [hnamed]
      exact List.Subset.refl _
    · rw [hremovals]
      exact List.Subset.refl _
    · rw [hfiles]
      exact hfile
  refine ⟨⟨?_, ?_, ?_, fun row hrow => ?_, ?_⟩, hgrows⟩
  · rw [hnamed]
    exact h.uuids
  · rw [hnamed]
    exact h.accepted
  · rw [hfiles, hnamed]
    exact h.stored
  · obtain ⟨file, hfile, hdescribes, hkept⟩ := h.rows row (hrows hrow)
    exact ⟨file, hgrows.named hfile, hdescribes, hkept.grows hgrows⟩
  · rw [hnamed]
    exact hissued

theorem FilesSound.name (h : FilesSound config s) (haccepted : Accepted config file)
    (hnew : ∀ f ∈ s.named, f.uuid ≠ file.uuid) :
    FilesSound config { s with named := s.named ++ [file] } ∧
      Grows s { s with named := s.named ++ [file] } := by
  have hgrows : Grows s { s with named := s.named ++ [file] } :=
    ⟨List.subset_append_left _ _, List.Subset.refl _, fun _ _ hfile => .inl hfile⟩
  refine ⟨⟨fun f hf f' hf' hid => ?_, fun f hf => ?_, fun path content hstored => ?_,
    fun row hrow => ?_, fun url hurl => ?_⟩, hgrows⟩
  · rcases List.mem_append.mp hf with hold | hlast
    · rcases List.mem_append.mp hf' with hold' | hlast'
      · exact h.uuids f hold f' hold' hid
      · rw [List.mem_singleton.mp hlast'] at hid
        exact absurd hid (hnew f hold)
    · rcases List.mem_append.mp hf' with hold' | hlast'
      · rw [List.mem_singleton.mp hlast] at hid
        exact absurd hid.symm (hnew f' hold')
      · rw [List.mem_singleton.mp hlast, List.mem_singleton.mp hlast']
  · rcases List.mem_append.mp hf with hold | hlast
    · exact h.accepted f hold
    · rw [List.mem_singleton.mp hlast]
      exact haccepted
  · obtain ⟨f, hf, hfile⟩ := h.stored path content hstored
    exact ⟨f, hgrows.named hf, hfile⟩
  · obtain ⟨f, hf, hdescribes, hkept⟩ := h.rows row hrow
    exact ⟨f, hgrows.named hf, hdescribes, hkept.grows hgrows⟩
  · obtain ⟨f, hf, hpath⟩ := h.issued url hurl
    exact ⟨f, hgrows.named hf, hpath⟩

/-- Nothing else is stored under the path. -/
theorem FilesSound.storeFile (h : FilesSound config s) (hfile : file ∈ s.named)
    (ht : t = { s with files := Function.update s.files file.path (some file.content) }) :
    FilesSound config t ∧ Grows s t := by
  subst ht
  have hsame : ∀ path content, s.files path = some content →
      Function.update s.files file.path (some file.content) path = some content := by
    intro path content hstored
    by_cases hpath : path = file.path
    · obtain ⟨f, hf, hfpath, rfl⟩ := h.stored path content hstored
      rw [hpath, Function.update_self, h.path_inj hf hfile (hfpath.trans hpath)]
    · rw [Function.update_of_ne hpath]
      exact hstored
  have hgrows : Grows s { s with files := Function.update s.files file.path (some file.content) } :=
    ⟨List.Subset.refl _, List.Subset.refl _, fun path content hold => .inl (hsame path content hold)⟩
  refine ⟨⟨h.uuids, h.accepted, fun path content hstored => ?_, fun row hrow => ?_, h.issued⟩,
    hgrows⟩
  · by_cases hpath : path = file.path
    · refine ⟨file, hfile, hpath.symm, ?_⟩
      simp only [hpath, Function.update_self, Option.some.injEq] at hstored
      exact hstored
    · simp only [Function.update_of_ne hpath] at hstored
      exact h.stored path content hstored
  · obtain ⟨f, hf, hdescribes, hkept⟩ := h.rows row hrow
    exact ⟨f, hf, hdescribes, hkept.grows hgrows⟩

theorem FilesSound.createAttachment (h : FilesSound config s) {row : Attachment}
    (hfile : file ∈ s.named) (hdescribes : Describes row file) (hkept : Kept s file)
    (ht : t = { s with db := AttachmentService.insertAttachment row s.db }) :
    FilesSound config t ∧ Grows s t := by
  subst ht
  refine ⟨⟨h.uuids, h.accepted, h.stored, fun row' hrow => ?_, h.issued⟩,
    List.Subset.refl _, List.Subset.refl _, fun _ _ hold => .inl hold⟩
  rcases List.mem_append.mp hrow with hold | hlast
  · exact h.rows row' hold
  · rw [List.mem_singleton.mp hlast]
    exact ⟨file, hfile, hdescribes, hkept⟩

/-- A removal is on record. -/
theorem FilesSound.removeFile (h : FilesSound config s) {removal : Removal}
    (ht : t = { s with
      files := Function.update s.files removal.path none
      removals := s.removals ++ [removal] }) :
    FilesSound config t ∧ Grows s t := by
  subst ht
  have hgrows : Grows s { s with
      files := Function.update s.files removal.path none
      removals := s.removals ++ [removal] } := by
    refine ⟨List.Subset.refl _, List.subset_append_left _ _, fun path content hold => ?_⟩
    by_cases hpath : path = removal.path
    · exact .inr ⟨removal, List.mem_append_right _ List.mem_cons_self, hpath.symm⟩
    · refine .inl ?_
      simp only [Function.update_of_ne hpath, hold]
  refine ⟨⟨h.uuids, h.accepted, fun path content hstored => ?_, fun row hrow => ?_, h.issued⟩,
    hgrows⟩
  · by_cases hpath : path = removal.path
    · simp only [hpath, Function.update_self] at hstored
      cases hstored
    · simp only [Function.update_of_ne hpath] at hstored
      exact h.stored path content hstored
  · obtain ⟨f, hf, hdescribes, hkept⟩ := h.rows row hrow
    exact ⟨f, hf, hdescribes, hkept.grows hgrows⟩

/-- The statements that may run at any time. -/
def Harmless : WebStatement → Prop
  | .read _ | .serve _ | .removeFile _ | .deleteAttachment _ => True
  | .name _ | .storeFile _ | .createAttachment _ | .issueUrl _ => False

theorem lenient_harmless : Lenient (fun _ => Harmless) := fun _ _ => trivial

theorem FilesSound.harmless {st : WebStatement} (hst : Harmless st) (h : FilesSound config s)
    (hexec : statements.exec st s = .ok t) : FilesSound config t ∧ Grows s t := by
  cases st with
  | read | serve =>
    cases hexec
    exact h.of_same rfl rfl rfl (List.Subset.refl _) h.issued
  | removeFile removal =>
    simp only [statements, WebStatement.exec] at hexec
    split at hexec
    · exact h.removeFile (Except.ok.inj hexec).symm
    · cases hexec
  | deleteAttachment id =>
    simp only [statements, WebStatement.exec] at hexec
    split at hexec
    · cases hexec
      exact h.of_same rfl rfl rfl (fun row hrow => (List.mem_filter.mp hrow).1) h.issued
    · cases hexec
  | name | storeFile | createAttachment | issueUrl => cases hst

end sound

/-- `randomUUID` never repeats. -/
def NewlyNamed (s : WebStore) : WebStatement → Prop
  | .name file => ∀ f ∈ s.named, f.uuid ≠ file.uuid
  | _ => True

instance (s : WebStore) : ∀ st, Decidable (NewlyNamed s st)
  | .name file => inferInstanceAs (Decidable (∀ f ∈ s.named, f.uuid ≠ file.uuid))
  | .read _ | .serve _ | .storeFile _ | .createAttachment _ | .issueUrl _ | .removeFile _
  | .deleteAttachment _ => isTrue trivial

/-- Other services write no attachments; those of a deleted organization go with it. -/
def OtherWrite.KeepsAttachments (w : OtherWrite) (s : WebStore) : Prop :=
  ∀ row ∈ (w.db s.db).attachments, row ∈ s.db.attachments

instance (w : OtherWrite) (s : WebStore) : Decidable (w.KeepsAttachments s) :=
  inferInstanceAs (Decidable (∀ row ∈ (w.db s.db).attachments, row ∈ s.db.attachments))

section upholds
variable {config : WebConfig} {request : WebRequest} {context : RequestContext}
  {tenantId id : Uuid} {s : WebStore} {file : StoredFile} {data : UploadAttachmentData}

/-- What a request upholds about the files among others. -/
abbrev UpholdsFiles {α : Type} (config : WebConfig) (p : WebM α) (Q : α → WebStore → Prop)
    (s : WebStore) : Prop :=
  p.Upholds statements (FilesSound config) Grows NewlyNamed Q s

theorem upholds_harmless {α : Type} {p : WebM α} {Q : List WebStore → α → Prop}
    (h : p.Backed statements (fun _ => Harmless) Q []) (s : WebStore) :
    UpholdsFiles config p (fun a _ => ∃ seen, Q seen a) s :=
  h.upholds (fun _ _ _ hst hI hexec => hI.harmless hst hexec) s

theorem upholds_clock {Q : Time → WebStore → Prop}
    (h : ∀ t, Grows s t → FilesSound config t → Q t.now t) : UpholdsFiles config clock Q s :=
  upholds_read Grows.refl (fun _ => rfl) h

theorem accepted_storedFile {ticketId : Option Uuid} {antivirus : AntivirusVerdict} {now : Time}
    {uuid : Uuid} (hverdict : antivirus = verdictOf config data [])
    (hproblems : AttachmentPolicyValidator.problems config.policy data.mimeType data.content = [])
    (hantivirus : AttachmentPolicyValidator.antivirusProblems config.policy antivirus = []) :
    Accepted config (storedFile data ticketId antivirus now uuid) where
  named := ⟨_, now, rfl⟩
  problems := hproblems
  verdict := hantivirus
  scanned hclean := by
    have hscan : verdictOf config data [] = .clean := hverdict.symm.trans hclean
    unfold verdictOf at hscan
    cases hscanner : config.policy.scanner with
    | none =>
      rw [hscanner] at hscan
      cases hscan
    | some isClean =>
      rw [hscanner] at hscan
      cases hresult : isClean data.content data.filename with
      | true => exact ⟨isClean, rfl, hresult⟩
      | false =>
        simp only [hresult] at hscan
        cases hscan

/-- The file is stored under the path that it has been given, and stays unless it is removed. -/
theorem upholds_storageUpload {ticketId : Option Uuid} {antivirus : AntivirusVerdict}
    (hverdict : antivirus = verdictOf config data [])
    (hproblems : AttachmentPolicyValidator.problems config.policy data.mimeType data.content = [])
    (hantivirus : AttachmentPolicyValidator.antivirusProblems config.policy antivirus = []) :
    UpholdsFiles config (storageUpload data ticketId antivirus) (fun file s =>
      (∃ now uuid, file = storedFile data ticketId antivirus now uuid) ∧ file ∈ s.named ∧
        Kept s file) s := by
  refine (upholds_clock (Q := fun _ _ => True) fun _ _ _ => trivial).bind fun now s₁ _ => ?_
  refine Upholds.bind (Q := fun _ _ => True) (upholds_drawn fun _ _ => trivial) fun uuid s₂ _ => ?_
  have haccepted : Accepted config (storedFile data ticketId antivirus now uuid) :=
    accepted_storedFile hverdict hproblems hantivirus
  generalize hfile : storedFile data ticketId antivirus now uuid = file at haccepted
  refine Upholds.bind (Q := fun _ s => file ∈ s.named) ?_ fun _ s₃ hnamed => ?_
  · refine upholds_statement fun t t' _ hI hnew hexec => ?_
    cases hexec
    exact ⟨hI.name haccepted hnew, List.mem_append_right _ List.mem_cons_self⟩
  · refine Upholds.bind (Q := fun _ s => file ∈ s.named ∧ Kept s file) ?_
      fun _ s₄ hkept => upholds_pure ⟨⟨now, uuid, hfile.symm⟩, hkept⟩
    refine upholds_statement fun t t' hgrows hI _ hexec => ?_
    cases hexec
    refine ⟨hI.storeFile (hgrows.named hnamed) rfl, hgrows.named hnamed, .inl ?_⟩
    simp only [Function.update_self]

theorem describes_attachmentRow {ticketId : Option Uuid} {antivirus : AntivirusVerdict}
    {now : Time} {uuid : Uuid} {createdAt : Time}
    (hfile : file = storedFile data ticketId antivirus now uuid) :
    Describes (AttachmentService.attachmentRow data ticketId ⟨file.path, config.provider⟩
      file.antivirus id createdAt) file where
  path := rfl
  filename := by rw [hfile]; rfl
  mimeType := by rw [hfile]; rfl
  sizeBytes := by rw [hfile]; rfl
  status := rfl

/-- Rows are inserted for files that are stored. -/
theorem upholds_uploadAttachment :
    UpholdsFiles config (uploadAttachment config data) (fun _ _ => True) s := by
  refine (upholds_harmless (backed_resolveTicketId lenient_harmless) s).bind
    fun ticketId s₁ _ => ?_
  refine (upholds_harmless (backed_validate lenient_harmless) s₁).bind
    fun antivirus s₂ ⟨_, hverdict, hproblems, hantivirus⟩ => ?_
  refine (upholds_storageUpload hverdict hproblems hantivirus).bind
    fun file s₃ ⟨⟨now, uuid, hfile⟩, hnamed, hkept⟩ => ?_
  refine Upholds.bind (Q := fun _ s => file ∈ s.named ∧ Kept s file)
    (upholds_drawn fun _ _ => ⟨hnamed, hkept⟩) fun id s₄ hstored => ?_
  refine (upholds_clock (Q := fun _ s => file ∈ s.named ∧ Kept s file) fun t hgrows _ =>
    ⟨hgrows.named hstored.1, hstored.2.grows hgrows⟩).bind fun createdAt s₅ hstored => ?_
  refine Upholds.bind (Q := fun _ _ => True) ?_ fun _ _ _ => upholds_pure trivial
  refine upholds_statement fun t t' hgrows hI _ hexec => ⟨?_, trivial⟩
  simp only [statements, WebStatement.exec] at hexec
  split at hexec
  · cases hexec
  · exact hI.createAttachment (hgrows.named hstored.1) (describes_attachmentRow hfile)
      (hstored.2.grows hgrows) (Except.ok.inj hexec).symm

/-- Links are given out to files that have been accepted. -/
theorem upholds_signUrl : UpholdsFiles config (signUrl config context id tenantId)
    (fun _ _ => True) s := by
  refine Upholds.bind (Q := fun attachment s => ∃ file ∈ s.named, Describes attachment file) ?_
    fun attachment s₁ hdescribed => ?_
  · refine Upholds.bind (Q := fun found s => ∀ attachment, found = some attachment →
      ∃ file ∈ s.named, Describes attachment file) ?_ fun found s₁ hfound => ?_
    · refine upholds_read Grows.refl (fun _ => rfl) fun t _ hI attachment hread => ?_
      obtain ⟨file, hfile, hdescribes, -⟩ := hI.rows attachment (findAttachment_mem hread)
      exact ⟨file, hfile, hdescribes⟩
    · exact upholds_lift fun attachment hok => hfound attachment (orThrow_ok hok)
  · obtain ⟨file, hfile, hdescribes⟩ := hdescribed
    refine Upholds.bind (Q := fun _ s => file ∈ s.named) (upholds_lift fun _ _ => hfile)
      fun _ s₂ hfile => ?_
    refine (upholds_clock (Q := fun _ s => file ∈ s.named) fun t hgrows _ =>
      hgrows.named hfile).bind fun now s₃ hfile => ?_
    refine upholds_statement fun t t' hgrows hI _ hexec => ⟨?_, trivial⟩
    cases hexec
    refine hI.of_same rfl rfl rfl (List.Subset.refl _) fun url hurl => ?_
    rcases List.mem_append.mp hurl with hold | hlast
    · exact hI.issued url hold
    · rw [List.mem_singleton.mp hlast]
      exact ⟨file, hgrows.named hfile, hdescribes.path.symm⟩

theorem backed_deleteAttachment :
    (deleteAttachment context id tenantId).Backed statements (fun _ => Harmless) (fun _ _ => True) [] := by
  refine (backed_getAttachment lenient_harmless (InOrder.nil [])).bind fun _ attachment _ => ?_
  exact backed_lift_bind fun _ _ => ⟨trivial, fun _ => ⟨trivial, fun _ _ _ => trivial⟩⟩

/-- Whatever else goes on, a request keeps what is known about the files. -/
theorem upholds_webRequest (config : WebConfig) (request : WebRequest) (s : WebStore) :
    UpholdsFiles config (webRequest config request) (fun _ _ => True) s := by
  refine (upholds_harmless (backed_gate lenient_harmless fun _ _ _ => trivial) s).bind
    fun context s₁ _ => ?_
  cases htenant : context.tenantId with
  | none => exact upholds_pure trivial
  | some tenantId =>
    cases hroute : request.route with
    | other guards => exact upholds_pure trivial
    | upload body =>
      refine (upholds_harmless (backed_authorizeNamed lenient_harmless) s₁).bind
        fun _ s₂ _ => ?_
      refine upholds_uploadAttachment.bind fun attachment s₃ _ => ?_
      split
      · exact (upholds_harmless (backed_authorizeNamed lenient_harmless) s₃).mono
          fun _ _ _ => trivial
      · exact upholds_pure trivial
    | downloadUrl id =>
      exact (upholds_harmless (backed_assertCanRead lenient_harmless (InOrder.nil [])) s₁).bind
        fun _ s₂ _ => upholds_signUrl
    | delete id =>
      refine (upholds_harmless (backed_assertCanRead lenient_harmless (InOrder.nil [])) s₁).bind
        fun _ s₂ _ => ?_
      exact (upholds_harmless (backed_deleteAttachment) s₂).mono fun _ _ _ => trivial

end upholds

section runs
variable {config : WebConfig} {request : WebRequest} {context : RequestContext} {id : Uuid}
  {attachment : Attachment} {states states' : List WebStore}

theorem Reads.mono (h : Reads config request context id attachment states)
    (hle : states.Sublist states') : Reads config request context id attachment states' := by
  obtain ⟨tenantId, htenant, a, r, hchecks⟩ := h
  exact ⟨tenantId, htenant, a, r, hchecks.mono hle⟩

/-- A file that is accepted where scans are required has been found clean. -/
theorem Accepted.scanned_of_required {file : StoredFile} (h : Accepted config file)
    (hrequired : config.policy.requireAntivirusScan = true) :
    ∃ isClean ∈ config.policy.scanner, isClean file.content file.filename = true := by
  have hverdict := h.verdict
  unfold AttachmentPolicyValidator.antivirusProblems at hverdict
  refine h.scanned ?_
  cases hantivirus : file.antivirus with
  | clean => rfl
  | infected =>
    rw [hantivirus] at hverdict
    cases hverdict
  | notScanned =>
    simp only [hantivirus, hrequired] at hverdict
    cases hverdict

/-- The run rule for the files. -/
theorem files_sound {s : WebStore} {moves : List (Move (Turn ServiceEnv WebRequest) OtherWrite)}
    {c : Pool WebStore (WebM Unit)} (hsound : FilesSound config s)
    (hwithin : (web config).machine.Within (Meets NewlyNamed OtherWrite.KeepsAttachments)
      (idle s) moves)
    (hrun : (web config).machine.run (idle s) moves = some c) : FilesSound config c.shared := by
  refine (among_upholds Grows.refl (fun _ _ _ => Grows.trans)
    (fun request s _ => upholds_webRequest config request s) (fun w t hkeeps hI => ?_)
    hsound hwithin hrun).1
  exact hI.of_same rfl rfl rfl hkeeps hI.issued

end runs

section demo

theorem filesSound_demoWebStore : FilesSound demoWeb demoWebStore where
  uuids _ hfile := by cases hfile
  accepted _ hfile := by cases hfile
  stored _ _ hfile := by cases hfile
  rows _ hrow := by cases hrow
  issued _ hurl := by cases hurl

/-- A file is uploaded in one request. -/
def uploading : List (Move (Turn ServiceEnv WebRequest) OtherWrite) :=
  .act 0 (.start ⟨some "jwt", .upload ⟨"a.txt", "text/plain", [104], none, none⟩⟩) ::
    (List.range 13).map (webTurn 0)

/-- The organization is suspended before the link to the file is given out. -/
def signing : List (Move (Turn ServiceEnv WebRequest) OtherWrite) :=
  uploading ++ .act 0 (.start ⟨some "jwt", .downloadUrl 10⟩) :: List.replicate 8 (webTurn 0 1) ++
    [.env suspendTenants, webTurn 0 1]

/-- The file is removed; its attachment is still there. -/
def removing : List (Move (Turn ServiceEnv WebRequest) OtherWrite) :=
  uploading ++ .act 0 (.start ⟨some "jwt", .delete 10⟩) :: List.replicate 8 (webTurn 0 1)

end demo
end OmniSupport.Http
