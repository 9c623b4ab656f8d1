import OmniSupport.Foundation.ChangeTrail
import OmniSupport.Ticket.LifecycleSerial
import OmniSupport.Ticket.ReadPaths
import OmniSupport.Ticket.TicketAtomicity

/-! The activity and audit rows of ticket updates: when they tell which stored fields have
changed, and how. -/
namespace OmniSupport.Ticketing
open Foundation Database Effect TicketService

/-- The fields of an update, in the order the service compares them. -/
def auditedFields : List String :=
  ["priority", "category", "title", "description", "tags", "dueAt"]

/-- The stored value of a field; a date that is not set is undefined. -/
def fieldValue (row : Ticket) : String → JsonValue
  | "priority" => .text row.priority.text
  | "category" => .text row.category
  | "title" => .text row.title
  | "description" => .text row.description
  | "tags" => .texts row.tags
  | "dueAt" => .date row.dueAt
  | _ => .null

/-- A JSON column has no room for undefined: the key is left out. -/
def storable (value : JsonValue) : Bool := value ≠ .date none

/-- The values an update records for a field, before and after. -/
def recorded (dto : UpdateTicketDto) (row : Ticket) : String → Option (JsonValue × JsonValue)
  | "priority" =>
    (dto.priority.filter fun priority => priority ≠ "" ∧ priority ≠ row.priority.text).map
      fun priority => (.text row.priority.text, .text priority)
  | "category" =>
    (dto.category.filter fun category => category ≠ "" ∧ category ≠ row.category).map
      fun category => (.text row.category, .text category)
  | "title" =>
    (dto.title.filter fun title => title ≠ row.title).map
      fun title => (.text row.title, .text title)
  | "description" =>
    (dto.description.filter fun description => description ≠ row.description).map
      fun description => (.text row.description, .text description)
  | "tags" => dto.tags.map fun tags => (.texts row.tags, .texts tags)
  | "dueAt" =>
    (dto.dueAt.filter fun dueAt => some dueAt ≠ row.dueAt).map
      fun dueAt => (.date row.dueAt, .date (some dueAt))
  | _ => none

/-- The columns of a row name exactly the fields that differ, with their stored values. -/
def ToldBy (before after : Ticket) (oldValue newValue : Option JsonObject) : Prop :=
  ∃ old new, oldValue = some old ∧ newValue = some new ∧
    ChangeTrail.Told auditedFields (fieldValue before) (fieldValue after)
      (old.filter fun entry => storable entry.2) (new.filter fun entry => storable entry.2)

/-- One activity and one audit row if some field differs, and none if nothing does. -/
def TrailTrue (s t : Store) (before after : Ticket) : Prop :=
  ((∀ field ∈ auditedFields, fieldValue before field = fieldValue after field) ∧
      t.activities = s.activities ∧ t.audits = s.audits) ∨
    ((¬∀ field ∈ auditedFields, fieldValue before field = fieldValue after field) ∧
      ∃ activity audit, t.activities = s.activities ++ [activity] ∧
        t.audits = s.audits ++ [audit] ∧ activity.ticketId = some before.id ∧
        audit.resourceId = some before.id ∧
        ToldBy before after activity.oldValue activity.newValue ∧
        ToldBy before after audit.oldValue audit.newValue)

/-- The values of the request are stored as they were sent, a list of tags is a new one, and a
due date replaces another. -/
structure StoredAsSent (dto : UpdateTicketDto) (row : Ticket) : Prop where
  title : ∀ title, dto.title = some title → JsText.trim title = title
  description : ∀ description, dto.description = some description →
    JsText.trim description = description
  category : ∀ category, dto.category = some category → category ≠ "" → category ≠ row.category →
    ticketCategory category = .ok category
  tags : ∀ tags, dto.tags = some tags → tags.eraseDups = tags ∧ tags ≠ row.tags
  dueAt : dto.dueAt ≠ none → row.dueAt ≠ none

section entries
variable {dto : UpdateTicketDto} {row : Ticket}

theorem entries_cons (field : String) (fields : List String)
    (recorded : String → Option (JsonValue × JsonValue)) :
    ChangeTrail.entries (field :: fields) recorded =
      ((recorded field).map fun values => (field, values)).toList ++
        ChangeTrail.entries fields recorded := by
  cases hrecorded : recorded field <;> simp [ChangeTrail.entries, hrecorded]

/-- What the service collects, field by field. -/
theorem changedValues_eq : changedValues dto row =
    ChangeTrail.entries auditedFields (recorded dto row) := by
  have hnil : ChangeTrail.entries [] (recorded dto row) = [] := rfl
  simp only [auditedFields, entries_cons, changedValues, List.append_assoc, hnil, List.append_nil]
  refine congrArg₂ (· ++ ·) ?_ (congrArg₂ (· ++ ·) ?_ (congrArg₂ (· ++ ·) ?_
    (congrArg₂ (· ++ ·) ?_ (congrArg₂ (· ++ ·) ?_ ?_))))
  · simp only [recorded]
    cases dto.priority with
    | none => rfl
    | some priority =>
      by_cases h : priority ≠ "" ∧ priority ≠ row.priority.text <;> simp [Option.filter, h]
  · simp only [recorded]
    cases dto.category with
    | none => rfl
    | some category =>
      by_cases h : category ≠ "" ∧ category ≠ row.category <;> simp [Option.filter, h]
  · simp only [recorded]
    cases dto.title with
    | none => rfl
    | some title => by_cases h : title = row.title <;> simp [Option.filter, h]
  · simp only [recorded]
    cases dto.description with
    | none => rfl
    | some description => by_cases h : description = row.description <;> simp [Option.filter, h]
  · simp only [recorded]
    cases dto.tags <;> rfl
  · simp only [recorded]
    cases dto.dueAt with
    | none => rfl
    | some dueAt => by_cases h : some dueAt = row.dueAt <;> simp [Option.filter, h]

end entries

/-- What an update makes of the fields. -/
structure FieldsAfter (dto : UpdateTicketDto) (row updated : Ticket) : Prop where
  title : updated.title = (dto.title.map JsText.trim).getD row.title
  description : updated.description = (dto.description.map JsText.trim).getD row.description
  tags : updated.tags = (dto.tags.map List.eraseDups).getD row.tags
  dueAt : updated.dueAt = dto.dueAt.or row.dueAt
  priority : updated.priority.text =
    (dto.priority.filter fun priority => priority ≠ "").getD row.priority.text
  category : ((dto.category.filter fun category => category ≠ "" ∧ category ≠ row.category).elim
    (.ok row.category) ticketCategory) = .ok updated.category

section updates
variable {dto : UpdateTicketDto} {row : Ticket} {ticket updated : TicketEntity}

theorem detail_ok {message current value : String} {sent : Option String}
    (h : TicketEntity.detail message current sent = .ok value) :
    value = (sent.map JsText.trim).getD current := by
  cases sent with
  | none => exact (Except.ok.inj h).symm
  | some text =>
    simp only [TicketEntity.detail] at h
    split at h
    · cases h
    · exact (Except.ok.inj h).symm

theorem createPriority_text {value : String} {priority : TicketPriority}
    (h : TicketPriority.create value = .ok priority) : priority.text = value := by
  simp only [TicketPriority.create] at h
  split at h
  · rename_i found hfound
    cases h
    simpa using List.find?_some hfound
  · cases h

theorem withPriority_row {value : Option String} (h : withPriority value ticket = .ok updated) :
    ∃ priority, updated.row = { ticket.row with priority := priority } ∧ priority.text =
      (value.filter fun priority => priority ≠ "").getD ticket.row.priority.text := by
  have hsame : ∃ priority, ticket.row = { ticket.row with priority := priority } ∧
      priority.text = ticket.row.priority.text := ⟨ticket.row.priority, rfl, rfl⟩
  cases value with
  | none =>
    obtain rfl := Except.ok.inj h
    exact hsame
  | some priority =>
    simp only [withPriority] at h
    split at h
    · rename_i hchanges
      cases hcreated : TicketPriority.create priority with
      | error e =>
        rw [hcreated] at h
        cases h
      | ok created =>
        rw [hcreated] at h
        obtain rfl := Except.ok.inj h
        refine ⟨created, rfl, ?_⟩
        simpa [Option.filter, hchanges.1] using createPriority_text hcreated
    · rename_i hkept
      obtain rfl := Except.ok.inj h
      by_cases hempty : priority = ""
      · simpa [Option.filter, hempty] using hsame
      · have htext : priority = ticket.row.priority.text := by
          by_contra hdiffers
          exact hkept ⟨hempty, hdiffers⟩
        rw [htext] at hempty ⊢
        simpa [Option.filter, hempty] using hsame

theorem withCategory_row {value : Option String} (h : withCategory value ticket = .ok updated) :
    ∃ category, updated.row = { ticket.row with category := category } ∧
      (value.filter fun category => category ≠ "" ∧ category ≠ ticket.row.category).elim
        (.ok ticket.row.category) ticketCategory = .ok category := by
  cases value with
  | none =>
    obtain rfl := Except.ok.inj h
    exact ⟨ticket.row.category, rfl, rfl⟩
  | some category =>
    simp only [withCategory] at h
    split at h
    · rename_i hchanges
      obtain ⟨created, hcreated, hset⟩ := bind_eq_ok.mp h
      obtain rfl := Except.ok.inj hset
      refine ⟨created, rfl, ?_⟩
      simpa [Option.filter, hchanges] using hcreated
    · rename_i hkept
      obtain rfl := Except.ok.inj h
      refine ⟨ticket.row.category, rfl, ?_⟩
      simp [Option.filter, hkept]

theorem fieldsAfter_of_updated (h : updatedEntity dto (.reconstitute row) = .ok updated) :
    FieldsAfter dto row updated.row := by
  obtain ⟨first, hfirst, h⟩ := bind_eq_ok.mp h
  obtain ⟨second, hsecond, h⟩ := bind_eq_ok.mp h
  obtain ⟨title, htitle, h⟩ := bind_eq_ok.mp h
  obtain ⟨description, hdescription, h⟩ := bind_eq_ok.mp h
  obtain rfl := Except.ok.inj h
  obtain ⟨priority, hrow, hpriority⟩ := withPriority_row hfirst
  obtain ⟨category, hrow', hcategory⟩ := withCategory_row hsecond
  rw [hrow] at hrow' hcategory
  rw [hrow'] at htitle hdescription ⊢
  exact ⟨detail_ok htitle, detail_ok hdescription, rfl, rfl, hpriority, hcategory⟩

end updates

section fields
variable {dto : UpdateTicketDto} {row updated : Ticket} (now : Time)

/-- A field that is compared as it was sent and stored in a normal form. -/
theorem exact_normalized_iff {α : Type} [DecidableEq α] {field : String} {inj : α → JsonValue}
    {norm : α → α} {sent : Option α} {current : α} (after : Ticket)
    (hinj : ∀ a b, inj a = inj b → a = b) (hstorable : ∀ a, storable (inj a) = true)
    (hbefore : fieldValue row field = inj current)
    (hafter : fieldValue after field = inj ((sent.map norm).getD current))
    (hrecorded : recorded dto row field =
      (sent.filter fun a => a ≠ current).map fun a => (inj current, inj a)) :
    ChangeTrail.Exact storable (fieldValue row) (fieldValue after) (recorded dto row) field ↔
      ∀ a, sent = some a → norm a = a := by
  cases sent with
  | none =>
    rw [ChangeTrail.exact_of_none hrecorded, hbefore, hafter]
    simp
  | some a =>
    have hone : (∀ b, some a = some b → norm b = b) ↔ norm a = a := by simp
    rw [Option.map_some, Option.getD_some] at hafter
    by_cases hsame : a = current
    · have hnone : recorded dto row field = none := by simp [hrecorded, Option.filter, hsame]
      rw [ChangeTrail.exact_of_none hnone, hone, hbefore, hafter, hsame]
      exact ⟨fun h => (hinj _ _ h).symm, fun h => by rw [h]⟩
    · have hsome : recorded dto row field = some (inj current, inj a) := by
        simp [hrecorded, Option.filter, hsame]
      rw [ChangeTrail.exact_of_some hsome, hone, hbefore, hafter]
      constructor
      · rintro ⟨-, hvalues, -⟩
        exact (hinj _ _ (congrArg Prod.snd hvalues)).symm
      · intro hnorm
        rw [hnorm]
        exact ⟨fun h => hsame (hinj _ _ h).symm, rfl, hstorable _, hstorable _⟩

theorem exact_priority (h : FieldsAfter dto row updated) :
    ChangeTrail.Exact storable (fieldValue row) (fieldValue (Ticket.write now updated row))
      (recorded dto row) "priority" := by
  have hbefore : fieldValue row "priority" = .text row.priority.text := rfl
  have hafter : fieldValue (Ticket.write now updated row) "priority" =
      .text updated.priority.text := rfl
  rw [h.priority] at hafter
  by_cases hchanges : ∃ priority, dto.priority = some priority ∧ priority ≠ "" ∧
      priority ≠ row.priority.text
  · obtain ⟨priority, hsent, hset, hdiffers⟩ := hchanges
    have hsome : recorded dto row "priority" = some (.text row.priority.text, .text priority) := by
      simp [recorded, hsent, Option.filter, hset, hdiffers]
    have hvalue : (dto.priority.filter fun priority => priority ≠ "").getD row.priority.text =
        priority := by simp [hsent, Option.filter, hset]
    rw [ChangeTrail.exact_of_some hsome, hbefore, hafter, hvalue]
    exact ⟨fun h => hdiffers (JsonValue.text.inj h).symm, rfl, rfl, rfl⟩
  · have hkept : ∀ priority, dto.priority = some priority → priority ≠ "" →
        priority = row.priority.text := by
      intro priority hsent hset
      by_contra hdiffers
      exact hchanges ⟨priority, hsent, hset, hdiffers⟩
    have hvalue : (dto.priority.filter fun priority => priority ≠ "").getD row.priority.text =
        row.priority.text := by
      cases hsent : dto.priority with
      | none => rfl
      | some priority =>
        by_cases hset : priority = ""
        · simp [Option.filter, hset]
        · simpa [Option.filter, hset] using hkept priority hsent hset
    have hnone : recorded dto row "priority" = none := by
      simp only [recorded, Option.map_eq_none_iff, Option.filter_eq_none_iff]
      intro priority hsent hdiffers
      obtain ⟨hset, hdiffers⟩ := of_decide_eq_true hdiffers
      exact hdiffers (hkept priority hsent hset)
    rw [ChangeTrail.exact_of_none hnone, hbefore, hafter, hvalue]

theorem exact_category_iff (h : FieldsAfter dto row updated) :
    ChangeTrail.Exact storable (fieldValue row) (fieldValue (Ticket.write now updated row))
      (recorded dto row) "category" ↔
      ∀ category, dto.category = some category → category ≠ "" → category ≠ row.category →
        ticketCategory category = .ok category := by
  have hbefore : fieldValue row "category" = .text row.category := rfl
  have hafter : fieldValue (Ticket.write now updated row) "category" = .text updated.category := rfl
  have hcategory := h.category
  cases hkept : dto.category.filter fun category => category ≠ "" ∧ category ≠ row.category with
  | none =>
    have hnone : recorded dto row "category" = none := by
      simp only [recorded, hkept, Option.map_none]
    rw [hkept] at hcategory
    have hsame : row.category = updated.category := Except.ok.inj hcategory
    rw [ChangeTrail.exact_of_none hnone, hbefore, hafter]
    refine iff_of_true (congrArg JsonValue.text hsame) fun category hsent hset hdiffers => ?_
    exact absurd (decide_eq_true ⟨hset, hdiffers⟩)
      (Option.filter_eq_none_iff.mp hkept category hsent)
  | some category =>
    have hsome : recorded dto row "category" = some (.text row.category, .text category) := by
      simp only [recorded, hkept, Option.map_some]
    rw [hkept, Option.elim_some] at hcategory
    obtain ⟨hsent, hpasses⟩ := Option.filter_eq_some_iff.mp hkept
    obtain ⟨hset, hdiffers⟩ := of_decide_eq_true hpasses
    rw [ChangeTrail.exact_of_some hsome, hbefore, hafter]
    constructor
    · rintro ⟨-, hvalues, -⟩ sent hsame - -
      obtain rfl := Option.some.inj (hsent.symm.trans hsame)
      have hstored : category = updated.category := JsonValue.text.inj (congrArg Prod.snd hvalues)
      rw [hcategory, ← hstored]
    · intro hall
      have hsame := hall category hsent hset hdiffers
      rw [hcategory] at hsame
      have hstored : updated.category = category := Except.ok.inj hsame
      rw [hstored]
      exact ⟨fun hsame => hdiffers (JsonValue.text.inj hsame).symm, rfl, rfl, rfl⟩

/-- The tags of a request are always recorded. -/
theorem exact_tags_iff (h : FieldsAfter dto row updated) :
    ChangeTrail.Exact storable (fieldValue row) (fieldValue (Ticket.write now updated row))
      (recorded dto row) "tags" ↔
      ∀ tags, dto.tags = some tags → tags.eraseDups = tags ∧ tags ≠ row.tags := by
  have hbefore : fieldValue row "tags" = .texts row.tags := rfl
  have hafter : fieldValue (Ticket.write now updated row) "tags" = .texts updated.tags := rfl
  rw [h.tags] at hafter
  cases hsent : dto.tags with
  | none =>
    have hnone : recorded dto row "tags" = none := by simp only [recorded, hsent, Option.map_none]
    rw [ChangeTrail.exact_of_none hnone, hbefore, hafter, hsent]
    simp
  | some tags =>
    have hsome : recorded dto row "tags" = some (.texts row.tags, .texts tags) := by
      simp only [recorded, hsent, Option.map_some]
    rw [hsent, Option.map_some, Option.getD_some] at hafter
    rw [ChangeTrail.exact_of_some hsome, hbefore, hafter]
    constructor
    · rintro ⟨hdiffers, hvalues, -⟩ sent hsame
      obtain rfl := Option.some.inj hsame
      have hdistinct : tags = tags.eraseDups := JsonValue.texts.inj (congrArg Prod.snd hvalues)
      refine ⟨hdistinct.symm, fun hequal => hdiffers ?_⟩
      rw [← hdistinct, hequal]
    · intro hall
      obtain ⟨hdistinct, hnew⟩ := hall tags rfl
      rw [hdistinct]
      exact ⟨fun hsame => hnew (JsonValue.texts.inj hsame).symm, rfl, rfl, rfl⟩

/-- A due date that was not set cannot be recorded as the one before. -/
theorem exact_dueAt_iff (h : FieldsAfter dto row updated) :
    ChangeTrail.Exact storable (fieldValue row) (fieldValue (Ticket.write now updated row))
      (recorded dto row) "dueAt" ↔ (dto.dueAt ≠ none → row.dueAt ≠ none) := by
  have hbefore : fieldValue row "dueAt" = .date row.dueAt := rfl
  have hafter : fieldValue (Ticket.write now updated row) "dueAt" =
      .date (updated.dueAt.or row.dueAt) := rfl
  rw [h.dueAt] at hafter
  cases hsent : dto.dueAt with
  | none =>
    have hnone : recorded dto row "dueAt" = none := by
      simp only [recorded, hsent, Option.filter_none, Option.map_none]
    rw [ChangeTrail.exact_of_none hnone, hbefore, hafter, hsent]
    simp
  | some dueAt =>
    rw [hsent, Option.some_or, Option.some_or] at hafter
    by_cases hsame : some dueAt = row.dueAt
    · have hnone : recorded dto row "dueAt" = none := by
        simp [recorded, hsent, Option.filter, ← hsame]
      rw [ChangeTrail.exact_of_none hnone, hbefore, hafter, hsame]
      simp [← hsame]
    · have hsome : recorded dto row "dueAt" = some (.date row.dueAt, .date (some dueAt)) := by
        simp [recorded, hsent, Option.filter, hsame]
      rw [ChangeTrail.exact_of_some hsome, hbefore, hafter]
      cases hdue : row.dueAt with
      | none => simp [storable]
      | some before =>
        have hdiffers : before ≠ dueAt := by
          rintro rfl
          exact hsame hdue.symm
        simp [storable, hdiffers]

/-- Each field by itself. -/
theorem exact_fields_iff (h : FieldsAfter dto row updated) :
    (∀ field ∈ auditedFields, ChangeTrail.Exact storable (fieldValue row)
      (fieldValue (Ticket.write now updated row)) (recorded dto row) field) ↔
      StoredAsSent dto row := by
  have htext : ∀ a b : String, JsonValue.text a = JsonValue.text b → a = b :=
    fun _ _ hsame => JsonValue.text.inj hsame
  have htitle := exact_normalized_iff (Ticket.write now updated row) htext (fun _ => rfl)
    (rfl : fieldValue row "title" = .text row.title) (congrArg JsonValue.text h.title) rfl
  have hdescription := exact_normalized_iff (Ticket.write now updated row) htext
    (fun _ => rfl) (rfl : fieldValue row "description" = .text row.description)
    (congrArg JsonValue.text h.description) rfl
  have hcategory := exact_category_iff now h
  have htags := exact_tags_iff now h
  have hdueAt := exact_dueAt_iff now h
  simp only [auditedFields, List.forall_mem_cons, htitle, hdescription, hcategory, htags, hdueAt]
  constructor
  · rintro ⟨-, hcategory, htitle, hdescription, htags, hdueAt, -⟩
    exact ⟨htitle, hdescription, hcategory, htags, hdueAt⟩
  · intro hsent
    exact ⟨exact_priority now h, hsent.category, hsent.title, hsent.description, hsent.tags,
      hsent.dueAt, by simp⟩

theorem storable_recorded (field : String) (values : JsonValue × JsonValue)
    (h : recorded dto row field = some values) : storable values.2 = true := by
  simp only [recorded] at h
  split at h
  case h_7 => cases h
  all_goals
    obtain ⟨a, -, rfl⟩ := Option.map_eq_some_iff.mp h
    rfl

end fields

section stores
variable {s t : Store} {dto : UpdateTicketDto} {row updated : Ticket} {now : Time}

/-- The rows of an update, written only if it recorded a value. -/
def RowsWritten (s t : Store) (dto : UpdateTicketDto) (row : Ticket) : Prop :=
  (changedValues dto row = [] ∧ t.activities = s.activities ∧ t.audits = s.audits) ∨
    (changedValues dto row ≠ [] ∧ ∃ activityAt auditAt,
      t.activities = s.activities ++ [updatedActivity dto (changedValues dto row) activityAt] ∧
      t.audits = s.audits ++ [updatedAudit dto (changedValues dto row) auditAt])

/-- Both columns come from the recorded values. -/
theorem toldBy_iff {before after : Ticket} {values : List (String × JsonValue × JsonValue)} :
    ToldBy before after (some (values.map fun v => (v.1, v.2.1)))
      (some (values.map fun v => (v.1, v.2.2))) ↔
      ChangeTrail.Told auditedFields (fieldValue before) (fieldValue after)
        (ChangeTrail.side storable Prod.fst values)
        (ChangeTrail.side storable Prod.snd values) := by
  constructor
  · rintro ⟨old, new, hold, hnew, htold⟩
    obtain rfl := Option.some.inj hold
    obtain rfl := Option.some.inj hnew
    exact htold
  · intro htold
    exact ⟨_, _, rfl, rfl, htold⟩

theorem trailTrue_iff (hid : row.id = dto.ticketId) (h : FieldsAfter dto row updated)
    (hrows : RowsWritten s t dto row) :
    TrailTrue s t row (Ticket.write now updated row) ↔ StoredAsSent dto row := by
  rw [← exact_fields_iff now h,
    ← ChangeTrail.told_iff fun field values => storable_recorded field values, ← changedValues_eq]
  obtain ⟨hnone, hactivities, haudits⟩ | ⟨hsome, activityAt, auditAt, hactivities, haudits⟩ := hrows
  · constructor
    · rintro (⟨hsame, -⟩ | ⟨-, activity, -, hadded, -⟩)
      · exact .inl ⟨hsame, hnone⟩
      · simp [hactivities] at hadded
    · rintro (⟨hsame, -⟩ | ⟨-, hsome, -⟩)
      · exact .inl ⟨hsame, hactivities, haudits⟩
      · exact absurd hnone hsome
  · constructor
    · rintro (⟨-, hkept, -⟩ | ⟨hdiffers, activity, audit, hadded, -, -, -, htold, -⟩)
      · simp [hactivities] at hkept
      · obtain rfl : updatedActivity dto (changedValues dto row) activityAt = activity := by
          simpa using hactivities.symm.trans hadded
        exact .inr ⟨hdiffers, hsome, toldBy_iff.mp htold⟩
    · rintro (⟨-, hnone⟩ | ⟨hdiffers, -, htold⟩)
      · exact absurd hnone hsome
      · exact .inr ⟨hdiffers, _, _, hactivities, haudits, congrArg some hid.symm,
          congrArg some hid.symm, toldBy_iff.mpr htold, toldBy_iff.mpr htold⟩

/-- The row an update by id leaves. -/
theorem findTicket_updateTicket (id tenantId : Uuid) {f : Ticket → Ticket}
    (hid : ∀ row, (f row).id = row.id) (htenant : ∀ row, (f row).tenantId = row.tenantId) :
    (s.updateTicket id f).findTicket id tenantId = (s.findTicket id tenantId).map f := by
  simp only [Store.findTicket, Store.updateTicket, Table.updateMany, List.find?_map]
  have hsame : ((fun ticket : Ticket => decide (ticket.id = id ∧ ticket.tenantId = tenantId)) ∘
      fun row => if row.id = id then f row else row) =
      fun ticket => decide (ticket.id = id ∧ ticket.tenantId = tenantId) := by
    funext row
    by_cases hrow : row.id = id <;> simp [hrow, hid, htenant]
  rw [hsame]
  refine Option.map_congr fun row hfound => ?_
  have hrow := List.find?_some hfound
  rw [decide_eq_true_eq] at hrow
  simp [hrow.1]

/-- What a committed update leaves: the row it wrote and the rows about it. -/
theorem updateTicket_leaves {env : ServiceEnv} {d : Nat} :
    Atomic env d s (fun t => ∃ row updated writtenAt,
      s.findTicket dto.ticketId dto.tenantId = some row ∧ row.status.isActive = true ∧
      FieldsAfter dto row updated ∧
      t.findTicket dto.ticketId dto.tenantId = some (Ticket.write writtenAt updated row) ∧
      RowsWritten s t dto row) (updateTicket dto) := by
  refine atomic_updateTicket_of fun row updated written d' t hticket hactive hupdated hy => ?_
  obtain ⟨writtenAt, activityAt, auditAt, hrows⟩ := yields_updateTicketWrites_rows hy
  have hid : updated.row.id = dto.ticketId :=
    (updatedEntity_keeps hupdated).id.trans (findTicket_some hticket).2.1
  have hfound : (s.updateTicket updated.row.id (Ticket.write writtenAt updated.row)).findTicket
      dto.ticketId dto.tenantId = some (Ticket.write writtenAt updated.row row) := by
    have hwritten := findTicket_updateTicket (s := s) dto.ticketId dto.tenantId
      (f := Ticket.write writtenAt updated.row) (fun _ => rfl) (fun _ => rfl)
    rw [hid, hwritten, hticket]
    rfl
  refine ⟨row, updated.row, writtenAt, hticket, hactive, fieldsAfter_of_updated hupdated, ?_⟩
  rcases hrows with ⟨hnone, rfl⟩ | ⟨hsome, rfl⟩
  · exact ⟨hfound, .inl ⟨hnone, rfl, rfl⟩⟩
  · exact ⟨hfound, .inr ⟨hsome, activityAt, auditAt, rfl, rfl⟩⟩

end stores

/-- The audit trail of an accepted update is true exactly when the values of the request are
stored as they were sent, its tags are new and no due date is set for the first time. -/
theorem audit_trail_true_iff (env : ServiceEnv) (s : Store) (dto : UpdateTicketDto)
    (faults : Nat → Fault) (saved : Ticket) (w : World Store ServiceCall)
    (hrun : (updateTicket dto).run env faults (World.start s) = (.ok saved, w)) :
    ∃ before after, s.findTicket dto.ticketId dto.tenantId = some before ∧
      before.status.isActive = true ∧
      w.committed.findTicket dto.ticketId dto.tenantId = some after ∧
      (TrailTrue s w.committed before after ↔ StoredAsSent dto before) := by
  have hleft :=
    updateTicket_leaves.returns (w := World.start s) rfl rfl rfl (congrArg Prod.fst hrun)
  rw [hrun] at hleft
  obtain ⟨before, updated, writtenAt, hticket, hactive, hfields, hfound, hrows⟩ := hleft
  exact ⟨before, Ticket.write writtenAt updated before, hticket, hactive, hfound,
    trailTrue_iff (findTicket_some hticket).2.1 hfields hrows⟩

section demo

def taggedTicket : Ticket :=
  { (default : Ticket) with
    id := 3
    tenantId := 2
    status := .open
    priority := .low
    category := "GENERAL"
    tags := ["refund"] }

def taggedStore : Store where
  tickets := [taggedTicket]
  comments := []
  customers := []
  tenants := []
  users := []
  refreshTokens := []
  sequences := []
  activities := []
  audits := []
  outbox := []

def retagged (tags : List String) : UpdateTicketDto where
  tenantId := 2
  ticketId := 3
  updatedById := 1
  updatedByRole := .agent
  title := none
  description := none
  priority := some "HIGH"
  category := none
  tags := some tags
  dueAt := none

def tagsKept : UpdateTicketDto := { retagged ["refund"] with priority := none }

end demo

/-- New tags and a new priority are recorded as they are stored. -/
theorem audit_trail_true_retagged : ∃ before after,
    taggedStore.findTicket 3 2 = some before ∧
      ((updateTicket (retagged ["refund", "vip"])).run sampleEnv (fun _ => .none)
        (World.start taggedStore)).2.committed.findTicket 3 2 = some after ∧
      TrailTrue taggedStore ((updateTicket (retagged ["refund", "vip"])).run sampleEnv
        (fun _ => .none) (World.start taggedStore)).2.committed before after := by
  obtain ⟨before, after, hbefore, -, hafter, htrail⟩ :=
    audit_trail_true_iff sampleEnv taggedStore (retagged ["refund", "vip"]) (fun _ => .none) _ _ rfl
  have hticket : before = taggedTicket := (Option.some.inj hbefore).symm
  refine ⟨before, after, hbefore, hafter, htrail.mpr ?_⟩
  rw [hticket]
  refine ⟨?_, ?_, ?_, ?_, fun h => absurd rfl h⟩
  · intro title hsent
    cases hsent
  · intro description hsent
    cases hsent
  · intro category hsent
    cases hsent
  · intro tags hsent
    obtain rfl := Option.some.inj hsent
    decide

/-- Sending the tags a ticket already has writes both rows, though nothing differs. -/
theorem unchanged_tags_recorded : ∃ after,
    taggedStore.findTicket 3 2 = some taggedTicket ∧ taggedTicket.status.isActive = true ∧
      ((updateTicket tagsKept).run sampleEnv (fun _ => .none) (World.start taggedStore)).1.isOk ∧
      ((updateTicket tagsKept).run sampleEnv (fun _ => .none)
        (World.start taggedStore)).2.committed.findTicket 3 2 = some after ∧
      (∀ field ∈ auditedFields, fieldValue taggedTicket field = fieldValue after field) ∧
      ¬TrailTrue taggedStore ((updateTicket tagsKept).run sampleEnv (fun _ => .none)
        (World.start taggedStore)).2.committed taggedTicket after := by
  refine ⟨_, rfl, rfl, rfl, rfl, by decide, ?_⟩
  rintro (⟨-, hactivities, -⟩ | ⟨hdiffers, -⟩)
  · have hwritten : ((updateTicket tagsKept).run sampleEnv (fun _ => .none)
        (World.start taggedStore)).2.committed.activities.length = 1 := by decide
    rw [hactivities] at hwritten
    cases hwritten
  · exact hdiffers (by decide)

end OmniSupport.Ticketing
