import OmniSupport.Customer.WorkWrites
import OmniSupport.Messaging.InboundWhatsApp

/-! The phone numbers of customers, stored as they are typed, and the senders of inbound messages,
looked up by the normalized form: which customers are found. -/
namespace OmniSupport.Messaging
open Foundation Database Customers Ticketing

def isPhoneChar (ch : Char) : Bool :=
  ch.isDigit || JsText.isSpace ch || decide (ch ∈ ['-', '(', ')', '.'])

/-- `/^\+?[\d\s\-().]{7,20}$/`, of both schemas. -/
def phoneSchema (value : String) : Bool :=
  let number := if value.toList.head? = some '+' then value.toList.tail else value.toList
  decide (7 ≤ number.length) && decide (number.length ≤ 20) && number.all isPhoneChar

/-- The calls that store a phone number. -/
inductive PhoneCommand where
  | create (dto : CreateCustomerDto)
  | update (dto : UpdateCustomerDto)

namespace PhoneCommand

def perform : PhoneCommand → ServiceM Customer
  | .create dto => CustomerService.createCustomer dto
  | .update dto => CustomerService.updateCustomer dto

def phone : PhoneCommand → Option String
  | .create dto => dto.phone
  | .update dto => dto.phone

def tenantId : PhoneCommand → Uuid
  | .create dto => dto.tenantId
  | .update dto => dto.tenantId

end PhoneCommand

/-- The row a command leaves: a new one, or that of the customer it names. -/
structure StoresPhone (command : PhoneCommand) (s t : Store) (customer : Customer) : Prop where
  mem : customer ∈ t.customers
  tenantId : customer.tenantId = command.tenantId
  phone : customer.phone = command.phone
  which : match command with
    | .create _ => ∀ row ∈ s.customers, row.id ≠ customer.id
    | .update dto => customer.id = dto.customerId

/-- Where `execute` stands after the lookup of the sender; other operations may come between the
two statements. -/
def looked (message : WhatsAppWebhookPayload) (routing t : InboundStore)
    (found : Option Customer) : Option InboundCall := do
  let (_, call) ← ProcessInboundWhatsApp.step .resolve routing (.resolving message)
  let (_, call') ← ProcessInboundWhatsApp.step (.customer found) t call
  return call'

/-- The handler goes on with the customer, whatever row the lookup picks. -/
def Recognises (message : WhatsAppWebhookPayload) (routing t : InboundStore)
    (customer : Customer) : Prop :=
  (∃ found call, looked message routing t found = some call) ∧
  ∀ found call, looked message routing t found = some call →
    call = .findingLink message customer.tenantId customer

/-- Digits after an optional plus. -/
def unformatted (phone : String) : Bool := phone.toList.all fun ch => ch.isDigit || ch = '+'

section normalize
variable {phone : String}

theorem mem_normalizePhone {ch : Char} (h : ch ∈ (normalizePhone phone).toList) :
    ch.isDigit = true ∨ ch = '+' := by
  simp only [normalizePhone, String.toList_ofList, List.mem_append, List.mem_filter] at h
  rcases h with h | h
  · split at h
    · exact .inr (List.mem_singleton.mp h)
    · simp at h
  · exact .inl h.2

theorem normalizePhone_unformatted : unformatted (normalizePhone phone) = true := by
  rw [unformatted, List.all_eq_true]
  intro ch hch
  simpa using mem_normalizePhone hch

/-- Digits after an optional plus are in normal form. -/
theorem normalizePhone_eq {plus digits : List Char} (hplus : plus = ['+'] ∨ plus = [])
    (hdigits : ∀ ch ∈ digits, ch.isDigit = true) (hphone : phone.toList = plus ++ digits) :
    normalizePhone phone = phone := by
  have hspace : ∀ ch ∈ phone.toList, JsText.isSpace ch = false := by
    intro ch hch
    rw [hphone, List.mem_append] at hch
    rcases hch with hch | hch
    · rcases hplus with rfl | rfl
      · rw [List.mem_singleton.mp hch]
        decide
      · cases hch
    · exact JsText.not_space_of_digit (hdigits ch hch)
  have hkept : digits.filter Char.isDigit = digits := List.filter_eq_self.mpr hdigits
  have hsign : (if phone.toList.head? = some '+' then ['+'] else []) = plus := by
    rw [hphone]
    rcases hplus with rfl | rfl
    · rfl
    · cases digits with
      | nil => rfl
      | cons ch rest =>
        have hne : ch ≠ '+' := fun h => by simpa [h] using hdigits ch List.mem_cons_self
        simp [hne]
  have hdropped : phone.toList.filter Char.isDigit = digits := by
    rw [hphone, List.filter_append, hkept]
    rcases hplus with rfl | rfl <;> rfl
  rw [normalizePhone, JsText.trim_of_not_space hspace]
  simp only [hsign, hdropped]
  rw [← hphone, String.ofList_toList]

theorem normalizePhone_idempotent :
    normalizePhone (normalizePhone phone) = normalizePhone phone := by
  have hform : (normalizePhone phone).toList =
      (if (JsText.trim phone).toList.head? = some '+' then ['+'] else []) ++
        (JsText.trim phone).toList.filter Char.isDigit := by
    rw [normalizePhone, String.toList_ofList]
  refine normalizePhone_eq ?_ (fun ch hch => (List.mem_filter.mp hch).2) hform
  split
  · exact .inl rfl
  · exact .inr rfl

/-- An accepted number is in normal form exactly when it has no formatting. -/
theorem normalizePhone_eq_self_iff (hschema : phoneSchema phone = true) :
    normalizePhone phone = phone ↔ unformatted phone = true := by
  constructor
  · intro h
    rw [← h]
    exact normalizePhone_unformatted
  · intro h
    rw [unformatted, List.all_eq_true] at h
    have hplus : isPhoneChar '+' = false := by decide
    simp only [phoneSchema, Bool.and_eq_true, List.all_eq_true] at hschema
    have hdigits : ∀ ch ∈ phone.toList, isPhoneChar ch = true → ch.isDigit = true := by
      intro ch hch hallowed
      have hplain := h ch hch
      simp only [Bool.or_eq_true, decide_eq_true_eq] at hplain
      rcases hplain with hdigit | rfl
      · exact hdigit
      · rw [hplus] at hallowed
        cases hallowed
    cases htext : phone.toList with
    | nil => exact normalizePhone_eq (.inr rfl) (fun ch hch => by cases hch) htext
    | cons first rest =>
      rw [htext] at hschema hdigits
      by_cases hfirst : first = '+'
      · subst hfirst
        refine normalizePhone_eq (.inl rfl) (fun ch hch => ?_) htext
        exact hdigits ch (List.mem_cons_of_mem _ hch) (hschema.2 ch hch)
      · have hnone : (first :: rest).head? ≠ some '+' := by simpa using hfirst
        rw [if_neg hnone] at hschema
        exact normalizePhone_eq (.inr rfl) (fun ch hch => hdigits ch hch (hschema.2 ch hch)) htext

end normalize

section lookup
variable {routing t : InboundStore} {message : WhatsAppWebhookPayload} {customer : Customer}
  {phone : String}

theorem looked_eq {tenantId : Uuid} {found : Option Customer}
    (hrouted : resolveTenantId message.recipient routing = some tenantId) :
    looked message routing t found =
      if FoundFirst (customersByPhone tenantId (normalizePhone message.sender) t.store) found then
        some (ProcessInboundWhatsApp.customerFound message tenantId found)
      else none := by
  simp only [looked, ProcessInboundWhatsApp.step, hrouted, ProcessInboundWhatsApp.resolved,
    Option.bind_eq_bind, Option.bind_some]
  split <;> rfl

/-- The lookup compares the normal form with the stored text: it finds the customer when the
text is in normal form, and nobody otherwise. -/
theorem recognises_iff (hmem : customer ∈ t.store.customers)
    (hphone : customer.phone = some phone) (hschema : phoneSchema phone = true)
    (hrouted : resolveTenantId message.recipient routing = some customer.tenantId)
    (hsender : normalizePhone message.sender = normalizePhone phone)
    (hunique : ∀ other ∈ t.store.customers, other ≠ customer →
      other.tenantId = customer.tenantId →
      other.phone.map normalizePhone ≠ some (normalizePhone phone)) :
    Recognises message routing t customer ↔ unformatted phone = true := by
  generalize hselected : customersByPhone customer.tenantId (normalizePhone message.sender)
    t.store = selected
  have hlooked : ∀ found, looked message routing t found =
      if FoundFirst selected found then
        some (ProcessInboundWhatsApp.customerFound message customer.tenantId found)
      else none := fun found => by rw [looked_eq hrouted, hselected]
  have hrows : ∀ row ∈ selected, row = customer ∧ normalizePhone phone = phone := by
    intro row hrow
    simp only [← hselected, customersByPhone, List.mem_filter, decide_eq_true_eq] at hrow
    obtain ⟨hrowMem, hrowTenant, hrowPhone⟩ := hrow
    have hsame : row = customer := by
      by_contra hother
      refine hunique row hrowMem hother hrowTenant ?_
      rw [hrowPhone, Option.map_some, hsender, normalizePhone_idempotent]
    rw [hsame, hphone, hsender] at hrowPhone
    exact ⟨hsame, (Option.some.inj hrowPhone).symm⟩
  rw [← normalizePhone_eq_self_iff hschema]
  constructor
  · intro hrecognised
    by_contra hformatted
    have hnobody : FoundFirst selected none :=
      List.eq_nil_iff_forall_not_mem.mpr fun row hrow => hformatted (hrows row hrow).2
    have hskipped := hrecognised.2 none _ (by rw [hlooked, if_pos hnobody])
    cases hskipped
  · intro hnormal
    have hfound : customer ∈ selected := by
      simp only [← hselected, customersByPhone, List.mem_filter, decide_eq_true_eq]
      exact ⟨hmem, trivial, by rw [hphone, hsender, hnormal]⟩
    have hfirst : FoundFirst selected (some customer) := hfound
    refine ⟨⟨some customer, _, by rw [hlooked, if_pos hfirst]⟩, ?_⟩
    intro found call hcall
    rw [hlooked] at hcall
    split at hcall
    · rename_i hpicked
      cases hcall
      cases found with
      | none =>
        have hempty : selected = [] := hpicked
        rw [hempty] at hfound
        cases hfound
      | some row =>
        rw [(hrows row hpicked).1]
        rfl
    · cases hcall

end lookup

section stores
variable {env : ServiceEnv} {s : Store} {phone : String}
open Effect CustomerService

/-- A new customer has the phone of the request, as it is. -/
theorem atomic_createCustomer_phone (dto : CreateCustomerDto) :
    Atomic env 0 s (fun t => ∃ customer, StoresPhone (.create dto) s t customer)
      (createCustomer dto) := by
  simp only [createCustomer, CustomerRepository.existsByEmail]
  refine atomic_read_bind (atomic_require fun htaken => atomic_assertAssignable ?_)
  refine atomic_draw_bind (atomic_lift_bind fun email _ => ?_)
  refine atomic_draw_bind (atomic_draw_bind ?_)
  refine atomic_inTransaction (inside_createCustomerWrites _ _) fun saved d' s' hy => ?_
  obtain ⟨time, hsaved, hnew, hrows⟩ := yields_createCustomerWrites_work hy
  have hcustomers : s'.customers = s.customers ++ [saved] := congrArg (fun rows => rows.2.1) hrows
  refine ⟨saved, ⟨?_, by rw [hsaved]; rfl, by rw [hsaved]; rfl, hnew⟩⟩
  rw [hcustomers]
  exact List.mem_append_right _ List.mem_cons_self

theorem updatedRow_phone (dto : UpdateCustomerDto) (customer : Customer) :
    (updatedRow dto customer).phone = dto.phone.or customer.phone := by
  have hstatus : ∀ status entity, (withNewStatus status entity).row.phone = entity.row.phone := by
    intro status entity
    unfold withNewStatus
    split <;> rfl
  have hagent : ∀ agentId entity, (withAgent agentId entity).row.phone = entity.row.phone := by
    intro agentId entity
    cases agentId <;> rfl
  rw [updatedRow, hstatus, hagent]
  rfl

/-- The row of the named customer has the phone of the request, as it is. -/
theorem atomic_updateCustomer_phone (dto : UpdateCustomerDto) (hphone : dto.phone = some phone) :
    Atomic env 0 s (fun t => ∃ customer, StoresPhone (.update dto) s t customer)
      (updateCustomer dto) := by
  simp only [updateCustomer, getCustomerOrThrow, CustomerRepository.findById, bind_assoc,
    pure_bind]
  refine atomic_read_bind (atomic_orThrow fun customer hcustomer => atomic_assertAssignable ?_)
  refine atomic_inTransaction (inside_updateCustomerWrites _ _ _) fun saved d' s' hy => ?_
  obtain ⟨time, hwritten⟩ := yields_updateCustomerWrites_work hy
  have hrows : workRows s' = workRows (s.updateCustomer (updatedRow dto customer).id
      (Customer.write time (updatedRow dto customer))) := hwritten
  have hcustomers : s'.customers = (s.updateCustomer (updatedRow dto customer).id
      (Customer.write time (updatedRow dto customer))).customers :=
    congrArg (fun rows => rows.2.1) hrows
  have hid : (updatedRow dto customer).id = customer.id := (updatedRow_spec dto customer).1
  have hcond := List.find?_some hcustomer
  simp only [decide_eq_true_eq] at hcond
  have hm : customer ∈ s.customers := List.mem_of_find?_eq_some hcustomer
  refine ⟨Customer.write time (updatedRow dto customer) customer, ⟨?_, hcond.2, ?_, hcond.1⟩⟩
  · rw [hcustomers]
    exact Table.mem_updateMany.mpr (.inl ⟨customer, hm, hid.symm, rfl⟩)
  · have hwrote : (Customer.write time (updatedRow dto customer) customer).phone =
        (updatedRow dto customer).phone.or customer.phone := rfl
    rw [hwrote, updatedRow_phone, hphone]
    exact hphone.symm

theorem atomic_perform_phone {command : PhoneCommand} (hphone : command.phone = some phone) :
    Atomic env 0 s (fun t => ∃ customer, StoresPhone command s t customer) command.perform := by
  cases command with
  | create dto => exact atomic_createCustomer_phone dto
  | update dto => exact atomic_updateCustomer_phone dto hphone

end stores

/-- A call that returns stores the number as it was typed, and later messages from it find its
customer exactly when it was typed without formatting. -/
theorem sender_recognised_iff (command : PhoneCommand) (phone : String)
    (hphone : command.phone = some phone) (hschema : phoneSchema phone = true) :
    (∀ (env : ServiceEnv) (s : Store) (faults : Nat → Fault) (saved : Customer)
        (w : World Store ServiceCall),
      command.perform.run env faults (World.start s) = (.ok saved, w) →
        ∃ customer, StoresPhone command s w.committed customer) ∧
    ∀ (routing t : InboundStore) (message : WhatsAppWebhookPayload) (customer : Customer),
      customer ∈ t.store.customers → customer.phone = some phone →
      resolveTenantId message.recipient routing = some customer.tenantId →
      normalizePhone message.sender = normalizePhone phone →
      (∀ other ∈ t.store.customers, other ≠ customer → other.tenantId = customer.tenantId →
        other.phone.map normalizePhone ≠ some (normalizePhone phone)) →
      (Recognises message routing t customer ↔ unformatted phone = true) := by
  constructor
  · intro env s faults saved w hrun
    have hstored : Effect.Atomic env 0 s (fun t => ∃ customer, StoresPhone command s t customer)
        command.perform := atomic_perform_phone hphone
    have hleft := hstored.returns (w := World.start s) rfl rfl rfl (congrArg Prod.fst hrun)
    rwa [hrun] at hleft
  · intro routing t message customer hmem hsaved hrouted hsender hunique
    exact recognises_iff hmem hsaved hschema hrouted hsender hunique

section demo

def typedCustomer (phone : String) : CreateCustomerDto where
  tenantId := 2
  createdById := 1
  createdByRole := .tenantManager
  fullName := "Ada"
  email := "ada@example.com"
  phone := some phone
  company := none
  notes := none
  assignedAgentId := none
  externalId := none

def withoutCustomers : InboundStore where
  store :=
    { tickets := []
      comments := []
      customers := []
      tenants := []
      users := []
      refreshTokens := []
      sequences := []
      activities := []
      audits := []
      outbox := [] }
  integrations := [⟨2, "whatsapp", true, some "+10"⟩]

/-- What is left once the customer is created. -/
def afterCreation (phone : String) : InboundStore :=
  { withoutCustomers with
    store := ((PhoneCommand.create (typedCustomer phone)).perform.run sampleEnv (fun _ => .none)
      (World.start withoutCustomers.store)).2.committed }

def fromAda : WhatsAppWebhookPayload := ⟨"+15551234567", "+10", "Hi"⟩

end demo

/-- The number was typed with spaces, a dash and parentheses: its owner is an unknown sender. -/
theorem formatted_sender_unknown :
    phoneSchema "+1 (555) 123-4567" = true ∧
    normalizePhone fromAda.sender = normalizePhone "+1 (555) 123-4567" ∧
    ∃ customer, (afterCreation "+1 (555) 123-4567").store.customers = [customer] ∧
      customer.phone = some "+1 (555) 123-4567" ∧
      resolveTenantId fromAda.recipient (afterCreation "+1 (555) 123-4567") =
        some customer.tenantId ∧
      looked fromAda (afterCreation "+1 (555) 123-4567") (afterCreation "+1 (555) 123-4567") none =
        some (.returned (.skipped "Unknown sender")) ∧
      ¬Recognises fromAda (afterCreation "+1 (555) 123-4567") (afterCreation "+1 (555) 123-4567")
        customer := by
  have hlooked : looked fromAda (afterCreation "+1 (555) 123-4567")
      (afterCreation "+1 (555) 123-4567") none = some (.returned (.skipped "Unknown sender")) := by
    rfl
  refine ⟨by decide +kernel, by decide +kernel, _, rfl, rfl, by decide +kernel, hlooked, ?_⟩
  intro hrecognised
  have hfound := hrecognised.2 none _ hlooked
  cases hfound

theorem sender_recognised_iff_ada :
    ∃ customer, (afterCreation "+15551234567").store.customers = [customer] ∧
      Recognises fromAda (afterCreation "+15551234567") (afterCreation "+15551234567")
        customer := by
  have hschema : phoneSchema "+15551234567" = true := by decide +kernel
  have hlookup := (sender_recognised_iff (.create (typedCustomer "+15551234567")) "+15551234567"
    rfl hschema).2
  refine ⟨_, rfl, (hlookup _ _ fromAda _ List.mem_cons_self rfl (by decide +kernel) rfl ?_).mpr
    (by decide +kernel)⟩
  intro other hother hne
  exact absurd (List.mem_singleton.mp hother) hne

end OmniSupport.Messaging
