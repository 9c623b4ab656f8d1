import OmniSupport.Channels.TestedChannels

/-! When a WhatsApp number belongs to one tenant: while no call writes a number that a call of
another tenant has found available and is still to write. -/
namespace OmniSupport.Channels
open Foundation Messaging

/-- The number that inbound messages are routed by. -/
def TenantIntegration.number (r : TenantIntegration) : Option String :=
  match r.provider with
  | .whatsapp => r.config.phoneNumber.map normalizePhone
  | .email => none

namespace ChannelTask

/-- The tenant and the number of a call that has checked its number and is still to write it. -/
def claims : ChannelTask → Option (Uuid × String)
  | .findingConfigured tenantId config | .upserting tenantId config _ =>
    config.phoneNumber.map fun phone => (tenantId, normalizePhone phone)
  | _ => none

/-- The same when the number is written next. -/
def writes : ChannelTask → Option (Uuid × String)
  | .upserting tenantId config _ =>
    config.phoneNumber.map fun phone => (tenantId, normalizePhone phone)
  | _ => none

end ChannelTask

/-- No number is written that a call of another tenant has found available. -/
def NoRival (c : ChannelPool) : ChannelLabel → Prop
  | .act w (.go _) => ∀ tenantId number, (c.locals w).writes = some (tenantId, number) →
      ∀ v tenantId', (c.locals v).claims = some (tenantId', number) → tenantId' = tenantId
  | _ => True

/-- What a step does to the numbers: they stay with their tenants, but for the one it writes. -/
structure NumberStep (s : ChannelStore) (task : ChannelTask) (s' : ChannelStore) : Prop where
  keyed : Table.Keyed TenantIntegration.id s'.integrations s'.ids
  numbers : ∀ r' ∈ s'.integrations, ∀ number, r'.number = some number →
    (∃ r ∈ s.integrations, r.number = some number ∧ r.tenantId = r'.tenantId) ∨
      task.writes = some (r'.tenantId, number)

theorem NumberStep.same {s : ChannelStore} {task : ChannelTask}
    (hk : Table.Keyed TenantIntegration.id s.integrations s.ids) : NumberStep s task s :=
  ⟨hk, fun r hr _ hnumber => .inl ⟨r, hr, hnumber, rfl⟩⟩

namespace ChannelIntegrationService
variable {s s' : ChannelStore} {env : ChannelEnv} {task task' : ChannelTask} {id tenantId : Uuid}
  {r : TenantIntegration} {config : ChannelConfig}

theorem numberStep_updated {f : TenantIntegration → TenantIntegration}
    (hk : Table.Keyed TenantIntegration.id s.integrations s.ids) (hid : ∀ r, (f r).id = r.id)
    (hnumber : ∀ r, (f r).number = r.number) (htenant : ∀ r, (f r).tenantId = r.tenantId) :
    NumberStep s task (updated s id f) := by
  refine ⟨hk.updateMany hid, fun r' hr' number h => .inl ?_⟩
  rcases Table.mem_updateMany.mp hr' with ⟨r, hr, -, rfl⟩ | ⟨hold, -⟩
  · exact ⟨r, hr, (hnumber r).symm.trans h, (htenant r).symm⟩
  · exact ⟨r', hold, h, rfl⟩

theorem numberStep_update {f : TenantIntegration → TenantIntegration}
    {g : ChannelStore × TenantIntegration → ChannelStore × ChannelResult}
    (h : afterWrite s ((s.update id f).map g) = (s', task'))
    (hk : Table.Keyed TenantIntegration.id s.integrations s.ids) (hid : ∀ r, (f r).id = r.id)
    (hnumber : ∀ r, (f r).number = r.number) (htenant : ∀ r, (f r).tenantId = r.tenantId)
    (hg : ∀ x, (g x).1.integrations = x.1.integrations ∧ (g x).1.ids = x.1.ids) :
    NumberStep s task s' := by
  rcases afterWrite_update h with ⟨rfl, -⟩ | ⟨r, rfl, -⟩
  · exact .same hk
  · have hstep : NumberStep s task (updated s id f) :=
      numberStep_updated hk hid hnumber htenant
    obtain ⟨hrows, hids⟩ := hg (updated s id f, r)
    refine ⟨?_, fun r' hr' => ?_⟩
    · rw [hrows, hids]
      exact hstep.keyed
    · rw [hrows] at hr'
      exact hstep.numbers r' hr'

/-- The number of a row that has been configured. -/
theorem number_of_provider (hprovider : r.provider = r.config.provider) :
    r.number = r.config.phoneNumber.map normalizePhone := by
  unfold TenantIntegration.number
  rw [hprovider]
  cases r.config <;> rfl

theorem numberStep_upsert {metadata : ChannelMetadata} {existing : Option TenantIntegration}
    (hk : Table.Keyed TenantIntegration.id s.integrations s.ids)
    (h : upsert s env tenantId config metadata = some (s', r)) :
    NumberStep s (.upserting tenantId config existing) s' := by
  have hwrites : ∀ r' : TenantIntegration, r'.tenantId = tenantId → r'.config = config →
      r'.provider = config.provider → ∀ number, r'.number = some number →
      (ChannelTask.upserting tenantId config existing).writes = some (r'.tenantId, number) := by
    rintro r' rfl rfl hprovider number hnumber
    rw [number_of_provider hprovider] at hnumber
    obtain ⟨phone, hphone, rfl⟩ := Option.map_eq_some_iff.mp hnumber
    exact Option.map_eq_some_iff.mpr ⟨phone, hphone, rfl⟩
  unfold upsert at h
  cases hfind : s.find tenantId config.provider with
  | some r₀ =>
    rw [hfind] at h
    cases h
    have hr₀ := mem_of_find hfind
    have hmatch : r₀.tenantId = tenantId ∧ r₀.provider = config.provider :=
      of_decide_eq_true (List.find?_some (p := fun r : TenantIntegration =>
        r.tenantId = tenantId ∧ r.provider = config.provider) hfind)
    refine ⟨hk.updateMany fun _ => rfl, fun r' hr' number hnumber => ?_⟩
    rcases Table.mem_updateMany.mp hr' with ⟨r₁, hr₁, hid, rfl⟩ | ⟨hold, -⟩
    · have hsame : r₁ = r₀ := hk.eq hr₁ hr₀ hid
      subst hsame
      exact .inr (hwrites (r₁.configure env.now s.writes config metadata) hmatch.1 rfl hmatch.2
        number hnumber)
    · exact .inl ⟨r', hold, hnumber, rfl⟩
  | none =>
    rw [hfind] at h
    simp only at h
    split at h
    · cases h
    · rename_i hfresh
      cases h
      have hnew : ∀ r' ∈ s.integrations, r'.id ≠ env.id :=
        fun r' hr' hid => hfresh (hid ▸ hk.known r' hr')
      refine ⟨hk.insert hnew, fun r' hr' number hnumber => ?_⟩
      rcases List.mem_append.mp hr' with hold | hlast
      · exact .inl ⟨r', hold, hnumber, rfl⟩
      · rw [List.mem_singleton.mp hlast] at hnumber ⊢
        exact .inr (hwrites _ rfl rfl rfl number hnumber)

theorem go_numbers (hk : Table.Keyed TenantIntegration.id s.integrations s.ids)
    (h : go s env task = some (s', task')) : NumberStep s task s' := by
  cases task with
  | upserting tenantId config existing =>
    obtain ⟨⟨s₁, r⟩, hupsert, he⟩ := Option.map_eq_some_iff.mp h
    cases he
    exact numberStep_upsert hk hupsert
  | rotating r | switching r enabled =>
    exact numberStep_update (Option.some.inj h) hk (fun _ => rfl) (fun _ => rfl) (fun _ => rfl)
      fun _ => ⟨rfl, rfl⟩
  | recording r result =>
    refine numberStep_update (Option.some.inj h) hk (fun _ => rfl) (fun _ => rfl) (fun _ => rfl)
      fun x => ?_
    refine ⟨countTest_integrations r result x.1, ?_⟩
    simp only [countTest]
    split <;> rfl
  | removing r =>
    simp only [go, ChannelStore.delete] at h
    split at h <;> cases h
    · refine ⟨hk.deleteMany, fun r' hr' number hnumber => ?_⟩
      exact .inl ⟨r', (Table.mem_deleteMany.mp hr').1, hnumber, rfl⟩
    · exact .same hk
  | checkingConfig | checkingSwitched =>
    simp only [go] at h
    split at h <;> cases h <;> exact .same hk
  | idle | ended => cases h
  | _ =>
    cases h
    exact .same hk

/-- Rows with one number belong to one tenant. -/
structure NumbersOwned (s : ChannelStore) : Prop where
  keyed : Table.Keyed TenantIntegration.id s.integrations s.ids
  owned : ∀ r ∈ s.integrations, ∀ r' ∈ s.integrations, ∀ number, r.number = some number →
    r'.number = some number → r.tenantId = r'.tenantId

/-- The number that a call is to write is not one of another tenant. -/
def OwnNumber (task : ChannelTask) (s : ChannelStore) : Prop :=
  ∀ tenantId number, task.claims = some (tenantId, number) →
    ∀ r ∈ s.integrations, r.number = some number → r.tenantId = tenantId

def numberOutline : Program.Outline ChannelStore ChannelTask where
  inv := NumbersOwned
  own _ := OwnNumber
  pair _ _ := True

theorem claims_of_writes {number : String} (h : task.writes = some (tenantId, number)) :
    task.claims = some (tenantId, number) := by
  cases task <;> first | exact h | cases h

/-- The check of the number, as the rows answer it. -/
theorem ownNumber_of_available (h : assertPhoneAvailable s tenantId config = .ok ()) :
    OwnNumber (.findingConfigured tenantId config) s := by
  rintro tenantId' number hclaims r hr hnumber
  obtain ⟨phone, hphone, he⟩ := Option.map_eq_some_iff.mp hclaims
  cases he
  by_contra hne
  have htaken : s.phoneTaken tenantId (config.phoneNumber.getD "") = true := by
    unfold TenantIntegration.number at hnumber
    cases hprovider : r.provider with
    | email =>
      rw [hprovider] at hnumber
      cases hnumber
    | whatsapp =>
      rw [hprovider] at hnumber
      obtain ⟨stored, hstored, hsame⟩ := Option.map_eq_some_iff.mp hnumber
      refine List.any_eq_true.mpr ⟨r, hr, ?_⟩
      simp [hprovider, hne, hstored, hsame, hphone]
  rw [assertPhoneAvailable, if_pos htaken] at h
  cases h

theorem start_claims (call : ChannelCall) (s : ChannelStore) : OwnNumber (start call) s := by
  have hnone : ∀ task : ChannelTask, task.claims = none → OwnNumber task s := by
    intro task hnone tenantId number hclaims
    rw [hnone] at hclaims
    cases hclaims
  refine hnone _ ?_
  cases call with
  | configure tenantId config =>
    cases config with
    | whatsapp config =>
      by_cases hvalid : isE164 (normalizePhone config.phoneNumber) = true
      · simp only [start, normalizeConfig, hvalid, if_true]
        rfl
      · simp only [start, normalizeConfig, hvalid, Bool.false_eq_true, if_false]
        rfl
    | email config => rfl
  | _ => rfl

theorem OwnNumber.of_claims {task₀ : ChannelTask} (h : OwnNumber task₀ s)
    (hclaims : task.claims = task₀.claims) : OwnNumber task s :=
  fun tenantId number hc => h tenantId number (hclaims ▸ hc)

theorem ownNumber_of_none (h : task.claims = none) : OwnNumber task s := by
  intro tenantId number hclaims
  rw [h] at hclaims
  cases hclaims

theorem found_claims {provider : ChannelProvider} {next : TenantIntegration → ChannelTask}
    (hnext : ∀ r, (next r).claims = none) : (found s tenantId provider next).claims = none := by
  unfold found
  cases s.find tenantId provider with
  | some r => exact hnext r
  | none => rfl

theorem switchGate_claims (r : TenantIntegration) (enabled : Bool) :
    (switchGate r enabled).claims = none := by
  unfold switchGate
  split
  · rfl
  · split
    · rfl
    · cases r.provider <;> rfl

/-- After the check a call claims its number, until it is written. -/
theorem go_claims (hown : OwnNumber task s) (h : go s env task = some (s', task')) :
    OwnNumber task' s' := by
  cases task with
  | checkingConfig tenantId config =>
    simp only [go] at h
    cases hcheck : assertPhoneAvailable s tenantId config with
    | error error =>
      rw [hcheck] at h
      cases h
      exact ownNumber_of_none rfl
    | ok =>
      rw [hcheck] at h
      cases h
      exact ownNumber_of_available hcheck
  | findingConfigured tenantId config =>
    cases h
    exact hown.of_claims rfl
  | upserting tenantId config existing =>
    obtain ⟨⟨s₁, r⟩, -, he⟩ := Option.map_eq_some_iff.mp h
    cases he
    exact ownNumber_of_none rfl
  | rotating r | switching r enabled | recording r result =>
    rcases afterWrite_update (Option.some.inj h) with ⟨-, error, rfl⟩ | ⟨-, -, result, rfl⟩ <;>
      exact ownNumber_of_none rfl
  | findingRotated tenantId provider | findingTested tenantId provider
  | findingRemoved tenantId provider =>
    cases h
    exact ownNumber_of_none (found_claims fun _ => rfl)
  | findingSwitched tenantId provider enabled =>
    cases h
    exact ownNumber_of_none (found_claims fun r => switchGate_claims r enabled)
  | removing r =>
    simp only [go, ChannelStore.delete] at h
    split at h <;> cases h <;> exact ownNumber_of_none rfl
  | checkingSwitched r enabled =>
    simp only [go] at h
    split at h <;> cases h <;> exact ownNumber_of_none rfl
  | testing r | auditing result =>
    cases h
    exact ownNumber_of_none rfl
  | idle | ended => cases h

variable {c : ChannelPool} {w : Nat} {step : ChannelStep}

/-- What a step of a call leaves: a number is new only when `go` writes it. -/
theorem act_numbers (hk : Table.Keyed TenantIntegration.id c.shared.integrations c.shared.ids)
    (h : act w c.shared (c.locals w) step = some (s', task')) :
    Table.Keyed TenantIntegration.id s'.integrations s'.ids ∧
      ∀ r' ∈ s'.integrations, ∀ number, r'.number = some number →
        (∃ r ∈ c.shared.integrations, r.number = some number ∧ r.tenantId = r'.tenantId) ∨
          (∃ env, step = .go env) ∧ (c.locals w).writes = some (r'.tenantId, number) := by
  cases step with
  | go env =>
    have hstep := go_numbers hk h
    refine ⟨hstep.keyed, fun r' hr' number hnumber => ?_⟩
    rcases hstep.numbers r' hr' number hnumber with hold | hwrites
    · exact .inl hold
    · exact .inr ⟨⟨env, rfl⟩, hwrites⟩
  | call call =>
    simp only [act] at h
    split at h <;> cases h <;> exact ⟨hk, fun r' hr' _ hnumber => .inl ⟨r', hr', hnumber, rfl⟩⟩
  | throws env message =>
    obtain ⟨task'', -, he⟩ := Option.map_eq_some_iff.mp h
    cases he
    exact ⟨hk, fun r' hr' _ hnumber => .inl ⟨r', hr', hnumber, rfl⟩⟩
  | crash =>
    cases h
    exact ⟨hk, fun r' hr' _ hnumber => .inl ⟨r', hr', hnumber, rfl⟩⟩

theorem act_claims (hown : OwnNumber (c.locals w) c.shared)
    (h : act w c.shared (c.locals w) step = some (s', task')) : OwnNumber task' s' := by
  cases step with
  | call call =>
    simp only [act] at h
    split at h <;> cases h <;> exact start_claims call _
  | go env => exact go_claims hown h
  | throws env message =>
    obtain ⟨task'', hthrows, he⟩ := Option.map_eq_some_iff.mp h
    cases he
    refine ownNumber_of_none ?_
    cases htask : c.locals w <;> rw [htask] at hthrows <;> cases hthrows <;> rfl
  | crash =>
    cases h
    exact ownNumber_of_none rfl

theorem numberOutline_valid : numberOutline.Valid program NoRival where
  symm _ _ _ := trivial
  act c w step s task h hrival ha := by
    obtain ⟨hkeyed, hnumbers⟩ := act_numbers h.inv.keyed ha
    refine ⟨⟨hkeyed, fun r hr r' hr' number hn hn' => ?_⟩, act_claims (h.own w) ha⟩
    have hwritten : ∀ tenantId, (c.locals w).writes = some (tenantId, number) →
        ∀ r ∈ c.shared.integrations, r.number = some number → r.tenantId = tenantId :=
      fun tenantId hwrites => h.own w tenantId number (claims_of_writes hwrites)
    rcases hnumbers r hr number hn with ⟨r₁, hr₁, hn₁, ht₁⟩ | ⟨-, hwrites⟩ <;>
      rcases hnumbers r' hr' number hn' with ⟨r₂, hr₂, hn₂, ht₂⟩ | ⟨-, hwrites'⟩
    · rw [← ht₁, ← ht₂]
      exact h.inv.owned r₁ hr₁ r₂ hr₂ number hn₁ hn₂
    · rw [← ht₁]
      exact hwritten _ hwrites' r₁ hr₁ hn₁
    · rw [← ht₂]
      exact (hwritten _ hwrites r₂ hr₂ hn₂).symm
    · rw [hwrites] at hwrites'
      exact (Prod.mk.inj (Option.some.inj hwrites')).1
  others c w step s task h hrival ha q hq := by
    refine ⟨fun tenantId number hclaims r hr hn => ?_, trivial⟩
    rcases (act_numbers h.inv.keyed ha).2 r hr number hn with ⟨r₁, hr₁, hn₁, ht₁⟩ | ⟨hgo, hwrites⟩
    · rw [← ht₁]
      exact h.own q tenantId number hclaims r₁ hr₁ hn₁
    · obtain ⟨env, rfl⟩ := hgo
      exact (hrival _ number hwrites q tenantId hclaims).symm
  env _ e := e.elim

/-- While no call writes a number that a call of another tenant has found available and is still
to write, a WhatsApp number belongs to one tenant. -/
theorem number_belongs_to_one_tenant {moves : List ChannelLabel} {c : ChannelPool}
    (hrival : machine.Within NoRival init moves) (hrun : machine.run init moves = some c) :
    ∀ r ∈ c.shared.integrations, ∀ r' ∈ c.shared.integrations, ∀ number,
      r.number = some number → r'.number = some number → r.tenantId = r'.tenantId := by
  have hinit : numberOutline.Holds init := by
    refine ⟨⟨⟨List.nodup_nil, ?_⟩, ?_⟩, fun _ => ownNumber_of_none rfl, fun _ _ _ => trivial⟩
    · exact fun _ h => by cases h
    · exact fun _ h => by cases h
  exact (numberOutline_valid.run_within hinit hrival hrun).inv.owned

section demo

def demoPhone : ChannelConfig := .whatsapp ⟨"+1 555 010 9999", none⟩

/-- A caller alone is no rival of itself. -/
theorem noRival_of_idle {i : ChannelLabel} (hi : Program.ActorsBelow 1 i)
    (hidle : ∀ v, 1 ≤ v → c.locals v = .idle) : NoRival c i := by
  cases i with
  | env e => exact e.elim
  | act w step =>
    have hw : w = 0 := Nat.lt_one_iff.mp hi
    subst hw
    cases step with
    | go env =>
      intro tenantId number hwrites v tenantId' hclaims
      rcases Nat.eq_zero_or_pos v with rfl | hpos
      · rw [claims_of_writes hwrites] at hclaims
        exact (Prod.mk.inj (Option.some.inj hclaims)).1.symm
      · rw [hidle v hpos] at hclaims
        cases hclaims
    | _ => trivial

theorem number_belongs_to_one_tenant_configured :
    ∃ c, machine.run init (runs 0 (.configure 7 demoPhone) 4) = some c ∧
      ∀ r ∈ c.shared.integrations, ∀ r' ∈ c.shared.integrations, ∀ number,
        r.number = some number → r'.number = some number → r.tenantId = r'.tenantId := by
  have hsome : (machine.run init (runs 0 (.configure 7 demoPhone) 4)).isSome = true := by
    decide +kernel
  obtain ⟨c, hrun⟩ := Option.isSome_iff_exists.mp hsome
  refine ⟨c, hrun, number_belongs_to_one_tenant ?_ hrun⟩
  have hbelow : ∀ i ∈ runs 0 (.configure 7 demoPhone) 4, Program.ActorsBelow 1 i := by decide
  refine Machine.Within.of_invariant machine (D := fun _ i => Program.ActorsBelow 1 i)
    (P := fun c : ChannelPool => ∀ v, 1 ≤ v → c.locals v = .idle)
    (machine.within_of_labels hbelow) (fun _ _ => rfl) hbelow (fun c i c' hidle hi hs v hv => ?_)
    fun c i hidle hi => noRival_of_idle hi hidle
  rw [program.locals_of_actorsBelow hi hv hs]
  exact hidle v hv

/-- Two tenants check the number before either of them stores it. -/
def bothAvailable : List ChannelLabel :=
  runs 0 (.configure 7 demoPhone) 2 ++ runs 1 (.configure 8 demoPhone) 2 ++
    [.act 0 (.go demoEnv), .act 1 (.go { demoEnv with id := 2 })]

theorem number_shared :
    ∃ c, machine.run init bothAvailable = some c ∧ ∃ r ∈ c.shared.integrations,
      ∃ r' ∈ c.shared.integrations, r.number = some "+15550109999" ∧
        r'.number = some "+15550109999" ∧ r.tenantId ≠ r'.tenantId := by
  have hshared : ((machine.run init bothAvailable).any fun c =>
      c.shared.integrations.any fun r => c.shared.integrations.any fun r' =>
        r.number = some "+15550109999" ∧ r'.number = some "+15550109999" ∧
          r.tenantId ≠ r'.tenantId) = true := by decide +kernel
  obtain ⟨c, hrun, hrow⟩ := (Option.any_eq_true _ _).mp hshared
  obtain ⟨r, hr, hrest⟩ := List.any_eq_true.mp hrow
  obtain ⟨r', hr', hboth⟩ := List.any_eq_true.mp hrest
  exact ⟨c, hrun, r, hr, r', hr', of_decide_eq_true hboth⟩

end demo
end ChannelIntegrationService
end OmniSupport.Channels
