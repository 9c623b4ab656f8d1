import OmniSupport.Channels.ChannelIntegration
import OmniSupport.Foundation.History

/-! When an enabled channel was tested as it is configured: while no call writes over a config
that it has not read. -/
namespace OmniSupport.Channels
open Foundation

abbrev ChannelPool := Pool ChannelStore ChannelTask

abbrev ChannelLabel := Move ChannelStep Empty

namespace ChannelMetadata
variable {m : ChannelMetadata} {result : ChannelTestResult} {time : Time}

/-- No version counts as tested before it is written. -/
def Versioned (m : ChannelMetadata) : Prop :=
  ∀ v, m.testedConfigVersion = some v → v ≤ m.configVersion.getD 0

theorem versioned_empty : Versioned {} := fun _ h => by cases h

theorem Versioned.configured (h : m.Versioned) : m.configured.Versioned :=
  fun v hv => (h v hv).trans (Nat.le_succ _)

/-- A new version has not been tested. -/
theorem Versioned.configured_passes (h : m.Versioned) : m.configured.passes = false := by
  have hne : m.testedConfigVersion ≠ some (m.configVersion.getD 0 + 1) := by
    intro heq
    have hle := h _ heq
    omega
  simp only [ChannelMetadata.configured, passes, Option.getD_some, hne, decide_false,
    Bool.and_false]

theorem Versioned.rotated (h : m.Versioned) : (m.rotated time).Versioned := h

theorem Versioned.recorded (h : m.Versioned) : (m.recorded result).Versioned := by
  intro v hv
  simp only [ChannelMetadata.recorded] at hv ⊢
  split at hv
  · cases hv
    exact le_rfl
  · exact h v hv

theorem succeeded_of_recorded (h : (m.recorded result).passes = true) :
    result.status = .succeeded := by
  rw [passes, Bool.and_eq_true] at h
  simpa [ChannelMetadata.recorded] using h.1

end ChannelMetadata

/-- A row that passes the gate of `setEnabled`, or is enabled, has a tested config. -/
structure TenantIntegration.Sound (tested : List Nat) (r : TenantIntegration) : Prop where
  versioned : r.metadata.Versioned
  passes : r.metadata.passes = true → r.written ∈ tested
  enabled : r.isEnabled = true → r.written ∈ tested

namespace TenantIntegration
variable {tested tested' : List Nat} {r integration : TenantIntegration} {now : Time}

theorem Sound.mono (h : r.Sound tested) (hsub : tested ⊆ tested') : r.Sound tested' :=
  ⟨h.versioned, fun hp => hsub (h.passes hp), fun he => hsub (h.enabled he)⟩

end TenantIntegration

namespace ChannelTask

/-- What a call has read is sound, and the gate it has passed was a tested config. -/
def Sound (tested : List Nat) : ChannelTask → Prop
  | .upserting _ _ existing => ∀ r, existing = some r → r.metadata.Versioned
  | .rotating r => r.metadata.Versioned ∧ (r.metadata.passes = true → r.written ∈ tested)
  | .testing r | .recording r _ => r.metadata.Versioned
  | .checkingSwitched r enabled | .switching r enabled => enabled = true → r.written ∈ tested
  | _ => True

theorem Sound.mono {tested tested' : List Nat} {task : ChannelTask} (h : task.Sound tested)
    (hsub : tested ⊆ tested') : task.Sound tested' := by
  cases task with
  | rotating r => exact ⟨h.1, fun hp => hsub (h.2 hp)⟩
  | checkingSwitched r enabled | switching r enabled => exact fun he => hsub (h he)
  | _ => exact h

/-- The row still has the config that the call has read, when the call is to enable it or to
write that its config is tested. -/
def Current (s : ChannelStore) : ChannelTask → Prop
  | .rotating r => r.metadata.passes = true →
      ∀ r' ∈ s.integrations, r'.id = r.id → r'.written = r.written
  | .recording r result => result.status = .succeeded →
      ∀ r' ∈ s.integrations, r'.id = r.id → r'.written = r.written
  | .switching r enabled => enabled = true →
      ∀ r' ∈ s.integrations, r'.id = r.id → r'.written = r.written
  | _ => True

instance (s : ChannelStore) : ∀ task : ChannelTask, Decidable (task.Current s)
  | .rotating r => inferInstanceAs (Decidable (r.metadata.passes = true →
      ∀ r' ∈ s.integrations, r'.id = r.id → r'.written = r.written))
  | .recording r result => inferInstanceAs (Decidable (result.status = .succeeded →
      ∀ r' ∈ s.integrations, r'.id = r.id → r'.written = r.written))
  | .switching r enabled => inferInstanceAs (Decidable (enabled = true →
      ∀ r' ∈ s.integrations, r'.id = r.id → r'.written = r.written))
  | .idle | .ended _ | .checkingConfig .. | .findingConfigured .. | .upserting ..
  | .findingRotated .. | .findingTested .. | .testing _ | .findingSwitched ..
  | .checkingSwitched .. | .findingRemoved .. | .removing _ | .auditing _ => isTrue trivial

end ChannelTask

def ChannelStore.Sound (s : ChannelStore) : Prop := ∀ r ∈ s.integrations, r.Sound s.tested

/-- What a step leaves: sound rows and a sound call, and no test is taken back. -/
structure SoundStep (s s' : ChannelStore) (task' : ChannelTask) : Prop where
  rows : s'.Sound
  task : task'.Sound s'.tested
  tested : s.tested ⊆ s'.tested

theorem SoundStep.read {s : ChannelStore} {task' : ChannelTask} (hs : s.Sound)
    (h : task'.Sound s.tested) : SoundStep s s task' :=
  ⟨hs, h, List.Subset.refl _⟩

namespace ChannelIntegrationService
variable {s s' : ChannelStore} {env : ChannelEnv} {task task' : ChannelTask} {id tenantId : Uuid}
  {provider : ChannelProvider} {r integration : TenantIntegration}

theorem mem_of_find (h : s.find tenantId provider = some r) : r ∈ s.integrations :=
  List.mem_of_find?_eq_some h

theorem found_sound (hs : s.Sound) {next : TenantIntegration → ChannelTask}
    (hnext : ∀ r ∈ s.integrations, (next r).Sound s.tested) :
    SoundStep s s (found s tenantId provider next) := by
  refine .read hs ?_
  unfold found
  cases hfind : s.find tenantId provider with
  | some r => exact hnext r (mem_of_find hfind)
  | none => trivial

/-- Rows that an update has left sound. -/
theorem sound_updateMany {f : TenantIntegration → TenantIntegration} {tested : List Nat}
    (hs : s.Sound) (hsub : s.tested ⊆ tested)
    (hf : ∀ r ∈ s.integrations, r.id = id → (f r).Sound tested) :
    ∀ r ∈ Table.updateMany (fun r => r.id = id) f s.integrations, r.Sound tested := by
  intro r hr
  rcases Table.mem_updateMany.mp hr with ⟨r₀, hr₀, hid, rfl⟩ | ⟨hold, -⟩
  · exact hf r₀ hr₀ hid
  · exact (hs r hold).mono hsub

def updated (s : ChannelStore) (id : Uuid) (f : TenantIntegration → TenantIntegration) :
    ChannelStore :=
  { s with integrations := Table.updateMany (fun r => r.id = id) f s.integrations }

theorem afterWrite_update {f : TenantIntegration → TenantIntegration}
    {g : ChannelStore × TenantIntegration → ChannelStore × ChannelResult}
    (h : afterWrite s ((s.update id f).map g) = (s', task')) :
    (s' = s ∧ ∃ error, task' = .ended (.error error)) ∨
      ∃ r, s' = (g (updated s id f, r)).1 ∧ ∃ result, task' = .auditing result := by
  unfold ChannelStore.update at h
  cases hfind : s.integrations.find? fun r => r.id = id with
  | none =>
    rw [hfind] at h
    cases h
    exact .inl ⟨rfl, _, rfl⟩
  | some r =>
    rw [hfind] at h
    cases h
    exact .inr ⟨f r, rfl, _, rfl⟩

/-- An update by id that leaves its row sound, or finds none. -/
theorem sound_update {f : TenantIntegration → TenantIntegration} (hs : s.Sound)
    (hf : ∀ r ∈ s.integrations, r.id = id → (f r).Sound s.tested)
    {g : ChannelStore × TenantIntegration → ChannelStore × ChannelResult}
    (h : afterWrite s ((s.update id f).map g) = (s', task')) (hg : ∀ x, (g x).1 = x.1) :
    SoundStep s s' task' := by
  rcases afterWrite_update h with ⟨rfl, error, rfl⟩ | ⟨r, rfl, result, rfl⟩
  · exact .read hs trivial
  · rw [hg]
    exact ⟨sound_updateMany hs (List.Subset.refl _) hf, trivial, List.Subset.refl _⟩

theorem countTest_integrations (integration : TenantIntegration) (result : ChannelTestResult)
    (s : ChannelStore) : (countTest integration result s).integrations = s.integrations := by
  unfold countTest
  split <;> rfl

theorem countTest_tested (integration : TenantIntegration) (result : ChannelTestResult)
    (s : ChannelStore) : s.tested ⊆ (countTest integration result s).tested := by
  unfold countTest
  split
  · exact List.subset_cons_self _ _
  · exact List.Subset.refl _

/-- A test that is recorded counts for the row it has read. -/
theorem sound_record {result : ChannelTestResult} {now : Time} (hs : s.Sound)
    (hversioned : integration.metadata.Versioned)
    (hcurrent : result.status = .succeeded → ∀ r ∈ s.integrations, r.id = integration.id →
      r.written = integration.written)
    (h : afterWrite s ((s.update integration.id (TenantIntegration.record now
      (integration.metadata.recorded result))).map fun r =>
        (countTest integration result r.1, .tested result)) = (s', task')) :
    SoundStep s s' task' := by
  rcases afterWrite_update h with ⟨rfl, error, rfl⟩ | ⟨r, rfl, last, rfl⟩
  · exact .read hs trivial
  have hsub : s.tested ⊆ (countTest integration result (updated s integration.id
      (TenantIntegration.record now (integration.metadata.recorded result)))).tested :=
    countTest_tested integration result (updated s integration.id _)
  refine ⟨fun r' hr' => ?_, trivial, hsub⟩
  rw [countTest_integrations] at hr'
  refine sound_updateMany hs hsub (fun r hr hid => ?_) r' hr'
  refine ⟨hversioned.recorded, fun hp => ?_, fun he => hsub ((hs r hr).enabled he)⟩
  have hsucceeded := ChannelMetadata.succeeded_of_recorded hp
  have hwritten : r.written = integration.written := hcurrent hsucceeded r hr hid
  simp only [countTest, hsucceeded, if_true]
  exact List.mem_cons.mpr (.inl hwritten)

theorem upsert_sound (hs : s.Sound) {config : ChannelConfig} {metadata : ChannelMetadata}
    (hversioned : metadata.Versioned) (hpasses : metadata.passes = false)
    (h : upsert s env tenantId config metadata = some (s', r)) :
    s'.Sound ∧ s'.tested = s.tested := by
  have hnew : ∀ r : TenantIntegration, r.metadata = metadata → r.isEnabled = false →
      r.Sound s.tested := by
    rintro r rfl henabled
    refine ⟨hversioned, fun hp => ?_, fun he => ?_⟩
    · rw [hpasses] at hp
      cases hp
    · rw [henabled] at he
      cases he
  unfold upsert at h
  split at h
  · cases h
    exact ⟨sound_updateMany hs (List.Subset.refl _) fun r _ _ => hnew _ rfl rfl, rfl⟩
  · split at h
    · cases h
    · cases h
      refine ⟨fun r hr => ?_, rfl⟩
      rcases List.mem_append.mp hr with hold | hlast
      · exact hs r hold
      · rw [List.mem_singleton.mp hlast]
        exact hnew _ rfl rfl

theorem switchGate_sound (hr : r.Sound s.tested) (enabled : Bool) :
    (switchGate r enabled).Sound s.tested := by
  unfold switchGate
  split
  · rename_i hoff
    exact fun he => absurd he hoff
  · split
    · trivial
    · rename_i hpasses
      have htested := hr.passes (not_not.mp hpasses)
      cases r.provider with
      | whatsapp => exact fun _ => htested
      | email => exact fun _ => htested

/-- Each statement of a call, as long as it writes over the config that the call has read. -/
theorem go_sound (hs : s.Sound) (htask : task.Sound s.tested) (hcurrent : task.Current s)
    (h : go s env task = some (s', task')) : SoundStep s s' task' := by
  cases task with
  | idle | ended result => cases h
  | checkingConfig tenantId config =>
    simp only [go] at h
    split at h <;> cases h <;> exact .read hs trivial
  | findingConfigured tenantId config =>
    cases h
    refine .read hs fun r hfind => (hs r (mem_of_find hfind)).versioned
  | upserting tenantId config existing =>
    obtain ⟨⟨s₁, r⟩, hupsert, he⟩ := Option.map_eq_some_iff.mp h
    cases he
    have hversioned : ((existing.map TenantIntegration.metadata).getD {}).Versioned := by
      cases existing with
      | none => exact ChannelMetadata.versioned_empty
      | some r => exact htask r rfl
    obtain ⟨hrows, htested⟩ := upsert_sound hs hversioned.configured
      hversioned.configured_passes hupsert
    exact ⟨hrows, trivial, htested ▸ List.Subset.refl _⟩
  | findingRotated tenantId provider =>
    cases h
    exact found_sound hs fun r hr => ⟨(hs r hr).versioned, (hs r hr).passes⟩
  | rotating r =>
    refine sound_update hs (fun r' hr' hid => ?_) (Option.some.inj h) fun _ => rfl
    refine ⟨htask.1.rotated, fun hp => ?_, (hs r' hr').enabled⟩
    have hwritten : r'.written = r.written := hcurrent hp r' hr' hid
    have htested := htask.2 hp
    rwa [← hwritten] at htested
  | findingTested tenantId provider =>
    cases h
    exact found_sound hs fun r hr => (hs r hr).versioned
  | testing r =>
    cases h
    exact .read hs htask
  | recording r result => exact sound_record hs htask hcurrent (Option.some.inj h)
  | findingSwitched tenantId provider enabled =>
    cases h
    exact found_sound hs fun r hr => switchGate_sound (hs r hr) enabled
  | checkingSwitched r enabled =>
    simp only [go] at h
    split at h <;> cases h
    · exact .read hs trivial
    · exact .read hs htask
  | switching r enabled =>
    refine sound_update hs (fun r' hr' hid => ?_) (Option.some.inj h) fun _ => rfl
    refine ⟨(hs r' hr').versioned, (hs r' hr').passes, fun he => ?_⟩
    have hwritten : r'.written = r.written := hcurrent he r' hr' hid
    have htested := htask he
    rwa [← hwritten] at htested
  | findingRemoved tenantId provider =>
    cases h
    exact found_sound hs fun r hr => trivial
  | removing r =>
    simp only [go, ChannelStore.delete] at h
    split at h <;> cases h
    · exact ⟨fun r' hr' => hs r' (Table.mem_deleteMany.mp hr').1, trivial, List.Subset.refl _⟩
    · exact .read hs trivial
  | auditing result =>
    cases h
    exact .read hs trivial

theorem start_sound (call : ChannelCall) (tested : List Nat) : (start call).Sound tested := by
  cases call with
  | configure tenantId config =>
    simp only [start]
    split
    · trivial
    · split <;> trivial
  | _ => trivial

theorem throws_sound {tested : List Nat} {message : String} (htask : task.Sound tested)
    (h : throws env message task = some task') : task'.Sound tested := by
  cases task with
  | testing r =>
    cases h
    exact htask
  | _ => cases h <;> trivial

/-- The call of the step writes over a config only if it has read it. -/
def WritesRead (c : ChannelPool) : ChannelLabel → Prop
  | .act w (.go _) => (c.locals w).Current c.shared
  | _ => True

instance (c : ChannelPool) : DecidablePred (WritesRead c)
  | .act w (.go _) => inferInstanceAs (Decidable ((c.locals w).Current c.shared))
  | .act _ (.call _) | .act _ (.throws _ _) | .act _ .crash | .env _ => isTrue trivial

theorem act_sound {w : Nat} {step : ChannelStep} {c : ChannelPool} (hs : c.shared.Sound)
    (htask : (c.locals w).Sound c.shared.tested) (hread : WritesRead c (.act w step))
    (h : act w c.shared (c.locals w) step = some (s', task')) : SoundStep c.shared s' task' := by
  cases step with
  | call call =>
    simp only [act] at h
    split at h <;> cases h <;> exact .read hs (start_sound call _)
  | go env => exact go_sound hs htask hread h
  | throws env message =>
    obtain ⟨task'', hthrows, he⟩ := Option.map_eq_some_iff.mp h
    cases he
    exact .read hs (throws_sound htask hthrows)
  | crash =>
    cases h
    exact .read hs trivial

def testedOutline : Program.Outline ChannelStore ChannelTask where
  inv := ChannelStore.Sound
  own _ task s := task.Sound s.tested
  pair _ _ := True

theorem testedOutline_valid : testedOutline.Valid program WritesRead where
  symm _ _ _ := trivial
  act _ _ _ _ _ h hread ha :=
    have hstep := act_sound h.inv (h.own _) hread ha
    ⟨hstep.rows, hstep.task⟩
  others _ _ _ _ _ h hread ha q _ :=
    ⟨(h.own q).mono (act_sound h.inv (h.own _) hread ha).tested, trivial⟩
  env _ e := e.elim

def recordedTest : ChannelTask → ChannelTask → Option Nat
  | .recording integration result, .auditing (.tested _) =>
    if result.status = .succeeded then some integration.written else none
  | _, _ => none

/-- The config that a test has read which the step records as successful. -/
def testedBy (step : Machine.Step ChannelPool ChannelLabel) : Option Nat :=
  match step.label with
  | .act w (.go _) => recordedTest (step.before.locals w) (step.after.locals w)
  | _ => none

theorem go_tested {k : Nat} (h : go s env task = some (s', task')) (hk : k ∈ s'.tested) :
    k ∈ s.tested ∨ recordedTest task task' = some k := by
  cases task with
  | recording integration result =>
    have hwrite := Option.some.inj h
    unfold ChannelStore.update at hwrite
    cases hfind : s.integrations.find? fun r => r.id = integration.id with
    | none =>
      rw [hfind] at hwrite
      cases hwrite
      exact .inl hk
    | some r =>
      rw [hfind] at hwrite
      cases hwrite
      by_cases hsucceeded : result.status = .succeeded
      · simp only [countTest, hsucceeded, if_true] at hk
        rcases List.mem_cons.mp hk with rfl | hold
        · exact .inr (if_pos hsucceeded)
        · exact .inl hold
      · simp only [countTest, hsucceeded, if_false] at hk
        exact .inl hk
  | rotating integration | switching integration enabled =>
    rcases afterWrite_update (Option.some.inj h) with ⟨rfl, -⟩ | ⟨r, rfl, -⟩
    · exact .inl hk
    · exact .inl hk
  | upserting tenantId config existing =>
    obtain ⟨⟨s₁, r⟩, hupsert, he⟩ := Option.map_eq_some_iff.mp h
    cases he
    unfold upsert at hupsert
    split at hupsert
    · cases hupsert
      exact .inl hk
    · split at hupsert <;> cases hupsert
      exact .inl hk
  | removing integration =>
    simp only [go, ChannelStore.delete] at h
    split at h <;> cases h <;> exact .inl hk
  | checkingConfig | checkingSwitched =>
    simp only [go] at h
    split at h <;> cases h <;> exact .inl hk
  | idle | ended => cases h
  | _ =>
    cases h
    exact .inl hk

theorem tested_step {c c' : ChannelPool} {i : ChannelLabel} {k : Nat}
    (hs : machine.step c i = some c') (hk : k ∈ c'.shared.tested) :
    k ∈ c.shared.tested ∨ testedBy ⟨c, i, c'⟩ = some k := by
  cases i with
  | env e => exact e.elim
  | act w step =>
    obtain ⟨s', task', ha, rfl⟩ := program.step_act.mp hs
    cases step with
    | go env =>
      rcases go_tested ha hk with hold | hrecorded
      · exact .inl hold
      · refine .inr ?_
        simp only [testedBy, c.put_locals_self]
        exact hrecorded
    | call call =>
      simp only [program, act] at ha
      split at ha <;> cases ha <;> exact .inl hk
    | throws env message =>
      obtain ⟨task'', -, he⟩ := Option.map_eq_some_iff.mp ha
      cases he
      exact .inl hk
    | crash =>
      cases ha
      exact .inl hk

/-- While no call writes over a config that it has not read, a successful test has read the config
of every enabled channel. -/
theorem enabled_tested {moves : List ChannelLabel} {c : ChannelPool}
    (hread : machine.Within WritesRead init moves) (hrun : machine.run init moves = some c) :
    ∀ r ∈ c.shared.integrations, r.isEnabled = true →
      ∃ step ∈ machine.history init moves, testedBy step = some r.written := by
  intro r hr henabled
  have hinit : testedOutline.Holds init :=
    ⟨fun _ h => (by cases h), fun _ => trivial, fun _ _ _ => trivial⟩
  have hholds := testedOutline_valid.run_within hinit hread hrun
  have htested : r.written ∈ c.shared.tested := (hholds.inv r hr).enabled henabled
  refine (machine.history_source (Q := fun c => r.written ∈ c.shared.tested)
    (fun _ _ _ _ hs hk => tested_step hs hk) (machine.within_true _ _) hrun
    htested).resolve_left fun hnone => ?_
  cases hnone

section demo

def demoEnv : ChannelEnv := ⟨5, 1, "secret", "encrypted", true, true, .ok true⟩

def support : ChannelConfig := .email ⟨"Support", none⟩

def billing : ChannelConfig := .email ⟨"Billing", none⟩

/-- A call, and that many of its statements. -/
def runs (w : Nat) (call : ChannelCall) (statements : Nat) : List ChannelLabel :=
  .act w (.call call) :: List.replicate statements (.act w (.go demoEnv))

/-- The channel is configured, tested and enabled. -/
def enabledAfterTest : List ChannelLabel :=
  runs 0 (.configure 7 support) 3 ++ runs 0 (.test 7 .email) 4 ++ runs 0 (.setEnabled 7 .email true) 3

theorem enabled_tested_run :
    ∃ c, machine.run init enabledAfterTest = some c ∧ ∃ r ∈ c.shared.integrations,
      r.isEnabled = true ∧ ∃ step ∈ machine.history init enabledAfterTest,
        testedBy step = some r.written := by
  have henabled : ((machine.run init enabledAfterTest).any fun c =>
      c.shared.integrations.any TenantIntegration.isEnabled) = true := by decide +kernel
  obtain ⟨c, hrun, hrow⟩ := (Option.any_eq_true _ _).mp henabled
  obtain ⟨r, hr, hon⟩ := List.any_eq_true.mp hrow
  exact ⟨c, hrun, r, hr, hon, enabled_tested (by decide +kernel) hrun r hr hon⟩

/-- The config is replaced between the check and the write of `setEnabled`. -/
def enabledAfterChange : List ChannelLabel :=
  runs 0 (.configure 7 support) 3 ++ runs 0 (.test 7 .email) 4 ++
    runs 0 (.setEnabled 7 .email true) 1 ++ runs 1 (.configure 7 billing) 3 ++
    List.replicate 2 (.act 0 (.go demoEnv))

/-- The config is replaced while its test runs, and then the channel is enabled. -/
def testedAfterChange : List ChannelLabel :=
  runs 0 (.configure 7 support) 3 ++ runs 0 (.test 7 .email) 1 ++ runs 1 (.configure 7 billing) 3 ++
    List.replicate 3 (.act 0 (.go demoEnv)) ++ runs 0 (.setEnabled 7 .email true) 3

/-- The run ends with an enabled channel whose config no successful test has read. -/
def Untested (moves : List ChannelLabel) : Prop :=
  ∃ c, machine.run init moves = some c ∧ ∃ r ∈ c.shared.integrations, r.isEnabled = true ∧
    ∀ step ∈ machine.history init moves, testedBy step ≠ some r.written

theorem untested_of_decide {moves : List ChannelLabel}
    (h : ((machine.run init moves).any fun c => c.shared.integrations.any fun r => r.isEnabled &&
      (machine.history init moves).all fun step => testedBy step ≠ some r.written) = true) :
    Untested moves := by
  obtain ⟨c, hrun, hrow⟩ := (Option.any_eq_true _ _).mp h
  obtain ⟨r, hr, hboth⟩ := List.any_eq_true.mp hrow
  obtain ⟨henabled, hnone⟩ := Bool.and_eq_true_iff.mp hboth
  refine ⟨c, hrun, r, hr, henabled, fun step hstep => ?_⟩
  exact of_decide_eq_true (List.all_eq_true.mp hnone step hstep)

theorem enabled_untested : Untested enabledAfterChange ∧ Untested testedAfterChange :=
  ⟨untested_of_decide (by decide +kernel), untested_of_decide (by decide +kernel)⟩

end demo
end ChannelIntegrationService
end OmniSupport.Channels
