import OmniSupport.Foundation.History
import OmniSupport.Foundation.Jsonb
import OmniSupport.Foundation.Pool

/-! The settings of one tenant. Feature flags are written in place by single statements, and the
updates of the tenant write the whole column from a copy, under the lock of the row. -/
namespace OmniSupport.Identity
open Foundation

structure FeatureFlagDefinition where
  enabled : Bool
  rolloutPercentage : Option Rat
  subjectId : Option String
  description : Option String

/-- `{ ...definition, updatedAt }`; an undefined value is left out. -/
def FeatureFlagDefinition.toJson (updatedAt : String) (definition : FeatureFlagDefinition) : Json :=
  .object fun key =>
    if key = "enabled" then some (.bool definition.enabled)
    else if key = "rolloutPercentage" then definition.rolloutPercentage.map .number
    else if key = "subjectId" then definition.subjectId.map .text
    else if key = "description" then definition.description.map .text
    else if key = "updatedAt" then some (.text updatedAt)
    else none

/-- The statements of the feature flag repository, with the text of the clock reading. -/
inductive FlagWrite where
  | setTenantFlag (feature : String) (definition : FeatureFlagDefinition) (updatedAt : String)
  | deleteTenantFlag (feature : String)

namespace FlagWrite

/-- The column after the statement. -/
def execute (settings : Json) : FlagWrite → Option Json
  | .setTenantFlag feature definition updatedAt =>
    settings.set "featureFlags" (((settings.get "featureFlags").getD (.object Json.noMembers)).concat
      (.object (Json.single feature (definition.toJson updatedAt))))
  | .deleteTenantFlag feature => settings.removePath "featureFlags" feature

/-- What the write means for the flags. -/
def apply (flags : Json.Members) : FlagWrite → Json.Members
  | .setTenantFlag feature definition updatedAt =>
    Function.update flags feature (some (definition.toJson updatedAt))
  | .deleteTenantFlag feature => Function.update flags feature none

end FlagWrite

/-- The calls that update the tenant. The patch may hold any entries. -/
inductive TenantEdit where
  | updateTenant (settings : Option Json.Members)
  | suspendTenant
  | restoreTenant

/-- The settings of the entity the call passes to `TenantRepository.update`. -/
def TenantEdit.settings (found : Json) : TenantEdit → Json.Members
  | .updateTenant settings => Json.spread found.members (settings.getD Json.noMembers)
  | .suspendTenant | .restoreTenant => found.members

structure SettingsRow where
  settings : Json
  lockedBy : Option Nat

/-- Where an update stands: it holds an entity it has read before, or also the row's lock and
the settings that `SELECT .. FOR UPDATE` returned. -/
inductive UpdateStage where
  | idle
  | loaded (settings : Json.Members)
  | locked (settings : Json.Members) (current : Json)

inductive UpdateAction where
  | load (edit : TenantEdit)
  | lock
  | commit
  | fail

/-- The stored flags, if there are any, are kept instead of the copy. -/
def mergedSettings (settings : Json.Members) (current : Json) : Json.Members :=
  match current.get "featureFlags" with
  | none => settings
  | some storedFlags => Function.update settings "featureFlags" (some storedFlags)

namespace SettingsRow

def act (p : Nat) (row : SettingsRow) :
    UpdateStage → UpdateAction → Option (SettingsRow × UpdateStage)
  | .idle, .load edit => some (row, .loaded (edit.settings row.settings))
  | .loaded settings, .lock =>
    if row.lockedBy = none then some (⟨row.settings, some p⟩, .locked settings row.settings)
    else none
  | .locked settings current, .commit =>
    some (⟨.object (mergedSettings settings current), none⟩, .idle)
  | .loaded _, .fail => some (row, .idle)
  | .locked _ _, .fail => some (⟨row.settings, none⟩, .idle)
  | _, _ => none

/-- A statement on a locked row waits. -/
def write (row : SettingsRow) (write : FlagWrite) : Option SettingsRow :=
  if row.lockedBy = none then (write.execute row.settings).map fun settings => ⟨settings, none⟩
  else none

/-- Any number of updates, and flag writes between their steps. -/
def program : Program SettingsRow UpdateStage UpdateAction FlagWrite where
  act := act
  env := write

end SettingsRow

abbrev SettingsPool := Pool SettingsRow UpdateStage

abbrev SettingsMove := Move UpdateAction FlagWrite

def storedSettings (settings : Json) : SettingsPool := ⟨⟨settings, none⟩, fun _ => .idle⟩

/-- The flag writes of a run, in the order of their commits. -/
def flagWrites (moves : List SettingsMove) : List FlagWrite :=
  moves.filterMap fun
    | .env write => some write
    | .act _ _ => none

def StoresFlags (row : SettingsRow) (flags : Json.Members) : Prop :=
  row.settings.get "featureFlags" = some (.object flags)

/-- The other entries are as they were. -/
def SameOthers (settings settings' : Json) : Prop :=
  ∀ key, key ≠ "featureFlags" → settings'.get key = settings.get key

section writes
variable {write : FlagWrite} {settings settings' : Json} {flags : Json.Members}

theorem execute_others (h : write.execute settings = some settings') :
    SameOthers settings settings' := by
  intro key hkey
  cases write with
  | setTenantFlag feature definition updatedAt => exact Json.get_set h hkey
  | deleteTenantFlag feature => exact Json.get_removePath h hkey

/-- On an object of flags the statement does what the write means. -/
theorem execute_flags (hflags : settings.get "featureFlags" = some (.object flags))
    (h : write.execute settings = some settings') :
    settings'.get "featureFlags" = some (.object (write.apply flags)) := by
  cases write with
  | setTenantFlag feature definition updatedAt =>
    have hset := Json.get_set_self h
    rwa [hflags, Option.getD_some, Json.concat_object, Json.spread_single] at hset
  | deleteTenantFlag feature => exact Json.get_removePath_object hflags h

/-- The first flag is put in an empty object. -/
theorem execute_first {feature : String} {definition : FeatureFlagDefinition} {updatedAt : String}
    (hnone : settings.get "featureFlags" = none)
    (h : (FlagWrite.setTenantFlag feature definition updatedAt).execute settings = some settings') :
    settings'.get "featureFlags" =
      some (.object ((FlagWrite.setTenantFlag feature definition updatedAt).apply
        Json.noMembers)) := by
  have hset := Json.get_set_self h
  rwa [hnone, Option.getD_none, Json.concat_object, Json.spread_single] at hset

theorem mergedSettings_flags {entity : Json.Members}
    (h : settings.get "featureFlags" = some (.object flags)) :
    (Json.object (mergedSettings entity settings)).get "featureFlags" = some (.object flags) := by
  simp only [mergedSettings, h]
  exact Json.get_update_self

end writes

/-- An update that holds the lock has read what is still stored. -/
def lockOutline : Program.Outline SettingsRow UpdateStage where
  inv _ := True
  own p stage row := ∀ settings current, stage = .locked settings current →
    row.lockedBy = some p ∧ row.settings = current
  pair _ _ := True

section steps
variable {row row' : SettingsRow} {stage stage' : UpdateStage} {action : UpdateAction} {p : Nat}

/-- What an action does to the row: nothing, taking the lock, or giving it back, with the merged
settings when it commits. -/
theorem act_cases (h : SettingsRow.act p row stage action = some (row', stage')) :
    (row' = row ∧ ∀ settings current, stage' ≠ .locked settings current) ∨
    (row.lockedBy = none ∧ row' = ⟨row.settings, some p⟩ ∧
      ∃ settings, stage' = .locked settings row.settings) ∨
    (stage' = .idle ∧ ∃ settings current, stage = .locked settings current ∧
      (row' = ⟨row.settings, none⟩ ∨
        row' = ⟨.object (mergedSettings settings current), none⟩)) := by
  cases stage with
  | idle =>
    cases action with
    | load edit =>
      cases h
      exact .inl ⟨rfl, by simp⟩
    | lock | commit | fail => cases h
  | loaded settings =>
    cases action with
    | lock =>
      simp only [SettingsRow.act] at h
      split at h
      · rename_i hfree
        cases h
        exact .inr (.inl ⟨hfree, rfl, settings, rfl⟩)
      · cases h
    | fail =>
      cases h
      exact .inl ⟨rfl, by simp⟩
    | load | commit => cases h
  | locked settings current =>
    cases action with
    | commit =>
      cases h
      exact .inr (.inr ⟨rfl, settings, current, rfl, .inr rfl⟩)
    | fail =>
      cases h
      exact .inr (.inr ⟨rfl, settings, current, rfl, .inl rfl⟩)
    | load | lock => cases h

theorem write_eq_some {write : FlagWrite} : row.write write = some row' ↔
    row.lockedBy = none ∧ row'.lockedBy = none ∧
      write.execute row.settings = some row'.settings := by
  simp only [SettingsRow.write]
  split
  · rename_i hfree
    simp only [Option.map_eq_some_iff, hfree, true_and]
    constructor
    · rintro ⟨settings, hexecute, rfl⟩
      exact ⟨rfl, hexecute⟩
    · rintro ⟨hfree', hexecute⟩
      exact ⟨row'.settings, hexecute, by rw [← hfree']⟩
  · rename_i hheld
    simp [hheld]

theorem lockOutline_valid : lockOutline.Valid SettingsRow.program fun _ _ => True where
  symm _ _ _ := trivial
  act c p action row' stage' h _ ha := by
    refine ⟨trivial, fun settings current hstage => ?_⟩
    rcases act_cases ha with ⟨-, hno⟩ | ⟨-, rfl, settings', hlocked⟩ | ⟨hidle, -⟩
    · exact absurd hstage (hno settings current)
    · rw [hlocked] at hstage
      cases hstage
      exact ⟨rfl, rfl⟩
    · rw [hidle] at hstage
      cases hstage
  others c p action row' stage' h _ ha q hq := by
    refine ⟨fun settings current hstage => ?_, trivial⟩
    obtain ⟨hheld, hcurrent⟩ := h.own q settings current hstage
    rcases act_cases ha with ⟨rfl, -⟩ | ⟨hfree, -⟩ | ⟨-, settings', current', hlocked, -⟩
    · exact ⟨hheld, hcurrent⟩
    · rw [hfree] at hheld
      cases hheld
    · -- two updates do not hold the lock at once
      have hother := (h.own p settings' current' hlocked).1
      exact absurd (Option.some.inj (hheld.symm.trans hother)) hq
  env c write row' h _ he := by
    refine ⟨trivial, fun q settings current hstage => ?_⟩
    have hfree := (write_eq_some.mp he).1
    rw [(h.own q settings current hstage).1] at hfree
    cases hfree

end steps

section runs
variable {c c' : SettingsPool} {moves : List SettingsMove} {flags : Json.Members}

theorem lockOutline_stored (settings : Json) : lockOutline.Holds (storedSettings settings) :=
  ⟨trivial, fun _ _ _ h => (by cases h), fun _ _ _ => trivial⟩

/-- A step of an update leaves the flags, and a flag write does to them what it means. -/
theorem step_flags {move : SettingsMove} (hc : lockOutline.Holds c)
    (hflags : StoresFlags c.shared flags)
    (h : SettingsRow.program.machine.step c move = some c') :
    StoresFlags c'.shared ((flagWrites [move]).foldl FlagWrite.apply flags) := by
  cases move with
  | act p action =>
    obtain ⟨row', stage', ha, rfl⟩ := (Program.step_act _).mp h
    rcases act_cases ha with ⟨rfl, -⟩ | ⟨-, rfl, -⟩ | ⟨-, settings, current, hlocked, rfl | rfl⟩
    · exact hflags
    · exact hflags
    · exact hflags
    · have hcurrent := (hc.own p settings current hlocked).2
      rw [StoresFlags, hcurrent] at hflags
      exact mergedSettings_flags hflags
  | env write =>
    obtain ⟨row', he, rfl⟩ := (Program.step_env _).mp h
    exact execute_flags hflags (write_eq_some.mp he).2.2

theorem run_flags (hc : lockOutline.Holds c) (hflags : StoresFlags c.shared flags)
    (h : SettingsRow.program.machine.run c moves = some c') :
    StoresFlags c'.shared ((flagWrites moves).foldl FlagWrite.apply flags) := by
  induction moves generalizing c flags with
  | nil =>
    cases h
    exact hflags
  | cons move moves ih =>
    obtain ⟨c₁, hstep, hrest⟩ := (Machine.run_cons _).mp h
    have hsplit : flagWrites (move :: moves) = flagWrites [move] ++ flagWrites moves := by
      simp only [flagWrites, ← List.filterMap_append, List.singleton_append]
    rw [hsplit, List.foldl_append]
    exact ih (lockOutline_valid.step c move c₁ hc trivial hstep) (step_flags hc hflags hstep) hrest

end runs

/-- From the first flag on, the stored flags are the fold of the flag writes in the order of
their commits, and no flag write changes another entry of the settings. -/
theorem feature_flags_fold (settings : Json) (before after : List SettingsMove)
    (c₀ c₁ c : SettingsPool) (feature : String) (definition : FeatureFlagDefinition)
    (updatedAt : String)
    (hbefore : SettingsRow.program.machine.run (storedSettings settings) before = some c₀)
    (hnone : c₀.shared.settings.get "featureFlags" = none)
    (hset : SettingsRow.program.machine.step c₀
      (.env (.setTenantFlag feature definition updatedAt)) = some c₁)
    (hafter : SettingsRow.program.machine.run c₁ after = some c) :
    c.shared.settings.get "featureFlags" =
      some (.object ((.setTenantFlag feature definition updatedAt :: flagWrites after).foldl
        FlagWrite.apply Json.noMembers)) ∧
    ∀ step ∈ SettingsRow.program.machine.history (storedSettings settings)
        (before ++ .env (.setTenantFlag feature definition updatedAt) :: after),
      ∀ write, step.label = .env write →
        SameOthers step.before.shared.settings step.after.shared.settings := by
  have hholds := lockOutline_valid.run (lockOutline_stored settings) hbefore
  refine ⟨?_, ?_⟩
  · obtain ⟨row, he, hrow⟩ := (Program.step_env _).mp hset
    have hfirst : StoresFlags c₁.shared
        ((FlagWrite.setTenantFlag feature definition updatedAt).apply Json.noMembers) := by
      rw [hrow]
      exact execute_first hnone (write_eq_some.mp he).2.2
    exact run_flags (lockOutline_valid.step c₀ _ c₁ hholds trivial hset) hfirst hafter
  · have hrun := (Machine.run_append _).mpr ⟨c₀, hbefore, (Machine.run_cons _).mpr ⟨c₁, hset, hafter⟩⟩
    intro step hstep write hlabel
    obtain ⟨_, _, -, -, hs, -⟩ := Machine.split_of_mem_history _ hrun hstep
    rw [hlabel] at hs
    obtain ⟨row, he, hrow⟩ := (Program.step_env _).mp hs
    rw [hrow]
    exact execute_others (write_eq_some.mp he).2.2

section demo

def enabledFlag : FeatureFlagDefinition := ⟨true, none, none, none⟩

/-- An update whose patch carries flags of its own reads the tenant first, waits for the first
flag to be written, and commits before the flag is deleted. -/
def staleUpdate : List SettingsMove :=
  [.act 0 (.load (.updateTenant (some (Json.single "featureFlags" (.text "mine")))))]

def lateCommit : List SettingsMove :=
  [.act 0 .lock, .act 0 .commit, .env (.deleteTenantFlag "beta")]

end demo

theorem feature_flags_fold_stale :
    ∃ c, SettingsRow.program.machine.run (storedSettings (.object Json.noMembers))
        (staleUpdate ++ .env (.setTenantFlag "beta" enabledFlag "2026") :: lateCommit) = some c ∧
      c.shared.settings.get "featureFlags" =
        some (.object ([.setTenantFlag "beta" enabledFlag "2026", .deleteTenantFlag "beta"].foldl
          FlagWrite.apply Json.noMembers)) :=
  ⟨_, rfl, (feature_flags_fold (.object Json.noMembers) staleUpdate lateCommit _ _ _ "beta"
    enabledFlag "2026" rfl rfl rfl rfl).1⟩

end OmniSupport.Identity
