import OmniSupport.Identity.FeatureFlags
import OmniSupport.Shared.Base
import OmniSupport.Shared.JsText
import Mathlib.Algebra.Order.Field.Rat

/-! Whether a feature is enabled: an override of the environment, then the flag of the tenant and
its rollout, then the fallback of the caller. -/
namespace OmniSupport.Identity
open Foundation

inductive FeatureFlag where
  | aiCategorization
  | aiSentiment
  | aiUrgency
  | aiResponseSuggestion
  | aiSummary
  | aiRiskScore
  | aiAutoEscalation
  | advancedSearch
  | dashboardProjections
  | outboxProcessing
  deriving DecidableEq, Repr

def FeatureFlag.text : FeatureFlag → String
  | aiCategorization => "ai.categorization"
  | aiSentiment => "ai.sentiment"
  | aiUrgency => "ai.urgency"
  | aiResponseSuggestion => "ai.response_suggestion"
  | aiSummary => "ai.summary"
  | aiRiskScore => "ai.risk_score"
  | aiAutoEscalation => "ai.auto_escalation"
  | advancedSearch => "search.advanced"
  | dashboardProjections => "dashboard.projections"
  | outboxProcessing => "infrastructure.outbox_processing"

structure FeatureEvaluationContext where
  tenantId : Option Uuid := none
  subjectId : Option Uuid := none
  fallbackEnabled : Option Bool := none

/-- `process.env`, the text of an id, and the digest as hexadecimal digits. -/
structure FlagSettings where
  environment : String → Option String
  idText : Uuid → String
  sha256 : String → List (Fin 16)

/-- Whether a condition on the value holds. -/
def truthy : Json → Bool
  | .null => false
  | .bool b => b
  | .number r => r ≠ 0
  | .text s => s ≠ ""
  | .array _ | .object _ => true

/-- The flags in the settings column; `undefined` and `null` count as no flags. -/
def getTenantFlags (settings : Option Json) : Json :=
  match settings.bind (Json.get "featureFlags") with
  | none | some .null => .object Json.noMembers
  | some flags => flags

namespace FeatureFlagService
variable (config : FlagSettings)

def isUpperAlphanumeric (ch : Char) : Bool := ch.isDigit || ('A' ≤ ch && ch ≤ 'Z')

def envKey (feature : String) : String :=
  "FEATURE_FLAG_" ++ String.ofList (JsText.replaceRuns (fun ch => !isUpperAlphanumeric ch) '_' false
    (JsText.toUpperCase feature).toList)

def getGlobalOverride (feature : String) : Option Bool :=
  match config.environment (envKey feature) with
  | none | some "" => none
  | some rawValue => some (JsText.toLowerCase rawValue ∈ ["1", "true", "yes", "on"])

def getRolloutBucket (subjectId : String) : Nat :=
  ((config.sha256 subjectId).take 8).foldl (fun value digit => 16 * value + digit.val) 0 % 100

def subject (feature : String) (context : FeatureEvaluationContext) : String :=
  ((context.subjectId.or context.tenantId).map config.idText).getD feature

def evaluateDefinition (feature : String) (definition : Json) (context : FeatureEvaluationContext) :
    Bool :=
  if !(definition.get "enabled").any truthy then false
  else
    match definition.get "rolloutPercentage" with
    | some (.number rollout) =>
      if 100 ≤ rollout then true
      else if rollout ≤ 0 then false
      else (getRolloutBucket config (subject config feature context) : Rat) < rollout
    | _ => true

/-- The flags are read when there is no override, and the tenant is known. -/
def isEnabled {m : Type → Type} [Monad m] (tenantFlags : Uuid → m Json) (feature : String)
    (context : FeatureEvaluationContext) : m Bool := do
  match getGlobalOverride config feature with
  | some override => return override
  | none =>
    match context.tenantId with
    | none => return context.fallbackEnabled.getD false
    | some tenantId =>
      let flags ← tenantFlags tenantId
      match flags.get feature with
      | none => return context.fallbackEnabled.getD false
      | some definition =>
        if truthy definition then return evaluateDefinition config feature definition context
        else return context.fallbackEnabled.getD false

/-- The answer for a tenant with these settings. -/
def answer (feature : String) (context : FeatureEvaluationContext) (settings : Json) : Bool :=
  Id.run (isEnabled config (fun _ => pure (getTenantFlags (some settings))) feature context)

/-- Of the hundred buckets, the share that a stored definition enables. -/
def share (fallback : Bool) : Option Json → Rat
  | none => if fallback then 100 else 0
  | some definition =>
    if truthy definition then
      if !(definition.get "enabled").any truthy then 0
      else
        match definition.get "rolloutPercentage" with
        | some (.number rollout) => max 0 (min 100 rollout)
        | _ => 100
    else if fallback then 100 else 0

section answers
variable {config} {feature : String} {context : FeatureEvaluationContext} {settings : Json}
  {flags : Json.Members}

theorem bucket_lt (config : FlagSettings) (subjectId : String) :
    getRolloutBucket config subjectId < 100 :=
  Nat.mod_lt _ (by decide)

theorem evaluateDefinition_iff {definition : Json} (htruthy : truthy definition = true)
    (fallback : Bool) : evaluateDefinition config feature definition context = true ↔
      (getRolloutBucket config (subject config feature context) : Rat) <
        share fallback (some definition) := by
  have hbucket : (getRolloutBucket config (subject config feature context) : Rat) < 100 := by
    exact_mod_cast bucket_lt config _
  have hpos : (0 : Rat) ≤ getRolloutBucket config (subject config feature context) :=
    Nat.cast_nonneg _
  unfold evaluateDefinition
  simp only [share, htruthy, if_true]
  split
  · simp [not_lt.mpr hpos]
  · split
    · rename_i rollout _
      rw [lt_max_iff, lt_min_iff]
      by_cases hfull : 100 ≤ rollout
      · simp [hfull, hbucket, hbucket.trans_le hfull]
      · by_cases hnone : rollout ≤ 0
        · simp [hfull, hnone, not_lt.mpr hpos, not_lt.mpr (hnone.trans hpos)]
        · simp [hfull, hnone, not_lt.mpr hpos, hbucket]
    · simp [hbucket]

/-- A tenant whose flags are an object has a feature in the buckets below its share. -/
theorem answer_iff (hflags : settings.get "featureFlags" = some (.object flags)) :
    answer config feature context settings = true ↔
      match getGlobalOverride config feature, context.tenantId with
      | some override, _ => override = true
      | none, none => context.fallbackEnabled.getD false = true
      | none, some _ => (getRolloutBucket config (subject config feature context) : Rat) <
          share (context.fallbackEnabled.getD false) (flags feature) := by
  have hstored : getTenantFlags (some settings) = .object flags := by
    simp only [getTenantFlags, Option.bind_some, hflags]
  have hbucket : (getRolloutBucket config (subject config feature context) : Rat) < 100 := by
    exact_mod_cast bucket_lt config _
  have hpos : (0 : Rat) ≤ getRolloutBucket config (subject config feature context) :=
    Nat.cast_nonneg _
  have hfallback : context.fallbackEnabled.getD false = true ↔
      (getRolloutBucket config (subject config feature context) : Rat) <
        if context.fallbackEnabled.getD false = true then 100 else 0 := by
    split
    · rename_i hfallback
      simp [hfallback, hbucket]
    · rename_i hfallback
      simp [hfallback, not_lt.mpr hpos]
  unfold answer isEnabled
  cases getGlobalOverride config feature with
  | some override => rfl
  | none =>
    cases context.tenantId with
    | none => rfl
    | some tenantId =>
      simp only [hstored, pure_bind, Json.get_object]
      cases hdefinition : flags feature with
      | none => exact hfallback
      | some definition =>
        cases htruthy : truthy definition with
        | true => simpa [htruthy] using evaluateDefinition_iff htruthy _
        | false => simpa [share, htruthy] using hfallback

end answers

/-- The flag of the feature as it is stored. -/
def storedFlag (feature : String) (row : SettingsRow) : Option Json :=
  (row.settings.get "featureFlags").bind (Json.get feature)

/-- The write leaves the feature at least its share. -/
def Raises (feature : String) (fallback : Bool) (c : SettingsPool) : SettingsMove → Prop
  | .env (.setTenantFlag changed definition updatedAt) => changed = feature →
    share fallback (storedFlag feature c.shared) ≤
      share fallback (some (definition.toJson updatedAt))
  | .env (.deleteTenantFlag changed) => changed = feature →
    share fallback (storedFlag feature c.shared) ≤ share fallback none
  | .act _ _ => True

section runs
variable {config} {feature : String} {context : FeatureEvaluationContext} {settings : Json}
  {flags : Json.Members} {c c' : SettingsPool}

theorem storedFlag_of (feature : String) {row : SettingsRow} (h : StoresFlags row flags) :
    storedFlag feature row = flags feature := by
  rw [storedFlag, h]
  rfl

/-- Updates of the tenant leave the flag as it is, and the writes of flags raise its share. -/
theorem share_step {fallback : Bool} {move : SettingsMove} (hc : lockOutline.Holds c)
    (hflags : StoresFlags c.shared flags) (hraises : Raises feature fallback c move)
    (h : SettingsRow.program.machine.step c move = some c') :
    ∃ flags', StoresFlags c'.shared flags' ∧
      share fallback (flags feature) ≤ share fallback (flags' feature) := by
  refine ⟨_, step_flags hc hflags h, ?_⟩
  cases move with
  | act p action => exact le_refl _
  | env write =>
    simp only [flagWrites, List.filterMap_cons, List.filterMap_nil, List.foldl_cons, List.foldl_nil]
    cases write with
    | setTenantFlag changed definition updatedAt =>
      simp only [FlagWrite.apply, Function.update_apply]
      split
      · rename_i hsame
        exact storedFlag_of feature hflags ▸ hraises hsame.symm
      · exact le_refl _
    | deleteTenantFlag changed =>
      simp only [FlagWrite.apply, Function.update_apply]
      split
      · rename_i hsame
        exact storedFlag_of feature hflags ▸ hraises hsame.symm
      · exact le_refl _

theorem share_run {fallback : Bool} {moves : List SettingsMove} (hc : lockOutline.Holds c)
    (hflags : StoresFlags c.shared flags)
    (hraises : SettingsRow.program.machine.Within (Raises feature fallback) c moves)
    (h : SettingsRow.program.machine.run c moves = some c') :
    ∃ flags', StoresFlags c'.shared flags' ∧
      share fallback (flags feature) ≤ share fallback (flags' feature) := by
  induction moves generalizing c flags with
  | nil =>
    cases h
    exact ⟨flags, hflags, le_refl _⟩
  | cons move moves ih =>
    obtain ⟨c₁, hstep, hrest⟩ := (Machine.run_cons _).mp h
    obtain ⟨flags₁, hflags₁, hle⟩ := share_step hc hflags hraises.1 hstep
    obtain ⟨flags', hflags', hle'⟩ := ih (lockOutline_valid.step c move c₁ hc trivial hstep) hflags₁
      (hraises.2 c₁ hstep) hrest
    exact ⟨flags', hflags', hle.trans hle'⟩

end runs

section demo

/-- Every subject falls into the bucket 7. -/
def sevenConfig : FlagSettings := ⟨fun _ => none, toString, fun _ => [7]⟩

def rolledOut (percentage : Rat) : FeatureFlagDefinition := ⟨true, some percentage, none, none⟩

def fivePercent : Json.Members := Json.single "beta" ((rolledOut 5).toJson "2026")

/-- The tenant is suspended from a copy older than the write of the flag. -/
def raisedRollout : List SettingsMove :=
  [.act 0 (.load .suspendTenant), .env (.setTenantFlag "beta" (rolledOut 10) "2027"),
    .act 0 .lock, .act 0 .commit]

def fivePercentSettings : Json := .object (Json.single "featureFlags" (.object fivePercent))

end demo

end FeatureFlagService
end OmniSupport.Identity
