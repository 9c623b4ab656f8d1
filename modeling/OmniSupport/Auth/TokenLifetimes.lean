import OmniSupport.Auth.TokenService
import OmniSupport.Foundation.Groups
import OmniSupport.Shared.JsText

/-! The durations of the JWT configuration as the program reads them and as the signing library
reads them: on which texts a token lives as long as is reported and stored for it. -/
namespace OmniSupport.Auth
open Foundation

inductive TimeUnit where
  | ms | s | m | h | d
  deriving DecidableEq

namespace TimeUnit

def text : TimeUnit → String
  | .ms => "ms"
  | .s => "s"
  | .m => "m"
  | .h => "h"
  | .d => "d"

def values : List TimeUnit := [.ms, .s, .m, .h, .d]

end TimeUnit

def UNIT_MS : TimeUnit → Nat
  | .ms => 1
  | .s => 1000
  | .m => 60 * 1000
  | .h => 60 * 60 * 1000
  | .d => 24 * 60 * 60 * 1000

/-- `Number` of a text of digits. -/
def amount (digits : List Char) : Nat :=
  digits.foldl (fun n ch => 10 * n + (ch.toNat - '0'.toNat)) 0

/-- `/^(\d+)\s*(ms|s|m|h|d)?$/.exec`: the digits and the unit. -/
def durationMatch (value : String) : Option (List Char × Option TimeUnit) :=
  let digits := value.toList.takeWhile Char.isDigit
  let rest := (value.toList.dropWhile Char.isDigit).dropWhile JsText.isSpace
  if digits = [] then none
  else if rest = [] then some (digits, none)
  else (TimeUnit.values.find? fun unit => unit.text.toList = rest).map fun unit =>
    (digits, some unit)

/-- Bare numbers are treated as seconds. -/
def parseDurationMs (value : String) : Except AppError Nat :=
  match durationMatch (JsText.trim value) with
  | none => .error (.plain ("Invalid duration: " ++ value))
  | some (digits, unit) => .ok (amount digits * UNIT_MS (unit.getD .s))

def durationSchema (value : String) : Bool := (durationMatch (JsText.trim value)).isSome

/-- The variables of the environment that the configuration is read from. -/
structure JwtEnvironment where
  JWT_ACCESS_SECRET : Option String
  JWT_REFRESH_SECRET : Option String
  JWT_ACCESS_EXPIRES_IN : Option String
  JWT_REFRESH_EXPIRES_IN : Option String

structure ParsedJwtConfig extends JwtConfig where
  accessSecret : String
  refreshSecret : String
  accessExpiresIn : String
  refreshExpiresIn : String

/-- `z.string().min(32)`. -/
def secretSchema (value : Option String) : Option String :=
  value.filter fun secret => 32 ≤ JsText.length secret

/-- `none` stands for an environment that is refused. -/
def getJwtConfig (env : JwtEnvironment) : Option ParsedJwtConfig := do
  let accessSecret ← secretSchema env.JWT_ACCESS_SECRET
  let refreshSecret ← secretSchema env.JWT_REFRESH_SECRET
  let accessExpiresIn := env.JWT_ACCESS_EXPIRES_IN.getD "15m"
  let refreshExpiresIn := env.JWT_REFRESH_EXPIRES_IN.getD "30d"
  if durationSchema accessExpiresIn && durationSchema refreshExpiresIn then
    let accessMs ← (parseDurationMs accessExpiresIn).toOption
    let refreshMs ← (parseDurationMs refreshExpiresIn).toOption
    return {
      accessSecret := accessSecret
      refreshSecret := refreshSecret
      accessExpiresIn := accessExpiresIn
      refreshExpiresIn := refreshExpiresIn
      accessExpiresInSeconds := accessMs / 1000
      refreshExpiresInMs := refreshMs }
  else none

/-- Digits, blanks and a unit, with nothing around them. -/
def Written (value : String) (digits : List Char) (blanks : Nat) (unit : Option TimeUnit) : Prop :=
  digits ≠ [] ∧ (∀ ch ∈ digits, ch.isDigit = true) ∧
    value.toList = digits ++ List.replicate blanks ' ' ++ (unit.map fun u => u.text.toList).getD []

/-- What is known of the `ms` library on the texts that the configuration accepts: it reads a
number, blanks and a unit, a number without unit as milliseconds, and nothing that is written
otherwise or has more than a hundred characters. -/
structure MsLibrary (ms : String → Option Nat) : Prop where
  reads : ∀ value digits blanks unit, Written value digits blanks unit →
    JsText.length value ≤ 100 → ms value = some (amount digits * UNIT_MS (unit.getD .ms))
  refuses : ∀ value, durationSchema value = true →
    (100 < JsText.length value ∨ ∀ digits blanks unit, ¬ Written value digits blanks unit) →
    ms value = none

/-- The seconds that a token signed with the text as `expiresIn` lives: its expiry is its issue
plus the time in whole seconds. `none`: signing throws. -/
def signedLifetime (ms : String → Option Nat) (expiresIn : String) : Option Nat :=
  (ms expiresIn).map fun millis => millis / 1000

/-- At most a hundred characters: digits and a unit with only blanks between them, or a zero
without unit. -/
def ReadAlike (value : String) : Prop :=
  JsText.length value ≤ 100 ∧ ∃ digits blanks unit, Written value digits blanks unit ∧
    (unit = none → amount digits = 0)

variable {value : String} {digits : List Char} {blanks : Nat} {unit : Option TimeUnit}

theorem unit_not_space (u : TimeUnit) : ∀ ch ∈ u.text.toList, JsText.isSpace ch = false := by
  have hall : (u.text.toList.all fun ch => !JsText.isSpace ch) = true := by cases u <;> rfl
  simpa using hall

/-- Trimming takes the blanks after a number without unit. -/
theorem trim_written (h : Written value digits blanks unit) :
    (JsText.trim value).toList =
      digits ++ (unit.map fun u => List.replicate blanks ' ' ++ u.text.toList).getD [] := by
  obtain ⟨hsome, hdigits, hvalue⟩ := h
  have hstart : ∀ rest, (digits ++ rest).dropWhile JsText.isSpace = digits ++ rest := by
    intro rest
    cases digits with
    | nil => exact absurd rfl hsome
    | cons ch digits =>
      exact JsText.dropWhile_space fun c hc => by
        cases hc
        exact JsText.not_space_of_digit (hdigits ch List.mem_cons_self)
  have hkept : digits.rdropWhile JsText.isSpace = digits :=
    Text.rdropWhile_of_all fun ch hch => JsText.not_space_of_digit (hdigits ch hch)
  have htrim : (JsText.trim value).toList = value.toList.rdropWhile JsText.isSpace := by
    have hdrop := hstart (List.replicate blanks ' ' ++ (unit.map fun u => u.text.toList).getD [])
    rw [← List.append_assoc, ← hvalue] at hdrop
    simp [JsText.trim, hdrop, List.rdropWhile]
  rw [htrim, hvalue]
  cases unit with
  | none =>
    have hblanks : (List.replicate blanks ' ').rdropWhile JsText.isSpace = [] := by
      rw [List.rdropWhile_eq_nil_iff]
      intro ch hch
      rw [(List.mem_replicate.mp hch).2]
      decide
    simp [Text.rdropWhile_append, hblanks, hkept]
  | some u =>
    have hunit : u.text.toList.rdropWhile JsText.isSpace = u.text.toList :=
      Text.rdropWhile_of_all (unit_not_space u)
    have hne : u.text.toList ≠ [] := by cases u <;> decide
    simp [Text.rdropWhile_append, hunit, hne]

theorem dropWhile_isDigit (hdigits : ∀ ch ∈ digits, ch.isDigit = true) (rest : List Char)
    (hhead : ∀ ch ∈ rest.head?, ch.isDigit = false) :
    (digits ++ rest).takeWhile Char.isDigit = digits ∧
      (digits ++ rest).dropWhile Char.isDigit = rest := by
  rw [List.takeWhile_append_of_pos hdigits, List.dropWhile_append_of_pos hdigits]
  cases rest with
  | nil => simp
  | cons ch rest => simp [hhead ch rfl]

theorem written_head (blanks : Nat) (u : TimeUnit) :
    ∀ ch ∈ (List.replicate blanks ' ' ++ u.text.toList).head?, ch.isDigit = false := by
  cases blanks with
  | zero =>
    have hall : (u.text.toList.head?.all fun ch => !ch.isDigit) = true := by cases u <;> rfl
    simpa [Option.all_eq_true] using hall
  | succ n => simp [List.replicate_succ]

theorem durationMatch_written (h : Written value digits blanks unit) :
    durationMatch (JsText.trim value) = some (digits, unit) := by
  have htrim := trim_written h
  obtain ⟨hsome, hdigits, -⟩ := h
  cases unit with
  | none =>
    obtain ⟨htake, hdrop⟩ := dropWhile_isDigit hdigits [] (by simp)
    simp only [Option.map_none, Option.getD_none] at htrim
    simp only [durationMatch, htrim, htake, hdrop, hsome, List.dropWhile_nil, if_false, if_true]
  | some u =>
    have hblanks : (List.replicate blanks ' ' ++ u.text.toList).dropWhile JsText.isSpace =
        u.text.toList := by
      have hall : ∀ ch ∈ List.replicate blanks ' ', JsText.isSpace ch = true := by
        intro ch hch
        rw [(List.mem_replicate.mp hch).2]
        decide
      rw [List.dropWhile_append_of_pos hall]
      cases u <;> decide
    obtain ⟨htake, hdrop⟩ := dropWhile_isDigit hdigits _ (written_head blanks u)
    simp only [Option.map_some, Option.getD_some] at htrim
    have hne : u.text.toList ≠ [] := by cases u <;> decide
    have hfind : (TimeUnit.values.find? fun unit => unit.text.toList = u.text.toList) = some u := by
      cases u <;> decide
    simp [durationMatch, htrim, htake, hdrop, hsome, hblanks, hne, hfind]

/-- A text that the library reads has the amount and the unit that the program reads. -/
theorem parseDurationMs_written (h : Written value digits blanks unit) :
    parseDurationMs value = .ok (amount digits * UNIT_MS (unit.getD .s)) := by
  rw [parseDurationMs, durationMatch_written h]

theorem durationSchema_of_parsed {millis : Nat} (h : parseDurationMs value = .ok millis) :
    durationSchema value = true := by
  unfold parseDurationMs at h
  unfold durationSchema
  cases hmatch : durationMatch (JsText.trim value) with
  | none =>
    rw [hmatch] at h
    cases h
  | some parsed => rfl

/-- The two readings give the same number of seconds exactly on the texts that are read alike. -/
theorem signedLifetime_iff {ms : String → Option Nat} (hms : MsLibrary ms) {millis : Nat}
    (hparse : parseDurationMs value = .ok millis) :
    signedLifetime ms value = some (millis / 1000) ↔ ReadAlike value := by
  have hread : ∀ digits blanks unit, Written value digits blanks unit →
      JsText.length value ≤ 100 →
      (signedLifetime ms value = some (millis / 1000) ↔ (unit = none → amount digits = 0)) := by
    intro digits blanks unit hwritten hlength
    have hmillis : millis = amount digits * UNIT_MS (unit.getD .s) :=
      Except.ok.inj (hparse.symm.trans (parseDurationMs_written hwritten))
    rw [signedLifetime, hms.reads value digits blanks unit hwritten hlength, hmillis]
    cases unit with
    | some u => simp
    | none =>
      simp only [Option.map_some, Option.getD_none, UNIT_MS, Option.some.injEq, true_implies]
      omega
  constructor
  · intro hlives
    by_contra hnot
    have hrefused : ms value = none := by
      refine hms.refuses value (durationSchema_of_parsed hparse) ?_
      by_cases hlong : 100 < JsText.length value
      · exact .inl hlong
      · refine .inr fun digits blanks unit hwritten => hnot ?_
        have hshort : JsText.length value ≤ 100 := by omega
        exact ⟨hshort, digits, blanks, unit, hwritten,
          (hread digits blanks unit hwritten hshort).mp hlives⟩
    rw [signedLifetime, hrefused] at hlives
    cases hlives
  · rintro ⟨hlength, digits, blanks, unit, hwritten, hzero⟩
    exact (hread digits blanks unit hwritten hlength).mpr hzero

theorem toOption_eq_some {x : Except AppError Nat} {n : Nat} (h : x.toOption = some n) :
    x = .ok n := by
  cases x with
  | error e => cases h
  | ok m =>
    cases h
    rfl

theorem getJwtConfig_parses {env : JwtEnvironment} {config : ParsedJwtConfig}
    (h : getJwtConfig env = some config) :
    (∃ millis, parseDurationMs config.accessExpiresIn = .ok millis ∧
      config.accessExpiresInSeconds = millis / 1000) ∧
    parseDurationMs config.refreshExpiresIn = .ok config.refreshExpiresInMs := by
  obtain ⟨accessSecret, -, h⟩ := Option.bind_eq_some_iff.mp h
  obtain ⟨refreshSecret, -, h⟩ := Option.bind_eq_some_iff.mp h
  dsimp only at h
  split at h
  · obtain ⟨accessMs, haccess, h⟩ := Option.bind_eq_some_iff.mp h
    obtain ⟨refreshMs, hrefresh, h⟩ := Option.bind_eq_some_iff.mp h
    cases h
    exact ⟨⟨accessMs, toOption_eq_some haccess, rfl⟩, toOption_eq_some hrefresh⟩
  · cases h

/-- A library that reads the texts of the grammar and no others. -/
def grammarMs (value : String) : Option Nat :=
  let digits := value.toList.takeWhile Char.isDigit
  let rest := (value.toList.dropWhile Char.isDigit).dropWhile fun ch => decide (ch = ' ')
  if 100 < JsText.length value ∨ digits = [] then none
  else if rest = [] then some (amount digits)
  else (TimeUnit.values.find? fun unit => unit.text.toList = rest).map fun unit =>
    amount digits * UNIT_MS unit

theorem unit_head (u : TimeUnit) (blanks : Nat) :
    (List.replicate blanks ' ' ++ u.text.toList).dropWhile (fun ch => decide (ch = ' ')) =
      u.text.toList := by
  have hall : ∀ ch ∈ List.replicate blanks ' ', decide (ch = ' ') = true := by
    intro ch hch
    simp [(List.mem_replicate.mp hch).2]
  rw [List.dropWhile_append_of_pos hall]
  cases u <;> decide

theorem grammarMs_library : MsLibrary grammarMs where
  reads value digits blanks unit hwritten hlength := by
    obtain ⟨hsome, hdigits, hvalue⟩ := hwritten
    have hshort : ¬ (100 < JsText.length value ∨ digits = []) := by
      rintro (hlong | hnone)
      · omega
      · exact hsome hnone
    cases unit with
    | none =>
      have hhead : ∀ ch ∈ (List.replicate blanks ' ').head?, ch.isDigit = false := by
        cases blanks <;> simp [List.replicate_succ]
      obtain ⟨htake, hdrop⟩ := dropWhile_isDigit hdigits _ hhead
      have hblanks : (List.replicate blanks ' ').dropWhile (fun ch => decide (ch = ' ')) = [] := by
        simp
      simp only [Option.map_none, Option.getD_none, List.append_nil] at hvalue
      simp only [grammarMs, hvalue, htake, hdrop, hblanks, if_neg hshort, if_true, UNIT_MS,
        Option.getD_none, Nat.mul_one]
    | some u =>
      obtain ⟨htake, hdrop⟩ := dropWhile_isDigit hdigits _ (written_head blanks u)
      have hne : u.text.toList ≠ [] := by cases u <;> decide
      have hfind : (TimeUnit.values.find? fun unit => unit.text.toList = u.text.toList) =
          some u := by cases u <;> decide
      simp only [Option.map_some, Option.getD_some, List.append_assoc] at hvalue
      simp only [grammarMs, hvalue, htake, hdrop, unit_head, if_neg hshort, if_neg hne, hfind,
        Option.map_some, Option.getD_some]
  refuses value _ hother := by
    by_contra hread
    have hshort : ¬ (100 < JsText.length value ∨ value.toList.takeWhile Char.isDigit = []) := by
      intro hlong
      exact hread (by simp only [grammarMs, if_pos hlong])
    have hvalue : value.toList = value.toList.takeWhile Char.isDigit ++
        (List.replicate ((value.toList.dropWhile Char.isDigit).takeWhile
          fun ch => decide (ch = ' ')).length ' ' ++
        (value.toList.dropWhile Char.isDigit).dropWhile fun ch => decide (ch = ' ')) := by
      have hblanks := List.eq_replicate_of_mem
        (l := (value.toList.dropWhile Char.isDigit).takeWhile fun ch => decide (ch = ' '))
        (a := ' ') fun ch hch => by simpa using List.mem_takeWhile_imp hch
      rw [← hblanks, List.takeWhile_append_dropWhile, List.takeWhile_append_dropWhile]
    have hwritten : ∀ unit : Option TimeUnit,
        ((value.toList.dropWhile Char.isDigit).dropWhile fun ch => decide (ch = ' ')) =
          (unit.map fun u => u.text.toList).getD [] →
        ∃ digits blanks unit, Written value digits blanks unit := by
      intro unit hunit
      rw [hunit, ← List.append_assoc] at hvalue
      exact ⟨_, _, unit, fun hnone => hshort (.inr hnone),
        fun ch hch => List.mem_takeWhile_imp hch, hvalue⟩
    have hsome : ∃ digits blanks unit, Written value digits blanks unit := by
      simp only [grammarMs, if_neg hshort] at hread
      split at hread
      · rename_i hrest
        exact hwritten none hrest
      · cases hfind : TimeUnit.values.find? fun unit => unit.text.toList =
            (value.toList.dropWhile Char.isDigit).dropWhile fun ch => decide (ch = ' ') with
        | none => simp [hfind] at hread
        | some u =>
          have hsame := List.find?_some hfind
          exact hwritten (some u) (by simpa using (of_decide_eq_true hsame).symm)
    rcases hother with hlong | hnot
    · exact hshort (.inl hlong)
    · obtain ⟨digits, blanks, unit, hform⟩ := hsome
      exact hnot digits blanks unit hform

/-- An environment with the given duration for access tokens. -/
def environmentWith (accessExpiresIn : Option String) : JwtEnvironment where
  JWT_ACCESS_SECRET := some "0123456789abcdef0123456789abcdef"
  JWT_REFRESH_SECRET := some "fedcba9876543210fedcba9876543210"
  JWT_ACCESS_EXPIRES_IN := accessExpiresIn
  JWT_REFRESH_EXPIRES_IN := none

def configWith (accessExpiresIn : String) (seconds : Nat) : ParsedJwtConfig where
  accessSecret := "0123456789abcdef0123456789abcdef"
  refreshSecret := "fedcba9876543210fedcba9876543210"
  accessExpiresIn := accessExpiresIn
  refreshExpiresIn := "30d"
  accessExpiresInSeconds := seconds
  refreshExpiresInMs := 2592000000

def lifetimeCrypto : TokenCrypto Unit Unit where
  signRefresh _ _ := ()
  verifyRefresh _ _ := .error .invalid
  signAccess _ _ := ()
  hash _ _ := ()
  verifyHash _ _ := false

end OmniSupport.Auth
