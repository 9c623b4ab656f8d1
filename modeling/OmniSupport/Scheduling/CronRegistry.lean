import OmniSupport.Foundation.Table
import OmniSupport.Shared.Base
import OmniSupport.Shared.JsText

/-! The jobs of the scheduler and the minutes that their cron expressions match. -/
namespace OmniSupport.Scheduling
open Foundation

/-- A number of the language, without its rounding. -/
inductive JsNumber where
  | nan
  | infinite (negative : Bool)
  | finite (value : Rat)
  deriving DecidableEq

namespace JsNumber

def digit (ch : Char) : Option Nat :=
  if ch.isDigit then some (ch.toNat - '0'.toNat)
  else if 'a' ≤ ch ∧ ch ≤ 'z' then some (ch.toNat - 'a'.toNat + 10)
  else if 'A' ≤ ch ∧ ch ≤ 'Z' then some (ch.toNat - 'A'.toNat + 10)
  else none

/-- The digits of a base, at least one. -/
def digits (base : Nat) : List Char → Option Nat
  | [] => none
  | text => text.foldlM (fun n ch => (digit ch).bind fun d =>
      if d < base then some (n * base + d) else none) 0

/-- What follows the digits: nothing, or an exponent. -/
def exponent : List Char → Option Int
  | [] => some 0
  | 'e' :: rest | 'E' :: rest =>
    match rest with
    | '+' :: power => (digits 10 power).map Int.ofNat
    | '-' :: power => (digits 10 power).map fun n => -Int.ofNat n
    | power => (digits 10 power).map Int.ofNat
  | _ => none

def decimal (text : List Char) : JsNumber :=
  let whole := text.takeWhile Char.isDigit
  let (fraction, rest) := match text.dropWhile Char.isDigit with
    | '.' :: more => (more.takeWhile Char.isDigit, more.dropWhile Char.isDigit)
    | rest => ([], rest)
  match digits 10 (whole ++ fraction), exponent rest with
  | some n, some power => .finite ((n : Rat) * (10 : Rat) ^ (power - fraction.length))
  | _, _ => if text = "Infinity".toList then .infinite false else .nan

def negate : JsNumber → JsNumber
  | .nan => .nan
  | .infinite negative => .infinite (!negative)
  | .finite value => .finite (-value)

/-- `Number(text)`. -/
def parse (text : String) : JsNumber :=
  match (JsText.trim text).toList with
  | [] => .finite 0
  | '0' :: 'x' :: rest | '0' :: 'X' :: rest => (digits 16 rest).elim .nan fun n => .finite n
  | '0' :: 'o' :: rest | '0' :: 'O' :: rest => (digits 8 rest).elim .nan fun n => .finite n
  | '0' :: 'b' :: rest | '0' :: 'B' :: rest => (digits 2 rest).elim .nan fun n => .finite n
  | '+' :: rest => decimal rest
  | '-' :: rest => (decimal rest).negate
  | text => decimal text

def le (m n : JsNumber) : Bool :=
  match m, n with
  | .nan, _ | _, .nan => false
  | .infinite true, _ | _, .infinite false => true
  | .finite x, .finite y => x ≤ y
  | _, _ => false

/-- `0 < n && value % n === 0`, of a value that is not negative. -/
def dividesEvenly (n : JsNumber) (value : Nat) : Bool :=
  match n with
  | .nan | .infinite true => false
  | .infinite false => value = 0
  | .finite step => 0 < step && ((value : Rat) / step).den = 1

end JsNumber

structure CronJobDefinition where
  name : String
  cronExpression : String
  lockKey : Option String := none
  deriving DecidableEq

/-- `split` at one character. -/
def splitAt (mark : Char) (text : String) : List String :=
  (text.toList.splitOn mark).map String.ofList

/-- `text.trim().split(/\s+/)`. -/
def splitSpaces (text : String) : List String :=
  (((JsText.replaceRuns JsText.isSpace ' ' false (JsText.trim text).toList).splitOn ' ').map
    String.ofList)

/-- Jobs are kept under their names. -/
structure CronRegistry where
  jobs : List CronJobDefinition
  names : (jobs.map CronJobDefinition.name).Nodup

namespace CronRegistry

def getUTCMinutes (date : Time) : Nat := date / 60000 % 60

def getUTCHours (date : Time) : Nat := date / 3600000 % 24

def days (date : Time) : Nat := date / 86400000

/-- The sixth day of the week is the first of January 1970 plus two. -/
def getUTCDay (date : Time) : Nat := (days date + 4) % 7

/-- The day of a year that begins in March, in the 400 years that repeat. -/
def dayOfMarchYear (date : Time) : Nat :=
  let day := (days date + 719468) % 146097
  let year := (day - day / 1460 + day / 36524 - day / 146096) / 365
  day - (365 * year + year / 4 - year / 100)

def marchMonth (date : Time) : Nat := (5 * dayOfMarchYear date + 2) / 153

/-- From 1. -/
def getUTCDate (date : Time) : Nat := dayOfMarchYear date - (153 * marchMonth date + 2) / 5 + 1

/-- From 0. -/
def getUTCMonth (date : Time) : Nat := (marchMonth date + 2) % 12

/-- `matchesField` of a field that is no list. -/
def matchesPart (value : Nat) (field : String) (min max : Nat) : Bool :=
  if field = "*" then true
  else if field.startsWith "*/" then
    (JsNumber.parse (String.ofList (field.toList.drop 2))).dividesEvenly (value - min)
  else if '-' ∈ field.toList then
    match splitAt '-' field with
    | first :: last :: _ =>
      (JsNumber.parse first).le (.finite value) && (JsNumber.finite value).le (JsNumber.parse last)
    | _ => false
  else
    min ≤ value && value ≤ max && JsNumber.parse field = .finite value

def matchesField (value : Nat) (field : String) (min max : Nat) : Bool :=
  if field = "*" ∨ field.startsWith "*/" then matchesPart value field min max
  else
    let parts := splitAt ',' field
    if 1 < parts.length then parts.any fun part => matchesPart value part min max
    else matchesPart value field min max

/-- A field that the expression lacks throws, if it is looked at. -/
def matchesCronExpression (expression : String) (date : Time) : Option Bool :=
  let fields := splitSpaces expression
  let matches_ (value index min max : Nat) : Option Bool :=
    fields[index]?.map fun field => matchesField value field min max
  do
    if ← matches_ (getUTCMinutes date) 0 0 59 then
      if ← matches_ (getUTCHours date) 1 0 23 then
        if ← matches_ (getUTCDate date) 2 1 31 then
          if ← matches_ (getUTCMonth date + 1) 3 1 12 then
            matches_ (getUTCDay date) 4 0 6
          else return false
        else return false
      else return false
    else return false

/-- A job replaces the one of its name where that stands. -/
def register (registry : CronRegistry) (job : CronJobDefinition) : CronRegistry :=
  if h : ∃ other ∈ registry.jobs, other.name = job.name then
    { jobs := Table.updateMany (fun other => other.name = job.name) (fun _ => job) registry.jobs
      names := by
        have hsame : (Table.updateMany (fun other => other.name = job.name) (fun _ => job)
            registry.jobs).map CronJobDefinition.name =
              registry.jobs.map CronJobDefinition.name := by
          rw [Table.updateMany, List.map_map]
          refine List.map_congr_left fun other _ => ?_
          by_cases hname : other.name = job.name <;> simp [hname]
        rw [hsame]
        exact registry.names }
  else
    { jobs := registry.jobs ++ [job]
      names := Table.nodup_insert registry.names fun other hother hname => h ⟨other, hother, hname⟩ }

def dueAmong (date : Time) : List CronJobDefinition → Option (List CronJobDefinition)
  | [] => some []
  | job :: rest => do
    let due ← matchesCronExpression job.cronExpression date
    let later ← dueAmong date rest
    return if due then job :: later else later

/-- The jobs that are due, unless an expression throws. -/
def getDueJobs (registry : CronRegistry) (date : Time) : Option (List CronJobDefinition) :=
  dueAmong date registry.jobs

/-- Jobs of one name are one job. -/
theorem eq_of_name {registry : CronRegistry} {job job' : CronJobDefinition}
    (hjob : job ∈ registry.jobs) (hjob' : job' ∈ registry.jobs) (hname : job.name = job'.name) :
    job = job' :=
  List.inj_on_of_nodup_map registry.names hjob hjob' hname

theorem dueAmong_cons {date : Time} {job : CronJobDefinition} {rest due : List CronJobDefinition}
    (h : dueAmong date (job :: rest) = some due) :
    ∃ later, dueAmong date rest = some later ∧ (due = job :: later ∨ due = later) := by
  simp only [dueAmong, Option.bind_eq_bind, Option.bind_eq_some_iff] at h
  obtain ⟨isDue, -, later, hlater, he⟩ := h
  refine ⟨later, hlater, ?_⟩
  cases isDue <;> cases he
  · exact .inr rfl
  · exact .inl rfl

theorem dueAmong_sublist {date : Time} {jobs due : List CronJobDefinition}
    (h : dueAmong date jobs = some due) : due.Sublist jobs := by
  induction jobs generalizing due with
  | nil =>
    cases h
    exact List.Sublist.refl _
  | cons job rest ih =>
    obtain ⟨later, hlater, rfl | rfl⟩ := dueAmong_cons h
    · exact (ih hlater).cons_cons job
    · exact (ih hlater).cons job

theorem mem_of_getDueJobs {registry : CronRegistry} {date : Time} {due : List CronJobDefinition}
    {job : CronJobDefinition} (h : registry.getDueJobs date = some due) (hjob : job ∈ due) :
    job ∈ registry.jobs :=
  (dueAmong_sublist h).subset hjob

theorem getDueJobs_names {registry : CronRegistry} {date : Time} {due : List CronJobDefinition}
    (h : registry.getDueJobs date = some due) : (due.map CronJobDefinition.name).Nodup :=
  registry.names.sublist ((dueAmong_sublist h).map _)

/-- The job is due in the minute, and no expression throws. -/
def DueIn (registry : CronRegistry) (minute : Nat) (job : CronJobDefinition) : Prop :=
  ∃ due, registry.getDueJobs (minute * 60000) = some due ∧ job ∈ due

theorem exists_matches {expression : String} (h : 5 ≤ (splitSpaces expression).length)
    (date : Time) : ∃ isDue, matchesCronExpression expression date = some isDue := by
  have hfield : ∀ index value min max, index < 5 → ∃ matched,
      ((splitSpaces expression)[index]?.map fun field => matchesField value field min max) =
        some matched := by
    intro index value min max hindex
    rw [List.getElem?_eq_getElem (hindex.trans_le h)]
    exact ⟨_, rfl⟩
  obtain ⟨inMinute, hminute⟩ := hfield 0 (getUTCMinutes date) 0 59 (by omega)
  obtain ⟨inHour, hhour⟩ := hfield 1 (getUTCHours date) 0 23 (by omega)
  obtain ⟨inDate, hdate⟩ := hfield 2 (getUTCDate date) 1 31 (by omega)
  obtain ⟨inMonth, hmonth⟩ := hfield 3 (getUTCMonth date + 1) 1 12 (by omega)
  obtain ⟨inDay, hday⟩ := hfield 4 (getUTCDay date) 0 6 (by omega)
  simp only [matchesCronExpression, hminute, hhour, hdate, hmonth, hday]
  cases inMinute <;> cases inHour <;> cases inDate <;> cases inMonth <;> exact ⟨_, rfl⟩

theorem dueAmong_of_fields {jobs : List CronJobDefinition} (date : Time)
    (h : ∀ job ∈ jobs, 5 ≤ (splitSpaces job.cronExpression).length) :
    ∃ due, dueAmong date jobs = some due ∧
      ∀ job, job ∈ due ↔ job ∈ jobs ∧ matchesCronExpression job.cronExpression date = some true := by
  induction jobs with
  | nil => exact ⟨[], rfl, by simp⟩
  | cons job rest ih =>
    obtain ⟨later, hlater, hmem⟩ := ih fun job hjob => h job (List.mem_cons_of_mem _ hjob)
    obtain ⟨isDue, hdue⟩ := exists_matches (h job List.mem_cons_self) date
    refine ⟨if isDue then job :: later else later, ?_, fun other => ?_⟩
    · simp only [dueAmong, hdue, hlater, Option.bind_eq_bind, Option.bind_some]
      rfl
    · cases isDue with
      | true =>
        simp only [if_true, List.mem_cons, hmem]
        constructor
        · rintro (rfl | ⟨hrest, hmatch⟩)
          · exact ⟨.inl rfl, hdue⟩
          · exact ⟨.inr hrest, hmatch⟩
        · rintro ⟨rfl | hrest, hmatch⟩
          · exact .inl rfl
          · exact .inr ⟨hrest, hmatch⟩
      | false =>
        simp only [Bool.false_eq_true, if_false, List.mem_cons, hmem]
        constructor
        · exact fun ⟨hrest, hmatch⟩ => ⟨.inr hrest, hmatch⟩
        · rintro ⟨rfl | hrest, hmatch⟩
          · rw [hdue] at hmatch
            cases hmatch
          · exact ⟨hrest, hmatch⟩

/-- When all expressions have their five fields, due are the jobs whose expression matches. -/
theorem dueIn_iff {registry : CronRegistry} {minute : Nat} {job : CronJobDefinition}
    (h : ∀ job ∈ registry.jobs, 5 ≤ (splitSpaces job.cronExpression).length) :
    registry.DueIn minute job ↔ job ∈ registry.jobs ∧
      matchesCronExpression job.cronExpression (minute * 60000) = some true := by
  obtain ⟨due, hdue, hmem⟩ := dueAmong_of_fields (minute * 60000) h
  constructor
  · rintro ⟨due', hdue', hjob⟩
    have hsame : due' = due := Option.some.inj (hdue'.symm.trans hdue)
    exact (hmem job).mp (hsame ▸ hjob)
  · exact fun hjob => ⟨due, hdue, (hmem job).mpr hjob⟩

/-- What is due within a minute is due throughout it. -/
theorem getDueJobs_minute (registry : CronRegistry) (date : Time) :
    registry.getDueJobs date = registry.getDueJobs (date / 60000 * 60000) := by
  have hminutes : getUTCMinutes (date / 60000 * 60000) = getUTCMinutes date := by
    unfold getUTCMinutes
    omega
  have hhours : getUTCHours (date / 60000 * 60000) = getUTCHours date := by
    unfold getUTCHours
    omega
  have hdays : days (date / 60000 * 60000) = days date := by
    unfold days
    omega
  have hyear : dayOfMarchYear (date / 60000 * 60000) = dayOfMarchYear date := by
    simp only [dayOfMarchYear, hdays]
  have hmonth : marchMonth (date / 60000 * 60000) = marchMonth date := by
    simp only [marchMonth, hyear]
  have hmatches : ∀ expression, matchesCronExpression expression (date / 60000 * 60000) =
      matchesCronExpression expression date := by
    intro expression
    simp only [matchesCronExpression, hminutes, hhours, getUTCDate, getUTCMonth, getUTCDay, hdays,
      hyear, hmonth]
  have hdue : ∀ jobs, dueAmong (date / 60000 * 60000) jobs = dueAmong date jobs := by
    intro jobs
    induction jobs with
    | nil => rfl
    | cons job rest ih => simp only [dueAmong, hmatches, ih]
  exact (hdue registry.jobs).symm

end CronRegistry
end OmniSupport.Scheduling
