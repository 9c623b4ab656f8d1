import Mathlib.Data.List.AList
import OmniSupport.Foundation.Csv

/-! The CSV form of a report: what a reader of the format finds in it. -/
namespace OmniSupport.Report
open Foundation

/-- A value of a record: `text` is what `String` makes of one that is neither missing nor a date. -/
inductive CellValue where
  | null
  | undefined
  | date (isoString : String)
  | other (text : String)
  deriving DecidableEq

def CellValue.toText : CellValue → String
  | .null | .undefined => ""
  | .date isoString => isoString
  | .other text => text

/-- The entries of a record in the order of its keys. -/
abbrev Record := AList fun _ : String => CellValue

/-- `row[key]`. -/
def Record.value (row : Record) (key : String) : CellValue := (row.lookup key).getD .undefined

/-- `/^[=+\-@\t\r]/`. -/
def startsFormula (text : String) : Bool :=
  match text.toList with
  | [] => false
  | c :: _ => c ∈ ['=', '+', '-', '@', '\t', '\r']

/-- Leading formula characters are neutralised so spreadsheets do not execute them. -/
def safe (text : String) : String := if startsFormula text then "'" ++ text else text

def quote (value : CellValue) : String :=
  String.ofList ('"' :: ((safe value.toText).toList.flatMap
    (fun c => if c = '"' then ['"', '"'] else [c]) ++ ['"']))

def csvFields (record : Record) : List String := record.keys.filter fun field => field ≠ "id"

def toCsv : List Record → String
  | [] => ""
  | record :: records =>
    let fields := csvFields record
    "\r\n".intercalate (",".intercalate fields :: (record :: records).map fun row =>
      ",".intercalate (fields.map fun key => quote (row.value key)))

/-- The rows that a reader finds. -/
def parseCsv (text : String) : Option (List (List String)) :=
  (Csv.read text.toList).map fun rows => rows.map fun row => row.map String.ofList

variable {record : Record} {records : List Record} {key : String} {row : Record}

/-- A quote before a formula character is no formula character. -/
theorem safe_inert (text : String) : startsFormula (safe text) = false := by
  by_cases hformula : startsFormula text = true
  · have hquoted : safe text = "'" ++ text := if_pos hformula
    simp [hquoted, startsFormula]
  · simp [safe, hformula]

theorem quote_toList (value : CellValue) :
    (quote value).toList = Csv.quote (safe value.toText).toList := by
  simp [quote, Csv.quote, Csv.doubleQuotes]

theorem encodes_quote (value : CellValue) :
    Csv.Encodes (quote value).toList (safe value.toText).toList := by
  rw [quote_toList]
  exact .quoted _

/-- The header is a row of plain cells. -/
theorem encodes_header {fields : List String}
    (hplain : ∀ key ∈ fields, ∀ c ∈ key.toList, c ∉ Csv.separators) (hsome : fields ≠ []) :
    Csv.EncodesRow (",".intercalate fields).toList (fields.map String.toList) := by
  cases fields with
  | nil => exact absurd rfl hsome
  | cons first fields =>
    refine ⟨first.toList, fields.map String.toList, ?_, ?_⟩
    · simp [String.toList_intercalate]
    · rw [← List.map_cons, List.forall₂_same]
      intro cell hcell
      obtain ⟨key, hkey, rfl⟩ := List.mem_map.mp hcell
      exact .plain (hplain key hkey)

/-- A record is a row of quoted cells, and so no empty text. -/
theorem encodes_record {fields : List String} (hsome : fields ≠ []) (row : Record) :
    Csv.EncodesRow (",".intercalate (fields.map fun key => quote (row.value key))).toList
        (fields.map fun key => (safe (row.value key).toText).toList) ∧
      (",".intercalate (fields.map fun key => quote (row.value key))).toList ≠ [] := by
  cases fields with
  | nil => exact absurd rfl hsome
  | cons first fields =>
    constructor
    · refine ⟨(quote (row.value first)).toList,
        fields.map fun key => (quote (row.value key)).toList, ?_, ?_⟩
      · simp [String.toList_intercalate, Function.comp_def]
      · refine .cons (encodes_quote _) ?_
        rw [List.forall₂_map_left_iff, List.forall₂_map_right_iff, List.forall₂_same]
        intro key _
        exact encodes_quote _
    · rw [String.toList_intercalate]
      cases fields <;> simp [List.intercalate_cons_cons, quote_toList, Csv.quote]

theorem read_toCsv (hsome : csvFields record ≠ [])
    (hplain : ∀ key ∈ csvFields record, ∀ c ∈ key.toList, c ∉ Csv.separators) :
    Csv.read (toCsv (record :: records)).toList =
      some ((csvFields record).map String.toList :: (record :: records).map fun row =>
        (csvFields record).map fun key => (safe (row.value key).toText).toList) := by
  have hrows : List.Forall₂ (fun text row => Csv.EncodesRow text row ∧ text ≠ [])
      ((record :: records).map fun row =>
        (",".intercalate ((csvFields record).map fun key => quote (row.value key))).toList)
      ((record :: records).map fun row =>
        (csvFields record).map fun key => (safe (row.value key).toText).toList) := by
    rw [List.forall₂_map_left_iff, List.forall₂_map_right_iff, List.forall₂_same]
    intro row _
    exact encodes_record hsome row
  rw [← Csv.read_rows (encodes_header hplain hsome) hrows]
  simp [toCsv, String.toList_intercalate, Function.comp_def]

/-- A reader finds the keys other than `id`, and then a row for each record: its values as texts,
a quote before those that start with a formula character, so that no cell starts with one. -/
theorem parseCsv_toCsv (record : Record) (records : List Record)
    (hsame : ∀ row ∈ records, ∀ key, key ∈ row ↔ key ∈ record)
    (hfield : ∃ key ∈ record, key ≠ "id")
    (hplain : ∀ key ∈ record, ∀ c ∈ key.toList, c ∉ [',', '"', '\r', '\n']) :
    ∃ rows : List (List String),
      parseCsv (toCsv (record :: records)) = some (csvFields record :: rows) ∧
      rows = (record :: records).map (fun row => (csvFields record).map fun key =>
        let text := (row.value key).toText
        if startsFormula text then "'" ++ text else text) ∧
      (∀ row ∈ record :: records, ∀ key ∈ csvFields record,
        row.lookup key = some (row.value key)) ∧
      ∀ row ∈ rows, ∀ cell ∈ row, startsFormula cell = false := by
  have hsome : csvFields record ≠ [] := by
    obtain ⟨key, hkey, hid⟩ := hfield
    refine List.ne_nil_of_mem (a := key) ?_
    simpa [csvFields, hid] using AList.mem_keys.mp hkey
  have hkeys : ∀ key ∈ csvFields record, key ∈ record :=
    fun key hkey => AList.mem_keys.mpr (List.mem_of_mem_filter hkey)
  refine ⟨_, ?_, rfl, ?_, ?_⟩
  · rw [parseCsv, read_toCsv hsome fun key hkey => hplain key (hkeys key hkey)]
    simp [Function.comp_def, safe]
  · intro row hrow key hkey
    have hmem : key ∈ row := by
      rcases List.mem_cons.mp hrow with rfl | hrow
      · exact hkeys key hkey
      · exact (hsame row hrow key).mpr (hkeys key hkey)
    obtain ⟨value, hvalue⟩ := Option.isSome_iff_exists.mp (AList.lookup_isSome.mpr hmem)
    simp [Record.value, hvalue]
  · intro row hrow cell hcell
    obtain ⟨stored, _, rfl⟩ := List.mem_map.mp hrow
    obtain ⟨key, _, rfl⟩ := List.mem_map.mp hcell
    exact safe_inert _

def sampleRecord : Record :=
  [⟨"id", .other "t-1"⟩, ⟨"title", .other "=1+\"2\",\r\n3"⟩, ⟨"category", .null⟩].toAList

theorem parseCsv_toCsv_sample :
    ∃ rows : List (List String),
      parseCsv (toCsv [sampleRecord, sampleRecord]) = some (csvFields sampleRecord :: rows) ∧
      rows = [sampleRecord, sampleRecord].map (fun row => (csvFields sampleRecord).map fun key =>
        let text := (row.value key).toText
        if startsFormula text then "'" ++ text else text) ∧
      (∀ row ∈ [sampleRecord, sampleRecord], ∀ key ∈ csvFields sampleRecord,
        row.lookup key = some (row.value key)) ∧
      ∀ row ∈ rows, ∀ cell ∈ row, startsFormula cell = false := by
  have hkeys : sampleRecord.keys = ["id", "title", "category"] := by decide
  refine parseCsv_toCsv sampleRecord [sampleRecord] ?_ ?_ ?_
  · intro row hrow key
    rw [List.mem_singleton.mp hrow]
  · exact ⟨"title", AList.mem_keys.mpr (by rw [hkeys]; decide), by decide⟩
  · intro key hkey c hc
    have hplain : (["id", "title", "category"].all fun key =>
        key.toList.all fun c => c ∉ [',', '"', '\r', '\n']) = true := by decide
    rw [AList.mem_keys, hkeys] at hkey
    exact of_decide_eq_true (List.all_eq_true.mp (List.all_eq_true.mp hplain key hkey) c hc)

end OmniSupport.Report
