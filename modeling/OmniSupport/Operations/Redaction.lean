import Mathlib.Data.List.Infix
import OmniSupport.Foundation.JsonTree

/-! The redaction of stored payloads for operators. -/
namespace OmniSupport.Operations
open Foundation

/-- A value without parts. -/
inductive Scalar where
  | undefined
  | null
  | boolean (value : Bool)
  | number (literal : String)
  | string (text : String)
  | date (millis : Int)
  deriving DecidableEq

/-- A payload: a stored one has neither undefined values nor dates. -/
abbrev Payload := JsonTree Scalar

def REDACTED : Payload := .scalar (.string "[REDACTED]")

/-- A pattern of a key, without regard to case: its letters are in lower case. -/
structure KeyPattern where
  parts : List String
  ending : List String
  whole : List String

/-- `pattern.test(key)`. -/
def KeyPattern.test (pattern : KeyPattern) (key : String) : Bool :=
  let name := key.toList.map Char.toLower
  pattern.parts.any (fun part => decide (part.toList <:+: name)) ||
    pattern.ending.any (fun part => part.toList.isSuffixOf name) ||
    pattern.whole.any (fun part => part.toList = name)

def SENSITIVE_KEY : KeyPattern where
  parts := ["pass", "secret", "token", "authorization", "signature", "apikey", "api_key",
    "credential", "cookie", "email", "phone", "address", "body", "content", "description",
    "title", "message", "media", "ipaddress"]
  ending := ["name"]
  whole := ["auth", "from", "to", "waid", "ip"]

def SECRET_KEY : KeyPattern where
  parts := ["pass", "secret", "token", "authorization", "signature", "apikey", "api_key",
    "credential", "cookie"]
  ending := []
  whole := []

/-- `item !== null && item !== undefined`. -/
def isPresent : Payload → Bool
  | .scalar .null | .scalar .undefined => false
  | _ => true

mutual

def redact (pattern : KeyPattern) (depth : Nat) (value : Payload) : Payload :=
  if depth > 8 then REDACTED
  else match value with
    | .array items => .array (redactItems pattern (depth + 1) items)
    | .object entries => .object (redactEntries pattern (depth + 1) entries)
    | .scalar value => .scalar value

def redactItems (pattern : KeyPattern) (depth : Nat) : List Payload → List Payload
  | [] => []
  | item :: items => redact pattern depth item :: redactItems pattern depth items

def redactEntries (pattern : KeyPattern) (depth : Nat) :
    List (String × Payload) → List (String × Payload)
  | [] => []
  | (key, item) :: entries =>
    (key, if pattern.test key && isPresent item then REDACTED else redact pattern depth item) ::
      redactEntries pattern depth entries

end

def redactSensitive (value : Payload) : Payload := redact SENSITIVE_KEY 0 value

def redactSecrets (value : Payload) : Payload := redact SECRET_KEY 0 value

variable {pattern : KeyPattern} {depth : Nat} {value value' : Payload}

/-- The key matches, and there is something under it. -/
def Redacts (pattern : KeyPattern) (key : String) (item : Payload) : Prop :=
  pattern.test key = true ∧ isPresent item = true

theorem redact_deep (h : 8 < depth) : redact pattern depth value = REDACTED := by
  rw [redact.eq_def, if_pos h]

theorem redact_array {items : List Payload} (h : depth ≤ 8) :
    redact pattern depth (.array items) = .array (redactItems pattern (depth + 1) items) := by
  rw [redact, if_neg (by omega)]

theorem redact_object {entries : List (String × Payload)} (h : depth ≤ 8) :
    redact pattern depth (.object entries) =
      .object (redactEntries pattern (depth + 1) entries) := by
  rw [redact, if_neg (by omega)]

theorem redact_scalar {v : Scalar} (h : depth ≤ 8) :
    redact pattern depth (.scalar v) = .scalar v := by
  rw [redact, if_neg (by omega)]

theorem isPresent_alike (h : JsonTree.AlikeBut (Redacts pattern) value value') :
    isPresent value = isPresent value' := by
  cases h <;> rfl

mutual

/-- What differs is replaced, either under its key or because it lies too deep. -/
theorem redact_alike {value value' : Payload} :
    JsonTree.AlikeBut (Redacts pattern) value value' → ∀ depth,
      redact pattern depth value = redact pattern depth value'
  | .scalar _, _ => rfl
  | .array h, depth => by
    have hitems := redactItems_alike h (depth + 1)
    by_cases hdepth : depth ≤ 8
    · rw [redact_array hdepth, redact_array hdepth, hitems]
    · rw [redact_deep (by omega), redact_deep (by omega)]
  | .object h, depth => by
    have hentries := redactEntries_alike h (depth + 1)
    by_cases hdepth : depth ≤ 8
    · rw [redact_object hdepth, redact_object hdepth, hentries]
    · rw [redact_deep (by omega), redact_deep (by omega)]

theorem redactItems_alike {items items' : List Payload} :
    JsonTree.AlikeItems (Redacts pattern) items items' → ∀ depth,
      redactItems pattern depth items = redactItems pattern depth items'
  | .nil, _ => rfl
  | .cons h hs, depth => by
    rw [redactItems, redactItems, redact_alike h depth, redactItems_alike hs depth]

theorem redactEntries_alike {entries entries' : List (String × Payload)} :
    JsonTree.AlikeEntries (Redacts pattern) entries entries' → ∀ depth,
      redactEntries pattern depth entries = redactEntries pattern depth entries'
  | .nil, _ => rfl
  | .shown h hs, depth => by
    rw [redactEntries, redactEntries, redact_alike h depth, redactEntries_alike hs depth,
      isPresent_alike h]
  | .hidden h h' hs, depth => by
    rw [redactEntries, redactEntries, redactEntries_alike hs depth]
    simp [h.1, h.2, h'.2]

end

theorem redactItems_eq_map (items : List Payload) :
    redactItems pattern depth items = items.map (redact pattern depth) := by
  induction items with
  | nil => rfl
  | cons item items ih => rw [redactItems, ih, List.map_cons]

theorem redactEntries_keys (entries : List (String × Payload)) :
    (redactEntries pattern depth entries).map Prod.fst = entries.map Prod.fst := by
  induction entries with
  | nil => rfl
  | cons entry entries ih => rw [redactEntries, List.map_cons, ih, List.map_cons]

/-- Under a key that does not match the value is redacted in turn. -/
theorem redactEntries_lookup {key : String} (hkey : pattern.test key = false)
    (entries : List (String × Payload)) :
    (redactEntries pattern depth entries).lookup key =
      (entries.lookup key).map (redact pattern depth) := by
  induction entries with
  | nil => rfl
  | cons entry entries ih =>
    obtain ⟨name, item⟩ := entry
    by_cases hsame : key = name
    · subst hsame
      simp [redactEntries, hkey]
    · have hne : (key == name) = false := by simpa using hsame
      rw [redactEntries, List.lookup_cons, hne, List.lookup_cons, hne, ih]

/-- At a position down to the depth, reached through no key that matches, the redacted value has
what is there, redacted from the depth of the position on. -/
theorem redact_at (depth : Nat) {path : List JsonTree.Step} {found : Payload}
    (hfound : value.at? path = some found) (hdepth : depth + path.length ≤ 8)
    (hnames : ∀ key ∈ JsonTree.names path, pattern.test key = false) :
    (redact pattern depth value).at? path =
      some (redact pattern (depth + path.length) found) := by
  induction path generalizing value depth with
  | nil =>
    cases hfound
    rfl
  | cons step path ih =>
    rw [List.length_cons] at hdepth
    have hnext : depth + 1 + path.length = depth + (step :: path).length := by
      rw [List.length_cons]
      omega
    cases step with
    | item index =>
      cases value with
      | array items =>
        obtain ⟨item, hitem, hrest⟩ := Option.bind_eq_some_iff.mp hfound
        have hread := ih (depth + 1) hrest (by omega) hnames
        simp only [redact_array (show depth ≤ 8 by omega), JsonTree.at?, redactItems_eq_map,
          List.getElem?_map, hitem, Option.map_some, Option.bind_some]
        rw [hread, hnext]
      | scalar | object => cases hfound
    | key name =>
      cases value with
      | object entries =>
        obtain ⟨item, hitem, hrest⟩ := Option.bind_eq_some_iff.mp hfound
        have hname : pattern.test name = false := hnames name List.mem_cons_self
        have hread := ih (depth + 1) hrest (by omega)
          fun key hkey => hnames key (List.mem_cons_of_mem name hkey)
        simp only [redact_object (show depth ≤ 8 by omega), JsonTree.at?,
          redactEntries_lookup hname, hitem, Option.map_some, Option.bind_some]
        rw [hread, hnext]
      | scalar | array => cases hfound

/-- Values that differ only under keys that match are redacted alike, and down to the depth of
eight a scalar that no such key leads to stays where it is, among as many items and under the
same keys. -/
theorem redactSensitive_reveals :
    (∀ value value' : Payload,
      JsonTree.AlikeBut (fun key item => SENSITIVE_KEY.test key = true ∧ isPresent item = true)
        value value' → redactSensitive value = redactSensitive value') ∧
    ∀ (value : Payload) (path : List JsonTree.Step), path.length ≤ 8 →
      (∀ key ∈ JsonTree.names path, SENSITIVE_KEY.test key = false) →
      (∀ v, value.at? path = some (.scalar v) →
        (redactSensitive value).at? path = some (.scalar v)) ∧
      (∀ items, value.at? path = some (.array items) →
        ∃ items', (redactSensitive value).at? path = some (.array items') ∧
          items'.length = items.length) ∧
      ∀ entries, value.at? path = some (.object entries) →
        ∃ entries', (redactSensitive value).at? path = some (.object entries') ∧
          entries'.map Prod.fst = entries.map Prod.fst := by
  refine ⟨fun value value' h => redact_alike h 0, ?_⟩
  intro value path hlength hnames
  have hread : ∀ found, value.at? path = some found →
      (redactSensitive value).at? path = some (redact SENSITIVE_KEY path.length found) := by
    intro found hfound
    have h := redact_at 0 hfound (by omega) hnames
    rwa [Nat.zero_add] at h
  refine ⟨?_, ?_, ?_⟩
  · intro v hv
    rw [hread _ hv, redact_scalar hlength]
  · intro items hitems
    rw [hread _ hitems, redact_array hlength]
    exact ⟨_, rfl, by simp [redactItems_eq_map]⟩
  · intro entries hentries
    rw [hread _ hentries, redact_object hlength]
    exact ⟨_, rfl, redactEntries_keys entries⟩

def samplePayload (email : String) : Payload :=
  .object [("id", .scalar (.string "u-1")),
    ("users", .array [.object [("email", .scalar (.string email))]])]

theorem redactSensitive_reveals_sample :
    redactSensitive (samplePayload "a@b.c") = redactSensitive (samplePayload "d@e.f") ∧
      (redactSensitive (samplePayload "a@b.c")).at? [.key "id"] =
        some (.scalar (.string "u-1")) := by
  constructor
  · have hidden : SENSITIVE_KEY.test "email" = true := by decide
    exact redactSensitive_reveals.1 _ _ (.object (.shown (.scalar _) (.shown
      (.array (.cons (.object (.hidden ⟨hidden, rfl⟩ ⟨hidden, rfl⟩ .nil)) .nil)) .nil)))
  · exact (redactSensitive_reveals.2 _ [.key "id"] (by decide) (by decide)).1 _ rfl

end OmniSupport.Operations
