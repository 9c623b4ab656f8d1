import Mathlib.Data.List.Basic
import Mathlib.Tactic.Common

/-! Texts with some characters written as the escaped bytes of their UTF-8 form, and the reader
that takes the text back. -/
namespace Foundation.Percent

def hexDigit (n : Nat) : Char := Nat.digitChar n

def upperHexDigit (n : Nat) : Char := (Nat.digitChar n).toUpper

/-- Both cases are read. -/
def hexValue (ch : Char) : Option Nat :=
  if '0' ≤ ch ∧ ch ≤ '9' then some (ch.toNat - '0'.toNat)
  else if 'a' ≤ ch ∧ ch ≤ 'f' then some (ch.toNat - 'a'.toNat + 10)
  else if 'A' ≤ ch ∧ ch ≤ 'F' then some (ch.toNat - 'A'.toNat + 10)
  else none

/-- Two digits for each byte. -/
def hex (bytes : List UInt8) : List Char :=
  bytes.flatMap fun b => [hexDigit (b.toNat / 16), hexDigit (b.toNat % 16)]

def escapeByte (b : UInt8) : List Char :=
  ['%', upperHexDigit (b.toNat / 16), upperHexDigit (b.toNat % 16)]

def escapeChar (ch : Char) : List Char := (String.utf8EncodeChar ch).flatMap escapeByte

/-- The characters that are not plain are escaped. -/
def encode (plain : Char → Bool) (text : List Char) : List Char :=
  text.flatMap fun ch => if plain ch then [ch] else escapeChar ch

/-- The characters that stand for themselves and the bytes that are escaped. -/
def scan : List Char → Option (List (Char ⊕ UInt8))
  | [] => some []
  | '%' :: high :: low :: rest => do
    let h ← hexValue high
    let l ← hexValue low
    let units ← scan rest
    return .inr (UInt8.ofNat (16 * h + l)) :: units
  | ch :: rest => if ch = '%' then none else (scan rest).map (.inl ch :: ·)

/-- A character is complete as soon as the bytes since the last one decode. -/
def assemble (pending : List UInt8) : List (Char ⊕ UInt8) → Option (List Char)
  | [] => if pending = [] then some [] else none
  | .inl ch :: rest => if pending = [] then (assemble [] rest).map (ch :: ·) else none
  | .inr b :: rest =>
    match (pending ++ [b]).toByteArray.utf8DecodeChar? 0 with
    | some ch => (assemble [] rest).map (ch :: ·)
    | none => if pending.length < 3 then assemble (pending ++ [b]) rest else none

def decode (text : List Char) : Option (List Char) := (scan text).bind (assemble [])

section hex

theorem hexDigit_injective {m n : Nat} (hm : m < 16) (hn : n < 16) (h : hexDigit m = hexDigit n) :
    m = n := by
  have hall : ∀ m < 16, ∀ n < 16, hexDigit m = hexDigit n → m = n := by decide
  exact hall m hm n hn h

theorem hexValue_upperHexDigit {n : Nat} (hn : n < 16) : hexValue (upperHexDigit n) = some n := by
  have hall : ∀ n < 16, hexValue (upperHexDigit n) = some n := by decide
  exact hall n hn

theorem hex_injective {a b : List UInt8} (h : hex a = hex b) : a = b := by
  induction a generalizing b with
  | nil =>
    cases b with
    | nil => rfl
    | cons y b => simp [hex] at h
  | cons x a ih =>
    cases b with
    | nil => simp [hex] at h
    | cons y b =>
      simp only [hex, List.flatMap_cons, List.cons_append, List.nil_append,
        List.cons.injEq] at h
      obtain ⟨hhigh, hlow, hrest⟩ := h
      have hx : x.toNat < 256 := x.toNat_lt
      have hy : y.toNat < 256 := y.toNat_lt
      have hdiv := hexDigit_injective (by omega) (by omega) hhigh
      have hmod := hexDigit_injective (by omega) (by omega) hlow
      have hbyte : x = y := UInt8.toNat_inj.mp (by omega)
      rw [hbyte, ih hrest]

theorem isDigit_or_lower_of_mem_hex {bytes : List UInt8} {ch : Char} (h : ch ∈ hex bytes) :
    ∃ n < 16, ch = hexDigit n := by
  obtain ⟨b, -, hb⟩ := List.mem_flatMap.mp h
  have hlt : b.toNat < 256 := b.toNat_lt
  simp only [List.mem_cons, List.not_mem_nil, or_false] at hb
  rcases hb with rfl | rfl
  · exact ⟨_, by omega, rfl⟩
  · exact ⟨_, by omega, rfl⟩

end hex

section reader
variable {plain : Char → Bool} {ch : Char} {rest text : List Char}

theorem scan_escapeByte (b : UInt8) :
    scan (escapeByte b ++ rest) = (scan rest).map (.inr b :: ·) := by
  have hb : b.toNat < 256 := b.toNat_lt
  have hbyte : UInt8.ofNat (16 * (b.toNat / 16) + b.toNat % 16) = b := by
    rw [Nat.div_add_mod, UInt8.ofNat_toNat]
  simp only [escapeByte, List.cons_append, List.nil_append, scan,
    hexValue_upperHexDigit (show b.toNat / 16 < 16 by omega),
    hexValue_upperHexDigit (show b.toNat % 16 < 16 by omega), Option.bind_eq_bind,
    Option.bind_some, hbyte]
  cases scan rest <;> rfl

theorem scan_plain (h : ch ≠ '%') : scan (ch :: rest) = (scan rest).map (.inl ch :: ·) := by
  rw [scan]
  · rw [if_neg h]
  · intro high low rest' hch
    exact absurd hch h

theorem scan_escapeBytes (bytes : List UInt8) :
    scan (bytes.flatMap escapeByte ++ rest) = (scan rest).map (bytes.map .inr ++ ·) := by
  induction bytes with
  | nil => simp
  | cons b bytes ih =>
    rw [List.flatMap_cons, List.append_assoc, scan_escapeByte, ih, Option.map_map]
    rfl

/-- The bytes of a character decode only all together. -/
theorem decodeChar_of_append {bytes later : List UInt8}
    (h : String.utf8EncodeChar ch = bytes ++ later) :
    bytes.toByteArray.utf8DecodeChar? 0 = if later = [] then some ch else none := by
  have hwhole := ByteArray.utf8DecodeChar?_utf8EncodeChar_append (b := .empty) (c := ch)
  rw [ByteArray.append_empty, h, List.toByteArray_append] at hwhole
  split
  · rename_i hlast
    simpa [hlast] using hwhole
  · rename_i hlater
    cases hread : bytes.toByteArray.utf8DecodeChar? 0 with
    | none => rfl
    | some found =>
      have happended := ByteArray.utf8DecodeChar?_append_eq_some hread later.toByteArray
      rw [hwhole] at happended
      obtain rfl := Option.some.inj happended
      have hsize := ByteArray.le_size_of_utf8DecodeChar?_eq_some hread
      have hlength : bytes.length + later.length = ch.utf8Size := by
        rw [← String.length_utf8EncodeChar, h, List.length_append]
      have hpos := List.length_pos_of_ne_nil hlater
      rw [List.size_toByteArray] at hsize
      omega

theorem assemble_bytes {units : List (Char ⊕ UInt8)} (later : List UInt8) :
    ∀ pending, later ≠ [] → String.utf8EncodeChar ch = pending ++ later →
      assemble pending (later.map .inr ++ units) = (assemble [] units).map (ch :: ·) := by
  induction later with
  | nil => exact fun _ hne => absurd rfl hne
  | cons b later ih =>
    intro pending _ hbytes
    have hnext : String.utf8EncodeChar ch = (pending ++ [b]) ++ later := by simpa using hbytes
    rw [List.map_cons, List.cons_append, assemble, decodeChar_of_append hnext]
    cases later with
    | nil => rfl
    | cons c later =>
      have hlength := congrArg List.length hnext
      simp only [String.length_utf8EncodeChar, List.length_append, List.length_cons,
        List.length_nil] at hlength
      have hfour := ch.utf8Size_le_four
      rw [if_neg (List.cons_ne_nil c later)]
      have hshort : pending.length < 3 := by omega
      simp only [if_pos hshort]
      exact ih (pending ++ [b]) (List.cons_ne_nil c later) hnext

theorem scan_encode (hplain : plain '%' = false) :
    scan (encode plain text) = some (text.flatMap fun ch =>
      if plain ch then [.inl ch] else (String.utf8EncodeChar ch).map .inr) := by
  induction text with
  | nil => rfl
  | cons ch text ih =>
    have hcons : encode plain (ch :: text) =
        (if plain ch then [ch] else escapeChar ch) ++ encode plain text := rfl
    rw [hcons, List.flatMap_cons]
    cases hch : plain ch with
    | true =>
      have hne : ch ≠ '%' := by
        rintro rfl
        rw [hplain] at hch
        cases hch
      rw [if_pos rfl, if_pos rfl, List.singleton_append, scan_plain hne, ih]
      rfl
    | false =>
      rw [if_neg (by simp), if_neg (by simp), escapeChar, scan_escapeBytes, ih]
      rfl

/-- What is encoded is read back, whatever else is plain but the mark. -/
theorem decode_encode (hplain : plain '%' = false) : decode (encode plain text) = some text := by
  rw [decode, scan_encode hplain, Option.bind_some]
  induction text with
  | nil => rfl
  | cons ch text ih =>
    rw [List.flatMap_cons]
    cases plain ch with
    | true =>
      rw [if_pos rfl, List.singleton_append, assemble, if_pos rfl, ih]
      rfl
    | false =>
      rw [if_neg (by simp), assemble_bytes _ [] String.utf8EncodeChar_ne_nil rfl, ih]
      rfl

theorem mem_encode (h : ch ∈ encode plain text) :
    plain ch = true ∨ ch = '%' ∨ ∃ n < 16, ch = upperHexDigit n := by
  obtain ⟨c, -, hc⟩ := List.mem_flatMap.mp h
  split at hc
  · rename_i hplain
    rw [List.mem_singleton.mp hc]
    exact .inl hplain
  · obtain ⟨b, -, hb⟩ := List.mem_flatMap.mp hc
    have hlt : b.toNat < 256 := b.toNat_lt
    simp only [escapeByte, List.mem_cons, List.not_mem_nil, or_false] at hb
    rcases hb with rfl | rfl | rfl
    · exact .inr (.inl rfl)
    · exact .inr (.inr ⟨_, by omega, rfl⟩)
    · exact .inr (.inr ⟨_, by omega, rfl⟩)

end reader

end Foundation.Percent
