import Mathlib.Tactic.Common

/-! String operations of the language as far as the model uses them. -/
namespace OmniSupport.JsText

/-- The characters `trim` removes and `\s` matches. -/
def isSpace (ch : Char) : Bool :=
  ch.toNat ∈ [0x09, 0x0a, 0x0b, 0x0c, 0x0d, 0x20, 0xa0, 0x1680, 0x2028, 0x2029, 0x202f, 0x205f,
    0x3000, 0xfeff] || (0x2000 ≤ ch.toNat && ch.toNat ≤ 0x200a)

def trim (s : String) : String :=
  String.ofList ((s.toList.dropWhile isSpace).reverse.dropWhile isSpace).reverse

/-- `toUpperCase`, exact on every text whose upper-case form is ASCII: beside `a` to `z`
the dotless i, the long s, the sharp s and the Latin ligatures have ASCII capitals. -/
def upperChar (ch : Char) : List Char :=
  match ch.toNat with
  | 0x131 => ['I']
  | 0x17f => ['S']
  | 0xdf => ['S', 'S']
  | 0xfb00 => ['F', 'F']
  | 0xfb01 => ['F', 'I']
  | 0xfb02 => ['F', 'L']
  | 0xfb03 => ['F', 'F', 'I']
  | 0xfb04 => ['F', 'F', 'L']
  | 0xfb05 => ['S', 'T']
  | 0xfb06 => ['S', 'T']
  | _ => [ch.toUpper]

def toUpperCase (s : String) : String := String.ofList (s.toList.flatMap upperChar)

/-- `toLowerCase`, exact on the characters whose lower-case form has ASCII in it: beside
`A` to `Z` the Kelvin sign and the dotted I. -/
def lowerChar (ch : Char) : List Char :=
  match ch.toNat with
  | 0x130 => ['i', Char.ofNat 0x307]
  | 0x212a => ['k']
  | _ => [ch.toLower]

def toLowerCase (s : String) : String := String.ofList (s.toList.flatMap lowerChar)

/-- The UTF-16 units of a character. -/
def units (ch : Char) : Nat := if ch.toNat < 0x10000 then 1 else 2

/-- `length`. -/
def length (s : String) : Nat := s.toList.foldl (fun n ch => n + units ch) 0

/-- `slice(0, limit)`; a character cut in two is left out. -/
def take (limit : Nat) : List Char → List Char
  | [] => []
  | ch :: rest => if units ch ≤ limit then ch :: take (limit - units ch) rest else []

def firstUnits (limit : Nat) (s : String) : String := String.ofList (take limit s.toList)

/-- `replace(/[..]+/g, mark)` for a class of characters, after a run of them or not. -/
def replaceRuns (p : Char → Bool) (mark : Char) (inRun : Bool) : List Char → List Char
  | [] => []
  | ch :: rest =>
    if p ch then
      if inRun then replaceRuns p mark true rest else mark :: replaceRuns p mark true rest
    else ch :: replaceRuns p mark false rest

def spacesToUnderscore (s : String) : String :=
  String.ofList (replaceRuns (fun ch => isSpace ch || ch = '-') '_' false s.toList)

def isLowerAlphanumeric (ch : Char) : Bool := ch.isDigit || ('a' ≤ ch && ch ≤ 'z')

/-- `replace(/[^a-z0-9]+/g, '-')`. -/
def othersToHyphen (s : String) : String :=
  String.ofList (replaceRuns (fun ch => !isLowerAlphanumeric ch) '-' false s.toList)

/-- `replace(/^-+|-+$/g, '')`. -/
def trimHyphens (s : String) : String :=
  let isHyphen := fun ch : Char => decide (ch = '-')
  String.ofList ((s.toList.dropWhile isHyphen).reverse.dropWhile isHyphen).reverse

theorem not_space_of_digit {ch : Char} (h : ch.isDigit = true) : isSpace ch = false := by
  simp only [Char.isDigit, Bool.and_eq_true, decide_eq_true_eq, UInt32.le_iff_toNat_le,
    ge_iff_le] at h
  change 48 ≤ ch.toNat ∧ ch.toNat ≤ 57 at h
  rw [← Bool.not_eq_true]
  simp only [isSpace, Bool.or_eq_true, Bool.and_eq_true, decide_eq_true_eq, List.mem_cons,
    List.not_mem_nil, or_false]
  omega

theorem dropWhile_space {text : List Char} (h : ∀ ch ∈ text.head?, isSpace ch = false) :
    text.dropWhile isSpace = text := by
  cases text with
  | nil => rfl
  | cons ch rest => simp [h ch rfl]

/-- A text without white space stays. -/
theorem trim_of_not_space {s : String} (h : ∀ ch ∈ s.toList, isSpace ch = false) : trim s = s := by
  have hstart : s.toList.dropWhile isSpace = s.toList :=
    dropWhile_space fun ch hch => h ch (List.mem_of_mem_head? hch)
  have hend : s.toList.reverse.dropWhile isSpace = s.toList.reverse :=
    dropWhile_space fun ch hch => h ch (List.mem_reverse.mp (List.mem_of_mem_head? hch))
  rw [trim, hstart, hend, List.reverse_reverse, String.ofList_toList]

end OmniSupport.JsText
