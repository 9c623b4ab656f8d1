import Mathlib.Tactic.Common

/-! Reading HTML apart into markup and what is shown, and templates whose texts are escaped: the
texts are shown as they are, and add no markup. -/
namespace Foundation.Html

/-- Where the reader is: in text, in a tag, or in an attribute value between two quotes. -/
inductive Mode where
  | text
  | tag
  | value (quote : Char)
  deriving DecidableEq

inductive Token where
  | markup (c : Char)
  | shown (c : Char)
  deriving DecidableEq

def references : List (List Char × Char) :=
  [(['a', 'm', 'p', ';'], '&'), (['l', 't', ';'], '<'), (['g', 't', ';'], '>'),
    (['q', 'u', 'o', 't', ';'], '"'), (['#', '3', '9', ';'], '\'')]

/-- The character that the text after an ampersand refers to, and how long its name is. -/
def reference (text : List Char) : Option (Char × Nat) :=
  references.findSome? fun (name, c) => if name.isPrefixOf text then some (c, name.length) else none

/-- The mode after a character, without regard to references. -/
def Mode.next : Mode → Char → Mode
  | .text, c => if c = '<' then .tag else .text
  | .tag, c => if c = '>' then .text else if c = '"' ∨ c = '\'' then .value c else .tag
  | .value quote, c => if c = quote then .tag else .value quote

/-- The character is part of a tag. -/
def Mode.marks : Mode → Char → Bool
  | .text, c => c = '<'
  | .tag, _ => true
  | .value quote, c => c = quote

/-- The rest of a reference that has been read is skipped. -/
def readFrom : Nat → Mode → List Char → List Token
  | _, _, [] => []
  | n + 1, mode, _ :: rest => readFrom n mode rest
  | 0, mode, c :: rest =>
    if mode.marks c then .markup c :: readFrom 0 (mode.next c) rest
    else
      match if c = '&' then reference rest else none with
      | some (referred, n) => .shown referred :: readFrom n mode rest
      | none => .shown c :: readFrom 0 (mode.next c) rest

def read (text : String) : List Token := readFrom 0 .text text.toList

def Token.isMarkup : Token → Bool
  | .markup _ => true
  | .shown _ => false

/-- The tags of a document. -/
def markup (tokens : List Token) : List Token := tokens.filter Token.isMarkup

def escapeChar (c : Char) : List Char :=
  match c with
  | '&' => ['&', 'a', 'm', 'p', ';']
  | '<' => ['&', 'l', 't', ';']
  | '>' => ['&', 'g', 't', ';']
  | '"' => ['&', 'q', 'u', 'o', 't', ';']
  | '\'' => ['&', '#', '3', '9', ';']
  | c => [c]

def escape (text : List Char) : List Char := text.flatMap escapeChar

/-- A template: what its author wrote, and the texts that are filled in. -/
inductive Piece where
  | literal (content : String)
  | filled (content : String)

def Piece.render : Piece → List Char
  | .literal content => content.toList
  | .filled content => escape content.toList

def render (pieces : List Piece) : String := String.ofList (pieces.flatMap Piece.render)

/-- Texts may stand in text, and in attribute values between quotes. -/
def Mode.fills : Mode → Bool
  | .text => true
  | .tag => false
  | .value quote => quote = '"' || quote = '\''

/-- The pieces without the texts. -/
def Piece.frame : Piece → Option String
  | .literal content => some content
  | .filled _ => none

/-- Texts are filled in where they may stand, and the literals have no ampersand. -/
def placed : Mode → List (Option String) → Bool
  | _, [] => true
  | mode, some literal :: rest =>
    '&' ∉ literal.toList && placed (literal.toList.foldl Mode.next mode) rest
  | mode, none :: rest => mode.fills && placed mode rest

/-- What a reader makes of the literals, with the texts shown where they are filled in. -/
def tokens : Mode → List Piece → List Token
  | _, [] => []
  | mode, .literal content :: rest =>
    readFrom 0 mode content.toList ++ tokens (content.toList.foldl Mode.next mode) rest
  | mode, .filled content :: rest => content.toList.map .shown ++ tokens mode rest

section placing
variable {mode : Mode} {text : List Char} {rest : List (Option String)}

theorem placed_nil : placed mode [] = true := rfl

/-- The characters of a literal, as a list. -/
theorem placed_literal (hfree : '&' ∉ text)
    (h : placed (text.foldl Mode.next mode) rest = true) :
    placed mode (some (String.ofList text) :: rest) = true := by
  simp only [placed, String.toList_ofList, Bool.and_eq_true, decide_eq_true_eq]
  exact ⟨hfree, h⟩

theorem placed_filled (hfills : mode.fills = true) (h : placed mode rest = true) :
    placed mode (none :: rest) = true := by
  simp only [placed, hfills, h, Bool.and_self]

end placing

section reading
variable {mode : Mode} {text rest : List Char}

/-- Without ampersands one character is read after the other. -/
theorem readFrom_literal (h : '&' ∉ text) : readFrom 0 mode (text ++ rest) =
    readFrom 0 mode text ++ readFrom 0 (text.foldl Mode.next mode) rest := by
  induction text generalizing mode with
  | nil => rfl
  | cons c text ih =>
    have hc : c ≠ '&' := fun heq => h (heq ▸ List.mem_cons_self)
    have hrest : '&' ∉ text := fun hmem => h (List.mem_cons_of_mem _ hmem)
    simp only [List.cons_append, readFrom, if_neg hc, List.foldl_cons]
    split
    · rw [ih hrest, List.cons_append]
    · rw [ih hrest, List.cons_append]

theorem marks_of_fills (h : mode.fills = true) {c : Char}
    (hc : c ∉ ['&', '<', '>', '"', '\'']) : mode.marks c = false ∧ mode.next c = mode := by
  simp only [List.mem_cons, List.not_mem_nil, or_false, not_or] at hc
  cases mode with
  | text => simp [Mode.marks, Mode.next, hc.2.1]
  | tag => cases h
  | value quote =>
    simp only [Mode.fills, Bool.or_eq_true, decide_eq_true_eq] at h
    rcases h with rfl | rfl
    · simp [Mode.marks, Mode.next, hc.2.2.2.1]
    · simp [Mode.marks, Mode.next, hc.2.2.2.2]

/-- An ampersand marks nothing where texts may stand. -/
theorem marks_ampersand (h : mode.fills = true) : mode.marks '&' = false := by
  cases mode with
  | text => rfl
  | tag => cases h
  | value quote =>
    simp only [Mode.fills, Bool.or_eq_true, decide_eq_true_eq] at h
    rcases h with rfl | rfl
    · rfl
    · rfl

/-- A reference is read as the character it stands for. -/
theorem readFrom_reference (h : mode.fills = true) {name : List Char} {c : Char}
    (hname : reference (name ++ rest) = some (c, name.length)) :
    readFrom 0 mode ('&' :: (name ++ rest)) = .shown c :: readFrom 0 mode rest := by
  have hskip : ∀ name : List Char, readFrom name.length mode (name ++ rest) =
      readFrom 0 mode rest := by
    intro name
    induction name with
    | nil => rfl
    | cons d name ih => exact ih
  simp only [readFrom, marks_ampersand h, Bool.false_eq_true, if_false, if_true, hname, hskip]

theorem readFrom_escapeChar (h : mode.fills = true) (c : Char) :
    readFrom 0 mode (escapeChar c ++ rest) = .shown c :: readFrom 0 mode rest := by
  unfold escapeChar
  split
  · exact readFrom_reference h (show reference (['a', 'm', 'p', ';'] ++ rest) = _ from rfl)
  · exact readFrom_reference h (show reference (['l', 't', ';'] ++ rest) = _ from rfl)
  · exact readFrom_reference h (show reference (['g', 't', ';'] ++ rest) = _ from rfl)
  · exact readFrom_reference h (show reference (['q', 'u', 'o', 't', ';'] ++ rest) = _ from rfl)
  · exact readFrom_reference h (show reference (['#', '3', '9', ';'] ++ rest) = _ from rfl)
  · rename_i hamp hlt hgt hquot hapos
    have hc : c ∉ ['&', '<', '>', '"', '\''] := by
      simp only [List.mem_cons, List.not_mem_nil, or_false, not_or]
      exact ⟨hamp, hlt, hgt, hquot, hapos⟩
    obtain ⟨hmarks, hnext⟩ := marks_of_fills h hc
    simp only [List.cons_append, List.nil_append, readFrom, hmarks, Bool.false_eq_true, if_false,
      if_neg hamp, hnext]

/-- An escaped text is shown as it is. -/
theorem readFrom_escape (h : mode.fills = true) :
    readFrom 0 mode (escape text ++ rest) = text.map .shown ++ readFrom 0 mode rest := by
  induction text with
  | nil => rfl
  | cons c text ih =>
    simp only [escape, List.flatMap_cons, List.append_assoc, List.map_cons, List.cons_append] at ih ⊢
    rw [readFrom_escapeChar h, ih]

end reading

/-- Whatever the texts are, a reader sees the literals' tags and shows the texts as they are. -/
theorem readFrom_render {mode : Mode} {pieces : List Piece}
    (h : placed mode (pieces.map Piece.frame) = true) :
    readFrom 0 mode (pieces.flatMap Piece.render) = tokens mode pieces := by
  induction pieces generalizing mode with
  | nil => rfl
  | cons piece pieces ih =>
    cases piece with
    | literal content =>
      simp only [List.map_cons, Piece.frame, placed, Bool.and_eq_true, decide_eq_true_eq] at h
      simp only [List.flatMap_cons, Piece.render, tokens, readFrom_literal h.1, ih h.2]
    | filled content =>
      simp only [List.map_cons, Piece.frame, placed, Bool.and_eq_true] at h
      simp only [List.flatMap_cons, Piece.render, tokens, readFrom_escape h.1, ih h.2]

theorem markup_shown (text : List Char) : markup (text.map .shown) = [] := by
  induction text with
  | nil => rfl
  | cons c text ih => exact ih

/-- The tags do not depend on the texts. -/
theorem markup_tokens {mode : Mode} {pieces pieces' : List Piece}
    (h : pieces.map Piece.frame = pieces'.map Piece.frame) :
    markup (tokens mode pieces) = markup (tokens mode pieces') := by
  induction pieces generalizing mode pieces' with
  | nil =>
    rw [List.map_eq_nil_iff.mp h.symm]
  | cons piece pieces ih =>
    cases pieces' with
    | nil => cases h
    | cons piece' pieces' =>
      obtain ⟨hpiece, hrest⟩ := List.cons.inj h
      cases piece with
      | literal content =>
        cases piece' with
        | literal content' =>
          cases hpiece
          have hlater := @ih (content.toList.foldl Mode.next mode) pieces' hrest
          simp only [tokens, markup, List.filter_append] at hlater ⊢
          rw [hlater]
        | filled content' => cases hpiece
      | filled content =>
        cases piece' with
        | literal content' => cases hpiece
        | filled content' =>
          have hlater := @ih mode pieces' hrest
          have hshown := markup_shown content.toList
          have hshown' := markup_shown content'.toList
          simp only [tokens, markup, List.filter_append] at hlater hshown hshown' ⊢
          rw [hshown, hshown', hlater]

theorem read_render {pieces : List Piece} (h : placed .text (pieces.map Piece.frame) = true) :
    read (render pieces) = tokens .text pieces := by
  unfold read render
  rw [String.toList_ofList]
  exact readFrom_render h

end Foundation.Html
