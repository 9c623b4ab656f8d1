import Mathlib.Data.List.Forall2
import Mathlib.Tactic.Common

/-! Comma-separated values: a strict reader of rows of plain and quoted cells, and what it reads
back from encoded ones. -/
namespace Foundation.Csv

/-- Where the reader is: at the start of a cell, in a plain or a quoted one, or after a quote
that ends a cell unless a second one follows it. -/
inductive Mode where
  | start | plain | quoted | closed
  deriving DecidableEq

/-- What is still to be read: the end of the cell, the cells after it and the rows after those. -/
structure Rest where
  cell : List Char
  cells : List (List Char)
  rows : List (List (List Char))

namespace Rest

def nothing : Rest := ⟨[], [], []⟩

/-- The text stands before what is left of the cell. -/
def after (text : List Char) (r : Rest) : Rest := { r with cell := text ++ r.cell }

/-- The cell ends here, and another one begins. -/
def endCell (r : Rest) : Rest := ⟨[], r.cell :: r.cells, r.rows⟩

/-- The row ends here, and another one begins. -/
def endRow (r : Rest) : Rest := ⟨[], [], (r.cell :: r.cells) :: r.rows⟩

@[simp] theorem map_after_nil (o : Option Rest) : o.map (.after []) = o := by
  cases o <;> rfl

@[simp] theorem after_comp_after (a b : List Char) : after a ∘ after b = after (a ++ b) := by
  funext r
  simp [after]

/-- The cells stand before what is left of the row. -/
def afterCells (r : Rest) : List (List Char) → Rest
  | [] => r
  | [cell] => r.after cell
  | cell :: cells => (r.afterCells cells).endCell.after cell

/-- At the end of a row nothing of it is left. -/
theorem afterCells_ended {r : Rest} (hcell : r.cell = []) (hcells : r.cells = [])
    (cell : List Char) (cells : List (List Char)) :
    r.afterCells (cell :: cells) = ⟨cell, cells, r.rows⟩ := by
  induction cells generalizing cell with
  | nil => simp [afterCells, after, hcell, hcells]
  | cons next cells ih => simp [afterCells, ih next, after, endCell]

end Rest

/-- Rows end with CR LF; after the last one it may be left out. A plain cell has no quote, CR
or LF, and only a separator may follow the end of a quoted one. -/
def readRest : Mode → List Char → Option Rest
  | .quoted, [] => none
  | .quoted, c :: rest =>
    if c = '"' then readRest .closed rest else (readRest .quoted rest).map (.after [c])
  | .start, [] | .plain, [] | .closed, [] => some .nothing
  | .start, ['\r', '\n'] | .plain, ['\r', '\n'] | .closed, ['\r', '\n'] => some .nothing
  | .start, '\r' :: '\n' :: rest | .plain, '\r' :: '\n' :: rest | .closed, '\r' :: '\n' :: rest =>
    (readRest .start rest).map .endRow
  | .start, c :: rest =>
    if c = ',' then (readRest .start rest).map .endCell
    else if c = '"' then readRest .quoted rest
    else if c = '\r' ∨ c = '\n' then none
    else (readRest .plain rest).map (.after [c])
  | .plain, c :: rest =>
    if c = ',' then (readRest .start rest).map .endCell
    else if c = '"' ∨ c = '\r' ∨ c = '\n' then none
    else (readRest .plain rest).map (.after [c])
  | .closed, c :: rest =>
    if c = ',' then (readRest .start rest).map .endCell
    else if c = '"' then (readRest .quoted rest).map (.after [c])
    else none

/-- The rows of a text. -/
def read (text : List Char) : Option (List (List (List Char))) :=
  (readRest .start text).map fun r => (r.cell :: r.cells) :: r.rows

/-- Quotes are doubled. -/
def doubleQuotes (cell : List Char) : List Char :=
  cell.flatMap fun c => if c = '"' then ['"', '"'] else [c]

def quote (cell : List Char) : List Char := '"' :: (doubleQuotes cell ++ ['"'])

/-- A plain cell may not have them. -/
def separators : List Char := [',', '"', '\r', '\n']

/-- The texts that stand for a cell. -/
inductive Encodes : List Char → List Char → Prop where
  | plain {cell} (free : ∀ c ∈ cell, c ∉ separators) : Encodes cell cell
  | quoted (cell) : Encodes (quote cell) cell

/-- A cell ends before the text. -/
inductive Stops : List Char → Prop where
  | done : Stops []
  | cell (rest) : Stops (',' :: rest)
  | row (rest) : Stops ('\r' :: '\n' :: rest)

variable {text cell rest : List Char}

attribute [local simp] readRest in
/-- Before a separator it makes no difference how the cell was read. -/
theorem Stops.start (h : Stops rest) : readRest .start rest = readRest .closed rest := by
  cases h with
  | done => rfl
  | cell rest => simp
  | row rest => cases rest <;> simp

theorem Stops.plain (h : Stops rest) : readRest .plain rest = readRest .closed rest := by
  cases h with
  | done => rfl
  | cell rest => simp [readRest]
  | row rest => cases rest <;> simp [readRest]

theorem readRest_start_quote : readRest .start ('"' :: rest) = readRest .quoted rest := by
  simp [readRest]

theorem readRest_closed_quote :
    readRest .closed ('"' :: rest) = (readRest .quoted rest).map (.after ['"']) := by
  simp [readRest]

theorem readRest_plain_char {c : Char} (hc : c ∉ separators) :
    readRest .plain (c :: rest) = (readRest .plain rest).map (.after [c]) ∧
      readRest .start (c :: rest) = (readRest .plain rest).map (.after [c]) := by
  simp only [separators, List.mem_cons, List.not_mem_nil, or_false, not_or] at hc
  obtain ⟨hcomma, hquote, hcr, hlf⟩ := hc
  constructor
  · rw [readRest.eq_def]
    split <;> simp_all
  · rw [readRest.eq_def]
    split <;> simp_all

theorem read_plain (hfree : ∀ c ∈ cell, c ∉ separators) (h : Stops rest) :
    readRest .plain (cell ++ rest) = (readRest .closed rest).map (.after cell) := by
  induction cell with
  | nil => simp [h.plain]
  | cons c cell ih =>
    rw [List.cons_append, (readRest_plain_char (hfree c List.mem_cons_self)).1,
      ih fun d hd => hfree d (List.mem_cons_of_mem c hd)]
    simp

/-- The doubled quotes of a cell are read as its quotes, up to the one that ends it. -/
theorem read_quoted (cell rest : List Char) :
    readRest .quoted (doubleQuotes cell ++ '"' :: rest) =
      (readRest .closed rest).map (.after cell) := by
  induction cell with
  | nil => simp [doubleQuotes, readRest]
  | cons c cell ih =>
    by_cases hc : c = '"'
    · have hdoubled : doubleQuotes (c :: cell) = '"' :: '"' :: doubleQuotes cell := by
        simp [doubleQuotes, hc]
      rw [hdoubled, List.cons_append, List.cons_append, readRest, if_pos rfl,
        readRest_closed_quote, ih, hc]
      simp
    · have hsame : doubleQuotes (c :: cell) = c :: doubleQuotes cell := by
        simp [doubleQuotes, hc]
      rw [hsame, List.cons_append, readRest, if_neg hc, ih]
      simp

theorem read_cell (hcell : Encodes text cell) (h : Stops rest) :
    readRest .start (text ++ rest) = (readRest .closed rest).map (.after cell) := by
  cases hcell with
  | quoted =>
    have hquote : quote cell ++ rest = '"' :: (doubleQuotes cell ++ '"' :: rest) := by
      simp [quote]
    rw [hquote, readRest_start_quote, read_quoted cell rest]
  | plain hfree =>
    cases text with
    | nil => simp [h.start]
    | cons c text =>
      rw [List.cons_append, (readRest_plain_char (hfree c List.mem_cons_self)).2,
        read_plain (fun d hd => hfree d (List.mem_cons_of_mem c hd)) h]
      simp

theorem read_row {texts cells : List (List Char)} {text cell : List Char}
    (hcell : Encodes text cell) (hcells : List.Forall₂ Encodes texts cells) (h : Stops rest) :
    readRest .start ([','].intercalate (text :: texts) ++ rest) =
      (readRest .closed rest).map fun r => r.afterCells (cell :: cells) := by
  induction hcells generalizing text cell with
  | nil =>
    rw [List.intercalate_singleton, read_cell hcell h]
    rfl
  | @cons next nextCell texts cells hnext hcells ih =>
    have hjoined : [','].intercalate (text :: next :: texts) ++ rest =
        text ++ (',' :: ([','].intercalate (next :: texts) ++ rest)) := by
      simp [List.intercalate_cons_cons]
    have hcomma : readRest .closed (',' :: ([','].intercalate (next :: texts) ++ rest)) =
        (readRest .start ([','].intercalate (next :: texts) ++ rest)).map .endCell := by
      simp [readRest]
    rw [hjoined, read_cell hcell (.cell _), hcomma, ih hnext, Option.map_map, Option.map_map]
    rfl

/-- The text stands for the row. -/
def EncodesRow (text : List Char) (row : List (List Char)) : Prop :=
  ∃ first texts, text = [','].intercalate (first :: texts) ∧
    List.Forall₂ Encodes (first :: texts) row

theorem readRest_closed_break (hrest : rest ≠ []) :
    readRest .closed ('\r' :: '\n' :: rest) = (readRest .start rest).map .endRow := by
  cases rest with
  | nil => exact absurd rfl hrest
  | cons c rest => simp [readRest]

/-- Each row is read back up to its line break. -/
theorem readRest_rows {texts : List (List Char)} {row : List (List Char)}
    {rows : List (List (List Char))} (hrow : EncodesRow text row)
    (hrows : List.Forall₂ (fun text row => EncodesRow text row ∧ text ≠ []) texts rows) :
    ∃ cell cells, row = cell :: cells ∧
      readRest .start (['\r', '\n'].intercalate (text :: texts)) = some ⟨cell, cells, rows⟩ := by
  induction hrows generalizing text row with
  | nil =>
    obtain ⟨first, more, rfl, hcells⟩ := hrow
    cases hcells with
    | @cons _ cell _ cells hcell hcells =>
      have hread := read_row hcell hcells .done
      rw [List.append_nil, readRest, Option.map_some, Rest.afterCells_ended rfl rfl] at hread
      refine ⟨cell, cells, rfl, ?_⟩
      rw [List.intercalate_singleton]
      exact hread
  | @cons next nextRow texts rows hnext hrows ih =>
    obtain ⟨nextCell, nextCells, rfl, hrest⟩ := ih hnext.1
    obtain ⟨first, more, rfl, hcells⟩ := hrow
    cases hcells with
    | @cons _ cell _ cells hcell hcells =>
      refine ⟨cell, cells, rfl, ?_⟩
      have hsome : ['\r', '\n'].intercalate (next :: texts) ≠ [] := by
        cases texts <;> simp [List.intercalate_cons_cons, hnext.2]
      rw [List.intercalate_cons_cons, List.append_assoc, List.cons_append, List.cons_append,
        List.nil_append, read_row hcell hcells (.row _), readRest_closed_break hsome, hrest,
        Option.map_some, Option.map_some, Rest.afterCells_ended rfl rfl]
      rfl

/-- Joined rows are read back, when no row after the first is the empty text: that one would be
taken for the end of the row before. -/
theorem read_rows {texts : List (List Char)} {row : List (List Char)}
    {rows : List (List (List Char))} (hrow : EncodesRow text row)
    (hrows : List.Forall₂ (fun text row => EncodesRow text row ∧ text ≠ []) texts rows) :
    read (['\r', '\n'].intercalate (text :: texts)) = some (row :: rows) := by
  obtain ⟨cell, cells, rfl, hread⟩ := readRest_rows hrow hrows
  rw [read, hread]
  rfl

end Foundation.Csv
