import Mathlib.Data.List.Basic
import Mathlib.Tactic.Common

/-! Paths as segments between slashes: resolving one against a directory, and what a prefix
of the resolved text says about where it leads. -/
namespace Foundation.PosixPath

/-- The text from the root; the root itself has no segments. -/
def absolute (segments : List (List Char)) : List Char := '/' :: ['/'].intercalate segments

/-- One more segment; `..` takes the last one away, if there is one. -/
def enter (entered : List (List Char)) (segment : List Char) : List (List Char) :=
  if segment = [] ∨ segment = ['.'] then entered
  else if segment = ['.', '.'] then entered.dropLast
  else entered ++ [segment]

def normalize (segments : List (List Char)) : List (List Char) := segments.foldl enter []

/-- A path from the root stands for itself, any other starts at the directory. -/
def resolve (directory path : List Char) : List Char :=
  let whole := if path.head? = some '/' then path else directory ++ '/' :: path
  absolute (normalize (whole.splitOn '/'))

/-- A segment that names a directory entry. -/
structure Proper (segment : List Char) : Prop where
  nonempty : segment ≠ []
  notHere : segment ≠ ['.']
  notUp : segment ≠ ['.', '.']
  oneSegment : '/' ∉ segment

/-- One or more entries below the directory. -/
def StrictlyInside (directory path : List Char) : Prop :=
  ∃ segments, segments ≠ [] ∧ (∀ segment ∈ segments, Proper segment) ∧
    path = directory ++ '/' :: ['/'].intercalate segments

variable {directory path : List Char} {segments entered : List (List Char)}

theorem slash_notMem_splitOn {text segment : List Char} (h : segment ∈ text.splitOn '/') :
    '/' ∉ segment := by
  induction text generalizing segment with
  | nil =>
    rw [List.splitOn_nil, List.mem_singleton] at h
    simp [h]
  | cons ch text ih =>
    rw [List.splitOn_cons_eq_if_modifyHead] at h
    cases hsplit : text.splitOn '/' with
    | nil => exact absurd hsplit (List.splitOn_ne_nil '/' text)
    | cons first later =>
      rw [hsplit] at h ih
      by_cases hch : ch = '/'
      · rw [if_pos (by simpa using hch)] at h
        rcases List.mem_cons.mp h with rfl | h
        · simp
        · exact ih h
      · rw [if_neg (by simpa using hch), List.modifyHead_cons] at h
        rcases List.mem_cons.mp h with rfl | h
        · intro hslash
          rcases List.mem_cons.mp hslash with hslash | hslash
          · exact hch hslash.symm
          · exact ih List.mem_cons_self hslash
        · exact ih (List.mem_cons_of_mem first h)

theorem proper_enter {segment : List Char} (h : ∀ s ∈ entered, Proper s) (hone : '/' ∉ segment) :
    ∀ s ∈ enter entered segment, Proper s := by
  intro s hs
  unfold enter at hs
  split at hs
  · exact h s hs
  · rename_i hkept
    simp only [not_or] at hkept
    split at hs
    · exact h s (List.dropLast_subset entered hs)
    · rename_i hdown
      rcases List.mem_append.mp hs with hs | hs
      · exact h s hs
      · rw [List.mem_singleton.mp hs]
        exact ⟨hkept.1, hkept.2, hdown, hone⟩

theorem proper_foldl_enter (h : ∀ s ∈ entered, Proper s) (hone : ∀ s ∈ segments, '/' ∉ s) :
    ∀ s ∈ segments.foldl enter entered, Proper s := by
  induction segments generalizing entered with
  | nil => exact h
  | cons segment segments ih =>
    exact ih (proper_enter h (hone segment List.mem_cons_self))
      fun s hs => hone s (List.mem_cons_of_mem segment hs)

/-- A resolved path consists of directory entries, from the root down. -/
theorem resolve_eq (directory path : List Char) : ∃ segments, (∀ segment ∈ segments, Proper segment) ∧
    resolve directory path = absolute segments := by
  refine ⟨_, ?_, rfl⟩
  exact proper_foldl_enter (by simp) fun s hs => slash_notMem_splitOn hs

/-- What has the directory and a slash before it lies strictly inside the directory. -/
theorem strictlyInside_of_prefix (hproper : ∀ segment ∈ segments, Proper segment)
    (habsolute : directory.head? = some '/')
    (hbegins : directory ++ ['/'] <+: absolute segments) :
    StrictlyInside directory (absolute segments) := by
  obtain ⟨below, hbelow⟩ := hbegins
  cases directory with
  | nil => cases habsolute
  | cons first entries =>
    obtain rfl : first = '/' := by simpa using habsolute
    have hjoined : ['/'].intercalate segments = entries ++ '/' :: below := by
      simpa [absolute] using hbelow.symm
    have hne : segments ≠ [] := by
      rintro rfl
      simp at hjoined
    have hsplit : segments = entries.splitOn '/' ++ below.splitOn '/' := by
      rw [← List.splitOn_append_cons_self, ← hjoined,
        List.splitOn_intercalate '/' (fun s hs => (hproper s hs).oneSegment) hne]
    refine ⟨below.splitOn '/', List.splitOn_ne_nil '/' below, fun s hs => ?_, ?_⟩
    · rw [hsplit] at hproper
      exact hproper s (List.mem_append_right _ hs)
    · rw [List.intercalate_splitOn, ← hbelow]
      simp

end Foundation.PosixPath
