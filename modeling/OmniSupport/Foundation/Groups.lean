import Mathlib.Data.List.DropRight
import Mathlib.Tactic.Common

/-! The groups of a text: its maximal runs of characters of a class, and the text that joins
them with a mark. -/
namespace Foundation.Text
variable {α β : Type*}

/-- The group read so far, if there is one. -/
def ended : List α → List (List α)
  | [] => []
  | group => [group]

/-- The groups of a text read after the characters of an unfinished one. -/
def groupsFrom (p : α → Bool) (unfinished : List α) : List α → List (List α)
  | [] => ended unfinished
  | c :: rest =>
    if p c then groupsFrom p (unfinished ++ [c]) rest
    else ended unfinished ++ groupsFrom p [] rest

def groups (p : α → Bool) (text : List α) : List (List α) := groupsFrom p [] text

/-- Groups of characters of the class only, none of them empty. -/
def Grouped (p : α → Bool) (gs : List (List α)) : Prop :=
  ∀ group ∈ gs, group ≠ [] ∧ ∀ c ∈ group, p c = true

variable {p : α → Bool} {text unfinished : List α} {gs : List (List α)}

theorem ended_of_ne_nil (h : unfinished ≠ []) : ended unfinished = [unfinished] := by
  cases unfinished with
  | nil => exact absurd rfl h
  | cons c rest => rfl

theorem grouped_ended (h : ∀ c ∈ unfinished, p c = true) : Grouped p (ended unfinished) := by
  cases unfinished with
  | nil => simp [ended, Grouped]
  | cons c rest => simpa [ended, Grouped] using h

theorem grouped_groupsFrom (h : ∀ c ∈ unfinished, p c = true) :
    Grouped p (groupsFrom p unfinished text) := by
  induction text generalizing unfinished with
  | nil => exact grouped_ended h
  | cons c text ih =>
    by_cases hc : p c = true
    · rw [groupsFrom, if_pos hc]
      refine ih fun d hd => ?_
      rcases List.mem_append.mp hd with hd | hd
      · exact h d hd
      · rw [List.mem_singleton.mp hd]
        exact hc
    · rw [groupsFrom, if_neg hc]
      intro group hgroup
      rcases List.mem_append.mp hgroup with hgroup | hgroup
      · exact grouped_ended h group hgroup
      · have hrest : Grouped p (groupsFrom p [] text) := ih (by simp)
        exact hrest group hgroup

theorem grouped_groups : Grouped p (groups p text) := grouped_groupsFrom (by simp)

theorem groupsFrom_map (f : α → β) (p : β → Bool) (unfinished text : List α) :
    groupsFrom p (unfinished.map f) (text.map f) =
      (groupsFrom (fun c => p (f c)) unfinished text).map (List.map f) := by
  induction text generalizing unfinished with
  | nil => cases unfinished <;> rfl
  | cons c text ih =>
    have hended : ended (unfinished.map f) = (ended unfinished).map (List.map f) := by
      cases unfinished <;> rfl
    have hnext := ih (unfinished ++ [c])
    have hfresh := ih []
    simp only [List.map_append, List.map_cons, List.map_nil] at hnext hfresh
    by_cases hc : p (f c) = true
    · simp [groupsFrom, hc, hnext]
    · simp [groupsFrom, hc, hended, hfresh]

theorem groups_map (f : α → β) (p : β → Bool) :
    groups p (text.map f) = (groups (fun c => p (f c)) text).map (List.map f) :=
  groupsFrom_map f p [] text

/-- What is not of the class makes no difference at either end. -/
theorem groups_dropWhile {q : α → Bool} (hq : ∀ c, q c = true → p c = false) :
    groups p (text.dropWhile q) = groups p text := by
  induction text with
  | nil => rfl
  | cons c text ih =>
    by_cases hc : q c = true
    · rw [List.dropWhile_cons_of_pos hc, ih]
      simp [groups, groupsFrom, hq c hc, ended]
    · rw [List.dropWhile_cons_of_neg hc]

theorem groupsFrom_append_others {others : List α} (h : ∀ c ∈ others, p c = false)
    (unfinished text : List α) :
    groupsFrom p unfinished (text ++ others) = groupsFrom p unfinished text := by
  induction text generalizing unfinished with
  | nil =>
    induction others generalizing unfinished with
    | nil => rfl
    | cons c others ih =>
      have hrest := ih (fun d hd => h d (List.mem_cons_of_mem c hd)) []
      rw [List.nil_append] at hrest ⊢
      simp [groupsFrom, h c List.mem_cons_self, hrest, ended]
  | cons c text ih =>
    rw [List.cons_append, groupsFrom, groupsFrom, ih, ih]

theorem groups_rdropWhile {q : α → Bool} (hq : ∀ c, q c = true → p c = false) :
    groups p (text.rdropWhile q) = groups p text := by
  conv_rhs => rw [← List.rdropWhile_append_rtakeWhile (p := q) (l := text)]
  exact (groupsFrom_append_others (fun c hc => hq c (List.mem_rtakeWhile_imp hc)) [] _).symm

theorem groupsFrom_append {group : List α} (h : ∀ c ∈ group, p c = true)
    (unfinished text : List α) :
    groupsFrom p unfinished (group ++ text) = groupsFrom p (unfinished ++ group) text := by
  induction group generalizing unfinished with
  | nil => simp
  | cons c group ih =>
    rw [List.cons_append, groupsFrom, if_pos (h c List.mem_cons_self),
      ih fun d hd => h d (List.mem_cons_of_mem c hd)]
    simp

/-- Joined with a mark that is not of the class, the groups are found again. -/
theorem groups_joined {mark : α} (hmark : p mark = false) (h : Grouped p gs) :
    groups p ([mark].intercalate gs) = gs := by
  induction gs with
  | nil => rfl
  | cons group gs ih =>
    have hgroup := h group List.mem_cons_self
    have hrest := ih fun g hg => h g (List.mem_cons_of_mem group hg)
    cases gs with
    | nil =>
      have hread := groupsFrom_append hgroup.2 [] []
      rw [List.append_nil, List.nil_append] at hread
      rw [List.intercalate_singleton, groups, hread]
      exact ended_of_ne_nil hgroup.1
    | cons next gs =>
      rw [List.intercalate_cons_cons, List.append_assoc, groups, groupsFrom_append hgroup.2,
        List.nil_append, List.singleton_append, groupsFrom, hmark, ended_of_ne_nil hgroup.1]
      simpa [groups] using hrest

theorem joined_eq_nil {mark : α} (h : Grouped p gs) : [mark].intercalate gs = [] ↔ gs = [] := by
  cases gs with
  | nil => simp
  | cons group gs =>
    have hgroup := (h group List.mem_cons_self).1
    cases gs <;> simp [List.intercalate_cons_cons, hgroup]

theorem mem_joined {mark c : α} (hc : c ∈ [mark].intercalate gs) :
    c = mark ∨ ∃ group ∈ gs, c ∈ group := by
  induction gs with
  | nil => simp at hc
  | cons group gs ih =>
    cases gs with
    | nil =>
      rw [List.intercalate_singleton] at hc
      exact .inr ⟨group, List.mem_cons_self, hc⟩
    | cons next gs =>
      rw [List.intercalate_cons_cons, List.mem_append, List.mem_append, List.mem_singleton] at hc
      rcases hc with (hc | hc) | hc
      · exact .inr ⟨group, List.mem_cons_self, hc⟩
      · exact .inl hc
      · rcases ih hc with hc | ⟨g, hg, hc⟩
        · exact .inl hc
        · exact .inr ⟨g, List.mem_cons_of_mem group hg, hc⟩

/-- What is dropped from the end reaches the first part when the second one is dropped whole. -/
theorem rdropWhile_append (q : α → Bool) (a b : List α) :
    (a ++ b).rdropWhile q = if b.rdropWhile q = [] then a.rdropWhile q else a ++ b.rdropWhile q := by
  unfold List.rdropWhile
  rw [List.reverse_append, List.dropWhile_append]
  by_cases hb : b.reverse.dropWhile q = []
  · simp [hb]
  · simp [hb]

/-- A text that does not end in what is dropped stays. -/
theorem rdropWhile_of_all {q : α → Bool} (h : ∀ c ∈ text, q c = false) :
    text.rdropWhile q = text := by
  rw [List.rdropWhile_eq_self_iff]
  intro hne
  simp [h _ (List.getLast_mem hne)]

end Foundation.Text
