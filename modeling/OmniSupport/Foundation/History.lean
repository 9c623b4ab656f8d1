import OmniSupport.Foundation.Machine

/-! The history of a run: its steps with the states around them, and what one of them excludes
in all that follow. -/
namespace Foundation.Machine
variable {σ ι : Type*}

structure Step (σ ι : Type*) where
  before : σ
  label : ι
  after : σ

variable (m : Machine σ ι)

def history (s : σ) : List ι → List (Step σ ι)
  | [] => []
  | i :: is =>
    match m.step s i with
    | none => []
    | some s' => ⟨s, i, s'⟩ :: history s' is

theorem history_cons {s s' : σ} {i : ι} {is : List ι} (h : m.step s i = some s') :
    m.history s (i :: is) = ⟨s, i, s'⟩ :: m.history s' is := by
  simp only [history, h]

theorem mem_history {s s₁ s₂ : σ} {i : ι} {is js : List ι} (h : m.run s is = some s₁)
    (hs : m.step s₁ i = some s₂) : ⟨s₁, i, s₂⟩ ∈ m.history s (is ++ i :: js) := by
  induction is generalizing s with
  | nil =>
    cases h
    rw [List.nil_append, m.history_cons hs]
    exact List.mem_cons_self
  | cons j is ih =>
    obtain ⟨s', hj, hr⟩ := (m.run_cons).mp h
    rw [List.cons_append, m.history_cons hj]
    exact List.mem_cons_of_mem _ (ih hr)

theorem within_cons {C : σ → ι → Prop} {s s₁ : σ} {i : ι} {is : List ι}
    (hs : m.step s i = some s₁) : m.Within C s (i :: is) ↔ C s i ∧ m.Within C s₁ is := by
  simp only [Within, hs, Option.some.injEq, forall_eq']

theorem within_iff_history {C : σ → ι → Prop} {s s' : σ} {is : List ι} (h : m.run s is = some s') :
    m.Within C s is ↔ ∀ step ∈ m.history s is, C step.before step.label := by
  induction is generalizing s with
  | nil => simp [history, Within]
  | cons i is ih =>
    obtain ⟨s₁, h₁, h₂⟩ := (m.run_cons).mp h
    rw [m.history_cons h₁, m.within_cons h₁, List.forall_mem_cons, ih h₂]

theorem history_append {s s₁ : σ} {is js : List ι} (h : m.run s is = some s₁) :
    m.history s (is ++ js) = m.history s is ++ m.history s₁ js := by
  induction is generalizing s with
  | nil =>
    cases h
    rfl
  | cons i is ih =>
    obtain ⟨s', hs, hr⟩ := (m.run_cons).mp h
    rw [List.cons_append, m.history_cons hs, m.history_cons hs, ih hr, List.cons_append]

/-- A step of a history splits its run. -/
theorem split_of_mem_history {s s' : σ} {is : List ι} {step : Step σ ι} (hr : m.run s is = some s')
    (h : step ∈ m.history s is) :
    ∃ js ks, is = js ++ step.label :: ks ∧ m.run s js = some step.before ∧
      m.step step.before step.label = some step.after ∧ m.run step.after ks = some s' := by
  induction is generalizing s with
  | nil => cases h
  | cons i is ih =>
    obtain ⟨s₁, hs, hr'⟩ := (m.run_cons).mp hr
    rw [m.history_cons hs] at h
    rcases List.mem_cons.mp h with rfl | hlater
    · exact ⟨[], is, rfl, rfl, hs, hr'⟩
    · obtain ⟨js, ks, rfl, hjs, hstep, hks⟩ := ih hr' hlater
      exact ⟨i :: js, ks, rfl, (m.run_cons).mpr ⟨s₁, hs, hjs⟩, hstep, hks⟩

/-- What holds in the end held at first, or a step of the run brought it about. -/
theorem history_source {Q : σ → Prop} {C : σ → ι → Prop} {P : Step σ ι → Prop}
    (hstep : ∀ s i s', C s i → m.step s i = some s' → Q s' → Q s ∨ P ⟨s, i, s'⟩)
    {s s' : σ} {is : List ι} (hc : m.Within C s is) (hr : m.run s is = some s') (h : Q s') :
    Q s ∨ ∃ step ∈ m.history s is, P step := by
  induction is generalizing s with
  | nil =>
    cases hr
    exact .inl h
  | cons i is ih =>
    obtain ⟨s₁, h₁, h₂⟩ := (m.run_cons).mp hr
    rw [m.history_cons h₁]
    rcases ih (hc.2 s₁ h₁) h₂ with hQ | ⟨step, hmem, hP⟩
    · rcases hstep s i s₁ hc.1 h₁ hQ with hfirst | hP
      · exact .inl hfirst
      · exact .inr ⟨_, List.mem_cons_self, hP⟩
    · exact .inr ⟨step, List.mem_cons_of_mem _ hmem, hP⟩

theorem within_true (s : σ) (is : List ι) : m.Within (fun _ _ => True) s is :=
  m.within_of_labels fun _ _ => trivial

/-- What an invariant gives for each single step holds of all steps of a run. -/
theorem history_forall_within {I : σ → Prop} {C : σ → ι → Prop} {P : Step σ ι → Prop}
    (hstep : ∀ s i s', I s → C s i → m.step s i = some s' → I s' ∧ P ⟨s, i, s'⟩)
    {s s' : σ} {is : List ι} (h : I s) (hc : m.Within C s is) (hr : m.run s is = some s') :
    ∀ step ∈ m.history s is, P step := by
  induction is generalizing s with
  | nil => simp [history]
  | cons i is ih =>
    obtain ⟨s₁, h₁, h₂⟩ := (m.run_cons).mp hr
    obtain ⟨hI, hP⟩ := hstep s i s₁ h hc.1 h₁
    rw [m.history_cons h₁]
    intro step hmem
    rcases List.mem_cons.mp hmem with rfl | hlater
    · exact hP
    · exact ih hI (hc.2 s₁ h₁) h₂ step hlater

theorem history_forall {I : σ → Prop} {P : Step σ ι → Prop}
    (hstep : ∀ s i s', I s → m.step s i = some s' → I s' ∧ P ⟨s, i, s'⟩)
    {s s' : σ} {is : List ι} (h : I s) (hr : m.run s is = some s') :
    ∀ step ∈ m.history s is, P step :=
  m.history_forall_within (fun s i s' hI _ => hstep s i s' hI) h (m.within_true s is) hr

/-- If each step from a good state leads to a good one exactly when it meets the condition, all
states of a run are good exactly when all its steps meet the condition. -/
theorem history_forall_iff {P : σ → Prop} {C : σ → ι → Prop}
    (hstep : ∀ s i s', P s → m.step s i = some s' → (P s' ↔ C s i)) {s s' : σ} {is : List ι}
    (h : P s) (hr : m.run s is = some s') :
    (∀ step ∈ m.history s is, P step.after) ↔
      ∀ step ∈ m.history s is, C step.before step.label := by
  induction is generalizing s with
  | nil => simp [history]
  | cons i is ih =>
    obtain ⟨s₁, h₁, h₂⟩ := (m.run_cons).mp hr
    have hfirst := hstep s i s₁ h h₁
    rw [m.history_cons h₁, List.forall_mem_cons, List.forall_mem_cons]
    constructor
    · rintro ⟨hP, hrest⟩
      exact ⟨hfirst.mp hP, (ih hP h₂).mp hrest⟩
    · rintro ⟨hC, hrest⟩
      exact ⟨hfirst.mpr hC, (ih (hfirst.mpr hC) h₂).mpr hrest⟩

/-- A record kept beside the run: if under its invariant each step is as required exactly when it
meets the condition, and the invariant survives such steps, all steps of a run are as required
exactly when all meet the condition. -/
theorem history_record_iff {γ : Type*} {f : γ → Step σ ι → γ} {I : γ → σ → Prop}
    {C D : σ → ι → Prop} {R : γ → Step σ ι → Prop}
    (hstep : ∀ g s i s', I g s → D s i → m.step s i = some s' →
      (R g ⟨s, i, s'⟩ ↔ C s i) ∧ (C s i → I (f g ⟨s, i, s'⟩) s'))
    {g : γ} {s s' : σ} {is : List ι} (h : I g s) (hd : m.Within D s is)
    (hr : m.run s is = some s') :
    (∀ earlier step later, m.history s is = earlier ++ step :: later →
        R (earlier.foldl f g) step) ↔ m.Within C s is := by
  induction is generalizing g s with
  | nil => simp [history, Within]
  | cons i is ih =>
    obtain ⟨s₁, h₁, h₂⟩ := (m.run_cons).mp hr
    obtain ⟨hfirst, hkept⟩ := hstep g s i s₁ h hd.1 h₁
    rw [m.history_cons h₁, m.within_cons h₁]
    constructor
    · intro hall
      have hC : C s i := hfirst.mp (hall [] _ _ rfl)
      refine ⟨hC, (ih (hkept hC) (hd.2 s₁ h₁) h₂).mp fun earlier step later hsplit => ?_⟩
      exact hall (⟨s, i, s₁⟩ :: earlier) step later (by rw [hsplit, List.cons_append])
    · intro hC earlier step later hsplit
      cases earlier with
      | nil =>
        cases hsplit
        exact hfirst.mpr hC.1
      | cons first earlier =>
        rw [List.cons_append, List.cons.injEq] at hsplit
        obtain ⟨rfl, hsplit⟩ := hsplit
        exact (ih (hkept hC.1) (hd.2 s₁ h₁) h₂).mpr hC.2 earlier step later hsplit

/-- A step leaves a mark that all later steps keep, and that a marked state excludes. -/
theorem history_pairwise_within {I : σ → Prop} {C : σ → ι → Prop} {J : Step σ ι → σ → Prop}
    {R : Step σ ι → Step σ ι → Prop}
    (hstep : ∀ s i s', I s → C s i → m.step s i = some s' → I s' ∧ J ⟨s, i, s'⟩ s')
    (hkeep : ∀ earlier s i s', I s → C s i → J earlier s → m.step s i = some s' →
      R earlier ⟨s, i, s'⟩ ∧ J earlier s')
    {s s' : σ} {is : List ι} (h : I s) (hc : m.Within C s is) (hr : m.run s is = some s') :
    (m.history s is).Pairwise R := by
  induction is generalizing s with
  | nil => exact List.Pairwise.nil
  | cons i is ih =>
    obtain ⟨s₁, h₁, h₂⟩ := (m.run_cons).mp hr
    obtain ⟨hI, hJ⟩ := hstep s i s₁ h hc.1 h₁
    have hmark : ∀ s₂ j s₃, I s₂ ∧ J ⟨s, i, s₁⟩ s₂ → C s₂ j → m.step s₂ j = some s₃ →
        (I s₃ ∧ J ⟨s, i, s₁⟩ s₃) ∧ R ⟨s, i, s₁⟩ ⟨s₂, j, s₃⟩ := by
      intro s₂ j s₃ hmarked hC hs
      obtain ⟨hR, hkept⟩ := hkeep _ s₂ j s₃ hmarked.1 hC hmarked.2 hs
      exact ⟨⟨(hstep s₂ j s₃ hmarked.1 hC hs).1, hkept⟩, hR⟩
    rw [m.history_cons h₁]
    exact List.Pairwise.cons (m.history_forall_within hmark ⟨hI, hJ⟩ (hc.2 s₁ h₁) h₂)
      (ih hI (hc.2 s₁ h₁) h₂)

theorem history_pairwise {I : σ → Prop} {J : Step σ ι → σ → Prop} {R : Step σ ι → Step σ ι → Prop}
    (hstep : ∀ s i s', I s → m.step s i = some s' → I s' ∧ J ⟨s, i, s'⟩ s')
    (hkeep : ∀ earlier s i s', I s → J earlier s → m.step s i = some s' →
      R earlier ⟨s, i, s'⟩ ∧ J earlier s')
    {s s' : σ} {is : List ι} (h : I s) (hr : m.run s is = some s') :
    (m.history s is).Pairwise R :=
  m.history_pairwise_within (fun s i s' hI _ => hstep s i s' hI)
    (fun earlier s i s' hI _ => hkeep earlier s i s' hI) h (m.within_true s is) hr

/-- The mark of every step of a run whose steps meet the condition is found in its last state. -/
theorem history_marks {I : σ → Prop} {C : σ → ι → Prop} {J : Step σ ι → σ → Prop}
    (hstep : ∀ s i s', I s → C s i → m.step s i = some s' → I s' ∧ J ⟨s, i, s'⟩ s')
    (hkeep : ∀ earlier s i s', I s → C s i → J earlier s → m.step s i = some s' → J earlier s')
    {s s' : σ} {is : List ι} (h : I s) (hc : m.Within C s is) (hr : m.run s is = some s') :
    ∀ step ∈ m.history s is, J step s' := by
  induction is generalizing s with
  | nil => simp [history]
  | cons i is ih =>
    obtain ⟨s₁, h₁, h₂⟩ := (m.run_cons).mp hr
    obtain ⟨hI, hJ⟩ := hstep s i s₁ h hc.1 h₁
    rw [m.history_cons h₁]
    intro step hmem
    rcases List.mem_cons.mp hmem with rfl | hlater
    · have hmarked : ∀ s₂ j s₃, I s₂ ∧ J ⟨s, i, s₁⟩ s₂ → C s₂ j → m.step s₂ j = some s₃ →
          I s₃ ∧ J ⟨s, i, s₁⟩ s₃ := fun s₂ j s₃ hmark hC hs =>
        ⟨(hstep s₂ j s₃ hmark.1 hC hs).1, hkeep _ s₂ j s₃ hmark.1 hC hmark.2 hs⟩
      exact (m.run_preserves_within hmarked ⟨hI, hJ⟩ (hc.2 s₁ h₁) h₂).2
    · exact ih hI (hc.2 s₁ h₁) h₂ step hlater

end Foundation.Machine
