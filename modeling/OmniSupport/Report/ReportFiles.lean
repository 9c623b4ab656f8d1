import OmniSupport.Report.JobLifecycle

/-! The files of reports: while no completing update or clean-up of an upload fails, a file is in
the hands of its run, belongs to its completed job, or is deleted. -/
namespace OmniSupport.Report
open Foundation Database ReportService

namespace ReportTask

/-- The file a run has stored and not yet given to its job or deleted. -/
def uploaded : ReportTask → Option StoragePath
  | .completing _ _ _ _ path | .deletingUpload _ _ path => some path
  | _ => none

/-- The expired jobs a worker goes through. -/
def overdue : ReportTask → List JobRow
  | .deletingFile _ job rest | .expiring job rest => job :: rest
  | _ => []

end ReportTask

/-- A run that has stored its file neither fails to update its job or to delete the file, nor
crashes before it has done so. -/
def CleansUp (c : ReportPool) : ReportLabel → Prop
  | .act w .throws | .act w .crash => (c.locals w).task.uploaded = none
  | _ => True

instance (c : ReportPool) : DecidablePred (CleansUp c)
  | .act w .throws => inferInstanceAs (Decidable ((c.locals w).task.uploaded = none))
  | .act w .crash => inferInstanceAs (Decidable ((c.locals w).task.uploaded = none))
  | .act _ (.look _) | .act _ .start | .act _ (.found _) | .act _ (.authorize _)
  | .act _ (.upload _) | .act _ .go | .env _ => isTrue trivial

/-- The row as a worker found it overdue, and what is left of it. -/
structure Overdue (s : ReportStore) (job : JobRow) : Prop where
  known : job.id ∈ s.ids
  expiresAt : ∃ t, job.expiresAt = some t ∧ t ≤ s.now
  path : ∀ p, job.storagePath = some p → p ∈ s.paths
  finished : ∀ r ∈ s.jobs, r.id = job.id → r.status = .completed ∨ r.status = .expired
  same : ∀ r ∈ s.jobs, r.id = job.id → r.status = .completed →
    r.storagePath = job.storagePath ∧ r.expiresAt = job.expiresAt
  owner : ∀ r ∈ s.jobs, ∀ p, r.storagePath = some p → job.storagePath = some p → r.id = job.id

/-- The stored files and the jobs that refer to them. -/
structure FilesKept (s : ReportStore) : Prop where
  keys : s.Keyed
  files : ∀ p ∈ s.files, p ∈ s.paths
  completed : ∀ r ∈ s.jobs, r.status = .completed →
    ∃ p t, r.storagePath = some p ∧ r.expiresAt = some t ∧ (t ≤ s.now ∨ p ∈ s.files)
  path : ∀ r ∈ s.jobs, ∀ p, r.storagePath = some p → r.status = .completed ∧ p ∈ s.paths
  distinct : ∀ r ∈ s.jobs, ∀ r' ∈ s.jobs, ∀ p, r.storagePath = some p → r'.storagePath = some p →
    r = r'

/-- What a worker knows of the files it is to give away or to delete. -/
structure HoldsFiles (worker : ReportWorker) (s : ReportStore) : Prop where
  clock : worker.clock ≤ s.now
  uploaded : ∀ p, worker.task.uploaded = some p →
    p ∈ s.files ∧ ∀ r ∈ s.jobs, r.storagePath ≠ some p
  overdue : ∀ job ∈ worker.task.overdue, Overdue s job
  deleting : ∀ p job rest, worker.task = .deletingFile p job rest → job.storagePath = some p
  expiring : ∀ job rest, worker.task = .expiring job rest →
    ∀ p, job.storagePath = some p → p ∉ s.files

/-- No other worker has the file of a run. -/
structure FilesApart (worker worker' : ReportWorker) : Prop where
  uploaded : ∀ p, worker.task.uploaded = some p → worker'.task.uploaded ≠ some p
  overdue : ∀ p, worker.task.uploaded = some p → ∀ job ∈ worker'.task.overdue,
    job.storagePath ≠ some p
  overdue' : ∀ p, worker'.task.uploaded = some p → ∀ job ∈ worker.task.overdue,
    job.storagePath ≠ some p

abbrev fileOutline : Program.Outline ReportStore ReportWorker where
  inv := FilesKept
  own _ := HoldsFiles
  pair := FilesApart

/-- What a step does to the files: new ones come under new paths, and a worker deletes only the
file of an overdue job, or the one its run has stored. -/
structure FileStep (c : ReportPool) (i : ReportLabel) (s' : ReportStore) : Prop where
  paths : ∀ p ∈ c.shared.paths, p ∈ s'.paths
  new : ∀ p ∈ s'.files, p ∈ c.shared.files ∨ (p ∉ c.shared.paths ∧ p ∈ s'.paths)
  lost : ∀ p ∈ c.shared.files, p ∉ s'.files → ∃ w, i = .act w .go ∧
    ((∃ run rest, (c.locals w).task = .deletingUpload run rest p) ∨
      ∃ job rest, (c.locals w).task = .deletingFile p job rest)

section steps
variable {c c' : ReportPool} {i : ReportLabel} {s' : ReportStore} {task' : ReportTask} {w : Nat}
  {worker' : ReportWorker}

theorem FileStep.same (hfiles : s'.files = c.shared.files) (hpaths : s'.paths = c.shared.paths) :
    FileStep c i s' where
  paths _ hp := hpaths ▸ hp
  new _ hp := .inl (hfiles ▸ hp)
  lost _ hp hlost := absurd (hfiles ▸ hp) hlost

theorem mem_deleteFile {s : ReportStore} {p path : StoragePath} :
    p ∈ (s.deleteFile path).files ↔ p ∈ s.files ∧ p ≠ path := by
  simp [ReportStore.deleteFile]

/-- A worker deletes one file. -/
theorem FileStep.delete {path : StoragePath}
    (hworker : (∃ run rest, (c.locals w).task = .deletingUpload run rest path) ∨
      ∃ job rest, (c.locals w).task = .deletingFile path job rest) :
    FileStep c (.act w .go) (c.shared.deleteFile path) where
  paths _ hp := hp
  new _ hp := .inl (mem_deleteFile.mp hp).1
  lost p hp hlost := by
    have heq : p = path := by
      by_contra hne
      exact hlost (mem_deleteFile.mpr ⟨hp, hne⟩)
    rw [heq]
    exact ⟨w, rfl, hworker⟩

theorem go_fileStep (h : go c.shared (c.locals w) = some (s', task')) :
    FileStep c (.act w .go) s' := by
  unfold go at h
  cases hw : (c.locals w).task with
  | idle | findingExpired | listing | authorizing | uploading =>
    rw [hw] at h
    cases h
  | deletingFile path job rest =>
    rw [hw] at h
    cases h
    exact .delete (.inr ⟨job, rest, hw⟩)
  | deletingUpload run rest path =>
    rw [hw] at h
    cases h
    exact .delete (.inl ⟨run, rest, hw⟩)
  | next listedAt jobs =>
    rw [hw] at h
    cases jobs <;> cases h <;> exact .same rfl rfl
  | reading | checking | auditing | purging | expiring | claiming | completing | failing =>
    rw [hw] at h
    cases h
    exact .same rfl rfl

theorem act_fileStep {step : ReportStep} (h : act w c.shared (c.locals w) step = some (s', worker')) :
    FileStep c (.act w step) s' := by
  cases step with
  | go =>
    obtain ⟨r, hr, he⟩ := Option.map_eq_some_iff.mp h
    cases he
    exact go_fileStep hr
  | look time =>
    simp only [act] at h
    split at h <;> cases h
    exact .same rfl rfl
  | start =>
    simp only [act] at h
    split at h <;> cases h
    exact .same rfl rfl
  | crash =>
    cases h
    exact .same rfl rfl
  | found | authorize | throws =>
    obtain ⟨task, -, he⟩ := Option.map_eq_some_iff.mp h
    cases he
    exact .same rfl rfl
  | upload path =>
    obtain ⟨r, hr, he⟩ := Option.map_eq_some_iff.mp h
    cases he
    cases hw : (c.locals w).task with
    | uploading run rest role records =>
      rw [hw] at hr
      simp only [upload] at hr
      split at hr
      · cases hr
      · rename_i hfresh
        cases hr
        refine ⟨fun p hp => List.mem_cons_of_mem _ hp, fun p hp => ?_, fun p hp hlost => ?_⟩
        · rcases List.mem_cons.mp hp with rfl | hold
          · exact .inr ⟨hfresh, List.mem_cons_self⟩
          · exact .inl hold
        · exact absurd (List.mem_cons_of_mem _ hp) hlost
    | _ =>
      rw [hw] at hr
      cases hr

theorem move_fileStep {m : ReportMove} (h : move c.shared m = some s') :
    FileStep c (.env m) s' := by
  cases m with
  | create | rewriteTickets | rewriteCustomers =>
    simp only [move] at h
    split at h <;> cases h
    exact .same rfl rfl
  | cancel | tick =>
    cases h
    exact .same rfl rfl

theorem JobStep.of_finished {r r' : JobRow} (h : JobStep c i r r')
    (hr : r.status = .completed ∨ r.status = .expired) :
    r' = r ∨ r.status = .completed ∧ r' = r.expire c.shared.now ∧
      ∃ w job rest, i = .act w .go ∧ (c.locals w).task = .expiring job rest ∧ r.id = job.id := by
  cases h with
  | same => exact .inl rfl
  | expired w job rest r hw hid h => exact .inr ⟨h, rfl, w, job, rest, rfl, hw, hid⟩
  | claimed w run rest r hw hid h =>
    rcases h with h | ⟨h, -⟩ <;> rcases hr with hr | hr <;> rw [h] at hr <;> cases hr
  | completed w run rest role records path r hw h =>
    rcases hr with hr | hr <;> rw [h.2.1] at hr <;> cases hr
  | failed w run rest error r hw h =>
    rcases hr with hr | hr <;> rw [h.2.1] at hr <;> cases hr
  | cancelled id tenantId requesterId r h =>
    rcases h.2.2.2 with h | h <;> rcases hr with hr | hr <;> rw [h] at hr <;> cases hr

/-- A worker that holds the stored file `p` completes the job with it. -/
def Given (c : ReportPool) (i : ReportLabel) (p : StoragePath) (r r' : JobRow) : Prop :=
  ∃ w run rest role records, i = .act w .go ∧
    (c.locals w).task = .completing run rest role records p ∧ r.heldBy run ∧
    r' = r.complete c.shared.now p records.length ((c.locals w).clock + reportLifetimeMs)

/-- A job that is completed after a step was completed before, or has just been given its file. -/
theorem JobStep.of_completed {r r' : JobRow} (h : JobStep c i r r') (hr : r'.status = .completed) :
    r' = r ∨ ∃ p, Given c i p r r' := by
  cases h with
  | same => exact .inl rfl
  | completed w run rest role records path r hw h =>
    exact .inr ⟨path, w, run, rest, role, records, rfl, hw, h, rfl⟩
  | claimed | failed | cancelled | expired => cases hr

/-- A path that a row refers to after a step it referred to before, or has just been given. -/
theorem JobStep.of_path {r r' : JobRow} {p : StoragePath} (h : JobStep c i r r')
    (hr : ∀ p, r.storagePath = some p → r.status = .completed) (hp : r'.storagePath = some p) :
    r' = r ∨ Given c i p r r' := by
  cases h with
  | same => exact .inl rfl
  | completed w run rest role records path r hw h =>
    cases hp
    exact .inr ⟨w, run, rest, role, records, rfl, hw, h, rfl⟩
  | expired => cases hp
  | claimed w run rest r hw hid h =>
    have hcompleted := hr p hp
    rcases h with h | ⟨h, -⟩ <;> rw [h] at hcompleted <;> cases hcompleted
  | failed w run rest error r hw h =>
    have hcompleted := hr p hp
    rw [h.2.1] at hcompleted
    cases hcompleted
  | cancelled id tenantId requesterId r h =>
    have hcompleted := hr p hp
    rcases h.2.2.2 with h | h <;> rw [h] at hcompleted <;> cases hcompleted

theorem Given.uploaded {p : StoragePath} {r r' : JobRow} (h : Given c i p r r') :
    ∃ w, i = .act w .go ∧ (c.locals w).task.uploaded = some p := by
  obtain ⟨w, run, rest, role, records, hi, hw, -⟩ := h
  exact ⟨w, hi, by rw [hw]; rfl⟩

end steps

section invariant
variable {c c' : ReportPool} {i : ReportLabel} {s' : ReportStore} {p : StoragePath} {r' : JobRow}

/-- No run holds the file of an overdue job. -/
theorem overdue_free (h : fileOutline.Holds c) {q : Nat} {job : JobRow}
    (hjob : job ∈ (c.locals q).task.overdue) {v : Nat}
    (hv : (c.locals v).task.uploaded = some p) : job.storagePath ≠ some p := by
  by_cases hvq : v = q
  · rw [hvq] at hv
    cases htask : (c.locals q).task <;> rw [htask] at hv hjob <;> cases hv <;> cases hjob
  · exact (h.pair v q hvq).overdue p hv job hjob

/-- Where a path comes from that a row refers to after the step. -/
theorem path_source (h : fileOutline.Holds c) (hs : c.shared.RowStep (JobStep c i) s')
    (hr' : r' ∈ s'.jobs) (hp : r'.storagePath = some p) :
    r' ∈ c.shared.jobs ∨ ∃ r ∈ c.shared.jobs, Given c i p r r' := by
  rcases hs.moved.source r' hr' with ⟨r, hr, hstep⟩ | ⟨-, hnew⟩
  · rcases hstep.of_path (fun p hp => (h.inv.path r hr p hp).1) hp with rfl | hgiven
    · exact .inl hr
    · exact .inr ⟨r, hr, hgiven⟩
  · rw [hnew.storagePath] at hp
    cases hp

theorem overdue_step (h : fileOutline.Holds c) (hs : c.shared.RowStep (JobStep c i) s')
    (hf : FileStep c i s') {q : Nat} {job : JobRow} (hjob : job ∈ (c.locals q).task.overdue) :
    Overdue s' job := by
  obtain ⟨hknown, ⟨t, ht, hle⟩, hpath, hfinished, hsame, howner⟩ := (h.own q).overdue job hjob
  have hid : ∀ r r', JobStep c i r r' → r'.id = r.id := fun _ _ => JobStep.id_eq
  refine ⟨hs.moved.grows hknown, ⟨t, ht, hle.trans hs.now⟩, fun p hp => hf.paths p (hpath p hp),
    ?_, ?_, fun r' hr' p hp hjobp => ?_⟩
  · intro r' hr' hid'
    rcases hs.moved.source r' hr' with ⟨r, hr, hstep⟩ | ⟨hfresh, -⟩
    · have hstatus := hfinished r hr (hstep.id_eq.symm.trans hid')
      rcases hstep.of_finished hstatus with rfl | ⟨-, rfl, -⟩
      · exact hstatus
      · exact .inr rfl
    · exact absurd (hid' ▸ hknown) hfresh
  · intro r' hr' hid' hcompleted
    rcases hs.moved.source r' hr' with ⟨r, hr, hstep⟩ | ⟨hfresh, -⟩
    · have hr₀ := hstep.id_eq.symm.trans hid'
      rcases hstep.of_finished (hfinished r hr hr₀) with rfl | ⟨-, rfl, -⟩
      · exact hsame r' hr hr₀ hcompleted
      · cases hcompleted
    · exact absurd (hid' ▸ hknown) hfresh
  · rcases path_source h hs hr' hp with hold | ⟨r, hr, hgiven⟩
    · exact howner r' hold p hp hjobp
    · obtain ⟨w, -, hw⟩ := hgiven.uploaded
      exact absurd hjobp (overdue_free h hjob hw)

/-- A file that a run holds is lost only to its own clean-up. -/
theorem uploaded_kept (h : fileOutline.Holds c) (hf : FileStep c i s') {v : Nat}
    (hv : (c.locals v).task.uploaded = some p)
    (hown : ∀ run rest, (c.locals v).task = .deletingUpload run rest p → i ≠ .act v .go) :
    p ∈ s'.files := by
  by_contra hlost
  obtain ⟨w, hi, ⟨run, rest, hw⟩ | ⟨job, rest, hw⟩⟩ := hf.lost p ((h.own v).uploaded p hv).1 hlost
  · by_cases hwv : w = v
    · rw [hwv] at hi hw
      exact hown run rest hw hi
    · have huploaded : (c.locals w).task.uploaded = some p := by rw [hw]; rfl
      exact (h.pair w v hwv).uploaded p huploaded hv
  · have hjob : job ∈ (c.locals w).task.overdue := by
      rw [hw]
      exact List.mem_cons_self
    exact overdue_free h hjob hv ((h.own w).deleting p job rest hw)

/-- No row comes to refer to the file of a run but by its own completing update. -/
theorem uploaded_unreferenced (h : fileOutline.Holds c) (hs : c.shared.RowStep (JobStep c i) s')
    {v : Nat} (hv : (c.locals v).task.uploaded = some p)
    (hown : ∀ r ∈ c.shared.jobs, ∀ run rest role records,
      (c.locals v).task = .completing run rest role records p → r.heldBy run → i ≠ .act v .go) :
    ∀ r' ∈ s'.jobs, r'.storagePath ≠ some p := by
  intro r' hr' hp
  rcases path_source h hs hr' hp with hold | ⟨r, hr, w, run, rest, role, records, hi, hw, hheld, -⟩
  · exact ((h.own v).uploaded p hv).2 r' hold hp
  · by_cases hwv : w = v
    · rw [hwv] at hi hw
      exact hown r hr run rest role records hw hheld hi
    · have huploaded : (c.locals w).task.uploaded = some p := by rw [hw]; rfl
      exact (h.pair w v hwv).uploaded p huploaded hv

theorem expiring_step (h : fileOutline.Holds c) (hf : FileStep c i s') {v : Nat} {job : JobRow}
    {rest : List JobRow} (hv : (c.locals v).task = .expiring job rest)
    (hp : job.storagePath = some p) : p ∉ s'.files := by
  intro hfile
  rcases hf.new p hfile with hold | ⟨hfresh, -⟩
  · exact (h.own v).expiring job rest hv p hp hold
  · have hjob : job ∈ (c.locals v).task.overdue := by
      rw [hv]
      exact List.mem_cons_self
    exact hfresh (((h.own v).overdue job hjob).path p hp)

/-- A worker that takes no part in the step. -/
theorem holds_other (h : fileOutline.Holds c) (hs : c.shared.RowStep (JobStep c i) s')
    (hf : FileStep c i s') {v : Nat} (hv : ∀ step, i ≠ .act v step) :
    HoldsFiles (c.locals v) s' where
  clock := (h.own v).clock.trans hs.now
  uploaded _ hp := ⟨uploaded_kept h hf hp fun _ _ _ => hv .go,
    uploaded_unreferenced h hs hp fun _ _ _ _ _ _ _ _ => hv .go⟩
  overdue _ hjob := overdue_step h hs hf hjob
  deleting := (h.own v).deleting
  expiring _ _ htask _ hp := expiring_step h hf htask hp

theorem filesKept_step (h : fileOutline.Holds c) (hs : c.shared.RowStep (JobStep c i) s')
    (hf : FileStep c i s') : FilesKept s' := by
  refine ⟨hs.moved.keyed, fun p hp => ?_, fun r' hr' hstatus => ?_, fun r' hr' p hp => ?_,
    fun r₁ hr₁ r₂ hr₂ p hp₁ hp₂ => ?_⟩
  · rcases hf.new p hp with hold | ⟨-, hnew⟩
    · exact hf.paths p (h.inv.files p hold)
    · exact hnew
  · rcases hs.moved.source r' hr' with ⟨r, hr, hstep⟩ | ⟨-, hnew⟩
    · rcases hstep.of_completed hstatus with rfl | ⟨p, hgiven⟩
      · obtain ⟨p, t, hp, ht, hstored⟩ := h.inv.completed r' hr hstatus
        refine ⟨p, t, hp, ht, ?_⟩
        rcases hstored with hlate | hfile
        · exact .inl (hlate.trans hs.now)
        · by_contra hlost
          rw [not_or] at hlost
          obtain ⟨w, -, ⟨run, rest, hw⟩ | ⟨job, rest, hw⟩⟩ := hf.lost p hfile hlost.2
          · have huploaded : (c.locals w).task.uploaded = some p := by rw [hw]; rfl
            exact ((h.own w).uploaded p huploaded).2 r' hr hp
          · have hjob : job ∈ (c.locals w).task.overdue := by
              rw [hw]
              exact List.mem_cons_self
            have hoverdue := (h.own w).overdue job hjob
            have hjobp := (h.own w).deleting p job rest hw
            have hid := hoverdue.owner r' hr p hp hjobp
            obtain ⟨t', ht', hle⟩ := hoverdue.expiresAt
            rw [(hoverdue.same r' hr hid hstatus).2, ht'] at ht
            cases ht
            exact hlost.1 (hle.trans hs.now)
      · obtain ⟨w, run, rest, role, records, hi, hw, hheld, rfl⟩ := hgiven
        have huploaded : (c.locals w).task.uploaded = some p := by rw [hw]; rfl
        refine ⟨p, _, rfl, rfl, .inr (uploaded_kept h hf huploaded fun run' rest' hw' => ?_)⟩
        rw [hw] at hw'
        cases hw'
    · rw [hnew.status] at hstatus
      cases hstatus
  · rcases path_source h hs hr' hp with hold | ⟨r, hr, hgiven⟩
    · exact ⟨(h.inv.path r' hold p hp).1, hf.paths p (h.inv.path r' hold p hp).2⟩
    · obtain ⟨w, -, hw⟩ := hgiven.uploaded
      obtain ⟨_, _, _, _, _, -, -, -, rfl⟩ := hgiven
      exact ⟨rfl, hf.paths p (h.inv.files p ((h.own w).uploaded p hw).1)⟩
  · rcases path_source h hs hr₁ hp₁ with hold₁ | ⟨r, hr, hgiven₁⟩ <;>
      rcases path_source h hs hr₂ hp₂ with hold₂ | ⟨r', hr', hgiven₂⟩
    · exact h.inv.distinct r₁ hold₁ r₂ hold₂ p hp₁ hp₂
    · obtain ⟨w, -, hw⟩ := hgiven₂.uploaded
      exact absurd hp₁ (((h.own w).uploaded p hw).2 r₁ hold₁)
    · obtain ⟨w, -, hw⟩ := hgiven₁.uploaded
      exact absurd hp₂ (((h.own w).uploaded p hw).2 r₂ hold₂)
    · obtain ⟨w, run, rest, role, records, hi, hw, hheld, rfl⟩ := hgiven₁
      obtain ⟨w', run', rest', role', records', hi', hw', hheld', rfl⟩ := hgiven₂
      cases hi.symm.trans hi'
      cases hw.symm.trans hw'
      rw [h.inv.keys.eq hr hr' (hheld.1.trans hheld'.1.symm)]

end invariant

section outline
variable {c : ReportPool} {s s' : ReportStore} {worker worker' : ReportWorker} {step : ReportStep}

/-- What a step of a worker does to the files it is to give away or to delete. -/
structure HandStep (step : ReportStep) (s s' : ReportStore) (worker worker' : ReportWorker) :
    Prop where
  uploaded : ∀ p, worker'.task.uploaded = some p → worker.task.uploaded = some p ∧
      (∀ run rest, worker.task = .deletingUpload run rest p → step ≠ .go) ∧
      (∀ run rest role records, worker.task = .completing run rest role records p → step = .go →
        Table.count (JobRow.heldBy run) s.jobs ≠ 1) ∨
    p ∉ s.paths ∧ s' = s.upload p
  overdue : ∀ job ∈ worker'.task.overdue, job ∈ worker.task.overdue ∨
    job ∈ s.jobs ∧ job.overdue worker.clock ∧ s' = s
  deleting : ∀ p job rest, worker'.task = .deletingFile p job rest →
    worker'.task = worker.task ∨ job.storagePath = some p
  expiring : ∀ job rest, worker'.task = .expiring job rest → worker'.task = worker.task ∨
    job.storagePath = none ∨ ∃ p, worker.task = .deletingFile p job rest ∧ s' = s.deleteFile p

/-- A worker that has no file to give away or to delete after the step. -/
theorem HandStep.free (huploaded : worker'.task.uploaded = none)
    (hoverdue : worker'.task.overdue = []) : HandStep step s s' worker worker' where
  uploaded p hp := by
    rw [huploaded] at hp
    cases hp
  overdue job hjob := by
    rw [hoverdue] at hjob
    cases hjob
  deleting p job rest htask := by
    rw [htask] at hoverdue
    cases hoverdue
  expiring job rest htask := by
    rw [htask] at hoverdue
    cases hoverdue

theorem HandStep.headed {jobs : List JobRow}
    (hjobs : ∀ job ∈ jobs, job ∈ worker.task.overdue ∨
      job ∈ s.jobs ∧ job.overdue worker.clock ∧ s' = s) :
    HandStep step s s' worker { worker with task := expireNext jobs } := by
  cases jobs with
  | nil => exact .free rfl rfl
  | cons job rest =>
    cases hpath : job.storagePath with
    | none =>
      have htask : expireNext (job :: rest) = .expiring job rest := by
        simp only [expireNext, hpath]
      refine ⟨fun p hp => ?_, fun job' hjob' => ?_, fun p job' rest' h => ?_, fun job' rest' h => ?_⟩
      · rw [htask] at hp
        cases hp
      · rw [htask] at hjob'
        exact hjobs job' hjob'
      · rw [htask] at h
        cases h
      · rw [htask] at h
        cases h
        exact .inr (.inl hpath)
    | some path =>
      have htask : expireNext (job :: rest) = .deletingFile path job rest := by
        simp only [expireNext, hpath]
      refine ⟨fun p hp => ?_, fun job' hjob' => ?_, fun p job' rest' h => ?_, fun job' rest' h => ?_⟩
      · rw [htask] at hp
        cases hp
      · rw [htask] at hjob'
        exact hjobs job' hjob'
      · rw [htask] at h
        cases h
        exact .inr hpath
      · rw [htask] at h
        cases h

theorem go_handStep {task' : ReportTask} (h : go s worker = some (s', task')) :
    HandStep .go s s' worker { worker with task := task' } := by
  unfold go at h
  cases htask : worker.task with
  | idle | findingExpired | listing | authorizing | uploading =>
    rw [htask] at h
    cases h
  | deletingFile path job rest =>
    rw [htask] at h
    cases h
    refine ⟨fun p hp => (by cases hp), fun job' hjob' => ?_, fun _ _ _ h => (by cases h),
      fun job' rest' h => ?_⟩
    · rw [htask]
      exact .inl hjob'
    · cases h
      exact .inr (.inr ⟨path, htask, rfl⟩)
  | expiring job rest =>
    rw [htask] at h
    cases h
    refine .headed fun job' hjob' => ?_
    rw [htask]
    exact .inl (List.mem_cons_of_mem _ hjob')
  | purging | deletingUpload | auditing | failing =>
    rw [htask] at h
    cases h
    exact .free rfl rfl
  | next listedAt jobs =>
    rw [htask] at h
    cases jobs <;> cases h <;> exact .free rfl rfl
  | claiming run rest =>
    rw [htask] at h
    cases h
    split <;> exact .free rfl rfl
  | reading run rest role records cursor =>
    rw [htask] at h
    cases h
    split
    · exact .free rfl rfl
    · unfold afterPage
      split
      · exact .free rfl rfl
      · split <;> exact .free rfl rfl
  | checking run rest role records page =>
    rw [htask] at h
    cases h
    split
    · unfold afterCheck
      split <;> exact .free rfl rfl
    · exact .free rfl rfl
  | completing run rest role records path =>
    rw [htask] at h
    cases h
    by_cases hcount : Table.count (JobRow.heldBy run) s.jobs = 1
    · simp only [hcount, if_true]
      exact .free rfl rfl
    · simp only [hcount, if_false]
      refine ⟨fun p hp => .inl ⟨?_, ?_, ?_⟩, fun _ h => (by cases h), fun _ _ _ h => (by cases h),
        fun _ _ h => by cases h⟩
      · rw [htask]
        exact hp
      · intro run' rest' h
        rw [htask] at h
        cases h
      · intro run' rest' role' records' h _
        rw [htask] at h
        cases h
        exact hcount

theorem act_handStep {w : Nat} (h : act w s worker step = some (s', worker')) :
    HandStep step s s' worker worker' := by
  cases step with
  | go =>
    obtain ⟨r, hr, he⟩ := Option.map_eq_some_iff.mp h
    cases he
    exact go_handStep hr
  | look time =>
    simp only [act] at h
    split at h <;> cases h
    exact ⟨fun p hp => .inl ⟨hp, fun _ _ _ h => (by cases h), fun _ _ _ _ _ h => (by cases h)⟩,
      fun _ hjob => .inl hjob, fun _ _ _ _ => .inl rfl, fun _ _ _ => .inl rfl⟩
  | start =>
    simp only [act] at h
    split at h <;> cases h
    exact .free rfl rfl
  | crash =>
    cases h
    exact .free rfl rfl
  | found picked =>
    obtain ⟨task, ht, he⟩ := Option.map_eq_some_iff.mp h
    cases he
    unfold found at ht
    cases htask : worker.task with
    | findingExpired =>
      rw [htask] at ht
      simp only at ht
      split at ht
      · rename_i hpicks
        cases ht
        refine .headed fun job hjob => .inr ?_
        exact ⟨(hpicks.2.1 job hjob).1, (hpicks.2.1 job hjob).2, rfl⟩
      · cases ht
    | listing =>
      rw [htask] at ht
      simp only at ht
      split at ht <;> cases ht
      exact .free rfl rfl
    | _ =>
      rw [htask] at ht
      cases ht
  | authorize answer =>
    obtain ⟨task, ht, he⟩ := Option.map_eq_some_iff.mp h
    cases he
    cases htask : worker.task with
    | authorizing run rest =>
      rw [htask] at ht
      cases ht
      cases answer <;> exact .free rfl rfl
    | _ =>
      rw [htask] at ht
      cases ht
  | throws =>
    obtain ⟨task, ht, he⟩ := Option.map_eq_some_iff.mp h
    cases he
    cases htask : worker.task <;> rw [htask] at ht <;> cases ht <;> exact .free rfl rfl
  | upload path =>
    obtain ⟨r, hr, he⟩ := Option.map_eq_some_iff.mp h
    cases he
    cases htask : worker.task with
    | uploading run rest role records =>
      rw [htask] at hr
      simp only [upload] at hr
      split at hr
      · cases hr
      · rename_i hfresh
        cases hr
        refine ⟨fun p hp => ?_, fun _ h => (by cases h), fun _ _ _ h => (by cases h),
          fun _ _ h => by cases h⟩
        cases hp
        exact .inr ⟨hfresh, rfl⟩
    | _ =>
      rw [htask] at hr
      cases hr

/-- A row that a worker finds overdue. -/
theorem overdue_of_found (h : FilesKept s) {job : JobRow} (hjob : job ∈ s.jobs)
    (hoverdue : job.overdue worker.clock) (hclock : worker.clock ≤ s.now) : Overdue s job := by
  obtain ⟨hstatus, hexpires⟩ := hoverdue
  obtain ⟨t, ht, hle⟩ := (Option.any_eq_true _ _).mp hexpires
  have heq : ∀ r ∈ s.jobs, r.id = job.id → r = job := fun r hr hid => h.keys.eq hr hjob hid
  refine ⟨h.keys.known job hjob, ⟨t, ht, (of_decide_eq_true hle).trans hclock⟩,
    fun p hp => (h.path job hjob p hp).2, fun r hr hid => ?_, fun r hr hid _ => ?_,
    fun r hr p hp hjobp => ?_⟩
  · rw [heq r hr hid]
    exact .inl hstatus
  · rw [heq r hr hid]
    exact ⟨rfl, rfl⟩
  · rw [h.distinct r hr job hjob p hp hjobp]

theorem holds_actor {w : Nat} (h : fileOutline.Holds c)
    (ha : act w c.shared (c.locals w) step = some (s', worker')) : HoldsFiles worker' s' := by
  have hs := act_rowStep h.inv.keys ha
  have hf := act_fileStep ha
  have hhand := act_handStep ha
  have hown := h.own w
  refine ⟨act_clock (w := w) ha (hown.clock.trans hs.now) hs.now, fun p hp => ?_, fun job hjob => ?_,
    fun p job rest htask => ?_, fun job rest htask p hp => ?_⟩
  · rcases hhand.uploaded p hp with ⟨hold, hdelete, hgive⟩ | ⟨hfresh, rfl⟩
    · refine ⟨uploaded_kept h hf hold fun run rest htask hi => ?_,
        uploaded_unreferenced h hs hold fun r hr run rest role records htask hheld hi => ?_⟩
      · cases hi
        exact hdelete run rest htask rfl
      · cases hi
        have hone : Table.count (JobRow.heldBy run) c.shared.jobs ≤ 1 :=
          Table.count_le_one h.inv.keys.nodup fun _ hr => hr.1
        have hpositive : 0 < Table.count (JobRow.heldBy run) c.shared.jobs :=
          Table.count_pos.mpr ⟨r, hr, hheld⟩
        exact hgive run rest role records htask rfl (by omega)
    · exact ⟨List.mem_cons_self, fun r hr hrp => hfresh (h.inv.path r hr p hrp).2⟩
  · rcases hhand.overdue job hjob with hold | ⟨hrow, hoverdue, rfl⟩
    · exact overdue_step h hs hf hold
    · exact overdue_of_found h.inv hrow hoverdue hown.clock
  · rcases hhand.deleting p job rest htask with hsame | hpath
    · exact hown.deleting p job rest (hsame ▸ htask)
    · exact hpath
  · rcases hhand.expiring job rest htask with hsame | hnone | ⟨path, hdeleting, rfl⟩
    · exact expiring_step h hf (hsame ▸ htask) hp
    · rw [hnone] at hp
      cases hp
    · rw [hown.deleting path job rest hdeleting] at hp
      cases hp
      exact fun hfile => (mem_deleteFile.mp hfile).2 rfl

theorem apart_actor {w q : Nat} (h : fileOutline.Holds c)
    (ha : act w c.shared (c.locals w) step = some (s', worker')) (hq : q ≠ w) :
    FilesApart worker' (c.locals q) := by
  have hhand := act_handStep ha
  have hpair := h.pair w q (Ne.symm hq)
  have hstored : ∀ p, (c.locals q).task.uploaded = some p → p ∈ c.shared.paths :=
    fun p hp => h.inv.files p ((h.own q).uploaded p hp).1
  refine ⟨fun p hp hp' => ?_, fun p hp job hjob hjobp => ?_, fun p hp job hjob hjobp => ?_⟩
  · rcases hhand.uploaded p hp with ⟨hold, -⟩ | ⟨hfresh, -⟩
    · exact hpair.uploaded p hold hp'
    · exact hfresh (hstored p hp')
  · rcases hhand.uploaded p hp with ⟨hold, -⟩ | ⟨hfresh, -⟩
    · exact hpair.overdue p hold job hjob hjobp
    · exact hfresh (((h.own q).overdue job hjob).path p hjobp)
  · rcases hhand.overdue job hjob with hold | ⟨hrow, -⟩
    · exact hpair.overdue' p hp job hold hjobp
    · exact ((h.own q).uploaded p hp).2 job hrow hjobp

theorem fileOutline_valid : fileOutline.Valid program fun _ _ => True where
  symm _ _ h := ⟨fun p hp hp' => h.uploaded p hp' hp, h.overdue', h.overdue⟩
  act _ _ _ _ _ h _ ha :=
    ⟨filesKept_step h (act_rowStep h.inv.keys ha) (act_fileStep ha), holds_actor h ha⟩
  others c w step s worker h _ ha q hq := by
    refine ⟨holds_other h (act_rowStep h.inv.keys ha) (act_fileStep ha) fun step' hi => ?_,
      apart_actor h ha hq⟩
    cases hi
    exact hq rfl
  env c m s h _ hm := by
    have hs := move_rowStep h.inv.keys hm
    have hf := move_fileStep hm
    exact ⟨filesKept_step h hs hf, fun q => holds_other h hs hf fun _ hi => by cases hi⟩

theorem fileOutline_init (now : Time) : fileOutline.Holds (init now) := by
  refine ⟨⟨⟨List.nodup_nil, ?_⟩, ?_, ?_, ?_, ?_⟩, fun w => ?_, fun w v _ => ?_⟩
  · exact fun _ h => by cases h
  · exact fun _ h => by cases h
  · exact fun _ h => by cases h
  · exact fun _ h => by cases h
  · exact fun _ h => by cases h
  · exact ⟨Nat.zero_le _, fun _ h => (by cases h), fun _ h => (by cases h),
      fun _ _ _ h => (by cases h), fun _ _ h => by cases h⟩
  · exact ⟨fun _ h => (by cases h), fun _ h => (by cases h), fun _ h => by cases h⟩

end outline

/-- Worker `w` stores the file `p` for its run of job `id`. -/
def Uploads (w : Nat) (id : Uuid) (p : StoragePath) (step : ReportHistoryStep) : Prop :=
  ∃ run rest role records, step.label = .act w (.upload p) ∧
    (step.before.locals w).task = .uploading run rest role records ∧ run.job.id = id

/-- The completed job `id` refers to the file `p`. -/
def Referenced (c : ReportPool) (id : Uuid) (p : StoragePath) : Prop :=
  ∃ r ∈ c.shared.jobs, r.id = id ∧ r.status = .completed ∧ r.storagePath = some p

/-- The run is about to give its file away or to delete it. -/
def InHand (c : ReportPool) (w : Nat) (id : Uuid) (p : StoragePath) : Prop :=
  (c.locals w).task.uploaded = some p ∧ ∃ run, (c.locals w).task.run = some run ∧ run.job.id = id

section results
variable {c c' : ReportPool} {i : ReportLabel} {w : Nat} {id : Uuid} {p : StoragePath}

theorem step_fileStep (hs : machine.step c i = some c') : FileStep c i c'.shared := by
  cases i with
  | act w step =>
    obtain ⟨s', worker', ha, rfl⟩ := program.step_act.mp hs
    exact act_fileStep ha
  | env m =>
    obtain ⟨s', hm, rfl⟩ := program.step_env.mp hs
    exact move_fileStep hm

/-- A worker with a file in hand goes on, fails or crashes. -/
theorem act_uploaded {s s' : ReportStore} {worker worker' : ReportWorker} {step : ReportStep}
    (hp : worker.task.uploaded = some p) (ha : act w s worker step = some (s', worker')) :
    worker'.task = worker.task ∨ step = .go ∨ step = .throws ∨ step = .crash := by
  cases step with
  | go => exact .inr (.inl rfl)
  | throws => exact .inr (.inr (.inl rfl))
  | crash => exact .inr (.inr (.inr rfl))
  | look time =>
    simp only [act] at ha
    split at ha <;> cases ha
    exact .inl rfl
  | start =>
    simp only [act] at ha
    split at ha
    · rename_i hidle
      rw [hidle] at hp
      cases hp
    · cases ha
  | found picked =>
    obtain ⟨task, ht, -⟩ := Option.map_eq_some_iff.mp ha
    unfold found at ht
    cases htask : worker.task with
    | completing | deletingUpload =>
      rw [htask] at ht
      cases ht
    | _ =>
      rw [htask] at hp
      cases hp
  | authorize answer =>
    obtain ⟨task, ht, -⟩ := Option.map_eq_some_iff.mp ha
    cases htask : worker.task with
    | completing | deletingUpload =>
      rw [htask] at ht
      cases ht
    | _ =>
      rw [htask] at hp
      cases hp
  | upload path =>
    obtain ⟨r, hr, -⟩ := Option.map_eq_some_iff.mp ha
    cases htask : worker.task with
    | completing | deletingUpload =>
      rw [htask] at hr
      cases hr
    | _ =>
      rw [htask] at hp
      cases hp

/-- What becomes of the file in hand when its run goes on. -/
theorem inHand_go {s' : ReportStore} {task' : ReportTask} (hhand : InHand c w id p)
    (hgo : go c.shared (c.locals w) = some (s', task')) :
    (task'.uploaded = some p ∧ ∃ run, task'.run = some run ∧ run.job.id = id) ∨ p ∉ s'.files ∨
      ∃ r ∈ s'.jobs, r.id = id ∧ r.status = .completed ∧ r.storagePath = some p := by
  obtain ⟨huploaded, run, hrun, hid⟩ := hhand
  unfold go at hgo
  cases htask : (c.locals w).task with
  | completing run' rest role records path =>
    rw [htask] at hgo huploaded hrun
    cases hgo
    cases huploaded
    cases hrun
    by_cases hcount : Table.count (JobRow.heldBy run) c.shared.jobs = 1
    · have hpositive : 0 < Table.count (JobRow.heldBy run) c.shared.jobs := by omega
      obtain ⟨r, hr, hheld⟩ := Table.count_pos.mp hpositive
      right
      right
      refine ⟨r.complete c.shared.now p records.length ((c.locals w).clock + reportLifetimeMs),
        ?_, hheld.1.trans hid, rfl, rfl⟩
      exact Table.mem_updateMany.mpr (.inl ⟨r, hr, hheld, rfl⟩)
    · simp only [hcount, if_false]
      exact .inl ⟨rfl, run, rfl, hid⟩
  | deletingUpload run' rest path =>
    rw [htask] at hgo huploaded
    cases hgo
    cases huploaded
    exact .inr (.inl fun hfile => (mem_deleteFile.mp hfile).2 rfl)
  | _ =>
    rw [htask] at huploaded
    cases huploaded

theorem inHand_step (hc : CleansUp c i) (hs : machine.step c i = some c')
    (hhand : InHand c w id p) : InHand c' w id p ∨ p ∉ c'.shared.files ∨ Referenced c' id p := by
  obtain ⟨huploaded, run, hrun, hid⟩ := hhand
  cases i with
  | env m =>
    obtain ⟨s', -, rfl⟩ := program.step_env.mp hs
    exact .inl ⟨huploaded, run, hrun, hid⟩
  | act v step =>
    obtain ⟨s', worker', ha, rfl⟩ := program.step_act.mp hs
    by_cases hvw : v = w
    · subst hvw
      rcases act_uploaded (w := v) huploaded ha with hsame | rfl | rfl | rfl
      · left
        refine ⟨?_, run, ?_, hid⟩
        · rwa [c.put_locals_self, hsame]
        · rwa [c.put_locals_self, hsame]
      · obtain ⟨r, hgo, he⟩ := Option.map_eq_some_iff.mp ha
        cases he
        rcases inHand_go ⟨huploaded, run, hrun, hid⟩ hgo with hheld | hlost | href
        · left
          unfold InHand
          rwa [c.put_locals_self]
        · exact .inr (.inl hlost)
        · exact .inr (.inr href)
      · have hnone : (c.locals v).task.uploaded = none := hc
        rw [hnone] at huploaded
        cases huploaded
      · have hnone : (c.locals v).task.uploaded = none := hc
        rw [hnone] at huploaded
        cases huploaded
    · left
      refine ⟨?_, run, ?_, hid⟩
      · rwa [c.put_locals_of_ne s' worker' (Ne.symm hvw)]
      · rwa [c.put_locals_of_ne s' worker' (Ne.symm hvw)]

/-- A referenced file is deleted before its job expires. -/
theorem referenced_step (h : fileOutline.Holds c) (hs : machine.step c i = some c')
    (href : Referenced c id p) (hfile : p ∈ c.shared.files) : Referenced c' id p := by
  obtain ⟨r, hr, hid, hstatus, hp⟩ := href
  rcases (step_rowStep h.inv.keys hs).moved.kept r hr with hended | ⟨r', hr', hstep⟩
  · rcases hended with hended | hended | hended <;> rw [hstatus] at hended <;> cases hended
  · rcases hstep.of_finished (.inl hstatus) with rfl | ⟨-, -, w, job, rest, -, hw, hjobid⟩
    · exact ⟨r', hr', hid, hstatus, hp⟩
    · have hjob : job ∈ (c.locals w).task.overdue := by
        rw [hw]
        exact List.mem_cons_self
      have hsame := (((h.own w).overdue job hjob).same r hr hjobid hstatus).1
      exact absurd hfile ((h.own w).expiring job rest hw p (hsame ▸ hp))

/-- Report files do not outlive their jobs: while no clean-up fails, a file that a run has stored
is in its hands, or deleted, or belongs to its completed job. A completed job refers to a file
that exists until it expires. -/
theorem report_files_kept {now : Time} {moves : List ReportLabel} {c : ReportPool}
    (hrun : machine.run (init now) moves = some c) :
    (machine.Within CleansUp (init now) moves →
      ∀ step ∈ machine.history (init now) moves, ∀ w id p, Uploads w id p step →
        InHand c w id p ∨ p ∉ c.shared.files ∨ Referenced c id p) ∧
    ∀ r ∈ c.shared.jobs, r.status = .completed → ∃ p t, r.storagePath = some p ∧
      r.expiresAt = some t ∧ (c.shared.now < t → p ∈ c.shared.files) := by
  have hholds : ∀ c i c', fileOutline.Holds c → machine.step c i = some c' → fileOutline.Holds c' :=
    fun c i c' h hs => fileOutline_valid.step c i c' h trivial hs
  constructor
  · intro hclean step hstep w id p huploads
    refine (Machine.history_marks machine (J := fun step c => ∀ w id p, Uploads w id p step →
      p ∈ c.shared.paths ∧ (InHand c w id p ∨ p ∉ c.shared.files ∨ Referenced c id p))
      (fun c i c' h _ hs => ⟨hholds c i c' h hs, fun w id p huploads => ?_⟩)
      (fun earlier c i c' h hc hmark hs w id p huploads => ?_) (fileOutline_init now) hclean hrun
      step hstep w id p huploads).2
    · obtain ⟨run, rest, role, records, hlabel, hw, hid⟩ := huploads
      cases hlabel
      obtain ⟨s', worker', ha, rfl⟩ := program.step_act.mp hs
      obtain ⟨r, hr, he⟩ := Option.map_eq_some_iff.mp ha
      cases he
      rw [hw] at hr
      simp only [upload] at hr
      split at hr <;> cases hr
      refine ⟨List.mem_cons_self, .inl ?_⟩
      unfold InHand
      rw [c.put_locals_self]
      exact ⟨rfl, run, rfl, hid⟩
    · obtain ⟨hpath, hcases⟩ := hmark w id p huploads
      have hf := step_fileStep hs
      refine ⟨hf.paths p hpath, ?_⟩
      by_cases hfile : p ∈ c'.shared.files
      · have hold : p ∈ c.shared.files := (hf.new p hfile).resolve_right fun hnew => hnew.1 hpath
        rcases hcases with hhand | hlost | href
        · exact inHand_step hc hs hhand
        · exact absurd hold hlost
        · exact .inr (.inr (referenced_step h hs href hold))
      · exact .inr (.inl hfile)
  · intro r hr hstatus
    have h := fileOutline_valid.run (fileOutline_init now) hrun
    obtain ⟨p, t, hp, ht, hstored⟩ := h.inv.completed r hr hstatus
    exact ⟨p, t, hp, ht, fun hlater => hstored.resolve_left (Nat.not_le.mpr hlater)⟩

end results

section demo

def demoFile : StoragePath := "7/reports/1.csv"

/-- A worker claims the job and reads no rows. -/
def generated : List ReportLabel :=
  .env (.create 1 ⟨7, 9, .tickets⟩ {}) ::
    acts 0 [.start, .found [], .go, .found [demoJob], .go, .go, .authorize (.ok .tenantManager),
      .go]

def stored (rest : List ReportLabel) : List ReportLabel :=
  generated ++ .act 0 (.upload demoFile) :: rest

/-- The completing update fails, and the job is marked as failed. -/
def completionFails : List ReportLabel := stored (acts 0 [.throws, .go, .go])

/-- The job is cancelled during the upload, and the file cannot be deleted. -/
def deletionFails : List ReportLabel :=
  stored (.env (.cancel 1 7 9) :: acts 0 [.go, .throws, .go, .go])

/-- The stored file exists, no completed job refers to it, and its run has ended. -/
def LeftBehind (moves : List ReportLabel) : Prop :=
  ∃ c, machine.run (init 0) moves = some c ∧
    (∃ step ∈ machine.history (init 0) moves, Uploads 0 1 demoFile step) ∧
    demoFile ∈ c.shared.files ∧ ¬ Referenced c 1 demoFile ∧ (c.locals 0).task.run = none

theorem stored_uploads (rest : List ReportLabel) :
    ∃ step ∈ machine.history (init 0) (stored rest), Uploads 0 1 demoFile step := by
  have hsome : (machine.run (init 0) generated).isSome = true := by decide +kernel
  obtain ⟨c, hrun⟩ := Option.isSome_iff_exists.mp hsome
  have hnext : ((machine.run (init 0) generated).bind fun c =>
      machine.step c (.act 0 (.upload demoFile))).isSome = true := by decide +kernel
  rw [hrun] at hnext
  obtain ⟨c', hs⟩ := Option.isSome_iff_exists.mp hnext
  refine ⟨_, machine.mem_history hrun hs, ?_⟩
  obtain ⟨s', worker', ha, -⟩ := program.step_act.mp hs
  obtain ⟨r, hr, -⟩ := Option.map_eq_some_iff.mp ha
  have hid : (machine.run (init 0) generated).map (fun c => (c.locals 0).task.run.map
      fun run => run.job.id) = some (some 1) := by decide +kernel
  rw [hrun] at hid
  cases htask : (c.locals 0).task with
  | uploading run rest role records =>
    have hrunid : (c.locals 0).task.run.map (fun run => run.job.id) = some 1 := Option.some.inj hid
    rw [htask] at hrunid
    exact ⟨run, rest, role, records, rfl, htask, Option.some.inj hrunid⟩
  | _ =>
    rw [htask] at hr
    cases hr

theorem leftBehind {rest : List ReportLabel}
    (hfile : ((machine.run (init 0) (stored rest)).any fun c => demoFile ∈ c.shared.files ∧
      (∀ r ∈ c.shared.jobs, r.status ≠ .completed) ∧ (c.locals 0).task.run.isNone) = true) :
    LeftBehind (stored rest) := by
  obtain ⟨c, hrun, hc⟩ := (Option.any_eq_true _ _).mp hfile
  obtain ⟨hmem, hnone, hended⟩ := of_decide_eq_true hc
  refine ⟨c, hrun, stored_uploads rest, hmem, ?_, Option.isNone_iff_eq_none.mp hended⟩
  rintro ⟨r, hr, -, hstatus, -⟩
  exact hnone r hr hstatus

theorem upload_left_behind : LeftBehind completionFails ∧ LeftBehind deletionFails :=
  ⟨leftBehind (by decide +kernel), leftBehind (by decide +kernel)⟩

theorem report_files_kept_completed :
    ∃ c, machine.run (init 0) (stored (acts 0 [.go, .go, .go])) = some c ∧
      (InHand c 0 1 demoFile ∨ demoFile ∉ c.shared.files ∨ Referenced c 1 demoFile) := by
  have hsome : (machine.run (init 0) (stored (acts 0 [.go, .go, .go]))).isSome = true := by
    decide +kernel
  obtain ⟨c, hrun⟩ := Option.isSome_iff_exists.mp hsome
  obtain ⟨step, hstep, huploads⟩ := stored_uploads (acts 0 [.go, .go, .go])
  exact ⟨c, hrun, (report_files_kept hrun).1 (by decide +kernel) step hstep 0 1 demoFile huploads⟩

end demo
end OmniSupport.Report
