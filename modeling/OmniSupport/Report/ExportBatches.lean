import OmniSupport.Report.JobLifecycle

/-! What an export misses when rows change between its batches: a row that satisfies the
conditions all along is exported once, unless a batch starts at a cursor that skips it. -/
namespace OmniSupport.Report
open Foundation Database

namespace ReportRun

/-- The row `id` satisfies the tenant, row-level and filter conditions of the export. -/
def selects (run : ReportRun) (role : UserRole) (s : ReportStore) (id : Uuid) : Prop :=
  match run.job.subject with
  | .tickets => ∃ ticket ∈ s.tickets, ticket.id = id ∧
      ReportService.ticketWhere run.job.toReportJob role run.job.filters ticket = true
  | .customers => ∃ customer ∈ s.customers, customer.id = id ∧
      ReportService.customerWhere run.job.toReportJob run.job.filters customer = true

instance (run : ReportRun) (role : UserRole) (s : ReportStore) (id : Uuid) :
    Decidable (run.selects role s id) :=
  match h : run.job.subject with
  | .tickets => decidable_of_iff (∃ ticket ∈ s.tickets, ticket.id = id ∧
      ReportService.ticketWhere run.job.toReportJob role run.job.filters ticket = true)
      (by simp only [selects, h])
  | .customers => decidable_of_iff (∃ customer ∈ s.customers, customer.id = id ∧
      ReportService.customerWhere run.job.toReportJob run.job.filters customer = true)
      (by simp only [selects, h])

/-- The batch at the cursor skips the row `id`: the row of the cursor is gone, or it no longer
satisfies the conditions and `id` is the next one. -/
def skips (run : ReportRun) (role : UserRole) (cursor : Option Uuid) (s : ReportStore)
    (id : Uuid) : Prop :=
  match run.job.subject with
  | .tickets => Paging.Skips Ticket.id
      (ReportService.ticketWhere run.job.toReportJob role run.job.filters) cursor s.tickets id
  | .customers => Paging.Skips Customer.id
      (ReportService.customerWhere run.job.toReportJob run.job.filters) cursor s.customers id

instance (run : ReportRun) (role : UserRole) (cursor : Option Uuid) (s : ReportStore)
    (id : Uuid) : Decidable (run.skips role cursor s id) :=
  match h : run.job.subject with
  | .tickets => decidable_of_iff (Paging.Skips Ticket.id
      (ReportService.ticketWhere run.job.toReportJob role run.job.filters) cursor s.tickets id)
      (by simp only [skips, h])
  | .customers => decidable_of_iff (Paging.Skips Customer.id
      (ReportService.customerWhere run.job.toReportJob run.job.filters) cursor s.customers id)
      (by simp only [skips, h])

theorem lt_of_skips {run : ReportRun} {role : UserRole} {k id : Uuid} {s : ReportStore}
    (h : run.skips role (some k) s id) : k < id := by
  unfold skips at h
  split at h <;> exact h.1

end ReportRun

namespace ReportTask

/-- The worker is reading the rows of an export that selects the row `id`. -/
def selects (s : ReportStore) (id : Uuid) : ReportTask → Prop
  | .reading run _ role _ _ | .checking run _ role _ _ => run.selects role s id
  | _ => False

instance (s : ReportStore) (id : Uuid) : ∀ task : ReportTask, Decidable (task.selects s id)
  | .reading run _ role _ _ | .checking run _ role _ _ =>
    inferInstanceAs (Decidable (run.selects role s id))
  | .idle | .findingExpired | .deletingFile .. | .expiring .. | .purging | .listing | .next ..
  | .claiming .. | .authorizing .. | .uploading .. | .completing .. | .deletingUpload ..
  | .auditing .. | .failing .. => inferInstanceAs (Decidable False)

def skips (s : ReportStore) (id : Uuid) : ReportTask → Prop
  | .reading run _ role _ cursor => run.skips role cursor s id
  | _ => False

instance (s : ReportStore) (id : Uuid) : ∀ task : ReportTask, Decidable (task.skips s id)
  | .reading run _ role _ cursor => inferInstanceAs (Decidable (run.skips role cursor s id))
  | .idle | .findingExpired | .deletingFile .. | .expiring .. | .purging | .listing | .next ..
  | .claiming .. | .authorizing .. | .checking .. | .uploading .. | .completing ..
  | .deletingUpload .. | .auditing .. | .failing .. => inferInstanceAs (Decidable False)

/-- Ids rise along the records, up to the cursor, and the page just read ends them. -/
def Ordered : ReportTask → Prop
  | .reading _ _ _ records cursor => records.Pairwise (fun row row' => row.id < row'.id) ∧
      ∀ row ∈ records, ∃ c, cursor = some c ∧ row.id ≤ c
  | .checking _ _ _ records page => records.Pairwise (fun row row' => row.id < row'.id) ∧
      page ≠ [] ∧ page <:+ records
  | .uploading _ _ _ records => records.Pairwise fun row row' => row.id < row'.id
  | _ => True

/-- The row `id` has been read, or the reads to come have not passed it. -/
def Collects (id : Uuid) : ReportTask → Prop
  | .reading _ _ _ records cursor =>
    (∃ row ∈ records, row.id = id) ∨ ∀ c, cursor = some c → c < id
  | .checking _ _ _ records page => (∃ row ∈ records, row.id = id) ∨
      page.length = ReportService.batchSize ∧ ∀ row ∈ page, row.id < id
  | .uploading _ _ _ records => ∃ row ∈ records, row.id = id
  | _ => True

/-- The row `id` has not been read and will not be. -/
def Misses (id : Uuid) : ReportTask → Prop
  | .reading _ _ _ records cursor =>
    (∀ row ∈ records, row.id ≠ id) ∧ ∃ c, cursor = some c ∧ id < c
  | .checking _ _ _ records page => (∀ row ∈ records, row.id ≠ id) ∧ ∀ row ∈ page, id < row.id
  | .uploading _ _ _ records => ∀ row ∈ records, row.id ≠ id
  | _ => True

end ReportTask

/-- The worker reads a batch that skips the row `id`. -/
def PassesOver (w : Nat) (id : Uuid) (c : ReportPool) : ReportLabel → Prop
  | .act v .go => v = w ∧ (c.locals w).task.skips c.shared id
  | _ => False

instance (w : Nat) (id : Uuid) (c : ReportPool) : DecidablePred (PassesOver w id c)
  | .act _ .go => inferInstanceAs (Decidable (_ ∧ _))
  | .act _ (.look _) | .act _ .start | .act _ (.found _) | .act _ (.authorize _)
  | .act _ (.upload _) | .act _ .throws | .act _ .crash | .env _ => inferInstanceAs (Decidable False)

/-- The keys of the tables that reports read. -/
structure ReportStore.Indexed (s : ReportStore) : Prop where
  tickets : (s.tickets.map Ticket.id).Nodup
  customers : (s.customers.map Customer.id).Nodup

/-- What a page holds, behind which cursor and of which rows. -/
structure PageRead (run : ReportRun) (role : UserRole) (cursor : Option Uuid) (s : ReportStore)
    (page : List ReportRow) : Prop where
  sorted : page.Pairwise fun row row' => row.id < row'.id
  behind : ∀ c, cursor = some c → ∀ row ∈ page, c < row.id
  skipped : ∀ id, run.skips role cursor s id → ∀ row ∈ page, id < row.id
  reached : ∀ id, run.selects role s id → (∀ c, cursor = some c → c < id) →
    ¬ run.skips role cursor s id → (∃ row ∈ page, row.id = id) ∨
      page.length = ReportService.batchSize ∧ ∀ row ∈ page, row.id < id

namespace ReportService
variable {s s' : ReportStore} {run : ReportRun} {role : UserRole} {cursor : Option Uuid}
  {rest : List JobRow} {records page : List ReportRow} {id : Uuid} {task' : ReportTask}
  {worker worker' : ReportWorker} {step : ReportStep}

/-- One argument for both tables. -/
theorem pageRead_batch {ρ : Type} {key : ρ → Uuid} {p : ρ → Bool} {table : List ρ}
    {row : ρ → ReportRow} (hrow : ∀ r, (row r).id = key r) (hkeys : (table.map key).Nodup)
    (hskips : ∀ id, run.skips role cursor s id ↔ Paging.Skips key p cursor table id)
    (hselects : ∀ id, run.selects role s id ↔ ∃ r ∈ table, key r = id ∧ p r = true) :
    PageRead run role cursor s ((Paging.batch key batchSize p cursor table).map row) where
  sorted := by
    rw [List.pairwise_map]
    simp only [hrow]
    exact Paging.batch_sorted hkeys
  behind c hc := by
    simp only [List.forall_mem_map, hrow]
    intro r hr
    subst hc
    exact Paging.lt_of_mem_batch hkeys hr
  skipped id hid := by
    simp only [List.forall_mem_map, hrow]
    intro r hr
    exact Paging.lt_of_skips hkeys ((hskips id).mp hid) hr
  reached id hid hbehind hnot := by
    obtain ⟨r, hr, rfl, hp⟩ := (hselects id).mp hid
    rw [hskips] at hnot
    simp only [List.forall_mem_map, List.length_map, hrow]
    have hread : r ∈ Paging.batch key batchSize p cursor table ∨ _ :=
      Paging.mem_batch_or_full hkeys hr hp hbehind hnot
    rcases hread with hmem | hfull
    · exact .inl ⟨row r, List.mem_map_of_mem hmem, hrow r⟩
    · exact .inr hfull

theorem pageRows_read (hk : s.Indexed)
    (h : pageRows run.job.toReportJob role run.job.filters cursor s.tickets s.customers =
      some page) : PageRead run role cursor s page := by
  unfold pageRows at h
  cases hsubject : run.job.subject with
  | tickets =>
    simp only [hsubject] at h
    split at h <;> cases h
    refine pageRead_batch (fun _ => rfl) hk.tickets (fun id => ?_) (fun id => ?_)
    · simp only [ReportRun.skips, hsubject]
    · simp only [ReportRun.selects, hsubject]
  | customers =>
    simp only [hsubject] at h
    split at h <;> cases h
    refine pageRead_batch (fun _ => rfl) hk.customers (fun id => ?_) (fun id => ?_)
    · simp only [ReportRun.skips, hsubject]
    · simp only [ReportRun.selects, hsubject]

theorem ordered_afterPage (hread : PageRead run role cursor s page)
    (h : (ReportTask.reading run rest role records cursor).Ordered) :
    (afterPage run rest role records page).Ordered := by
  obtain ⟨hsorted, hupto⟩ := h
  unfold afterPage
  split
  · exact hsorted
  · rename_i hne
    split
    · trivial
    · refine ⟨List.pairwise_append.mpr ⟨hsorted, hread.sorted, fun row hrow row' hrow' => ?_⟩, hne,
        List.suffix_append records page⟩
      obtain ⟨c, hc, hle⟩ := hupto row hrow
      exact hle.trans_lt (hread.behind c hc row' hrow')

/-- The last row of the page is the last record. -/
theorem ordered_afterCheck (h : (ReportTask.checking run rest role records page).Ordered) :
    (afterCheck run rest role records page).Ordered := by
  obtain ⟨hsorted, hne, before, rfl⟩ := h
  unfold afterCheck
  split
  · exact hsorted
  · refine ⟨hsorted, fun row hrow => ⟨(page.getLast hne).id, ?_, ?_⟩⟩
    · rw [List.getLast?_eq_some_getLast hne, Option.map_some]
    · have hlast : before ++ page = before ++ (page.dropLast ++ [page.getLast hne]) := by
        rw [List.dropLast_append_getLast hne]
      rw [hlast, ← List.append_assoc] at hsorted hrow
      rcases List.mem_append.mp hrow with hearlier | hlast
      · exact ((List.pairwise_append.mp hsorted).2.2 row hearlier _ (List.mem_singleton_self _)).le
      · rw [List.mem_singleton.mp hlast]

theorem collects_afterPage (hread : PageRead run role cursor s page)
    (hselects : run.selects role s id) (hskips : ¬ run.skips role cursor s id)
    (h : (ReportTask.reading run rest role records cursor).Collects id) :
    (afterPage run rest role records page).Collects id := by
  unfold afterPage
  rcases h with ⟨row, hrow, hid⟩ | hbehind
  · split
    · exact ⟨row, hrow, hid⟩
    · split
      · trivial
      · exact .inl ⟨row, List.mem_append_left page hrow, hid⟩
  · have hreached := hread.reached id hselects hbehind hskips
    split
    · rename_i hnil
      rcases hreached with ⟨row, hrow, -⟩ | ⟨hfull, -⟩
      · rw [hnil] at hrow
        cases hrow
      · rw [hnil] at hfull
        cases hfull
    · split
      · trivial
      · rcases hreached with ⟨row, hrow, hid⟩ | hfull
        · exact .inl ⟨row, List.mem_append_right records hrow, hid⟩
        · exact .inr hfull

theorem collects_afterCheck (h : (ReportTask.checking run rest role records page).Collects id) :
    (afterCheck run rest role records page).Collects id := by
  unfold afterCheck
  rcases h with hread | ⟨hfull, hbelow⟩
  · split
    · exact hread
    · exact .inl hread
  · rw [if_neg (not_lt.mpr hfull.ge)]
    refine .inr fun c hc => ?_
    obtain ⟨row, hrow, rfl⟩ := Option.map_eq_some_iff.mp hc
    exact hbelow row (List.mem_of_getLast? hrow)

theorem misses_afterPage (hrecords : ∀ row ∈ records, row.id ≠ id)
    (hpage : ∀ row ∈ page, id < row.id) : (afterPage run rest role records page).Misses id := by
  unfold afterPage
  split
  · exact hrecords
  · split
    · trivial
    · refine ⟨fun row hrow => ?_, hpage⟩
      rcases List.mem_append.mp hrow with hold | hnew
      · exact hrecords row hold
      · exact (hpage row hnew).ne'

theorem misses_afterCheck (hne : page ≠ [])
    (h : (ReportTask.checking run rest role records page).Misses id) :
    (afterCheck run rest role records page).Misses id := by
  obtain ⟨hrecords, hpage⟩ := h
  unfold afterCheck
  split
  · exact hrecords
  · refine ⟨hrecords, (page.getLast hne).id, ?_, hpage _ (List.getLast_mem hne)⟩
    rw [List.getLast?_eq_some_getLast hne, Option.map_some]

/-- A step of a worker that is reading rows leads to the next page, to the next check, or out of
the reading. -/
theorem act_reads {P : ReportTask → Prop} (hselects : worker.task.selects s id)
    (hidle : P .idle)
    (hnext : ∀ run rest, P (.next run rest)) (hfail : ∀ run rest error, P (.failing run rest error))
    (hpage : ∀ run rest role records cursor page,
      worker.task = .reading run rest role records cursor → step = .go →
      run.selects role s id →
      pageRows run.job.toReportJob role run.job.filters cursor s.tickets s.customers = some page →
      P (afterPage run rest role records page))
    (hcheck : ∀ run rest role records page, worker.task = .checking run rest role records page →
      P (afterCheck run rest role records page))
    (hP : P worker.task) {w : Nat} (h : act w s worker step = some (s', worker')) :
    P worker'.task := by
  cases step with
  | look time =>
    simp only [act] at h
    split at h <;> cases h
    exact hP
  | crash =>
    cases h
    exact hidle
  | throws =>
    obtain ⟨task, htask, he⟩ := Option.map_eq_some_iff.mp h
    cases he
    cases hw : worker.task with
    | reading | checking =>
      rw [hw] at htask
      cases htask
      exact hfail _ _ _
    | _ =>
      rw [hw] at hselects
      cases hselects
  | go =>
    obtain ⟨r, hr, he⟩ := Option.map_eq_some_iff.mp h
    cases he
    unfold go at hr
    cases hw : worker.task with
    | reading run rest role records cursor =>
      rw [hw] at hr hselects
      cases hr
      cases hrows : pageRows run.job.toReportJob role run.job.filters cursor s.tickets
        s.customers with
      | none => exact hfail _ _ _
      | some page => exact hpage run rest role records cursor page hw rfl hselects hrows
    | checking run rest role records page =>
      rw [hw] at hr
      cases hr
      by_cases hheld : ∃ r ∈ s.jobs, r.heldBy run
      · simp only [hheld, if_true]
        exact hcheck run rest role records page hw
      · simp only [hheld, if_false]
        exact hnext _ _
    | _ =>
      rw [hw] at hselects
      cases hselects
  | _ =>
    cases hw : worker.task with
    | reading | checking =>
      simp only [act, hw, found, authorize, upload, Option.map_none] at h
      cases h
    | _ =>
      rw [hw] at hselects
      cases hselects

/-- Workers write jobs and files only. -/
theorem act_tables {w : Nat} (h : act w s worker step = some (s', worker')) :
    s'.tickets = s.tickets ∧ s'.customers = s.customers := by
  cases step with
  | go =>
    obtain ⟨r, hr, he⟩ := Option.map_eq_some_iff.mp h
    cases he
    unfold go at hr
    cases hw : worker.task with
    | next listedAt jobs =>
      rw [hw] at hr
      cases jobs <;> cases hr <;> exact ⟨rfl, rfl⟩
    | _ =>
      rw [hw] at hr
      cases hr <;> exact ⟨rfl, rfl⟩
  | upload path =>
    obtain ⟨r, hr, he⟩ := Option.map_eq_some_iff.mp h
    cases he
    cases hw : worker.task with
    | uploading run rest role records =>
      rw [hw] at hr
      simp only [upload] at hr
      split at hr <;> cases hr
      exact ⟨rfl, rfl⟩
    | _ =>
      rw [hw] at hr
      cases hr
  | look time =>
    simp only [act] at h
    split at h <;> cases h
    exact ⟨rfl, rfl⟩
  | start =>
    simp only [act] at h
    split at h <;> cases h
    exact ⟨rfl, rfl⟩
  | crash =>
    cases h
    exact ⟨rfl, rfl⟩
  | _ =>
    obtain ⟨task, -, he⟩ := Option.map_eq_some_iff.mp h
    cases he
    exact ⟨rfl, rfl⟩

variable {c c' : ReportPool} {i : ReportLabel} {w : Nat}

theorem indexed_step (hk : c.shared.Indexed) (hs : machine.step c i = some c') :
    c'.shared.Indexed := by
  cases i with
  | act v step =>
    obtain ⟨s', worker', ha, rfl⟩ := program.step_act.mp hs
    obtain ⟨htickets, hcustomers⟩ := act_tables (w := v) ha
    exact ⟨htickets ▸ hk.tickets, hcustomers ▸ hk.customers⟩
  | env m =>
    obtain ⟨s', hm, rfl⟩ := program.step_env.mp hs
    cases m with
    | create id job filters =>
      simp only [program, move] at hm
      split at hm <;> cases hm
      exact ⟨hk.tickets, hk.customers⟩
    | rewriteTickets tickets =>
      simp only [program, move] at hm
      split at hm
      · rename_i hnodup
        cases hm
        exact ⟨hnodup, hk.customers⟩
      · cases hm
    | rewriteCustomers customers =>
      simp only [program, move] at hm
      split at hm
      · rename_i hnodup
        cases hm
        exact ⟨hk.tickets, hnodup⟩
      · cases hm
    | cancel | tick =>
      cases hm
      exact ⟨hk.tickets, hk.customers⟩

/-- Only steps of the worker itself change where it stands. -/
theorem task_step {P : ReportTask → Prop} (hs : machine.step c i = some c')
    (hown : ∀ step s' worker', i = .act w step →
      act w c.shared (c.locals w) step = some (s', worker') → P worker'.task)
    (hP : P (c.locals w).task) : P (c'.locals w).task := by
  cases i with
  | env m =>
    obtain ⟨s', -, rfl⟩ := program.step_env.mp hs
    exact hP
  | act v step =>
    obtain ⟨s', worker', ha, rfl⟩ := program.step_act.mp hs
    by_cases hvw : v = w
    · subst hvw
      rw [c.put_locals_self]
      exact hown step s' worker' rfl ha
    · rwa [c.put_locals_of_ne s' worker' (Ne.symm hvw)]

theorem ordered_step (hk : c.shared.Indexed) (hselects : (c.locals w).task.selects c.shared id)
    (hordered : (c.locals w).task.Ordered) (hs : machine.step c i = some c') :
    (c'.locals w).task.Ordered := by
  refine task_step hs (fun step s' worker' _ ha => ?_) hordered
  refine act_reads hselects trivial (fun _ _ => trivial) (fun _ _ _ => trivial)
    (fun run rest role records cursor page hw _ _ hrows => ?_)
    (fun run rest role records page hw => ?_) hordered ha
  · exact ordered_afterPage (pageRows_read hk hrows) (hw ▸ hordered)
  · exact ordered_afterCheck (hw ▸ hordered)

theorem collects_step (hk : c.shared.Indexed) (hselects : (c.locals w).task.selects c.shared id)
    (hnot : ¬ PassesOver w id c i) (hcollects : (c.locals w).task.Collects id)
    (hs : machine.step c i = some c') : (c'.locals w).task.Collects id := by
  refine task_step hs (fun step s' worker' hi ha => ?_) hcollects
  refine act_reads hselects trivial (fun _ _ => trivial) (fun _ _ _ => trivial)
    (fun run rest role records cursor page hw hgo hrow hrows => ?_)
    (fun run rest role records page hw => ?_) hcollects ha
  · have hskips : ¬ run.skips role cursor c.shared id := by
      intro hskips
      rw [hi, hgo] at hnot
      refine hnot ⟨rfl, ?_⟩
      rwa [hw]
    exact collects_afterPage (pageRows_read hk hrows) hrow hskips (hw ▸ hcollects)
  · exact collects_afterCheck (hw ▸ hcollects)

theorem misses_step (hk : c.shared.Indexed) (hselects : (c.locals w).task.selects c.shared id)
    (hordered : (c.locals w).task.Ordered) (hmisses : (c.locals w).task.Misses id)
    (hs : machine.step c i = some c') : (c'.locals w).task.Misses id := by
  refine task_step hs (fun step s' worker' _ ha => ?_) hmisses
  refine act_reads hselects trivial (fun _ _ => trivial) (fun _ _ _ => trivial)
    (fun run rest role records cursor page hw _ _ hrows => ?_)
    (fun run rest role records page hw => ?_) hmisses ha
  · rw [hw] at hmisses
    obtain ⟨hrecords, k, hk', hlt⟩ := hmisses
    exact misses_afterPage hrecords fun row hrow =>
      hlt.trans ((pageRows_read hk hrows).behind k hk' row hrow)
  · rw [hw] at hordered hmisses
    exact misses_afterCheck hordered.2.1 hmisses

/-- A read that skips a row leaves it out for good. -/
theorem misses_of_passesOver (hk : c.shared.Indexed) (hordered : (c.locals w).task.Ordered)
    (hpasses : PassesOver w id c i) (hs : machine.step c i = some c') :
    (c'.locals w).task.Misses id := by
  cases i with
  | env m => cases hpasses
  | act v step =>
    cases step with
    | go =>
      obtain ⟨rfl, hskips⟩ := hpasses
      obtain ⟨s', worker', ha, rfl⟩ := program.step_act.mp hs
      rw [c.put_locals_self]
      obtain ⟨r, hr, he⟩ := Option.map_eq_some_iff.mp ha
      cases he
      unfold go at hr
      cases hw : (c.locals v).task with
      | reading run rest role records cursor =>
        rw [hw] at hr hskips hordered
        cases hr
        cases hrows : pageRows run.job.toReportJob role run.job.filters cursor c.shared.tickets
          c.shared.customers with
        | none => trivial
        | some page =>
          refine misses_afterPage (fun row hrow hid => ?_) ((pageRows_read hk hrows).skipped id hskips)
          obtain ⟨k, rfl, hle⟩ := hordered.2 row hrow
          have hlt : k < id := run.lt_of_skips hskips
          exact absurd hid (hle.trans_lt hlt).ne
      | _ =>
        rw [hw] at hskips
        cases hskips
    | _ => cases hpasses

/-- Ids of one export are unique, and a row that satisfies the conditions while the export reads
is exported once if and only if no batch skips it. -/
theorem export_complete {now : Time} {before moves : List ReportLabel} {c₀ c : ReportPool}
    {run run' : ReportRun} {rest rest' : List JobRow} {role role' : UserRole}
    {records : List ReportRow} {w : Nat} {id : Uuid}
    (hbefore : machine.run (init now) before = some c₀)
    (hstart : (c₀.locals w).task = .reading run rest role [] none)
    (hmoves : machine.run c₀ moves = some c)
    (hselects : machine.Within (fun c _ => (c.locals w).task.selects c.shared id) c₀ moves)
    (hend : (c.locals w).task = .uploading run' rest' role' records) :
    (records.map ReportRow.id).Nodup ∧
      ((records.map ReportRow.id).count id = 1 ↔
        machine.Within (fun c i => ¬ PassesOver w id c i) c₀ moves) := by
  have hempty : (init now).shared.Indexed := ⟨List.nodup_nil, List.nodup_nil⟩
  have hindexed : c₀.shared.Indexed :=
    machine.run_preserves (fun _ _ _ hk hs => indexed_step hk hs) hempty hbefore
  have hinit : c₀.shared.Indexed ∧ (c₀.locals w).task.Ordered := by
    rw [hstart]
    exact ⟨hindexed, List.Pairwise.nil, fun _ h => by cases h⟩
  have hkeep : ∀ c i c', c.shared.Indexed ∧ (c.locals w).task.Ordered →
      (c.locals w).task.selects c.shared id → machine.step c i = some c' →
      c'.shared.Indexed ∧ (c'.locals w).task.Ordered := fun c i c' h hsel hs =>
    ⟨indexed_step h.1 hs, ordered_step h.1 hsel h.2 hs⟩
  have hnodup : (records.map ReportRow.id).Nodup := by
    obtain ⟨-, hordered⟩ := machine.run_preserves_within hkeep hinit hselects hmoves
    rw [hend] at hordered
    exact (List.pairwise_map.mpr hordered).imp ne_of_lt
  refine ⟨hnodup, fun hone => ?_, fun hnone => ?_⟩
  · rw [machine.within_iff_history hmoves]
    intro step hstep hpasses
    have hmisses := machine.history_marks
      (I := fun c => c.shared.Indexed ∧ (c.locals w).task.Ordered)
      (C := fun c _ => (c.locals w).task.selects c.shared id)
      (J := fun step c => PassesOver w id step.before step.label → (c.locals w).task.Misses id)
      (fun c i c' h hsel hs => ⟨hkeep c i c' h hsel hs,
        fun hp => misses_of_passesOver h.1 h.2 hp hs⟩)
      (fun earlier c i c' h hsel hmark hs hp => misses_step h.1 hsel h.2 (hmark hp) hs)
      hinit hselects hmoves step hstep hpasses
    rw [hend] at hmisses
    have hmem : id ∈ records.map ReportRow.id := List.count_pos_iff.mp (by omega)
    obtain ⟨row, hrow, hid⟩ := List.mem_map.mp hmem
    exact hmisses row hrow hid
  · have hcollects : (c.locals w).task.Collects id := by
      have hboth : machine.Within (fun c i => (c.locals w).task.selects c.shared id ∧
          ¬ PassesOver w id c i) c₀ moves := by
        rw [machine.within_iff_history hmoves] at hselects hnone ⊢
        exact fun step hstep => ⟨hselects step hstep, hnone step hstep⟩
      refine (machine.run_preserves_within (P := fun c => c.shared.Indexed ∧
        (c.locals w).task.Collects id) (fun c i c' h hc hs => ?_) ⟨hindexed, ?_⟩ hboth hmoves).2
      · exact ⟨indexed_step h.1 hs, collects_step h.1 hc.1 hc.2 h.2 hs⟩
      · rw [hstart]
        exact .inr fun _ h => by cases h
    rw [hend] at hcollects
    obtain ⟨row, hrow, rfl⟩ := hcollects
    exact List.count_eq_one_of_mem hnodup (List.mem_map_of_mem hrow)

section demo

def openFilters : ReportFilters := { status := some "OPEN" }

def openJob : JobRow := newJob 1 ⟨7, 9, .tickets⟩ openFilters 0

def openRun : ReportRun := ⟨0, openJob, 0⟩

def openTicket (n : Nat) : Ticket :=
  { (default : Ticket) with id := n, tenantId := 7, status := .open }

def openTickets (n : Nat) : List Ticket := (List.range n).map openTicket

/-- One ticket more than a batch holds. -/
def manyTickets : List Ticket := openTickets 1001

/-- A worker claims the export and is about to read the first batch. -/
def exportClaimed (tickets : List Ticket) : List ReportLabel :=
  .env (.rewriteTickets tickets) :: .env (.create 1 ⟨7, 9, .tickets⟩ openFilters) ::
    acts 0 [.start, .found [], .go, .found [openJob], .go, .go, .authorize (.ok .tenantManager)]

/-- The tickets change after the first batch. -/
def changedBetween (tickets : List Ticket) : List ReportLabel :=
  [.act 0 .go, .act 0 .go, .env (.rewriteTickets tickets), .act 0 .go]

/-- The last ticket of the first batch is deleted. -/
def withoutLast : List Ticket := manyTickets.filter fun ticket => ticket.id ≠ 999

def closeLast (ticket : Ticket) : Ticket :=
  if ticket.id = 999 then { ticket with status := .closed } else ticket

/-- The last ticket of the first batch is closed. -/
def withClosedLast : List Ticket := manyTickets.map closeLast

/-- The export ends without the row `id`, that satisfied its conditions all along. -/
def Missed (id : Uuid) (before moves : List ReportLabel) : Prop :=
  ∃ c₀ c run rest role records, machine.run (init 0) before = some c₀ ∧
    (c₀.locals 0).task = .reading run rest role [] none ∧ machine.run c₀ moves = some c ∧
    machine.Within (fun c _ => (c.locals 0).task.selects c.shared id) c₀ moves ∧
    (c.locals 0).task = .uploading run rest role records ∧
    (records.map ReportRow.id).count id ≠ 1

/-- Rewriting the tickets of a report store. -/
theorem step_rewriteTickets {c : ReportPool} {tickets : List Ticket}
    (h : (tickets.map Ticket.id).Nodup) :
    machine.step c (.env (.rewriteTickets tickets)) =
      some { c with shared := { c.shared with tickets := tickets } } :=
  program.step_env.mpr ⟨_, if_pos h, rfl⟩

theorem claimed_reads {tickets : List Ticket} (h : (tickets.map Ticket.id).Nodup) :
    ∃ c, machine.run (init 0) (exportClaimed tickets) = some c ∧ c.shared.tickets = tickets ∧
      c.shared.jobs = [openJob.claim 0 0] ∧
      (c.locals 0).task = .reading openRun [] .tenantManager [] none := by
  refine ⟨_, machine.run_cons.mpr ⟨_, step_rewriteTickets h, rfl⟩, rfl, rfl, rfl⟩

theorem step_go {c : ReportPool} {task' : ReportTask} {w : Nat}
    (h : go c.shared (c.locals w) = some (c.shared, task')) :
    ∃ c', machine.step c (.act w .go) = some c' ∧ c'.shared = c.shared ∧
      (c'.locals w).task = task' := by
  refine ⟨c.put w c.shared { c.locals w with task := task' },
    program.step_act.mpr ⟨_, _, congrArg (Option.map _) h, rfl⟩, rfl, ?_⟩
  rw [c.put_locals_self]

theorem step_reads {c : ReportPool} {run : ReportRun} {rest : List JobRow} {role : UserRole}
    {records page : List ReportRow} {cursor : Option Uuid} {w : Nat}
    (hw : (c.locals w).task = .reading run rest role records cursor)
    (hpage : pageRows run.job.toReportJob role run.job.filters cursor c.shared.tickets
      c.shared.customers = some page) :
    ∃ c', machine.step c (.act w .go) = some c' ∧ c'.shared = c.shared ∧
      (c'.locals w).task = afterPage run rest role records page := by
  refine step_go ?_
  simp only [go, hw, hpage]

theorem step_checks {c : ReportPool} {run : ReportRun} {rest : List JobRow} {role : UserRole}
    {records page : List ReportRow} {w : Nat}
    (hw : (c.locals w).task = .checking run rest role records page)
    (hheld : ∃ r ∈ c.shared.jobs, r.heldBy run) :
    ∃ c', machine.step c (.act w .go) = some c' ∧ c'.shared = c.shared ∧
      (c'.locals w).task = afterCheck run rest role records page := by
  refine step_go ?_
  simp only [go, hw, hheld, if_true]

theorem openTickets_ids (n : Nat) : (openTickets n).map Ticket.id = List.range n := by
  rw [openTickets, List.map_map]
  exact List.map_id _

def openRows (n : Nat) : List ReportRow := (List.range n).map fun k => ticketRow (openTicket k)

/-- The first batch of open tickets. -/
theorem openPage (n : Nat) (customers : List Customer) :
    pageRows openJob.toReportJob .tenantManager openFilters none (openTickets n) customers =
      some (openRows (min batchSize n)) := by
  have hall : (openTickets n).filter (ticketWhere openJob.toReportJob .tenantManager openFilters) =
      openTickets n := by
    refine List.filter_eq_self.mpr fun ticket hticket => ?_
    obtain ⟨k, -, rfl⟩ := List.mem_map.mp hticket
    rfl
  have hsorted : (openTickets n).Pairwise fun ticket ticket' => ticket.id < ticket'.id := by
    rw [← List.pairwise_map, openTickets_ids]
    exact List.pairwise_lt_range
  have hbatch : Paging.batch Ticket.id batchSize
      (ticketWhere openJob.toReportJob .tenantManager openFilters) none (openTickets n) =
        openTickets (min batchSize n) := by
    simp only [Paging.batch, hall, Paging.byKey_of_lt hsorted]
    rw [openTickets, ← List.map_take, List.take_range]
    rfl
  have hpage : pageRows openJob.toReportJob .tenantManager openFilters none (openTickets n)
      customers = some ((Paging.batch Ticket.id batchSize
        (ticketWhere openJob.toReportJob .tenantManager openFilters) none (openTickets n)).map
          ticketRow) := rfl
  rw [hpage, hbatch, openTickets, List.map_map]
  rfl

def openPageRows : List ReportRow := openRows (min batchSize 1001)

theorem openPageRows_length : openPageRows.length = batchSize := by
  rw [openPageRows, openRows, List.length_map, List.length_range]
  rfl

theorem openPageRows_ne_nil : openPageRows ≠ [] :=
  List.ne_nil_of_length_pos (by rw [openPageRows_length]; decide)

theorem openPageRows_last : openPageRows.getLast?.map ReportRow.id = some 999 := by
  have hrange : (List.range 1000).getLast? = some 999 := List.getLast?_range
  have hmin : min batchSize 1001 = 1000 := rfl
  rw [openPageRows, openRows, hmin, List.getLast?_map, hrange]
  rfl

/-- If the rows of the second batch skip the last open ticket, the export misses it. -/
theorem missed_of_skips {tickets : List Ticket} (hnodup : (tickets.map Ticket.id).Nodup)
    (hshown : ∃ ticket ∈ tickets, ticket.id = 1000 ∧
      ticketWhere openJob.toReportJob .tenantManager openFilters ticket = true)
    (hskips : Paging.Skips Ticket.id
      (ticketWhere openJob.toReportJob .tenantManager openFilters) (some 999) tickets 1000)
    (hle : ∀ ticket ∈ tickets, ticket.id ≤ 1000) :
    Missed 1000 (exportClaimed manyTickets) (changedBetween tickets) := by
  have hids : (manyTickets.map Ticket.id).Nodup := openTickets_ids 1001 ▸ List.nodup_range
  obtain ⟨c₀, hbefore, htickets, hjobs, htask⟩ := claimed_reads hids
  have hopen : ∃ ticket ∈ manyTickets, ticket.id = 1000 ∧
      ticketWhere openJob.toReportJob .tenantManager openFilters ticket = true :=
    ⟨openTicket 1000, List.mem_map_of_mem (List.mem_range.mpr (by omega)), rfl, rfl⟩
  have hfirst : afterPage openRun [] .tenantManager [] openPageRows =
      .checking openRun [] .tenantManager openPageRows openPageRows := by
    have hfits : ¬ maxReportRows < openPageRows.length := by
      rw [openPageRows_length]
      decide
    rw [afterPage, if_neg openPageRows_ne_nil, List.nil_append, if_neg hfits]
  have hlast : afterCheck openRun [] .tenantManager openPageRows openPageRows =
      .reading openRun [] .tenantManager openPageRows (some 999) := by
    rw [afterCheck, openPageRows_length, if_neg (Nat.lt_irrefl _), openPageRows_last]
  have hpage : pageRows openJob.toReportJob .tenantManager openFilters (some 999) tickets
      c₀.shared.customers = some [] := by
    have hbatch : Paging.batch Ticket.id batchSize
        (ticketWhere openJob.toReportJob .tenantManager openFilters) (some 999) tickets = [] := by
      refine List.eq_nil_iff_forall_not_mem.mpr fun ticket hticket => ?_
      have hbehind := Paging.lt_of_skips hnodup hskips hticket
      exact absurd hbehind (Nat.not_lt.mpr (hle ticket (Paging.mem_of_mem_batch hticket)))
    have hrows : pageRows openJob.toReportJob .tenantManager openFilters (some 999) tickets
        c₀.shared.customers = some ((Paging.batch Ticket.id batchSize
          (ticketWhere openJob.toReportJob .tenantManager openFilters) (some 999) tickets).map
            ticketRow) := rfl
    rw [hrows, hbatch, List.map_nil]
  have hfull : pageRows openJob.toReportJob .tenantManager openFilters none c₀.shared.tickets
      c₀.shared.customers = some openPageRows := by
    rw [htickets]
    exact openPage 1001 _
  obtain ⟨c₁, hs₁, hshared₁, htask₁⟩ := step_reads htask hfull
  rw [hfirst] at htask₁
  have hheld : ∃ r ∈ c₁.shared.jobs, r.heldBy openRun := by
    rw [hshared₁, hjobs]
    exact ⟨_, List.mem_singleton_self _, rfl, rfl, rfl⟩
  obtain ⟨c₂, hs₂, hshared₂, htask₂⟩ := step_checks htask₁ hheld
  rw [hlast] at htask₂
  have hs₃ := step_rewriteTickets (c := c₂) hnodup
  have hcustomers : c₂.shared.customers = c₀.shared.customers := by rw [hshared₂, hshared₁]
  obtain ⟨c₄, hs₄, -, htask₄⟩ := step_reads
    (c := { c₂ with shared := { c₂.shared with tickets := tickets } }) htask₂ (hcustomers ▸ hpage)
  rw [afterPage, if_pos rfl] at htask₄
  refine ⟨c₀, c₄, openRun, [], .tenantManager, openPageRows, hbefore, htask, ?_, ?_, htask₄, ?_⟩
  · exact machine.run_cons.mpr ⟨c₁, hs₁, machine.run_cons.mpr ⟨c₂, hs₂,
      machine.run_cons.mpr ⟨_, hs₃, machine.run_cons.mpr ⟨c₄, hs₄, rfl⟩⟩⟩⟩
  · rw [changedBetween, machine.within_cons hs₁, machine.within_cons hs₂, machine.within_cons hs₃,
      machine.within_cons hs₄, htask, htask₁, htask₂]
    refine ⟨?_, ?_, ?_, hshown, trivial⟩
    · show ∃ ticket ∈ c₀.shared.tickets, _
      rwa [htickets]
    · show ∃ ticket ∈ c₁.shared.tickets, _
      rwa [hshared₁, htickets]
    · show ∃ ticket ∈ c₂.shared.tickets, _
      rwa [hshared₂, hshared₁, htickets]
  · have hnone : (openPageRows.map ReportRow.id).count 1000 = 0 := by
      refine List.count_eq_zero.mpr fun hmem => ?_
      rw [openPageRows, openRows, List.map_map] at hmem
      obtain ⟨n, hn, hid⟩ := List.mem_map.mp hmem
      have hlt := List.mem_range.mp hn
      exact absurd hid (Nat.ne_of_lt hlt)
    omega

theorem closeLast_id (ticket : Ticket) : (closeLast ticket).id = ticket.id := by
  unfold closeLast
  split <;> rfl

/-- The export misses a row when the last row of a batch is deleted before the next one, or when
it no longer satisfies the conditions. -/
theorem row_missed :
    Missed 1000 (exportClaimed manyTickets) (changedBetween withoutLast) ∧
      Missed 1000 (exportClaimed manyTickets) (changedBetween withClosedLast) := by
  have hids : (manyTickets.map Ticket.id).Nodup := openTickets_ids 1001 ▸ List.nodup_range
  have hmem : openTicket 1000 ∈ manyTickets :=
    List.mem_map_of_mem (List.mem_range.mpr (by omega))
  have hle : ∀ ticket ∈ manyTickets, ticket.id ≤ 1000 := by
    intro ticket hticket
    obtain ⟨n, hn, rfl⟩ := List.mem_map.mp hticket
    exact Nat.le_of_lt_succ (List.mem_range.mp hn)
  constructor
  · refine missed_of_skips ?_ ?_ ?_ ?_
    · exact hids.sublist (List.filter_sublist.map _)
    · have hkept : (openTicket 1000).id ≠ 999 := by decide
      have hrow : openTicket 1000 ∈ withoutLast := List.mem_filter.mpr ⟨hmem, decide_eq_true hkept⟩
      exact ⟨openTicket 1000, hrow, rfl, rfl⟩
    · refine ⟨by decide, .inl fun ticket hticket => ?_⟩
      exact of_decide_eq_true (List.mem_filter.mp hticket).2
    · exact fun ticket hticket => hle ticket (List.mem_filter.mp hticket).1
  · refine missed_of_skips ?_ ?_ ?_ ?_
    · rw [withClosedLast, List.map_map]
      have hcomp : Ticket.id ∘ closeLast = Ticket.id := funext closeLast_id
      rwa [hcomp]
    · have hkept : closeLast (openTicket 1000) = openTicket 1000 := if_neg (by decide)
      have hrow : openTicket 1000 ∈ withClosedLast :=
        List.mem_map.mpr ⟨openTicket 1000, hmem, hkept⟩
      exact ⟨openTicket 1000, hrow, rfl, rfl⟩
    · refine ⟨by decide, .inr fun ticket hticket hopen hbehind => ?_⟩
      obtain ⟨before, hbefore, rfl⟩ := List.mem_map.mp hticket
      obtain ⟨n, -, rfl⟩ := List.mem_map.mp hbefore
      rw [closeLast_id] at hbehind ⊢
      by_cases hn : n = 999
      · subst hn
        cases hopen
      · exact Nat.lt_of_le_of_ne hbehind (Ne.symm hn)
    · intro ticket hticket
      obtain ⟨before, hbefore, rfl⟩ := List.mem_map.mp hticket
      rw [closeLast_id]
      exact hle before hbefore

/-- With two tickets the export reads a single batch. -/
theorem export_complete_two :
    ∃ c₀ c records, machine.run (init 0) (exportClaimed (openTickets 2)) = some c₀ ∧
      machine.run c₀ [.act 0 .go, .act 0 .go] = some c ∧
      (c.locals 0).task = .uploading openRun [] .tenantManager records ∧
      (records.map ReportRow.id).count 1 = 1 := by
  have hids : ((openTickets 2).map Ticket.id).Nodup := by decide
  obtain ⟨c₀, hbefore, htickets, hjobs, htask⟩ := claimed_reads hids
  obtain ⟨c₁, hs₁, hshared₁, htask₁⟩ := step_reads htask (htickets ▸ openPage 2 _)
  have hheld : ∃ r ∈ c₁.shared.jobs, r.heldBy openRun := by
    rw [hshared₁, hjobs]
    exact ⟨_, List.mem_singleton_self _, rfl, rfl, rfl⟩
  obtain ⟨c₂, hs₂, -, htask₂⟩ := step_checks htask₁ hheld
  have hmoves : machine.run c₀ [.act 0 .go, .act 0 .go] = some c₂ :=
    machine.run_cons.mpr ⟨c₁, hs₁, machine.run_cons.mpr ⟨c₂, hs₂, rfl⟩⟩
  have hshown : ∃ ticket ∈ openTickets 2, ticket.id = 1 ∧
      ticketWhere openJob.toReportJob .tenantManager openFilters ticket = true :=
    ⟨openTicket 1, by decide, rfl, rfl⟩
  have hselects : machine.Within (fun c _ => (c.locals 0).task.selects c.shared 1) c₀
      [.act 0 .go, .act 0 .go] := by
    rw [machine.within_cons hs₁, machine.within_cons hs₂, htask, htask₁]
    refine ⟨?_, ?_, trivial⟩
    · show ∃ ticket ∈ c₀.shared.tickets, _
      rwa [htickets]
    · show ∃ ticket ∈ c₁.shared.tickets, _
      rwa [hshared₁, htickets]
  refine ⟨c₀, c₂, _, hbefore, hmoves, htask₂,
    (export_complete hbefore htask hmoves hselects htask₂).2.mpr ?_⟩
  rw [machine.within_cons hs₁, machine.within_cons hs₂]
  refine ⟨fun hpasses => ?_, fun hpasses => ?_, trivial⟩
  · have hskips := hpasses.2
    rw [htask] at hskips
    cases hskips
  · have hskips := hpasses.2
    rw [htask₁] at hskips
    cases hskips

end demo
end ReportService
end OmniSupport.Report
