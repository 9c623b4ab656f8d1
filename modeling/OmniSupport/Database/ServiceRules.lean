import OmniSupport.Foundation.Ends
import OmniSupport.Database.Statements
import Mathlib.Data.List.Forall2

/-! Rules for the programs of the services: their checks, and what publishing does to the
outbox, one pending row for each new event. -/
namespace OmniSupport.Database
open Foundation Effect Outbox

variable {env : ServiceEnv} {d d' : Nat} {s s' : Store}

/-- Every event id drawn is new. -/
structure FreshIds (env : ServiceEnv) (s : Store) : Prop where
  injective : Function.Injective env.eventId
  new : ∀ n, ∀ r ∈ s.outbox, r.eventId ≠ env.eventId n

/-- An environment whose event ids are runs of one digit. -/
def sampleEnv : ServiceEnv where
  uuid := id
  eventId n := ⟨String.ofList (List.replicate n '0'), by simp [isUuidChar]⟩
  clock := id

theorem sampleEnv_freshIds (h : s.outbox = []) : FreshIds sampleEnv s where
  injective n m hids := by
    have htexts : String.ofList (List.replicate n '0') = String.ofList (List.replicate m '0') :=
      congrArg EventId.text hids
    have hlists := congrArg (fun text => text.toList.length) htexts
    simpa only [String.toList_ofList, List.length_replicate] using hlists
  new n r hr := by
    rw [h] at hr
    cases hr

theorem require_ok {condition : Bool} {error : AppError} {u : Unit}
    (h : require condition error = .ok u) : condition = true := by
  unfold require at h
  split at h
  · assumption
  · cases h

theorem orThrow_ok {α : Type} {error : AppError} {found : Option α} {a : α}
    (h : orThrow error found = .ok a) : found = some a := by
  cases found with
  | none => cases h
  | some b =>
    cases h
    rfl

section checks
variable {Q : Store → Prop} {α β : Type}

theorem atomic_orThrow {error : AppError} {found : Option α} {g : α → ServiceM β}
    (h : ∀ a, found = some a → Atomic env d s Q (g a)) :
    Atomic env d s Q (lift (orThrow error found) >>= g) :=
  atomic_lift_bind fun a ha => h a (orThrow_ok ha)

theorem atomic_require {condition : Bool} {error : AppError} {g : Unit → ServiceM β}
    (h : condition = true → Atomic env d s Q (g ())) :
    Atomic env d s Q (lift (require condition error) >>= g) :=
  atomic_lift_bind fun _ hc => h (require_ok hc)

end checks

/-- `row` is the pending row of `event`. -/
def RowOf (event : DomainEvent) (row : OutboxEvent EventBody) : Prop :=
  ∃ id time, row = toCreateInput id time event.toPayload

theorem RowOf.eventId {event : DomainEvent} {row : OutboxEvent EventBody} (h : RowOf event row) :
    row.eventId = event.eventId := by
  obtain ⟨id, time, rfl⟩ := h
  rfl

theorem inside_toRow (event : DomainEvent) : Inside (OutboxPublisher.toRow event) :=
  (inside_draw _).bind fun _ => (inside_draw _).bind fun _ => inside_pure _

theorem inside_toRows (events : List DomainEvent) : Inside (OutboxPublisher.toRows events) := by
  induction events with
  | nil => exact inside_pure _
  | cons event rest ih =>
    exact (inside_toRow event).bind fun _ => ih.bind fun _ => inside_pure _

theorem inside_publishAll (events : List DomainEvent) :
    Inside (OutboxPublisher.publishAll events) := by
  unfold OutboxPublisher.publishAll
  split
  · exact inside_pure ()
  · exact (inside_toRows events).bind fun _ => inside_call _ _ _

theorem yields_toRows {events : List DomainEvent} {rows : List (OutboxEvent EventBody)}
    (h : Yields env d s (OutboxPublisher.toRows events) rows d' s') :
    List.Forall₂ RowOf events rows ∧ s' = s := by
  induction events generalizing d d' s s' rows with
  | nil =>
    obtain ⟨rfl, -, rfl⟩ := yields_pure h
    exact ⟨.nil, rfl⟩
  | cons event rest ih =>
    obtain ⟨row, d₁, s₁, hrow, htail⟩ := yields_bind (inside_toRow event) h
    obtain ⟨rows', d₂, s₂, hrows, hlast⟩ := yields_bind (inside_toRows rest) htail
    obtain ⟨rfl, -, rfl⟩ := yields_pure hlast
    obtain ⟨id, d₃, s₃, hid, htime⟩ := yields_bind (inside_draw _) hrow
    obtain ⟨-, rfl, rfl⟩ := yields_draw hid
    obtain ⟨time, d₄, s₄, htime, hret⟩ := yields_bind (inside_draw _) htime
    obtain ⟨-, rfl, rfl⟩ := yields_draw htime
    obtain ⟨rfl, -, rfl⟩ := yields_pure hret
    obtain ⟨hall, rfl⟩ := ih hrows
    exact ⟨.cons ⟨id, time, rfl⟩ hall, rfl⟩

/-- Events the outbox does not know yet are all inserted. -/
theorem enqueueMany_eq {rows : List (OutboxEvent EventBody)}
    (hnew : ∀ row ∈ rows, ∀ r ∈ s.outbox, r.eventId ≠ row.eventId)
    (hnodup : (rows.map fun row => row.eventId).Nodup) :
    s.enqueueMany rows = { s with outbox := s.outbox ++ rows } := by
  induction rows generalizing s with
  | nil => simp [Store.enqueueMany]
  | cons row rest ih =>
    have hrow : s.enqueue row = { s with outbox := s.outbox ++ [row] } := by
      have hno : ¬ ∃ r ∈ s.outbox, r.eventId = row.eventId := by
        rintro ⟨r, hr, he⟩
        exact hnew row List.mem_cons_self r hr he
      simp only [Store.enqueue, hno, if_false]
    have hstep : s.enqueueMany (row :: rest) = (s.enqueue row).enqueueMany rest := rfl
    obtain ⟨hhead, htail⟩ := List.nodup_cons.mp hnodup
    rw [hstep, hrow, ih ?_ htail]
    · simp
    · intro row' hm r hr
      rcases List.mem_append.mp hr with hr | hr
      · exact hnew row' (List.mem_cons_of_mem _ hm) r hr
      · rw [List.mem_singleton.mp hr]
        intro he
        exact hhead (List.mem_map.mpr ⟨row', hm, he.symm⟩)

theorem forall₂_rowOf_eventIds {events : List DomainEvent} {rows : List (OutboxEvent EventBody)}
    (h : List.Forall₂ RowOf events rows) :
    rows.map (fun row => row.eventId) = events.map fun event => event.eventId := by
  induction h with
  | nil => rfl
  | cons hrow _ ih => simp [hrow.eventId, ih]

theorem enqueueMany_rows {events : List DomainEvent} {rows : List (OutboxEvent EventBody)}
    (hall : List.Forall₂ RowOf events rows)
    (hnew : ∀ event ∈ events, ∀ r ∈ s.outbox, r.eventId ≠ event.eventId)
    (hnodup : (events.map fun event => event.eventId).Nodup) :
    s.enqueueMany rows = { s with outbox := s.outbox ++ rows } := by
  have hids := forall₂_rowOf_eventIds hall
  refine enqueueMany_eq (fun row hm r hr he => ?_) (hids ▸ hnodup)
  have hmem : row.eventId ∈ events.map fun event => event.eventId :=
    hids ▸ List.mem_map_of_mem hm
  obtain ⟨event, hevent, hid⟩ := List.mem_map.mp hmem
  exact hnew event hevent r hr (he.trans hid.symm)

/-- Publishing new events appends their pending rows and does nothing else. -/
theorem yields_publishAll {events : List DomainEvent} {u : Unit}
    (h : Yields env d s (OutboxPublisher.publishAll events) u d' s')
    (hnew : ∀ event ∈ events, ∀ r ∈ s.outbox, r.eventId ≠ event.eventId)
    (hnodup : (events.map fun event => event.eventId).Nodup) :
    ∃ rows, List.Forall₂ RowOf events rows ∧ s' = { s with outbox := s.outbox ++ rows } := by
  unfold OutboxPublisher.publishAll at h
  split at h
  · rename_i he
    obtain ⟨-, -, rfl⟩ := yields_pure h
    exact ⟨[], he ▸ .nil, by simp⟩
  · obtain ⟨rows, d₁, s₁, hrows, hcall⟩ := yields_bind (inside_toRows events) h
    obtain ⟨hall, rfl⟩ := yields_toRows hrows
    obtain ⟨hf, -⟩ := yields_call hcall
    have hs' : s' = s₁.enqueueMany rows := by
      cases hf
      rfl
    exact ⟨rows, hall, hs'.trans (enqueueMany_rows hall hnew hnodup)⟩

section sequence
variable {τ : Type} {part : Store → τ} {faults : Nat → Fault} {n : Nat}

theorem sequence_toRow (event : DomainEvent) :
    Sequence part false faults env n d s [] (OutboxPublisher.toRow event)
      fun row _ s' => RowOf event row ∧ s' = s := by
  refine (sequence_draw ServiceEnv.uuid).bind (fun _ _ _ h => by rw [h.2.2]) ?_
  rintro id d₁ s₁ ⟨-, -, rfl⟩
  refine (sequence_draw ServiceEnv.clock).bind (fun _ _ _ h => by rw [h.2.2]) ?_
  rintro time d₂ s₂ ⟨-, -, rfl⟩
  refine (sequence_pure _).mono ?_
  rintro row d₃ s₃ ⟨rfl, -, rfl⟩
  exact ⟨⟨id, time, rfl⟩, rfl⟩

theorem sequence_toRows (events : List DomainEvent) :
    Sequence part false faults env n d s [] (OutboxPublisher.toRows events)
      fun rows _ s' => List.Forall₂ RowOf events rows ∧ s' = s := by
  induction events generalizing d s with
  | nil =>
    refine (sequence_pure _).mono ?_
    rintro rows d₁ s₁ ⟨rfl, -, rfl⟩
    exact ⟨.nil, rfl⟩
  | cons event rest ih =>
    refine (sequence_toRow event).bind (fun _ _ _ h => by rw [h.2]) ?_
    rintro row d₁ s₁ ⟨hrow, rfl⟩
    refine ih.bind (fun _ _ _ h => by rw [h.2]) ?_
    rintro rows d₂ s₂ ⟨hrows, rfl⟩
    refine (sequence_pure _).mono ?_
    rintro all d₃ s₃ ⟨rfl, -, rfl⟩
    exact ⟨.cons hrow hrows, rfl⟩

/-- The awaited calls of publishing: none for no events. -/
def publishStages (events : List DomainEvent) : List Stage :=
  if events = [] then [] else [.strict]

theorem sequence_publishAll {events : List DomainEvent}
    (hnew : ∀ event ∈ events, ∀ r ∈ s.outbox, r.eventId ≠ event.eventId)
    (hnodup : (events.map fun event => event.eventId).Nodup) :
    Sequence part false faults env n d s (publishStages events) (OutboxPublisher.publishAll events)
      fun _ _ s' => ∃ rows, List.Forall₂ RowOf events rows ∧
        s' = { s with outbox := s.outbox ++ rows } := by
  unfold OutboxPublisher.publishAll publishStages
  split
  · rename_i hnone
    subst hnone
    refine (sequence_pure _).mono ?_
    rintro u d₁ s₁ ⟨-, -, rfl⟩
    exact ⟨[], .nil, by simp⟩
  · refine (sequence_toRows events).bind (fun _ _ _ h => by rw [h.2]) ?_
    rintro rows d₁ s₁ ⟨hall, rfl⟩
    refine (sequence_call_outside rfl).mono ?_
    rintro u d₂ s₂ ⟨-, -, rfl⟩
    exact ⟨rows, hall, enqueueMany_rows hall hnew hnodup⟩

theorem sequence_find {α : Type} {inside : Bool} {c : Client} {kind : ServiceCall}
    {f : Store → α} (hc : inside = true → c = .ambient) :
    Sequence part inside faults env n d s [.strict] (Prisma.find c kind f)
      fun a d' s' => a = f s ∧ d' = d ∧ s' = s :=
  sequence_read hc

theorem sequence_write {inside : Bool} {c : Client} {kind : ServiceCall} {f : Store → Store}
    (hc : inside = true → c = .ambient) :
    Sequence part inside faults env n d s [.strict] (Prisma.write c kind f)
      fun _ d' s' => d' = d ∧ s' = f s := by
  unfold Prisma.write Prisma.statement
  refine Sequence.mono (sequence_call hc rfl) ?_
  rintro u d₁ s₁ ⟨-, hd, hs⟩
  exact ⟨hd, hs⟩

theorem sequence_prismaUserUpdate {inside : Bool} {c : Client} {id : Uuid} {f : User → User}
    (hc : inside = true → c = .ambient) (hrow : (s.findUser id).isSome = true) :
    Sequence part inside faults env n d s [.strict] (Prisma.userUpdate c id f)
      fun _ d' s' => d' = d ∧ s' = s.updateUser id f := by
  refine Sequence.mono (sequence_call hc (if_pos hrow)) ?_
  rintro u d₁ s₁ ⟨-, hd, hs⟩
  exact ⟨hd, hs⟩

end sequence

section inside

theorem inside_write (kind : ServiceCall) (f : Store → Store) :
    Inside (Prisma.write .ambient kind f) := by
  unfold Prisma.write Prisma.statement
  exact inside_call _ _ _

theorem inside_userUpdate (id : Uuid) (f : User → User) :
    Inside (Prisma.userUpdate .ambient id f) :=
  inside_call _ _ _

theorem inside_tenantUpdateLocked (tenant : Tenant) :
    Inside (TenantRepository.updateLocked tenant) :=
  (inside_read _ _ _).bind fun _ => (inside_draw _).bind fun _ => inside_call _ _ _

theorem yields_write {kind : ServiceCall} {f : Store → Store} {u : Unit}
    (h : Yields env d s (Prisma.write .ambient kind f) u d' s') : s' = f s ∧ d' = d := by
  unfold Prisma.write Prisma.statement at h
  obtain ⟨hf, hd⟩ := yields_call h
  cases hf
  exact ⟨rfl, hd⟩

end inside

section ends
variable {P : Store → Prop}

/-- The audit row changes nothing a property looks at, and its failure is only logged. -/
theorem ends_auditCreate {entry : Time → AuditLog} (h : P s) (hP : ∀ row, P (s.insertAudit row)) :
    Ends env d s (fun _ _ => P) P (AuditRepository.create entry) := by
  refine ends_draw_bind (Ends.rethrow (ends_call (fun u s' hs' => ?_) h))
  cases hs'
  exact hP _

theorem ends_toRow (event : DomainEvent) :
    Ends env d s (fun _ _ s' => s' = s) P (OutboxPublisher.toRow event) :=
  ends_draw_bind (ends_draw_bind (ends_pure rfl))

theorem ends_toRows (events : List DomainEvent) :
    Ends env d s (fun _ _ s' => s' = s) P (OutboxPublisher.toRows events) := by
  induction events generalizing d with
  | nil => exact ends_pure rfl
  | cons event rest ih =>
    refine (ends_toRow event).bind ?_
    rintro row d₁ s₁ rfl
    refine ih.bind ?_
    rintro rows d₂ s₂ rfl
    exact ends_pure rfl

theorem ends_publishAll {events : List DomainEvent} (h : P s)
    (hP : ∀ rows, P (s.enqueueMany rows)) :
    Ends env d s (fun _ _ => P) P (OutboxPublisher.publishAll events) := by
  unfold OutboxPublisher.publishAll
  split
  · exact ends_pure h
  · refine (ends_toRows events).bind ?_
    rintro rows d₁ s₁ rfl
    refine ends_call (fun u s' hs' => ?_) h
    cases hs'
    exact hP rows

theorem nextTicketNumber_sequences (tenantId : Uuid) :
    ∃ sequences, (s.nextTicketNumber tenantId).2 = { s with sequences := sequences } := by
  unfold Store.nextTicketNumber
  split
  · exact ⟨_, rfl⟩
  · exact ⟨_, rfl⟩

/-- Publishing writes the outbox alone. -/
theorem enqueueMany_outbox (rows : List (OutboxEvent EventBody)) :
    ∃ outbox, s.enqueueMany rows = { s with outbox := outbox } := by
  induction rows generalizing s with
  | nil => exact ⟨s.outbox, rfl⟩
  | cons row rest ih =>
    have hrow : ∃ outbox, s.enqueue row = { s with outbox := outbox } := by
      unfold Store.enqueue
      split
      · exact ⟨s.outbox, rfl⟩
      · exact ⟨s.outbox ++ [row], rfl⟩
    obtain ⟨outbox, hrow⟩ := hrow
    obtain ⟨outbox', hrest⟩ := ih (s := s.enqueue row)
    refine ⟨outbox', ?_⟩
    have hstep : s.enqueueMany (row :: rest) = (s.enqueue row).enqueueMany rest := rfl
    rw [hstep, hrest, hrow]

theorem yields_publishAll_outbox {events : List DomainEvent} {u : Unit}
    (h : Yields env d s (OutboxPublisher.publishAll events) u d' s') :
    ∃ outbox, s' = { s with outbox := outbox } := by
  unfold OutboxPublisher.publishAll at h
  split at h
  · obtain ⟨-, -, rfl⟩ := yields_pure h
    exact ⟨s'.outbox, rfl⟩
  · obtain ⟨rows, _, _, hrows, hcall⟩ := yields_bind (inside_toRows events) h
    obtain ⟨-, rfl⟩ := yields_toRows hrows
    obtain ⟨hf, -⟩ := yields_call hcall
    cases hf
    exact enqueueMany_outbox rows

end ends
end OmniSupport.Database
