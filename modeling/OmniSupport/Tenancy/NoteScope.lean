import OmniSupport.Foundation.Views
import OmniSupport.Tenancy.CallScope

/-! Two stores that differ in the internal notes of one ticket, and in what these have left in the
activities and in the outbox: what calls about anything else make of both. -/
namespace OmniSupport.Tenancy
open Foundation Effect Database Table

section notes
variable (A ticketId : Uuid)

/-- The comment is an internal note of the ticket. -/
def isNote (comment : TicketComment) : Bool :=
  comment.tenantId = A && comment.ticketId = ticketId && comment.type = .internalNote

/-- The event says that an internal note was added to the ticket. -/
def isNoteEvent : EventBody → Bool
  | .commentAdded id tenantId _ _ .internalNote => id = ticketId && tenantId = A
  | _ => false

def onTicket (row : ActivityLog) : Bool := row.ticketId = some ticketId && row.tenantId = A

end notes

/-- The tables that notes leave alone. -/
def otherTables (s : Store) : Store :=
  { s with comments := [], activities := [], audits := [], outbox := [], attachments := [] }

/-- The stores differ in the internal notes of the ticket, and the activities of the ticket by what
`n` and `n'` changes of notes have left. -/
structure NotesApart (A ticketId : Uuid) (n n' : Nat) (s s' : Store) : Prop where
  rest : otherTables s = otherTables s'
  comments : SameView (fun comment => !isNote A ticketId comment) s.comments s'.comments
  keys : (s.comments.map TicketComment.id).Nodup
  keys' : (s'.comments.map TicketComment.id).Nodup
  activities : s.activities.countP (onTicket A ticketId) + n' =
    s'.activities.countP (onTicket A ticketId) + n
  outbox : SameView (fun row => !isNoteEvent A ticketId row.payload) s.outbox s'.outbox

/-- No event of a note has an id that is to be drawn. -/
def NotesOld (env : ServiceEnv) (A ticketId : Uuid) (s : Store) : Prop :=
  ∀ k, ∀ row ∈ s.outbox, isNoteEvent A ticketId row.payload = true → row.eventId ≠ env.eventId k

/-- The comment with this id in the organization is no note. -/
def NamesNone (A ticketId B id : Uuid) (s : Store) : Prop :=
  ∀ comment ∈ s.comments, comment.id = id → comment.tenantId = B →
    isNote A ticketId comment = false

section apart
variable {A ticketId B : Uuid} {n n' : Nat} {env : ServiceEnv} {s s' : Store} {id : Uuid}

theorem NotesApart.refl (hkeys : (s.comments.map TicketComment.id).Nodup) :
    NotesApart A ticketId n n s s where
  rest := rfl
  comments := .refl _ _
  keys := hkeys
  keys' := hkeys
  activities := rfl
  outbox := .refl _ _

theorem NotesApart.symm (h : NotesApart A ticketId n n' s s') :
    NotesApart A ticketId n' n s' s where
  rest := h.rest.symm
  comments := h.comments.symm
  keys := h.keys'
  keys' := h.keys
  activities := h.activities.symm
  outbox := h.outbox.symm

theorem NotesApart.trans {s'' : Store} {m m' : Nat} (h : NotesApart A ticketId n n' s s')
    (h' : NotesApart A ticketId m m' s' s'') :
    NotesApart A ticketId (n + m) (n' + m') s s'' where
  rest := h.rest.trans h'.rest
  comments := h.comments.trans h'.comments
  keys := h.keys
  keys' := h'.keys'
  activities := by
    have hfirst := h.activities
    have hsecond := h'.activities
    omega
  outbox := h.outbox.trans h'.outbox

/-- What is read from the other tables is the same in both stores. -/
theorem NotesApart.reads (h : NotesApart A ticketId n n' s s') {β : Sort*} {f : Store → β}
    (hf : ∀ s, f (otherTables s) = f s) : f s = f s' := by
  rw [← hf s, ← hf s', h.rest]

/-- The comments that are named are the same in both stores. -/
theorem NotesApart.named (h : NotesApart A ticketId n n' s s') (hnames : NamesNone A ticketId B id s)
    (howns : OwnsComment B id s s') :
    ∃ comment ∈ s.comments, comment ∈ s'.comments ∧ comment.id = id ∧ comment.tenantId = B ∧
      isNote A ticketId comment = false := by
  obtain ⟨comment, hmem, hid, hB⟩ := howns
  have hno : isNote A ticketId comment = false := hnames comment hmem hid hB
  exact ⟨comment, hmem, (h.comments.mem_iff (by simp [hno])).mp hmem, hid, hB, hno⟩

theorem NotesApart.findComment (h : NotesApart A ticketId n n' s s')
    (hnames : NamesNone A ticketId B id s) (hnames' : NamesNone A ticketId B id s') :
    s.findComment id B = s'.findComment id B := by
  refine h.comments.find? (fun comment hmem hp => ?_) fun comment hmem hp => ?_
  · obtain ⟨hid, hB⟩ := of_decide_eq_true hp
    simp [hnames comment hmem hid hB]
  · obtain ⟨hid, hB⟩ := of_decide_eq_true hp
    simp [hnames' comment hmem hid hB]

theorem NotesApart.commentRow (h : NotesApart A ticketId n n' s s')
    (hnames : NamesNone A ticketId B id s) (howns : OwnsComment B id s s') :
    (s.comments.find? fun row => row.id = id) = s'.comments.find? fun row => row.id = id := by
  obtain ⟨comment, hmem, -, rfl, -, hno⟩ := h.named hnames howns
  exact h.comments.find?_key h.keys h.keys' hmem (by simp [hno])

theorem nodup_updateComment (now : Time) (comment : TicketComment)
    (hkeys : (s.comments.map TicketComment.id).Nodup) :
    ((s.updateComment id (comment.write now)).comments.map TicketComment.id).Nodup := by
  have hids : (Table.updateMany (fun row => row.id = id) (comment.write now) s.comments).map
      TicketComment.id = s.comments.map TicketComment.id := map_updateMany fun _ => rfl
  exact (congrArg List.Nodup hids).mpr hkeys

/-- With unique ids the rows that are written are the ones that are named. -/
theorem NotesApart.updateComment (h : NotesApart A ticketId n n' s s')
    (hnames : NamesNone A ticketId B id s) (howns : OwnsComment B id s s') (now : Time)
    (comment : TicketComment) :
    NotesApart A ticketId n n' (s.updateComment id (comment.write now))
      (s'.updateComment id (comment.write now)) := by
  obtain ⟨named, hmem, hmem', hid, -, hno⟩ := h.named hnames howns
  have honly : ∀ {rows : List TicketComment}, (rows.map TicketComment.id).Nodup → named ∈ rows →
      ∀ row ∈ rows, row.id = id → (!isNote A ticketId row) = true := by
    intro rows hkeys hnamed row hrow hrowId
    obtain rfl : row = named := List.inj_on_of_nodup_map hkeys hrow hnamed (hrowId.trans hid.symm)
    simp [hno]
  refine { h with comments := ?_, keys := ?_, keys' := ?_ }
  · exact h.comments.updateMany (honly h.keys hmem) (honly h.keys' hmem')
  · exact nodup_updateComment now comment h.keys
  · exact nodup_updateComment now comment h.keys'

theorem NotesApart.insertComment (h : NotesApart A ticketId n n' s s') {row : TicketComment}
    (hnew : ∀ comment ∈ s.comments, comment.id ≠ row.id)
    (hnew' : ∀ comment ∈ s'.comments, comment.id ≠ row.id) :
    NotesApart A ticketId n n' (s.insertComment row) (s'.insertComment row) :=
  { h with
    comments := h.comments.append [row]
    keys := nodup_insert h.keys hnew
    keys' := nodup_insert h.keys' hnew' }

theorem NotesApart.deleteComment (h : NotesApart A ticketId n n' s s') (id : Uuid) :
    NotesApart A ticketId n n' (s.deleteComment id B) (s'.deleteComment id B) :=
  { h with
    comments := h.comments.deleteMany
    keys := h.keys.sublist (List.filter_sublist.map TicketComment.id)
    keys' := h.keys'.sublist (List.filter_sublist.map TicketComment.id) }

theorem NotesApart.insertActivity (h : NotesApart A ticketId n n' s s') (row : ActivityLog) :
    NotesApart A ticketId n n' (s.insertActivity row) (s'.insertActivity row) := by
  refine { h with activities := ?_ }
  have hcount := h.activities
  simp only [Store.insertActivity, List.countP_append]
  omega

theorem nextTicketNumber_otherTables (s : Store) : (otherTables s).nextTicketNumber B =
    ((s.nextTicketNumber B).1, otherTables (s.nextTicketNumber B).2) := by
  have hrows : (otherTables s).sequences = s.sequences := rfl
  unfold Store.nextTicketNumber
  rw [hrows]
  cases s.sequences.find? fun sequence => sequence.tenantId = B with
  | none => rfl
  | some sequence => rfl

theorem NotesApart.nextTicketNumber (h : NotesApart A ticketId n n' s s') :
    (s.nextTicketNumber B).1 = (s'.nextTicketNumber B).1 ∧
      NotesApart A ticketId n n' (s.nextTicketNumber B).2 (s'.nextTicketNumber B).2 := by
  have hboth : (otherTables s).nextTicketNumber B = (otherTables s').nextTicketNumber B := by
    rw [h.rest]
  rw [nextTicketNumber_otherTables, nextTicketNumber_otherTables] at hboth
  obtain ⟨hnumber, hrest⟩ := Prod.mk.inj hboth
  obtain ⟨sequences, hs⟩ := nextTicketNumber_sequences (s := s) B
  obtain ⟨sequences', hs'⟩ := nextTicketNumber_sequences (s := s') B
  refine ⟨hnumber, ?_⟩
  rw [hs, hs'] at hrest ⊢
  exact { h with rest := hrest }

/-- A customer who goes leaves activities without customer. -/
theorem NotesApart.deleteCustomer (h : NotesApart A ticketId n n' s s') (id : Uuid) :
    NotesApart A ticketId n n' (s.deleteCustomer id B) (s'.deleteCustomer id B) := by
  have hfound : s.findCustomer id B = s'.findCustomer id B :=
    h.reads fun _ => rfl
  have hrest : otherTables (s.deleteCustomer id B) = otherTables (s'.deleteCustomer id B) := by
    have hcomm : ∀ s : Store, otherTables (s.deleteCustomer id B) =
        (otherTables s).deleteCustomer id B := by
      intro s
      have hsame : (otherTables s).findCustomer id B = s.findCustomer id B := rfl
      unfold Store.deleteCustomer
      rw [hsame]
      split
      · rfl
      · rfl
    rw [hcomm, hcomm, h.rest]
  unfold Store.deleteCustomer at hrest ⊢
  rw [← hfound] at hrest ⊢
  split
  · rename_i hsome
    rw [if_pos hsome, if_pos hsome] at hrest
    refine { h with rest := hrest, activities := ?_ }
    have hcount : ∀ rows : List ActivityLog, (Table.updateMany (fun row => row.customerId = some id)
        (fun row => { row with customerId := none }) rows).countP (onTicket A ticketId) =
          rows.countP (onTicket A ticketId) := fun _ => countP_updateMany fun _ => rfl
    dsimp only
    rw [hcount, hcount]
    exact h.activities
  · exact h

end apart

section outbox
variable {A ticketId : Uuid} {n n' : Nat} {env : ServiceEnv} {s s' : Store}
  {row : Outbox.OutboxEvent EventBody}

/-- The event is about no note, and its id has been drawn. -/
def TellsNone (env : ServiceEnv) (A ticketId : Uuid) (event : DomainEvent) : Prop :=
  isNoteEvent A ticketId event.body = false ∧ ∃ k, event.eventId = env.eventId k

theorem enqueue_known (h : SameView (fun row => !isNoteEvent A ticketId row.payload) s.outbox
      s'.outbox) (hold : NotesOld env A ticketId s) {k : Nat} (hid : row.eventId = env.eventId k) :
    (∃ r ∈ s.outbox, r.eventId = row.eventId) → ∃ r ∈ s'.outbox, r.eventId = row.eventId := by
  rintro ⟨r, hr, heq⟩
  have hno : isNoteEvent A ticketId r.payload = false := by
    cases hnote : isNoteEvent A ticketId r.payload with
    | false => rfl
    | true => exact absurd (heq.trans hid) (hold k r hr hnote)
  exact ⟨r, (h.mem_iff (by simp [hno])).mp hr, heq⟩

theorem NotesApart.enqueue (h : NotesApart A ticketId n n' s s') (hold : NotesOld env A ticketId s)
    (hold' : NotesOld env A ticketId s') {k : Nat} (hid : row.eventId = env.eventId k) :
    NotesApart A ticketId n n' (s.enqueue row) (s'.enqueue row) := by
  unfold Store.enqueue
  by_cases hknown : ∃ r ∈ s.outbox, r.eventId = row.eventId
  · rw [if_pos hknown, if_pos (enqueue_known h.outbox hold hid hknown)]
    exact h
  · rw [if_neg hknown, if_neg fun hknown' =>
      hknown (enqueue_known h.outbox.symm hold' hid hknown')]
    exact { h with outbox := h.outbox.append [row] }

theorem NotesOld.enqueue (h : NotesOld env A ticketId s)
    (hrow : isNoteEvent A ticketId row.payload = false) : NotesOld env A ticketId (s.enqueue row) := by
  unfold Store.enqueue
  split
  · exact h
  · intro k r hr hnote
    rcases List.mem_append.mp hr with hold | hnew
    · exact h k r hold hnote
    · rw [List.mem_singleton.mp hnew, hrow] at hnote
      cases hnote

theorem NotesApart.enqueueMany (h : NotesApart A ticketId n n' s s')
    (hold : NotesOld env A ticketId s) (hold' : NotesOld env A ticketId s')
    {events : List DomainEvent} {rows : List (Outbox.OutboxEvent EventBody)}
    (hall : List.Forall₂ RowOf events rows)
    (htells : ∀ event ∈ events, TellsNone env A ticketId event) :
    NotesApart A ticketId n n' (s.enqueueMany rows) (s'.enqueueMany rows) ∧
      NotesOld env A ticketId (s.enqueueMany rows) ∧
      NotesOld env A ticketId (s'.enqueueMany rows) := by
  induction hall generalizing s s' with
  | nil => exact ⟨h, hold, hold'⟩
  | cons hrow hrest ih =>
    obtain ⟨hbody, k, hid⟩ := htells _ List.mem_cons_self
    have hrowId := hrow.eventId.trans hid
    obtain ⟨_, _, rfl⟩ := hrow
    exact ih (h.enqueue hold hold' hrowId) (hold.enqueue hbody) (hold'.enqueue hbody)
      fun event hevent => htells event (List.mem_cons_of_mem _ hevent)

end outbox

/-- Calls for any organization, about anything but the notes of the ticket, keep stores apart by
these notes alone. -/
def noteScope (env : ServiceEnv) (A ticketId : Uuid) (n n' : Nat) (B : Uuid) : CallScope env B where
  Same s s' := NotesApart A ticketId n n' s s' ∧ NotesOld env A ticketId s ∧
    NotesOld env A ticketId s'
  Names id s s' := NamesNone A ticketId B id s ∧ NamesNone A ticketId B id s'
  Adds comment := isNote A ticketId comment = false
  Tells event := TellsNone env A ticketId event
  Refers _ := Anything
  users h := h.1.reads fun _ => rfl
  tenants h := h.1.reads fun _ => rfl
  findTicket h := h.1.reads fun _ => rfl
  findComment h hnames := h.1.findComment hnames.1 hnames.2
  findCustomer h := h.1.reads fun _ => rfl
  ticketRow {_ _ id} h _ := h.1.reads
    (f := fun s => s.tickets.find? fun row => row.id = id) fun _ => rfl
  commentRow h hnames howns := h.1.commentRow hnames.1 howns
  customerRow {_ _ id} h _ := h.1.reads
    (f := fun s => s.customers.find? fun row => row.id = id) fun _ => rfl
  ticketStands h howns := by
    obtain ⟨ticket, hmem, hid, -⟩ := howns
    have htickets : Store.tickets _ = Store.tickets _ := h.1.reads fun _ => rfl
    exact ⟨ticket, htickets ▸ hmem, hid⟩
  hasTickets h := h.1.reads fun _ => rfl
  referenced h _ := h.1.reads fun _ => rfl
  emailTaken {_ _ email} h := iff_of_eq <| h.1.reads
    (f := fun s => ∃ row ∈ s.customers, row.tenantId = B ∧ row.email = email) fun _ => rfl
  customersWithEmail h := h.1.reads fun _ => rfl
  countCreatedSince h := h.1.reads fun _ => rfl
  nextTicketNumber {s s'} h := by
    obtain ⟨hnumber, hnext⟩ := h.1.nextTicketNumber (B := B)
    obtain ⟨sequences, hs⟩ := nextTicketNumber_sequences (s := s) B
    obtain ⟨sequences', hs'⟩ := nextTicketNumber_sequences (s := s') B
    refine ⟨hnumber, hnext, ?_, ?_⟩
    · rw [hs]
      exact h.2.1
    · rw [hs']
      exact h.2.2
  insertActivity h _ := ⟨h.1.insertActivity _, h.2⟩
  insertAudit _ h := ⟨{ h.1 with }, h.2⟩
  enqueueMany h hall htells := h.1.enqueueMany h.2.1 h.2.2 hall htells
  insertTicket {_ _ row} h _ _ _ :=
    ⟨{ h.1 with rest := congrArg (Store.insertTicket row) h.1.rest }, h.2⟩
  insertComment h _ _ hnew hnew' := ⟨h.1.insertComment hnew hnew', h.2⟩
  insertCustomer {_ _ row} h _ _ _ :=
    ⟨{ h.1 with rest := congrArg (Store.insertCustomer row) h.1.rest }, h.2⟩
  updateTicket now ticket h _ :=
    ⟨{ h.1 with rest := congrArg (Store.updateTicket _ (ticket.write now)) h.1.rest }, h.2⟩
  updateComment now comment h hnames howns :=
    ⟨h.1.updateComment hnames.1 howns now comment, h.2⟩
  updateCustomer now customer h _ :=
    ⟨{ h.1 with rest := congrArg (Store.updateCustomer _ (customer.write now)) h.1.rest }, h.2⟩
  deleteComment h _ := ⟨h.1.deleteComment _, h.2⟩
  deleteCustomer {s s' id} h _ := by
    have hkept : ∀ s : Store, (s.deleteCustomer id B).outbox = s.outbox := by
      intro s
      unfold Store.deleteCustomer
      split
      · rfl
      · rfl
    refine ⟨h.1.deleteCustomer id, ?_, ?_⟩
    · unfold NotesOld
      rw [hkept]
      exact h.2.1
    · unfold NotesOld
      rw [hkept]
      exact h.2.2
  tells {k body} hbody := by
    refine ⟨?_, k, rfl⟩
    cases body with
    | commentAdded => exact absurd rfl hbody
    | _ => rfl

end OmniSupport.Tenancy
