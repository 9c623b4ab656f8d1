import OmniSupport.Foundation.Machine
import OmniSupport.Notification.NotificationService
import OmniSupport.Ticket.InternalNotes
import OmniSupport.Ticket.ReadPaths

/-! Two runs of requests that differ in the internal notes of one ticket, and what an actor who is
connected to the gateway sees in both: the ticket, its history, and the messages of their rooms. -/
namespace OmniSupport.Tenancy
open Foundation Effect Database Table Ticketing Notification

/-- The gateway lets the actor join the room. -/
def canAccessRoom (actor : TicketActor) (s : Store) : Target → Bool
  | .user id => id = actor.id
  | .tenant id => id = actor.tenantId && .realtimeTenant ∈ heldBy actor s
  | .ticket id => (s.findTicket id actor.tenantId).any fun ticket =>
      TicketAccessPolicy.canView (viewerOf actor s) ticket

/-- The gateway leaves the room of the user alone and checks the others again. -/
def staysIn (actor : TicketActor) (s : Store) : Target → Bool
  | .user _ => true
  | room => canAccessRoom actor s room

/-- One run as far as the actor is concerned: the store, the rooms of their socket, and the messages
it has received. -/
structure Desk where
  store : Store
  rooms : List Target
  messages : List WSMessage
  deriving DecidableEq

/-- What happens in a run. Other services change the tables of their own as they like, and add to
the activities, the audit rows, the outbox and the attachments. -/
inductive DeskStep where
  | call (call : TenantCall) (env : ServiceEnv) (faults : Nat → Fault)
  | elsewhere (change : Store → Store)
  | subscribe (room : Target)
  | unsubscribe (room : Target)
  | revalidate
  | deliver (row : Outbox.OutboxEvent EventBody) (env : NotificationEnv) (faults : Nat → Fault)

def elsewhere (change : Store → Store) (s : Store) : Store :=
  let next := change (otherTables s)
  { next with
    comments := s.comments
    activities := s.activities ++ next.activities
    audits := s.audits ++ next.audits
    outbox := s.outbox ++ next.outbox
    attachments := s.attachments ++ next.attachments }

/-- What the handlers of notifications read. -/
def noticeStore (s : Store) : NotificationStore :=
  ⟨s.tickets, s.customers, s.tenants, s.users, [], [], []⟩

/-- The messages that the handler of the event sends. -/
def sentFor (payload : EventBody) (env : NotificationEnv) (faults : Nat → Fault) (s : Store) :
    List WSMessage :=
  match notificationHandler payload with
  | some handler => (handler.run env faults (World.start (noticeStore s))).2.committed.messages
  | none => []

/-- A row of the outbox may be delivered any number of times. -/
def Desk.perform (actor : TicketActor) (desk : Desk) : DeskStep → Desk
  | .call call env faults => { desk with store := call.after env faults desk.store }
  | .elsewhere change => { desk with store := elsewhere change desk.store }
  | .subscribe room =>
    if canAccessRoom actor desk.store room then { desk with rooms := desk.rooms ++ [room] } else desk
  | .unsubscribe room => { desk with rooms := desk.rooms.filter fun joined => joined ≠ room }
  | .revalidate => { desk with rooms := desk.rooms.filter (staysIn actor desk.store) }
  | .deliver row env faults =>
    if row ∈ desk.store.outbox then
      let sent := sentFor row.payload env faults desk.store
      { desk with
        messages := desk.messages ++ sent.filter fun message => message.target ∈ desk.rooms }
    else desk

/-- Two runs side by side, with the calls on notes that only one of them has carried out. -/
structure Runs where
  left : Desk
  right : Desk
  leftNotes : Nat
  rightNotes : Nat

def Runs.start (s : Store) : Runs := ⟨⟨s, [], []⟩, ⟨s, [], []⟩, 0, 0⟩

def Runs.swap (r : Runs) : Runs := ⟨r.right, r.left, r.rightNotes, r.leftNotes⟩

/-- Both runs take a step, or one of them a call on a note of the ticket. -/
inductive Move where
  | both (step : DeskStep)
  | left (call : TenantCall) (env : ServiceEnv) (faults : Nat → Fault)
  | right (call : TenantCall) (env : ServiceEnv) (faults : Nat → Fault)

def TenantCall.commits (call : TenantCall) (env : ServiceEnv) (faults : Nat → Fault) (s : Store) :
    Nat :=
  (call.perform.run env faults (World.start s)).2.commits

section machine
variable (actor : TicketActor) (ticketId : Uuid)

/-- While the runs agree they may share calls on notes, too. -/
def shared (r : Runs) : DeskStep → Bool
  | .call call _ _ => r.left.store = r.right.store ||
      !(call.isNoteCall actor.tenantId ticketId r.left.store ||
        call.isNoteCall actor.tenantId ticketId r.right.store)
  | _ => true

def noteAlone (r : Runs) (call : TenantCall) (env : ServiceEnv) (faults : Nat → Fault) :
    Option Runs :=
  if call.isNoteCall actor.tenantId ticketId r.left.store then
    some { r with
      left := r.left.perform actor (.call call env faults)
      leftNotes := r.leftNotes + call.commits env faults r.left.store }
  else none

/-- Two runs that differ in calls on internal notes of the ticket alone. -/
def noteRuns : Machine Runs Move where
  step r
    | .both step =>
      if shared actor ticketId r step then
        some { r with left := r.left.perform actor step, right := r.right.perform actor step }
      else none
    | .left call env faults => noteAlone actor ticketId r call env faults
    | .right call env faults => (noteAlone actor ticketId r.swap call env faults).map Runs.swap

end machine

/-- The ids drawn are new in the stores they are drawn for. -/
def NewlyDrawn (r : Runs) : Move → Prop
  | .both (.call _ env _) => BothNew env r.left.store r.right.store ∧
      FreshIds env r.left.store ∧ FreshIds env r.right.store
  | .left _ env _ => FreshIds env r.left.store
  | .right _ env _ => FreshIds env r.right.store
  | _ => True

/-- The message says that an internal note was added to the ticket. -/
def isNoteMessage (ticketId : Uuid) (message : WSMessage) : Bool :=
  message.target = .ticket ticketId && message.event = "notification:internal-note-added"

/-- What the services answer about the ticket. -/
def ticketAnswer (ticketId tenantId : Uuid) (env : ServiceEnv) (faults : Nat → Fault) (s : Store) :
    Outcome AppError TicketEntity :=
  ((TicketService.getTicket ticketId tenantId).run env faults (World.start s)).1

def historyAnswer (ticketId tenantId : Uuid) (page limit : Nat) (env : ServiceEnv)
    (faults : Nat → Fault) (s : Store) : Outcome AppError (PaginatedResult ActivityLog) :=
  ((TicketService.getTicketHistory ticketId tenantId page limit).run env faults (World.start s)).1

/-- The actor sees the same in both runs. -/
structure Unnoticed (actor : TicketActor) (ticketId : Uuid) (r : Runs) : Prop where
  messages : r.left.messages = r.right.messages
  ticket : ∀ env faults, ticketAnswer ticketId actor.tenantId env faults r.left.store =
    ticketAnswer ticketId actor.tenantId env faults r.right.store
  history : ∀ page limit env faults,
    historyAnswer ticketId actor.tenantId page limit env faults r.left.store =
      historyAnswer ticketId actor.tenantId page limit env faults r.right.store

/-- The runs are apart by the notes alone, and are one run as long as no note is carried out. -/
structure Related (actor : TicketActor) (ticketId : Uuid) (r : Runs) : Prop where
  apart : NotesApart actor.tenantId ticketId r.leftNotes r.rightNotes r.left.store r.right.store
  rooms : r.left.rooms = r.right.rooms
  messages : SameView (fun message => !isNoteMessage ticketId message) r.left.messages
    r.right.messages
  agree : r.leftNotes = 0 → r.rightNotes = 0 → r.left = r.right

section calls
variable {A ticketId : Uuid} {n n' : Nat} {env : ServiceEnv} {s s' : Store}

/-- A listing changes nothing. -/
theorem after_of_lists {call : TenantCall} (hlists : call.lists = true) (faults : Nat → Fault) :
    call.after env faults s = s := by
  have hpage : ∀ {ρ : Type} {d : Nat} {findKind countKind : ServiceCall} {error : AppError}
      {select : TextSearch → Store → Except AppError (List ρ)} {le : ρ → ρ → Bool}
      {pagination : PaginationOptions}, Ends env d s (fun _ _ s' => s' = s) (fun s' => s' = s)
        (findPage findKind countKind error select le pagination) :=
    answers_findPage.ends.mono (fun _ _ _ h => h.2.2) fun _ h => h
  have hends : Ends env 0 s (fun _ _ s' => s' = s) (fun s' => s' = s) call.perform := by
    cases call with
    | listTickets filters pagination => exact hpage
    | listCustomers filters pagination => exact hpage
    | getTicketHistory ticketId tenantId page limit =>
      simp only [TenantCall.perform, TicketService.getTicketHistory,
        TicketService.getTicketOrThrow, TicketRepository.findById, bind_assoc, pure_bind,
        ActivityRepository.findByTicket, ActivityRepository.findBy]
      exact ends_read_bind (ends_lift_bind (fun _ _ => hpage) rfl) rfl
    | getCustomerTimeline customerId tenantId page limit =>
      simp only [TenantCall.perform, Customers.CustomerService.getCustomerTimeline,
        Customers.CustomerService.getCustomerOrThrow, CustomerRepository.findById, bind_assoc,
        pure_bind, ActivityRepository.findByCustomer, ActivityRepository.findBy]
      exact ends_read_bind (ends_lift_bind (fun _ _ => hpage) rfl) rfl
    | _ => cases hlists
  exact hends.leaves faults

theorem namesNone_of {commentId tenantId : Uuid} (hkeys : (s.comments.map TicketComment.id).Nodup)
    (hno : namesNote A ticketId commentId tenantId s = false) :
    NamesNone A ticketId tenantId commentId s := by
  intro comment hmem hid hB
  have hsome : (s.findComment commentId tenantId).isSome :=
    List.find?_isSome.mpr ⟨comment, hmem, by simp [hid, hB]⟩
  obtain ⟨found, hfound⟩ := Option.isSome_iff_exists.mp hsome
  rw [eq_of_findComment hkeys hfound comment hmem hid]
  rw [namesNote, hfound] at hno
  exact hno

/-- A call about anything but the notes, in both runs. -/
theorem NotesApart.sharedCall (h : NotesApart A ticketId n n' s s') {call : TenantCall}
    (hnew : BothNew env s s') (hfresh : FreshIds env s) (hfresh' : FreshIds env s')
    (hno : call.isNoteCall A ticketId s = false) (hno' : call.isNoteCall A ticketId s' = false)
    (faults : Nat → Fault) :
    NotesApart A ticketId n n' (call.after env faults s) (call.after env faults s') := by
  cases hlists : call.lists with
  | true =>
    rw [after_of_lists hlists, after_of_lists hlists]
    exact h
  | false =>
    have hold : NotesOld env A ticketId s := fun k row hrow _ => hfresh.new k row hrow
    have hold' : NotesOld env A ticketId s' := fun k row hrow _ => hfresh'.new k row hrow
    have hallowed : call.Allowed (noteScope env A ticketId n n' call.tenantId) s s' := by
      cases call with
      | addComment dto =>
        simp only [TenantCall.isNoteCall, Bool.and_eq_false_iff, decide_eq_false_iff_not] at hno
        refine ⟨fun comment hA hticket htype => ?_, fun k id => ⟨?_, k, rfl⟩⟩
        · change isNote A ticketId comment = false
          simpa [isNote, hA, hticket, htype, or_assoc, imp_iff_not_or] using hno
        · cases htype : dto.type with
          | publicComment => simp [EventHeader.event, isNoteEvent]
          | internalNote =>
            simp only [EventHeader.event, isNoteEvent, Bool.and_eq_false_iff,
              decide_eq_false_iff_not]
            simp only [htype, not_true_eq_false, or_false] at hno
            exact hno.symm
      | editComment dto => exact ⟨namesNone_of h.keys hno, namesNone_of h.keys' hno'⟩
      | deleteComment dto => exact ⟨namesNone_of h.keys hno, namesNone_of h.keys' hno'⟩
      | deleteCustomer => exact fun _ => trivial
      | _ => trivial
    exact ((twins_perform_of call (noteScope env A ticketId n n' call.tenantId) hlists).run
      ⟨h, hold, hold'⟩ ⟨hnew, hallowed⟩ faults).2.1

/-- What a call on a note has changed when it is carried out, and when it is not. -/
structure NoteOutcome (A ticketId : Uuid) (call : TenantCall) (env : ServiceEnv)
    (faults : Nat → Fault) (s : Store) : Prop where
  refused : call.commits env faults s = 0 → call.after env faults s = s
  carriedOut : call.commits env faults s ≠ 0 → call.commits env faults s = 1 ∧
    NoteChanged A ticketId s (call.after env faults s)

theorem noteOutcome (hfresh : FreshIds env s) {call : TenantCall}
    (hnote : call.isNoteCall A ticketId s = true) (faults : Nat → Fault) :
    NoteOutcome A ticketId call env faults s := by
  obtain ⟨calls, -, ⟨-, hcommits, hsame⟩ | ⟨hcommits, hchanged, -⟩⟩ :=
    atomic_noteCall hfresh hnote faults (World.start s) rfl rfl rfl
  · have hzero : call.commits env faults s = 0 := hcommits
    exact ⟨fun _ => hsame, fun h => absurd hzero h⟩
  · have hone : call.commits env faults s = 1 := hcommits
    exact ⟨fun h => by omega, fun _ => ⟨hone, hchanged⟩⟩

theorem NotesApart.noteCall (h : NotesApart A ticketId n n' s s') (hfresh : FreshIds env s)
    {call : TenantCall} (hnote : call.isNoteCall A ticketId s = true) (faults : Nat → Fault) :
    NotesApart A ticketId (n + call.commits env faults s) n' (call.after env faults s) s' := by
  obtain ⟨hrefused, hcarried⟩ := noteOutcome hfresh hnote faults
  by_cases hzero : call.commits env faults s = 0
  · rw [hzero, hrefused hzero]
    exact h
  · obtain ⟨hone, -, hchanged⟩ := hcarried hzero
    have hboth := (hchanged h.keys).trans h
    rw [hone]
    rwa [Nat.add_comm 1 n, Nat.zero_add] at hboth

/-- While the stores are the same, calls on notes may be shared. -/
theorem NotesApart.sharedNote (h : NotesApart A ticketId n n' s s) (hfresh : FreshIds env s)
    {call : TenantCall} (hnote : call.isNoteCall A ticketId s = true) (faults : Nat → Fault) :
    NotesApart A ticketId n n' (call.after env faults s) (call.after env faults s) := by
  have hsame : n = n' := by
    have hcount := h.activities
    omega
  subst hsame
  exact .refl (h.noteCall hfresh hnote faults).keys

theorem NotesApart.elsewhere (h : NotesApart A ticketId n n' s s') (change : Store → Store) :
    NotesApart A ticketId n n' (elsewhere change s) (elsewhere change s') := by
  have hnext : change (otherTables s) = change (otherTables s') := by rw [h.rest]
  have hactivities := h.activities
  unfold Tenancy.elsewhere
  rw [hnext]
  refine { h with rest := rfl, activities := ?_, outbox := h.outbox.append _ }
  simp only [List.countP_append]
  omega

end calls

section messages
variable {actor : TicketActor} {A ticketId : Uuid} {n n' : Nat} {s s' : Store}

/-- Of a note the handler tells the room of the ticket, and nobody else. -/
theorem sentFor_note {payload : EventBody} (hnote : isNoteEvent A ticketId payload = true)
    (env : NotificationEnv) (faults : Nat → Fault) :
    ∀ message ∈ sentFor payload env faults s, isNoteMessage ticketId message = true := by
  have hends : ∀ handler, notificationHandler payload = some handler →
      Ends env 0 (noticeStore s)
        (fun _ _ s' => ∀ message ∈ s'.messages, isNoteMessage ticketId message = true)
        (fun s' => ∀ message ∈ s'.messages, isNoteMessage ticketId message = true) handler := by
    intro handler hhandler
    have hnone : ∀ message ∈ (noticeStore s).messages, isNoteMessage ticketId message = true :=
      fun message hmem => absurd hmem List.not_mem_nil
    cases payload with
    | commentAdded id tenantId commentId authorId commentType =>
      cases commentType with
      | publicComment => cases hnote
      | internalNote =>
        obtain ⟨rfl, rfl⟩ : id = ticketId ∧ tenantId = A := by simpa [isNoteEvent] using hnote
        cases hhandler
        have hlookups := ((answers_read .root NotificationCall.ticketFindFirst AppError.database _).both fun _ =>
          answers_read .root NotificationCall.userFindUnique AppError.database _ : Answers env 0 0 (noticeStore s)
            (both (NotificationService.findTicket id tenantId)
              (NotificationService.findUser authorId)) _)
        refine (hlookups.ends.mono (fun _ _ _ h => h.2.2) fun s' h => h ▸ hnone).bind ?_
        rintro ⟨ticket, author⟩ d s' rfl
        cases ticket with
        | none => exact ends_pure hnone
        | some ticket =>
          cases author with
          | none => exact ends_pure hnone
          | some author =>
            refine Ends.swallow ?_
            simp only [if_true]
            refine (ends_tell (P := fun _ _ s' => ∀ message ∈ s'.messages,
              isNoteMessage id message = true) ?_).bind fun _ _ _ h => ends_pure h
            intro message hmem
            rcases List.mem_append.mp hmem with hold | hnew
            · exact hnone message hold
            · rw [List.mem_singleton.mp hnew]
              simp [isNoteMessage, NotificationService.commentMessage]
    | _ => cases hnote
  unfold sentFor
  split
  · rename_i handler hhandler
    exact (hends handler hhandler).leaves faults
  · exact fun message hmem => absurd hmem List.not_mem_nil

theorem canAccessRoom_otherTables (room : Target) :
    canAccessRoom actor (otherTables s) room = canAccessRoom actor s room := by
  cases room with
  | user id => rfl
  | tenant id => rfl
  | ticket id => rfl

theorem NotesApart.canAccessRoom (h : NotesApart A ticketId n n' s s') (room : Target) :
    canAccessRoom actor s room = canAccessRoom actor s' room :=
  h.reads (f := fun s => Tenancy.canAccessRoom actor s room) fun _ => canAccessRoom_otherTables room

theorem NotesApart.staysIn (h : NotesApart A ticketId n n' s s') :
    staysIn actor s = staysIn actor s' := by
  funext room
  cases room with
  | user id => rfl
  | tenant id => exact h.canAccessRoom (.tenant id)
  | ticket id => exact h.canAccessRoom (.ticket id)

variable (actor) in
/-- An event is handled alike in both stores, and one of a note tells nothing else. -/
theorem NotesApart.deliver (h : NotesApart A ticketId n n' s s')
    {row : Outbox.OutboxEvent EventBody} (env : NotificationEnv) (faults : Nat → Fault)
    {rooms : List Target} {messages messages' : List WSMessage}
    (hview : SameView (fun message => !isNoteMessage ticketId message) messages messages') :
    SameView (fun message => !isNoteMessage ticketId message)
      (Desk.perform actor ⟨s, rooms, messages⟩ (.deliver row env faults)).messages
      (Desk.perform actor ⟨s', rooms, messages'⟩ (.deliver row env faults)).messages := by
  have hnotice : noticeStore s = noticeStore s' := h.reads fun _ => rfl
  have hsent : sentFor row.payload env faults s = sentFor row.payload env faults s' := by
    simp only [sentFor, hnotice]
  cases hnote : isNoteEvent A ticketId row.payload with
  | true =>
    have hhidden : ∀ (sent : Store), ∀ message ∈
        (sentFor row.payload env faults sent).filter (fun message => message.target ∈ rooms),
        (!isNoteMessage ticketId message) = false := by
      intro sent message hmem
      simp [sentFor_note hnote env faults message (List.mem_filter.mp hmem).1]
    have hkept : ∀ (desk : Desk), desk.rooms = rooms →
        SameView (fun message => !isNoteMessage ticketId message)
          (desk.perform actor (.deliver row env faults)).messages desk.messages := by
      intro desk hrooms
      simp only [Desk.perform]
      split
      · rw [hrooms]
        exact (SameView.refl _ _).append_hidden (hhidden _)
      · exact .refl _ _
    exact (hkept ⟨s, rooms, messages⟩ rfl).trans
      (hview.trans (hkept ⟨s', rooms, messages'⟩ rfl).symm)
  | false =>
    have hmem : row ∈ s.outbox ↔ row ∈ s'.outbox := h.outbox.mem_iff (by simp [hnote])
    simp only [Desk.perform]
    by_cases hrow : row ∈ s.outbox
    · rw [if_pos hrow, if_pos (hmem.mp hrow), hsent]
      exact hview.append _
    · rw [if_neg hrow, if_neg fun hrow' => hrow (hmem.mpr hrow')]
      exact hview

end messages

section runs
variable {actor : TicketActor} {ticketId : Uuid} {s : Store} {r r' : Runs}

theorem Related.start (hkeys : (s.comments.map TicketComment.id).Nodup) :
    Related actor ticketId (Runs.start s) where
  apart := .refl hkeys
  rooms := rfl
  messages := .refl _ _
  agree _ _ := rfl

theorem Related.swap (h : Related actor ticketId r) : Related actor ticketId r.swap where
  apart := h.apart.symm
  rooms := h.rooms.symm
  messages := h.messages.symm
  agree hleft hright := (h.agree hright hleft).symm

theorem Related.both (h : Related actor ticketId r) {step : DeskStep}
    (hnew : NewlyDrawn r (.both step)) (hshared : shared actor ticketId r step = true) :
    Related actor ticketId
      { r with left := r.left.perform actor step, right := r.right.perform actor step } := by
  have hagree : r.leftNotes = 0 → r.rightNotes = 0 →
      r.left.perform actor step = r.right.perform actor step :=
    fun hleft hright => by rw [h.agree hleft hright]
  obtain ⟨⟨s, rooms, messages⟩, ⟨s', rooms', messages'⟩, n, n'⟩ := r
  obtain ⟨hapart, hrooms, hview, -⟩ := h
  obtain rfl : rooms = rooms' := hrooms
  refine ⟨?_, ?_, ?_, hagree⟩
  · cases step with
    | call call env faults =>
      obtain ⟨hids, hfresh, hfresh'⟩ := hnew
      simp only [shared, Bool.or_eq_true, decide_eq_true_eq, Bool.not_eq_true',
        Bool.or_eq_false_iff] at hshared
      rcases hshared with hsame | ⟨hno, hno'⟩
      · obtain rfl : s = s' := hsame
        cases hnote : call.isNoteCall actor.tenantId ticketId s with
        | true => exact hapart.sharedNote hfresh hnote faults
        | false => exact hapart.sharedCall hids hfresh hfresh' hnote hnote faults
      · exact hapart.sharedCall hids hfresh hfresh' hno hno' faults
    | elsewhere change => exact hapart.elsewhere change
    | subscribe room =>
      simp only [Desk.perform]
      split <;> split <;> exact hapart
    | unsubscribe room => exact hapart
    | revalidate => exact hapart
    | deliver row env faults =>
      simp only [Desk.perform]
      split <;> split <;> exact hapart
  · cases step with
    | subscribe room =>
      have hmay : canAccessRoom actor s room = canAccessRoom actor s' room :=
        hapart.canAccessRoom room
      simp only [Desk.perform, hmay]
      split <;> rfl
    | revalidate =>
      have hstays : staysIn actor s = staysIn actor s' := hapart.staysIn
      simp only [Desk.perform, hstays]
    | deliver row env faults =>
      simp only [Desk.perform]
      split <;> split <;> rfl
    | _ => rfl
  · cases step with
    | deliver row env faults => exact hapart.deliver actor env faults hview
    | subscribe room =>
      simp only [Desk.perform]
      split <;> split <;> exact hview
    | _ => exact hview

theorem Related.alone (h : Related actor ticketId r) {call : TenantCall} {env : ServiceEnv}
    {faults : Nat → Fault} (hfresh : FreshIds env r.left.store)
    (hr : noteAlone actor ticketId r call env faults = some r') :
    Related actor ticketId r' := by
  unfold noteAlone at hr
  split at hr
  · rename_i hnote
    cases hr
    refine ⟨h.apart.noteCall hfresh hnote faults, h.rooms, h.messages, fun hleft hright => ?_⟩
    obtain ⟨hleft, hnone⟩ := Nat.add_eq_zero_iff.mp hleft
    have hkept : call.after env faults r.left.store = r.left.store :=
      (noteOutcome hfresh hnote faults).refused hnone
    simp only [Desk.perform, hkept]
    exact h.agree hleft hright
  · cases hr

theorem Related.step (h : Related actor ticketId r) {move : Move} (hnew : NewlyDrawn r move)
    (hr : (noteRuns actor ticketId).step r move = some r') : Related actor ticketId r' := by
  cases move with
  | both step =>
    simp only [noteRuns] at hr
    split at hr
    · rename_i hshared
      cases hr
      exact h.both hnew hshared
    · cases hr
  | left call env faults => exact h.alone hnew hr
  | right call env faults =>
    obtain ⟨next, hnext, rfl⟩ := Option.map_eq_some_iff.mp hr
    exact (h.swap.alone hnew hnext).swap

theorem Related.run (h : Related actor ticketId r) {moves : List Move}
    (hnew : (noteRuns actor ticketId).Within NewlyDrawn r moves)
    (hr : (noteRuns actor ticketId).run r moves = some r') : Related actor ticketId r' :=
  (noteRuns actor ticketId).run_preserves_within (fun _ _ _ h hnew hr => h.step hnew hr) h hnew hr

/-- The page of the history says how many activities the ticket has. -/
theorem history_total {tenantId : Uuid} (env : ServiceEnv)
    (hticket : (s.findTicket ticketId tenantId).isSome) :
    ∃ result, historyAnswer ticketId tenantId 1 20 env (fun _ => .none) s = .ok result ∧
      result.total = s.activities.countP (onTicket tenantId ticketId) := by
  obtain ⟨ticket, hfound⟩ := Option.isSome_iff_exists.mp hticket
  let page := pageOf ⟨1, 20, none, .desc⟩ (fun a a' => a'.occurredAt ≤ a.occurredAt) (env.ties 0)
    (s.activities.filter (onTicket tenantId ticketId))
  have hpage : Answers env 0 1 s (ActivityRepository.findByTicket ticketId tenantId 1 20)
      (.ok page) := by
    unfold ActivityRepository.findByTicket ActivityRepository.findBy
    exact answers_findPage
  have hanswers : Answers env 0 1 s (TicketService.getTicketHistory ticketId tenantId 1 20)
      (.ok page) := by
    simp only [TicketService.getTicketHistory, TicketService.getTicketOrThrow,
      TicketRepository.findById, bind_assoc, pure_bind]
    refine answers_read_bind ?_
    rw [hfound]
    exact (answers_lift _).bind fun _ _ => hpage
  exact ⟨_, hanswers.start, List.countP_eq_length_filter.symm⟩

/-- The answer depends on the row alone. -/
theorem ticketAnswer_congr {s s' : Store} {tenantId : Uuid} (env : ServiceEnv)
    (faults : Nat → Fault) (h : s.findTicket ticketId tenantId = s'.findTicket ticketId tenantId) :
    ticketAnswer ticketId tenantId env faults s = ticketAnswer ticketId tenantId env faults s' := by
  let same : Store → Store → Prop :=
    fun s s' => s.findTicket ticketId tenantId = s'.findTicket ticketId tenantId
  have hfind : Twins env same (fun _ _ => True) (fun _ => Anything)
      (TicketRepository.findById ticketId tenantId) :=
    (twins_read fun _ _ h _ => h).mono (fun _ _ _ h => h) fun _ _ _ _ _ => trivial
  have hanswer : Twins env same (fun _ _ => True) (fun _ => Anything)
      (TicketService.getTicket ticketId tenantId) :=
    hfind.bind fun _ => twins_lift_bind fun _ _ => twins_pure _ fun _ _ _ _ => trivial
  exact (hanswer.run h trivial faults).1

/-- Calls on notes add up in the history. -/
theorem Related.history (h : Related actor ticketId r) (hsame : Unnoticed actor ticketId r)
    (hticket : (r.left.store.findTicket ticketId actor.tenantId).isSome) :
    r.leftNotes = r.rightNotes := by
  have hticket' : (r.right.store.findTicket ticketId actor.tenantId).isSome := by
    rw [← h.apart.reads (f := fun s => s.findTicket ticketId actor.tenantId) fun _ => rfl]
    exact hticket
  obtain ⟨result, hresult, htotal⟩ := history_total sampleEnv hticket
  obtain ⟨result', hresult', htotal'⟩ := history_total sampleEnv hticket'
  have hpages := hsame.history 1 20 sampleEnv fun _ => .none
  rw [hresult, hresult'] at hpages
  obtain rfl : result = result' := Outcome.ok.inj hpages
  have hcount := h.apart.activities
  omega

theorem notes_le {move : Move} (hr : (noteRuns actor ticketId).step r move = some r') :
    r.leftNotes ≤ r'.leftNotes ∧ r.rightNotes ≤ r'.rightNotes := by
  have halone : ∀ {r r' : Runs} {call : TenantCall} {env : ServiceEnv} {faults : Nat → Fault},
      noteAlone actor ticketId r call env faults = some r' →
      r.leftNotes ≤ r'.leftNotes ∧ r.rightNotes ≤ r'.rightNotes := by
    intro r r' call env faults hr
    unfold noteAlone at hr
    split at hr
    · cases hr
      exact ⟨Nat.le_add_right _ _, Nat.le_refl _⟩
    · cases hr
  cases move with
  | both step =>
    simp only [noteRuns] at hr
    split at hr
    · cases hr
      exact ⟨Nat.le_refl _, Nat.le_refl _⟩
    · cases hr
  | left call env faults => exact halone hr
  | right call env faults =>
    obtain ⟨next, hnext, rfl⟩ := Option.map_eq_some_iff.mp hr
    exact (halone hnext).symm

theorem notes_le_of_run {moves : List Move}
    (hr : (noteRuns actor ticketId).run r moves = some r') :
    r.leftNotes ≤ r'.leftNotes ∧ r.rightNotes ≤ r'.rightNotes := by
  refine (noteRuns actor ticketId).run_preserves
    (P := fun next => r.leftNotes ≤ next.leftNotes ∧ r.rightNotes ≤ next.rightNotes) ?_
    ⟨Nat.le_refl _, Nat.le_refl _⟩ hr
  rintro next move after ⟨hleft, hright⟩ hstep
  obtain ⟨hleft', hright'⟩ := notes_le hstep
  exact ⟨hleft.trans hleft', hright.trans hright'⟩

/-- The first call on a note is seen in the history. -/
theorem noteAlone_noticed (h : Related actor ticketId r) {call : TenantCall} {env : ServiceEnv}
    {faults : Nat → Fault} (hfresh : FreshIds env r.left.store)
    (hr : noteAlone actor ticketId r call env faults = some r')
    (hnone : r.leftNotes = 0 ∧ r.rightNotes = 0) (hsame : Unnoticed actor ticketId r') :
    r'.leftNotes = 0 ∧ r'.rightNotes = 0 := by
  have hnext := h.alone hfresh hr
  unfold noteAlone at hr
  split at hr
  · rename_i hnote
    cases hr
    obtain ⟨hleft, hright⟩ := hnone
    by_cases hzero : call.commits env faults r.left.store = 0
    · exact ⟨by simp [hleft, hzero], hright⟩
    · obtain ⟨hone, hticket, -⟩ := (noteOutcome hfresh hnote faults).carriedOut hzero
      have hsum := hnext.history hsame ?_
      · simp only [hleft, hright, hone] at hsum
        cases hsum
      · rw [hnext.apart.reads (f := fun s => s.findTicket ticketId actor.tenantId) fun _ => rfl]
        rwa [h.apart.reads (f := fun s => s.findTicket ticketId actor.tenantId) fun _ => rfl]
          at hticket
  · cases hr

theorem Unnoticed.swap (h : Unnoticed actor ticketId r) : Unnoticed actor ticketId r.swap where
  messages := h.messages.symm
  ticket env faults := (h.ticket env faults).symm
  history page limit env faults := (h.history page limit env faults).symm

/-- While the actor notices nothing, no call on a note is carried out in one run alone. -/
theorem no_notes_of_unnoticed (h : Related actor ticketId r) {move : Move}
    (hnew : NewlyDrawn r move) (hr : (noteRuns actor ticketId).step r move = some r')
    (hnone : r.leftNotes = 0 ∧ r.rightNotes = 0) (hsame : Unnoticed actor ticketId r') :
    r'.leftNotes = 0 ∧ r'.rightNotes = 0 := by
  cases move with
  | both step =>
    simp only [noteRuns] at hr
    split at hr
    · cases hr
      exact hnone
    · cases hr
  | left call env faults => exact noteAlone_noticed h hnew hr hnone hsame
  | right call env faults =>
    obtain ⟨next, hnext, rfl⟩ := Option.map_eq_some_iff.mp hr
    exact (noteAlone_noticed h.swap hnew hnext hnone.symm hsame.swap).symm

/-- Two runs that differ in calls on internal notes of a ticket: an actor of any role gets the same
answer about the ticket and the same messages but those on its notes. They notice nothing at any
time exactly if no call on a note is carried out, since the history of the ticket counts them. -/
theorem internal_notes_noticed_iff (actor : TicketActor) (ticketId : Uuid) (s : Store)
    (hkeys : (s.comments.map TicketComment.id).Nodup) (moves : List Move)
    (hnew : (noteRuns actor ticketId).Within NewlyDrawn (Runs.start s) moves) (r : Runs)
    (hr : (noteRuns actor ticketId).run (Runs.start s) moves = some r) :
    (∀ env faults, ticketAnswer ticketId actor.tenantId env faults r.left.store =
        ticketAnswer ticketId actor.tenantId env faults r.right.store) ∧
      SameView (fun message => !isNoteMessage ticketId message) r.left.messages r.right.messages ∧
      ((∀ before r₀, before <+: moves →
          (noteRuns actor ticketId).run (Runs.start s) before = some r₀ →
          Unnoticed actor ticketId r₀) ↔ r.leftNotes = 0 ∧ r.rightNotes = 0) := by
  have hstart : Related actor ticketId (Runs.start s) := .start hkeys
  have hrelated := hstart.run hnew hr
  refine ⟨fun env faults => ?_, hrelated.messages, fun hall => ?_, ?_⟩
  · exact ticketAnswer_congr env faults
      (hrelated.apart.reads (f := fun s => s.findTicket ticketId actor.tenantId) fun _ => rfl)
  · -- by induction on the run: the first note that one run has alone is counted
    induction moves using List.reverseRecOn generalizing r with
    | nil =>
      cases hr
      exact ⟨rfl, rfl⟩
    | append_singleton moves move ih =>
      obtain ⟨r₁, hr₁, hmove⟩ := (noteRuns actor ticketId).run_snoc.mp hr
      have hrelated₁ := hstart.run hnew.of_append hr₁
      have hnone := ih hnew.of_append r₁ hr₁ hrelated₁ fun before r₀ hbefore =>
        hall before r₀ (hbefore.trans (List.prefix_append _ _))
      exact no_notes_of_unnoticed hrelated₁ (hnew.step_at _ hr₁) hmove hnone
        (hall _ r (List.prefix_refl _) hr)
  · rintro ⟨hleft, hright⟩ before r₀ ⟨after, rfl⟩ hr₀
    obtain ⟨r₁, hr₁, hafter⟩ := (noteRuns actor ticketId).run_append.mp hr
    obtain rfl : r₀ = r₁ := Option.some.inj (hr₀.symm.trans hr₁)
    obtain ⟨hle, hle'⟩ := notes_le_of_run hafter
    have hsame := (hstart.run hnew.of_append hr₀).agree (by omega) (by omega)
    exact ⟨by rw [hsame], fun _ _ => by rw [hsame], fun _ _ _ _ => by rw [hsame]⟩

end runs

section demo

/-- The ticket of a customer whose user watches it. -/
def watchedStore : Store :=
  { storeOf [] [] with
    tickets := [{ (default : Ticket) with id := 3, tenantId := 2, customerId := 7 }]
    users := [{ (default : User) with id := 1, tenantId := some 2, role := .agent }]
    customerLinks := [⟨5, 7, 2⟩] }

def watchingCustomer : TicketActor := ⟨5, .customer, "", 2⟩

/-- Once the customer is in the room of the ticket, one run has a note added. -/
def watchedMoves : List Move :=
  [.both (.subscribe (.ticket 3)),
    .left (.addComment ⟨2, 3, 1, .agent, "Refused twice.", .internalNote⟩) sampleEnv fun _ => .none]

theorem internal_notes_noticed_by_customer :
    canAccessRoom watchingCustomer watchedStore (.ticket 3) = true ∧
      ¬ ∀ before r₀, before <+: watchedMoves →
        (noteRuns watchingCustomer 3).run (Runs.start watchedStore) before = some r₀ →
        Unnoticed watchingCustomer 3 r₀ := by
  have hnotes : ((noteRuns watchingCustomer 3).run (Runs.start watchedStore) watchedMoves).map
      Runs.leftNotes = some 1 := by decide
  obtain ⟨r, hr, hleft⟩ := Option.map_eq_some_iff.mp hnotes
  have hnew : (noteRuns watchingCustomer 3).Within NewlyDrawn (Runs.start watchedStore)
      watchedMoves := by
    refine ⟨trivial, fun r₁ hr₁ => ⟨?_, fun _ _ => trivial⟩⟩
    cases hr₁
    exact sampleEnv_freshIds rfl
  refine ⟨by decide, fun hall => ?_⟩
  have hiff := (internal_notes_noticed_iff watchingCustomer 3 watchedStore (by decide) watchedMoves
    hnew r hr).2.2
  have hnone := (hiff.mp hall).1
  rw [hleft] at hnone
  cases hnone

end demo
end OmniSupport.Tenancy
