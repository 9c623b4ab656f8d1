import OmniSupport.Messaging.InboundEffects

/-! The threads of inbound messages: one open ticket for each sender, as long as no two calls
of one sender overlap between the lookup of the ticket and the write of its `externalRef`. -/
namespace OmniSupport.Messaging
open Foundation Database ProcessInboundWhatsApp WebhookProcessing

/-- An organization and the number of a sender. -/
abbrev ThreadKey := Uuid × String

/-- Where a call stands that has found no open ticket for its sender: before its commit,
or after it with the ticket it made, until `externalRef` is written. -/
abbrev Opening := ThreadKey × Option Uuid

def InboundCall.opening : InboundCall → Option Opening
  | .creating sender dto => some ((dto.tenantId, sender), none)
  | .analysing tenantId sender ticketId | .invalidating tenantId sender ticketId
  | .threading tenantId sender ticketId => some ((tenantId, sender), some ticketId)
  | _ => none

/-- The key and the customer of the lookup a call is about to make. -/
def InboundCall.looksUp : InboundCall → Option (ThreadKey × Uuid)
  | .findingTicket message tenantId customer _ =>
    some ((tenantId, normalizePhone message.sender), customer.id)
  | _ => none

namespace WebhookTask

def opening : WebhookTask TwilioPayload InboundCall → Option Opening
  | .handling _ _ call => call.opening
  | _ => none

def looksUp : WebhookTask TwilioPayload InboundCall → Option (ThreadKey × Uuid)
  | .handling _ _ call => call.looksUp
  | _ => none

end WebhookTask

/-- What becomes of the tickets made from messages: `closed` is noted in every state in
which the ticket is not active. -/
inductive ThreadNote where
  | created (key : ThreadKey) (ticketId : Uuid)
  | closed (ticketId : Uuid)
  deriving DecidableEq

def closedIds (s : Store) : List Uuid :=
  (s.tickets.filter fun t => !t.status.isActive).map Ticket.id

/-- The tickets a step of the handler makes, under the key of the call. -/
def createdNotes (c : InboundPool) : InboundMove → InboundPool → List ThreadNote
  | .act w (.handler _), c' =>
    match (c.locals w).opening with
    | some opening =>
      (newIds (c.shared.base.store.tickets.map Ticket.id)
        (c'.shared.base.store.tickets.map Ticket.id)).map (.created opening.1)
    | none => []
  | _, _ => []

def threadNotes (c : InboundPool) (i : InboundMove) (c' : InboundPool) : List ThreadNote :=
  (closedIds c'.shared.base.store).map .closed ++ createdNotes c i c'

def threads : Machine (InboundPool × List ThreadNote) InboundMove :=
  (machine handler).logged threadNotes

/-- The tickets made from messages that have been active ever since. -/
def stillOpen : List ThreadNote → List (ThreadKey × Uuid)
  | [] => []
  | .created key ticketId :: earlier => (key, ticketId) :: stillOpen earlier
  | .closed ticketId :: earlier => (stillOpen earlier).filter fun e => e.2 ≠ ticketId

/-- A lookup that finds no ticket overlaps no opening of the same thread, and every active
ticket of the thread belongs to the customer it looked for; a call that has made a ticket
comes to write its `externalRef`. -/
def Serialized (c : InboundPool) : InboundMove → Prop
  | .act w (.handler (.ticket none)) => ∀ lookup ∈ (c.locals w).looksUp,
    (∀ v, v ≠ w → (c.locals v).opening.map Prod.fst ≠ some lookup.1) ∧
      ∀ t ∈ c.shared.base.store.tickets, t.tenantId = lookup.1.1 →
        t.externalRef = some lookup.1.2 → t.status.isActive = true → t.customerId = lookup.2
  | .act w (.handler (.throws _)) | .act w .crash =>
    ∀ opening ∈ (c.locals w).opening, opening.2 = none
  | _ => True

section notes
variable {ids : List Uuid} {log : List ThreadNote}

theorem stillOpen_closed :
    stillOpen (ids.map .closed ++ log) = (stillOpen log).filter fun e => e.2 ∉ ids := by
  induction ids with
  | nil => simp
  | cons id ids ih =>
    simp only [List.map_cons, List.cons_append, stillOpen, ih, List.filter_filter]
    refine List.filter_congr fun e _ => ?_
    simp

theorem mem_stillOpen_closed {e : ThreadKey × Uuid} :
    e ∈ stillOpen (ids.map .closed ++ log) ↔ e ∈ stillOpen log ∧ e.2 ∉ ids := by
  rw [stillOpen_closed, List.mem_filter, decide_eq_true_eq]

end notes

/-- The threads as they are opened: where the calls stand, the tickets, and those made from
messages and still open. -/
structure Threaded (opening : Nat → Option Opening) (tickets : List Ticket)
    (opened : List (ThreadKey × Uuid)) : Prop where
  once : ∀ key, (opened.filter fun e => e.1 = key).length ≤ 1
  stored : ∀ e ∈ opened, ∃ t ∈ tickets, t.id = e.2
  referenced : ∀ e ∈ opened, ∀ t ∈ tickets, t.id = e.2 → t.tenantId = e.1.1 ∧
    (t.externalRef = some e.1.2 ∨ ∃ v, opening v = some (e.1, some e.2))
  unopened : ∀ w key, opening w = some (key, none) → ∀ id, (key, id) ∉ opened
  apart : ∀ v w, v ≠ w → ∀ o, opening v = some o → (opening w).map Prod.fst ≠ some o.1
  made : ∀ w key id, opening w = some (key, some id) →
    (∃ t ∈ tickets, t.id = id) ∧ ∀ e ∈ opened, e.2 = id → e.1 = key

namespace Threaded
variable {opening opening' : Nat → Option Opening} {tickets tickets' : List Ticket}
  {opened opened' : List (ThreadKey × Uuid)}

/-- Tickets may be closed at any time. -/
theorem shrink (h : Threaded opening tickets opened) (hsub : opened'.Sublist opened) :
    Threaded opening tickets opened' where
  once key := (hsub.filter _).length_le.trans (h.once key)
  stored e he := h.stored e (hsub.subset he)
  referenced e he := h.referenced e (hsub.subset he)
  unopened w key hw id hid := h.unopened w key hw id (hsub.subset hid)
  apart := h.apart
  made w key id hw :=
    ⟨(h.made w key id hw).1, fun e he => (h.made w key id hw).2 e (hsub.subset he)⟩

theorem nil (hnone : ∀ v, opening v = none) : Threaded opening tickets [] where
  once key := by simp
  stored e he := by cases he
  referenced e he := by cases he
  unopened w key hw := by simp [hnone] at hw
  apart v w _ o hv := by simp [hnone] at hv
  made w key id hw := by simp [hnone] at hw

/-- The calls stand where they stood, and no ticket goes or changes its thread. -/
theorem keep (h : Threaded opening tickets opened)
    (hkept : ∀ t ∈ tickets, ∃ t' ∈ tickets', thread t' = thread t)
    (hsource : ∀ t' ∈ tickets', (∃ t ∈ tickets, thread t' = thread t) ∨
      ∀ t ∈ tickets, t.id ≠ t'.id) : Threaded opening tickets' opened where
  once := h.once
  stored e he := by
    obtain ⟨t, ht, hid⟩ := h.stored e he
    obtain ⟨t', ht', hthread⟩ := hkept t ht
    exact ⟨t', ht', (congrArg Prod.fst hthread).trans hid⟩
  referenced e he t' ht' hid := by
    rcases hsource t' ht' with ⟨t, ht, hthread⟩ | hnew
    · simp only [thread, Prod.mk.injEq] at hthread
      obtain ⟨hsame, htenant, -, href⟩ := hthread
      rw [htenant, href]
      exact h.referenced e he t ht (hsame.symm.trans hid)
    · obtain ⟨t, ht, hold⟩ := h.stored e he
      exact absurd (hold.trans hid.symm) (hnew t ht)
  unopened := h.unopened
  apart := h.apart
  made w key id hw := by
    obtain ⟨⟨t, ht, hid⟩, hkey⟩ := h.made w key id hw
    obtain ⟨t', ht', hthread⟩ := hkept t ht
    exact ⟨⟨t', ht', (congrArg Prod.fst hthread).trans hid⟩, hkey⟩

section actor
variable {w : Nat} {key : ThreadKey} (hothers : ∀ v, v ≠ w → opening' v = opening v)
include hothers

/-- What the actor is left with is what another call would have to be apart from. -/
theorem apart_of_actor (h : Threaded opening tickets opened)
    (hactor : ∀ v, v ≠ w → ∀ o ∈ opening' w, (opening v).map Prod.fst ≠ some o.1) :
    ∀ v u, v ≠ u → ∀ o, opening' v = some o → (opening' u).map Prod.fst ≠ some o.1 := by
  intro v u hne o ho
  by_cases hv : v = w
  · subst v
    rw [hothers u (Ne.symm hne)]
    exact hactor u (Ne.symm hne) o ho
  · rw [hothers v hv] at ho
    by_cases hu : u = w
    · subst u
      intro hsame
      obtain ⟨o', ho', hkey⟩ := Option.map_eq_some_iff.mp hsame
      refine hactor v hv o' ho' ?_
      rw [ho, Option.map_some, hkey]
    · rw [hothers u hu]
      exact h.apart v u hne o ho

/-- A call that has made no ticket leaves. -/
theorem leave (h : Threaded opening tickets opened) (hw : opening' w = none)
    (hunmade : ∀ o ∈ opening w, o.2 = none) : Threaded opening' tickets opened where
  once := h.once
  stored := h.stored
  referenced e he t ht hid := by
    obtain ⟨htenant, href⟩ := h.referenced e he t ht hid
    refine ⟨htenant, href.imp_right fun ⟨v, hv⟩ => ⟨v, ?_⟩⟩
    have hne : v ≠ w := by
      rintro rfl
      have hnone : some e.2 = none := hunmade _ hv
      cases hnone
    rw [hothers v hne]
    exact hv
  unopened v key hv := by
    by_cases hne : v = w
    · rw [hne, hw] at hv
      cases hv
    · exact h.unopened v key (hothers v hne ▸ hv)
  apart := apart_of_actor hothers h fun v _ o ho => by simp [hw] at ho
  made v key id hv := by
    by_cases hne : v = w
    · rw [hne, hw] at hv
      cases hv
    · exact h.made v key id (hothers v hne ▸ hv)

/-- A lookup that found no ticket, while no other call has an opening of the thread. -/
theorem lookUp (h : Threaded opening tickets opened) (hw : opening w = none)
    (hw' : opening' w = some (key, none))
    (halone : ∀ v, v ≠ w → (opening v).map Prod.fst ≠ some key)
    (hnone : ∀ id, (key, id) ∉ opened) : Threaded opening' tickets opened where
  once := h.once
  stored := h.stored
  referenced e he t ht hid := by
    obtain ⟨htenant, href⟩ := h.referenced e he t ht hid
    refine ⟨htenant, href.imp_right fun ⟨v, hv⟩ => ⟨v, ?_⟩⟩
    have hne : v ≠ w := by
      rintro rfl
      rw [hw] at hv
      cases hv
    rw [hothers v hne]
    exact hv
  unopened v key' hv := by
    by_cases hne : v = w
    · rw [hne, hw'] at hv
      cases hv
      exact hnone
    · exact h.unopened v key' (hothers v hne ▸ hv)
  apart := by
    refine apart_of_actor hothers h fun v hv o ho => ?_
    rw [hw'] at ho
    cases ho
    exact halone v hv
  made v key' id hv := by
    by_cases hne : v = w
    · rw [hne, hw'] at hv
      cases hv
    · exact h.made v key' id (hothers v hne ▸ hv)

/-- The commit of a new ticket. -/
theorem create {saved : Ticket} (h : Threaded opening tickets opened)
    (hw : opening w = some (key, none)) (hw' : opening' w = some (key, some saved.id))
    (hnew : ∀ t ∈ tickets, t.id ≠ saved.id) (htenant : saved.tenantId = key.1) :
    Threaded opening' (tickets ++ [saved]) ((key, saved.id) :: opened) where
  once key' := by
    by_cases hkey : key = key'
    · subst key'
      have hempty : (opened.filter fun e => e.1 = key) = [] := by
        rw [List.filter_eq_nil_iff]
        rintro ⟨key', id⟩ he hsame
        rw [decide_eq_true_eq] at hsame
        exact h.unopened w key hw id (hsame ▸ he)
      simp [hempty]
    · simpa [hkey] using h.once key'
  stored e he := by
    rcases List.mem_cons.mp he with rfl | he
    · exact ⟨saved, by simp, rfl⟩
    · obtain ⟨t, ht, hid⟩ := h.stored e he
      exact ⟨t, List.mem_append_left _ ht, hid⟩
  referenced e he t ht hid := by
    rcases List.mem_append.mp ht with ht | ht
    · rcases List.mem_cons.mp he with rfl | he
      · exact absurd hid (hnew t ht)
      · obtain ⟨hsame, href⟩ := h.referenced e he t ht hid
        refine ⟨hsame, href.imp_right fun ⟨v, hv⟩ => ⟨v, ?_⟩⟩
        have hne : v ≠ w := by
          rintro rfl
          rw [hw] at hv
          cases hv
        rw [hothers v hne]
        exact hv
    · rw [List.mem_singleton.mp ht] at hid ⊢
      rcases List.mem_cons.mp he with rfl | he
      · exact ⟨htenant, Or.inr ⟨w, hw'⟩⟩
      · obtain ⟨t₀, ht₀, hold⟩ := h.stored e he
        exact absurd (hold.trans hid.symm) (hnew t₀ ht₀)
  unopened v key' hv id hid := by
    by_cases hne : v = w
    · rw [hne, hw'] at hv
      cases hv
    · rw [hothers v hne] at hv
      rcases List.mem_cons.mp hid with he | hid
      · cases he
        exact h.apart w v (Ne.symm hne) _ hw (by rw [hv]; rfl)
      · exact h.unopened v key' hv id hid
  apart := by
    refine apart_of_actor hothers h fun v hv o ho => ?_
    rw [hw'] at ho
    cases ho
    have hapart := h.apart w v (Ne.symm hv) (key, none) hw
    exact hapart
  made v key' id hv := by
    by_cases hne : v = w
    · rw [hne, hw'] at hv
      cases hv
      refine ⟨⟨saved, by simp, rfl⟩, fun e he hid => ?_⟩
      rcases List.mem_cons.mp he with rfl | he
      · rfl
      · obtain ⟨t, ht, hold⟩ := h.stored e he
        exact absurd (hold.trans hid) (hnew t ht)
    · rw [hothers v hne] at hv
      obtain ⟨⟨t, ht, hid⟩, hkey⟩ := h.made v key' id hv
      refine ⟨⟨t, List.mem_append_left _ ht, hid⟩, fun e he hsame => ?_⟩
      rcases List.mem_cons.mp he with rfl | he
      · exact absurd (hid.trans hsame.symm) (hnew t ht)
      · exact hkey e he hsame

/-- The write of `externalRef`. -/
theorem reference {ticketId : Uuid} {now : Time} {s : Store} (h : Threaded opening s.tickets opened)
    (hw : opening w = some (key, some ticketId)) (hw' : opening' w = none) :
    Threaded opening' (setExternalRef key.1 ticketId key.2 now s).tickets opened where
  once := h.once
  stored e he := by
    obtain ⟨t, ht, hid⟩ := h.stored e he
    by_cases hp : t.id = ticketId ∧ t.tenantId = key.1
    · exact ⟨_, Table.mem_updateMany.mpr (Or.inl ⟨t, ht, hp, rfl⟩), hid⟩
    · exact ⟨t, Table.mem_updateMany.mpr (Or.inr ⟨ht, hp⟩), hid⟩
  referenced e he t' ht' hid := by
    rcases Table.mem_updateMany.mp ht' with ⟨t, ht, hp, rfl⟩ | ⟨ht, hp⟩
    · have hkey : e.1 = key := (h.made w key ticketId hw).2 e he (hid.symm.trans hp.1)
      rw [hkey]
      exact ⟨hp.2, Or.inl rfl⟩
    · obtain ⟨htenant, href⟩ := h.referenced e he t' ht hid
      refine ⟨htenant, href.imp_right fun ⟨v, hv⟩ => ⟨v, ?_⟩⟩
      have hne : v ≠ w := by
        rintro rfl
        rw [hw] at hv
        cases hv
        exact hp ⟨hid, htenant⟩
      rw [hothers v hne]
      exact hv
  unopened v key' hv := by
    by_cases hne : v = w
    · rw [hne, hw'] at hv
      cases hv
    · exact h.unopened v key' (hothers v hne ▸ hv)
  apart := apart_of_actor hothers h fun v _ o ho => by simp [hw'] at ho
  made v key' id hv := by
    by_cases hne : v = w
    · rw [hne, hw'] at hv
      cases hv
    · obtain ⟨⟨t, ht, hid⟩, hkey⟩ := h.made v key' id (hothers v hne ▸ hv)
      refine ⟨?_, hkey⟩
      by_cases hp : t.id = ticketId ∧ t.tenantId = key.1
      · exact ⟨_, Table.mem_updateMany.mpr (Or.inl ⟨t, ht, hp, rfl⟩), hid⟩
      · exact ⟨t, Table.mem_updateMany.mpr (Or.inr ⟨ht, hp⟩), hid⟩

end actor
end Threaded

theorem sameThreads_refl (s : Store) : SameThreads s s :=
  ⟨fun t ht => ⟨t, ht, rfl⟩, fun t ht => Or.inl ⟨t, ht, rfl⟩⟩

theorem CommentAdded.sameThreads {s s' : Store} (h : CommentAdded s s') : SameThreads s s' where
  kept t ht := by
    have hm : thread t ∈ s'.tickets.map thread := h.tickets ▸ List.mem_map_of_mem ht
    exact List.mem_map.mp hm
  source t' ht' := by
    have hm : thread t' ∈ s.tickets.map thread := h.tickets ▸ List.mem_map_of_mem ht'
    obtain ⟨t, ht, hthread⟩ := List.mem_map.mp hm
    exact Or.inl ⟨t, ht, hthread.symm⟩

/-- What a step of the handler does to the threads. -/
inductive ThreadStepped (i : InboundStep) (s : Store) (call : InboundCall) (s' : Store)
    (call' : InboundCall) : Prop where
  | quiet (hthreads : SameThreads s s') (hnone : s'.tickets.map Ticket.id = s.tickets.map Ticket.id)
      (hopening : call'.opening = call.opening)
  | left (hsame : s' = s) (hopening : call'.opening = none)
      (hthrows : ∀ o ∈ call.opening, o.2 = none ∨ ∃ message, i = .throws message)
  | lookedUp (lookup : ThreadKey × Uuid) (hsame : s' = s) (hi : i = .ticket none)
      (hlookup : call.looksUp = some lookup) (hbefore : call.opening = none)
      (hopening : call'.opening = some (lookup.1, none))
      (hnone : openTickets lookup.1.1 lookup.2 lookup.1.2 s = [])
  | created (key : ThreadKey) (saved : Ticket) (hbefore : call.opening = some (key, none))
      (hopening : call'.opening = some (key, some saved.id))
      (htickets : s'.tickets = s.tickets ++ [saved]) (hnew : ∀ t ∈ s.tickets, t.id ≠ saved.id)
      (htenant : saved.tenantId = key.1)
  | referenced (key : ThreadKey) (ticketId : Uuid) (now : Time)
      (hbefore : call.opening = some (key, some ticketId)) (hopening : call'.opening = none)
      (hset : s' = setExternalRef key.1 ticketId key.2 now s)

theorem handler_threadStepped {i : InboundStep} {t t' : InboundStore} {call call' : InboundCall}
    (h : step i t call = some (t', call')) :
    ThreadStepped i t.store call t'.store call' := by
  have hquiet : call'.opening = call.opening → t' = t →
      ThreadStepped i t.store call t'.store call' := by
    rintro hopening rfl
    exact .quiet (sameThreads_refl _) rfl hopening
  cases i with
  | resolve =>
    cases call with
    | resolving message =>
      cases h
      refine hquiet ?_ rfl
      cases resolveTenantId message.recipient t <;> rfl
    | _ => cases h
  | customer found =>
    cases call with
    | findingCustomer message tenantId =>
      simp only [step] at h
      split at h <;> cases h
      refine hquiet ?_ rfl
      cases found <;> rfl
    | _ => cases h
  | link found =>
    cases call with
    | findingLink message tenantId customer =>
      simp only [step] at h
      split at h <;> cases h
      refine hquiet ?_ rfl
      cases found <;> rfl
    | _ => cases h
  | ticket found =>
    cases call with
    | findingTicket message tenantId customer authorId =>
      simp only [step] at h
      split at h
      · rename_i hfound
        cases h
        cases found with
        | some ticket => exact hquiet rfl rfl
        | none =>
          have hnone := hfound.1
          exact .lookedUp ((tenantId, normalizePhone message.sender), customer.id) rfl rfl rfl rfl
            rfl hnone
      · cases h
    | _ => cases h
  | write env faults text =>
    cases call with
    | commenting dto =>
      rcases commit_cases (ends_addCommentSaved dto) h with
        ⟨saved, d', hadded, rfl⟩ | ⟨rfl, message, rfl⟩
      · refine .quiet hadded.sameThreads ?_ rfl
        have hthreads := congrArg (List.map Prod.fst) hadded.tickets
        simpa [Function.comp_def, thread] using hthreads
      · exact hquiet rfl rfl
    | creating sender dto =>
      rcases commit_cases (ends_createTicketSaved dto) h with
        ⟨saved, d', hadded, rfl⟩ | ⟨rfl, message, rfl⟩
      · exact .created (dto.tenantId, sender) saved rfl rfl hadded.tickets hadded.new
          hadded.tenantId
      · refine .left rfl rfl fun o ho => Or.inl ?_
        cases ho
        rfl
    | _ => cases h
  | after =>
    obtain ⟨next, hnext, he⟩ := Option.map_eq_some_iff.mp h
    cases he
    cases call <;> cases hnext <;> exact hquiet rfl rfl
  | thread now =>
    cases call with
    | threading tenantId sender ticketId =>
      cases h
      exact .referenced (tenantId, sender) ticketId now rfl rfl rfl
    | _ => cases h
  | throws message =>
    obtain ⟨next, hnext, he⟩ := Option.map_eq_some_iff.mp h
    cases he
    refine .left rfl ?_ fun o _ => Or.inr ⟨message, rfl⟩
    cases call <;> cases hnext <;> rfl

section pool
variable {c c' : InboundPool} {i : InboundMove} {w : WorkerId} {log : List ThreadNote}

def openings (c : InboundPool) (v : Nat) : Option Opening := (c.locals v).opening

/-- The threads of a pool, after the notes of its run. -/
abbrev PoolThreaded (c : InboundPool) (opened : List (ThreadKey × Uuid)) : Prop :=
  Threaded (openings c) c.shared.base.store.tickets opened

theorem lease_of_opening {task : WebhookTask TwilioPayload InboundCall} {o : Opening}
    (h : task.opening = some o) :
    ∃ id t call, task = .handling id t call ∧ call.opening = some o := by
  cases task with
  | handling id t call => exact ⟨id, t, call, rfl, h⟩
  | _ => cases h

/-- Outside of the handler a call opens nothing, and keeps what it has opened. -/
theorem next_opening {s s' : WebhookStore TwilioPayload InboundStore}
    {task task' : WebhookTask TwilioPayload InboundCall}
    (h : next handler w s task = some (s', task')) :
    task'.opening = none ∧ task.opening = none := by
  constructor
  · by_contra hsome
    obtain ⟨o, ho⟩ := Option.ne_none_iff_exists'.mp hsome
    obtain ⟨id, t, call, rfl, hcall⟩ := lease_of_opening ho
    rcases (next_leaseStep h).lease id t rfl with ⟨hlease, -⟩ | ⟨startedAt, -, -, hreading, -⟩
    · cases task with
      | reading id' t' =>
        simp only [next, Option.some.injEq, Prod.mk.injEq] at h
        obtain ⟨-, htask⟩ := h
        split at htask
        · cases htask
        · simp only [received] at htask
          split at htask <;> cases htask
          cases hcall
      | handling id' t' call' =>
        obtain ⟨outcome, -, he⟩ := Option.map_eq_some_iff.mp h
        cases he
      | completing id' t' outcome => cases h
      | _ => cases hlease
    · cases hreading
  · cases task with
    | handling id t call =>
      obtain ⟨outcome, houtcome, -⟩ := Option.map_eq_some_iff.mp h
      cases call <;> first | rfl | cases houtcome
    | _ => rfl

theorem next_base {s s' : WebhookStore TwilioPayload InboundStore}
    {task task' : WebhookTask TwilioPayload InboundCall}
    (h : next handler w s task = some (s', task')) : s'.base = s.base := by
  cases task with
  | claiming id startedAt lockedAt =>
    simp only [next] at h
    cases hclaim : s.claim id startedAt lockedAt w with
    | none =>
      rw [hclaim] at h
      cases h
      rfl
    | some s₁ =>
      rw [hclaim] at h
      cases h
      simp only [WebhookStore.claim, WebhookStore.indexed] at hclaim
      split at hclaim <;> cases hclaim
      rfl
  | handling id t call =>
    obtain ⟨outcome, -, he⟩ := Option.map_eq_some_iff.mp h
    cases he
    rfl
  | idle | creating _ | ended => cases h
  | _ =>
    cases h
    rfl

/-- Outside of the handler a call opens nothing and writes nothing of the store. -/
theorem act_opening {step : WebhookStep InboundStep} {s s' : WebhookStore TwilioPayload InboundStore}
    {task task' : WebhookTask TwilioPayload InboundCall}
    (h : act handler w s task step = some (s', task')) (hstep : ∀ st, step ≠ .handler st) :
    s'.base = s.base ∧ task'.opening = none ∧ (task.opening = none ∨ step = .crash) := by
  cases step with
  | handler st => exact absurd rfl (hstep st)
  | next =>
    obtain ⟨hafter, hbefore⟩ := next_opening h
    exact ⟨next_base h, hafter, Or.inl hbefore⟩
  | crash =>
    cases h
    exact ⟨rfl, rfl, Or.inr rfl⟩
  | create id =>
    cases task with
    | creating original =>
      simp only [act, create] at h
      split at h
      · cases h
      · cases hindex : (s.insertRow (original.replay id s.now)).indexed with
        | none =>
          rw [hindex] at h
          cases h
          exact ⟨rfl, rfl, Or.inl rfl⟩
        | some s₁ =>
          rw [hindex] at h
          cases h
          simp only [WebhookStore.indexed] at hindex
          split at hindex <;> cases hindex
          exact ⟨rfl, rfl, Or.inl rfl⟩
    | _ => cases h
  | _ =>
    obtain ⟨t, ht, he⟩ := Option.map_eq_some_iff.mp h
    cases he
    refine ⟨rfl, ?_⟩
    cases task <;> cases ht <;> exact ⟨rfl, Or.inl rfl⟩

/-- An active ticket of a thread is found by the lookup for it. -/
theorem openTickets_ne_nil {s : Store} {key : ThreadKey} {customerId : Uuid} {t : Ticket}
    (ht : t ∈ s.tickets) (htenant : t.tenantId = key.1) (href : t.externalRef = some key.2)
    (hactive : t.status.isActive = true) (hcustomer : t.customerId = customerId) :
    openTickets key.1 customerId key.2 s ≠ [] := by
  have hm : t ∈ openTickets key.1 customerId key.2 s := by
    rw [openTickets, List.mem_filter, decide_eq_true_eq]
    refine ⟨ht, htenant, hcustomer, href, ?_⟩
    constructor <;> intro hstatus <;> rw [hstatus] at hactive <;> cases hactive
  exact List.ne_nil_of_mem hm

/-- Where a lookup finds nothing, no ticket of the thread is open. -/
theorem notMem_of_openTickets_nil {opening : Nat → Option Opening} {s : Store} {key : ThreadKey}
    {customerId : Uuid} {opened : List (ThreadKey × Uuid)} (h : Threaded opening s.tickets opened)
    (hactive : ∀ e ∈ opened, ∀ t ∈ s.tickets, t.id = e.2 → t.status.isActive = true)
    (halone : ∀ v, (opening v).map Prod.fst ≠ some key)
    (hcustomer : ∀ t ∈ s.tickets, t.tenantId = key.1 → t.externalRef = some key.2 →
      t.status.isActive = true → t.customerId = customerId)
    (hnone : openTickets key.1 customerId key.2 s = []) (id : Uuid) : (key, id) ∉ opened := by
  intro he
  obtain ⟨t, ht, hid⟩ := h.stored _ he
  obtain ⟨htenant, href⟩ := h.referenced _ he t ht hid
  have hopen := hactive _ he t ht hid
  rcases href with href | ⟨v, hv⟩
  · exact openTickets_ne_nil ht htenant href hopen (hcustomer t ht htenant href hopen) hnone
  · exact halone v (by rw [hv]; rfl)

theorem handler_poolThreaded {st : InboundStep} (hc : Serialized c (.act w (.handler st)))
    (h : PoolThreaded c (stillOpen log))
    (hactive : ∀ e ∈ stillOpen log, ∀ t ∈ c.shared.base.store.tickets, t.id = e.2 →
      t.status.isActive = true)
    (hs : (machine handler).step c (.act w (.handler st)) = some c') :
    PoolThreaded c' (stillOpen (createdNotes c (.act w (.handler st)) c' ++ log)) := by
  obtain ⟨s', task', hact, rfl⟩ := (program handler).step_act.mp hs
  obtain ⟨id, t, call, call', base, hl, rfl, rfl, hstep⟩ := handle_eq_some hact
  have hopening : openings c w = call.opening := by
    rw [openings, hl]
    rfl
  have hothers : ∀ v, v ≠ w → openings (c.put w { c.shared with base := base }
      (.handling id t call')) v = openings c v := by
    intro v hv
    rw [openings, c.put_locals_of_ne _ _ hv]
    rfl
  have hafter : openings (c.put w { c.shared with base := base } (.handling id t call')) w =
      call'.opening := by
    rw [openings, Pool.put_locals_self]
    rfl
  have hnotes : createdNotes c (.act w (.handler st))
      (c.put w { c.shared with base := base } (.handling id t call')) =
      match call.opening with
      | some opening => (newIds (c.shared.base.store.tickets.map Ticket.id)
          (base.store.tickets.map Ticket.id)).map (.created opening.1)
      | none => [] := by
    simp only [createdNotes, hl, WebhookTask.opening, Pool.put_shared]
  have hnothing : base.store.tickets.map Ticket.id = c.shared.base.store.tickets.map Ticket.id →
      createdNotes c (.act w (.handler st))
        (c.put w { c.shared with base := base } (.handling id t call')) = [] := by
    intro hids
    rw [hnotes, hids, newIds_self]
    cases call.opening <;> rfl
  cases handler_threadStepped hstep with
  | quiet hthreads hids hsame =>
    rw [hnothing hids, List.nil_append]
    have hopenings : openings (c.put w { c.shared with base := base } (.handling id t call')) =
        openings c := by
      funext v
      by_cases hv : v = w
      · rw [hv, hafter, hsame, hopening]
      · exact hothers v hv
    rw [PoolThreaded, hopenings]
    exact h.keep hthreads.kept hthreads.source
  | left hsame hnone hthrows =>
    rw [hnothing (by rw [hsame]), List.nil_append]
    rw [PoolThreaded, Pool.put_shared, hsame]
    refine Threaded.leave hothers h (hafter.trans hnone) fun o ho => ?_
    have hcall : call.opening = some o := hopening.symm.trans ho
    rcases hthrows o hcall with hunmade | ⟨message, rfl⟩
    · exact hunmade
    · have hcond : ∀ opening ∈ (c.locals w).opening, opening.2 = none := hc
      exact hcond o ho
  | lookedUp lookup hsame hi hlookup hbefore hlooked hnone =>
    subst hi
    have hcond : ∀ lookup ∈ (c.locals w).looksUp,
        (∀ v, v ≠ w → (c.locals v).opening.map Prod.fst ≠ some lookup.1) ∧
          ∀ t ∈ c.shared.base.store.tickets, t.tenantId = lookup.1.1 →
            t.externalRef = some lookup.1.2 → t.status.isActive = true →
              t.customerId = lookup.2 := hc
    obtain ⟨halone, hcustomer⟩ := hcond lookup (by rw [hl]; exact hlookup)
    have hall : ∀ v, (openings c v).map Prod.fst ≠ some lookup.1 := by
      intro v
      by_cases hv : v = w
      · rw [hv, hopening, hbefore]
        simp
      · exact halone v hv
    rw [hnothing (by rw [hsame]), List.nil_append]
    rw [PoolThreaded, Pool.put_shared, hsame]
    exact Threaded.lookUp hothers h (hopening.trans hbefore) (hafter.trans hlooked)
      (fun v _ => hall v) (notMem_of_openTickets_nil h hactive hall hcustomer hnone)
  | created key saved hbefore hcreated htickets hnew htenant =>
    have hfresh : saved.id ∉ c.shared.base.store.tickets.map Ticket.id := by
      intro hm
      obtain ⟨t, ht, hid⟩ := List.mem_map.mp hm
      exact hnew t ht hid
    have hone : createdNotes c (.act w (.handler st))
        (c.put w { c.shared with base := base } (.handling id t call')) =
        [.created key saved.id] := by
      rw [hnotes, hbefore, htickets, List.map_append, List.map_singleton, newIds_append hfresh]
      rfl
    rw [hone]
    rw [PoolThreaded, Pool.put_shared, htickets]
    exact Threaded.create hothers h (hopening.trans hbefore) (hafter.trans hcreated) hnew htenant
  | referenced key ticketId now hbefore hnone hset =>
    have hids : base.store.tickets.map Ticket.id =
        c.shared.base.store.tickets.map Ticket.id := by
      rw [hset]
      exact Table.map_updateMany fun _ => rfl
    rw [hnothing hids, List.nil_append]
    rw [PoolThreaded, Pool.put_shared, hset]
    exact Threaded.reference hothers h (hopening.trans hbefore) (hafter.trans hnone)

/-- The threads after a step, before the closed tickets are noted. -/
theorem poolThreaded_step (hc : Serialized c i) (h : PoolThreaded c (stillOpen log))
    (hactive : ∀ e ∈ stillOpen log, ∀ t ∈ c.shared.base.store.tickets, t.id = e.2 →
      t.status.isActive = true)
    (hs : (machine handler).step c i = some c') :
    PoolThreaded c' (stillOpen (createdNotes c i c' ++ log)) := by
  cases i with
  | env m =>
    obtain ⟨s', hmove, rfl⟩ := (program handler).step_env.mp hs
    have hthreads : SameThreads c.shared.base.store s'.base.store := by
      cases m with
      | receive id eventType payload signature =>
        simp only [program, move] at hmove
        split at hmove <;> cases hmove
        exact sameThreads_refl _
      | purge | tick =>
        cases hmove
        exact sameThreads_refl _
      | elsewhere base =>
        obtain ⟨base', hbase, rfl⟩ := Option.map_eq_some_iff.mp hmove
        simp only [handler] at hbase
        split at hbase <;> cases hbase
        assumption
    exact h.keep hthreads.kept hthreads.source
  | act w step =>
    obtain ⟨s', task', hact, rfl⟩ := (program handler).step_act.mp hs
    have hentry : act handler w c.shared (c.locals w) step = some (s', task') := hact
    cases step with
    | handler st => exact handler_poolThreaded hc h hactive hs
    | _ =>
      obtain ⟨hbase, hafter, hbefore⟩ := act_opening hentry (by simp)
      have hothers : ∀ v, v ≠ w → openings (c.put w s' task') v = openings c v := by
        intro v hv
        rw [openings, c.put_locals_of_ne _ _ hv]
        rfl
      have hleft : openings (c.put w s' task') w = none := by
        rw [openings, Pool.put_locals_self]
        exact hafter
      have hunmade : ∀ o ∈ openings c w, o.2 = none := by
        intro o ho
        rcases hbefore with hnone | hcrash
        · rw [openings, hnone] at ho
          cases ho
        · cases hcrash <;> exact hc o ho
      have hthreads := Threaded.leave hothers h hleft hunmade
      rw [PoolThreaded, Pool.put_shared, hbase]
      exact hthreads

/-- A ticket that is not active any more is noted as closed. -/
theorem active_of_stillOpen {s : Store} {e : ThreadKey × Uuid}
    (he : e ∈ stillOpen ((closedIds s).map .closed ++ log)) :
    ∀ t ∈ s.tickets, t.id = e.2 → t.status.isActive = true := by
  intro t ht hid
  by_contra hclosed
  have hnoted : e.2 ∈ closedIds s := by
    rw [closedIds, ← hid]
    refine List.mem_map_of_mem (List.mem_filter.mpr ⟨ht, ?_⟩)
    simpa using hclosed
  exact (mem_stillOpen_closed.mp he).2 hnoted

/-- The invariant of a run: its threads, of tickets that are active. -/
structure ThreadedRun (p : InboundPool × List ThreadNote) : Prop where
  threaded : PoolThreaded p.1 (stillOpen p.2)
  active : ∀ e ∈ stillOpen p.2, ∀ t ∈ p.1.shared.base.store.tickets, t.id = e.2 →
    t.status.isActive = true

theorem threadedRun_step {p p' : InboundPool × List ThreadNote} (h : ThreadedRun p)
    (hc : Serialized p.1 i) (hs : threads.step p i = some p') : ThreadedRun p' := by
  obtain ⟨c, log⟩ := p
  obtain ⟨c', log'⟩ := p'
  obtain ⟨hstep, hlog⟩ := Machine.logged_step.mp hs
  simp only at h hc hstep hlog
  have hthreads := poolThreaded_step hc h.threaded h.active hstep
  rw [threadNotes, List.append_assoc] at hlog
  subst hlog
  constructor
  · refine hthreads.shrink ?_
    rw [stillOpen_closed]
    exact List.filter_sublist
  · intro e he
    exact active_of_stillOpen he

theorem threadedRun_init (now : Time) (base : InboundStore) :
    ThreadedRun (init now base, []) where
  threaded := Threaded.nil fun _ => rfl
  active e he := by cases he

end pool

/-- Of the tickets made from one sender's messages at most one has stayed active, in every
run whose lookups are serialized by sender; while it is open, no call of the sender is on its
way to make another. -/
theorem one_open_ticket_per_sender (now : Time) (base : InboundStore) (is : List InboundMove)
    (c : InboundPool) (log : List ThreadNote)
    (hserialized : threads.Within (fun p i => Serialized p.1 i) (init now base, []) is)
    (hrun : threads.run (init now base, []) is = some (c, log)) :
    ∀ key, ((stillOpen log).filter fun e => e.1 = key).length ≤ 1 ∧
      ∀ e ∈ stillOpen log, e.1 = key →
        ∀ w, (c.locals w).opening ≠ some (key, none) := by
  have hall := threads.run_preserves_within (P := ThreadedRun)
    (fun p i p' h hc hs => threadedRun_step h hc hs) (threadedRun_init now base) hserialized hrun
  intro key
  refine ⟨hall.threaded.once key, fun e he hkey w hw => ?_⟩
  subst hkey
  exact hall.threaded.unopened w e.1 hw e.2 he

section demo

/-- `Serialized`, asked of the calls below `n` only. -/
def SerializedBelow (n : Nat) (c : InboundPool) : InboundMove → Prop
  | .act w (.handler (.ticket none)) => ∀ lookup ∈ (c.locals w).looksUp,
    (∀ v ∈ List.range n, v ≠ w → (c.locals v).opening.map Prod.fst ≠ some lookup.1) ∧
      ∀ t ∈ c.shared.base.store.tickets, t.tenantId = lookup.1.1 →
        t.externalRef = some lookup.1.2 → t.status.isActive = true → t.customerId = lookup.2
  | .act w (.handler (.throws _)) | .act w .crash =>
    ∀ opening ∈ (c.locals w).opening, opening.2 = none
  | _ => True

instance (n : Nat) (c : InboundPool) : DecidablePred (SerializedBelow n c)
  | .act w (.handler step) => match step with
    | .ticket none => inferInstanceAs (Decidable (∀ lookup ∈ (c.locals w).looksUp,
        (∀ v ∈ List.range n, v ≠ w → (c.locals v).opening.map Prod.fst ≠ some lookup.1) ∧
          ∀ t ∈ c.shared.base.store.tickets, t.tenantId = lookup.1.1 →
            t.externalRef = some lookup.1.2 → t.status.isActive = true →
              t.customerId = lookup.2))
    | .ticket (some _) => isTrue trivial
    | .throws _ => inferInstanceAs (Decidable (∀ opening ∈ (c.locals w).opening,
        opening.2 = none))
    | .resolve | .customer _ | .link _ | .write .. | .after | .thread _ => isTrue trivial
  | .act w .crash => inferInstanceAs (Decidable (∀ opening ∈ (c.locals w).opening,
      opening.2 = none))
  | .act _ (.process _) | .act _ (.retry _) | .act _ (.replay _) | .act _ (.cancel _)
  | .act _ .next | .act _ .throws | .act _ (.create _) | .env _ => isTrue trivial

/-- In a run of the calls below `n` the others have no opening. -/
theorem within_serialized {n : Nat} {now : Time} {base : InboundStore} {is : List InboundMove}
    (h : threads.Within (fun p i => SerializedBelow n p.1 i) (init now base, []) is)
    (hbelow : ∀ i ∈ is, Program.ActorsBelow n i) :
    threads.Within (fun p i => Serialized p.1 i) (init now base, []) is := by
  refine h.of_invariant threads (P := fun p => ∀ v, n ≤ v → p.1.locals v = .idle)
    (fun _ _ => rfl) hbelow (fun p i p' hidle hi hs v hv => ?_) fun p i hidle hcond => ?_
  · have hsame := Program.locals_of_actorsBelow _ hi hv (Machine.logged_step.mp hs).1
    exact hsame.trans (hidle v hv)
  · unfold Serialized
    split
    · intro lookup hlookup
      obtain ⟨halone, hcustomer⟩ := hcond lookup hlookup
      refine ⟨fun v hne => ?_, hcustomer⟩
      by_cases hv : v < n
      · exact halone v (List.mem_range.mpr hv) hne
      · rw [hidle v (by omega)]
        simp [WebhookTask.opening]
    · exact hcond
    · exact hcond
    · trivial

/-- The ticket of the first message of `conversation`. -/
def demoTicket : Ticket where
  id := 101
  tenantId := 2
  ticketNumber := 1
  customerId := 4
  assignedAgentId := none
  createdById := 1
  title := "WhatsApp message from "
  description := "Hi"
  status := .open
  priority := .medium
  category := "GENERAL"
  tags := []
  source := "whatsapp"
  isEscalated := false
  escalatedAt := none
  escalatedReason := none
  resolvedAt := none
  closedAt := none
  firstResponseAt := none
  dueAt := some 86400000
  slaBreached := false
  metadata := []
  createdAt := 0
  updatedAt := 0
  externalRef := some "+15"

def receiving (id : Uuid) (w : WorkerId) : List InboundMove :=
  [.env (.receive id .whatsappInbound demoPayload "sig"), .act w (.process id)] ++ nexts w 4

/-- The second message comes when the first has become a ticket, and is commented on it. -/
def conversation : List InboundMove :=
  receiving 1 0 ++ lookingUp 0 ++ [committing 0 100, .act 0 (.handler .after),
      .act 0 (.handler .after), .act 0 (.handler (.thread 0))] ++ nexts 0 2 ++ receiving 2 1 ++
    [.act 1 (.handler .resolve), .act 1 (.handler (.customer (some demoCustomer))),
      .act 1 (.handler (.link (some ⟨1, 4, 2⟩))),
      .act 1 (.handler (.ticket (some demoTicket))), committing 1 200,
      .act 1 (.handler .after)] ++ nexts 1 2

/-- Two messages of one sender at once: both look for a ticket before either has one. -/
def burst : List InboundMove :=
  receiving 1 0 ++ receiving 2 1 ++ lookingUp 0 ++ lookingUp 1 ++
    [committing 0 100, committing 1 200]

end demo

theorem one_open_ticket_per_sender_conversation :
    ∃ c log, threads.run (init 0 demoBase, []) conversation = some (c, log) ∧
      stillOpen log = [((2, "+15"), 101)] ∧
      ((stillOpen log).filter fun e => e.1 = (2, "+15")).length ≤ 1 := by
  have hrun : ((threads.run (init 0 demoBase, []) conversation).any fun p =>
      stillOpen p.2 = [((2, "+15"), 101)]) = true := by decide +kernel
  obtain ⟨⟨c, log⟩, hc, hone⟩ := (Option.any_eq_true _ _).mp hrun
  have hwithin : threads.Within (fun p i => SerializedBelow 2 p.1 i) (init 0 demoBase, [])
      conversation := by decide +kernel
  have hbelow : ∀ i ∈ conversation, Program.ActorsBelow 2 i := by decide +kernel
  exact ⟨c, log, hc, of_decide_eq_true hone,
    (one_open_ticket_per_sender 0 demoBase conversation c log (within_serialized hwithin hbelow)
      hc (2, "+15")).1⟩

/-- Both messages of a burst become tickets, and both tickets are open. -/
theorem burst_opens_two_tickets :
    ∃ c log, threads.run (init 0 demoBase, []) burst = some (c, log) ∧
      1 < ((stillOpen log).filter fun e => e.1 = (2, "+15")).length := by
  have hrun : ((threads.run (init 0 demoBase, []) burst).any fun p =>
      1 < ((stillOpen p.2).filter fun e => e.1 = (2, "+15")).length) = true := by decide +kernel
  obtain ⟨⟨c, log⟩, hc, hmore⟩ := (Option.any_eq_true _ _).mp hrun
  exact ⟨c, log, hc, of_decide_eq_true hmore⟩

end OmniSupport.Messaging
