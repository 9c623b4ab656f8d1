import OmniSupport.Messaging.InboundWrites
import OmniSupport.Messaging.WebhookLifecycle

/-! What a stored inbound message gives rise to, over any number of attempts to process it:
at most one ticket or comment, as long as a call that has committed comes to its end. -/
namespace OmniSupport.Messaging
open Foundation Database ProcessInboundWhatsApp WebhookProcessing

abbrev InboundPool :=
  Pool (WebhookStore TwilioPayload InboundStore) (WebhookTask TwilioPayload InboundCall)

abbrev InboundMove := Move (WebhookStep InboundStep) (WebhookMove TwilioPayload InboundStore)

inductive MessageEffect where
  | ticket (id : Uuid)
  | comment (id : Uuid)
  deriving DecidableEq

def newIds (old new : List Uuid) : List Uuid := new.filter fun id => id ∉ old

/-- The tickets and comments of the second store that the first does not have. -/
def effects (s s' : Store) : List MessageEffect :=
  (newIds (s.tickets.map Ticket.id) (s'.tickets.map Ticket.id)).map .ticket ++
    (newIds (s.comments.map TicketComment.id) (s'.comments.map TicketComment.id)).map .comment

/-- The effects of a step of the handler, under the row whose message it handles. -/
def attributed (c : InboundPool) : InboundMove → InboundPool → List (Uuid × MessageEffect)
  | .act w (.handler _), c' =>
    match (c.locals w).lease with
    | some (id, _) => (effects c.shared.base.store c'.shared.base.store).map fun e => (id, e)
    | none => []
  | _, _ => []

/-- The calls beside the committed effects so far, the newest first. -/
def attributions : Machine (InboundPool × List (Uuid × MessageEffect)) InboundMove :=
  (machine handler).logged attributed

def effectsOf (id : Uuid) (log : List (Uuid × MessageEffect)) : List MessageEffect :=
  (log.filter fun e => e.1 = id).map Prod.snd

/-- Between its commit and its return. -/
def InboundCall.committed : InboundCall → Bool
  | .analysingComment _ | .analysing .. | .invalidating .. | .threading ..
  | .returned (.commented _) | .returned (.ticketCreated _) => true
  | _ => false

/-- Between the commit of its effect and the write of its outcome. -/
def WebhookTask.committed : WebhookTask TwilioPayload InboundCall → Bool
  | .handling _ _ call => call.committed
  | .completing _ _ .processed => true
  | _ => false

/-- What the filter of a claim is made of. -/
def WebhookTask.claims : WebhookTask TwilioPayload InboundCall → Option (Uuid × Time)
  | .claiming id startedAt _ => some (id, startedAt)
  | _ => none

/-- A call that has committed neither fails nor dies, its row is not claimed by another
call, and a call commits only while it still holds its row. -/
def Undisturbed (c : InboundPool) : InboundMove → Prop
  | .act w (.handler (.throws _)) | .act w .throws | .act w .crash =>
    (c.locals w).committed = false
  | .act w (.handler (.write ..)) =>
    ∀ id ∈ (c.locals w).lease.map Prod.fst, ∃ r ∈ c.shared.rows, r.heldBy id w
  | .act v .next =>
    ∀ claim ∈ (c.locals v).claims, ∀ r ∈ c.shared.rows, r.claimable claim.1 claim.2 →
      ∀ w ∈ r.lockedBy, (c.locals w).committed = false
  | _ => True

instance (c : InboundPool) : DecidablePred (Undisturbed c)
  | .act w (.handler step) => match step with
    | .throws _ => inferInstanceAs (Decidable ((c.locals w).committed = false))
    | .write .. => inferInstanceAs (Decidable (∀ id ∈ (c.locals w).lease.map Prod.fst,
        ∃ r ∈ c.shared.rows, r.heldBy id w))
    | .resolve | .customer _ | .link _ | .ticket _ | .after | .thread _ => isTrue trivial
  | .act w .throws => inferInstanceAs (Decidable ((c.locals w).committed = false))
  | .act w .crash => inferInstanceAs (Decidable ((c.locals w).committed = false))
  | .act v .next => inferInstanceAs (Decidable (∀ claim ∈ (c.locals v).claims,
      ∀ r ∈ c.shared.rows, r.claimable claim.1 claim.2 →
        ∀ w ∈ r.lockedBy, (c.locals w).committed = false))
  | .act _ (.process _) | .act _ (.retry _) | .act _ (.replay _) | .act _ (.cancel _)
  | .act _ (.create _) | .env _ => isTrue trivial

section effects
variable {s s' : Store}

theorem newIds_self (ids : List Uuid) : newIds ids ids = [] := by
  simp [newIds]

theorem newIds_append {ids : List Uuid} {id : Uuid} (h : id ∉ ids) :
    newIds ids (ids ++ [id]) = [id] := by
  simp [newIds, List.filter_append, h]

theorem effects_eq_nil (ht : s'.tickets.map Ticket.id = s.tickets.map Ticket.id)
    (hc : s'.comments.map TicketComment.id = s.comments.map TicketComment.id) :
    effects s s' = [] := by
  rw [effects, ht, hc, newIds_self, newIds_self]
  rfl

theorem effects_ticket {dto : Ticketing.CreateTicketDto} {saved : Ticket}
    (h : TicketAdded dto saved s s') : effects s s' = [.ticket saved.id] := by
  have hnew : saved.id ∉ s.tickets.map Ticket.id := by
    intro hm
    obtain ⟨t, ht, hid⟩ := List.mem_map.mp hm
    exact h.new t ht hid
  rw [effects, h.tickets, h.comments, List.map_append, List.map_singleton, newIds_append hnew,
    newIds_self]
  rfl

theorem effects_comment (h : CommentAdded s s') : ∃ id, effects s s' = [.comment id] := by
  obtain ⟨comment, hcomments, hfresh⟩ := h.comments
  have hnew : comment.id ∉ s.comments.map TicketComment.id := by
    intro hm
    obtain ⟨c, hc, hid⟩ := List.mem_map.mp hm
    exact hfresh c hc hid
  have htickets : s'.tickets.map Ticket.id = s.tickets.map Ticket.id := by
    have hthreads := congrArg (List.map Prod.fst) h.tickets
    simpa [Function.comp_def, thread] using hthreads
  refine ⟨comment.id, ?_⟩
  rw [effects, htickets, hcomments, List.map_append, List.map_singleton, newIds_append hnew,
    newIds_self]
  rfl

end effects

/-- What a step of the handler does: it writes no ticket and no comment and stays on its side
of the commit, or it is the commit of one. -/
inductive HandlerStepped (i : InboundStep) (s : Store) (call : InboundCall) (s' : Store)
    (call' : InboundCall) : Prop where
  | quiet (hnone : effects s s' = []) (hafter : call'.committed = call.committed)
  | threw (hnone : effects s s' = []) (hafter : call'.committed = false)
      (hcommitted : call.committed = true → ∃ message, i = .throws message)
  | commits (hwrite : ∃ env faults text, i = .write env faults text)
      (hbefore : call.committed = false) (hafter : call'.committed = true)
      (hone : ∃ effect, effects s s' = [effect])

theorem handler_stepped {i : InboundStep} {t t' : InboundStore} {call call' : InboundCall}
    (h : step i t call = some (t', call')) :
    HandlerStepped i t.store call t'.store call' := by
  have hnone : effects t.store t.store = [] := effects_eq_nil rfl rfl
  cases i with
  | resolve =>
    cases call with
    | resolving message =>
      cases h
      cases resolveTenantId message.recipient t <;> exact .quiet hnone rfl
    | _ => cases h
  | customer found =>
    cases call with
    | findingCustomer message tenantId =>
      simp only [step] at h
      split at h <;> cases h
      cases found <;> exact .quiet hnone rfl
    | _ => cases h
  | link found =>
    cases call with
    | findingLink message tenantId customer =>
      simp only [step] at h
      split at h <;> cases h
      cases found <;> exact .quiet hnone rfl
    | _ => cases h
  | ticket found =>
    cases call with
    | findingTicket message tenantId customer authorId =>
      simp only [step] at h
      split at h <;> cases h
      cases found <;> exact .quiet hnone rfl
    | _ => cases h
  | write env faults text =>
    cases call with
    | commenting dto =>
      rcases commit_cases (ends_addCommentSaved dto) h with
        ⟨saved, d', hadded, rfl⟩ | ⟨rfl, message, rfl⟩
      · obtain ⟨id, hid⟩ := effects_comment hadded
        exact .commits ⟨env, faults, text, rfl⟩ rfl rfl ⟨_, hid⟩
      · exact .quiet hnone rfl
    | creating sender dto =>
      rcases commit_cases (ends_createTicketSaved dto) h with
        ⟨saved, d', hadded, rfl⟩ | ⟨rfl, message, rfl⟩
      · exact .commits ⟨env, faults, text, rfl⟩ rfl rfl ⟨_, effects_ticket hadded⟩
      · exact .quiet hnone rfl
    | _ => cases h
  | after =>
    obtain ⟨next, hnext, he⟩ := Option.map_eq_some_iff.mp h
    cases he
    cases call <;> cases hnext <;> exact .quiet hnone rfl
  | thread now =>
    cases call with
    | threading tenantId sender ticketId =>
      cases h
      refine .quiet (effects_eq_nil ?_ rfl) rfl
      exact Table.map_updateMany fun _ => rfl
    | _ => cases h
  | throws message =>
    obtain ⟨next, hnext, he⟩ := Option.map_eq_some_iff.mp h
    cases he
    refine .threw hnone ?_ fun _ => ⟨message, rfl⟩
    cases call <;> cases hnext <;> rfl

section step
variable {s s' : WebhookStore TwilioPayload InboundStore} {w : WorkerId}
  {task task' : WebhookTask TwilioPayload InboundCall}

theorem lease_of_committed (h : task.committed = true) : ∃ id t, task.lease = some (id, t) := by
  cases task with
  | handling id lockedAt call => exact ⟨id, lockedAt, rfl⟩
  | completing id lockedAt outcome => exact ⟨id, lockedAt, rfl⟩
  | _ => cases h

/-- A call that holds no row has not committed, and does not commit by claiming one. -/
theorem next_of_no_lease (hl : task.lease = none) (h : next handler w s task = some (s', task')) :
    task'.committed = false := by
  by_contra hcommitted
  rw [Bool.not_eq_false] at hcommitted
  obtain ⟨id, t, ht⟩ := lease_of_committed hcommitted
  rcases (next_leaseStep h).lease id t ht with ⟨hold, -⟩ | ⟨startedAt, -, -, hreading, -⟩
  · rw [hl] at hold
    cases hold
  · rw [hreading] at hcommitted
    cases hcommitted

/-- Beside the steps of the handler, a call stays on its side of the commit, or writes the
outcome. -/
theorem next_committed (h : next handler w s task = some (s', task')) :
    (task'.committed = task.committed ∧ (task.committed = true → task'.lease = task.lease)) ∨
      (task'.committed = false ∧ ∃ id lockedAt, task = .completing id lockedAt .processed) := by
  cases task with
  | reading id lockedAt =>
    cases h
    cases s.find id with
    | none => exact Or.inl ⟨rfl, fun hno => by cases hno⟩
    | some event =>
      simp only [received]
      cases handler.parseInboundMessage event.payload <;>
        exact Or.inl ⟨rfl, fun hno => by cases hno⟩
  | handling id lockedAt call =>
    obtain ⟨outcome, houtcome, he⟩ := Option.map_eq_some_iff.mp h
    cases he
    refine Or.inl ⟨?_, fun _ => rfl⟩
    cases call with
    | returned result => cases result <;> cases houtcome <;> rfl
    | threw message =>
      cases houtcome
      rfl
    | _ => cases houtcome
  | completing id lockedAt outcome =>
    cases h
    cases outcome with
    | processed => exact Or.inr ⟨rfl, id, lockedAt, rfl⟩
    | skipped _ | failed _ => exact Or.inl ⟨rfl, fun hno => by cases hno⟩
  | _ => exact Or.inl ⟨next_of_no_lease rfl h, fun hno => by cases hno⟩

/-- A step of the handler inside a call. -/
theorem handle_eq_some {i : InboundStep} (h : handle handler s i task = some (s', task')) :
    ∃ id t call call' base, task = .handling id t call ∧ task' = .handling id t call' ∧
      s' = { s with base := base } ∧ step i s.base call = some (base, call') := by
  cases task with
  | handling id t call =>
    obtain ⟨⟨base, call'⟩, hstep, he⟩ := Option.map_eq_some_iff.mp h
    cases he
    exact ⟨id, t, call, call', base, rfl, rfl, rfl, hstep⟩
  | _ => cases h

end step

section pool
variable {c c' : InboundPool} {i : InboundMove} {w : WorkerId} {log : List (Uuid × MessageEffect)}

/-- A committed call goes on, up to the write of its outcome. -/
theorem act_committed {step : WebhookStep InboundStep}
    {s' : WebhookStore TwilioPayload InboundStore}
    {task' : WebhookTask TwilioPayload InboundCall} (hc : Undisturbed c (.act w step))
    (h : act handler w c.shared (c.locals w) step = some (s', task'))
    (hcommitted : (c.locals w).committed = true) :
    (task'.committed = true ∧ task'.lease = (c.locals w).lease) ∨
      (step = .next ∧ ∃ id t, c.locals w = .completing id t .processed) := by
  cases step with
  | next =>
    rcases next_committed h with ⟨hsame, hlease⟩ | ⟨-, hcompleting⟩
    · exact Or.inl ⟨hsame.trans hcommitted, hlease hcommitted⟩
    · exact Or.inr ⟨rfl, hcompleting⟩
  | handler step =>
    obtain ⟨id, t, call, call', base, hl, rfl, -, hstep⟩ := handle_eq_some h
    rw [hl] at hcommitted ⊢
    refine Or.inl ⟨?_, rfl⟩
    cases handler_stepped hstep with
    | quiet _ hafter => exact hafter.trans hcommitted
    | threw _ _ hthrows =>
      obtain ⟨message, rfl⟩ := hthrows hcommitted
      have hno : (c.locals w).committed = false := hc
      rw [hl, hcommitted] at hno
      cases hno
    | commits _ hbefore =>
      have hyes : call.committed = true := hcommitted
      rw [hbefore] at hyes
      cases hyes
  | throws | crash =>
    have hno : (c.locals w).committed = false := hc
    rw [hcommitted] at hno
    cases hno
  | create id =>
    cases hl : c.locals w with
    | creating original =>
      rw [hl] at hcommitted
      cases hcommitted
    | _ =>
      rw [hl] at h
      cases h
  | _ =>
    obtain ⟨t, ht, -⟩ := Option.map_eq_some_iff.mp h
    cases hl : c.locals w with
    | idle =>
      rw [hl] at hcommitted
      cases hcommitted
    | _ =>
      rw [hl] at ht
      cases ht

/-- A step has no effect, or it is the commit of one by a call that had committed none. -/
theorem attributed_cases (h : (machine handler).step c i = some c') :
    attributed c i c' = [] ∨
      ∃ w step id t effect, i = .act w (.handler step) ∧
        (∃ env faults text, step = .write env faults text) ∧
        attributed c i c' = [(id, effect)] ∧ (c.locals w).lease = some (id, t) ∧
        (c.locals w).committed = false ∧ (c'.locals w).lease = some (id, t) ∧
        (c'.locals w).committed = true ∧ c'.shared.rows = c.shared.rows := by
  cases i with
  | env m => exact Or.inl rfl
  | act w step =>
    cases step with
    | handler step =>
      obtain ⟨s', task', hact, rfl⟩ := (program handler).step_act.mp h
      obtain ⟨id, t, call, call', base, hl, rfl, rfl, hstep⟩ := handle_eq_some hact
      have hnotes : attributed c (.act w (.handler step))
          (c.put w { c.shared with base := base } (.handling id t call')) =
          (effects c.shared.base.store base.store).map fun e => (id, e) := by
        simp only [attributed, hl, WebhookTask.lease, Pool.put_shared]
      rw [hnotes]
      cases handler_stepped hstep with
      | quiet hnone _ | threw hnone _ _ =>
        rw [hnone]
        exact Or.inl rfl
      | commits hwrite hbefore hafter hone =>
        obtain ⟨effect, heffect⟩ := hone
        rw [heffect]
        refine Or.inr ⟨w, step, id, t, effect, rfl, hwrite, rfl, ?_⟩
        rw [Pool.put_locals_self, hl]
        exact ⟨rfl, hbefore, rfl, hafter, rfl⟩
    | _ => exact Or.inl rfl

/-- Every effect belongs to a row that is processed for good, or that a committed call still
holds; no row has two. -/
structure Accounted (c : InboundPool) (log : List (Uuid × MessageEffect)) : Prop where
  outline : (leaseOutline : Program.Outline (WebhookStore TwilioPayload InboundStore)
    (WebhookTask TwilioPayload InboundCall)).Holds c
  known : ∀ e ∈ log, e.1 ∈ c.shared.uuids
  settled : ∀ e ∈ log, ∀ r ∈ c.shared.rows, r.id = e.1 → r.status = .processed ∨
    ∃ w t, r.lockedBy = some w ∧ (c.locals w).committed = true ∧
      (c.locals w).lease = some (r.id, t)
  once : ∀ id, (effectsOf id log).length ≤ 1

theorem effectsOf_append (id : Uuid) (notes log : List (Uuid × MessageEffect)) :
    effectsOf id (notes ++ log) = effectsOf id notes ++ effectsOf id log := by
  simp [effectsOf]

/-- The outcome write takes its row from the call. -/
theorem not_held_after {id : Uuid} {t : Time} {outcome : ProcessingOutcome}
    {r : WebhookEvent TwilioPayload} (hs : (machine handler).step c (.act w .next) = some c')
    (hl : c.locals w = .completing id t outcome) (hr : r ∈ c'.shared.rows) :
    ¬ r.heldBy id w := by
  obtain ⟨s', task', hact, rfl⟩ := (program handler).step_act.mp hs
  have hnext : next handler w c.shared (c.locals w) = some (s', task') := hact
  rw [hl] at hnext
  cases hnext
  intro hheld
  rcases Table.mem_updateMany.mp hr with ⟨r₀, -, -, rfl⟩ | ⟨-, hno⟩
  · cases hheld.2
  · exact hno hheld

/-- A row with an effect stays with the committed call, whose outcome write processes it. -/
theorem settled_step {r r' : WebhookEvent TwilioPayload} {t : Time}
    (hc : Undisturbed c i) (hs : (machine handler).step c i = some c')
    (hr : r ∈ c.shared.rows) (hr' : r' ∈ c'.shared.rows) (ht : Transition c i r r')
    (hlocked : r.Locked) (hholder : r.lockedBy = some w)
    (hcommitted : (c.locals w).committed = true) (hlease : (c.locals w).lease = some (r.id, t)) :
    r'.status = .processed ∨ ∃ w t, r'.lockedBy = some w ∧ (c'.locals w).committed = true ∧
      (c'.locals w).lease = some (r'.id, t) := by
  have hprocessing : r.status = .processing := hlocked.lockedBy.mp (by simp [hholder])
  cases ht with
  | same =>
    refine Or.inr ⟨w, t, hholder, ?_⟩
    cases i with
    | env m =>
      obtain ⟨s', -, rfl⟩ := (program handler).step_env.mp hs
      exact ⟨hcommitted, hlease⟩
    | act v step =>
      obtain ⟨s', task', hact, rfl⟩ := (program handler).step_act.mp hs
      by_cases hv : w = v
      · subst v
        rw [Pool.put_locals_self]
        rcases act_committed hc hact hcommitted with ⟨hstill, hsame⟩ | ⟨rfl, id, t', hl⟩
        · exact ⟨hstill, hsame.trans hlease⟩
        · have hid : id = r.id := by
            rw [hl] at hlease
            cases hlease
            rfl
          exact absurd ⟨hid.symm, hholder⟩ (not_held_after hs hl hr')
      · rw [c.put_locals_of_ne s' task' hv]
        exact ⟨hcommitted, hlease⟩
  | claimed v id startedAt lockedAt r hl h =>
    have hno : (c.locals w).committed = false :=
      hc (id, startedAt) (by rw [hl]; rfl) r hr h w hholder
    rw [hcommitted] at hno
    cases hno
  | completed v id lockedAt outcome r hl h =>
    obtain rfl : v = w := by simpa [WebhookEvent.heldBy, hholder] using h.2.symm
    rw [hl] at hcommitted
    cases outcome with
    | processed => exact Or.inl rfl
    | skipped _ | failed _ => cases hcommitted
  | cancelled v r h => simp [WebhookEvent.retryable, hprocessing] at h

/-- A call that is about to commit holds a row without an effect. -/
theorem effectsOf_of_uncommitted {id : Uuid} {r : WebhookEvent TwilioPayload}
    (h : Accounted c log) (hr : r ∈ c.shared.rows) (hheld : r.heldBy id w)
    (hbefore : (c.locals w).committed = false) : effectsOf id log = [] := by
  rw [effectsOf, List.map_eq_nil_iff, List.filter_eq_nil_iff]
  intro e he
  rw [decide_eq_true_eq]
  intro hid
  rcases h.settled e he r hr (hheld.1.trans hid.symm) with hprocessed | ⟨v, t, hv, hcommitted, -⟩
  · have hprocessing : r.status = .processing :=
      (h.outline.inv.2 r hr).lockedBy.mp (by simp [hheld.2])
    rw [hprocessed] at hprocessing
    cases hprocessing
  · rw [hheld.2, Option.some.injEq] at hv
    rw [← hv, hbefore] at hcommitted
    cases hcommitted

theorem accounted_step {p p' : InboundPool × List (Uuid × MessageEffect)}
    (h : Accounted p.1 p.2) (hc : Undisturbed p.1 i) (hs : attributions.step p i = some p') :
    Accounted p'.1 p'.2 := by
  obtain ⟨c, log⟩ := p
  obtain ⟨c', log'⟩ := p'
  obtain ⟨hstep, hlog⟩ := Machine.logged_step.mp hs
  simp only at h hc hstep hlog ⊢
  have hrows := step_rowStep h.outline.inv.1 hstep
  have hold : ∀ e ∈ log, ∀ r' ∈ c'.shared.rows, r'.id = e.1 → r'.status = .processed ∨
      ∃ w t, r'.lockedBy = some w ∧ (c'.locals w).committed = true ∧
        (c'.locals w).lease = some (r'.id, t) := by
    intro e he r' hr' hid
    rcases hrows.moved.source r' hr' with ⟨r, hr, ht⟩ | ⟨hfresh, -⟩
    · have hlocked := h.outline.inv.2 r hr
      rcases h.settled e he r hr (ht.id_eq.symm.trans hid) with
        hprocessed | ⟨w, t, hholder, hcommitted, hlease⟩
      · exact Or.inl ((ht.finished hlocked (Or.inl hprocessed)).trans hprocessed)
      · exact settled_step hc hstep hr hr' ht hlocked hholder hcommitted hlease
    · exact absurd (hid ▸ h.known e he) hfresh
  have houtline := leaseOutline_valid.step c i c' h.outline trivial hstep
  rcases attributed_cases hstep with hnone | ⟨w, step, id, t, effect, rfl, ⟨env, faults, text, rfl⟩,
    hone, hlease, hbefore, hlease', hafter, hsame⟩
  · rw [hnone, List.nil_append] at hlog
    subst hlog
    exact ⟨houtline, fun e he => hrows.moved.grows (h.known e he), hold, h.once⟩
  · obtain ⟨r, hr, hheld⟩ := hc id (by simp [hlease])
    have hempty : effectsOf id log = [] := effectsOf_of_uncommitted h hr hheld hbefore
    rw [hone] at hlog
    subst hlog
    refine ⟨houtline, fun e he => ?_, fun e he r' hr' hid => ?_, fun id' => ?_⟩
    · rcases List.mem_cons.mp he with rfl | he
      · exact hrows.moved.grows (hheld.1 ▸ h.outline.inv.1.known r hr)
      · exact hrows.moved.grows (h.known e he)
    · rcases List.mem_cons.mp he with rfl | he
      · have hr₀ : r' ∈ c.shared.rows := hsame ▸ hr'
        have hrow : r' = r := h.outline.inv.1.eq hr₀ hr (hid.trans hheld.1.symm)
        rw [hrow]
        exact Or.inr ⟨w, t, hheld.2, hafter, by rw [hlease', hheld.1]⟩
      · exact hold e he r' hr' hid
    · rw [effectsOf_append]
      by_cases hid : id = id'
      · subst id'
        rw [hempty]
        simp [effectsOf]
      · have hother : effectsOf id' [(id, effect)] = [] := by simp [effectsOf, hid]
        rw [hother, List.nil_append]
        exact h.once id'

end pool

/-- A stored inbound message gives rise to at most one ticket or comment, over any number of
process and retry calls on its row, in every run in which calls that have committed come to
their end undisturbed. -/
theorem one_effect_per_message (now : Time) (base : InboundStore) (is : List InboundMove)
    (c : InboundPool) (log : List (Uuid × MessageEffect))
    (hundisturbed : attributions.Within (fun p i => Undisturbed p.1 i) (init now base, []) is)
    (hrun : attributions.run (init now base, []) is = some (c, log)) :
    ∀ id, (effectsOf id log).length ≤ 1 := by
  have hstart : Accounted (init now base) [] :=
    ⟨leaseOutline_init now base, by simp, by simp, by simp [effectsOf]⟩
  have hall := attributions.run_preserves_within (P := fun p => Accounted p.1 p.2)
    (fun p i p' h hc hs => accounted_step h hc hs) hstart hundisturbed hrun
  exact hall.once

section demo

/-- A customer of organization 2 and its linked account, and the number customers write to. -/
def demoCustomer : Customer :=
  { (default : Customer) with
    id := 4
    tenantId := 2
    phone := some "+15"
    riskScore := some 0
    lastActivityAt := some 0 }

def demoBase : InboundStore where
  store :=
    { tickets := []
      comments := []
      customers := [demoCustomer]
      tenants := [{ (default : Tenant) with id := 2, maxTicketsPerDay := 9 }]
      users := [{ (default : User) with id := 1, tenantId := some 2, status := .active }]
      refreshTokens := []
      sequences := []
      activities := []
      audits := []
      outbox := []
      customerLinks := [⟨1, 4, 2⟩] }
  integrations := [⟨2, "whatsapp", true, some "+10"⟩]

def demoPayload : TwilioPayload := ⟨some "whatsapp:+15", some "Hi", some "whatsapp:+10"⟩

def nexts (w : WorkerId) (n : Nat) : List InboundMove := List.replicate n (.act w .next)

def lookingUp (w : WorkerId) : List InboundMove :=
  [.act w (.handler .resolve), .act w (.handler (.customer (some demoCustomer))),
    .act w (.handler (.link (some ⟨1, 4, 2⟩))), .act w (.handler (.ticket none))]

/-- A commit that draws its ids from `n` on. -/
def committing (w : WorkerId) (n : Nat) : InboundMove :=
  .act w (.handler (.write { sampleEnv with uuid := fun k => n + k, clock := fun _ => 0 }
    (fun _ => .none) ""))

/-- The first attempt fails before its commit and the retry makes the ticket; a further
retry finds nothing to claim. -/
def recovered : List InboundMove :=
  [.env (.receive 1 .whatsappInbound demoPayload "sig"), .act 0 (.process 1)] ++ nexts 0 4 ++
    [.act 0 (.handler (.throws "timeout"))] ++ nexts 0 2 ++ [.act 1 (.retry 1)] ++ nexts 1 5 ++
    lookingUp 1 ++ [committing 1 100, .act 1 (.handler .after), .act 1 (.handler .after),
      .act 1 (.handler (.thread 0))] ++ nexts 1 2 ++ [.act 2 (.retry 1)] ++ nexts 2 4

/-- The queue add throws after the commit, and an operator retries the failed row. -/
def retried : List InboundMove :=
  [.env (.receive 1 .whatsappInbound demoPayload "sig"), .act 0 (.process 1)] ++ nexts 0 4 ++
    lookingUp 0 ++ [committing 0 100, .act 0 (.handler (.throws "queue"))] ++ nexts 0 2 ++
    [.act 1 (.retry 1)] ++ nexts 1 5 ++ lookingUp 1 ++ [committing 1 200]

end demo

theorem one_effect_per_message_recovered :
    ∃ c log, attributions.run (init 0 demoBase, []) recovered = some (c, log) ∧
      effectsOf 1 log = [.ticket 101] ∧ ∀ id, (effectsOf id log).length ≤ 1 := by
  have hrun : ((attributions.run (init 0 demoBase, []) recovered).any fun p =>
      effectsOf 1 p.2 = [.ticket 101]) = true := by decide +kernel
  obtain ⟨⟨c, log⟩, hc, hone⟩ := (Option.any_eq_true _ _).mp hrun
  have hwithin : attributions.Within (fun p i => Undisturbed p.1 i) (init 0 demoBase, [])
      recovered := by decide +kernel
  exact ⟨c, log, hc, of_decide_eq_true hone,
    one_effect_per_message 0 demoBase recovered c log hwithin hc⟩

/-- A failure after the commit leaves the row to be retried, and the retry makes a second
ticket of the same message. -/
theorem retry_after_commit_duplicates :
    ∃ c log, attributions.run (init 0 demoBase, []) retried = some (c, log) ∧
      1 < (effectsOf 1 log).length := by
  have hrun : ((attributions.run (init 0 demoBase, []) retried).any fun p =>
      1 < (effectsOf 1 p.2).length) = true := by decide +kernel
  obtain ⟨⟨c, log⟩, hc, hmore⟩ := (Option.any_eq_true _ _).mp hrun
  exact ⟨c, log, hc, of_decide_eq_true hmore⟩

end OmniSupport.Messaging
