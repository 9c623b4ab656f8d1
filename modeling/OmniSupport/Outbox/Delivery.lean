import OmniSupport.Outbox.RowLifecycle
import OmniSupport.Foundation.Text

/-! At-least-once delivery per handler: a row is marked processed only when every handler
of its event has completed, in this delivery or in one the ledger remembers. -/
namespace OmniSupport.Outbox
open Foundation

variable {Payload : Type}

theorem colon_notMem_eventId (e : EventId) : ':' ∉ e.text.toList := by
  intro hm
  exact absurd (List.all_eq_true.mp e.alphabet ':' hm) (by decide)

/-- Ledger keys never confuse two events, two event types or two handlers. -/
theorem HandlerKey.text_injective {k k' : HandlerKey} (h : k.text = k'.text) : k = k' := by
  obtain ⟨e, t, i⟩ := k
  obtain ⟨e', t', i'⟩ := k'
  have hl := congrArg String.toList h
  simp only [HandlerKey.text, String.toList_append, List.append_assoc] at hl
  change e.text.toList ++ ':' :: (t.toList ++ ':' :: (toString i).toList) =
    e'.text.toList ++ ':' :: (t'.toList ++ ':' :: (toString i').toList) at hl
  obtain ⟨he, hl⟩ := Text.append_sep_inj_left (colon_notMem_eventId e) (colon_notMem_eventId e') hl
  obtain ⟨ht, hi⟩ := Text.append_sep_inj_right (Text.notMem_toString_nat (by decide) i)
    (Text.notMem_toString_nat (by decide) i') hl
  obtain rfl : e = e' := by
    cases e
    cases e'
    simpa [String.toList_inj] using he
  obtain rfl := String.toList_inj.mp ht
  obtain rfl := Text.toString_nat_injective (String.toList_inj.mp hi)
  rfl

namespace OutboxProcessor
open OutboxStore
variable {config : OutboxConfig}

/-- Every handler subscribed to the event type of `r` has completed for its event id. -/
def AllCompleted (config : OutboxConfig) (s : OutboxStore Payload) (r : OutboxEvent Payload) :
    Prop :=
  ∀ index < config.handlerCount r.eventType, handlerKey r index ∈ s.completed

def HandlerRun.done : HandlerRun → Prop
  | .ran | .settled true => True
  | _ => False

/-- What a worker knows about the completions of the event it delivers. -/
def Progress (config : OutboxConfig) (s : OutboxStore Payload) : Task Payload → Prop
  | .delivering record runs _ =>
    runs.length = config.handlerCount record.eventType ∧
      ∀ (index : Nat) run, runs[index]? = some run → HandlerRun.done run →
        handlerKey record index ∈ s.completed
  | .completing record _ => AllCompleted config s record
  | _ => True

/-- The rows that carry the id of a worker's copy are the row it was copied from. -/
def Copies (s : OutboxStore Payload) (task : Task Payload) : Prop :=
  ∀ record ∈ task.batch, record.id ∈ s.uuids ∧
    ∀ r ∈ s.rows, r.id = record.id → record.SameEvent r

abbrev deliveryOutline (config : OutboxConfig) :
    Program.Outline (OutboxStore Payload) (Task Payload) where
  inv s := s.Keyed ∧ (∀ key ∈ s.ledger, ∃ k ∈ s.completed, k.text = key) ∧
    ∀ r ∈ s.rows, r.status = .processed → AllCompleted config s r
  own _ task s := Copies s task ∧ Progress config s task
  pair _ _ := True

section
variable {s s' : OutboxStore Payload} {r r' : OutboxEvent Payload}

theorem handlerKey_sameEvent (h : r.SameEvent r') (index : Nat) :
    handlerKey r' index = handlerKey r index := by
  simp [handlerKey, h.eventId, h.eventType]

theorem AllCompleted.sameEvent (ha : AllCompleted config s r) (h : r.SameEvent r') :
    AllCompleted config s r' := by
  intro index hi
  rw [handlerKey_sameEvent h]
  exact ha index (h.eventType ▸ hi)

theorem AllCompleted.mono (ha : AllCompleted config s r) (h : s.completed ⊆ s'.completed) :
    AllCompleted config s' r :=
  fun index hi => h (ha index hi)

theorem Progress.mono {task : Task Payload} (hp : Progress config s task)
    (h : s.completed ⊆ s'.completed) : Progress config s' task := by
  cases task with
  | delivering record runs rest => exact ⟨hp.1, fun index run hr hd => h (hp.2 index run hr hd)⟩
  | completing record rest => exact AllCompleted.mono hp h
  | _ => trivial

theorem Copies.step {c : Pool (OutboxStore Payload) (Task Payload)}
    {i : Move OutboxStep (OutboxMove Payload)} {task : Task Payload} (hc : Copies c.shared task)
    (h : RowStep (Transition config c i) c.shared s') : Copies s' task := by
  intro record hm
  obtain ⟨hu, hrows⟩ := hc record hm
  refine ⟨h.uuids hu, fun r' hr' hid => ?_⟩
  rcases h.source r' hr' with ⟨r, hr, ht⟩ | hf
  · have hsame := ht.sameEvent
    have hrec := hrows r hr (hsame.id.symm.trans hid)
    exact ⟨hid, hsame.eventId.trans hrec.eventId, hsame.eventType.trans hrec.eventType⟩
  · exact absurd (hid ▸ hu) hf.id

/-- The delivery starts with no handler done. -/
theorem progress_deliver (records : List (OutboxEvent Payload)) :
    Progress config s (deliver config records) := by
  cases records with
  | nil => trivial
  | cons record rest =>
    refine ⟨List.length_replicate, fun index run hr hd => ?_⟩
    obtain rfl := List.eq_of_mem_replicate (List.mem_of_getElem? hr)
    exact hd.elim

/-- One step of `runOnce`: a handler counts as done only when it has completed, now or
in a delivery the ledger remembers. -/
theorem runOnce_done {key : HandlerKey} {run run' : HandlerRun} {step : HandlerStep}
    (hledger : ∀ text ∈ s.ledger, ∃ k ∈ s.completed, k.text = text)
    (hrun : HandlerRun.done run → key ∈ s.completed)
    (h : runOnce key s run step = some (s', run')) :
    (HandlerRun.done run' → key ∈ s'.completed) ∧
      ∀ text ∈ s'.ledger, text ∈ s.ledger ∨ text = key.text ∧ key ∈ s'.completed := by
  cases run <;> cases step <;> simp only [runOnce, Option.some.injEq, Prod.mk.injEq,
    reduceCtorEq] at h <;> obtain ⟨rfl, rfl⟩ := h
  case started.check =>
    refine ⟨fun hd => ?_, fun text hm => Or.inl hm⟩
    by_cases hk : key.text ∈ s.ledger
    · obtain ⟨k, hm, ht⟩ := hledger key.text hk
      rw [← HandlerKey.text_injective ht]
      exact hm
    · rw [if_neg hk] at hd
      exact hd.elim
  case running.succeed => exact ⟨fun _ => List.mem_cons_self, fun text hm => Or.inl hm⟩
  case ran.record =>
    refine ⟨fun _ => hrun trivial, fun text hm => ?_⟩
    rcases List.mem_cons.mp hm with rfl | hm
    · exact Or.inr ⟨rfl, hrun trivial⟩
    · exact Or.inl hm
  all_goals exact ⟨fun hd => hd.elim, fun text hm => Or.inl hm⟩

theorem progress_handler {index : Nat} {step : HandlerStep} {task task' : Task Payload}
    (hledger : ∀ text ∈ s.ledger, ∃ k ∈ s.completed, k.text = text)
    (hp : Progress config s task) (hsub : s.completed ⊆ s'.completed)
    (h : stepHandler s index step task = some (s', task')) :
    Progress config s' task' ∧ ∀ text ∈ s'.ledger, ∃ k ∈ s'.completed, k.text = text := by
  obtain ⟨record, runs, rest, run, run', rfl, hrun, hone, rfl⟩ := stepHandler_eq_some h
  obtain ⟨hdone, hled⟩ := runOnce_done hledger (hp.2 index run hrun) hone
  refine ⟨⟨by rw [List.length_set]; exact hp.1, fun j run'' hj hd => ?_⟩, fun text hm => ?_⟩
  · by_cases he : index = j
    · subst j
      rw [List.getElem?_set_self (List.getElem?_eq_some_iff.mp hrun).1, Option.some.injEq] at hj
      exact hdone (hj ▸ hd)
    · rw [List.getElem?_set_ne he] at hj
      exact hsub (hp.2 j run'' hj hd)
  · rcases hled text hm with hm | ⟨rfl, hk⟩
    · obtain ⟨k, hk, ht⟩ := hledger text hm
      exact ⟨k, hsub hk, ht⟩
    · exact ⟨_, hk, rfl⟩

/-- `allSettled` without failures: every handler is done. -/
theorem progress_settle {task task' : Task Payload} (hp : Progress config s task)
    (h : settle task = some task') : Progress config s task' := by
  cases task with
  | delivering record runs rest =>
    simp only [settle] at h
    split at h
    · cases h
    · rename_i hsettled
      split at h <;> cases h
      · rename_i hfail
        intro index hi
        rw [← hp.1] at hi
        refine hp.2 index runs[index] (List.getElem?_eq_getElem hi) ?_
        have hm : runs[index] ∈ runs := List.getElem_mem hi
        have hok : runs[index] ≠ .settled false := by
          simpa using List.countP_eq_zero.mp hfail runs[index] hm
        cases hr : runs[index] with
        | settled ok =>
          cases ok with
          | true => trivial
          | false => exact absurd hr hok
        | _ => exact absurd ⟨_, hm, by simp [hr]⟩ hsettled
      · trivial
  | _ => cases h

end

section
variable {c : Pool (OutboxStore Payload) (Task Payload)}
  {i : Move OutboxStep (OutboxMove Payload)} {s' : OutboxStore Payload} {w : WorkerId}

theorem processed_step
    (hrows : ∀ r ∈ c.shared.rows, r.status = .processed → AllCompleted config c.shared r)
    (hown : ∀ w, Copies c.shared (c.locals w) ∧ Progress config c.shared (c.locals w))
    (h : RowStep (Transition config c i) c.shared s') :
    ∀ r ∈ s'.rows, r.status = .processed → AllCompleted config s' r := by
  intro r' hr' hst
  rcases h.source r' hr' with ⟨r, hr, ht⟩ | hf
  · refine AllCompleted.mono ?_ h.completed
    cases ht with
    | same => exact hrows _ hr hst
    | processed w record rest _ hl hheld =>
      -- the one transition into PROCESSED: the marking worker has seen every handler done
      obtain ⟨hcopies, hprog⟩ := hown w
      rw [hl] at hcopies hprog
      have hsame := (hcopies record List.mem_cons_self).2 _ hr hheld.1
      exact AllCompleted.sameEvent (AllCompleted.sameEvent hprog hsame) ⟨rfl, rfl, rfl⟩
    | failed w record error rest _ hl hheld =>
      by_cases hd : record.maxAttempts ≤ record.attempts <;>
        simp [OutboxEvent.failed, hd] at hst
    | deadLettered => cases hst
    | claimed => cases hst
    | retried => cases hst
    | cancelled => cases hst
  · rw [hf.status] at hst
    cases hst

theorem copies_act {step : OutboxStep} {task' : Task Payload}
    (hc : Copies c.shared (c.locals w))
    (ha : act config w c.shared (c.locals w) step = some (s', task'))
    (h : RowStep (Transition config c (.act w step)) c.shared s') : Copies s' task' := by
  have hold := hc.step h
  rcases batch_act ha with ⟨picked, -, rfl, hb⟩ | ⟨hb, -⟩ | hb | ⟨-, record, -, hb⟩
  · intro record hm
    rw [hb, OutboxStore.claimed, List.mem_insertionSort, List.mem_filter] at hm
    refine ⟨h.keyed.known record hm.1, fun r hr hid => ?_⟩
    rw [h.keyed.eq hr hm.1 hid]
    exact .refl record
  · intro record hm
    exact hold record (hb ▸ hm)
  · intro record hm
    rw [hb] at hm
    cases hm
  · intro r hm
    exact hold r (hb ▸ List.mem_cons_of_mem _ hm)

theorem progress_of_batch_nil {s : OutboxStore Payload} {task : Task Payload}
    (h : task.batch = []) : Progress config s task := by
  cases task <;> trivial

theorem progress_act {step : OutboxStep} {task' : Task Payload}
    (hp : Progress config c.shared (c.locals w))
    (hledger : ∀ text ∈ c.shared.ledger, ∃ k ∈ c.shared.completed, k.text = text)
    (ha : act config w c.shared (c.locals w) step = some (s', task'))
    (h : RowStep (Transition config c (.act w step)) c.shared s') :
    Progress config s' task' := by
  cases step with
  | handler index step => exact (progress_handler hledger hp h.completed ha).1
  | settle =>
    obtain ⟨t, ht, he⟩ := Option.map_eq_some_iff.mp ha
    cases he
    exact progress_settle hp ht
  | claim picked =>
    simp only [act] at ha
    split at ha
    · split at ha <;> cases ha
      exact progress_deliver _
    · cases ha
  | mark =>
    simp only [act, mark] at ha
    split at ha <;> cases ha <;> exact progress_deliver _
  | markThrows message =>
    obtain ⟨t, ht, he⟩ := Option.map_eq_some_iff.mp ha
    cases he
    cases hl : c.locals w with
    | completing record rest =>
      rw [hl] at ht
      cases ht
      trivial
    | failing record error rest =>
      rw [hl] at ht
      cases ht
      trivial
    | _ =>
      rw [hl] at ht
      cases ht
  | _ =>
    rcases batch_act ha with ⟨picked, he, -⟩ | ⟨-, hmid⟩ | hb | ⟨he, -⟩
    · cases he
    · exact hmid.elim
    · exact progress_of_batch_nil hb
    · cases he

theorem ledger_act {step : OutboxStep} {task' : Task Payload}
    (hp : Progress config c.shared (c.locals w))
    (hledger : ∀ text ∈ c.shared.ledger, ∃ k ∈ c.shared.completed, k.text = text)
    (ha : act config w c.shared (c.locals w) step = some (s', task'))
    (h : RowStep (Transition config c (.act w step)) c.shared s') :
    ∀ text ∈ s'.ledger, ∃ k ∈ s'.completed, k.text = text := by
  rcases act_ledger ha with ⟨index, hstep, rfl⟩ | ⟨hl, hd⟩
  · exact (progress_handler hledger hp h.completed ha).2
  · rw [hl, hd]
    exact hledger

end

theorem deliveryOutline_valid :
    (deliveryOutline config : Program.Outline (OutboxStore Payload) (Task Payload)).Valid
      (program config) fun _ _ => True where
  symm _ _ _ := trivial
  act c w step s task h _ ha := by
    obtain ⟨hkeyed, hledger, hrows⟩ := h.inv
    have hs := act_rowStep hkeyed ha
    obtain ⟨hcopies, hprog⟩ := h.own w
    exact ⟨⟨hs.keyed, ledger_act hprog hledger ha hs, processed_step hrows h.own hs⟩,
      copies_act hcopies ha hs, progress_act hprog hledger ha hs⟩
  others c w step s task h _ ha v _ := by
    have hs := act_rowStep h.inv.1 ha
    obtain ⟨hcopies, hprog⟩ := h.own v
    exact ⟨⟨hcopies.step hs, hprog.mono hs.completed⟩, trivial⟩
  env c m s h _ hm := by
    obtain ⟨hkeyed, hledger, hrows⟩ := h.inv
    have hs := move_rowStep config hkeyed hm
    obtain ⟨hl, hd⟩ := move_ledger hm
    refine ⟨⟨hs.keyed, fun text ht => ?_, processed_step hrows h.own hs⟩,
      fun v => ⟨(h.own v).1.step hs, (h.own v).2.mono hs.completed⟩⟩
    rw [hd]
    exact hledger text (hl ht)

theorem deliveryOutline_init (now : Time) :
    (deliveryOutline config : Program.Outline (OutboxStore Payload) (Task Payload)).Holds
      (init now) where
  inv := by
    refine ⟨?_, by simp [init, OutboxStore.init], by simp [init, OutboxStore.init]⟩
    constructor <;> simp [init, OutboxStore.init]
  own p := ⟨by simp [init, Copies, Task.batch], trivial⟩
  pair _ _ _ := trivial

/-- Whenever a row is marked processed, every handler subscribed to its event type has
completed for its event id: whatever failed, was repeated or was forgotten on the way. -/
theorem processed_all_completed (config : OutboxConfig) (now : Time)
    (is : List (Move OutboxStep (OutboxMove Payload)))
    (c : Pool (OutboxStore Payload) (Task Payload))
    (hrun : (machine config).run (init now) is = some c) :
    ∀ r ∈ c.shared.rows, r.status = .processed →
      ∀ index < config.handlerCount r.eventType,
        (⟨r.eventId, r.eventType, index⟩ : HandlerKey) ∈ c.shared.completed :=
  (deliveryOutline_valid.run (deliveryOutline_init now) hrun).inv.2.2

theorem processed_all_completed_take_over :
    ∃ c, (machine demoConfig).run (init 0) takeOver = some c ∧
      ∀ r ∈ c.shared.rows, r.status = .processed →
        ∀ index < demoConfig.handlerCount r.eventType,
          (⟨r.eventId, r.eventType, index⟩ : HandlerKey) ∈ c.shared.completed := by
  have hsome : ((machine demoConfig).run (init 0) takeOver).isSome := by decide
  obtain ⟨c, hc⟩ := Option.isSome_iff_exists.mp hsome
  exact ⟨c, hc, processed_all_completed demoConfig 0 takeOver c hc⟩

end OutboxProcessor
end OmniSupport.Outbox
