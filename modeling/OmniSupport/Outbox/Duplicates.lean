import OmniSupport.Outbox.Delivery
import OmniSupport.Foundation.Ledger

/-! Repeated side effects. The ledger is looked up and written around a handler in three
separate steps: a delivery that overlaps another one of the same event runs the handler
again, and so does the next delivery when a worker stops before it has recorded. -/
namespace OmniSupport.Outbox
open Foundation

variable {Payload : Type}

/-- Where a delivery stands with handler `k`, if the task is a delivery of its event. -/
def Task.handlerRun (k : HandlerKey) : Task Payload → Option HandlerRun
  | .delivering record runs _ =>
    if record.eventId = k.eventId ∧ record.eventType = k.eventType then runs[k.index]? else none
  | _ => none

def HandlerRun.phase : Option HandlerRun → Ledger.Phase
  | some .running => .running
  | some .ran => .ran
  | _ => .off

namespace OutboxProcessor
open OutboxStore
variable {config : OutboxConfig}

def ledgerState (c : Pool (OutboxStore Payload) (Task Payload)) : Ledger.State HandlerKey where
  phase p k := HandlerRun.phase ((c.locals p).handlerRun k)
  recorded k := k.text ∈ c.shared.ledger
  completed := c.shared.completed

/-- A handler is about to start although another delivery is inside it, or between its
completion and its record. -/
def Overlaps (c : Pool (OutboxStore Payload) (Task Payload)) (p index : Nat) : Prop :=
  ∃ record runs rest, c.locals p = .delivering record runs rest ∧
    (handlerKey record index).text ∉ c.shared.ledger ∧
    ∃ q, (ledgerState c).phase q (handlerKey record index) ≠ .off

/-- The step starts no handler inside another run of it, and stops no delivery between a
completion and its record. -/
def Undisturbed (c : Pool (OutboxStore Payload) (Task Payload)) :
    Move OutboxStep (OutboxMove Payload) → Prop
  | .act p (.handler index .check) => ¬ Overlaps c p index
  | .act _ (.handler _ .recordThrows) => False
  | .act p .crash => ∀ k, (ledgerState c).phase p k ≠ .ran
  | _ => True

/-- The move of the environment that makes the ledger lose an entry. -/
def Forgets : Move OutboxStep (OutboxMove Payload) → Prop
  | .env (.forget _) => True
  | _ => False

section
variable {c : Pool (OutboxStore Payload) (Task Payload)} {s s' : OutboxStore Payload} {p : Nat}

theorem handlerRun_set (record : OutboxEvent Payload) {runs : List HandlerRun}
    (rest : List (OutboxEvent Payload)) {index : Nat} {run : HandlerRun} (run' : HandlerRun)
    (h : runs[index]? = some run) :
    (Task.delivering record (runs.set index run') rest).handlerRun (handlerKey record index) =
        some run' ∧
      ∀ k, k ≠ handlerKey record index →
        (Task.delivering record (runs.set index run') rest).handlerRun k =
          (Task.delivering record runs rest).handlerRun k := by
  constructor
  · simp [Task.handlerRun, handlerKey, (List.getElem?_eq_some_iff.mp h).1]
  · intro k hk
    simp only [Task.handlerRun]
    by_cases he : record.eventId = k.eventId ∧ record.eventType = k.eventType
    · rw [if_pos he, if_pos he]
      refine List.getElem?_set_ne fun hi => hk ?_
      obtain ⟨e, t, i⟩ := k
      obtain ⟨rfl, rfl⟩ := he
      simp only at hi
      rw [hi, handlerKey]
    · rw [if_neg he, if_neg he]

/-- A step of one handler moves the deliverer at that handler's key only. -/
theorem ledgerState_moves (s' : OutboxStore Payload) {record : OutboxEvent Payload}
    {runs : List HandlerRun} {rest : List (OutboxEvent Payload)} {index : Nat} {run : HandlerRun}
    (run' : HandlerRun) (hl : c.locals p = .delivering record runs rest) (h : runs[index]? = some run) :
    Ledger.Moves (ledgerState c)
      (ledgerState (c.put p s' (.delivering record (runs.set index run') rest))) p
      (handlerKey record index) (HandlerRun.phase (some run')) := by
  obtain ⟨hself, hother⟩ := handlerRun_set record rest run' h
  constructor
  · simp only [ledgerState, Pool.put_locals_self, hself]
  · intro q j hne
    simp only [ledgerState]
    by_cases hq : q = p
    · subst q
      rw [Pool.put_locals_self, hl, hother j (hne.resolve_left fun h => h rfl)]
    · rw [c.put_locals_of_ne _ _ hq]

theorem once_handler {index : Nat} {step : HandlerStep} {task' : Task Payload}
    (h : Ledger.Once (ledgerState c)) (hc : Undisturbed c (.act p (.handler index step)))
    (ha : stepHandler c.shared index step (c.locals p) = some (s', task')) :
    Ledger.Once (ledgerState (c.put p s' task')) := by
  obtain ⟨record, runs, rest, run, run', hl, hrun, hone, rfl⟩ := stepHandler_eq_some ha
  have hmoves := ledgerState_moves s' run' hl hrun
  have hphase : (ledgerState c).phase p (handlerKey record index) =
      HandlerRun.phase (some run) := by
    simp [ledgerState, hl, Task.handlerRun, handlerKey, hrun]
  cases run <;> cases step <;> simp only [runOnce, Option.some.injEq, Prod.mk.injEq,
    reduceCtorEq] at hone <;> obtain ⟨rfl, rfl⟩ := hone
  case started.check =>
    by_cases hk : (handlerKey record index).text ∈ c.shared.ledger
    · rw [if_pos hk] at hmoves ⊢
      exact h.record hmoves (fun j => ⟨Or.inl, fun hj => hj.elim id fun he => he ▸ hk⟩) rfl
    · rw [if_neg hk] at hmoves ⊢
      refine h.begin hmoves (fun j => Iff.rfl) rfl hk fun q => ?_
      by_contra hq
      exact hc ⟨record, runs, rest, hl, hk, q, hq⟩
  case running.succeed => exact h.complete hmoves (fun j => Iff.rfl) rfl hphase
  case ran.record =>
    refine h.record hmoves (fun j => ?_) rfl
    simp only [ledgerState, Pool.put_shared, List.mem_cons]
    exact ⟨fun hj => hj.symm.imp_right HandlerKey.text_injective,
      fun hj => hj.symm.imp_left (congrArg HandlerKey.text)⟩
  case ran.recordThrows => exact hc.elim
  all_goals
    refine h.abandon (fun q j => ?_) (fun j => id) rfl
    rcases hmoves.eq_or q j with ⟨rfl, rfl, he⟩ | ⟨-, he⟩
    · exact Or.inr ⟨he, by simp [hphase, HandlerRun.phase]⟩
    · exact Or.inl he

theorem phase_of_not_delivering {task : Task Payload} (k : HandlerKey)
    (h : ∀ record runs rest, task ≠ .delivering record runs rest) :
    HandlerRun.phase (task.handlerRun k) = .off := by
  cases task with
  | delivering record runs rest => exact absurd rfl (h record runs rest)
  | _ => rfl

theorem phase_deliver (records : List (OutboxEvent Payload)) (k : HandlerKey) :
    HandlerRun.phase ((deliver config records).handlerRun k) = .off := by
  cases records with
  | nil => rfl
  | cons record rest =>
    simp only [deliver, Task.handlerRun, List.getElem?_replicate]
    split
    · split <;> rfl
    · rfl

theorem settle_spec {task task' : Task Payload} (h : settle task = some task') :
    (∃ record runs rest, task = .delivering record runs rest ∧
      ∀ r ∈ runs, ∃ ok, r = .settled ok) ∧
    ∀ record runs rest, task' ≠ .delivering record runs rest := by
  cases task with
  | delivering record runs rest =>
    simp only [settle] at h
    split at h
    · cases h
    · rename_i hsettled
      refine ⟨⟨record, runs, rest, rfl, fun r hr => ?_⟩, ?_⟩
      · cases hr' : r with
        | settled ok => exact ⟨ok, rfl⟩
        | _ => exact absurd ⟨r, hr, by simp [hr']⟩ hsettled
      · split at h <;> cases h <;> simp
  | _ => cases h

/-- The steps that neither deliver nor crash start from a task that delivers nothing, or
from a delivery whose handlers have all settled. -/
theorem phase_before {step : OutboxStep} {task task' : Task Payload}
    (hne : ∀ index hstep, step ≠ .handler index hstep) (hcrash : step ≠ .crash)
    (ha : act config p s task step = some (s', task')) (k : HandlerKey) :
    HandlerRun.phase (task.handlerRun k) = .off := by
  cases task with
  | delivering record runs rest =>
    cases step with
    | handler index hstep => exact absurd rfl (hne index hstep)
    | crash => exact absurd rfl hcrash
    | settle =>
      obtain ⟨t, ht, -⟩ := Option.map_eq_some_iff.mp ha
      obtain ⟨⟨record', runs', rest', he, hall⟩, -⟩ := settle_spec ht
      cases he
      simp only [Task.handlerRun]
      split
      · cases hr : runs[k.index]? with
        | none => rfl
        | some r =>
          obtain ⟨ok, rfl⟩ := hall r (List.mem_of_getElem? hr)
          rfl
      · rfl
    | _ => cases ha
  | _ => rfl

theorem phase_after {step : OutboxStep} {task task' : Task Payload}
    (hne : ∀ index hstep, step ≠ .handler index hstep)
    (ha : act config p s task step = some (s', task')) (k : HandlerKey) :
    HandlerRun.phase (task'.handlerRun k) = .off := by
  cases step with
  | handler index hstep => exact absurd rfl (hne index hstep)
  | claim picked =>
    simp only [act] at ha
    split at ha
    · split at ha <;> cases ha
      exact phase_deliver _ k
    · cases ha
  | mark =>
    simp only [act, mark] at ha
    split at ha <;> cases ha <;> exact phase_deliver _ k
  | settle =>
    obtain ⟨t, ht, he⟩ := Option.map_eq_some_iff.mp ha
    cases he
    exact phase_of_not_delivering k (settle_spec ht).2
  | markThrows message =>
    obtain ⟨t, ht, he⟩ := Option.map_eq_some_iff.mp ha
    cases he
    cases task <;> cases ht <;> rfl
  | _ =>
    rcases batch_act ha with ⟨picked, he, -⟩ | ⟨-, hmid⟩ | hb | ⟨he, -⟩
    · cases he
    · exact hmid.elim
    · refine phase_of_not_delivering k fun record runs rest hd => ?_
      rw [hd] at hb
      cases hb
    · cases he

theorem once_act {step : OutboxStep} {task' : Task Payload} (h : Ledger.Once (ledgerState c))
    (hc : Undisturbed c (.act p step))
    (ha : act config p c.shared (c.locals p) step = some (s', task')) :
    Ledger.Once (ledgerState (c.put p s' task')) := by
  rcases act_ledger ha with ⟨index, hstep, rfl⟩ | ⟨hledger, hcompleted⟩
  · exact once_handler h hc ha
  · by_cases hne : ∃ index hstep, step = .handler index hstep
    · obtain ⟨index, hstep, rfl⟩ := hne
      exact once_handler h hc ha
    · have hne' : ∀ index hstep, step ≠ .handler index hstep :=
        fun index hstep he => hne ⟨index, hstep, he⟩
      refine h.abandon (fun q j => ?_) (fun j hj => ?_) hcompleted
      · by_cases hq : q = p
        · subst q
          refine Or.inr ⟨?_, ?_⟩
          · simpa [ledgerState] using phase_after hne' ha j
          · by_cases hcrash : step = .crash
            · subst step
              exact hc j
            · intro hr
              simp [ledgerState, phase_before hne' hcrash ha j] at hr
        · exact Or.inl (by simp only [ledgerState, c.put_locals_of_ne _ _ hq])
      · simpa only [ledgerState, Pool.put_shared, hledger] using hj

theorem once_move {m : OutboxMove Payload} (h : Ledger.Once (ledgerState c))
    (hf : ¬ Forgets (.env m)) (hm : move c.shared m = some s') :
    Ledger.Once (ledgerState { c with shared := s' }) := by
  refine h.abandon (fun q j => Or.inl rfl) (fun j hj => ?_) (move_ledger hm).2
  cases m with
  | forget key => exact absurd trivial hf
  | enqueue id event =>
    simp only [move] at hm
    split at hm <;> cases hm
    unfold OutboxStore.enqueue
    simp only [ledgerState]
    split <;> exact hj
  | _ =>
    cases hm
    exact hj

end

theorem once_init (now : Time) :
    Ledger.Once (ledgerState (init now : Pool (OutboxStore Payload) (Task Payload))) := by
  constructor <;> simp [ledgerState, init, OutboxStore.init, Task.handlerRun, HandlerRun.phase]

/-- As long as the ledger keeps its entries, no handler starts inside another run of it
for the same event, and no delivery stops between a completion and its record, each
handler completes at most once for each event. -/
theorem completed_at_most_once (config : OutboxConfig) (now : Time)
    (is : List (Move OutboxStep (OutboxMove Payload)))
    (c : Pool (OutboxStore Payload) (Task Payload))
    (hrun : (machine config).run (init now) is = some c) (hkeeps : ∀ i ∈ is, ¬ Forgets i)
    (hc : (machine config).Within Undisturbed (init now) is) : c.shared.completed.Nodup := by
  have honce := (machine config).run_preserves_within
    (C := fun c i => Undisturbed c i ∧ ¬ Forgets i) (P := fun c => Ledger.Once (ledgerState c))
    (fun c i c' h hci hs => ?_) (once_init now) (hc.and_labels _ hkeeps) hrun
  · exact honce.nodup
  · cases i with
    | act p step =>
      obtain ⟨s', task', ha, rfl⟩ := (program config).step_act.mp hs
      exact once_act h hci.1 ha
    | env m =>
      obtain ⟨s', hm, rfl⟩ := (program config).step_env.mp hs
      exact once_move h hci.2 hm

section
variable {c c₁ : Pool (OutboxStore Payload) (Task Payload)} {p index : Nat}

theorem succeed_step (config : OutboxConfig) {record : OutboxEvent Payload} {runs : List HandlerRun}
    {rest : List (OutboxEvent Payload)} (hl : c.locals p = .delivering record runs rest)
    (hr : runs[index]? = some .running) :
    ∃ c', (machine config).step c (.act p (.handler index .succeed)) = some c' ∧
      c'.shared.completed = handlerKey record index :: c.shared.completed ∧
      ∀ q, q ≠ p → c'.locals q = c.locals q := by
  have ha : act config p c.shared (c.locals p) (.handler index .succeed) =
      some ({ c.shared with completed := handlerKey record index :: c.shared.completed },
        .delivering record (runs.set index .ran) rest) := by
    simp [act, stepHandler, hl, hr, runOnce]
  exact ⟨_, (program config).step_act.mpr ⟨_, _, ha, rfl⟩, rfl,
    fun q hq => c.put_locals_of_ne _ _ hq⟩

theorem handlerRun_eq_some {task : Task Payload} {k : HandlerKey} {run : HandlerRun}
    (h : task.handlerRun k = some run) :
    ∃ record runs rest, task = .delivering record runs rest ∧ handlerKey record k.index = k ∧
      runs[k.index]? = some run := by
  cases task with
  | delivering record runs rest =>
    simp only [Task.handlerRun] at h
    split at h
    · rename_i he
      refine ⟨record, runs, rest, rfl, ?_, h⟩
      obtain ⟨e, t, i⟩ := k
      obtain ⟨rfl, rfl⟩ := he
      rfl
    · cases h
  | _ => cases h

/-- Where the condition on overlaps fails, the same handler can complete twice: it does
as soon as both deliveries go through. -/
theorem overlap_completes_twice {now : Time} {is : List (Move OutboxStep (OutboxMove Payload))}
    (hrun : (machine config).run (init now) is = some c) (ho : Overlaps c p index)
    (hs : (machine config).step c (.act p (.handler index .check)) = some c₁) :
    ∃ js c', (∀ i ∈ js, ¬ Forgets i) ∧ (machine config).run c₁ js = some c' ∧
      ¬ c'.shared.completed.Nodup := by
  obtain ⟨record, runs, rest, hl, hledger, q, hq⟩ := ho
  obtain ⟨s', task', ha, rfl⟩ := (program config).step_act.mp hs
  obtain ⟨_, _, _, run, run', hl', hrun', hone, rfl⟩ := stepHandler_eq_some ha
  rw [hl] at hl'
  cases hl'
  cases run <;> simp only [runOnce, Option.some.injEq, Prod.mk.injEq, reduceCtorEq] at hone
  obtain ⟨rfl, rfl⟩ := hone
  rw [if_neg hledger]
  have hqp : q ≠ p := by
    rintro rfl
    simp [ledgerState, hl, Task.handlerRun, handlerKey, hrun', HandlerRun.phase] at hq
  obtain ⟨c₂, h₂, hc₂, hother⟩ := succeed_step config
    (Pool.put_locals_self c p c.shared (.delivering record (runs.set index .running) rest))
    (List.getElem?_set_self (List.getElem?_eq_some_iff.mp hrun').1)
  cases hq' : (c.locals q).handlerRun (handlerKey record index) with
  | none => simp [ledgerState, hq', HandlerRun.phase] at hq
  | some runq =>
    obtain ⟨recordq, runsq, restq, hlq, hkey, hrq⟩ := handlerRun_eq_some hq'
    have hprog := ((deliveryOutline_valid.run (deliveryOutline_init now) hrun).own q).2
    rw [hlq] at hprog
    cases runq with
    | running =>
      have hlq₂ : c₂.locals q = .delivering recordq runsq restq := by
        rw [hother q hqp, c.put_locals_of_ne _ _ hqp, hlq]
      obtain ⟨c₃, h₃, hc₃, -⟩ := succeed_step config hlq₂ hrq
      refine ⟨[.act p (.handler index .succeed), .act q (.handler index .succeed)], c₃,
        by simp [Forgets], ?_, ?_⟩
      · exact (Machine.run_cons _).mpr ⟨c₂, h₂, (Machine.run_cons _).mpr ⟨c₃, h₃, rfl⟩⟩
      · rw [hc₃, hc₂, hkey]
        simp
    | ran =>
      have hm : handlerKey record index ∈ c.shared.completed := by
        rw [← hkey]
        exact hprog.2 _ _ hrq trivial
      refine ⟨[.act p (.handler index .succeed)], c₂, by simp [Forgets],
        (Machine.run_cons _).mpr ⟨c₂, h₂, rfl⟩, ?_⟩
      rw [hc₂]
      exact fun hn => (List.nodup_cons.mp hn).1 hm
    | started => simp [ledgerState, hq', HandlerRun.phase] at hq
    | settled ok => simp [ledgerState, hq', HandlerRun.phase] at hq

end

/-- Two workers deliver one event: the first lease expires while the handler runs. -/
def overlappingDeliveries : List (Move OutboxStep (OutboxMove Unit)) :=
  [.env (.enqueue 1 demoEvent), .act 0 .poll, .act 0 (.claim [1]), .act 0 (.handler 0 .check),
    .env (.tick 300001), .act 1 .poll, .act 1 (.claim [1]), .act 1 (.handler 0 .check),
    .act 0 (.handler 0 .succeed), .act 1 (.handler 0 .succeed)]

/-- With a ledger that loses nothing, a handler still completes twice for one event. -/
theorem completed_twice :
    ¬ ∀ (is : List (Move OutboxStep (OutboxMove Unit))) (c : Pool (OutboxStore Unit) (Task Unit)),
      (machine demoConfig).run (init 0) is = some c → (∀ i ∈ is, ¬ Forgets i) →
      c.shared.completed.Nodup := by
  intro h
  have hnodup := h overlappingDeliveries _ rfl (by simp [overlappingDeliveries, Forgets])
  revert hnodup
  decide

/-- A delivery alone in the system, up to its last statement. -/
def loneDelivery : List (Move OutboxStep (OutboxMove Unit)) :=
  [.env (.enqueue 1 demoEvent), .act 0 .poll, .act 0 (.claim [1]), .act 0 (.handler 0 .check),
    .act 0 (.handler 0 .succeed), .act 0 (.handler 0 .record), .act 0 .settle, .act 0 .mark]

theorem loneDelivery_undisturbed :
    (machine demoConfig).Within Undisturbed (init 0) loneDelivery := by
  refine ⟨trivial, fun c₁ h₁ => ⟨trivial, fun c₂ h₂ => ⟨trivial, fun c₃ h₃ => ⟨?_, fun c₄ h₄ =>
    ⟨trivial, fun c₅ h₅ => ⟨trivial, fun c₆ h₆ => ⟨trivial, fun c₇ h₇ => ⟨trivial, fun _ _ =>
      trivial⟩⟩⟩⟩⟩⟩⟩⟩
  cases h₁
  cases h₂
  cases h₃
  rintro ⟨record, runs, rest, hl, -, q, hq⟩
  apply hq
  by_cases h0 : q = 0
  · subst q
    cases hl
    rfl
  · simp [ledgerState, Pool.put, h0, init, Task.handlerRun, HandlerRun.phase]

theorem completed_at_most_once_lone :
    ∃ c, (machine demoConfig).run (init 0) loneDelivery = some c ∧ c.shared.completed.Nodup := by
  have hsome : ((machine demoConfig).run (init 0) loneDelivery).isSome := by decide
  obtain ⟨c, hc⟩ := Option.isSome_iff_exists.mp hsome
  exact ⟨c, hc, completed_at_most_once demoConfig 0 loneDelivery c hc
    (by simp [loneDelivery, Forgets]) loneDelivery_undisturbed⟩

end OutboxProcessor
end OmniSupport.Outbox
