import OmniSupport.Foundation.History

/-! A read-through cache of one value over the data it is computed from. A read returns the
entry while it lives, and otherwise computes the value and stores it; a write may drop it. -/
namespace Foundation

/-- `context` and `source` say where and from what the value was computed. No step reads
them. -/
structure CacheEntry (σ κ α : Type) where
  value : α
  expiresAt : Nat
  context : κ
  source : σ

structure Cached (σ κ α : Type) where
  data : σ
  entry : Option (CacheEntry σ κ α)
  time : Nat

inductive CacheLabel (ι κ : Type) where
  | write (i : ι)
  | read (context : κ) (storedAt : Nat)

/-- A write leads to new data, unless it is not enabled, and says whether it drops the
entry. The value depends on the context of the read, which has its instant. -/
structure ReadThrough (σ ι κ α : Type) where
  write : σ → ι → Option (σ × Bool)
  compute : κ → σ → α
  now : κ → Nat
  ttl : Nat

namespace ReadThrough
variable {σ ι κ α : Type} (r : ReadThrough σ ι κ α)

def start (data : σ) : Cached σ κ α := ⟨data, none, 0⟩

def live (c : Cached σ κ α) (context : κ) : Option (CacheEntry σ κ α) :=
  c.entry.filter fun e => r.now context < e.expiresAt

def answer (c : Cached σ κ α) (context : κ) : α :=
  match r.live c context with
  | some e => e.value
  | none => r.compute context c.data

/-- A read ends at `storedAt`, where a computed value has been stored. -/
def afterRead (c : Cached σ κ α) (context : κ) (storedAt : Nat) : Cached σ κ α :=
  match r.live c context with
  | some _ => { c with time := storedAt }
  | none =>
    { c with
      entry := some ⟨r.compute context c.data, storedAt + r.ttl, context, c.data⟩
      time := storedAt }

def machine : Machine (Cached σ κ α) (CacheLabel ι κ) where
  step c
    | .write i => (r.write c.data i).map fun written =>
      { c with data := written.1, entry := if written.2 then none else c.entry }
    | .read context storedAt =>
      if c.time ≤ r.now context ∧ r.now context ≤ storedAt then
        some (r.afterRead c context storedAt)
      else none

/-- The entry is what its context and its source give, and the data has come from the source
by writes that keep the entry. -/
structure Derived (Kept : σ → σ → Prop) (c : Cached σ κ α) : Prop where
  value : ∀ e, c.entry = some e → e.value = r.compute e.context e.source
  kept : ∀ e, c.entry = some e → Kept e.source c.data
  earlier : ∀ e, c.entry = some e → r.now e.context ≤ c.time

/-- What a write that keeps the entry does to the data. -/
structure Keeping (Kept : σ → σ → Prop) : Prop where
  refl : ∀ s, Kept s s
  write : ∀ s₀ s i s', Kept s₀ s → r.write s i = some (s', false) → Kept s₀ s'

variable {r} {Kept : σ → σ → Prop} {c c' : Cached σ κ α} {context : κ}

theorem live_some {e : CacheEntry σ κ α} (h : r.live c context = some e) :
    c.entry = some e ∧ r.now context < e.expiresAt := by
  have hfilter := Option.filter_eq_some_iff.mp h
  exact ⟨hfilter.1, of_decide_eq_true hfilter.2⟩

theorem derived_start (data : σ) : r.Derived Kept (start data) := by
  constructor <;> simp [start]

theorem derived_afterRead (hkeeping : r.Keeping Kept) (h : r.Derived Kept c) {storedAt : Nat}
    (htime : c.time ≤ r.now context) (hstored : r.now context ≤ storedAt) :
    r.Derived Kept (r.afterRead c context storedAt) := by
  unfold afterRead
  cases r.live c context with
  | some _ =>
    refine ⟨h.value, h.kept, fun e he => ?_⟩
    exact Nat.le_trans (h.earlier e he) (Nat.le_trans htime hstored)
  | none =>
    constructor
    · rintro e ⟨⟩
      rfl
    · rintro e ⟨⟩
      exact hkeeping.refl c.data
    · rintro e ⟨⟩
      exact hstored

theorem derived_step (hkeeping : r.Keeping Kept) {i : CacheLabel ι κ} (h : r.Derived Kept c)
    (hs : r.machine.step c i = some c') : r.Derived Kept c' := by
  cases i with
  | read context storedAt =>
    simp only [machine] at hs
    split at hs
    · rename_i htimes
      cases hs
      exact derived_afterRead hkeeping h htimes.1 htimes.2
    · cases hs
  | write i =>
    obtain ⟨⟨data, drops⟩, hwrite, rfl⟩ := Option.map_eq_some_iff.mp hs
    cases drops with
    | true => constructor <;> simp
    | false =>
      exact ⟨h.value, fun e he => hkeeping.write _ _ i _ (h.kept e he) hwrite, h.earlier⟩

theorem derived_run (hkeeping : r.Keeping Kept) {data : σ} {is : List (CacheLabel ι κ)}
    (hr : r.machine.run (start data) is = some c) : r.Derived Kept c := by
  have hstep : ∀ c i c', r.Derived Kept c → r.machine.step c i = some c' → r.Derived Kept c' :=
    fun _ _ _ h hs => derived_step hkeeping h hs
  exact r.machine.run_preserves hstep (derived_start data) hr

/-- A read answers what the live entry's context and source give, or computes its answer. -/
theorem answer_cases (h : r.Derived Kept c) (context : κ) :
    (r.live c context = none ∧ r.answer c context = r.compute context c.data) ∨
      ∃ e, r.live c context = some e ∧ r.answer c context = r.compute e.context e.source ∧
        Kept e.source c.data ∧ r.now e.context ≤ c.time := by
  unfold answer
  cases hlive : r.live c context with
  | none => exact .inl ⟨rfl, rfl⟩
  | some e =>
    obtain ⟨hentry, -⟩ := live_some hlive
    exact .inr ⟨e, rfl, h.value e hentry, h.kept e hentry, h.earlier e hentry⟩

end ReadThrough
end Foundation
