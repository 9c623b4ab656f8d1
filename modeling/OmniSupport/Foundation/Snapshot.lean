import OmniSupport.Foundation.Pool
import Mathlib.Data.List.Chain
import Mathlib.Data.List.Perm.Basic

/-! Calls that read a value, plan a write from the copy they hold, and commit it together
with log entries in one step. Calls that only commit to the value they have read, or write
nothing, are serial: some order of them, one after the other, has the same effect. -/
namespace Foundation

/-- What a call does once it has the value: a write, if it makes one, and log entries. -/
structure Planned (ν ε : Type*) where
  write : Option (ν → ν)
  entries : List ε

def Planned.apply {ν ε : Type*} (planned : Planned ν ε) (value : ν) : ν :=
  match planned.write with
  | some f => f value
  | none => value

/-- Calls `ω` on a value `ν` with a log of entries `ε` that have unique keys `κ`. An
atomic call is a single statement, which plans with the stored value. -/
structure Snapshots (ν ω ε κ : Type*) where
  plan : ω → ν → Option (Planned ν ε)
  key : ε → κ
  atomic : ω → Bool

/-- The stored value and the log, with the values written and the calls committed so far. -/
structure Versioned (ν ω ε : Type*) where
  value : ν
  log : List ε
  versions : List ν
  committed : List ω

inductive SnapshotAction (ω : Type*) where
  | read (op : ω)
  | commit
  | atomically (op : ω)
  | fail

namespace Snapshots
variable {ν ω ε κ : Type*} [DecidableEq κ] (S : Snapshots ν ω ε κ)

/-- The keys of the entries are new, and no two are the same. -/
def NewKeys (entries log : List ε) : Prop :=
  (entries.map S.key).Nodup ∧ ∀ e ∈ entries, ∀ e' ∈ log, S.key e' ≠ S.key e

instance (entries log : List ε) : Decidable (S.NewKeys entries log) :=
  inferInstanceAs (Decidable (_ ∧ _))

def start (value : ν) (log : List ε) : Versioned ν ω ε := ⟨value, log, [value], []⟩

/-- The commit of what a call has planned with its copy. -/
def commit (op : ω) (copy : ν) (s : Versioned ν ω ε) : Option (Versioned ν ω ε) :=
  (S.plan op copy).bind fun planned =>
    if S.NewKeys planned.entries s.log then
      some
        { value := planned.apply s.value
          log := s.log ++ planned.entries
          versions :=
            if planned.write.isSome then s.versions ++ [planned.apply s.value] else s.versions
          committed := s.committed ++ [op] }
    else none

def act (s : Versioned ν ω ε) :
    Option (ω × ν) → SnapshotAction ω → Option (Versioned ν ω ε × Option (ω × ν))
  | none, .read op => if S.atomic op then none else some (s, some (op, s.value))
  | some (op, copy), .commit => (S.commit op copy s).map fun s' => (s', none)
  | none, .atomically op =>
    if S.atomic op then (S.commit op s.value s).map fun s' => (s', none) else none
  | some _, .fail => some (s, none)
  | _, _ => none

/-- Any number of calls at once. -/
def program : Program (Versioned ν ω ε) (Option (ω × ν)) (SnapshotAction ω) Empty where
  act _ := S.act
  env _ e := e.elim

def idle (value : ν) (log : List ε) : Pool (Versioned ν ω ε) (Option (ω × ν)) :=
  ⟨start value log, fun _ => none⟩

/-- The calls one after the other: each plans with the value it finds. -/
def serial : Machine (ν × List ε) ω where
  step s op :=
    (S.plan op s.1).bind fun planned =>
      if S.NewKeys planned.entries s.2 then some (planned.apply s.1, s.2 ++ planned.entries)
      else none

/-- Some serial order of the committed calls leaves the same value and the same entries. -/
def Serializable (value : ν) (log : List ε) (s : Versioned ν ω ε) : Prop :=
  ∃ ops log', ops.Perm s.committed ∧ S.serial.run (value, log) ops = some (s.value, log') ∧
    log'.Perm s.log

/-- A call that commits a write would plan the same with the stored value. -/
def Current (c : Pool (Versioned ν ω ε) (Option (ω × ν)))
    (move : Move (SnapshotAction ω) Empty) : Prop :=
  ∀ p op copy planned, move = .act p .commit → c.locals p = some (op, copy) →
    S.plan op copy = some planned → planned.write.isSome →
      S.plan op c.shared.value = some planned

section serial
variable {S} {v v' : ν} {log log' extra : List ε} {op : ω} {ops : List ω}

theorem serial_step {s' : ν × List ε} :
    S.serial.step (v, log) op = some s' ↔ ∃ planned, S.plan op v = some planned ∧
      S.NewKeys planned.entries log ∧ s' = (planned.apply v, log ++ planned.entries) := by
  simp only [serial, Option.bind_eq_some_iff]
  constructor
  · rintro ⟨planned, hplan, h⟩
    split at h
    · rename_i hnew
      cases h
      exact ⟨planned, hplan, hnew, rfl⟩
    · cases h
  · rintro ⟨planned, hplan, hnew, rfl⟩
    exact ⟨planned, hplan, if_pos hnew⟩

/-- The log of a serial run only grows. -/
theorem serial_log (h : S.serial.run (v, log) ops = some (v', log')) : log ⊆ log' := by
  induction ops generalizing v log with
  | nil =>
    cases h
    exact List.Subset.refl _
  | cons op ops ih =>
    obtain ⟨s, hstep, hrest⟩ := (Machine.run_cons _).mp h
    obtain ⟨planned, -, -, rfl⟩ := serial_step.mp hstep
    exact List.Subset.trans (List.subset_append_left _ _) (ih hrest)

omit [DecidableEq κ] in
theorem NewKeys.of_subset {entries : List ε} (h : S.NewKeys entries log') (hsub : log ⊆ log') :
    S.NewKeys entries log :=
  ⟨h.1, fun e he e' he' => h.2 e he e' (hsub he')⟩

/-- Entries whose keys the run does not use change nothing but the log. -/
theorem serial_extra {logx : List ε} (h : S.serial.run (v, log) ops = some (v', log'))
    (hextra : ∀ e ∈ extra, ∀ e' ∈ log', S.key e' ≠ S.key e) (hperm : logx.Perm (log ++ extra)) :
    ∃ logx', S.serial.run (v, logx) ops = some (v', logx') ∧ logx'.Perm (log' ++ extra) := by
  induction ops generalizing v log logx with
  | nil =>
    cases h
    exact ⟨logx, rfl, hperm⟩
  | cons op ops ih =>
    obtain ⟨s, hstep, hrest⟩ := (Machine.run_cons _).mp h
    obtain ⟨planned, hplan, hnew, rfl⟩ := serial_step.mp hstep
    have hused : planned.entries ⊆ log' :=
      List.Subset.trans (List.subset_append_right _ _) (serial_log hrest)
    have hnewx : S.NewKeys planned.entries logx := by
      refine ⟨hnew.1, fun e he e' he' => ?_⟩
      rcases List.mem_append.mp (hperm.mem_iff.mp he') with hold | hx
      · exact hnew.2 e he e' hold
      · exact (hextra e' hx e (hused he)).symm
    have hswap : (logx ++ planned.entries).Perm ((log ++ planned.entries) ++ extra) := by
      have hfirst := hperm.append_right planned.entries
      have hlast : (log ++ (extra ++ planned.entries)).Perm (log ++ (planned.entries ++ extra)) :=
        List.perm_append_comm.append_left log
      rw [List.append_assoc] at hfirst ⊢
      exact hfirst.trans hlast
    obtain ⟨logx', hrun, hlast⟩ := ih hrest hswap
    refine ⟨logx', (Machine.run_cons _).mpr ⟨_, ?_, hrun⟩, hlast⟩
    exact serial_step.mpr ⟨planned, hplan, hnewx, rfl⟩

end serial

/-- The order `ops` serves the state: it has the same effect, and its values pass through
every version. -/
structure Served (value : ν) (log : List ε) (s : Versioned ν ω ε) (ops : List ω) : Prop where
  perm : ops.Perm s.committed
  run : ∃ log', S.serial.run (value, log) ops = some (s.value, log') ∧ log'.Perm s.log
  passes : ∀ v ∈ s.versions, ∃ before after log₁, ops = before ++ after ∧
    S.serial.run (value, log) before = some (v, log₁)

section served
variable {S} {value copy : ν} {log : List ε} {s s' : Versioned ν ω ε} {op : ω} {ops : List ω}
  {planned : Planned ν ε}

theorem commit_eq_some : S.commit op copy s = some s' ↔ ∃ planned, S.plan op copy = some planned ∧
    S.NewKeys planned.entries s.log ∧
    s' =
      { value := planned.apply s.value
        log := s.log ++ planned.entries
        versions :=
          if planned.write.isSome then s.versions ++ [planned.apply s.value] else s.versions
        committed := s.committed ++ [op] } := by
  simp only [commit, Option.bind_eq_some_iff]
  constructor
  · rintro ⟨planned, hplan, h⟩
    split at h
    · rename_i hnew
      cases h
      exact ⟨planned, hplan, hnew, rfl⟩
    · cases h
  · rintro ⟨planned, hplan, hnew, rfl⟩
    exact ⟨planned, hplan, if_pos hnew⟩

theorem Served.start (value : ν) (log : List ε) :
    S.Served value log (Snapshots.start value log) ([] : List ω) where
  perm := List.Perm.refl _
  run := ⟨log, rfl, List.Perm.refl _⟩
  passes v hv := by
    obtain rfl := List.mem_singleton.mp hv
    exact ⟨[], [], log, rfl, rfl⟩

/-- A call that plans with the stored value comes last. -/
theorem Served.snoc (h : S.Served value log s ops) (hplan : S.plan op s.value = some planned)
    (hcommit : S.commit op s.value s = some s') : S.Served value log s' (ops ++ [op]) := by
  obtain ⟨planned', hplan', hnew, rfl⟩ := commit_eq_some.mp hcommit
  obtain rfl : planned' = planned := Option.some.inj (hplan'.symm.trans hplan)
  obtain ⟨log', hrun, hlog⟩ := h.run
  have hstep : S.serial.step (s.value, log') op =
      some (planned'.apply s.value, log' ++ planned'.entries) :=
    serial_step.mpr ⟨planned', hplan, hnew.of_subset hlog.subset, rfl⟩
  have hlast := (Machine.run_snoc _).mpr ⟨_, hrun, hstep⟩
  refine ⟨h.perm.append_right [op], ⟨_, hlast, hlog.append_right _⟩, fun v hv => ?_⟩
  have hcases : v ∈ s.versions ∨ v = planned'.apply s.value := by
    simp only at hv
    split at hv
    · rcases List.mem_append.mp hv with hold | hnew
      · exact Or.inl hold
      · exact Or.inr (List.mem_singleton.mp hnew)
    · exact Or.inl hv
  rcases hcases with hold | rfl
  · obtain ⟨before, after, log₁, rfl, hbefore⟩ := h.passes v hold
    exact ⟨before, after ++ [op], log₁, List.append_assoc _ _ _, hbefore⟩
  · exact ⟨ops ++ [op], [], _, (List.append_nil _).symm, hlast⟩

/-- A call that writes nothing takes its place where its copy was the stored value. -/
theorem Served.insert (h : S.Served value log s ops) (hcopy : copy ∈ s.versions)
    (hplan : S.plan op copy = some planned) (hwrite : planned.write = none)
    (hcommit : S.commit op copy s = some s') : ∃ ops', S.Served value log s' ops' := by
  obtain ⟨planned', hplan', hnew, rfl⟩ := commit_eq_some.mp hcommit
  obtain rfl : planned' = planned := Option.some.inj (hplan'.symm.trans hplan)
  obtain ⟨before, after, log₁, rfl, hbefore⟩ := h.passes copy hcopy
  obtain ⟨log', hrun, hlog⟩ := h.run
  obtain ⟨mid, hmid, hafter⟩ := (Machine.run_append _).mp hrun
  obtain rfl : (copy, log₁) = mid := Option.some.inj (hbefore.symm.trans hmid)
  have happly : ∀ v, planned'.apply v = v := by simp [Planned.apply, hwrite]
  have hunused : ∀ e ∈ planned'.entries, ∀ e' ∈ log', S.key e' ≠ S.key e :=
    (hnew.of_subset hlog.subset).2
  have hstep : S.serial.step (copy, log₁) op = some (copy, log₁ ++ planned'.entries) :=
    serial_step.mpr ⟨planned', hplan, (hnew.of_subset hlog.subset).of_subset (serial_log hafter),
      by rw [happly]⟩
  obtain ⟨logx, hlast, hlogx⟩ := serial_extra hafter hunused (List.Perm.refl _)
  refine ⟨before ++ op :: after, ?_, ⟨logx, ?_, ?_⟩, fun v hv => ?_⟩
  · have hmiddle : (before ++ op :: after).Perm (op :: (before ++ after)) := List.perm_middle
    exact hmiddle.trans ((h.perm.cons op).trans (List.perm_append_singleton op _).symm)
  · rw [happly]
    exact (Machine.run_append _).mpr ⟨_, hbefore, (Machine.run_cons _).mpr ⟨_, hstep, hlast⟩⟩
  · exact hlogx.trans (hlog.append_right _)
  · have hold : v ∈ s.versions := by simpa [hwrite] using hv
    obtain ⟨before', after', log₂, hsplit, hbefore'⟩ := h.passes v hold
    rcases List.append_eq_append_iff.mp hsplit with ⟨m, rfl, rfl⟩ | ⟨m, rfl, rfl⟩
    · -- the version comes after the place of the call
      obtain ⟨mid, hmid', htail⟩ := (Machine.run_append _).mp hbefore'
      obtain rfl : (copy, log₁) = mid := Option.some.inj (hbefore.symm.trans hmid')
      have hsub : log₂ ⊆ log' := by
        obtain ⟨mid, hm₁, hm₂⟩ := (Machine.run_append _).mp hafter
        obtain rfl : (v, log₂) = mid := Option.some.inj (htail.symm.trans hm₁)
        exact serial_log hm₂
      obtain ⟨logy, hrun', -⟩ := serial_extra htail
        (fun e he e' he' => hunused e he e' (hsub he')) (List.Perm.refl _)
      refine ⟨before ++ op :: m, after', logy, by simp, ?_⟩
      exact (Machine.run_append _).mpr ⟨_, hbefore, (Machine.run_cons _).mpr ⟨_, hstep, hrun'⟩⟩
    · exact ⟨before', m ++ op :: after, log₂, by simp, hbefore'⟩

end served

section outline
variable (value : ν) (log : List ε) (R : ν → ν → Prop) (I : ν → List ε → Prop)

/-- The order, the chain of the versions, and an invariant of the value and the log. -/
structure Kept (s : Versioned ν ω ε) : Prop where
  served : ∃ ops, S.Served value log s ops
  chain : s.versions.IsChain R
  last : s.versions.getLast? = some s.value
  holds : I s.value s.log

/-- Every copy was stored once. -/
def outline : Program.Outline (Versioned ν ω ε) (Option (ω × ν)) where
  inv := S.Kept value log R I
  own _ l s := ∀ op copy, l = some (op, copy) → copy ∈ s.versions
  pair _ _ := True

variable {S value log R I}
  (hR : ∀ op v planned f, S.plan op v = some planned → planned.write = some f → R v (f v))
  (hI : ∀ op v planned f log, S.plan op v = some planned → planned.write = some f → I v log →
    I (f v) (log ++ planned.entries))
  (hlog : ∀ op copy planned v log, S.plan op copy = some planned → planned.write = none →
    I v log → I v (log ++ planned.entries))
include hR hI hlog

/-- A commit to the value the call has planned with, or without a write. -/
theorem Kept.commit {s s' : Versioned ν ω ε} {op : ω} {copy : ν} (h : S.Kept value log R I s)
    (hcopy : copy ∈ s.versions)
    (hcurrent : ∀ planned, S.plan op copy = some planned → planned.write.isSome →
      S.plan op s.value = some planned)
    (hcommit : S.commit op copy s = some s') :
    S.Kept value log R I s' ∧ s.versions ⊆ s'.versions := by
  obtain ⟨ops, hops⟩ := h.served
  obtain ⟨planned, hplan, hnew, hs'⟩ := commit_eq_some.mp hcommit
  cases hwrite : planned.write with
  | none =>
    have hserved := hops.insert hcopy hplan hwrite hcommit
    subst hs'
    simp only [hwrite, Option.isSome_none, Planned.apply] at hserved ⊢
    exact ⟨⟨hserved, h.chain, h.last, hlog op copy planned _ _ hplan hwrite h.holds⟩,
      List.Subset.refl _⟩
  | some f =>
    have hstored := hcurrent planned hplan (by simp [hwrite])
    have hserved := hops.snoc hstored (commit_eq_some.mpr ⟨planned, hstored, hnew, hs'⟩)
    subst hs'
    simp only [hwrite, Option.isSome_some, Planned.apply, if_true] at hserved ⊢
    refine ⟨⟨⟨_, hserved⟩, ?_, List.getLast?_concat, ?_⟩, List.subset_append_left _ _⟩
    · refine List.isChain_append.mpr ⟨h.chain, List.isChain_singleton _, fun x hx y hy => ?_⟩
      obtain rfl : s.value = x := Option.some.inj (h.last.symm.trans hx)
      obtain rfl : f s.value = y := by simpa using hy
      exact hR op s.value planned f hstored hwrite
    · exact hI op s.value planned f s.log hstored hwrite h.holds

/-- A step keeps the annotation, and every version stays one. -/
theorem Kept.act {s s' : Versioned ν ω ε} {l l' : Option (ω × ν)} {a : SnapshotAction ω}
    (h : S.Kept value log R I s) (hown : ∀ op copy, l = some (op, copy) → copy ∈ s.versions)
    (hcurrent : a = .commit → ∀ op copy planned, l = some (op, copy) →
      S.plan op copy = some planned → planned.write.isSome → S.plan op s.value = some planned)
    (ha : S.act s l a = some (s', l')) :
    S.Kept value log R I s' ∧ s.versions ⊆ s'.versions ∧
      ∀ op copy, l' = some (op, copy) → copy ∈ s'.versions := by
  have hidle : ∀ op copy, (none : Option (ω × ν)) = some (op, copy) → copy ∈ s'.versions := by
    intro op copy hnone
    cases hnone
  cases l with
  | none =>
    cases a with
    | read op =>
      simp only [Snapshots.act] at ha
      split at ha <;> cases ha
      refine ⟨h, List.Subset.refl _, fun op copy hread => ?_⟩
      cases hread
      exact List.mem_of_getLast? h.last
    | atomically op =>
      simp only [Snapshots.act] at ha
      split at ha
      · obtain ⟨s₁, hcommit, heq⟩ := Option.map_eq_some_iff.mp ha
        cases heq
        obtain ⟨hkept, hsub⟩ := h.commit hR hI hlog (List.mem_of_getLast? h.last)
          (fun _ hplan _ => hplan) hcommit
        exact ⟨hkept, hsub, hidle⟩
      · cases ha
    | commit | fail => cases ha
  | some call =>
    obtain ⟨op, copy⟩ := call
    cases a with
    | commit =>
      obtain ⟨s₁, hcommit, heq⟩ := Option.map_eq_some_iff.mp ha
      cases heq
      obtain ⟨hkept, hsub⟩ := h.commit hR hI hlog (hown op copy rfl)
        (fun planned => hcurrent rfl op copy planned rfl) hcommit
      exact ⟨hkept, hsub, hidle⟩
    | fail =>
      cases ha
      exact ⟨h, List.Subset.refl _, hidle⟩
    | read op' | atomically op' => cases ha

theorem outline_valid : (S.outline value log R I).Valid S.program S.Current where
  symm _ _ _ := trivial
  act c p a s l h hc ha := by
    have hcurrent := fun hcommit op copy planned => hc p op copy planned (congrArg _ hcommit)
    obtain ⟨hkept, -, hown⟩ := h.inv.act hR hI hlog (h.own p) hcurrent ha
    exact ⟨hkept, hown⟩
  others c p a s l h hc ha q hq := by
    have hcurrent := fun hcommit op copy planned => hc p op copy planned (congrArg _ hcommit)
    obtain ⟨-, hsub, -⟩ := h.inv.act hR hI hlog (h.own p) hcurrent ha
    exact ⟨fun op copy hcall => hsub (h.own q op copy hcall), trivial⟩
  env c e := e.elim

/-- The rule for calls on one value: a serial order, a chain of versions and an invariant. -/
theorem run_kept {c : Pool (Versioned ν ω ε) (Option (ω × ν))}
    {moves : List (Move (SnapshotAction ω) Empty)} (hstart : I value log)
    (hcurrent : S.program.machine.Within S.Current (idle value log) moves)
    (hrun : S.program.machine.run (idle value log) moves = some c) :
    S.Kept value log R I c.shared := by
  have hholds : (S.outline value log R I).Holds (idle value log) := by
    refine ⟨⟨⟨[], .start value log⟩, List.isChain_singleton _, rfl, hstart⟩, fun p => ?_,
      fun _ _ _ => trivial⟩
    intro op copy hnone
    cases hnone
  exact ((outline_valid hR hI hlog).run_within hholds hcurrent hrun).inv

end outline
end Snapshots
end Foundation
