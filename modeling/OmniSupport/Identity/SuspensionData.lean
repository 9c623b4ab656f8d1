import OmniSupport.Foundation.Commits
import OmniSupport.Foundation.History
import OmniSupport.Identity.AccountChange
import OmniSupport.Identity.TenantUpdates

/-! What a tenant's row says of its suspension over a history of updates, suspensions, restores,
cancellations and clean-ups. -/
namespace OmniSupport.Identity
open Foundation Foundation.Effect Database

inductive TenantCommand where
  | updateTenant (command : UpdateTenantCommand)
  | suspendTenant (command : SuspendTenantCommand)
  | restoreTenant (command : TenantService.RestoreTenantCommand)

namespace TenantCommand

def tenantId : TenantCommand → Uuid
  | .updateTenant command => command.tenantId
  | .suspendTenant command => command.tenantId
  | .restoreTenant command => command.tenantId

def program (sessionRevoker : Bool) : TenantCommand → ServiceM Unit
  | .updateTenant command => TenantService.updateTenant command
  | .suspendTenant command => TenantService.suspendTenant sessionRevoker command
  | .restoreTenant command => TenantService.restoreTenant command

/-- The entity a command saves, made of the row it has found. -/
def entity (env : ServiceEnv) (row : Tenant) : TenantCommand → Except AppError TenantEntity
  | .updateTenant command => .ok (TenantService.updatedTenant command row)
  | .suspendTenant command =>
    (TenantEntity.reconstitute row).suspend (env.clock 0) (env.header 1) command.reason
  | .restoreTenant _ => .ok (TenantEntity.reconstitute row).activate

/-- Since when the tenant is suspended after the command. -/
def suspension (env : ServiceEnv) (current : Option Time) : TenantCommand → Option Time
  | .updateTenant _ => current
  | .suspendTenant _ => some (env.clock 0)
  | .restoreTenant _ => none

end TenantCommand

structure TenantCall where
  command : TenantCommand
  sessionRevoker : Bool
  env : ServiceEnv
  faults : Nat → Fault

namespace TenantCall

def run (call : TenantCall) (s : Store) : World Store ServiceCall :=
  ((call.command.program call.sessionRevoker).run call.env call.faults (World.start s)).2

/-- The transaction of the update commits. -/
def saves (call : TenantCall) (s : Store) : Prop := (call.run s).commits = 1

instance (call : TenantCall) (s : Store) : Decidable (call.saves s) :=
  inferInstanceAs (Decidable (_ = _))

end TenantCall

/-- `cancel` stands for whatever cancels a tenant: no service does. -/
inductive TenantMove where
  | call (call : TenantCall)
  | cancel (id : Uuid)
  | cleanUp (env : ServiceEnv) (faults : Nat → Fault)

/-- The store, and beside it since when each tenant is suspended, which no step reads. -/
structure TenantHistory where
  store : Store
  suspensions : Uuid → Option Time

def cleanedUp (env : ServiceEnv) (faults : Nat → Fault) (s : Store) : Store :=
  (tenantCleanup.run env faults (World.start s)).2.committed

def tenantHistory : Machine TenantHistory TenantMove where
  step s
    | .call call =>
      let id := call.command.tenantId
      some
        { store := (call.run s.store).committed
          suspensions :=
            if call.saves s.store then
              Function.update s.suspensions id
                (call.command.suspension call.env (s.suspensions id))
            else s.suspensions }
    | .cancel id =>
      some { s with store := s.store.updateTenant id fun row => { row with status := .cancelled } }
    | .cleanUp env faults => some { s with store := cleanedUp env faults s.store }

/-- The suspensions the rows tell of. -/
def TenantHistory.initial (s : Store) : TenantHistory :=
  ⟨s, fun id => (s.findTenant id).bind Tenant.suspendedAt⟩

abbrev TenantStep := Machine.Step TenantHistory TenantMove

/-- `findById` returns the suspension data of the entity the call has saved. -/
def ReadsBack (step : TenantStep) : Prop :=
  ∀ call, step.label = .call call → call.saves step.before.store →
    ∃ row entity stored, step.before.store.findTenant call.command.tenantId = some row ∧
      call.command.entity call.env row = .ok entity ∧
      step.after.store.findTenant call.command.tenantId = some stored ∧
      stored.suspendedAt = entity.row.suspendedAt ∧
      stored.suspendedReason = entity.row.suspendedReason

/-- The clean-up deletes cancelled tenants only, whose current suspension is past retention. -/
def SparesTenants (step : TenantStep) : Prop :=
  ∀ env faults, step.label = .cleanUp env faults →
    ∀ tenant ∈ step.before.store.tenants, tenant ∉ step.after.store.tenants →
      tenant.status = .cancelled ∧ ∃ suspendedAt,
        step.before.suspensions tenant.id = some suspendedAt ∧
          suspendedAt + retention < env.clock 1

/-- The awaited calls of `restoreTenant` up to the commit. -/
def restoreStages : List Effect.Stage := [.strict, .strict, .strict, .strict]

/-- A restore that the database carries out, of a tenant whose row holds suspension data. -/
def RestoresOver (s : TenantHistory) (move : TenantMove) : Prop :=
  ∃ call command row, move = .call call ∧ call.command = .restoreTenant command ∧
    s.store.findTenant command.tenantId = some row ∧ ¬ s.store.domainTaken row ∧
    Passes call.faults 0 restoreStages ∧
    (row.suspendedAt.isSome ∨ row.suspendedReason.isSome)

section calls
variable {env : ServiceEnv} {faults : Nat → Fault} {d : Nat} {s : Store} {α : Type}

/-- What the update of a tenant leaves in the table. -/
def SavedAs (s : Store) (row entity : Tenant) (t : Store) : Prop :=
  ∃ now, t.tenants = (s.updateTenant row.id
    (Tenant.write now (TenantRepository.withStoredFlags (some row) entity))).tenants

theorem frames_auditCreate (entry : Time → AuditLog) :
    Frames Store.tenants (AuditRepository.create entry) := by
  refine (frames_draw _).bind fun _ => (frames_call fun s a s' h => ?_).rethrow
  cases h
  rfl

theorem frames_toRows (events : List DomainEvent) :
    Frames Store.tenants (OutboxPublisher.toRows events) := by
  induction events with
  | nil => exact frames_pure _
  | cons event rest ih =>
    exact (((frames_draw _).bind fun _ => (frames_draw _).bind fun _ => frames_pure _)).bind
      fun _ => ih.bind fun _ => frames_pure _

theorem frames_publishAll (events : List DomainEvent) :
    Frames Store.tenants (OutboxPublisher.publishAll events) := by
  unfold OutboxPublisher.publishAll
  split
  · exact frames_pure _
  · refine (frames_toRows events).bind fun rows => frames_call fun s a s' h => ?_
    cases h
    obtain ⟨outbox, hrows⟩ := enqueueMany_outbox (s := s) rows
    rw [hrows]

theorem frames_withRevoker (sessionRevoker : Bool) (tenantId : Uuid) (reason : String) :
    Frames Store.tenants
      (withRevoker sessionRevoker (SessionRevoker.revokeAllTenantTokens tenantId reason)) := by
  cases sessionRevoker with
  | false => exact frames_pure _
  | true =>
    refine (frames_draw _).bind fun _ => frames_call fun s a s' h => ?_
    cases h
    rfl

theorem findTenant_id {id : Uuid} {row : Tenant} (h : s.findTenant id = some row) : row.id = id := by
  simpa using List.find?_some h

/-- The update writes the row it finds under the entity's id. -/
theorem yields_tenantUpdateLocked {row entity updated : Tenant} {d' : Nat} {s' : Store}
    (hrow : s.findTenant entity.id = some row)
    (h : Yields env d s (TenantRepository.updateLocked entity) updated d' s') :
    ¬ s.domainTaken entity ∧ SavedAs s row entity s' := by
  obtain ⟨current, d₁, s₁, hread, hbody⟩ := yields_bind (inside_read _ _ _) h
  obtain ⟨rfl, -, rfl⟩ := yields_read hread
  obtain ⟨time, d₂, s₂, hdraw, hwrite⟩ := yields_bind (inside_draw _) hbody
  obtain ⟨-, -, rfl⟩ := yields_draw hdraw
  obtain ⟨hcall, -⟩ := yields_call hwrite
  have hid : row.id = entity.id := findTenant_id hrow
  have hfound : s₂.findTenant (TenantRepository.withStoredFlags
      (s₂.findTenant entity.id) entity).id = some row := hrow
  simp only [TenantRepository.updateRow, hfound] at hcall
  split at hcall
  · cases hcall
  · rename_i hfree
    cases hcall
    refine ⟨hfree, time, ?_⟩
    rw [hrow, hid]
    rfl

theorem saves_update {row entity : Tenant} {f : Tenant → ServiceM α}
    (hrow : s.findTenant entity.id = some row) (hf : ∀ r, Frames Store.tenants (f r)) :
    Saves Store.tenants env d s (fun t => ¬ s.domainTaken entity ∧ SavedAs s row entity t)
      (TenantRepository.update entity >>= f) := by
  refine saves_transaction_bind (inside_tenantUpdateLocked entity) hf fun a d' s' t hy ht => ?_
  obtain ⟨hfree, now, hsaved⟩ := yields_tenantUpdateLocked hrow hy
  exact ⟨hfree, now, ht.trans hsaved⟩

theorem saves_requireNewDomain {domain current : Option String} {Q : Store → Prop}
    {g : Unit → ServiceM α} (h : ∀ d, Saves Store.tenants env d s Q (g ())) :
    Saves Store.tenants env d s Q (TenantService.requireNewDomain domain current >>= g) := by
  unfold TenantService.requireNewDomain TenantService.requireFreeDomain
  split
  · exact h d
  · cases domain with
    | none => exact h d
    | some name =>
      simp only
      split
      · exact h d
      · rw [bind_assoc]
        exact saves_read_bind (saves_lift_bind fun _ _ => h d)

/-- A command saves the entity made of the row it has found, or saves nothing. -/
def SavesEntity (env : ServiceEnv) (s : Store) (command : TenantCommand) (t : Store) : Prop :=
  ∃ row entity, s.findTenant command.tenantId = some row ∧ command.entity env row = .ok entity ∧
    entity.row.id = row.id ∧ ¬ s.domainTaken entity.row ∧ SavedAs s row entity.row t

theorem saves_command (sessionRevoker : Bool) (command : TenantCommand) :
    Saves Store.tenants env 0 s (SavesEntity env s command) (command.program sessionRevoker) := by
  have hsaves : ∀ {row : Tenant} {entity : TenantEntity} {d : Nat} {f : Tenant → ServiceM Unit},
      s.findTenant command.tenantId = some row → command.entity env row = .ok entity →
      entity.row.id = row.id → (∀ r, Frames Store.tenants (f r)) →
      Saves Store.tenants env d s (SavesEntity env s command)
        (TenantRepository.update entity.row >>= f) := by
    intro row entity d f hrow hentity hid hf
    have hfound : s.findTenant entity.row.id = some row := by
      rw [hid, findTenant_id hrow]
      exact hrow
    intro faults w hw hd hs
    rcases saves_update hfound hf faults w hw hd hs with hsame | ⟨hcommits, hfree, hsaved⟩
    · exact .inl hsame
    · exact .inr ⟨hcommits, row, entity, hrow, hentity, hid, hfree, hsaved⟩
  cases command with
  | updateTenant command =>
    refine saves_read_bind (saves_lift_bind fun row hrow => ?_)
    exact saves_requireNewDomain fun d => hsaves (orThrow_ok hrow) rfl rfl
      fun _ => frames_auditCreate _
  | suspendTenant command =>
    refine saves_read_bind (saves_lift_bind fun row hrow => ?_)
    refine saves_draw_bind (saves_draw_bind (saves_lift_bind fun suspended hsuspended => ?_))
    have hid : suspended.row.id = row.id := by rw [suspend_ok hsuspended]
    exact hsaves (orThrow_ok hrow) hsuspended hid fun _ =>
      (frames_withRevoker _ _ _).bind fun _ => (frames_auditCreate _).bind fun _ =>
        frames_publishAll _
  | restoreTenant command =>
    refine saves_read_bind (saves_lift_bind fun row hrow => ?_)
    exact hsaves (orThrow_ok hrow) rfl rfl fun _ => frames_auditCreate _

/-- A call either commits once and saves its entity, or commits nothing. -/
theorem call_cases (call : TenantCall) (s : Store) :
    (¬ call.saves s ∧ (call.run s).committed.tenants = s.tenants) ∨
      (call.saves s ∧ SavesEntity call.env s call.command (call.run s).committed) := by
  rcases saves_command call.sessionRevoker call.command call.faults (World.start s) rfl rfl rfl with
    ⟨hcommits, hpart⟩ | ⟨hcommits, hsaved⟩
  · refine .inl ⟨fun h => ?_, hpart⟩
    have hzero : (call.run s).commits = 0 := hcommits
    rw [TenantCall.saves, hzero] at h
    cases h
  · exact .inr ⟨hcommits, hsaved⟩

/-- A restore of a stored tenant saves it when its statements pass, and only then. -/
theorem restore_saves_iff {call : TenantCall} {command : TenantService.RestoreTenantCommand}
    {row : Tenant} (hcommand : call.command = .restoreTenant command)
    (hrow : s.findTenant command.tenantId = some row) (hfree : ¬ s.domainTaken row) :
    call.saves s ↔ Passes call.faults 0 restoreStages := by
  have hfound : s.findTenant (TenantEntity.reconstitute row).activate.row.id = some row := by
    rw [← findTenant_id hrow] at hrow
    exact hrow
  have hcommits : Effect.Commits Store.tenants call.faults call.env 0 0 s restoreStages
      (TenantService.restoreTenant command) fun _ => True := by
    refine commits_read_bind (commits_lift_bind (by rw [hrow]; rfl) ?_)
    exact commits_transaction_bind (inside_tenantUpdateLocked _)
      (sequence_tenantUpdateLocked hfound hfree) (fun _ => frames_auditCreate _)
      fun _ _ _ _ _ _ => trivial
  rw [TenantCall.saves, TenantCall.run, hcommand]
  rcases hcommits (World.start s) (at_start s) with ⟨hno, hzero, -⟩ | ⟨hyes, hone, -⟩
  · refine iff_of_false (fun h => ?_) hno
    have hcontra := hzero.symm.trans h
    cases hcontra
  · exact iff_of_true hone hyes

end calls

section rows
variable {env : ServiceEnv} {s t : Store} {row entity : Tenant}

/-- After the update, `findById` returns the suspension data of the entity, or where that has
none what the row had before. -/
theorem SavedAs.stored (h : SavedAs s row entity t) (hrow : s.findTenant row.id = some row) :
    ∃ stored, t.findTenant row.id = some stored ∧
      stored.suspendedAt = entity.suspendedAt.or row.suspendedAt ∧
      stored.suspendedReason = entity.suspendedReason.or row.suspendedReason := by
  obtain ⟨now, htenants⟩ := h
  have hid : ∀ r : Tenant,
      (Tenant.write now (TenantRepository.withStoredFlags (some row) entity) r).id = r.id :=
    fun _ => rfl
  have hstored : t.findTenant row.id =
      some (Tenant.write now (TenantRepository.withStoredFlags (some row) entity) row) := by
    rw [Store.findTenant, htenants]
    refine (Table.find?_updateMany hid).trans ?_
    rw [Store.findTenant] at hrow
    rw [hrow]
    simp
  exact ⟨_, hstored, rfl, rfl⟩

/-- The rows of other tenants stay as they are. -/
theorem SavedAs.rows (h : SavedAs s row entity t) (hkeys : (s.tenants.map Tenant.id).Nodup)
    (hrow : row ∈ s.tenants) {tenant : Tenant} (htenant : tenant ∈ t.tenants) :
    (tenant.id = row.id ∧ tenant.suspendedAt = entity.suspendedAt.or row.suspendedAt) ∨
      (tenant.id ≠ row.id ∧ tenant ∈ s.tenants) := by
  obtain ⟨now, htenants⟩ := h
  rw [htenants] at htenant
  rcases Table.mem_updateMany.mp htenant with ⟨row', hmem, hid, rfl⟩ | ⟨hmem, hid⟩
  · obtain rfl : row' = row := List.inj_on_of_nodup_map hkeys hmem hrow hid
    exact .inl ⟨rfl, rfl⟩
  · exact .inr ⟨hid, hmem⟩

theorem SavedAs.ids (h : SavedAs s row entity t) :
    t.tenants.map Tenant.id = s.tenants.map Tenant.id := by
  obtain ⟨now, htenants⟩ := h
  rw [htenants]
  exact Table.map_updateMany fun _ => rfl

/-- The clean-up takes away tenants it has found cancelled and past retention. -/
def CleansUp (now : Time) (s t : Store) : Prop :=
  ∃ gone : List Uuid, t.tenants = s.tenants.filter (fun tenant => tenant.id ∉ gone) ∧
    ∀ id ∈ gone, ∃ tenant ∈ s.tenants, tenant.id = id ∧ tenant.status = .cancelled ∧
      pastRetention now tenant = true

theorem CleansUp.refl (now : Time) (s : Store) : CleansUp now s s :=
  ⟨[], by simp, fun _ h => by cases h⟩

theorem CleansUp.delete {now : Time} (h : CleansUp now s t) {tenant : Tenant}
    (htenant : tenant ∈ s.tenants) (hcancelled : tenant.status = .cancelled)
    (hpast : pastRetention now tenant = true) : CleansUp now s (t.deleteTenant tenant.id) := by
  obtain ⟨gone, htenants, hgone⟩ := h
  refine ⟨tenant.id :: gone, ?_, fun id hid => ?_⟩
  · have hdelete : (t.deleteTenant tenant.id).tenants =
        Table.deleteMany (fun row => row.id = tenant.id) t.tenants := rfl
    rw [hdelete, Table.deleteMany, htenants, List.filter_filter]
    refine List.filter_congr fun row _ => ?_
    simp
  · rcases List.mem_cons.mp hid with rfl | hid
    · exact ⟨tenant, htenant, rfl, hcancelled, hpast⟩
    · exact hgone id hid

theorem cleanedUp_spec (env : ServiceEnv) (faults : Nat → Fault) (s : Store) :
    CleansUp (env.clock 1) s (cleanedUp env faults s) := by
  have hstart := CleansUp.refl (env.clock 1) s
  have hends : Ends env 0 s (fun _ _ => CleansUp (env.clock 1) s) (CleansUp (env.clock 1) s)
      tenantCleanup := by
    refine Ends.bind (answers_findPage.ends.mono (fun _ _ _ h => h) fun s' h => ?_) ?_
    · rw [h]
      exact hstart
    rintro tenants d₁ s₁ ⟨hpage, rfl, rfl⟩
    cases hpage
    refine ends_draw_bind (ends_forEach (fun tenant hmem d₂ s₂ hs₂ => ?_) hstart)
    obtain ⟨hstored, hcancelled⟩ := List.mem_filter.mp (mem_pageOf hmem)
    by_cases hpast : pastRetention (env.clock 1) tenant = true
    · rw [if_pos hpast]
      refine ends_call (fun u s₃ hdelete => ?_) hs₂
      split at hdelete
      · cases hdelete
      · cases hdelete
        exact hs₂.delete hstored (of_decide_eq_true hcancelled) hpast
    · rw [if_neg hpast]
      exact ends_pure hs₂
  exact hends.leaves faults

end rows

/-- The ids are keys, and every row tells the suspension of its tenant. -/
structure Tracked (s : TenantHistory) : Prop where
  keys : (s.store.tenants.map Tenant.id).Nodup
  follows : ∀ tenant ∈ s.store.tenants, tenant.suspendedAt = s.suspensions tenant.id

section steps
variable {s s' : TenantHistory} {move : TenantMove}

theorem tracked_initial {s : Store} (hkeys : (s.tenants.map Tenant.id).Nodup) :
    Tracked (.initial s) := by
  refine ⟨hkeys, fun tenant htenant => ?_⟩
  have hfound : s.findTenant tenant.id = some tenant := Table.find?_of_mem hkeys htenant
  simp [TenantHistory.initial, hfound]

/-- The data of an entity that is no restored one is what its row comes to hold. -/
theorem entity_suspension {command : TenantCommand} {env : ServiceEnv} {row : Tenant}
    {entity : TenantEntity} (hentity : command.entity env row = .ok entity)
    (hkept : (∀ restore, command ≠ .restoreTenant restore) ∨
      (row.suspendedAt = none ∧ row.suspendedReason = none)) :
    entity.row.suspendedAt.or row.suspendedAt = entity.row.suspendedAt ∧
      entity.row.suspendedReason.or row.suspendedReason = entity.row.suspendedReason := by
  cases command with
  | updateTenant command =>
    cases hentity
    exact ⟨Option.or_self, Option.or_self⟩
  | suspendTenant command =>
    rw [suspend_ok hentity]
    exact ⟨rfl, rfl⟩
  | restoreTenant command =>
    rcases hkept with hno | ⟨hat, hreason⟩
    · exact absurd rfl (hno command)
    · cases hentity
      rw [hat, hreason]
      exact ⟨rfl, rfl⟩

/-- Outside of a restore over old data, the data the saved row holds is the entity's. -/
theorem saved_suspension {call : TenantCall} {row : Tenant} {entity : TenantEntity}
    (hok : ¬ RestoresOver s (.call call)) (hsaves : call.saves s.store)
    (hrow : s.store.findTenant call.command.tenantId = some row)
    (hentity : call.command.entity call.env row = .ok entity)
    (hfree : ¬ s.store.domainTaken entity.row) :
    entity.row.suspendedAt.or row.suspendedAt = entity.row.suspendedAt ∧
      entity.row.suspendedReason.or row.suspendedReason = entity.row.suspendedReason := by
  refine entity_suspension hentity ?_
  by_cases hrestore : ∃ restore, call.command = .restoreTenant restore
  · obtain ⟨restore, hcommand⟩ := hrestore
    rw [hcommand] at hrow hentity
    cases hentity
    have hpasses := (restore_saves_iff hcommand hrow hfree).mp hsaves
    refine .inr ⟨?_, ?_⟩
    · by_contra hat
      exact hok ⟨call, restore, row, rfl, hcommand, hrow, hfree, hpasses,
        .inl (Option.isSome_iff_ne_none.mpr hat)⟩
    · by_contra hreason
      exact hok ⟨call, restore, row, rfl, hcommand, hrow, hfree, hpasses,
        .inr (Option.isSome_iff_ne_none.mpr hreason)⟩
  · exact .inl fun restore hcommand => hrestore ⟨restore, hcommand⟩

/-- The ghost follows the entity's data. -/
theorem suspension_entity {command : TenantCommand} {env : ServiceEnv} {row : Tenant}
    {entity : TenantEntity} (hentity : command.entity env row = .ok entity) :
    command.suspension env row.suspendedAt = entity.row.suspendedAt := by
  cases command with
  | updateTenant command =>
    cases hentity
    rfl
  | suspendTenant command =>
    rw [suspend_ok hentity]
    rfl
  | restoreTenant command =>
    cases hentity
    rfl

theorem tracked_call {call : TenantCall} (h : Tracked s) (hok : ¬ RestoresOver s (.call call))
    (hs : tenantHistory.step s (.call call) = some s') : Tracked s' := by
  cases hs
  rcases call_cases call s.store with ⟨hno, htenants⟩ | ⟨hsaves, row, entity, hrow, hentity, hid,
    hfree, hsaved⟩
  · simp only [if_neg hno]
    exact ⟨htenants ▸ h.keys, htenants ▸ h.follows⟩
  · have hmem : row ∈ s.store.tenants := List.mem_of_find?_eq_some hrow
    obtain ⟨hat, -⟩ := saved_suspension hok hsaves hrow hentity hfree
    simp only [if_pos hsaves]
    refine ⟨hsaved.ids ▸ h.keys, fun tenant htenant => ?_⟩
    rcases hsaved.rows h.keys hmem htenant with ⟨hsame, hdata⟩ | ⟨hother, hold⟩
    · rw [hdata, hat, ← suspension_entity hentity, h.follows row hmem, hsame, findTenant_id hrow]
      have hself := Function.update_self call.command.tenantId
        (call.command.suspension call.env (s.suspensions call.command.tenantId)) s.suspensions
      exact hself.symm
    · rw [findTenant_id hrow] at hother
      exact (h.follows tenant hold).trans (Function.update_of_ne hother _ _).symm

theorem tracked_step (h : Tracked s) (hok : ¬ RestoresOver s move)
    (hs : tenantHistory.step s move = some s') : Tracked s' := by
  cases move with
  | call call => exact tracked_call h hok hs
  | cancel id =>
    cases hs
    refine ⟨?_, fun tenant htenant => ?_⟩
    · have hids : (s.store.updateTenant id fun row => { row with status := .cancelled }).tenants.map
          Tenant.id = s.store.tenants.map Tenant.id := Table.map_updateMany fun _ => rfl
      exact hids ▸ h.keys
    · rcases Table.mem_updateMany.mp htenant with ⟨row, hmem, -, rfl⟩ | ⟨hmem, -⟩
      · exact h.follows row hmem
      · exact h.follows tenant hmem
  | cleanUp env faults =>
    cases hs
    obtain ⟨gone, htenants, -⟩ := cleanedUp_spec env faults s.store
    refine ⟨?_, fun tenant htenant => ?_⟩
    · rw [htenants]
      exact h.keys.sublist (List.filter_sublist.map Tenant.id)
    · rw [htenants] at htenant
      exact h.follows tenant (List.mem_filter.mp htenant).1

theorem readsBack_iff (hs : tenantHistory.step s move = some s') :
    ReadsBack ⟨s, move, s'⟩ ↔ ¬ RestoresOver s move := by
  constructor
  · rintro hreads ⟨call, command, row, rfl, hcommand, hrow, hfree, hpasses, hdata⟩
    have hsaves := (restore_saves_iff hcommand hrow hfree).mpr hpasses
    obtain ⟨row', entity, stored, hrow', hentity, hstored, hat, hreason⟩ := hreads call rfl hsaves
    rw [hcommand] at hrow' hentity hstored
    obtain rfl : row = row' := Option.some.inj (hrow.symm.trans hrow')
    cases hentity
    rcases call_cases call s.store with ⟨hno, -⟩ | ⟨-, row', entity, hrow', hentity, hid, -, hsaved⟩
    · exact hno hsaves
    rw [hcommand] at hrow' hentity
    obtain rfl : row = row' := Option.some.inj (hrow.symm.trans hrow')
    cases hentity
    have hid : command.tenantId = row.id := (findTenant_id hrow).symm
    obtain ⟨stored', hstored', hat', hreason'⟩ := hsaved.stored (hid ▸ hrow)
    cases hs
    have hsame : stored = stored' := by
      have hfound : (call.run s.store).committed.findTenant row.id = some stored := hid ▸ hstored
      exact Option.some.inj (hfound.symm.trans hstored')
    rw [← hsame, hat] at hat'
    rw [← hsame, hreason] at hreason'
    have hnone : row.suspendedAt = none := hat'.symm
    have hnone' : row.suspendedReason = none := hreason'.symm
    rw [hnone, hnone'] at hdata
    simp at hdata
  · rintro hok call rfl hsaves
    cases hs
    rcases call_cases call s.store with ⟨hno, -⟩ | ⟨-, row, entity, hrow, hentity, hid, hfree, hsaved⟩
    · exact absurd hsaves hno
    have hkey : call.command.tenantId = row.id := (findTenant_id hrow).symm
    obtain ⟨stored, hstored, hat, hreason⟩ := hsaved.stored (hkey ▸ hrow)
    obtain ⟨hsameAt, hsameReason⟩ := saved_suspension hok hsaves hrow hentity hfree
    exact ⟨row, entity, stored, hrow, hentity, hkey ▸ hstored, hat.trans hsameAt,
      hreason.trans hsameReason⟩

theorem Tracked.spares (h : Tracked s) (hs : tenantHistory.step s move = some s') :
    SparesTenants ⟨s, move, s'⟩ := by
  rintro env faults rfl tenant htenant hgone
  cases hs
  obtain ⟨gone, htenants, hall⟩ := cleanedUp_spec env faults s.store
  have hid : tenant.id ∈ gone := by
    by_contra hno
    refine hgone ?_
    rw [htenants]
    exact List.mem_filter.mpr ⟨htenant, decide_eq_true hno⟩
  obtain ⟨tenant', htenant', hid', hcancelled, hpast⟩ := hall tenant.id hid
  obtain rfl : tenant' = tenant := List.inj_on_of_nodup_map h.keys htenant' htenant hid'
  obtain ⟨suspendedAt, hat, hpast⟩ := (Option.any_eq_true _ _).mp hpast
  exact ⟨hcancelled, suspendedAt, (h.follows _ htenant).symm.trans hat, of_decide_eq_true hpast⟩

end steps

/-- Suspension data follows every tenant, and the clean-up respects it, in exactly the histories
in which no restore is carried out on a row that holds suspension data. -/
theorem suspension_data_follows_iff (s : Store) (hkeys : (s.tenants.map Tenant.id).Nodup)
    (moves : List TenantMove) (t : TenantHistory)
    (hrun : tenantHistory.run (.initial s) moves = some t) :
    (∀ step ∈ tenantHistory.history (.initial s) moves, ReadsBack step ∧ SparesTenants step) ↔
      ∀ step ∈ tenantHistory.history (.initial s) moves, ¬ RestoresOver step.before step.label := by
  constructor
  · intro h step hstep
    obtain ⟨_, _, -, -, hs, -⟩ := tenantHistory.split_of_mem_history hrun hstep
    exact (readsBack_iff hs).mp (h step hstep).1
  · intro h
    have hwithin : tenantHistory.Within (fun s move => ¬ RestoresOver s move) (.initial s) moves :=
      (tenantHistory.within_iff_history hrun).mpr h
    refine tenantHistory.history_forall_within (I := Tracked) (fun s move s' hs hok hstep => ?_)
      (tracked_initial hkeys) hwithin hrun
    exact ⟨tracked_step hs hok hstep, (readsBack_iff hstep).mpr hok, hs.spares hstep⟩

section demo

def activeTenant : Tenant := { (default : Tenant) with id := 1, status := .active }

def tenantStore : Store where
  tickets := []
  comments := []
  customers := []
  tenants := [activeTenant]
  users := []
  refreshTokens := []
  sequences := []
  activities := []
  audits := []
  outbox := []

/-- A call whose clock stands still and whose statements all succeed. -/
def callAt (time : Time) (command : TenantCommand) : TenantMove :=
  .call ⟨command, false, { sampleEnv with clock := fun _ => time }, fun _ => .none⟩

def cleanUpAt (time : Time) : TenantMove :=
  .cleanUp { sampleEnv with clock := fun _ => time } fun _ => .none

def suspendOne : TenantCommand := .suspendTenant ⟨1, .user 7, .platformAdmin, "unpaid"⟩

def restoreOne : TenantCommand := .restoreTenant ⟨1, .user 7, .platformAdmin⟩

/-- The tenant is restored a day after its suspension and cancelled much later. -/
def restoredAndCancelled : List TenantMove :=
  [callAt 0 suspendOne, callAt 86400000 restoreOne, .cancel 1, cleanUpAt (retention + 1)]

/-- The same, but the restored tenant was cancelled while suspended. -/
def cancelledSuspended : List TenantMove :=
  [callAt 0 suspendOne, .cancel 1, cleanUpAt retention, cleanUpAt (retention + 1)]

theorem restoresOver_demo : ∃ s, tenantHistory.run (.initial tenantStore) [callAt 0 suspendOne] =
    some s ∧ RestoresOver s (callAt 86400000 restoreOne) := by
  refine ⟨_, rfl, _, _, _, rfl, rfl, rfl, ?_, ?_, ?_⟩
  · decide
  · decide
  · exact .inl (by decide)

end demo

/-- `findById` still returns the old suspension after the restore, and the clean-up deletes the
tenant, which is not suspended any more. -/
theorem restored_tenant_deleted :
    ∃ t, tenantHistory.run (.initial tenantStore) restoredAndCancelled = some t ∧
      (¬ ∀ step ∈ tenantHistory.history (.initial tenantStore) restoredAndCancelled,
        ReadsBack step) ∧
      ¬ ∀ step ∈ tenantHistory.history (.initial tenantStore) restoredAndCancelled,
        SparesTenants step := by
  refine ⟨_, rfl, fun hreads => ?_, fun hspares => ?_⟩
  · obtain ⟨s, hs, hover⟩ := restoresOver_demo
    have hstep : ∃ s', tenantHistory.step s (callAt 86400000 restoreOne) = some s' := ⟨_, rfl⟩
    obtain ⟨s', hs'⟩ := hstep
    have hread := hreads _ (tenantHistory.mem_history hs hs')
    exact (readsBack_iff hs').mp hread hover
  · have hcancelled : ∃ s, tenantHistory.run (.initial tenantStore)
        [callAt 0 suspendOne, callAt 86400000 restoreOne, .cancel 1] = some s ∧
          (∃ tenant ∈ s.store.tenants, tenant.id = 1) ∧ s.suspensions 1 = none ∧
          ∃ s', tenantHistory.step s (cleanUpAt (retention + 1)) = some s' ∧
            s'.store.tenants = [] := by
      exact ⟨_, rfl, by decide, rfl, _, rfl, by decide +kernel⟩
    obtain ⟨s, hs, ⟨tenant, htenant, hid⟩, hghost, s', hs', hempty⟩ := hcancelled
    have hgone : tenant ∉ s'.store.tenants := by simp [hempty]
    have hspared := hspares _ (tenantHistory.mem_history hs hs')
    obtain ⟨-, suspendedAt, hat, -⟩ := hspared _ _ rfl tenant htenant hgone
    have hsome : s.suspensions tenant.id = some suspendedAt := hat
    rw [hid, hghost] at hsome
    cases hsome

/-- A tenant that was cancelled while suspended goes when the retention is over, not before. -/
theorem suspension_data_follows_iff_suspended :
    ∃ t, tenantHistory.run (.initial tenantStore) cancelledSuspended = some t ∧
      ((∀ step ∈ tenantHistory.history (.initial tenantStore) cancelledSuspended,
        ReadsBack step ∧ SparesTenants step) ↔
        ∀ step ∈ tenantHistory.history (.initial tenantStore) cancelledSuspended,
          ¬ RestoresOver step.before step.label) :=
  ⟨_, rfl, suspension_data_follows_iff tenantStore (by decide) cancelledSuspended _ rfl⟩

end OmniSupport.Identity
