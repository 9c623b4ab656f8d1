import OmniSupport.Auth.InvitationSingleUse
import OmniSupport.Foundation.Rows
import OmniSupport.Identity.StaffCalls

/-! The staff limit of a tenant under any number of calls that change its staff. An acceptance
counts the staff in its transaction, but locks nothing; the other calls do not count at all. -/
namespace OmniSupport.Identity
open Foundation Database Auth ReadCommitted AccountStatement

inductive StaffCall where
  | accept (input : AcceptInput)
  | setActive (input : SetActiveInput)
  | remove (input : RemoveInput)
  | changeRole (sessionRevoker : Bool) (dto : ChangeRoleDto)

def staffScript (crypto : AuthCrypto) : StaffCall → AccountScript
  | .accept input => InvitationCalls.accept crypto input
  | .setActive input => .after (StaffCalls.setActive input) fun _ => .done
  | .remove input => StaffCalls.remove input
  | .changeRole sessionRevoker dto =>
    .after (StaffCalls.changeRole sessionRevoker dto) fun _ => .done

def staffPool (crypto : AuthCrypto) : Program (Server Store AccountStatement AccountKey)
    (Caller ServiceEnv Store AccountStatement AppError StaffCall)
    (Process.Turn ServiceEnv StaffCall) Empty :=
  ReadCommitted.pool accountStatements accountLocking (staffScript crypto)

section seats
variable (tenantId : Uuid)

/-- An active account of the tenant that is an agent or a manager. -/
def isActiveStaff (user : User) : Prop :=
  user.tenantId = some tenantId ∧ (user.role = .agent ∨ user.role = .tenantManager) ∧
    user.status = .active

instance (user : User) : Decidable (isActiveStaff tenantId user) :=
  inferInstanceAs (Decidable (_ ∧ _))

/-- An acceptance writes an active account of the tenant that is staff. -/
def joins : AccountStatement → Prop
  | .joinTenant _ invitation .. =>
    invitation.tenantId = tenantId ∧ (invitation.role = .agent ∨ invitation.role = .tenantManager)
  | .createUser row => isActiveStaff tenantId row
  | _ => False

instance : DecidablePred (joins tenantId)
  | .joinTenant _ invitation .. =>
    inferInstanceAs (Decidable (invitation.tenantId = tenantId ∧ _))
  | .createUser row => inferInstanceAs (Decidable (isActiveStaff tenantId row))
  | .find .. | .countStaff _ | .claimInvitation .. | .revokeInvitation .. | .renewInvitation ..
  | .createInvitation _ | .deleteOAuthAccounts _ | .revokeTokens .. | .linkCustomer _
  | .setStatus .. | .reassignTickets .. | .reassignCustomers .. | .deleteMemberships ..
  | .removeUser .. | .updateUser .. | .audit _ | .enqueue _ => isFalse id

/-- `setActive` or `changeRole` makes an account active staff that was not. -/
def raises (s : Store) : AccountStatement → Prop
  | .setStatus id active _ => active = true ∧ ∃ row ∈ s.users, row.id = id ∧
    ¬ isActiveStaff tenantId row ∧ row.tenantId = some tenantId ∧
      (row.role = .agent ∨ row.role = .tenantManager)
  | .updateUser _ user => isActiveStaff tenantId user ∧
    ∃ row ∈ s.users, row.id = user.id ∧ ¬ isActiveStaff tenantId row
  | _ => False

instance (s : Store) : DecidablePred (raises tenantId s)
  | .setStatus _ active _ => inferInstanceAs (Decidable (active = true ∧ ∃ row ∈ s.users, _))
  | .updateUser _ user =>
    inferInstanceAs (Decidable (isActiveStaff tenantId user ∧ ∃ row ∈ s.users, _))
  | .find .. | .countStaff _ | .claimInvitation .. | .revokeInvitation .. | .renewInvitation ..
  | .createInvitation _ | .deleteOAuthAccounts _ | .revokeTokens .. | .joinTenant ..
  | .createUser _ | .linkCustomer _ | .reassignTickets .. | .reassignCustomers ..
  | .deleteMemberships .. | .removeUser .. | .audit _ | .enqueue _ => isFalse id

/-- The process has counted the staff of the tenant in a transaction that is still open. -/
def hasCounted : Standing ServiceEnv Store AccountStatement AppError → Prop
  | .outside _ => False
  | .inside buffer _ _ => .countStaff tenantId ∈ buffer

abbrev StaffPool :=
  ReadCommitted.Pool ServiceEnv Store AccountStatement AccountKey AppError StaffCall

/-- What the code does not check. A call that counts nothing takes a free seat, and nobody
takes the last one while another call has counted and not committed. -/
def SeatsFree (limit : Nat) (c : StaffPool) : Move (Process.Turn ServiceEnv StaffCall) Empty → Prop
  | .act p a =>
    ((∃ st ∈ committing (c.locals p).standing a, raises tenantId c.shared.store st) →
      c.shared.store.activeStaff tenantId < limit) ∧
    ((∃ st ∈ committing (c.locals p).standing a,
        raises tenantId c.shared.store st ∨ joins tenantId st) →
      ∀ q, q ≠ p → hasCounted tenantId (c.locals q).standing →
        c.shared.store.activeStaff tenantId + 1 < limit)
  | .env _ => True

end seats

section statements
variable {tenantId : Uuid} {s s' : Store} {st : AccountStatement}

theorem activeStaff_updateUser_le {id : Uuid} {f : User → User}
    (h : ∀ row ∈ s.users, row.id = id → isActiveStaff tenantId (f row) →
      isActiveStaff tenantId row) :
    (s.updateUser id f).activeStaff tenantId ≤ s.activeStaff tenantId :=
  Table.count_updateMany_le_of_mem h

theorem activeStaff_updateUser_le_succ {id : Uuid} {f : User → User}
    (hkeys : (s.users.map User.id).Nodup) :
    (s.updateUser id f).activeStaff tenantId ≤ s.activeStaff tenantId + 1 :=
  Table.count_updateMany_le_succ hkeys fun _ hid => hid

theorem activeStaff_insertUser {row : User} : (s.insertUser row).activeStaff tenantId =
    s.activeStaff tenantId + if isActiveStaff tenantId row then 1 else 0 := by
  have hsplit : (s.insertUser row).activeStaff tenantId = s.activeStaff tenantId +
      Table.count (isActiveStaff tenantId) [row] := Table.count_append _ _
  rw [hsplit, Table.count_singleton]

/-- A statement makes one account active staff at most, and none unless it raises or joins. -/
theorem activeStaff_exec (hkeys : (s.users.map User.id).Nodup) (h : exec st s = .ok s') :
    s'.activeStaff tenantId ≤ s.activeStaff tenantId + 1 ∧
      (¬ raises tenantId s st → ¬ joins tenantId st →
        s'.activeStaff tenantId ≤ s.activeStaff tenantId) := by
  have hsame : s'.users = s.users → s'.activeStaff tenantId ≤ s.activeStaff tenantId + 1 ∧
      (¬ raises tenantId s st → ¬ joins tenantId st →
        s'.activeStaff tenantId ≤ s.activeStaff tenantId) := by
    intro husers
    simp only [Store.activeStaff, husers]
    exact ⟨Nat.le_succ _, fun _ _ => Nat.le_refl _⟩
  cases st with
  | find | countStaff | deleteOAuthAccounts | revokeTokens | reassignTickets | reassignCustomers
  | deleteMemberships | audit =>
    cases h
    exact hsame rfl
  | enqueue rows =>
    cases h
    obtain ⟨outbox, hrows⟩ := enqueueMany_outbox (s := s) rows
    have husers : (s.enqueueMany rows).users = s.users := by rw [hrows]
    exact hsame husers
  | claimInvitation | revokeInvitation | renewInvitation | createInvitation | linkCustomer =>
    simp only [exec] at h
    split at h <;> cases h
    exact hsame rfl
  | joinTenant userId invitation passwordHash verifiedAt writtenAt =>
    simp only [exec] at h
    split at h <;> cases h
    refine ⟨activeStaff_updateUser_le_succ hkeys, fun _ hjoins => ?_⟩
    refine activeStaff_updateUser_le fun row _ _ hstaff => absurd ?_ hjoins
    exact ⟨Option.some.inj hstaff.1, hstaff.2.1⟩
  | createUser row =>
    simp only [exec] at h
    split at h <;> cases h
    rw [activeStaff_insertUser]
    refine ⟨by split <;> omega, fun _ hjoins => ?_⟩
    have hnot : ¬ isActiveStaff tenantId row := hjoins
    simp [hnot]
  | setStatus id active writtenAt =>
    obtain ⟨rfl, -⟩ := updateOne_ok h
    refine ⟨activeStaff_updateUser_le_succ hkeys, fun hraises _ => ?_⟩
    refine activeStaff_updateUser_le fun row hrow hid hstaff => ?_
    by_contra hnot
    have hactive : active = true := by
      by_contra hinactive
      have hstatus := hstaff.2.2
      simp [StaffLifecycleService.withStatus, StaffLifecycleService.statusFor, hinactive] at hstatus
    exact hraises ⟨hactive, row, hrow, hid, hnot, hstaff.1, hstaff.2.1⟩
  | removeUser userId removedAt writtenAt =>
    obtain ⟨rfl, -⟩ := updateOne_ok h
    refine ⟨activeStaff_updateUser_le_succ hkeys, fun _ _ => ?_⟩
    refine activeStaff_updateUser_le fun row _ _ hstaff => ?_
    have hstatus := hstaff.2.2
    simp [StaffLifecycleService.removed] at hstatus
  | updateUser writtenAt user =>
    rw [updateRow_ok h]
    refine ⟨activeStaff_updateUser_le_succ hkeys, fun hraises _ => ?_⟩
    refine activeStaff_updateUser_le fun row hrow hid hstaff => ?_
    by_contra hnot
    exact hraises ⟨hstaff, row, hrow, hid, hnot⟩

/-- Accounts keep their ids, a new one has a new id, and the tenants stay as they are. -/
structure SameTenants (s s' : Store) : Prop where
  keys : (s.users.map User.id).Nodup → (s'.users.map User.id).Nodup
  tenants : s'.tenants = s.tenants

theorem sameTenants_of_users (husers : s'.users = s.users) (htenants : s'.tenants = s.tenants) :
    SameTenants s s' :=
  ⟨fun h => by rw [husers]; exact h, htenants⟩

theorem sameTenants_updateUser {id : Uuid} {f : User → User} (hid : ∀ row, (f row).id = row.id) :
    SameTenants s (s.updateUser id f) where
  keys h := by
    have hids : (s.updateUser id f).users.map User.id = s.users.map User.id :=
      Table.map_updateMany hid
    rw [hids]
    exact h
  tenants := rfl

theorem sameTenants_exec (h : exec st s = .ok s') : SameTenants s s' := by
  cases st with
  | find | countStaff | deleteOAuthAccounts | revokeTokens | reassignTickets | reassignCustomers
  | deleteMemberships | audit =>
    cases h
    exact sameTenants_of_users rfl rfl
  | enqueue rows =>
    cases h
    obtain ⟨outbox, hrows⟩ := enqueueMany_outbox (s := s) rows
    rw [hrows]
    exact sameTenants_of_users rfl rfl
  | claimInvitation | revokeInvitation | renewInvitation | createInvitation | linkCustomer =>
    simp only [exec] at h
    split at h <;> cases h
    exact sameTenants_of_users rfl rfl
  | joinTenant =>
    simp only [exec] at h
    split at h <;> cases h
    exact sameTenants_updateUser fun _ => rfl
  | createUser row =>
    simp only [exec] at h
    split at h
    · rename_i hnew
      cases h
      exact ⟨fun hkeys => Table.nodup_insert hkeys fun r hr => (hnew.1 r hr).1, rfl⟩
    · cases h
  | setStatus | removeUser =>
    obtain ⟨rfl, -⟩ := updateOne_ok h
    exact sameTenants_updateUser fun _ => rfl
  | updateUser =>
    rw [updateRow_ok h]
    exact sameTenants_updateUser fun _ => rfl

end statements

/-- How far a transaction is: it has written no account, has counted the staff besides, or has
written one. -/
inductive Stage where
  | clean
  | counted (staff : Nat)
  | written

def writesAccount : AccountStatement → Bool
  | .joinTenant .. | .createUser _ | .removeUser .. => true
  | _ => false

section stages
variable (tenantId : Uuid) (limit : Nat)

/-- An account joins the tenant as staff only after a count below the limit. -/
def nextStage : Stage → AccountStatement → Store → Option Stage
  | .clean, .countStaff counted, s =>
    some (if counted = tenantId then .counted (s.activeStaff tenantId) else .clean)
  | stage, .countStaff counted, _ => if counted = tenantId then none else some stage
  | stage, st, _ =>
    if writesAccount st then
      if joins tenantId st then
        match stage with
        | .counted staff => if staff < limit then some .written else none
        | _ => none
      else some .written
    else some stage

/-- What the statements of an open transaction and the committed store say at a stage. -/
def AtStage (buffer : List AccountStatement) (s : Store) : Stage → Prop
  | .clean => ∀ st ∈ buffer, writesAccount st = false
  | .counted staff => (∀ st ∈ buffer, writesAccount st = false) ∧ .countStaff tenantId ∈ buffer ∧
      (staff < limit → s.activeStaff tenantId < limit)
  | .written => (∀ st ∈ buffer, ¬ joins tenantId st) ∨
      .countStaff tenantId ∈ buffer ∧ s.activeStaff tenantId < limit ∧
        buffer.countP (fun st => joins tenantId st) ≤ 1

variable {tenantId limit} {buffer : List AccountStatement} {s s' : Store} {st : AccountStatement}
  {stage stage' : Stage}

theorem joins_writesAccount (h : joins tenantId st) : writesAccount st = true := by
  cases st <;> first | rfl | exact h.elim

theorem users_exec_of_writes (hst : transactional st) (hwrites : writesAccount st = false)
    (h : exec st s = .ok s') : s'.users = s.users := by
  cases st with
  | find | countStaff | deleteOAuthAccounts | revokeTokens | reassignTickets | reassignCustomers
  | deleteMemberships =>
    cases h
    rfl
  | claimInvitation | linkCustomer =>
    simp only [exec] at h
    split at h <;> cases h
    rfl
  | joinTenant | createUser | removeUser => cases hwrites
  | revokeInvitation | renewInvitation | createInvitation | setStatus | updateUser | audit
  | enqueue => exact hst.elim

/-- Before the transaction writes an account, it sees the committed ones. -/
theorem activeStaff_effects_of_writes (hV : ∀ st ∈ buffer, transactional st)
    (hwrites : ∀ st ∈ buffer, writesAccount st = false)
    (h : Admitted accountStatements buffer s) :
    (effects accountStatements buffer s).activeStaff tenantId = s.activeStaff tenantId := by
  have husers : (effects accountStatements buffer s).users = s.users := by
    refine effects_keep (P := fun t => t.users = s.users)
      (V := fun st => transactional st ∧ writesAccount st = false) ?_
      (fun st hst => ⟨hV st hst, hwrites st hst⟩) h rfl
    intro st t t' ht hst hexec
    exact (users_exec_of_writes hst.1 hst.2 hexec).trans ht
  simp only [Store.activeStaff, husers]

/-- A transaction adds as many active staff as it joins. -/
theorem activeStaff_effects_le (hV : ∀ st ∈ buffer, transactional st)
    (h : Admitted accountStatements buffer s) (hkeys : (s.users.map User.id).Nodup) :
    (effects accountStatements buffer s).activeStaff tenantId ≤
      s.activeStaff tenantId + buffer.countP fun st => joins tenantId st := by
  induction buffer generalizing s with
  | nil => exact Nat.le_refl _
  | cons st rest ih =>
    obtain ⟨⟨s₁, hexec⟩, hrest⟩ := h
    rw [effect_of_exec hexec] at hrest
    have hst : transactional st := hV st List.mem_cons_self
    have hraises : ¬ raises tenantId s st := by
      cases st <;> first | exact fun h => h | exact hst.elim
    have hone : s₁.activeStaff tenantId ≤ s.activeStaff tenantId + 1 ∧
        (¬ raises tenantId s st → ¬ joins tenantId st →
          s₁.activeStaff tenantId ≤ s.activeStaff tenantId) := activeStaff_exec hkeys hexec
    have htail := ih (fun st' h' => hV st' (List.mem_cons_of_mem _ h')) hrest
      ((sameTenants_exec hexec).keys hkeys)
    have hsplit : effects accountStatements (st :: rest) s = effects accountStatements rest s₁ := by
      rw [← effect_of_exec hexec]
      rfl
    rw [hsplit, List.countP_cons]
    by_cases hjoins : joins tenantId st
    · simp only [hjoins, decide_true, if_true]
      omega
    · have hle := hone.2 hraises hjoins
      simp only [hjoins, decide_false, Bool.false_eq_true, if_false]
      omega

theorem AtStage.countP_le (h : AtStage tenantId limit buffer s stage)
    (hs : s.activeStaff tenantId ≤ limit) :
    s.activeStaff tenantId + buffer.countP (fun st => joins tenantId st) ≤ limit ∧
      buffer.countP (fun st => joins tenantId st) ≤ 1 := by
  have hnone : (∀ st ∈ buffer, ¬ joins tenantId st) →
      buffer.countP (fun st => joins tenantId st) = 0 := fun hnot => by
    simpa [List.countP_eq_zero] using hnot
  have hclean : (∀ st ∈ buffer, writesAccount st = false) →
      buffer.countP (fun st => joins tenantId st) = 0 := fun hwrites => hnone fun st hst hjoins => by
    have hwritten := joins_writesAccount hjoins
    rw [hwrites st hst] at hwritten
    cases hwritten
  cases stage with
  | clean =>
    rw [hclean h]
    omega
  | counted staff =>
    rw [hclean h.1]
    omega
  | written =>
    rcases h with hnot | ⟨-, hlt, hone⟩
    · rw [hnone hnot]
      omega
    · omega

/-- A statement that neither counts nor writes accounts. -/
def silent : AccountStatement → Prop
  | .countStaff _ | .joinTenant .. | .createUser _ | .removeUser .. => False
  | _ => True

theorem nextStage_of_silent (h : silent st) : nextStage tenantId limit stage st s = some stage := by
  cases st with
  | countStaff | joinTenant | createUser | removeUser => exact h.elim
  | _ => cases stage <;> rfl

/-- What others commit does not matter before the count, and after it only at the limit. -/
theorem AtStage.of_commit (h : AtStage tenantId limit buffer s stage)
    (hcount : .countStaff tenantId ∈ buffer → s.activeStaff tenantId < limit →
      s'.activeStaff tenantId < limit) : AtStage tenantId limit buffer s' stage := by
  cases stage with
  | clean => exact h
  | counted staff => exact ⟨h.1, h.2.1, fun hlt => hcount h.2.1 (h.2.2 hlt)⟩
  | written =>
    rcases h with hnot | ⟨hmem, hlt, hone⟩
    · exact .inl hnot
    · exact .inr ⟨hmem, hcount hmem hlt, hone⟩

theorem AtStage.silent (h : AtStage tenantId limit buffer s stage)
    (hwrites : writesAccount st = false) : AtStage tenantId limit (buffer ++ [st]) s stage := by
  have hnew : ∀ {P : AccountStatement → Prop}, (∀ st ∈ buffer, P st) → P st →
      ∀ st' ∈ buffer ++ [st], P st' := by
    intro P hold hlast st' hst'
    rcases List.mem_append.mp hst' with hmem | hmem
    · exact hold st' hmem
    · rw [List.mem_singleton.mp hmem]
      exact hlast
  have hjoins : ¬ joins tenantId st := fun hjoins => by
    rw [joins_writesAccount hjoins] at hwrites
    cases hwrites
  cases stage with
  | clean => exact hnew h hwrites
  | counted staff => exact ⟨hnew h.1 hwrites, List.mem_append_left _ h.2.1, h.2.2⟩
  | written =>
    rcases h with hnot | ⟨hmem, hlt, hone⟩
    · exact .inl (hnew hnot hjoins)
    · refine .inr ⟨List.mem_append_left _ hmem, hlt, ?_⟩
      simpa [List.countP_append, hjoins] using hone

theorem nextStage_writes {t : Store} (hwrites : writesAccount st = true)
    (h : nextStage tenantId limit stage st t = some stage') :
    stage' = .written ∧
      (joins tenantId st → ∃ staff, staff < limit ∧ stage = .counted staff) := by
  by_cases hjoins : joins tenantId st
  · cases st with
    | joinTenant | createUser | removeUser =>
      cases stage with
      | clean | written => simp [nextStage, writesAccount, hjoins] at h
      | counted staff =>
        simp only [nextStage, writesAccount, hjoins, if_true] at h
        split at h
        · rename_i hlt
          cases h
          exact ⟨rfl, fun _ => ⟨staff, hlt, rfl⟩⟩
        · cases h
    | _ => cases hwrites
  · refine ⟨?_, fun hyes => absurd hyes hjoins⟩
    cases st with
    | joinTenant | createUser | removeUser =>
      cases stage <;> simpa [nextStage, writesAccount, hjoins] using h.symm
    | _ => cases hwrites

/-- One statement of an open transaction, in the view `t`. -/
theorem AtStage.step {t : Store} (h : AtStage tenantId limit buffer s stage)
    (hview : (∀ st ∈ buffer, writesAccount st = false) →
      t.activeStaff tenantId = s.activeStaff tenantId)
    (hnext : nextStage tenantId limit stage st t = some stage') :
    AtStage tenantId limit (buffer ++ [st]) s stage' := by
  have hnone : (∀ st ∈ buffer, writesAccount st = false) →
      ∀ st ∈ buffer, ¬ joins tenantId st := fun hwrites st hst hjoins => by
    have hwritten := joins_writesAccount hjoins
    rw [hwrites st hst] at hwritten
    cases hwritten
  have hkeep : ¬ joins tenantId st → (∀ st ∈ buffer, ¬ joins tenantId st) →
      ∀ st' ∈ buffer ++ [st], ¬ joins tenantId st' := by
    intro hlast hold st' hst'
    rcases List.mem_append.mp hst' with hmem | hmem
    · exact hold st' hmem
    · rw [List.mem_singleton.mp hmem]
      exact hlast
  have hwrite : writesAccount st = true → nextStage tenantId limit stage st t = some stage' →
      AtStage tenantId limit (buffer ++ [st]) s stage' := by
    intro hwrites hstep
    obtain ⟨rfl, hcounted⟩ := nextStage_writes hwrites hstep
    by_cases hjoins : joins tenantId st
    · obtain ⟨staff, hlt, rfl⟩ := hcounted hjoins
      obtain ⟨hbuffer, hmem, hbelow⟩ := h
      have hzero : buffer.countP (fun st => joins tenantId st) = 0 := by
        simpa [List.countP_eq_zero] using hnone hbuffer
      refine .inr ⟨List.mem_append_left _ hmem, hbelow hlt, ?_⟩
      simp [List.countP_append, hzero, hjoins]
    · cases stage with
      | clean => exact .inl (hkeep hjoins (hnone h))
      | counted staff => exact .inl (hkeep hjoins (hnone h.1))
      | written =>
        rcases h with hnot | ⟨hmem, hlt, hone⟩
        · exact .inl (hkeep hjoins hnot)
        · refine .inr ⟨List.mem_append_left _ hmem, hlt, ?_⟩
          simpa [List.countP_append, hjoins] using hone
  cases st with
  | countStaff counted =>
    cases stage with
    | clean =>
      by_cases htenant : counted = tenantId
      · simp only [nextStage, htenant, if_true] at hnext
        cases hnext
        rw [htenant, hview h]
        refine ⟨h.silent rfl, by simp, fun hlt => hlt⟩
      · simp only [nextStage, htenant, if_false] at hnext
        cases hnext
        exact h.silent rfl
    | counted | written =>
      simp only [nextStage] at hnext
      split at hnext <;> cases hnext
      exact h.silent rfl
  | joinTenant | createUser | removeUser => exact hwrite rfl hnext
  | _ =>
    cases stage <;> cases hnext <;> exact h.silent rfl

end stages

section protocol
open Process AccountProcess InvitationCalls
variable {tenantId : Uuid} {tenant : Tenant} {stage : Stage} {invitation : Invitation}

/-- The store has the tenant with its limit. -/
def hasTenant (tenantId : Uuid) (tenant : Tenant) (s : Store) : Prop :=
  s.findTenant tenantId = some tenant

theorem silent_find (client : Client) (kind : ServiceCall) : silent (.find client kind) :=
  trivial

theorem follows_silent {α : Type} {p : AccountProcess α} (h : p.Issues silent fun _ => True) :
    Follows (nextStage tenantId tenant.maxAgents) (hasTenant tenantId tenant)
      (fun _ stage' => stage' = stage) p stage :=
  follows_of_issues h fun _ _ hst => nextStage_of_silent hst

/-- Staff invitations pass the check of their seat only below the limit. -/
def seatChecked (tenantId : Uuid) (limit : Nat) (invitation : Invitation) (stage : Stage) : Prop :=
  (stage = .clean ∨ ∃ staff, stage = .counted staff) ∧
    (invitation.tenantId = tenantId ∧
        (invitation.role = .agent ∨ invitation.role = .tenantManager) →
      ∃ staff, staff < limit ∧ stage = .counted staff)

/-- The count and the limit a check of the tenant sees. -/
theorem follows_checkSeat : Follows (nextStage tenantId tenant.maxAgents)
    (hasTenant tenantId tenant)
    (fun _ stage => seatChecked tenantId tenant.maxAgents invitation stage)
    (checkSeat invitation) .clean := by
  unfold checkSeat
  split
  · have hcount : Follows (nextStage tenantId tenant.maxAgents) (hasTenant tenantId tenant)
        (fun staff stage => if invitation.tenantId = tenantId then stage = .counted staff
          else stage = .clean)
        (statement (.countStaff invitation.tenantId)
          (Store.activeStaff invitation.tenantId) : AccountProcess Nat) .clean := by
      refine follows_statement fun s _ => ⟨_, rfl, ?_⟩
      by_cases htenant : invitation.tenantId = tenantId
      · simp only [htenant, if_true]
      · simp only [htenant, if_false]
    refine hcount.bind fun staff stage hstage => ?_
    have hread : Follows (nextStage tenantId tenant.maxAgents) (hasTenant tenantId tenant)
        (fun found stage' => stage' = stage ∧
          (invitation.tenantId = tenantId → found = some tenant))
        (find .ambient .tenantFind (Store.findTenant invitation.tenantId)) stage := by
      refine follows_statement fun s hs => ⟨stage, nextStage_of_silent (silent_find _ _), rfl, ?_⟩
      intro htenant
      rw [htenant]
      exact hs
    refine hread.bind fun found stage' hfound => ?_
    obtain ⟨rfl, hfound⟩ := hfound
    have hlift : Follows (nextStage tenantId tenant.maxAgents) (hasTenant tenantId tenant)
        (fun limits stage'' => stage'' = stage' ∧
          (invitation.tenantId = tenantId → limits = tenant))
        (lift (orThrow .database found) : AccountProcess Tenant) stage' := by
      refine follows_lift fun limits hok => ⟨rfl, fun htenant => ?_⟩
      rw [hfound htenant] at hok
      cases hok
      rfl
    refine hlift.bind fun limits stage'' hlimits => ?_
    obtain ⟨rfl, hlimits⟩ := hlimits
    refine follows_lift fun u hu => ?_
    have hbelow : staff < limits.maxAgents := by
      simp only [require] at hu
      split at hu
      · rename_i h
        simpa using h
      · cases hu
    by_cases htenant : invitation.tenantId = tenantId
    · have hcounted : stage'' = .counted staff := by simpa [htenant] using hstage
      have hlimit : limits = tenant := hlimits htenant
      exact ⟨.inr ⟨staff, hcounted⟩, fun _ => ⟨staff, hlimit ▸ hbelow, hcounted⟩⟩
    · have hclean : stage'' = .clean := by simpa [htenant] using hstage
      exact ⟨.inl hclean, fun hstaff => absurd hstaff.1 htenant⟩
  · rename_i hrole
    refine ⟨.inl rfl, fun hstaff => absurd ?_ hrole⟩
    simpa [InvitationService.isStaff] using hstaff.2

theorem nextStage_of_writes {st : AccountStatement} {s : Store} {limit : Nat}
    (hwrites : writesAccount st = true)
    (hjoins : joins tenantId st → ∃ staff, staff < limit ∧ stage = .counted staff) :
    nextStage tenantId limit stage st s = some .written := by
  by_cases hst : joins tenantId st
  · obtain ⟨staff, hlt, rfl⟩ := hjoins hst
    cases st with
    | joinTenant | createUser | removeUser => simp [nextStage, writesAccount, hst, hlt]
    | _ => cases hwrites
  · cases st with
    | joinTenant | createUser | removeUser =>
      cases stage <;> simp [nextStage, writesAccount, hst]
    | _ => cases hwrites

theorem follows_join {input : AcceptInput} {existing : Option User}
    {passwordHash : Option String}
    (h : seatChecked tenantId tenant.maxAgents invitation stage) :
    Follows (nextStage tenantId tenant.maxAgents) (hasTenant tenantId tenant) (fun _ _ => True)
      (join invitation input existing passwordHash) stage := by
  have hnow : Follows (nextStage tenantId tenant.maxAgents) (hasTenant tenantId tenant)
      (fun _ stage' => stage' = stage) now stage := follows_drawn fun _ _ => rfl
  refine hnow.bind fun verifiedAt stage' hstage' => ?_
  subst hstage'
  refine hnow.bind fun writtenAt stage' hstage' => ?_
  subst hstage'
  cases existing with
  | some user =>
    refine follows_statement fun s _ => ⟨.written, ?_, trivial⟩
    refine nextStage_of_writes rfl fun hjoins => ?_
    exact h.2 hjoins
  | none =>
    have hid : Follows (nextStage tenantId tenant.maxAgents) (hasTenant tenantId tenant)
        (fun _ stage'' => stage'' = stage') (drawn ServiceEnv.uuid : AccountProcess Uuid)
        stage' := follows_drawn fun _ _ => rfl
    refine hid.bind fun id stage'' hstage'' => ?_
    subst hstage''
    refine follows_statement fun s _ => ⟨.written, ?_, trivial⟩
    refine nextStage_of_writes rfl fun hjoins => ?_
    exact h.2 ⟨Option.some.inj hjoins.1, hjoins.2.1⟩

/-- The transaction of `accept` joins only after its check. -/
theorem follows_acceptance {input : AcceptInput} {existing : Option User}
    {passwordHash : Option String} :
    Follows (nextStage tenantId tenant.maxAgents) (hasTenant tenantId tenant) (fun _ _ => True)
      (acceptance invitation input existing passwordHash) .clean := by
  have hclaim : (claim invitation).Issues silent fun _ => True :=
    issues_claim fun _ _ _ => trivial
  have hsessions : (endAccountSessions existing passwordHash).Issues silent fun _ => True :=
    issues_endAccountSessions (fun _ => trivial) fun _ _ _ _ => trivial
  have hlink : ∀ userId, (link invitation userId).Issues silent fun _ => True :=
    fun userId => issues_link fun _ => trivial
  refine (follows_silent hclaim).bind fun _ stage hstage => ?_
  subst hstage
  refine (follows_silent (issues_checkTenant silent_find)).bind fun _ stage hstage => ?_
  subst hstage
  refine (follows_silent (issues_checkCustomer silent_find)).bind fun _ stage hstage => ?_
  subst hstage
  refine follows_checkSeat.bind fun _ stage hchecked => ?_
  refine (follows_silent hsessions).bind fun _ stage' hstage => ?_
  subst hstage
  refine (follows_join hchecked).bind fun userId stage'' _ => ?_
  exact (follows_silent (hlink userId)).mono fun _ _ _ => trivial

theorem follows_removal {input : RemoveInput} :
    Follows (nextStage tenantId tenant.maxAgents) (hasTenant tenantId tenant) (fun _ _ => True)
      (StaffCalls.removal input) .clean := by
  have hnow : (now : AccountProcess Time).Issues silent fun _ => True := issues_now
  refine (follows_silent hnow).bind fun ticketsAt stage hstage => ?_
  subst hstage
  refine Follows.bind (follows_silent (Auth.issues_execute trivial)) fun _ stage hstage => ?_
  subst hstage
  refine (follows_silent hnow).bind fun customersAt stage hstage => ?_
  subst hstage
  refine Follows.bind (follows_silent (Auth.issues_execute trivial)) fun _ stage hstage => ?_
  subst hstage
  refine Follows.bind (follows_silent (Auth.issues_execute trivial)) fun _ stage hstage => ?_
  subst hstage
  refine (follows_silent hnow).bind fun removedAt stage hstage => ?_
  subst hstage
  refine (follows_silent hnow).bind fun writtenAt stage hstage => ?_
  subst hstage
  refine follows_statement fun s _ => ⟨.written, ?_, trivial⟩
  exact nextStage_of_writes rfl fun hjoins => hjoins.elim

end protocol

section plans
open Process AccountProcess InvitationCalls
variable {crypto : AuthCrypto}

/-- What the calls run outside of their transactions. -/
def besideStaff (_ : StaffCall) : AccountStatement → Prop
  | .find .. | .audit _ | .setStatus .. | .revokeTokens .. | .updateUser .. | .enqueue _ => True
  | _ => False

theorem issues_revokeAllUserTokens {O : AccountStatement → Prop} {userId : Uuid} {reason : String}
    (hO : ∀ client userId reason revokedAt, O (.revokeTokens client userId reason revokedAt)) :
    (StaffCalls.revokeAllUserTokens userId reason).Issues O fun _ => True :=
  issues_now.bind fun _ _ => Auth.issues_execute (hO _ _ _ _)

theorem issues_setActive {call : StaffCall} {input : SetActiveInput} :
    (StaffCalls.setActive input).Issues (besideStaff call) fun _ => True := by
  have hend : ∀ active userId, (StaffCalls.endSessions active userId).Issues (besideStaff call)
      fun _ => True := by
    intro active userId
    unfold StaffCalls.endSessions
    split
    · trivial
    · exact issues_revokeAllUserTokens fun _ _ _ _ => trivial
  refine issues_checked.bind fun _ _ => (Auth.issues_find trivial).bind fun _ _ => ?_
  refine issues_checked.bind fun _ _ => issues_now.bind fun _ _ => ?_
  refine (Auth.issues_execute trivial).bind fun _ _ => (hend _ _).bind fun _ _ => ?_
  exact Auth.issues_audit fun _ => trivial

theorem issues_staffPublishAll {call : StaffCall} {events : List DomainEvent} :
    (StaffCalls.publishAll events).Issues (besideStaff call) fun _ => True := by
  have hrow : ∀ event, (StaffCalls.toRow event).Issues (besideStaff call) fun _ => True :=
    fun event => issues_drawn_any.bind fun _ _ => issues_now.bind fun _ _ => trivial
  have hrows : ∀ events, (StaffCalls.toRows events).Issues (besideStaff call) fun _ => True := by
    intro events
    induction events with
    | nil => trivial
    | cons event rest ih => exact (hrow event).bind fun _ _ => ih.bind fun _ _ => trivial
  unfold StaffCalls.publishAll
  split
  · trivial
  · exact (hrows events).bind fun _ _ => Auth.issues_execute trivial

theorem issues_staffChangeRole {call : StaffCall} {sessionRevoker : Bool} {dto : ChangeRoleDto} :
    (StaffCalls.changeRole sessionRevoker dto).Issues (besideStaff call) fun _ => True := by
  have hend : ∀ differs userId, (StaffCalls.endChangedSessions differs userId).Issues
      (besideStaff call) fun _ => True := by
    intro differs userId
    unfold StaffCalls.endChangedSessions
    split
    · exact issues_revokeAllUserTokens fun _ _ _ _ => trivial
    · trivial
  have hupdate : ∀ user, (StaffCalls.update user).Issues (besideStaff call) fun _ => True :=
    fun user => issues_now.bind fun _ _ => issues_statement trivial fun _ => trivial
  refine (Auth.issues_find trivial).bind fun _ _ => issues_checked.bind fun _ _ => ?_
  refine issues_checked.bind fun _ _ => issues_checked.bind fun _ _ => ?_
  refine issues_drawn_any.bind fun _ _ => (hupdate _).bind fun _ _ => ?_
  refine (hend _ _).bind fun _ _ => (Auth.issues_audit fun _ => trivial).bind fun _ _ => ?_
  exact issues_staffPublishAll

theorem issues_checkRemoval {call : StaffCall} {input : RemoveInput} :
    (StaffCalls.checkRemoval input).Issues (besideStaff call) fun _ => True := by
  have hreplacement : (StaffCalls.requireReplacement input).Issues (besideStaff call)
      fun _ => True := by
    unfold StaffCalls.requireReplacement
    cases input.replacementAgentId with
    | none => trivial
    | some replacementId => exact (Auth.issues_find trivial).bind fun _ _ => issues_checked
  refine issues_checked.bind fun _ _ => issues_checked.bind fun _ _ => ?_
  exact (Auth.issues_find trivial).bind fun _ _ => issues_checked.bind fun _ _ => hreplacement

theorem issues_afterRemoval {call : StaffCall} {input : RemoveInput} :
    (StaffCalls.afterRemoval input).Issues (besideStaff call) fun _ => True :=
  (issues_revokeAllUserTokens fun _ _ _ _ => trivial).bind fun _ _ =>
    Auth.issues_audit fun _ => trivial

theorem issues_removal {input : RemoveInput} :
    (StaffCalls.removal input).Issues transactional fun _ => True := by
  refine issues_now.bind fun _ _ => (Auth.issues_execute trivial).bind fun _ _ => ?_
  refine issues_now.bind fun _ _ => (Auth.issues_execute trivial).bind fun _ _ => ?_
  refine (Auth.issues_execute trivial).bind fun _ _ => issues_now.bind fun _ _ => ?_
  exact issues_now.bind fun _ _ => Auth.issues_execute trivial

theorem besideStaff_of_accept {call : StaffCall} {input : AcceptInput} {st : AccountStatement}
    (h : besideAcceptance (.accept input) st) : besideStaff call st := by
  cases st <;> trivial

/-- Every transaction of the calls satisfies what those of `accept` and `remove` do. -/
theorem staffScript_allows {B : AccountProcess Unit → Prop}
    (haccept : ∀ invitation input existing passwordHash,
      B (acceptance invitation input existing passwordHash))
    (hremove : ∀ input, B (StaffCalls.removal input)) (call : StaffCall) :
    (staffScript crypto call).Allows (besideStaff call) B := by
  cases call with
  | accept input =>
    refine Script.allows_after (issues_checks.mono fun _ => besideStaff_of_accept)
      fun checked _ => ⟨haccept .., ?_⟩
    exact Script.allows_after (Auth.issues_audit fun _ => trivial) fun _ _ => trivial
  | setActive input => exact Script.allows_after issues_setActive fun _ _ => trivial
  | remove input =>
    refine Script.allows_after issues_checkRemoval fun _ _ => ⟨hremove input, ?_⟩
    exact Script.allows_after issues_afterRemoval fun _ _ => trivial
  | changeRole sessionRevoker dto =>
    exact Script.allows_after issues_staffChangeRole fun _ _ => trivial

end plans

section outline
variable {crypto : AuthCrypto} {tenantId : Uuid} {tenant : Tenant} {s : Store}

/-- The transactions follow the protocol of the seats. -/
def followsSeats (tenantId : Uuid) (tenant : Tenant) (body : AccountProcess Unit) : Prop :=
  Process.Follows (nextStage tenantId tenant.maxAgents) (hasTenant tenantId tenant)
    (fun _ _ => True) body .clean

structure SeatInv (tenantId : Uuid) (tenant : Tenant) (s : Store) : Prop where
  keys : (s.users.map User.id).Nodup
  found : hasTenant tenantId tenant s
  limit : s.activeStaff tenantId ≤ tenant.maxAgents

def KeepsSeats (tenantId : Uuid) (tenant : Tenant) (s : Store) :
    Standing ServiceEnv Store AccountStatement AppError → Prop
  | .outside rest => rest.Allows (fun _ => True) (followsSeats tenantId tenant)
  | .inside buffer body rest =>
    (∃ stage, AtStage tenantId tenant.maxAgents buffer s stage ∧
      Process.Follows (nextStage tenantId tenant.maxAgents) (hasTenant tenantId tenant)
        (fun _ _ => True) body stage) ∧
      rest.Allows (fun _ => True) (followsSeats tenantId tenant)

def seats (tenantId : Uuid) (tenant : Tenant) : Program.Outline
    (Server Store AccountStatement AccountKey)
    (Caller ServiceEnv Store AccountStatement AppError StaffCall) where
  inv d := SeatInv tenantId tenant d.store
  own _ l d := KeepsSeats tenantId tenant d.store l.standing
  pair _ _ := True

theorem sameTenants_effects {sts : List AccountStatement}
    (h : Admitted accountStatements sts s) : SameTenants s (effects accountStatements sts s) := by
  refine effects_keep (P := SameTenants s) (V := fun _ => True) ?_ (fun _ _ => trivial) h
    ⟨fun h => h, rfl⟩
  intro st t t' ht _ hexec
  have hone := sameTenants_exec hexec
  exact ⟨fun hkeys => hone.keys (ht.keys hkeys), hone.tenants.trans ht.tenants⟩

theorem hasTenant_of_same {s' : Store} (h : hasTenant tenantId tenant s) (hs : SameTenants s s') :
    hasTenant tenantId tenant s' := by
  rw [hasTenant, Store.findTenant, hs.tenants]
  exact h

theorem KeepsSeats.of_commit {s' : Store}
    {here : Standing ServiceEnv Store AccountStatement AppError}
    (h : KeepsSeats tenantId tenant s here)
    (hcount : hasCounted tenantId here → s.activeStaff tenantId < tenant.maxAgents →
      s'.activeStaff tenantId < tenant.maxAgents) : KeepsSeats tenantId tenant s' here := by
  cases here with
  | outside rest => exact h
  | inside buffer body rest =>
    obtain ⟨⟨stage, hstage, hbody⟩, hrest⟩ := h
    exact ⟨⟨stage, hstage.of_commit hcount, hbody⟩, hrest⟩

theorem awaitsInside_follows {body : AccountProcess Unit} {st : AccountStatement}
    {next : Store → AccountProcess Unit} {stage : Stage} {view : Store}
    (h : AwaitsInside body st next) (hview : hasTenant tenantId tenant view)
    (hbody : Process.Follows (nextStage tenantId tenant.maxAgents) (hasTenant tenantId tenant)
      (fun _ _ => True) body stage) :
    ∃ stage', nextStage tenantId tenant.maxAgents stage st view = some stage' ∧
      Process.Follows (nextStage tenantId tenant.maxAgents) (hasTenant tenantId tenant)
        (fun _ _ => True) (next view) stage' := by
  cases h with
  | call st next => exact hbody view hview
  | attempt st next => exact hbody view hview

/-- What a turn puts into effect: one more active member of the staff at most, and a seat is
free for it. -/
theorem staff_committing {d : Server Store AccountStatement AccountKey}
    {l : Caller ServiceEnv Store AccountStatement AppError StaffCall}
    {a : Process.Turn ServiceEnv StaffCall} (hinv : SeatInv tenantId tenant d.store)
    (hseats : KeepsSeats tenantId tenant d.store l.standing)
    (hplan : WithinPlan (allowed besideStaff l) transactional l.standing)
    (hadmitted : Admitted accountStatements (committing l.standing a) d.store)
    (hfree : (∃ st ∈ committing l.standing a, raises tenantId d.store st) →
      d.store.activeStaff tenantId < tenant.maxAgents) :
    let d' := effects accountStatements (committing l.standing a) d.store
    d'.activeStaff tenantId ≤ tenant.maxAgents ∧
      d'.activeStaff tenantId ≤ d.store.activeStaff tenantId + 1 ∧
      ((∀ st ∈ committing l.standing a, ¬ (raises tenantId d.store st ∨ joins tenantId st)) →
        d'.activeStaff tenantId ≤ d.store.activeStaff tenantId) := by
  intro d'
  have hlimit := hinv.limit
  have hnone : committing l.standing a = [] → d' = d.store := fun hnil => by
    simp [d', hnil, effects]
  obtain ⟨call, here⟩ := l
  cases here with
  | outside rest =>
    rcases committing_outside rest a with hnil | ⟨st, next, hawaits, hst⟩
    · rw [hnone hnil]
      exact ⟨hlimit, Nat.le_succ _, fun _ => Nat.le_refl _⟩
    · obtain ⟨i, -, hbeside⟩ := (hawaits.allows hplan).1
      have hjoins : ¬ joins tenantId st := by
        cases st <;> first | exact fun h => h | exact hbeside.elim
      simp only [hst] at hadmitted hfree ⊢
      obtain ⟨⟨s₁, hexec⟩, -⟩ := hadmitted
      have hd' : d' = s₁ := by
        simp only [d', hst]
        exact effect_of_exec hexec
      have hexec' : exec st d.store = .ok s₁ := hexec
      have hone : s₁.activeStaff tenantId ≤ d.store.activeStaff tenantId + 1 ∧
          (¬ raises tenantId d.store st → ¬ joins tenantId st →
            s₁.activeStaff tenantId ≤ d.store.activeStaff tenantId) :=
        activeStaff_exec hinv.keys hexec'
      rw [hd']
      refine ⟨?_, hone.1, fun hnot => ?_⟩
      · by_cases hraises : raises tenantId d.store st
        · have hlt := hfree ⟨st, List.mem_singleton_self st, hraises⟩
          omega
        · have hle := hone.2 hraises hjoins
          omega
      · exact hone.2 (fun hraises => hnot st (List.mem_singleton_self st) (.inl hraises)) hjoins
  | inside buffer body rest =>
    rcases committing_inside buffer body rest a with hnil | hbuffer
    · rw [hnone hnil]
      exact ⟨hlimit, Nat.le_succ _, fun _ => Nat.le_refl _⟩
    · simp only [hbuffer] at hadmitted ⊢
      have hd' : d' = effects accountStatements buffer d.store := by simp only [d', hbuffer]
      obtain ⟨⟨stage, hstage, -⟩, -⟩ := hseats
      obtain ⟨hfits, hone⟩ := hstage.countP_le hlimit
      have hle : (effects accountStatements buffer d.store).activeStaff tenantId ≤
          d.store.activeStaff tenantId + buffer.countP fun st => joins tenantId st :=
        activeStaff_effects_le hplan.1 hadmitted hinv.keys
      rw [hd']
      refine ⟨by omega, by omega, fun hnot => ?_⟩
      have hzero : buffer.countP (fun st => joins tenantId st) = 0 := by
        rw [List.countP_eq_zero]
        intro st hst hjoins
        exact hnot st hst (.inr (of_decide_eq_true hjoins))
      omega

/-- A turn leaves the bound, and the standing of the actor, as they have to be. -/
theorem SeatInv.turn {p : Nat} {d d' : Server Store AccountStatement AccountKey}
    {l l' : Caller ServiceEnv Store AccountStatement AppError StaffCall}
    {a : Process.Turn ServiceEnv StaffCall} (hinv : SeatInv tenantId tenant d.store)
    (hseats : KeepsSeats tenantId tenant d.store l.standing)
    (hplan : WithinPlan (allowed besideStaff l) transactional l.standing)
    (hkeys : HoldsKeys accountStatements accountLocking p d l.standing)
    (hfree : (∃ st ∈ committing l.standing a, raises tenantId d.store st) →
      d.store.activeStaff tenantId < tenant.maxAgents)
    (hact : turn accountStatements accountLocking (staffScript crypto) p d l a = some (d', l')) :
    SeatInv tenantId tenant d'.store := by
  rcases turn_store hkeys hact with hstore | ⟨hadmitted, hstore⟩
  · rw [hstore]
    exact hinv
  · have hsame := sameTenants_effects hadmitted
    rw [hstore]
    exact ⟨hsame.keys hinv.keys, hasTenant_of_same hinv.found hsame,
      (staff_committing hinv hseats hplan hadmitted hfree).1⟩

theorem KeepsSeats.went {p : Nat} {d d' : Server Store AccountStatement AccountKey}
    {here there : Standing ServiceEnv Store AccountStatement AppError}
    {a : Process.Turn ServiceEnv StaffCall} (hfound : hasTenant tenantId tenant d.store)
    (hseats : KeepsSeats tenantId tenant d.store here) {O : AccountStatement → Prop}
    (hplan : WithinPlan O transactional here)
    (hkeys : HoldsKeys accountStatements accountLocking p d here)
    (hwent : WentOn accountStatements accountLocking p d here a d' there) :
    KeepsSeats tenantId tenant d'.store there := by
  cases hwent with
  | drawOutside next env n => exact hseats env n
  | raise | rollback => trivial
  | skip st next a => exact hseats.2
  | autocommit env n hawaits havailable hexec => exact (hawaits.allows hseats).2 _
  | begin body next env n => exact ⟨⟨.clean, by simp [AtStage], hseats.1⟩, hseats.2⟩
  | drawInside buffer next env n rest =>
    obtain ⟨⟨stage, hstage, hbody⟩, hrest⟩ := hseats
    exact ⟨⟨stage, hstage, hbody env n⟩, hrest⟩
  | @execute buffer body st next rest s₁ env n hawaits havailable hexec =>
    obtain ⟨⟨stage, hstage, hbody⟩, hrest⟩ := hseats
    have hview : hasTenant tenantId tenant (effects accountStatements buffer d.store) :=
      hasTenant_of_same hfound (sameTenants_effects hkeys.2)
    obtain ⟨stage', hnext, hbody'⟩ := awaitsInside_follows hawaits hview hbody
    refine ⟨⟨stage', hstage.step (fun hwrites => ?_) hnext, hbody'⟩, hrest⟩
    exact activeStaff_effects_of_writes hplan.1 hwrites hkeys.2
  | commit buffer rest env n => exact hseats.2

theorem staffScript_followsSeats (call : StaffCall) :
    (staffScript crypto call).Allows (fun _ => True) (followsSeats tenantId tenant) :=
  (staffScript_allows (fun _ _ _ _ => follows_acceptance) (fun _ => follows_removal) call).mono
    fun _ _ => trivial

theorem seats_valid : (seats tenantId tenant).Valid (staffPool crypto) fun c move =>
    (orderly accountStatements accountLocking transactional besideStaff s).Holds c ∧
      SeatsFree tenantId tenant.maxAgents c move where
  symm _ _ h := h
  act c p a d' l' hc hcond hact := by
    obtain ⟨horderly, hfree⟩ := hcond
    obtain ⟨hplan, hkeys⟩ := horderly.own p
    refine ⟨hc.inv.turn (hc.own p) hplan hkeys hfree.1 hact, ?_⟩
    rcases turn_cases hact with ⟨i, rest, -, rfl, rfl⟩ | ⟨hwent, -⟩
    · exact staffScript_followsSeats i
    · exact KeepsSeats.went hc.inv.found (hc.own p) hplan hkeys hwent
  others c p a d' l' hc hcond hact q hq := by
    obtain ⟨horderly, hfree⟩ := hcond
    obtain ⟨hplan, hkeys⟩ := horderly.own p
    refine ⟨?_, trivial⟩
    rcases turn_store hkeys hact with hstore | ⟨hadmitted, hstore⟩
    · change KeepsSeats tenantId tenant d'.store _
      rw [hstore]
      exact hc.own q
    · have hbound := staff_committing hc.inv (hc.own p) hplan hadmitted hfree.1
      change KeepsSeats tenantId tenant d'.store _
      rw [hstore]
      refine (hc.own q).of_commit fun hcounted hlt => ?_
      by_cases htakes : ∃ st ∈ committing (c.locals p).standing a,
          raises tenantId c.shared.store st ∨ joins tenantId st
      · have hroom := hfree.2 htakes q hq hcounted
        exact Nat.lt_of_le_of_lt hbound.2.1 hroom
      · have hnot : ∀ st ∈ committing (c.locals p).standing a,
            ¬ (raises tenantId c.shared.store st ∨ joins tenantId st) :=
          fun st hst htake => htakes ⟨st, hst, htake⟩
        exact Nat.lt_of_le_of_lt (hbound.2.2 hnot) hlt
  env c e := e.elim

theorem seats_idle (hinv : SeatInv tenantId tenant s) :
    (seats tenantId tenant).Holds (idle s : StaffPool) where
  inv := hinv
  own _ := trivial
  pair _ _ _ := trivial

theorem staff_orderly : ∀ (c : StaffPool) move c',
    (orderly accountStatements accountLocking transactional besideStaff s).Holds c →
      (staffPool crypto).machine.step c move = some c' →
      (orderly accountStatements accountLocking transactional besideStaff s).Holds c' := by
  have hprogram : ∀ call, (staffScript crypto call).Allows (besideStaff call) fun body =>
      body.Issues transactional fun _ => True :=
    staffScript_allows
      (fun _ _ _ _ => issues_acceptance.mono fun _ => ofAcceptance_transactional)
      fun _ => issues_removal
  intro c move c' hc hstep
  exact (orderly_valid accountLocking_lawful hprogram).step c move c' hc trivial hstep

/-- The staff of a tenant stays within its limit in every state of a run in which no call
takes a seat that its count, or nothing at all, has promised to another. -/
theorem staff_within_limit {c : StaffPool}
    {moves : List (Move (Process.Turn ServiceEnv StaffCall) Empty)}
    (hkeys : (s.users.map User.id).Nodup) (hfound : s.findTenant tenantId = some tenant)
    (hlimit : s.activeStaff tenantId ≤ tenant.maxAgents)
    (hfree : (staffPool crypto).machine.Within (SeatsFree tenantId tenant.maxAgents) (idle s) moves)
    (hrun : (staffPool crypto).machine.run (idle s) moves = some c) :
    c.shared.store.activeStaff tenantId ≤ tenant.maxAgents := by
  have hwithin : (staffPool crypto).machine.Within (fun c move =>
      (orderly accountStatements accountLocking transactional besideStaff s).Holds c ∧
        SeatsFree tenantId tenant.maxAgents c move) (idle s) moves := by
    have hidle : (orderly accountStatements accountLocking transactional besideStaff s).Holds
        (idle s : StaffPool) := orderly_idle s
    refine Machine.Within.of_invariant _ (L := fun _ => True) hfree hidle
      (fun _ _ => trivial) ?_ ?_
    · exact fun c move c' hc _ hstep => staff_orderly c move c' hc hstep
    · exact fun c move hc hmove => ⟨hc, hmove⟩
  have hinv : SeatInv tenantId tenant s := ⟨hkeys, hfound, hlimit⟩
  exact (seats_valid.run_within (seats_idle hinv) hwithin hrun).inv.limit

end outline

section seated
variable {crypto : AuthCrypto} {tenantId : Uuid} {limit : Nat}

/-- Whoever takes a seat leaves another: a rule that is enough. -/
def LeavesSeat (tenantId : Uuid) (limit : Nat) (c : StaffPool) :
    Move (Process.Turn ServiceEnv StaffCall) Empty → Prop
  | .act p a => (∃ st ∈ committing (c.locals p).standing a,
      raises tenantId c.shared.store st ∨ joins tenantId st) →
        c.shared.store.activeStaff tenantId + 1 < limit
  | .env _ => True

instance (c : StaffPool) : DecidablePred (LeavesSeat tenantId limit c)
  | .act p a => inferInstanceAs (Decidable ((∃ st ∈ committing (c.locals p).standing a, _) → _))
  | .env _ => isTrue trivial

theorem LeavesSeat.seatsFree {c : StaffPool}
    {move : Move (Process.Turn ServiceEnv StaffCall) Empty}
    (h : LeavesSeat tenantId limit c move) : SeatsFree tenantId limit c move := by
  cases move with
  | env e => trivial
  | act p a =>
    refine ⟨fun ⟨st, hst, hraises⟩ => ?_, fun htakes q _ _ => h htakes⟩
    have hroom := h ⟨st, hst, .inl hraises⟩
    omega

def acceptAs (token : String) (userId : Uuid) : StaffCall :=
  .accept ⟨token, none, none, none, some userId⟩

def threeSeats : Tenant := { (default : Tenant) with id := 2, status := .active, maxAgents := 3 }

def oneAcceptance : List (Move (Process.Turn ServiceEnv StaffCall) Empty) :=
  .act 0 (.start (acceptAs "t" 7)) :: turns 0 16

theorem staff_within_limit_accept :
    ∃ c, (staffPool sampleCrypto).machine.run (idle invitedStore) oneAcceptance = some c ∧
      c.shared.store.activeStaff 2 = 1 ∧
        c.shared.store.activeStaff 2 ≤ threeSeats.maxAgents := by
  have hresult : ((staffPool sampleCrypto).machine.run (idle invitedStore)
      oneAcceptance).map (fun c => c.shared.store.activeStaff 2) = some 1 := by
    decide
  obtain ⟨c, hrun, hstaff⟩ := Option.map_eq_some_iff.mp hresult
  have hseats : (staffPool sampleCrypto).machine.Within
      (LeavesSeat 2 threeSeats.maxAgents) (idle invitedStore) oneAcceptance := by
    decide
  have hfree := Machine.Within.mono _ hseats fun _ _ => LeavesSeat.seatsFree
  have hfound : invitedStore.findTenant 2 = some threeSeats := rfl
  exact ⟨c, hrun, hstaff, staff_within_limit (by decide) hfound (by decide) hfree hrun⟩

end seated

section exceeded

def oneSeat : Tenant := { (default : Tenant) with id := 2, status := .active, maxAgents := 1 }

def limitedStore : Store :=
  { invitedStore with
    tenants := [oneSeat]
    users := [invitedAccount, { invitedAccount with id := 8, email := "bob@example.com" }]
    invitations := [staffInvitation,
      { staffInvitation with id := 6, email := "bob@example.com", tokenHash := "u" }] }

/-- The seat is taken; another agent is inactive, and a customer belongs to the tenant. -/
def fullStore : Store :=
  { invitedStore with
    tenants := [oneSeat]
    users := [
      { invitedAccount with tenantId := some 2, role := .agent, status := .active },
      { invitedAccount with
        id := 8, email := "bob@example.com", tenantId := some 2, role := .agent
        status := .inactive },
      { invitedAccount with
        id := 9, email := "eve@example.com", tenantId := some 2, status := .active }] }

/-- Both count before one of them commits. -/
def skewedAcceptances : List (Move (Process.Turn ServiceEnv StaffCall) Empty) :=
  [.act 0 (.start (acceptAs "t" 7)), .act 1 (.start (acceptAs "u" 8))] ++
    turns 0 12 ++ turns 1 12 ++ turns 0 4 ++ turns 1 4

def activation : List (Move (Process.Turn ServiceEnv StaffCall) Empty) :=
  .act 0 (.start (.setActive ⟨2, 1, 8, true⟩)) :: turns 0 4

def promotion : List (Move (Process.Turn ServiceEnv StaffCall) Empty) :=
  .act 0 (.start (.changeRole true ⟨1, 9, some 2, "AGENT", .tenantManager⟩)) :: turns 0 5

/-- Two acceptances, an activation and a change of a role, each over the limit of one seat. -/
theorem staff_limit_exceeded :
    limitedStore.findTenant 2 = some oneSeat ∧ limitedStore.activeStaff 2 ≤ oneSeat.maxAgents ∧
      fullStore.findTenant 2 = some oneSeat ∧ fullStore.activeStaff 2 ≤ oneSeat.maxAgents ∧
      (∃ c, (staffPool sampleCrypto).machine.run (idle limitedStore) skewedAcceptances = some c ∧
        ¬ c.shared.store.activeStaff 2 ≤ oneSeat.maxAgents) ∧
      (∃ c, (staffPool sampleCrypto).machine.run (idle fullStore) activation = some c ∧
        ¬ c.shared.store.activeStaff 2 ≤ oneSeat.maxAgents) ∧
      ∃ c, (staffPool sampleCrypto).machine.run (idle fullStore) promotion = some c ∧
        ¬ c.shared.store.activeStaff 2 ≤ oneSeat.maxAgents := by
  have hover : ∀ s moves, ((staffPool sampleCrypto).machine.run (idle s) moves).map
      (fun c => c.shared.store.activeStaff 2) = some 2 →
      ∃ c, (staffPool sampleCrypto).machine.run (idle s) moves = some c ∧
        ¬ c.shared.store.activeStaff 2 ≤ oneSeat.maxAgents := by
    intro s moves hresult
    obtain ⟨c, hrun, hstaff⟩ := Option.map_eq_some_iff.mp hresult
    exact ⟨c, hrun, by simp only [hstaff, oneSeat]; decide⟩
  refine ⟨by rfl, by decide, by rfl, by decide, ?_, ?_, ?_⟩
  · exact hover _ _ (by decide)
  · exact hover _ _ (by decide)
  · exact hover _ _ (by decide)

end exceeded
end OmniSupport.Identity
