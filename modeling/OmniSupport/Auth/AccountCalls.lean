import OmniSupport.Auth.InvitationService
import OmniSupport.Auth.SessionCalls

/-! What a reactivation, a restored tenant and an accepted invitation may leave: accounts
that are enabled, in tenants that are open. -/
namespace OmniSupport.Auth
open Foundation Database Effect Identity

variable {crypto : AuthCrypto} {env : ServiceEnv} {d : Nat} {s t : Store}

section accounts

theorem ends_activate {input : SetActiveInput} (hactive : input.active = true)
    (hs : SessionsSound s) :
    Ends env 0 s (fun _ _ => Kept s) (Kept s) (StaffLifecycleService.setActive input) := by
  have hheld := Held.refl hs
  refine ends_lift_bind (fun u _ => ?_) hheld.kept
  refine ends_read_bind (ends_lift_bind (fun target _ => ?_) hheld.kept) hheld.kept
  refine ends_draw_bind (ends_call_bind (fun u s' hcall => ?_) hheld.kept)
  split at hcall
  · cases hcall
    have hstatus : ∀ row writtenAt, ¬ TokenService.blockedStatus
        (StaffLifecycleService.withStatus input.active writtenAt row) := by
      intro row writtenAt hblocked
      rw [hactive] at hblocked
      rcases hblocked with hblocked | hblocked <;> cases hblocked
    have hchanged : Held s (s.updateUser target.id
        (StaffLifecycleService.withStatus input.active (env.clock 0))) :=
      hheld.updateUser_same (fun _ => rfl) (fun _ => rfl) fun row hblocked =>
        absurd hblocked (hstatus row _)
    rw [StaffLifecycleService.endSessions, if_pos hactive]
    exact ends_auditKept hchanged.kept
  · cases hcall

theorem Held.activate {id : Uuid} {tenant : Tenant} {stored : Option Tenant} {writtenAt : Time}
    (h : Held s t) :
    Held s (t.updateTenant id (Tenant.write writtenAt
      (TenantRepository.withStoredFlags stored (TenantEntity.reconstitute tenant).activate.row))) := by
  refine h.updateTenant (fun _ => rfl) fun row hsuspended => ?_
  cases hsuspended

theorem ends_restoreTenant {command : TenantService.RestoreTenantCommand} (hs : SessionsSound s) :
    Ends env 0 s (fun _ _ => Kept s) (Kept s) (TenantService.restoreTenant command) := by
  have hheld := Held.refl hs
  refine ends_read_bind (ends_lift_bind (fun tenant _ => ?_) hheld.kept) hheld.kept
  refine Ends.bind (ends_transaction (inside_tenantUpdateLocked _) (fun row d' s' hy => ?_)
    hheld.kept) fun _ _ _ hkept => ends_auditKept hkept
  obtain ⟨stored, d₁, s₁, hread, hbody⟩ := yields_bind (inside_read _ _ _) hy
  obtain ⟨-, -, rfl⟩ := yields_read hread
  obtain ⟨writtenAt, d₂, s₂, hdraw, hwrite⟩ := yields_bind (inside_draw _) hbody
  obtain ⟨-, -, rfl⟩ := yields_draw hdraw
  obtain ⟨hcall, -⟩ := yields_call hwrite
  unfold TenantRepository.updateRow at hcall
  split at hcall
  · cases hcall
  · split at hcall
    · cases hcall
    · cases hcall
      exact (Held.activate hheld).kept

end accounts

section acceptance
open InvitationService
variable {invitation : Invitation} {input : AcceptInput} {existing : Option User}
  {passwordHash : Option String} {d' : Nat} {t' : Store} {u : Unit}

theorem inside_requireActiveTenant : Inside (requireActiveTenant invitation) :=
  (inside_read _ _ _).bind fun _ => inside_lift _

theorem inside_requireSameCustomer : Inside (requireSameCustomer invitation) := by
  unfold requireSameCustomer
  cases invitation.customerId with
  | none => exact inside_pure ()
  | some customerId => exact (inside_read _ _ _).bind fun _ => inside_lift _

theorem inside_requireStaffSeat : Inside (requireStaffSeat invitation) := by
  unfold requireStaffSeat
  by_cases hstaff : isStaff invitation.role = true
  · rw [if_pos hstaff]
    exact (inside_read _ _ _).bind fun _ => (inside_read _ _ _).bind fun _ =>
      (inside_lift _).bind fun _ => inside_lift _
  · rw [if_neg hstaff]
    exact inside_pure ()

theorem inside_endSessions : Inside (InvitationService.endSessions existing passwordHash) := by
  unfold InvitationService.endSessions
  cases endsSessions existing passwordHash with
  | none => exact inside_pure ()
  | some userId =>
    exact (inside_write _ _).bind fun _ => (inside_draw _).bind fun _ => inside_write _ _

theorem inside_joinTenant : Inside (joinTenant invitation input existing passwordHash) := by
  refine (inside_draw _).bind fun _ => (inside_draw _).bind fun _ => ?_
  cases existing with
  | none => exact (inside_draw _).bind fun _ => inside_call _ _ _
  | some user => exact inside_call _ _ _

theorem inside_claimInvitation : Inside (claimInvitation invitation) :=
  (inside_draw _).bind fun _ => (inside_draw _).bind fun _ => inside_call _ _ _

theorem inside_linkCustomer {userId : Uuid} : Inside (linkCustomer invitation userId) := by
  unfold linkCustomer
  cases invitation.customerId with
  | none => exact inside_pure ()
  | some customerId => exact inside_call _ _ _

theorem inside_writeAcceptance :
    Inside (writeAcceptance invitation input existing passwordHash) :=
  inside_claimInvitation.bind fun _ => inside_requireActiveTenant.bind fun _ =>
    inside_requireSameCustomer.bind fun _ => inside_requireStaffSeat.bind fun _ =>
      inside_endSessions.bind fun _ => inside_joinTenant.bind fun _ => inside_linkCustomer

/-- The tenant of the invitation admits members. -/
def TenantOpen (s : Store) (invitation : Invitation) : Prop :=
  ∃ tenant, s.findTenant invitation.tenantId = some tenant ∧ tenant.status ≠ .suspended

theorem TenantOpen.of_rows (h : TenantOpen t invitation) (hrows : accountRows t' = accountRows t) :
    TenantOpen t' invitation := by
  have htenants : t'.tenants = t.tenants := congrArg Prod.snd hrows
  obtain ⟨tenant, hfound, hopen⟩ := h
  refine ⟨tenant, ?_, hopen⟩
  rw [Store.findTenant, htenants]
  exact hfound

theorem yields_claimInvitation (h : Yields env d t (claimInvitation invitation) u d' t') :
    accounts t' = accounts t := by
  obtain ⟨claimedAt, d₁, s₁, hdraw, hrest⟩ := yields_bind (inside_draw _) h
  obtain ⟨-, -, rfl⟩ := yields_draw hdraw
  obtain ⟨acceptedAt, d₂, s₂, hdraw, hcall⟩ := yields_bind (inside_draw _) hrest
  obtain ⟨-, -, rfl⟩ := yields_draw hdraw
  obtain ⟨hf, -⟩ := yields_call hcall
  split at hf
  · cases hf
    rfl
  · cases hf

theorem yields_requireActiveTenant
    (h : Yields env d t (requireActiveTenant invitation) u d' t') :
    t' = t ∧ TenantOpen t invitation := by
  obtain ⟨found, d₁, s₁, hread, hlift⟩ := yields_bind (inside_read _ _ _) h
  obtain ⟨rfl, -, rfl⟩ := yields_read hread
  obtain ⟨hopen, -, rfl⟩ := yields_lift hlift
  have hstatus := require_ok hopen
  rw [Option.any_eq_true] at hstatus
  obtain ⟨tenant, hfound, hstatus⟩ := hstatus
  refine ⟨rfl, tenant, hfound, fun hsuspended => ?_⟩
  rw [hsuspended] at hstatus
  cases hstatus

theorem yields_requireSameCustomer
    (h : Yields env d t (requireSameCustomer invitation) u d' t') : t' = t := by
  unfold requireSameCustomer at h
  cases hid : invitation.customerId with
  | none =>
    rw [hid] at h
    exact (yields_pure h).2.2
  | some customerId =>
    rw [hid] at h
    obtain ⟨found, d₁, s₁, hread, hlift⟩ := yields_bind (inside_read _ _ _) h
    obtain ⟨-, -, rfl⟩ := yields_read hread
    exact (yields_lift hlift).2.2

theorem yields_requireStaffSeat
    (h : Yields env d t (requireStaffSeat invitation) u d' t') : t' = t := by
  unfold requireStaffSeat at h
  split at h
  · obtain ⟨staff, d₁, s₁, hstaff, htenant⟩ := yields_bind (inside_read _ _ _) h
    obtain ⟨-, -, rfl⟩ := yields_read hstaff
    obtain ⟨tenant, d₂, s₂, hread, hlimits⟩ := yields_bind (inside_read _ _ _) htenant
    obtain ⟨-, -, rfl⟩ := yields_read hread
    obtain ⟨limits, d₃, s₃, hlift, hseat⟩ := yields_bind (inside_lift _) hlimits
    obtain ⟨-, -, rfl⟩ := yields_lift hlift
    exact (yields_lift hseat).2.2
  · exact (yields_pure h).2.2

theorem yields_endSessions (hheld : Held s t)
    (h : Yields env d t (InvitationService.endSessions existing passwordHash) u d' t') :
    Held s t' ∧ accountRows t' = accountRows t := by
  unfold InvitationService.endSessions at h
  cases hends : endsSessions existing passwordHash with
  | none =>
    rw [hends] at h
    obtain ⟨-, -, rfl⟩ := yields_pure h
    exact ⟨hheld, rfl⟩
  | some userId =>
    rw [hends] at h
    obtain ⟨u, d₁, s₁, hdelete, hrest⟩ := yields_bind (inside_write _ _) h
    obtain ⟨rfl, -⟩ := yields_write hdelete
    obtain ⟨revokedAt, d₂, s₂, hdraw, hrevoke⟩ := yields_bind (inside_draw _) hrest
    obtain ⟨-, -, rfl⟩ := yields_draw hdraw
    obtain ⟨rfl, -⟩ := yields_write hrevoke
    have hdeleted : Held s (t.deleteOAuthAccounts userId) := hheld.of_accounts rfl
    exact ⟨hdeleted.revokeTokens, rfl⟩

theorem yields_joinTenant {userId : Uuid} (hheld : Held s t) (hopen : TenantOpen t invitation)
    (h : Yields env d t (joinTenant invitation input existing passwordHash) userId d' t') :
    Held s t' := by
  obtain ⟨tenant, htenant, hstatus⟩ := hopen
  -- The row has the tenant of the invitation, and its status is `ACTIVE`.
  have hstored : ∀ row : User, row.tenantId = some invitation.tenantId → TenantStored t row := by
    intro row hid tenantId hm
    rw [hid] at hm
    cases hm
    rw [htenant]
    rfl
  have henabled : ∀ row : User, row.tenantId = some invitation.tenantId → row.status = .active →
      Enabled t row := by
    intro row hid hactive
    refine ⟨?_, fun tenantId hm tenant' hfound => ?_⟩
    · rintro (hblocked | hblocked)
      · rw [hactive] at hblocked
        cases hblocked
      · rw [hactive] at hblocked
        cases hblocked
    · rw [hid] at hm
      cases hm
      rw [htenant] at hfound
      cases hfound
      exact hstatus
  obtain ⟨verifiedAt, d₁, s₁, hverified, hrest⟩ := yields_bind (inside_draw _) h
  obtain ⟨-, -, rfl⟩ := yields_draw hverified
  obtain ⟨writtenAt, d₂, s₂, hwritten, hrow⟩ := yields_bind (inside_draw _) hrest
  obtain ⟨-, -, rfl⟩ := yields_draw hwritten
  cases existing with
  | some user =>
    obtain ⟨hf, -⟩ := yields_call hrow
    split at hf
    · cases hf
      exact hheld.updateUser (fun _ => rfl) (fun _ _ => hstored _ rfl) fun _ _ =>
        henabled _ rfl rfl
    · cases hf
  | none =>
    obtain ⟨id, d₃, s₃, hid, hcreate⟩ := yields_bind (inside_draw _) hrow
    obtain ⟨-, -, rfl⟩ := yields_draw hid
    obtain ⟨hf, -⟩ := yields_call hcreate
    split at hf
    · rename_i hinsertable
      cases hf
      exact hheld.insertUser hinsertable (henabled _ rfl rfl)
    · cases hf

theorem yields_linkCustomer {userId : Uuid}
    (h : Yields env d t (linkCustomer invitation userId) u d' t') : accounts t' = accounts t := by
  unfold linkCustomer at h
  cases hid : invitation.customerId with
  | none =>
    rw [hid] at h
    obtain ⟨-, -, rfl⟩ := yields_pure h
    rfl
  | some customerId =>
    rw [hid] at h
    obtain ⟨hf, -⟩ := yields_call h
    split at hf
    · cases hf
      rfl
    · cases hf

theorem yields_writeAcceptance (hs : SessionsSound s)
    (h : Yields env d s (writeAcceptance invitation input existing passwordHash) u d' t') :
    Held s t' := by
  obtain ⟨u, d₁, s₁, hclaim, hchecks⟩ := yields_bind inside_claimInvitation h
  have hclaimed : Held s s₁ := (Held.refl hs).of_accounts (yields_claimInvitation hclaim)
  obtain ⟨u, d₂, s₂, htenant, hcustomers⟩ := yields_bind inside_requireActiveTenant hchecks
  obtain ⟨rfl, hopen⟩ := yields_requireActiveTenant htenant
  obtain ⟨u, d₃, s₃, hcustomer, hseats⟩ := yields_bind inside_requireSameCustomer hcustomers
  obtain rfl := yields_requireSameCustomer hcustomer
  obtain ⟨u, d₄, s₄, hseat, hwrites⟩ := yields_bind inside_requireStaffSeat hseats
  obtain rfl := yields_requireStaffSeat hseat
  obtain ⟨u, d₅, s₅, hends, hrest⟩ := yields_bind inside_endSessions hwrites
  obtain ⟨hended, hrows⟩ := yields_endSessions hclaimed hends
  obtain ⟨userId, d₆, s₆, hjoin, hlink⟩ := yields_bind inside_joinTenant hrest
  have hjoined : Held s s₆ := yields_joinTenant hended (hopen.of_rows hrows) hjoin
  exact hjoined.of_accounts (yields_linkCustomer hlink)

theorem ends_newPasswordHash {control : Proof} (h : Kept s t) :
    Ends env d t (fun _ _ t' => t' = t) (Kept s) (newPasswordHash crypto control) := by
  cases control with
  | keeps => exact ends_pure rfl
  | newPassword password => exact ends_draw_bind (ends_read_bind (ends_pure rfl) h)

theorem ends_accept (hs : SessionsSound s) :
    Ends env 0 s (fun _ _ => Kept s) (Kept s) (accept crypto input) := by
  have hkept := (Held.refl hs).kept
  refine ends_read_bind (ends_draw_bind (ends_lift_bind (fun invitation _ => ?_) hkept)) hkept
  refine ends_read_bind (ends_lift_bind (fun u _ => ?_) hkept) hkept
  refine ends_lift_bind (fun control _ => ?_) hkept
  refine (ends_newPasswordHash hkept).bind ?_
  rintro passwordHash d₁ s₁ rfl
  refine Ends.bind (ends_transaction inside_writeAcceptance (fun u d' t' hy => ?_) hkept)
    fun _ _ _ h => ends_auditKept h
  exact (yields_writeAcceptance hs hy).kept

end acceptance
end OmniSupport.Auth
