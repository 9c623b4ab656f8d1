import OmniSupport.Auth.InvitationCalls

/-! Any number of calls on invitations at once: each invitation is accepted at most once and
only while it is open, nobody joins a tenant twice, and links stay one to one. -/
namespace OmniSupport.Auth
open Foundation Database Identity ReadCommitted AccountStatement

inductive InvitationCall where
  | create (input : CreateInvitationInput)
  | accept (input : AcceptInput)
  | revoke (id tenantId actorId : Uuid)
  | resend (id tenantId actorId : Uuid)

section calls
variable (crypto : AuthCrypto)

def invitationScript : InvitationCall → AccountScript
  | .create input => .after (InvitationCalls.create crypto input) fun _ => .done
  | .accept input => InvitationCalls.accept crypto input
  | .revoke id tenantId actorId => .after (InvitationCalls.revoke id tenantId actorId) fun _ => .done
  | .resend id tenantId actorId =>
    .after (InvitationCalls.resend crypto id tenantId actorId) fun _ => .done

/-- Each turn of a call brings its own reading of the clock. -/
def invitationPool : Program (Server Store AccountStatement AccountKey)
    (Caller ServiceEnv Store AccountStatement AppError InvitationCall)
    (Process.Turn ServiceEnv InvitationCall) Empty :=
  ReadCommitted.pool accountStatements accountLocking (invitationScript crypto)

end calls

/-- The statements of the transaction of `accept`. New accounts belong to a tenant. -/
def ofAcceptance : AccountStatement → Prop
  | .find .. | .countStaff _ | .claimInvitation .. | .deleteOAuthAccounts _ | .revokeTokens ..
  | .joinTenant .. | .linkCustomer _ => True
  | .createUser row => row.tenantId.isSome = true
  | _ => False

/-- The statements a call runs outside of a transaction. -/
def besideAcceptance : InvitationCall → AccountStatement → Prop
  | _, .find .. | _, .audit _ => True
  | .create _, .createInvitation _ => True
  | .revoke .., .revokeInvitation .. => True
  | .resend .., .renewInvitation .. => True
  | _, _ => False

def ofInvitations : AccountStatement → Prop := planned ofAcceptance besideAcceptance

section plans
open Process AccountProcess InvitationCalls
variable {crypto : AuthCrypto} {O : AccountStatement → Prop} {invitation : Invitation}

theorem issues_find {α : Type} {client : Client} {kind : ServiceCall} {f : Store → α}
    (hO : O (.find client kind)) : (find client kind f).Issues O fun _ => True :=
  issues_statement hO fun _ => trivial

theorem issues_execute {st : AccountStatement} (hO : O st) :
    (execute st : AccountProcess Unit).Issues O fun _ => True :=
  issues_statement hO fun _ => trivial

theorem issues_now : now.Issues O fun _ => True := issues_drawn fun _ _ => trivial

theorem issues_audit {entry : Time → AuditLog} (hO : ∀ row, O (.audit row)) :
    (audit entry).Issues O fun _ => True :=
  issues_now.bind fun _ _ => issues_tryExecute (hO _) trivial

theorem issues_checked {α : Type} {x : Except AppError α} :
    (lift x : AccountProcess α).Issues O fun _ => True :=
  issues_lift fun _ _ => trivial

theorem issues_claim (hO : ∀ id claimedAt acceptedAt, O (.claimInvitation id claimedAt acceptedAt)) :
    (claim invitation).Issues O fun _ => True :=
  issues_now.bind fun _ _ => issues_now.bind fun _ _ => issues_execute (hO _ _ _)

theorem issues_checkTenant (hO : ∀ client kind, O (.find client kind)) :
    (checkTenant invitation).Issues O fun _ => True :=
  (issues_find (hO _ _)).bind fun _ _ => issues_checked

theorem issues_checkCustomer (hO : ∀ client kind, O (.find client kind)) :
    (checkCustomer invitation).Issues O fun _ => True := by
  unfold checkCustomer
  cases invitation.customerId with
  | none => trivial
  | some customerId => exact (issues_find (hO _ _)).bind fun _ _ => issues_checked

theorem issues_checkSeat (hO : ∀ client kind, O (.find client kind))
    (hcount : ∀ tenantId, O (.countStaff tenantId)) :
    (checkSeat invitation).Issues O fun _ => True := by
  have hstaff : (statement (.countStaff invitation.tenantId)
      (Store.activeStaff invitation.tenantId) : AccountProcess Nat).Issues O fun _ => True :=
    issues_statement (hcount _) fun _ => trivial
  unfold checkSeat
  split
  · refine hstaff.bind fun _ _ => (issues_find (hO _ _)).bind fun _ _ => ?_
    exact issues_checked.bind fun _ _ => issues_checked
  · trivial

theorem issues_endAccountSessions {existing : Option User} {passwordHash : Option String}
    (hdelete : ∀ userId, O (.deleteOAuthAccounts userId))
    (hrevoke : ∀ client userId reason revokedAt, O (.revokeTokens client userId reason revokedAt)) :
    (endAccountSessions existing passwordHash).Issues O fun _ => True := by
  unfold endAccountSessions
  cases InvitationService.endsSessions existing passwordHash with
  | none => trivial
  | some userId =>
    refine (issues_execute (hdelete _)).bind fun _ _ => ?_
    exact issues_now.bind fun _ _ => issues_execute (hrevoke _ _ _ _)

theorem issues_link {userId : Uuid} (hO : ∀ row, O (.linkCustomer row)) :
    (link invitation userId).Issues O fun _ => True := by
  unfold link
  cases invitation.customerId with
  | none => trivial
  | some customerId => exact issues_execute (hO _)

theorem issues_join {input : AcceptInput} {existing : Option User}
    {passwordHash : Option String} :
    (join invitation input existing passwordHash).Issues ofAcceptance fun _ => True := by
  refine issues_now.bind fun verifiedAt _ => issues_now.bind fun writtenAt _ => ?_
  cases existing with
  | some user => exact issues_statement trivial fun _ => trivial
  | none =>
    refine Issues.bind (issues_drawn (Q := fun _ => True) fun _ _ => trivial) fun id _ => ?_
    exact issues_statement rfl fun _ => trivial

theorem issues_acceptance {input : AcceptInput} {existing : Option User}
    {passwordHash : Option String} :
    (acceptance invitation input existing passwordHash).Issues ofAcceptance fun _ => True := by
  have hfind : ∀ client kind, ofAcceptance (.find client kind) := fun _ _ => trivial
  refine (issues_claim fun _ _ _ => trivial).bind fun _ _ => ?_
  refine (issues_checkTenant hfind).bind fun _ _ => (issues_checkCustomer hfind).bind fun _ _ => ?_
  refine (issues_checkSeat hfind fun _ => trivial).bind fun _ _ => ?_
  refine (issues_endAccountSessions (fun _ => trivial) fun _ _ _ _ => trivial).bind fun _ _ => ?_
  exact issues_join.bind fun userId _ => issues_link fun _ => trivial

theorem issues_drawn_any {α : Type} {f : ServiceEnv → Nat → α} :
    (drawn f : AccountProcess α).Issues O fun _ => True :=
  issues_drawn fun _ _ => trivial

theorem issues_checks {input : AcceptInput} :
    (checks crypto input).Issues (besideAcceptance (.accept input)) fun _ => True := by
  have hhash : ∀ control, (hashNewPassword crypto control).Issues
      (besideAcceptance (.accept input)) fun _ => True := by
    intro control
    cases control with
    | keeps => trivial
    | newPassword password =>
      exact issues_drawn_any.bind fun _ _ => (issues_find trivial).bind fun _ _ => trivial
  refine (issues_find trivial).bind fun found _ => issues_now.bind fun checkedAt _ => ?_
  refine issues_checked.bind fun invitation _ => (issues_find trivial).bind fun existing _ => ?_
  refine issues_checked.bind fun _ _ => issues_checked.bind fun control _ => ?_
  exact (hhash control).bind fun _ _ => trivial

theorem issues_create {input : CreateInvitationInput} :
    (create crypto input).Issues (besideAcceptance (.create input)) fun _ => True := by
  have hcustomer : (checkInvitedCustomer input).Issues (besideAcceptance (.create input))
      fun _ => True := by
    unfold checkInvitedCustomer
    cases input.customerId with
    | none => trivial
    | some customerId =>
      refine (issues_find trivial).bind fun _ _ => issues_checked.bind fun _ _ => ?_
      exact (issues_find trivial).bind fun _ _ => issues_checked
  refine issues_checked.bind fun _ _ => issues_checked.bind fun _ _ => ?_
  refine hcustomer.bind fun _ _ => (issues_find trivial).bind fun _ _ => ?_
  refine issues_checked.bind fun _ _ => issues_drawn_any.bind fun _ _ => ?_
  refine issues_now.bind fun _ _ => issues_drawn_any.bind fun _ _ => ?_
  refine (issues_execute trivial).bind fun _ _ => (issues_find trivial).bind fun _ _ => ?_
  exact issues_audit fun _ => trivial

theorem issues_resend {id tenantId actorId : Uuid} :
    (resend crypto id tenantId actorId).Issues (besideAcceptance (.resend id tenantId actorId))
      fun _ => True := by
  refine (issues_find trivial).bind fun _ _ => issues_checked.bind fun _ _ => ?_
  refine issues_drawn_any.bind fun _ _ => issues_now.bind fun _ _ => ?_
  refine (issues_execute trivial).bind fun _ _ => (issues_find trivial).bind fun _ _ => ?_
  exact issues_audit fun _ => trivial

theorem issues_revoke {id tenantId actorId : Uuid} :
    (revoke id tenantId actorId).Issues (besideAcceptance (.revoke id tenantId actorId))
      fun _ => True := by
  refine issues_now.bind fun _ _ => (issues_execute trivial).bind fun _ _ => ?_
  exact issues_audit fun _ => trivial

theorem invitationScript_allows (i : InvitationCall) : (invitationScript crypto i).Allows
    (besideAcceptance i) fun body => body.Issues ofAcceptance fun _ => True := by
  cases i with
  | create input => exact Script.allows_after issues_create fun _ _ => trivial
  | revoke id tenantId actorId => exact Script.allows_after issues_revoke fun _ _ => trivial
  | resend id tenantId actorId => exact Script.allows_after issues_resend fun _ _ => trivial
  | accept input =>
    refine Script.allows_after issues_checks fun checked _ => ⟨issues_acceptance, ?_⟩
    exact Script.allows_after (issues_audit fun _ => trivial) fun _ _ => trivial

end plans

theorem ofAcceptance_transactional {st : AccountStatement} (h : ofAcceptance st) :
    transactional st := by
  cases st <;> trivial

section spent
variable {s s' : Store} {st : AccountStatement} {id : Uuid}

/-- The unique columns of invitations and links. -/
structure InvitationKeys (s : Store) : Prop where
  invitations : (s.invitations.map Invitation.id).Nodup
  linkedUsers : (s.customerLinks.map CustomerLink.userId).Nodup
  linkedCustomers : (s.customerLinks.map CustomerLink.customerId).Nodup

/-- The invitation has been accepted or revoked. -/
def Closed (id : Uuid) (s : Store) : Prop :=
  (∃ row ∈ s.invitations, row.id = id) ∧
    ∀ row ∈ s.invitations, row.id = id → row.acceptedAt.isSome ∨ row.revokedAt.isSome

/-- The account has a tenant. -/
def Attached (id : Uuid) (s : Store) : Prop :=
  (∃ row ∈ s.users, row.id = id) ∧ ∀ row ∈ s.users, row.id = id → row.tenantId.isSome

def accepts : AccountStatement → Option Uuid
  | .claimInvitation id .. => some id
  | _ => none

def attaches : AccountStatement → Option Uuid
  | .joinTenant userId .. => some userId
  | .createUser row => some row.id
  | _ => none

/-- What a statement can do to the invitations: a closed one stays closed. -/
theorem invitations_cases (h : exec st s = .ok s') :
    s'.invitations = s.invitations ∨
      (∃ row, (∀ other ∈ s.invitations, other.id ≠ row.id) ∧
        s'.invitations = s.invitations ++ [row]) ∨
      ∃ f : Invitation → Invitation, s'.invitations = s.invitations.map f ∧
        ∀ row, (f row).id = row.id ∧ (row.acceptedAt.isSome ∨ row.revokedAt.isSome →
          (f row).acceptedAt.isSome ∨ (f row).revokedAt.isSome) := by
  cases st with
  | find | countStaff | deleteOAuthAccounts | revokeTokens | reassignTickets | reassignCustomers
  | deleteMemberships | audit =>
    cases h
    exact .inl rfl
  | enqueue rows =>
    cases h
    obtain ⟨outbox, hrows⟩ := enqueueMany_outbox (s := s) rows
    rw [hrows]
    exact .inl rfl
  | joinTenant | createUser | linkCustomer =>
    simp only [exec] at h
    split at h <;> cases h
    exact .inl rfl
  | setStatus | removeUser =>
    obtain ⟨rfl, -⟩ := updateOne_ok h
    exact .inl rfl
  | updateUser writtenAt user =>
    rw [updateRow_ok h]
    exact .inl rfl
  | createInvitation row =>
    simp only [exec] at h
    split at h
    · rename_i hnew
      cases h
      refine .inr (.inl ⟨row, ?_, rfl⟩)
      simpa [Store.findInvitationById] using hnew.1
    · cases h
  | claimInvitation id claimedAt acceptedAt =>
    simp only [exec] at h
    split at h <;> cases h
    refine .inr (.inr ⟨_, rfl, fun row => ?_⟩)
    by_cases hp : Store.openInvitation id claimedAt row <;> simp [hp]
  | revokeInvitation id tenantId revokedAt =>
    simp only [exec] at h
    split at h <;> cases h
    refine .inr (.inr ⟨_, rfl, fun row => ?_⟩)
    by_cases hp : Store.activeInvitation id tenantId row <;> simp [hp]
  | renewInvitation id tokenHash expiresAt =>
    simp only [exec] at h
    split at h <;> cases h
    refine .inr (.inr ⟨_, rfl, fun row => ?_⟩)
    by_cases hp : row.id = id <;> simp [hp]

/-- Accounts are written by the transactions of `accept` alone. -/
theorem ofAcceptance_of_users (hst : ofInvitations st)
    (h : ∀ i, ¬ besideAcceptance i st) : ofAcceptance st := by
  rcases hst with ⟨i, hi⟩ | hst
  · exact absurd hi (h i)
  · exact hst

/-- What a statement of the calls can do to the users: one with a tenant keeps one. -/
theorem users_cases (hst : ofInvitations st) (h : exec st s = .ok s') :
    s'.users = s.users ∨
      (∃ row, row.tenantId.isSome ∧ (∀ other ∈ s.users, other.id ≠ row.id) ∧
        s'.users = s.users ++ [row]) ∨
      ∃ f : User → User, s'.users = s.users.map f ∧
        ∀ row, (f row).id = row.id ∧ (row.tenantId.isSome → (f row).tenantId.isSome) := by
  cases st with
  | find | countStaff | deleteOAuthAccounts | revokeTokens | audit | reassignTickets
  | reassignCustomers
  | deleteMemberships =>
    cases h
    exact .inl rfl
  | enqueue rows =>
    cases h
    obtain ⟨outbox, hrows⟩ := enqueueMany_outbox (s := s) rows
    rw [hrows]
    exact .inl rfl
  | claimInvitation | revokeInvitation | renewInvitation | createInvitation | linkCustomer =>
    simp only [exec] at h
    split at h <;> cases h
    exact .inl rfl
  | setStatus | removeUser | updateUser =>
    have himpossible := ofAcceptance_of_users hst fun i => by cases i <;> exact id
    exact himpossible.elim
  | joinTenant userId invitation passwordHash verifiedAt writtenAt =>
    simp only [exec] at h
    split at h <;> cases h
    refine .inr (.inr ⟨_, rfl, fun row => ?_⟩)
    by_cases hp : row.id = userId <;> simp [hp, InvitationService.accepted]
  | createUser row =>
    have htenant : row.tenantId.isSome = true :=
      ofAcceptance_of_users hst fun i => by cases i <;> exact id
    simp only [exec] at h
    split at h
    · rename_i hnew
      cases h
      exact .inr (.inl ⟨row, htenant, fun other hother => (hnew.1 other hother).1, rfl⟩)
    · cases h

/-- What a statement can do to the links: a new one meets the unique columns. -/
theorem links_cases (h : exec st s = .ok s') :
    s'.customerLinks = s.customerLinks ∨
      ∃ row, s.linkInsertable row ∧ s'.customerLinks = s.customerLinks ++ [row] := by
  cases st with
  | find | countStaff | deleteOAuthAccounts | revokeTokens | audit | reassignTickets
  | reassignCustomers
  | deleteMemberships =>
    cases h
    exact .inl rfl
  | enqueue rows =>
    cases h
    obtain ⟨outbox, hrows⟩ := enqueueMany_outbox (s := s) rows
    rw [hrows]
    exact .inl rfl
  | claimInvitation | revokeInvitation | renewInvitation | createInvitation | joinTenant
  | createUser =>
    simp only [exec] at h
    split at h <;> cases h
    exact .inl rfl
  | setStatus | removeUser =>
    obtain ⟨rfl, -⟩ := updateOne_ok h
    exact .inl rfl
  | updateUser writtenAt user =>
    rw [updateRow_ok h]
    exact .inl rfl
  | linkCustomer row =>
    simp only [exec] at h
    split at h
    · rename_i hnew
      cases h
      exact .inr ⟨row, hnew, rfl⟩
    · cases h

theorem InvitationKeys.exec (hs : InvitationKeys s) (h : exec st s = .ok s') :
    InvitationKeys s' where
  invitations := by
    rcases invitations_cases h with hsame | ⟨row, hnew, hrows⟩ | ⟨f, hrows, hf⟩
    · rw [hsame]
      exact hs.invitations
    · rw [hrows]
      exact Table.nodup_insert hs.invitations hnew
    · have hids : (s.invitations.map f).map Invitation.id = s.invitations.map Invitation.id := by
        rw [List.map_map]
        exact List.map_congr_left fun row _ => (hf row).1
      rw [hrows, hids]
      exact hs.invitations
  linkedUsers := by
    rcases links_cases h with hsame | ⟨row, hnew, hrows⟩
    · rw [hsame]
      exact hs.linkedUsers
    · rw [hrows]
      exact Table.nodup_insert hs.linkedUsers fun link hlink => (hnew link hlink).1
  linkedCustomers := by
    rcases links_cases h with hsame | ⟨row, hnew, hrows⟩
    · rw [hsame]
      exact hs.linkedCustomers
    · rw [hrows]
      exact Table.nodup_insert hs.linkedCustomers fun link hlink => (hnew link hlink).2

theorem Closed.exec (hclosed : Closed id s) (h : AccountStatement.exec st s = .ok s') :
    Closed id s' := by
  obtain ⟨⟨row₀, hrow₀, hid₀⟩, hall⟩ := hclosed
  rcases invitations_cases h with hsame | ⟨row, hnew, hrows⟩ | ⟨f, hrows, hf⟩
  · rw [Closed, hsame]
    exact ⟨⟨row₀, hrow₀, hid₀⟩, hall⟩
  · rw [Closed, hrows]
    refine ⟨⟨row₀, List.mem_append_left _ hrow₀, hid₀⟩, fun other hother hid => ?_⟩
    rcases List.mem_append.mp hother with hold | hlast
    · exact hall other hold hid
    · rw [List.mem_singleton.mp hlast] at hid
      exact absurd (hid₀.trans hid.symm) (hnew row₀ hrow₀)
  · rw [Closed, hrows]
    refine ⟨⟨f row₀, List.mem_map_of_mem hrow₀, (hf row₀).1.trans hid₀⟩, fun other hother hid => ?_⟩
    obtain ⟨row, hrow, rfl⟩ := List.mem_map.mp hother
    exact (hf row).2 (hall row hrow ((hf row).1.symm.trans hid))

theorem Attached.exec (hattached : Attached id s) (hst : ofInvitations st)
    (h : AccountStatement.exec st s = .ok s') : Attached id s' := by
  obtain ⟨⟨row₀, hrow₀, hid₀⟩, hall⟩ := hattached
  rcases users_cases hst h with hsame | ⟨row, htenant, hnew, hrows⟩ | ⟨f, hrows, hf⟩
  · rw [Attached, hsame]
    exact ⟨⟨row₀, hrow₀, hid₀⟩, hall⟩
  · rw [Attached, hrows]
    refine ⟨⟨row₀, List.mem_append_left _ hrow₀, hid₀⟩, fun other hother hid => ?_⟩
    rcases List.mem_append.mp hother with hold | hlast
    · exact hall other hold hid
    · rw [List.mem_singleton.mp hlast]
      exact htenant
  · rw [Attached, hrows]
    refine ⟨⟨f row₀, List.mem_map_of_mem hrow₀, (hf row₀).1.trans hid₀⟩, fun other hother hid => ?_⟩
    obtain ⟨row, hrow, rfl⟩ := List.mem_map.mp hother
    exact (hf row).2 (hall row hrow ((hf row).1.symm.trans hid))

/-- What a claim finds. -/
theorem claim_ok {claimedAt acceptedAt : Time}
    (h : exec (.claimInvitation id claimedAt acceptedAt) s = .ok s') :
    (∃ row ∈ s.invitations, Store.openInvitation id claimedAt row) ∧
      s' = s.acceptInvitation id claimedAt acceptedAt := by
  simp only [exec] at h
  split at h
  · rename_i hone
    cases h
    have hpos : 0 < Table.count (Store.openInvitation id claimedAt) s.invitations := by omega
    exact ⟨Table.count_pos.mp hpos, rfl⟩
  · cases h

/-- After an update of the row with the id, the invitation is closed if that row is. -/
theorem closed_of_updateMany {p : Invitation → Prop} [DecidablePred p]
    {f : Invitation → Invitation} {row : Invitation} (hs : InvitationKeys s)
    (hrow : row ∈ s.invitations) (hid : row.id = id) (hp : p row) (hf : (f row).id = row.id)
    (hclosed : (f row).acceptedAt.isSome ∨ (f row).revokedAt.isSome)
    (hrows : s'.invitations = Table.updateMany p f s.invitations)
    (hkeep : ∀ row, (f row).id = row.id) : Closed id s' := by
  rw [Closed, hrows]
  refine ⟨⟨f row, Table.mem_updateMany.mpr (.inl ⟨row, hrow, hp, rfl⟩), hf.trans hid⟩, ?_⟩
  intro other hother hother'
  have hsame : ∀ r ∈ s.invitations, r.id = id → r = row := fun r hr hr' =>
    List.inj_on_of_nodup_map hs.invitations hr hrow (hr'.trans hid.symm)
  rcases Table.mem_updateMany.mp hother with ⟨r, hr, -, rfl⟩ | ⟨hr, hnot⟩
  · rw [hsame r hr ((hkeep r).symm.trans hother')]
    exact hclosed
  · rw [hsame other hr hother'] at hnot
    exact absurd hp hnot

theorem accepts_spends (hs : InvitationKeys s) (haccepts : accepts st = some id)
    (h : exec st s = .ok s') : ¬ Closed id s ∧ Closed id s' := by
  cases st with
  | claimInvitation id' claimedAt acceptedAt =>
    cases haccepts
    obtain ⟨⟨row, hrow, hopen⟩, rfl⟩ := claim_ok h
    refine ⟨fun hclosed => ?_, ?_⟩
    · rcases hclosed.2 row hrow hopen.1 with hsome | hsome
      · simp [hopen.2.1] at hsome
      · simp [hopen.2.2.1] at hsome
    · exact closed_of_updateMany hs hrow hopen.1 hopen rfl (.inl rfl) rfl fun _ => rfl
  | _ => cases haccepts

theorem revoke_closes {tenantId : Uuid} {revokedAt : Time} (hs : InvitationKeys s)
    (h : exec (.revokeInvitation id tenantId revokedAt) s = .ok s') : Closed id s' := by
  simp only [exec] at h
  split at h
  · rename_i hone
    cases h
    have hpos : 0 < Table.count (Store.activeInvitation id tenantId) s.invitations := by omega
    obtain ⟨row, hrow, hactive⟩ := Table.count_pos.mp hpos
    exact closed_of_updateMany hs hrow hactive.1 hactive rfl (.inr rfl) rfl fun _ => rfl
  · cases h

/-- What an acceptance finds of the account it attaches: it has no tenant, or is new. -/
theorem attaches_spends (hst : ofInvitations st) (hattaches : attaches st = some id)
    (h : exec st s = .ok s') : ¬ Attached id s ∧ Attached id s' := by
  cases st with
  | joinTenant userId invitation passwordHash verifiedAt writtenAt =>
    cases hattaches
    simp only [exec] at h
    split at h
    · rename_i hnone
      cases h
      obtain ⟨row, hfound, hrow⟩ := (Option.any_eq_true _ _).mp hnone
      obtain ⟨hmem, hid⟩ := Store.findUser_mem hfound
      have hno : row.tenantId = none := by simpa using hrow
      refine ⟨fun hattached => ?_, ⟨_, Table.mem_updateMany.mpr (.inl ⟨row, hmem, hid, rfl⟩), hid⟩,
        fun other hother hother' => ?_⟩
      · have hsome := hattached.2 row hmem hid
        simp [hno] at hsome
      · rcases Table.mem_updateMany.mp hother with ⟨r, -, -, rfl⟩ | ⟨-, hnot⟩
        · rfl
        · exact absurd hother' hnot
    · cases h
  | createUser row =>
    cases hattaches
    have htenant : row.tenantId.isSome = true :=
      ofAcceptance_of_users hst fun i => by cases i <;> exact fun h => h
    simp only [exec] at h
    split at h
    · rename_i hnew
      cases h
      refine ⟨fun hattached => ?_, ⟨row, by simp [Store.insertUser], rfl⟩, fun other hother hid => ?_⟩
      · obtain ⟨other, hother, hid⟩ := hattached.1
        exact (hnew.1 other hother).1 hid
      · rcases List.mem_append.mp hother with hold | hlast
        · exact absurd hid (hnew.1 other hold).1
        · rw [List.mem_singleton.mp hlast]
          exact htenant
    · cases h
  | _ => cases hattaches

end spent

section history
variable {s : Store} {before after : List AccountStatement}

/-- The history of the calls, from the store `s` on. An acceptance finds its invitation
open at the reading of the clock it is claimed at, and none of its revocations is committed. -/
structure UsedOnce (s : Store) (history : List AccountStatement) : Prop where
  accepted : (history.filterMap accepts).Nodup
  attached : (history.filterMap attaches).Nodup
  opened : ∀ before id claimedAt acceptedAt after,
    history = before ++ .claimInvitation id claimedAt acceptedAt :: after →
    (∃ row ∈ (effects accountStatements before s).invitations,
      Store.openInvitation id claimedAt row) ∧
      ∀ tenantId revokedAt, .revokeInvitation id tenantId revokedAt ∉ before
  tenantless : ∀ before userId invitation passwordHash verifiedAt writtenAt after,
    history = before ++ .joinTenant userId invitation passwordHash verifiedAt writtenAt :: after →
    ∃ row ∈ (effects accountStatements before s).users, row.id = userId ∧ row.tenantId = none

theorem keys_exec (st : AccountStatement) (s s' : Store) (hs : InvitationKeys s)
    (_ : ofInvitations st) (h : accountStatements.exec st s = .ok s') : InvitationKeys s' :=
  hs.exec h

/-- An invitation that a statement of the history has closed is closed at its end. -/
theorem closed_of_revoked {sts : List AccountStatement} {id tenantId : Uuid} {revokedAt : Time}
    (hsts : ∀ st ∈ sts, ofInvitations st) (h : Admitted accountStatements sts s)
    (hs : InvitationKeys s) (hmem : .revokeInvitation id tenantId revokedAt ∈ sts) :
    Closed id (effects accountStatements sts s) := by
  induction sts generalizing s with
  | nil => cases hmem
  | cons st rest ih =>
    obtain ⟨⟨s₁, hexec⟩, hrest⟩ := h
    rw [effect_of_exec hexec] at hrest
    have hrest' : ∀ st ∈ rest, ofInvitations st := fun st' h' => hsts st' (List.mem_cons_of_mem _ h')
    have hs₁ : InvitationKeys s₁ := hs.exec hexec
    have hsplit : effects accountStatements (st :: rest) s = effects accountStatements rest s₁ := by
      rw [← effect_of_exec hexec]
      rfl
    rw [hsplit]
    rcases List.mem_cons.mp hmem with rfl | hmem
    · have hclosed : Closed id s₁ := revoke_closes hs hexec
      exact spent_effects keys_exec (fun _ _ _ _ _ hex hcl => hcl.exec hex) hrest' hrest hs₁ hclosed
    · exact ih hrest' hrest hs₁ hmem

theorem usedOnce_of_admitted {history : List AccountStatement}
    (hsts : ∀ st ∈ history, ofInvitations st) (h : Admitted accountStatements history s)
    (hs : InvitationKeys s) : UsedOnce s history where
  accepted := by
    refine (nodup_marks Closed keys_exec ?_ ?_ hsts h hs).1
    · exact fun id st s s' _ _ hexec hclosed => hclosed.exec hexec
    · exact fun id st s s' hs _ hmark hexec => accepts_spends hs hmark hexec
  attached := by
    refine (nodup_marks Attached keys_exec ?_ ?_ hsts h hs).1
    · exact fun id st s s' _ hst hexec hattached => hattached.exec hst hexec
    · exact fun id st s s' _ hst hmark hexec => attaches_spends hst hmark hexec
  opened before id claimedAt acceptedAt after heq := by
    subst heq
    obtain ⟨hbefore, ⟨s₁, hexec⟩, -⟩ := admitted_append.mp h
    have hfound := (claim_ok hexec).1
    refine ⟨hfound, fun tenantId revokedAt hmem => ?_⟩
    have hclosed := closed_of_revoked (fun st hst => hsts st (List.mem_append_left _ hst)) hbefore
      hs hmem
    have hkeys : InvitationKeys (effects accountStatements before s) :=
      effects_keep keys_exec (fun st hst => hsts st (List.mem_append_left _ hst)) hbefore hs
    have hclaim : exec (.claimInvitation id claimedAt acceptedAt)
        (effects accountStatements before s) = .ok s₁ := hexec
    have hmark : accepts (.claimInvitation id claimedAt acceptedAt) = some id := rfl
    exact (accepts_spends hkeys hmark hclaim).1 hclosed
  tenantless before userId invitation passwordHash verifiedAt writtenAt after heq := by
    subst heq
    obtain ⟨-, ⟨s₁, hexec⟩, -⟩ := admitted_append.mp h
    simp only [accountStatements, exec] at hexec
    split at hexec
    · rename_i hnone
      obtain ⟨row, hfound, hrow⟩ := (Option.any_eq_true _ _).mp hnone
      obtain ⟨hmem, hid⟩ := Store.findUser_mem hfound
      exact ⟨row, hmem, hid, by simpa using hrow⟩
    · cases hexec

end history

/-- The tables an acceptance writes are as they were. -/
structure KeepsAccounts (s s' : Store) : Prop where
  users : s'.users = s.users
  invitations : s'.invitations = s.invitations
  customerLinks : s'.customerLinks = s.customerLinks
  oauthAccounts : s'.oauthAccounts = s.oauthAccounts
  refreshTokens : s'.refreshTokens = s.refreshTokens

theorem KeepsAccounts.refl (s : Store) : KeepsAccounts s s := ⟨rfl, rfl, rfl, rfl, rfl⟩

/-- Outside of its transaction, `accept` reads and writes the audit log. -/
theorem keepsAccounts_of_accept {input : AcceptInput} {st : AccountStatement} {s s' : Store}
    (hst : besideAcceptance (.accept input) st) (h : exec st s = .ok s') : KeepsAccounts s s' := by
  cases st with
  | find | audit =>
    cases h
    exact ⟨rfl, rfl, rfl, rfl, rfl⟩
  | _ => exact hst.elim

section runs
variable {crypto : AuthCrypto} {s : Store}
  {c : ReadCommitted.Pool ServiceEnv Store AccountStatement AccountKey AppError InvitationCall}
  {moves : List (Move (Process.Turn ServiceEnv InvitationCall) Empty)}

theorem invitations_orderly (hrun : (invitationPool crypto).machine.run (idle s) moves = some c) :
    (orderly accountStatements accountLocking ofAcceptance besideAcceptance s).Holds c :=
  run_orderly (accountLocking_lawful.mono fun _ => ofAcceptance_transactional)
    invitationScript_allows hrun

end runs

section race

def invitedAccount : User :=
  { (default : User) with
    id := 7, email := "ann@example.com", role := .customer, emailVerifiedAt := some 0 }

def staffInvitation : Invitation := ⟨5, 2, "ann@example.com", .agent, none, "t", 100, none, none⟩

def invitedStore : Store where
  tickets := []
  comments := []
  customers := []
  tenants := [{ (default : Tenant) with id := 2, status := .active, maxAgents := 3 }]
  users := [invitedAccount]
  refreshTokens := []
  sequences := []
  activities := []
  audits := []
  outbox := []
  invitations := [staffInvitation]

def turns {ι : Type} (p n : Nat) : List (Move (Process.Turn ServiceEnv ι) Empty) :=
  List.replicate n (.act p (.next sampleEnv 0))

/-- Two calls with one token: both pass the checks before their transactions, and the second
one waits for the claim of the first. -/
def twoAcceptances : List (Move (Process.Turn ServiceEnv InvitationCall) Empty) :=
  let input : AcceptInput := ⟨"t", none, none, none, some 7⟩
  [.act 0 (.start (.accept input)), .act 1 (.start (.accept input))] ++
    turns 0 4 ++ turns 1 6 ++ turns 0 12 ++ turns 1 1

end race
end OmniSupport.Auth
