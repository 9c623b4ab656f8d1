import OmniSupport.Auth.AccountStatements
import OmniSupport.Database.ServiceRules

/-! The locks of the account statements are lawful: what a statement finds and changes under
its keys depends on these keys alone, and it changes nothing under any other. -/
namespace OmniSupport.Auth
open Foundation Database Identity Outbox ReadCommitted AccountStatement

section rows
variable {ρ κ : Type} [DecidableEq κ] {p : ρ → Prop} [DecidablePred p] {f : ρ → ρ} {key : ρ → κ}
  {k : κ} {rows rows' : List ρ}

/-- An update of a selection of rows by key is the selection of the updated rows. -/
theorem filter_updateMany_key (hkey : ∀ r, key (f r) = key r) :
    (Table.updateMany p f rows).filter (fun r => key r = k) =
      Table.updateMany p f (rows.filter fun r => key r = k) := by
  induction rows with
  | nil => rfl
  | cons r rest ih =>
    simp only [Table.updateMany, List.map_cons, List.filter_cons] at ih ⊢
    have hsame : key (if p r then f r else r) = key r := by
      by_cases hp : p r <;> simp [hp, hkey]
    rw [hsame, ih]
    by_cases hr : key r = k <;> simp [hr]

theorem count_of_filter_eq (hp : ∀ r, p r → key r = k)
    (h : rows.filter (fun r => key r = k) = rows'.filter fun r => key r = k) :
    Table.count p rows = Table.count p rows' := by
  have hwithin : ∀ rows : List ρ,
      Table.count p rows = Table.count p (rows.filter fun r => key r = k) := by
    intro rows
    simp only [Table.count, List.countP_filter]
    refine List.countP_congr fun r _ => ?_
    by_cases hr : p r
    · simp [hr, hp r hr]
    · simp [hr]
  rw [hwithin, hwithin rows', h]

theorem find?_of_filter_eq (h : rows.filter (fun r => key r = k) =
    rows'.filter fun r => key r = k) :
    (rows.find? fun r => key r = k) = rows'.find? fun r => key r = k := by
  rw [← List.head?_filter, ← List.head?_filter, h]

/-- A row with the key is in one selection when it is in the other. -/
theorem exists_of_filter_eq (h : rows.filter (fun r => key r = k) =
    rows'.filter fun r => key r = k) :
    (∀ r ∈ rows, key r ≠ k) ↔ ∀ r ∈ rows', key r ≠ k := by
  have hempty : ∀ rows : List ρ, (∀ r ∈ rows, key r ≠ k) ↔
      rows.filter (fun r => key r = k) = [] := by
    intro rows
    simp
  rw [hempty, hempty, h]

end rows

section frame
variable {s t : Store} {k : AccountKey}

theorem shows_congr (hinvitations : t.invitations = s.invitations) (husers : t.users = s.users)
    (hlinks : t.customerLinks = s.customerLinks) (htenants : t.tenants = s.tenants) :
    k.shows s = k.shows t := by
  cases k <;> simp only [AccountKey.shows, hinvitations, husers, hlinks, htenants]

theorem shows_updateInvitations {id : Uuid} {p : Invitation → Prop} [DecidablePred p]
    {f : Invitation → Invitation} (hp : ∀ row, p row → row.id = id)
    (hid : ∀ row, (f row).id = row.id) (hk : k ≠ .invitation id) :
    k.shows s = k.shows { s with invitations := Table.updateMany p f s.invitations } := by
  cases k with
  | invitation id' =>
    have hne : id' ≠ id := fun he => hk (congrArg _ he)
    have hrows : (Table.updateMany p f s.invitations).filter (fun row => row.id = id') =
        s.invitations.filter fun row => row.id = id' := by
      refine Table.filter_updateMany fun row _ hrow => ?_
      have hold : row.id = id := hp row hrow
      exact ⟨fun he => hne (he.symm.trans hold), fun he => hne (he.symm.trans (hid row ▸ hold))⟩
    simp only [AccountKey.shows, hrows]
  | _ => rfl

theorem shows_insertInvitation {row : Invitation} (hk : k ≠ .invitation row.id) :
    k.shows s = k.shows (s.insertInvitation row) := by
  cases k with
  | invitation id =>
    have hne : ¬ row.id = id := fun he => hk (congrArg _ he.symm)
    simp [AccountKey.shows, Store.insertInvitation, hne]
  | _ => rfl

/-- An update of one account. Of its email, the old value and the new one change. -/
theorem shows_updateUser {id : Uuid} {f : User → User} (hid : ∀ row, (f row).id = row.id)
    (hk : k ≠ .user id) (hemail : ∀ row ∈ s.users, row.id = id → (f row).email ≠ row.email →
      k ≠ .email row.email ∧ k ≠ .email (f row).email) :
    k.shows s = k.shows (s.updateUser id f) := by
  cases k with
  | user id' =>
    have hne : id' ≠ id := fun he => hk (congrArg _ he)
    have hrows : (Table.updateMany (fun row => row.id = id) f s.users).filter
        (fun row => row.id = id') = s.users.filter fun row => row.id = id' := by
      refine Table.filter_updateMany fun row _ hrow => ?_
      exact ⟨fun he => hne (he.symm.trans hrow), fun he => hne (he.symm.trans (hid row ▸ hrow))⟩
    simp only [AccountKey.shows, Store.updateUser, hrows]
  | email text =>
    have hemails : ∀ users : List User, (∀ row ∈ users, row ∈ s.users) →
        ((Table.updateMany (fun row => row.id = id) f users).map User.email).filter
          (fun email => email = text) = (users.map User.email).filter fun email => email = text := by
      intro users
      induction users with
      | nil => exact fun _ => rfl
      | cons row rest ih =>
        intro hmem
        have hrest := ih fun r hr => hmem r (List.mem_cons_of_mem _ hr)
        simp only [Table.updateMany, List.map_cons, List.filter_cons] at hrest ⊢
        rw [hrest]
        by_cases hrow : row.id = id
        · by_cases hsame : (f row).email = row.email
          · simp [hrow, hsame]
          · obtain ⟨hold, hnew⟩ := hemail row (hmem row List.mem_cons_self) hrow hsame
            have hold' : ¬ row.email = text := fun he => hold (congrArg _ he.symm)
            have hnew' : ¬ (f row).email = text := fun he => hnew (congrArg _ he.symm)
            simp [hrow, hold', hnew']
        · simp [hrow]
    simp only [AccountKey.shows, Store.updateUser, hemails s.users fun _ h => h]
  | _ => rfl

theorem shows_insertUser {row : User} (hid : k ≠ .user row.id) (hemail : k ≠ .email row.email) :
    k.shows s = k.shows (s.insertUser row) := by
  cases k with
  | user id =>
    have hne : ¬ row.id = id := fun he => hid (congrArg _ he.symm)
    simp [AccountKey.shows, Store.insertUser, hne]
  | email text =>
    have hne : ¬ row.email = text := fun he => hemail (congrArg _ he.symm)
    simp [AccountKey.shows, Store.insertUser, hne]
  | _ => rfl

theorem shows_insertCustomerLink {row : CustomerLink} (huser : k ≠ .linkedUser row.userId)
    (hcustomer : k ≠ .linkedCustomer row.customerId) :
    k.shows s = k.shows (s.insertCustomerLink row) := by
  cases k with
  | linkedUser id =>
    have hne : ¬ row.userId = id := fun he => huser (congrArg _ he.symm)
    simp [AccountKey.shows, Store.insertCustomerLink, hne]
  | linkedCustomer id =>
    have hne : ¬ row.customerId = id := fun he => hcustomer (congrArg _ he.symm)
    simp [AccountKey.shows, Store.insertCustomerLink, hne]
  | _ => rfl

theorem updateOne_ok {id : Uuid} {f : User → User} (h : updateOne id f s = .ok t) :
    t = s.updateUser id f ∧ (s.findUser id).isSome = true := by
  simp only [updateOne] at h
  split at h
  · rename_i hfound
    cases h
    exact ⟨rfl, hfound⟩
  · cases h

theorem updateRow_ok {writtenAt : Time} {user : User}
    (h : exec (.updateUser writtenAt user) s = .ok t) :
    t = s.updateUser user.id (User.write writtenAt user) := by
  simp only [exec, UserRepository.updateRow] at h
  cases hfound : s.findUser user.id with
  | none =>
    rw [hfound] at h
    cases h
  | some row =>
    rw [hfound] at h
    simp only at h
    split at h
    · cases h
    · cases h
      rfl

/-- A statement changes nothing under a key it does not lock. -/
theorem exec_frame {st : AccountStatement} (h : exec st s = .ok t) (hk : k ∉ keys st s) :
    k.shows s = k.shows t := by
  cases st with
  | find | countStaff | deleteOAuthAccounts | revokeTokens | reassignTickets | reassignCustomers
  | deleteMemberships | audit =>
    cases h
    exact shows_congr rfl rfl rfl rfl
  | enqueue rows =>
    cases h
    obtain ⟨outbox, hrows⟩ := enqueueMany_outbox (s := s) rows
    rw [hrows]
    exact shows_congr rfl rfl rfl rfl
  | claimInvitation id claimedAt acceptedAt =>
    simp only [exec] at h
    split at h <;> cases h
    exact shows_updateInvitations (fun row hrow => hrow.1) (fun _ => rfl) (by simpa [keys] using hk)
  | revokeInvitation id tenantId revokedAt =>
    simp only [exec] at h
    split at h <;> cases h
    exact shows_updateInvitations (fun row hrow => hrow.1) (fun _ => rfl) (by simpa [keys] using hk)
  | renewInvitation id tokenHash expiresAt =>
    simp only [exec] at h
    split at h <;> cases h
    exact shows_updateInvitations (fun _ hrow => hrow) (fun _ => rfl) (by simpa [keys] using hk)
  | createInvitation row =>
    simp only [exec] at h
    split at h <;> cases h
    exact shows_insertInvitation (by simpa [keys] using hk)
  | joinTenant userId invitation passwordHash verifiedAt writtenAt =>
    simp only [exec] at h
    split at h <;> cases h
    exact shows_updateUser (fun _ => rfl) (by simpa [keys] using hk) fun _ _ _ hne => absurd rfl hne
  | createUser row =>
    simp only [exec] at h
    have hboth : k ≠ .user row.id ∧ k ≠ .email row.email := by simpa [keys] using hk
    split at h <;> cases h
    exact shows_insertUser hboth.1 hboth.2
  | linkCustomer row =>
    simp only [exec] at h
    have hboth : k ≠ .linkedUser row.userId ∧ k ≠ .linkedCustomer row.customerId := by
      simpa [keys] using hk
    split at h <;> cases h
    exact shows_insertCustomerLink hboth.1 hboth.2
  | setStatus id active writtenAt =>
    obtain ⟨rfl, -⟩ := updateOne_ok h
    exact shows_updateUser (fun _ => rfl) (by simpa [keys] using hk) fun _ _ _ hne => absurd rfl hne
  | removeUser userId removedAt writtenAt =>
    obtain ⟨rfl, -⟩ := updateOne_ok h
    exact shows_updateUser (fun _ => rfl) (by simpa [keys] using hk) fun _ _ _ hne => absurd rfl hne
  | updateUser writtenAt user =>
    rw [updateRow_ok h]
    have hboth : (k ≠ .user user.id ∧ k ≠ .email user.email) ∧
        ∀ row ∈ s.users, row.id = user.id → k ≠ .email row.email := by
      refine ⟨⟨fun he => hk ?_, fun he => hk ?_⟩, fun row hrow hid he => hk ?_⟩
      · simp [keys, he]
      · simp [keys, he]
      · rw [he]
        refine List.mem_append_right _ (List.mem_map.mpr ⟨row, ?_, rfl⟩)
        simpa using ⟨hrow, hid⟩
    exact shows_updateUser (fun _ => rfl) hboth.1.1 fun row hrow hid _ =>
      ⟨hboth.2 row hrow hid, hboth.1.2⟩

end frame

section determined
variable {s t s' : Store}

theorem invitations_eq {id : Uuid}
    (h : (AccountKey.invitation id).shows s = (AccountKey.invitation id).shows t) :
    (s.invitations.filter fun row => row.id = id) = t.invitations.filter fun row => row.id = id :=
  congrArg Shown.invitations h

theorem users_eq {id : Uuid} (h : (AccountKey.user id).shows s = (AccountKey.user id).shows t) :
    (s.users.filter fun row => row.id = id) = t.users.filter fun row => row.id = id :=
  congrArg Shown.users h

theorem shows_updateUser_same {id : Uuid} {f : User → User} (hid : ∀ row, (f row).id = row.id)
    (h : (AccountKey.user id).shows s = (AccountKey.user id).shows t) :
    (AccountKey.user id).shows (s.updateUser id f) =
      (AccountKey.user id).shows (t.updateUser id f) := by
  have htenants : s.tenants = t.tenants := congrArg Shown.tenants h
  simp only [AccountKey.shows, Store.updateUser, filter_updateMany_key hid, users_eq h, htenants]

theorem shows_acceptInvitation {id : Uuid} {claimedAt acceptedAt : Time}
    (h : (AccountKey.invitation id).shows s = (AccountKey.invitation id).shows t) :
    (AccountKey.invitation id).shows (s.acceptInvitation id claimedAt acceptedAt) =
      (AccountKey.invitation id).shows (t.acceptInvitation id claimedAt acceptedAt) := by
  have htenants : s.tenants = t.tenants := congrArg Shown.tenants h
  have hrows : ∀ s : Store,
      (s.acceptInvitation id claimedAt acceptedAt).invitations.filter (fun row => row.id = id) =
        Table.updateMany (Store.openInvitation id claimedAt)
          (fun row => { row with acceptedAt := some acceptedAt })
          (s.invitations.filter fun row => row.id = id) :=
    fun s => filter_updateMany_key fun _ => rfl
  simp only [AccountKey.shows, hrows, invitations_eq h]
  simp only [Store.acceptInvitation, htenants]

theorem updateOne_determined {id : Uuid} {f : User → User} (hid : ∀ row, (f row).id = row.id)
    (hexec : updateOne id f s = .ok s')
    (h : (AccountKey.user id).shows s = (AccountKey.user id).shows t) :
    ∃ t', updateOne id f t = .ok t' ∧
      ∀ k ∈ [AccountKey.user id], k.shows s' = k.shows t' := by
  obtain ⟨rfl, hfound⟩ := updateOne_ok hexec
  have hsame : s.findUser id = t.findUser id := find?_of_filter_eq (users_eq h)
  refine ⟨t.updateUser id f, ?_, fun k hk => ?_⟩
  · rw [hsame] at hfound
    exact if_pos hfound
  · rw [List.mem_singleton.mp hk]
    exact shows_updateUser_same hid h

theorem userInsertable_of_shows {row : User}
    (hid : (AccountKey.user row.id).shows s = (AccountKey.user row.id).shows t)
    (hemail : (AccountKey.email row.email).shows s = (AccountKey.email row.email).shows t)
    (h : s.userInsertable row) : t.userInsertable row := by
  have hids : ∀ user ∈ s.users, user.id ≠ row.id := fun user hu => (h.1 user hu).1
  have hemails : ∀ user ∈ s.users, user.email ≠ row.email := fun user hu => (h.1 user hu).2
  have htaken : ((s.users.map User.email).filter fun email => email = row.email) =
      (t.users.map User.email).filter fun email => email = row.email :=
    congrArg Shown.emails hemail
  have hids' := (exists_of_filter_eq (users_eq hid)).mp hids
  have hemails' : ∀ email ∈ t.users.map User.email, id email ≠ row.email := by
    refine (exists_of_filter_eq htaken).mp ?_
    simpa using hemails
  refine ⟨fun user hu => ⟨hids' user hu, hemails' _ (List.mem_map_of_mem hu)⟩, ?_⟩
  have htenants : s.tenants = t.tenants := congrArg Shown.tenants hid
  intro tenantId htenant
  have hfound := h.2 tenantId htenant
  rw [Store.findTenant, ← htenants]
  exact hfound

theorem linkInsertable_of_shows {row : CustomerLink}
    (huser : (AccountKey.linkedUser row.userId).shows s = (AccountKey.linkedUser row.userId).shows t)
    (hcustomer : (AccountKey.linkedCustomer row.customerId).shows s =
      (AccountKey.linkedCustomer row.customerId).shows t)
    (h : s.linkInsertable row) : t.linkInsertable row := by
  have husers := (exists_of_filter_eq (congrArg Shown.links huser)).mp fun link hl => (h link hl).1
  have hcustomers :=
    (exists_of_filter_eq (congrArg Shown.links hcustomer)).mp fun link hl => (h link hl).2
  exact fun link hl => ⟨husers link hl, hcustomers link hl⟩

/-- What a statement of a transaction finds under its keys decides what it does there. -/
theorem exec_determined {st : AccountStatement} (hst : transactional st)
    (hexec : exec st s = .ok s') (h : ∀ k ∈ keys st s, k.shows s = k.shows t) :
    ∃ t', exec st t = .ok t' ∧ ∀ k ∈ keys st s, k.shows s' = k.shows t' := by
  cases st with
  | find | countStaff | deleteOAuthAccounts | revokeTokens | reassignTickets | reassignCustomers
  | deleteMemberships =>
    exact ⟨_, rfl, fun k hk => absurd hk List.not_mem_nil⟩
  | claimInvitation id claimedAt acceptedAt =>
    have hsame := h (.invitation id) List.mem_cons_self
    have hcount : Table.count (Store.openInvitation id claimedAt) s.invitations =
        Table.count (Store.openInvitation id claimedAt) t.invitations :=
      count_of_filter_eq (fun row hrow => hrow.1) (invitations_eq hsame)
    simp only [exec] at hexec ⊢
    split at hexec
    · rename_i hone
      cases hexec
      refine ⟨_, if_pos (hcount ▸ hone), fun k hk => ?_⟩
      rw [List.mem_singleton.mp hk]
      exact shows_acceptInvitation hsame
    · cases hexec
  | joinTenant userId invitation passwordHash verifiedAt writtenAt =>
    have hsame := h (.user userId) List.mem_cons_self
    have hfound : s.findUser userId = t.findUser userId := find?_of_filter_eq (users_eq hsame)
    simp only [exec] at hexec ⊢
    split at hexec
    · rename_i hnone
      cases hexec
      rw [hfound] at hnone
      refine ⟨_, if_pos hnone, fun k hk => ?_⟩
      rw [List.mem_singleton.mp hk]
      exact shows_updateUser_same (fun _ => rfl) hsame
    · cases hexec
  | removeUser userId removedAt writtenAt =>
    exact updateOne_determined (fun _ => rfl) hexec (h _ List.mem_cons_self)
  | createUser row =>
    have hid := h (.user row.id) List.mem_cons_self
    have hemail := h (.email row.email) (List.mem_cons_of_mem _ List.mem_cons_self)
    simp only [exec] at hexec ⊢
    split at hexec
    · rename_i hnew
      cases hexec
      refine ⟨_, if_pos (userInsertable_of_shows hid hemail hnew), fun k hk => ?_⟩
      have htenants : s.tenants = t.tenants := congrArg Shown.tenants hid
      have htaken : ((s.users.map User.email).filter fun email => email = row.email) =
          (t.users.map User.email).filter fun email => email = row.email :=
        congrArg Shown.emails hemail
      rcases List.mem_cons.mp hk with rfl | hk
      · simp only [AccountKey.shows, Store.insertUser, List.filter_append, users_eq hid, htenants]
      · rw [List.mem_singleton.mp hk]
        simp only [AccountKey.shows, Store.insertUser, List.map_append, List.filter_append, htaken,
          htenants]
    · cases hexec
  | linkCustomer row =>
    have huser := h (.linkedUser row.userId) List.mem_cons_self
    have hcustomer := h (.linkedCustomer row.customerId)
      (List.mem_cons_of_mem _ List.mem_cons_self)
    simp only [exec] at hexec ⊢
    split at hexec
    · rename_i hnew
      cases hexec
      refine ⟨_, if_pos (linkInsertable_of_shows huser hcustomer hnew), fun k hk => ?_⟩
      have htenants : s.tenants = t.tenants := congrArg Shown.tenants huser
      have husers : (s.customerLinks.filter fun link => link.userId = row.userId) =
          t.customerLinks.filter fun link => link.userId = row.userId :=
        congrArg Shown.links huser
      have hcustomers : (s.customerLinks.filter fun link => link.customerId = row.customerId) =
          t.customerLinks.filter fun link => link.customerId = row.customerId :=
        congrArg Shown.links hcustomer
      rcases List.mem_cons.mp hk with rfl | hk
      · simp only [AccountKey.shows, Store.insertCustomerLink, List.filter_append, husers, htenants]
      · rw [List.mem_singleton.mp hk]
        simp only [AccountKey.shows, Store.insertCustomerLink, List.filter_append, hcustomers,
          htenants]
    · cases hexec
  | revokeInvitation | renewInvitation | createInvitation | setStatus | updateUser | audit
  | enqueue => exact hst.elim

end determined

theorem accountLocking_lawful : Lawful accountStatements accountLocking transactional where
  equivalence _ := ⟨fun _ => rfl, fun h => h.symm, fun h h' => h.trans h'⟩
  fixed st s t hst := by
    cases st with
    | updateUser => exact hst.elim
    | _ => rfl
  frame _ _ _ _ hexec hk := exec_frame hexec hk
  determined _ _ _ _ hst hexec h := exec_determined hst hexec h

end OmniSupport.Auth
