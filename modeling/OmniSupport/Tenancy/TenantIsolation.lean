import OmniSupport.Tenancy.TenantCalls
import OmniSupport.Tenancy.TenantSlices

/-! The calls of the ticket and the customer service work on the rows of one organization: they
change no others, and answer the same whatever the others hold. -/
namespace OmniSupport.Tenancy
open Foundation Effect Database Table Ticketing Customers

/-- A call of the ticket or the customer service. -/
inductive TenantCall where
  | createTicket (dto : CreateTicketDto)
  | updateTicket (dto : UpdateTicketDto)
  | assignTicket (dto : AssignTicketDto)
  | changeStatus (dto : ChangeStatusDto)
  | escalateTicket (dto : EscalateTicketDto)
  | addComment (dto : AddCommentDto)
  | editComment (dto : EditCommentDto)
  | deleteComment (dto : DeleteCommentDto)
  | getTicket (id tenantId : Uuid)
  | listTickets (filters : TicketFilters) (pagination : PaginationOptions)
  | getTicketHistory (ticketId tenantId : Uuid) (page limit : Nat)
  | createCustomer (dto : CreateCustomerDto)
  | updateCustomer (dto : UpdateCustomerDto)
  | deleteCustomer (customerId tenantId deletedById : Uuid) (deletedByRole : UserRole)
  | getCustomer (customerId tenantId : Uuid)
  | listCustomers (filters : CustomerFilters) (pagination : PaginationOptions)
  | getCustomerTimeline (customerId tenantId : Uuid) (page limit : Nat)
  | updateRiskScore (customerId tenantId : Uuid) (score : JsNumber) (label : String)

namespace TenantCall

/-- The organization the call is made for. -/
def tenantId : TenantCall → Uuid
  | createTicket dto => dto.tenantId
  | updateTicket dto => dto.tenantId
  | assignTicket dto => dto.tenantId
  | changeStatus dto => dto.tenantId
  | escalateTicket dto => dto.tenantId
  | addComment dto => dto.tenantId
  | editComment dto => dto.tenantId
  | deleteComment dto => dto.tenantId
  | getTicket _ tenantId => tenantId
  | listTickets filters _ => filters.tenantId
  | getTicketHistory _ tenantId _ _ => tenantId
  | createCustomer dto => dto.tenantId
  | updateCustomer dto => dto.tenantId
  | deleteCustomer _ tenantId _ _ => tenantId
  | getCustomer _ tenantId => tenantId
  | listCustomers filters _ => filters.tenantId
  | getCustomerTimeline _ tenantId _ _ => tenantId
  | updateRiskScore _ tenantId _ _ => tenantId

abbrev Answer : TenantCall → Type
  | createTicket _ | updateTicket _ | assignTicket _ | changeStatus _ | escalateTicket _ => Ticket
  | addComment _ => TicketCommentWithAuthor
  | editComment _ => TicketComment
  | deleteComment _ | deleteCustomer _ _ _ _ => Unit
  | getTicket _ _ => TicketEntity
  | listTickets _ _ => PaginatedResult Ticket
  | getTicketHistory _ _ _ _ | getCustomerTimeline _ _ _ _ => PaginatedResult ActivityLog
  | createCustomer _ | updateCustomer _ | updateRiskScore _ _ _ _ => Customer
  | getCustomer _ _ => CustomerEntity
  | listCustomers _ _ => PaginatedResult Customer

def perform : (call : TenantCall) → ServiceM call.Answer
  | createTicket dto => TicketService.createTicket dto
  | updateTicket dto => TicketService.updateTicket dto
  | assignTicket dto => TicketService.assignTicket dto
  | changeStatus dto => TicketService.changeStatus dto
  | escalateTicket dto => TicketService.escalateTicket dto
  | addComment dto => TicketService.addComment dto
  | editComment dto => TicketService.editComment dto
  | deleteComment dto => TicketService.deleteComment dto
  | getTicket id tenantId => TicketService.getTicket id tenantId
  | listTickets filters pagination => TicketService.listTickets filters pagination
  | getTicketHistory ticketId tenantId page limit =>
    TicketService.getTicketHistory ticketId tenantId page limit
  | createCustomer dto => CustomerService.createCustomer dto
  | updateCustomer dto => CustomerService.updateCustomer dto
  | deleteCustomer customerId tenantId deletedById deletedByRole =>
    CustomerService.deleteCustomer customerId tenantId deletedById deletedByRole
  | getCustomer customerId tenantId => CustomerService.getCustomer customerId tenantId
  | listCustomers filters pagination => CustomerService.listCustomers filters pagination
  | getCustomerTimeline customerId tenantId page limit =>
    CustomerService.getCustomerTimeline customerId tenantId page limit
  | updateRiskScore customerId tenantId score label =>
    Identity.CustomerService.updateRiskScore customerId tenantId score label

/-- The call answers with a page of rows and the number of all of them. -/
def lists : TenantCall → Bool
  | listTickets _ _ | getTicketHistory _ _ _ _ | listCustomers _ _
  | getCustomerTimeline _ _ _ _ => true
  | _ => false

/-- The call names, adds, tells and deletes only what the scope allows. -/
def Allowed {env : ServiceEnv} (call : TenantCall) (S : CallScope env call.tenantId)
    (s s' : Store) : Prop :=
  match call with
  | addComment dto => Commentable dto S
  | editComment dto => S.Names dto.commentId s s'
  | deleteComment dto => S.Names dto.commentId s s'
  | deleteCustomer customerId tenantId _ _ =>
    OwnsCustomer tenantId customerId s s' → S.Refers customerId s s'
  | _ => True

/-- No row of another organization refers to a customer that the call deletes. -/
def RefersWithin (call : TenantCall) (s : Store) : Prop :=
  match call with
  | deleteCustomer customerId tenantId _ _ =>
    Owns Customer.tenantId Customer.id tenantId s.customers customerId →
      ReferredWithin tenantId customerId s
  | _ => True

/-- How the call ends. -/
def outcome (call : TenantCall) (env : ServiceEnv) (faults : Nat → Fault) (s : Store) :
    Outcome AppError call.Answer :=
  (call.perform.run env faults (World.start s)).1

def after (call : TenantCall) (env : ServiceEnv) (faults : Nat → Fault) (s : Store) : Store :=
  (call.perform.run env faults (World.start s)).2.committed

end TenantCall

/-- A store whose tables have primary keys and none of the ids to be drawn. -/
structure Stored (env : ServiceEnv) (s : Store) : Prop where
  tickets : (s.tickets.map Ticket.id).Nodup
  comments : (s.comments.map TicketComment.id).Nodup
  customers : (s.customers.map Customer.id).Nodup
  new : NewIds env s

/-- The stores hold the same rows of the organization, and the same users and organizations. -/
structure Agree (A : Uuid) (s s' : Store) : Prop where
  users : s.users = s'.users
  tenants : s.tenants = s'.tenants
  tickets : s.tickets.filter (fun t => t.tenantId = A) = s'.tickets.filter fun t => t.tenantId = A
  comments :
    s.comments.filter (fun c => c.tenantId = A) = s'.comments.filter fun c => c.tenantId = A
  customers :
    s.customers.filter (fun c => c.tenantId = A) = s'.customers.filter fun c => c.tenantId = A
  activities :
    s.activities.filter (fun a => a.tenantId = A) = s'.activities.filter fun a => a.tenantId = A
  sequences :
    s.sequences.filter (fun q => q.tenantId = A) = s'.sequences.filter fun q => q.tenantId = A

/-- The rows of the other organizations are the ones there were. -/
structure OthersKept (A : Uuid) (s t : Store) : Prop where
  tickets : t.tickets.filter (fun t => t.tenantId ≠ A) = s.tickets.filter fun t => t.tenantId ≠ A
  comments :
    t.comments.filter (fun c => c.tenantId ≠ A) = s.comments.filter fun c => c.tenantId ≠ A
  customers :
    t.customers.filter (fun c => c.tenantId ≠ A) = s.customers.filter fun c => c.tenantId ≠ A
  activities :
    t.activities.filter (fun a => a.tenantId ≠ A) = s.activities.filter fun a => a.tenantId ≠ A
  sequences :
    t.sequences.filter (fun q => q.tenantId ≠ A) = s.sequences.filter fun q => q.tenantId ≠ A

section slices
variable {env : ServiceEnv} {A : Uuid} {o o' s s' : Store}

theorem Agree.slice (h : Agree A s s') (hs : Stored env s) (hs' : Stored env s') :
    SameSlice A s s' s s' where
  users := h.users
  tenants := h.tenants
  tickets := ⟨⟨h.tickets, rfl, rfl⟩, hs.tickets, hs'.tickets⟩
  comments := ⟨⟨h.comments, rfl, rfl⟩, hs.comments, hs'.comments⟩
  customers := ⟨⟨h.customers, rfl, rfl⟩, hs.customers, hs'.customers⟩
  activities := ⟨h.activities, rfl, rfl⟩
  sequences := ⟨h.sequences, rfl, rfl⟩

theorem SameSlice.agree (h : SameSlice A o o' s s') : Agree A s s' where
  users := h.users
  tenants := h.tenants
  tickets := h.tickets.own
  comments := h.comments.own
  customers := h.customers.own
  activities := h.activities.own
  sequences := h.sequences.own

theorem SameSlice.othersKept (h : SameSlice A o o' s s') : OthersKept A o s where
  tickets := h.tickets.rest
  comments := h.comments.rest
  customers := h.customers.rest
  activities := h.activities.rest
  sequences := h.sequences.rest

end slices

section reads
variable {env : ServiceEnv} {o o' : Store} {P : Store → Store → Prop}

theorem twins_findBy {A : Uuid} {p : ActivityLog → Bool} {error : AppError} {page limit : Nat}
    (hp : ∀ row, p row = true → row.tenantId = A) :
    Twins env (SameSlice A o o') P (fun _ => Anything)
      (ActivityRepository.findBy p error page limit) :=
  twins_findPage fun _ _ _ h => congrArg Except.ok (h.activities.filter hp)

theorem twins_getTicketHistory (ticketId tenantId : Uuid) (page limit : Nat) :
    Twins env (SameSlice tenantId o o') P (fun _ => Anything)
      (TicketService.getTicketHistory ticketId tenantId page limit) := by
  refine (twins_getTicketOrThrow (sliceScope env tenantId o o')).bind fun ticket =>
    twins_findBy fun row hrow => ?_
  exact of_decide_eq_true (Bool.and_eq_true_iff.mp hrow).2

theorem twins_listTickets (filters : TicketFilters) (pagination : PaginationOptions) :
    Twins env (SameSlice filters.tenantId o o') P (fun _ => Anything)
      (TicketService.listTickets filters pagination) := by
  refine twins_findPage fun text s s' h => ?_
  have hrows : s.tickets.filter (TicketRepository.buildWhereClause filters text) =
      s'.tickets.filter (TicketRepository.buildWhereClause filters text) := by
    refine h.tickets.filter fun row hrow => ?_
    simp only [TicketRepository.buildWhereClause, Bool.and_eq_true, decide_eq_true_eq] at hrow
    tauto
  rw [TicketRepository.select, TicketRepository.select, hrows]

theorem twins_listCustomers (filters : CustomerFilters) (pagination : PaginationOptions) :
    Twins env (SameSlice filters.tenantId o o') P (fun _ => Anything)
      (CustomerService.listCustomers filters pagination) := by
  refine twins_findPage fun text s s' h => ?_
  have hrows : s.customers.filter (CustomerRepository.buildWhereClause filters text) =
      s'.customers.filter (CustomerRepository.buildWhereClause filters text) := by
    refine h.customers.filter fun row hrow => ?_
    simp only [CustomerRepository.buildWhereClause, Bool.and_eq_true, decide_eq_true_eq] at hrow
    tauto
  rw [CustomerRepository.select, CustomerRepository.select, hrows]

theorem twins_getCustomerTimeline (customerId tenantId : Uuid) (page limit : Nat) :
    Twins env (SameSlice tenantId o o') P (fun _ => Anything)
      (CustomerService.getCustomerTimeline customerId tenantId page limit) := by
  refine (twins_getCustomerOrThrow (sliceScope env tenantId o o')).bind fun customer =>
    twins_findBy fun row hrow => ?_
  exact of_decide_eq_true (Bool.and_eq_true_iff.mp hrow).2

end reads

/-- One rule for each call that is no listing. -/
theorem twins_perform_of (call : TenantCall) {env : ServiceEnv} (S : CallScope env call.tenantId)
    (hlists : call.lists = false) :
    Twins env S.Same (fun s s' => BothNew env s s' ∧ call.Allowed S s s') (fun _ => Anything)
      call.perform := by
  have hnew : ∀ {A : Uuid} {S : CallScope env A} {α : Type} {e : ServiceM α}
      {P : Store → Store → Prop}, Twins env S.Same (BothNew env) (fun _ => Anything) e →
      Twins env S.Same (fun s s' => BothNew env s s' ∧ P s s') (fun _ => Anything) e :=
    fun h => h.mono (fun _ _ _ hP => hP.1) fun _ _ _ _ h => h
  cases call with
  | createTicket dto => exact hnew (twins_createTicket dto S)
  | updateTicket dto => exact twins_updateTicket dto S
  | assignTicket dto => exact twins_assignTicket dto S
  | changeStatus dto => exact twins_changeStatus dto S
  | escalateTicket dto => exact twins_escalateTicket dto S
  | addComment dto =>
    exact .of_known (fun _ _ hP => hP.2) fun hallows => hnew (twins_addComment dto S hallows)
  | editComment dto => exact twins_editComment dto S fun _ _ hP => hP.2
  | deleteComment dto => exact twins_deleteComment dto S fun _ _ hP => hP.2
  | getTicket id tenantId =>
    exact (twins_getTicketOrThrow S).mono (fun _ _ _ h => h) fun _ _ _ _ _ => trivial
  | createCustomer dto => exact hnew (twins_createCustomer dto S)
  | updateCustomer dto => exact twins_updateCustomer dto S
  | deleteCustomer customerId tenantId deletedById deletedByRole =>
    exact (twins_deleteCustomer customerId tenantId deletedById deletedByRole S).mono
      (fun _ _ _ hP => hP.2) fun _ _ _ _ h => h
  | getCustomer customerId tenantId =>
    exact (twins_getCustomerOrThrow S).mono (fun _ _ _ h => h) fun _ _ _ _ _ => trivial
  | updateRiskScore customerId tenantId score label =>
    exact twins_updateRiskScore customerId tenantId score label S
  | listTickets | getTicketHistory | listCustomers | getCustomerTimeline => cases hlists

/-- Inside the slice of its organization every call is allowed. -/
theorem sliceScope_allowed (call : TenantCall) {env : ServiceEnv} {o o' s s' : Store}
    (hE : SameSlice call.tenantId o o' s s') (hwithin : call.RefersWithin s)
    (hwithin' : call.RefersWithin s') :
    call.Allowed (sliceScope env call.tenantId o o') s s' := by
  cases call with
  | addComment dto => exact ⟨fun _ _ _ _ => trivial, fun _ _ => trivial⟩
  | deleteCustomer customerId tenantId deletedById deletedByRole =>
    exact fun howns => ⟨hwithin howns, hwithin' (hE.customers.owns howns)⟩
  | _ => trivial

theorem twins_perform (call : TenantCall) (env : ServiceEnv) (o o' : Store) :
    Twins env (SameSlice call.tenantId o o')
      (fun s s' => BothNew env s s' ∧ call.RefersWithin s ∧ call.RefersWithin s')
      (fun _ => Anything) call.perform := by
  cases hlists : call.lists with
  | false =>
    refine (twins_perform_of call (sliceScope env call.tenantId o o') hlists).mono ?_
      fun _ _ _ _ h => h
    exact fun s s' hE hP => ⟨hP.1, sliceScope_allowed call hE hP.2.1 hP.2.2⟩
  | true =>
    cases call with
    | listTickets filters pagination => exact twins_listTickets filters pagination
    | getTicketHistory ticketId tenantId page limit =>
      exact twins_getTicketHistory ticketId tenantId page limit
    | listCustomers filters pagination => exact twins_listCustomers filters pagination
    | getCustomerTimeline customerId tenantId page limit =>
      exact twins_getCustomerTimeline customerId tenantId page limit
    | _ => cases hlists

/-- A call for an organization changes no row of another one, and from stores that agree on the
rows of the organization it ends alike and leaves stores that agree again. -/
theorem calls_isolated (call : TenantCall) {env : ServiceEnv} {s s' : Store}
    (hs : Stored env s) (hs' : Stored env s') (hwithin : call.RefersWithin s)
    (hwithin' : call.RefersWithin s') (hagree : Agree call.tenantId s s')
    (faults : Nat → Fault) :
    OthersKept call.tenantId s (call.after env faults s) ∧
      call.outcome env faults s = call.outcome env faults s' ∧
      Agree call.tenantId (call.after env faults s) (call.after env faults s') := by
  have hslice := hagree.slice hs hs'
  obtain ⟨houtcome, hslice⟩ := (twins_perform call env s s').run hslice
    ⟨⟨hs.new, hs'.new⟩, hwithin, hwithin'⟩ faults
  exact ⟨hslice.othersKept, houtcome, hslice.agree⟩

section demo

/-- The drawn ids are greater than those of the stored rows. -/
def laterEnv : ServiceEnv := { sampleEnv with uuid := fun n => n + 100 }

def customerOf (id tenantId : Uuid) : Customer :=
  { (default : Customer) with id := id, tenantId := tenantId }

/-- An activity of an organization that refers to a customer. -/
def activityOn (customerId tenantId : Uuid) : ActivityLog :=
  CustomerService.activity tenantId customerId 9 .agent .customerUpdated "Customer profile updated"
    none none 1

def storeOf (customers : List Customer) (activities : List ActivityLog) : Store :=
  ⟨[], [], customers, [], [], [], [], activities, [], [], [], [], [], [], [], [], [], []⟩

/-- Two organizations, each with a customer. -/
def sharedStore : Store :=
  storeOf [customerOf 5 1, customerOf 6 2] [activityOn 5 1, activityOn 6 2]

def ownStore : Store := storeOf [customerOf 5 1] [activityOn 5 1]

/-- An activity of the second organization refers to a customer of the first. -/
def crossedStore : Store := storeOf [customerOf 5 1] [activityOn 5 1, activityOn 5 2]

def deletion : TenantCall := .deleteCustomer 5 1 9 .tenantManager

theorem stored_storeOf {customers : List Customer} {activities : List ActivityLog}
    (hkeys : (customers.map Customer.id).Nodup) (hold : ∀ customer ∈ customers, customer.id < 100) :
    Stored laterEnv (storeOf customers activities) where
  tickets := List.nodup_nil
  comments := List.nodup_nil
  customers := hkeys
  new := by
    have hnone : ∀ {α : Type} (row : α), row ∉ [] := fun row => List.not_mem_nil
    refine ⟨fun n row hm => absurd hm (hnone row), fun n row hm => absurd hm (hnone row), ?_⟩
    intro n customer hm heq
    have hid := hold customer hm
    have huuid : laterEnv.uuid n = n + 100 := rfl
    rw [heq, huuid] at hid
    exact absurd hid (Nat.not_lt_of_le (Nat.le_add_left 100 n))

theorem calls_isolated_deletion :
    OthersKept 1 sharedStore (deletion.after laterEnv (fun _ => .none) sharedStore) ∧
      deletion.outcome laterEnv (fun _ => .none) sharedStore =
        deletion.outcome laterEnv (fun _ => .none) ownStore ∧
      Agree 1 (deletion.after laterEnv (fun _ => .none) sharedStore)
        (deletion.after laterEnv (fun _ => .none) ownStore) := by
  have hshared : Stored laterEnv sharedStore := stored_storeOf (by decide) (by decide)
  have hown : Stored laterEnv ownStore := stored_storeOf (by decide) (by decide)
  have hwithin : deletion.RefersWithin sharedStore := fun _ => ⟨by decide, by decide⟩
  have hwithin' : deletion.RefersWithin ownStore := fun _ => ⟨by decide, by decide⟩
  have hagree : Agree 1 sharedStore ownStore :=
    ⟨rfl, rfl, rfl, rfl, by decide, by decide, rfl⟩
  exact calls_isolated deletion hshared hown hwithin hwithin' hagree fun _ => .none

/-- The deletion takes the customer from the activity of the other organization. -/
theorem deletion_changes_other_organization :
    Stored laterEnv crossedStore ∧ Agree 1 crossedStore crossedStore ∧
      ¬ OthersKept 1 crossedStore (deletion.after laterEnv (fun _ => .none) crossedStore) := by
  refine ⟨stored_storeOf (by decide) (by decide), ⟨rfl, rfl, rfl, rfl, rfl, rfl, rfl⟩, fun h => ?_⟩
  exact absurd h.activities (by decide)

end demo
end OmniSupport.Tenancy
