import OmniSupport.Database.Queries
import OmniSupport.Database.ServiceRules
import OmniSupport.Ticket.TicketService

/-! Who may see which tickets of an organization, and the reads of the ticket service. -/
namespace OmniSupport.Database

/-- The customer record a user acts for in the organization. -/
def Store.findCustomerLink (userId tenantId : Uuid) (s : Store) : Option Auth.CustomerLink :=
  s.customerLinks.find? fun link => link.userId = userId ∧ link.tenantId = tenantId

end OmniSupport.Database

namespace OmniSupport.Ticketing
open Foundation Effect Database

structure TicketActor where
  id : Uuid
  role : UserRole
  email : String
  tenantId : Uuid

structure TicketViewer where
  id : Uuid
  role : UserRole
  customerId : Option Uuid
  deriving DecidableEq

/-- Restrictions of a listing; `none` when the actor can see no tickets at all. -/
structure TicketListScope where
  assignedAgentId : Option Uuid := Option.none
  customerId : Option Uuid := Option.none
  none : Bool
  deriving DecidableEq

/-- Managers see every ticket, agents the tickets assigned to them, customers the tickets of
their own record. -/
def TicketAccessPolicy.canView (viewer : TicketViewer) (ticket : Ticket) : Bool :=
  match viewer.role with
  | .tenantManager => true
  | .agent => ticket.assignedAgentId = some viewer.id
  | .customer => viewer.customerId.isSome && some ticket.customerId = viewer.customerId
  | .platformAdmin => false

namespace TicketAccessService

def resolveViewer (actor : TicketActor) : ServiceM TicketViewer :=
  if actor.role ≠ .customer then return ⟨actor.id, actor.role, none⟩
  else do
    let link ← Effect.read .root .customerLinkFind .database
      (Store.findCustomerLink actor.id actor.tenantId)
    return ⟨actor.id, actor.role, link.map Auth.CustomerLink.customerId⟩

def assertCanAccess (actor : TicketActor) (ticketId : Uuid) : ServiceM Ticket := do
  let found ← TicketRepository.findById ticketId actor.tenantId
  let ticket ← Effect.lift (orThrow (.notFound "Ticket" ticketId) found)
  let viewer ← resolveViewer actor
  Effect.lift (require (TicketAccessPolicy.canView viewer ticket)
    (.forbidden "You do not have access to this ticket"))
  return ticket

def scopeOf (viewer : TicketViewer) : TicketListScope :=
  match viewer.customerId with
  | some customerId => { customerId := customerId, none := false }
  | none => { none := true }

def listScope (actor : TicketActor) : ServiceM TicketListScope :=
  match actor.role with
  | .tenantManager => return { none := false }
  | .agent => return { assignedAgentId := actor.id, none := false }
  | .customer => do
    let viewer ← resolveViewer actor
    return scopeOf viewer
  | .platformAdmin => return { none := true }

/-- The customer record a customer user acts for; tickets they open are filed under it. -/
def requireOwnCustomerId (actor : TicketActor) : ServiceM Uuid := do
  let viewer ← resolveViewer actor
  Effect.lift (orThrow (.forbidden "Your account is not linked to a customer record")
    viewer.customerId)

end TicketAccessService

namespace TicketService

def getTicket (id tenantId : Uuid) : ServiceM TicketEntity := getTicketOrThrow id tenantId

def listTickets (filters : TicketFilters) (pagination : PaginationOptions) :
    ServiceM (PaginatedResult Ticket) :=
  TicketRepository.findAll filters pagination

def getTicketHistory (ticketId tenantId : Uuid) (page limit : Nat) :
    ServiceM (PaginatedResult ActivityLog) := do
  let _ ← getTicketOrThrow ticketId tenantId
  ActivityRepository.findByTicket ticketId tenantId page limit

end TicketService

/-- The viewer an actor is in this store. -/
def viewerOf (actor : TicketActor) (s : Store) : TicketViewer where
  id := actor.id
  role := actor.role
  customerId :=
    if actor.role = .customer then
      (s.findCustomerLink actor.id actor.tenantId).map Auth.CustomerLink.customerId
    else none

def scopeIn (actor : TicketActor) (s : Store) : TicketListScope :=
  match actor.role with
  | .tenantManager => { none := false }
  | .agent => { assignedAgentId := actor.id, none := false }
  | .customer => TicketAccessService.scopeOf (viewerOf actor s)
  | .platformAdmin => { none := true }

/-- The tickets of the actor's organization that the policy lets them see. -/
def Visible (actor : TicketActor) (s : Store) (ticket : Ticket) : Prop :=
  ticket ∈ s.tickets ∧ ticket.tenantId = actor.tenantId ∧
    TicketAccessPolicy.canView (viewerOf actor s) ticket = true

section answers
variable {env : ServiceEnv} {d : Nat} {s : Store} {actor : TicketActor} {ticketId : Uuid}

theorem answers_resolveViewer :
    Answers env d d s (TicketAccessService.resolveViewer actor) (.ok (viewerOf actor s)) := by
  unfold TicketAccessService.resolveViewer
  by_cases hrole : actor.role = .customer
  · rw [if_neg (not_not_intro hrole)]
    refine answers_read_bind ?_
    have hviewer : viewerOf actor s = ⟨actor.id, actor.role,
        (s.findCustomerLink actor.id actor.tenantId).map Auth.CustomerLink.customerId⟩ := by
      rw [viewerOf, if_pos hrole]
    rw [hviewer]
    exact answers_pure _
  · rw [if_pos hrole]
    have hviewer : viewerOf actor s = ⟨actor.id, actor.role, none⟩ := by
      rw [viewerOf, if_neg hrole]
    rw [hviewer]
    exact answers_pure _

theorem answers_assertCanAccess :
    Answers env d d s (TicketAccessService.assertCanAccess actor ticketId) (do
      let ticket ← orThrow (.notFound "Ticket" ticketId) (s.findTicket ticketId actor.tenantId)
      require (TicketAccessPolicy.canView (viewerOf actor s) ticket)
        (.forbidden "You do not have access to this ticket")
      return ticket) := by
  refine answers_read_bind ((answers_lift _).bind fun ticket _ => ?_)
  have hviewer : Answers env d d s (TicketAccessService.resolveViewer actor)
      (.ok (viewerOf actor s)) := answers_resolveViewer
  refine hviewer.bind (y := fun viewer => require (TicketAccessPolicy.canView viewer ticket)
    (.forbidden "You do not have access to this ticket") >>= fun _ => .ok ticket) fun viewer _ => ?_
  exact (answers_lift _).bind fun _ _ => answers_pure ticket

theorem answers_listScope :
    Answers env d d s (TicketAccessService.listScope actor) (.ok (scopeIn actor s)) := by
  unfold TicketAccessService.listScope scopeIn
  cases actor.role with
  | tenantManager | agent | platformAdmin => exact answers_pure _
  | customer =>
    exact answers_resolveViewer.bind (y := fun viewer => .ok (TicketAccessService.scopeOf viewer))
      fun viewer _ => answers_pure _

theorem answers_listTickets {filters : TicketFilters} {pagination : PaginationOptions} :
    Answers env d (d + 1) s (TicketService.listTickets filters pagination)
      ((TicketRepository.select filters env.text s).map
        (pageOf pagination (TicketRepository.buildOrderBy pagination.sortBy pagination.sortOrder)
          (env.ties d))) :=
  answers_findPage

end answers
end OmniSupport.Ticketing
