import OmniSupport.Realtime.RefusedRooms

/-! Realtime events between processes: whoever publishes one, each process that has subscribed
sends it to its own clients in the room. -/
namespace OmniSupport.Realtime
open Foundation Gateway

inductive RealtimeTarget where
  | user
  | tenant
  | ticket
  deriving DecidableEq

structure RealtimeEnvelope (μ : Type) where
  target : RealtimeTarget
  id : String
  message : μ

def ticketRoom (ticketId : String) : String := "ticket:" ++ ticketId

/-- The room of `sendToUser`, `sendToTenant` or `sendToTicket`. -/
def RealtimeEnvelope.room {μ : Type} (envelope : RealtimeEnvelope μ) : String :=
  match envelope.target with
  | .user => userRoom envelope.id
  | .tenant => tenantRoom envelope.id
  | .ticket => ticketRoom envelope.id

/-- The clients of the room whose sockets are open. -/
def broadcastToRoom (room : String) (g : Gateway) : Finset ClientId :=
  (g.roomManager.rooms room).filter fun c =>
    c ∈ g.clients && (g.connections c).any fun conn => !conn.closed

/-- An event that a process has sent to the sockets of its room, and where it was published. -/
structure Delivery (μ : Type) where
  process : Nat
  place : Nat
  envelope : RealtimeEnvelope μ
  receivers : Finset ClientId

/-- The processes; for those that have subscribed, the events on their way to them; and what has
been delivered. -/
structure Cluster (μ : Type) where
  gateways : Nat → Gateway
  inboxes : Nat → Option (List (Nat × RealtimeEnvelope μ))
  published : Nat
  deliveries : List (Delivery μ)

inductive ClusterLabel (μ : Type) where
  | gateway (p : Nat) (label : GatewayLabel)
  | subscribe (p : Nat)
  | unsubscribe (p : Nat)
  | publish (envelope : RealtimeEnvelope μ)
  | deliver (p : Nat)

namespace Cluster
variable {μ : Type}

def start : Cluster μ := ⟨fun _ => .start, fun _ => none, 0, []⟩

def setInbox (p : Nat) (inbox : Option (List (Nat × RealtimeEnvelope μ))) (k : Cluster μ) :
    Cluster μ :=
  { k with inboxes := Function.update k.inboxes p inbox }

/-- The channel hands an event to those who are subscribed when it is published. -/
def publish (envelope : RealtimeEnvelope μ) (k : Cluster μ) : Cluster μ :=
  { k with
    inboxes := fun p => (k.inboxes p).map fun inbox => inbox ++ [(k.published, envelope)]
    published := k.published + 1 }

def deliver (p place : Nat) (envelope : RealtimeEnvelope μ)
    (rest : List (Nat × RealtimeEnvelope μ)) (k : Cluster μ) : Cluster μ :=
  { k.setInbox p (some rest) with
    deliveries := k.deliveries ++
      [⟨p, place, envelope, broadcastToRoom envelope.room (k.gateways p)⟩] }

end Cluster

/-- A process that has gone down delivers nothing. -/
def stepCluster {μ : Type} (options : WebSocketGatewayOptions) (k : Cluster μ) :
    ClusterLabel μ → Option (Cluster μ)
  | .gateway p label => ((gateway options).step (k.gateways p) label).map fun g =>
      { k with gateways := Function.update k.gateways p g }
  | .subscribe p => if (k.inboxes p).isNone then some (k.setInbox p (some [])) else none
  | .unsubscribe p => some (k.setInbox p none)
  | .publish envelope => some (k.publish envelope)
  | .deliver p =>
    match k.inboxes p with
    | some ((place, envelope) :: rest) =>
      if (k.gateways p).up then some (k.deliver p place envelope rest) else none
    | _ => none

def cluster (μ : Type) (options : WebSocketGatewayOptions) :
    Machine (Cluster μ) (ClusterLabel μ) where
  step := stepCluster options

section entitled

/-- The user that the step authenticates for the connection, or has authenticated before. -/
def StepUser (step : Machine.Step Gateway GatewayLabel) (c : ClientId) (user : WSAuthResult) :
    Prop :=
  step.label = .authenticated c (some (some user)) ∨
    ∃ conn client, step.before.connections c = some conn ∧ conn.client = some client ∧
      client.toWSAuthResult = user

/-- The answer of the check that a call has waited for. -/
def GatewayLabel.answer : GatewayLabel → Option Bool
  | .tenantChecked _ called => called
  | .taskResolved _ _ called => called
  | _ => none

/-- The step lets the client's user have the event: it is the user's own, or one of their
organization, which they were permitted, or of a ticket whose check they have passed. -/
def Entitled {μ : Type} (options : WebSocketGatewayOptions) (step : Machine.Step Gateway GatewayLabel)
    (c : ClientId) (envelope : RealtimeEnvelope μ) : Prop :=
  ∃ user, StepUser step c user ∧
    match envelope.target with
    | .user => user.userId = envelope.id
    | .tenant => user.tenant = some envelope.id ∧
        (canAccessTenantRoom options user).resolve step.label.answer = some true
    | .ticket => user.tenant.isSome ∧ options.canAccessTicket = true ∧ step.label.answer = some true

variable {μ : Type} {options : WebSocketGatewayOptions} {g g' : Gateway} {c : ClientId}
  {user : WSAuthResult} {id : String}

theorem userRoom_inj {id id' : String} (h : userRoom id = userRoom id') : id = id' :=
  String.append_right_inj _ |>.mp h

theorem tenantRoom_inj {id id' : String} (h : tenantRoom id = tenantRoom id') : id = id' :=
  String.append_right_inj _ |>.mp h

theorem startsWith_append (part rest : String) : startsWith part (part ++ rest) = true := by
  simp [startsWith, String.toList_append]

theorem startsWith_user_tenantRoom (id : String) : startsWith "user:" (tenantRoom id) = false := by
  simp only [startsWith, tenantRoom, String.toList_append]
  rfl

theorem startsWith_user_ticketRoom (id : String) : startsWith "user:" (ticketRoom id) = false := by
  simp only [startsWith, ticketRoom, String.toList_append]
  rfl

theorem startsWith_tenant_ticketRoom (id : String) :
    startsWith "tenant:" (ticketRoom id) = false := by
  simp only [startsWith, ticketRoom, String.toList_append]
  rfl

/-- A tenant whose room is being checked is that of the client. -/
def TenantKnown (conn : Connection) : Prop :=
  ∀ client tenantId, conn.client = some client → conn.handshake = .checkingTenant tenantId →
    client.tenant = some tenantId

def TenantsKnown (g : Gateway) : Prop :=
  ∀ c conn, g.connections c = some conn → TenantKnown conn

variable {conn : Connection}

theorem TenantKnown.of_stage {stage : Handshake} (h : ∀ tenantId, stage ≠ .checkingTenant tenantId)
    (hconn : conn.handshake = stage) : TenantKnown conn :=
  fun _ tenantId _ hchecking => absurd (hconn.symm.trans hchecking) (h tenantId)

theorem TenantKnown.withRooms {f : List String → List String} (h : TenantKnown conn) :
    TenantKnown (withRooms f conn) := by
  intro client tenantId hclient hchecking
  obtain ⟨client₀, hclient₀, rfl⟩ := Option.map_eq_some_iff.mp hclient
  exact h client₀ tenantId hclient₀ hchecking

theorem TenantKnown.setAlive {isAlive : Bool} (h : TenantKnown conn) :
    TenantKnown (setAlive isAlive conn) := by
  intro client tenantId hclient hchecking
  obtain ⟨client₀, hclient₀, rfl⟩ := Option.map_eq_some_iff.mp hclient
  exact h client₀ tenantId hclient₀ hchecking

theorem TenantsKnown.put (h : TenantsKnown g) (hconn : TenantKnown conn) :
    TenantsKnown (g.put c conn) := by
  intro c' conn' hconn'
  by_cases heq : c' = c
  · rw [heq, put_self] at hconn'
    cases hconn'
    exact hconn
  · rw [put_of_ne heq] at hconn'
    exact h c' conn' hconn'

theorem TenantsKnown.handleDisconnect (h : TenantsKnown g) :
    TenantsKnown (g.handleDisconnect c) := by
  intro c' conn' hconn'
  rw [handleDisconnect_connections] at hconn'
  exact h c' conn' hconn'

theorem TenantsKnown.heartbeat (h : TenantsKnown g) : TenantsKnown g.heartbeat := by
  have hbeat : ∀ (g : Gateway) c, TenantsKnown g → TenantsKnown (g.beat c) := by
    intro g c h
    unfold beat
    cases hconn : g.connections c with
    | none => exact h
    | some conn =>
      have hwaiting : TenantKnown { conn with tasks := conn.tasks ++ [.rechecking] } := h c conn hconn
      dsimp only
      split
      · exact h.put hwaiting.setAlive
      · exact (h.put hwaiting).handleDisconnect
  exact heartbeat_keeps hbeat h

theorem TenantsKnown.register (h : TenantsKnown g) : TenantsKnown (g.register c conn user) := by
  refine TenantsKnown.put h (TenantKnown.withRooms fun client tenantId hclient hchecking => ?_)
  cases hclient
  dsimp only at hchecking
  split at hchecking
  · rename_i known hknown
    cases hchecking
    exact hknown
  · cases hchecking

theorem TenantsKnown.taskResolved {client : WSClient} {task : Task} {called : Option Bool}
    (h : TenantsKnown g) (hconn : TenantKnown conn) :
    TenantsKnown (g.taskResolved options c conn client task called) := by
  have hput : ∀ tasks, TenantsKnown (g.put c { conn with tasks }) := fun _ => h.put hconn
  cases task with
  | subscribing asked =>
    simp only [Gateway.taskResolved]
    split
    · split
      · exact TenantsKnown.put h hconn.withRooms
      · exact hput _
    · exact hput _
    · exact hput _
  | rechecking =>
    simp only [Gateway.taskResolved]
    split
    · exact hput _
    · exact (hput _).handleDisconnect
    · exact hput _
  | revalidating asked rest =>
    simp only [Gateway.taskResolved]
    split
    · exact hput _
    · exact TenantsKnown.put h (TenantKnown.withRooms hconn)
    · exact hput _

theorem tenantsKnown_step {label : GatewayLabel} (h : TenantsKnown g)
    (hs : (gateway options).step g label = some g') : TenantsKnown g' := by
  simp only [gateway] at hs
  split at hs
  · cases label with
    | connect c request =>
      simp only [stepGateway] at hs
      split at hs
      · cases hs
        exact h.put fun _ _ hclient => by cases hclient
      · cases hs
    | authenticated c user =>
      obtain ⟨conn, hconn, -, hf⟩ := onConnection_some hs
      cases hf
      unfold authenticated
      split
      · exact h.register
      · exact h.put (.of_stage (fun _ heq => by cases heq) rfl)
      · exact h.put (.of_stage (fun _ heq => by cases heq) rfl)
    | tenantChecked c called =>
      obtain ⟨conn, client, tenantId, hconn, -, -, rfl⟩ := tenantChecked_some hs
      unfold tenantChecked
      split
      · exact TenantsKnown.put h (.of_stage (fun _ heq => by cases heq) rfl)
      · exact h.put (.of_stage (fun _ heq => by cases heq) rfl)
      · exact h.put (.of_stage (fun _ heq => by cases heq) rfl)
    | message c message =>
      obtain ⟨conn, hconn, -, hf⟩ := onConnection_some hs
      cases hf
      cases message with
      | subscribe asked =>
        simp only [handleMessage]
        split
        · exact h
        · exact h.put (h c conn hconn)
      | unsubscribe asked =>
        simp only [handleMessage]
        split
        · exact h
        · exact TenantsKnown.put h (TenantKnown.withRooms (h c conn hconn))
      | other => exact h
    | pong c =>
      obtain ⟨conn, hconn, -, hf⟩ := onConnection_some hs
      cases hf
      exact h.put (TenantKnown.setAlive (h c conn hconn))
    | taskResolved c i called =>
      obtain ⟨conn, hconn, -, hf⟩ := onConnection_some hs
      obtain ⟨client, hclient, htasks⟩ := Option.bind_eq_some_iff.mp hf
      obtain ⟨task, htask, rfl⟩ := Option.map_eq_some_iff.mp htasks
      exact h.taskResolved (h c conn hconn)
    | heartbeat =>
      cases hs
      exact h.heartbeat
    | close c =>
      obtain ⟨conn, hconn, -, hf⟩ := onConnection_some hs
      cases hf
      have hclosed : TenantsKnown (g.put c { conn with closed := true }) := h.put (h c conn hconn)
      simp only [close]
      split
      · exact hclosed.handleDisconnect
      · exact hclosed
    | error c =>
      obtain ⟨conn, hconn, -, hf⟩ := onConnection_some hs
      cases hf
      simp only [error]
      split
      · exact h.handleDisconnect
      · exact h
  · cases hs

/-- What a check of the room of an event comes down to. -/
theorem canAccessRoom_envelope {envelope : RealtimeEnvelope μ} {called : Option Bool}
    (h : (canAccessRoom options user envelope.room).resolve called = some true) :
    match envelope.target with
    | .user => user.userId = envelope.id
    | .tenant => user.tenant = some envelope.id ∧
        (canAccessTenantRoom options user).resolve called = some true
    | .ticket => user.tenant.isSome ∧ options.canAccessTicket = true ∧ called = some true := by
  unfold RealtimeEnvelope.room at h
  cases htarget : envelope.target with
  | user =>
    simp only [htarget, canAccessRoom, startsWith_userRoom, if_true, AccessCheck.resolve,
      Option.some.injEq, decide_eq_true_eq] at h
    exact (userRoom_inj h).symm
  | tenant =>
    have hstarts : startsWith "tenant:" (tenantRoom envelope.id) = true := startsWith_append _ _
    simp only [htarget, canAccessRoom, startsWith_user_tenantRoom, hstarts, if_true,
      Bool.false_eq_true, if_false] at h
    cases htenant : user.tenant with
    | none =>
      simp only [htenant] at h
      cases h
    | some tenantId =>
      simp only [htenant] at h
      split at h
      · rename_i heq
        exact ⟨congrArg some (tenantRoom_inj heq).symm, h⟩
      · cases h
  | ticket =>
    have hstarts : startsWith "ticket:" (ticketRoom envelope.id) = true := startsWith_append _ _
    simp only [htarget, canAccessRoom, startsWith_user_ticketRoom, startsWith_tenant_ticketRoom,
      hstarts, if_true, Bool.false_eq_true, if_false] at h
    split at h
    · rename_i hgiven
      exact ⟨hgiven.1, hgiven.2.2, h⟩
    · cases h

/-- Who was let into the room of an event is entitled to it. -/
theorem entitled_of_granted {step : Machine.Step Gateway GatewayLabel}
    {envelope : RealtimeEnvelope μ} (hknown : TenantsKnown step.before)
    (h : Granted options step c envelope.room) : Entitled options step c envelope := by
  generalize hroom : envelope.room = room at h
  cases h with
  | own g g' _ user =>
    refine ⟨user, .inl rfl, ?_⟩
    unfold RealtimeEnvelope.room at hroom
    cases htarget : envelope.target with
    | user =>
      simp only [htarget] at hroom
      exact (userRoom_inj hroom).symm
    | tenant =>
      simp only [htarget] at hroom
      have hno := startsWith_user_tenantRoom envelope.id
      rw [hroom, startsWith_userRoom] at hno
      cases hno
    | ticket =>
      simp only [htarget] at hroom
      have hno := startsWith_user_ticketRoom envelope.id
      rw [hroom, startsWith_userRoom] at hno
      cases hno
  | tenant g g' _ conn client tenantId called hconn hclient hchecked hanswer =>
    refine ⟨client.toWSAuthResult, .inr ⟨conn, client, hconn, hclient, rfl⟩, ?_⟩
    have htenant : client.tenant = some tenantId := hknown c conn hconn client tenantId hclient
      hchecked
    unfold RealtimeEnvelope.room at hroom
    cases htarget : envelope.target with
    | user =>
      simp only [htarget] at hroom
      have hno := startsWith_user_tenantRoom tenantId
      rw [← hroom, startsWith_userRoom] at hno
      cases hno
    | tenant =>
      simp only [htarget] at hroom
      exact ⟨htenant.trans (congrArg some (tenantRoom_inj hroom).symm), hanswer⟩
    | ticket =>
      simp only [htarget] at hroom
      have hno := startsWith_tenant_ticketRoom envelope.id
      have hyes : startsWith "tenant:" (tenantRoom tenantId) = true := startsWith_append _ _
      rw [hroom, hyes] at hno
      cases hno
  | subscribed g g' _ conn client i _ called hconn hclient htask hanswer =>
    rw [← hroom] at hanswer
    exact ⟨client.toWSAuthResult, .inr ⟨conn, client, hconn, hclient, rfl⟩,
      canAccessRoom_envelope hanswer⟩

end entitled

section runs
variable {μ : Type} {options : WebSocketGatewayOptions} {k k' : Cluster μ}

/-- The steps of the process's own gateway. -/
def labelsOf (p : Nat) (moves : List (ClusterLabel μ)) : List GatewayLabel :=
  moves.filterMap fun
    | .gateway q label => if q = p then some label else none
    | _ => none

/-- The gateway of a process goes its own way. -/
theorem run_labelsOf {moves : List (ClusterLabel μ)} (p : Nat)
    (h : (cluster μ options).run k moves = some k') :
    (gateway options).run (k.gateways p) (labelsOf p moves) = some (k'.gateways p) := by
  induction moves generalizing k with
  | nil =>
    cases h
    rfl
  | cons move moves ih =>
    obtain ⟨k₁, hstep, hrest⟩ := Machine.run_cons _ |>.mp h
    have hlater := ih hrest
    cases move with
    | gateway q label =>
      obtain ⟨g, hg, rfl⟩ := Option.map_eq_some_iff.mp hstep
      by_cases hq : q = p
      · subst hq
        simp only [Function.update_self] at hlater
        simp only [labelsOf, List.filterMap_cons, if_true]
        exact Machine.run_cons _ |>.mpr ⟨g, hg, hlater⟩
      · simp only [Function.update_of_ne (Ne.symm hq)] at hlater
        simp only [labelsOf, List.filterMap_cons, if_neg hq]
        exact hlater
    | subscribe q =>
      simp only [cluster, stepCluster] at hstep
      split at hstep
      · cases hstep
        exact hlater
      · cases hstep
    | unsubscribe q =>
      cases hstep
      exact hlater
    | publish envelope =>
      cases hstep
      exact hlater
    | deliver q =>
      simp only [cluster, stepCluster] at hstep
      split at hstep
      · split at hstep
        · cases hstep
          exact hlater
        · cases hstep
      · cases hstep

theorem labelsOf_append (p : Nat) (moves moves' : List (ClusterLabel μ)) :
    labelsOf p (moves ++ moves') = labelsOf p moves ++ labelsOf p moves' :=
  List.filterMap_append

/-- What a process has delivered, and what is on its way to it. -/
def places (k : Cluster μ) (p : Nat) : List Nat :=
  (k.deliveries.filter fun d => d.process = p).map Delivery.place ++
    ((k.inboxes p).getD []).map Prod.fst

structure Ordered (k : Cluster μ) : Prop where
  sorted : ∀ p, (places k p).Pairwise (· < ·)
  published : ∀ p, ∀ n ∈ places k p, n < k.published

theorem Ordered.setInbox (h : Ordered k) {p : Nat} {inbox : Option (List (Nat × RealtimeEnvelope μ))}
    (hinbox : (inbox.getD []).map Prod.fst = []) : Ordered (k.setInbox p inbox) := by
  have hplaces : ∀ q, (places (k.setInbox p inbox) q).Sublist (places k q) := by
    intro q
    unfold places Cluster.setInbox
    by_cases hq : q = p
    · subst hq
      simp only [Function.update_self, hinbox, List.append_nil]
      exact List.sublist_append_left _ _
    · simp only [Function.update_of_ne hq]
      exact List.Sublist.refl _
  exact ⟨fun q => (h.sorted q).sublist (hplaces q),
    fun q n hn => h.published q n ((hplaces q).subset hn)⟩

theorem Ordered.publish (h : Ordered k) (envelope : RealtimeEnvelope μ) :
    Ordered (k.publish envelope) := by
  have hplaces : ∀ p, places (k.publish envelope) p = places k p ∨
      places (k.publish envelope) p = places k p ++ [k.published] := by
    intro p
    unfold places Cluster.publish
    dsimp only
    cases hinbox : k.inboxes p with
    | none => exact .inl rfl
    | some inbox =>
      refine .inr ?_
      simp only [Option.map_some, Option.getD_some, List.map_append, List.map_cons, List.map_nil,
        List.append_assoc]
  refine ⟨fun p => ?_, fun p n hn => ?_⟩
  · rcases hplaces p with heq | heq
    · rw [heq]
      exact h.sorted p
    · rw [heq]
      refine List.pairwise_append.mpr ⟨h.sorted p, List.pairwise_singleton _ _, fun n hn m hm => ?_⟩
      rw [List.mem_singleton.mp hm]
      exact h.published p n hn
  · have hbound : n ≤ k.published := by
      rcases hplaces p with heq | heq
      · rw [heq] at hn
        exact (h.published p n hn).le
      · rw [heq] at hn
        rcases List.mem_append.mp hn with hold | hnew
        · exact (h.published p n hold).le
        · exact (List.mem_singleton.mp hnew).le
    exact Nat.lt_succ_of_le hbound

theorem Ordered.deliver (h : Ordered k) {p place : Nat} {envelope : RealtimeEnvelope μ}
    {rest : List (Nat × RealtimeEnvelope μ)} (hinbox : k.inboxes p = some ((place, envelope) :: rest)) :
    Ordered (k.deliver p place envelope rest) := by
  have hplaces : ∀ q, places (k.deliver p place envelope rest) q = places k q := by
    intro q
    unfold places Cluster.deliver Cluster.setInbox
    by_cases hq : q = p
    · subst hq
      simp [List.filter_append, hinbox]
    · simp [List.filter_append, Function.update_of_ne hq, Ne.symm hq]
  refine ⟨fun q => ?_, fun q n hn => ?_⟩
  · rw [hplaces]
    exact h.sorted q
  · rw [hplaces] at hn
    exact h.published q n hn

theorem ordered_step {move : ClusterLabel μ} (h : Ordered k)
    (hs : (cluster μ options).step k move = some k') : Ordered k' := by
  cases move with
  | gateway p label =>
    obtain ⟨g, -, rfl⟩ := Option.map_eq_some_iff.mp hs
    exact ⟨h.sorted, h.published⟩
  | subscribe p =>
    simp only [cluster, stepCluster] at hs
    split at hs
    · cases hs
      exact h.setInbox rfl
    · cases hs
  | unsubscribe p =>
    cases hs
    exact h.setInbox rfl
  | publish envelope =>
    cases hs
    exact h.publish envelope
  | deliver p =>
    simp only [cluster, stepCluster] at hs
    split at hs
    · rename_i hinbox
      split at hs
      · cases hs
        exact h.deliver hinbox
      · cases hs
    · cases hs

/-- What the step has delivered, to those in the room. -/
theorem delivered_step {move : ClusterLabel μ} (hs : (cluster μ options).step k move = some k') :
    ∀ d ∈ k'.deliveries, d ∈ k.deliveries ∨
      d.receivers = broadcastToRoom d.envelope.room (k.gateways d.process) := by
  intro d hd
  cases move with
  | gateway p label =>
    obtain ⟨g, -, rfl⟩ := Option.map_eq_some_iff.mp hs
    exact .inl hd
  | subscribe p =>
    simp only [cluster, stepCluster] at hs
    split at hs
    · cases hs
      exact .inl hd
    · cases hs
  | unsubscribe p =>
    cases hs
    exact .inl hd
  | publish envelope =>
    cases hs
    exact .inl hd
  | deliver p =>
    simp only [cluster, stepCluster] at hs
    split at hs
    · split at hs
      · cases hs
        rcases List.mem_append.mp hd with hold | hnew
        · exact .inl hold
        · rw [List.mem_singleton.mp hnew]
          exact .inr rfl
      · cases hs
    · cases hs

section demo

/-- Two processes; a client of the second is in the room of its tenant. -/
def demoCluster : List (ClusterLabel String) :=
  [.subscribe 0, .subscribe 1, .gateway 1 (.connect 0 ⟨none⟩),
    .gateway 1 (.authenticated 0 (some (some demoUser))), .gateway 1 (.tenantChecked 0 (some true)),
    .publish ⟨.tenant, "t", "ticket created"⟩, .deliver 0, .deliver 1]

end demo

end runs
end OmniSupport.Realtime
