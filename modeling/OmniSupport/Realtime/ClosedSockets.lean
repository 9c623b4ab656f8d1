import OmniSupport.Realtime.WebSocketGateway

/-! What is left of a closed socket: nothing, unless its handshake ends after the socket has
closed or its client has been removed, or ends with an error. -/
namespace OmniSupport.Realtime
open Foundation Gateway

/-- The socket has closed, and no step of the connection is pending. -/
structure Settled (conn : Connection) : Prop where
  closed : conn.closed = true
  handshake : conn.handshake = .listening ∨ conn.handshake = .ended
  tasks : conn.tasks = []

/-- A closed socket is in no room and not in the client map. -/
def ClosedNowhere (g : Gateway) : Prop :=
  ∀ c conn, g.connections c = some conn → Settled conn →
    c ∉ g.clients ∧ ∀ room, c ∉ g.roomManager.rooms room

/-- A handshake ends with an answer while its socket is open and its client registered, or, if
the client has been removed, without a room to join. -/
def FinishesOpen (options : WebSocketGatewayOptions) (g : Gateway) : GatewayLabel → Prop
  | .authenticated c (some (some user)) =>
    ∀ conn, g.connections c = some conn → user.tenant = none → conn.closed = false
  | .tenantChecked c called =>
    ∀ conn, g.connections c = some conn → ∀ client, conn.client = some client →
      if c ∈ g.clients then
        conn.closed = false ∧
          (canAccessTenantRoom options client.toWSAuthResult).resolve called ≠ none
      else (canAccessTenantRoom options client.toWSAuthResult).resolve called ≠ some true
  | _ => True

instance (options : WebSocketGatewayOptions) (g : Gateway) :
    ∀ label, Decidable (FinishesOpen options g label)
  | .authenticated c (some (some user)) =>
    match h : g.connections c with
    | none => isTrue (by simp [FinishesOpen, h])
    | some conn =>
      decidable_of_iff (user.tenant = none → conn.closed = false) (by simp [FinishesOpen, h])
  | .tenantChecked c called =>
    match h : g.connections c with
    | none => isTrue (by simp [FinishesOpen, h])
    | some conn =>
      match hclient : conn.client with
      | none => isTrue (by simp [FinishesOpen, h, hclient])
      | some client =>
        decidable_of_iff
          (if c ∈ g.clients then
            conn.closed = false ∧
              (canAccessTenantRoom options client.toWSAuthResult).resolve called ≠ none
          else (canAccessTenantRoom options client.toWSAuthResult).resolve called ≠ some true)
          (by simp [FinishesOpen, h, hclient])
  | .authenticated _ none | .authenticated _ (some none) => isTrue trivial
  | .connect _ _ | .message _ _ | .pong _ | .taskResolved _ _ _ | .heartbeat | .close _
  | .error _ => isTrue trivial

/-- A step at which a client may enter a room: its own one when it is registered, and others
when their check answers true. -/
inductive Granted (options : WebSocketGatewayOptions) :
    Machine.Step Gateway GatewayLabel → ClientId → String → Prop
  | own (g g' : Gateway) (c : ClientId) (user : WSAuthResult) :
      Granted options ⟨g, .authenticated c (some (some user)), g'⟩ c (userRoom user.userId)
  | tenant (g g' : Gateway) (c : ClientId) (conn : Connection) (client : WSClient)
      (tenantId : String) (called : Option Bool) (hconn : g.connections c = some conn)
      (hclient : conn.client = some client) (hchecked : conn.handshake = .checkingTenant tenantId)
      (hanswer : (canAccessTenantRoom options client.toWSAuthResult).resolve called = some true) :
      Granted options ⟨g, .tenantChecked c called, g'⟩ c (tenantRoom tenantId)
  | subscribed (g g' : Gateway) (c : ClientId) (conn : Connection) (client : WSClient) (i : Nat)
      (room : String) (called : Option Bool) (hconn : g.connections c = some conn)
      (hclient : conn.client = some client) (htask : conn.tasks[i]? = some (.subscribing room))
      (hanswer : (canAccessRoom options client.toWSAuthResult room).resolve called = some true) :
      Granted options ⟨g, .taskResolved c i called, g'⟩ c room

/-- The socket closes, or a pending step finishes. -/
def WindsDown : GatewayLabel → Prop
  | .close _ | .taskResolved _ _ _ => True
  | _ => False

section updates
variable {g : Gateway} {c c' : ClientId} {conn : Connection} {room : String}

@[simp] theorem put_self : (g.put c conn).connections c = some conn := by
  simp [put]

theorem put_of_ne (h : c' ≠ c) : (g.put c conn).connections c' = g.connections c' := by
  simp [put, h]

@[simp] theorem put_clients : (g.put c conn).clients = g.clients := rfl

@[simp] theorem put_roomManager : (g.put c conn).roomManager = g.roomManager := rfl

@[simp] theorem put_up : (g.put c conn).up = g.up := rfl

@[simp] theorem join_clients : (g.join c conn room).clients = g.clients := rfl

@[simp] theorem join_connections : (g.join c conn room).connections =
    (g.put c (withRooms (addRoom room) conn)).connections := rfl

@[simp] theorem leave_clients : (g.leave c conn room).clients = g.clients := rfl

@[simp] theorem leave_connections : (g.leave c conn room).connections =
    (g.put c (withRooms (fun rooms => rooms.erase room) conn)).connections := rfl

theorem mem_join {r : String} : c' ∈ (g.join c conn room).roomManager.rooms r ↔
    (c' = c ∧ r = room) ∨ c' ∈ g.roomManager.rooms r :=
  RoomManager.mem_joinRoom

theorem mem_leave {r : String} (h : c' ∈ (g.leave c conn room).roomManager.rooms r) :
    c' ∈ g.roomManager.rooms r :=
  (RoomManager.mem_leaveRoom.mp h).2

@[simp] theorem handleDisconnect_connections :
    (g.handleDisconnect c).connections = g.connections := by
  unfold handleDisconnect
  split <;> rfl

theorem mem_handleDisconnect : c' ∈ (g.handleDisconnect c).clients ↔ c' ≠ c ∧ c' ∈ g.clients := by
  unfold handleDisconnect
  split
  · simp [and_comm]
  · rename_i hno
    constructor
    · intro h
      refine ⟨?_, h⟩
      rintro rfl
      exact hno h
    · exact fun h => h.2

theorem mem_rooms_handleDisconnect (h : c' ∈ (g.handleDisconnect c).roomManager.rooms room) :
    c' ∈ g.roomManager.rooms room ∧ (c ∈ g.clients → c' ≠ c) := by
  unfold handleDisconnect at h
  split at h
  · have hmem := RoomManager.mem_removeClient.mp h
    exact ⟨hmem.2, fun _ => hmem.1⟩
  · rename_i hno
    exact ⟨h, fun hmem => absurd hmem hno⟩

end updates

section tidy

/-- A client whose handshake goes on, or whose socket is open and heard. -/
def Live (conn : Connection) : Prop :=
  (∃ tenantId, conn.handshake = .checkingTenant tenantId) ∨
    conn.handshake = .listening ∧ conn.closed = false

/-- Whoever is in a room is registered, and whoever is registered is live. -/
structure Tidy (g : Gateway) : Prop where
  rooms : ∀ c room, c ∈ g.roomManager.rooms room → c ∈ g.clients
  clients : ∀ c ∈ g.clients, ∃ conn, g.connections c = some conn ∧ Live conn

variable {g g' : Gateway} {c : ClientId} {conn : Connection} {room : String}

theorem Live.withRooms {f : List String → List String} (h : Live conn) :
    Live (withRooms f conn) := h

theorem Tidy.live (h : Tidy g) (hconn : g.connections c = some conn) (hc : c ∈ g.clients) :
    Live conn := by
  obtain ⟨conn', hconn', hlive⟩ := h.clients c hc
  rw [hconn] at hconn'
  cases hconn'
  exact hlive

theorem Tidy.closedNowhere (h : Tidy g) : ClosedNowhere g := by
  intro c conn hconn hsettled
  have hno : c ∉ g.clients := by
    intro hc
    rcases h.live hconn hc with ⟨tenantId, hchecking⟩ | ⟨-, hopen⟩
    · rcases hsettled.handshake with hdone | hdone <;> rw [hchecking] at hdone <;> cases hdone
    · rw [hsettled.closed] at hopen
      cases hopen
  exact ⟨hno, fun room hroom => hno (h.rooms c room hroom)⟩

theorem Tidy.put (h : Tidy g) (hlive : c ∈ g.clients → Live conn) : Tidy (g.put c conn) where
  rooms := h.rooms
  clients c' hc' := by
    by_cases heq : c' = c
    · rw [heq] at hc' ⊢
      exact ⟨conn, put_self, hlive hc'⟩
    · rw [put_of_ne heq]
      exact h.clients c' hc'

theorem Tidy.join (h : Tidy g) (hc : c ∈ g.clients) (hlive : Live conn) :
    Tidy (g.join c conn room) where
  rooms c' r hr := by
    rcases mem_join.mp hr with ⟨rfl, -⟩ | hold
    · exact hc
    · exact h.rooms c' r hold
  clients := (h.put (c := c) fun _ => hlive.withRooms).clients

theorem Tidy.leave (h : Tidy g) (hlive : c ∈ g.clients → Live conn) :
    Tidy (g.leave c conn room) where
  rooms c' r hr := h.rooms c' r (mem_leave hr)
  clients := (h.put (c := c) fun hc => (hlive hc).withRooms).clients

theorem rooms_handleDisconnect (h : ∀ c room, c ∈ g.roomManager.rooms room → c ∈ g.clients)
    {c' : ClientId} (hroom : c' ∈ (g.handleDisconnect c).roomManager.rooms room) :
    c' ∈ (g.handleDisconnect c).clients := by
  obtain ⟨hold, hother⟩ := mem_rooms_handleDisconnect hroom
  have hmem := h c' room hold
  refine mem_handleDisconnect.mpr ⟨?_, hmem⟩
  rintro rfl
  exact hother hmem rfl

theorem Tidy.handleDisconnect (h : Tidy g) : Tidy (g.handleDisconnect c) where
  rooms _ _ hr := rooms_handleDisconnect h.rooms hr
  clients c' hc' := by
    rw [handleDisconnect_connections]
    exact h.clients c' (mem_handleDisconnect.mp hc').2

/-- A client that is about to be removed may have any connection. -/
theorem Tidy.put_handleDisconnect (h : Tidy g) : Tidy ((g.put c conn).handleDisconnect c) where
  rooms _ _ hr := rooms_handleDisconnect (g := g.put c conn) h.rooms hr
  clients c' hc' := by
    obtain ⟨hne, hmem⟩ := mem_handleDisconnect.mp hc'
    rw [handleDisconnect_connections, put_of_ne hne]
    exact h.clients c' hmem

theorem Tidy.register {user : WSAuthResult} (h : Tidy g)
    (hopen : user.tenant = none → conn.closed = false) : Tidy (g.register c conn user) where
  rooms c' r hr := by
    rcases mem_join.mp hr with ⟨rfl, -⟩ | hold
    · exact List.mem_append_right _ List.mem_cons_self
    · exact List.mem_append_left _ (h.rooms c' r hold)
  clients c' hc' := by
    by_cases heq : c' = c
    · rw [heq]
      refine ⟨_, put_self, ?_⟩
      cases htenant : user.tenant with
      | none => exact .inr ⟨by simp [withRooms], hopen htenant⟩
      | some tenantId => exact .inl ⟨tenantId, by simp [withRooms]⟩
    · have hmem : c' ∈ g.clients := by
        simpa [Gateway.register, heq] using hc'
      simp only [Gateway.register, join_connections]
      rw [put_of_ne heq]
      exact h.clients c' hmem

theorem Tidy.beat (h : Tidy g) : Tidy (g.beat c) := by
  unfold Gateway.beat
  cases hconn : g.connections c with
  | none => exact h
  | some conn =>
    have hlive : c ∈ g.clients → Live conn := fun hc => h.live hconn hc
    simp only
    split
    · exact h.put hlive
    · exact h.put_handleDisconnect

theorem Tidy.heartbeat (h : Tidy g) : Tidy g.heartbeat := by
  have hbeat : ∀ g c, Tidy g → Tidy (Gateway.beat g c) := fun _ _ h => h.beat
  exact heartbeat_keeps hbeat h

end tidy

section steps

/-- The connection whose check of the tenant room answers. -/
theorem tenantChecked_some {options : WebSocketGatewayOptions} {g g' : Gateway} {c : ClientId}
    {called : Option Bool} (h : stepGateway options g (.tenantChecked c called) = some g') :
    ∃ conn client tenantId, g.connections c = some conn ∧ conn.client = some client ∧
      conn.handshake = .checkingTenant tenantId ∧
      g' = g.tenantChecked options c conn client tenantId called := by
  obtain ⟨conn, hfilter, hf⟩ := Option.bind_eq_some_iff.mp h
  obtain ⟨hconn, -⟩ := Option.filter_eq_some_iff.mp hfilter
  split at hf
  · rename_i tenantId client hstage hclient
    cases hf
    exact ⟨conn, client, tenantId, hconn, hclient, hstage, rfl⟩
  · cases hf

variable {options : WebSocketGatewayOptions} {g g' : Gateway} {c : ClientId} {conn : Connection}

theorem onConnection_some {enabled : Connection → Bool} {f : Connection → Option Gateway}
    (h : onConnection g c enabled f = some g') :
    ∃ conn, g.connections c = some conn ∧ enabled conn = true ∧ f conn = some g' := by
  obtain ⟨conn, hfilter, hf⟩ := Option.bind_eq_some_iff.mp h
  obtain ⟨hconn, henabled⟩ := Option.filter_eq_some_iff.mp hfilter
  exact ⟨conn, hconn, henabled, hf⟩

theorem Tidy.connect {request : Request} (h : Tidy g) (hnew : (g.connections c).isNone = true) :
    Tidy (g.connect options c request) := by
  refine h.put fun hc => ?_
  obtain ⟨conn, hconn, -⟩ := h.clients c hc
  rw [hconn] at hnew
  cases hnew

theorem Tidy.authenticated {user : Option (Option WSAuthResult)} (h : Tidy g)
    (hconn : g.connections c = some conn) (hstage : conn.handshake = .authenticating)
    (hopen : FinishesOpen options g (.authenticated c user)) :
    Tidy (g.authenticated c conn user) := by
  have hno : c ∉ g.clients := by
    intro hc
    rcases h.live hconn hc with ⟨tenantId, hchecking⟩ | ⟨hlistening, -⟩
    · rw [hstage] at hchecking
      cases hchecking
    · rw [hstage] at hlistening
      cases hlistening
  unfold Gateway.authenticated
  split
  · exact h.register (hopen conn hconn)
  · exact h.put fun hc => absurd hc hno
  · exact h.put fun hc => absurd hc hno

theorem Tidy.tenantChecked {client : WSClient} {tenantId : String} {called : Option Bool}
    (h : Tidy g) (hconn : g.connections c = some conn) (hclient : conn.client = some client)
    (hopen : FinishesOpen options g (.tenantChecked c called)) :
    Tidy (g.tenantChecked options c conn client tenantId called) := by
  have hends := hopen conn hconn client hclient
  unfold Gateway.tenantChecked
  by_cases hc : c ∈ g.clients
  · rw [if_pos hc] at hends
    have hlive : ∀ conn' : Connection, conn'.handshake = .listening → conn'.closed = conn.closed →
        Live conn' := fun conn' hlistening hclosed => .inr ⟨hlistening, hclosed.trans hends.1⟩
    split
    · exact h.join hc (hlive _ rfl rfl)
    · exact h.put fun _ => hlive _ rfl rfl
    · rename_i hnone
      exact absurd hnone hends.2
  · rw [if_neg hc] at hends
    split
    · rename_i htrue
      exact absurd htrue hends
    · exact h.put fun hmem => absurd hmem hc
    · exact h.put fun hmem => absurd hmem hc

theorem Tidy.handleMessage {message : InboundMessage} (h : Tidy g)
    (hconn : g.connections c = some conn) : Tidy (g.handleMessage c conn message) := by
  have hlive : c ∈ g.clients → Live conn := fun hc => h.live hconn hc
  cases message with
  | subscribe room =>
    simp only [Gateway.handleMessage]
    split
    · exact h
    · exact h.put hlive
  | unsubscribe room =>
    simp only [Gateway.handleMessage]
    split
    · exact h
    · exact h.leave hlive
  | other => exact h

theorem Tidy.taskResolved {client : WSClient} {task : Task} {called : Option Bool} (h : Tidy g)
    (hlive : c ∈ g.clients → Live conn) :
    Tidy (g.taskResolved options c conn client task called) := by
  cases task with
  | subscribing room =>
    simp only [Gateway.taskResolved]
    split
    · split
      · rename_i hc
        exact h.join hc (hlive hc)
      · exact h.put hlive
    · exact h.put hlive
    · exact h.put hlive
  | rechecking =>
    simp only [Gateway.taskResolved]
    split
    · exact h.put hlive
    · exact h.put_handleDisconnect
    · exact h.put hlive
  | revalidating room rest =>
    simp only [Gateway.taskResolved]
    split
    · exact h.put hlive
    · exact h.leave hlive
    · exact h.put hlive

theorem Tidy.close (h : Tidy g) (hconn : g.connections c = some conn) :
    Tidy (g.close c conn) := by
  unfold Gateway.close
  simp only
  split
  · exact h.put_handleDisconnect
  · rename_i hnot
    refine h.put fun hc => ?_
    rcases h.live hconn hc with hchecking | ⟨hlistening, -⟩
    · exact .inl hchecking
    · exact absurd hlistening hnot

theorem Tidy.error (h : Tidy g) : Tidy (g.error c conn) := by
  unfold Gateway.error
  split
  · exact h.handleDisconnect
  · exact ⟨h.rooms, h.clients⟩

theorem tidy_step {label : GatewayLabel} (h : Tidy g) (hopen : FinishesOpen options g label)
    (hs : (gateway options).step g label = some g') : Tidy g' := by
  simp only [gateway] at hs
  split at hs
  · cases label with
    | connect c request =>
      simp only [stepGateway] at hs
      split at hs
      · rename_i hnew
        cases hs
        exact h.connect hnew
      · cases hs
    | authenticated c user =>
      obtain ⟨conn, hconn, hstage, hf⟩ := onConnection_some hs
      cases hf
      exact h.authenticated hconn (of_decide_eq_true hstage) hopen
    | tenantChecked c called =>
      obtain ⟨conn, client, tenantId, hconn, hclient, -, rfl⟩ := tenantChecked_some hs
      exact h.tenantChecked hconn hclient hopen
    | message c message =>
      obtain ⟨conn, hconn, -, hf⟩ := onConnection_some hs
      cases hf
      exact h.handleMessage hconn
    | pong c =>
      obtain ⟨conn, hconn, -, hf⟩ := onConnection_some hs
      cases hf
      have hlive : c ∈ g.clients → Live conn := fun hc => h.live hconn hc
      exact h.put hlive
    | taskResolved c i called =>
      obtain ⟨conn, hconn, -, hf⟩ := onConnection_some hs
      obtain ⟨client, -, htask⟩ := Option.bind_eq_some_iff.mp hf
      obtain ⟨task, -, rfl⟩ := Option.map_eq_some_iff.mp htask
      have hlive : c ∈ g.clients → Live conn := fun hc => h.live hconn hc
      exact h.taskResolved hlive
    | heartbeat =>
      cases hs
      exact h.heartbeat
    | close c =>
      obtain ⟨conn, hconn, -, hf⟩ := onConnection_some hs
      cases hf
      exact h.close hconn
    | error c =>
      obtain ⟨conn, -, -, hf⟩ := onConnection_some hs
      cases hf
      exact h.error
  · cases hs

end steps
section entries
variable {options : WebSocketGatewayOptions} {g g' : Gateway} {c c' : ClientId}
  {conn : Connection} {room : String}

theorem mem_put_handleDisconnect
    (h : c' ∈ ((g.put c conn).handleDisconnect c).roomManager.rooms room) :
    c' ∈ g.roomManager.rooms room :=
  (mem_rooms_handleDisconnect h).1

theorem mem_heartbeat (h : c' ∈ g.heartbeat.roomManager.rooms room) :
    c' ∈ g.roomManager.rooms room := by
  have hbeat : ∀ (g : Gateway) c, c' ∈ (g.beat c).roomManager.rooms room →
      c' ∈ g.roomManager.rooms room := by
    intro g c hroom
    unfold beat at hroom
    split at hroom
    · exact hroom
    · simp only at hroom
      split at hroom
      · exact hroom
      · exact mem_put_handleDisconnect hroom
  have hkeeps : ∀ (g' : Gateway) c,
      (c' ∈ g'.roomManager.rooms room → c' ∈ g.roomManager.rooms room) →
      c' ∈ (g'.beat c).roomManager.rooms room → c' ∈ g.roomManager.rooms room :=
    fun g' c hg' hroom => hg' (hbeat g' c hroom)
  exact heartbeat_keeps (P := fun g' => c' ∈ g'.roomManager.rooms room →
    c' ∈ g.roomManager.rooms room) hkeeps (fun hroom => hroom) h

theorem enters_taskResolved {i : Nat} {task : Task} {client : WSClient} {called : Option Bool}
    {rest : List Task} (hconn : g.connections c = some conn) (hclient : conn.client = some client)
    (htask : conn.tasks[i]? = some task)
    (h : c' ∈ (g.taskResolved options c { conn with tasks := rest } client task
      called).roomManager.rooms room) :
    c' ∈ g.roomManager.rooms room ∨
      Granted options ⟨g, .taskResolved c i called, g'⟩ c' room := by
  cases task with
  | subscribing asked =>
    simp only [taskResolved] at h
    split at h
    · rename_i hanswer
      split at h
      · rcases mem_join.mp h with ⟨rfl, rfl⟩ | hold
        · exact .inr (.subscribed g g' c' conn client i room called hconn hclient htask hanswer)
        · exact .inl hold
      · exact .inl h
    · exact .inl h
    · exact .inl h
  | rechecking =>
    simp only [taskResolved] at h
    split at h
    · exact .inl h
    · exact .inl (mem_put_handleDisconnect h)
    · exact .inl h
  | revalidating asked rest =>
    simp only [taskResolved] at h
    split at h
    · exact .inl h
    · exact .inl (mem_leave h)
    · exact .inl h

/-- A step puts a client into a room only when it is granted. -/
theorem enters_granted {label : GatewayLabel} (hs : (gateway options).step g label = some g')
    (h : c' ∈ g'.roomManager.rooms room) :
    c' ∈ g.roomManager.rooms room ∨ Granted options ⟨g, label, g'⟩ c' room := by
  simp only [gateway] at hs
  split at hs
  · cases label with
    | connect c request =>
      simp only [stepGateway] at hs
      split at hs
      · cases hs
        exact .inl h
      · cases hs
    | authenticated c user =>
      obtain ⟨conn, hconn, -, hf⟩ := onConnection_some hs
      cases hf
      unfold authenticated at h
      split at h
      · rename_i user
        rcases mem_join.mp h with ⟨rfl, rfl⟩ | hold
        · exact .inr (.own _ _ _ user)
        · exact .inl hold
      · exact .inl h
      · exact .inl h
    | tenantChecked c called =>
      obtain ⟨conn, client, tenantId, hconn, hclient, hstage, rfl⟩ := tenantChecked_some hs
      unfold tenantChecked at h
      split at h
      · rename_i hanswer
        rcases mem_join.mp h with ⟨rfl, rfl⟩ | hold
        · exact .inr (.tenant _ _ _ conn client tenantId called hconn hclient hstage hanswer)
        · exact .inl hold
      · exact .inl h
      · exact .inl h
    | message c message =>
      obtain ⟨conn, hconn, -, hf⟩ := onConnection_some hs
      cases hf
      cases message with
      | subscribe asked =>
        simp only [handleMessage] at h
        split at h <;> exact .inl h
      | unsubscribe asked =>
        simp only [handleMessage] at h
        split at h
        · exact .inl h
        · exact .inl (mem_leave h)
      | other => exact .inl h
    | pong c =>
      obtain ⟨conn, hconn, -, hf⟩ := onConnection_some hs
      cases hf
      exact .inl h
    | taskResolved c i called =>
      obtain ⟨conn, hconn, -, hf⟩ := onConnection_some hs
      obtain ⟨client, hclient, htasks⟩ := Option.bind_eq_some_iff.mp hf
      obtain ⟨task, htask, rfl⟩ := Option.map_eq_some_iff.mp htasks
      exact enters_taskResolved hconn hclient htask h
    | heartbeat =>
      cases hs
      exact .inl (mem_heartbeat h)
    | close c =>
      obtain ⟨conn, hconn, -, hf⟩ := onConnection_some hs
      cases hf
      simp only [close] at h
      split at h
      · exact .inl (mem_put_handleDisconnect h)
      · exact .inl h
    | error c =>
      obtain ⟨conn, hconn, -, hf⟩ := onConnection_some hs
      cases hf
      simp only [error] at h
      split at h
      · exact .inl (mem_rooms_handleDisconnect h).1
      · exact .inl h
  · cases hs

/-- Every member of a room entered it at a step that granted it. -/
theorem member_granted {labels : List GatewayLabel}
    (hr : (gateway options).run start labels = some g) (h : c ∈ g.roomManager.rooms room) :
    ∃ step ∈ (gateway options).history start labels, Granted options step c room := by
  have hstep : ∀ g label g', True → (gateway options).step g label = some g' →
      c ∈ g'.roomManager.rooms room →
      c ∈ g.roomManager.rooms room ∨ Granted options ⟨g, label, g'⟩ c room :=
    fun _ _ _ _ hs h => enters_granted hs h
  rcases Machine.history_source (Q := fun g => c ∈ g.roomManager.rooms room)
    (P := fun step => Granted options step c room) _ hstep
    ((gateway options).within_true start labels) hr h with
    hstart | hgranted
  · simp [start, RoomManager.empty] at hstart
  · exact hgranted

end entries

section unheard

/-- The state of a client nobody listens to: its account may be checked again, and it is in no
room that a check could take from it. -/
structure Early (conn : Connection) : Prop where
  tasks : ∀ task ∈ conn.tasks, task = .rechecking
  rooms : ∀ client, conn.client = some client → nextRoom client.rooms = []

def Unheard (g : Gateway) : Prop :=
  ∀ c conn, g.connections c = some conn → conn.handshake ≠ .listening → Early conn

variable {options : WebSocketGatewayOptions} {g g' : Gateway} {c : ClientId} {conn : Connection}
  {room : String}

theorem nextRoom_userRoom (userId : String) : nextRoom [userRoom userId] = [] := by
  have hstarts : startsWith "user:" (userRoom userId) = true := by
    simp [startsWith, userRoom, String.toList_append]
  simp [nextRoom, hstarts]

theorem Unheard.put (h : Unheard g) (hearly : conn.handshake ≠ .listening → Early conn) :
    Unheard (g.put c conn) := by
  intro c' conn' hconn' hstage
  by_cases heq : c' = c
  · rw [heq, put_self] at hconn'
    cases hconn'
    exact hearly hstage
  · rw [put_of_ne heq] at hconn'
    exact h c' conn' hconn' hstage

theorem Unheard.handleDisconnect (h : Unheard g) : Unheard (g.handleDisconnect c) := by
  intro c' conn' hconn'
  rw [handleDisconnect_connections] at hconn'
  exact h c' conn' hconn'

theorem Early.recheck (h : Early conn) :
    Early { conn with tasks := conn.tasks ++ [.rechecking] } where
  tasks task ht := by
    rcases List.mem_append.mp ht with hold | hnew
    · exact h.tasks task hold
    · exact List.mem_singleton.mp hnew
  rooms := h.rooms

theorem Early.setAlive {isAlive : Bool} (h : Early conn) : Early (setAlive isAlive conn) where
  tasks := h.tasks
  rooms client hclient := by
    obtain ⟨client₀, hclient₀, rfl⟩ := Option.map_eq_some_iff.mp hclient
    exact h.rooms client₀ hclient₀

theorem Unheard.heartbeat (h : Unheard g) : Unheard g.heartbeat := by
  have hbeat : ∀ (g : Gateway) c, Unheard g → Unheard (g.beat c) := by
    intro g c h
    unfold beat
    cases hconn : g.connections c with
    | none => exact h
    | some conn =>
      have hrecheck : conn.handshake ≠ .listening →
          Early { conn with tasks := conn.tasks ++ [.rechecking] } :=
        fun hno => (h c conn hconn hno).recheck
      simp only
      split
      · exact h.put fun hno => (hrecheck hno).setAlive
      · exact (h.put hrecheck).handleDisconnect
  exact heartbeat_keeps hbeat h

theorem Unheard.taskResolved {client : WSClient} {task : Task} {called : Option Bool}
    (h : Unheard g) (hclient : conn.client = some client)
    (hearly : conn.handshake ≠ .listening → Early conn ∧ task = .rechecking) :
    Unheard (g.taskResolved options c conn client task called) := by
  have hput : Unheard (g.put c conn) := h.put fun hno => (hearly hno).1
  cases task with
  | subscribing room =>
    have hlistening : conn.handshake = .listening := by
      by_contra hno
      cases (hearly hno).2
    simp only [Gateway.taskResolved]
    split
    · split
      · exact h.put fun hno => absurd hlistening hno
      · exact hput
    · exact hput
    · exact hput
  | rechecking =>
    simp only [Gateway.taskResolved]
    split
    · refine h.put fun hno => ?_
      obtain ⟨hearly, -⟩ := hearly hno
      rw [hearly.rooms client hclient, List.append_nil]
      exact hearly
    · exact hput.handleDisconnect
    · exact hput
  | revalidating room rest =>
    have hlistening : conn.handshake = .listening := by
      by_contra hno
      cases (hearly hno).2
    simp only [Gateway.taskResolved]
    split
    · exact h.put fun hno => absurd hlistening hno
    · exact h.put fun hno => absurd hlistening hno
    · exact hput

theorem Unheard.authenticated {user : Option (Option WSAuthResult)} (h : Unheard g)
    (hearly : Early conn) : Unheard (g.authenticated c conn user) := by
  unfold Gateway.authenticated
  split
  · rename_i user
    refine h.put fun _ => ⟨hearly.tasks, fun client hclient => ?_⟩
    cases hclient
    exact nextRoom_userRoom user.userId
  · exact h.put fun _ => ⟨hearly.tasks, hearly.rooms⟩
  · exact h.put fun _ => ⟨hearly.tasks, hearly.rooms⟩

theorem Unheard.tenantChecked {client : WSClient} {tenantId : String} {called : Option Bool}
    (h : Unheard g) (hearly : Early conn) :
    Unheard (g.tenantChecked options c conn client tenantId called) := by
  unfold Gateway.tenantChecked
  split
  · exact h.put fun hno => absurd rfl hno
  · exact h.put fun hno => absurd rfl hno
  · exact h.put fun _ => ⟨hearly.tasks, hearly.rooms⟩

theorem Unheard.handleMessage {message : InboundMessage} (h : Unheard g)
    (hlistening : conn.handshake = .listening) : Unheard (g.handleMessage c conn message) := by
  cases message with
  | subscribe asked =>
    simp only [Gateway.handleMessage]
    split
    · exact h
    · exact h.put fun hno => absurd hlistening hno
  | unsubscribe asked =>
    simp only [Gateway.handleMessage]
    split
    · exact h
    · exact h.put fun hno => absurd hlistening hno
  | other => exact h

theorem Unheard.close (h : Unheard g) (hconn : g.connections c = some conn) :
    Unheard (g.close c conn) := by
  have hclosed : Unheard (g.put c { conn with closed := true }) :=
    h.put fun hno => ⟨(h c conn hconn hno).tasks, (h c conn hconn hno).rooms⟩
  unfold Gateway.close
  simp only
  split
  · exact hclosed.handleDisconnect
  · exact hclosed

theorem Unheard.error (h : Unheard g) : Unheard (g.error c conn) := by
  unfold Gateway.error
  split
  · exact h.handleDisconnect
  · exact h

theorem unheard_step {label : GatewayLabel} (h : Unheard g)
    (hs : (gateway options).step g label = some g') : Unheard g' := by
  simp only [gateway] at hs
  split at hs
  · cases label with
    | connect c request =>
      simp only [stepGateway] at hs
      split at hs
      · cases hs
        exact h.put fun _ => ⟨by simp, by simp⟩
      · cases hs
    | authenticated c user =>
      obtain ⟨conn, hconn, hstage, hf⟩ := onConnection_some hs
      cases hf
      have hearly : Early conn := by
        apply h c conn hconn
        rw [of_decide_eq_true hstage]
        decide
      exact h.authenticated hearly
    | tenantChecked c called =>
      obtain ⟨conn, client, tenantId, hconn, hclient, hstage, rfl⟩ := tenantChecked_some hs
      have hearly : Early conn := by
        apply h c conn hconn
        rw [hstage]
        simp
      exact h.tenantChecked hearly
    | message c message =>
      obtain ⟨conn, hconn, hstage, hf⟩ := onConnection_some hs
      cases hf
      exact h.handleMessage (of_decide_eq_true hstage).1
    | pong c =>
      obtain ⟨conn, hconn, -, hf⟩ := onConnection_some hs
      cases hf
      exact h.put fun hno => (h c conn hconn hno).setAlive
    | taskResolved c i called =>
      obtain ⟨conn, hconn, -, hf⟩ := onConnection_some hs
      obtain ⟨client, hclient, htasks⟩ := Option.bind_eq_some_iff.mp hf
      obtain ⟨task, htask, rfl⟩ := Option.map_eq_some_iff.mp htasks
      refine h.taskResolved hclient fun hno => ?_
      have hearly := h c conn hconn hno
      refine ⟨⟨fun t ht => hearly.tasks t (List.mem_of_mem_eraseIdx ht), hearly.rooms⟩, ?_⟩
      exact hearly.tasks task (List.mem_of_getElem? htask)
    | heartbeat =>
      cases hs
      exact h.heartbeat
    | close c =>
      obtain ⟨conn, hconn, -, hf⟩ := onConnection_some hs
      cases hf
      exact h.close hconn
    | error c =>
      obtain ⟨conn, hconn, -, hf⟩ := onConnection_some hs
      cases hf
      exact h.error
  · cases hs

end unheard

section leftovers
variable {options : WebSocketGatewayOptions} {g g' : Gateway} {c : ClientId} {conn : Connection}

/-- A connection past its handshake whose pending steps only check its account. -/
structure Waiting (g : Gateway) (c : ClientId) (conn : Connection) : Prop where
  up : g.up = true
  found : g.connections c = some conn
  client : ∃ client, conn.client = some client
  handshake : conn.handshake = .listening ∨ conn.handshake = .ended
  tasks : ∀ task ∈ conn.tasks, task = .rechecking

def Somewhere (g : Gateway) (c : ClientId) : Prop :=
  c ∈ g.clients ∨ ∃ room, c ∈ g.roomManager.rooms room

/-- No listener will remove the client: its socket has closed, the listeners are missing, or it
is in a room without being registered. -/
def Stuck (g : Gateway) (c : ClientId) (conn : Connection) : Prop :=
  (conn.closed = true ∧ Somewhere g c) ∨ (conn.handshake = .ended ∧ c ∈ g.clients) ∨
    (c ∉ g.clients ∧ ∃ room, c ∈ g.roomManager.rooms room)

theorem onConnection_of {enabled : Connection → Bool} {f : Connection → Option Gateway}
    (hconn : g.connections c = some conn) (henabled : enabled conn = true) :
    onConnection g c enabled f = f conn := by
  rw [onConnection, hconn, Option.filter_some, if_pos henabled, Option.bind_some]

theorem recheck_fails {client : WSClient} {rest : List Task} (hup : g.up = true)
    (hconn : g.connections c = some conn) (hclient : conn.client = some client)
    (htasks : conn.tasks = .rechecking :: rest) :
    (gateway options).step g (.taskResolved c 0 none) =
      some (g.put c { conn with tasks := rest }) := by
  simp only [gateway, if_pos hup, stepGateway]
  rw [onConnection_of hconn rfl, hclient, htasks]
  rfl

/-- The pending checks may all fail, and leave the client where it is. -/
theorem closed_stays {tasks : List Task} (h : Waiting g c conn) (htasks : conn.tasks = tasks)
    (hclosed : conn.closed = true) (hsomewhere : Somewhere g c) :
    ∃ labels g', (∀ label ∈ labels, WindsDown label) ∧
      (gateway options).run g labels = some g' ∧ ¬ ClosedNowhere g' := by
  obtain ⟨client, hclient⟩ := h.client
  induction tasks generalizing g conn with
  | nil =>
    refine ⟨[], g, by simp, rfl, fun hnowhere => ?_⟩
    obtain ⟨hclients, hrooms⟩ := hnowhere c conn h.found ⟨hclosed, h.handshake, htasks⟩
    rcases hsomewhere with hmem | ⟨room, hroom⟩
    · exact hclients hmem
    · exact hrooms room hroom
  | cons task rest ih =>
    have htask : task = .rechecking := h.tasks task (by rw [htasks]; exact List.mem_cons_self)
    rw [htask] at htasks
    have hstep : (gateway options).step g (.taskResolved c 0 none) =
        some (g.put c { conn with tasks := rest }) :=
      recheck_fails h.up h.found hclient htasks
    have hwaiting : Waiting (g.put c { conn with tasks := rest }) c { conn with tasks := rest } :=
      ⟨h.up, put_self, ⟨client, hclient⟩, h.handshake, fun t ht =>
        h.tasks t (by rw [htasks]; exact List.mem_cons_of_mem _ ht)⟩
    obtain ⟨labels, g', hwinds, hr, hleft⟩ := ih hwaiting rfl hclosed hsomewhere hclient
    refine ⟨_ :: labels, g', ?_, (Machine.run_cons _).mpr ⟨_, hstep, hr⟩, hleft⟩
    intro label hlabel
    rcases List.mem_cons.mp hlabel with rfl | hlater
    · trivial
    · exact hwinds label hlater

/-- A client that is stuck is left over, once its socket has closed. -/
theorem stuck_stays (h : Waiting g c conn) (hstuck : Stuck g c conn) :
    ∃ labels g', (∀ label ∈ labels, WindsDown label) ∧
      (gateway options).run g labels = some g' ∧ ¬ ClosedNowhere g' := by
  cases hclosed : conn.closed with
  | true =>
    have hsomewhere : Somewhere g c := by
      rcases hstuck with ⟨-, hsomewhere⟩ | ⟨-, hmem⟩ | ⟨-, hroom⟩
      · exact hsomewhere
      · exact .inl hmem
      · exact .inr hroom
    exact closed_stays h rfl hclosed hsomewhere
  | false =>
    have hstep : (gateway options).step g (.close c) = some (g.close c conn) := by
      simp only [gateway, if_pos h.up, stepGateway]
      rw [onConnection_of h.found (decide_eq_true hclosed)]
    have hclose : g.close c conn = g.put c { conn with closed := true } := by
      unfold close
      split
      · rename_i hlistening
        have hno : c ∉ g.clients := by
          rcases hstuck with ⟨hyes, -⟩ | ⟨hended, -⟩ | ⟨hno, -⟩
          · rw [hclosed] at hyes
            cases hyes
          · rw [hlistening] at hended
            cases hended
          · exact hno
        exact if_neg hno
      · rfl
    have hsomewhere : Somewhere (g.put c { conn with closed := true }) c := by
      rcases hstuck with ⟨-, hsomewhere⟩ | ⟨-, hmem⟩ | ⟨-, hroom⟩
      · exact hsomewhere
      · exact .inl hmem
      · exact .inr hroom
    have hwaiting : Waiting (g.put c { conn with closed := true }) c { conn with closed := true } :=
      ⟨h.up, put_self, h.client, h.handshake, h.tasks⟩
    have hstays : ∃ labels g', (∀ label ∈ labels, WindsDown label) ∧
        (gateway options).run (g.put c { conn with closed := true }) labels = some g' ∧
          ¬ ClosedNowhere g' :=
      closed_stays hwaiting rfl rfl hsomewhere
    obtain ⟨labels, g', hwinds, hr, hleft⟩ := hstays
    rw [← hclose] at hr
    refine ⟨.close c :: labels, g', ?_, (Machine.run_cons _).mpr ⟨_, hstep, hr⟩, hleft⟩
    intro label hlabel
    rcases List.mem_cons.mp hlabel with rfl | hlater
    · trivial
    · exact hwinds label hlater

theorem stuck_register {user : WSAuthResult} (hup : g.up = true) (hearly : Early conn)
    (htenant : user.tenant = none) (hclosed : conn.closed = true) :
    ∃ conn', Waiting (g.register c conn user) c conn' ∧ Stuck (g.register c conn user) c conn' :=
  ⟨_, ⟨hup, put_self, ⟨_, rfl⟩, .inl (by simp [withRooms, htenant]), hearly.tasks⟩,
    .inl ⟨hclosed, .inl (List.mem_append_right _ List.mem_cons_self)⟩⟩

theorem stuck_tenantChecked {client : WSClient} {tenantId : String} {called : Option Bool}
    (hup : g.up = true) (hearly : Early conn) (hclient : conn.client = some client)
    (hends : ¬ if c ∈ g.clients then
        conn.closed = false ∧
          (canAccessTenantRoom options client.toWSAuthResult).resolve called ≠ none
      else (canAccessTenantRoom options client.toWSAuthResult).resolve called ≠ some true) :
    ∃ conn', Waiting (g.tenantChecked options c conn client tenantId called) c conn' ∧
      Stuck (g.tenantChecked options c conn client tenantId called) c conn' := by
  have hjoined : (withRooms (addRoom (tenantRoom tenantId)) conn).client =
      some { client with rooms := addRoom (tenantRoom tenantId) client.rooms } := by
    simp [withRooms, hclient]
  have hput : ∀ stage, stage = .listening ∨ stage = .ended →
      Waiting (g.put c { conn with handshake := stage }) c { conn with handshake := stage } :=
    fun stage hstage => ⟨hup, put_self, ⟨client, hclient⟩, hstage, hearly.tasks⟩
  unfold tenantChecked
  by_cases hc : c ∈ g.clients
  · rw [if_pos hc] at hends
    split
    · rename_i htrue
      have hclosed : conn.closed = true := by
        simpa [htrue] using hends
      exact ⟨_, ⟨hup, put_self, ⟨_, hjoined⟩, .inl rfl, hearly.tasks⟩,
        .inl ⟨hclosed, .inl hc⟩⟩
    · rename_i hfalse
      have hclosed : conn.closed = true := by
        simpa [hfalse] using hends
      exact ⟨_, hput .listening (.inl rfl), .inl ⟨hclosed, .inl hc⟩⟩
    · exact ⟨_, hput .ended (.inr rfl), .inr (.inl ⟨rfl, hc⟩)⟩
  · rw [if_neg hc, ne_eq, not_not] at hends
    rw [hends]
    exact ⟨_, ⟨hup, put_self, ⟨_, hjoined⟩, .inl rfl, hearly.tasks⟩,
      .inr (.inr ⟨hc, _, mem_join.mpr (.inl ⟨rfl, rfl⟩)⟩)⟩

theorem stuck_of_step {label : GatewayLabel} (h : Unheard g)
    (hs : (gateway options).step g label = some g') (hbad : ¬ FinishesOpen options g label) :
    ∃ c conn, Waiting g' c conn ∧ Stuck g' c conn := by
  simp only [gateway] at hs
  split at hs
  · rename_i hup
    cases label with
    | authenticated c user =>
      obtain ⟨conn, hconn, hstage, hf⟩ := onConnection_some hs
      cases hf
      have hearly : Early conn := by
        apply h c conn hconn
        rw [of_decide_eq_true hstage]
        decide
      match user with
      | none => exact absurd trivial hbad
      | some none => exact absurd trivial hbad
      | some (some user) =>
        simp only [FinishesOpen, not_forall] at hbad
        obtain ⟨conn', hconn', htenant, hclosed⟩ := hbad
        rw [hconn] at hconn'
        cases hconn'
        exact ⟨c, stuck_register hup hearly htenant (eq_true_of_ne_false hclosed)⟩
    | tenantChecked c called =>
      obtain ⟨conn, client, tenantId, hconn, hclient, hstage, rfl⟩ := tenantChecked_some hs
      have hearly : Early conn := by
        apply h c conn hconn
        rw [hstage]
        simp
      simp only [FinishesOpen, not_forall] at hbad
      obtain ⟨conn', hconn', client', hclient', hends⟩ := hbad
      rw [hconn] at hconn'
      cases hconn'
      rw [hclient] at hclient'
      cases hclient'
      exact ⟨c, stuck_tenantChecked hup hearly hclient hends⟩
    | connect | message | pong | taskResolved | heartbeat | close | error =>
      exact absurd trivial hbad
  · cases hs

end leftovers

theorem finishesOpen_windsDown {options : WebSocketGatewayOptions} {g : Gateway}
    {label : GatewayLabel} (h : WindsDown label) : FinishesOpen options g label := by
  cases label with
  | close | taskResolved => trivial
  | connect | authenticated | tenantChecked | message | pong | heartbeat | error => cases h

/-- In every run, a member of a room was granted it when it entered. And over every run, however
its sockets close and its pending steps finish from any of its states: closed sockets are in no
room and not in the map, exactly when every handshake ends with the socket open and its client
registered, or without a room to join. -/
theorem closed_sockets_leave_iff {options : WebSocketGatewayOptions} {labels : List GatewayLabel}
    {g : Gateway} (hr : (gateway options).run start labels = some g) :
    (∀ c room, c ∈ g.roomManager.rooms room →
      ∃ step ∈ (gateway options).history start labels, Granted options step c room) ∧
    ((∀ step ∈ (gateway options).history start labels, ∀ later g',
        (∀ label ∈ later, WindsDown label) → (gateway options).run step.after later = some g' →
          ClosedNowhere g') ↔
      ∀ step ∈ (gateway options).history start labels,
        FinishesOpen options step.before step.label) := by
  refine ⟨fun c room hroom => member_granted hr hroom, ?_⟩
  have hstart : Tidy start ∧ Unheard start := by
    refine ⟨⟨?_, ?_⟩, ?_⟩
    · simp [start, RoomManager.empty]
    · simp [start]
    · intro c conn hconn
      cases hconn
  constructor
  · intro hnowhere step hstep
    by_contra hbad
    obtain ⟨before, after, -, hbefore, hs, -⟩ := Machine.split_of_mem_history _ hr hstep
    have hunheard : Unheard step.before :=
      (gateway options).run_preserves (fun _ _ _ h hs => unheard_step h hs) hstart.2 hbefore
    obtain ⟨c, conn, hwaiting, hstuck⟩ := stuck_of_step hunheard hs hbad
    obtain ⟨later, g', hwinds, hlater, hleft⟩ := stuck_stays hwaiting hstuck
    exact hleft (hnowhere step hstep later g' hwinds hlater)
  · intro hopen step hstep later g' hwinds hlater
    obtain ⟨before, after, rfl, hbefore, hs, -⟩ := Machine.split_of_mem_history _ hr hstep
    have hwithin := (Machine.within_iff_history _ hr).mpr hopen
    have htidy : Tidy step.before :=
      (gateway options).run_preserves_within (fun _ _ _ h hC hs => tidy_step h hC hs) hstart.1
        (hwithin.of_append _) hbefore
    have hafter := tidy_step htidy (hwithin.step_at _ hbefore) hs
    have hall : (gateway options).Within (fun _ label => WindsDown label) step.after later :=
      (gateway options).within_of_labels hwinds
    have hlast : Tidy g' :=
      (gateway options).run_preserves_within
        (fun _ _ _ h hW hs => tidy_step h (finishesOpen_windsDown hW) hs) hafter hall hlater
    exact hlast.closedNowhere

section demo

def demoOptions : WebSocketGatewayOptions := ⟨true, true, none⟩

def demoUser : WSAuthResult := ⟨"u", "agent@example.com", some "t", .agent⟩

/-- A client that enters its tenant room and a ticket room, and closes its socket. -/
def demoHeard : List GatewayLabel :=
  [.connect 0 ⟨none⟩, .authenticated 0 (some (some demoUser)), .tenantChecked 0 (some true),
    .message 0 (.subscribe "ticket:5"), .taskResolved 0 0 (some true), .close 0]

/-- The socket closes while the permission for the tenant room is being checked. -/
def demoMissed : List GatewayLabel :=
  [.connect 0 ⟨none⟩, .authenticated 0 (some (some demoUser)), .close 0,
    .tenantChecked 0 (some true)]

/-- The closed socket is settled and its client still registered. -/
def leftOver (g : Gateway) (c : ClientId) : Bool :=
  (g.connections c).any (fun conn =>
    conn.closed && conn.handshake = .listening && conn.tasks = []) && c ∈ g.clients

theorem not_closedNowhere {g : Gateway} {c : ClientId} (h : leftOver g c = true) :
    ¬ ClosedNowhere g := by
  intro hnowhere
  simp only [leftOver, Bool.and_eq_true, decide_eq_true_eq] at h
  obtain ⟨hany, hmem⟩ := h
  obtain ⟨conn, hconn, hsettled⟩ := Option.any_eq_true _ _ |>.mp hany
  simp only [Bool.and_eq_true, decide_eq_true_eq] at hsettled
  obtain ⟨⟨hclosed, hstage⟩, htasks⟩ := hsettled
  exact (hnowhere c conn hconn ⟨hclosed, .inl hstage, htasks⟩).1 hmem

end demo

theorem closed_sockets_leave_heard :
    ∃ g, (gateway demoOptions).run start demoHeard = some g ∧
      ∀ step ∈ (gateway demoOptions).history start demoHeard, ∀ later g',
        (∀ label ∈ later, WindsDown label) →
          (gateway demoOptions).run step.after later = some g' → ClosedNowhere g' := by
  have hsome : ((gateway demoOptions).run start demoHeard).isSome := by decide +kernel
  have hr := (Option.some_get hsome).symm
  have hwithin : (gateway demoOptions).Within (FinishesOpen demoOptions) start demoHeard := by
    decide +kernel
  exact ⟨_, hr, (closed_sockets_leave_iff hr).2.mpr ((Machine.within_iff_history _ hr).mp hwithin)⟩

/-- Its client stays in the map and in two rooms. -/
theorem missed_close_leaves_client :
    ∃ g, (gateway demoOptions).run start demoMissed = some g ∧ ¬ ClosedNowhere g := by
  have hany : ((gateway demoOptions).run start demoMissed).any (fun g => leftOver g 0) = true := by
    decide +kernel
  obtain ⟨g, hr, hleft⟩ := Option.any_eq_true _ _ |>.mp hany
  exact ⟨g, hr, not_closedNowhere hleft⟩

end OmniSupport.Realtime
