import OmniSupport.Realtime.ClosedSockets

/-! Access that is taken away: a pass over the rooms of a client, once all its checks have been
answered, leaves none that is refused, whatever else happens meanwhile. -/
namespace OmniSupport.Realtime
open Foundation Gateway

section mirrored

/-- The client's own set has the rooms that the manager has it in. -/
def HasRooms (g : Gateway) (c : ClientId) (conn : Connection) : Prop :=
  ∀ room, c ∈ g.roomManager.rooms room → ∃ client, conn.client = some client ∧ room ∈ client.rooms

structure Mirrors (g : Gateway) (c : ClientId) (conn : Connection) : Prop where
  rooms : HasRooms g c conn
  authenticating : conn.handshake = .authenticating → conn.client = none

structure Mirrored (g : Gateway) : Prop where
  found : ∀ c room, c ∈ g.roomManager.rooms room → ∃ conn, g.connections c = some conn
  mirrors : ∀ c conn, g.connections c = some conn → Mirrors g c conn

variable {options : WebSocketGatewayOptions} {g g' : Gateway} {c c' : ClientId} {conn : Connection}
  {client : WSClient} {room : String}

theorem Mirrored.start : Mirrored Gateway.start where
  found c room h := by simp [Gateway.start, RoomManager.empty] at h
  mirrors c conn h := by cases h

theorem Mirrored.put (h : Mirrored g) (hconn : Mirrors g c conn) : Mirrored (g.put c conn) where
  found c' room hmem := by
    by_cases heq : c' = c
    · exact ⟨conn, by rw [heq, put_self]⟩
    · rw [put_of_ne heq]
      exact h.found c' room hmem
  mirrors c' conn' hconn' := by
    by_cases heq : c' = c
    · subst heq
      rw [put_self] at hconn'
      cases hconn'
      exact ⟨hconn.rooms, hconn.authenticating⟩
    · rw [put_of_ne heq] at hconn'
      have hold := h.mirrors c' conn' hconn'
      exact ⟨hold.rooms, hold.authenticating⟩

/-- A change of the connection that leaves its client. -/
theorem Mirrored.put_of (h : Mirrored g) (hconn : g.connections c = some conn) {conn' : Connection}
    (hclient : conn'.client = conn.client)
    (hstage : conn'.handshake = .authenticating → conn.handshake = .authenticating) :
    Mirrored (g.put c conn') := by
  have hold := h.mirrors c conn hconn
  refine h.put ⟨fun room hmem => ?_, fun hauth => ?_⟩
  · rw [hclient]
    exact hold.rooms room hmem
  · rw [hclient]
    exact hold.authenticating (hstage hauth)

theorem Mirrored.handleDisconnect (h : Mirrored g) : Mirrored (g.handleDisconnect c) where
  found c' room hmem := by
    rw [handleDisconnect_connections]
    exact h.found c' room (mem_rooms_handleDisconnect hmem).1
  mirrors c' conn' hconn' := by
    rw [handleDisconnect_connections] at hconn'
    have hold := h.mirrors c' conn' hconn'
    exact ⟨fun room hmem => hold.rooms room (mem_rooms_handleDisconnect hmem).1,
      hold.authenticating⟩

theorem mem_addRoom {r : String} {rooms : List String} : r ∈ addRoom room rooms ↔
    r = room ∨ r ∈ rooms := by
  unfold addRoom
  split
  · rename_i hmem
    exact ⟨.inr, fun h => h.elim (fun heq => heq ▸ hmem) id⟩
  · rw [List.mem_append, List.mem_singleton]
    exact or_comm

/-- A client whose rooms are mirrored enters one more. -/
theorem Mirrored.join (h : Mirrored g) (hrooms : HasRooms g c conn)
    (hclient : conn.client = some client) (hstage : conn.handshake ≠ .authenticating) :
    Mirrored (g.join c conn room) where
  found c' r hmem := by
    rw [join_connections]
    by_cases heq : c' = c
    · exact ⟨_, by rw [heq, put_self]⟩
    · rw [put_of_ne heq]
      rcases mem_join.mp hmem with ⟨hc, -⟩ | hold
      · exact absurd hc heq
      · exact h.found c' r hold
  mirrors c' conn' hconn' := by
    rw [join_connections] at hconn'
    by_cases heq : c' = c
    · subst heq
      rw [put_self] at hconn'
      cases hconn'
      refine ⟨fun r hmem => ⟨{ client with rooms := addRoom room client.rooms }, ?_, ?_⟩,
        fun hauth => absurd hauth hstage⟩
      · simp [withRooms, hclient]
      · rw [mem_addRoom]
        rcases mem_join.mp hmem with ⟨-, heq⟩ | hold
        · exact .inl heq
        · obtain ⟨client', hclient', hroom⟩ := hrooms r hold
          rw [hclient] at hclient'
          cases hclient'
          exact .inr hroom
    · rw [put_of_ne heq] at hconn'
      have hold := h.mirrors c' conn' hconn'
      refine ⟨fun r hmem => ?_, hold.authenticating⟩
      rcases mem_join.mp hmem with ⟨hc, -⟩ | hmem
      · exact absurd hc heq
      · exact hold.rooms r hmem

theorem Mirrored.leave (h : Mirrored g) (hrooms : HasRooms g c conn)
    (hstage : conn.handshake ≠ .authenticating) : Mirrored (g.leave c conn room) where
  found c' r hmem := by
    rw [leave_connections]
    by_cases heq : c' = c
    · exact ⟨_, by rw [heq, put_self]⟩
    · rw [put_of_ne heq]
      exact h.found c' r (mem_leave hmem)
  mirrors c' conn' hconn' := by
    rw [leave_connections] at hconn'
    by_cases heq : c' = c
    · subst heq
      rw [put_self] at hconn'
      cases hconn'
      refine ⟨fun r hmem => ?_, fun hauth => absurd hauth hstage⟩
      obtain ⟨hne, hold⟩ := RoomManager.mem_leaveRoom.mp hmem
      obtain ⟨client, hclient, hroom⟩ := hrooms r hold
      refine ⟨{ client with rooms := client.rooms.erase room }, by simp [withRooms, hclient], ?_⟩
      exact (List.mem_erase_of_ne fun heq => hne ⟨rfl, heq⟩).mpr hroom
    · rw [put_of_ne heq] at hconn'
      have hold := h.mirrors c' conn' hconn'
      exact ⟨fun r hmem => hold.rooms r (mem_leave hmem), hold.authenticating⟩

end mirrored

section steps
variable {options : WebSocketGatewayOptions} {g g' : Gateway} {c : ClientId} {conn : Connection}
  {client : WSClient} {room : String}

theorem Mirrored.not_authenticating (h : Mirrored g) (hconn : g.connections c = some conn)
    (hclient : conn.client = some client) : conn.handshake ≠ .authenticating := by
  intro hauth
  rw [(h.mirrors c conn hconn).authenticating hauth] at hclient
  cases hclient

theorem Mirrored.register {user : WSAuthResult} (h : Mirrored g)
    (hconn : g.connections c = some conn) (hstage : conn.handshake = .authenticating) :
    Mirrored (g.register c conn user) := by
  have hnone : ∀ room, c ∉ g.roomManager.rooms room := by
    intro room hmem
    obtain ⟨client, hclient, -⟩ := (h.mirrors c conn hconn).rooms room hmem
    exact h.not_authenticating hconn hclient hstage
  have hadded : Mirrored { g with clients := g.clients ++ [c] } := ⟨h.found, fun c' conn' hconn' =>
    ⟨(h.mirrors c' conn' hconn').rooms, (h.mirrors c' conn' hconn').authenticating⟩⟩
  refine hadded.join (fun room hmem => absurd hmem (hnone room)) rfl ?_
  dsimp only
  split
  · exact nofun
  · exact nofun

theorem Mirrored.put_alive {isAlive : Bool} {tasks : List Task} (h : Mirrored g)
    (hconn : g.connections c = some conn) :
    Mirrored (g.put c (setAlive isAlive { conn with tasks })) := by
  have hold := h.mirrors c conn hconn
  refine h.put ⟨fun room hmem => ?_, fun hauth => ?_⟩
  · obtain ⟨client, hclient, hroom⟩ := hold.rooms room hmem
    exact ⟨{ client with isAlive }, by simp [setAlive, hclient], hroom⟩
  · simp [setAlive, hold.authenticating hauth]

theorem Mirrored.beat (h : Mirrored g) : Mirrored (g.beat c) := by
  unfold Gateway.beat
  cases hconn : g.connections c with
  | none => exact h
  | some conn =>
    have hwaiting : Mirrored (g.put c { conn with tasks := conn.tasks ++ [.rechecking] }) :=
      h.put_of hconn rfl id
    dsimp only
    split
    · exact h.put_alive hconn
    · exact hwaiting.handleDisconnect

theorem Mirrored.heartbeat (h : Mirrored g) : Mirrored g.heartbeat :=
  heartbeat_keeps (fun _ _ h => h.beat) h

theorem Mirrored.taskResolved {task : Task} {called : Option Bool} {tasks : List Task}
    (h : Mirrored g) (hconn : g.connections c = some conn) (hclient : conn.client = some client) :
    Mirrored (g.taskResolved options c { conn with tasks } client task called) := by
  have hput : ∀ tasks, Mirrored (g.put c { conn with tasks }) :=
    fun tasks => h.put_of hconn rfl id
  have hstage := h.not_authenticating hconn hclient
  have hrooms := (h.mirrors c conn hconn).rooms
  cases task with
  | subscribing asked =>
    simp only [Gateway.taskResolved]
    split
    · split
      · exact h.join hrooms hclient hstage
      · exact hput _
    · exact hput _
    · exact hput _
  | rechecking =>
    simp only [Gateway.taskResolved]
    split
    · exact hput _
    · exact (hput _).handleDisconnect
    · exact hput _
  | revalidating asked rest =>
    simp only [Gateway.taskResolved]
    split
    · exact hput _
    · exact h.leave hrooms hstage
    · exact hput _

/-- What the client is told by its own set is what the manager has, in every state. -/
theorem mirrored_step {label : GatewayLabel} (h : Mirrored g)
    (hs : (gateway options).step g label = some g') : Mirrored g' := by
  simp only [gateway] at hs
  split at hs
  · cases label with
    | connect c request =>
      simp only [stepGateway] at hs
      split at hs
      · rename_i hnew
        cases hs
        refine h.put ⟨fun room hmem => ?_, fun _ => rfl⟩
        obtain ⟨conn, hconn⟩ := h.found c room hmem
        rw [hconn] at hnew
        cases hnew
      · cases hs
    | authenticated c user =>
      obtain ⟨conn, hconn, hstage, hf⟩ := onConnection_some hs
      cases hf
      unfold Gateway.authenticated
      split
      · exact h.register hconn (of_decide_eq_true hstage)
      · exact h.put_of hconn rfl fun hstage => by cases hstage
      · exact h.put_of hconn rfl fun hstage => by cases hstage
    | tenantChecked c called =>
      obtain ⟨conn, client, tenantId, hconn, hclient, -, rfl⟩ := tenantChecked_some hs
      unfold Gateway.tenantChecked
      split
      · exact h.join (h.mirrors c conn hconn).rooms hclient fun hstage => by cases hstage
      · exact h.put_of hconn rfl fun hstage => by cases hstage
      · exact h.put_of hconn rfl fun hstage => by cases hstage
    | message c message =>
      obtain ⟨conn, hconn, hstage, hf⟩ := onConnection_some hs
      cases hf
      cases message with
      | subscribe asked =>
        simp only [handleMessage]
        split
        · exact h
        · exact h.put_of hconn rfl id
      | unsubscribe asked =>
        simp only [handleMessage]
        split
        · exact h
        · refine h.leave (h.mirrors c conn hconn).rooms ?_
          rw [(of_decide_eq_true hstage).1]
          exact fun hstage => by cases hstage
      | other => exact h
    | pong c =>
      obtain ⟨conn, hconn, -, hf⟩ := onConnection_some hs
      cases hf
      exact h.put_alive hconn
    | taskResolved c i called =>
      obtain ⟨conn, hconn, -, hf⟩ := onConnection_some hs
      obtain ⟨client, hclient, htasks⟩ := Option.bind_eq_some_iff.mp hf
      obtain ⟨task, htask, rfl⟩ := Option.map_eq_some_iff.mp htasks
      exact h.taskResolved hconn hclient
    | heartbeat =>
      cases hs
      exact h.heartbeat
    | close c =>
      obtain ⟨conn, hconn, -, hf⟩ := onConnection_some hs
      cases hf
      have hclosed : Mirrored (g.put c { conn with closed := true }) := h.put_of hconn rfl id
      simp only [close]
      split
      · exact hclosed.handleDisconnect
      · exact hclosed
    | error c =>
      obtain ⟨conn, hconn, -, hf⟩ := onConnection_some hs
      cases hf
      simp only [error]
      split
      · exact h.handleDisconnect
      · exact ⟨h.found, fun c' conn' hconn' => ⟨(h.mirrors c' conn' hconn').rooms,
          (h.mirrors c' conn' hconn').authenticating⟩⟩
  · cases hs

end steps

section passes

/-- The answer refuses the room, and does not cut short a pass over the rooms. -/
def Task.refuses (options : WebSocketGatewayOptions) (user : WSAuthResult) (room : String)
    (called : Option Bool) : Task → Bool
  | .subscribing asked =>
    asked ≠ room || (canAccessRoom options user asked).resolve called ≠ some true
  | .rechecking => true
  | .revalidating asked _ =>
    let answer := (canAccessRoom options user asked).resolve called
    answer.isSome && (asked ≠ room || answer = some false)

/-- No check lets the client into the room or stay in it, and no check of a pass over its rooms
throws. -/
def refuses (options : WebSocketGatewayOptions) (c : ClientId) (room : String) (g : Gateway) :
    GatewayLabel → Bool
  | .tenantChecked c' called =>
    c' ≠ c || (g.connections c).all fun conn => conn.client.all fun client =>
      match conn.handshake with
      | .checkingTenant tenantId =>
        room ≠ tenantRoom tenantId ||
          (canAccessTenantRoom options client.toWSAuthResult).resolve called ≠ some true
      | _ => true
  | .taskResolved c' i called =>
    c' ≠ c || (g.connections c).all fun conn => conn.client.all fun client =>
      (conn.tasks[i]?).all (Task.refuses options client.toWSAuthResult room called)
  | _ => true

/-- The room is still to be checked by the pass. -/
def Task.covers (room : String) : Task → Prop
  | .revalidating asked rest => room = asked ∨ room ∈ rest
  | .subscribing _ | .rechecking => False

variable {options : WebSocketGatewayOptions} {g g' : Gateway} {c c' : ClientId} {conn : Connection}
  {client : WSClient} {room : String}

theorem refuses_task {i : Nat} {task : Task} {called : Option Bool}
    (h : refuses options c room g (.taskResolved c i called) = true)
    (hconn : g.connections c = some conn) (hclient : conn.client = some client)
    (htask : conn.tasks[i]? = some task) :
    task.refuses options client.toWSAuthResult room called = true := by
  simpa [refuses, hconn, hclient, htask] using h

theorem startsWith_userRoom (userId : String) : startsWith "user:" (userRoom userId) = true := by
  simp [startsWith, userRoom, String.toList_append]

/-- The client does not enter a room that is refused. -/
theorem not_granted_of_refuses {label : GatewayLabel} (hroom : startsWith "user:" room = false)
    (h : refuses options c room g label = true) :
    ¬ Granted options ⟨g, label, g'⟩ c room := by
  intro hgranted
  cases hgranted with
  | own _ _ _ user =>
    rw [startsWith_userRoom] at hroom
    cases hroom
  | tenant _ _ _ conn client tenantId called hconn hclient hchecked hanswer =>
    simp [refuses, hconn, hclient, hchecked, hanswer] at h
  | subscribed _ _ _ conn client i _ called hconn hclient htask hanswer =>
    have hrefused := refuses_task h hconn hclient htask
    simp [Task.refuses, hanswer] at hrefused

/-- The calls that wait for the connection still wait. -/
def KeepsTasks (g g' : Gateway) (c : ClientId) : Prop :=
  ∀ conn, g.connections c = some conn →
    ∃ conn', g'.connections c = some conn' ∧ ∀ task ∈ conn.tasks, task ∈ conn'.tasks

theorem KeepsTasks.of_eq (h : g'.connections c = g.connections c) : KeepsTasks g g' c :=
  fun conn hconn => ⟨conn, h.trans hconn, fun _ htask => htask⟩

theorem keepsTasks_put {conn' : Connection} (hconn : g.connections c = some conn)
    (htasks : ∀ task ∈ conn.tasks, task ∈ conn'.tasks) : KeepsTasks g (g.put c conn') c' := by
  by_cases heq : c' = c
  · subst heq
    intro old hold
    rw [hconn] at hold
    cases hold
    exact ⟨conn', put_self, htasks⟩
  · exact .of_eq (put_of_ne heq)

theorem KeepsTasks.trans {g'' : Gateway} (h : KeepsTasks g g' c) (h' : KeepsTasks g' g'' c) :
    KeepsTasks g g'' c := by
  intro conn hconn
  obtain ⟨conn', hconn', htasks⟩ := h conn hconn
  obtain ⟨conn'', hconn'', htasks'⟩ := h' conn' hconn'
  exact ⟨conn'', hconn'', fun task htask => htasks' task (htasks task htask)⟩

theorem KeepsTasks.handleDisconnect (h : KeepsTasks g g' c) :
    KeepsTasks g (g'.handleDisconnect c') c :=
  h.trans (.of_eq (congrFun handleDisconnect_connections c))

theorem keepsTasks_heartbeat : KeepsTasks g g.heartbeat c := by
  have hbeat : ∀ (g : Gateway) c', KeepsTasks g (g.beat c') c := by
    intro g c'
    unfold beat
    cases hconn : g.connections c' with
    | none => exact .of_eq rfl
    | some conn =>
      dsimp only
      split
      · exact keepsTasks_put hconn fun task htask => List.mem_append_left _ htask
      · exact (keepsTasks_put hconn fun task htask =>
          List.mem_append_left _ htask).handleDisconnect
  exact heartbeat_keeps (P := fun g' => KeepsTasks g g' c) (fun g' c' h => h.trans (hbeat g' c'))
    (.of_eq rfl)

theorem keepsTasks_join {conn' : Connection} (hconn : g.connections c = some conn)
    (htasks : ∀ task ∈ conn.tasks, task ∈ conn'.tasks) :
    KeepsTasks g (g.join c conn' room) c' :=
  keepsTasks_put hconn htasks

theorem keepsTasks_leave {conn' : Connection} (hconn : g.connections c = some conn)
    (htasks : ∀ task ∈ conn.tasks, task ∈ conn'.tasks) :
    KeepsTasks g (g.leave c conn' room) c' :=
  keepsTasks_put hconn htasks

/-- An answer changes the connection that waits for it. -/
theorem taskResolved_connections {task : Task} {called : Option Bool} (hne : c ≠ c') :
    (g.taskResolved options c' conn client task called).connections c = g.connections c := by
  cases task with
  | subscribing asked =>
    simp only [taskResolved]
    split
    · split
      · rw [join_connections, put_of_ne hne]
      · exact put_of_ne hne
    · exact put_of_ne hne
    · exact put_of_ne hne
  | rechecking =>
    simp only [taskResolved]
    split
    · exact put_of_ne hne
    · rw [handleDisconnect_connections, put_of_ne hne]
    · exact put_of_ne hne
  | revalidating asked rest =>
    simp only [taskResolved]
    split
    · exact put_of_ne hne
    · rw [leave_connections, put_of_ne hne]
    · exact put_of_ne hne

/-- Only an answer takes a call of the connection off its list. -/
theorem keepsTasks_step {label : GatewayLabel} (hs : (gateway options).step g label = some g')
    (hlabel : ∀ i called, label ≠ .taskResolved c i called) : KeepsTasks g g' c := by
  simp only [gateway] at hs
  split at hs
  · cases label with
    | connect c' request =>
      simp only [stepGateway] at hs
      split at hs
      · rename_i hnew
        cases hs
        intro conn hconn
        have hne : c ≠ c' := by
          rintro rfl
          rw [hconn] at hnew
          cases hnew
        exact ⟨conn, (put_of_ne hne).trans hconn, fun _ htask => htask⟩
      · cases hs
    | authenticated c' user =>
      obtain ⟨conn, hconn, -, hf⟩ := onConnection_some hs
      cases hf
      unfold authenticated
      split
      · exact keepsTasks_join hconn fun _ htask => htask
      · exact keepsTasks_put hconn fun _ htask => htask
      · exact keepsTasks_put hconn fun _ htask => htask
    | tenantChecked c' called =>
      obtain ⟨conn, client, tenantId, hconn, -, -, rfl⟩ := tenantChecked_some hs
      unfold tenantChecked
      split
      · exact keepsTasks_join hconn fun _ htask => htask
      · exact keepsTasks_put hconn fun _ htask => htask
      · exact keepsTasks_put hconn fun _ htask => htask
    | message c' message =>
      obtain ⟨conn, hconn, -, hf⟩ := onConnection_some hs
      cases hf
      cases message with
      | subscribe asked =>
        simp only [handleMessage]
        split
        · exact .of_eq rfl
        · exact keepsTasks_put hconn fun _ htask => List.mem_append_left _ htask
      | unsubscribe asked =>
        simp only [handleMessage]
        split
        · exact .of_eq rfl
        · exact keepsTasks_leave hconn fun _ htask => htask
      | other => exact .of_eq rfl
    | pong c' =>
      obtain ⟨conn, hconn, -, hf⟩ := onConnection_some hs
      cases hf
      exact keepsTasks_put hconn fun _ htask => htask
    | taskResolved c' i called =>
      have hne : c ≠ c' := by
        rintro rfl
        exact hlabel i called rfl
      obtain ⟨conn, -, -, hf⟩ := onConnection_some hs
      obtain ⟨client, -, htasks⟩ := Option.bind_eq_some_iff.mp hf
      obtain ⟨task, -, rfl⟩ := Option.map_eq_some_iff.mp htasks
      exact .of_eq (taskResolved_connections hne)
    | heartbeat =>
      cases hs
      exact keepsTasks_heartbeat
    | close c' =>
      obtain ⟨conn, hconn, -, hf⟩ := onConnection_some hs
      cases hf
      have hclosed : KeepsTasks g (g.put c' { conn with closed := true }) c :=
        keepsTasks_put hconn fun _ htask => htask
      simp only [close]
      split
      · exact hclosed.handleDisconnect
      · exact hclosed
    | error c' =>
      obtain ⟨conn, hconn, -, hf⟩ := onConnection_some hs
      cases hf
      simp only [error]
      split
      · exact KeepsTasks.handleDisconnect (.of_eq rfl)
      · exact .of_eq rfl
  · cases hs

/-- Rooms of users are passed over, others are checked. -/
theorem nextRoom_covers {rooms : List String} (hroom : startsWith "user:" room = false)
    (hmem : room ∈ rooms) : ∃ task ∈ nextRoom rooms, task.covers room := by
  induction rooms with
  | nil => cases hmem
  | cons first rooms ih =>
    cases hfirst : startsWith "user:" first with
    | true =>
      have hlater : room ∈ rooms := by
        rcases List.mem_cons.mp hmem with rfl | hlater
        · rw [hroom] at hfirst
          cases hfirst
        · exact hlater
      have hnext : nextRoom (first :: rooms) = nextRoom rooms := by
        simp only [nextRoom, List.dropWhile_cons, hfirst, if_true]
      rw [hnext]
      exact ih hlater
    | false =>
      have hnext : nextRoom (first :: rooms) = [.revalidating first rooms] := by
        simp [nextRoom, hfirst]
      rw [hnext]
      exact ⟨_, List.mem_singleton_self _, List.mem_cons.mp hmem⟩

/-- As long as the client is in the room, a pass has it to check. -/
def Checking (c : ClientId) (room : String) (g : Gateway) : Prop :=
  c ∈ g.roomManager.rooms room →
    ∃ conn, g.connections c = some conn ∧ ∃ task ∈ conn.tasks, task.covers room

/-- The answer that the room's own check, or that of a room before it, has waited for. -/
theorem checking_answered {i : Nat} {task : Task} {called : Option Bool}
    (hroom : startsWith "user:" room = false) (hcovers : task.covers room)
    (hrefused : task.refuses options client.toWSAuthResult room called = true)
    {conn : Connection} (hmem : c ∈ (g.taskResolved options c { conn with
      tasks := conn.tasks.eraseIdx i } client task called).roomManager.rooms room) :
    ∃ conn', (g.taskResolved options c { conn with tasks := conn.tasks.eraseIdx i } client task
      called).connections c = some conn' ∧ ∃ task ∈ conn'.tasks, task.covers room := by
  cases task with
  | subscribing asked => exact hcovers.elim
  | rechecking => exact hcovers.elim
  | revalidating asked rest =>
    simp only [taskResolved] at hmem ⊢
    cases hanswer : (canAccessRoom options client.toWSAuthResult asked).resolve called with
    | none => simp [Task.refuses, hanswer] at hrefused
    | some allowed =>
      have hlater : asked ≠ room → ∃ task ∈ nextRoom rest, task.covers room := by
        intro hne
        exact nextRoom_covers hroom (hcovers.resolve_left fun heq => hne heq.symm)
      cases allowed with
      | true =>
        have hne : asked ≠ room := by simpa [Task.refuses, hanswer] using hrefused
        obtain ⟨task, htask, hcov⟩ := hlater hne
        exact ⟨_, put_self, task, List.mem_append_right _ htask, hcov⟩
      | false =>
        rw [hanswer] at hmem
        have hne : asked ≠ room := fun heq =>
          (RoomManager.mem_leaveRoom.mp hmem).1 ⟨rfl, heq.symm⟩
        obtain ⟨task, htask, hcov⟩ := hlater hne
        exact ⟨_, put_self, task, List.mem_append_right _ htask, hcov⟩

/-- The calls that did not get the answer still wait. -/
theorem keepsTasks_answered {i : Nat} {task : Task} {called : Option Bool} :
    ∃ conn', (g.taskResolved options c { conn with tasks := conn.tasks.eraseIdx i } client task
      called).connections c = some conn' ∧ ∀ task ∈ conn.tasks.eraseIdx i, task ∈ conn'.tasks := by
  cases task with
  | subscribing asked =>
    simp only [taskResolved]
    split
    · split
      · exact ⟨_, put_self, fun _ htask => htask⟩
      · exact ⟨_, put_self, fun _ htask => htask⟩
    · exact ⟨_, put_self, fun _ htask => htask⟩
    · exact ⟨_, put_self, fun _ htask => htask⟩
  | rechecking =>
    simp only [taskResolved]
    split
    · exact ⟨_, put_self, fun _ htask => List.mem_append_left _ htask⟩
    · rw [handleDisconnect_connections]
      exact ⟨_, put_self, fun _ htask => htask⟩
    · exact ⟨_, put_self, fun _ htask => htask⟩
  | revalidating asked rest =>
    simp only [taskResolved]
    split
    · exact ⟨_, put_self, fun _ htask => List.mem_append_left _ htask⟩
    · exact ⟨_, put_self, fun _ htask => List.mem_append_left _ htask⟩
    · exact ⟨_, put_self, fun _ htask => htask⟩

theorem checking_step {label : GatewayLabel} (hroom : startsWith "user:" room = false)
    (h : Checking c room g) (hrefused : refuses options c room g label = true)
    (hs : (gateway options).step g label = some g') : Checking c room g' := by
  intro hmem'
  have hmem : c ∈ g.roomManager.rooms room :=
    (enters_granted hs hmem').resolve_right (not_granted_of_refuses hroom hrefused)
  obtain ⟨conn, hconn, task, htask, hcovers⟩ := h hmem
  by_cases hanswer : ∃ i called, label = .taskResolved c i called
  · obtain ⟨i, called, rfl⟩ := hanswer
    have hstep := hs
    simp only [gateway] at hstep
    split at hstep
    · obtain ⟨conn', hconn', -, hf⟩ := onConnection_some hstep
      rw [hconn] at hconn'
      cases hconn'
      obtain ⟨client, hclient, htasks⟩ := Option.bind_eq_some_iff.mp hf
      obtain ⟨answered, hanswered, rfl⟩ := Option.map_eq_some_iff.mp htasks
      by_cases hkept : task ∈ conn.tasks.eraseIdx i
      · obtain ⟨conn', hconn', hkeeps⟩ := keepsTasks_answered
        exact ⟨conn', hconn', task, hkeeps task hkept, hcovers⟩
      · obtain ⟨j, hj⟩ := List.mem_iff_getElem?.mp htask
        have hij : j = i := by
          by_contra hne
          exact hkept (List.mem_eraseIdx_iff_getElem?.mpr ⟨j, hne, hj⟩)
        rw [hij, hanswered] at hj
        cases hj
        exact checking_answered hroom hcovers (refuses_task hrefused hconn hclient hanswered) hmem'
    · cases hstep
  · have hlabel : ∀ i called, label ≠ .taskResolved c i called :=
      fun i called heq => hanswer ⟨i, called, heq⟩
    obtain ⟨conn', hconn', hkept⟩ := keepsTasks_step hs hlabel conn hconn
    exact ⟨conn', hconn', task, hkept task htask, hcovers⟩

/-- A pass starts over the rooms that the client is in. -/
theorem checking_recheck {i : Nat} (hroom : startsWith "user:" room = false) (hm : Mirrored g)
    (hconn : g.connections c = some conn) (htask : conn.tasks[i]? = some .rechecking)
    (hs : (gateway options).step g (.taskResolved c i (some true)) = some g') :
    Checking c room g' := by
  intro hmem'
  have hmem : c ∈ g.roomManager.rooms room := by
    refine (enters_granted hs hmem').resolve_right fun hgranted => ?_
    cases hgranted with
    | subscribed _ _ _ conn' client _ _ _ hconn' hclient htask' =>
      rw [hconn] at hconn'
      cases hconn'
      rw [htask] at htask'
      cases htask'
  simp only [gateway] at hs
  split at hs
  · obtain ⟨conn', hconn', -, hf⟩ := onConnection_some hs
    rw [hconn] at hconn'
    cases hconn'
    obtain ⟨client, hclient, htasks⟩ := Option.bind_eq_some_iff.mp hf
    obtain ⟨answered, hanswered, rfl⟩ := Option.map_eq_some_iff.mp htasks
    rw [htask] at hanswered
    cases hanswered
    obtain ⟨client', hclient', hown⟩ := (hm.mirrors c conn hconn).rooms room hmem
    rw [hclient] at hclient'
    cases hclient'
    obtain ⟨task, hnext, hcovers⟩ := nextRoom_covers hroom hown
    exact ⟨_, put_self, task, List.mem_append_right _ hnext, hcovers⟩
  · cases hs

end passes

/-- Once access to a room has been taken away, the next pass over the client's rooms ends it: in
every run in which the pass starts, no check lets the client into the room or stay there, and none
of its passes has the room left to check, the client is out of the room. -/
theorem refused_room_left {options : WebSocketGatewayOptions} {c : ClientId} {room : String}
    (hroom : startsWith "user:" room = false) {before after : List GatewayLabel} {i : Nat}
    {g₀ g : Gateway} {conn : Connection} (hbefore : (gateway options).run start before = some g₀)
    (hconn : g₀.connections c = some conn) (htask : conn.tasks[i]? = some .rechecking)
    (hrefused : (gateway options).Within (fun g label => refuses options c room g label = true) g₀
      (.taskResolved c i (some true) :: after))
    (hrun : (gateway options).run g₀ (.taskResolved c i (some true) :: after) = some g)
    (hdone : ∀ conn, g.connections c = some conn → ∀ task ∈ conn.tasks, ¬ task.covers room) :
    c ∉ g.roomManager.rooms room := by
  obtain ⟨g₁, hstep, hlater⟩ := Machine.run_cons _ |>.mp hrun
  have hm : Mirrored g₀ :=
    (gateway options).run_preserves (fun _ _ _ h hs => mirrored_step h hs) .start hbefore
  have hstart : Checking c room g₁ := checking_recheck hroom hm hconn htask hstep
  have hend : Checking c room g := (gateway options).run_preserves_within
    (fun _ _ _ h hW hs => checking_step hroom h hW hs) hstart (hrefused.2 g₁ hstep) hlater
  intro hmem
  obtain ⟨conn', hconn', task, htask', hcovers⟩ := hend hmem
  exact hdone conn' hconn' task htask' hcovers

section demo

/-- A client of a ticket's room, about whom a heartbeat asks. -/
def demoWatching : List GatewayLabel :=
  [.connect 0 ⟨none⟩, .authenticated 0 (some (some demoUser)), .tenantChecked 0 (some true),
    .message 0 (.subscribe "ticket:5"), .taskResolved 0 0 (some true), .heartbeat]

/-- The tenant's room is kept, the ticket's is not. -/
def demoPass : List GatewayLabel :=
  [.taskResolved 0 0 (some true), .taskResolved 0 0 (some true), .taskResolved 0 0 (some false)]

def demoInRoom (g : Gateway) : Bool := 0 ∈ g.roomManager.rooms "ticket:5"

def demoChecked (g : Gateway) : Bool :=
  (g.connections 0).any fun conn => conn.tasks = []

theorem refused_room_left_by_pass :
    ∃ g₀ g, (gateway demoOptions).run start demoWatching = some g₀ ∧
      0 ∈ g₀.roomManager.rooms "ticket:5" ∧ (gateway demoOptions).run g₀ demoPass = some g ∧
      0 ∉ g.roomManager.rooms "ticket:5" := by
  have hwatching : ((gateway demoOptions).run start demoWatching).any (fun g₀ =>
      demoInRoom g₀ && (g₀.connections 0).any (fun conn => conn.tasks[0]? = some .rechecking) &&
        decide ((gateway demoOptions).Within
          (fun g label => refuses demoOptions 0 "ticket:5" g label = true) g₀ demoPass) &&
        ((gateway demoOptions).run g₀ demoPass).any demoChecked) = true := by
    decide +kernel
  obtain ⟨g₀, hrun, hall⟩ := Option.any_eq_true _ _ |>.mp hwatching
  simp only [Bool.and_eq_true, decide_eq_true_eq, demoInRoom] at hall
  obtain ⟨⟨⟨hroom, hpending⟩, hrefused⟩, hpass⟩ := hall
  obtain ⟨conn, hconn, htask⟩ := Option.any_eq_true _ _ |>.mp hpending
  obtain ⟨g, hlast, hchecked⟩ := Option.any_eq_true _ _ |>.mp hpass
  refine ⟨g₀, g, hrun, hroom, hlast, ?_⟩
  refine refused_room_left (by decide) hrun hconn (of_decide_eq_true htask) hrefused hlast
    fun conn hconn task htask => ?_
  obtain ⟨conn', hconn', htasks⟩ := Option.any_eq_true _ _ |>.mp hchecked
  rw [hconn] at hconn'
  cases hconn'
  rw [of_decide_eq_true htasks] at htask
  cases htask

end demo
end OmniSupport.Realtime
