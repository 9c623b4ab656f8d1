import OmniSupport.Foundation.History
import OmniSupport.Identity.Account
import Mathlib.Data.Finset.Basic

/-! The WebSocket gateway: connections whose handshake, messages and heartbeats wait for
checks, in any order, and the rooms their clients are in. -/
namespace OmniSupport.Realtime
open Foundation

/-- A connection and, after its authentication, its client: `crypto.randomUUID()` is new in
each connection. -/
abbrev ClientId := Nat

/-- The two maps hold the same pairs. A room that nobody is in has no entry. -/
structure RoomManager where
  rooms : String → Finset ClientId
  clientRooms : ClientId → Finset String
  matched : ∀ clientId room, clientId ∈ rooms room ↔ room ∈ clientRooms clientId

namespace RoomManager

def empty : RoomManager := ⟨fun _ => ∅, fun _ => ∅, by simp⟩

def joinRoom (clientId : ClientId) (room : String) (m : RoomManager) : RoomManager where
  rooms := Function.update m.rooms room (insert clientId (m.rooms room))
  clientRooms := Function.update m.clientRooms clientId (insert room (m.clientRooms clientId))
  matched c r := by
    have hold := m.matched c r
    by_cases hc : c = clientId <;> by_cases hr : r = room <;>
      simp_all

def leaveRoom (clientId : ClientId) (room : String) (m : RoomManager) : RoomManager where
  rooms := Function.update m.rooms room ((m.rooms room).erase clientId)
  clientRooms := Function.update m.clientRooms clientId ((m.clientRooms clientId).erase room)
  matched c r := by
    have hold := m.matched c r
    by_cases hc : c = clientId <;> by_cases hr : r = room <;>
      simp_all

def removeClient (clientId : ClientId) (m : RoomManager) : RoomManager where
  rooms room := if room ∈ m.clientRooms clientId then (m.rooms room).erase clientId else m.rooms room
  clientRooms := Function.update m.clientRooms clientId ∅
  matched c r := by
    have hold := m.matched c r
    by_cases hc : c = clientId <;> by_cases hr : r ∈ m.clientRooms clientId <;>
      simp_all

variable {m : RoomManager} {c clientId : ClientId} {r room : String}

theorem mem_joinRoom : c ∈ (m.joinRoom clientId room).rooms r ↔
    (c = clientId ∧ r = room) ∨ c ∈ m.rooms r := by
  by_cases hr : r = room <;> simp [joinRoom, hr]

theorem mem_leaveRoom : c ∈ (m.leaveRoom clientId room).rooms r ↔
    ¬ (c = clientId ∧ r = room) ∧ c ∈ m.rooms r := by
  by_cases hr : r = room <;> simp [leaveRoom, hr]

/-- A removed client is in no room. -/
theorem mem_removeClient : c ∈ (m.removeClient clientId).rooms r ↔
    c ≠ clientId ∧ c ∈ m.rooms r := by
  by_cases hr : r ∈ m.clientRooms clientId
  · simp [removeClient, hr]
  · have hno : clientId ∉ m.rooms r := fun h => hr ((m.matched clientId r).mp h)
    simp only [removeClient, hr, if_false, ne_eq, iff_and_self]
    rintro hmem rfl
    exact hno hmem

end RoomManager

structure WSAuthResult where
  userId : String
  email : String
  tenantId : Option String
  role : UserRole

structure WSClient extends WSAuthResult where
  isAlive : Bool
  rooms : List String

/-- The checks the gateway is given, and the origins it allows. -/
structure WebSocketGatewayOptions where
  canAccessTicket : Bool
  hasPermission : Bool
  allowedOrigins : Option (List String)

structure Request where
  origin : Option String

def isOriginAllowed (options : WebSocketGatewayOptions) (request : Request) : Bool :=
  match request.origin, options.allowedOrigins with
  | some origin, some allowed => origin = "" ∨ origin ∈ allowed
  | _, _ => true

def userRoom (userId : String) : String := "user:" ++ userId

def tenantRoom (tenantId : String) : String := "tenant:" ++ tenantId

/-- `room.startsWith(part)`. -/
def startsWith (part room : String) : Bool := part.toList.isPrefixOf room.toList

/-- An empty id counts as none. -/
def WSAuthResult.tenant (user : WSAuthResult) : Option String :=
  user.tenantId.filter fun tenantId => tenantId ≠ ""

/-- How access to a room is decided: at once, or by one of the given checks. -/
inductive AccessCheck where
  | answer (allowed : Bool)
  | permission
  | ticket (ticketId : String)
  deriving DecidableEq

def canAccessTenantRoom (options : WebSocketGatewayOptions) (user : WSAuthResult) : AccessCheck :=
  if options.hasPermission then .permission else .answer (user.role = .tenantManager)

def canAccessRoom (options : WebSocketGatewayOptions) (user : WSAuthResult) (room : String) :
    AccessCheck :=
  if startsWith "user:" room then .answer (room = userRoom user.userId)
  else if startsWith "tenant:" room then
    match user.tenant with
    | some tenantId =>
      if room = tenantRoom tenantId then canAccessTenantRoom options user else .answer false
    | none => .answer false
  else if startsWith "ticket:" room then
    let ticketId := String.ofList (room.toList.drop 7)
    if user.tenant.isSome ∧ ticketId ≠ "" ∧ options.canAccessTicket then .ticket ticketId
    else .answer false
  else .answer false

/-- The answer, when the check called answers `called`: `none` when it throws. -/
def AccessCheck.resolve (called : Option Bool) : AccessCheck → Option Bool
  | .answer allowed => some allowed
  | .permission | .ticket _ => called

/-- Where `handleConnection` stands: before `authenticate` answers, or `canAccessTenantRoom` for
the room of a tenant, with its listeners installed, or returned without them. -/
inductive Handshake where
  | authenticating
  | checkingTenant (tenantId : String)
  | listening
  | ended
  deriving DecidableEq

/-- A call that waits: for `canAccessRoom` of a room to subscribe to, for `isStillAuthorized`,
or for `canAccessRoom` of a room to keep, with the rooms after it. -/
inductive Task where
  | subscribing (room : String)
  | rechecking
  | revalidating (room : String) (rest : List String)
  deriving DecidableEq

structure Connection where
  client : Option WSClient
  handshake : Handshake
  closed : Bool
  tasks : List Task

/-- `clients` has the keys of the map; the client objects are in the connections. Once an
exception is not caught, the process goes down. -/
structure Gateway where
  connections : ClientId → Option Connection
  clients : List ClientId
  roomManager : RoomManager
  up : Bool

/-- The messages that name a room, which is a text, and the others. -/
inductive InboundMessage where
  | subscribe (room : String)
  | unsubscribe (room : String)
  | other

/-- The events and answers, each of one connection, and the heartbeat. The answer of a check is
`none` when it throws, and that of the authentication, when there is one, is none or a user. -/
inductive GatewayLabel where
  | connect (c : ClientId) (request : Request)
  | authenticated (c : ClientId) (user : Option (Option WSAuthResult))
  | tenantChecked (c : ClientId) (called : Option Bool)
  | message (c : ClientId) (message : InboundMessage)
  | pong (c : ClientId)
  | taskResolved (c : ClientId) (i : Nat) (called : Option Bool)
  | heartbeat
  | close (c : ClientId)
  | error (c : ClientId)

namespace Gateway

def start : Gateway := ⟨fun _ => none, [], .empty, true⟩

def put (c : ClientId) (conn : Connection) (g : Gateway) : Gateway :=
  { g with connections := Function.update g.connections c (some conn) }

/-- A change of the client's own set of rooms. -/
def withRooms (f : List String → List String) (conn : Connection) : Connection :=
  { conn with client := conn.client.map fun cl => { cl with rooms := f cl.rooms } }

def addRoom (room : String) (rooms : List String) : List String :=
  if room ∈ rooms then rooms else rooms ++ [room]

/-- A client enters a room in the manager and in its own set. -/
def join (c : ClientId) (conn : Connection) (room : String) (g : Gateway) : Gateway :=
  let joined := g.put c (withRooms (addRoom room) conn)
  { joined with roomManager := g.roomManager.joinRoom c room }

def leave (c : ClientId) (conn : Connection) (room : String) (g : Gateway) : Gateway :=
  let left := g.put c (withRooms (fun rooms => rooms.erase room) conn)
  { left with roomManager := g.roomManager.leaveRoom c room }

def handleDisconnect (c : ClientId) (g : Gateway) : Gateway :=
  if c ∈ g.clients then
    { g with
      roomManager := g.roomManager.removeClient c
      clients := g.clients.filter (· ≠ c) }
  else g

/-- `handleConnection` up to its first wait. -/
def connect (options : WebSocketGatewayOptions) (c : ClientId) (request : Request)
    (g : Gateway) : Gateway :=
  g.put c ⟨none, if isOriginAllowed options request then .authenticating else .ended, false, []⟩

/-- After the authentication: the client is registered, and enters its own room. -/
def register (c : ClientId) (conn : Connection) (user : WSAuthResult) (g : Gateway) : Gateway :=
  let registered :=
    { conn with
      client := some { user with isAlive := true, rooms := [] }
      handshake :=
        match user.tenant with
        | some tenantId => .checkingTenant tenantId
        | none => .listening }
  { g with clients := g.clients ++ [c] }.join c registered (userRoom user.userId)

def authenticated (c : ClientId) (conn : Connection) (user : Option (Option WSAuthResult))
    (g : Gateway) : Gateway :=
  match user with
  | some (some user) => g.register c conn user
  | some none | none => g.put c { conn with handshake := .ended }

/-- After the check of the tenant room. A throw leaves the client without listeners. -/
def tenantChecked (options : WebSocketGatewayOptions) (c : ClientId) (conn : Connection)
    (client : WSClient) (tenantId : String) (called : Option Bool) (g : Gateway) : Gateway :=
  match (canAccessTenantRoom options client.toWSAuthResult).resolve called with
  | some true => g.join c { conn with handshake := .listening } (tenantRoom tenantId)
  | some false => g.put c { conn with handshake := .listening }
  | none => g.put c { conn with handshake := .ended }

def handleMessage (c : ClientId) (conn : Connection) (message : InboundMessage) (g : Gateway) :
    Gateway :=
  match message with
  | .subscribe room =>
    if room = "" then g else g.put c { conn with tasks := conn.tasks ++ [.subscribing room] }
  | .unsubscribe room => if room = "" then g else g.leave c conn room
  | .other => g

/-- The next room to check, over the rooms that are some user's own. -/
def nextRoom (rooms : List String) : List Task :=
  match rooms.dropWhile (startsWith "user:") with
  | [] => []
  | room :: rest => [.revalidating room rest]

/-- What follows the answer that a task, which is taken off, has waited for. -/
def taskResolved (options : WebSocketGatewayOptions) (c : ClientId) (conn : Connection)
    (client : WSClient) (task : Task) (called : Option Bool) (g : Gateway) : Gateway :=
  match task with
  | .subscribing room =>
    match (canAccessRoom options client.toWSAuthResult room).resolve called with
    | some true => if c ∈ g.clients then g.join c conn room else g.put c conn
    | some false | none => g.put c conn
  | .rechecking =>
    match called with
    | some true => g.put c { conn with tasks := conn.tasks ++ nextRoom client.rooms }
    | some false => (g.put c conn).handleDisconnect c
    | none => g.put c conn
  | .revalidating room rest =>
    match (canAccessRoom options client.toWSAuthResult room).resolve called with
    | some true => g.put c { conn with tasks := conn.tasks ++ nextRoom rest }
    | some false => g.leave c { conn with tasks := conn.tasks ++ nextRoom rest } room
    | none => g.put c conn

def setAlive (isAlive : Bool) (conn : Connection) : Connection :=
  { conn with client := conn.client.map fun cl => { cl with isAlive := isAlive } }

/-- The heartbeat of one client: its account is checked again, and it is removed if no pong
has come since the last one. -/
def beat (g : Gateway) (c : ClientId) : Gateway :=
  match g.connections c with
  | none => g
  | some conn =>
    let waiting := { conn with tasks := conn.tasks ++ [.rechecking] }
    if conn.client.any (·.isAlive) then g.put c (setAlive false waiting)
    else (g.put c waiting).handleDisconnect c

def heartbeat (g : Gateway) : Gateway := g.clients.foldl beat g

/-- A heartbeat keeps what the beat of each client keeps. -/
theorem heartbeat_keeps {P : Gateway → Prop} {g : Gateway} (hbeat : ∀ g c, P g → P (g.beat c))
    (h : P g) : P g.heartbeat := by
  have hall : ∀ (cs : List ClientId) (g : Gateway), P g → P (cs.foldl beat g) := by
    intro cs
    induction cs with
    | nil => exact fun _ h => h
    | cons c cs ih => exact fun g h => ih _ (hbeat g c h)
  exact hall g.clients g h

/-- The socket has closed. Only installed listeners hear of it. -/
def close (c : ClientId) (conn : Connection) (g : Gateway) : Gateway :=
  let closed := g.put c { conn with closed := true }
  if conn.handshake = .listening then closed.handleDisconnect c else closed

/-- An error that no listener hears of is an uncaught exception. -/
def error (c : ClientId) (conn : Connection) (g : Gateway) : Gateway :=
  if conn.handshake = .listening then g.handleDisconnect c else { g with up := false }

end Gateway

open Gateway

/-- A step of a connection that meets the condition. -/
def onConnection (g : Gateway) (c : ClientId) (enabled : Connection → Bool)
    (f : Connection → Option Gateway) : Option Gateway :=
  ((g.connections c).filter enabled).bind f

def stepGateway (options : WebSocketGatewayOptions) (g : Gateway) : GatewayLabel → Option Gateway
  | .connect c request =>
    if (g.connections c).isNone then some (g.connect options c request) else none
  | .authenticated c user =>
    onConnection g c (fun conn => conn.handshake = .authenticating)
      fun conn => some (g.authenticated c conn user)
  | .tenantChecked c called =>
    onConnection g c (fun _ => true) fun conn =>
      match conn.handshake, conn.client with
      | .checkingTenant tenantId, some client =>
        some (g.tenantChecked options c conn client tenantId called)
      | _, _ => none
  | .message c message =>
    onConnection g c (fun conn => conn.handshake = .listening ∧ conn.closed = false)
      fun conn => some (g.handleMessage c conn message)
  | .pong c =>
    onConnection g c (fun conn => conn.handshake = .listening ∧ conn.closed = false)
      fun conn => some (g.put c (setAlive true conn))
  | .taskResolved c i called =>
    onConnection g c (fun _ => true) fun conn =>
      conn.client.bind fun client => (conn.tasks[i]?).map fun task =>
        g.taskResolved options c { conn with tasks := conn.tasks.eraseIdx i } client task called
  | .heartbeat => some g.heartbeat
  | .close c => onConnection g c (fun conn => conn.closed = false) fun conn => some (g.close c conn)
  | .error c => onConnection g c (fun conn => conn.closed = false) fun conn => some (g.error c conn)

/-- Nothing happens after the process has gone down. -/
def gateway (options : WebSocketGatewayOptions) : Machine Gateway GatewayLabel where
  step g label := if g.up then stepGateway options g label else none

end OmniSupport.Realtime
