import OmniSupport.Foundation.SetMaps
import OmniSupport.Realtime.WebSocketGateway

/-! The two maps of the room manager under any sequence of calls: they stay inverse to each
other, and a client is in the rooms that its last call put it in. -/
namespace OmniSupport.Realtime
open Foundation

/-- The maps as the class keeps them. -/
structure RoomMaps (C : Type) where
  /-- room -> Set of clientIds -/
  rooms : SetMap String C
  /-- clientId -> Set of rooms -/
  clientRooms : SetMap C String

namespace RoomMaps

variable {C : Type}

def empty : RoomMaps C := ⟨∅, ∅⟩

variable [DecidableEq C]

def joinRoom (clientId : C) (room : String) (m : RoomMaps C) : RoomMaps C where
  rooms := m.rooms.adjoin room clientId
  clientRooms := m.clientRooms.adjoin clientId room

def leaveRoom (clientId : C) (room : String) (m : RoomMaps C) : RoomMaps C where
  -- Cleanup empty rooms
  rooms := (m.rooms.discard room clientId).prune room
  clientRooms := m.clientRooms.discard clientId room

def removeClient (clientId : C) (m : RoomMaps C) : RoomMaps C where
  rooms := (m.clientRooms.members clientId).foldl
    (fun rooms room => (rooms.discard room clientId).prune room) m.rooms
  clientRooms := m.clientRooms.erase clientId

def getClientsInRoom (room : String) (m : RoomMaps C) : List C := m.rooms.members room

def getClientRooms (clientId : C) (m : RoomMaps C) : List String := m.clientRooms.members clientId

/-- What every sequence of calls keeps. -/
structure Consistent (m : RoomMaps C) : Prop where
  matched : ∀ clientId room,
    clientId ∈ m.getClientsInRoom room ↔ room ∈ m.getClientRooms clientId
  noneEmpty : m.rooms.NoneEmpty

end RoomMaps

/-- A call that changes the maps. -/
inductive RoomCall (C : Type) where
  | joinRoom (clientId : C) (room : String)
  | leaveRoom (clientId : C) (room : String)
  | removeClient (clientId : C)
  deriving DecidableEq

namespace RoomCall

variable {C : Type}

def clientId : RoomCall C → C
  | .joinRoom clientId _ | .leaveRoom clientId _ | .removeClient clientId => clientId

variable [DecidableEq C]

def perform (m : RoomMaps C) : RoomCall C → RoomMaps C
  | .joinRoom clientId room => m.joinRoom clientId room
  | .leaveRoom clientId room => m.leaveRoom clientId room
  | .removeClient clientId => m.removeClient clientId

/-- The call decides whether the client is in the room: a removal does so for every room. -/
def concerns (clientId : C) (room : String) : RoomCall C → Bool
  | .joinRoom c r | .leaveRoom c r => c = clientId ∧ r = room
  | .removeClient c => c = clientId

end RoomCall

namespace RoomMaps

variable {C : Type} [DecidableEq C] {m : RoomMaps C} {c clientId : C} {r room : String}

def run (calls : List (RoomCall C)) : RoomMaps C := calls.foldl RoomCall.perform .empty

theorem mem_joinRoom : c ∈ (m.joinRoom clientId room).getClientsInRoom r ↔
    (r = room ∧ c = clientId) ∨ c ∈ m.getClientsInRoom r :=
  SetMap.mem_members_adjoin

theorem mem_joinRoom_rooms : r ∈ (m.joinRoom clientId room).getClientRooms c ↔
    (c = clientId ∧ r = room) ∨ r ∈ m.getClientRooms c :=
  SetMap.mem_members_adjoin

theorem mem_leaveRoom : c ∈ (m.leaveRoom clientId room).getClientsInRoom r ↔
    ¬ (r = room ∧ c = clientId) ∧ c ∈ m.getClientsInRoom r := by
  unfold getClientsInRoom leaveRoom
  rw [SetMap.members_prune, SetMap.mem_members_discard]

theorem mem_leaveRoom_rooms : r ∈ (m.leaveRoom clientId room).getClientRooms c ↔
    ¬ (c = clientId ∧ r = room) ∧ r ∈ m.getClientRooms c :=
  SetMap.mem_members_discard

/-- Each room of the list loses the client, and is dropped when it was the last one. -/
theorem mem_evicted (evicted : List String) (rooms : SetMap String C) :
    c ∈ (evicted.foldl (fun rooms room => (rooms.discard room clientId).prune room) rooms).members
        r ↔ ¬ (r ∈ evicted ∧ c = clientId) ∧ c ∈ rooms.members r := by
  induction evicted generalizing rooms with
  | nil => simp
  | cons room evicted ih =>
    rw [List.foldl_cons, ih, SetMap.members_prune, SetMap.mem_members_discard, List.mem_cons]
    tauto

theorem noneEmpty_evicted (evicted : List String) (rooms : SetMap String C)
    (h : rooms.NoneEmpty) :
    (evicted.foldl
      (fun rooms room => (rooms.discard room clientId).prune room) rooms).NoneEmpty := by
  induction evicted generalizing rooms with
  | nil => exact h
  | cons room evicted ih => exact ih _ h.discard_prune

theorem mem_removeClient_rooms : r ∈ (m.removeClient clientId).getClientRooms c ↔
    c ≠ clientId ∧ r ∈ m.getClientRooms c := by
  unfold getClientRooms removeClient
  by_cases hc : c = clientId
  · simp [hc, SetMap.members_erase_self]
  · have hother := AList.lookup_erase_ne (s := m.clientRooms) hc
    simp [hc, SetMap.members_congr hother]

/-- The maps are inverse to each other, so a removal finds every room the client is in. -/
theorem Consistent.mem_removeClient (h : m.Consistent) :
    c ∈ (m.removeClient clientId).getClientsInRoom r ↔
      c ≠ clientId ∧ c ∈ m.getClientsInRoom r := by
  unfold getClientsInRoom removeClient
  rw [mem_evicted]
  constructor
  · intro hmem
    refine ⟨?_, hmem.2⟩
    rintro rfl
    exact hmem.1 ⟨(h.matched c r).mp hmem.2, rfl⟩
  · intro hmem
    exact ⟨fun hgone => hmem.1 hgone.2, hmem.2⟩

theorem Consistent.empty : (empty : RoomMaps C).Consistent where
  matched clientId room := by simp [RoomMaps.empty, getClientsInRoom, getClientRooms]
  noneEmpty := SetMap.NoneEmpty.empty

/-- Each call leaves the maps inverse to each other, with no empty room. -/
theorem Consistent.perform (h : m.Consistent) (call : RoomCall C) :
    (call.perform m).Consistent := by
  cases call with
  | joinRoom clientId room =>
    refine ⟨fun c r => ?_, h.noneEmpty.adjoin⟩
    have hold := h.matched c r
    simp only [RoomCall.perform, mem_joinRoom, mem_joinRoom_rooms]
    tauto
  | leaveRoom clientId room =>
    refine ⟨fun c r => ?_, h.noneEmpty.discard_prune⟩
    have hold := h.matched c r
    simp only [RoomCall.perform, mem_leaveRoom, mem_leaveRoom_rooms]
    tauto
  | removeClient clientId =>
    refine ⟨fun c r => ?_, noneEmpty_evicted _ _ h.noneEmpty⟩
    have hold := h.matched c r
    simp only [RoomCall.perform, h.mem_removeClient, mem_removeClient_rooms]
    tauto

theorem run_snoc (calls : List (RoomCall C)) (call : RoomCall C) :
    run (calls ++ [call]) = call.perform (run calls) := by
  simp [run]

theorem run_consistent (calls : List (RoomCall C)) : (run calls).Consistent := by
  induction calls using List.reverseRecOn with
  | nil => exact .empty
  | append_singleton calls call ih =>
    rw [run_snoc]
    exact ih.perform call

/-- What a call says about the client and the room, when it concerns them: otherwise they stay. -/
theorem Consistent.mem_perform (h : m.Consistent) (call : RoomCall C) :
    c ∈ (call.perform m).getClientsInRoom r ↔
      if call.concerns c r then call = .joinRoom c r else c ∈ m.getClientsInRoom r := by
  cases call with
  | joinRoom clientId room =>
    simp only [RoomCall.perform, mem_joinRoom, RoomCall.concerns, RoomCall.joinRoom.injEq]
    by_cases hsame : clientId = c ∧ room = r
    · simp [hsame.1, hsame.2]
    · simp only [hsame, decide_false, Bool.false_eq_true, if_false]
      tauto
  | leaveRoom clientId room =>
    simp only [RoomCall.perform, mem_leaveRoom, RoomCall.concerns]
    by_cases hsame : clientId = c ∧ room = r
    · simp [hsame.1, hsame.2]
    · simp only [hsame, decide_false, Bool.false_eq_true, if_false]
      tauto
  | removeClient clientId =>
    simp only [RoomCall.perform, h.mem_removeClient, RoomCall.concerns]
    by_cases hsame : clientId = c
    · simp [hsame]
    · have hne : c ≠ clientId := fun he => hsame he.symm
      simp [hsame, hne]

/-- The last call about the client and the room decides. -/
theorem mem_run (calls : List (RoomCall C)) (c : C) (r : String) :
    c ∈ (run calls).getClientsInRoom r ↔
      (calls.filter (RoomCall.concerns c r)).getLast? = some (.joinRoom c r) := by
  induction calls using List.reverseRecOn with
  | nil => simp [run, getClientsInRoom, RoomMaps.empty]
  | append_singleton calls call ih =>
    rw [run_snoc, (run_consistent calls).mem_perform, List.filter_append]
    by_cases hconcerns : call.concerns c r = true
    · simp [hconcerns]
    · simpa [hconcerns] using ih

/-- A call about one client leaves the memberships of the others. -/
theorem Consistent.perform_other (h : m.Consistent) (call : RoomCall C)
    (hother : c ≠ call.clientId) :
    (∀ r, c ∈ (call.perform m).getClientsInRoom r ↔ c ∈ m.getClientsInRoom r) ∧
      (call.perform m).getClientRooms c = m.getClientRooms c := by
  have hnot : ∀ r, call.concerns c r = false := by
    intro r
    cases call <;> simp_all [RoomCall.concerns, RoomCall.clientId, eq_comm]
  refine ⟨fun r => by simp [h.mem_perform, hnot], SetMap.members_congr ?_⟩
  cases call with
  | joinRoom clientId room => exact SetMap.lookup_adjoin_ne hother
  | leaveRoom clientId room => exact SetMap.lookup_discard_ne hother
  | removeClient clientId => exact AList.lookup_erase_ne hother

/-- After any calls the maps are inverse to each other and no room has the empty set. A removal
leaves the client in neither map, a call about one client leaves the others where they were, and
a room holds, once each, the clients whose last call about it was a join. -/
theorem rooms_after_calls (calls : List (RoomCall C)) :
    (∀ clientId room, clientId ∈ (run calls).getClientsInRoom room ↔
      room ∈ (run calls).getClientRooms clientId) ∧
    (∀ room clients, (run calls).rooms.lookup room = some clients → clients.size ≠ 0) ∧
    (∀ clientId, (∀ room, clientId ∉ ((run calls).removeClient clientId).getClientsInRoom room) ∧
      ((run calls).removeClient clientId).clientRooms.lookup clientId = none) ∧
    (∀ (call : RoomCall C) (other : C), other ≠ call.clientId →
      (∀ room, other ∈ (call.perform (run calls)).getClientsInRoom room ↔
        other ∈ (run calls).getClientsInRoom room) ∧
      (call.perform (run calls)).getClientRooms other = (run calls).getClientRooms other) ∧
    (∀ room, ((run calls).getClientsInRoom room).Nodup ∧
      ∀ clientId, clientId ∈ (run calls).getClientsInRoom room ↔
        (calls.filter (RoomCall.concerns clientId room)).getLast? =
          some (.joinRoom clientId room)) := by
  have h := run_consistent calls
  refine ⟨h.matched, ?_, ?_, ?_, ?_⟩
  · intro room clients hclients hsize
    exact h.noneEmpty room clients hclients (List.eq_nil_of_length_eq_zero hsize)
  · intro clientId
    exact ⟨fun room => by simp [h.mem_removeClient], AList.lookup_erase clientId _⟩
  · intro call other hother
    exact h.perform_other call hother
  · intro room
    exact ⟨SetMap.members_nodup, fun clientId => mem_run calls clientId room⟩

end RoomMaps

namespace RoomManager

/-- The rooms decide the rooms of each client. -/
theorem ext_rooms {m m' : RoomManager} (h : ∀ c r, c ∈ m.rooms r ↔ c ∈ m'.rooms r) : m = m' := by
  have hrooms : m.rooms = m'.rooms := funext fun r => Finset.ext fun c => h c r
  have hclients : m.clientRooms = m'.clientRooms := by
    funext c
    ext r
    rw [← m.matched, ← m'.matched, h]
  cases m
  cases m'
  cases hrooms
  cases hclients
  rfl

def perform (m : RoomManager) : RoomCall ClientId → RoomManager
  | .joinRoom clientId room => m.joinRoom clientId room
  | .leaveRoom clientId room => m.leaveRoom clientId room
  | .removeClient clientId => m.removeClient clientId

end RoomManager

namespace RoomMaps

/-- The pairs that consistent maps hold. -/
def Consistent.pairs {m : RoomMaps ClientId} (h : m.Consistent) : RoomManager where
  rooms room := (m.getClientsInRoom room).toFinset
  clientRooms clientId := (m.getClientRooms clientId).toFinset
  matched clientId room := by simpa using h.matched clientId room

/-- The maps go through the calls as the gateway's rooms do. -/
theorem Consistent.pairs_perform {m : RoomMaps ClientId} (h : m.Consistent)
    (call : RoomCall ClientId) : (h.perform call).pairs = h.pairs.perform call := by
  refine RoomManager.ext_rooms fun c r => ?_
  cases call with
  | joinRoom clientId room =>
    simp only [RoomManager.perform, RoomManager.mem_joinRoom, pairs, List.mem_toFinset,
      RoomCall.perform, mem_joinRoom]
    tauto
  | leaveRoom clientId room =>
    simp only [RoomManager.perform, RoomManager.mem_leaveRoom, pairs, List.mem_toFinset,
      RoomCall.perform, mem_leaveRoom]
    tauto
  | removeClient clientId =>
    simp only [RoomManager.perform, RoomManager.mem_removeClient, pairs, List.mem_toFinset,
      RoomCall.perform, h.mem_removeClient]

end RoomMaps

end OmniSupport.Realtime
