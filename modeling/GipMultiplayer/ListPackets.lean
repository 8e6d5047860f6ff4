import GipMultiplayer.Coders
import GipMultiplayer.MasterRooms
import GipMultiplayer.PingSnapshots
import Mathlib.Data.List.GetD

/-!
# Packets that carry lists

Three packets carry a list behind its length: the lobby state, the ping snapshot
and the server list.  Their serializers write the entries one after the other;
the deserializers push what they read to the vectors of the packet, and give up
when the length is greater than the number of bytes that are left.

How the transport lays out a value is a parameter, of which only is known that
writing and reading are inverse.

* `Znet` — the integers, booleans, strings and lengths of the transport;
* `LobbyState.serializeTyped`, `LobbyState.deserializeTyped` and the like — the
  serializers;
* `Client.onLobbyState`, `Client.onPingSnapshot` — a client processes a packet;
* `LobbyState.deserialize_serialize` and the like — the round trips;
* `room_survives_wire` — the room of the host is the room of its clients.
-/

namespace Lobby

open Wire (Coder Buffer)

/-- How the transport writes values. -/
structure Znet where
  uint8 : Coder UInt8
  uint32 : Coder UInt32
  int : Coder Int32
  bool : Coder Bool
  string : Coder Bytes
  varint : Coder Nat

/-- One way to do so: little-endian integers, and lengths and strings behind their
lengths in groups of seven bits. -/
def Znet.littleEndian : Znet where
  uint8 := .int .littleEndian UInt8
  uint32 := .int .littleEndian UInt32
  int := (Coder.int .littleEndian UInt32).map UInt32.toInt32 Int32.toUInt32 Int32.toInt32_toUInt32
  bool := .bool .littleEndian
  string := .string
  varint := .varint

/-! ## The lobby state -/

/-- `LobbyStatePacket`. -/
structure LobbyState where
  isGlobalServer : Bool := false
  matchInProgress : Bool := false
  roomCode : Bytes := []
  playerIds : List UInt32 := []
  playerNames : List Bytes := []
  playerTeams : List UInt8 := []
  playerReadys : List UInt8 := []
  deriving DecidableEq

/-- What the four vectors hold at one index. -/
structure LobbyEntry where
  playerId : UInt32 := 0
  playerName : Bytes := []
  playerTeam : UInt8 := 0
  playerReady : UInt8 := 0
  deriving DecidableEq

/-- What a loop over the indices of `playerIds` finds. -/
def LobbyState.entries (p : LobbyState) : List LobbyEntry :=
  (List.range p.playerIds.length).map fun i =>
    { playerId := p.playerIds.getD i 0
      playerName := p.playerNames.getD i []
      playerTeam := p.playerTeams.getD i 0
      playerReady := p.playerReadys.getD i 0 }

/-- The entries are pushed to the vectors. -/
def LobbyState.push (p : LobbyState) (entries : List LobbyEntry) : LobbyState :=
  { p with
    playerIds := p.playerIds ++ entries.map LobbyEntry.playerId
    playerNames := p.playerNames ++ entries.map LobbyEntry.playerName
    playerTeams := p.playerTeams ++ entries.map LobbyEntry.playerTeam
    playerReadys := p.playerReadys ++ entries.map LobbyEntry.playerReady }

/-- An entry of a lobby state on the wire. -/
def Znet.lobbyEntry (znet : Znet) : Coder LobbyEntry where
  bytes e :=
    znet.uint32.bytes e.playerId ++ (znet.string.bytes e.playerName ++
      (znet.uint8.bytes e.playerTeam ++ znet.uint8.bytes e.playerReady))
  read buffer :=
    let (playerId, buffer) := buffer.get znet.uint32
    let (playerName, buffer) := buffer.get znet.string
    let (playerTeam, buffer) := buffer.get znet.uint8
    let (playerReady, buffer) := buffer.get znet.uint8
    ({ playerId, playerName, playerTeam, playerReady }, buffer)
  read_append e rest := by simp

/-- `LobbyStateSerializer::SerializeTyped`. -/
def LobbyState.serializeTyped (znet : Znet) (p : LobbyState) (buffer : Buffer) : Buffer :=
  let buffer := buffer.put znet.bool p.isGlobalServer
  let buffer := buffer.put znet.bool p.matchInProgress
  let buffer := buffer.put znet.string p.roomCode
  buffer.putCounted znet.varint znet.lobbyEntry p.entries

/-- `LobbyStateSerializer::DeserializeTyped`, with the buffer it leaves. -/
def LobbyState.deserializeTyped (znet : Znet) (buffer : Buffer) : Option LobbyState × Buffer :=
  let (isGlobalServer, buffer) := buffer.get znet.bool
  let (matchInProgress, buffer) := buffer.get znet.bool
  let (roomCode, buffer) := buffer.get znet.string
  let (entries, buffer) := buffer.getCounted znet.varint znet.lobbyEntry
  (some ({ isGlobalServer, matchInProgress, roomCode : LobbyState }.push entries), buffer)

/-- The packet of `broadcastLobbyState`. -/
def lobbyState (config : HostConfig) (host : Host) (roomCode : Bytes) : LobbyState where
  isGlobalServer := config.isDedicatedServer
  matchInProgress := host.matchInProgress
  roomCode := roomCode
  playerIds := host.roomPlayers.map (·.id)
  playerNames := host.roomPlayers.map (·.name)
  playerTeams := host.roomPlayers.map (·.team)
  playerReadys := host.roomPlayers.map fun rp => if rp.isReady then 1 else 0

/-! ## The ping snapshot -/

/-- What the two vectors of a snapshot hold at one index. -/
structure PingEntry where
  playerId : UInt32 := 0
  playerPing : UInt32 := 0
  deriving DecidableEq

/-- What a loop over the indices of `playerIds` finds. -/
def PingSnapshot.entries (p : PingSnapshot) : List PingEntry :=
  (List.range p.playerIds.length).map fun i =>
    { playerId := p.playerIds.getD i 0, playerPing := p.playerPings.getD i 0 }

/-- An entry of a snapshot on the wire. -/
def Znet.pingEntry (znet : Znet) : Coder PingEntry where
  bytes e := znet.uint32.bytes e.playerId ++ znet.uint32.bytes e.playerPing
  read buffer :=
    let (playerId, buffer) := buffer.get znet.uint32
    let (playerPing, buffer) := buffer.get znet.uint32
    ({ playerId, playerPing }, buffer)
  read_append e rest := by simp

/-- `PlayerPingSnapshotSerializer::SerializeTyped`. -/
def PingSnapshot.serializeTyped (znet : Znet) (p : PingSnapshot) (buffer : Buffer) : Buffer :=
  buffer.putCounted znet.varint znet.pingEntry p.entries

/-- `PlayerPingSnapshotSerializer::DeserializeTyped`, with the buffer it leaves. -/
def PingSnapshot.deserializeTyped (znet : Znet) (buffer : Buffer) :
    Option PingSnapshot × Buffer :=
  let (entries, buffer) := buffer.getCounted znet.varint znet.pingEntry
  (some { playerIds := entries.map PingEntry.playerId
          playerPings := entries.map PingEntry.playerPing }, buffer)

/-! ## The server list -/

/-- `gServerInfo` as far as a server list carries it; the other fields of what is
read are those of a new one. -/
structure ListedServer where
  ip : Bytes := []
  name : Bytes := []
  currentPlayers : UInt32 := 0
  maxPlayers : UInt32 := 0
  matchState : Int32 := 0
  isPrivate : Bool := false
  hasPassword : Bool := false
  isDedicated : Bool := false
  useP2P : Bool := false
  roomCode : Bytes := []
  deriving DecidableEq

/-- What a server list says of a server. -/
def listed {Address : Type} (s : Master.ServerInfo Address) : ListedServer :=
  { ip := s.ip
    name := s.name
    currentPlayers := s.currentPlayers
    maxPlayers := s.maxPlayers
    matchState := s.matchState
    isPrivate := s.isPrivate
    hasPassword := s.hasPassword
    isDedicated := s.isDedicated
    useP2P := s.useP2P
    roomCode := s.roomCode }

/-- A flag, written as the integer 1 or 0. -/
def Znet.flag (znet : Znet) : Coder Bool :=
  znet.int.map (fun n => n != 0) (fun b => if b then 1 else 0) fun b => by cases b <;> rfl

/-- A server on the wire. -/
def Znet.serverInfo (znet : Znet) : Coder ListedServer where
  bytes s :=
    znet.string.bytes s.ip ++ (znet.string.bytes s.name ++
      (znet.uint32.bytes s.currentPlayers ++ (znet.uint32.bytes s.maxPlayers ++
        (znet.int.bytes s.matchState ++ (znet.flag.bytes s.isPrivate ++
          (znet.flag.bytes s.hasPassword ++ (znet.flag.bytes s.isDedicated ++
            (znet.flag.bytes s.useP2P ++ znet.string.bytes s.roomCode))))))))
  read buffer :=
    let (ip, buffer) := buffer.get znet.string
    let (name, buffer) := buffer.get znet.string
    let (currentPlayers, buffer) := buffer.get znet.uint32
    let (maxPlayers, buffer) := buffer.get znet.uint32
    let (matchState, buffer) := buffer.get znet.int
    let (isPrivate, buffer) := buffer.get znet.flag
    let (hasPassword, buffer) := buffer.get znet.flag
    let (isDedicated, buffer) := buffer.get znet.flag
    let (useP2P, buffer) := buffer.get znet.flag
    let (roomCode, buffer) := buffer.get znet.string
    ({ ip, name, currentPlayers, maxPlayers, matchState, isPrivate, hasPassword, isDedicated,
       useP2P, roomCode }, buffer)
  read_append s rest := by simp

/-- `gMasterSendListPacket`. -/
structure SendList where
  servers : List ListedServer := []
  deriving DecidableEq

/-- `gMasterSendListSerializer::SerializeTyped`. -/
def SendList.serializeTyped (znet : Znet) (p : SendList) (buffer : Buffer) : Buffer :=
  buffer.putCounted znet.varint znet.serverInfo p.servers

/-- `gMasterSendListSerializer::DeserializeTyped`, with the buffer it leaves. -/
def SendList.deserializeTyped (znet : Znet) (buffer : Buffer) : Option SendList × Buffer :=
  let (servers, buffer) := buffer.getCounted znet.varint znet.serverInfo
  (some { servers }, buffer)

/-! ## Clients -/

/-- What a client keeps of these packets; `servers` is what its server browser was
handed last. -/
structure ClientView where
  roomPlayers : List RoomPlayerInfo := []
  playerCountCache : UInt32 := 0
  currentRoomCode : Bytes := []
  remotePings : AList (fun _ : UInt32 => Int32) := ∅
  servers : List ListedServer := []

/-- The player of an entry. -/
def LobbyEntry.player (e : LobbyEntry) : RoomPlayerInfo :=
  { id := e.playerId, name := e.playerName, team := e.playerTeam, isReady := e.playerReady != 0 }

namespace ClientView

/-- `onPacketReceived` of a lobby state: the room is cleared and filled again. -/
def onLobbyState (client : ClientView) (p : LobbyState) : ClientView :=
  let roomPlayers := p.entries.map LobbyEntry.player
  { client with
    roomPlayers := roomPlayers
    playerCountCache := UInt32.ofNat roomPlayers.length
    currentRoomCode := p.roomCode }

/-- `onPacketReceived` of a ping snapshot: the map is cleared and filled again. -/
def onPingSnapshot (client : ClientView) (p : PingSnapshot) : ClientView :=
  { client with
    remotePings := p.entries.foldl (fun pings e => pings.insert e.playerId e.playerPing.toInt32) ∅ }

/-- `gBrowserPacketHandler::OnPacket`. -/
def onSendList (client : ClientView) (p : SendList) : ClientView :=
  { client with servers := p.servers }

end ClientView

/-! ## Entries -/

/-- A loop over the indices of a vector meets its elements. -/
theorem map_range_getD {α : Type} {n : Nat} {l : List α} (hlength : l.length = n) (d : α) :
    ((List.range n).map fun i => l.getD i d) = l := by
  subst hlength
  apply List.ext_getElem
  · rw [List.length_map, List.length_range]
  · intro i hi hi'
    rw [List.getElem_map, List.getElem_range, List.getD_eq_getElem _ _ hi']

/-- The vectors of a packet have one length. -/
structure LobbyState.Parallel (p : LobbyState) : Prop where
  names : p.playerNames.length = p.playerIds.length
  teams : p.playerTeams.length = p.playerIds.length
  readys : p.playerReadys.length = p.playerIds.length

/-- Pushing the entries of a packet restores its vectors. -/
theorem LobbyState.push_entries {p : LobbyState} (h : p.Parallel) :
    ({ isGlobalServer := p.isGlobalServer, matchInProgress := p.matchInProgress,
       roomCode := p.roomCode : LobbyState }.push p.entries) = p := by
  obtain ⟨isGlobalServer, matchInProgress, roomCode, ids, names, teams, readys⟩ := p
  simp only [push, entries, List.nil_append, List.map_map, LobbyState.mk.injEq, true_and]
  exact ⟨map_range_getD rfl 0, map_range_getD h.names [], map_range_getD h.teams 0,
    map_range_getD h.readys 0⟩

theorem PingSnapshot.push_entries {p : PingSnapshot}
    (h : p.playerIds.length = p.playerPings.length) :
    ({ playerIds := p.entries.map PingEntry.playerId
       playerPings := p.entries.map PingEntry.playerPing } : PingSnapshot) = p := by
  obtain ⟨ids, pings⟩ := p
  simp only [entries, List.map_map, PingSnapshot.mk.injEq]
  exact ⟨map_range_getD rfl 0, map_range_getD h.symm 0⟩

/-- The vectors of the host's packet are those of its room. -/
theorem lobbyState_parallel (config : HostConfig) (host : Host) (roomCode : Bytes) :
    (lobbyState config host roomCode).Parallel :=
  ⟨by simp [lobbyState], by simp [lobbyState], by simp [lobbyState]⟩

/-- **The room that a client fills** from the host's packet. -/
theorem lobbyState_players (config : HostConfig) (host : Host) (roomCode : Bytes) :
    (lobbyState config host roomCode).entries.map LobbyEntry.player = host.roomPlayers := by
  have hplayer : ∀ i, LobbyEntry.player
      { playerId := (host.roomPlayers.map (·.id)).getD i 0
        playerName := (host.roomPlayers.map (·.name)).getD i []
        playerTeam := (host.roomPlayers.map (·.team)).getD i 0
        playerReady := (host.roomPlayers.map fun rp => if rp.isReady then (1 : UInt8) else 0).getD
          i 0 } = host.roomPlayers.getD i {} := by
    intro i
    have hfield : ∀ {β : Type} (f : RoomPlayerInfo → β),
        (host.roomPlayers.map f).getD i (f {}) = f (host.roomPlayers.getD i {}) :=
      fun f => List.getD_map _ _ f
    have hid : (host.roomPlayers.map (·.id)).getD i 0 = (host.roomPlayers.getD i {}).id :=
      hfield _
    have hname : (host.roomPlayers.map (·.name)).getD i [] = (host.roomPlayers.getD i {}).name :=
      hfield _
    have hteam : (host.roomPlayers.map (·.team)).getD i 0 = (host.roomPlayers.getD i {}).team :=
      hfield _
    have hready : (host.roomPlayers.map fun rp => if rp.isReady then (1 : UInt8) else 0).getD i 0 =
        if (host.roomPlayers.getD i {}).isReady then 1 else 0 :=
      hfield fun rp => if rp.isReady then (1 : UInt8) else 0
    rw [hid, hname, hteam, hready]
    generalize host.roomPlayers.getD i {} = rp
    obtain ⟨id, name, team, isReady⟩ := rp
    cases isReady <;> rfl
  have hlength : (host.roomPlayers.map (·.id)).length = host.roomPlayers.length :=
    List.length_map _
  calc (lobbyState config host roomCode).entries.map LobbyEntry.player
      = (List.range (host.roomPlayers.map (·.id)).length).map
          fun i => host.roomPlayers.getD i {} := by
        rw [LobbyState.entries, List.map_map]
        exact List.map_congr_left fun i _ => hplayer i
    _ = host.roomPlayers := map_range_getD hlength.symm {}

/-! ## Round trips -/

/-- The bytes of a lobby state. -/
def LobbyState.bytes (znet : Znet) (p : LobbyState) : List UInt8 :=
  znet.bool.bytes p.isGlobalServer ++ (znet.bool.bytes p.matchInProgress ++
    (znet.string.bytes p.roomCode ++ Buffer.countedBytes znet.varint znet.lobbyEntry p.entries))

theorem LobbyState.serializeTyped_of (znet : Znet) (p : LobbyState) (before : List UInt8) :
    p.serializeTyped znet (.of before) = .of (before ++ p.bytes znet) := by
  simp [serializeTyped, bytes]

theorem PingSnapshot.serializeTyped_of (znet : Znet) (p : PingSnapshot) (before : List UInt8) :
    p.serializeTyped znet (.of before) =
      .of (before ++ Buffer.countedBytes znet.varint znet.pingEntry p.entries) :=
  Buffer.putCounted_of before _ _ _

theorem SendList.serializeTyped_of (znet : Znet) (p : SendList) (before : List UInt8) :
    p.serializeTyped znet (.of before) =
      .of (before ++ Buffer.countedBytes znet.varint znet.serverInfo p.servers) :=
  Buffer.putCounted_of before _ _ _

instance : Nontrivial LobbyEntry := ⟨{}, { playerId := 1 }, by decide⟩

instance : Nontrivial PingEntry := ⟨{}, { playerId := 1 }, by decide⟩

instance : Nontrivial ListedServer := ⟨{}, { currentPlayers := 1 }, by decide⟩

/-- What is read from the bytes of a lobby state. -/
theorem LobbyState.deserializeTyped_bytes (znet : Znet) (p : LobbyState) (rest : List UInt8) :
    deserializeTyped znet (.of (p.bytes znet ++ rest)) =
      (some ({ isGlobalServer := p.isGlobalServer, matchInProgress := p.matchInProgress,
               roomCode := p.roomCode : LobbyState }.push p.entries), .of rest) := by
  simp [deserializeTyped, bytes]

/-- **A lobby state survives the wire**, and its bytes are all that is read. -/
theorem LobbyState.deserialize_serialize (znet : Znet) {p : LobbyState} (h : p.Parallel)
    (rest : List UInt8) :
    deserializeTyped znet ((p.serializeTyped znet (.of [])).write rest) = (some p, .of rest) := by
  rw [serializeTyped_of, Buffer.write_of, List.nil_append, deserializeTyped_bytes, push_entries h]

/-- **A ping snapshot survives the wire.** -/
theorem PingSnapshot.deserialize_serialize (znet : Znet) {p : PingSnapshot}
    (h : p.playerIds.length = p.playerPings.length) (rest : List UInt8) :
    deserializeTyped znet ((p.serializeTyped znet (.of [])).write rest) = (some p, .of rest) := by
  have hpush := push_entries h
  rw [serializeTyped_of, Buffer.write_of]
  simp [deserializeTyped, hpush]

/-- **A server list survives the wire.** -/
theorem SendList.deserialize_serialize (znet : Znet) (p : SendList) (rest : List UInt8) :
    deserializeTyped znet ((p.serializeTyped znet (.of [])).write rest) = (some p, .of rest) := by
  rw [serializeTyped_of, Buffer.write_of]
  simp [deserializeTyped]

/-- **The room survives the wire.**  From the packet of the host a client has the
host's room, in its order, and everything that was written is read, and nothing
else; ping snapshots and server lists arrive as they were sent. -/
theorem room_survives_wire (znet : Znet) (rest : List UInt8) :
    (∀ (config : HostConfig) (host : Host) (roomCode : Bytes) (client : ClientView),
      ∃ p, LobbyState.deserializeTyped znet
          (((lobbyState config host roomCode).serializeTyped znet (.of [])).write rest) =
            (some p, .of rest) ∧
        p = lobbyState config host roomCode ∧
        (client.onLobbyState p).roomPlayers = host.roomPlayers ∧
        (client.onLobbyState p).currentRoomCode = roomCode) ∧
      (∀ p : PingSnapshot, p.playerIds.length = p.playerPings.length →
        PingSnapshot.deserializeTyped znet ((p.serializeTyped znet (.of [])).write rest) =
          (some p, .of rest)) ∧
      ∀ {Address : Type} (servers : List (Master.ServerInfo Address)),
        SendList.deserializeTyped znet
            ((SendList.serializeTyped znet ⟨servers.map listed⟩ (.of [])).write rest) =
          (some ⟨servers.map listed⟩, .of rest) := by
  refine ⟨?_, ?_, ?_⟩
  · intro config host roomCode client
    exact ⟨_, LobbyState.deserialize_serialize znet (lobbyState_parallel config host roomCode) rest,
      rfl, lobbyState_players config host roomCode, rfl⟩
  · intro p h
    exact PingSnapshot.deserialize_serialize znet h rest
  · intro Address servers
    exact SendList.deserialize_serialize znet _ rest

/-- Two players with their pings, and a byte of the next packet. -/
theorem room_survives_wire_two :
    PingSnapshot.deserializeTyped .littleEndian
        ((PingSnapshot.serializeTyped .littleEndian ⟨[7, 8], [30, 45]⟩ (.of [])).write [1]) =
      (some ⟨[7, 8], [30, 45]⟩, .of [1]) :=
  (room_survives_wire .littleEndian [1]).2.1 ⟨[7, 8], [30, 45]⟩ rfl

end Lobby
