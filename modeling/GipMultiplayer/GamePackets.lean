import GipMultiplayer.Codecs
import GipMultiplayer.ListPackets
import GipMultiplayer.VoiceWire

/-!
# The packets of a game connection

Host and clients exchange eighteen kinds of packets, and the three of the voice
chat.  Each has its own serializers; both ends put all of them into their
codecs, one after the other.  Someone who only asks for a server's name brings a
codec with the two packets this takes.

The serializers write field after field, and nothing else tells the fields
apart: what is read is what was written only if both name the fields in one
order, with one width each.

* `Znet.ping`, `Znet.nodeState` and the like — the serializers;
* `Kind`, `protocol` — the kinds with their ids and serializers;
* `localCodec`, `remoteCodec`, `queryCodec` — the codecs of the three parties;
* `Valid`, `serializer_faithful` — which packets the serializers carry;
* `game_packets_delivered` — the law.
-/

namespace GamePackets

open Lobby (Bytes ChatMessage LobbyState NodeState PingSnapshot)
open Voice (DownlinkPacket SessionPacket UplinkPacket)
open Wire (Buffer Codec Coder Layout Protocol Serializer)

/-- How the transport writes values; a float is written as its bits. -/
structure Znet extends Lobby.Znet where
  layout : Layout
  uint64 : Coder UInt64
  float : Coder UInt32

/-- One way to do so. -/
def Znet.littleEndian : Znet where
  toZnet := .littleEndian
  layout := .littleEndian
  uint64 := .int .littleEndian UInt64
  float := .int .littleEndian UInt32

variable (znet : Znet)

/-! ## Packets -/

/-- `PingPacket`. -/
structure Ping where
  timestamp : UInt64 := 0
  reportedPing : UInt32 := 0
  deriving DecidableEq

/-- `PingSerializer`. -/
def Znet.ping : Coder Ping where
  bytes p := znet.uint64.bytes p.timestamp ++ znet.uint32.bytes p.reportedPing
  read buffer :=
    let (timestamp, buffer) := buffer.get znet.uint64
    let (reportedPing, buffer) := buffer.get znet.uint32
    ({ timestamp, reportedPing }, buffer)
  read_append p rest := by simp

/-- `PongPacket`. -/
structure Pong where
  timestamp : UInt64 := 0
  deriving DecidableEq

/-- `PongSerializer`. -/
def Znet.pong : Coder Pong where
  bytes p := znet.uint64.bytes p.timestamp
  read buffer :=
    let (timestamp, buffer) := buffer.get znet.uint64
    ({ timestamp }, buffer)
  read_append p rest := by simp

/-- `NodeStatePacket`. -/
structure NodeStatePacket where
  netid : UInt32 := 0
  state : NodeState := {}
  deriving DecidableEq

/-- `NodeStateSerializer`. -/
def Znet.nodeState : Coder NodeStatePacket where
  bytes p :=
    znet.uint32.bytes p.netid ++ (znet.float.bytes p.state.x ++ (znet.float.bytes p.state.y ++
      (znet.float.bytes p.state.z ++ (znet.float.bytes p.state.yaw ++
        (znet.uint8.bytes p.state.team ++ znet.uint8.bytes p.state.animState)))))
  read buffer :=
    let (netid, buffer) := buffer.get znet.uint32
    let (x, buffer) := buffer.get znet.float
    let (y, buffer) := buffer.get znet.float
    let (z, buffer) := buffer.get znet.float
    let (yaw, buffer) := buffer.get znet.float
    let (team, buffer) := buffer.get znet.uint8
    let (animState, buffer) := buffer.get znet.uint8
    ({ netid, state := { x, y, z, yaw, team, animState } }, buffer)
  read_append p rest := by simp

/-- `NodeLeavePacket`. -/
structure NodeLeave where
  netid : UInt32 := 0
  deriving DecidableEq

/-- `NodeLeaveSerializer`. -/
def Znet.nodeLeave : Coder NodeLeave where
  bytes p := znet.uint32.bytes p.netid
  read buffer :=
    let (netid, buffer) := buffer.get znet.uint32
    ({ netid }, buffer)
  read_append p rest := by simp

/-- `PlayerFirePacket`. -/
structure PlayerFire where
  shooterId : UInt32 := 0
  gunType : UInt8 := 0
  originX : UInt32 := 0
  originY : UInt32 := 0
  originZ : UInt32 := 0
  dirX : UInt32 := 0
  dirY : UInt32 := 0
  dirZ : UInt32 := 0
  deriving DecidableEq

/-- `PlayerFireSerializer`. -/
def Znet.playerFire : Coder PlayerFire where
  bytes p :=
    znet.uint32.bytes p.shooterId ++ (znet.uint8.bytes p.gunType ++
      (znet.float.bytes p.originX ++ (znet.float.bytes p.originY ++ (znet.float.bytes p.originZ ++
        (znet.float.bytes p.dirX ++ (znet.float.bytes p.dirY ++ znet.float.bytes p.dirZ))))))
  read buffer :=
    let (shooterId, buffer) := buffer.get znet.uint32
    let (gunType, buffer) := buffer.get znet.uint8
    let (originX, buffer) := buffer.get znet.float
    let (originY, buffer) := buffer.get znet.float
    let (originZ, buffer) := buffer.get znet.float
    let (dirX, buffer) := buffer.get znet.float
    let (dirY, buffer) := buffer.get znet.float
    let (dirZ, buffer) := buffer.get znet.float
    ({ shooterId, gunType, originX, originY, originZ, dirX, dirY, dirZ }, buffer)
  read_append p rest := by simp

/-- `PlayerHitPacket`. -/
structure PlayerHit where
  attackerId : UInt32 := 0
  victimId : UInt32 := 0
  damage : UInt32 := 0
  deriving DecidableEq

/-- `PlayerHitSerializer`. -/
def Znet.playerHit : Coder PlayerHit where
  bytes p :=
    znet.uint32.bytes p.attackerId ++ (znet.uint32.bytes p.victimId ++ znet.float.bytes p.damage)
  read buffer :=
    let (attackerId, buffer) := buffer.get znet.uint32
    let (victimId, buffer) := buffer.get znet.uint32
    let (damage, buffer) := buffer.get znet.float
    ({ attackerId, victimId, damage }, buffer)
  read_append p rest := by simp

/-- `PlayerKilledPacket`. -/
structure PlayerKilled where
  killerId : UInt32 := 0
  victimId : UInt32 := 0
  deriving DecidableEq

/-- `PlayerKilledSerializer`. -/
def Znet.playerKilled : Coder PlayerKilled where
  bytes p := znet.uint32.bytes p.killerId ++ znet.uint32.bytes p.victimId
  read buffer :=
    let (killerId, buffer) := buffer.get znet.uint32
    let (victimId, buffer) := buffer.get znet.uint32
    ({ killerId, victimId }, buffer)
  read_append p rest := by simp

/-- A packet without fields that is written as nothing: `KeepAliveSerializer` and
`StartMatchSerializer`. -/
def nothing : Coder Unit where
  bytes _ := []
  read buffer := ((), buffer)
  read_append _ _ := rfl

/-- `ServerQueryReqSerializer`: a byte that means nothing. -/
def Znet.serverQueryReq : Coder Unit where
  bytes _ := znet.uint8.bytes 1
  read buffer := ((), (buffer.get znet.uint8).2)
  read_append _ rest := by simp

/-- `ServerQueryResPacket`. -/
structure ServerQueryRes where
  lobbyName : Bytes := []
  format : Bytes := []
  sizeStr : Bytes := []
  isDedicated : Bool := false
  matchInProgress : Bool := false
  deriving DecidableEq

/-- `ServerQueryResSerializer`. -/
def Znet.serverQueryRes : Coder ServerQueryRes where
  bytes p :=
    znet.string.bytes p.lobbyName ++ (znet.string.bytes p.format ++
      (znet.string.bytes p.sizeStr ++ (znet.flag.bytes p.isDedicated ++
        znet.flag.bytes p.matchInProgress)))
  read buffer :=
    let (lobbyName, buffer) := buffer.get znet.string
    let (format, buffer) := buffer.get znet.string
    let (sizeStr, buffer) := buffer.get znet.string
    let (isDedicated, buffer) := buffer.get znet.flag
    let (matchInProgress, buffer) := buffer.get znet.flag
    ({ lobbyName, format, sizeStr, isDedicated, matchInProgress }, buffer)
  read_append p rest := by simp

/-- `LobbyJoinPacket`. -/
structure LobbyJoin where
  senderId : UInt32 := 0
  playerName : Bytes := []
  password : Bytes := []
  deriving DecidableEq

/-- `LobbyJoinSerializer`. -/
def Znet.lobbyJoin : Coder LobbyJoin where
  bytes p :=
    znet.uint32.bytes p.senderId ++ (znet.string.bytes p.playerName ++
      znet.string.bytes p.password)
  read buffer :=
    let (senderId, buffer) := buffer.get znet.uint32
    let (playerName, buffer) := buffer.get znet.string
    let (password, buffer) := buffer.get znet.string
    ({ senderId, playerName, password }, buffer)
  read_append p rest := by simp

/-- `ToggleReadyPacket`. -/
structure ToggleReady where
  senderId : UInt32 := 0
  deriving DecidableEq

/-- `ToggleReadySerializer`. -/
def Znet.toggleReady : Coder ToggleReady where
  bytes p := znet.uint32.bytes p.senderId
  read buffer :=
    let (senderId, buffer) := buffer.get znet.uint32
    ({ senderId }, buffer)
  read_append p rest := by simp

/-- `SwitchTeamPacket`. -/
structure SwitchTeam where
  senderId : UInt32 := 0
  teamId : UInt8 := 0
  deriving DecidableEq

/-- `SwitchTeamSerializer`. -/
def Znet.switchTeam : Coder SwitchTeam where
  bytes p := znet.uint32.bytes p.senderId ++ znet.uint8.bytes p.teamId
  read buffer :=
    let (senderId, buffer) := buffer.get znet.uint32
    let (teamId, buffer) := buffer.get znet.uint8
    ({ senderId, teamId }, buffer)
  read_append p rest := by simp

/-- `LobbyKickPacket`. -/
structure LobbyKick where
  reason : Bytes := []
  deriving DecidableEq

/-- `LobbyKickSerializer`. -/
def Znet.lobbyKick : Coder LobbyKick where
  bytes p := znet.string.bytes p.reason
  read buffer :=
    let (reason, buffer) := buffer.get znet.string
    ({ reason }, buffer)
  read_append p rest := by simp

/-- `ChatMessageSerializer`. -/
def Znet.chatMessage : Coder ChatMessage where
  bytes p :=
    znet.uint32.bytes p.senderId ++ (znet.uint32.bytes p.targetId ++
      (znet.uint8.bytes p.channel ++ (znet.string.bytes p.senderName ++
        znet.string.bytes p.text)))
  read buffer :=
    let (senderId, buffer) := buffer.get znet.uint32
    let (targetId, buffer) := buffer.get znet.uint32
    let (channel, buffer) := buffer.get znet.uint8
    let (senderName, buffer) := buffer.get znet.string
    let (text, buffer) := buffer.get znet.string
    ({ senderId, targetId, channel, senderName, text }, buffer)
  read_append p rest := by simp

/-! ## Packets that are checked or carry lists -/

/-- The answer of a voice serializer without its error. -/
def answer {α : Type} : Voice.Reply α → Option α
  | .ok result => some result
  | .null => none
  | .fail _ => none

/-- `LobbyStateSerializer`. -/
def Znet.lobbyState : Serializer LobbyState where
  serializeTyped p buffer := some (p.serializeTyped znet.toZnet buffer)
  deserializeTyped := LobbyState.deserializeTyped znet.toZnet

/-- `PlayerPingSnapshotSerializer`. -/
def Znet.playerPingSnapshot : Serializer PingSnapshot where
  serializeTyped p buffer := some (p.serializeTyped znet.toZnet buffer)
  deserializeTyped := PingSnapshot.deserializeTyped znet.toZnet

/-- `gTeamVoiceSessionSerializer`. -/
def Znet.voiceSession : Serializer SessionPacket where
  serializeTyped p buffer := answer (Voice.sessionSerializeTyped znet.layout (some p) buffer)
  deserializeTyped buffer :=
    let (reply, buffer) := Voice.sessionDeserialize znet.layout buffer
    (answer reply, buffer)

/-- The serializers of a packet that ends in a payload. -/
def Znet.voiceFrame {P : Type} (format : Voice.FrameFormat P) : Serializer P where
  serializeTyped p buffer := answer (format.serializeTyped znet.layout (some p) buffer)
  deserializeTyped buffer :=
    let (reply, buffer) := format.deserialize znet.layout buffer
    (answer reply, buffer)

/-! ## The protocol -/

/-- The kinds of packets, in the order of their ids. -/
inductive Kind
  | nodeState
  | nodeLeave
  | nodeFire
  | nodeHit
  | nodeKilled
  | serverQueryReq
  | serverQueryRes
  | lobbyJoin
  | lobbyState
  | toggleReady
  | switchTeam
  | startMatch
  | lobbyKick
  | keepAlive
  | ping
  | pong
  | chatMessage
  | playerPingSnapshot
  | voiceSession
  | voiceUplink
  | voiceDownlink
  deriving DecidableEq

/-- The class of the packets of a kind. -/
def Kind.Packet : Kind → Type
  | .nodeState => NodeStatePacket
  | .nodeLeave => NodeLeave
  | .nodeFire => PlayerFire
  | .nodeHit => PlayerHit
  | .nodeKilled => PlayerKilled
  | .serverQueryReq => Unit
  | .serverQueryRes => ServerQueryRes
  | .lobbyJoin => LobbyJoin
  | .lobbyState => LobbyState
  | .toggleReady => ToggleReady
  | .switchTeam => SwitchTeam
  | .startMatch => Unit
  | .lobbyKick => LobbyKick
  | .keepAlive => Unit
  | .ping => Ping
  | .pong => Pong
  | .chatMessage => ChatMessage
  | .playerPingSnapshot => PingSnapshot
  | .voiceSession => SessionPacket
  | .voiceUplink => UplinkPacket
  | .voiceDownlink => DownlinkPacket

/-- The id that the packets of a kind carry: its place in the enumeration, or the
voice chat's own. -/
def Kind.id : Kind → Nat
  | .voiceSession => 0x47564f4943450001
  | .voiceUplink => 0x47564f4943450002
  | .voiceDownlink => 0x47564f4943450003
  | kind => kind.ctorIdx

/-- The serializers of a kind. -/
def Znet.serializer : ∀ kind : Kind, Serializer kind.Packet
  | .nodeState => znet.nodeState.serializer
  | .nodeLeave => znet.nodeLeave.serializer
  | .nodeFire => znet.playerFire.serializer
  | .nodeHit => znet.playerHit.serializer
  | .nodeKilled => znet.playerKilled.serializer
  | .serverQueryReq => znet.serverQueryReq.serializer
  | .serverQueryRes => znet.serverQueryRes.serializer
  | .lobbyJoin => znet.lobbyJoin.serializer
  | .lobbyState => znet.lobbyState
  | .toggleReady => znet.toggleReady.serializer
  | .switchTeam => znet.switchTeam.serializer
  | .startMatch => nothing.serializer
  | .lobbyKick => znet.lobbyKick.serializer
  | .keepAlive => nothing.serializer
  | .ping => znet.ping.serializer
  | .pong => znet.pong.serializer
  | .chatMessage => znet.chatMessage.serializer
  | .playerPingSnapshot => znet.playerPingSnapshot
  | .voiceSession => znet.voiceSession
  | .voiceUplink => znet.voiceFrame Voice.uplink
  | .voiceDownlink => znet.voiceFrame Voice.downlink

/-- The packets of a game connection. -/
def protocol : Protocol Kind where
  Packet := Kind.Packet
  id := Kind.id
  serializer := znet.serializer

/-! ## Codecs -/

/-- All kinds, in the order in which both ends add them. -/
def Kind.all : List Kind :=
  [.nodeState, .nodeLeave, .nodeFire, .nodeHit, .nodeKilled, .serverQueryReq, .serverQueryRes,
    .lobbyJoin, .lobbyState, .toggleReady, .switchTeam, .startMatch, .lobbyKick, .keepAlive, .ping,
    .pong, .chatMessage, .playerPingSnapshot, .voiceSession, .voiceUplink, .voiceDownlink]

/-- `makeCodec` of `GameBackendLocal`. -/
def localCodec : Codec Kind :=
  [(Kind.id .nodeState, .nodeState), (Kind.id .nodeLeave, .nodeLeave),
    (Kind.id .nodeFire, .nodeFire), (Kind.id .nodeHit, .nodeHit),
    (Kind.id .nodeKilled, .nodeKilled), (Kind.id .serverQueryReq, .serverQueryReq),
    (Kind.id .serverQueryRes, .serverQueryRes), (Kind.id .lobbyJoin, .lobbyJoin),
    (Kind.id .lobbyState, .lobbyState), (Kind.id .toggleReady, .toggleReady),
    (Kind.id .switchTeam, .switchTeam), (Kind.id .startMatch, .startMatch),
    (Kind.id .lobbyKick, .lobbyKick), (Kind.id .keepAlive, .keepAlive), (Kind.id .ping, .ping),
    (Kind.id .pong, .pong), (Kind.id .chatMessage, .chatMessage),
    (Kind.id .playerPingSnapshot, .playerPingSnapshot), (Kind.id .voiceSession, .voiceSession),
    (Kind.id .voiceUplink, .voiceUplink), (Kind.id .voiceDownlink, .voiceDownlink)]

/-- `makeCodec` of `GameBackendRemote`. -/
def remoteCodec : Codec Kind :=
  [(Kind.id .nodeState, .nodeState), (Kind.id .nodeLeave, .nodeLeave),
    (Kind.id .nodeFire, .nodeFire), (Kind.id .nodeHit, .nodeHit),
    (Kind.id .nodeKilled, .nodeKilled), (Kind.id .serverQueryReq, .serverQueryReq),
    (Kind.id .serverQueryRes, .serverQueryRes), (Kind.id .lobbyJoin, .lobbyJoin),
    (Kind.id .lobbyState, .lobbyState), (Kind.id .toggleReady, .toggleReady),
    (Kind.id .switchTeam, .switchTeam), (Kind.id .startMatch, .startMatch),
    (Kind.id .lobbyKick, .lobbyKick), (Kind.id .keepAlive, .keepAlive), (Kind.id .ping, .ping),
    (Kind.id .pong, .pong), (Kind.id .chatMessage, .chatMessage),
    (Kind.id .playerPingSnapshot, .playerPingSnapshot), (Kind.id .voiceSession, .voiceSession),
    (Kind.id .voiceUplink, .voiceUplink), (Kind.id .voiceDownlink, .voiceDownlink)]

/-- `makeQueryCodec`. -/
def queryCodec : Codec Kind :=
  [(Kind.id .serverQueryReq, .serverQueryReq), (Kind.id .serverQueryRes, .serverQueryRes)]

theorem Kind.mem_all (kind : Kind) : kind ∈ Kind.all := by cases kind <;> decide

theorem localCodec_registers : localCodec.Registers (protocol znet) Kind.all :=
  ⟨rfl, by simp only [protocol]; decide⟩

theorem remoteCodec_registers : remoteCodec.Registers (protocol znet) Kind.all :=
  ⟨rfl, by simp only [protocol]; decide⟩

theorem queryCodec_registers :
    queryCodec.Registers (protocol znet) [.serverQueryReq, .serverQueryRes] :=
  ⟨rfl, by simp only [protocol]; decide⟩

/-! ## What the serializers carry -/

/-- The packets the program builds: parallel vectors are of one length, and voice
packets pass their own checks. -/
def Valid : ∀ kind : Kind, kind.Packet → Prop
  | .lobbyState, p => LobbyState.Parallel p
  | .playerPingSnapshot, p => p.playerIds.length = p.playerPings.length
  | .voiceSession, p => Voice.validateTeamVoiceSessionPacket p = .none
  | .voiceUplink, p => Voice.validateTeamVoiceUplinkPacket p = .none
  | .voiceDownlink, p => Voice.validateTeamVoiceDownlinkPacket p = .none
  | _, _ => True

/-- A lobby state is carried. -/
theorem lobbyState_faithful {p : LobbyState} (h : p.Parallel) : znet.lobbyState.Faithful p := by
  refine ⟨p.bytes znet.toZnet, fun before => congrArg some (p.serializeTyped_of _ before), ?_⟩
  have hread := LobbyState.deserialize_serialize znet.toZnet h []
  rwa [p.serializeTyped_of, Buffer.write_of, List.append_nil, List.nil_append] at hread

/-- A ping snapshot is carried. -/
theorem playerPingSnapshot_faithful {p : PingSnapshot}
    (h : p.playerIds.length = p.playerPings.length) : znet.playerPingSnapshot.Faithful p := by
  refine ⟨_, fun before => congrArg some (p.serializeTyped_of znet.toZnet before), ?_⟩
  have hread := PingSnapshot.deserialize_serialize znet.toZnet h []
  rwa [p.serializeTyped_of, Buffer.write_of, List.append_nil, List.nil_append] at hread

/-- A valid packet that ends in a payload is carried. -/
theorem voiceFrame_faithful {P : Type} {format : Voice.FrameFormat P} {header : P → List UInt8}
    (h : format.Lawful znet.layout header) {p : P} (hvalid : format.validate p = .none) :
    (znet.voiceFrame format).Faithful p := by
  refine ⟨format.wire znet.layout header p, fun before => ?_, ?_⟩
  · show answer (format.serializeTyped znet.layout (some p) (.of before)) = _
    rw [Voice.FrameFormat.serializeTyped_eq h, if_pos hvalid]
    rfl
  · have hread := Voice.FrameFormat.deserialize_wire h hvalid
    show (answer (format.deserialize znet.layout _).1, (format.deserialize znet.layout _).2) = _
    rw [hread]
    rfl

/-- A valid control of the voice chat is carried. -/
theorem voiceSession_faithful {p : SessionPacket}
    (hvalid : Voice.validateTeamVoiceSessionPacket p = .none) : znet.voiceSession.Faithful p := by
  have henabled : p.enabled = decide ((if p.enabled then 1 else 0 : UInt8) ≠ 0) := by
    cases p.enabled <;> rfl
  refine ⟨Voice.sessionFields znet.layout p (if p.enabled then 1 else 0), fun before => ?_, ?_⟩
  · show answer (Voice.sessionSerializeTyped znet.layout (some p) (.of before)) = _
    rw [Voice.sessionSerializeTyped_eq, if_pos hvalid]
    rfl
  · have hread := Voice.sessionDeserialize_fields znet.layout p _ henabled
    rw [if_neg (not_not.mpr hvalid)] at hread
    show (answer (Voice.sessionDeserialize znet.layout _).1,
      (Voice.sessionDeserialize znet.layout _).2) = _
    rw [hread]
    rfl

/-- **Every valid packet is carried** by the serializers of its kind. -/
theorem serializer_faithful (kind : Kind) (p : kind.Packet) (h : Valid kind p) :
    (znet.serializer kind).Faithful p := by
  cases kind with
  | lobbyState => exact lobbyState_faithful znet h
  | playerPingSnapshot => exact playerPingSnapshot_faithful znet h
  | voiceSession => exact voiceSession_faithful znet h
  | voiceUplink => exact voiceFrame_faithful znet (Voice.uplink_lawful znet.layout) h
  | voiceDownlink => exact voiceFrame_faithful znet (Voice.downlink_lawful znet.layout) h
  | nodeState => exact Coder.serializer_faithful _ p
  | nodeLeave => exact Coder.serializer_faithful _ p
  | nodeFire => exact Coder.serializer_faithful _ p
  | nodeHit => exact Coder.serializer_faithful _ p
  | nodeKilled => exact Coder.serializer_faithful _ p
  | serverQueryReq => exact Coder.serializer_faithful _ p
  | serverQueryRes => exact Coder.serializer_faithful _ p
  | lobbyJoin => exact Coder.serializer_faithful _ p
  | toggleReady => exact Coder.serializer_faithful _ p
  | switchTeam => exact Coder.serializer_faithful _ p
  | startMatch => exact Coder.serializer_faithful _ p
  | lobbyKick => exact Coder.serializer_faithful _ p
  | keepAlive => exact Coder.serializer_faithful _ p
  | ping => exact Coder.serializer_faithful _ p
  | pong => exact Coder.serializer_faithful _ p
  | chatMessage => exact Coder.serializer_faithful _ p

/-- **Game packets arrive as they were sent**, in their order, with every field and
to the last byte: between a host and its clients in both directions, and between a
host and someone who asks for its name.  No serializer checks that the vectors of a
lobby state or of a ping snapshot are of one length; those of the program are. -/
theorem game_packets_delivered (packets : List (protocol znet).Any)
    (hvalid : ∀ packet ∈ packets, Valid packet.1 packet.2) :
    (protocol znet).Delivers localCodec remoteCodec packets ∧
      (protocol znet).Delivers remoteCodec localCodec packets ∧
      ((∀ packet ∈ packets, packet.1 = .serverQueryReq ∨ packet.1 = .serverQueryRes) →
        (protocol znet).Delivers queryCodec localCodec packets ∧
          (protocol znet).Delivers localCodec queryCodec packets) := by
  have hlocal := localCodec_registers znet
  have hremote := remoteCodec_registers znet
  have hquery := queryCodec_registers znet
  have hcarried : ∀ packet ∈ packets, packet.1 ∈ Kind.all ∧
      (znet.serializer packet.1).Faithful packet.2 := fun packet hpacket =>
    ⟨packet.1.mem_all, serializer_faithful znet packet.1 packet.2 (hvalid packet hpacket)⟩
  refine ⟨?_, ?_, fun hasked => ⟨?_, ?_⟩⟩
  · exact Protocol.delivered hlocal hremote packets fun packet hpacket =>
      ⟨(hcarried packet hpacket).1, hcarried packet hpacket⟩
  · exact Protocol.delivered hremote hlocal packets fun packet hpacket =>
      ⟨(hcarried packet hpacket).1, hcarried packet hpacket⟩
  · exact Protocol.delivered hquery hlocal packets fun packet hpacket =>
      ⟨by simpa using hasked packet hpacket, hcarried packet hpacket⟩
  · exact Protocol.delivered hlocal hquery packets fun packet hpacket =>
      ⟨(hcarried packet hpacket).1, by simpa using hasked packet hpacket,
        (hcarried packet hpacket).2⟩

/-- A shot, a lobby state and a keepalive. -/
theorem game_packets_delivered_three :
    (protocol .littleEndian).Delivers localCodec remoteCodec
      [⟨.nodeFire, ({ shooterId := 7, gunType := 2, dirZ := 5 } : PlayerFire)⟩,
        ⟨.lobbyState, ({ playerIds := [7], playerNames := [[65]], playerTeams := [1],
                         playerReadys := [0] } : LobbyState)⟩,
        ⟨.keepAlive, ()⟩] := by
  refine (game_packets_delivered .littleEndian _ ?_).1
  intro packet hpacket
  simp only [List.mem_cons, List.not_mem_nil, or_false] at hpacket
  obtain rfl | rfl | rfl := hpacket
  · trivial
  · exact ⟨rfl, rfl, rfl⟩
  · trivial

end GamePackets
