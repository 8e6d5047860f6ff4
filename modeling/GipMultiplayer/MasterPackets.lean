import GipMultiplayer.Codecs
import GipMultiplayer.ListPackets
import GipMultiplayer.MasterAccounts

/-!
# The packets of the master

The master answers hosts, clients that browse or ask for a room, clients that
want to punch, and players who log in.  Each of these connects with a codec of
its own, which has the few packets it takes; the master has one codec with all
fifteen.

Three packets carry candidates.  These are written and read by the transport,
and reading them may fail; of it is only known that a list it accepts comes
back.  The answer to a room query ends early when there is no such room.

* `CandidateCoder` — the candidates of the transport;
* `Znet.register`, `Znet.queryRoomRes` and the like — the serializers;
* `masterCodec`, `hostCodec`, `browserCodec`, `punchCodec`, `roomQueryCodec`,
  `authCodec` — the codecs;
* `Valid`, `serializer_faithful` — which packets the serializers carry;
* `master_packets_delivered` — the law.
-/

namespace MasterPackets

open Lobby (Bytes SendList)
open Master (Candidate CandidateType PunchExecute PunchRequest QueryRoomRes RegisterPacket
  UserLogin UserLoginRes UserLogout UserRegister UserRegisterRes UserTokenLogin)
open Wire (Buffer Codec Coder Protocol Serializer)

/-- `WriteCandidates` and `ReadCandidates`: a list within the bound is read back. -/
structure CandidateCoder (Address : Type) where
  maxCandidates : Nat
  bytes : List (Candidate Address) → List UInt8
  read : Buffer → Option (List (Candidate Address)) × Buffer
  read_append : ∀ candidates rest, candidates.length ≤ maxCandidates →
    read (.of (bytes candidates ++ rest)) = (some candidates, .of rest)

/-- How the transport writes values. -/
structure Znet (Address : Type) extends Lobby.Znet where
  uint16 : Coder UInt16
  candidates : CandidateCoder Address

/-- The type of a candidate in one byte. -/
def candidateType : Coder CandidateType :=
  (Coder.int .littleEndian UInt8).map
    (fun byte => if byte = 0 then .host else if byte = 1 then .reflexive else .relayed)
    (fun | .host => 0 | .reflexive => 1 | .relayed => 2)
    fun type => by cases type <;> rfl

instance : Nontrivial (Candidate UInt32) :=
  ⟨{ type := .host, address := 0 }, { type := .host, address := 1 }, by decide⟩

/-- A candidate: its type in one byte, its address, its token. -/
def candidate : Coder (Candidate UInt32) where
  bytes c :=
    candidateType.bytes c.type ++
      ((Coder.int .littleEndian UInt32).bytes c.address ++ Coder.varint.bytes c.relayToken)
  read buffer :=
    let (type, buffer) := buffer.get candidateType
    let (address, buffer) := buffer.get (.int .littleEndian UInt32)
    let (relayToken, buffer) := buffer.get .varint
    ({ type, address, relayToken }, buffer)
  read_append c rest := by simp

/-- One way to write values, with at most eight candidates. -/
def Znet.littleEndian : Znet UInt32 where
  toZnet := .littleEndian
  uint16 := .int .littleEndian UInt16
  candidates :=
    { maxCandidates := 8
      bytes := Buffer.countedBytes .varint candidate
      read := fun buffer =>
        let (candidates, buffer) := buffer.getCounted .varint candidate
        (if candidates.length ≤ 8 then some candidates else none, buffer)
      read_append := fun candidates rest h => by simp [h] }

variable {Address : Type} (znet : Znet Address)

/-! ## Hosts and rooms -/

/-- `gMasterRegisterSerializer`. -/
def Znet.register : Serializer (RegisterPacket Address) where
  serializeTyped p buffer :=
    let buffer := buffer.put znet.string p.ip
    let buffer := buffer.put znet.string p.name
    let buffer := buffer.put znet.uint32 p.currentPlayers
    let buffer := buffer.put znet.uint32 p.maxPlayers
    let buffer := buffer.put znet.int p.matchState
    let buffer := buffer.put znet.flag p.isPrivate
    let buffer := buffer.put znet.flag p.hasPassword
    let buffer := buffer.put znet.flag p.isDedicated
    let buffer := buffer.put znet.flag p.useP2P
    some (buffer.write (znet.candidates.bytes p.candidates))
  deserializeTyped buffer :=
    let (ip, buffer) := buffer.get znet.string
    let (name, buffer) := buffer.get znet.string
    let (currentPlayers, buffer) := buffer.get znet.uint32
    let (maxPlayers, buffer) := buffer.get znet.uint32
    let (matchState, buffer) := buffer.get znet.int
    let (isPrivate, buffer) := buffer.get znet.flag
    let (hasPassword, buffer) := buffer.get znet.flag
    let (isDedicated, buffer) := buffer.get znet.flag
    let (useP2P, buffer) := buffer.get znet.flag
    match znet.candidates.read buffer with
    | (none, buffer) => (none, buffer)
    | (some candidates, buffer) =>
        (some { ip, name, currentPlayers, maxPlayers, matchState, isPrivate, hasPassword,
                isDedicated, useP2P, candidates }, buffer)

/-- `gMasterHeartbeatPacket`. -/
structure Heartbeat where
  ip : Bytes := []
  deriving DecidableEq

/-- `gMasterHeartbeatSerializer`. -/
def Znet.heartbeat : Coder Heartbeat where
  bytes p := znet.string.bytes p.ip
  read buffer :=
    let (ip, buffer) := buffer.get znet.string
    ({ ip }, buffer)
  read_append p rest := by simp

/-- `gMasterGetListPacket`. -/
structure GetList where
  matchStateFilter : Int32 := -1
  deriving DecidableEq

/-- `gMasterGetListSerializer`. -/
def Znet.getList : Coder GetList where
  bytes p := znet.int.bytes p.matchStateFilter
  read buffer :=
    let (matchStateFilter, buffer) := buffer.get znet.int
    ({ matchStateFilter }, buffer)
  read_append p rest := by simp

/-- `gMasterSendListSerializer`. -/
def Znet.sendList : Serializer SendList where
  serializeTyped p buffer := some (p.serializeTyped znet.toZnet buffer)
  deserializeTyped := SendList.deserializeTyped znet.toZnet

/-- `gMasterRegisterResponsePacket`, and `gMasterQueryRoomPacket`, whose serializers
are the same. -/
structure RoomCode where
  roomCode : Bytes := []
  deriving DecidableEq

/-- `gMasterRegisterResponseSerializer` and `gMasterQueryRoomSerializer`. -/
def Znet.roomCode : Coder RoomCode where
  bytes p := znet.string.bytes p.roomCode
  read buffer :=
    let (roomCode, buffer) := buffer.get znet.string
    ({ roomCode }, buffer)
  read_append p rest := by simp

/-- `gMasterQueryRoomResSerializer`: nothing follows when no room was found. -/
def Znet.queryRoomRes : Serializer QueryRoomRes where
  serializeTyped p buffer :=
    let buffer := buffer.put znet.string p.roomCode
    let buffer := buffer.put znet.bool p.found
    if p.found then
      let buffer := buffer.put znet.string p.name
      let buffer := buffer.put znet.uint32 p.currentPlayers
      let buffer := buffer.put znet.uint32 p.maxPlayers
      let buffer := buffer.put znet.bool p.hasPassword
      let buffer := buffer.put znet.bool p.isDedicated
      let buffer := buffer.put znet.bool p.useP2P
      some (buffer.put znet.string p.ip)
    else some buffer
  deserializeTyped buffer :=
    let (roomCode, buffer) := buffer.get znet.string
    let (found, buffer) := buffer.get znet.bool
    if found then
      let (name, buffer) := buffer.get znet.string
      let (currentPlayers, buffer) := buffer.get znet.uint32
      let (maxPlayers, buffer) := buffer.get znet.uint32
      let (hasPassword, buffer) := buffer.get znet.bool
      let (isDedicated, buffer) := buffer.get znet.bool
      let (useP2P, buffer) := buffer.get znet.bool
      let (ip, buffer) := buffer.get znet.string
      (some { roomCode, found, name, currentPlayers, maxPlayers, hasPassword, isDedicated,
              useP2P, ip }, buffer)
    else (some { roomCode, found }, buffer)

/-! ## Punching -/

/-- `gMasterPunchRequestSerializer`. -/
def Znet.punchRequest : Serializer (PunchRequest Address) where
  serializeTyped p buffer :=
    let buffer := buffer.put znet.string p.targetIdentifier
    let buffer := buffer.write (znet.candidates.bytes p.candidates)
    some (buffer.put znet.uint16 p.clientGamePort)
  deserializeTyped buffer :=
    let (targetIdentifier, buffer) := buffer.get znet.string
    match znet.candidates.read buffer with
    | (none, buffer) => (none, buffer)
    | (some candidates, buffer) =>
        let (clientGamePort, buffer) := buffer.get znet.uint16
        (some { targetIdentifier, candidates, clientGamePort }, buffer)

/-- `gMasterPunchExecuteSerializer`: the flag is set by the integer 1 and by no
other. -/
def Znet.punchExecute : Serializer (PunchExecute Address) where
  serializeTyped p buffer :=
    let buffer := buffer.write (znet.candidates.bytes p.candidates)
    some (buffer.put znet.int (if p.isHost then 1 else 0))
  deserializeTyped buffer :=
    match znet.candidates.read buffer with
    | (none, buffer) => (none, buffer)
    | (some candidates, buffer) =>
        let (isHost, buffer) := buffer.get znet.int
        (some { candidates, isHost := isHost == 1 }, buffer)

/-! ## Accounts -/

/-- `gMasterUserLoginSerializer`. -/
def Znet.userLogin : Coder UserLogin where
  bytes p := znet.string.bytes p.email ++ znet.string.bytes p.password
  read buffer :=
    let (email, buffer) := buffer.get znet.string
    let (password, buffer) := buffer.get znet.string
    ({ email, password }, buffer)
  read_append p rest := by simp

/-- `gMasterUserLoginResSerializer`. -/
def Znet.userLoginRes : Coder (UserLoginRes Bytes) where
  bytes p :=
    znet.bool.bytes p.success ++ (znet.string.bytes p.message ++
      (znet.string.bytes p.username ++ znet.string.bytes p.token))
  read buffer :=
    let (success, buffer) := buffer.get znet.bool
    let (message, buffer) := buffer.get znet.string
    let (username, buffer) := buffer.get znet.string
    let (token, buffer) := buffer.get znet.string
    ({ success, message, username, token }, buffer)
  read_append p rest := by simp

/-- `gMasterUserRegisterSerializer`. -/
def Znet.userRegister : Coder UserRegister where
  bytes p :=
    znet.string.bytes p.username ++ (znet.string.bytes p.email ++ znet.string.bytes p.password)
  read buffer :=
    let (username, buffer) := buffer.get znet.string
    let (email, buffer) := buffer.get znet.string
    let (password, buffer) := buffer.get znet.string
    ({ username, email, password }, buffer)
  read_append p rest := by simp

/-- `gMasterUserRegisterResSerializer`. -/
def Znet.userRegisterRes : Coder (UserRegisterRes Bytes) where
  bytes p :=
    znet.bool.bytes p.success ++ (znet.string.bytes p.message ++ znet.string.bytes p.token)
  read buffer :=
    let (success, buffer) := buffer.get znet.bool
    let (message, buffer) := buffer.get znet.string
    let (token, buffer) := buffer.get znet.string
    ({ success, message, token }, buffer)
  read_append p rest := by simp

/-- `gMasterUserTokenLoginSerializer`. -/
def Znet.userTokenLogin : Coder UserTokenLogin where
  bytes p := znet.string.bytes p.email ++ znet.string.bytes p.token
  read buffer :=
    let (email, buffer) := buffer.get znet.string
    let (token, buffer) := buffer.get znet.string
    ({ email, token }, buffer)
  read_append p rest := by simp

/-- `gMasterUserLogoutSerializer`. -/
def Znet.userLogout : Coder UserLogout where
  bytes p := znet.string.bytes p.email ++ znet.string.bytes p.token
  read buffer :=
    let (email, buffer) := buffer.get znet.string
    let (token, buffer) := buffer.get znet.string
    ({ email, token }, buffer)
  read_append p rest := by simp

/-! ## The protocol -/

/-- `MasterPacketId`. -/
inductive Kind
  | register
  | heartbeat
  | getList
  | sendList
  | registerRes
  | punchReq
  | punchExec
  | queryRoom
  | queryRoomRes
  | userLogin
  | userLoginRes
  | userRegister
  | userRegisterRes
  | userTokenLogin
  | userLogout
  deriving DecidableEq

/-- The class of the packets of a kind. -/
def Kind.Packet (Address : Type) : Kind → Type
  | .register => RegisterPacket Address
  | .heartbeat => Heartbeat
  | .getList => GetList
  | .sendList => SendList
  | .registerRes => RoomCode
  | .punchReq => PunchRequest Address
  | .punchExec => PunchExecute Address
  | .queryRoom => RoomCode
  | .queryRoomRes => QueryRoomRes
  | .userLogin => UserLogin
  | .userLoginRes => UserLoginRes Bytes
  | .userRegister => UserRegister
  | .userRegisterRes => UserRegisterRes Bytes
  | .userTokenLogin => UserTokenLogin
  | .userLogout => UserLogout

/-- The id that the packets of a kind carry. -/
def Kind.id (kind : Kind) : Nat := 300 + kind.ctorIdx

/-- The serializers of a kind. -/
def Znet.serializer : ∀ kind : Kind, Serializer (kind.Packet Address)
  | .register => znet.register
  | .heartbeat => znet.heartbeat.serializer
  | .getList => znet.getList.serializer
  | .sendList => znet.sendList
  | .registerRes => znet.roomCode.serializer
  | .punchReq => znet.punchRequest
  | .punchExec => znet.punchExecute
  | .queryRoom => znet.roomCode.serializer
  | .queryRoomRes => znet.queryRoomRes
  | .userLogin => znet.userLogin.serializer
  | .userLoginRes => znet.userLoginRes.serializer
  | .userRegister => znet.userRegister.serializer
  | .userRegisterRes => znet.userRegisterRes.serializer
  | .userTokenLogin => znet.userTokenLogin.serializer
  | .userLogout => znet.userLogout.serializer

/-- The packets of a connection to the master. -/
def protocol : Protocol Kind where
  Packet := Kind.Packet Address
  id := Kind.id
  serializer := znet.serializer

/-! ## Codecs -/

/-- The packets the program builds: no more candidates than the transport takes,
and nothing said of a room that was not found. -/
def Valid : ∀ kind : Kind, kind.Packet Address → Prop
  | .register, p => p.candidates.length ≤ znet.candidates.maxCandidates
  | .punchReq, p => p.candidates.length ≤ znet.candidates.maxCandidates
  | .punchExec, p => p.candidates.length ≤ znet.candidates.maxCandidates
  | .queryRoomRes, p => p.found = false → p = { roomCode := p.roomCode }
  | _, _ => True

/-- A registration is carried. -/
theorem register_faithful {p : RegisterPacket Address}
    (h : p.candidates.length ≤ znet.candidates.maxCandidates) : znet.register.Faithful p := by
  have hread := znet.candidates.read_append p.candidates [] h
  rw [List.append_nil] at hread
  refine ⟨znet.string.bytes p.ip ++ (znet.string.bytes p.name ++
    (znet.uint32.bytes p.currentPlayers ++ (znet.uint32.bytes p.maxPlayers ++
      (znet.int.bytes p.matchState ++ (znet.flag.bytes p.isPrivate ++
        (znet.flag.bytes p.hasPassword ++ (znet.flag.bytes p.isDedicated ++
          (znet.flag.bytes p.useP2P ++ znet.candidates.bytes p.candidates)))))))),
    fun before => ?_, ?_⟩
  · simp [Znet.register]
  · simp [Znet.register, hread]

/-- A punch request is carried. -/
theorem punchRequest_faithful {p : PunchRequest Address}
    (h : p.candidates.length ≤ znet.candidates.maxCandidates) :
    znet.punchRequest.Faithful p := by
  have hread := znet.candidates.read_append p.candidates (znet.uint16.bytes p.clientGamePort) h
  have hport := Buffer.get_append znet.uint16 p.clientGamePort []
  rw [List.append_nil] at hport
  refine ⟨znet.string.bytes p.targetIdentifier ++ (znet.candidates.bytes p.candidates ++
    znet.uint16.bytes p.clientGamePort), fun before => ?_, ?_⟩
  · simp [Znet.punchRequest]
  · simp [Znet.punchRequest, hread, hport]

/-- The order to punch is carried. -/
theorem punchExecute_faithful {p : PunchExecute Address}
    (h : p.candidates.length ≤ znet.candidates.maxCandidates) :
    znet.punchExecute.Faithful p := by
  have hread := znet.candidates.read_append p.candidates
    (znet.int.bytes (if p.isHost then 1 else 0)) h
  have hflag := Buffer.get_append znet.int (if p.isHost then 1 else 0) []
  rw [List.append_nil] at hflag
  have hhost : ((if p.isHost then 1 else 0 : Int32) == 1) = p.isHost := by
    cases p.isHost <;> rfl
  refine ⟨znet.candidates.bytes p.candidates ++ znet.int.bytes (if p.isHost then 1 else 0),
    fun before => ?_, ?_⟩
  · simp [Znet.punchExecute]
  · simp only [Znet.punchExecute, hread, hflag, hhost]

/-- The answer to a room query is carried, of a room that was found or not. -/
theorem queryRoomRes_faithful {p : QueryRoomRes}
    (h : p.found = false → p = { roomCode := p.roomCode }) : znet.queryRoomRes.Faithful p := by
  cases hfound : p.found with
  | true =>
      have hip := Buffer.get_append znet.string p.ip []
      rw [List.append_nil] at hip
      refine ⟨znet.string.bytes p.roomCode ++ (znet.bool.bytes true ++
        (znet.string.bytes p.name ++ (znet.uint32.bytes p.currentPlayers ++
          (znet.uint32.bytes p.maxPlayers ++ (znet.bool.bytes p.hasPassword ++
            (znet.bool.bytes p.isDedicated ++ (znet.bool.bytes p.useP2P ++
              znet.string.bytes p.ip))))))), fun before => ?_, ?_⟩
      · simp [Znet.queryRoomRes, hfound]
      · simp [Znet.queryRoomRes, hip, ← hfound]
  | false =>
      have hflag := Buffer.get_append znet.bool false []
      rw [List.append_nil] at hflag
      refine ⟨znet.string.bytes p.roomCode ++ znet.bool.bytes false, fun before => ?_, ?_⟩
      · simp [Znet.queryRoomRes, hfound]
      · simp only [Znet.queryRoomRes, Buffer.get_append, hflag, Bool.false_eq_true, if_false]
        rw [h hfound]

/-- **Every valid packet is carried** by the serializers of its kind. -/
theorem serializer_faithful (kind : Kind) (p : kind.Packet Address) (h : Valid znet kind p) :
    (znet.serializer kind).Faithful p := by
  cases kind with
  | register => exact register_faithful znet h
  | punchReq => exact punchRequest_faithful znet h
  | punchExec => exact punchExecute_faithful znet h
  | queryRoomRes => exact queryRoomRes_faithful znet h
  | sendList =>
      refine ⟨_, fun before => congrArg some (p.serializeTyped_of znet.toZnet before), ?_⟩
      have hread := SendList.deserialize_serialize znet.toZnet p []
      rwa [p.serializeTyped_of, Buffer.write_of, List.append_nil, List.nil_append] at hread
  | heartbeat => exact Coder.serializer_faithful _ p
  | getList => exact Coder.serializer_faithful _ p
  | registerRes => exact Coder.serializer_faithful _ p
  | queryRoom => exact Coder.serializer_faithful _ p
  | userLogin => exact Coder.serializer_faithful _ p
  | userLoginRes => exact Coder.serializer_faithful _ p
  | userRegister => exact Coder.serializer_faithful _ p
  | userRegisterRes => exact Coder.serializer_faithful _ p
  | userTokenLogin => exact Coder.serializer_faithful _ p
  | userLogout => exact Coder.serializer_faithful _ p

end MasterPackets
