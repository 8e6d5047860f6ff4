import GipMultiplayer.Exec
import GipMultiplayer.MasterAccounts
import Mathlib.Algebra.Order.Field.Rat

/-!
# The rooms of the master server

The list of game servers that the master keeps for its browser and for punch
requests: registration under the address the master observes with the port the
host advertises, heartbeats, the server list, room queries, punch requests, and
the pruning of hosts that went silent or away.

The socket library is a parameter: what it makes of an address.  Beside the
state of the master stand the room codes it has handed out, each with the
session it went to.

* `registerServer`, `heartbeat`, `getList`, `queryRoom`, `punchRequest` — the packet
  handlers;
* `pruneServers` — the list part of `gMasterServerApp::update`;
* `roomStep` — one action of the master or of its sessions.
-/

namespace Master

/-! ## Addresses and candidates -/

/-- What the socket library makes of addresses: `WithPort`, `readable`,
`InetAddress::from`, and the number of candidates of an offer. -/
structure Inet (Address : Type) where
  withPort : Address → UInt16 → Address
  readable : Address → Bytes
  fromText : Bytes → UInt16 → Option Address
  maxCandidates : Nat

/-- `CandidateType`. -/
inductive CandidateType
  | host | reflexive | relayed
  deriving DecidableEq, Repr

/-- `znet::p2p::Candidate`. -/
structure Candidate (Address : Type) where
  type : CandidateType
  address : Address
  relayToken : Nat := 0
  deriving DecidableEq, Repr

/-- `std::stoi`: none where it throws. -/
def stoi (text : Bytes) : Option Int :=
  let digits (text : Bytes) : Option Int :=
    match text.takeWhile fun c => 48 ≤ c && c ≤ 57 with
    | [] => none
    | ds => some (ds.foldl (fun acc c => 10 * acc + (c.toNat - 48 : Nat)) 0)
  let value :=
    match text.dropWhile isSpace with
    | 45 :: rest => (digits rest).map (-·)
    | 43 :: rest => digits rest
    | rest => digits rest
  value.filter fun n => -2147483648 ≤ n && n ≤ 2147483647

/-- `SplitHostPort`: the halves of `ip:port`, at the last colon. -/
def splitHostPort (text : Bytes) : Option (Bytes × UInt16) :=
  match text.reverse.findIdx? (· = 58) with
  | none => none
  | some after =>
      let colon := text.length - 1 - after
      match stoi (text.drop (colon + 1)) with
      | none => none
      | some parsed =>
          if parsed < 0 || parsed > 65535 then none
          else some (text.take colon, UInt16.ofNat parsed.toNat)

section

variable {Address : Type}

/-- `PeerAddresses`: the observed address, then the host's own networks. -/
def peerAddresses (inet : Inet Address) (observed : Bytes)
    (candidates : List (Candidate Address)) : List Bytes :=
  observed :: (((candidates.filter (·.type = .host)).map fun c => inet.readable c.address).filter
    (· ≠ observed))

/-- The host candidates of an offer, each unless its address is known. -/
def offerHosts (inet : Inet Address) (out : List (Candidate Address)) :
    List (Candidate Address) → List (Candidate Address)
  | [] => out
  | c :: gathered =>
      if c.type = .host && !out.any (fun o => inet.readable o.address = inet.readable c.address)
      then offerHosts inet (out ++ [c]) gathered
      else offerHosts inet out gathered

/-- `BuildOffer`: what one side is told to punch. -/
def buildOffer (inet : Inet Address) (observedIp : Bytes) (punchPort : UInt16)
    (gathered : List (Candidate Address)) (relayed : Option (Candidate Address)) :
    List (Candidate Address) :=
  let reflexive := gathered.filter (·.type = .reflexive)
  let out :=
    if reflexive.isEmpty then
      match inet.fromText observedIp punchPort with
      | some address => [{ type := .reflexive, address := address }]
      | none => []
    else reflexive
  let out := offerHosts inet out gathered
  out.take (inet.maxCandidates - 1) ++ relayed.toList

end

/-! ## Room codes -/

/-- The characters of a room code. -/
def codeCharset : Bytes :=
  [65, 66, 67, 68, 69, 70, 71, 72, 73, 74, 75, 76, 77, 78, 79, 80, 81, 82, 83, 84, 85, 86, 87, 88,
   89, 90, 48, 49, 50, 51, 52, 53, 54, 55, 56, 57]

/-- What `GenerateRoomCode` can return. -/
abbrev RoomCode := { code : Bytes // code.length = 6 ∧ ∀ c ∈ code, c ∈ codeCharset }

/-! ## Packets and the server list -/

/-- The number of a control session. -/
abbrev SessionId := Nat

/-- `gServerInfo`; the host session is the number of a session that may be
gone. -/
structure ServerInfo (Address : Type) where
  ip : Bytes
  peerCandidates : List Bytes
  candidates : List (Candidate Address)
  name : Bytes
  currentPlayers : UInt32
  maxPlayers : UInt32
  matchState : Int32
  lastHeartbeat : ℚ := 0
  isPrivate : Bool
  hasPassword : Bool
  isDedicated : Bool
  useP2P : Bool
  roomCode : Bytes
  hostSession : SessionId

/-- `gMasterRegisterPacket`. -/
structure RegisterPacket (Address : Type) where
  ip : Bytes := []
  name : Bytes := []
  currentPlayers : UInt32 := 0
  maxPlayers : UInt32 := 0
  matchState : Int32 := 0
  isPrivate : Bool := false
  hasPassword : Bool := false
  isDedicated : Bool := false
  useP2P : Bool := false
  candidates : List (Candidate Address) := []

/-- `gMasterPunchRequestPacket`. -/
structure PunchRequest (Address : Type) where
  targetIdentifier : Bytes
  candidates : List (Candidate Address) := []
  clientGamePort : UInt16 := 0

/-- `gMasterPunchExecutePacket`. -/
structure PunchExecute (Address : Type) where
  candidates : List (Candidate Address) := []
  isHost : Bool := false

/-- `gMasterQueryRoomResPacket`. -/
structure QueryRoomRes where
  roomCode : Bytes
  found : Bool := false
  name : Bytes := []
  currentPlayers : UInt32 := 0
  maxPlayers : UInt32 := 0
  hasPassword : Bool := false
  isDedicated : Bool := false
  useP2P : Bool := false
  ip : Bytes := []
  deriving DecidableEq, Repr

section

variable {Address : Type}

/-- `GenerateUniqueRoomCode`, drawing the codes `draw`: the first of 32 draws
that no room has, or else one more draw, whatever it is. -/
def generateUniqueRoomCode (draw : Nat → RoomCode) (serverList : List (ServerInfo Address)) :
    Bytes :=
  match (List.range 32).find? fun attempt =>
      serverList.all fun s => s.roomCode ≠ (draw attempt).val with
  | some attempt => (draw attempt).val
  | none => (draw 32).val

/-- The address that the master observes of a session, with the port of a
packet; `25000` where the packet names none. -/
def observedAddress (inet : Inet Address) (remote : Address) (ip : Bytes) : Bytes :=
  inet.readable (inet.withPort remote (((splitHostPort ip).map (·.2)).getD 25000))

/-- Change the first server of an address. -/
def modifyServer (ip : Bytes) (f : ServerInfo Address → ServerInfo Address) :
    List (ServerInfo Address) → List (ServerInfo Address)
  | [] => []
  | s :: rest => if s.ip = ip then f s :: rest else s :: modifyServer ip f rest

/-- What a register packet writes over a server that is listed. -/
def ServerInfo.refresh (inet : Inet Address) (p : RegisterPacket Address) (session : SessionId)
    (s : ServerInfo Address) : ServerInfo Address :=
  { s with
    name := p.name
    currentPlayers := p.currentPlayers
    maxPlayers := p.maxPlayers
    matchState := p.matchState
    isPrivate := p.isPrivate
    hasPassword := p.hasPassword
    isDedicated := p.isDedicated
    useP2P := p.useP2P
    hostSession := session
    lastHeartbeat := 0
    peerCandidates := peerAddresses inet s.ip p.candidates
    candidates := p.candidates }

/-- The server that a register packet lists. -/
def ServerInfo.new (inet : Inet Address) (p : RegisterPacket Address) (session : SessionId)
    (ip roomCode : Bytes) : ServerInfo Address where
  ip := ip
  peerCandidates := peerAddresses inet ip p.candidates
  candidates := p.candidates
  name := p.name
  currentPlayers := p.currentPlayers
  maxPlayers := p.maxPlayers
  matchState := p.matchState
  isPrivate := p.isPrivate
  hasPassword := p.hasPassword
  isDedicated := p.isDedicated
  useP2P := p.useP2P
  roomCode := roomCode
  hostSession := session

/-- The register handler: the server list after it and the room code of the
response. -/
def registerServer (inet : Inet Address) (draw : Nat → RoomCode) (session : SessionId)
    (remote : Address) (serverList : List (ServerInfo Address)) (p : RegisterPacket Address) :
    List (ServerInfo Address) × Bytes :=
  let actualIp := observedAddress inet remote p.ip
  match serverList.find? (·.ip = actualIp) with
  | some s => (modifyServer actualIp (ServerInfo.refresh inet p session) serverList, s.roomCode)
  | none =>
      let assignedRoomCode := generateUniqueRoomCode draw serverList
      (serverList ++ [ServerInfo.new inet p session actualIp assignedRoomCode], assignedRoomCode)

/-- The heartbeat handler: the server list after it. -/
def heartbeat (inet : Inet Address) (remote : Address) (serverList : List (ServerInfo Address))
    (ip : Bytes) : List (ServerInfo Address) :=
  modifyServer (observedAddress inet remote ip) (fun s => { s with lastHeartbeat := 0 }) serverList

/-- The server list handler: the servers of the reply. -/
def getList (inet : Inet Address) (remote : Address) (serverList : List (ServerInfo Address))
    (matchStateFilter : Int32) : List (ServerInfo Address) :=
  let clientPublicIp := clientIp (inet.readable remote)
  (serverList.filter fun s =>
      !s.isPrivate && (matchStateFilter = -1 || s.matchState = matchStateFilter)).map fun s =>
    match s.peerCandidates with
    | _ :: privateIp :: _ =>
        if s.isDedicated && clientIp s.ip = clientPublicIp then { s with ip := privateIp } else s
    | _ => s

/-- The room query handler: the reply. -/
def queryRoom (serverList : List (ServerInfo Address)) (roomCode : Bytes) : QueryRoomRes :=
  match serverList.find? (·.roomCode = roomCode) with
  | none => { roomCode := roomCode }
  | some s =>
      { roomCode := roomCode, found := true, name := s.name, currentPlayers := s.currentPlayers,
        maxPlayers := s.maxPlayers, hasPassword := s.hasPassword, isDedicated := s.isDedicated,
        useP2P := s.useP2P, ip := s.ip }

/-- A server answers to its room code, its address and those of its peers. -/
def ServerInfo.answersTo (s : ServerInfo Address) (targetIdentifier : Bytes) : Bool :=
  (s.roomCode = targetIdentifier || s.ip = targetIdentifier) ||
    s.peerCandidates.any (· = targetIdentifier)

/-- The punch request handler: the packets it sends, each with the session it
goes to.  `alive` tells which host sessions are there, and `relayed` is the
candidate of the relay, if there is one that allocates. -/
def punchRequest (inet : Inet Address) (alive : SessionId → Bool)
    (relayed : Option (Candidate Address)) (client : SessionId) (remote : Address)
    (serverList : List (ServerInfo Address)) (p : PunchRequest Address) :
    List (SessionId × PunchExecute Address) :=
  match serverList.find? (·.answersTo p.targetIdentifier) with
  | none => []
  | some target =>
      if alive target.hostSession then
        let clientPublicIp := clientIp (inet.readable remote)
        let host := (splitHostPort target.ip).getD ([], 0)
        [ (target.hostSession,
            { candidates := buildOffer inet clientPublicIp p.clientGamePort p.candidates relayed
              isHost := true }),
          (client,
            { candidates := buildOffer inet host.1 host.2 target.candidates relayed
              isHost := false }) ]
      else []

/-- The pruning of `gMasterServerApp::update`. -/
def pruneServers (alive : SessionId → Bool) (deltaTime : ℚ) (serverList : List (ServerInfo Address)) :
    List (ServerInfo Address) :=
  (serverList.map fun s => { s with lastHeartbeat := s.lastHeartbeat + deltaTime }).filter fun s =>
    alive s.hostSession && s.lastHeartbeat ≤ 30

/-! ## The system -/

/-- A control session. -/
structure ControlSession (Address : Type) where
  id : SessionId
  remote : Address
  alive : Bool := true

/-- A register response that the master has sent: the code, the session it
went to and the address the session was observed under.  `quiet` is the time
since the session last registered or sent a heartbeat under that address, and
`kept` tells that it never exceeded the timeout. -/
structure Response where
  code : Bytes
  host : SessionId
  ip : Bytes
  quiet : ℚ := 0
  kept : Bool := true
  deriving DecidableEq

/-- The rooms of the master: its control sessions, the server list, the
responses it has sent and the room codes it has drawn for new rooms. -/
structure Rooms (Address : Type) where
  sessions : List (ControlSession Address) := []
  serverList : List (ServerInfo Address) := []
  responses : List Response := []
  codes : List Bytes := []

/-- The live session of a number. -/
def Rooms.session? (s : Rooms Address) (id : SessionId) : Option (ControlSession Address) :=
  s.sessions.find? fun session => session.id = id && session.alive

/-- A session is there. -/
def Rooms.alive (s : Rooms Address) (id : SessionId) : Bool := (s.session? id).isSome

/-- What can happen to the rooms. -/
inductive RoomAction (Address : Type)
  | connect (id : SessionId) (remote : Address)
  | disconnect (id : SessionId)
  | register (id : SessionId) (p : RegisterPacket Address) (draw : Nat → RoomCode)
  | heartbeat (id : SessionId) (ip : Bytes)
  | punchRequest (id : SessionId) (p : PunchRequest Address)
  | update (deltaTime : ℚ)

/-- A session was heard of under an address. -/
def Response.heard (host : SessionId) (ip : Bytes) (r : Response) : Response :=
  if r.host = host ∧ r.ip = ip then { r with quiet := 0 } else r

/-- Time passes without a sign of the host. -/
def Response.wait (deltaTime : ℚ) (r : Response) : Response :=
  { r with quiet := r.quiet + deltaTime, kept := r.kept && r.quiet + deltaTime ≤ 30 }

/-- One action.  A session has a number of its own, and only live sessions
send packets; time does not run backwards. -/
def roomStep (inet : Inet Address) (s : Rooms Address) : RoomAction Address → Option (Rooms Address)
  | .connect id remote =>
      if s.sessions.any (·.id = id) then none
      else some { s with sessions := s.sessions ++ [{ id := id, remote := remote }] }
  | .disconnect id =>
      some { s with
        sessions := s.sessions.map fun session =>
          if session.id = id then { session with alive := false } else session }
  | .register id p draw =>
      (s.session? id).map fun session =>
        let ip := observedAddress inet session.remote p.ip
        let (serverList, code) := registerServer inet draw id session.remote s.serverList p
        { s with
          serverList := serverList
          responses := s.responses.map (Response.heard id ip) ++
            [{ code := code, host := id, ip := ip }]
          codes :=
            if s.serverList.any (·.ip = ip) then s.codes else s.codes ++ [code] }
  | .heartbeat id ip =>
      (s.session? id).map fun session =>
        { s with
          serverList := heartbeat inet session.remote s.serverList ip
          responses := s.responses.map
            (Response.heard id (observedAddress inet session.remote ip)) }
  | .punchRequest id _ => (s.session? id).map fun _ => s
  | .update deltaTime =>
      if 0 ≤ deltaTime then
        some { s with
          serverList := pruneServers s.alive deltaTime s.serverList
          responses := s.responses.map (Response.wait deltaTime) }
      else none

end

end Master
