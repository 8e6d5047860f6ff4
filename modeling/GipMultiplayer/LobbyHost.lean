import GipMultiplayer.Exec
import GipMultiplayer.VoiceRouter
import GipMultiplayer.WhileLoop

/-!
# The lobby host

The host side of a lobby: the sessions of its clients with the player id each
is tagged with, the packet handlers of the network thread
(`ServerPacketHandler`), the packet queue, the main thread that drains it
(`GameBackend::onPacketReceived`), the sweep of dead sessions, kicks, and the
publication of voice membership (`syncVoicePeerStates`).

What the host hands to the outside is written down: the chat messages relayed,
the leaves announced and the pings reported, each with the session it came
from.  Positions of players, lobby state packets and the other packets copied
to clients are left out; they change no state of the host.

* `onPacket` — one packet on one session, on the network thread;
* `onPacketReceived` — one queued packet, on the main thread;
* `syncVoicePeerStates` — the voice membership of the room;
* `step` — one action of the host;
* `step_performed` — what a step does, with what enables it.
-/

namespace Lobby

open Voice (ConnectionId TimePoint PeerState Router UplinkPacket)

/-- A `std::string`. -/
abbrev Bytes := List UInt8

/-- `LOCAL_HOST_VOICE_CONN_ID`. -/
def localHostVoiceConnId : ConnectionId := 0xFFFFFFFFFFFFFFFF

/-! ## Packets -/

/-- `CHAT_ALL`. -/
def chatAll : UInt8 := 0

/-- `CHAT_TEAM`. -/
def chatTeam : UInt8 := 1

/-- `CHAT_PRIVATE`. -/
def chatPrivate : UInt8 := 2

/-- `ChatManager::MAX_TEXT_LENGTH`. -/
def maxTextLength : Nat := 200

/-- `ChatMessagePacket`. -/
structure ChatMessage where
  senderId : UInt32 := 0
  targetId : UInt32 := 0
  channel : UInt8 := chatAll
  senderName : Bytes := []
  text : Bytes := []
  deriving DecidableEq, Repr

/-- What a `NodeStatePacket` says about its player: position and yaw, as the
bits of the floats, team and animation. -/
structure NodeState where
  x : UInt32 := 0
  y : UInt32 := 0
  z : UInt32 := 0
  yaw : UInt32 := 0
  team : UInt8 := 0
  animState : UInt8 := 0
  deriving DecidableEq, Repr

/-- The packets of a client session; `other` is any packet the handler has no
case for. -/
inductive Packet
  | nodeState (netid : UInt32) (state : NodeState := {})
  | nodeLeave (netid : UInt32)
  | playerFire (shooterId : UInt32)
  | playerHit (attackerId victimId : UInt32)
  | playerKilled (killerId victimId : UInt32)
  | serverQueryReq
  | lobbyJoin (senderId : UInt32) (playerName password : Bytes)
  | toggleReady (senderId : UInt32)
  | switchTeam (senderId : UInt32) (teamId : UInt8)
  | startMatch
  | keepAlive
  | ping (timestamp : UInt64) (reportedPing : UInt32)
  | pong (timestamp : UInt64)
  | chatMessage (message : ChatMessage)
  | voiceUplink (packet : UplinkPacket)
  | other

/-- A packet of the main thread's queue, with the session it arrived on; the
host's own packets have none. -/
structure Queued where
  packet : Packet
  origin : Option ConnectionId := none

/-! ## State -/

/-- A client session.  The user pointer is its `tag`; an adopted session, as
opposed to one of the query server, is `listed` in `sessions` until it is
erased.  `joined` records the sender id of its first accepted join. -/
structure Session where
  id : ConnectionId
  adopted : Bool := true
  listed : Bool := true
  alive : Bool := true
  tag : Option UInt32 := none
  joined : Option UInt32 := none
  deriving DecidableEq

/-- `RoomPlayerInfo`. -/
structure RoomPlayerInfo where
  id : UInt32 := 0
  name : Bytes := []
  team : UInt8 := 0
  isReady : Bool := false
  deriving DecidableEq, Repr

/-- A chat message the host has relayed, with the session it came from and the
sessions it was sent to. -/
structure Relay where
  origin : Option ConnectionId
  message : ChatMessage
  recipients : List ConnectionId
  deriving DecidableEq

/-- What is fixed for the lifetime of a lobby. -/
structure HostConfig where
  isDedicatedServer : Bool := false
  isPrivateServer : Bool := false
  serverPassword : Bytes := []
  lobbyTeamSize : UInt8 := 2
  localNodeId : UInt32
  localPlayerName : Bytes := []
  voiceSessionId : UInt64 := 1000

/-- The host, with what it has handed out: the chat it relayed, the leaves it
announced and the pings it reported, each with the session that caused it.
`synced` says that the last action was a lobby broadcast whose every
`setPeerState` succeeded. -/
structure Host where
  sessions : List Session := []
  packetQueue : List Queued := []
  batch : List Queued := []
  roomPlayers : List RoomPlayerInfo := []
  chatRateStamps : AList (fun _ : UInt32 => List ℚ) := ∅
  hostPlayerPings : AList (fun _ : UInt32 => Int) := ∅
  matchInProgress : Bool := false
  localTeam : UInt8 := 1
  loggedInUsername : Bytes := []
  voiceRouter : Router := {}
  relayed : List Relay := []
  leaves : List (ConnectionId × UInt32) := []
  pings : List (ConnectionId × UInt32) := []
  synced : Bool := false

/-- What an action takes from outside: the voice clock, the outcome of each
voice control send, and the chat rate clock in seconds. -/
structure Env where
  now : TimePoint := 0
  sendOk : ConnectionId → Bool := fun _ => true
  clock : ℚ := 0

/-! ## Sessions -/

/-- The session with the given id. -/
def Host.session? (host : Host) (c : ConnectionId) : Option Session :=
  host.sessions.find? (·.id == c)

/-- Change one session. -/
def Host.modifySession (host : Host) (c : ConnectionId) (f : Session → Session) : Host :=
  { host with sessions := host.sessions.map fun s => if s.id = c then f s else s }

/-- `SetUserPointer`. -/
def Session.retag (session : Session) (id : UInt32) : Session :=
  { session with tag := some id }

/-- An accepted join tags its session; the first one is remembered. -/
def Session.acceptJoin (session : Session) (id : UInt32) : Session :=
  { session with tag := some id, joined := session.joined.or (some id) }

/-- `enqueuePacket`. -/
def Host.enqueuePacket (host : Host) (packet : Packet) (origin : Option ConnectionId) : Host :=
  { host with packetQueue := host.packetQueue ++ [⟨packet, origin⟩] }

/-! ## Voice membership -/

/-- The membership granted to a player of a team. -/
def peerState (config : HostConfig) (playerid : UInt32) (team : UInt8) : PeerState :=
  { playerid := playerid.toUInt64
    teamid := team.toUInt64
    sessionid := config.voiceSessionId
    cantransmit := true
    canreceive := true }

/-- The id the host publishes itself under: the room entry that carries the
logged-in name, or `1`. -/
def hostId (host : Host) : UInt32 :=
  match host.roomPlayers.find? fun rp =>
      host.loggedInUsername ≠ [] ∧ rp.name = host.loggedInUsername with
  | some rp => rp.id
  | none => 1

/-- The id a session is looked up with in the room: its tag, or its own id. -/
def Session.pid (session : Session) : UInt32 :=
  match session.tag with
  | some tag => if tag ≠ 0 then tag else session.id.toUInt32
  | none => session.id.toUInt32

/-- The membership of a session: the first room entry with its player id or
with its connection id, else its id in team `0`. -/
def sessionPeerState (config : HostConfig) (roomPlayers : List RoomPlayerInfo)
    (session : Session) : PeerState :=
  match roomPlayers.find? fun rp => rp.id = session.pid ∨ rp.id.toUInt64 = session.id with
  | some rp => peerState config rp.id rp.team
  | none => peerState config session.pid 0

/-- One `setPeerState`, remembering whether all so far succeeded.  The local
host's own callback always succeeds. -/
def publish (env : Env) (acc : Router × Bool) (c : ConnectionId) (state : PeerState) :
    Router × Bool :=
  let (router, result, _) :=
    Voice.setPeerState acc.1 env.now c state (c = localHostVoiceConnId ∨ env.sendOk c)
  (router, acc.2 && result)

/-- `syncVoicePeerStates`: the router, and whether every `setPeerState`
succeeded. -/
def syncVoicePeerStates (config : HostConfig) (env : Env) (host : Host) : Router × Bool :=
  if config.voiceSessionId = 0 then (host.voiceRouter, true)
  else
    let acc := (host.voiceRouter, true)
    let acc :=
      if config.isDedicatedServer then acc
      else publish env acc localHostVoiceConnId (peerState config (hostId host) host.localTeam)
    (host.sessions.filter fun s => s.listed ∧ s.alive).foldl
      (fun acc s => publish env acc s.id (sessionPeerState config host.roomPlayers s)) acc

/-- The voice router after `syncVoicePeerStates`. -/
def Host.sync (config : HostConfig) (env : Env) (host : Host) : Host :=
  { host with voiceRouter := (syncVoicePeerStates config env host).1 }

/-- `broadcastLobbyState`. -/
def broadcastLobbyState (config : HostConfig) (env : Env) (host : Host) : Host :=
  { host.sync config env with synced := (syncVoicePeerStates config env host).2 }

/-! ## The network thread -/

/-- `reportPlayerPing`, with the session that reported it. -/
def Host.reportPlayerPing (host : Host) (c : ConnectionId) (playerId : UInt32) (pingMs : Int) :
    Host :=
  { host with
    hostPlayerPings := host.hostPlayerPings.insert playerId pingMs
    pings := host.pings ++ [(c, playerId)] }

/-- `ServerPacketHandler::OnPacket`, by packet type. -/
def onPacket (config : HostConfig) (env : Env) (host : Host) (session : Session) :
    Packet → Host
  | .nodeState netid state =>
      (host.enqueuePacket (.nodeState netid state) session.id).modifySession session.id
        (·.retag netid)
  | .lobbyJoin senderId playerName password =>
      if config.isPrivateServer ∧ config.serverPassword ≠ password then host
      else
        ((host.enqueuePacket (.lobbyJoin senderId playerName password) session.id).modifySession
          session.id (·.acceptJoin senderId)).sync config env
  | .ping _ reportedPing =>
      match session.tag with
      | some id =>
          if id ≠ 0 then host.reportPlayerPing session.id id reportedPing.toInt32.toInt else host
      | none => host
  | .chatMessage message =>
      -- anti-spoof: the sender is whoever the session was tagged as
      host.enqueuePacket
        (.chatMessage { message with senderId := session.tag.getD message.senderId }) session.id
  | .voiceUplink packet =>
      { host with
        voiceRouter :=
          (Voice.handleVoicePacket host.voiceRouter env.now session.id packet env.sendOk).1 }
  | .playerFire shooterId => host.enqueuePacket (.playerFire shooterId) session.id
  | .playerHit attackerId victimId =>
      host.enqueuePacket (.playerHit attackerId victimId) session.id
  | .playerKilled killerId victimId =>
      host.enqueuePacket (.playerKilled killerId victimId) session.id
  | .toggleReady senderId => host.enqueuePacket (.toggleReady senderId) session.id
  | .switchTeam senderId teamId => host.enqueuePacket (.switchTeam senderId teamId) session.id
  | .startMatch => host.enqueuePacket .startMatch session.id
  | .keepAlive => host.enqueuePacket .keepAlive session.id
  | .serverQueryReq | .pong _ | .nodeLeave _ | .other => host

/-- `onPeerConnected` and `adoptSession` for a session of the listener or of a
punch; a session of the query server only gets its handler. -/
def connect (config : HostConfig) (env : Env) (host : Host) (c : ConnectionId)
    (adopted zdt : Bool) : Host :=
  let host := { host with
    sessions := host.sessions ++ [{ id := c, adopted := adopted, listed := adopted }] }
  if adopted then
    ({ host with
      voiceRouter :=
        if zdt then (Voice.addPeer host.voiceRouter env.now c true).1
        else host.voiceRouter }).sync config env
  else host

/-- Queue and announce the leave of a session's player. -/
def Host.announceLeave (host : Host) (c : ConnectionId) (netid : UInt32) : Host :=
  { host.enqueuePacket (.nodeLeave netid) none with leaves := host.leaves ++ [(c, netid)] }

/-- `onPeerDisconnected`. -/
def onPeerDisconnected (host : Host) (session : Session) : Host :=
  let host := { host with voiceRouter := Voice.removePeer host.voiceRouter session.id }
  let host := host.modifySession session.id fun s => { s with listed := false, alive := false }
  match session.tag with
  | some id => if id ≠ 0 then host.announceLeave session.id id else host
  | none => host

/-! ## The main thread -/

/-- `std::to_string` of a number. -/
def decimal (n : Nat) : Bytes :=
  (Nat.toDigits 10 n).map fun c => c.toNat.toUInt8

/-- The search for a name no one in the room has; `duplicateCount` is the next
number to append.  The room has fewer names than the search has attempts
(`uniqueName_fresh`). -/
def resolveName (roomPlayers : List RoomPlayerInfo) (playerName : Bytes) :
    Nat → Nat → Bytes → Bytes
  | 0, _, finalName => finalName
  | attempts + 1, duplicateCount, finalName =>
      if roomPlayers.any (·.name == finalName) then
        resolveName roomPlayers playerName attempts (duplicateCount + 1)
          (playerName ++ 32 :: decimal duplicateCount)
      else finalName

/-- The name a joining player gets. -/
def uniqueName (roomPlayers : List RoomPlayerInfo) (playerName : Bytes) : Bytes :=
  resolveName roomPlayers playerName (roomPlayers.length + 1) 1 playerName

theorem decimal_injective : Function.Injective decimal := by
  have hback : ∀ n, (decimal n).map (fun b => Char.ofNat b.toNat) = Nat.toDigits 10 n := by
    intro n
    rw [decimal, List.map_map]
    refine (List.map_congr_left fun c hc => ?_).trans (List.map_id _)
    have hdigit := Nat.isDigit_of_mem_toDigits (by decide) le_rfl hc
    simp only [Char.isDigit, Bool.and_eq_true, decide_eq_true_eq] at hdigit
    have hsmall : c.toNat < 256 := lt_of_le_of_lt (UInt32.le_iff_toNat_le.mp hdigit.2) (by decide)
    simp [Nat.mod_eq_of_lt hsmall]
  intro n m h
  have hdigits : Nat.toDigits 10 n = Nat.toDigits 10 m := by rw [← hback, h, hback]
  rw [← Nat.ofDigitChars_ten_toDigits (n := n), hdigits, Nat.ofDigitChars_ten_toDigits]

/-- The names the search tries, in order. -/
def candidateName (playerName : Bytes) : Nat → Bytes
  | 0 => playerName
  | count + 1 => playerName ++ 32 :: decimal (count + 1)

theorem candidateName_injective (playerName : Bytes) :
    Function.Injective (candidateName playerName) := by
  intro n m h
  cases n with
  | zero =>
      cases m with
      | zero => rfl
      | succ m => simp [candidateName] at h
  | succ n =>
      cases m with
      | zero => simp [candidateName] at h
      | succ m =>
          have hdecimal := List.append_cancel_left h
          exact decimal_injective (List.cons.inj hdecimal).2

/-- The search passes over the candidates that are taken. -/
theorem resolveName_eq {roomPlayers : List RoomPlayerInfo} {playerName : Bytes} {n attempts : Nat}
    (hn : n ≤ attempts) {count : Nat}
    (htaken : ∀ k < n, candidateName playerName (count + k) ∈ roomPlayers.map (·.name))
    (hfree : candidateName playerName (count + n) ∉ roomPlayers.map (·.name)) :
    resolveName roomPlayers playerName attempts (count + 1) (candidateName playerName count) =
      candidateName playerName (count + n) := by
  have htest : ∀ k, roomPlayers.any (·.name == candidateName playerName k) = true ↔
      candidateName playerName k ∈ roomPlayers.map (·.name) := by
    intro k
    simp [List.any_eq_true]
  induction n generalizing attempts count with
  | zero =>
      cases attempts with
      | zero => rfl
      | succ attempts => exact if_neg (mt (htest count).mp hfree)
  | succ n ih =>
      obtain ⟨attempts, rfl⟩ : ∃ m, attempts = m + 1 := ⟨attempts - 1, by omega⟩
      unfold resolveName
      rw [if_pos ((htest count).mpr (htaken 0 (by omega)))]
      have hshift : ∀ k, count + (k + 1) = count + 1 + k := by omega
      rw [hshift n] at hfree ⊢
      refine ih (by omega) ?_ hfree
      intro k hk
      rw [← hshift k]
      exact htaken (k + 1) (by omega)

/-- **The name a joining player gets** is the first candidate that no one in the
room has. -/
theorem uniqueName_spec (roomPlayers : List RoomPlayerInfo) (playerName : Bytes) :
    ∃ n ≤ roomPlayers.length, uniqueName roomPlayers playerName = candidateName playerName n ∧
      candidateName playerName n ∉ roomPlayers.map (·.name) ∧
      ∀ k < n, candidateName playerName k ∈ roomPlayers.map (·.name) := by
  obtain ⟨n, hn, hfree, htaken⟩ := WhileLoop.exists_first_free
    (candidateName_injective playerName) (roomPlayers.map (·.name))
  rw [List.length_map] at hn
  have hsearch : uniqueName roomPlayers playerName = candidateName playerName (0 + n) :=
    resolveName_eq (by omega) (by simpa using htaken) (by simpa using hfree)
  rw [Nat.zero_add] at hsearch
  exact ⟨n, hn, hsearch, hfree, htaken⟩

/-- The search ends with a name no one in the room has. -/
theorem uniqueName_fresh (roomPlayers : List RoomPlayerInfo) (playerName : Bytes) :
    uniqueName roomPlayers playerName ∉ roomPlayers.map (·.name) := by
  obtain ⟨n, -, hname, hfree, -⟩ := uniqueName_spec roomPlayers playerName
  rwa [hname]

/-- The team with fewer players; red on a tie. -/
def balanceTeam (roomPlayers : List RoomPlayerInfo) : UInt8 :=
  if roomPlayers.countP (·.team == 1) ≤ roomPlayers.countP (·.team == 2) then 1 else 2

/-- Change the first room entry with the given id. -/
def modifyPlayer (id : UInt32) (f : RoomPlayerInfo → RoomPlayerInfo) :
    List RoomPlayerInfo → List RoomPlayerInfo
  | [] => []
  | rp :: rest => if rp.id = id then f rp :: rest else rp :: modifyPlayer id f rest

/-- Recipients of `sendToPlayer`: the first listed session with the tag. -/
def sendToPlayer (host : Host) (netId : UInt32) : List ConnectionId :=
  ((host.sessions.find? fun s => s.listed ∧ s.tag = some netId).map (·.id)).toList

/-- Recipients of `broadcast` to everyone. -/
def broadcastAll (host : Host) : List ConnectionId :=
  (host.sessions.filter (·.listed)).map (·.id)

/-- Recipients of `relayChat`. -/
def relayChat (host : Host) (message : ChatMessage) : List ConnectionId :=
  if message.channel = chatAll then broadcastAll host
  else if message.channel = chatTeam then
    match host.roomPlayers.find? (·.id == message.senderId) with
    | none => []
    | some sender =>
        (host.roomPlayers.filter (·.team == sender.team)).flatMap fun rp =>
          sendToPlayer host rp.id
  else if message.channel = chatPrivate then
    sendToPlayer host message.targetId ++
      if message.senderId ≠ message.targetId then sendToPlayer host message.senderId else []
  else []

/-- `allowChatRate`: three messages a second. -/
def allowChatRate (clock : ℚ) (host : Host) (senderId : UInt32) : Host × Bool :=
  let stamps :=
    ((host.chatRateStamps.lookup senderId).getD []).filter fun t => ¬ 1 < clock - t
  if 3 ≤ stamps.length then
    ({ host with chatRateStamps := host.chatRateStamps.insert senderId stamps }, false)
  else
    ({ host with chatRateStamps := host.chatRateStamps.insert senderId (stamps ++ [clock]) },
      true)

/-- The text of a chat message as the host lets it through. -/
def sanitizeText (text : Bytes) : Bytes :=
  (text.filter fun c => ¬ (c < 32 ∨ 126 < c)).take maxTextLength

/-- `PACKET_CHAT_MESSAGE` in `onPacketReceived`, on the host. -/
def receiveChat (env : Env) (host : Host) (origin : Option ConnectionId)
    (message : ChatMessage) : Host :=
  let message := { message with text := sanitizeText message.text }
  if message.text = [] then host
  else
    match host.roomPlayers.find? (·.id == message.senderId) with
    | none => host
    | some sender =>
        let (host, allowed) := allowChatRate env.clock host message.senderId
        if allowed = false then host
        else if message.channel = chatPrivate ∧
            ¬ host.roomPlayers.any (·.id == message.targetId) then host
        else
          let message := { message with senderName := sender.name }
          { host with
            relayed := host.relayed ++ [⟨origin, message, relayChat host message⟩] }

/-- `PACKET_LOBBY_JOIN` in `onPacketReceived`. -/
def receiveJoin (config : HostConfig) (env : Env) (host : Host) (senderId : UInt32)
    (playerName : Bytes) : Host :=
  if host.roomPlayers.any (·.id == senderId) then broadcastLobbyState config env host
  else if config.lobbyTeamSize.toNat * 2 ≤ host.roomPlayers.length then host
  else
    broadcastLobbyState config env { host with
      roomPlayers := host.roomPlayers ++
        [{ id := senderId
           name := uniqueName host.roomPlayers playerName
           team := balanceTeam host.roomPlayers }] }

/-- `PACKET_NODE_LEAVE` in `onPacketReceived`. -/
def receiveLeave (config : HostConfig) (env : Env) (host : Host) (netid : UInt32) : Host :=
  if host.roomPlayers.any (·.id == netid) then
    broadcastLobbyState config env { host with
      roomPlayers := host.roomPlayers.eraseP (·.id == netid)
      chatRateStamps := host.chatRateStamps.erase netid }
  else host

/-- `onPacketReceived` on the host.  Movement and fights only reach the game
through its callbacks. -/
def onPacketReceived (config : HostConfig) (env : Env) (host : Host) (queued : Queued) : Host :=
  match queued.packet with
  | .nodeLeave netid => receiveLeave config env host netid
  | .chatMessage message => receiveChat env host queued.origin message
  | .startMatch =>
      broadcastLobbyState config env { host with
        matchInProgress := true
        roomPlayers := host.roomPlayers.map fun rp => { rp with isReady := true } }
  | .lobbyJoin senderId playerName _ => receiveJoin config env host senderId playerName
  | .toggleReady senderId =>
      broadcastLobbyState config env { host with
        roomPlayers := modifyPlayer senderId (fun rp => { rp with isReady := !rp.isReady })
          host.roomPlayers }
  | .switchTeam senderId teamId =>
      broadcastLobbyState config env { host with
        roomPlayers := modifyPlayer senderId (fun rp => { rp with team := teamId })
          host.roomPlayers }
  | _ => host

/-- The session is swept by `update`: erased, and its tag cleared so that its
leave is not announced twice. -/
def Session.sweep (session : Session) : Session :=
  if session.listed ∧ session.alive = false then
    { session with listed := false, tag := session.tag.map fun _ => 0 }
  else session

/-- The leave the sweep announces for a session. -/
def Session.deadId (session : Session) : Option (ConnectionId × UInt32) :=
  if session.listed ∧ session.alive = false then
    match session.tag with
    | some id => if id ≠ 0 then some (session.id, id) else none
    | none => none
  else none

/-- The sweep of dead sessions in `GameBackendLocal::update`. -/
def sweepSessions (host : Host) : Host :=
  let deadIds := host.sessions.filterMap Session.deadId
  deadIds.foldl (fun host dead => host.announceLeave dead.1 dead.2)
    { host with sessions := host.sessions.map Session.sweep }

theorem announceLeaves_eq (dead : List (ConnectionId × UInt32)) (host : Host) :
    dead.foldl (fun host announced => host.announceLeave announced.1 announced.2) host =
      { host with
        packetQueue := host.packetQueue ++
          dead.map fun announced => ⟨.nodeLeave announced.2, none⟩
        leaves := host.leaves ++ dead } := by
  induction dead generalizing host with
  | nil => simp
  | cons announced rest ih =>
      rw [List.foldl_cons, ih]
      simp [Host.announceLeave, Host.enqueuePacket]

/-- The sweep clears tags and announces the leaves, and does nothing else. -/
theorem sweepSessions_eq (host : Host) :
    sweepSessions host =
      { host with
        sessions := host.sessions.map Session.sweep
        packetQueue := host.packetQueue ++
          (host.sessions.filterMap Session.deadId).map fun announced =>
            ⟨.nodeLeave announced.2, none⟩
        leaves := host.leaves ++ host.sessions.filterMap Session.deadId } :=
  announceLeaves_eq _ _

/-- `kickPlayer`; the kick packet itself goes to the client. -/
def kickPlayer (config : HostConfig) (env : Env) (host : Host) (playerId : UInt32) : Host :=
  if host.roomPlayers.any (·.id == playerId) then
    broadcastLobbyState config env { host with
      roomPlayers := host.roomPlayers.filter (·.id ≠ playerId) }
  else host

/-! ## The host's own player -/

/-- What the host's own player does through `NetworkManager`. -/
inductive OwnCall
  | hostLobby
  | toggleReady
  | switchTeam (teamId : UInt8)
  | startMatch
  | chat (channel : UInt8) (text : Bytes) (targetId : UInt32)
  deriving DecidableEq

/-- The packet an own call puts into the host's queue, if any. -/
def OwnCall.packet (config : HostConfig) (host : Host) : OwnCall → Option Packet
  | .hostLobby => some (.lobbyJoin config.localNodeId config.localPlayerName [])
  | .toggleReady => some (.toggleReady config.localNodeId)
  | .switchTeam teamId => some (.switchTeam config.localNodeId teamId)
  | .startMatch =>
      -- one fewer has to be ready than there are players: the host never is
      if host.roomPlayers = [] ∨
          host.roomPlayers.countP (·.isReady) < host.roomPlayers.length - 1 then none
      else some .startMatch
  | .chat channel text targetId =>
      if (channel ≠ chatAll ∧ channel ≠ chatTeam ∧ channel ≠ chatPrivate) ∨ text = [] then none
      else some (.chatMessage
        { senderId := config.localNodeId
          targetId := if channel = chatPrivate then targetId else 0
          channel := channel
          text := text.take maxTextLength })

/-- `NetworkSynchronizer::setup`: the local team is read from the room. -/
def setupLocalTeam (config : HostConfig) (host : Host) : Host :=
  { host with
    localTeam :=
      match host.roomPlayers.find? (·.id == config.localNodeId) with
      | some rp => rp.team
      | none => 1 }

/-- `NetworkSynchronizer::switchTeam`. -/
def switchTeamInMatch (config : HostConfig) (host : Host) : Host :=
  let newTeam : UInt8 := if host.localTeam = 1 then 2 else 1
  { host with localTeam := newTeam }.enqueuePacket (.switchTeam config.localNodeId newTeam) none

/-! ## The system -/

/-- One action of the host, of its network threads or of its environment. -/
inductive HostAction
  | connect (c : ConnectionId) (adopted zdt : Bool)
  | packet (c : ConnectionId) (packet : Packet)
  | die (c : ConnectionId)
  | disconnected (c : ConnectionId)
  | beginUpdate
  | process
  | sweep
  | kick (playerId : UInt32)
  | roomCode
  | own (call : OwnCall)
  | setupMatch
  | switchTeamInMatch
  | login (username : Bytes)
  | logout

/-- Perform an action.  A new session has an id of its own, packets arrive on
sessions that are alive, and the next batch is taken when the last one has
been processed. -/
def act (config : HostConfig) (host : Host) (env : Env) : HostAction → Option Host
  | .connect c adopted zdt =>
      if (host.session? c).isSome ∨ c = localHostVoiceConnId then none
      else some (connect config env host c adopted zdt)
  | .packet c packet =>
      match host.session? c with
      | some session =>
          if session.alive then some (onPacket config env host session packet) else none
      | none => none
  | .die c => some (host.modifySession c fun s => { s with alive := false })
  | .disconnected c =>
      match host.session? c with
      | some session => if session.adopted then some (onPeerDisconnected host session) else none
      | none => none
  | .beginUpdate =>
      if host.batch = [] then some { host with batch := host.packetQueue, packetQueue := [] }
      else none
  | .process =>
      match host.batch with
      | [] => none
      | queued :: rest => some (onPacketReceived config env { host with batch := rest } queued)
  | .sweep => some (sweepSessions host)
  | .kick playerId => some (kickPlayer config env host playerId)
  | .roomCode => some (broadcastLobbyState config env host)
  | .own call =>
      if config.isDedicatedServer then none
      else
        match call.packet config host with
        | some packet => some (host.enqueuePacket packet none)
        | none => some host
  | .setupMatch => some (setupLocalTeam config host)
  | .switchTeamInMatch => some (switchTeamInMatch config host)
  | .login username => some { host with loggedInUsername := username }
  | .logout => some { host with loggedInUsername := [] }

/-- One step: whatever is done, the last broadcast is no longer the last
action, unless the step broadcasts again. -/
def step (config : HostConfig) (host : Host) (a : Env × HostAction) : Option Host :=
  act config { host with synced := false } a.1 a.2

/-- **What an enabled action does**, with what enables it. -/
inductive Performed (config : HostConfig) (host : Host) (env : Env) : HostAction → Host → Prop
  | connect (c : ConnectionId) (adopted zdt : Bool) (hnew : host.session? c = none)
      (hremote : c ≠ localHostVoiceConnId) :
      Performed config host env (.connect c adopted zdt) (connect config env host c adopted zdt)
  | packet (c : ConnectionId) (packet : Packet) (session : Session)
      (hsession : host.session? c = some session) (halive : session.alive = true) :
      Performed config host env (.packet c packet) (onPacket config env host session packet)
  | die (c : ConnectionId) :
      Performed config host env (.die c) (host.modifySession c fun s => { s with alive := false })
  | disconnected (c : ConnectionId) (session : Session)
      (hsession : host.session? c = some session) :
      Performed config host env (.disconnected c) (onPeerDisconnected host session)
  | beginUpdate (hempty : host.batch = []) :
      Performed config host env .beginUpdate
        { host with batch := host.packetQueue, packetQueue := [] }
  | process (queued : Queued) (rest : List Queued) (hbatch : host.batch = queued :: rest) :
      Performed config host env .process
        (onPacketReceived config env { host with batch := rest } queued)
  | sweep : Performed config host env .sweep (sweepSessions host)
  | kick (playerId : UInt32) :
      Performed config host env (.kick playerId) (kickPlayer config env host playerId)
  | roomCode : Performed config host env .roomCode (broadcastLobbyState config env host)
  | own (call : OwnCall) (packet : Packet) (hpacket : call.packet config host = some packet) :
      Performed config host env (.own call) (host.enqueuePacket packet none)
  | ownNothing (call : OwnCall) (hnone : call.packet config host = none) :
      Performed config host env (.own call) host
  | setupMatch : Performed config host env .setupMatch (setupLocalTeam config host)
  | switchTeamInMatch :
      Performed config host env .switchTeamInMatch (switchTeamInMatch config host)
  | login (username : Bytes) :
      Performed config host env (.login username) { host with loggedInUsername := username }
  | logout : Performed config host env .logout { host with loggedInUsername := [] }

theorem act_performed {config : HostConfig} {host after : Host} {env : Env} {action : HostAction}
    (h : act config host env action = some after) : Performed config host env action after := by
  cases action with
  | connect c adopted zdt =>
      unfold act at h
      dsimp only at h
      split_ifs at h with hfresh
      cases h
      rw [not_or, Option.not_isSome_iff_eq_none] at hfresh
      exact .connect c adopted zdt hfresh.1 hfresh.2
  | packet c packet =>
      unfold act at h
      dsimp only at h
      split at h
      · rename_i session hsession
        split_ifs at h with halive
        cases h
        exact .packet c packet session hsession halive
      · cases h
  | disconnected c =>
      unfold act at h
      dsimp only at h
      split at h
      · rename_i session hsession
        split_ifs at h
        cases h
        exact .disconnected c session hsession
      · cases h
  | beginUpdate =>
      unfold act at h
      dsimp only at h
      split_ifs at h with hempty
      cases h
      exact .beginUpdate hempty
  | process =>
      unfold act at h
      dsimp only at h
      split at h
      · cases h
      · rename_i queued rest hbatch
        cases h
        exact .process queued rest hbatch
  | own call =>
      unfold act at h
      dsimp only at h
      split_ifs at h
      split at h
      · rename_i packet hpacket
        cases h
        exact .own call packet hpacket
      · rename_i hnone
        cases h
        exact .ownNothing call hnone
  | die c =>
      cases h
      exact .die c
  | sweep =>
      cases h
      exact .sweep
  | kick playerId =>
      cases h
      exact .kick playerId
  | roomCode =>
      cases h
      exact .roomCode
  | setupMatch =>
      cases h
      exact .setupMatch
  | switchTeamInMatch =>
      cases h
      exact .switchTeamInMatch
  | login username =>
      cases h
      exact .login username
  | logout =>
      cases h
      exact .logout

/-- A step performs its action on a host whose last broadcast is no longer the
last action. -/
theorem step_performed {config : HostConfig} {host after : Host} {a : Env × HostAction}
    (h : step config host a = some after) :
    Performed config { host with synced := false } a.1 a.2 after :=
  act_performed h

/-- `GameBackendLocal::start`. -/
def start (config : HostConfig) (env : Env) : Host :=
  if config.isDedicatedServer then {}
  else
    ({ voiceRouter :=
        (Voice.addPeer {} env.now localHostVoiceConnId true).1 } : Host).sync config env

end Lobby
