import GipMultiplayer.LobbyRoom
import GipMultiplayer.PlayerNodes

/-!
# The lobby host and the game on it

What the lobby host hands on: the callbacks it makes into the game, the
registry of player nodes, the chat its own player reads, and the packets it
broadcasts to the room, each with its recipients.  The host itself is that of
`Lobby.step`; this layer follows it and writes down what leaves it.

Written down for the laws only: the sessions that have sent a join with the
right password, and the kicks, each with the sessions there were.

* `Game` — the host with what it hands on;
* `processed`, `onNetwork` — one queued packet, one packet off the network;
* `gameStep` — one action;
* `gameStep_host` — the host does what it does without this layer.
-/

namespace Lobby

open Voice (ConnectionId)
open Players (Registries)

/-! ## Data -/

/-- `ChatEntry`, without its age. -/
structure ChatEntry where
  channel : UInt8
  senderId : UInt32
  senderName : Bytes
  text : Bytes
  deriving DecidableEq, Repr

/-- `ChatManager::MAX_HISTORY`. -/
def maxHistory : Nat := 100

/-- The callbacks the backend makes into the game. -/
inductive Callback
  | join (id : UInt32)
  | teamChanged (id : UInt32) (teamId : UInt8)
  | leave (id : UInt32)
  | playerFired (shooterId : UInt32)
  | playerHit (attackerId victimId : UInt32)
  | playerKilled (killerId victimId : UInt32)
  | lobbyStateUpdated
  | matchStarted
  deriving DecidableEq, Repr

/-- What is broadcast to the room. -/
inductive CastKind
  | lobbyState
  | nodeState
  | fire
  | hit
  | kill
  | chat
  | pingSnapshot
  deriving DecidableEq, Repr

/-- A broadcast, with the sessions it was sent to. -/
structure Cast where
  kind : CastKind
  recipients : List ConnectionId
  deriving DecidableEq

/-- A kick: the player, the session that was told, and the sessions there were. -/
structure Kick where
  playerId : UInt32
  session : Option ConnectionId
  known : List ConnectionId
  deriving DecidableEq

/-- The host and what it has handed on.  `entered` has the sessions that sent a
`LobbyJoinPacket` with the right password. -/
structure Game where
  host : Host
  registries : Registries := {}
  history : List ChatEntry := []
  muted : List UInt32 := []
  callbacks : List Callback := []
  casts : List Cast := []
  entered : List ConnectionId := []
  kicks : List Kick := []

/-! ## One queued packet -/

/-- `onPacketReceived` broadcasts the lobby state after this packet. -/
def broadcastsLobby (config : HostConfig) (roomPlayers : List RoomPlayerInfo) : Packet → Bool
  | .nodeLeave netid => roomPlayers.any (·.id == netid)
  | .lobbyJoin senderId _ _ =>
      roomPlayers.any (·.id == senderId) || roomPlayers.length < config.lobbyTeamSize.toNat * 2
  | .startMatch | .toggleReady _ | .switchTeam _ _ => true
  | _ => false

/-- The registries after a packet. -/
def registriesAfter (config : HostConfig) (host : Host) (r : Registries) : Packet → Registries
  | .nodeState netid state =>
      Players.receiveNodeState config.localNodeId host.roomPlayers r netid state
  | .nodeLeave netid => Players.receiveNodeLeave r netid
  | _ => r

/-- The state packet changes the team of a remote node. -/
def changesTeam (config : HostConfig) (host : Host) (r : Registries) (netid : UInt32)
    (state : NodeState) : Bool :=
  ((Players.announceJoin config.localNodeId host.roomPlayers r netid).nodes.lookup netid).any
    fun node => !node.isLocal && node.team != state.team

/-- The callbacks of the match: made only once `setup` has installed them. -/
def matchCallbacks (config : HostConfig) (host : Host) (r : Registries) : Packet → List Callback
  | .nodeLeave netid => [.leave netid]
  | .playerFire shooterId => [.playerFired shooterId]
  | .playerHit attackerId victimId => [.playerHit attackerId victimId]
  | .playerKilled killerId victimId => [.playerKilled killerId victimId]
  | .nodeState netid state =>
      (if (r.nodes.lookup netid).isNone then [.join netid] else []) ++
        if changesTeam config host r netid state then [.teamChanged netid state.team] else []
  | _ => []

/-- The callbacks of a packet. -/
def callbacksOf (config : HostConfig) (host : Host) (r : Registries) (packet : Packet) :
    List Callback :=
  (if r.callbacks then matchCallbacks config host r packet else []) ++
    (if broadcastsLobby config host.roomPlayers packet then [.lobbyStateUpdated] else []) ++
      if packet.isStart then [.matchStarted] else []

/-- The team of the last room entry with the id. -/
def lastTeam (roomPlayers : List RoomPlayerInfo) (id : UInt32) : Option UInt8 :=
  (roomPlayers.reverse.find? (·.id == id)).map (·.team)

/-- `shouldDisplayChat` on the host. -/
def shouldDisplayChat (config : HostConfig) (roomPlayers : List RoomPlayerInfo)
    (message : ChatMessage) : Bool :=
  if message.channel = chatAll then true
  else if message.channel = chatTeam then
    match lastTeam roomPlayers message.senderId, lastTeam roomPlayers config.localNodeId with
    | some senderTeam, some myTeam => senderTeam == myTeam
    | _, _ => false
  else if message.channel = chatPrivate then
    message.targetId == config.localNodeId || message.senderId == config.localNodeId
  else false

/-- `ChatManager::append`. -/
def append (history : List ChatEntry) (entry : ChatEntry) : List ChatEntry :=
  let history := history ++ [entry]
  history.drop (history.length - maxHistory)

/-- `ChatManager::receive`. -/
def receive (muted : List UInt32) (history : List ChatEntry) (message : ChatMessage) :
    List ChatEntry :=
  if message.senderId ∈ muted then history
  else append history
    { channel := message.channel
      senderId := message.senderId
      senderName := message.senderName
      text := message.text }

/-- The chat messages relayed between two states of the host. -/
def newRelays (s t : Host) : List Relay :=
  t.relayed.drop s.relayed.length

/-- The host has processed a queued packet. -/
def processed (config : HostConfig) (g : Game) (host : Host) (packet : Packet) : Game :=
  let relays := newRelays g.host host
  { g with
    host := host
    registries := registriesAfter config g.host g.registries packet
    history := ((relays.map (·.message)).filter (shouldDisplayChat config host.roomPlayers)).foldl
      (receive g.muted) g.history
    callbacks := g.callbacks ++ callbacksOf config g.host g.registries packet
    casts := g.casts ++
      (if broadcastsLobby config g.host.roomPlayers packet then
        [⟨.lobbyState, broadcastAll g.host⟩] else []) ++
      relays.map fun relay => (⟨.chat, relay.recipients⟩ : Cast) }

/-! ## One packet off the network -/

/-- What the network thread rebroadcasts of a packet. -/
def Packet.rebroadcast : Packet → Option CastKind
  | .nodeState _ _ => some .nodeState
  | .playerFire _ => some .fire
  | .playerHit _ _ => some .hit
  | .playerKilled _ _ => some .kill
  | _ => none

/-- Recipients of a rebroadcast: everyone but the sender. -/
def broadcastOthers (host : Host) (c : ConnectionId) : List ConnectionId :=
  (host.sessions.filter fun s => s.listed ∧ s.id ≠ c).map (·.id)

/-- The packet is a join with the right password. -/
def Packet.opens (config : HostConfig) : Packet → Bool
  | .lobbyJoin _ _ password => password == config.serverPassword
  | _ => false

/-- The network thread has handled a packet. -/
def onNetwork (config : HostConfig) (g : Game) (host : Host) (c : ConnectionId)
    (packet : Packet) : Game :=
  { g with
    host := host
    casts := g.casts ++
      (packet.rebroadcast.map fun kind => (⟨kind, broadcastOthers g.host c⟩ : Cast)).toList
    entered := if packet.opens config then c :: g.entered else g.entered }

/-! ## The system -/

/-- Send something of the host's own to the room. -/
def Game.broadcast (g : Game) (kind : CastKind) : Game :=
  { g with casts := g.casts ++ [⟨kind, broadcastAll g.host⟩] }

/-- The lobby state goes to the room and to the host's own game. -/
def Game.broadcastLobby (g : Game) : Game :=
  { g.broadcast .lobbyState with callbacks := g.callbacks ++ [.lobbyStateUpdated] }

/-- The host has kicked a player. -/
def kicked (g : Game) (host : Host) (playerId : UInt32) : Game :=
  let told := g.host.sessions.find? fun s => s.listed ∧ s.tag = some playerId
  let kick : Kick := ⟨playerId, told.map (·.id), g.host.sessions.map (·.id)⟩
  let g := { g with kicks := g.kicks ++ [kick] }
  if g.host.roomPlayers.any (·.id == playerId) then { g.broadcastLobby with host := host }
  else { g with host := host }

/-- What an action of the host hands on. -/
def handOn (config : HostConfig) (g : Game) (host : Host) : HostAction → Game
  | .process =>
      match g.host.batch with
      | queued :: _ => processed config g host queued.packet
      | [] => { g with host := host }
  | .packet c packet => onNetwork config g host c packet
  | .kick playerId => kicked g host playerId
  | .roomCode => { g.broadcastLobby with host := host }
  | .setupMatch => { g with
      host := host
      registries := Players.setup config.localNodeId g.host.roomPlayers g.registries }
  | _ => { g with host := host }

/-- What the host's own player does in the match: `broadcastState`,
`broadcastFireEvent`, `broadcastHitEvent`, `broadcastKillEvent`. -/
inductive OwnEvent
  | state
  | fire
  | hit
  | kill
  deriving DecidableEq

/-- What is broadcast of it. -/
def OwnEvent.kind : OwnEvent → CastKind
  | .state => .nodeState
  | .fire => .fire
  | .hit => .hit
  | .kill => .kill

/-- An action of the host, or one of the game on it: the synchronizer's
`cleanup`, the ping snapshot of `update`, an event of the host's own player, or
a change to its mute list. -/
inductive GameAction
  | host (action : HostAction)
  | cleanup
  | pingSnapshot
  | own (event : OwnEvent)
  | mute (playerId : UInt32) (muted : Bool)

/-- One step. -/
def gameStep (config : HostConfig) (g : Game) (a : Env × GameAction) : Option Game :=
  match a.2 with
  | .host action =>
      (step config g.host (a.1, action)).map fun host => handOn config g host action
  | .cleanup =>
      some { g with registries := Players.cleanup config.localNodeId g.registries }
  | .pingSnapshot => some (g.broadcast .pingSnapshot)
  | .own event => some (g.broadcast event.kind)
  | .mute playerId muted =>
      some { g with
        muted := if muted then playerId :: g.muted else g.muted.filter (· ≠ playerId) }

/-- The host as `start` leaves it, and nothing handed on. -/
def startGame (config : HostConfig) (env : Env) : Game :=
  { host := start config env }

/-! ## The host below -/

variable {config : HostConfig} {env : Env} {g g' : Game}

theorem handOn_host (host : Host) (action : HostAction) :
    (handOn config g host action).host = host := by
  cases action with
  | process =>
      unfold handOn
      dsimp only
      split <;> rfl
  | kick playerId =>
      unfold handOn kicked
      dsimp only
      split_ifs <;> rfl
  | _ => rfl

/-- **The layer only watches**: the host takes the steps it takes alone, and
is not touched by the game on it. -/
theorem gameStep_host {a : Env × GameAction} (h : gameStep config g a = some g') :
    (∃ action, a.2 = .host action ∧ step config g.host (a.1, action) = some g'.host ∧
        g' = handOn config g g'.host action) ∨
      (∀ action, a.2 ≠ .host action) ∧ g'.host = g.host := by
  obtain ⟨env, action⟩ := a
  cases action with
  | host action =>
      obtain ⟨host, hstep, rfl⟩ := Option.map_eq_some_iff.mp h
      refine .inl ⟨action, rfl, ?_, ?_⟩
      · rw [handOn_host]
        exact hstep
      · rw [handOn_host]
  | cleanup =>
      cases h
      exact .inr ⟨by simp, rfl⟩
  | pingSnapshot =>
      cases h
      exact .inr ⟨by simp, rfl⟩
  | own event =>
      cases h
      exact .inr ⟨by simp, rfl⟩
  | mute playerId muted =>
      cases h
      exact .inr ⟨by simp, rfl⟩

/-- **The main thread takes a packet off its queue.** -/
theorem handOn_process {queued : Queued} {rest : List Queued} {host : Host}
    (hbatch : g.host.batch = queued :: rest)
    (hstep : step config g.host (env, .process) = some host) :
    host = onPacketReceived config env { g.host with synced := false, batch := rest } queued ∧
      handOn config g host .process = processed config g host queued.packet := by
  constructor
  · obtain ⟨queued', rest', hbatch', hafter⟩ := process_performed hstep
    obtain ⟨rfl, rfl⟩ := List.cons.inj (hbatch.symm.trans hbatch')
    exact hafter
  · unfold handOn
    dsimp only
    rw [hbatch]

/-- What the game does on its own takes no one out and lets no one in. -/
theorem gameStep_other {a : Env × GameAction} (hother : ∀ action, a.2 ≠ .host action)
    (h : gameStep config g a = some g') : g'.kicks = g.kicks ∧ g'.entered = g.entered := by
  obtain ⟨env, action⟩ := a
  cases action with
  | host action => exact absurd rfl (hother action)
  | cleanup =>
      cases h
      exact ⟨rfl, rfl⟩
  | pingSnapshot =>
      cases h
      exact ⟨rfl, rfl⟩
  | own event =>
      cases h
      exact ⟨rfl, rfl⟩
  | mute playerId muted =>
      cases h
      exact ⟨rfl, rfl⟩

end Lobby
