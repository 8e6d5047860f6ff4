import Mathlib.Data.List.AList
import Mathlib.Data.Rat.Init
import Mathlib.Algebra.Order.Ring.Rat
import GipMultiplayer.VoicePackets

/-!
# The team voice router

The server side of team voice: a table of registered connections, the
membership state the host grants to each of them, the reliable control that
publishes a grant, and the relay of encoded frames.

A control call takes the router lock twice with an unlocked send in between.
Each locked section is a function of its own (`beginSetPeerState`,
`beginClearPeerState`, `confirmSetPeerState`, `confirmClearPeerState`);
`setPeerState` and `clearPeerState` compose them around the outcome of the
send.  A peer record is shared by reference in the source, so it carries the
`handle` it was allocated with: comparing two references is comparing handles.
-/

namespace Voice

/-- `ConnectionId`. -/
abbrev ConnectionId := UInt64

/-- Monotonic clock reading in nanoseconds. -/
abbrev TimePoint := Int

/-- The membership the host grants to a connection (`PeerState`). -/
structure PeerState where
  playerid : UInt64 := 0
  teamid : UInt64 := 0
  sessionid : UInt64 := 0
  cantransmit : Bool := false
  canreceive : Bool := false
  deriving DecidableEq, Repr

/-- `Config` with its defaults; the rates are exact. -/
structure Config where
  maxconnections : Nat := 64
  packetspersecond : ℚ := 65
  packetburst : ℚ := 20
  bytespersecond : ℚ := 24576
  byteburst : ℚ := 8192

/-- One registered connection (`State::Peer`). -/
structure Peer where
  handle : Nat
  state : PeerState := {}
  hasstate : Bool := false
  controlpublished : Bool := true
  generation : UInt32 := 0
  packettokens : ℚ := 0
  bytetokens : ℚ := 0
  ratetime : TimePoint

/-- The counters of `Stats`.  They have 64 bits in the source and nothing reads them
but `getStats`; they are numbers here, as long as each is below `2 ^ 64`. -/
structure Stats where
  receivedpackets : Nat := 0
  receivedbytes : Nat := 0
  relayedpackets : Nat := 0
  relayedbytes : Nat := 0
  routingrejections : Nat := 0
  malformedpackets : Nat := 0
  ratelimitedpackets : Nat := 0
  sendfailures : Nat := 0
  deriving DecidableEq, Repr

/-- `gTeamVoiceServer::State`. -/
structure Router where
  config : Config := {}
  peers : AList (fun _ : ConnectionId => Peer) := ∅
  hearEnemies : Bool := false
  stats : Stats := {}
  nexthandle : Nat := 0

/-- `isValidPeerState`. -/
def isValidPeerState (state : PeerState) : Bool :=
  state.playerid ≠ 0 ∧ state.teamid ≠ 0 ∧ state.sessionid ≠ 0

/-- `peerStatesEqual`: the source compares all five fields. -/
def peerStatesEqual (left right : PeerState) : Bool :=
  left.playerid == right.playerid && left.teamid == right.teamid &&
    left.sessionid == right.sessionid && left.cantransmit == right.cantransmit &&
    left.canreceive == right.canreceive

@[simp] theorem peerStatesEqual_iff {left right : PeerState} :
    peerStatesEqual left right = true ↔ left = right := by
  cases left
  cases right
  simp [peerStatesEqual, and_assoc]

/-- `State::nextGeneration`: count up and skip zero on the wrap. -/
def nextGeneration (current : UInt32) : UInt32 :=
  let current := current + 1
  if current = 0 then current + 1 else current

theorem nextGeneration_ne_zero (current : UInt32) : nextGeneration current ≠ 0 := by
  grind [nextGeneration]

theorem nextGeneration_ne_self (current : UInt32) : nextGeneration current ≠ current := by
  grind [nextGeneration]

/-! ## Token buckets -/

/-- The buckets of a peer after the refill for the time since `ratetime`.  Tokens
and rates are exact rationals; those of the source are doubles. -/
def refill (config : Config) (now : TimePoint) (peer : Peer) : Peer :=
  let elapsed : ℚ := (now - peer.ratetime : Int) / 1000000000
  { peer with
    ratetime := now
    packettokens := min config.packetburst
      (peer.packettokens + elapsed * config.packetspersecond)
    bytetokens := min config.byteburst
      (peer.bytetokens + elapsed * config.bytespersecond) }

/-- Both refilled buckets cover a packet of `bytes` bytes. -/
def coversRate (config : Config) (now : TimePoint) (peer : Peer) (bytes : Nat) : Bool :=
  let peer := refill config now peer
  ¬ (peer.packettokens < 1 ∨ peer.bytetokens < (bytes : ℚ))

/-- `State::consumeRate`: a refusal keeps the refill and takes nothing. -/
def consumeRate (config : Config) (now : TimePoint) (peer : Peer) (bytes : Nat) :
    Peer × Bool :=
  let filled := refill config now peer
  if coversRate config now peer bytes then
    ({ filled with
        packettokens := filled.packettokens - 1
        bytetokens := filled.bytetokens - bytes }, true)
  else (filled, false)

/-! ## Registration -/

/-- `addPeer`; `callback` tells whether the send callback is callable. -/
def addPeer (router : Router) (now : TimePoint) (connectionid : ConnectionId)
    (callback : Bool) : Router × Bool :=
  if connectionid = 0 ∨ callback = false then (router, false)
  else if connectionid ∈ router.peers then (router, false)
  else if router.config.maxconnections ≤ router.peers.keys.length then (router, false)
  else
    let peer : Peer :=
      { handle := router.nexthandle
        packettokens := router.config.packetburst
        bytetokens := router.config.byteburst
        ratetime := now }
    ({ router with
        peers := router.peers.insert connectionid peer
        nexthandle := router.nexthandle + 1 }, true)

/-- `removePeer`. -/
def removePeer (router : Router) (connectionid : ConnectionId) : Router :=
  { router with peers := router.peers.erase connectionid }

/-- `reset`. -/
def reset (router : Router) : Router :=
  { router with peers := ∅ }

/-- `setHearEnemiesVoice`. -/
def setHearEnemiesVoice (router : Router) (enable : Bool) : Router :=
  { router with hearEnemies := enable }

/-! ## Control calls -/

/-- A control call between its first locked section and its send: what the
source keeps in local variables. -/
structure ControlCall where
  connectionid : ConnectionId
  /-- The state a `setPeerState` publishes; `none` for a `clearPeerState`. -/
  requested : Option PeerState
  handle : Nat
  generation : UInt32
  deriving DecidableEq

/-- The packet a control call sends. -/
def ControlCall.control (call : ControlCall) : SessionPacket :=
  match call.requested with
  | some newstate =>
      { enabled := true
        sessionid := newstate.sessionid
        membershipgeneration := call.generation
        playerid := newstate.playerid }
  | none => { enabled := false }

/-- How the first locked section of a control call ends. -/
inductive ControlStart
  | done (result : Bool)
  | send (call : ControlCall)
  deriving DecidableEq

/-- The peer as `setPeerState` leaves it before the send. -/
def Peer.grant (config : Config) (now : TimePoint) (peer : Peer) (newstate : PeerState) : Peer :=
  if peer.hasstate ∧ peerStatesEqual peer.state newstate then peer
  else
    { peer with
      state := newstate
      hasstate := true
      controlpublished := false
      generation := nextGeneration peer.generation
      packettokens := config.packetburst
      bytetokens := config.byteburst
      ratetime := now }

/-- The first locked section of `setPeerState`, for a valid state. -/
def beginSetPeerState (router : Router) (now : TimePoint) (connectionid : ConnectionId)
    (newstate : PeerState) : Router × ControlStart :=
  match router.peers.lookup connectionid with
  | none => (router, .done false)
  | some peer =>
      if peer.hasstate ∧ peerStatesEqual peer.state newstate ∧ peer.controlpublished then
        (router, .done true)
      else
        let peer := peer.grant router.config now newstate
        ({ router with peers := router.peers.insert connectionid peer },
          .send ⟨connectionid, some newstate, peer.handle, peer.generation⟩)

/-- The peer as `clearPeerState` leaves it before the send. -/
def Peer.revoke (peer : Peer) : Peer :=
  if peer.hasstate then
    { peer with
      hasstate := false
      state := {}
      generation := nextGeneration peer.generation
      controlpublished := false }
  else { peer with controlpublished := false }

/-- The first locked section of `clearPeerState`. -/
def beginClearPeerState (router : Router) (connectionid : ConnectionId) :
    Router × ControlStart :=
  match router.peers.lookup connectionid with
  | none => (router, .done false)
  | some peer =>
      if peer.hasstate = false ∧ peer.controlpublished then (router, .done true)
      else
        let peer := peer.revoke
        ({ router with peers := router.peers.insert connectionid peer },
          .send ⟨connectionid, none, peer.handle, peer.generation⟩)

/-- The second locked section still finds the grant the call published. -/
def Peer.stillRequested (peer : Peer) (call : ControlCall) : Bool :=
  peer.handle == call.handle && peer.generation == call.generation &&
    match call.requested with
    | some newstate => peer.hasstate && peerStatesEqual peer.state newstate
    | none => !peer.hasstate

/-- The second locked section of `setPeerState` and `clearPeerState`, after a
send that succeeded. -/
def confirmControl (router : Router) (call : ControlCall) : Router × Bool :=
  match router.peers.lookup call.connectionid with
  | none => (router, false)
  | some peer =>
      if peer.stillRequested call then
        ({ router with
            peers := router.peers.insert call.connectionid
              { peer with controlpublished := true } }, true)
      else (router, false)

/-- A send callback returned false. -/
def countSendFailure (router : Router) : Router :=
  { router with stats := { router.stats with
      sendfailures := router.stats.sendfailures + 1 } }

/-- The rest of a control call, with the outcome of its send. -/
def finishControl (router : Router) (start : ControlStart) (sendOk : Bool) :
    Router × Bool × Option SessionPacket :=
  match start with
  | .done result => (router, result, none)
  | .send call =>
      if sendOk then
        let (router, result) := confirmControl router call
        (router, result, some call.control)
      else (countSendFailure router, false, some call.control)

/-- The first locked section of a control call: an invalid requested state is
a request to clear. -/
def beginControl (router : Router) (now : TimePoint) (connectionid : ConnectionId)
    (requested : Option PeerState) : Router × ControlStart :=
  match requested with
  | some newstate =>
      if isValidPeerState newstate then beginSetPeerState router now connectionid newstate
      else beginClearPeerState router connectionid
  | none => beginClearPeerState router connectionid

/-- `clearPeerState` as one call: the router, the result and the control handed
to the send callback. -/
def clearPeerState (router : Router) (connectionid : ConnectionId) (sendOk : Bool) :
    Router × Bool × Option SessionPacket :=
  let (router, start) := beginClearPeerState router connectionid
  finishControl router start sendOk

/-- `setPeerState` as one call. -/
def setPeerState (router : Router) (now : TimePoint) (connectionid : ConnectionId)
    (newstate : PeerState) (sendOk : Bool) : Router × Bool × Option SessionPacket :=
  if isValidPeerState newstate then
    let (router, start) := beginSetPeerState router now connectionid newstate
    finishControl router start sendOk
  else clearPeerState router connectionid sendOk

/-! ## Relay -/

/-- `reportMalformedPacket`. -/
def reportMalformedPacket (router : Router) : Router :=
  { router with stats := { router.stats with
      malformedpackets := router.stats.malformedpackets + 1 } }

/-- The uplink is counted as received. -/
def countReceived (router : Router) (packet : UplinkPacket) : Router :=
  { router with stats := { router.stats with
      receivedpackets := router.stats.receivedpackets + 1
      receivedbytes := router.stats.receivedbytes + packet.payload.length } }

/-- The guard on the sender in `handleVoicePacket`. -/
def Peer.maySend (sender : Peer) (packet : UplinkPacket) : Bool :=
  sender.hasstate ∧ sender.controlpublished ∧ sender.state.cantransmit ∧
    isValidPeerState sender.state ∧ packet.sessionid = sender.state.sessionid ∧
    packet.membershipgeneration = sender.generation

/-- `canHear`, with the alternatives for team zero as the source has them. -/
def canHear (hearEnemies : Bool) (peer senderstate : PeerState) : Bool :=
  hearEnemies ∨ peer.teamid = 0 ∨ senderstate.teamid = 0 ∨ peer.teamid = senderstate.teamid

/-- The guard on a recipient in the relay loop. -/
def Peer.mayHear (peer : Peer) (hearEnemies : Bool) (senderstate : PeerState) : Bool :=
  peer.hasstate ∧ peer.controlpublished ∧ peer.state.canreceive ∧
    isValidPeerState peer.state ∧ peer.state.sessionid = senderstate.sessionid ∧
    canHear hearEnemies peer.state senderstate

/-- The recipients the relay loop collects, in table order. -/
def recipients (router : Router) (senderconnectionid : ConnectionId)
    (senderstate : PeerState) : List (ConnectionId × Peer) :=
  (router.peers.entries.filter fun item =>
    item.1 ≠ senderconnectionid ∧ item.2.mayHear router.hearEnemies senderstate).map
      fun item => (item.1, item.2)

/-- The packet relayed to one recipient. -/
def relayPacket (packet : UplinkPacket) (sender recipient : Peer) : DownlinkPacket :=
  { flags := packet.flags
    sessionid := sender.state.sessionid
    recipientgeneration := recipient.generation
    speakerid := sender.state.playerid
    speakergeneration := sender.generation
    streamgeneration := packet.streamgeneration
    sequence := packet.sequence
    sampleposition := packet.sampleposition
    payload := packet.payload }

/-- One send of the relay loop is counted by its outcome. -/
def Stats.countRelay (stats : Stats) (bytes : Nat) (sendOk : Bool) : Stats :=
  if sendOk then
    { stats with
      relayedpackets := stats.relayedpackets + 1
      relayedbytes := stats.relayedbytes + bytes }
  else { stats with sendfailures := stats.sendfailures + 1 }

/-- The locked part of `handleVoicePacket`, for an uplink that passed its
validator: the router it leaves, the sender and the recipients when the packet
is routed. -/
def routeVoicePacket (router : Router) (now : TimePoint) (senderconnectionid : ConnectionId)
    (packet : UplinkPacket) : Router × Option (Peer × List (ConnectionId × Peer)) :=
  let rejected := { router with stats := { router.stats with
    routingrejections := router.stats.routingrejections + 1 } }
  match router.peers.lookup senderconnectionid with
  | none => (rejected, none)
  | some sender =>
      if sender.maySend packet then
        let (sender, covered) := consumeRate router.config now sender packet.payload.length
        let charged := { router with peers := router.peers.insert senderconnectionid sender }
        if covered then
          (charged, some (sender, recipients charged senderconnectionid sender.state))
        else
          ({ charged with stats := { charged.stats with
              ratelimitedpackets := charged.stats.ratelimitedpackets + 1 } }, none)
      else (rejected, none)

/-- `handleVoicePacket`: the router it leaves and the downlinks handed to the
send callbacks, whose outcomes are `sendOk`. -/
def handleVoicePacket (router : Router) (now : TimePoint) (senderconnectionid : ConnectionId)
    (packet : UplinkPacket) (sendOk : ConnectionId → Bool) :
    Router × List (ConnectionId × DownlinkPacket) :=
  if validateTeamVoiceUplinkPacket packet ≠ .none then (reportMalformedPacket router, [])
  else
    match routeVoicePacket (countReceived router packet) now senderconnectionid packet with
    | (router, none) => (router, [])
    | (router, some (sender, listeners)) =>
        ({ router with
            stats := listeners.foldl (fun stats listener =>
              stats.countRelay packet.payload.length (sendOk listener.1)) router.stats },
          listeners.map fun listener =>
            (listener.1, relayPacket packet sender listener.2))

end Voice
