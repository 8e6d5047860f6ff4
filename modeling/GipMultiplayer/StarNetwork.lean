import GipMultiplayer.LobbyPassword
import GipMultiplayer.RoomInvariants

/-!
# The host in the middle of its clients

Clients talk to each other through the host only.  What one of them does in the
match is handed to every other one by the network thread, the moment it arrives;
the host's own player is heard by all.  Every session keeps its order, so what a
client is sent is a list that only grows.

* `Message`, `Peer` — what goes down to a client, and all that has gone;
* `outgoing`, `step` — what an action sends, and one action;
* `step_sessions` — who is on the list after an action;
* `Linked` — sessions and peers;
* `Grown` — what a session was sent only grows, and off the list by replies;
* `star_relay` — every event reaches every other client once, in order.
-/

namespace StarNet

open Lobby (Packet Host HostConfig HostAction Env RoomPlayerInfo NodeState ChatMessage Session Bytes
  broadcastAll broadcastOthers)
open Voice (ConnectionId)
open Exec (exec)

/-! ## What is sent -/

/-- Three floats, as their bits. -/
structure Vec3 where
  x : UInt32 := 0
  y : UInt32 := 0
  z : UInt32 := 0
  deriving DecidableEq

/-- What a player does in the match: `NodeStatePacket`, `PlayerFirePacket`,
`PlayerHitPacket` and `PlayerKilledPacket`. -/
inductive Event
  | nodeState (netid : UInt32) (state : NodeState)
  | fire (shooterId : UInt32) (gunType : UInt8) (origin dir : Vec3)
  | hit (attackerId victimId damage : UInt32)
  | killed (killerId victimId : UInt32)
  deriving DecidableEq

/-- The packet of an event, as the host keeps it. -/
def Event.packet : Event → Packet
  | .nodeState netid state => .nodeState netid state
  | .fire shooterId _ _ _ => .playerFire shooterId
  | .hit attackerId victimId _ => .playerHit attackerId victimId
  | .killed killerId victimId => .playerKilled killerId victimId

/-- What the host sends to a client. -/
inductive Message
  | event (event : Event)
  | nodeLeave (netid : UInt32)
  | lobbyState (isGlobalServer matchInProgress : Bool) (roomCode : Bytes)
      (roomPlayers : List RoomPlayerInfo)
  | startMatch
  | lobbyKick (reason : Bytes)
  | keepAlive
  | pong (timestamp : UInt64)
  | chatMessage (message : ChatMessage)
  | pingSnapshot (playerPings : List (UInt32 × Int))

/-- A session the host has adopted: how many events had been handled by then,
and all that was sent on it. -/
structure Peer where
  id : ConnectionId
  since : Nat
  sent : List Message := []

/-- The host and its peers.  `handled` has the events that came in, with the
session they came in on; the host's own have none. -/
structure System where
  host : Host := {}
  assignedRoomCode : Bytes := []
  codeTasks : Nat := 0
  handled : List (Option ConnectionId × Event) := []
  peers : List Peer := []

/-- What of all that is sent goes to one session. -/
def toward (c : ConnectionId) (sends : List (ConnectionId × Message)) : List Message :=
  (sends.filter (·.1 = c)).map Prod.snd

/-- The sends are put on the session. -/
def Peer.send (sends : List (ConnectionId × Message)) (peer : Peer) : Peer :=
  { peer with sent := peer.sent ++ toward peer.id sends }

/-- `broadcast`. -/
def broadcast (recipients : List ConnectionId) (message : Message) :
    List (ConnectionId × Message) :=
  recipients.map fun c => (c, message)

/-- The packet of `broadcastLobbyState`. -/
def lobbyState (config : HostConfig) (roomCode : Bytes) (host : Host) : Message :=
  .lobbyState config.isDedicatedServer host.matchInProgress roomCode host.roomPlayers

/-! ## One action -/

/-- An action of the host, an event off the network or of the host's own player,
or what happens beside the lobby: the master assigns a room code, and `update`
sends keepalives and pings. -/
inductive Action
  | host (action : HostAction)
  | event (c : ConnectionId) (event : Event)
  | own (event : Event)
  | assignRoomCode (code : Bytes)
  | keepAlive
  | pingSnapshot

/-- The reason of the kick a wrong password is answered with. -/
def passwordRequired : Bytes := "PASSWORD_REQUIRED".toUTF8.toList

/-- What the network thread answers to a packet that is no event. -/
def answers (config : HostConfig) (c : ConnectionId) : Packet → List (ConnectionId × Message)
  | .lobbyJoin _ _ password =>
      if config.isPrivateServer ∧ config.serverPassword ≠ password then
        [(c, .lobbyKick passwordRequired)]
      else []
  | .ping timestamp _ => [(c, .pong timestamp)]
  | _ => []

/-- What an action of the host sends, when it leaves the host as `after`. -/
def outgoing (config : HostConfig) (s : System) (after : Host) :
    HostAction → List (ConnectionId × Message)
  | .packet c packet => answers config c packet
  | .disconnected c =>
      match (s.host.session? c).bind Session.leaveId with
      | some id => broadcast (broadcastAll after) (.nodeLeave id)
      | none => []
  | .sweep =>
      (s.host.sessions.filterMap Session.deadId).flatMap fun dead =>
        broadcast (broadcastAll after) (.nodeLeave dead.2)
  | .kick playerId =>
      ((s.host.sessions.find? fun session =>
        session.listed ∧ session.tag = some playerId).map fun session =>
          (session.id, Message.lobbyKick [])).toList ++
        if s.host.roomPlayers.any (·.id == playerId) then
          broadcast (broadcastAll s.host) (lobbyState config s.assignedRoomCode after)
        else []
  | .process =>
      match s.host.batch with
      | queued :: _ =>
          (if Lobby.broadcastsLobby config s.host.roomPlayers queued.packet then
            broadcast (broadcastAll s.host) (lobbyState config s.assignedRoomCode after)
          else []) ++
            (Lobby.newRelays s.host after).flatMap fun relay =>
              broadcast relay.recipients (.chatMessage relay.message)
      | [] => []
  | .roomCode => broadcast (broadcastAll s.host) (lobbyState config s.assignedRoomCode after)
  | .own call =>
      -- a start goes to the network as well as to the host's own queue
      if (call.packet config s.host).any Packet.isStart then
        broadcast (broadcastAll s.host) .startMatch
      else []
  | _ => []

/-- The peers, with one more for a session that is adopted. -/
def adopt (s : System) : HostAction → List Peer
  | .connect c true _ => s.peers ++ [{ id := c, since := s.handled.length }]
  | _ => s.peers

/-- The action is an event off the network. -/
def isEvent : HostAction → Bool
  | .packet _ packet => packet.rebroadcast.isSome
  | _ => false

/-- The host has performed an action. -/
def performed (config : HostConfig) (s : System) (action : HostAction) (after : Host) : System :=
  { s with
    host := after
    codeTasks :=
      match action with
      | .roomCode => s.codeTasks - 1
      | _ => s.codeTasks
    peers := (adopt s action).map (Peer.send (outgoing config s after action)) }

/-- An event has been handled, and handed to the recipients. -/
def System.relay (s : System) (origin : Option ConnectionId) (event : Event)
    (recipients : List ConnectionId) : System :=
  { s with
    handled := s.handled ++ [(origin, event)]
    peers := s.peers.map (Peer.send (broadcast recipients (.event event))) }

/-- One step. -/
def step (config : HostConfig) (s : System) (a : Env × Action) : Option System :=
  match a.2 with
  | .host action =>
      if isEvent action then none
      else (Lobby.step config s.host (a.1, action)).map (performed config s action)
  | .event c event =>
      (Lobby.step config s.host (a.1, .packet c event.packet)).map fun after =>
        { s.relay (some c) event (broadcastOthers s.host c) with host := after }
  | .own event => some (s.relay none event (broadcastAll s.host))
  | .assignRoomCode code =>
      -- the broadcast is left to the main thread
      some { s with assignedRoomCode := code, codeTasks := s.codeTasks + 1 }
  | .keepAlive =>
      some { s with peers := s.peers.map (Peer.send (broadcast (broadcastAll s.host) .keepAlive)) }
  | .pingSnapshot =>
      some { s with
        peers := s.peers.map (Peer.send (broadcast (broadcastAll s.host)
          (.pingSnapshot (s.host.hostPlayerPings.entries.map fun kv => (kv.1, kv.2))))) }

/-- The host as `start` leaves it. -/
def start (config : HostConfig) (env : Env) : System := { host := Lobby.start config env }

variable {config : HostConfig} {env : Env} {s t : System} {host after : Host}

/-! ## The sessions -/

/-- Sessions are changed one by one, and none of them comes back on the list. -/
def Fewer (before after : List Session) : Prop :=
  ∃ f : Session → Session, after = before.map f ∧
    ∀ session, (f session).id = session.id ∧
      ((f session).listed = true → session.listed = true)

theorem Fewer.refl (sessions : List Session) : Fewer sessions sessions :=
  ⟨id, (List.map_id _).symm, fun _ => ⟨rfl, id⟩⟩

/-- A change of one session. -/
theorem fewer_modifySession (host : Host) (c : ConnectionId) {f : Session → Session}
    (hid : ∀ session, (f session).id = session.id)
    (hlisted : ∀ session, (f session).listed = true → session.listed = true) :
    Fewer host.sessions (host.modifySession c f).sessions := by
  refine ⟨_, rfl, fun session => ?_⟩
  split_ifs
  · exact ⟨hid session, hlisted session⟩
  · exact ⟨rfl, id⟩

theorem Fewer.ids {before after : List Session} (h : Fewer before after) :
    after.map (·.id) = before.map (·.id) := by
  obtain ⟨f, rfl, hf⟩ := h
  rw [List.map_map]
  exact List.map_congr_left fun session _ => (hf session).1

/-- The list of the sessions a broadcast goes to. -/
theorem mem_broadcastAll {c : ConnectionId} :
    c ∈ broadcastAll host ↔ ∃ session ∈ host.sessions, session.listed = true ∧ session.id = c := by
  unfold Lobby.broadcastAll
  rw [List.mem_map]
  constructor
  · rintro ⟨session, hmem, hid⟩
    obtain ⟨hsession, hlisted⟩ := List.mem_filter.mp hmem
    exact ⟨session, hsession, by simpa using hlisted, hid⟩
  · rintro ⟨session, hsession, hlisted, hid⟩
    exact ⟨session, List.mem_filter.mpr ⟨hsession, by simpa using hlisted⟩, hid⟩

theorem Fewer.broadcastAll {c : ConnectionId} (h : Fewer host.sessions after.sessions)
    (hc : c ∈ broadcastAll after) : c ∈ broadcastAll host := by
  obtain ⟨f, hsessions, hf⟩ := h
  obtain ⟨session', hmem, hlisted, hid⟩ := mem_broadcastAll.mp hc
  rw [hsessions] at hmem
  obtain ⟨session, hsession, rfl⟩ := List.mem_map.mp hmem
  exact mem_broadcastAll.mpr
    ⟨session, hsession, (hf session).2 hlisted, (hf session).1.symm.trans hid⟩

/-- The network thread tags sessions and changes nothing else of them. -/
theorem onPacket_fewer (session : Session) (packet : Packet) :
    Fewer host.sessions (Lobby.onPacket config env host session packet).sessions := by
  cases packet with
  | nodeState netid state => exact fewer_modifySession _ _ (fun _ => rfl) fun _ => id
  | lobbyJoin senderId playerName password =>
      unfold Lobby.onPacket
      dsimp only
      split_ifs
      · exact .refl _
      · exact fewer_modifySession _ _ (fun _ => rfl) fun _ => id
  | ping timestamp reportedPing =>
      unfold Lobby.onPacket
      dsimp only
      split
      · split_ifs <;> exact .refl _
      · exact .refl _
  | _ => exact .refl _

/-- The main thread leaves the sessions alone. -/
theorem onPacketReceived_sessions (queued : Lobby.Queued) :
    (Lobby.onPacketReceived config env host queued).sessions = host.sessions :=
  (@Lobby.onPacketReceived_processed config env host queued).sessions

/-- **Who is on the list after an action**: one session more after a connect,
and else no one who was not on it. -/
theorem step_sessions {action : HostAction}
    (h : Lobby.step config host (env, action) = some after) :
    (∃ c adopted zdt, action = .connect c adopted zdt ∧ host.session? c = none ∧
        after.sessions = host.sessions ++ [{ id := c, adopted := adopted, listed := adopted }]) ∨
      (∀ c adopted zdt, action ≠ .connect c adopted zdt) ∧ Fewer host.sessions after.sessions := by
  have hperformed := Lobby.step_performed h
  cases hperformed with
  | connect c adopted zdt hnew =>
      refine .inl ⟨c, adopted, zdt, rfl, hnew, ?_⟩
      unfold Lobby.connect
      dsimp only
      split_ifs <;> rfl
  | packet c packet session =>
      exact .inr ⟨by simp, @onPacket_fewer config env { host with synced := false } session packet⟩
  | die c => exact .inr ⟨by simp, fewer_modifySession _ _ (fun _ => rfl) fun _ => id⟩
  | disconnected c session =>
      refine .inr ⟨by simp, ?_⟩
      unfold Lobby.onPeerDisconnected
      dsimp only
      split
      · split_ifs
        · exact fewer_modifySession _ _ (fun _ => rfl) fun _ hlisted => by cases hlisted
        · exact fewer_modifySession _ _ (fun _ => rfl) fun _ hlisted => by cases hlisted
      · exact fewer_modifySession _ _ (fun _ => rfl) fun _ hlisted => by cases hlisted
  | process queued rest => exact .inr ⟨by simp, by rw [onPacketReceived_sessions]; exact .refl _⟩
  | sweep =>
      rw [Lobby.sweepSessions_eq]
      refine .inr ⟨by simp, Session.sweep, rfl, fun session => ?_⟩
      unfold Lobby.Session.sweep
      split_ifs
      · exact ⟨rfl, fun hlisted => by cases hlisted⟩
      · exact ⟨rfl, id⟩
  | kick playerId =>
      unfold Lobby.kickPlayer
      refine .inr ⟨by simp, ?_⟩
      split_ifs <;> exact .refl _
  | _ => exact .inr ⟨by simp, .refl _⟩

/-! ## What goes to one session -/

/-- The event a message carries. -/
def Message.event? : Message → Option Event
  | .event e => some e
  | _ => none

/-- The events among what was sent. -/
def events (messages : List Message) : List Event := messages.filterMap Message.event?

theorem toward_append (c : ConnectionId) (first rest : List (ConnectionId × Message)) :
    toward c (first ++ rest) = toward c first ++ toward c rest := by
  rw [toward, List.filter_append, List.map_append]
  rfl

theorem mem_toward {c : ConnectionId} {sends : List (ConnectionId × Message)} {message : Message} :
    message ∈ toward c sends ↔ (c, message) ∈ sends := by
  unfold toward
  constructor
  · intro h
    obtain ⟨⟨d, _⟩, hmem, rfl⟩ := List.mem_map.mp h
    obtain ⟨hsend, hd⟩ := List.mem_filter.mp hmem
    obtain rfl : d = c := by simpa using hd
    exact hsend
  · intro h
    exact List.mem_map.mpr ⟨(c, message), List.mem_filter.mpr ⟨h, by simp⟩, rfl⟩

theorem mem_broadcast {recipients : List ConnectionId} {message : Message}
    {send : ConnectionId × Message} (h : send ∈ broadcast recipients message) :
    send.1 ∈ recipients ∧ send.2 = message := by
  obtain ⟨c, hc, rfl⟩ := List.mem_map.mp h
  exact ⟨hc, rfl⟩

/-- **A broadcast goes to each of its recipients once.** -/
theorem toward_broadcast {recipients : List ConnectionId} (h : recipients.Nodup)
    (c : ConnectionId) (message : Message) :
    toward c (broadcast recipients message) = if c ∈ recipients then [message] else [] := by
  induction recipients with
  | nil => rfl
  | cons d rest ih =>
      obtain ⟨hd, hrest⟩ := List.nodup_cons.mp h
      have hcons : broadcast (d :: rest) message = [(d, message)] ++ broadcast rest message := rfl
      rw [hcons, toward_append, ih hrest]
      by_cases hc : d = c
      · subst hc
        rw [if_neg hd, if_pos List.mem_cons_self]
        simp [toward]
      · have hmem : c ∈ d :: rest ↔ c ∈ rest := by
          rw [List.mem_cons]
          exact or_iff_right fun heq => hc heq.symm
        simp [toward, hc, hmem]

/-- The list a broadcast goes to has every session once. -/
theorem broadcastAll_nodup (h : (host.sessions.map (·.id)).Nodup) : (broadcastAll host).Nodup :=
  h.sublist (List.filter_sublist.map _)

theorem broadcastOthers_eq (host : Host) (c : ConnectionId) :
    broadcastOthers host c = (broadcastAll host).filter (· ≠ c) := by
  unfold Lobby.broadcastOthers Lobby.broadcastAll
  rw [List.filter_map, List.filter_filter]
  congr 1
  refine List.filter_congr fun session _ => ?_
  simp [Bool.and_comm]

/-- Only an event off the network, or of the host's own player, sends events. -/
theorem outgoing_quiet {action : HostAction} {send : ConnectionId × Message}
    (h : send ∈ outgoing config s after action) : send.2.event? = none := by
  cases action with
  | packet c packet =>
      cases packet with
      | lobbyJoin senderId playerName password =>
          simp only [outgoing, answers] at h
          split_ifs at h
          · rw [List.mem_singleton.mp h]
            rfl
          · cases h
      | ping timestamp reportedPing =>
          rw [List.mem_singleton.mp h]
          rfl
      | _ => cases h
  | disconnected c =>
      simp only [outgoing] at h
      split at h
      · rw [(mem_broadcast h).2]
        rfl
      · cases h
  | sweep =>
      obtain ⟨dead, _, hsend⟩ := List.mem_flatMap.mp h
      rw [(mem_broadcast hsend).2]
      rfl
  | kick playerId =>
      rcases List.mem_append.mp h with hkick | hlobby
      · obtain ⟨session, _, rfl⟩ := Option.map_eq_some_iff.mp (Option.mem_toList.mp hkick)
        rfl
      · split_ifs at hlobby
        · rw [(mem_broadcast hlobby).2]
          rfl
        · cases hlobby
  | process =>
      simp only [outgoing] at h
      split at h
      · rcases List.mem_append.mp h with hlobby | hchat
        · split_ifs at hlobby
          · rw [(mem_broadcast hlobby).2]
            rfl
          · cases hlobby
        · obtain ⟨relay, _, hsend⟩ := List.mem_flatMap.mp hchat
          rw [(mem_broadcast hsend).2]
          rfl
      · cases h
  | roomCode =>
      rw [(mem_broadcast h).2]
      rfl
  | own call =>
      simp only [outgoing] at h
      split_ifs at h
      · rw [(mem_broadcast h).2]
        rfl
      · cases h
  | _ => cases h

/-- A reply goes to the session that asked, on the list or off it: a pong, or the
kick that answers a wrong password. -/
def Message.isReply : Message → Bool
  | .pong _ => true
  | .lobbyKick reason => reason = passwordRequired
  | _ => false

/-- A tag finds a session of the list. -/
theorem tagged_listed {netId : UInt32} {session : Session}
    (h : host.sessions.find? (fun session => session.listed ∧ session.tag = some netId) =
      some session) : session.id ∈ broadcastAll host := by
  have hlisted := List.find?_some h
  simp only [Bool.decide_and, Bool.and_eq_true, decide_eq_true_eq] at hlisted
  exact mem_broadcastAll.mpr ⟨session, List.mem_of_find?_eq_some h, hlisted.1, rfl⟩

theorem sendToPlayer_listed {netId : UInt32} {c : ConnectionId}
    (h : c ∈ Lobby.sendToPlayer host netId) : c ∈ broadcastAll host := by
  obtain ⟨session, hfound, rfl⟩ := Option.map_eq_some_iff.mp (Option.mem_toList.mp h)
  exact tagged_listed hfound

/-- Chat goes to sessions of the list. -/
theorem relayChat_listed {message : ChatMessage} {c : ConnectionId}
    (h : c ∈ Lobby.relayChat host message) : c ∈ broadcastAll host := by
  unfold Lobby.relayChat at h
  split_ifs at h with hall hteam hprivate hself
  · exact h
  · split at h
    · cases h
    · obtain ⟨rp, -, hc⟩ := List.mem_flatMap.mp h
      exact sendToPlayer_listed hc
  · exact (List.mem_append.mp h).elim sendToPlayer_listed sendToPlayer_listed
  · exact sendToPlayer_listed (List.append_nil _ ▸ h)
  · cases h

/-- **Off the list a session is sent replies only.** -/
theorem outgoing_unlisted {action : HostAction} {c : ConnectionId} {message : Message}
    (hstep : Lobby.step config s.host (env, action) = some after)
    (hc : c ∉ broadcastAll s.host) (hafter : c ∉ broadcastAll after)
    (h : (c, message) ∈ outgoing config s after action) : message.isReply = true := by
  cases action with
  | packet d packet =>
      cases packet with
      | lobbyJoin senderId playerName password =>
          simp only [outgoing, answers] at h
          split_ifs at h
          · obtain ⟨-, rfl⟩ := Prod.mk.inj (List.mem_singleton.mp h)
            exact decide_eq_true rfl
          · cases h
      | ping timestamp reportedPing =>
          obtain ⟨-, rfl⟩ := Prod.mk.inj (List.mem_singleton.mp h)
          rfl
      | _ => cases h
  | disconnected d =>
      simp only [outgoing] at h
      split at h
      · exact absurd (mem_broadcast h).1 hafter
      · cases h
  | sweep =>
      obtain ⟨dead, _, hsend⟩ := List.mem_flatMap.mp h
      exact absurd (mem_broadcast hsend).1 hafter
  | kick playerId =>
      rcases List.mem_append.mp h with hkick | hlobby
      · obtain ⟨session, hfound, heq⟩ := Option.map_eq_some_iff.mp (Option.mem_toList.mp hkick)
        obtain ⟨rfl, -⟩ := Prod.mk.inj heq
        exact absurd (tagged_listed hfound) hc
      · split_ifs at hlobby
        · exact absurd (mem_broadcast hlobby).1 hc
        · cases hlobby
  | process =>
      obtain ⟨queued, rest, hbatch, hprocessed⟩ := Lobby.process_performed hstep
      simp only [outgoing, hbatch] at h
      rcases List.mem_append.mp h with hlobby | hchat
      · split_ifs at hlobby
        · exact absurd (mem_broadcast hlobby).1 hc
        · cases hlobby
      · obtain ⟨relay, hrelay, hsend⟩ := List.mem_flatMap.mp hchat
        rw [hprocessed] at hrelay
        have hrelays := @Lobby.onPacketReceived_relays config env
          { s.host with synced := false, batch := rest } queued
        rcases hrelays with hnone | ⟨_, relay', -, hone, -, -, hrecipients⟩
        · exact absurd hrelay (hnone ▸ List.not_mem_nil)
        · obtain rfl := List.mem_singleton.mp (hone ▸ hrelay)
          have hmem := (mem_broadcast hsend).1
          rw [hrecipients] at hmem
          exact absurd (relayChat_listed hmem) hc
  | roomCode => exact absurd (mem_broadcast h).1 hc
  | own call =>
      simp only [outgoing] at h
      split_ifs at h
      · exact absurd (mem_broadcast h).1 hc
      · cases h
  | _ => cases h

theorem events_quiet {sends : List (ConnectionId × Message)}
    (h : ∀ send ∈ sends, send.2.event? = none) (c : ConnectionId) :
    events (toward c sends) = [] := by
  refine List.filterMap_eq_nil_iff.mpr fun message hmessage => ?_
  exact h _ (mem_toward.mp hmessage)

/-! ## The invariant -/

/-- What a peer should have been sent: the events since it was adopted, but for
its own. -/
def heard (handled : List (Option ConnectionId × Event)) (peer : Peer) : List Event :=
  ((handled.drop peer.since).filter (·.1 ≠ some peer.id)).map Prod.snd

/-- **Sessions, peers and events.** -/
structure Linked (host : Host) (handled : List (Option ConnectionId × Event))
    (peers : List Peer) : Prop where
  sessions : (host.sessions.map (·.id)).Nodup
  known : ∀ peer ∈ peers, ∃ session ∈ host.sessions, session.id = peer.id
  listed : ∀ c ∈ broadcastAll host, ∃ peer ∈ peers, peer.id = c
  since : ∀ peer ∈ peers, peer.since ≤ handled.length
  behind : ∀ peer ∈ peers, events peer.sent <+: heard handled peer
  exact : ∀ peer ∈ peers, peer.id ∈ broadcastAll host → events peer.sent = heard handled peer

variable {handled : List (Option ConnectionId × Event)} {peers : List Peer}

/-- Sends that carry no event change nothing. -/
theorem Linked.send (h : Linked host handled peers) {sends : List (ConnectionId × Message)}
    (hquiet : ∀ send ∈ sends, send.2.event? = none) :
    Linked host handled (peers.map (Peer.send sends)) := by
  have hevents : ∀ peer : Peer, events (peer.send sends).sent = events peer.sent := by
    intro peer
    show events (peer.sent ++ toward peer.id sends) = _
    rw [events, List.filterMap_append]
    exact (congrArg _ (events_quiet hquiet peer.id)).trans (List.append_nil _)
  refine ⟨h.sessions, ?_, ?_, ?_, ?_, ?_⟩
  · intro peer' hpeer'
    obtain ⟨peer, hpeer, rfl⟩ := List.mem_map.mp hpeer'
    exact h.known peer hpeer
  · intro c hc
    obtain ⟨peer, hpeer, hid⟩ := h.listed c hc
    exact ⟨_, List.mem_map_of_mem hpeer, hid⟩
  · intro peer' hpeer'
    obtain ⟨peer, hpeer, rfl⟩ := List.mem_map.mp hpeer'
    exact h.since peer hpeer
  · intro peer' hpeer'
    obtain ⟨peer, hpeer, rfl⟩ := List.mem_map.mp hpeer'
    rw [hevents]
    exact h.behind peer hpeer
  · intro peer' hpeer' hlisted
    obtain ⟨peer, hpeer, rfl⟩ := List.mem_map.mp hpeer'
    rw [hevents]
    exact h.exact peer hpeer hlisted

/-- Sessions may leave the list. -/
theorem Linked.fewer (h : Linked host handled peers)
    (hfewer : Fewer host.sessions after.sessions) : Linked after handled peers := by
  refine ⟨hfewer.ids ▸ h.sessions, ?_, fun c hc => h.listed c (hfewer.broadcastAll hc), h.since,
    h.behind, fun peer hpeer hlisted => h.exact peer hpeer (hfewer.broadcastAll hlisted)⟩
  intro peer hpeer
  obtain ⟨session, hsession, hid⟩ := h.known peer hpeer
  obtain ⟨f, hsessions, hf⟩ := hfewer
  rw [hsessions]
  exact ⟨f session, List.mem_map_of_mem hsession, (hf session).1.trans hid⟩

/-- **An event is handled**: it goes to everyone on the list but its origin. -/
theorem Linked.relay (h : Linked host handled peers) (origin : Option ConnectionId)
    (event : Event) :
    Linked host (handled ++ [(origin, event)])
      (peers.map (Peer.send (broadcast ((broadcastAll host).filter (some · ≠ origin))
        (.event event)))) := by
  have hheard : ∀ peer ∈ peers, heard (handled ++ [(origin, event)]) peer =
      heard handled peer ++ if origin ≠ some peer.id then [event] else [] := by
    intro peer hpeer
    unfold heard
    rw [List.drop_append_of_le_length (h.since peer hpeer), List.filter_append, List.map_append]
    congr 1
    split_ifs with horigin
    · rw [List.filter_cons_of_pos (by simpa using horigin)]
      rfl
    · rw [List.filter_cons_of_neg (by simpa using horigin)]
      rfl
  have hsent : ∀ peer : Peer, events (peer.send (broadcast
      ((broadcastAll host).filter (some · ≠ origin)) (.event event))).sent =
        events peer.sent ++
          if peer.id ∈ (broadcastAll host).filter (some · ≠ origin) then [event] else [] := by
    intro peer
    show events (peer.sent ++ toward peer.id _) = _
    rw [toward_broadcast ((broadcastAll_nodup h.sessions).filter _), events, List.filterMap_append]
    congr 1
    split_ifs <;> rfl
  refine ⟨h.sessions, ?_, ?_, ?_, ?_, ?_⟩
  · intro peer' hpeer'
    obtain ⟨peer, hpeer, rfl⟩ := List.mem_map.mp hpeer'
    exact h.known peer hpeer
  · intro c hc
    obtain ⟨peer, hpeer, hid⟩ := h.listed c hc
    exact ⟨_, List.mem_map_of_mem hpeer, hid⟩
  · intro peer' hpeer'
    obtain ⟨peer, hpeer, rfl⟩ := List.mem_map.mp hpeer'
    have hsince := h.since peer hpeer
    show peer.since ≤ (handled ++ [(origin, event)]).length
    rw [List.length_append]
    omega
  · intro peer' hpeer'
    obtain ⟨peer, hpeer, rfl⟩ := List.mem_map.mp hpeer'
    show _ <+: heard (handled ++ [(origin, event)]) peer
    rw [hsent, hheard peer hpeer]
    by_cases hlisted : peer.id ∈ broadcastAll host
    · rw [h.exact peer hpeer hlisted]
      refine (List.prefix_append_right_inj _).mpr ?_
      simp only [List.mem_filter, hlisted, true_and, decide_eq_true_eq]
      split_ifs with hsome hother
      · exact List.prefix_rfl
      · exact absurd (Ne.symm hsome) hother
      · exact List.nil_prefix
      · exact List.prefix_rfl
    · rw [if_neg fun hmem => hlisted (List.mem_filter.mp hmem).1, List.append_nil]
      exact (h.behind peer hpeer).trans (List.prefix_append _ _)
  · intro peer' hpeer' hlisted
    obtain ⟨peer, hpeer, rfl⟩ := List.mem_map.mp hpeer'
    show _ = heard (handled ++ [(origin, event)]) peer
    have hmem : peer.id ∈ (broadcastAll host).filter (some · ≠ origin) ↔ origin ≠ some peer.id := by
      rw [List.mem_filter, decide_eq_true_eq]
      exact ⟨fun hboth => hboth.2.symm, fun hne => ⟨hlisted, hne.symm⟩⟩
    rw [hsent, hheard peer hpeer, h.exact peer hpeer hlisted]
    simp only [hmem]

/-- **A session is adopted**, or one of the query server is opened. -/
theorem Linked.connect (h : Linked host handled peers) {c : ConnectionId} {adopted : Bool}
    (hnew : host.session? c = none)
    (hsessions : after.sessions =
      host.sessions ++ [{ id := c, adopted := adopted, listed := adopted }]) :
    Linked after handled
      (if adopted then peers ++ [{ id := c, since := handled.length }] else peers) := by
  have hfresh : ∀ session ∈ host.sessions, session.id ≠ c := by
    intro session hsession hid
    exact List.find?_eq_none.mp hnew session hsession (by simpa using hid)
  have hlist : ∀ d, d ∈ broadcastAll after ↔
      d ∈ broadcastAll host ∨ adopted = true ∧ d = c := by
    intro d
    rw [mem_broadcastAll, mem_broadcastAll, hsessions]
    simp only [List.mem_append, List.mem_singleton, or_and_right, exists_or, exists_eq_left]
    refine or_congr_right (and_congr_right fun _ => ?_)
    exact eq_comm
  have hold : ∀ peer ∈ peers, peer.id ∈ broadcastAll after → peer.id ∈ broadcastAll host := by
    intro peer hpeer hmem
    rcases (hlist _).mp hmem with hbefore | ⟨_, hid⟩
    · exact hbefore
    · obtain ⟨session, hsession, hsame⟩ := h.known peer hpeer
      exact absurd (hsame.trans hid) (hfresh session hsession)
  have hknown : ∀ peer ∈ peers, ∃ session ∈ after.sessions, session.id = peer.id := by
    intro peer hpeer
    obtain ⟨session, hsession, hid⟩ := h.known peer hpeer
    exact ⟨session, by rw [hsessions]; exact List.mem_append_left _ hsession, hid⟩
  have hnodup : (after.sessions.map (·.id)).Nodup := by
    rw [hsessions, List.map_append]
    refine h.sessions.append (List.nodup_singleton _) ?_
    intro d hd hc
    obtain ⟨session, hsession, rfl⟩ := List.mem_map.mp hd
    exact hfresh session hsession (List.mem_singleton.mp hc)
  cases adopted with
  | false =>
      refine ⟨hnodup, hknown, fun d hd => h.listed d ?_, h.since, h.behind,
        fun peer hpeer hmem => h.exact peer hpeer (hold peer hpeer hmem)⟩
      rcases (hlist d).mp hd with hbefore | ⟨hfalse, _⟩
      · exact hbefore
      · cases hfalse
  | true =>
      have hempty : heard handled { id := c, since := handled.length } = [] := by
        unfold heard
        rw [List.drop_length]
        rfl
      simp only [if_true]
      refine ⟨hnodup, ?_, ?_, ?_, ?_, ?_⟩
      · intro peer hpeer
        rcases List.mem_append.mp hpeer with hbefore | hone
        · exact hknown peer hbefore
        · rw [List.mem_singleton.mp hone, hsessions]
          exact ⟨_, List.mem_append_right _ List.mem_cons_self, rfl⟩
      · intro d hd
        rcases (hlist d).mp hd with hbefore | ⟨_, rfl⟩
        · obtain ⟨peer, hpeer, hid⟩ := h.listed d hbefore
          exact ⟨peer, List.mem_append_left _ hpeer, hid⟩
        · exact ⟨_, List.mem_append_right _ List.mem_cons_self, rfl⟩
      · intro peer hpeer
        rcases List.mem_append.mp hpeer with hbefore | hone
        · exact h.since peer hbefore
        · rw [List.mem_singleton.mp hone]
      · intro peer hpeer
        rcases List.mem_append.mp hpeer with hbefore | hone
        · exact h.behind peer hbefore
        · rw [List.mem_singleton.mp hone]
          exact List.nil_prefix
      · intro peer hpeer hmem
        rcases List.mem_append.mp hpeer with hbefore | hone
        · exact h.exact peer hbefore (hold peer hbefore hmem)
        · rw [List.mem_singleton.mp hone, hempty]
          rfl

theorem broadcastAll_eq (host : Host) :
    (broadcastAll host).filter (some · ≠ (none : Option ConnectionId)) = broadcastAll host :=
  List.filter_eq_self.mpr fun _ _ => by simp

/-- An event off the network takes no one off the list. -/
theorem event_fewer {c : ConnectionId} {event : Event}
    (h : Lobby.step config host (env, .packet c event.packet) = some after) :
    Fewer host.sessions after.sessions := by
  rcases step_sessions h with ⟨_, _, _, haction, _⟩ | ⟨_, hfewer⟩
  · cases haction
  · exact hfewer

/-- **Every step keeps it.** -/
theorem Linked.step {a : Env × Action} (h : Linked s.host s.handled s.peers)
    (hstep : step config s a = some t) : Linked t.host t.handled t.peers := by
  obtain ⟨env, action⟩ := a
  cases action with
  | host action =>
      simp only [StarNet.step] at hstep
      split_ifs at hstep
      obtain ⟨after, hafter, rfl⟩ := Option.map_eq_some_iff.mp hstep
      refine Linked.send ?_ fun send => outgoing_quiet
      rcases step_sessions hafter with ⟨c, adopted, zdt, rfl, hnew, hsessions⟩ | ⟨hother, hfewer⟩
      · have hconnect := h.connect hnew hsessions
        cases adopted <;> exact hconnect
      · have hadopt : adopt s action = s.peers := by
          cases action with
          | connect c adopted zdt => exact absurd rfl (hother c adopted zdt)
          | _ => rfl
        rw [hadopt]
        exact h.fewer hfewer
  | event c event =>
      obtain ⟨after, hafter, rfl⟩ := Option.map_eq_some_iff.mp hstep
      have hrelay := h.relay (some c) event
      have hothers : broadcastOthers s.host c =
          (broadcastAll s.host).filter (some · ≠ some c) := by
        rw [broadcastOthers_eq]
        refine List.filter_congr fun d _ => ?_
        simp
      rw [← hothers] at hrelay
      exact hrelay.fewer (event_fewer hafter)
  | own event =>
      obtain rfl := Option.some.inj hstep
      have hrelay := h.relay none event
      rw [broadcastAll_eq] at hrelay
      exact hrelay
  | assignRoomCode code =>
      obtain rfl := Option.some.inj hstep
      exact h
  | keepAlive =>
      obtain rfl := Option.some.inj hstep
      refine Linked.send h fun send hsend => ?_
      rw [(mem_broadcast hsend).2]
      rfl
  | pingSnapshot =>
      obtain rfl := Option.some.inj hstep
      refine Linked.send h fun send hsend => ?_
      rw [(mem_broadcast hsend).2]
      rfl

theorem linked_start (config : HostConfig) (env : Env) :
    Linked (start config env).host [] [] := by
  have hsessions : (start config env).host.sessions = [] := by
    show (Lobby.start config env).sessions = []
    unfold Lobby.start
    split_ifs <;> rfl
  have hlist : broadcastAll (start config env).host = [] := by
    rw [Lobby.broadcastAll, hsessions]
    rfl
  refine ⟨by rw [hsessions]; exact List.nodup_nil, ?_, ?_, ?_, ?_, ?_⟩
  · exact fun peer hpeer => absurd hpeer List.not_mem_nil
  · exact fun c hc => absurd (hlist ▸ hc) List.not_mem_nil
  · exact fun peer hpeer => absurd hpeer List.not_mem_nil
  · exact fun peer hpeer => absurd hpeer List.not_mem_nil
  · exact fun peer hpeer => absurd hpeer List.not_mem_nil

/-- Sessions, peers and events after a run. -/
theorem run_linked {actions : List (Env × Action)}
    (h : exec (step config) (start config env) actions = some s) :
    Linked s.host s.handled s.peers :=
  Exec.Reached.invariant ⟨actions, h⟩ (fun s => Linked s.host s.handled s.peers)
    (linked_start config env) fun _ _ _ hlinked hstep => hlinked.step hstep

/-! ## What is added later -/

/-- **Sessions later on.**  Every peer is still there, with what it had been sent
at the head of what it has been sent by now; one that was off the list has
stayed off it, and all that was added are replies. -/
def Grown (s t : System) : Prop :=
  ∀ peer ∈ s.peers, ∃ peer' ∈ t.peers, peer'.id = peer.id ∧ peer'.since = peer.since ∧
    ∃ more, peer'.sent = peer.sent ++ more ∧
      (peer.id ∉ broadcastAll s.host →
        peer.id ∉ broadcastAll t.host ∧ ∀ message ∈ more, message.isReply = true)

theorem Grown.refl (s : System) : Grown s s := fun peer hpeer =>
  ⟨peer, hpeer, rfl, rfl, [], (List.append_nil _).symm,
    fun hoff => ⟨hoff, fun _ hmessage => absurd hmessage List.not_mem_nil⟩⟩

theorem Grown.trans {u : System} (h : Grown s t) (h' : Grown t u) : Grown s u := by
  intro peer hpeer
  obtain ⟨peer', hpeer', hid, hsince, more, hmore, hoff⟩ := h peer hpeer
  obtain ⟨peer'', hpeer'', hid', hsince', more', hmore', hoff'⟩ := h' peer' hpeer'
  refine ⟨peer'', hpeer'', hid'.trans hid, hsince'.trans hsince, more ++ more', ?_, ?_⟩
  · rw [hmore', hmore, List.append_assoc]
  · intro hunlisted
    obtain ⟨hstays, hreplies⟩ := hoff hunlisted
    obtain ⟨hstays', hreplies'⟩ := hoff' (hid ▸ hstays)
    exact ⟨hid ▸ hstays', fun message hmessage =>
      (List.mem_append.mp hmessage).elim (hreplies message) (hreplies' message)⟩

/-- Sends are put on every session. -/
theorem grown_send {sends : List (ConnectionId × Message)}
    (hpeers : ∀ peer ∈ s.peers, peer.send sends ∈ t.peers)
    (hoff : ∀ peer ∈ s.peers, peer.id ∉ broadcastAll s.host →
      peer.id ∉ broadcastAll t.host ∧
        ∀ message, (peer.id, message) ∈ sends → message.isReply = true) : Grown s t := by
  intro peer hpeer
  refine ⟨_, hpeers peer hpeer, rfl, rfl, _, rfl, fun hunlisted => ?_⟩
  obtain ⟨hstays, hreplies⟩ := hoff peer hpeer hunlisted
  exact ⟨hstays, fun message hmessage => hreplies message (mem_toward.mp hmessage)⟩

/-- A broadcast to the list adds nothing off it. -/
theorem grown_broadcast {recipients : List ConnectionId} {message : Message}
    (hrecipients : ∀ c ∈ recipients, c ∈ broadcastAll s.host)
    (hpeers : t.peers = s.peers.map (Peer.send (broadcast recipients message)))
    (hfewer : Fewer s.host.sessions t.host.sessions) : Grown s t := by
  refine grown_send (fun peer hpeer => hpeers ▸ List.mem_map_of_mem hpeer) ?_
  intro peer _ hunlisted
  exact ⟨mt hfewer.broadcastAll hunlisted,
    fun _ hsend => absurd (hrecipients _ (mem_broadcast hsend).1) hunlisted⟩

/-- **Every step only adds.**  A session that is adopted has an id no session
had, so it brings no peer back. -/
theorem Grown.step {a : Env × Action} (h : Linked s.host s.handled s.peers)
    (hstep : step config s a = some t) : Grown s t := by
  obtain ⟨env, action⟩ := a
  cases action with
  | host action =>
      simp only [StarNet.step] at hstep
      split_ifs at hstep
      obtain ⟨after, hafter, rfl⟩ := Option.map_eq_some_iff.mp hstep
      have hstays : ∀ peer ∈ s.peers, peer.id ∉ broadcastAll s.host →
          peer.id ∉ broadcastAll after := by
        intro peer hpeer hunlisted
        rcases step_sessions hafter with ⟨c, adopted, zdt, rfl, hnew, hsessions⟩ | ⟨_, hfewer⟩
        · intro hmem
          obtain ⟨session, hsession, hlisted, hid⟩ := mem_broadcastAll.mp hmem
          rw [hsessions] at hsession
          rcases List.mem_append.mp hsession with hold | hone
          · exact hunlisted (mem_broadcastAll.mpr ⟨session, hold, hlisted, hid⟩)
          · obtain ⟨known, hknown, hsame⟩ := h.known peer hpeer
            refine List.find?_eq_none.mp hnew known hknown (decide_eq_true ?_)
            rw [hsame, ← hid, List.mem_singleton.mp hone]
        · exact mt hfewer.broadcastAll hunlisted
      have hadopt : ∀ peer ∈ s.peers, peer ∈ adopt s action := by
        intro peer hpeer
        unfold adopt
        split
        · exact List.mem_append_left _ hpeer
        · exact hpeer
      exact grown_send (fun peer hpeer => List.mem_map_of_mem (hadopt peer hpeer))
        fun peer hpeer hunlisted => ⟨hstays peer hpeer hunlisted, fun _ hsend =>
          outgoing_unlisted hafter hunlisted (hstays peer hpeer hunlisted) hsend⟩
  | event c event =>
      obtain ⟨after, hafter, rfl⟩ := Option.map_eq_some_iff.mp hstep
      refine grown_broadcast (fun d hd => ?_) rfl (event_fewer hafter)
      rw [broadcastOthers_eq] at hd
      exact (List.mem_filter.mp hd).1
  | own event =>
      obtain rfl := Option.some.inj hstep
      exact grown_broadcast (fun _ => id) rfl (.refl _)
  | assignRoomCode code =>
      obtain rfl := Option.some.inj hstep
      exact .refl _
  | keepAlive =>
      obtain rfl := Option.some.inj hstep
      exact grown_broadcast (fun _ => id) rfl (.refl _)
  | pingSnapshot =>
      obtain rfl := Option.some.inj hstep
      exact grown_broadcast (fun _ => id) rfl (.refl _)

/-- Sessions after a run that goes on. -/
theorem run_grown (h : Linked s.host s.handled s.peers) (hrun : Exec.Reached (step config) s t) :
    Grown s t := by
  have hboth := hrun.invariant (fun t => Linked t.host t.handled t.peers ∧ Grown s t)
    ⟨h, .refl s⟩ fun _ _ _ hinv hstep =>
      ⟨hinv.1.step hstep, hinv.2.trans (Grown.step hinv.1 hstep)⟩
  exact hboth.2

/-! ## The law -/

/-- **The star hands every event on.**  In every run, a session on the list has
been sent the events that were handled since it was adopted, each once, in the
order in which they were handled, and none of its own; one that has left the
list was sent the first of them.  However the run goes on, what a session was
sent only grows, and off the list by nothing but replies. -/
theorem star_relay {actions : List (Env × Action)}
    (h : exec (step config) (start config env) actions = some s) :
    (∀ c ∈ broadcastAll s.host, ∃ peer ∈ s.peers, peer.id = c) ∧
      (∀ peer ∈ s.peers, events peer.sent <+: heard s.handled peer ∧
        (peer.id ∈ broadcastAll s.host → events peer.sent = heard s.handled peer)) ∧
      ∀ t, Exec.Reached (step config) s t → Grown s t := by
  have hlinked := run_linked h
  exact ⟨hlinked.listed,
    fun peer hpeer => ⟨hlinked.behind peer hpeer, hlinked.exact peer hpeer⟩,
    fun _ hreached => run_grown hlinked hreached⟩

/-- Two clients and the host: a shot is heard by the other one, a shot of the
host by both. -/
def twoClients : List (Env × Action) :=
  [({}, .host (.connect 5 true true)), ({}, .host (.connect 6 true true)),
    ({}, .event 5 (.fire 2 1 {} {})), ({}, .own (.fire 1 0 {} {}))]

theorem star_relay_two :
    ∃ s, exec (step { localNodeId := 1 }) (start { localNodeId := 1 } {}) twoClients = some s ∧
      ∀ peer ∈ s.peers, peer.id ∈ broadcastAll s.host →
        events peer.sent = heard s.handled peer := by
  obtain ⟨s, hs⟩ : ∃ s, exec (step { localNodeId := 1 }) (start { localNodeId := 1 } {})
      twoClients = some s := ⟨_, rfl⟩
  exact ⟨s, hs, fun peer hpeer => ((star_relay hs).2.1 peer hpeer).2⟩

end StarNet
