import GipMultiplayer.SessionIdentity
import GipMultiplayer.VoiceControl

/-!
# Voice membership mirrors the room

What `syncVoicePeerStates` leaves in the voice router, against the room.  A
client is published as the player who joined on its session.  The host looks
itself up by account name and takes its team from `localTeam`, so it is
published wrongly unless its room entry carries the logged-in name and
`localTeam` follows that entry (`voice_membership_drifts`).

* `Mirrors` — the law, right after a broadcast;
* `Ready` — the condition on the state the broadcast reads;
* `publishAll_spec` — what one `syncVoicePeerStates` publishes;
* `voice_membership` — the law in every run.
-/

namespace Lobby

open Voice (ConnectionId Router Membership)

/-! ## The law -/

/-- The connection is published in exactly this membership. -/
def Published (host : Host) (c : ConnectionId) (state : Voice.PeerState) : Prop :=
  ∃ m, host.voiceRouter.membership c = some m ∧ m.upToDate (some state)

/-- **Voice membership mirrors the room**: the host and every client of the
room are published under their room id and team, no one else has a voice, and
no two peers speak as one player. -/
structure Mirrors (config : HostConfig) (host : Host) : Prop where
  own : ∀ rp ∈ host.roomPlayers, rp.id = config.localNodeId →
    Published host localHostVoiceConnId (peerState config rp.id rp.team)
  players : ∀ rp ∈ host.roomPlayers, ∀ session ∈ host.sessions, session.listed = true →
    session.alive = true → session.joined = some rp.id →
    Published host session.id (peerState config rp.id rp.team)
  absent : ∀ session ∈ host.sessions, (∀ rp ∈ host.roomPlayers, session.joined ≠ some rp.id) →
    ∀ m, host.voiceRouter.membership session.id = some m → m.hasstate = false
  distinct : ∀ c d m n, host.voiceRouter.membership c = some m →
    host.voiceRouter.membership d = some n → m.hasstate = true → n.hasstate = true →
    m.state.playerid = n.state.playerid → c = d

/-- The room entry carries the logged-in name. -/
def CarriesLogin (host : Host) (rp : RoomPlayerInfo) : Prop :=
  host.loggedInUsername ≠ [] ∧ rp.name = host.loggedInUsername

instance (host : Host) (rp : RoomPlayerInfo) : Decidable (CarriesLogin host rp) :=
  inferInstanceAs (Decidable (_ ∧ _))

/-- A connection that a broadcast publishes: the host's own, or that of a live
session in `sessions`. -/
def Served (host : Host) (c : ConnectionId) : Prop :=
  c = localHostVoiceConnId ∨
    ∃ session ∈ host.sessions, session.id = c ∧ session.listed = true ∧ session.alive = true

instance (host : Host) (c : ConnectionId) : Decidable (Served host c) :=
  inferInstanceAs (Decidable (_ ∨ ∃ session ∈ host.sessions, _))

/-- **The condition of the law**, on what the broadcast reads and leaves as it
is: ids and teams of the room are not `0`; the host's entry carries the
logged-in name, or the host's id is `1` and no entry carries that name; the
host's entry is on `localTeam`; without an entry of the host, none has the id
`1` or the logged-in name; no client has joined as the host; and no voice peer
is left over from a session that is gone. -/
structure Ready (config : HostConfig) (host : Host) : Prop where
  valid : ∀ rp ∈ host.roomPlayers, rp.id ≠ 0 ∧ rp.team ≠ 0
  named : ∀ rp ∈ host.roomPlayers, rp.id = config.localNodeId → CarriesLogin host rp ∨
    (config.localNodeId = 1 ∧ ∀ other ∈ host.roomPlayers, ¬ CarriesLogin host other)
  team : ∀ rp ∈ host.roomPlayers, rp.id = config.localNodeId → rp.team = host.localTeam
  guest : (∀ rp ∈ host.roomPlayers, rp.id ≠ config.localNodeId) →
    ∀ rp ∈ host.roomPlayers, rp.id ≠ 1 ∧ ¬ CarriesLogin host rp
  alone : ∀ session ∈ host.sessions, session.listed = true → session.alive = true →
    session.joined ≠ some config.localNodeId
  current : ∀ item ∈ host.voiceRouter.peers.entries, item.2.hasstate = true →
    Served host item.1

instance (config : HostConfig) (host : Host) : Decidable (Ready config host) :=
  decidable_of_iff
    ((∀ rp ∈ host.roomPlayers, rp.id ≠ 0 ∧ rp.team ≠ 0) ∧
      (∀ rp ∈ host.roomPlayers, rp.id = config.localNodeId → CarriesLogin host rp ∨
        (config.localNodeId = 1 ∧ ∀ other ∈ host.roomPlayers, ¬ CarriesLogin host other)) ∧
      (∀ rp ∈ host.roomPlayers, rp.id = config.localNodeId → rp.team = host.localTeam) ∧
      ((∀ rp ∈ host.roomPlayers, rp.id ≠ config.localNodeId) →
        ∀ rp ∈ host.roomPlayers, rp.id ≠ 1 ∧ ¬ CarriesLogin host rp) ∧
      (∀ session ∈ host.sessions, session.listed = true → session.alive = true →
        session.joined ≠ some config.localNodeId) ∧
      ∀ item ∈ host.voiceRouter.peers.entries, item.2.hasstate = true → Served host item.1)
    ⟨fun ⟨h1, h2, h3, h4, h5, h6⟩ => ⟨h1, h2, h3, h4, h5, h6⟩,
      fun h => ⟨h.valid, h.named, h.team, h.guest, h.alone, h.current⟩⟩

theorem Ready.served {config : HostConfig} {host : Host} (h : Ready config host)
    {c : ConnectionId} {m : Membership} (hm : host.voiceRouter.membership c = some m)
    (hstate : m.hasstate = true) : Served host c := by
  obtain ⟨peer, hlookup, rfl⟩ := Voice.Router.membership_eq_some.mp hm
  exact h.current ⟨c, peer⟩ (AList.mem_lookup_iff.mp hlookup) hstate

/-- The condition depends on the router by the connections it serves only. -/
theorem Ready.of_router {config : HostConfig} {host : Host} (h : Ready config host)
    {router : Router} (synced : Bool)
    (hcurrent : ∀ c m, router.membership c = some m → m.hasstate = true → Served host c) :
    Ready config { host with voiceRouter := router, synced := synced } := by
  refine ⟨h.valid, h.named, h.team, h.guest, h.alone, fun item hitem hstate => ?_⟩
  exact hcurrent item.1 item.2.membership
    (Voice.Router.membership_eq_some.mpr ⟨item.2, AList.mem_lookup_iff.mpr hitem, rfl⟩) hstate

/-! ## What one synchronisation publishes -/

/-- The connections `syncVoicePeerStates` publishes, in order, with their
memberships. -/
def targets (config : HostConfig) (host : Host) : List (ConnectionId × Voice.PeerState) :=
  (localHostVoiceConnId, peerState config (hostId host) host.localTeam) ::
    (host.sessions.filter fun s => s.listed ∧ s.alive).map fun s =>
      (s.id, sessionPeerState config host.roomPlayers s)

/-- Publish a list of connections. -/
def publishAll (env : Env) (acc : Router × Bool)
    (items : List (ConnectionId × Voice.PeerState)) : Router × Bool :=
  items.foldl (fun acc item => publish env acc item.1 item.2) acc

/-- On a host that plays itself, the synchronisation publishes its targets. -/
theorem syncVoicePeerStates_eq {config : HostConfig} (hplays : config.isDedicatedServer = false)
    (hvoice : config.voiceSessionId ≠ 0) (env : Env) (host : Host) :
    syncVoicePeerStates config env host =
      publishAll env (host.voiceRouter, true) (targets config host) := by
  unfold syncVoicePeerStates publishAll targets
  rw [if_neg hvoice, hplays, List.foldl_cons, List.foldl_map]
  rfl

/-- One `setPeerState` touches only its own connection, and succeeds only by
publishing it. -/
theorem publish_spec (env : Env) (acc : Router × Bool) (c : ConnectionId)
    (state : Voice.PeerState) :
    (∀ d, d ≠ c → (publish env acc c state).1.membership d = acc.1.membership d) ∧
      ((publish env acc c state).2 = true → acc.2 = true ∧
        ∃ m, (publish env acc c state).1.membership c = some m ∧
          m.upToDate (Voice.effectiveRequest (some state))) := by
  have hcall : publish env acc c state =
      ((Voice.controlCall acc.1 env.now c (some state)
          (c = localHostVoiceConnId ∨ env.sendOk c)).1,
        acc.2 && (Voice.controlCall acc.1 env.now c (some state)
          (c = localHostVoiceConnId ∨ env.sendOk c)).2.1) := rfl
  constructor
  · intro d hd
    rw [hcall]
    rcases Voice.controlCall_spec acc.1 env.now c (some state)
        (c = localHostVoiceConnId ∨ env.sendOk c) with
      ⟨_, _, hsame⟩ | ⟨_, _, _, _, hsame⟩ | ⟨_, _, _, _, hafter⟩
    · exact hsame d
    · exact hsame d
    · rw [hafter, if_neg hd]
  · intro hok
    rw [hcall] at hok ⊢
    obtain ⟨hacc, hresult⟩ := Bool.and_eq_true_iff.mp hok
    exact ⟨hacc, Voice.Publication.controlCall_success env.now (some state) hresult⟩

/-- **Publishing distinct connections**, if every call succeeds, leaves each
published in its effective request and all others alone. -/
theorem publishAll_spec (env : Env) (items : List (ConnectionId × Voice.PeerState))
    (hdistinct : (items.map Prod.fst).Nodup) (acc : Router × Bool)
    (hok : (publishAll env acc items).2 = true) :
    acc.2 = true ∧
      (∀ item ∈ items, ∃ m, (publishAll env acc items).1.membership item.1 = some m ∧
        m.upToDate (Voice.effectiveRequest (some item.2))) ∧
      ∀ d ∉ items.map Prod.fst,
        (publishAll env acc items).1.membership d = acc.1.membership d := by
  induction items generalizing acc with
  | nil => exact ⟨hok, by simp, fun d _ => rfl⟩
  | cons item rest ih =>
      rw [List.map_cons, List.nodup_cons] at hdistinct
      obtain ⟨hnew, hdistinct⟩ := hdistinct
      obtain ⟨hfirst, hrest, hframe⟩ := ih hdistinct (publish env acc item.1 item.2) hok
      obtain ⟨hothers, hpublished⟩ := publish_spec env acc item.1 item.2
      obtain ⟨hacc, m, hm, hup⟩ := hpublished hfirst
      refine ⟨hacc, fun other hother => ?_, fun d hd => ?_⟩
      · rcases List.mem_cons.mp hother with rfl | hother
        · exact ⟨m, (hframe _ hnew).trans hm, hup⟩
        · exact hrest other hother
      · rw [List.map_cons, List.mem_cons, not_or] at hd
        exact (hframe d hd.2).trans (hothers d hd.1)

/-! ## The invariant -/

/-- No two players of the room have one id, and no two have one name. -/
structure RoomDistinct (roomPlayers : List RoomPlayerInfo) : Prop where
  ids : (roomPlayers.map (·.id)).Nodup
  names : (roomPlayers.map (·.name)).Nodup

theorem RoomDistinct.sublist {room room' : List RoomPlayerInfo} (h : RoomDistinct room)
    (hsub : room'.Sublist room) : RoomDistinct room' :=
  ⟨h.ids.sublist (hsub.map _), h.names.sublist (hsub.map _)⟩

theorem RoomDistinct.of_map {room room' : List RoomPlayerInfo} (h : RoomDistinct room)
    (hids : room'.map (·.id) = room.map (·.id)) (hnames : room'.map (·.name) = room.map (·.name)) :
    RoomDistinct room' :=
  ⟨hids ▸ h.ids, hnames ▸ h.names⟩

/-- A player joins under an id and a name of its own. -/
theorem RoomDistinct.join {room : List RoomPlayerInfo} (h : RoomDistinct room) {id : UInt32}
    (hid : ¬ room.any (·.id == id) = true) (playerName : Bytes) :
    RoomDistinct (room ++ [{ id := id, name := uniqueName room playerName
                             team := balanceTeam room }]) := by
  have hfresh : id ∉ room.map (·.id) := by simpa using hid
  constructor
  · rw [List.map_append, List.map_singleton]
    exact h.ids.append (List.nodup_singleton _) (by simpa using hfresh)
  · rw [List.map_append, List.map_singleton]
    exact h.names.append (List.nodup_singleton _)
      (List.disjoint_singleton.mpr (uniqueName_fresh room playerName))

theorem RoomDistinct.onPacketReceived {config : HostConfig} {env : Env} {s : Host}
    (h : RoomDistinct s.roomPlayers) (queued : Queued) :
    RoomDistinct (onPacketReceived config env s queued).roomPlayers := by
  obtain ⟨packet, origin⟩ := queued
  cases packet with
  | nodeLeave netid =>
      show RoomDistinct (receiveLeave config env s netid).roomPlayers
      unfold receiveLeave
      split_ifs
      · exact h.sublist List.eraseP_sublist
      · exact h
  | chatMessage message =>
      obtain ⟨stamps, relays, heq, -⟩ := receiveChat_eq env s origin message
      show RoomDistinct (receiveChat env s origin message).roomPlayers
      rw [heq]
      exact h
  | startMatch =>
      refine h.of_map ?_ ?_
      · exact (List.map_map ..).trans rfl
      · exact (List.map_map ..).trans rfl
  | lobbyJoin senderId playerName password =>
      show RoomDistinct (receiveJoin config env s senderId playerName).roomPlayers
      unfold receiveJoin
      split_ifs with hknown
      · exact h
      · exact h
      · exact h.join hknown playerName
  | toggleReady senderId =>
      exact h.of_map (modifyPlayer_map senderId (f := fun rp =>
          { rp with isReady := !rp.isReady }) (·.id) (fun _ => rfl) s.roomPlayers)
        (modifyPlayer_map senderId (f := fun rp =>
          { rp with isReady := !rp.isReady }) (·.name) (fun _ => rfl) s.roomPlayers)
  | switchTeam senderId teamId =>
      exact h.of_map (modifyPlayer_map senderId (f := fun rp =>
          { rp with team := teamId }) (·.id) (fun _ => rfl) s.roomPlayers)
        (modifyPlayer_map senderId (f := fun rp =>
          { rp with team := teamId }) (·.name) (fun _ => rfl) s.roomPlayers)
  | _ => exact h

/-- What the runs keep: session identity, a room of distinct players, and no
session in the place of the local host. -/
structure MirrorInv (host : Host) : Prop where
  identity : Inv host
  room : RoomDistinct host.roomPlayers
  remote : ∀ session ∈ host.sessions, session.id ≠ localHostVoiceConnId

variable {config : HostConfig} {env : Env} {s t : Host}

/-- The state is the outcome of a broadcast. -/
def Broadcast (config : HostConfig) (t : Host) : Prop :=
  ∃ env u, t = broadcastLobbyState config env u

/-- Processing a packet broadcasts, or leaves the mark as it is. -/
theorem onPacketReceived_synced (queued : Queued) :
    (onPacketReceived config env s queued).synced = s.synced ∨
      Broadcast config (onPacketReceived config env s queued) := by
  obtain ⟨packet, origin⟩ := queued
  cases packet with
  | nodeLeave netid =>
      show (receiveLeave config env s netid).synced = s.synced ∨
        Broadcast config (receiveLeave config env s netid)
      unfold receiveLeave
      split_ifs
      · exact .inr ⟨env, _, rfl⟩
      · exact .inl rfl
  | chatMessage message =>
      obtain ⟨stamps, relays, heq, -⟩ := receiveChat_eq env s origin message
      refine .inl ?_
      show (receiveChat env s origin message).synced = s.synced
      rw [heq]
  | lobbyJoin senderId playerName password =>
      show (receiveJoin config env s senderId playerName).synced = s.synced ∨
        Broadcast config (receiveJoin config env s senderId playerName)
      unfold receiveJoin
      split_ifs
      · exact .inr ⟨env, _, rfl⟩
      · exact .inl rfl
      · exact .inr ⟨env, _, rfl⟩
  | startMatch => exact .inr ⟨env, _, rfl⟩
  | toggleReady senderId => exact .inr ⟨env, _, rfl⟩
  | switchTeam senderId teamId => exact .inr ⟨env, _, rfl⟩
  | _ => exact .inl rfl

theorem onPacket_synced (session : Session) (packet : Packet) :
    (onPacket config env s session packet).synced = s.synced ∧
      (onPacket config env s session packet).roomPlayers = s.roomPlayers ∧
      (onPacket config env s session packet).sessions.map (·.id) = s.sessions.map (·.id) := by
  have hmap : ∀ f : Session → Session, (∀ a, (f a).id = a.id) →
      (s.sessions.map fun a => if a.id = session.id then f a else a).map (·.id) =
        s.sessions.map (·.id) := by
    intro f hf
    rw [List.map_map]
    refine List.map_congr_left fun a _ => ?_
    show (if a.id = session.id then f a else a).id = a.id
    split_ifs
    · exact hf a
    · rfl
  cases packet with
  | nodeState netid state => exact ⟨rfl, rfl, hmap (·.retag netid) fun _ => rfl⟩
  | lobbyJoin senderId playerName password =>
      unfold onPacket
      dsimp only
      split_ifs
      · exact ⟨rfl, rfl, rfl⟩
      · exact ⟨rfl, rfl, hmap (·.acceptJoin senderId) fun _ => rfl⟩
  | ping timestamp reportedPing =>
      unfold onPacket
      dsimp only
      cases session.tag with
      | none => exact ⟨rfl, rfl, rfl⟩
      | some id =>
          dsimp only
          split_ifs <;> exact ⟨rfl, rfl, rfl⟩
  | _ => exact ⟨rfl, rfl, rfl⟩

/-- A new session touches neither room nor mark. -/
theorem connect_eq (c : ConnectionId) (adopted zdt : Bool) :
    (connect config env s c adopted zdt).synced = s.synced ∧
      (connect config env s c adopted zdt).roomPlayers = s.roomPlayers ∧
      (connect config env s c adopted zdt).sessions =
        s.sessions ++ [{ id := c, adopted := adopted, listed := adopted }] := by
  unfold connect
  dsimp only
  split_ifs <;> exact ⟨rfl, rfl, rfl⟩

/-- What a disconnect does to sessions, room and broadcast flag. -/
theorem onPeerDisconnected_eq (session : Session) :
    (onPeerDisconnected s session).synced = s.synced ∧
      (onPeerDisconnected s session).roomPlayers = s.roomPlayers ∧
      (onPeerDisconnected s session).matchInProgress = s.matchInProgress ∧
      (onPeerDisconnected s session).sessions =
        s.sessions.map fun a =>
          if a.id = session.id then { a with listed := false, alive := false } else a := by
  unfold onPeerDisconnected
  dsimp only
  cases session.tag with
  | none => exact ⟨rfl, rfl, rfl, rfl⟩
  | some id =>
      dsimp only
      split_ifs <;> exact ⟨rfl, rfl, rfl, rfl⟩

/-- **What each action does to room, sessions and mark**: the room stays
distinct, a new session is not the local host's, and the mark is set by a
broadcast only. -/
theorem step_room {a : Env × HostAction} (hroom : RoomDistinct s.roomPlayers)
    (hremote : ∀ session ∈ s.sessions, session.id ≠ localHostVoiceConnId)
    (hstep : step config s a = some t) :
    RoomDistinct t.roomPlayers ∧ (∀ session ∈ t.sessions, session.id ≠ localHostVoiceConnId) ∧
      (t.synced = true → Broadcast config t) := by
  obtain ⟨env, action⟩ := a
  have hperformed := step_performed hstep
  dsimp only at hperformed
  have hids : ∀ {u : Host}, u.sessions.map (·.id) = s.sessions.map (·.id) →
      ∀ session ∈ u.sessions, session.id ≠ localHostVoiceConnId := by
    intro u hu session hsession
    have hmem : session.id ∈ s.sessions.map (·.id) := hu ▸ List.mem_map_of_mem hsession
    obtain ⟨session', hsession', hid⟩ := List.mem_map.mp hmem
    exact hid ▸ hremote session' hsession'
  have hquiet : ∀ {u : Host}, u.synced = false → u.synced = true → Broadcast config u :=
    fun hfalse htrue => by simp [hfalse] at htrue
  have hmodify : ∀ (c : ConnectionId) (f : Session → Session), (∀ a, (f a).id = a.id) →
      (s.sessions.map fun a => if a.id = c then f a else a).map (·.id) =
        s.sessions.map (·.id) := by
    intro c f hf
    rw [List.map_map]
    refine List.map_congr_left fun a _ => ?_
    show (if a.id = c then f a else a).id = a.id
    split_ifs
    · exact hf a
    · rfl
  cases hperformed with
  | connect c adopted zdt _ hnotlocal =>
      obtain ⟨hsynced, hplayers, hsessions⟩ := @connect_eq config env
        { s with synced := false } c adopted zdt
      refine ⟨by rw [hplayers]; exact hroom, fun session hsession => ?_, hquiet hsynced⟩
      rw [hsessions] at hsession
      rcases List.mem_append.mp hsession with hsession | hsession
      · exact hremote session hsession
      · rw [List.mem_singleton.mp hsession]
        exact hnotlocal
  | packet c packet session =>
      obtain ⟨hsynced, hplayers, hsame⟩ :=
        @onPacket_synced config env { s with synced := false } session packet
      exact ⟨by rw [hplayers]; exact hroom, hids hsame, hquiet hsynced⟩
  | die c =>
      exact ⟨hroom, hids (hmodify c (fun a => { a with alive := false }) fun _ => rfl), hquiet rfl⟩
  | disconnected c session =>
      obtain ⟨hsynced, hplayers, -, hsessions⟩ :=
        @onPeerDisconnected_eq { s with synced := false } session
      refine ⟨by rw [hplayers]; exact hroom, hids ?_, hquiet hsynced⟩
      rw [hsessions]
      exact hmodify session.id (fun a => { a with listed := false, alive := false }) fun _ => rfl
  | beginUpdate => exact ⟨hroom, hids rfl, hquiet rfl⟩
  | process queued rest =>
      have hprocessed := @onPacketReceived_processed config env
        { s with synced := false, batch := rest } queued
      refine ⟨RoomDistinct.onPacketReceived (s := { s with synced := false, batch := rest })
          hroom queued,
        hids (congrArg _ hprocessed.sessions), fun hsynced => ?_⟩
      rcases @onPacketReceived_synced config env
        { s with synced := false, batch := rest } queued with hsame | hbroadcast
      · rw [hsame] at hsynced
        cases hsynced
      · exact hbroadcast
  | sweep =>
      rw [sweepSessions_eq]
      refine ⟨hroom, hids ?_, hquiet rfl⟩
      show (s.sessions.map Session.sweep).map (·.id) = s.sessions.map (·.id)
      rw [List.map_map]
      refine List.map_congr_left fun a _ => ?_
      show a.sweep.id = a.id
      unfold Session.sweep
      split_ifs <;> rfl
  | kick playerId =>
      unfold kickPlayer
      split
      · exact ⟨hroom.sublist List.filter_sublist, hids rfl, fun _ => ⟨env, _, rfl⟩⟩
      · exact ⟨hroom, hids rfl, hquiet rfl⟩
  | roomCode => exact ⟨hroom, hids rfl, fun _ => ⟨env, _, rfl⟩⟩
  | own => exact ⟨hroom, hids rfl, hquiet rfl⟩
  | ownNothing => exact ⟨hroom, hids rfl, hquiet rfl⟩
  | setupMatch => exact ⟨hroom, hids rfl, hquiet rfl⟩
  | switchTeamInMatch => exact ⟨hroom, hids rfl, hquiet rfl⟩
  | login username => exact ⟨hroom, hids rfl, hquiet rfl⟩
  | logout => exact ⟨hroom, hids rfl, hquiet rfl⟩

/-- Each action under the condition of session identity keeps the invariant. -/
theorem MirrorInv.step {a : Env × HostAction} (h : MirrorInv s) (hhonest : Honest config s a.2)
    (hstep : step config s a = some t) : MirrorInv t := by
  obtain ⟨hroom, hremote, -⟩ := step_room h.room h.remote hstep
  exact ⟨h.identity.step hhonest hstep, hroom, hremote⟩

theorem MirrorInv.start (config : HostConfig) (env : Env) : MirrorInv (start config env) := by
  refine ⟨Inv.start config env, ?_, ?_⟩
  · unfold Lobby.start
    split_ifs <;> exact ⟨List.nodup_nil, List.nodup_nil⟩
  · unfold Lobby.start
    split_ifs <;> exact fun session hsession => by cases hsession

/-! ## The law right after a broadcast -/

/-- The host finds the entry that carries the logged-in name. -/
theorem hostId_of_carries (hroom : RoomDistinct s.roomPlayers) {rp : RoomPlayerInfo}
    (hrp : rp ∈ s.roomPlayers) (hcarries : CarriesLogin s rp) : hostId s = rp.id := by
  unfold hostId
  cases hfind : s.roomPlayers.find? fun rp =>
      s.loggedInUsername ≠ [] ∧ rp.name = s.loggedInUsername with
  | none =>
      have hnone := List.find?_eq_none.mp hfind rp hrp
      exact absurd (decide_eq_true hcarries) hnone
  | some found =>
      have htest := List.find?_some hfind
      have hfound : CarriesLogin s found := of_decide_eq_true htest
      have hsame : found = rp := List.inj_on_of_nodup_map hroom.names
        (List.mem_of_find?_eq_some hfind) hrp (hfound.2.trans hcarries.2.symm)
      rw [hsame]

/-- Without such an entry the host takes itself for player `1`. -/
theorem hostId_of_none (hnone : ∀ rp ∈ s.roomPlayers, ¬ CarriesLogin s rp) : hostId s = 1 := by
  have hfind : (s.roomPlayers.find? fun rp =>
      s.loggedInUsername ≠ [] ∧ rp.name = s.loggedInUsername) = none :=
    List.find?_eq_none.mpr fun rp hrp hfound => hnone rp hrp (of_decide_eq_true hfound)
  rw [hostId, hfind]

theorem Ready.hostId_eq (h : Ready config s) (hroom : RoomDistinct s.roomPlayers)
    {rp : RoomPlayerInfo} (hrp : rp ∈ s.roomPlayers) (hown : rp.id = config.localNodeId) :
    hostId s = rp.id := by
  rcases h.named rp hrp hown with hcarries | ⟨hone, hnone⟩
  · exact hostId_of_carries hroom hrp hcarries
  · rw [hostId_of_none hnone, hown, hone]

theorem teamOf_eq (hroom : RoomDistinct s.roomPlayers) {rp : RoomPlayerInfo}
    (hrp : rp ∈ s.roomPlayers) : teamOf s.roomPlayers rp.id = rp.team := by
  cases hfind : s.roomPlayers.find? (·.id == rp.id) with
  | none =>
      have hnone := List.find?_eq_none.mp hfind rp hrp
      simp at hnone
  | some found =>
      have hid : found.id = rp.id := by simpa using List.find?_some hfind
      have hsame : found = rp := List.inj_on_of_nodup_map hroom.ids
        (List.mem_of_find?_eq_some hfind) hrp hid
      rw [teamOf, hfind, hsame]
      rfl

/-- A player of the room with nonzero id and team can be published. -/
theorem isValidPeerState_peerState (hvoice : config.voiceSessionId ≠ 0) {x : UInt32} {team : UInt8}
    (hx : x ≠ 0) (hteam : team ≠ 0) : Voice.isValidPeerState (peerState config x team) = true := by
  have hx' : x.toUInt64 ≠ 0 := fun heq => hx (UInt32.toUInt64_inj.mp heq)
  have hteam' : team.toUInt64 ≠ 0 := fun heq => hteam (UInt8.toUInt64_inj.mp heq)
  simp [Voice.isValidPeerState, peerState, hx', hteam', hvoice]

/-- The connections a broadcast publishes are distinct. -/
theorem targets_nodup (h : MirrorInv s) : ((targets config s).map Prod.fst).Nodup := by
  unfold targets
  rw [List.map_cons, List.map_map, List.nodup_cons]
  constructor
  · intro hmem
    obtain ⟨session, hsession, hid⟩ := List.mem_map.mp hmem
    exact h.remote session (List.mem_of_mem_filter hsession) hid
  · exact h.identity.ids.sublist (List.filter_sublist.map _)

/-- The state right after a broadcast in `u` whose every `setPeerState` has
succeeded, on a host that plays itself. -/
structure Synced (config : HostConfig) (env : Env) (u : Host) : Prop where
  plays : config.isDedicatedServer = false
  voice : config.voiceSessionId ≠ 0
  inv : MirrorInv u
  ready : Ready config (broadcastLobbyState config env u)
  ok : (syncVoicePeerStates config env u).2 = true

namespace Synced

variable {u : Host}

/-- Every target of the broadcast is published in its effective request. -/
theorem published (h : Synced config env u) {item : ConnectionId × Voice.PeerState}
    (hitem : item ∈ targets config u) :
    ∃ m, (broadcastLobbyState config env u).voiceRouter.membership item.1 = some m ∧
      m.upToDate (Voice.effectiveRequest (some item.2)) := by
  have hsync := syncVoicePeerStates_eq h.plays h.voice env u
  have hok := h.ok
  rw [hsync] at hok
  obtain ⟨-, htargets, -⟩ := publishAll_spec env _ (targets_nodup h.inv) _ hok
  have hrouter : (broadcastLobbyState config env u).voiceRouter =
      (publishAll env (u.voiceRouter, true) (targets config u)).1 := by
    rw [← hsync]
    rfl
  rw [hrouter]
  exact htargets item hitem

theorem host_published (h : Synced config env u) :
    ∃ m, (broadcastLobbyState config env u).voiceRouter.membership localHostVoiceConnId =
        some m ∧
      m.upToDate (Voice.effectiveRequest (some (peerState config (hostId u) u.localTeam))) :=
  h.published List.mem_cons_self

theorem client_published (h : Synced config env u) {session : Session}
    (hsession : session ∈ u.sessions) (hlisted : session.listed = true)
    (halive : session.alive = true) :
    ∃ m, (broadcastLobbyState config env u).voiceRouter.membership session.id = some m ∧
      m.upToDate (Voice.effectiveRequest
        (some (sessionPeerState config u.roomPlayers session))) := by
  have htarget : (session.id, sessionPeerState config u.roomPlayers session) ∈
      targets config u :=
    List.mem_cons_of_mem _ (List.mem_map_of_mem (List.mem_filter.mpr
      ⟨hsession, decide_eq_true ⟨hlisted, halive⟩⟩))
  exact h.published htarget

/-- A player of the room is published on its session. -/
theorem player_published (h : Synced config env u) {rp : RoomPlayerInfo}
    (hrp : rp ∈ u.roomPlayers) {session : Session} (hsession : session ∈ u.sessions)
    (hlisted : session.listed = true) (halive : session.alive = true)
    (hjoined : session.joined = some rp.id) :
    Published (broadcastLobbyState config env u) session.id
      (peerState config rp.id rp.team) := by
  obtain ⟨m, hm, hup⟩ := h.client_published hsession hlisted halive
  obtain ⟨hid, hteam⟩ := h.ready.valid rp hrp
  rw [h.inv.identity.voice hsession halive hid hjoined, teamOf_eq h.inv.room hrp,
    Voice.effectiveRequest_valid (isValidPeerState_peerState h.voice hid hteam)] at hup
  exact ⟨m, hm, hup⟩

/-- A session with a voice has its player in the room, and speaks as it. -/
theorem player_of_voice (h : Synced config env u) {session : Session}
    (hsession : session ∈ u.sessions) (hlisted : session.listed = true)
    (halive : session.alive = true) {m : Membership}
    (hm : (broadcastLobbyState config env u).voiceRouter.membership session.id = some m)
    (hstate : m.hasstate = true) :
    ∃ rp ∈ u.roomPlayers, session.joined = some rp.id ∧
      m.state.playerid = rp.id.toUInt64 := by
  by_cases hplayer : ∃ rp ∈ u.roomPlayers, session.joined = some rp.id
  · obtain ⟨rp, hrp, hjoined⟩ := hplayer
    obtain ⟨m', hm', hup⟩ := h.player_published hrp hsession hlisted halive hjoined
    obtain rfl := Option.some.inj (hm.symm.trans hm')
    refine ⟨rp, hrp, hjoined, ?_⟩
    rw [(Voice.Membership.stored_eq_some.mp hup.1).2]
    rfl
  · push Not at hplayer
    obtain ⟨m', hm', hup⟩ := h.client_published hsession hlisted halive
    obtain rfl := Option.some.inj (hm.symm.trans hm')
    rw [Voice.effectiveRequest_invalid
      (h.inv.identity.unvoiced hsession halive hplayer)] at hup
    rw [Voice.Membership.stored_eq_none.mp hup.1] at hstate
    cases hstate

/-- The host, when it has a voice, speaks as the id it found. -/
theorem host_playerid (h : Synced config env u) {m : Membership}
    (hm : (broadcastLobbyState config env u).voiceRouter.membership localHostVoiceConnId = some m)
    (hstate : m.hasstate = true) : m.state.playerid = (hostId u).toUInt64 := by
  obtain ⟨m', hm', hup⟩ := h.host_published
  obtain rfl := Option.some.inj (hm.symm.trans hm')
  unfold Voice.effectiveRequest at hup
  dsimp only at hup
  split_ifs at hup
  · rw [(Voice.Membership.stored_eq_some.mp hup.1).2]
    rfl
  · rw [Voice.Membership.stored_eq_none.mp hup.1] at hstate
    cases hstate

/-- The id the host finds is its own when it is in the room. -/
theorem hostId_eq (h : Synced config env u) {rp : RoomPlayerInfo} (hrp : rp ∈ u.roomPlayers)
    (hown : rp.id = config.localNodeId) : hostId u = rp.id :=
  h.ready.hostId_eq h.inv.room hrp hown

/-- No client speaks as the id the host finds. -/
theorem hostId_ne (h : Synced config env u) {session : Session} (hsession : session ∈ u.sessions)
    (hlisted : session.listed = true) (halive : session.alive = true) {rp : RoomPlayerInfo}
    (hrp : rp ∈ u.roomPlayers) (hjoined : session.joined = some rp.id) : hostId u ≠ rp.id := by
  intro heq
  by_cases hentry : ∃ rp' ∈ u.roomPlayers, rp'.id = config.localNodeId
  · obtain ⟨rp', hrp', hown⟩ := hentry
    rw [h.hostId_eq hrp' hown, hown] at heq
    exact h.ready.alone session hsession hlisted halive (heq ▸ hjoined)
  · push Not at hentry
    have hguest := h.ready.guest hentry
    have hone : hostId u = 1 := hostId_of_none fun rp hrp => (hguest rp hrp).2
    rw [hone] at heq
    exact (hguest rp hrp).1 heq.symm

/-- Two sessions that speak as one player are one. -/
theorem eq_of_joined (h : Synced config env u) {session session' : Session}
    (hsession : session ∈ u.sessions) (hsession' : session' ∈ u.sessions)
    (halive : session.alive = true) (halive' : session'.alive = true) {rp : RoomPlayerInfo}
    (hrp : rp ∈ u.roomPlayers) (hjoined : session.joined = some rp.id)
    (hjoined' : session'.joined = some rp.id) : session.id = session'.id :=
  h.inv.identity.distinct session hsession session' hsession' halive halive' rp.id
    (h.ready.valid rp hrp).1 ((h.inv.identity.tag_eq hsession halive).trans hjoined)
    ((h.inv.identity.tag_eq hsession' halive').trans hjoined')

/-- **Mirrors.**  A broadcast whose every `setPeerState` succeeds, in a state
that is ready for it, leaves voice membership mirroring the room. -/
theorem mirrors (h : Synced config env u) :
    Mirrors config (broadcastLobbyState config env u) where
  own rp hrp hown := by
    obtain ⟨m, hm, hup⟩ := h.host_published
    obtain ⟨hid, hteam⟩ := h.ready.valid rp hrp
    have hlocal : u.localTeam = rp.team := (h.ready.team rp hrp hown).symm
    rw [h.hostId_eq hrp hown, hlocal,
      Voice.effectiveRequest_valid (isValidPeerState_peerState h.voice hid hteam)] at hup
    exact ⟨m, hm, hup⟩
  players rp hrp session hsession hlisted halive hjoined :=
    h.player_published hrp hsession hlisted halive hjoined
  absent session hsession habsent m hm := by
    by_contra hstate
    rw [Bool.not_eq_false] at hstate
    rcases h.ready.served hm hstate with hlocal | ⟨session', hsession', hid, hlisted, halive⟩
    · exact h.inv.remote session hsession hlocal
    · obtain rfl := eq_of_id h.inv.identity hsession' hsession hid
      obtain ⟨rp, hrp, hjoined, -⟩ := h.player_of_voice hsession hlisted halive hm hstate
      exact habsent rp hrp hjoined
  distinct c d m n hc hd hm hn hplayer := by
    rcases h.ready.served hc hm with rfl | ⟨a, ha, rfl, hlisteda, halivea⟩
    · rcases h.ready.served hd hn with rfl | ⟨b, hb, rfl, hlistedb, haliveb⟩
      · rfl
      · obtain ⟨rp, hrp, hjoined, hid⟩ := h.player_of_voice hb hlistedb haliveb hd hn
        rw [h.host_playerid hc hm, hid] at hplayer
        exact absurd (UInt32.toUInt64_inj.mp hplayer) (h.hostId_ne hb hlistedb haliveb hrp hjoined)
    · obtain ⟨rp, hrp, hjoined, hid⟩ := h.player_of_voice ha hlisteda halivea hc hm
      rcases h.ready.served hd hn with rfl | ⟨b, hb, rfl, hlistedb, haliveb⟩
      · rw [h.host_playerid hd hn, hid] at hplayer
        exact absurd (UInt32.toUInt64_inj.mp hplayer).symm
          (h.hostId_ne ha hlisteda halivea hrp hjoined)
      · obtain ⟨rp', hrp', hjoined', hid'⟩ := h.player_of_voice hb hlistedb haliveb hd hn
        rw [hid, hid'] at hplayer
        have hsame : rp.id = rp'.id := UInt32.toUInt64_inj.mp hplayer
        exact h.eq_of_joined ha hb halivea haliveb hrp hjoined (hsame ▸ hjoined')

end Synced

theorem served_of_target {c : ConnectionId} (hc : c ∈ (targets config s).map Prod.fst) :
    Served s c := by
  rw [targets, List.map_cons, List.map_map] at hc
  rcases List.mem_cons.mp hc with rfl | hc
  · exact .inl rfl
  · obtain ⟨session, hsession, rfl⟩ := List.mem_map.mp hc
    obtain ⟨hmem, hlive⟩ := List.mem_filter.mp hsession
    have hlive' := of_decide_eq_true hlive
    exact .inr ⟨session, hmem, rfl, hlive'⟩

/-- The condition reads nothing that the broadcast it is about changes: it is a
condition on the state the broadcast starts from. -/
theorem ready_broadcastLobbyState (hplays : config.isDedicatedServer = false)
    (hvoice : config.voiceSessionId ≠ 0) (h : MirrorInv s)
    (hok : (syncVoicePeerStates config env s).2 = true) :
    Ready config (broadcastLobbyState config env s) ↔ Ready config s := by
  have hsync := syncVoicePeerStates_eq hplays hvoice env s
  rw [hsync] at hok
  obtain ⟨-, -, hframe⟩ := publishAll_spec env _ (targets_nodup h) _ hok
  have hrouter : (broadcastLobbyState config env s).voiceRouter =
      (publishAll env (s.voiceRouter, true) (targets config s)).1 := by
    rw [← hsync]
    rfl
  constructor
  · intro hready
    refine @Ready.of_router config _ hready s.voiceRouter s.synced fun c m hm hstate => ?_
    by_cases hc : c ∈ (targets config s).map Prod.fst
    · exact served_of_target hc
    · rw [← hframe c hc, ← hrouter] at hm
      exact hready.served hm hstate
  · intro hready
    refine hready.of_router _ fun c m hm hstate => ?_
    by_cases hc : c ∈ (targets config s).map Prod.fst
    · exact served_of_target hc
    · change (syncVoicePeerStates config env s).1.membership c = some m at hm
      rw [hsync, hframe c hc] at hm
      exact hready.served hm hstate

/-- The invariant does not depend on what a broadcast changes. -/
theorem MirrorInv.of_broadcast (h : MirrorInv (broadcastLobbyState config env s)) :
    MirrorInv s :=
  ⟨h.identity.of_eq (t := s) rfl rfl (room_claimed (s := s)) rfl rfl rfl, h.room, h.remote⟩

/-- **Voice membership mirrors the room** right after every broadcast whose
every `setPeerState` succeeded, in every run in which sessions keep their
identity and each such broadcast finds the state ready. -/
theorem voice_membership {config : HostConfig} {env : Env} {s : Host}
    (hplays : config.isDedicatedServer = false) (hvoice : config.voiceSessionId ≠ 0)
    (h : Exec.ReachedAlong (step config)
      (fun s a => Honest config s a.2 ∧
        ∀ t ∈ step config s a, t.synced = true → Ready config t) (start config env) s)
    (hsynced : s.synced = true) : Mirrors config s := by
  refine (h.invariant (fun t => MirrorInv t ∧ (t.synced = true → Mirrors config t))
    ⟨MirrorInv.start config env, fun hstart => ?_⟩ ?_).2 hsynced
  · have hquiet : (Lobby.start config env).synced = false := by
      unfold Lobby.start
      split_ifs <;> rfl
    rw [hquiet] at hstart
    cases hstart
  · intro s a t hs hcondition hstep
    refine ⟨hs.1.step hcondition.1 hstep, fun ht => ?_⟩
    obtain ⟨env', u, rfl⟩ := (step_room hs.1.room hs.1.remote hstep).2.2 ht
    have hsynced : Synced config env' u :=
      { plays := hplays
        voice := hvoice
        inv := (hs.1.step hcondition.1 hstep).of_broadcast
        ready := hcondition.2 _ hstep ht
        ok := ht }
    exact hsynced.mirrors

/-- A host logged in under its player name, a client who joins and switches
team in the lobby, and the host's own switch during the match. -/
theorem voice_membership_team_switches :
    ∃ s : Host, Mirrors { localNodeId := 100, localPlayerName := [66] } s ∧
      s.roomPlayers.map (fun rp => (rp.id, rp.team)) = [(100, 2), (5, 1)] := by
  let config : HostConfig := { localNodeId := 100, localPlayerName := [66] }
  let run : List (Env × HostAction) :=
    [({}, .login [66]), ({}, .own .hostLobby), ({}, .connect 11 true true),
      ({}, .packet 11 (.lobbyJoin 5 [65] [])), ({}, .beginUpdate), ({}, .process),
      ({}, .process), ({}, .packet 11 (.switchTeam 5 1)), ({}, .beginUpdate), ({}, .process),
      ({}, .switchTeamInMatch), ({}, .beginUpdate), ({}, .process)]
  obtain ⟨s, hs, hout⟩ : ∃ s, Exec.exec (step config) (start config {}) run = some s ∧
      decide (s.synced = true ∧
        s.roomPlayers.map (fun rp => (rp.id, rp.team)) = [(100, 2), (5, 1)]) = true :=
    Exec.exec_any (by decide +kernel)
  have halong : Exec.Along (step config)
      (fun s a => Honest config s a.2 ∧
        ∀ t ∈ step config s a, t.synced = true → Ready config t) (start config {}) run := by
    decide +kernel
  obtain ⟨hsynced, hroom⟩ := of_decide_eq_true hout
  exact ⟨s, voice_membership rfl (by decide) ⟨run, hs, halong⟩ hsynced, hroom⟩

/-- **Voice membership drifts.**  A host that is not logged in joins its own
lobby as player `100`; the broadcast publishes its voice as player `1`. -/
theorem voice_membership_drifts :
    ¬ ∀ (config : HostConfig) (env : Env) (s : Host), config.isDedicatedServer = false →
      config.voiceSessionId ≠ 0 → Exec.Reached (step config) (start config env) s →
      s.synced = true → Mirrors config s := by
  let config : HostConfig := { localNodeId := 100, localPlayerName := [66] }
  let run : List (Env × HostAction) := [({}, .own .hostLobby), ({}, .beginUpdate), ({}, .process)]
  obtain ⟨s, hs, hout⟩ : ∃ s, Exec.exec (step config) (start config {}) run = some s ∧
      decide (s.synced = true ∧ s.roomPlayers = [⟨100, [66], 1, false⟩] ∧
        (s.voiceRouter.membership localHostVoiceConnId).map (·.state.playerid) = some 1) = true :=
    Exec.exec_any (by decide +kernel)
  obtain ⟨hsynced, hroom, hpublished⟩ := of_decide_eq_true hout
  intro hlaw
  have hmirrors := hlaw config {} s rfl (by decide) ⟨run, hs⟩ hsynced
  obtain ⟨m, hm, hup⟩ := hmirrors.own ⟨100, [66], 1, false⟩ (by simp [hroom]) rfl
  rw [hm, Option.map_some, (Voice.Membership.stored_eq_some.mp hup.1).2] at hpublished
  exact absurd hpublished (by decide)

end Lobby
