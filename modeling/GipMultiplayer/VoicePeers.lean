import GipMultiplayer.LobbyRoom

/-!
# The peers of the host's voice router

A session is registered with the voice router when it is adopted, after a
connect or after a punch.  It is taken out again by a disconnect event, which
only the host's own listener raises; the sweep of dead sessions in `update`
takes it off the session list and leaves it registered.  `shutdownVoice` drops
every peer, the host's own among them, and nothing registers again whoever was
there.

* `step` — one action of the host, its network or its voice;
* `members` — the sessions, and the host's own peer;
* `Followed` — the law: the router's peers are the members;
* `Kept` — the condition on each step;
* `peers_follow_sessions` — the law in every run under the condition;
* `peers_left_behind` — a punched session dies, and keeps its slot.
-/

namespace Voice

/-! ## Who is registered -/

theorem mem_peers_iff {router : Router} {c : ConnectionId} :
    c ∈ router.peers ↔ (router.membership c).isSome = true := by
  rw [Router.membership, Option.isSome_map, AList.lookup_isSome]

/-- Membership in the peers depends on the memberships alone. -/
theorem mem_peers_congr {router router' : Router} {c : ConnectionId}
    (h : router'.membership c = router.membership c) : c ∈ router'.peers ↔ c ∈ router.peers := by
  rw [mem_peers_iff, mem_peers_iff, h]

/-- **Publishing registers no one**, and takes no one out. -/
theorem mem_setPeerState (router : Router) (now : TimePoint) (c : ConnectionId)
    (newstate : PeerState) (sendOk : Bool) (d : ConnectionId) :
    d ∈ (setPeerState router now c newstate sendOk).1.peers ↔ d ∈ router.peers := by
  have hcall : (setPeerState router now c newstate sendOk).1 =
      (controlCall router now c (some newstate) sendOk).1 := rfl
  rw [hcall]
  rcases controlCall_spec router now c (some newstate) sendOk with
    ⟨_, _, hsame⟩ | ⟨_, _, _, _, hsame⟩ | ⟨m, hm, _, _, hafter⟩
  · exact mem_peers_congr (hsame d)
  · exact mem_peers_congr (hsame d)
  · rw [mem_peers_iff, mem_peers_iff, hafter d]
    by_cases hd : d = c
    · subst hd
      simp [hm]
    · rw [if_neg hd]

/-- **A registration** succeeds for a new connection while a slot is free, and
touches no other peer. -/
theorem mem_addPeer (router : Router) (now : TimePoint) (c d : ConnectionId) :
    d ∈ (addPeer router now c true).1.peers ↔
      d ∈ router.peers ∨
        d = c ∧ c ≠ 0 ∧ router.peers.keys.length < router.config.maxconnections := by
  rw [addPeer]
  by_cases hzero : c = 0
  · rw [if_pos (.inl hzero)]
    simp [hzero]
  · rw [if_neg (by simp [hzero])]
    by_cases hmem : c ∈ router.peers
    · rw [if_pos hmem]
      constructor
      · exact .inl
      · rintro (hold | ⟨rfl, -⟩)
        · exact hold
        · exact hmem
    · rw [if_neg hmem]
      by_cases hfull : router.config.maxconnections ≤ router.peers.keys.length
      · rw [if_pos hfull]
        constructor
        · exact .inl
        · rintro (hold | ⟨-, -, hfree⟩)
          · exact hold
          · omega
      · rw [if_neg hfull]
        show d ∈ router.peers.insert c _ ↔ _
        rw [AList.mem_insert]
        constructor
        · rintro (hnew | hold)
          · exact .inr ⟨hnew, hzero, by omega⟩
          · exact .inl hold
        · rintro (hold | ⟨hnew, -⟩)
          · exact .inr hold
          · exact .inl hnew

theorem mem_removePeer (router : Router) (c d : ConnectionId) :
    d ∈ (removePeer router c).peers ↔ d ≠ c ∧ d ∈ router.peers := by
  show d ∈ router.peers.erase c ↔ _
  rw [AList.mem_erase]

end Voice

namespace Peers

open Lobby (Host HostConfig HostAction Env Session localHostVoiceConnId)
open Voice (ConnectionId Router)

/-! ## The system -/

/-- The host with its voice.  `punched` has the sessions that no listener
accepted, `initialized` is `isInitialized` of the voice client.  `shutDown` says
that `shutdownVoice` was called and voice has not been initialized since, and
`dropped` has the members of that time. -/
structure VoiceHost where
  host : Host
  punched : List ConnectionId := []
  initialized : Bool := false
  shutDown : Bool := false
  dropped : List ConnectionId := []

/-- **The members**: the sessions of the session list and, on a host that plays
itself, its own peer. -/
def members (config : HostConfig) (host : Host) : List ConnectionId :=
  (if config.isDedicatedServer then [] else [localHostVoiceConnId]) ++
    (host.sessions.filter (·.listed)).map (·.id)

/-- One action.  `ok` is the outcome of initializing the voice client. -/
inductive Action
  | accept (c : ConnectionId)
  | punch (c : ConnectionId)
  | disconnected (c : ConnectionId)
  | host (action : HostAction)
  | shutdownVoice
  | initializeVoice (ok : Bool)
  | startVoiceTransmission (ok : Bool)

/-- An action of the host that brings or ends no session of the session list by
an event. -/
def eventless : HostAction → Bool
  | .connect _ adopted _ => !adopted
  | .disconnected _ => false
  | _ => true

/-- The voice client is initialized by the action, or has been before. -/
def initializes (config : HostConfig) (v : VoiceHost) : Action → Bool
  | .initializeVoice ok | .startVoiceTransmission ok =>
      !config.isDedicatedServer && (v.initialized || ok)
  | _ => false

/-- The action ends a shutdown.  A dedicated host has no voice client, and its
`initializeVoice` always succeeds. -/
def restarts (config : HostConfig) (v : VoiceHost) : Action → Bool
  | .initializeVoice ok => config.isDedicatedServer || v.initialized || ok
  | .startVoiceTransmission ok => !config.isDedicatedServer && (v.initialized || ok)
  | _ => false

/-- The step of the host below, with everything else as it is. -/
def VoiceHost.hostStep (config : HostConfig) (v : VoiceHost) (env : Env) (action : HostAction) :
    Option VoiceHost :=
  (Lobby.step config v.host (env, action)).map fun host => { v with host := host }

/-- One step.  The sessions are numbered from one. -/
def step (config : HostConfig) (v : VoiceHost) (a : Env × Action) : Option VoiceHost :=
  match a.2 with
  | .accept c => if c = 0 then none else v.hostStep config a.1 (.connect c true true)
  | .punch c =>
      if c = 0 then none
      else
        (v.hostStep config a.1 (.connect c true true)).map fun v =>
          { v with punched := c :: v.punched }
  | .disconnected c =>
      -- only a session that the listener accepted ends in an event
      if c ∈ v.punched then none else v.hostStep config a.1 (.disconnected c)
  | .host action => if eventless action then v.hostStep config a.1 action else none
  | .shutdownVoice =>
      some { v with
        host := { v.host with voiceRouter := Voice.reset v.host.voiceRouter }
        initialized := false
        shutDown := true
        dropped := members config v.host }
  | action =>
      some { v with
        initialized := v.initialized || initializes config v action
        shutDown := v.shutDown && !restarts config v action }

/-- The host as `start` leaves it. -/
def start (config : HostConfig) (env : Env) (ok : Bool) : VoiceHost :=
  { host := Lobby.start config env, initialized := !config.isDedicatedServer && ok }

/-! ## The law -/

/-- **The router follows the sessions**: with voice not shut down, its peers are
the members. -/
def Followed (config : HostConfig) (v : VoiceHost) : Prop :=
  v.shutDown = false → ∀ c, c ∈ v.host.voiceRouter.peers ↔ c ∈ members config v.host

/-- No more sessions are alive than the router takes connections. -/
def Within (v : VoiceHost) : Prop :=
  v.host.sessions.countP (fun s => s.listed && s.alive) ≤ v.host.voiceRouter.config.maxconnections

instance (v : VoiceHost) : Decidable (Within v) :=
  inferInstanceAs (Decidable (_ ≤ _))

/-! ## The condition -/

/-- The router has a slot for one more peer. -/
def SlotFree (v : VoiceHost) : Prop :=
  v.host.voiceRouter.peers.keys.length < v.host.voiceRouter.config.maxconnections

instance (v : VoiceHost) : Decidable (SlotFree v) :=
  inferInstanceAs (Decidable (_ < _))

/-- No session has died that the list and the router both still have. -/
def NoneDead (v : VoiceHost) : Prop :=
  ∀ session ∈ v.host.sessions, session.listed = true → session.alive = false →
    session.id ∉ v.host.voiceRouter.peers

instance (v : VoiceHost) : Decidable (NoneDead v) :=
  inferInstanceAs (Decidable (∀ session ∈ v.host.sessions, _ → _ → ¬ _))

/-- None of the members of the last shutdown is a member still. -/
def AllNew (config : HostConfig) (v : VoiceHost) : Prop :=
  ∀ c ∈ members config v.host, c ∉ v.dropped

instance (config : HostConfig) (v : VoiceHost) : Decidable (AllNew config v) :=
  inferInstanceAs (Decidable (∀ c ∈ members config v.host, ¬ _))

/-- **The condition of the law.**  A session is adopted while a slot is free,
the sweep finds no session whose disconnect event has not come, and voice that
was shut down is started again only when none of the members of that time is
left. -/
def Kept (config : HostConfig) (v : VoiceHost) (a : Action) : Prop :=
  match a with
  | .accept _ | .punch _ => SlotFree v
  | .host .sweep => NoneDead v
  | .host _ | .disconnected _ | .shutdownVoice => True
  | action => v.shutDown = true → restarts config v action = true → AllNew config v

instance (config : HostConfig) (v : VoiceHost) : (a : Action) → Decidable (Kept config v a)
  | .accept _ | .punch _ => inferInstanceAs (Decidable (SlotFree v))
  | .host .sweep => inferInstanceAs (Decidable (NoneDead v))
  | .host (.connect _ _ _) | .host (.packet _ _) | .host (.die _) | .host (.disconnected _)
  | .host .beginUpdate | .host .process | .host (.kick _) | .host .roomCode | .host (.own _)
  | .host .setupMatch | .host .switchTeamInMatch | .host (.login _) | .host .logout
  | .disconnected _ | .shutdownVoice => .isTrue trivial
  | .initializeVoice _ | .startVoiceTransmission _ =>
      inferInstanceAs (Decidable (_ → _ → AllNew config v))

variable {config : HostConfig} {env : Env} {s t : Host} {v w : VoiceHost}

/-! ## The host below -/

/-- The sessions of the host, and whether each is in the session list. -/
def entries (host : Host) : List (ConnectionId × Bool) :=
  host.sessions.map fun session => (session.id, session.listed)

/-- The ids of the sessions. -/
def ids (host : Host) : List ConnectionId :=
  host.sessions.map (·.id)

theorem ids_eq_entries : ids s = (entries s).map Prod.fst := by
  rw [entries, List.map_map]
  rfl

theorem mem_ids_of_entries {c : ConnectionId} {listed : Bool} (h : (c, listed) ∈ entries s) :
    c ∈ ids s := by
  rw [ids_eq_entries]
  exact List.mem_map_of_mem h

theorem mem_entries {c : ConnectionId} {listed : Bool} :
    (c, listed) ∈ entries s ↔ ∃ session ∈ s.sessions, session.id = c ∧ session.listed = listed := by
  simp [entries]

theorem mem_members {c : ConnectionId} :
    c ∈ members config s ↔
      (config.isDedicatedServer = false ∧ c = localHostVoiceConnId) ∨ (c, true) ∈ entries s := by
  rw [mem_entries, members, List.mem_append]
  refine or_congr ?_ ?_
  · cases config.isDedicatedServer <;> simp
  · simp only [List.mem_map, List.mem_filter]
    exact ⟨fun ⟨session, ⟨hmem, hlisted⟩, hid⟩ => ⟨session, hmem, hid, hlisted⟩,
      fun ⟨session, hmem, hid, hlisted⟩ => ⟨session, ⟨hmem, hlisted⟩, hid⟩⟩

/-- Sessions, session list and registrations are the same. -/
structure Same (s t : Host) : Prop where
  entries : entries t = entries s
  peers : ∀ c, c ∈ t.voiceRouter.peers ↔ c ∈ s.voiceRouter.peers

theorem Same.refl (s : Host) : Same s s := ⟨rfl, fun _ => Iff.rfl⟩

theorem mem_publish (acc : Router × Bool) (c : ConnectionId) (state : Voice.PeerState)
    (d : ConnectionId) : d ∈ (Lobby.publish env acc c state).1.peers ↔ d ∈ acc.1.peers :=
  Voice.mem_setPeerState acc.1 env.now c state _ d

theorem mem_syncVoicePeerStates (d : ConnectionId) :
    d ∈ (Lobby.syncVoicePeerStates config env s).1.peers ↔ d ∈ s.voiceRouter.peers := by
  have hsessions : ∀ (sessions : List Session) (acc : Router × Bool),
      d ∈ (sessions.foldl (fun acc session => Lobby.publish env acc session.id
        (Lobby.sessionPeerState config s.roomPlayers session)) acc).1.peers ↔
          d ∈ acc.1.peers := by
    intro sessions
    induction sessions with
    | nil => exact fun acc => Iff.rfl
    | cons first rest ih => exact fun acc => (ih _).trans (mem_publish acc first.id _ d)
  unfold Lobby.syncVoicePeerStates
  split_ifs
  · exact Iff.rfl
  · exact hsessions _ _
  · exact (hsessions _ _).trans (mem_publish _ _ _ d)

/-- A broadcast of the room registers no one. -/
theorem Same.broadcast (h : Same s t) : Same s (Lobby.broadcastLobbyState config env t) :=
  ⟨h.entries, fun c => (mem_syncVoicePeerStates c).trans (h.peers c)⟩

/-- Nor does a change to one session that keeps its place. -/
theorem entries_modifySession (c : ConnectionId) {f : Session → Session}
    (hf : ∀ session, (f session).id = session.id ∧ (f session).listed = session.listed) :
    entries (s.modifySession c f) = entries s := by
  show (s.sessions.map _).map _ = s.sessions.map _
  rw [List.map_map]
  refine List.map_congr_left fun session _ => ?_
  show ((if session.id = c then f session else session).id,
    (if session.id = c then f session else session).listed) = _
  split_ifs
  · rw [(hf session).1, (hf session).2]
  · rfl

theorem onPacket_same (session : Session) (packet : Lobby.Packet) :
    Same s (Lobby.onPacket config env s session packet) := by
  cases packet with
  | nodeState netid state =>
      exact ⟨entries_modifySession session.id fun _ => ⟨rfl, rfl⟩, fun _ => Iff.rfl⟩
  | lobbyJoin senderId playerName password =>
      unfold Lobby.onPacket
      dsimp only
      split_ifs
      · exact .refl s
      · exact ⟨entries_modifySession session.id fun _ => ⟨rfl, rfl⟩,
          fun c => mem_syncVoicePeerStates c⟩
  | ping timestamp reportedPing =>
      unfold Lobby.onPacket
      dsimp only
      cases session.tag with
      | none => exact .refl s
      | some id =>
          dsimp only
          split_ifs
          · exact ⟨rfl, fun _ => Iff.rfl⟩
          · exact .refl s
  | voiceUplink packet =>
      exact ⟨rfl, fun c => Voice.mem_peers_congr
        (Voice.handleVoicePacket_membership s.voiceRouter env.now session.id packet env.sendOk c)⟩
  | _ => exact ⟨rfl, fun _ => Iff.rfl⟩

theorem receiveChat_same (origin : Option ConnectionId) (message : Lobby.ChatMessage) :
    Same s (Lobby.receiveChat env s origin message) := by
  obtain ⟨stamps, relays, heq, -⟩ := Lobby.receiveChat_eq env s origin message
  rw [heq]
  exact ⟨rfl, fun _ => Iff.rfl⟩

theorem onPacketReceived_same (queued : Lobby.Queued) :
    Same s (Lobby.onPacketReceived config env s queued) := by
  obtain ⟨packet, origin⟩ := queued
  cases packet with
  | nodeLeave netid =>
      show Same s (Lobby.receiveLeave config env s netid)
      unfold Lobby.receiveLeave
      split_ifs
      · exact Same.broadcast ⟨rfl, fun _ => Iff.rfl⟩
      · exact .refl s
  | chatMessage message => exact receiveChat_same origin message
  | lobbyJoin senderId playerName password =>
      show Same s (Lobby.receiveJoin config env s senderId playerName)
      unfold Lobby.receiveJoin
      split_ifs
      · exact (Same.refl s).broadcast
      · exact .refl s
      · exact Same.broadcast ⟨rfl, fun _ => Iff.rfl⟩
  | startMatch => exact Same.broadcast ⟨rfl, fun _ => Iff.rfl⟩
  | toggleReady senderId => exact Same.broadcast ⟨rfl, fun _ => Iff.rfl⟩
  | switchTeam senderId teamId => exact Same.broadcast ⟨rfl, fun _ => Iff.rfl⟩
  | _ => exact .refl s

/-- The actions that leave sessions and registrations as they are. -/
def settled : HostAction → Bool
  | .connect _ _ _ | .disconnected _ | .sweep => false
  | _ => true

/-- **Nothing but connects, disconnects and the sweep** touches who is in the
session list and who is registered. -/
theorem step_same {action : HostAction} (hsettled : settled action = true)
    (h : Lobby.step config s (env, action) = some t) : Same s t := by
  have hperformed := Lobby.step_performed h
  dsimp only at hperformed
  cases hperformed with
  | connect => cases hsettled
  | disconnected => cases hsettled
  | sweep => cases hsettled
  | packet c packet session =>
      obtain ⟨hentries, hpeers⟩ :=
        @onPacket_same config env { s with synced := false } session packet
      exact ⟨hentries, hpeers⟩
  | die c =>
      exact ⟨entries_modifySession (s := { s with synced := false }) c fun _ => ⟨rfl, rfl⟩,
        fun _ => Iff.rfl⟩
  | process queued rest =>
      obtain ⟨hentries, hpeers⟩ := @onPacketReceived_same config env
        { s with synced := false, batch := rest } queued
      exact ⟨hentries, hpeers⟩
  | kick playerId =>
      unfold Lobby.kickPlayer
      split_ifs
      · exact Same.broadcast ⟨rfl, fun _ => Iff.rfl⟩
      · exact ⟨rfl, fun _ => Iff.rfl⟩
  | roomCode => exact Same.broadcast ⟨rfl, fun _ => Iff.rfl⟩
  | _ => exact ⟨rfl, fun _ => Iff.rfl⟩

/-- A new session has an id of its own, and is registered when it is adopted
and a slot is free. -/
theorem step_connect {c : ConnectionId} {adopted : Bool}
    (h : Lobby.step config s (env, .connect c adopted true) = some t) :
    entries t = entries s ++ [(c, adopted)] ∧ c ∉ ids s ∧ c ≠ localHostVoiceConnId ∧
      ∀ d, d ∈ t.voiceRouter.peers ↔ d ∈ s.voiceRouter.peers ∨
        adopted = true ∧ d = c ∧ c ≠ 0 ∧
          s.voiceRouter.peers.keys.length < s.voiceRouter.config.maxconnections := by
  cases Lobby.step_performed h with
  | connect _ _ _ hnew hnotlocal =>
      refine ⟨?_, ?_, hnotlocal, fun d => ?_⟩
      · have hsessions :=
          (@Lobby.connect_eq config env { s with synced := false } c adopted true).2.2
        unfold entries
        rw [hsessions, List.map_append]
        rfl
      · intro hmem
        obtain ⟨session, hsession, hid⟩ := List.mem_map.mp hmem
        have hnone := List.find?_eq_none.mp hnew session hsession
        exact hnone (by simpa using hid)
      · cases adopted with
        | false => simp [Lobby.connect]
        | true =>
            refine (mem_syncVoicePeerStates d).trans
              ((Voice.mem_addPeer _ env.now c d).trans ?_)
            simp

/-- A disconnect event takes a session off the list and out of the router. -/
theorem step_disconnected {c : ConnectionId}
    (h : Lobby.step config s (env, .disconnected c) = some t) :
    entries t = (entries s).map (fun e => if e.1 = c then (e.1, false) else e) ∧
      c ∈ ids s ∧ ∀ d, d ∈ t.voiceRouter.peers ↔ d ≠ c ∧ d ∈ s.voiceRouter.peers := by
  cases Lobby.step_performed h with
  | disconnected _ session hsession =>
      have hid : session.id = c := by simpa using List.find?_some hsession
      refine ⟨?_, List.mem_map.mpr ⟨session, List.mem_of_find?_eq_some hsession, hid⟩, fun d => ?_⟩
      · obtain ⟨-, -, -, hsessions⟩ :=
          @Lobby.onPeerDisconnected_eq { s with synced := false } session
        unfold entries
        rw [hsessions, List.map_map, List.map_map]
        refine List.map_congr_left fun a _ => ?_
        by_cases ha : a.id = c <;> simp [ha, hid]
      · rw [← hid]
        refine Iff.trans (Iff.of_eq ?_) (Voice.mem_removePeer s.voiceRouter session.id d)
        unfold Lobby.onPeerDisconnected
        dsimp only
        cases session.tag with
        | none => rfl
        | some id =>
            dsimp only
            split_ifs <;> rfl

/-- **The sweep** takes the dead sessions off the list, and leaves the router
alone. -/
theorem step_sweep (h : Lobby.step config s (env, .sweep) = some t) :
    t.sessions = s.sessions.map Session.sweep ∧ t.voiceRouter = s.voiceRouter := by
  cases Lobby.step_performed h
  rw [Lobby.sweepSessions_eq]
  exact ⟨rfl, rfl⟩

/-! ## The invariant -/

/-- **The invariant**: whoever should be registered is, but for those that a
shutdown has dropped; and with voice up those have all left. -/
structure Inv (config : HostConfig) (v : VoiceHost) : Prop where
  distinct : (ids v.host).Nodup
  remote : localHostVoiceConnId ∉ ids v.host
  known : ∀ c ∈ v.dropped, c = localHostVoiceConnId ∨ c ∈ ids v.host
  registered : ∀ c, c ∈ v.host.voiceRouter.peers ↔ c ∈ members config v.host ∧ c ∉ v.dropped
  up : v.shutDown = false → ∀ c ∈ members config v.host, c ∉ v.dropped

theorem Inv.followed (h : Inv config v) : Followed config v := by
  intro hup c
  rw [h.registered c]
  exact ⟨And.left, fun hc => ⟨hc, h.up hup c hc⟩⟩

/-- The host has moved: some sessions are new, and a member that was not one
before is one of them. -/
theorem Inv.moved {new : List ConnectionId} (h : Inv config v)
    (hids : ids t = ids v.host ++ new) (hdistinct : new.Nodup)
    (hnew : ∀ c ∈ new, c ∉ ids v.host ∧ c ≠ localHostVoiceConnId)
    (hmembers : ∀ c ∈ members config t, c ∈ members config v.host ∨ c ∈ new)
    (hregistered : ∀ c, c ∈ t.voiceRouter.peers ↔ c ∈ members config t ∧ c ∉ v.dropped) :
    Inv config { v with host := t } where
  distinct := by
    show (ids t).Nodup
    rw [hids]
    exact List.Nodup.append h.distinct hdistinct fun c hold hc => (hnew c hc).1 hold
  remote := by
    show _ ∉ ids t
    rw [hids, List.mem_append]
    rintro (hold | hc)
    · exact h.remote hold
    · exact (hnew _ hc).2 rfl
  known := by
    intro c hc
    refine (h.known c hc).imp_right fun hold => ?_
    show c ∈ ids t
    rw [hids]
    exact List.mem_append_left _ hold
  registered := hregistered
  up := by
    intro hup c hc
    rcases hmembers c hc with hold | hfresh
    · exact h.up hup c hold
    · intro hdropped
      obtain ⟨hunknown, hother⟩ := hnew c hfresh
      rcases h.known c hdropped with hself | hold
      · exact hother hself
      · exact hunknown hold

theorem Inv.same (h : Inv config v) (hsame : Same v.host t) :
    Inv config { v with host := t } := by
  have hmembers : ∀ c, c ∈ members config t ↔ c ∈ members config v.host := by
    intro c
    rw [mem_members, mem_members, hsame.entries]
  have hids : ids t = ids v.host ++ [] := by
    rw [ids_eq_entries, ids_eq_entries, hsame.entries, List.append_nil]
  refine h.moved hids List.nodup_nil (fun c hc => by cases hc)
    (fun c hc => .inl ((hmembers c).mp hc)) fun c => ?_
  rw [hsame.peers c, h.registered c, hmembers c]

/-- The sessions and members after a connect. -/
theorem ids_connect {c : ConnectionId} {adopted : Bool}
    (hentries : entries t = entries s ++ [(c, adopted)]) :
    ids t = ids s ++ [c] ∧
      ∀ d, d ∈ members config t ↔ d ∈ members config s ∨ adopted = true ∧ d = c := by
  constructor
  · rw [ids_eq_entries, ids_eq_entries, hentries, List.map_append]
    rfl
  · intro d
    rw [mem_members, mem_members, hentries, List.mem_append, List.mem_singleton, or_assoc]
    refine or_congr_right (or_congr_right ?_)
    rw [Prod.mk.injEq, and_comm, eq_comm]

/-- A session comes: it is adopted while a slot is free, or it is another
server's. -/
theorem Inv.connect {c : ConnectionId} {adopted : Bool} (h : Inv config v)
    (hfree : adopted = true → c ≠ 0 ∧ SlotFree v)
    (hstep : v.hostStep config env (.connect c adopted true) = some w) : Inv config w := by
  obtain ⟨host, hhost, rfl⟩ := Option.map_eq_some_iff.mp hstep
  obtain ⟨hentries, hfresh, hlocal, hpeers⟩ := step_connect hhost
  obtain ⟨hids, hmembers⟩ := @ids_connect config _ _ _ _ hentries
  refine h.moved hids (List.nodup_singleton c) ?_ ?_ fun d => ?_
  · intro d hd
    obtain rfl := List.mem_singleton.mp hd
    exact ⟨hfresh, hlocal⟩
  · intro d hd
    exact ((hmembers d).mp hd).imp_right fun hnew => List.mem_singleton.mpr hnew.2
  · rw [hpeers d, h.registered d, hmembers d]
    constructor
    · rintro (⟨hold, hkept⟩ | ⟨hadopted, rfl, -⟩)
      · exact ⟨.inl hold, hkept⟩
      · refine ⟨.inr ⟨hadopted, rfl⟩, fun hdropped => ?_⟩
        rcases h.known d hdropped with hself | hold
        · exact hlocal hself
        · exact hfresh hold
    · rintro ⟨hold | ⟨hadopted, rfl⟩, hkept⟩
      · exact .inl ⟨hold, hkept⟩
      · exact .inr ⟨hadopted, rfl, hfree hadopted⟩

/-- The sessions and members after a disconnect event. -/
theorem ids_disconnected {c : ConnectionId} (hlocal : c ≠ localHostVoiceConnId)
    (hentries : entries t = (entries s).map fun e => if e.1 = c then (e.1, false) else e) :
    ids t = ids s ∧ ∀ d, d ∈ members config t ↔ d ≠ c ∧ d ∈ members config s := by
  constructor
  · rw [ids_eq_entries, ids_eq_entries, hentries, List.map_map]
    refine List.map_congr_left fun e _ => ?_
    show (if e.1 = c then (e.1, false) else e).1 = e.1
    split_ifs <;> rfl
  · intro d
    rw [mem_members, mem_members, hentries, List.mem_map]
    constructor
    · rintro (hself | ⟨e, he, heq⟩)
      · exact ⟨fun hd => hlocal (hd ▸ hself.2), .inl hself⟩
      · by_cases hd : e.1 = c
        · rw [if_pos hd] at heq
          cases heq
        · rw [if_neg hd] at heq
          subst heq
          exact ⟨hd, .inr he⟩
    · rintro ⟨hd, hself | he⟩
      · exact .inl hself
      · exact .inr ⟨(d, true), he, if_neg hd⟩

/-- A session ends in an event. -/
theorem Inv.disconnected {c : ConnectionId} (h : Inv config v)
    (hstep : v.hostStep config env (.disconnected c) = some w) : Inv config w := by
  obtain ⟨host, hhost, rfl⟩ := Option.map_eq_some_iff.mp hstep
  obtain ⟨hentries, hknown, hpeers⟩ := step_disconnected hhost
  have hlocal : c ≠ localHostVoiceConnId := fun hself => h.remote (hself ▸ hknown)
  obtain ⟨hids, hmembers⟩ := @ids_disconnected config _ _ _ hlocal hentries
  refine h.moved (hids.trans (List.append_nil _).symm) List.nodup_nil (fun d hd => by cases hd)
    (fun d hd => .inl ((hmembers d).mp hd).2) fun d => ?_
  rw [hpeers d, h.registered d, hmembers d, and_assoc]

theorem sweep_id (session : Session) : session.sweep.id = session.id := by
  unfold Lobby.Session.sweep
  split_ifs <;> rfl

/-- The sessions and members after the sweep: the dead ones are members no
more. -/
theorem ids_sweep (hsessions : t.sessions = s.sessions.map Lobby.Session.sweep) :
    ids t = ids s ∧
      ∀ d, d ∈ members config t ↔
        (config.isDedicatedServer = false ∧ d = localHostVoiceConnId) ∨
          ∃ session ∈ s.sessions, session.id = d ∧ session.listed = true ∧
            session.alive = true := by
  constructor
  · unfold ids
    rw [hsessions, List.map_map]
    exact List.map_congr_left fun session _ => sweep_id session
  · intro d
    rw [mem_members, mem_entries, hsessions]
    refine or_congr_right ?_
    constructor
    · rintro ⟨swept, hmem, hid, hlisted⟩
      obtain ⟨old, hold, rfl⟩ := List.mem_map.mp hmem
      rw [sweep_id] at hid
      unfold Lobby.Session.sweep at hlisted
      split_ifs at hlisted with hgone
      refine ⟨old, hold, hid, hlisted, ?_⟩
      by_contra halive
      exact hgone ⟨hlisted, by simpa using halive⟩
    · rintro ⟨old, hold, hid, hlisted, halive⟩
      refine ⟨old.sweep, List.mem_map_of_mem hold, (sweep_id old).trans hid, ?_⟩
      rw [Lobby.Session.sweep, if_neg (by simp [halive])]
      exact hlisted

/-- The sweep, when every session that has died is out of the router. -/
theorem Inv.sweep (h : Inv config v) (hdead : NoneDead v)
    (hstep : v.hostStep config env .sweep = some w) : Inv config w := by
  obtain ⟨host, hhost, rfl⟩ := Option.map_eq_some_iff.mp hstep
  obtain ⟨hsessions, hrouter⟩ := step_sweep hhost
  obtain ⟨hids, hmembers⟩ := @ids_sweep config _ _ hsessions
  have hsub : ∀ d, d ∈ members config host → d ∈ members config v.host := by
    intro d hd
    rw [mem_members, mem_entries]
    refine ((hmembers d).mp hd).imp_right ?_
    rintro ⟨old, hold, hid, hlisted, -⟩
    exact ⟨old, hold, hid, hlisted⟩
  refine h.moved (hids.trans (List.append_nil _).symm) List.nodup_nil (fun d hd => by cases hd)
    (fun d hd => .inl (hsub d hd)) fun d => ?_
  rw [hrouter]
  constructor
  · intro hpeer
    obtain ⟨hold, hkept⟩ := (h.registered d).mp hpeer
    refine ⟨(hmembers d).mpr ?_, hkept⟩
    rw [mem_members, mem_entries] at hold
    refine hold.imp_right ?_
    rintro ⟨old, hmem, hid, hlisted⟩
    refine ⟨old, hmem, hid, hlisted, ?_⟩
    by_contra halive
    exact hdead old hmem hlisted (by simpa using halive) (hid ▸ hpeer)
  · rintro ⟨hnew, hkept⟩
    exact (h.registered d).mpr ⟨hsub d hnew, hkept⟩

/-- Voice is shut down. -/
theorem Inv.shutdown (h : Inv config v) :
    Inv config { v with
      host := { v.host with voiceRouter := Voice.reset v.host.voiceRouter }
      initialized := false
      shutDown := true
      dropped := members config v.host } where
  distinct := h.distinct
  remote := h.remote
  known := fun c hc => (mem_members.mp hc).imp And.right mem_ids_of_entries
  registered := by
    intro c
    constructor
    · intro hpeer
      exact absurd hpeer (AList.notMem_empty c)
    · rintro ⟨hmember, hkept⟩
      exact absurd hmember hkept
  up := fun hup => by cases hup

/-- Voice is initialized. -/
theorem Inv.restart {a : Action} {initialized : Bool} (h : Inv config v)
    (hkept : v.shutDown = true → restarts config v a = true → AllNew config v) :
    Inv config { v with
      initialized := initialized
      shutDown := v.shutDown && !restarts config v a } where
  distinct := h.distinct
  remote := h.remote
  known := h.known
  registered := h.registered
  up := by
    intro hup
    cases hdown : v.shutDown with
    | false => exact h.up hdown
    | true => exact hkept hdown (by simpa [hdown] using hup)

/-- **What each step keeps.** -/
theorem Inv.step {a : Env × Action} (h : Inv config v) (hkept : Kept config v a.2)
    (hstep : step config v a = some w) : Inv config w := by
  obtain ⟨env, action⟩ := a
  unfold Peers.step at hstep
  cases action with
  | accept c =>
      dsimp only at hstep
      split_ifs at hstep with hzero
      exact h.connect (fun _ => ⟨hzero, hkept⟩) hstep
  | punch c =>
      dsimp only at hstep
      split_ifs at hstep with hzero
      obtain ⟨u, hu, rfl⟩ := Option.map_eq_some_iff.mp hstep
      obtain ⟨hdistinct, hremote, hknown, hregistered, hup⟩ :=
        h.connect (fun _ => ⟨hzero, hkept⟩) hu
      exact ⟨hdistinct, hremote, hknown, hregistered, hup⟩
  | disconnected c =>
      dsimp only at hstep
      split_ifs at hstep
      exact h.disconnected hstep
  | host action =>
      dsimp only at hstep
      split_ifs at hstep with hevent
      by_cases hsettled : settled action = true
      · obtain ⟨host, hhost, rfl⟩ := Option.map_eq_some_iff.mp hstep
        exact h.same (step_same hsettled hhost)
      · cases action with
        | connect c adopted zdt =>
            obtain rfl : adopted = false := by simpa [eventless] using hevent
            have hzdt : v.hostStep config env (.connect c false zdt) =
                v.hostStep config env (.connect c false true) := rfl
            rw [hzdt] at hstep
            exact h.connect (fun hadopted => by cases hadopted) hstep
        | disconnected c => cases hevent
        | sweep => exact h.sweep hkept hstep
        | _ => exact absurd rfl hsettled
  | shutdownVoice =>
      cases hstep
      exact h.shutdown
  | initializeVoice ok =>
      cases hstep
      exact h.restart hkept
  | startVoiceTransmission ok =>
      cases hstep
      exact h.restart hkept

theorem Inv.start (config : HostConfig) (env : Env) (ok : Bool) :
    Inv config (start config env ok) := by
  have hentries : entries (Lobby.start config env) = [] := by
    unfold Lobby.start
    split_ifs <;> rfl
  have hpeers : ∀ c, c ∈ (Lobby.start config env).voiceRouter.peers ↔
      config.isDedicatedServer = false ∧ c = localHostVoiceConnId := by
    intro c
    unfold Lobby.start
    split_ifs with hdedicated
    · simp [hdedicated, AList.notMem_empty]
    · refine (mem_syncVoicePeerStates c).trans ((Voice.mem_addPeer _ env.now _ c).trans ?_)
      have hlocal : localHostVoiceConnId ≠ 0 := by decide
      simp [hdedicated, hlocal, AList.notMem_empty]
  have hids : ids (Lobby.start config env) = [] := by
    rw [ids_eq_entries, hentries]
    rfl
  refine ⟨?_, ?_, (fun c hc => by cases hc), ?_, (fun _ c _ hc => by cases hc)⟩
  · show (ids (Lobby.start config env)).Nodup
    rw [hids]
    exact List.nodup_nil
  · show _ ∉ ids (Lobby.start config env)
    rw [hids]
    exact List.not_mem_nil
  · intro c
    refine (hpeers c).trans ?_
    show _ ↔ c ∈ members config (Lobby.start config env) ∧ c ∉ []
    rw [mem_members, hentries]
    simp

/-! ## The condition is exact -/

/-- A new session that finds no free slot is not registered. -/
theorem slotFree_of_followed {c : ConnectionId} (h : Inv config v)
    (hstep : v.hostStep config env (.connect c true true) = some w)
    (hfollowed : ∀ d, d ∈ w.host.voiceRouter.peers ↔ d ∈ members config w.host) : SlotFree v := by
  obtain ⟨host, hhost, rfl⟩ := Option.map_eq_some_iff.mp hstep
  obtain ⟨hentries, hfresh, hlocal, hpeers⟩ := step_connect hhost
  obtain ⟨-, hmembers⟩ := @ids_connect config _ _ _ _ hentries
  have hpeer := (hfollowed c).mpr ((hmembers c).mpr (.inr ⟨rfl, rfl⟩))
  rcases (hpeers c).mp hpeer with hold | ⟨-, -, -, hfree⟩
  · have hmember := ((h.registered c).mp hold).1
    rcases mem_members.mp hmember with ⟨-, hself⟩ | hentry
    · exact absurd hself hlocal
    · exact absurd (mem_ids_of_entries hentry) hfresh
  · exact hfree

/-- A dead session that is swept while it is registered stays registered. -/
theorem noneDead_of_followed (h : Inv config v)
    (hstep : v.hostStep config env .sweep = some w)
    (hfollowed : ∀ d, d ∈ w.host.voiceRouter.peers ↔ d ∈ members config w.host) : NoneDead v := by
  obtain ⟨host, hhost, rfl⟩ := Option.map_eq_some_iff.mp hstep
  obtain ⟨hsessions, hrouter⟩ := step_sweep hhost
  intro session hsession _ hgone hpeer
  have hmember := (hfollowed session.id).mp (hrouter ▸ hpeer)
  rcases ((@ids_sweep config _ _ hsessions).2 session.id).mp hmember with
    ⟨-, hself⟩ | ⟨other, hother, hid, -, halive⟩
  · exact h.remote (hself ▸ List.mem_map_of_mem hsession)
  · have hsame := List.inj_on_of_nodup_map h.distinct hother hsession hid
    rw [hsame, hgone] at halive
    cases halive

/-- **The condition is exact**: a step that leaves voice up leaves the peers
with the members if and only if it meets the condition. -/
theorem followed_iff {a : Env × Action} (h : Inv config v) (hstep : step config v a = some w)
    (hup : w.shutDown = false) : Followed config w ↔ Kept config v a.2 := by
  constructor
  · intro hfollowed
    have hfollowed := hfollowed hup
    obtain ⟨env, action⟩ := a
    unfold step at hstep
    have hrestart : w.host = v.host → ∀ c ∈ members config v.host, c ∉ v.dropped := by
      intro hhost c hc
      rw [hhost] at hfollowed
      exact ((h.registered c).mp ((hfollowed c).mpr hc)).2
    cases action with
    | accept c =>
        dsimp only at hstep
        split_ifs at hstep
        exact slotFree_of_followed h hstep hfollowed
    | punch c =>
        dsimp only at hstep
        split_ifs at hstep
        obtain ⟨u, hu, rfl⟩ := Option.map_eq_some_iff.mp hstep
        exact slotFree_of_followed h hu hfollowed
    | disconnected c => trivial
    | host action =>
        dsimp only at hstep
        split_ifs at hstep
        cases action with
        | sweep => exact noneDead_of_followed h hstep hfollowed
        | _ => trivial
    | shutdownVoice => trivial
    | initializeVoice ok =>
        cases hstep
        exact fun _ _ => hrestart rfl
    | startVoiceTransmission ok =>
        cases hstep
        exact fun _ _ => hrestart rfl
  · exact fun hkept => (h.step hkept hstep).followed

/-! ## Runs -/

/-- **The router's peers follow the sessions**, in every run whose steps all
meet the condition. -/
theorem peers_follow_sessions {config : HostConfig} {env : Env} {ok : Bool} {v : VoiceHost}
    (h : Exec.ReachedAlong (step config) (fun v a => Kept config v a.2) (start config env ok) v) :
    Followed config v := by
  have hinv : Inv config v :=
    h.invariant (Inv config) (.start config env ok) fun v a w hinv hkept hstep =>
      hinv.step hkept hstep
  exact hinv.followed

/-- A listener's session and a punched one come, and the first one leaves. -/
theorem peers_follow_two_sessions :
    ∃ v : VoiceHost, v.shutDown = false ∧ v.host.sessions.length = 2 ∧
      Followed { localNodeId := 100 } v := by
  let run : List (Env × Action) :=
    [({}, .accept 11), ({}, .punch 12), ({}, .host (.die 11)), ({}, .disconnected 11),
      ({}, .host .sweep), ({}, .startVoiceTransmission true)]
  obtain ⟨v, hv, hout⟩ : ∃ v, Exec.exec (step { localNodeId := 100 })
      (start { localNodeId := 100 } {} true) run = some v ∧
      decide (v.shutDown = false ∧ v.host.sessions.length = 2) = true :=
    Exec.exec_any (by decide +kernel)
  have halong : Exec.Along (step { localNodeId := 100 })
      (fun v a => Kept { localNodeId := 100 } v a.2) (start { localNodeId := 100 } {} true) run := by
    decide +kernel
  obtain ⟨hup, htwo⟩ := of_decide_eq_true hout
  exact ⟨v, hup, htwo, peers_follow_sessions ⟨run, hv, halong⟩⟩

/-- The run ends, within the router's limit and with voice up, in a state where
a peer is no member or a member is no peer. -/
def Strays (run : List (Env × Action)) : Prop :=
  let config : HostConfig := { localNodeId := 100 }
  Exec.Along (step config) (fun v _ => Within v) (start config {} true) run ∧
    ∃ v ∈ Exec.exec (step config) (start config {} true) run, Within v ∧ v.shutDown = false ∧
      ∃ c ∈ v.host.voiceRouter.peers.keys ++ members config v.host,
        ¬ (c ∈ v.host.voiceRouter.peers ↔ c ∈ members config v.host)

instance (run : List (Env × Action)) : Decidable (Strays run) :=
  inferInstanceAs (Decidable (Exec.Along _ _ _ run ∧ ∃ v ∈ Exec.exec _ _ run, _))

/-- **A peer is left behind.**  A punched session dies; the sweep takes it off
the session list, and no event comes that would take it out of the router. -/
theorem peers_left_behind :
    ¬ ∀ (config : HostConfig) (env : Env) (ok : Bool) (v : VoiceHost),
      Exec.ReachedAlong (step config) (fun v _ => Within v) (start config env ok) v →
      Within v → Followed config v := by
  let run : List (Env × Action) := [({}, .punch 11), ({}, .host (.die 11)), ({}, .host .sweep)]
  have hstrays : Strays run := by decide +kernel
  obtain ⟨hwithin, v, hv, hlimit, hup, c, -, hstray⟩ := hstrays
  intro hlaw
  exact hstray (hlaw { localNodeId := 100 } {} true v ⟨run, hv, hwithin⟩ hlimit hup c)

/-- Voice is shut down and started again, without the host's own peer. -/
example : Strays [({}, .shutdownVoice), ({}, .startVoiceTransmission true)] := by decide +kernel

/-- The sweep comes before the disconnect event. -/
example : Strays [({}, .accept 11), ({}, .host (.die 11)), ({}, .host .sweep)] := by
  decide +kernel

end Peers
