import GipMultiplayer.LobbyPassword

/-!
# A kick lasts

What `kickPlayer` leaves behind.  It takes the player out of the room and sends
its session a `LobbyKickPacket`; the session stays as it is, with its tag, its
handler and the packets it has queued.  A client that does not close the session
itself goes on playing, and a second copy of its join, which clients resend
until the lobby lists them, brings it back.

* `Lasting` — the law, for one step;
* `Sealed` — the condition on each step;
* `kick_lasts` — the law in every run under the condition;
* `kick_undone` — a join already queued brings the player back.
-/

namespace Lobby

open Voice (ConnectionId)

/-! ## The law -/

/-- **A kick lasts**: the player is taken out, comes back only by a join of a
session opened after the kick, and nothing its old session sends moves the game
or is broadcast. -/
structure Lasting (g : Game) (a : GameAction) (g' : Game) : Prop where
  removes : ∀ playerId, a = .host (.kick playerId) →
    ∀ rp ∈ g'.host.roomPlayers, rp.id ≠ playerId
  back : ∀ kick ∈ g.kicks, (∀ rp ∈ g.host.roomPlayers, rp.id ≠ kick.playerId) →
    (∃ rp ∈ g'.host.roomPlayers, rp.id = kick.playerId) →
      a = .host .process ∧ ∃ queued rest c, g.host.batch = queued :: rest ∧
        joinId queued.packet = some kick.playerId ∧ queued.origin = some c ∧ c ∉ kick.known
  arrives : ∀ kick ∈ g.kicks, ∀ c ∈ kick.session, ∀ packet,
    a = .host (.packet c packet) → Unmoved g g' ∧ g'.casts = g.casts
  processed : ∀ kick ∈ g.kicks, ∀ c ∈ kick.session, ∀ queued rest, a = .host .process →
    g.host.batch = queued :: rest → queued.origin = some c →
      Unmoved g g' ∧ g'.casts = g.casts

/-! ## The condition -/

/-- A `KeepAlivePacket`. -/
def Packet.isKeepAlive : Packet → Bool
  | .keepAlive => true
  | _ => false

theorem Packet.isKeepAlive_iff {packet : Packet} :
    packet.isKeepAlive = true ↔ packet = .keepAlive := by
  cases packet <;> simp [Packet.isKeepAlive]

/-- The session `kickPlayer` tells: the first in the list with the tag. -/
def toldSession (host : Host) (playerId : UInt32) : Option ConnectionId :=
  (host.sessions.find? fun s => s.listed ∧ s.tag = some playerId).map (·.id)

/-- Nothing of the player waits when it is kicked: no packet of its session but
keep-alives, and no join for its id. -/
def Drained (host : Host) (playerId : UInt32) : Prop :=
  ∀ queued ∈ host.waiting,
    (∀ c ∈ toldSession host playerId, queued.origin = some c → queued.packet.isKeepAlive = true) ∧
      joinId queued.packet ≠ some playerId

instance (host : Host) (playerId : UInt32) : Decidable (Drained host playerId) :=
  inferInstanceAs (Decidable (∀ queued ∈ host.waiting, _ ∧ _))

/-- After the kick the session sends nothing the host passes on, and no session
from before it sends a join for the id. -/
def Parted (config : HostConfig) (g : Game) (c : ConnectionId) (packet : Packet) : Prop :=
  ∀ session ∈ g.host.session? c, (packet.forwarded config session).isSome = true →
    ∀ kick ∈ g.kicks, (kick.session = some c → packet.isKeepAlive = true) ∧
      (joinId packet = some kick.playerId → c ∉ kick.known)

instance (config : HostConfig) (g : Game) (c : ConnectionId) (packet : Packet) :
    Decidable (Parted config g c packet) :=
  inferInstanceAs (Decidable (∀ session ∈ g.host.session? c, _ → ∀ kick ∈ g.kicks, _))

/-- **The condition of the law**: a kick finds nothing of the player waiting,
its session sends nothing that matters afterwards, and only new sessions join
under its id. -/
def Sealed (config : HostConfig) (g : Game) : GameAction → Prop
  | .host (.kick playerId) => Drained g.host playerId
  | .host (.packet c packet) => Parted config g c packet
  | .host (.own call) => call = .hostLobby → ∀ kick ∈ g.kicks, kick.playerId ≠ config.localNodeId
  | _ => True

instance (config : HostConfig) (g : Game) : (a : GameAction) → Decidable (Sealed config g a)
  | .host (.kick _) => inferInstanceAs (Decidable (Drained _ _))
  | .host (.packet _ _) => inferInstanceAs (Decidable (Parted _ _ _ _))
  | .host (.own _) => inferInstanceAs (Decidable (_ → ∀ kick ∈ g.kicks, _))
  | .host (.connect _ _ _) | .host (.die _) | .host (.disconnected _) | .host .beginUpdate
  | .host .process | .host .sweep | .host .roomCode | .host .setupMatch
  | .host .switchTeamInMatch | .host (.login _) | .host .logout | .cleanup
  | .pingSnapshot | .own _ | .mute _ _ => .isTrue trivial

variable {config : HostConfig} {env : Env} {g g' : Game}

/-! ## The invariant -/

/-- The invariant: of a kicked player's session only keep-alives wait, and only
sessions newer than the kick have a join for the id waiting. -/
structure KickInv (g : Game) : Prop where
  sessions : ∀ kick ∈ g.kicks, ∀ c ∈ kick.session, ∀ queued ∈ g.host.waiting,
    queued.origin = some c → queued.packet = .keepAlive
  joins : ∀ kick ∈ g.kicks, ∀ queued ∈ g.host.waiting,
    joinId queued.packet = some kick.playerId → ∃ c, queued.origin = some c ∧ c ∉ kick.known

/-- Only a kick adds a kick. -/
theorem handOn_kicks (host : Host) {action : HostAction} (h : ∀ playerId, action ≠ .kick playerId) :
    (handOn config g host action).kicks = g.kicks := by
  cases action with
  | kick playerId => exact absurd rfl (h playerId)
  | process =>
      unfold handOn
      dsimp only
      split <;> rfl
  | _ => rfl

theorem kicked_kicks (host : Host) (playerId : UInt32) :
    (kicked g host playerId).kicks =
      g.kicks ++ [⟨playerId, toldSession g.host playerId, g.host.sessions.map (·.id)⟩] := by
  unfold kicked
  dsimp only
  split_ifs <;> rfl

/-- What is passed on asks to join as the packet does. -/
theorem forwarded_join {session : Session} {packet forwarded : Packet}
    (h : packet.forwarded config session = some forwarded) :
    joinId forwarded = joinId packet ∧ (packet.isKeepAlive = true → forwarded = .keepAlive) := by
  cases packet with
  | lobbyJoin senderId playerName password =>
      unfold Packet.forwarded at h
      dsimp only at h
      split_ifs at h
      cases h
      exact ⟨rfl, fun hkeep => by cases hkeep⟩
  | keepAlive =>
      cases h
      exact ⟨rfl, fun _ => rfl⟩
  | nodeState _ _ | playerFire _ | playerHit _ _ | playerKilled _ _ | toggleReady _
  | switchTeam _ _ | startMatch | chatMessage _ =>
      cases h
      exact ⟨rfl, fun hkeep => by cases hkeep⟩
  | ping _ _ | voiceUplink _ | serverQueryReq | pong _ | nodeLeave _ | other => cases h

/-- An own call that joins is `hostLobby`. -/
theorem own_join {call : OwnCall} {packet : Packet} {host : Host} {id : UInt32}
    (h : call.packet config host = some packet) (hjoin : joinId packet = some id) :
    call = .hostLobby ∧ id = config.localNodeId := by
  cases call with
  | hostLobby =>
      cases h
      exact ⟨rfl, (Option.some.inj hjoin).symm⟩
  | toggleReady =>
      cases h
      cases hjoin
  | switchTeam teamId =>
      cases h
      cases hjoin
  | startMatch =>
      simp only [OwnCall.packet] at h
      split_ifs at h
      cases h
      cases hjoin
  | chat channel text targetId =>
      simp only [OwnCall.packet] at h
      split_ifs at h <;> cases h <;> cases hjoin

/-- What arrives under the condition. -/
theorem arrivals_sealed {action : HostAction} (hsealed : Sealed config g (.host action))
    {queued : Queued} (hqueued : queued ∈ arrivals config g.host action) {kick : Kick}
    (hkick : kick ∈ g.kicks) :
    (∀ c ∈ kick.session, queued.origin = some c → queued.packet = .keepAlive) ∧
      (joinId queued.packet = some kick.playerId →
        ∃ c, queued.origin = some c ∧ c ∉ kick.known) := by
  have hown : ∀ {packet : Packet}, joinId packet ≠ some kick.playerId →
      (∀ c ∈ kick.session, (⟨packet, none⟩ : Queued).origin = some c → packet = .keepAlive) ∧
        (joinId packet = some kick.playerId →
          ∃ c, (⟨packet, none⟩ : Queued).origin = some c ∧ c ∉ kick.known) := by
    intro packet hother
    refine ⟨fun c _ horigin => ?_, fun hjoin => absurd hjoin hother⟩
    cases horigin
  cases arrival_of_mem hqueued with
  | forwarded c packet session forwarded hsession hforwarded =>
      obtain ⟨hjoin, hkeep⟩ := forwarded_join hforwarded
      obtain ⟨hsilent, hnew⟩ := hsealed session hsession (by rw [hforwarded]; rfl) kick hkick
      refine ⟨fun d hd horigin => hkeep (hsilent ?_), fun hsame => ⟨c, rfl, ?_⟩⟩
      · rw [Option.some.inj horigin]
        exact hd
      · exact hnew (hjoin.symm.trans hsame)
  | leave _ id => exact hown (by simp [joinId])
  | own call packet hpacket =>
      refine hown fun hjoin => ?_
      obtain ⟨hcall, hid⟩ := own_join hpacket hjoin
      exact hsealed hcall kick hkick hid
  | switched teamId => exact hown (by simp [joinId])

/-- **What each sealed step keeps.** -/
theorem KickInv.step (h : KickInv g) {a : Env × HostAction} {host : Host}
    (hsealed : Sealed config g (.host a.2)) (hstep : Lobby.step config g.host a = some host) :
    KickInv (handOn config g host a.2) := by
  have hhost := @handOn_host config g host a.2
  cases step_effect hstep with
  | processed first rest action batch waiting room started =>
      have hsub : ∀ queued ∈ host.waiting, queued ∈ g.host.waiting := by
        intro queued hqueued
        rw [waiting] at hqueued
        rw [Host.waiting, batch]
        exact List.mem_cons_of_mem _ hqueued
      have hkicks := @handOn_kicks config g host a.2 (by simp [action])
      constructor
      · rw [hhost, hkicks]
        exact fun kick hkick c hc queued hqueued =>
          h.sessions kick hkick c hc queued (hsub queued hqueued)
      · rw [hhost, hkicks]
        exact fun kick hkick queued hqueued => h.joins kick hkick queued (hsub queued hqueued)
  | kicked playerId action waiting room started =>
      rw [action] at hsealed ⊢
      have hdrained : Drained g.host playerId := hsealed
      have hkicks : (handOn config g host (.kick playerId)).kicks =
          g.kicks ++ [⟨playerId, toldSession g.host playerId, g.host.sessions.map (·.id)⟩] :=
        kicked_kicks host playerId
      rw [action] at hhost
      constructor
      · rw [hhost, hkicks, waiting]
        intro kick hkick c hc queued hqueued horigin
        rcases List.mem_append.mp hkick with hold | hnew
        · exact h.sessions kick hold c hc queued hqueued horigin
        · obtain rfl := List.mem_singleton.mp hnew
          exact Packet.isKeepAlive_iff.mp ((hdrained queued hqueued).1 c hc horigin)
      · rw [hhost, hkicks, waiting]
        intro kick hkick queued hqueued hjoin
        rcases List.mem_append.mp hkick with hold | hnew
        · exact h.joins kick hold queued hqueued hjoin
        · obtain rfl := List.mem_singleton.mp hnew
          exact absurd hjoin (hdrained queued hqueued).2
  | arrived quiet waiting room started =>
      have hkicks := @handOn_kicks config g host a.2 quiet.2
      constructor
      · rw [hhost, hkicks, waiting]
        intro kick hkick c hc queued hqueued horigin
        rcases List.mem_append.mp hqueued with hold | hnew
        · exact h.sessions kick hkick c hc queued hold horigin
        · exact (arrivals_sealed hsealed hnew hkick).1 c hc horigin
      · rw [hhost, hkicks, waiting]
        intro kick hkick queued hqueued hjoin
        rcases List.mem_append.mp hqueued with hold | hnew
        · exact h.joins kick hkick queued hold hjoin
        · exact (arrivals_sealed hsealed hnew hkick).2 hjoin

/-! ## The law of one step -/

/-- What a session that has parted sends is not broadcast. -/
theorem parted_rebroadcast {session : Session} {packet : Packet}
    (h : (packet.forwarded config session).isSome = true → packet.isKeepAlive = true) :
    packet.rebroadcast = none := by
  cases packet with
  | nodeState _ _ | playerFire _ | playerHit _ _ | playerKilled _ _ => exact absurd (h rfl) (by simp
      [Packet.isKeepAlive])
  | _ => rfl

/-- A step that takes no packet off the queue brings no one back. -/
theorem not_back {kick : Kick} {room : List RoomPlayerInfo}
    (habsent : ∀ rp ∈ g.host.roomPlayers, rp.id ≠ kick.playerId)
    (hsub : room ⊆ g.host.roomPlayers) : ¬ ∃ rp ∈ room, rp.id = kick.playerId := by
  rintro ⟨rp, hrp, hid⟩
  exact habsent rp (hsub hrp) hid

/-- A packet off the network, under the condition. -/
theorem lasting_arrival {c : ConnectionId} {packet : Packet} {host : Host}
    (hsealed : Parted config g c packet)
    (hstep : step config g.host (env, .packet c packet) = some host) {kick : Kick}
    (hkick : kick ∈ g.kicks) (hc : c ∈ kick.session) :
    Unmoved g (onNetwork config g host c packet) ∧
      (onNetwork config g host c packet).casts = g.casts := by
  have hunmoved : Unmoved g (onNetwork config g host c packet) := by
    cases step_effect hstep with
    | processed first rest action batch waiting room started => cases action
    | kicked playerId action waiting room started => cases action
    | arrived quiet waiting room started => exact ⟨room, started, rfl, rfl, rfl⟩
  refine ⟨hunmoved, ?_⟩
  cases step_performed hstep with
  | packet _ _ session hsession =>
      have hsilent := @parted_rebroadcast config session packet
        fun hforwarded => (hsealed session hsession hforwarded kick hkick).1 hc
      show g.casts ++ _ = g.casts
      rw [hsilent]
      exact List.append_nil _

/-- A packet off the queue that is a keep-alive. -/
theorem lasting_keepAlive {queued : Queued} {rest : List Queued} {host : Host}
    (hbatch : g.host.batch = queued :: rest) (hkeep : queued.packet = .keepAlive)
    (hstep : step config g.host (env, .process) = some host) :
    Unmoved g (handOn config g host .process) ∧
      (handOn config g host .process).casts = g.casts := by
  obtain ⟨packet, origin⟩ := queued
  obtain rfl : packet = .keepAlive := hkeep
  obtain ⟨hafter, hprocessed⟩ := handOn_process hbatch hstep
  rw [hprocessed, hafter]
  have hnone : newRelays g.host
      (onPacketReceived config env { g.host with synced := false, batch := rest }
        ⟨.keepAlive, origin⟩) = [] := List.drop_length
  refine ⟨unmoved_keepAlive, ?_⟩
  unfold processed
  dsimp only
  rw [hnone]
  show g.casts ++ [] ++ [] = g.casts
  simp

/-- **The law of one step**: with the invariant, a step under the condition. -/
theorem KickInv.lasting (h : KickInv g) {a : Env × GameAction} (hsealed : Sealed config g a.2)
    (hstep : gameStep config g a = some g') : Lasting g a.2 g' := by
  rcases gameStep_host hstep with ⟨action, haction, hhost, hg'⟩ | ⟨hother, hhost⟩
  · obtain ⟨env, gameAction⟩ := a
    dsimp only at haction hsealed hhost ⊢
    subst haction
    constructor
    · intro playerId haction rp hrp
      obtain rfl : action = .kick playerId := by simpa using haction
      cases step_effect hhost with
      | processed first rest action batch waiting room started => cases action
      | kicked other action waiting room started =>
          cases action
          rw [room] at hrp
          simpa using (List.mem_filter.mp hrp).2
      | arrived quiet waiting room started => exact absurd rfl (quiet.2 playerId)
    · intro kick hkick habsent hback
      cases step_effect hhost with
      | processed first rest action batch waiting room started =>
          dsimp only at action
          subst action
          obtain ⟨rp, hrp, hid⟩ := hback
          rw [room] at hrp
          rcases mem_roomAfter hrp with ⟨old, hold, hsame⟩ | hjoin
          · exact absurd (hsame.trans hid) (habsent old hold)
          · rw [hid] at hjoin
            obtain ⟨c, horigin, hc⟩ := h.joins kick hkick first (by
              rw [Host.waiting, batch]
              exact List.mem_cons_self) hjoin
            exact ⟨rfl, first, rest, c, batch, hjoin, horigin, hc⟩
      | kicked playerId action waiting room started =>
          exact absurd hback (not_back habsent (room ▸ List.filter_sublist.subset))
      | arrived quiet waiting room started =>
          exact absurd hback (not_back habsent (room ▸ List.Subset.refl _))
    · intro kick hkick c hc packet haction
      obtain rfl : action = .packet c packet := by simpa using haction
      rw [hg']
      exact lasting_arrival hsealed hhost hkick hc
    · intro kick hkick c hc queued rest haction hbatch horigin
      obtain rfl : action = .process := by simpa using haction
      have hwaits : queued ∈ g.host.waiting := by
        rw [Host.waiting, hbatch]
        exact List.mem_cons_self
      rw [hg']
      exact lasting_keepAlive hbatch (h.sessions kick hkick c hc queued hwaits horigin) hhost
  · constructor
    · exact fun playerId haction => absurd haction (hother _)
    · intro kick hkick habsent hback
      rw [hhost] at hback
      exact absurd hback (not_back habsent (List.Subset.refl _))
    · exact fun kick hkick c hc packet haction => absurd haction (hother _)
    · exact fun kick hkick c hc queued rest haction => absurd haction (hother _)

/-- Every step keeps the invariant, whatever the game does on it. -/
theorem KickInv.gameStep (h : KickInv g) {a : Env × GameAction} (hsealed : Sealed config g a.2)
    (hstep : Lobby.gameStep config g a = some g') : KickInv g' := by
  rcases gameStep_host hstep with ⟨action, haction, hhost, hg'⟩ | ⟨hother, hhost⟩
  · obtain ⟨env, gameAction⟩ := a
    dsimp only at haction hhost hsealed
    subst haction
    rw [hg']
    exact h.step (a := (env, action)) hsealed hhost
  · obtain ⟨hkicks, -⟩ := gameStep_other hother hstep
    constructor
    · rw [hhost, hkicks]
      exact h.sessions
    · rw [hhost, hkicks]
      exact h.joins

/-- **A kick lasts**, in every run whose steps meet the condition. -/
theorem kick_lasts {config : HostConfig} {env : Env} {g g' : Game} {a : Env × GameAction}
    (h : Exec.ReachedAlong (gameStep config) (fun g a => Sealed config g a.2)
      (startGame config env) g)
    (hsealed : Sealed config g a.2) (hstep : gameStep config g a = some g') :
    Lasting g a.2 g' := by
  refine (h.invariant KickInv ?_ fun g a g' hinv hsealed hstep =>
    hinv.gameStep hsealed hstep).lasting hsealed hstep
  constructor
  · intro kick hkick
    cases hkick
  · intro kick hkick
    cases hkick

/-- A player is kicked, connects again and joins again. -/
theorem kick_lasts_until_rejoin :
    ∃ g g' : Game, Lasting g (.host .process) g' ∧ g.host.roomPlayers.map (·.id) = [100] ∧
      g'.host.roomPlayers.map (·.id) = [100, 5] ∧ g.kicks = [⟨5, some 11, [11]⟩] := by
  let run : List (Env × GameAction) :=
    [({}, .host (.own .hostLobby)), ({}, .host (.connect 11 true true)),
      ({}, .host (.packet 11 (.lobbyJoin 5 [65] []))), ({}, .host .beginUpdate),
      ({}, .host .process), ({}, .host .process), ({}, .host (.kick 5)), ({}, .host (.die 11)),
      ({}, .host (.connect 12 true true)), ({}, .host (.packet 12 (.lobbyJoin 5 [65] []))),
      ({}, .host .beginUpdate)]
  obtain ⟨g, hg, hout⟩ : ∃ g, Exec.exec (gameStep { localNodeId := 100 })
      (startGame { localNodeId := 100 } {}) run = some g ∧
      decide (g.host.roomPlayers.map (·.id) = [100] ∧ g.kicks = [⟨5, some 11, [11]⟩] ∧
        ∃ g' ∈ gameStep { localNodeId := 100 } g ({}, .host .process),
          g'.host.roomPlayers.map (·.id) = [100, 5]) = true :=
    Exec.exec_any (by decide +kernel)
  have halong : Exec.Along (gameStep { localNodeId := 100 })
      (fun g a => Sealed { localNodeId := 100 } g a.2) (startGame { localNodeId := 100 } {}) run := by
    decide +kernel
  obtain ⟨hroom, hkicks, g', hstep, hroom'⟩ := of_decide_eq_true hout
  exact ⟨g, g', kick_lasts (a := ({}, .host .process)) ⟨run, hg, halong⟩ trivial hstep, hroom,
    hroom', hkicks⟩

/-- **A kick undone.**  The player's join was sent twice; the second copy waits
in the queue when the player is kicked. -/
theorem kick_undone :
    ¬ ∀ (config : HostConfig) (env : Env) (g g' : Game) (a : Env × GameAction),
      Exec.Reached (gameStep config) (startGame config env) g →
      gameStep config g a = some g' → Lasting g a.2 g' := by
  let run : List (Env × GameAction) :=
    [({}, .host (.connect 11 true true)), ({}, .host (.packet 11 (.lobbyJoin 5 [65] []))),
      ({}, .host .beginUpdate), ({}, .host .process),
      ({}, .host (.packet 11 (.lobbyJoin 5 [65] []))), ({}, .host (.kick 5)),
      ({}, .host .beginUpdate)]
  obtain ⟨g, hg, hout⟩ : ∃ g, Exec.exec (gameStep { localNodeId := 100 })
      (startGame { localNodeId := 100 } {}) run = some g ∧
      decide (g.kicks = [⟨5, some 11, [11]⟩] ∧ g.host.roomPlayers = [] ∧
        (∃ queued ∈ g.host.batch.head?, queued.origin = some 11) ∧
        ∃ g' ∈ gameStep { localNodeId := 100 } g ({}, .host .process),
          g'.host.roomPlayers.map (·.id) = [5]) = true :=
    Exec.exec_any (by decide +kernel)
  obtain ⟨hkicks, hempty, ⟨queued, hqueued, horigin⟩, g', hstep, hroom⟩ := of_decide_eq_true hout
  obtain ⟨rest, hbatch⟩ := List.head?_eq_some_iff.mp hqueued
  intro hlaw
  have hlasting := hlaw { localNodeId := 100 } {} g g' ({}, .host .process) ⟨run, hg⟩ hstep
  obtain ⟨hunmoved, -⟩ := hlasting.processed ⟨5, some 11, [11]⟩ (by rw [hkicks]; simp) 11 rfl
    queued rest rfl hbatch horigin
  rw [hunmoved.room, hempty] at hroom
  cases hroom

/-- The session of a kicked player still moves its node at everyone else. -/
example : ∃ g ∈ Exec.exec (gameStep { localNodeId := 100 }) (startGame { localNodeId := 100 } {})
    [({}, .host (.connect 11 true true)), ({}, .host (.connect 12 true true)),
      ({}, .host (.packet 11 (.lobbyJoin 5 [65] []))), ({}, .host .beginUpdate),
      ({}, .host .process), ({}, .host (.kick 5)), ({}, .host (.packet 11 (.nodeState 5)))],
    g.casts.getLast? = some ⟨.nodeState, [12]⟩ := by
  decide +kernel

end Lobby
