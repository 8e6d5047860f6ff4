import GipMultiplayer.VoiceMembership

/-!
# The room as a function of the queue

The room list and the match flag change at two places only: when the main
thread takes a packet off its queue, and when a player is kicked.  Every other
action of the host at most appends packets to what is waiting.  This file says
so once, for the developments that follow the room over a run.

* `roomAfter` — the room after one packet, whatever else the host holds;
* `Packet.forwarded` — what the network thread passes on to the main thread;
* `arrivals` — the packets an action appends;
* `arrival_of_mem` — where each of them comes from;
* `step_effect` — what one step does to queue, room and match flag.
-/

namespace Lobby

open Voice (ConnectionId)

/-! ## One packet -/

/-- The room after `onPacketReceived`. -/
def roomAfter (config : HostConfig) (roomPlayers : List RoomPlayerInfo) :
    Packet → List RoomPlayerInfo
  | .nodeLeave netid => roomPlayers.eraseP (·.id == netid)
  | .startMatch => roomPlayers.map fun rp => { rp with isReady := true }
  | .lobbyJoin senderId playerName _ =>
      if roomPlayers.any (·.id == senderId) then roomPlayers
      else if config.lobbyTeamSize.toNat * 2 ≤ roomPlayers.length then roomPlayers
      else
        roomPlayers ++ [{ id := senderId
                          name := uniqueName roomPlayers playerName
                          team := balanceTeam roomPlayers }]
  | .toggleReady senderId =>
      modifyPlayer senderId (fun rp => { rp with isReady := !rp.isReady }) roomPlayers
  | .switchTeam senderId teamId =>
      modifyPlayer senderId (fun rp => { rp with team := teamId }) roomPlayers
  | _ => roomPlayers

/-- A `StartMatchPacket`. -/
def Packet.isStart : Packet → Bool
  | .startMatch => true
  | _ => false

theorem Packet.isStart_iff {packet : Packet} : packet.isStart = true ↔ packet = .startMatch := by
  cases packet <;> simp [Packet.isStart]

variable {config : HostConfig} {env : Env} {s t : Host}

/-- A player of the room after one was changed. -/
theorem mem_modifyPlayer {id : UInt32} {f : RoomPlayerInfo → RoomPlayerInfo}
    {roomPlayers : List RoomPlayerInfo} {rp : RoomPlayerInfo}
    (h : rp ∈ modifyPlayer id f roomPlayers) :
    rp ∈ roomPlayers ∨ ∃ old ∈ roomPlayers, old.id = id ∧ rp = f old := by
  induction roomPlayers with
  | nil => cases h
  | cons first rest ih =>
      unfold modifyPlayer at h
      split_ifs at h with hid
      · rcases List.mem_cons.mp h with rfl | hrest
        · exact .inr ⟨first, List.mem_cons_self, hid, rfl⟩
        · exact .inl (List.mem_cons_of_mem _ hrest)
      · rcases List.mem_cons.mp h with rfl | hrest
        · exact .inl List.mem_cons_self
        · rcases ih hrest with hold | ⟨old, hold, hsame, hrp⟩
          · exact .inl (List.mem_cons_of_mem _ hold)
          · exact .inr ⟨old, List.mem_cons_of_mem _ hold, hsame, hrp⟩

/-- **Where a player of the room comes from**: it was there before, under its
name, or a join that finds it unknown and the room not full brings it in. -/
theorem roomAfter_cases {roomPlayers : List RoomPlayerInfo} {packet : Packet}
    {rp : RoomPlayerInfo} (h : rp ∈ roomAfter config roomPlayers packet) :
    (∃ old ∈ roomPlayers, old.id = rp.id ∧ old.name = rp.name) ∨
      ∃ playerName password, packet = .lobbyJoin rp.id playerName password ∧
        ¬ (roomPlayers.any (·.id == rp.id) = true ∨
          config.lobbyTeamSize.toNat * 2 ≤ roomPlayers.length) ∧
        rp.name = uniqueName roomPlayers playerName := by
  cases packet with
  | nodeLeave netid => exact .inl ⟨rp, List.mem_of_mem_eraseP h, rfl, rfl⟩
  | startMatch =>
      obtain ⟨old, hold, rfl⟩ := List.mem_map.mp h
      exact .inl ⟨old, hold, rfl, rfl⟩
  | lobbyJoin senderId playerName password =>
      unfold roomAfter at h
      dsimp only at h
      split_ifs at h with hknown hfull
      · exact .inl ⟨rp, h, rfl, rfl⟩
      · exact .inl ⟨rp, h, rfl, rfl⟩
      · rcases List.mem_append.mp h with hold | hnew
        · exact .inl ⟨rp, hold, rfl, rfl⟩
        · rw [List.mem_singleton.mp hnew]
          exact .inr ⟨playerName, password, rfl, not_or.mpr ⟨hknown, hfull⟩, rfl⟩
  | toggleReady senderId =>
      rcases mem_modifyPlayer h with hold | ⟨old, hold, -, rfl⟩
      · exact .inl ⟨rp, hold, rfl, rfl⟩
      · exact .inl ⟨old, hold, rfl, rfl⟩
  | switchTeam senderId teamId =>
      rcases mem_modifyPlayer h with hold | ⟨old, hold, -, rfl⟩
      · exact .inl ⟨rp, hold, rfl, rfl⟩
      · exact .inl ⟨old, hold, rfl, rfl⟩
  | _ => exact .inl ⟨rp, h, rfl, rfl⟩

/-- Only a join brings a player into the room. -/
theorem mem_roomAfter {roomPlayers : List RoomPlayerInfo} {packet : Packet} {rp : RoomPlayerInfo}
    (h : rp ∈ roomAfter config roomPlayers packet) :
    (∃ old ∈ roomPlayers, old.id = rp.id) ∨ joinId packet = some rp.id := by
  rcases roomAfter_cases h with ⟨old, hold, hid, -⟩ | ⟨playerName, password, rfl, -, -⟩
  · exact .inl ⟨old, hold, hid⟩
  · exact .inr rfl

theorem receiveChat_room (origin : Option ConnectionId) (message : ChatMessage) :
    (receiveChat env s origin message).roomPlayers = s.roomPlayers ∧
      (receiveChat env s origin message).matchInProgress = s.matchInProgress := by
  obtain ⟨stamps, relays, heq, -⟩ := receiveChat_eq env s origin message
  rw [heq]
  exact ⟨rfl, rfl⟩

/-- **The room depends on room and packet alone**, and only a
`StartMatchPacket` starts the match. -/
theorem onPacketReceived_room (queued : Queued) :
    (onPacketReceived config env s queued).roomPlayers =
        roomAfter config s.roomPlayers queued.packet ∧
      (onPacketReceived config env s queued).matchInProgress =
        (s.matchInProgress || queued.packet.isStart) := by
  obtain ⟨packet, origin⟩ := queued
  cases packet with
  | nodeLeave netid =>
      show (receiveLeave config env s netid).roomPlayers = s.roomPlayers.eraseP (·.id == netid) ∧
        (receiveLeave config env s netid).matchInProgress = (s.matchInProgress || false)
      unfold receiveLeave
      split_ifs with hknown
      · exact ⟨rfl, (Bool.or_false _).symm⟩
      · refine ⟨(List.eraseP_of_forall_not fun rp hrp hid => hknown ?_).symm,
          (Bool.or_false _).symm⟩
        exact List.any_eq_true.mpr ⟨rp, hrp, hid⟩
  | chatMessage message =>
      obtain ⟨hroom, hmatch⟩ := @receiveChat_room env s origin message
      exact ⟨hroom, hmatch.trans (Bool.or_false _).symm⟩
  | startMatch => exact ⟨rfl, (Bool.or_true _).symm⟩
  | lobbyJoin senderId playerName password =>
      show (receiveJoin config env s senderId playerName).roomPlayers =
          roomAfter config s.roomPlayers (.lobbyJoin senderId playerName password) ∧
        (receiveJoin config env s senderId playerName).matchInProgress =
          (s.matchInProgress || false)
      unfold receiveJoin roomAfter
      dsimp only
      split_ifs
      · exact ⟨rfl, (Bool.or_false _).symm⟩
      · exact ⟨rfl, (Bool.or_false _).symm⟩
      · exact ⟨rfl, (Bool.or_false _).symm⟩
  | _ => exact ⟨rfl, (Bool.or_false _).symm⟩

/-! ## What waits for the main thread -/

/-- The packets waiting for the main thread, oldest first. -/
def Host.waiting (host : Host) : List Queued :=
  host.batch ++ host.packetQueue

/-- What the network thread passes on to the main thread for a packet. -/
def Packet.forwarded (config : HostConfig) (session : Session) : Packet → Option Packet
  | .lobbyJoin senderId playerName password =>
      if config.isPrivateServer ∧ config.serverPassword ≠ password then none
      else some (.lobbyJoin senderId playerName password)
  | .chatMessage message =>
      some (.chatMessage { message with senderId := session.tag.getD message.senderId })
  | .ping _ _ | .voiceUplink _ | .serverQueryReq | .pong _ | .nodeLeave _ | .other => none
  | packet => some packet

/-- The leave a disconnect announces. -/
def Session.leaveId (session : Session) : Option UInt32 :=
  session.tag.filter (· ≠ 0)

/-- The packets an action appends to what is waiting. -/
def arrivals (config : HostConfig) (host : Host) : HostAction → List Queued
  | .packet c packet =>
      match host.session? c with
      | some session =>
          ((packet.forwarded config session).map fun packet => ⟨packet, some session.id⟩).toList
      | none => []
  | .disconnected c =>
      match host.session? c with
      | some session => (session.leaveId.map fun id => ⟨.nodeLeave id, none⟩).toList
      | none => []
  | .sweep =>
      (host.sessions.filterMap Session.deadId).map fun dead => ⟨.nodeLeave dead.2, none⟩
  | .own call => ((call.packet config host).map fun packet => ⟨packet, none⟩).toList
  | .switchTeamInMatch =>
      [⟨.switchTeam config.localNodeId (if host.localTeam = 1 then 2 else 1), none⟩]
  | _ => []

/-- **Where an arriving packet comes from**: a client's packet that was passed
on, a leave the host announces, or the host's own player. -/
inductive Arrival (config : HostConfig) (s : Host) : HostAction → Queued → Prop
  | forwarded (c : ConnectionId) (packet : Packet) (session : Session) (forwarded : Packet)
      (hsession : s.session? c = some session)
      (hforwarded : packet.forwarded config session = some forwarded) :
      Arrival config s (.packet c packet) ⟨forwarded, some c⟩
  | leave (action : HostAction) (id : UInt32) : Arrival config s action ⟨.nodeLeave id, none⟩
  | own (call : OwnCall) (packet : Packet) (hpacket : call.packet config s = some packet) :
      Arrival config s (.own call) ⟨packet, none⟩
  | switched (teamId : UInt8) :
      Arrival config s .switchTeamInMatch ⟨.switchTeam config.localNodeId teamId, none⟩

theorem arrival_of_mem {action : HostAction} {queued : Queued}
    (h : queued ∈ arrivals config s action) : Arrival config s action queued := by
  cases action with
  | packet c packet =>
      unfold arrivals at h
      dsimp only at h
      split at h
      · rename_i session hsession
        obtain ⟨forwarded, hforwarded, rfl⟩ : ∃ forwarded,
            packet.forwarded config session = some forwarded ∧
              (⟨forwarded, some session.id⟩ : Queued) = queued := by
          simpa using h
        have hid : session.id = c := (mem_of_session? hsession).2
        exact hid ▸ .forwarded c packet session forwarded hsession hforwarded
      · cases h
  | disconnected c =>
      unfold arrivals at h
      dsimp only at h
      split at h
      · obtain ⟨id, -, rfl⟩ : ∃ id, Session.leaveId _ = some id ∧
            (⟨.nodeLeave id, none⟩ : Queued) = queued := by
          simpa using h
        exact .leave _ id
      · cases h
  | sweep =>
      obtain ⟨dead, -, rfl⟩ := List.mem_map.mp h
      exact .leave _ dead.2
  | own call =>
      obtain ⟨packet, hpacket, rfl⟩ : ∃ packet, call.packet config s = some packet ∧
          (⟨packet, none⟩ : Queued) = queued := by
        simpa [arrivals] using h
      exact .own call packet hpacket
  | switchTeamInMatch =>
      obtain rfl := List.mem_singleton.mp h
      exact .switched _
  | _ => cases h

/-- The network thread passes a packet on, and leaves room, match flag and
batch alone. -/
theorem onPacket_waiting (session : Session) (packet : Packet) :
    (onPacket config env s session packet).waiting = s.waiting ++
        ((packet.forwarded config session).map fun packet => ⟨packet, some session.id⟩).toList ∧
      (onPacket config env s session packet).roomPlayers = s.roomPlayers ∧
      (onPacket config env s session packet).matchInProgress = s.matchInProgress := by
  cases packet with
  | lobbyJoin senderId playerName password =>
      unfold onPacket Packet.forwarded
      dsimp only
      split_ifs
      · exact ⟨(List.append_nil _).symm, rfl, rfl⟩
      · exact ⟨(List.append_assoc ..).symm, rfl, rfl⟩
  | ping timestamp reportedPing =>
      unfold onPacket
      dsimp only
      cases session.tag with
      | none => exact ⟨(List.append_nil _).symm, rfl, rfl⟩
      | some id =>
          dsimp only
          split_ifs <;> exact ⟨(List.append_nil _).symm, rfl, rfl⟩
  | voiceUplink packet => exact ⟨(List.append_nil _).symm, rfl, rfl⟩
  | serverQueryReq => exact ⟨(List.append_nil _).symm, rfl, rfl⟩
  | pong timestamp => exact ⟨(List.append_nil _).symm, rfl, rfl⟩
  | nodeLeave netid => exact ⟨(List.append_nil _).symm, rfl, rfl⟩
  | other => exact ⟨(List.append_nil _).symm, rfl, rfl⟩
  | _ => exact ⟨(List.append_assoc ..).symm, rfl, rfl⟩

/-! ## One step -/

/-- **What a step does to queue, room and match flag.** -/
inductive Effect (config : HostConfig) (s : Host) (a : HostAction) (t : Host) : Prop
  | processed (queued : Queued) (rest : List Queued)
      (action : a = .process) (batch : s.batch = queued :: rest)
      (waiting : t.waiting = rest ++ s.packetQueue)
      (room : t.roomPlayers = roomAfter config s.roomPlayers queued.packet)
      (started : t.matchInProgress = (s.matchInProgress || queued.packet.isStart))
  | kicked (playerId : UInt32) (action : a = .kick playerId)
      (waiting : t.waiting = s.waiting)
      (room : t.roomPlayers = s.roomPlayers.filter (·.id ≠ playerId))
      (started : t.matchInProgress = s.matchInProgress)
  | arrived (quiet : a ≠ .process ∧ ∀ playerId, a ≠ .kick playerId)
      (waiting : t.waiting = s.waiting ++ arrivals config s a)
      (room : t.roomPlayers = s.roomPlayers)
      (started : t.matchInProgress = s.matchInProgress)

/-- The packet of an own call does not depend on the last broadcast. -/
theorem packet_synced (config : HostConfig) (s : Host) (call : OwnCall) (synced : Bool) :
    call.packet config { s with synced := synced } = call.packet config s := by
  cases call <;> rfl

/-- Each step is one of the three. -/
theorem step_effect {a : Env × HostAction} (h : step config s a = some t) :
    Effect config s a.2 t := by
  obtain ⟨env, action⟩ := a
  have hperformed := step_performed h
  dsimp only at hperformed ⊢
  have hquiet : ∀ {u : Host} {action : HostAction},
      (action ≠ .process ∧ ∀ playerId, action ≠ .kick playerId) →
      arrivals config s action = [] → u.waiting = s.waiting → u.roomPlayers = s.roomPlayers →
      u.matchInProgress = s.matchInProgress → Effect config s action u :=
    fun hother hnone hwaiting hroom hmatch =>
      .arrived hother (by rw [hnone, hwaiting, List.append_nil]) hroom hmatch
  cases hperformed with
  | connect c adopted zdt =>
      refine hquiet (by simp) rfl ?_ ?_ ?_
      all_goals
        unfold connect
        dsimp only
        split_ifs <;> rfl
  | packet c packet session hsession =>
      obtain ⟨hwaiting, hroom, hmatch⟩ :=
        @onPacket_waiting config env { s with synced := false } session packet
      have hfound : s.session? c = some session := hsession
      refine .arrived (by simp) ?_ hroom hmatch
      rw [hwaiting, arrivals, hfound]
      rfl
  | die c => exact hquiet (by simp) rfl rfl rfl rfl
  | disconnected c session hsession =>
      have hfound : s.session? c = some session := hsession
      have harrivals : arrivals config s (.disconnected c) =
          (session.leaveId.map fun id => ⟨.nodeLeave id, none⟩).toList := by
        rw [arrivals, hfound]
      unfold onPeerDisconnected
      dsimp only
      cases htag : session.tag with
      | none =>
          exact hquiet (by simp) (by rw [harrivals, Session.leaveId, htag]; rfl) rfl rfl rfl
      | some id =>
          dsimp only
          split_ifs with hid
          · refine .arrived (by simp) ?_ rfl rfl
            rw [harrivals, Session.leaveId, htag, Option.filter_some_pos (by simpa using hid)]
            exact (List.append_assoc ..).symm
          · refine hquiet (by simp) ?_ rfl rfl rfl
            rw [harrivals, Session.leaveId, htag, Option.filter_some_neg (by simpa using hid)]
            rfl
  | beginUpdate hempty =>
      refine hquiet (by simp) rfl ?_ rfl rfl
      show s.packetQueue ++ [] = s.batch ++ s.packetQueue
      rw [show s.batch = [] from hempty, List.append_nil, List.nil_append]
  | process queued rest hbatch =>
      obtain ⟨hroom, hmatch⟩ := @onPacketReceived_room config env
        { s with synced := false, batch := rest } queued
      have hqueue := (@onPacketReceived_processed config env
        { s with synced := false, batch := rest } queued).queue
      exact .processed queued rest rfl hbatch hqueue hroom hmatch
  | sweep =>
      rw [sweepSessions_eq]
      exact .arrived (by simp) (List.append_assoc ..).symm rfl rfl
  | kick playerId =>
      unfold kickPlayer
      split
      · exact .kicked playerId rfl rfl rfl rfl
      · rename_i habsent
        refine .kicked playerId rfl rfl ?_ rfl
        refine (List.filter_eq_self.mpr fun rp hrp => ?_).symm
        simp only [ne_eq, decide_eq_true_eq]
        intro hid
        exact habsent (List.any_eq_true.mpr ⟨rp, hrp, by simpa using hid⟩)
  | roomCode => exact hquiet (by simp) rfl rfl rfl rfl
  | own call packet hpacket =>
      refine .arrived (by simp) ?_ rfl rfl
      rw [arrivals, ← packet_synced config s call false, hpacket]
      exact (List.append_assoc ..).symm
  | ownNothing call hnone =>
      refine hquiet (by simp) ?_ rfl rfl rfl
      rw [arrivals, ← packet_synced config s call false, hnone]
      rfl
  | setupMatch => exact hquiet (by simp) rfl rfl rfl rfl
  | switchTeamInMatch => exact .arrived (by simp) (List.append_assoc ..).symm rfl rfl
  | login username => exact hquiet (by simp) rfl rfl rfl rfl
  | logout => exact hquiet (by simp) rfl rfl rfl rfl

/-! ## The chat between packets -/

/-- **Only the main thread's packets touch the chat**: every other action leaves
its relays and its rate stamps alone. -/
theorem step_chat {a : Env × HostAction} (hprocess : a.2 ≠ .process)
    (h : step config s a = some t) :
    t.chatRateStamps = s.chatRateStamps ∧ t.relayed = s.relayed := by
  obtain ⟨env, action⟩ := a
  have hperformed := step_performed h
  dsimp only at hperformed hprocess
  cases hperformed with
  | connect c adopted zdt =>
      unfold connect
      dsimp only
      split_ifs <;> exact ⟨rfl, rfl⟩
  | packet c packet session =>
      cases packet with
      | lobbyJoin senderId playerName password =>
          unfold onPacket
          dsimp only
          split_ifs <;> exact ⟨rfl, rfl⟩
      | ping timestamp reportedPing =>
          unfold onPacket
          dsimp only
          cases session.tag with
          | none => exact ⟨rfl, rfl⟩
          | some id =>
              dsimp only
              split_ifs <;> exact ⟨rfl, rfl⟩
      | _ => exact ⟨rfl, rfl⟩
  | disconnected c session =>
      unfold onPeerDisconnected
      dsimp only
      cases session.tag with
      | none => exact ⟨rfl, rfl⟩
      | some id =>
          dsimp only
          split_ifs <;> exact ⟨rfl, rfl⟩
  | process queued rest => exact absurd rfl hprocess
  | sweep =>
      rw [sweepSessions_eq]
      exact ⟨rfl, rfl⟩
  | kick playerId =>
      unfold kickPlayer
      split_ifs <;> exact ⟨rfl, rfl⟩
  | _ => exact ⟨rfl, rfl⟩

/-- A packet is taken off the batch and processed. -/
theorem process_performed (h : step config s (env, .process) = some t) :
    ∃ queued rest, s.batch = queued :: rest ∧
      t = onPacketReceived config env { s with synced := false, batch := rest } queued := by
  cases step_performed h with
  | process queued rest hbatch => exact ⟨queued, rest, hbatch, rfl⟩

end Lobby
