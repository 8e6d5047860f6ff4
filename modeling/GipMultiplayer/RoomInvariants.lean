import GipMultiplayer.LobbyRoom

/-!
# The host's room list

The list of players and the player count published beside it, under any
sequence of packets on the main thread and of kicks.  The rest of the program
finds a player by the first entry with its id or its name, and other threads
read the published count.

* `RoomList.onPacketReceived_room`, `RoomList.kickPlayer_room` — the list is the
  one the host keeps;
* `RoomList.perform_others` — an action leaves the other players alone;
* `RoomList.Inv.perform` — what every action keeps;
* `RoomList.room_invariants` — the room after every sequence;
* `reached_room` — which is the room of the host in every run.
-/

namespace Lobby

/-- The room list, with `playerCountCache`. -/
structure RoomList where
  roomPlayers : List RoomPlayerInfo := []
  playerCountCache : UInt32 := 0
  deriving DecidableEq

/-- What changes the room: a packet on the main thread, or a kick. -/
inductive RoomAction
  | packet (packet : Packet)
  | kick (playerId : UInt32)

/-- The player an action is about. -/
def RoomAction.subject : RoomAction → Option UInt32
  | .packet (.nodeLeave netid) => some netid
  | .packet (.lobbyJoin senderId _ _) => some senderId
  | .packet (.toggleReady senderId) => some senderId
  | .packet (.switchTeam senderId _) => some senderId
  | .packet _ => none
  | .kick playerId => some playerId

namespace RoomList

/-- `playerCount`. -/
def playerCount (room : RoomList) : UInt32 := room.playerCountCache

/-- `publishPlayerCount`. -/
def publishPlayerCount (room : RoomList) : RoomList :=
  { room with playerCountCache := UInt32.ofNat room.roomPlayers.length }

/-- `onPacketReceived`, as far as the room goes. -/
def onPacketReceived (config : HostConfig) (room : RoomList) : Packet → RoomList
  | .nodeLeave netid =>
      if room.roomPlayers.any (·.id == netid) then
        publishPlayerCount { room with
          roomPlayers := room.roomPlayers.eraseP (·.id == netid) }
      else room
  | .startMatch =>
      { room with roomPlayers := room.roomPlayers.map fun rp => { rp with isReady := true } }
  | .lobbyJoin senderId playerName _ =>
      if room.roomPlayers.any (·.id == senderId) then room
      else if config.lobbyTeamSize.toNat * 2 ≤ room.roomPlayers.length then room
      else
        publishPlayerCount { room with
          roomPlayers := room.roomPlayers ++
            [{ id := senderId
               name := uniqueName room.roomPlayers playerName
               team := balanceTeam room.roomPlayers }] }
  | .toggleReady senderId =>
      { room with
        roomPlayers := modifyPlayer senderId (fun rp => { rp with isReady := !rp.isReady })
          room.roomPlayers }
  | .switchTeam senderId teamId =>
      { room with
        roomPlayers := modifyPlayer senderId (fun rp => { rp with team := teamId })
          room.roomPlayers }
  | _ => room

/-- `kickPlayer`, as far as the room goes. -/
def kickPlayer (room : RoomList) (playerId : UInt32) : RoomList :=
  if room.roomPlayers.any (·.id == playerId) then
    publishPlayerCount { room with roomPlayers := room.roomPlayers.filter (·.id ≠ playerId) }
  else room

/-- One action. -/
def perform (config : HostConfig) (room : RoomList) : RoomAction → RoomList
  | .packet packet => room.onPacketReceived config packet
  | .kick playerId => room.kickPlayer playerId

variable {config : HostConfig} {room : RoomList}

/-! ## The host's list -/

/-- **The list after a packet is the host's.** -/
theorem onPacketReceived_room (packet : Packet) :
    (room.onPacketReceived config packet).roomPlayers =
      roomAfter config room.roomPlayers packet := by
  cases packet with
  | nodeLeave netid =>
      unfold onPacketReceived roomAfter
      dsimp only
      split_ifs with hknown
      · rfl
      · refine (List.eraseP_of_forall_not fun rp hrp hid => hknown ?_).symm
        exact List.any_eq_true.mpr ⟨rp, hrp, hid⟩
  | lobbyJoin senderId playerName password =>
      unfold onPacketReceived roomAfter
      dsimp only
      split_ifs <;> rfl
  | _ => rfl

/-- **The list after a kick is the host's.** -/
theorem kickPlayer_room (playerId : UInt32) :
    (room.kickPlayer playerId).roomPlayers = room.roomPlayers.filter (·.id ≠ playerId) := by
  unfold kickPlayer
  split_ifs with hknown
  · rfl
  · refine (List.filter_eq_self.mpr fun rp hrp => ?_).symm
    rw [decide_eq_true_eq]
    intro hid
    exact hknown (List.any_eq_true.mpr ⟨rp, hrp, beq_iff_eq.mpr hid⟩)

/-! ## The other players -/

/-- The entries of the players an action is not about. -/
def others (action : RoomAction) (roomPlayers : List RoomPlayerInfo) : List RoomPlayerInfo :=
  roomPlayers.filter fun rp => action.subject ≠ some rp.id

theorem filter_modifyPlayer (id : UInt32) {f : RoomPlayerInfo → RoomPlayerInfo}
    (hf : ∀ rp, (f rp).id = rp.id) {p : RoomPlayerInfo → Bool}
    (hp : ∀ rp, rp.id = id → p rp = false) (roomPlayers : List RoomPlayerInfo) :
    (modifyPlayer id f roomPlayers).filter p = roomPlayers.filter p := by
  induction roomPlayers with
  | nil => rfl
  | cons rp rest ih =>
      unfold modifyPlayer
      split_ifs with hid
      · rw [List.filter_cons_of_neg (by simp [hp (f rp) ((hf rp).trans hid)]),
          List.filter_cons_of_neg (by simp [hp rp hid])]
      · rw [List.filter_cons, List.filter_cons, ih]

theorem filter_eraseP {id : UInt32} {p : RoomPlayerInfo → Bool}
    (hp : ∀ rp, rp.id = id → p rp = false) (roomPlayers : List RoomPlayerInfo) :
    (roomPlayers.eraseP (·.id == id)).filter p = roomPlayers.filter p := by
  induction roomPlayers with
  | nil => rfl
  | cons rp rest ih =>
      by_cases hid : rp.id = id
      · rw [List.eraseP_cons_of_pos (by simpa using hid),
          List.filter_cons_of_neg (by simp [hp rp hid])]
      · rw [List.eraseP_cons_of_neg (by simpa using hid), List.filter_cons, List.filter_cons, ih]

/-- **An action leaves the other players alone**, unless it starts the match. -/
theorem perform_others {action : RoomAction} (hstart : action ≠ .packet .startMatch) :
    others action (room.perform config action).roomPlayers = others action room.roomPlayers := by
  cases action with
  | kick playerId =>
      show others _ (room.kickPlayer playerId).roomPlayers = _
      rw [kickPlayer_room]
      unfold others
      rw [List.filter_filter]
      refine List.filter_congr fun rp _ => ?_
      simp [RoomAction.subject, eq_comm]
  | packet packet =>
      show others _ (room.onPacketReceived config packet).roomPlayers = _
      rw [onPacketReceived_room]
      cases packet with
      | startMatch => exact absurd rfl hstart
      | nodeLeave netid => exact filter_eraseP (fun rp hid => by simp [RoomAction.subject, hid]) _
      | lobbyJoin senderId playerName password =>
          unfold roomAfter
          dsimp only
          split_ifs
          · rfl
          · rfl
          · unfold others
            rw [List.filter_append]
            refine (congrArg _ (List.filter_eq_nil_iff.mpr fun rp hrp => ?_)).trans
              (List.append_nil _)
            rw [List.mem_singleton.mp hrp]
            simp [RoomAction.subject]
      | toggleReady senderId =>
          refine filter_modifyPlayer senderId
            (f := fun rp => { rp with isReady := !rp.isReady }) (fun _ => rfl) ?_ room.roomPlayers
          exact fun rp hid => by simp [RoomAction.subject, hid]
      | switchTeam senderId teamId =>
          refine filter_modifyPlayer senderId
            (f := fun rp => { rp with team := teamId }) (fun _ => rfl) ?_ room.roomPlayers
          exact fun rp hid => by simp [RoomAction.subject, hid]
      | _ => rfl

/-- **A repeated join changes nothing.** -/
theorem perform_rejoin {senderId : UInt32} (hlisted : ∃ rp ∈ room.roomPlayers, rp.id = senderId)
    (playerName password : Bytes) :
    room.perform config (.packet (.lobbyJoin senderId playerName password)) = room := by
  obtain ⟨rp, hrp, hid⟩ := hlisted
  exact if_pos (List.any_eq_true.mpr ⟨rp, hrp, by simpa using hid⟩)

/-! ## The invariant -/

/-- The players are distinct, there are at most two teams of them, and the
published count is theirs. -/
structure Inv (config : HostConfig) (room : RoomList) : Prop where
  distinct : RoomDistinct room.roomPlayers
  size : room.roomPlayers.length ≤ 2 * config.lobbyTeamSize.toNat
  count : room.playerCount = UInt32.ofNat room.roomPlayers.length

theorem Inv.init (config : HostConfig) : Inv config {} where
  distinct := ⟨List.nodup_nil, List.nodup_nil⟩
  size := Nat.zero_le _
  count := rfl

theorem distinct_roomAfter {roomPlayers : List RoomPlayerInfo} (h : RoomDistinct roomPlayers)
    (packet : Packet) : RoomDistinct (roomAfter config roomPlayers packet) := by
  let host : Host := { roomPlayers }
  have hroom := (@Lobby.onPacketReceived_room config {} host ⟨packet, none⟩).1
  have hdistinct : RoomDistinct host.roomPlayers := h
  exact hroom ▸ @RoomDistinct.onPacketReceived config {} host hdistinct ⟨packet, none⟩

theorem length_modifyPlayer (id : UInt32) (f : RoomPlayerInfo → RoomPlayerInfo)
    (roomPlayers : List RoomPlayerInfo) :
    (modifyPlayer id f roomPlayers).length = roomPlayers.length := by
  induction roomPlayers with
  | nil => rfl
  | cons rp rest ih =>
      unfold modifyPlayer
      split_ifs
      · rfl
      · exact congrArg (· + 1) ih

theorem length_roomAfter {roomPlayers : List RoomPlayerInfo}
    (h : roomPlayers.length ≤ 2 * config.lobbyTeamSize.toNat) (packet : Packet) :
    (roomAfter config roomPlayers packet).length ≤ 2 * config.lobbyTeamSize.toNat := by
  cases packet with
  | nodeLeave netid => exact List.eraseP_sublist.length_le.trans h
  | startMatch => exact (List.length_map _).trans_le h
  | lobbyJoin senderId playerName password =>
      unfold roomAfter
      dsimp only
      split_ifs with hknown hfull
      · exact h
      · exact h
      · rw [List.length_append, List.length_singleton]
        omega
  | toggleReady senderId => exact (length_modifyPlayer _ _ _).trans_le h
  | switchTeam senderId teamId => exact (length_modifyPlayer _ _ _).trans_le h
  | _ => exact h

/-- **Whoever changes the size publishes it.** -/
theorem perform_count (h : room.playerCount = UInt32.ofNat room.roomPlayers.length)
    (action : RoomAction) :
    (room.perform config action).playerCount =
      UInt32.ofNat (room.perform config action).roomPlayers.length := by
  cases action with
  | kick playerId =>
      show (room.kickPlayer playerId).playerCount =
        UInt32.ofNat (room.kickPlayer playerId).roomPlayers.length
      unfold kickPlayer
      split_ifs
      · rfl
      · exact h
  | packet packet =>
      show (room.onPacketReceived config packet).playerCount =
        UInt32.ofNat (room.onPacketReceived config packet).roomPlayers.length
      cases packet with
      | nodeLeave netid =>
          unfold onPacketReceived
          dsimp only
          split_ifs
          · rfl
          · exact h
      | startMatch => exact h.trans (congrArg UInt32.ofNat (List.length_map _).symm)
      | lobbyJoin senderId playerName password =>
          unfold onPacketReceived
          dsimp only
          split_ifs
          · exact h
          · exact h
          · rfl
      | toggleReady senderId =>
          exact h.trans (congrArg UInt32.ofNat (length_modifyPlayer _ _ _).symm)
      | switchTeam senderId teamId =>
          exact h.trans (congrArg UInt32.ofNat (length_modifyPlayer _ _ _).symm)
      | _ => exact h

/-- **What every action keeps.** -/
theorem Inv.perform (h : room.Inv config) (action : RoomAction) :
    (room.perform config action).Inv config := by
  refine ⟨?_, ?_, perform_count h.count action⟩
  · cases action with
    | kick playerId =>
        show RoomDistinct (room.kickPlayer playerId).roomPlayers
        rw [kickPlayer_room]
        exact h.distinct.sublist List.filter_sublist
    | packet packet =>
        show RoomDistinct (room.onPacketReceived config packet).roomPlayers
        rw [onPacketReceived_room]
        exact distinct_roomAfter h.distinct packet
  · cases action with
    | kick playerId =>
        show (room.kickPlayer playerId).roomPlayers.length ≤ _
        rw [kickPlayer_room]
        exact (List.length_filter_le _ _).trans h.size
    | packet packet =>
        show (room.onPacketReceived config packet).roomPlayers.length ≤ _
        rw [onPacketReceived_room]
        exact length_roomAfter h.size packet

/-- The room after a sequence of actions. -/
def run (config : HostConfig) (actions : List RoomAction) : RoomList :=
  actions.foldl (perform config) {}

theorem run_concat (config : HostConfig) (actions : List RoomAction) (action : RoomAction) :
    run config (actions ++ [action]) = (run config actions).perform config action :=
  List.foldl_concat ..

/-- **What every sequence of actions keeps.** -/
theorem run_inv (config : HostConfig) (actions : List RoomAction) :
    (run config actions).Inv config := by
  induction actions using List.reverseRecOn with
  | nil => exact .init config
  | append_singleton actions action ih =>
      rw [run_concat]
      exact ih.perform action

/-- **The room in every run**: after any sequence of packets and kicks the
players are distinct by id and by name, there are at most two teams of them and
their number is published; and each further action leaves the other players
alone, all-ready aside, and does nothing when it repeats a join. -/
theorem room_invariants (config : HostConfig) (actions : List RoomAction) :
    ((run config actions).roomPlayers.map (·.id)).Nodup ∧
      ((run config actions).roomPlayers.map (·.name)).Nodup ∧
      (run config actions).roomPlayers.length ≤ 2 * config.lobbyTeamSize.toNat ∧
      (run config actions).playerCount.toNat = (run config actions).roomPlayers.length ∧
      ∀ action, (action ≠ .packet .startMatch →
          others action ((run config actions).perform config action).roomPlayers =
            others action (run config actions).roomPlayers) ∧
        (action = .packet .startMatch →
          ((run config actions).perform config action).roomPlayers =
            (run config actions).roomPlayers.map fun rp => { rp with isReady := true }) ∧
        ∀ senderId playerName password,
          action = .packet (.lobbyJoin senderId playerName password) →
          (∃ rp ∈ (run config actions).roomPlayers, rp.id = senderId) →
          (run config actions).perform config action = run config actions := by
  have hinv := run_inv config actions
  refine ⟨hinv.distinct.ids, hinv.distinct.names, hinv.size, ?_, fun action =>
    ⟨perform_others, ?_, ?_⟩⟩
  · have hteam : config.lobbyTeamSize.toNat < 256 := config.lobbyTeamSize.toNat_lt
    have hsize := hinv.size
    rw [hinv.count]
    refine UInt32.toNat_ofNat_of_lt' (Nat.lt_of_le_of_lt hsize ?_)
    show 2 * config.lobbyTeamSize.toNat < 4294967296
    omega
  · rintro rfl
    rfl
  · rintro senderId playerName password rfl hlisted
    exact perform_rejoin hlisted playerName password

/-- Two clients of one name join a lobby for two; one of them joins again, and
a third client finds the room full. -/
def threeJoins : List RoomAction :=
  [.packet (.lobbyJoin 5 [97] []), .packet (.lobbyJoin 6 [97] []), .packet (.lobbyJoin 5 [97] []),
    .packet (.lobbyJoin 7 [98] [])]

theorem room_invariants_full :
    let room := run { localNodeId := 5, lobbyTeamSize := 1 } threeJoins
    room.roomPlayers.map (fun rp => (rp.id, rp.name)) = [(5, [97]), (6, [97, 32, 49])] ∧
      room.playerCount.toNat = room.roomPlayers.length :=
  ⟨by decide +kernel, (room_invariants _ threeJoins).2.2.2.1⟩

end RoomList

/-! ## The host -/

variable {config : HostConfig}

/-- **A step of the host is at most one action on its room.** -/
theorem step_roomAction {s t : Host} {a : Env × HostAction} (h : step config s a = some t) :
    t.roomPlayers = s.roomPlayers ∨
      ∃ action, ∀ room : RoomList, room.roomPlayers = s.roomPlayers →
        (room.perform config action).roomPlayers = t.roomPlayers := by
  cases step_effect h with
  | processed queued rest _ _ _ hroom _ =>
      refine .inr ⟨.packet queued.packet, fun room hsame => ?_⟩
      exact RoomList.onPacketReceived_room queued.packet |>.trans (hsame ▸ hroom.symm)
  | kicked playerId _ _ hroom _ =>
      refine .inr ⟨.kick playerId, fun room hsame => ?_⟩
      exact (RoomList.kickPlayer_room playerId).trans (hsame ▸ hroom.symm)
  | arrived _ _ hroom _ => exact .inl hroom

/-- **The room of the host in every run** is the room after some sequence of
actions. -/
theorem reached_room {t : Host} (h : Exec.Reached (step config) {} t) :
    ∃ actions, (RoomList.run config actions).roomPlayers = t.roomPlayers := by
  refine h.invariant (fun host => ∃ actions,
    (RoomList.run config actions).roomPlayers = host.roomPlayers) ⟨[], rfl⟩ ?_
  rintro s a u ⟨actions, hactions⟩ hstep
  rcases step_roomAction hstep with hsame | ⟨action, haction⟩
  · exact ⟨actions, hactions.trans hsame.symm⟩
  · refine ⟨actions ++ [action], ?_⟩
    rw [RoomList.run_concat]
    exact haction _ hactions

/-- The room of distinct players stays one. -/
theorem step_distinct {s t : Host} (hroom : RoomDistinct s.roomPlayers)
    {a : Env × HostAction} (h : step config s a = some t) : RoomDistinct t.roomPlayers := by
  cases step_effect h with
  | processed queued rest action batch waiting room =>
      rw [room]
      exact RoomList.distinct_roomAfter hroom queued.packet
  | kicked playerId action waiting room =>
      rw [room]
      exact hroom.sublist List.filter_sublist
  | arrived quiet waiting room =>
      rw [room]
      exact hroom

end Lobby
