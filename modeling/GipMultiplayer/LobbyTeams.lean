import GipMultiplayer.RoomInvariants

/-!
# The teams of the room

A room for two teams of `n` takes `2 * n` players.  A join puts the player on
the smaller of the teams 1 and 2, which has a place left; a switch writes
whatever team its packet names.

* `imbalance_join` — what a join does to the difference of the two teams;
* `legal_join`, `legal_switch_iff` — when the teams stay legal;
* `teams_legal` — the law in every run, under the condition on switches;
* `teams_illegal` — a switch to a team that is full, and one to no team.
-/

namespace Lobby

open Voice (ConnectionId)

/-! ## Definitions -/

/-- The size of a team. -/
def teamCount (roomPlayers : List RoomPlayerInfo) (team : UInt8) : Nat :=
  roomPlayers.countP (·.team == team)

/-- The size of a team without one player. -/
def othersOn (roomPlayers : List RoomPlayerInfo) (id : UInt32) (team : UInt8) : Nat :=
  roomPlayers.countP fun rp => rp.id != id && rp.team == team

/-- **Legal teams**: everyone is on team 1 or 2, and no team has more than `n`
players. -/
structure Legal (n : Nat) (roomPlayers : List RoomPlayerInfo) : Prop where
  teams : ∀ rp ∈ roomPlayers, rp.team = 1 ∨ rp.team = 2
  size : ∀ team, teamCount roomPlayers team ≤ n

/-- The difference of the two teams. -/
def imbalance (roomPlayers : List RoomPlayerInfo) : Nat :=
  ((teamCount roomPlayers 1 : Int) - teamCount roomPlayers 2).natAbs

/-- A switch is to one of the two teams, and there is a place on it. -/
def FairSwitch (n : Nat) (roomPlayers : List RoomPlayerInfo) (id : UInt32) (team : UInt8) : Prop :=
  (team = 1 ∨ team = 2) ∧ othersOn roomPlayers id team < n

/-- A packet is no unfair switch of a player of the room. -/
def Packet.Fair (n : Nat) (roomPlayers : List RoomPlayerInfo) : Packet → Prop
  | .switchTeam senderId teamId =>
      roomPlayers.any (·.id == senderId) = true → FairSwitch n roomPlayers senderId teamId
  | _ => True

/-- The packet that an action takes off the queue. -/
def HostAction.processing (host : Host) : HostAction → Option Queued
  | .process => host.batch.head?
  | _ => none

/-- **The condition**: the step processes no unfair switch. -/
def SwitchesFairly (config : HostConfig) (host : Host) (a : Env × HostAction) : Prop :=
  ∀ queued ∈ a.2.processing host, queued.packet.Fair config.lobbyTeamSize.toNat host.roomPlayers

instance (n : Nat) (roomPlayers : List RoomPlayerInfo) (id : UInt32) (team : UInt8) :
    Decidable (FairSwitch n roomPlayers id team) :=
  inferInstanceAs (Decidable (_ ∧ _))

instance (n : Nat) (roomPlayers : List RoomPlayerInfo) :
    (packet : Packet) → Decidable (packet.Fair n roomPlayers)
  | .switchTeam _ _ => inferInstanceAs (Decidable (_ → _))
  | .nodeState _ _ | .nodeLeave _ | .playerFire _ | .playerHit _ _ | .playerKilled _ _
  | .serverQueryReq | .lobbyJoin _ _ _ | .toggleReady _ | .startMatch | .keepAlive | .ping _ _
  | .pong _ | .chatMessage _ | .voiceUplink _ | .other => .isTrue trivial

instance (config : HostConfig) (host : Host) (a : Env × HostAction) :
    Decidable (SwitchesFairly config host a) :=
  inferInstanceAs (Decidable (∀ queued ∈ _, _))

variable {config : HostConfig} {env : Env} {s t : Host} {n : Nat}
  {roomPlayers : List RoomPlayerInfo}

/-! ## Counting -/

theorem teamCount_append (roomPlayers : List RoomPlayerInfo) (rp : RoomPlayerInfo)
    (team : UInt8) :
    teamCount (roomPlayers ++ [rp]) team =
      teamCount roomPlayers team + if rp.team = team then 1 else 0 := by
  unfold teamCount
  rw [List.countP_append, List.countP_singleton]
  simp only [beq_iff_eq]

/-- On two teams, everyone counts once. -/
theorem teamCount_add (h : ∀ rp ∈ roomPlayers, rp.team = 1 ∨ rp.team = 2) :
    teamCount roomPlayers 1 + teamCount roomPlayers 2 = roomPlayers.length := by
  induction roomPlayers with
  | nil => rfl
  | cons rp rest ih =>
      have hrest := ih fun other hother => h other (List.mem_cons_of_mem _ hother)
      unfold teamCount at hrest ⊢
      rw [List.countP_cons, List.countP_cons, List.length_cons]
      rcases h rp List.mem_cons_self with hteam | hteam
      · simp only [hteam, beq_self_eq_true, if_true]
        simp
        omega
      · simp only [hteam, beq_self_eq_true, if_true]
        simp
        omega

/-! ## A join -/

theorem balanceTeam_eq (roomPlayers : List RoomPlayerInfo) :
    balanceTeam roomPlayers =
      if teamCount roomPlayers 1 ≤ teamCount roomPlayers 2 then 1 else 2 :=
  rfl

/-- **A join evens out the teams**: it makes them differ by one at most, or
less than before. -/
theorem imbalance_join (roomPlayers : List RoomPlayerInfo) (id : UInt32) (name : Bytes) :
    imbalance (roomPlayers ++ [{ id := id, name := name, team := balanceTeam roomPlayers }]) ≤
      max 1 (imbalance roomPlayers) := by
  unfold imbalance
  rw [teamCount_append, teamCount_append, balanceTeam_eq]
  dsimp only
  by_cases hfewer : teamCount roomPlayers 1 ≤ teamCount roomPlayers 2
  · rw [if_pos hfewer, if_pos rfl, if_neg (by decide)]
    omega
  · rw [if_neg hfewer, if_neg (by decide), if_pos rfl]
    omega

/-- A join finds a place on a legal team, if the room is not full. -/
theorem legal_join (h : Legal n roomPlayers) (hroom : roomPlayers.length < n * 2) (id : UInt32)
    (name : Bytes) :
    Legal n (roomPlayers ++ [{ id := id, name := name, team := balanceTeam roomPlayers }]) := by
  have hsum := teamCount_add h.teams
  constructor
  · refine List.forall_mem_append.mpr ⟨h.teams, List.forall_mem_singleton.mpr ?_⟩
    rw [balanceTeam_eq]
    split_ifs
    · exact .inl rfl
    · exact .inr rfl
  · intro team
    have hbefore := h.size team
    rw [teamCount_append, balanceTeam_eq]
    dsimp only
    split_ifs with hfewer hteam hteam
    · rw [← hteam] at hbefore ⊢
      omega
    · omega
    · rw [← hteam] at hbefore ⊢
      omega
    · omega

/-! ## A switch -/

/-- The others keep their teams. -/
theorem othersOn_modifyPlayer (id : UInt32) (team other : UInt8) :
    othersOn (modifyPlayer id (fun rp => { rp with team := team }) roomPlayers) id other =
      othersOn roomPlayers id other := by
  induction roomPlayers with
  | nil => rfl
  | cons rp rest ih =>
      unfold modifyPlayer
      split_ifs with hid
      · unfold othersOn
        rw [List.countP_cons_of_neg (by simp [hid]), List.countP_cons_of_neg (by simp [hid])]
      · unfold othersOn at ih ⊢
        rw [List.countP_cons, List.countP_cons, ih]

/-- A player of a room of distinct players counts once, on its team. -/
theorem teamCount_eq (hids : (roomPlayers.map (·.id)).Nodup) {rp : RoomPlayerInfo}
    (hrp : rp ∈ roomPlayers) (team : UInt8) :
    teamCount roomPlayers team =
      othersOn roomPlayers rp.id team + if rp.team = team then 1 else 0 := by
  obtain ⟨before, after, rfl⟩ := List.append_of_mem hrp
  have hother : ∀ {rest : List RoomPlayerInfo}, (∀ other ∈ rest, other.id ≠ rp.id) →
      othersOn rest rp.id team = teamCount rest team := by
    intro rest hrest
    refine List.countP_congr fun other hmem => ?_
    simp [hrest other hmem]
  rw [List.map_append, List.map_cons, List.nodup_append, List.nodup_cons] at hids
  have hbefore : othersOn before rp.id team = teamCount before team := by
    refine hother fun other hmem hid => ?_
    exact hids.2.2 rp.id (hid ▸ List.mem_map_of_mem hmem) rp.id List.mem_cons_self rfl
  have hafter : othersOn after rp.id team = teamCount after team := by
    refine hother fun other hmem hid => hids.2.1.1 ?_
    exact hid ▸ List.mem_map_of_mem hmem
  unfold teamCount othersOn at hbefore hafter ⊢
  rw [List.countP_append, List.countP_cons, List.countP_append,
    List.countP_cons_of_neg (by simp), hbefore, hafter]
  simp only [beq_iff_eq]
  omega

/-- After a switch the player is on the team it has named. -/
theorem exists_mem_modifyPlayer {id : UInt32} (hknown : roomPlayers.any (·.id == id) = true)
    (team : UInt8) : ∃ rp ∈ modifyPlayer id (fun rp => { rp with team := team }) roomPlayers,
      rp.id = id ∧ rp.team = team := by
  induction roomPlayers with
  | nil => cases hknown
  | cons rp rest ih =>
      unfold modifyPlayer
      split_ifs with hid
      · exact ⟨_, List.mem_cons_self, hid, rfl⟩
      · rw [List.any_cons, Bool.or_eq_true, beq_iff_eq] at hknown
        obtain ⟨found, hmem, hfound⟩ := ih (hknown.resolve_left hid)
        exact ⟨found, List.mem_cons_of_mem _ hmem, hfound⟩

/-- Who is not in the room is not changed. -/
theorem modifyPlayer_unknown {id : UInt32} {f : RoomPlayerInfo → RoomPlayerInfo}
    (hunknown : ¬ roomPlayers.any (·.id == id) = true) :
    modifyPlayer id f roomPlayers = roomPlayers := by
  induction roomPlayers with
  | nil => rfl
  | cons rp rest ih =>
      rw [List.any_cons, Bool.or_eq_true, not_or, beq_iff_eq] at hunknown
      rw [modifyPlayer, if_neg hunknown.1, ih hunknown.2]

/-- **A switch keeps the teams legal exactly if it is fair.** -/
theorem legal_switch_iff (h : Legal n roomPlayers) (hids : (roomPlayers.map (·.id)).Nodup)
    {id : UInt32} (hknown : roomPlayers.any (·.id == id) = true) (team : UInt8) :
    Legal n (modifyPlayer id (fun rp => { rp with team := team }) roomPlayers) ↔
      FairSwitch n roomPlayers id team := by
  obtain ⟨moved, hmoved, rfl, hteam⟩ := exists_mem_modifyPlayer hknown team
  have hsame : (modifyPlayer moved.id (fun rp => { rp with team := team }) roomPlayers).map
      (·.id) = roomPlayers.map (·.id) := by
    refine modifyPlayer_map _ _ (fun _ => ?_) _
    rfl
  have hcount := teamCount_eq (by rw [hsame]; exact hids) hmoved
  simp only [othersOn_modifyPlayer] at hcount
  constructor
  · intro hlegal
    have hsize := hlegal.size team
    rw [hcount, if_pos hteam] at hsize
    exact ⟨hteam ▸ hlegal.teams moved hmoved, hsize⟩
  · intro hfair
    constructor
    · intro rp hrp
      rcases mem_modifyPlayer hrp with hold | ⟨old, -, -, rfl⟩
      · exact h.teams rp hold
      · exact hfair.1
    · intro other
      rw [hcount, hteam]
      split_ifs with hother
      · exact hother ▸ hfair.2
      · obtain ⟨old, hold, hid⟩ := List.any_eq_true.mp hknown
        have hbefore := teamCount_eq hids hold other
        rw [beq_iff_eq.mp hid] at hbefore
        have hsize := h.size other
        omega

/-! ## Runs -/

/-- Who leaves makes no team illegal. -/
theorem Legal.sublist {rest : List RoomPlayerInfo} (h : Legal n roomPlayers)
    (hsub : rest.Sublist roomPlayers) : Legal n rest where
  teams rp hrp := h.teams rp (hsub.subset hrp)
  size team := (hsub.countP_le).trans (h.size team)

/-- Legality is a matter of the teams alone. -/
theorem Legal.of_map {rest : List RoomPlayerInfo} (h : Legal n roomPlayers)
    (hteams : rest.map (·.team) = roomPlayers.map (·.team)) : Legal n rest where
  teams rp hrp := by
    have hmem : rp.team ∈ roomPlayers.map (·.team) := hteams ▸ List.mem_map_of_mem hrp
    obtain ⟨old, hold, hteam⟩ := List.mem_map.mp hmem
    exact hteam ▸ h.teams old hold
  size team := by
    have hcount : ∀ room : List RoomPlayerInfo,
        teamCount room team = (room.map (·.team)).countP (· == team) := by
      intro room
      rw [List.countP_map]
      rfl
    rw [hcount, hteams, ← hcount]
    exact h.size team

/-- **One packet** keeps the teams legal, if it is no unfair switch. -/
theorem Legal.roomAfter (h : Legal config.lobbyTeamSize.toNat roomPlayers)
    (hids : (roomPlayers.map (·.id)).Nodup) {packet : Packet}
    (hfair : packet.Fair config.lobbyTeamSize.toNat roomPlayers) :
    Legal config.lobbyTeamSize.toNat (roomAfter config roomPlayers packet) := by
  cases packet with
  | nodeLeave netid => exact h.sublist List.eraseP_sublist
  | startMatch => exact h.of_map (by rw [Lobby.roomAfter, List.map_map]; rfl)
  | lobbyJoin senderId playerName password =>
      unfold Lobby.roomAfter
      dsimp only
      split_ifs with hknown hfull
      · exact h
      · exact h
      · exact legal_join h (not_le.mp hfull) senderId _
  | toggleReady senderId =>
      refine h.of_map (modifyPlayer_map _ _ (fun _ => ?_) _)
      rfl
  | switchTeam senderId teamId =>
      by_cases hknown : roomPlayers.any (·.id == senderId) = true
      · exact (legal_switch_iff h hids hknown teamId).mpr (hfair hknown)
      · unfold Lobby.roomAfter
        dsimp only
        rw [modifyPlayer_unknown hknown]
        exact h
  | _ => exact h

/-- The players are distinct and their teams legal. -/
structure TeamsInv (config : HostConfig) (host : Host) : Prop where
  distinct : RoomDistinct host.roomPlayers
  legal : Legal config.lobbyTeamSize.toNat host.roomPlayers

/-- **One step.** -/
theorem TeamsInv.step (h : TeamsInv config s) {a : Env × HostAction}
    (hfair : SwitchesFairly config s a) (hstep : Lobby.step config s a = some t) :
    TeamsInv config t := by
  refine ⟨step_distinct h.distinct hstep, ?_⟩
  cases step_effect hstep with
  | processed queued rest action batch waiting room =>
      rw [room]
      refine h.legal.roomAfter h.distinct.ids (hfair queued ?_)
      rw [action, HostAction.processing, batch]
      rfl
  | kicked playerId action waiting room =>
      rw [room]
      exact h.legal.sublist List.filter_sublist
  | arrived quiet waiting room =>
      rw [room]
      exact h.legal

theorem start_teams (config : HostConfig) (env : Env) : TeamsInv config (start config env) := by
  have hroom : (start config env).roomPlayers = [] := by
    unfold start
    split_ifs <;> rfl
  refine ⟨?_, ?_⟩
  · rw [hroom]
    exact ⟨List.nodup_nil, List.nodup_nil⟩
  · rw [hroom]
    exact ⟨fun rp hrp => absurd hrp List.not_mem_nil, fun team => Nat.zero_le _⟩

/-- **Teams stay legal** in every run that processes no unfair switch of a room
player; and in every run a join leaves the two teams no further apart than one,
or than they were. -/
theorem teams_legal {actions : List (Env × HostAction)}
    (h : Exec.exec (step config) (start config env) actions = some s) :
    (Exec.Along (step config) (SwitchesFairly config) (start config env) actions →
        Legal config.lobbyTeamSize.toNat s.roomPlayers) ∧
      ∀ now queued rest t, s.batch = queued :: rest → (joinId queued.packet).isSome = true →
        step config s (now, .process) = some t →
        imbalance t.roomPlayers ≤ max 1 (imbalance s.roomPlayers) := by
  constructor
  · intro halong
    have hteams : TeamsInv config s :=
      Exec.ReachedAlong.invariant ⟨_, h, halong⟩ (TeamsInv config) (start_teams config env)
        fun s a t hs hfair ht => hs.step hfair ht
    exact hteams.legal
  · intro now queued rest t hbatch hjoin hstep
    cases step_effect hstep with
    | processed first others action batch waiting room =>
        obtain ⟨rfl, rfl⟩ := List.cons.inj (hbatch.symm.trans batch)
        rw [room]
        obtain ⟨packet, origin⟩ := queued
        cases packet with
        | lobbyJoin senderId playerName password =>
            unfold roomAfter
            dsimp only
            split_ifs
            · exact le_max_right _ _
            · exact le_max_right _ _
            · exact imbalance_join s.roomPlayers senderId _
        | _ => cases hjoin
    | kicked playerId action => cases action
    | arrived quiet => exact absurd rfl quiet.1

/-- Two players join a lobby for one against one; the first then switches to a
team. -/
def switchRun (teamId : UInt8) : List (Env × HostAction) :=
  [({}, .connect 11 true true), ({}, .connect 12 true true),
    ({}, .packet 11 (.lobbyJoin 5 [65] [])), ({}, .packet 12 (.lobbyJoin 6 [66] [])),
    ({}, .packet 11 (.switchTeam 5 teamId)), ({}, .beginUpdate), ({}, .process), ({}, .process),
    ({}, .process)]

/-- The lobby of `switchRun`. -/
def oneOnOne : HostConfig := { localNodeId := 100, lobbyTeamSize := 1, isDedicatedServer := true }

/-- A switch to the own team is fair, and the teams stay legal. -/
theorem teams_legal_same :
    ∃ s, Exec.exec (step oneOnOne) (start oneOnOne {}) (switchRun 1) = some s ∧
      s.roomPlayers.map (·.team) = [1, 2] ∧ Legal 1 s.roomPlayers := by
  obtain ⟨s, hs, htest⟩ := @Exec.exec_any _ _ (step oneOnOne) (start oneOnOne {}) (switchRun 1)
    (fun s => s.roomPlayers.map (·.team) = [1, 2]) (by decide +kernel)
  exact ⟨s, hs, of_decide_eq_true htest, (teams_legal hs).1 (by decide +kernel)⟩

/-- A switch to the other team puts both players on it, and a switch to team
seven puts a player on no team. -/
theorem teams_illegal :
    (∃ s, Exec.exec (step oneOnOne) (start oneOnOne {}) (switchRun 2) = some s ∧
      ¬ teamCount s.roomPlayers 2 ≤ oneOnOne.lobbyTeamSize.toNat) ∧
      ∃ s, Exec.exec (step oneOnOne) (start oneOnOne {}) (switchRun 7) = some s ∧
        ¬ ∀ rp ∈ s.roomPlayers, rp.team = 1 ∨ rp.team = 2 := by
  constructor
  · obtain ⟨s, hs, htest⟩ := @Exec.exec_any _ _ (step oneOnOne) (start oneOnOne {})
      (switchRun 2) (fun s => ¬ teamCount s.roomPlayers 2 ≤ oneOnOne.lobbyTeamSize.toNat)
      (by decide +kernel)
    exact ⟨s, hs, of_decide_eq_true htest⟩
  · obtain ⟨s, hs, htest⟩ := @Exec.exec_any _ _ (step oneOnOne) (start oneOnOne {})
      (switchRun 7) (fun s => ¬ ∀ rp ∈ s.roomPlayers, rp.team = 1 ∨ rp.team = 2)
      (by decide +kernel)
    exact ⟨s, hs, of_decide_eq_true htest⟩

end Lobby
