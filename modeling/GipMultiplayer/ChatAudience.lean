import GipMultiplayer.LobbyPassword

/-!
# The audience of a chat message

The host relays a chat message to sessions, by their tags, and shows it to its
own player, by the room.  The two are computed apart; here both are compared
with one audience, a set of player ids.

* `Hears` — the audience: everyone, a team, or two players;
* `mem_relayChat_iff`, `relayChat_nodup` — the sessions of the audience are
  sent the message, each once;
* `shouldDisplayChat_iff` — the host's own screen follows the audience;
* `chat_audience` — one chat packet, from the queue to sessions and screen.
-/

namespace Lobby

open Voice (ConnectionId)

/-! ## Definitions -/

/-- The player `id` belongs to the audience of the message. -/
def Hears (roomPlayers : List RoomPlayerInfo) (message : ChatMessage) (id : UInt32) : Prop :=
  message.channel = chatAll ∨
    (message.channel = chatTeam ∧ ∃ rp ∈ roomPlayers, rp.id = id ∧
      ∃ sender ∈ roomPlayers, sender.id = message.senderId ∧ rp.team = sender.team) ∨
    (message.channel = chatPrivate ∧ (message.targetId = id ∨ message.senderId = id))

instance (roomPlayers : List RoomPlayerInfo) (message : ChatMessage) (id : UInt32) :
    Decidable (Hears roomPlayers message id) :=
  inferInstanceAs (Decidable (_ ∨ (_ ∧ _) ∨ _))

/-- The message comes through: it passes every check, on a channel of the
wire. -/
def Passes (env : Env) (host : Host) (message : ChatMessage) : Prop :=
  Accepted env host message ∧
    (message.channel = chatAll ∨ message.channel = chatTeam ∨ message.channel = chatPrivate)

instance (env : Env) (host : Host) (message : ChatMessage) :
    Decidable (Passes env host message) :=
  inferInstanceAs (Decidable (_ ∧ _))

/-- Room ids are distinct, and every session there is is tagged with the id of
a room player of its own, other than the host's. -/
structure Tagged (config : HostConfig) (host : Host) : Prop where
  room : (host.roomPlayers.map (·.id)).Nodup
  /-- A session id stands for the session object. -/
  ids : (host.sessions.map (·.id)).Nodup
  tagged : ∀ session ∈ host.sessions, session.listed = true → ∃ rp ∈ host.roomPlayers,
    session.tag = some rp.id ∧ rp.id ≠ config.localNodeId
  own : ∀ session ∈ host.sessions, ∀ other ∈ host.sessions, session.listed = true →
    other.listed = true → session.tag = other.tag → session = other

/-- The sessions that receive a chat message between two states, once for each
time they do. -/
def heardChat (g g' : Game) : List ConnectionId :=
  ((g'.casts.drop g.casts.length).filter (·.kind = .chat)).flatMap Cast.recipients

variable {config : HostConfig} {env : Env} {s : Host} {g g' : Game} {message : ChatMessage}

/-! ## The room -/

/-- With distinct ids a player is found by its id. -/
theorem find?_id {roomPlayers : List RoomPlayerInfo} (hroom : (roomPlayers.map (·.id)).Nodup)
    {rp : RoomPlayerInfo} (hrp : rp ∈ roomPlayers) :
    roomPlayers.find? (·.id == rp.id) = some rp := by
  cases hfound : roomPlayers.find? (·.id == rp.id) with
  | none => exact absurd (beq_self_eq_true rp.id) (List.find?_eq_none.mp hfound rp hrp)
  | some first =>
      have hid : first.id = rp.id := by simpa using List.find?_some hfound
      rw [List.inj_on_of_nodup_map hroom (List.mem_of_find?_eq_some hfound) hrp hid]

/-- The last entry of an id is its only one. -/
theorem lastTeam_eq_some {roomPlayers : List RoomPlayerInfo}
    (hroom : (roomPlayers.map (·.id)).Nodup) {id : UInt32} {team : UInt8} :
    lastTeam roomPlayers id = some team ↔ ∃ rp ∈ roomPlayers, rp.id = id ∧ rp.team = team := by
  have hreverse : (roomPlayers.reverse.map (·.id)).Nodup := by
    rw [List.map_reverse]
    exact List.nodup_reverse.mpr hroom
  unfold lastTeam
  constructor
  · intro h
    obtain ⟨rp, hfound, hteam⟩ := Option.map_eq_some_iff.mp h
    exact ⟨rp, List.mem_reverse.mp (List.mem_of_find?_eq_some hfound),
      by simpa using List.find?_some hfound, hteam⟩
  · rintro ⟨rp, hrp, rfl, rfl⟩
    rw [find?_id hreverse (List.mem_reverse.mpr hrp)]
    rfl

/-! ## The channels -/

theorem hears_team (hteam : message.channel = chatTeam) {roomPlayers : List RoomPlayerInfo}
    {id : UInt32} :
    Hears roomPlayers message id ↔ ∃ rp ∈ roomPlayers, rp.id = id ∧
      ∃ sender ∈ roomPlayers, sender.id = message.senderId ∧ rp.team = sender.team := by
  have hall : message.channel ≠ chatAll := hteam ▸ by decide
  have hprivate : message.channel ≠ chatPrivate := hteam ▸ by decide
  unfold Hears
  constructor
  · rintro (h | ⟨-, h⟩ | ⟨h, -⟩)
    · exact absurd h hall
    · exact h
    · exact absurd h hprivate
  · exact fun h => .inr (.inl ⟨hteam, h⟩)

theorem hears_private (hprivate : message.channel = chatPrivate)
    {roomPlayers : List RoomPlayerInfo} {id : UInt32} :
    Hears roomPlayers message id ↔ message.targetId = id ∨ message.senderId = id := by
  have hall : message.channel ≠ chatAll := hprivate ▸ by decide
  have hteam : message.channel ≠ chatTeam := hprivate ▸ by decide
  unfold Hears
  constructor
  · rintro (h | ⟨h, -⟩ | ⟨-, h⟩)
    · exact absurd h hall
    · exact absurd h hteam
    · exact h
  · exact fun h => .inr (.inr ⟨hprivate, h⟩)

/-- Nobody hears another channel. -/
theorem not_hears (hall : message.channel ≠ chatAll) (hteam : message.channel ≠ chatTeam)
    (hprivate : message.channel ≠ chatPrivate) (roomPlayers : List RoomPlayerInfo)
    (id : UInt32) : ¬ Hears roomPlayers message id := by
  rintro (h | ⟨h, -⟩ | ⟨h, -⟩)
  · exact hall h
  · exact hteam h
  · exact hprivate h

/-! ## The host's own screen -/

/-- **The screen follows the audience.** -/
theorem shouldDisplayChat_iff (hroom : (s.roomPlayers.map (·.id)).Nodup) :
    shouldDisplayChat config s.roomPlayers message = true ↔
      Hears s.roomPlayers message config.localNodeId := by
  unfold shouldDisplayChat
  split_ifs with hall hteam hprivate
  · exact iff_of_true rfl (.inl hall)
  · rw [hears_team hteam]
    constructor
    · intro h
      split at h
      · rename_i senderTeam myTeam hsender hown
        obtain ⟨sender, hmem, hsid, rfl⟩ := (lastTeam_eq_some hroom).mp hsender
        obtain ⟨rp, hrp, hid, rfl⟩ := (lastTeam_eq_some hroom).mp hown
        exact ⟨rp, hrp, hid, sender, hmem, hsid, (beq_iff_eq.mp h).symm⟩
      · cases h
    · rintro ⟨rp, hrp, hid, sender, hsender, hsid, hteams⟩
      rw [(lastTeam_eq_some hroom).mpr ⟨sender, hsender, hsid, rfl⟩,
        (lastTeam_eq_some hroom).mpr ⟨rp, hrp, hid, rfl⟩]
      exact beq_iff_eq.mpr hteams.symm
  · rw [hears_private hprivate]
    simp
  · exact iff_of_false (by decide) (not_hears hall hteam hprivate _ _)

/-! ## The sessions -/

/-- `sendToPlayer` finds the session of a player, if there is one. -/
theorem mem_sendToPlayer_iff (h : Tagged config s) {id : UInt32} {c : ConnectionId} :
    c ∈ sendToPlayer s id ↔
      ∃ session ∈ s.sessions, session.listed = true ∧ session.id = c ∧ session.tag = some id := by
  unfold sendToPlayer
  rw [Option.mem_toList, Option.map_eq_some_iff]
  constructor
  · rintro ⟨session, hfound, hid⟩
    have hsession := List.find?_some hfound
    rw [decide_eq_true_eq] at hsession
    exact ⟨session, List.mem_of_find?_eq_some hfound, hsession.1, hid, hsession.2⟩
  · rintro ⟨session, hmem, hlisted, hid, htag⟩
    cases hfound : s.sessions.find? fun s => s.listed ∧ s.tag = some id with
    | none =>
        have hnot := List.find?_eq_none.mp hfound session hmem
        exact absurd (decide_eq_true ⟨hlisted, htag⟩) hnot
    | some first =>
        have hfirst := List.find?_some hfound
        rw [decide_eq_true_eq] at hfirst
        have hsame := h.own first (List.mem_of_find?_eq_some hfound) session hmem hfirst.1 hlisted
          (hfirst.2.trans htag.symm)
        exact ⟨first, rfl, hsame ▸ hid⟩

theorem sendToPlayer_nodup (host : Host) (id : UInt32) : (sendToPlayer host id).Nodup := by
  unfold sendToPlayer
  cases host.sessions.find? fun s => s.listed ∧ s.tag = some id with
  | none => exact List.nodup_nil
  | some session => exact List.nodup_singleton _

/-- Different players have different sessions. -/
theorem sendToPlayer_disjoint (h : Tagged config s) {id id' : UInt32} (hne : id ≠ id') :
    List.Disjoint (sendToPlayer s id) (sendToPlayer s id') := by
  intro c hc hc'
  obtain ⟨session, hmem, -, hid, htag⟩ := (mem_sendToPlayer_iff h).mp hc
  obtain ⟨other, hmem', -, hid', htag'⟩ := (mem_sendToPlayer_iff h).mp hc'
  obtain rfl := List.inj_on_of_nodup_map h.ids hmem hmem' (hid.trans hid'.symm)
  exact hne (Option.some.inj (htag.symm.trans htag'))

/-- **The sessions of the audience** are those that are sent a message from the
room. -/
theorem mem_relayChat_iff (h : Tagged config s) {c : ConnectionId} :
    c ∈ relayChat s message ↔
      ∃ session ∈ s.sessions, session.listed = true ∧ session.id = c ∧
        ∃ id, session.tag = some id ∧ Hears s.roomPlayers message id := by
  unfold relayChat
  split_ifs with hall hteam hprivate hother
  · rw [broadcastAll, List.mem_map]
    constructor
    · rintro ⟨session, hsession, hid⟩
      obtain ⟨hmem, hlisted⟩ := List.mem_filter.mp hsession
      obtain ⟨rp, -, htag, -⟩ := h.tagged session hmem hlisted
      exact ⟨session, hmem, hlisted, hid, rp.id, htag, .inl hall⟩
    · rintro ⟨session, hmem, hlisted, hid, -⟩
      exact ⟨session, List.mem_filter.mpr ⟨hmem, hlisted⟩, hid⟩
  · constructor
    · intro hc
      split at hc
      · cases hc
      · rename_i sender hsender
        obtain ⟨rp, hrp, hsent⟩ := List.mem_flatMap.mp hc
        obtain ⟨hroom, hteams⟩ := List.mem_filter.mp hrp
        obtain ⟨session, hmem, hlisted, hid, htag⟩ := (mem_sendToPlayer_iff h).mp hsent
        refine ⟨session, hmem, hlisted, hid, rp.id, htag, (hears_team hteam).mpr ?_⟩
        exact ⟨rp, hroom, rfl, sender, List.mem_of_find?_eq_some hsender,
          by simpa using List.find?_some hsender, beq_iff_eq.mp hteams⟩
    · rintro ⟨session, hmem, hlisted, hid, id, htag, hhears⟩
      obtain ⟨rp, hrp, rfl, sender, hsender, hsid, hteams⟩ := (hears_team hteam).mp hhears
      rw [← hsid, find?_id h.room hsender]
      refine List.mem_flatMap.mpr ⟨rp, List.mem_filter.mpr ⟨hrp, beq_iff_eq.mpr hteams⟩, ?_⟩
      exact (mem_sendToPlayer_iff h).mpr ⟨session, hmem, hlisted, hid, htag⟩
  · rw [List.mem_append, mem_sendToPlayer_iff h, mem_sendToPlayer_iff h]
    constructor
    · rintro (⟨session, hmem, hlisted, hid, htag⟩ | ⟨session, hmem, hlisted, hid, htag⟩)
      · exact ⟨session, hmem, hlisted, hid, _, htag, (hears_private hprivate).mpr (.inl rfl)⟩
      · exact ⟨session, hmem, hlisted, hid, _, htag, (hears_private hprivate).mpr (.inr rfl)⟩
    · rintro ⟨session, hmem, hlisted, hid, id, htag, hhears⟩
      rcases (hears_private hprivate).mp hhears with rfl | rfl
      · exact .inl ⟨session, hmem, hlisted, hid, htag⟩
      · exact .inr ⟨session, hmem, hlisted, hid, htag⟩
  · rw [List.append_nil, mem_sendToPlayer_iff h]
    constructor
    · rintro ⟨session, hmem, hlisted, hid, htag⟩
      exact ⟨session, hmem, hlisted, hid, _, htag, (hears_private hprivate).mpr (.inl rfl)⟩
    · rintro ⟨session, hmem, hlisted, hid, id, htag, hhears⟩
      have hself : message.senderId = message.targetId := not_not.mp hother
      have htarget : message.targetId = id := by
        rcases (hears_private hprivate).mp hhears with hid | hid
        · exact hid
        · exact hself.symm.trans hid
      exact ⟨session, hmem, hlisted, hid, htarget ▸ htag⟩
  · refine iff_of_false List.not_mem_nil ?_
    rintro ⟨session, -, -, -, id, -, hhears⟩
    exact not_hears hall hteam hprivate _ _ hhears

/-- No session is sent a message twice. -/
theorem relayChat_nodup (h : Tagged config s) : (relayChat s message).Nodup := by
  unfold relayChat
  split_ifs with hall hteam hprivate hother
  · exact (List.filter_sublist.map _).nodup h.ids
  · split
    · exact List.nodup_nil
    · rename_i sender hsender
      refine List.nodup_flatMap.mpr ⟨fun rp _ => sendToPlayer_nodup s rp.id, ?_⟩
      have hids : (s.roomPlayers.filter (·.team == sender.team)).Pairwise
          fun rp rp' => rp.id ≠ rp'.id :=
        (List.pairwise_map.mp h.room).sublist List.filter_sublist
      exact hids.imp fun hne => sendToPlayer_disjoint h hne
  · refine List.nodup_append'.mpr ⟨sendToPlayer_nodup s _, sendToPlayer_nodup s _, ?_⟩
    exact sendToPlayer_disjoint h (Ne.symm hother)
  · rw [List.append_nil]
    exact sendToPlayer_nodup s _
  · exact List.nodup_nil

/-! ## One chat packet -/

/-- The entry that a message makes in the chat history. -/
def ChatMessage.shown (message : ChatMessage) : ChatEntry :=
  { channel := message.channel
    senderId := message.senderId
    senderName := message.senderName
    text := message.text }

/-- The checks look at room and stamps alone. -/
theorem accepted_congr {t : Host} (hroom : t.roomPlayers = s.roomPlayers)
    (hstamps : t.chatRateStamps = s.chatRateStamps) :
    Accepted env t message ↔ Accepted env s message := by
  unfold Accepted
  rw [hroom, allowChatRate_congr env.clock message.senderId hstamps]

/-- **The main thread takes a chat packet off its queue.** -/
theorem process_chat {origin : Option ConnectionId} {rest : List Queued}
    (hbatch : g.host.batch = ⟨.chatMessage message, origin⟩ :: rest)
    (hstep : gameStep config g (env, .host .process) = some g') :
    g'.casts = g.casts ++
        (if Accepted env g.host message then [⟨.chat, relayChat g.host message⟩] else []) ∧
      g'.history =
        if Accepted env g.host message ∧
            shouldDisplayChat config g.host.roomPlayers message = true then
          receive g.muted g.history (message.passedOn g.host.roomPlayers)
        else g.history := by
  obtain ⟨action, haction, hhost, hg'⟩ | ⟨hother, -⟩ := gameStep_host hstep
  swap
  · exact absurd rfl (hother .process)
  obtain rfl : action = .process := by simpa using haction.symm
  obtain ⟨hafter, hprocessed⟩ := handOn_process hbatch hhost
  have hroom : g'.host.roomPlayers = g.host.roomPlayers := by
    rw [hafter]
    exact (receiveChat_room origin message).1
  have hrelays : newRelays g.host g'.host =
      if Accepted env g.host message then
        [⟨origin, message.passedOn g.host.roomPlayers, relayChat g.host message⟩]
      else [] := by
    have hcongr : Accepted env { g.host with synced := false, batch := rest } message ↔
        Accepted env g.host message := accepted_congr rfl rfl
    rw [hafter]
    refine (@newRelays_receiveChat env { g.host with synced := false, batch := rest } origin
      message).trans ?_
    by_cases haccepted : Accepted env g.host message
    · rw [if_pos haccepted]
      exact if_pos (hcongr.mpr haccepted)
    · rw [if_neg haccepted]
      exact if_neg (mt hcongr.mp haccepted)
  have hlobby : broadcastsLobby config g.host.roomPlayers (.chatMessage message) = false := rfl
  rw [hg', hprocessed, processed]
  dsimp only
  rw [hrelays, hroom, hlobby, if_neg Bool.false_ne_true, List.append_nil]
  by_cases haccepted : Accepted env g.host message
  · rw [if_pos haccepted, if_pos haccepted]
    refine ⟨rfl, ?_⟩
    have hshows : shouldDisplayChat config g.host.roomPlayers
        (message.passedOn g.host.roomPlayers) =
          shouldDisplayChat config g.host.roomPlayers message := rfl
    simp only [List.map_cons, List.map_nil, List.filter_cons, List.filter_nil, hshows]
    by_cases hdisplay : shouldDisplayChat config g.host.roomPlayers message = true
    · rw [if_pos hdisplay, if_pos ⟨haccepted, hdisplay⟩]
      rfl
    · rw [if_neg hdisplay, if_neg fun h => hdisplay h.2]
      rfl
  · rw [if_neg haccepted, if_neg haccepted, if_neg fun h => haccepted h.1]
    exact ⟨rfl, rfl⟩

/-- A message that the audience of some player hears came on a channel of the
wire. -/
theorem passes_of_hears {roomPlayers : List RoomPlayerInfo} {id : UInt32}
    (hhears : Hears roomPlayers message id) :
    Passes env s message ↔ Accepted env s message := by
  refine ⟨And.left, fun haccepted => ⟨haccepted, ?_⟩⟩
  rcases hhears with h | ⟨h, -⟩ | ⟨h, -⟩
  · exact .inl h
  · exact .inr (.inl h)
  · exact .inr (.inr h)

/-- **Chat reaches its audience.**  The host takes a chat packet off its queue:
if the message comes through, each session of the audience receives it once;
no other session does, and none otherwise.  The host's own screen shows it if
the host is of the audience and has not muted the sender. -/
theorem chat_audience {origin : Option ConnectionId} {rest : List Queued}
    (h : Tagged config g.host)
    (hbatch : g.host.batch = ⟨.chatMessage message, origin⟩ :: rest)
    (hstep : gameStep config g (env, .host .process) = some g') :
    (∀ session ∈ g.host.sessions, session.listed = true → ∀ id, session.tag = some id →
      (heardChat g g').count session.id =
        if Passes env g.host message ∧ Hears g.host.roomPlayers message id then 1 else 0) ∧
      (∀ c ∈ heardChat g g', ∃ session ∈ g.host.sessions,
        session.listed = true ∧ session.id = c) ∧
      g'.history =
        if Passes env g.host message ∧ Hears g.host.roomPlayers message config.localNodeId ∧
            message.senderId ∉ g.muted then
          append g.history (message.passedOn g.host.roomPlayers).shown
        else g.history := by
  obtain ⟨hcasts, hhistory⟩ := process_chat hbatch hstep
  have hheard : heardChat g g' =
      if Accepted env g.host message then relayChat g.host message else [] := by
    rw [heardChat, hcasts, List.drop_left]
    split_ifs
    · exact List.append_nil _
    · rfl
  rw [hheard]
  refine ⟨?_, ?_, ?_⟩
  · intro session hmem hlisted id htag
    by_cases hpasses : Passes env g.host message ∧ Hears g.host.roomPlayers message id
    · rw [if_pos hpasses, if_pos hpasses.1.1]
      refine List.count_eq_one_of_mem (relayChat_nodup h) ((mem_relayChat_iff h).mpr ?_)
      exact ⟨session, hmem, hlisted, rfl, id, htag, hpasses.2⟩
    · rw [if_neg hpasses]
      split_ifs with haccepted
      · refine List.count_eq_zero.mpr fun hmember => hpasses ?_
        obtain ⟨other, hother, -, hid, id', htag', hhears⟩ := (mem_relayChat_iff h).mp hmember
        obtain rfl := List.inj_on_of_nodup_map h.ids hother hmem hid
        obtain rfl := Option.some.inj (htag.symm.trans htag')
        exact ⟨(passes_of_hears hhears).mpr haccepted, hhears⟩
      · rfl
  · intro c hc
    split_ifs at hc
    · obtain ⟨session, hmem, hlisted, hid, -⟩ := (mem_relayChat_iff h).mp hc
      exact ⟨session, hmem, hlisted, hid⟩
    · cases hc
  · rw [hhistory, receive]
    by_cases hhears : Hears g.host.roomPlayers message config.localNodeId
    · have hdisplay := (shouldDisplayChat_iff h.room).mpr hhears
      by_cases haccepted : Accepted env g.host message
      · have hpasses : Passes env g.host message := (passes_of_hears hhears).mpr haccepted
        have hsender : (message.passedOn g.host.roomPlayers).senderId = message.senderId := rfl
        rw [if_pos ⟨haccepted, hdisplay⟩, hsender]
        by_cases hmuted : message.senderId ∈ g.muted
        · rw [if_pos hmuted, if_neg fun hshown => hshown.2.2 hmuted]
        · rw [if_neg hmuted, if_pos ⟨hpasses, hhears, hmuted⟩]
          rfl
      · rw [if_neg fun hshown => haccepted hshown.1, if_neg fun hshown => haccepted hshown.1.1]
    · have hdisplay := mt (shouldDisplayChat_iff h.room).mp hhears
      rw [if_neg fun hshown => hdisplay hshown.2, if_neg fun hshown => hhears hshown.2.1]

/-- Two players of team 1 and one of team 2, each with a session; the host, id
100, plays in team 1. -/
def teamRoom : Host :=
  { sessions := [{ id := 11, tag := some 5 }, { id := 12, tag := some 6 },
      { id := 13, tag := some 7 }]
    roomPlayers := [⟨100, [72], 1, false⟩, ⟨5, [65], 1, false⟩, ⟨6, [66], 1, false⟩,
      ⟨7, [67], 2, false⟩] }

/-- The first of them has written. -/
def teamChat (channel : UInt8) (muted : List UInt32) : Game :=
  { host := { teamRoom with
      batch := [⟨.chatMessage { senderId := 5, channel := channel, text := [104, 105] },
        some 11⟩] }
    muted := muted }

theorem teamRoom_tagged : Tagged { localNodeId := 100 } teamRoom :=
  ⟨by decide, by decide, by decide, by decide⟩

theorem teamChat_tagged (channel : UInt8) (muted : List UInt32) :
    Tagged { localNodeId := 100 } (teamChat channel muted).host :=
  ⟨teamRoom_tagged.room, teamRoom_tagged.ids, teamRoom_tagged.tagged, teamRoom_tagged.own⟩

/-- The team hears the message, the other team does not, the screen does. -/
theorem chat_audience_team :
    ∃ g' : Game, gameStep { localNodeId := 100 } (teamChat chatTeam []) ({}, .host .process) =
        some g' ∧ (heardChat (teamChat chatTeam []) g').count 11 = 1 ∧
      (heardChat (teamChat chatTeam []) g').count 13 = 0 ∧
      g'.history = [⟨chatTeam, 5, [65], [104, 105]⟩] := by
  obtain ⟨g', hstep⟩ : ∃ g', gameStep { localNodeId := 100 } (teamChat chatTeam [])
      ({}, .host .process) = some g' := ⟨_, rfl⟩
  obtain ⟨hcount, -, hhistory⟩ := chat_audience (teamChat_tagged chatTeam []) rfl hstep
  refine ⟨g', hstep, ?_, ?_, ?_⟩
  · rw [hcount ⟨11, true, true, true, some 5, none⟩ (by decide) rfl 5 rfl]
    decide +kernel
  · rw [hcount ⟨13, true, true, true, some 7, none⟩ (by decide) rfl 7 rfl]
    decide +kernel
  · rw [hhistory]
    decide +kernel

/-- A message to everyone that comes through is not on the host's screen: the
host has muted its sender. -/
theorem chat_audience_muted :
    ¬ ∀ (config : HostConfig) (env : Env) (g g' : Game) (message : ChatMessage)
        (origin : Option ConnectionId) (rest : List Queued), Tagged config g.host →
      g.host.batch = ⟨.chatMessage message, origin⟩ :: rest →
      gameStep config g (env, .host .process) = some g' →
      Passes env g.host message → message.channel = chatAll →
      g'.history = append g.history (message.passedOn g.host.roomPlayers).shown := by
  intro hlaw
  have hshown := hlaw { localNodeId := 100 } {} (teamChat chatAll [5]) _ _ _ _
    (teamChat_tagged chatAll [5]) rfl rfl (by decide +kernel) rfl
  revert hshown
  decide +kernel

end Lobby
