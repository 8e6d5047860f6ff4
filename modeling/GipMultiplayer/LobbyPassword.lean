import GipMultiplayer.LobbyGame

/-!
# The lobby password

Whether the password of a private lobby keeps a session out.  It is asked for
in one place, the handler of `LobbyJoinPacket`.  Every other handler takes a
packet from any session, of the listener and of the query server alike, and a
session is in the list of a broadcast from the moment it connects.

* `Locked` — the law, for one step;
* `Guest` — the condition on each step: what a session sends before it has sent
  the password, and when the host broadcasts;
* `password_gates` — the law in every run under the condition;
* `password_gates_nothing` — a session starts the match without the password.
-/

namespace Lobby

open Voice (ConnectionId)

/-! ## The law -/

/-- Room, match flag, registries, chat history and callbacks are as before. -/
structure Unmoved (g g' : Game) : Prop where
  room : g'.host.roomPlayers = g.host.roomPlayers
  started : g'.host.matchInProgress = g.host.matchInProgress
  registries : g'.registries = g.registries
  history : g'.history = g.history
  callbacks : g'.callbacks = g.callbacks

/-- **The password gates everything**: a packet of a session that has not sent
it moves nothing, neither when it arrives nor when it is processed, no leave is
announced for such a session, and no broadcast goes to one. -/
structure Locked (g : Game) (a : GameAction) (g' : Game) : Prop where
  arrives : ∀ c packet, a = .host (.packet c packet) → Unmoved g g'
  processed : ∀ queued rest c, a = .host .process → g.host.batch = queued :: rest →
    queued.origin = some c → c ∉ g.entered → Unmoved g g'
  leaves : ∀ announced ∈ g'.host.leaves,
    announced ∈ g.host.leaves ∨ announced.1 ∈ g.entered
  outside : ∀ cast ∈ g'.casts, cast ∈ g.casts ∨ ∀ c ∈ cast.recipients, c ∈ g.entered

/-! ## The condition -/

/-- The packets a session may send before the password: the host passes none of
them on but a keep-alive and the join itself. -/
def Packet.harmless : Packet → Bool
  | .nodeState _ _ | .playerFire _ | .playerHit _ _ | .playerKilled _ _ | .toggleReady _
  | .switchTeam _ _ | .startMatch | .chatMessage _ => false
  | _ => true

/-- The chat message passes every check of the host. -/
def Accepted (env : Env) (host : Host) (message : ChatMessage) : Prop :=
  sanitizeText message.text ≠ [] ∧ host.roomPlayers.any (·.id == message.senderId) = true ∧
    (allowChatRate env.clock host message.senderId).2 = true ∧
    (message.channel = chatPrivate → host.roomPlayers.any (·.id == message.targetId) = true)

instance (env : Env) (host : Host) (message : ChatMessage) :
    Decidable (Accepted env host message) :=
  inferInstanceAs (Decidable (_ ∧ _ ∧ _ ∧ (_ → _)))

/-- The packet is a chat message to everyone that passes every check. -/
def SpeaksToAll (env : Env) (host : Host) : Packet → Prop
  | .chatMessage message => message.channel = chatAll ∧ Accepted env host message
  | _ => False

instance (env : Env) (host : Host) : (packet : Packet) → Decidable (SpeaksToAll env host packet)
  | .chatMessage _ => inferInstanceAs (Decidable (_ ∧ _))
  | .nodeState _ _ | .nodeLeave _ | .playerFire _ | .playerHit _ _ | .playerKilled _ _
  | .serverQueryReq | .lobbyJoin _ _ _ | .toggleReady _ | .switchTeam _ _ | .startMatch
  | .keepAlive | .ping _ _ | .pong _ | .voiceUplink _ | .other => .isFalse id

/-- The action broadcasts to every session. -/
def Broadcasts (config : HostConfig) (env : Env) (g : Game) : GameAction → Prop
  | .host (.packet _ packet) => packet.rebroadcast.isSome = true
  | .host .process => ∃ queued ∈ g.host.batch.head?,
      broadcastsLobby config g.host.roomPlayers queued.packet = true ∨
        SpeaksToAll env g.host queued.packet
  | .host (.kick playerId) => g.host.roomPlayers.any (·.id == playerId) = true
  | .host .roomCode | .pingSnapshot | .own _ => True
  | _ => False

instance (config : HostConfig) (env : Env) (g : Game) :
    (a : GameAction) → Decidable (Broadcasts config env g a)
  | .host (.packet _ _) => inferInstanceAs (Decidable (_ = _))
  | .host .process => inferInstanceAs (Decidable (∃ queued ∈ g.host.batch.head?, _ ∨ _))
  | .host (.kick _) => inferInstanceAs (Decidable (_ = _))
  | .host .roomCode | .pingSnapshot | .own _ => .isTrue trivial
  | .host (.connect _ _ _) | .host (.die _) | .host (.disconnected _) | .host .beginUpdate
  | .host .sweep | .host (.own _) | .host .setupMatch | .host .switchTeamInMatch
  | .host (.login _) | .host .logout | .cleanup | .mute _ _ => .isFalse id

/-- Every session that broadcasts go to has sent the password. -/
def AllEntered (g : Game) : Prop :=
  ∀ session ∈ g.host.sessions, session.listed = true → session.id ∈ g.entered

instance (g : Game) : Decidable (AllEntered g) :=
  inferInstanceAs (Decidable (∀ session ∈ g.host.sessions, _ → _))

/-- The action is no packet that needs the password, or its session has sent it. -/
def Permitted (g : Game) : GameAction → Prop
  | .host (.packet c packet) => c ∈ g.entered ∨ packet.harmless = true
  | _ => True

instance (g : Game) : (a : GameAction) → Decidable (Permitted g a)
  | .host (.packet _ _) => inferInstanceAs (Decidable (_ ∨ _))
  | .host (.connect _ _ _) | .host (.die _) | .host (.disconnected _) | .host .beginUpdate
  | .host .process | .host .sweep | .host (.kick _) | .host .roomCode | .host (.own _)
  | .host .setupMatch | .host .switchTeamInMatch | .host (.login _) | .host .logout | .cleanup
  | .pingSnapshot | .own _ | .mute _ _ => .isTrue trivial

/-- **The condition of the law**: before the password a session sends nothing
but harmless packets, and nothing is broadcast while such a session is
connected. -/
def Guest (config : HostConfig) (g : Game) (a : Env × GameAction) : Prop :=
  Permitted g a.2 ∧ (Broadcasts config a.1 g a.2 → AllEntered g)

instance (config : HostConfig) (g : Game) (a : Env × GameAction) :
    Decidable (Guest config g a) :=
  inferInstanceAs (Decidable (_ ∧ (_ → _)))

variable {config : HostConfig} {env : Env} {s t : Host} {g g' : Game}

/-! ## Tags and leaves -/

/-- A session's tag is set by a packet of its own. -/
theorem onPacket_tagged {session a : Session} {packet : Packet}
    (ha : a ∈ (onPacket config env s session packet).sessions) (htag : a.tag ≠ none) :
    (∃ b ∈ s.sessions, b.id = a.id ∧ b.tag ≠ none) ∨
      (a.id = session.id ∧ (packet.forwarded config session).isSome = true ∧
        (packet.harmless = true → ∃ id name password, packet = .lobbyJoin id name password)) := by
  have hmodify : ∀ (u : Host) (f : Session → Session), (∀ b, (f b).id = b.id) →
      u.sessions = s.sessions → a ∈ (u.modifySession session.id f).sessions →
      (∃ b ∈ s.sessions, b.id = a.id ∧ b.tag ≠ none) ∨ a.id = session.id := by
    intro u f hf hu ha
    obtain ⟨b, hb, rfl⟩ := List.mem_map.mp ha
    rw [hu] at hb
    split_ifs at htag ⊢ with hid
    · exact .inr ((hf b).trans hid)
    · exact .inl ⟨b, hb, rfl, htag⟩
  cases packet with
  | nodeState netid state =>
      rcases hmodify _ (·.retag netid) (fun _ => rfl) rfl ha with hold | hid
      · exact .inl hold
      · exact .inr ⟨hid, rfl, fun h => by cases h⟩
  | lobbyJoin senderId playerName password =>
      unfold onPacket at ha
      dsimp only at ha
      split_ifs at ha with hwrong
      · exact .inl ⟨a, ha, rfl, htag⟩
      · rcases hmodify _ (·.acceptJoin senderId) (fun _ => rfl) rfl ha with hold | hid
        · exact .inl hold
        · refine .inr ⟨hid, ?_, fun _ => ⟨_, _, _, rfl⟩⟩
          rw [Packet.forwarded, if_neg hwrong]
          rfl
  | ping timestamp reportedPing =>
      unfold onPacket at ha
      dsimp only at ha
      split at ha
      · split_ifs at ha <;> exact .inl ⟨a, ha, rfl, htag⟩
      · exact .inl ⟨a, ha, rfl, htag⟩
  | _ => exact .inl ⟨a, ha, rfl, htag⟩

/-- What a step does to the tags: those of a packet's session, or none. -/
theorem step_tagged {a : Env × HostAction} (h : step config s a = some t) {session : Session}
    (hsession : session ∈ t.sessions) (htag : session.tag ≠ none) :
    (∃ b ∈ s.sessions, b.id = session.id ∧ b.tag ≠ none) ∨
      ∃ packet sender, a.2 = .packet session.id packet ∧ sender ∈ s.session? session.id ∧
        (packet.forwarded config sender).isSome = true ∧
        (packet.harmless = true → ∃ id name password, packet = .lobbyJoin id name password) := by
  obtain ⟨env, action⟩ := a
  have hperformed := step_performed h
  dsimp only at hperformed ⊢
  have hmap : ∀ {u : Host} (f : Session → Session),
      (∀ b, (f b).id = b.id ∧ ((f b).tag ≠ none → b.tag ≠ none)) →
      u.sessions = s.sessions.map f → session ∈ u.sessions →
      ∃ b ∈ s.sessions, b.id = session.id ∧ b.tag ≠ none := by
    intro u f hf hu hmem
    rw [hu] at hmem
    obtain ⟨b, hb, rfl⟩ := List.mem_map.mp hmem
    exact ⟨b, hb, (hf b).1.symm, (hf b).2 htag⟩
  have hkept : ∀ {u : Host}, u.sessions = s.sessions → session ∈ u.sessions →
      ∃ b ∈ s.sessions, b.id = session.id ∧ b.tag ≠ none :=
    fun hu hmem => ⟨session, hu ▸ hmem, rfl, htag⟩
  have hif : ∀ (c : ConnectionId) (f : Session → Session),
      (∀ b, (f b).id = b.id ∧ ((f b).tag ≠ none → b.tag ≠ none)) → ∀ b : Session,
      (if b.id = c then f b else b).id = b.id ∧
        ((if b.id = c then f b else b).tag ≠ none → b.tag ≠ none) := by
    intro c f hf b
    split_ifs
    · exact hf b
    · exact ⟨rfl, id⟩
  cases hperformed with
  | connect c adopted zdt =>
      obtain ⟨-, -, hsessions⟩ := @connect_eq config env { s with synced := false } c adopted zdt
      rw [hsessions] at hsession
      rcases List.mem_append.mp hsession with hold | hnew
      · exact .inl ⟨session, hold, rfl, htag⟩
      · rw [List.mem_singleton.mp hnew] at htag
        exact absurd rfl htag
  | packet c packet sender hsender =>
      have hid : sender.id = c := (mem_of_session? hsender).2
      rcases onPacket_tagged hsession htag with hold | ⟨hsame, hforwarded, hjoin⟩
      · exact .inl hold
      · refine .inr ⟨packet, sender, by rw [hsame, hid], ?_, hforwarded, hjoin⟩
        rw [hsame, hid]
        exact hsender
  | die c =>
      exact .inl (hmap _ (hif c (fun a => { a with alive := false }) fun _ => ⟨rfl, id⟩) rfl hsession)
  | disconnected c sender =>
      have hmarked := hif sender.id (fun a => { a with listed := false, alive := false })
        fun _ => ⟨rfl, id⟩
      obtain ⟨-, -, -, hsessions⟩ := @onPeerDisconnected_eq { s with synced := false } sender
      exact .inl (hmap _ hmarked hsessions hsession)
  | beginUpdate => exact .inl (hkept rfl hsession)
  | process queued rest =>
      exact .inl (hkept (@onPacketReceived_processed config env
        { s with synced := false, batch := rest } queued).sessions hsession)
  | sweep =>
      rw [sweepSessions_eq] at hsession
      refine .inl (hmap Session.sweep (fun b => ?_) rfl hsession)
      unfold Session.sweep
      split_ifs
      · exact ⟨rfl, fun hswept hnone => hswept (by rw [hnone]; rfl)⟩
      · exact ⟨rfl, id⟩
  | kick playerId =>
      unfold kickPlayer at hsession
      split at hsession <;> exact .inl (hkept rfl hsession)
  | _ => exact .inl (hkept rfl hsession)

/-- A leave is announced for a session that has a tag. -/
theorem step_leaves {a : Env × HostAction} (h : step config s a = some t)
    {announced : ConnectionId × UInt32} (hannounced : announced ∈ t.leaves) :
    announced ∈ s.leaves ∨ ∃ b ∈ s.sessions, b.id = announced.1 ∧ b.tag ≠ none := by
  obtain ⟨env, action⟩ := a
  have hperformed := step_performed h
  dsimp only at hperformed
  cases hperformed with
  | connect c adopted zdt =>
      refine .inl ?_
      unfold connect at hannounced
      dsimp only at hannounced
      split_ifs at hannounced <;> exact hannounced
  | packet c packet =>
      refine .inl ?_
      cases packet with
      | lobbyJoin senderId playerName password =>
          unfold onPacket at hannounced
          dsimp only at hannounced
          split_ifs at hannounced <;> exact hannounced
      | ping timestamp reportedPing =>
          unfold onPacket at hannounced
          dsimp only at hannounced
          split at hannounced
          · split_ifs at hannounced <;> exact hannounced
          · exact hannounced
      | _ => exact hannounced
  | disconnected c sender hsender =>
      unfold onPeerDisconnected at hannounced
      dsimp only at hannounced
      split at hannounced
      · rename_i id htag
        split_ifs at hannounced
        · rcases List.mem_append.mp hannounced with hold | hnew
          · exact .inl hold
          · rw [List.mem_singleton.mp hnew]
            exact .inr ⟨sender, (mem_of_session? hsender).1, rfl, by simp [htag]⟩
        · exact .inl hannounced
      · exact .inl hannounced
  | process queued rest =>
      rw [(@onPacketReceived_processed config env
        { s with synced := false, batch := rest } queued).leaves] at hannounced
      exact .inl hannounced
  | sweep =>
      rw [sweepSessions_eq] at hannounced
      rcases List.mem_append.mp hannounced with hold | hdead
      · exact .inl hold
      · obtain ⟨b, hb, hdead⟩ := List.mem_filterMap.mp hdead
        refine .inr ⟨b, hb, ?_⟩
        unfold Session.deadId at hdead
        split_ifs at hdead
        split at hdead
        · rename_i id htag
          split_ifs at hdead
          cases hdead
          exact ⟨rfl, by simp [htag]⟩
        · cases hdead
  | kick playerId =>
      unfold kickPlayer at hannounced
      split at hannounced <;> exact .inl hannounced
  | _ => exact .inl hannounced

/-! ## Recipients -/

/-- A session `sendToPlayer` reaches has a tag. -/
theorem tagged_of_sendToPlayer {id : UInt32} {c : ConnectionId} (h : c ∈ sendToPlayer s id) :
    ∃ b ∈ s.sessions, b.id = c ∧ b.tag ≠ none := by
  unfold sendToPlayer at h
  obtain ⟨b, hfound, rfl⟩ := Option.map_eq_some_iff.mp (Option.mem_toList.mp h)
  have hb := List.find?_some hfound
  simp only [Bool.decide_and, Bool.and_eq_true, decide_eq_true_eq] at hb
  exact ⟨b, List.mem_of_find?_eq_some hfound, rfl, by simp [hb.2]⟩

/-- Chat reaches a session because it is sent to everyone, or by its tag. -/
theorem relayChat_recipients {message : ChatMessage} {c : ConnectionId}
    (h : c ∈ relayChat s message) :
    message.channel = chatAll ∧ (∃ b ∈ s.sessions, b.id = c ∧ b.listed = true) ∨
      ∃ b ∈ s.sessions, b.id = c ∧ b.tag ≠ none := by
  unfold relayChat at h
  split_ifs at h with hall hteam hprivate hself
  · obtain ⟨b, hb, rfl⟩ := List.mem_map.mp h
    exact .inl ⟨hall, b, (List.mem_filter.mp hb).1, rfl, (List.mem_filter.mp hb).2⟩
  · split at h
    · cases h
    · obtain ⟨rp, -, hc⟩ := List.mem_flatMap.mp h
      exact .inr (tagged_of_sendToPlayer hc)
  · rcases List.mem_append.mp h with hc | hc
    · exact .inr (tagged_of_sendToPlayer hc)
    · exact .inr (tagged_of_sendToPlayer hc)
  · rw [List.append_nil] at h
    exact .inr (tagged_of_sendToPlayer h)
  · cases h

/-- A chat message as the host passes it on. -/
def ChatMessage.passedOn (roomPlayers : List RoomPlayerInfo) (message : ChatMessage) :
    ChatMessage :=
  { message with
    text := sanitizeText message.text
    senderName := ((roomPlayers.find? (·.id == message.senderId)).map (·.name)).getD [] }

/-- **What a chat message adds to the relays**: itself, if it passes every
check. -/
theorem receiveChat_relayed (origin : Option ConnectionId) (message : ChatMessage) :
    (receiveChat env s origin message).relayed = s.relayed ++
      if Accepted env s message then
        [⟨origin, message.passedOn s.roomPlayers, relayChat s message⟩]
      else [] := by
  obtain ⟨stamps, hstamps⟩ := allowChatRate_eq (s := s) env.clock message.senderId
  unfold receiveChat
  dsimp only
  rw [hstamps]
  split
  · rename_i hempty
    rw [if_neg fun haccepted => haccepted.1 hempty, List.append_nil]
  · rename_i hempty
    cases hsender : s.roomPlayers.find? (·.id == message.senderId) with
    | none =>
        rw [if_neg fun haccepted => ?_]
        · exact (List.append_nil _).symm
        · obtain ⟨rp, hrp, hid⟩ := List.any_eq_true.mp haccepted.2.1
          exact List.find?_eq_none.mp hsender rp hrp hid
    | some sender =>
        have hknown : s.roomPlayers.any (·.id == message.senderId) = true :=
          List.any_eq_true.mpr ⟨sender, List.mem_of_find?_eq_some hsender,
            by simpa using List.find?_some hsender⟩
        dsimp only
        by_cases haccepted : Accepted env s message
        · have hrate : (allowChatRate env.clock s message.senderId).2 ≠ false := by
            rw [haccepted.2.2.1]
            decide
          rw [if_neg hrate, if_neg fun hgone => hgone.2 (haccepted.2.2.2 hgone.1),
            if_pos haccepted]
          rw [ChatMessage.passedOn, hsender]
          rfl
        · rw [if_neg haccepted, List.append_nil]
          split_ifs with hrate htarget
          · rfl
          · rfl
          · refine absurd ⟨hempty, hknown, by simpa using hrate, fun hprivate => ?_⟩ haccepted
            by_contra hgone
            exact htarget ⟨hprivate, hgone⟩

theorem newRelays_receiveChat (origin : Option ConnectionId) (message : ChatMessage) :
    newRelays s (receiveChat env s origin message) =
      if Accepted env s message then
        [⟨origin, message.passedOn s.roomPlayers, relayChat s message⟩]
      else [] := by
  rw [newRelays, receiveChat_relayed, List.drop_left]

/-- What a chat message adds to the relays, if it passes every check. -/
theorem receiveChat_relays (origin : Option ConnectionId) (message : ChatMessage) :
    newRelays s (receiveChat env s origin message) = [] ∨
      ∃ relay, newRelays s (receiveChat env s origin message) = [relay] ∧
        relay.message.channel = message.channel ∧ Accepted env s message ∧
        relay.recipients = relayChat s relay.message := by
  rw [newRelays_receiveChat]
  split_ifs with haccepted
  · exact .inr ⟨_, rfl, rfl, haccepted, rfl⟩
  · exact .inl rfl

/-- Only a chat message is relayed. -/
theorem onPacketReceived_relayed {queued : Queued}
    (hpacket : ∀ message, queued.packet ≠ .chatMessage message) :
    (onPacketReceived config env s queued).relayed = s.relayed := by
  obtain ⟨packet, origin⟩ := queued
  cases packet with
  | chatMessage message => exact absurd rfl (hpacket message)
  | nodeLeave netid =>
      show (receiveLeave config env s netid).relayed = s.relayed
      unfold receiveLeave
      split_ifs <;> rfl
  | lobbyJoin senderId playerName password =>
      show (receiveJoin config env s senderId playerName).relayed = s.relayed
      unfold receiveJoin
      split_ifs <;> rfl
  | _ => rfl

/-- What any queued packet adds to the relays. -/
theorem onPacketReceived_relays (queued : Queued) :
    newRelays s (onPacketReceived config env s queued) = [] ∨
      ∃ message relay, queued.packet = .chatMessage message ∧
        newRelays s (onPacketReceived config env s queued) = [relay] ∧
        relay.message.channel = message.channel ∧ Accepted env s message ∧
        relay.recipients = relayChat s relay.message := by
  by_cases hpacket : ∃ message, queued.packet = .chatMessage message
  · obtain ⟨packet, origin⟩ := queued
    obtain ⟨message, rfl⟩ := hpacket
    rcases @receiveChat_relays env s origin message with hnone | ⟨relay, hrelay⟩
    · exact .inl hnone
    · exact .inr ⟨message, relay, rfl, hrelay⟩
  · refine .inl ?_
    rw [newRelays, onPacketReceived_relayed fun message h => hpacket ⟨message, h⟩,
      List.drop_length]

/-! ## The invariant -/

/-- The invariant: what waits comes from sessions that sent the password, but
for keep-alives, and so does every tag. -/
structure PasswordInv (g : Game) : Prop where
  waiting : ∀ queued ∈ g.host.waiting, ∀ c, queued.origin = some c →
    c ∈ g.entered ∨ queued.packet = .keepAlive
  tags : ∀ session ∈ g.host.sessions, session.tag ≠ none → session.id ∈ g.entered

/-- Entering is for good. -/
theorem entered_handOn (host : Host) (action : HostAction) :
    g.entered ⊆ (handOn config g host action).entered := by
  cases action with
  | process =>
      unfold handOn
      dsimp only
      split <;> exact fun c hc => hc
  | packet c packet =>
      unfold handOn onNetwork
      dsimp only
      split_ifs
      · exact List.subset_cons_self c g.entered
      · exact fun c hc => hc
  | kick playerId =>
      unfold handOn kicked
      dsimp only
      split_ifs <;> exact fun c hc => hc
  | _ => exact fun c hc => hc

/-- What is passed on without the password is a keep-alive, or the password. -/
theorem harmless_forwarded (hprivate : config.isPrivateServer = true) {session : Session}
    {packet forwarded : Packet} (hharmless : packet.harmless = true)
    (hforwarded : packet.forwarded config session = some forwarded) :
    forwarded = .keepAlive ∨ packet.opens config = true := by
  cases packet with
  | keepAlive =>
      cases hforwarded
      exact .inl rfl
  | lobbyJoin senderId playerName password =>
      unfold Packet.forwarded at hforwarded
      dsimp only at hforwarded
      split_ifs at hforwarded with hwrong
      rw [hprivate, not_and, not_not] at hwrong
      exact .inr (by simp [Packet.opens, hwrong rfl])
  | nodeState _ _ | playerFire _ | playerHit _ _ | playerKilled _ _ | toggleReady _
  | switchTeam _ _ | startMatch | chatMessage _ => cases hharmless
  | ping _ _ | voiceUplink _ | serverQueryReq | pong _ | nodeLeave _ | other => cases hforwarded

theorem entered_of_opens (host : Host) {c : ConnectionId} {packet : Packet}
    (h : packet.opens config = true) :
    c ∈ (handOn config g host (.packet c packet)).entered := by
  unfold handOn onNetwork
  dsimp only
  rw [if_pos h]
  exact List.mem_cons_self

/-- **What each permitted step keeps.** -/
theorem PasswordInv.step (hprivate : config.isPrivateServer = true) (h : PasswordInv g)
    {a : Env × HostAction} {host : Host} (hpermitted : Permitted g (.host a.2))
    (hstep : Lobby.step config g.host a = some host) :
    PasswordInv (handOn config g host a.2) := by
  have hentered := @entered_handOn config g host a.2
  have hhost := @handOn_host config g host a.2
  constructor
  · rw [hhost]
    intro queued hqueued c horigin
    have hold : queued ∈ g.host.waiting →
        c ∈ (handOn config g host a.2).entered ∨ queued.packet = .keepAlive :=
      fun hmem => (h.waiting queued hmem c horigin).imp_left fun hc => hentered hc
    cases step_effect hstep with
    | processed first rest action batch waiting room started =>
        refine hold ?_
        rw [waiting] at hqueued
        rw [Host.waiting, batch]
        exact List.mem_cons_of_mem _ hqueued
    | kicked playerId action waiting room started =>
        exact hold (waiting ▸ hqueued)
    | arrived quiet waiting room started =>
        rw [waiting] at hqueued
        rcases List.mem_append.mp hqueued with hmem | hnew
        · exact hold hmem
        · obtain ⟨env, action⟩ := a
          dsimp only at hnew
          cases arrival_of_mem hnew with
          | forwarded d packet session forwarded hsession hforwarded =>
              obtain rfl := Option.some.inj horigin
              rcases hpermitted with hc | hharmless
              · exact .inl (hentered hc)
              · rcases harmless_forwarded hprivate hharmless hforwarded with hkeep | hopens
                · exact .inr hkeep
                · exact .inl (entered_of_opens host hopens)
          | leave _ id => cases horigin
          | own call packet => cases horigin
          | switched teamId => cases horigin
  · rw [hhost]
    intro session hsession htag
    rcases step_tagged hstep hsession htag with ⟨b, hb, hid, hbtag⟩ |
      ⟨packet, sender, haction, hsender, hforwarded, hjoin⟩
    · exact hentered (hid ▸ h.tags b hb hbtag)
    · obtain ⟨env, action⟩ := a
      dsimp only at haction
      subst haction
      rcases hpermitted with hc | hharmless
      · exact hentered hc
      · obtain ⟨id, name, password, rfl⟩ := hjoin hharmless
        obtain ⟨forwarded, hforwarded⟩ := Option.isSome_iff_exists.mp hforwarded
        rcases harmless_forwarded hprivate hharmless hforwarded with hkeep | hopens
        · subst hkeep
          unfold Packet.forwarded at hforwarded
          dsimp only at hforwarded
          split_ifs at hforwarded
          cases hforwarded
        · exact entered_of_opens host hopens

/-! ## The law of one step -/

theorem entered_of_listed (hall : AllEntered g) {c : ConnectionId}
    (hc : c ∈ broadcastAll g.host) : c ∈ g.entered := by
  obtain ⟨session, hsession, rfl⟩ := List.mem_map.mp hc
  obtain ⟨hmem, hlisted⟩ := List.mem_filter.mp hsession
  exact hall session hmem hlisted

/-- The rate check looks at the stamps alone. -/
theorem allowChatRate_congr (clock : ℚ) (id : UInt32) (h : s.chatRateStamps = t.chatRateStamps) :
    (allowChatRate clock s id).2 = (allowChatRate clock t id).2 := by
  unfold allowChatRate
  rw [h]
  dsimp only
  split_ifs <;> rfl

/-- What the main thread broadcasts goes to sessions that sent the password. -/
theorem processed_outside (h : PasswordInv g) {queued : Queued} {rest : List Queued}
    (hbatch : g.host.batch = queued :: rest)
    (hbroadcasts : Broadcasts config env g (.host .process) → AllEntered g) :
    let host := onPacketReceived config env { g.host with synced := false, batch := rest } queued
    ∀ cast ∈ (processed config g host queued.packet).casts,
      cast ∈ g.casts ∨ ∀ c ∈ cast.recipients, c ∈ g.entered := by
  intro host cast hcast
  rcases List.mem_append.mp hcast with hcast | hrelayed
  · rcases List.mem_append.mp hcast with hold | hlobby
    · exact .inl hold
    · split_ifs at hlobby with hsent
      · refine .inr ?_
        rw [List.mem_singleton.mp hlobby]
        have hall := hbroadcasts ⟨queued, by rw [hbatch]; rfl, .inl hsent⟩
        exact fun c hc => entered_of_listed hall hc
      · cases hlobby
  · refine .inr fun c hc => ?_
    rcases @onPacketReceived_relays config env { g.host with synced := false, batch := rest }
        queued with hnone | ⟨message, relay, hpacket, hrelay, hchannel, haccepted, hrecipients⟩
    · have hempty : newRelays g.host host = [] := hnone
      rw [hempty] at hrelayed
      cases hrelayed
    · have hone : newRelays g.host host = [relay] := hrelay
      rw [hone] at hrelayed
      obtain rfl := List.mem_singleton.mp hrelayed
      dsimp only at hc
      rw [hrecipients] at hc
      rcases relayChat_recipients hc with ⟨hall, b, hb, rfl, hlisted⟩ | ⟨b, hb, rfl, htag⟩
      · have hspeaks : SpeaksToAll env g.host queued.packet := by
          rw [hpacket]
          obtain ⟨htext, hsender, hrate, htarget⟩ := haccepted
          refine ⟨hchannel ▸ hall, htext, hsender, ?_, htarget⟩
          rw [← hrate]
          exact allowChatRate_congr env.clock message.senderId rfl
        exact hbroadcasts ⟨queued, by rw [hbatch]; rfl, .inr hspeaks⟩ b hb hlisted
      · exact h.tags b hb htag

/-- An action that is no packet, neither arriving nor processed. -/
theorem Locked.quiet {a : GameAction} (harrives : ∀ c packet, a ≠ .host (.packet c packet))
    (hprocess : a ≠ .host .process)
    (hleaves : ∀ announced ∈ g'.host.leaves,
      announced ∈ g.host.leaves ∨ announced.1 ∈ g.entered)
    (houtside : ∀ cast ∈ g'.casts, cast ∈ g.casts ∨ ∀ c ∈ cast.recipients, c ∈ g.entered) :
    Locked g a g' where
  arrives c packet haction := absurd haction (harrives c packet)
  processed _ _ _ haction := absurd haction hprocess
  leaves := hleaves
  outside := houtside

/-- A keep-alive moves nothing. -/
theorem unmoved_keepAlive {rest : List Queued} {origin : Option ConnectionId} :
    Unmoved g (processed config g
      (onPacketReceived config env { g.host with synced := false, batch := rest }
        ⟨.keepAlive, origin⟩) .keepAlive) := by
  have hnone : newRelays g.host
      (onPacketReceived config env { g.host with synced := false, batch := rest }
        ⟨.keepAlive, origin⟩) = [] := List.drop_length
  refine ⟨rfl, rfl, rfl, ?_, ?_⟩
  · unfold processed
    dsimp only
    rw [hnone]
    rfl
  · show g.callbacks ++ ((if g.registries.callbacks then [] else []) ++ [] ++ []) = _
    split_ifs <;> simp

/-- What a packet off the network does under the condition. -/
theorem locked_arrival {c : ConnectionId} {packet : Packet} {host : Host}
    (hbroadcasts : packet.rebroadcast.isSome = true → AllEntered g)
    (hstep : Lobby.step config g.host (env, .packet c packet) = some host)
    (hleaves : ∀ announced ∈ host.leaves, announced ∈ g.host.leaves ∨ announced.1 ∈ g.entered) :
    Locked g (.host (.packet c packet)) (onNetwork config g host c packet) where
  arrives _ _ _ := by
    cases step_effect hstep with
    | processed first rest action batch waiting room started => cases action
    | kicked playerId action waiting room started => cases action
    | arrived quiet waiting room started => exact ⟨room, started, rfl, rfl, rfl⟩
  processed _ _ _ haction := by cases haction
  leaves := hleaves
  outside cast hcast := by
    rcases List.mem_append.mp hcast with hold | hnew
    · exact .inl hold
    · cases hkind : packet.rebroadcast with
      | none =>
          rw [hkind] at hnew
          cases hnew
      | some kind =>
          rw [hkind] at hnew
          obtain rfl := List.mem_singleton.mp hnew
          refine .inr fun d hd => ?_
          obtain ⟨session, hsession, rfl⟩ := List.mem_map.mp hd
          obtain ⟨hmem, hlisted⟩ := List.mem_filter.mp hsession
          simp only [Bool.decide_and, Bool.and_eq_true, decide_eq_true_eq] at hlisted
          exact hbroadcasts (by rw [hkind]; rfl) session hmem hlisted.1

/-- What a packet off the queue does under the condition. -/
theorem PasswordInv.processes (h : PasswordInv g) {host : Host}
    (hbroadcasts : Broadcasts config env g (.host .process) → AllEntered g)
    (hstep : Lobby.step config g.host (env, .process) = some host)
    (hleaves : ∀ announced ∈ host.leaves, announced ∈ g.host.leaves ∨ announced.1 ∈ g.entered) :
    Locked g (.host .process) (handOn config g host .process) := by
  obtain ⟨queued, rest, hfirst, -⟩ := process_performed hstep
  obtain ⟨hafter, hprocessed⟩ := handOn_process hfirst hstep
  rw [hprocessed]
  refine ⟨fun c packet haction => (by cases haction), ?_, hleaves, ?_⟩
  · intro first others c _ hcons horigin hout
    rw [hfirst] at hcons
    obtain ⟨rfl, rfl⟩ := List.cons.inj hcons
    obtain ⟨packet, origin⟩ := queued
    have hwaits : (⟨packet, origin⟩ : Queued) ∈ g.host.waiting := by
      rw [Host.waiting, hfirst]
      exact List.mem_cons_self
    rcases h.waiting _ hwaits c horigin with hc | hkeep
    · exact absurd hc hout
    · obtain rfl : packet = .keepAlive := hkeep
      rw [hafter]
      exact unmoved_keepAlive
  · rw [hafter]
    exact processed_outside h hfirst hbroadcasts

/-- **The law of one step**: with the invariant, a step under the condition. -/
theorem PasswordInv.locked (h : PasswordInv g) {a : Env × GameAction} (hguest : Guest config g a)
    (hstep : gameStep config g a = some g') : Locked g a.2 g' := by
  obtain ⟨env, action⟩ := a
  obtain ⟨hpermitted, hbroadcasts⟩ := hguest
  dsimp only at hpermitted hbroadcasts ⊢
  have hsame : ∀ {u : Game}, u.casts = g.casts → ∀ cast ∈ u.casts,
      cast ∈ g.casts ∨ ∀ c ∈ cast.recipients, c ∈ g.entered := by
    intro u hu cast hcast
    exact .inl (hu ▸ hcast)
  have hsent : ∀ {u : Game} {kind : CastKind}, AllEntered g →
      u.casts = g.casts ++ [⟨kind, broadcastAll g.host⟩] → ∀ cast ∈ u.casts,
      cast ∈ g.casts ∨ ∀ c ∈ cast.recipients, c ∈ g.entered := by
    intro u kind hall hu cast hcast
    rw [hu] at hcast
    rcases List.mem_append.mp hcast with hold | hnew
    · exact .inl hold
    · rw [List.mem_singleton.mp hnew]
      exact .inr fun c hc => entered_of_listed hall hc
  rcases gameStep_host hstep with ⟨hostAction, haction, hhost, hg'⟩ | ⟨hother, hhost⟩
  · dsimp only at haction
    subst haction
    have hleaves : ∀ announced ∈ g'.host.leaves,
        announced ∈ g.host.leaves ∨ announced.1 ∈ g.entered := by
      intro announced hannounced
      rcases step_leaves hhost hannounced with hold | ⟨b, hb, hid, htag⟩
      · exact .inl hold
      · exact .inr (hid ▸ h.tags b hb htag)
    cases hostAction with
    | packet c packet =>
        rw [hg']
        exact locked_arrival hbroadcasts hhost hleaves
    | process =>
        rw [hg']
        exact h.processes hbroadcasts hhost hleaves
    | kick playerId =>
        refine Locked.quiet (by simp) (by simp) hleaves ?_
        rw [hg']
        unfold handOn kicked
        dsimp only
        split_ifs with hmember
        · exact hsent (hbroadcasts hmember) rfl
        · exact hsame rfl
    | roomCode =>
        refine Locked.quiet (by simp) (by simp) hleaves ?_
        rw [hg']
        exact hsent (hbroadcasts trivial) rfl
    | _ =>
        refine Locked.quiet (by simp) (by simp) hleaves ?_
        rw [hg']
        exact hsame rfl
  · have hleaves : ∀ announced ∈ g'.host.leaves,
        announced ∈ g.host.leaves ∨ announced.1 ∈ g.entered :=
      fun announced hannounced => .inl (hhost ▸ hannounced)
    refine Locked.quiet (fun c packet => hother _) (hother _) hleaves ?_
    cases action with
    | host hostAction => exact absurd rfl (hother hostAction)
    | cleanup =>
        cases hstep
        exact hsame rfl
    | pingSnapshot =>
        cases hstep
        exact hsent (hbroadcasts trivial) rfl
    | own event =>
        cases hstep
        exact hsent (hbroadcasts trivial) rfl
    | mute playerId muted =>
        cases hstep
        exact hsame rfl

/-- Every step keeps the invariant, whatever the game does on it. -/
theorem PasswordInv.gameStep (hprivate : config.isPrivateServer = true) (h : PasswordInv g)
    {a : Env × GameAction} (hguest : Guest config g a)
    (hstep : Lobby.gameStep config g a = some g') : PasswordInv g' := by
  rcases gameStep_host hstep with ⟨action, haction, hhost, hg'⟩ | ⟨hother, hhost⟩
  · obtain ⟨env, gameAction⟩ := a
    dsimp only at haction hhost
    subst haction
    rw [hg']
    exact h.step hprivate (a := (env, action)) hguest.1 hhost
  · obtain ⟨-, hentered⟩ := gameStep_other hother hstep
    constructor
    · rw [hhost, hentered]
      exact h.waiting
    · rw [hhost, hentered]
      exact h.tags

/-- **The password gates everything**, in every run whose steps meet the
condition. -/
theorem password_gates {config : HostConfig} {env : Env} {g g' : Game} {a : Env × GameAction}
    (hprivate : config.isPrivateServer = true)
    (h : Exec.ReachedAlong (gameStep config) (Guest config) (startGame config env) g)
    (hguest : Guest config g a) (hstep : gameStep config g a = some g') :
    Locked g a.2 g' := by
  have hinv : PasswordInv g := by
    refine h.invariant PasswordInv ?_ fun g a g' hinv hguest hstep =>
      hinv.gameStep hprivate hguest hstep
    have hempty : ∀ {u : Host}, u = start config env → u.waiting = [] ∧ u.sessions = [] := by
      rintro u rfl
      unfold start
      split_ifs <;> exact ⟨rfl, rfl⟩
    obtain ⟨hwaiting, hsessions⟩ := @hempty (startGame config env).host rfl
    constructor
    · intro queued hqueued
      rw [hwaiting] at hqueued
      cases hqueued
    · intro session hsession
      rw [hsessions] at hsession
      cases hsession
  exact hinv.locked hguest hstep

/-- A private lobby whose password is the byte `1`. -/
def privateLobby : HostConfig :=
  { localNodeId := 100, isPrivateServer := true, serverPassword := [1] }

/-- A session is refused once, sends the password, and joins. -/
theorem password_gates_a_join :
    ∃ g g' : Game, Locked g (.host .process) g' ∧ g'.host.roomPlayers.map (·.id) = [100, 5] ∧
      g'.entered = [11] := by
  let run : List (Env × GameAction) :=
    [({}, .host (.own .hostLobby)), ({}, .host .beginUpdate), ({}, .host .process),
      ({}, .host (.connect 11 true true)), ({}, .host (.packet 11 (.lobbyJoin 5 [65] []))),
      ({}, .host (.packet 11 (.lobbyJoin 5 [65] [1]))), ({}, .host .beginUpdate)]
  obtain ⟨g, hg, hout⟩ : ∃ g, Exec.exec (gameStep privateLobby) (startGame privateLobby {}) run =
      some g ∧ decide (Guest privateLobby g ({}, .host .process) ∧
        ∃ g' ∈ gameStep privateLobby g ({}, .host .process),
          g'.host.roomPlayers.map (·.id) = [100, 5] ∧ g'.entered = [11]) = true :=
    Exec.exec_any (by decide +kernel)
  have halong : Exec.Along (gameStep privateLobby) (Guest privateLobby)
      (startGame privateLobby {}) run := by decide +kernel
  obtain ⟨hguest, g', hstep, hroom⟩ := of_decide_eq_true hout
  exact ⟨g, g', password_gates rfl ⟨run, hg, halong⟩ hguest hstep, hroom⟩

/-- **The password gates nothing but the join.**  A session that has sent
nothing else starts the match. -/
theorem password_gates_nothing :
    ¬ ∀ (config : HostConfig) (env : Env) (g g' : Game) (a : Env × GameAction),
      config.isPrivateServer = true → config.serverPassword ≠ [] →
      Exec.Reached (gameStep config) (startGame config env) g →
      gameStep config g a = some g' → Locked g a.2 g' := by
  let run : List (Env × GameAction) :=
    [({}, .host (.connect 11 true true)), ({}, .host (.packet 11 .startMatch)),
      ({}, .host .beginUpdate)]
  obtain ⟨g, hg, hout⟩ : ∃ g, Exec.exec (gameStep privateLobby) (startGame privateLobby {}) run =
      some g ∧ decide (g.entered = [] ∧ g.host.matchInProgress = false ∧
        (∃ queued ∈ g.host.batch.head?, queued.origin = some 11) ∧
        ∃ g' ∈ gameStep privateLobby g ({}, .host .process),
          g'.host.matchInProgress = true) = true :=
    Exec.exec_any (by decide +kernel)
  obtain ⟨hentered, hidle, ⟨queued, hqueued, horigin⟩, g', hstep, hstarted⟩ :=
    of_decide_eq_true hout
  obtain ⟨rest, hbatch⟩ := List.head?_eq_some_iff.mp hqueued
  intro hlaw
  have hlocked := hlaw privateLobby {} g g' ({}, .host .process) rfl (by decide) ⟨run, hg⟩ hstep
  have hsame := (hlocked.processed queued rest 11 rfl hbatch horigin
    (by rw [hentered]; exact List.not_mem_nil)).started
  rw [hstarted, hidle] at hsame
  cases hsame

/-- A session that has only connected receives the ping snapshot. -/
example : ∃ g ∈ Exec.exec (gameStep privateLobby) (startGame privateLobby {})
    [({}, .host (.connect 11 true true)), ({}, .pingSnapshot)],
    g.casts = [⟨.pingSnapshot, [11]⟩] ∧ g.entered = [] := by
  decide +kernel

end Lobby
