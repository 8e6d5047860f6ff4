import Mathlib.Data.List.Find
import GipMultiplayer.LobbyHost

/-!
# Session identity

Whose name a session speaks under.  The tag of a session is written by an
accepted join, and again by every `NodeStatePacket` and every further join,
whatever they say; a session without a tag may even chat under the id it
claims.  So a session can take another player's id over
(`session_identity_taken`).

While no packet rewrites a tag, chat, voice, reported pings and announced
leaves all follow the player who joined on the session.

* `Identity` — the law;
* `Honest` — the actions that rewrite no tag;
* `Inv.step` — what each action keeps;
* `session_identity` — the law in every run of such actions.
-/

namespace Lobby

open Voice (ConnectionId)

/-! ## The law -/

/-- Session `c` has joined as player `x`. -/
def Joined (host : Host) (c : ConnectionId) (x : UInt32) : Prop :=
  ∃ session ∈ host.sessions, session.id = c ∧ session.joined = some x

/-- The team of a player in the room, `0` when there is no such player. -/
def teamOf (roomPlayers : List RoomPlayerInfo) (x : UInt32) : UInt8 :=
  ((roomPlayers.find? (·.id == x)).map (·.team)).getD 0

/-- **Session identity.**  Everything the host does for a session it does for
the player who joined on it. -/
structure Identity (config : HostConfig) (host : Host) : Prop where
  chat : ∀ relay ∈ host.relayed, ∀ c, relay.origin = some c →
    Joined host c relay.message.senderId
  tag : ∀ session ∈ host.sessions, session.alive = true → ∀ x, session.joined = some x →
    session.tag = some x
  silent : ∀ session ∈ host.sessions, session.joined = none →
    ∀ relay ∈ host.relayed, relay.origin ≠ some session.id
  distinct : ∀ a ∈ host.sessions, ∀ b ∈ host.sessions, a.alive = true → b.alive = true →
    ∀ x, x ≠ 0 → a.tag = some x → b.tag = some x → a = b
  voice : ∀ session ∈ host.sessions, session.alive = true → ∀ x, x ≠ 0 →
    session.joined = some x →
    sessionPeerState config host.roomPlayers session =
      peerState config x (teamOf host.roomPlayers x)
  unvoiced : ∀ session ∈ host.sessions, session.alive = true → session.joined = none →
    Voice.isValidPeerState (sessionPeerState config host.roomPlayers session) = false
  ping : ∀ report ∈ host.pings, Joined host report.1 report.2
  leave : ∀ announced ∈ host.leaves, Joined host announced.1 announced.2

/-! ## The condition -/

/-- The player a join packet asks for. -/
def joinId : Packet → Option UInt32
  | .lobbyJoin senderId _ _ => some senderId
  | _ => none

/-- The ids of the room and of the joins still in the queue. -/
def claimedIds (host : Host) : List UInt32 :=
  host.roomPlayers.map (·.id) ++
    (host.batch ++ host.packetQueue).filterMap fun queued => joinId queued.packet

/-- The join comes on a session that has its id already, or on one without a
tag when no other live session has the id. -/
def FreeToJoin (host : Host) (session : Session) (x : UInt32) : Prop :=
  session.tag = some x ∨
    (session.tag = none ∧
      (x ≠ 0 → ∀ other ∈ host.sessions, other.alive = true → other.tag ≠ some x))

instance (host : Host) (session : Session) (x : UInt32) :
    Decidable (FreeToJoin host session x) :=
  inferInstanceAs (Decidable (_ ∨ _))

/-- No live session other than `c` has a connection id that reads as the
player id. -/
def Apart (host : Host) (c : Option ConnectionId) (x : UInt32) : Prop :=
  ∀ other ∈ host.sessions, other.alive = true → other.id.toUInt32 = x → some other.id = c

instance (host : Host) (c : Option ConnectionId) (x : UInt32) : Decidable (Apart host c x) :=
  inferInstanceAs (Decidable (∀ other ∈ host.sessions, _ → _ → _))

/-- What a packet may do to the tag of its session. -/
def HonestPacket (config : HostConfig) (host : Host) (session : Session) : Packet → Prop
  | .nodeState netid _ => session.tag = some netid
  | .lobbyJoin senderId _ password =>
      config.isPrivateServer = true ∧ config.serverPassword ≠ password ∨
        FreeToJoin host session senderId ∧ Apart host (some session.id) senderId
  | .chatMessage _ => session.tag ≠ none
  | _ => True

instance (config : HostConfig) (host : Host) (session : Session) :
    (packet : Packet) → Decidable (HonestPacket config host session packet)
  | .nodeState _ _ => inferInstanceAs (Decidable (_ = _))
  | .lobbyJoin _ _ _ => inferInstanceAs (Decidable (_ ∨ _))
  | .chatMessage _ => inferInstanceAs (Decidable (_ ≠ _))
  | .nodeLeave _ | .playerFire _ | .playerHit _ _ | .playerKilled _ _ | .serverQueryReq
  | .toggleReady _ | .switchTeam _ _ | .startMatch | .keepAlive | .ping _ _ | .pong _
  | .voiceUplink _ | .other => .isTrue trivial

/-- The condition of the law: a `NodeStatePacket` repeats the tag of its
session, an accepted join comes on a session free to take the id, only tagged
sessions chat, and connection ids and player ids do not run into each other. -/
def Honest (config : HostConfig) (host : Host) : HostAction → Prop
  | .packet c packet => ∀ session ∈ host.session? c, session.alive = true →
      HonestPacket config host session packet
  | .connect c _ _ => c.toUInt32 ∉ claimedIds host
  | .own .hostLobby => Apart host none config.localNodeId
  | _ => True

instance (config : HostConfig) (host : Host) :
    (a : HostAction) → Decidable (Honest config host a)
  | .packet c _ => inferInstanceAs (Decidable (∀ session ∈ host.session? c, _ → _))
  | .connect _ _ _ => inferInstanceAs (Decidable (¬ _))
  | .own .hostLobby => inferInstanceAs (Decidable (Apart _ _ _))
  | .own .toggleReady | .own (.switchTeam _) | .own .startMatch | .own (.chat _ _ _)
  | .die _ | .disconnected _ | .beginUpdate | .process | .sweep | .kick _ | .roomCode
  | .setupMatch | .switchTeamInMatch | .login _ | .logout => .isTrue trivial

/-! ## The invariant -/

/-- **The invariant of session identity.** -/
structure Inv (host : Host) : Prop where
  ids : (host.sessions.map (·.id)).Nodup
  tagged : ∀ session ∈ host.sessions, session.tag = session.joined ∨
    (session.alive = false ∧ session.tag = some 0)
  distinct : ∀ a ∈ host.sessions, ∀ b ∈ host.sessions, a.alive = true → b.alive = true →
    ∀ x, x ≠ 0 → a.tag = some x → b.tag = some x → a.id = b.id
  apart : ∀ x ∈ claimedIds host, ∀ session ∈ host.sessions, session.alive = true →
    session.id.toUInt32 = x → session.joined = some x
  chats : ∀ queued ∈ host.batch ++ host.packetQueue, ∀ message c,
    queued.packet = .chatMessage message → queued.origin = some c →
    Joined host c message.senderId
  relays : ∀ relay ∈ host.relayed, ∀ c, relay.origin = some c →
    Joined host c relay.message.senderId
  pings : ∀ report ∈ host.pings, Joined host report.1 report.2
  leaves : ∀ announced ∈ host.leaves, Joined host announced.1 announced.2

variable {config : HostConfig} {env : Env} {s t : Host}

theorem mem_claimedIds {x : UInt32} :
    x ∈ claimedIds s ↔ (∃ rp ∈ s.roomPlayers, rp.id = x) ∨
      ∃ queued ∈ s.batch ++ s.packetQueue, joinId queued.packet = some x := by
  simp only [claimedIds, List.mem_append, List.mem_map, List.mem_filterMap]

theorem eq_of_id (h : Inv s) {a b : Session} (ha : a ∈ s.sessions) (hb : b ∈ s.sessions)
    (hid : a.id = b.id) : a = b :=
  List.inj_on_of_nodup_map h.ids ha hb hid

/-- A live session's tag is the player who joined on it. -/
theorem Inv.tag_eq (h : Inv s) {session : Session} (hsession : session ∈ s.sessions)
    (halive : session.alive = true) : session.tag = session.joined := by
  rcases h.tagged session hsession with htag | ⟨hdead, -⟩
  · exact htag
  · rw [halive] at hdead
    cases hdead

theorem mem_of_session? {c : ConnectionId} {session : Session}
    (h : s.session? c = some session) : session ∈ s.sessions ∧ session.id = c :=
  ⟨List.mem_of_find?_eq_some h, by simpa using List.find?_some h⟩

/-- Nothing but sessions, queue, room and records matters. -/
theorem Inv.of_eq (h : Inv s) (hsessions : t.sessions = s.sessions)
    (hqueue : t.batch ++ t.packetQueue = s.batch ++ s.packetQueue)
    (hroom : ∀ rp ∈ t.roomPlayers, rp.id ∈ claimedIds s) (hrelayed : t.relayed = s.relayed)
    (hpings : t.pings = s.pings) (hleaves : t.leaves = s.leaves) : Inv t := by
  have hjoined : ∀ c x, Joined t c x ↔ Joined s c x := fun c x => by
    rw [Joined, Joined, hsessions]
  refine ⟨?_, ?_, ?_, ?_, ?_, ?_, ?_, ?_⟩
  · rw [hsessions]
    exact h.ids
  · rw [hsessions]
    exact h.tagged
  · rw [hsessions]
    exact h.distinct
  · intro x hx
    rw [hsessions]
    rw [mem_claimedIds, hqueue] at hx
    refine h.apart x ?_
    rcases hx with ⟨rp, hrp, rfl⟩ | hx
    · exact hroom rp hrp
    · exact mem_claimedIds.mpr (.inr hx)
  · rw [hqueue]
    exact fun queued hq message c hpacket horigin =>
      (hjoined _ _).mpr (h.chats queued hq message c hpacket horigin)
  · rw [hrelayed]
    exact fun relay hrelay c horigin => (hjoined _ _).mpr (h.relays relay hrelay c horigin)
  · rw [hpings]
    exact fun report hreport => (hjoined _ _).mpr (h.pings report hreport)
  · rw [hleaves]
    exact fun announced ha => (hjoined _ _).mpr (h.leaves announced ha)

theorem room_claimed (rp : RoomPlayerInfo) (hrp : rp ∈ s.roomPlayers) : rp.id ∈ claimedIds s :=
  mem_claimedIds.mpr (.inl ⟨rp, hrp, rfl⟩)

/-- Publishing voice membership touches no identity. -/
theorem Inv.sync (h : Inv s) : Inv (s.sync config env) :=
  h.of_eq rfl rfl room_claimed rfl rfl rfl

/-- A packet is queued. -/
theorem Inv.enqueuePacket (h : Inv s) {packet : Packet} {origin : Option ConnectionId}
    (hchat : ∀ message c, packet = .chatMessage message → origin = some c →
      Joined s c message.senderId)
    (hjoin : ∀ x, joinId packet = some x → ∀ session ∈ s.sessions, session.alive = true →
      session.id.toUInt32 = x → session.joined = some x) :
    Inv (s.enqueuePacket packet origin) := by
  have hqueue : (s.enqueuePacket packet origin).batch ++
      (s.enqueuePacket packet origin).packetQueue =
        (s.batch ++ s.packetQueue) ++ [⟨packet, origin⟩] := (List.append_assoc ..).symm
  refine ⟨h.ids, h.tagged, h.distinct, fun x hx => ?_, ?_, h.relays, h.pings, h.leaves⟩
  · rw [mem_claimedIds, hqueue] at hx
    rcases hx with hroom | ⟨queued, hq, hx⟩
    · exact h.apart x (mem_claimedIds.mpr (.inl hroom))
    · rcases List.mem_append.mp hq with hq | hq
      · exact h.apart x (mem_claimedIds.mpr (.inr ⟨queued, hq, hx⟩))
      · rw [List.mem_singleton.mp hq] at hx
        exact hjoin x hx
  · rw [hqueue]
    intro queued hq message c hpacket horigin
    rcases List.mem_append.mp hq with hq | hq
    · exact h.chats queued hq message c hpacket horigin
    · rw [List.mem_singleton.mp hq] at hpacket horigin
      exact hchat message c hpacket horigin

/-- A packet that is neither chat nor a join is queued. -/
theorem Inv.enqueueOther (h : Inv s) {packet : Packet} {origin : Option ConnectionId}
    (hchat : ∀ message, packet ≠ .chatMessage message) (hjoin : joinId packet = none) :
    Inv (s.enqueuePacket packet origin) :=
  h.enqueuePacket (fun message _ hpacket => absurd hpacket (hchat message))
    (fun x hx => by simp [hjoin] at hx)

/-- Sessions change, keeping who they are and who joined on them. -/
theorem Inv.mapSessions (h : Inv s) {f : Session → Session} (hid : ∀ a, (f a).id = a.id)
    (hjoined : ∀ a ∈ s.sessions, ∀ x, a.joined = some x → (f a).joined = some x)
    (halive : ∀ a, (f a).alive = true → a.alive = true)
    (htagged : ∀ a ∈ s.sessions, (f a).tag = (f a).joined ∨
      ((f a).alive = false ∧ (f a).tag = some 0))
    (hdistinct : ∀ a ∈ s.sessions, ∀ b ∈ s.sessions, (f a).alive = true →
      (f b).alive = true → ∀ x, x ≠ 0 → (f a).tag = some x → (f b).tag = some x →
      a.id = b.id) :
    Inv { s with sessions := s.sessions.map f } := by
  have hkeep : ∀ c x, Joined s c x → Joined { s with sessions := s.sessions.map f } c x := by
    rintro c x ⟨a, ha, hc, hx⟩
    exact ⟨f a, List.mem_map_of_mem ha, (hid a).trans hc, hjoined a ha x hx⟩
  refine ⟨?_, ?_, ?_, fun x hx => ?_, ?_, ?_, ?_, ?_⟩
  · simpa only [List.map_map, Function.comp_def, hid] using h.ids
  · simpa only [List.forall_mem_map] using htagged
  · simp only [List.forall_mem_map]
    intro a ha b hb haa hbb x hx hta htb
    rw [hid, hid]
    exact hdistinct a ha b hb haa hbb x hx hta htb
  · simp only [List.forall_mem_map]
    intro a ha haa hx'
    rw [hid] at hx'
    exact hjoined a ha x (h.apart x hx a ha (halive a haa) hx')
  · exact fun queued hq message c hpacket horigin =>
      hkeep _ _ (h.chats queued hq message c hpacket horigin)
  · exact fun relay hrelay c horigin => hkeep _ _ (h.relays relay hrelay c horigin)
  · exact fun report hreport => hkeep _ _ (h.pings report hreport)
  · exact fun announced ha => hkeep _ _ (h.leaves announced ha)

/-! ## Steps of the network thread -/

/-- A new session has no tag and takes no one's place. -/
theorem Inv.connect (h : Inv s) {c : ConnectionId} (hfresh : s.session? c = none)
    (hclaimed : c.toUInt32 ∉ claimedIds s) (adopted zdt : Bool) :
    Inv (connect config env s c adopted zdt) := by
  have hnew : ∀ session ∈ s.sessions, session.id ≠ c := by
    simpa [Host.session?, List.find?_eq_none] using hfresh
  have hkeep : ∀ d x, Joined s d x → Joined { s with
      sessions := s.sessions ++ [{ id := c, adopted := adopted, listed := adopted }] } d x :=
    fun d x ⟨a, ha, hd, hx⟩ => ⟨a, List.mem_append_left _ ha, hd, hx⟩
  have happended : Inv { s with
      sessions := s.sessions ++ [{ id := c, adopted := adopted, listed := adopted }] } := by
    refine ⟨?_, ?_, ?_, fun x hx => ?_, ?_, ?_, ?_, ?_⟩
    · rw [List.map_append, List.map_singleton]
      refine h.ids.append (List.nodup_singleton _) ?_
      simpa using fun session hsession => hnew session hsession
    · intro session hsession
      rcases List.mem_append.mp hsession with hsession | hsession
      · exact h.tagged session hsession
      · rw [List.mem_singleton.mp hsession]
        exact .inl rfl
    · intro a ha b hb haa hbb x hx hta htb
      rcases List.mem_append.mp ha with ha | ha
      · rcases List.mem_append.mp hb with hb | hb
        · exact h.distinct a ha b hb haa hbb x hx hta htb
        · rw [List.mem_singleton.mp hb] at htb
          cases htb
      · rw [List.mem_singleton.mp ha] at hta
        cases hta
    · intro session hsession halive hid
      rcases List.mem_append.mp hsession with hsession | hsession
      · exact h.apart x hx session hsession halive hid
      · rw [List.mem_singleton.mp hsession] at hid
        subst hid
        exact absurd hx hclaimed
    · exact fun queued hq message d hpacket horigin =>
        hkeep _ _ (h.chats queued hq message d hpacket horigin)
    · exact fun relay hrelay d horigin => hkeep _ _ (h.relays relay hrelay d horigin)
    · exact fun report hreport => hkeep _ _ (h.pings report hreport)
    · exact fun announced ha => hkeep _ _ (h.leaves announced ha)
  unfold Lobby.connect
  split_ifs
  · exact happended.of_eq rfl rfl room_claimed rfl rfl rfl
  · exact happended.of_eq rfl rfl room_claimed rfl rfl rfl
  · exact happended

/-- A change of one session that leaves it as it is. -/
theorem modifySession_eq_self (h : Inv s) {session : Session} (hsession : session ∈ s.sessions)
    {f : Session → Session} (hf : f session = session) : s.modifySession session.id f = s := by
  have hmap : (s.sessions.map fun a => if a.id = session.id then f a else a) = s.sessions := by
    refine (List.map_congr_left fun a ha => ?_).trans (List.map_id _)
    split_ifs with hid
    · rw [eq_of_id h ha hsession hid]
      exact hf
    · rfl
  rw [Host.modifySession, hmap]

/-- An accepted join on a session that is free to take the id. -/
theorem Inv.acceptJoin (h : Inv s) {session : Session} (hsession : session ∈ s.sessions)
    (halive : session.alive = true) {x : UInt32} (hfree : FreeToJoin s session x) :
    Inv (s.modifySession session.id (·.acceptJoin x)) ∧
      Joined (s.modifySession session.id (·.acceptJoin x)) session.id x := by
  have htag := h.tag_eq hsession halive
  rcases hfree with hsame | ⟨hnone, hother⟩
  · have hself : session.acceptJoin x = session := by
      rw [hsame] at htag
      cases session
      simp_all [Session.acceptJoin]
    rw [modifySession_eq_self h hsession hself]
    exact ⟨h, session, hsession, rfl, htag.symm.trans hsame⟩
  · have hjoined : session.joined = none := htag.symm.trans hnone
    constructor
    · refine h.mapSessions (fun a => ?_) ?_ (fun a ha => ?_) ?_ ?_
      · split_ifs <;> rfl
      · intro a ha y hy
        split_ifs with hid
        · rw [eq_of_id h ha hsession hid, hjoined] at hy
          cases hy
        · exact hy
      · split_ifs at ha with hid
        · exact ha
        · exact ha
      · intro a ha
        split_ifs with hid
        · rw [eq_of_id h ha hsession hid]
          exact .inl (by simp [Session.acceptJoin, hjoined])
        · exact h.tagged a ha
      · intro a ha b hb haa hbb y hy hta htb
        -- of two sessions tagged alike, one would have had the id before
        split_ifs at haa hbb hta htb with hida hidb hidb
        · exact hida.trans hidb.symm
        · cases hta
          exact absurd htb (hother hy b hb hbb)
        · cases htb
          exact absurd hta (hother hy a ha haa)
        · exact h.distinct a ha b hb haa hbb y hy hta htb
    · refine ⟨session.acceptJoin x, List.mem_map.mpr ⟨session, hsession, if_pos rfl⟩, rfl, ?_⟩
      simp [Session.acceptJoin, hjoined]

/-- **Packets keep the invariant**, when they rewrite no tag. -/
theorem Inv.onPacket (h : Inv s) {session : Session} (hsession : session ∈ s.sessions)
    (halive : session.alive = true) {packet : Packet}
    (hhonest : HonestPacket config s session packet) :
    Inv (onPacket config env s session packet) := by
  have htag := h.tag_eq hsession halive
  cases packet with
  | nodeState netid state =>
      have hself : session.retag netid = session := by
        cases session
        simp_all [HonestPacket, Session.retag]
      have hsame := modifySession_eq_self (f := (·.retag netid)) h hsession hself
      have hstate : Lobby.onPacket config env s session (.nodeState netid state) =
          (s.modifySession session.id (·.retag netid)).enqueuePacket (.nodeState netid state)
            session.id := rfl
      rw [hstate, hsame]
      exact h.enqueueOther (by simp) rfl
  | lobbyJoin senderId playerName password =>
      unfold Lobby.onPacket
      dsimp only
      split_ifs with hrefused
      · exact h
      · rcases hhonest with hrefused' | ⟨hfree, hapart⟩
        · exact absurd hrefused' hrefused
        · obtain ⟨hinv, a, ha, hid, hjoined⟩ := h.acceptJoin hsession halive hfree
          refine Inv.sync (hinv.enqueuePacket (by simp) fun x hx b hb hbalive hbid => ?_)
          obtain rfl : senderId = x := by simpa [joinId] using hx
          obtain ⟨b', hb', rfl⟩ := List.mem_map.mp hb
          have hb'id : b'.id = session.id := by
            refine Option.some.inj (hapart b' hb' ?_ ?_)
            · split_ifs at hbalive <;> exact hbalive
            · split_ifs at hbid <;> exact hbid
          rw [if_pos hb'id, ← hjoined]
          have heq := eq_of_id hinv (List.mem_map_of_mem hb') ha
            (by rw [hid, if_pos hb'id]; exact hb'id)
          rw [← heq, if_pos hb'id]
  | ping timestamp reportedPing =>
      unfold Lobby.onPacket
      dsimp only
      cases hid : session.tag with
      | none => exact h
      | some id =>
          dsimp only
          split_ifs
          · refine ⟨h.ids, h.tagged, h.distinct, h.apart, h.chats, h.relays, ?_, h.leaves⟩
            intro report hreport
            rcases List.mem_append.mp hreport with hreport | hreport
            · exact h.pings report hreport
            · rw [List.mem_singleton.mp hreport]
              exact ⟨session, hsession, rfl, htag.symm.trans hid⟩
          · exact h
  | chatMessage message =>
      refine h.enqueuePacket ?_ (by simp [joinId])
      intro message' c hmessage hc
      cases hc
      cases hmessage
      obtain ⟨x, hx⟩ := Option.ne_none_iff_exists'.mp hhonest
      refine ⟨session, hsession, rfl, ?_⟩
      rw [← htag, hx]
      rfl
  | voiceUplink packet => exact h.of_eq rfl rfl room_claimed rfl rfl rfl
  | playerFire _ => exact h.enqueueOther (by simp) rfl
  | playerHit _ _ => exact h.enqueueOther (by simp) rfl
  | playerKilled _ _ => exact h.enqueueOther (by simp) rfl
  | toggleReady _ => exact h.enqueueOther (by simp) rfl
  | switchTeam _ _ => exact h.enqueueOther (by simp) rfl
  | startMatch => exact h.enqueueOther (by simp) rfl
  | keepAlive => exact h.enqueueOther (by simp) rfl
  | serverQueryReq => exact h
  | pong _ => exact h
  | nodeLeave _ => exact h
  | other => exact h

/-- A session dies, or is erased when it has died. -/
theorem Inv.modifyDead (h : Inv s) (c : ConnectionId) (listed : Bool → Bool) :
    Inv (s.modifySession c fun a => { a with listed := listed a.listed, alive := false }) := by
  refine h.mapSessions (fun a => ?_) (fun a ha x hx => ?_) (fun a ha => ?_) (fun a ha => ?_) ?_
  · split_ifs <;> rfl
  · split_ifs <;> exact hx
  · split_ifs at ha
    exact ha
  · have htagged := h.tagged a ha
    split_ifs
    · exact htagged.imp_right fun hdead => ⟨rfl, hdead.2⟩
    · exact htagged
  · intro a ha b hb haa hbb x hx hta htb
    split_ifs at haa hbb hta htb
    exact h.distinct a ha b hb haa hbb x hx hta htb

/-- A leave is announced for the player who joined on the session. -/
theorem Inv.announceLeave (h : Inv s) {c : ConnectionId} {x : UInt32} (hjoined : Joined s c x) :
    Inv (s.announceLeave c x) := by
  have hqueued : Inv (s.enqueuePacket (.nodeLeave x) none) := h.enqueueOther (by simp) rfl
  refine ⟨hqueued.ids, hqueued.tagged, hqueued.distinct, hqueued.apart, hqueued.chats,
    hqueued.relays, hqueued.pings, fun announced ha => ?_⟩
  rcases List.mem_append.mp ha with ha | ha
  · exact h.leaves announced ha
  · rw [List.mem_singleton.mp ha]
    exact hjoined

/-- A nonzero tag, even of a dead session, is the player who joined on it. -/
theorem Inv.joined_of_tag (h : Inv s) {session : Session} (hsession : session ∈ s.sessions)
    {x : UInt32} (htag : session.tag = some x) (hx : x ≠ 0) : session.joined = some x := by
  rcases h.tagged session hsession with heq | ⟨-, hzero⟩
  · exact heq.symm.trans htag
  · exact absurd (Option.some.inj (htag.symm.trans hzero)) hx

/-- A disconnect announces the leave of the player who joined on the session. -/
theorem Inv.onPeerDisconnected (h : Inv s) {session : Session}
    (hsession : session ∈ s.sessions) : Inv (onPeerDisconnected s session) := by
  have herased : Inv ({ s with voiceRouter := Voice.removePeer s.voiceRouter session.id }.modifySession
      session.id fun a => { a with listed := false, alive := false }) :=
    (h.of_eq (t := { s with voiceRouter := Voice.removePeer s.voiceRouter session.id })
      rfl rfl room_claimed rfl rfl rfl).modifyDead session.id fun _ => false
  unfold Lobby.onPeerDisconnected
  cases htag : session.tag with
  | none => exact herased
  | some x =>
      dsimp only
      split_ifs with hx
      · refine herased.announceLeave ?_
        have hmem : (if session.id = session.id then { session with listed := false, alive := false }
            else session) ∈ s.sessions.map fun a =>
              if a.id = session.id then { a with listed := false, alive := false } else a :=
          List.mem_map_of_mem hsession
        rw [if_pos rfl] at hmem
        exact ⟨_, hmem, rfl, h.joined_of_tag hsession htag hx⟩
      · exact herased

/-- The leaves the sweep announces are queued one after the other. -/
theorem Inv.announceLeaves (dead : List (ConnectionId × UInt32)) (h : Inv s)
    (hjoined : ∀ announced ∈ dead, Joined s announced.1 announced.2) :
    Inv (dead.foldl (fun host announced => host.announceLeave announced.1 announced.2) s) := by
  induction dead generalizing s with
  | nil => exact h
  | cons announced rest ih =>
      refine ih (h.announceLeave (hjoined announced List.mem_cons_self)) fun other hother => ?_
      exact hjoined other (List.mem_cons_of_mem _ hother)

/-- **The sweep keeps the invariant.** -/
theorem Inv.sweepSessions (h : Inv s) : Inv (sweepSessions s) := by
  have hid : ∀ a : Session, a.sweep.id = a.id := fun a => by unfold Session.sweep; split_ifs <;> rfl
  have hjoined : ∀ a : Session, a.sweep.joined = a.joined := fun a => by
    unfold Session.sweep
    split_ifs <;> rfl
  have halive : ∀ a : Session, a.sweep.alive = a.alive := fun a => by
    unfold Session.sweep
    split_ifs <;> rfl
  have hlive : ∀ a : Session, a.alive = true → a.sweep = a := fun a ha => by
    unfold Session.sweep
    rw [if_neg (by simp [ha])]
  have hswept : Inv { s with sessions := s.sessions.map Session.sweep } := by
    refine h.mapSessions hid (fun a _ x hx => (hjoined a).trans hx) (fun a ha => halive a ▸ ha) ?_ ?_
    · intro a ha
      rw [hjoined, halive]
      unfold Session.sweep
      split_ifs with hdead
      · rcases htag : a.tag with _ | x
        · rcases h.tagged a ha with heq | ⟨-, hzero⟩
          · exact .inl (htag.symm.trans heq)
          · rw [htag] at hzero
            cases hzero
        · exact .inr ⟨hdead.2, rfl⟩
      · exact h.tagged a ha
    · intro a ha b hb haa hbb x hx hta htb
      rw [halive] at haa hbb
      rw [hlive a haa] at hta
      rw [hlive b hbb] at htb
      exact h.distinct a ha b hb haa hbb x hx hta htb
  refine hswept.announceLeaves _ fun announced hannounced => ?_
  obtain ⟨a, ha, hdead⟩ := List.mem_filterMap.mp hannounced
  unfold Session.deadId at hdead
  split_ifs at hdead
  rcases htag : a.tag with _ | x
  · simp [htag] at hdead
  · rw [htag] at hdead
    dsimp only at hdead
    split_ifs at hdead with hx
    cases hdead
    exact ⟨a.sweep, List.mem_map_of_mem ha, hid a, (hjoined a).trans (h.joined_of_tag ha htag hx)⟩

/-! ## Steps of the main thread -/

/-- **What processing one queued packet does**: it may change the room, to
players who were there or whose join it is, and it may relay the chat message
it is, under the sender the message has. -/
structure Processed (s t : Host) (queued : Queued) : Prop where
  sessions : t.sessions = s.sessions
  queue : t.batch ++ t.packetQueue = s.batch ++ s.packetQueue
  room : ∀ rp ∈ t.roomPlayers, (∃ rp' ∈ s.roomPlayers, rp'.id = rp.id) ∨
    joinId queued.packet = some rp.id
  relayed : t.relayed = s.relayed ∨ ∃ message message' recipients,
    queued.packet = .chatMessage message ∧ message'.senderId = message.senderId ∧
      t.relayed = s.relayed ++ [⟨queued.origin, message', recipients⟩]
  pings : t.pings = s.pings
  leaves : t.leaves = s.leaves

theorem same_room {queued : Queued} (rp : RoomPlayerInfo) (hrp : rp ∈ s.roomPlayers) :
    (∃ rp' ∈ s.roomPlayers, rp'.id = rp.id) ∨ joinId queued.packet = some rp.id :=
  .inl ⟨rp, hrp, rfl⟩

/-- Changing a player keeps what the change keeps. -/
theorem modifyPlayer_map {α : Type} (id : UInt32) {f : RoomPlayerInfo → RoomPlayerInfo}
    (g : RoomPlayerInfo → α) (hf : ∀ rp, g (f rp) = g rp) (roomPlayers : List RoomPlayerInfo) :
    (modifyPlayer id f roomPlayers).map g = roomPlayers.map g := by
  induction roomPlayers with
  | nil => rfl
  | cons rp rest ih =>
      unfold modifyPlayer
      split_ifs
      · simp [hf]
      · simp [ih]

/-- A room with the ids it had. -/
theorem room_of_ids {queued : Queued} {roomPlayers : List RoomPlayerInfo}
    (hids : roomPlayers.map (·.id) = s.roomPlayers.map (·.id)) (rp : RoomPlayerInfo)
    (hrp : rp ∈ roomPlayers) :
    (∃ rp' ∈ s.roomPlayers, rp'.id = rp.id) ∨ joinId queued.packet = some rp.id := by
  have hmem : rp.id ∈ s.roomPlayers.map (·.id) := hids ▸ List.mem_map_of_mem hrp
  exact .inl (List.mem_map.mp hmem)

theorem allowChatRate_eq (clock : ℚ) (senderId : UInt32) :
    ∃ stamps, (allowChatRate clock s senderId).1 = { s with chatRateStamps := stamps } := by
  unfold allowChatRate
  dsimp only
  split_ifs
  · exact ⟨_, rfl⟩
  · exact ⟨_, rfl⟩

/-- **What a chat message changes**: the times of its sender's messages, and
the relays by at most one, of a message with the sender it has. -/
theorem receiveChat_eq (env : Env) (s : Host) (origin : Option ConnectionId)
    (message : ChatMessage) :
    ∃ stamps relays, receiveChat env s origin message =
        { s with chatRateStamps := stamps, relayed := s.relayed ++ relays } ∧
      (relays = [] ∨ ∃ message' recipients, message'.senderId = message.senderId ∧
        relays = [⟨origin, message', recipients⟩]) := by
  have hself : s = { s with
      chatRateStamps := s.chatRateStamps, relayed := s.relayed ++ [] } := by
    rw [List.append_nil]
  unfold receiveChat
  dsimp only
  by_cases hempty : sanitizeText message.text = []
  · rw [if_pos hempty]
    exact ⟨_, [], hself, .inl rfl⟩
  · rw [if_neg hempty]
    cases s.roomPlayers.find? (·.id == message.senderId) with
    | none => exact ⟨_, [], hself, .inl rfl⟩
    | some sender =>
        obtain ⟨stamps, hstamps⟩ := @allowChatRate_eq s env.clock message.senderId
        have hrefused : (allowChatRate env.clock s message.senderId).1 =
            { s with chatRateStamps := stamps, relayed := s.relayed ++ [] } := by
          rw [hstamps, List.append_nil]
        dsimp only
        split_ifs
        · exact ⟨stamps, [], hrefused, .inl rfl⟩
        · exact ⟨stamps, [], hrefused, .inl rfl⟩
        · rw [hstamps]
          exact ⟨stamps, _, rfl, .inr ⟨{ message with
            text := sanitizeText message.text, senderName := sender.name }, _, rfl, rfl⟩⟩

theorem receiveChat_processed (origin : Option ConnectionId) (message : ChatMessage) :
    Processed s (receiveChat env s origin message) ⟨.chatMessage message, origin⟩ := by
  obtain ⟨stamps, relays, heq, hrelays⟩ := receiveChat_eq env s origin message
  rw [heq]
  refine ⟨rfl, rfl, same_room, ?_, rfl, rfl⟩
  rcases hrelays with rfl | ⟨message', recipients, hsender, rfl⟩
  · exact .inl (List.append_nil _)
  · exact .inr ⟨message, message', recipients, rfl, hsender, rfl⟩

theorem onPacketReceived_processed (queued : Queued) :
    Processed s (onPacketReceived config env s queued) queued := by
  have hself : Processed s s queued := ⟨rfl, rfl, same_room, .inl rfl, rfl, rfl⟩
  obtain ⟨packet, origin⟩ := queued
  cases packet with
  | nodeLeave netid =>
      show Processed s (receiveLeave config env s netid) _
      unfold receiveLeave
      split_ifs
      · exact ⟨rfl, rfl, fun rp hrp => same_room rp (List.mem_of_mem_eraseP hrp), .inl rfl, rfl,
          rfl⟩
      · exact hself
  | chatMessage message => exact receiveChat_processed origin message
  | startMatch =>
      refine ⟨rfl, rfl, room_of_ids ?_, .inl rfl, rfl, rfl⟩
      show (s.roomPlayers.map fun rp => { rp with isReady := true }).map (·.id) = _
      rw [List.map_map]
      rfl
  | lobbyJoin senderId playerName password =>
      show Processed s (receiveJoin config env s senderId playerName) _
      unfold receiveJoin
      split_ifs
      · exact ⟨rfl, rfl, same_room, .inl rfl, rfl, rfl⟩
      · exact hself
      · refine ⟨rfl, rfl, fun rp hrp => ?_, .inl rfl, rfl, rfl⟩
        rcases List.mem_append.mp hrp with hrp | hrp
        · exact same_room rp hrp
        · rw [List.mem_singleton.mp hrp]
          exact .inr rfl
  | toggleReady senderId =>
      exact ⟨rfl, rfl, room_of_ids (modifyPlayer_map senderId (f := fun rp =>
        { rp with isReady := !rp.isReady }) (·.id) (fun _ => rfl) s.roomPlayers), .inl rfl, rfl, rfl⟩
  | switchTeam senderId teamId =>
      exact ⟨rfl, rfl, room_of_ids (modifyPlayer_map senderId (f := fun rp =>
        { rp with team := teamId }) (·.id) (fun _ => rfl) s.roomPlayers), .inl rfl, rfl, rfl⟩
  | _ => exact hself

/-- **Processing keeps the invariant.** -/
theorem Inv.processed (h : Inv s) {queued : Queued} {rest : List Queued}
    (hbatch : s.batch = queued :: rest) (hp : Processed { s with batch := rest } t queued) :
    Inv t := by
  have hsessions : t.sessions = s.sessions := hp.sessions
  have hqueued : queued ∈ s.batch ++ s.packetQueue := by simp [hbatch]
  have hqueue : ∀ q ∈ t.batch ++ t.packetQueue, q ∈ s.batch ++ s.packetQueue := by
    intro q hq
    rw [hp.queue] at hq
    rw [hbatch]
    exact List.mem_cons_of_mem _ hq
  have hclaimed : ∀ x ∈ claimedIds t, x ∈ claimedIds s := by
    intro x hx
    rcases mem_claimedIds.mp hx with ⟨rp, hrp, rfl⟩ | ⟨q, hq, hx⟩
    · rcases hp.room rp hrp with ⟨rp', hrp', hid⟩ | hjoin
      · exact mem_claimedIds.mpr (.inl ⟨rp', hrp', hid⟩)
      · exact mem_claimedIds.mpr (.inr ⟨queued, hqueued, hjoin⟩)
    · exact mem_claimedIds.mpr (.inr ⟨q, hqueue q hq, hx⟩)
  have hjoined : ∀ c x, Joined s c x → Joined t c x := by
    rintro c x ⟨a, ha, hc, hx⟩
    exact ⟨a, hsessions.symm ▸ ha, hc, hx⟩
  refine ⟨hsessions ▸ h.ids, hsessions ▸ h.tagged, hsessions ▸ h.distinct, ?_, ?_, ?_, ?_, ?_⟩
  · intro x hx
    rw [hsessions]
    exact h.apart x (hclaimed x hx)
  · exact fun q hq message c hpacket horigin =>
      hjoined _ _ (h.chats q (hqueue q hq) message c hpacket horigin)
  · intro relay hrelay c horigin
    rcases hp.relayed with heq | ⟨message, message', recipients, hpacket, hsender, heq⟩
    · rw [heq] at hrelay
      exact hjoined _ _ (h.relays relay hrelay c horigin)
    · rw [heq] at hrelay
      rcases List.mem_append.mp hrelay with hrelay | hrelay
      · exact hjoined _ _ (h.relays relay hrelay c horigin)
      · rw [List.mem_singleton.mp hrelay] at horigin ⊢
        rw [hsender]
        exact hjoined _ _ (h.chats queued hqueued message c hpacket horigin)
  · rw [hp.pings]
    exact fun report hreport => hjoined _ _ (h.pings report hreport)
  · rw [hp.leaves]
    exact fun announced ha => hjoined _ _ (h.leaves announced ha)

/-- The host's own calls. -/
theorem Inv.own (h : Inv s) {call : OwnCall} {packet : Packet}
    (hpacket : call.packet config s = some packet)
    (hhonest : Honest config s (.own call)) : Inv (s.enqueuePacket packet none) := by
  refine h.enqueuePacket (fun _ c _ hc => by cases hc) fun x hx session hsession halive hid => ?_
  cases call with
  | hostLobby =>
      cases hpacket
      obtain rfl : config.localNodeId = x := by simpa [joinId] using hx
      exact absurd (hhonest session hsession halive hid) (by simp)
  | toggleReady => cases hpacket; cases hx
  | switchTeam teamId => cases hpacket; cases hx
  | startMatch =>
      simp only [OwnCall.packet] at hpacket
      split_ifs at hpacket
      cases hpacket
      cases hx
  | chat channel text targetId =>
      simp only [OwnCall.packet] at hpacket
      split_ifs at hpacket <;> cases hpacket <;> cases hx

/-! ## Runs -/

/-- **What each honest action keeps.** -/
theorem Inv.step {a : Env × HostAction} (h : Inv s) (hhonest : Honest config s a.2)
    (hstep : step config s a = some t) : Inv t := by
  obtain ⟨env, action⟩ := a
  replace h : Inv { s with synced := false } := h.of_eq rfl rfl room_claimed rfl rfl rfl
  have hperformed := step_performed hstep
  dsimp only at hhonest hperformed
  generalize hu : ({ s with synced := false } : Host) = u at h hperformed
  replace hhonest : Honest config u action := by
    rw [← hu]
    exact hhonest
  clear hu
  cases hperformed with
  | connect c adopted zdt hnew _ => exact h.connect hnew hhonest adopted zdt
  | packet c packet session hsession halive =>
      exact h.onPacket (mem_of_session? hsession).1 halive (hhonest session hsession halive)
  | die c => exact h.modifyDead c id
  | disconnected c session hsession => exact h.onPeerDisconnected (mem_of_session? hsession).1
  | beginUpdate hempty =>
      refine h.of_eq rfl ?_ (room_claimed (s := u)) rfl rfl rfl
      rw [hempty]
      simp
  | process queued rest hbatch => exact h.processed hbatch (onPacketReceived_processed queued)
  | sweep => exact h.sweepSessions
  | kick playerId =>
      unfold kickPlayer
      split_ifs
      · refine h.of_eq rfl rfl (fun rp hrp => ?_) rfl rfl rfl
        exact room_claimed rp (List.mem_of_mem_filter hrp)
      · exact h
  | roomCode => exact h.of_eq rfl rfl room_claimed rfl rfl rfl
  | own call packet hpacket => exact h.own hpacket hhonest
  | ownNothing call hnone => exact h
  | setupMatch => exact h.of_eq rfl rfl room_claimed rfl rfl rfl
  | switchTeamInMatch =>
      have hlocal : Inv { u with localTeam := if u.localTeam = 1 then 2 else 1 } :=
        h.of_eq rfl rfl room_claimed rfl rfl rfl
      exact hlocal.enqueueOther (by simp) rfl
  | login username => exact h.of_eq rfl rfl room_claimed rfl rfl rfl
  | logout => exact h.of_eq rfl rfl room_claimed rfl rfl rfl

/-- A host that has just started. -/
theorem Inv.start (config : HostConfig) (env : Env) : Inv (start config env) := by
  have hempty : Inv {} := by constructor <;> simp [claimedIds]
  unfold Lobby.start
  split_ifs
  · exact hempty
  · exact hempty.of_eq rfl rfl room_claimed rfl rfl rfl

/-- The session whose connection id reads as the player id has joined as it. -/
theorem Inv.joined_of_room (h : Inv s) {session : Session} (hsession : session ∈ s.sessions)
    (halive : session.alive = true) {rp : RoomPlayerInfo} (hrp : rp ∈ s.roomPlayers)
    (hid : session.id.toUInt32 = rp.id) : session.joined = some rp.id :=
  h.apart rp.id (room_claimed rp hrp) session hsession halive hid

/-- The voice membership of a session is that of the player who joined on it. -/
theorem Inv.voice (h : Inv s) {session : Session} (hsession : session ∈ s.sessions)
    (halive : session.alive = true) {x : UInt32} (hx : x ≠ 0) (hjoined : session.joined = some x) :
    sessionPeerState config s.roomPlayers session =
      peerState config x (teamOf s.roomPlayers x) := by
  have hpid : session.pid = x := by
    rw [Session.pid, h.tag_eq hsession halive, hjoined]
    exact if_pos hx
  have hfind : (s.roomPlayers.find? fun rp => rp.id = session.pid ∨ rp.id.toUInt64 = session.id) =
      s.roomPlayers.find? (·.id == x) := by
    refine List.find?_congr fun rp hrp => ?_
    rw [hpid]
    by_cases hid : rp.id = x
    · simp [hid]
    · have hne : rp.id.toUInt64 ≠ session.id := by
        intro heq
        have hrp' := h.joined_of_room hsession halive hrp (by rw [← heq]; simp)
        rw [hjoined] at hrp'
        exact hid (Option.some.inj hrp').symm
      simp [hid, hne]
  unfold sessionPeerState teamOf
  rw [hfind, hpid]
  cases hfound : s.roomPlayers.find? (·.id == x) with
  | none => rfl
  | some rp =>
      have hid : rp.id = x := by simpa using List.find?_some hfound
      rw [← hid]
      rfl

theorem teamOf_absent {roomPlayers : List RoomPlayerInfo} {x : UInt32}
    (h : ∀ rp ∈ roomPlayers, rp.id ≠ x) : teamOf roomPlayers x = 0 := by
  have hnone : roomPlayers.find? (·.id == x) = none := by
    simpa [List.find?_eq_none] using h
  rw [teamOf, hnone]
  rfl

theorem isValidPeerState_team_zero (config : HostConfig) (x : UInt32) :
    Voice.isValidPeerState (peerState config x 0) = false := by
  simp [Voice.isValidPeerState, peerState]

/-- A session whose player is not in the room has no voice. -/
theorem Inv.unvoiced (h : Inv s) {session : Session} (hsession : session ∈ s.sessions)
    (halive : session.alive = true)
    (hjoined : ∀ rp ∈ s.roomPlayers, session.joined ≠ some rp.id) :
    Voice.isValidPeerState (sessionPeerState config s.roomPlayers session) = false := by
  by_cases hplayer : ∃ x, x ≠ 0 ∧ session.joined = some x
  · obtain ⟨x, hx, hsome⟩ := hplayer
    rw [h.voice hsession halive hx hsome,
      teamOf_absent fun rp hrp heq => hjoined rp hrp (heq ▸ hsome)]
    exact isValidPeerState_team_zero config x
  · -- without a player the session is looked up under its own connection id
    have hpid : session.pid = session.id.toUInt32 := by
      rw [Session.pid, h.tag_eq hsession halive]
      cases hsome : session.joined with
      | none => rfl
      | some x => exact if_neg fun hx => hplayer ⟨x, hx, hsome⟩
    have hnone : (s.roomPlayers.find? fun rp =>
        rp.id = session.pid ∨ rp.id.toUInt64 = session.id) = none := by
      refine List.find?_eq_none.mpr fun rp hrp => ?_
      have hne : session.id.toUInt32 ≠ rp.id := fun heq =>
        hjoined rp hrp (h.joined_of_room hsession halive hrp heq)
      have hne' : rp.id.toUInt64 ≠ session.id := fun heq => hne (by rw [← heq]; simp)
      simp [hpid, hne.symm, hne']
    unfold sessionPeerState
    rw [hnone]
    exact isValidPeerState_team_zero config session.pid

/-- The law, read off the invariant. -/
theorem Inv.identity (h : Inv s) : Identity config s where
  chat := h.relays
  tag session hsession halive x hjoined := (h.tag_eq hsession halive).trans hjoined
  silent session hsession hjoined relay hrelay horigin := by
    obtain ⟨a, ha, hid, hx⟩ := h.relays relay hrelay session.id horigin
    rw [eq_of_id h ha hsession hid, hjoined] at hx
    cases hx
  distinct a ha b hb haa hbb x hx hta htb :=
    eq_of_id h ha hb (h.distinct a ha b hb haa hbb x hx hta htb)
  voice session hsession halive x hx hjoined := h.voice hsession halive hx hjoined
  unvoiced session hsession halive hjoined := h.unvoiced hsession halive (by simp [hjoined])
  ping := h.pings
  leave := h.leaves

/-- **Session identity.**  In every run in which no packet rewrites a tag, what
the host does for a session it does for the player who joined on it. -/
theorem session_identity {config : HostConfig} {env : Env} {s : Host}
    (h : Exec.ReachedAlong (step config) (fun s a => Honest config s a.2) (start config env) s) :
    Identity config s := by
  refine (h.invariant Inv (Inv.start config env) ?_).identity
  intro s a t hinv hhonest hstep
  exact hinv.step hhonest hstep

/-- Two players join, move, chat and report their pings; one of them is lost. -/
theorem session_identity_two_players :
    ∃ s : Host, Identity { localNodeId := 100 } s ∧
      s.relayed.map (fun relay => (relay.origin, relay.message.senderId)) = [(some 11, 5)] ∧
      s.pings = [(12, 6)] ∧ s.leaves = [(11, 5)] := by
  let run : List (Env × HostAction) :=
    [({}, .connect 11 true true), ({}, .connect 12 true true),
      ({}, .packet 11 (.lobbyJoin 5 [65] [])), ({}, .packet 12 (.lobbyJoin 6 [66] [])),
      ({}, .packet 11 (.nodeState 5)), ({}, .packet 12 (.ping 0 30)),
      ({}, .packet 11 (.chatMessage { senderId := 6, text := [104, 105] })),
      ({}, .beginUpdate), ({}, .process), ({}, .process), ({}, .process), ({}, .process),
      ({}, .die 11), ({}, .sweep)]
  obtain ⟨s, hs, hout⟩ : ∃ s, Exec.exec (step { localNodeId := 100 })
      (start { localNodeId := 100 } {}) run = some s ∧
      decide (s.relayed.map (fun relay => (relay.origin, relay.message.senderId)) =
        [(some 11, 5)] ∧ s.pings = [(12, 6)] ∧ s.leaves = [(11, 5)]) = true :=
    Exec.exec_any (by decide +kernel)
  have halong : Exec.Along (step { localNodeId := 100 })
      (fun s a => Honest { localNodeId := 100 } s a.2) (start { localNodeId := 100 } {}) run := by
    decide +kernel
  exact ⟨s, session_identity ⟨run, hs, halong⟩, of_decide_eq_true hout⟩

/-- **Identity is taken over.**  The player who joined as `6` sends a
`NodeStatePacket` that names player `5`; its next chat message is relayed as
player `5`'s. -/
theorem session_identity_taken :
    ¬ ∀ (config : HostConfig) (env : Env) (s : Host),
      Exec.Reached (step config) (start config env) s → Identity config s := by
  let run : List (Env × HostAction) :=
    [({}, .connect 11 true true), ({}, .connect 12 true true),
      ({}, .packet 11 (.lobbyJoin 5 [65] [])), ({}, .packet 12 (.lobbyJoin 6 [66] [])),
      ({}, .packet 12 (.nodeState 5)),
      ({}, .packet 12 (.chatMessage { senderId := 6, text := [104, 105] })),
      ({}, .beginUpdate), ({}, .process), ({}, .process), ({}, .process), ({}, .process)]
  obtain ⟨s, hs, hout⟩ : ∃ s, Exec.exec (step { localNodeId := 100 })
      (start { localNodeId := 100 } {}) run = some s ∧
      decide (s.relayed.map (fun relay => (relay.origin, relay.message.senderId)) =
        [(some 12, 5)] ∧ ∀ session ∈ s.sessions, session.id = 12 → session.joined = some 6) =
          true :=
    Exec.exec_any (by decide +kernel)
  obtain ⟨hrelayed, hjoined⟩ := of_decide_eq_true hout
  intro hlaw
  have hidentity := hlaw { localNodeId := 100 } {} s ⟨run, hs⟩
  obtain ⟨relay, hrelay, heq⟩ : ∃ relay ∈ s.relayed,
      (relay.origin, relay.message.senderId) = (some 12, 5) := by
    refine List.mem_map.mp ?_
    rw [hrelayed]
    exact List.mem_singleton.mpr rfl
  obtain ⟨horigin, hsender⟩ := Prod.mk.inj heq
  obtain ⟨session, hsession, hid, hx⟩ := hidentity.chat relay hrelay 12 horigin
  rw [hsender, hjoined session hsession hid] at hx
  exact absurd hx (by decide)

end Lobby
