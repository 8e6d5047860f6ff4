import GipMultiplayer.LobbyGame

/-!
# Team agreement at rest

A team is kept in three places: in the host's `roomPlayers`, in every client's
copy of it, and in the client's `localTeam`.  In the lobby a switch changes the
host's list when its packet is processed, and the copy when the lobby state
comes back.  `localTeam` is read from the copy once, by `setup`; from then on
`NetworkSynchronizer::switchTeam` changes it and sends the switch after it.

The clients stand around the host of `Lobby.step`, each with an inbox and an
outbox, which are reliable and keep their order.  `destined` is the team a
client has in the host's list once all that is on its way has arrived.

* `step` — one action of the host or of a client;
* `AtRest`, `TeamsAgree` — the law;
* `CaughtUp` — the condition on each step;
* `teams_agree_at_rest` — the law in every run under the condition;
* `teams_split` — a switch still on its way when the match is set up.
-/

namespace Teams

open Lobby (Packet Host HostConfig HostAction OwnCall Env RoomPlayerInfo roomAfter)
open Voice (ConnectionId)

/-! ## The system -/

/-- What the host sends to a client. -/
inductive Down
  | lobbyState (roomPlayers : List RoomPlayerInfo)
  | startMatch
  deriving DecidableEq

/-- A client: its copy of the room, its team in the match, and its two
channels.  `started` says that it has handled a `StartMatchPacket`, `inMatch`
that it has run `setup`. -/
structure Client where
  id : UInt32
  connection : ConnectionId
  roomPlayers : List RoomPlayerInfo
  localTeam : UInt8 := 1
  started : Bool := false
  inMatch : Bool := false
  inbox : List Down := []
  outbox : List Packet := []

/-- The host and its clients. -/
structure System where
  host : Host
  clients : List Client

/-- The client with the given id. -/
def System.client? (s : System) (id : UInt32) : Option Client :=
  s.clients.find? (·.id == id)

/-- Replace the client that has the id of `client`. -/
def System.setClient (s : System) (client : Client) : System :=
  { s with clients := s.clients.map fun c => if c.id = client.id then client else c }

/-- Send a message of the host to every client. -/
def System.broadcast (s : System) (message : Down) : System :=
  { s with clients := s.clients.map fun c => { c with inbox := c.inbox ++ [message] } }

/-- A client's packet to the host. -/
def Client.send (client : Client) (packet : Packet) : Client :=
  { client with outbox := client.outbox ++ [packet] }

/-- `onPacketReceived` on a client, for what the host sends it here. -/
def Client.receive (client : Client) : Down → Client
  | .lobbyState roomPlayers => { client with roomPlayers := roomPlayers }
  | .startMatch => { client with started := true }

/-- `NetworkSynchronizer::setup`, as far as the local team goes. -/
def Client.setup (client : Client) : Client :=
  { client with
    localTeam := Players.joinedTeam client.roomPlayers client.id
    inMatch := true }

/-- `NetworkSynchronizer::switchTeam`. -/
def Client.switchTeam (client : Client) : Client :=
  let newTeam : UInt8 := if client.localTeam = 1 then 2 else 1
  { client with localTeam := newTeam }.send (.switchTeam client.id newTeam)

/-- One action of a client, or of the host. -/
inductive Action
  | lobbySwitch (id : UInt32) (teamId : UInt8)
  | toggleReady (id : UInt32)
  | switchTeam (id : UInt32)
  | receive (id : UInt32)
  | setup (id : UInt32)
  | deliver (env : Env) (id : UInt32)
  | call (call : OwnCall)
  | host (env : Env) (action : HostAction)

/-- What the host's main thread does between two packets of the network, in a
lobby that no one leaves. -/
def mainThread : HostAction → Bool
  | .beginUpdate | .process | .setupMatch | .switchTeamInMatch => true
  | _ => false

/-- What a client does, when it can. -/
def Client.act (client : Client) : Action → Option Client
  | .lobbySwitch _ teamId =>
      if client.inMatch then none else some (client.send (.switchTeam client.id teamId))
  | .toggleReady _ => some (client.send (.toggleReady client.id))
  | .switchTeam _ => if client.inMatch then some client.switchTeam else none
  | .receive _ =>
      match client.inbox with
      | message :: rest => some ({ client with inbox := rest }.receive message)
      | [] => none
  | .setup _ => if client.started then some client.setup else none
  | _ => none

/-- The lobby state the host broadcasts with an action. -/
def broadcasts (config : HostConfig) (host : Host) : HostAction → Bool
  | .process =>
      host.batch.head?.any fun queued =>
        Lobby.broadcastsLobby config host.roomPlayers queued.packet
  | _ => false

/-- One step. -/
def step (config : HostConfig) (s : System) (a : Action) : Option System :=
  match a with
  | .lobbySwitch id _ | .toggleReady id | .switchTeam id | .receive id | .setup id =>
      (s.client? id).bind fun client => (client.act a).map s.setClient
  | .deliver env id =>
      match s.client? id with
      | some client =>
          match client.outbox with
          | packet :: rest =>
              (Lobby.step config s.host (env, .packet client.connection packet)).map fun host =>
                { s with host := host }.setClient { client with outbox := rest }
          | [] => none
      | none => none
  | .call call =>
      match call.packet config s.host with
      | some packet =>
          let s' := { s with host := s.host.enqueuePacket packet none }
          -- a start goes to the network as well as to the host's own queue
          some (if packet.isStart then s'.broadcast .startMatch else s')
      | none => some s
  | .host env action =>
      if mainThread action then
        (Lobby.step config s.host (env, action)).map fun host =>
          let s' := { s with host := host }
          if broadcasts config s.host action then s'.broadcast (.lobbyState host.roomPlayers)
          else s'
      else none

/-! ## The law -/

/-- No message is in flight or queued, and every client is in the match. -/
def AtRest (s : System) : Prop :=
  s.host.waiting.isEmpty ∧
    ∀ c ∈ s.clients, c.inbox = [] ∧ c.outbox.isEmpty ∧ c.inMatch = true

instance (s : System) : Decidable (AtRest s) :=
  inferInstanceAs (Decidable (_ ∧ ∀ c ∈ s.clients, _))

/-- The team of a player in a room list. -/
def team? (roomPlayers : List RoomPlayerInfo) (id : UInt32) : Option UInt8 :=
  (roomPlayers.find? (·.id == id)).map (·.team)

/-- **Every client's `localTeam` is its team** in the host's room list and in
its own copy. -/
def TeamsAgree (s : System) : Prop :=
  ∀ c ∈ s.clients,
    team? s.host.roomPlayers c.id = some c.localTeam ∧
      team? c.roomPlayers c.id = some c.localTeam

instance (s : System) : Decidable (TeamsAgree s) :=
  inferInstanceAs (Decidable (∀ c ∈ s.clients, _))

/-- The clients have joined: each has an id of its own and is in the room, its
copy is the host's list, and nothing is on its way. -/
structure Joined (config : HostConfig) (s : System) : Prop where
  distinct : (config.localNodeId :: s.clients.map (·.id)).Nodup
  idle : s.host.waiting = []
  copies : ∀ c ∈ s.clients, c.roomPlayers = s.host.roomPlayers
  present : ∀ c ∈ s.clients, ∃ rp ∈ s.host.roomPlayers, rp.id = c.id
  quiet : ∀ c ∈ s.clients, c.inbox = [] ∧ c.outbox = [] ∧ c.inMatch = false

/-! ## The condition -/

/-- The team a packet asks for, for one player. -/
def askedTeam (id : UInt32) : Packet → Option UInt8
  | .switchTeam senderId teamId => if senderId = id then some teamId else none
  | _ => none

/-- The team a player has after the packets, in order. -/
def afterSwitches (id : UInt32) (teamId : UInt8) (packets : List Packet) : UInt8 :=
  packets.foldl (fun teamId packet => (askedTeam id packet).getD teamId) teamId

/-- A client's packets on the way to the host, and all that waits there. -/
def Client.pending (client : Client) (host : Host) : List Packet :=
  host.waiting.map (·.packet) ++ client.outbox

/-- **The team a client is going to have** in the host's list. -/
def Client.destined (client : Client) (host : Host) : UInt8 :=
  afterSwitches client.id (Players.joinedTeam host.roomPlayers client.id) (client.pending host)

/-- **The condition of the law.**  A client that sets up the match has a copy
that shows it in the team its switches on the way are going to give it. -/
def CaughtUp (s : System) : Action → Prop
  | .setup id => ∀ c ∈ s.client? id,
      Players.joinedTeam c.roomPlayers c.id = c.destined s.host
  | _ => True

instance (s : System) : (a : Action) → Decidable (CaughtUp s a)
  | .setup id => inferInstanceAs (Decidable (∀ c ∈ s.client? id, _))
  | .lobbySwitch _ _ | .toggleReady _ | .switchTeam _ | .receive _ | .deliver _ _ | .call _
  | .host _ _ => .isTrue trivial

variable {config : HostConfig} {s t : System} {host : Host} {client c : Client}

/-! ## One packet and one player -/

/-- The packet takes no one out of the room. -/
def keepsPlayers : Packet → Bool
  | .nodeLeave _ => false
  | _ => true

theorem find?_modifyPlayer {senderId id : UInt32} {f : RoomPlayerInfo → RoomPlayerInfo}
    (hf : ∀ rp, (f rp).id = rp.id) (roomPlayers : List RoomPlayerInfo) :
    (Lobby.modifyPlayer senderId f roomPlayers).find? (·.id == id) =
      if senderId = id then (roomPlayers.find? (·.id == id)).map f
      else roomPlayers.find? (·.id == id) := by
  induction roomPlayers with
  | nil => split_ifs <;> rfl
  | cons first rest ih =>
      unfold Lobby.modifyPlayer
      by_cases hfirst : first.id = senderId
      · rw [if_pos hfirst]
        by_cases hid : senderId = id
        · rw [if_pos hid, List.find?_cons_of_pos (by simp [hf, hfirst, hid]),
            List.find?_cons_of_pos (by simp [hfirst, hid])]
          rfl
        · rw [if_neg hid, List.find?_cons_of_neg (by simp [hf, hfirst, hid]),
            List.find?_cons_of_neg (by simp [hfirst, hid])]
      · rw [if_neg hfirst]
        by_cases hid : first.id = id
        · have hother : senderId ≠ id := fun hsender => hfirst (hid.trans hsender.symm)
          rw [if_neg hother, List.find?_cons_of_pos (by simp [hid]),
            List.find?_cons_of_pos (by simp [hid])]
        · rw [List.find?_cons_of_neg (by simp [hid]), List.find?_cons_of_neg (by simp [hid])]
          exact ih

/-- **A packet moves a player of the room to the team it asks for**, and no
other way. -/
theorem team?_roomAfter {roomPlayers : List RoomPlayerInfo} {packet : Packet} {id : UInt32}
    {teamId : UInt8} (hkeeps : keepsPlayers packet = true)
    (hteam : team? roomPlayers id = some teamId) :
    team? (roomAfter config roomPlayers packet) id =
      some ((askedTeam id packet).getD teamId) := by
  obtain ⟨rp, hfound, rfl⟩ := Option.map_eq_some_iff.mp hteam
  cases packet with
  | nodeLeave netid => cases hkeeps
  | startMatch =>
      unfold team? roomAfter
      rw [List.find?_map]
      have hsame : ((fun x : RoomPlayerInfo => x.id == id) ∘
          fun x : RoomPlayerInfo => { x with isReady := true }) = fun x => x.id == id := rfl
      rw [hsame, hfound]
      rfl
  | lobbyJoin senderId playerName password =>
      unfold roomAfter
      dsimp only
      split_ifs
      · exact hteam
      · exact hteam
      · unfold team?
        rw [List.find?_append, hfound]
        rfl
  | toggleReady senderId =>
      unfold team? roomAfter
      dsimp only
      rw [@find?_modifyPlayer senderId id (fun rp => { rp with isReady := !rp.isReady })
        (fun _ => rfl), hfound]
      split_ifs <;> rfl
  | switchTeam senderId next =>
      unfold team? roomAfter askedTeam
      dsimp only
      rw [@find?_modifyPlayer senderId id (fun rp => { rp with team := next }) (fun _ => rfl),
        hfound]
      by_cases hsender : senderId = id
      · rw [if_pos hsender, if_pos hsender]
        rfl
      · rw [if_neg hsender, if_neg hsender]
        rfl
  | _ => exact hteam

theorem joinedTeam_of_team? {roomPlayers : List RoomPlayerInfo} {id : UInt32} {teamId : UInt8}
    (h : team? roomPlayers id = some teamId) : Players.joinedTeam roomPlayers id = teamId := by
  obtain ⟨rp, hfound, rfl⟩ := Option.map_eq_some_iff.mp h
  unfold Players.joinedTeam
  rw [hfound]

/-- A player of the room has the team it would join with. -/
theorem team?_of_mem {roomPlayers : List RoomPlayerInfo} {rp : RoomPlayerInfo}
    (h : rp ∈ roomPlayers) :
    team? roomPlayers rp.id = some (Players.joinedTeam roomPlayers rp.id) := by
  cases hfound : roomPlayers.find? (·.id == rp.id) with
  | none => exact absurd (List.find?_eq_none.mp hfound rp h) (by simp)
  | some first =>
      have hteam : team? roomPlayers rp.id = some first.team := by
        rw [team?, hfound]
        rfl
      rw [hteam, joinedTeam_of_team? hteam]

/-- A room the host does not broadcast has not changed. -/
theorem roomAfter_of_silent {roomPlayers : List RoomPlayerInfo} {packet : Packet}
    (h : Lobby.broadcastsLobby config roomPlayers packet = false) :
    roomAfter config roomPlayers packet = roomPlayers := by
  cases packet with
  | nodeLeave netid =>
      apply List.eraseP_of_forall_not
      intro rp hrp hid
      have hnone : ¬ ∃ rp ∈ roomPlayers, (rp.id == netid) = true :=
        fun hsome => by simp [Lobby.broadcastsLobby, List.any_eq_true.mpr hsome] at h
      exact hnone ⟨rp, hrp, hid⟩
  | lobbyJoin senderId playerName password =>
      have hfull : ¬ roomPlayers.length < config.lobbyTeamSize.toNat * 2 := by
        intro hroom
        simp [Lobby.broadcastsLobby, hroom] at h
      unfold roomAfter
      dsimp only
      split_ifs with hknown hsize
      · rfl
      · rfl
      · omega
  | startMatch => cases h
  | toggleReady senderId => cases h
  | switchTeam senderId teamId => cases h
  | _ => rfl

/-! ## What is on its way -/

@[simp] theorem afterSwitches_nil (id : UInt32) (teamId : UInt8) :
    afterSwitches id teamId [] = teamId := rfl

theorem afterSwitches_append (id : UInt32) (teamId : UInt8) (first rest : List Packet) :
    afterSwitches id teamId (first ++ rest) =
      afterSwitches id (afterSwitches id teamId first) rest :=
  List.foldl_append

/-- Packets that do not concern a player leave it where it is. -/
theorem afterSwitches_skip {id : UInt32} {packets : List Packet}
    (hother : ∀ packet ∈ packets, askedTeam id packet = none) (teamId : UInt8) :
    afterSwitches id teamId packets = teamId := by
  induction packets with
  | nil => rfl
  | cons packet rest ih =>
      unfold afterSwitches
      rw [List.foldl_cons, hother packet List.mem_cons_self]
      exact ih fun packet hpacket => hother packet (List.mem_cons_of_mem _ hpacket)

/-- The room a client is going to have when it has read its inbox. -/
def Client.latest (client : Client) : List RoomPlayerInfo :=
  client.inbox.foldl
    (fun roomPlayers message =>
      match message with
      | .lobbyState next => next
      | .startMatch => roomPlayers)
    client.roomPlayers

/-- A packet of the client's own, about its own player. -/
def Client.sends (client : Client) : Packet → Bool
  | .switchTeam senderId _ | .toggleReady senderId => senderId == client.id
  | _ => false

theorem askedTeam_of_sends {packet : Packet} (h : c.sends packet = true)
    (hother : c.id ≠ client.id) : askedTeam client.id packet = none := by
  cases packet with
  | switchTeam senderId teamId =>
      have hsender : senderId = c.id := by simpa [Client.sends] using h
      exact if_neg (hsender ▸ hother)
  | toggleReady senderId => rfl
  | _ => cases h

theorem keepsPlayers_of_sends {packet : Packet} (h : c.sends packet = true) :
    keepsPlayers packet = true := by
  cases packet with
  | nodeLeave netid => cases h
  | _ => rfl

/-! ## The invariant -/

/-- What holds between the host and one client. -/
structure ClientInv (host : Host) (client : Client) : Prop where
  own : ∀ packet ∈ client.outbox, client.sends packet = true
  present : ∃ rp ∈ host.roomPlayers, rp.id = client.id
  current : client.latest = host.roomPlayers
  agreed : client.inMatch = true → client.destined host = client.localTeam

/-- The invariant of the system. -/
structure Inv (config : HostConfig) (s : System) : Prop where
  distinct : (config.localNodeId :: s.clients.map (·.id)).Nodup
  keeps : ∀ queued ∈ s.host.waiting, keepsPlayers queued.packet = true
  each : ∀ c ∈ s.clients, ClientInv s.host c

/-! ## Steps of the host -/

/-- The host's queue has grown by packets that do not concern the client. -/
theorem ClientInv.enqueue {host' : Host} {queue : List Lobby.Queued} (h : ClientInv host client)
    (hwaiting : host'.waiting = host.waiting ++ queue)
    (hroom : host'.roomPlayers = host.roomPlayers)
    (hother : ∀ queued ∈ queue, askedTeam client.id queued.packet = none) :
    ClientInv host' client where
  own := h.own
  present := hroom ▸ h.present
  current := hroom ▸ h.current
  agreed := by
    intro hin
    rw [← h.agreed hin]
    unfold Client.destined Client.pending
    rw [hwaiting, hroom, List.map_append, afterSwitches_append, afterSwitches_append,
      afterSwitches_append]
    congr 1
    apply afterSwitches_skip
    intro packet hpacket
    obtain ⟨queued, hqueued, rfl⟩ := List.mem_map.mp hpacket
    exact hother queued hqueued

/-- The client has been sent the room as it is now. -/
theorem ClientInv.inform (hown : ∀ packet ∈ client.outbox, client.sends packet = true)
    (hpresent : ∃ rp ∈ host.roomPlayers, rp.id = client.id)
    (hagreed : client.inMatch = true → client.destined host = client.localTeam) :
    ClientInv host { client with inbox := client.inbox ++ [.lobbyState host.roomPlayers] } where
  own := hown
  present := hpresent
  current := by
    unfold Client.latest
    rw [List.foldl_append]
    rfl
  agreed := hagreed

/-- The client has been sent a start. -/
theorem ClientInv.start (h : ClientInv host client) :
    ClientInv host { client with inbox := client.inbox ++ [.startMatch] } where
  own := h.own
  present := h.present
  current := by
    refine Eq.trans ?_ h.current
    unfold Client.latest
    rw [List.foldl_append]
    rfl
  agreed := h.agreed

/-- **Processing a packet** brings a client's team one packet nearer to the one
it is going to have. -/
theorem destined_process {host' : Host} {queued : Lobby.Queued}
    (hwaiting : host.waiting = queued :: host'.waiting)
    (hroom : host'.roomPlayers = roomAfter config host.roomPlayers queued.packet)
    (hkeeps : keepsPlayers queued.packet = true)
    (hpresent : ∃ rp ∈ host.roomPlayers, rp.id = client.id) :
    (∃ rp ∈ host'.roomPlayers, rp.id = client.id) ∧
      client.destined host' = client.destined host := by
  obtain ⟨rp, hrp, hid⟩ := hpresent
  have hteam := team?_of_mem hrp
  rw [hid] at hteam
  have hafter := @team?_roomAfter config _ _ _ _ hkeeps hteam
  rw [← hroom] at hafter
  constructor
  · obtain ⟨found, hfound, -⟩ := Option.map_eq_some_iff.mp hafter
    exact ⟨found, List.mem_of_find?_eq_some hfound, by simpa using List.find?_some hfound⟩
  · unfold Client.destined Client.pending
    rw [joinedTeam_of_team? hafter, hwaiting]
    rfl

/-- A client's packet reaches the host's queue as it was sent. -/
theorem deliver_host {host' : Host} {env : Env} {connection : ConnectionId} {packet : Packet}
    (hsends : client.sends packet = true)
    (h : Lobby.step config host (env, .packet connection packet) = some host') :
    (∃ origin, host'.waiting = host.waiting ++ [⟨packet, origin⟩]) ∧
      host'.roomPlayers = host.roomPlayers := by
  cases Lobby.step_performed h with
  | packet _ _ session =>
      obtain ⟨hwaiting, hroom, -⟩ :=
        @Lobby.onPacket_waiting config env { host with synced := false } session packet
      refine ⟨⟨some session.id, hwaiting.trans ?_⟩, hroom⟩
      cases packet with
      | switchTeam senderId teamId => rfl
      | toggleReady senderId => rfl
      | _ => cases hsends

/-- What the host's own player puts into the queue concerns no one else, and
takes no one out of the room. -/
theorem own_packet {call : OwnCall} {packet : Packet} (h : call.packet config host = some packet) :
    keepsPlayers packet = true ∧
      ∀ id, id ≠ config.localNodeId → askedTeam id packet = none := by
  cases call with
  | hostLobby =>
      cases h
      exact ⟨rfl, fun _ _ => rfl⟩
  | toggleReady =>
      cases h
      exact ⟨rfl, fun _ _ => rfl⟩
  | switchTeam teamId =>
      cases h
      exact ⟨rfl, fun id hid => if_neg (Ne.symm hid)⟩
  | startMatch =>
      simp only [OwnCall.packet] at h
      split_ifs at h
      cases h
      exact ⟨rfl, fun _ _ => rfl⟩
  | chat channel text targetId =>
      simp only [OwnCall.packet] at h
      split_ifs at h
      all_goals
        cases h
        exact ⟨rfl, fun _ _ => rfl⟩

/-- The main thread of the host processes a packet, or at most queues one of
its own. -/
theorem mainThread_host {host' : Host} {env : Env} {action : HostAction}
    (hmain : mainThread action = true)
    (h : Lobby.step config host (env, action) = some host') :
    (∃ queued, host.waiting = queued :: host'.waiting ∧
        host'.roomPlayers = roomAfter config host.roomPlayers queued.packet ∧
        broadcasts config host action =
          Lobby.broadcastsLobby config host.roomPlayers queued.packet) ∨
      broadcasts config host action = false ∧ host'.roomPlayers = host.roomPlayers ∧
        ∃ queue, host'.waiting = host.waiting ++ queue ∧
          ∀ queued ∈ queue, keepsPlayers queued.packet = true ∧
            ∀ id, id ≠ config.localNodeId → askedTeam id queued.packet = none := by
  cases Lobby.step_effect h with
  | processed queued rest action batch waiting room started =>
      obtain rfl := action
      refine .inl ⟨queued, ?_, room, ?_⟩
      · rw [waiting, Host.waiting, batch, List.cons_append]
      · unfold broadcasts
        dsimp only
        rw [batch]
        rfl
  | kicked playerId action waiting room started =>
      obtain rfl := action
      cases hmain
  | arrived quiet waiting room started =>
      refine .inr ⟨?_, room, _, waiting, ?_⟩
      · cases action with
        | process => exact absurd rfl quiet.1
        | _ => rfl
      · intro queued hqueued
        cases action with
        | switchTeamInMatch =>
            obtain rfl := List.mem_singleton.mp hqueued
            exact ⟨rfl, fun id hid => if_neg (Ne.symm hid)⟩
        | beginUpdate => cases hqueued
        | process => cases hqueued
        | setupMatch => cases hqueued
        | _ => cases hmain

/-! ## Steps of a client -/

/-- **What a client does keeps what holds between it and the host**, if it is
caught up when it sets up the match. -/
theorem ClientInv.act {a : Action} {next : Client} (h : ClientInv host client)
    (hcaught : ∀ id, a = .setup id →
      Players.joinedTeam client.roomPlayers client.id = client.destined host)
    (hact : client.act a = some next) : ClientInv host next := by
  have hsent : ∀ packet, client.sends packet = true → ∀ sent ∈ client.outbox ++ [packet],
      client.sends sent = true := by
    intro packet hpacket sent hmem
    rcases List.mem_append.mp hmem with hold | hnew
    · exact h.own sent hold
    · exact List.mem_singleton.mp hnew ▸ hpacket
  -- the pending switches of the client, with one more behind them
  have hlater : ∀ packet, afterSwitches client.id
      (Players.joinedTeam host.roomPlayers client.id)
      (host.waiting.map (·.packet) ++ (client.outbox ++ [packet])) =
        (askedTeam client.id packet).getD (client.destined host) := by
    intro packet
    rw [← List.append_assoc, afterSwitches_append]
    rfl
  cases a with
  | lobbySwitch id teamId =>
      simp only [Client.act] at hact
      split_ifs at hact with hin
      cases hact
      refine ⟨hsent _ (by simp [Client.sends]), h.present, h.current, ?_⟩
      intro hin'
      exact absurd hin' hin
  | toggleReady id =>
      cases hact
      refine ⟨hsent _ (by simp [Client.sends]), h.present, h.current, ?_⟩
      intro hin
      exact (hlater _).trans (h.agreed hin)
  | switchTeam id =>
      simp only [Client.act] at hact
      split_ifs at hact with hin
      cases hact
      refine ⟨hsent _ (by simp [Client.sends]), h.present, h.current, ?_⟩
      intro _
      refine (hlater _).trans ?_
      rw [askedTeam, if_pos rfl]
      rfl
  | receive id =>
      simp only [Client.act] at hact
      split at hact
      · rename_i message rest hinbox
        cases hact
        have hcurrent := h.current
        unfold Client.latest at hcurrent
        rw [hinbox, List.foldl_cons] at hcurrent
        cases message with
        | lobbyState roomPlayers => exact ⟨h.own, h.present, hcurrent, h.agreed⟩
        | startMatch => exact ⟨h.own, h.present, hcurrent, h.agreed⟩
      · cases hact
  | setup id =>
      simp only [Client.act] at hact
      split_ifs at hact
      cases hact
      exact ⟨h.own, h.present, h.current, fun _ => (hcaught id rfl).symm⟩
  | deliver env id => cases hact
  | call call => cases hact
  | host env action => cases hact

/-- The packet at the head of a client's outbox has moved to the host's queue. -/
theorem ClientInv.deliver {host' : Host} {packet : Packet} {rest : List Packet}
    (h : ClientInv host client) (hout : client.outbox = packet :: rest)
    (hwaiting : ∃ origin, host'.waiting = host.waiting ++ [⟨packet, origin⟩])
    (hroom : host'.roomPlayers = host.roomPlayers) :
    ClientInv host' { client with outbox := rest } where
  own := fun sent hsent => h.own sent (hout ▸ List.mem_cons_of_mem _ hsent)
  present := hroom ▸ h.present
  current := hroom ▸ h.current
  agreed := by
    intro hin
    rw [← h.agreed hin]
    obtain ⟨origin, hwaiting⟩ := hwaiting
    unfold Client.destined Client.pending
    rw [hwaiting, hroom, hout, List.map_append, List.append_assoc]
    rfl

/-! ## Runs -/

theorem System.client?_some {id : UInt32} (h : s.client? id = some client) :
    client ∈ s.clients ∧ client.id = id :=
  ⟨List.mem_of_find?_eq_some h, by simpa using List.find?_some h⟩

theorem System.ids_setClient : (s.setClient client).clients.map (·.id) = s.clients.map (·.id) := by
  show (s.clients.map _).map _ = _
  rw [List.map_map]
  refine List.map_congr_left fun c _ => ?_
  by_cases hid : c.id = client.id <;> simp [hid]

/-- A client after one was replaced. -/
theorem System.mem_setClient (h : c ∈ (s.setClient client).clients) :
    c = client ∨ c ∈ s.clients ∧ c.id ≠ client.id := by
  obtain ⟨old, hold, rfl⟩ := List.mem_map.mp h
  by_cases hid : old.id = client.id
  · exact .inl (if_pos hid)
  · refine .inr ?_
    rw [if_neg hid]
    exact ⟨hold, hid⟩

/-- No client has the host's id. -/
theorem Inv.foreign (h : Inv config s) (hc : c ∈ s.clients) : c.id ≠ config.localNodeId := by
  intro hid
  exact (List.nodup_cons.mp h.distinct).1 (hid ▸ List.mem_map_of_mem hc)

theorem System.ids_broadcast (message : Down) :
    (s.broadcast message).clients.map (·.id) = s.clients.map (·.id) := by
  show (s.clients.map _).map _ = _
  rw [List.map_map]
  rfl

/-- An action of a client. -/
theorem Inv.acts {a : Action} {id : UInt32} (h : Inv config s)
    (hcaught : ∀ id', a = .setup id' → ∀ c ∈ s.client? id,
      Players.joinedTeam c.roomPlayers c.id = c.destined s.host)
    (hstep : ((s.client? id).bind fun client => (client.act a).map s.setClient) = some t) :
    Inv config t := by
  obtain ⟨client, hfound, hact⟩ := Option.bind_eq_some_iff.mp hstep
  obtain ⟨next, hdone, rfl⟩ := Option.map_eq_some_iff.mp hact
  obtain ⟨hmem, -⟩ := System.client?_some hfound
  have hnext := (h.each client hmem).act (fun id' ha => hcaught id' ha client hfound) hdone
  refine ⟨?_, h.keeps, ?_⟩
  · rw [System.ids_setClient]
    exact h.distinct
  · intro c hc
    rcases System.mem_setClient hc with rfl | ⟨hold, -⟩
    · exact hnext
    · exact h.each c hold

/-- Packets of the host's own are queued. -/
theorem Inv.enqueue {host' : Host} {queue : List Lobby.Queued} (h : Inv config s)
    (hwaiting : host'.waiting = s.host.waiting ++ queue)
    (hroom : host'.roomPlayers = s.host.roomPlayers)
    (hqueue : ∀ queued ∈ queue, keepsPlayers queued.packet = true ∧
      ∀ id, id ≠ config.localNodeId → askedTeam id queued.packet = none) :
    Inv config { s with host := host' } where
  distinct := h.distinct
  keeps := by
    intro queued hqueued
    have hqueued : queued ∈ host'.waiting := hqueued
    rw [hwaiting] at hqueued
    rcases List.mem_append.mp hqueued with hold | hnew
    · exact h.keeps queued hold
    · exact (hqueue queued hnew).1
  each := by
    intro c hc
    apply (h.each c hc).enqueue hwaiting hroom
    intro queued hqueued
    exact (hqueue queued hqueued).2 c.id (h.foreign hc)

/-- A packet of a client is queued. -/
theorem Inv.deliver {env : Env} {host' : Host} {packet : Packet} {rest : List Packet}
    (h : Inv config s) (hmem : client ∈ s.clients) (hout : client.outbox = packet :: rest)
    (hhost : Lobby.step config s.host (env, .packet client.connection packet) = some host') :
    Inv config (({ s with host := host' } : System).setClient { client with outbox := rest }) := by
  have hsends := (h.each client hmem).own packet (hout ▸ List.mem_cons_self)
  obtain ⟨⟨origin, hwaiting⟩, hroom⟩ := deliver_host hsends hhost
  refine ⟨?_, ?_, ?_⟩
  · rw [System.ids_setClient]
    exact h.distinct
  · intro queued hqueued
    have hqueued : queued ∈ host'.waiting := hqueued
    rw [hwaiting] at hqueued
    rcases List.mem_append.mp hqueued with hold | hnew
    · exact h.keeps queued hold
    · rw [List.mem_singleton.mp hnew]
      exact keepsPlayers_of_sends hsends
  · intro c hc
    rcases System.mem_setClient hc with rfl | ⟨hold, hother⟩
    · exact (h.each client hmem).deliver hout ⟨origin, hwaiting⟩ hroom
    · apply (h.each c hold).enqueue hwaiting hroom
      intro queued hqueued
      rw [List.mem_singleton.mp hqueued]
      exact askedTeam_of_sends hsends (Ne.symm hother)

/-- A start goes out. -/
theorem Inv.start (h : Inv config s) : Inv config (s.broadcast .startMatch) where
  distinct := by
    rw [System.ids_broadcast]
    exact h.distinct
  keeps := h.keeps
  each := by
    intro c hc
    obtain ⟨old, hold, rfl⟩ := List.mem_map.mp hc
    exact (h.each old hold).start

/-- The host processes a packet, and tells the clients if the room is touched. -/
theorem Inv.process {host' : Host} {queued : Lobby.Queued} (h : Inv config s)
    (hwaiting : s.host.waiting = queued :: host'.waiting)
    (hroom : host'.roomPlayers = roomAfter config s.host.roomPlayers queued.packet) :
    Inv config (if Lobby.broadcastsLobby config s.host.roomPlayers queued.packet then
      ({ s with host := host' } : System).broadcast (.lobbyState host'.roomPlayers)
      else { s with host := host' }) := by
  have hkeeps := h.keeps queued (hwaiting ▸ List.mem_cons_self)
  have hrest : ∀ queued ∈ host'.waiting, keepsPlayers queued.packet = true :=
    fun queued hqueued => h.keeps queued (hwaiting ▸ List.mem_cons_of_mem _ hqueued)
  by_cases htold : Lobby.broadcastsLobby config s.host.roomPlayers queued.packet = true
  · rw [if_pos htold]
    refine ⟨?_, hrest, ?_⟩
    · rw [System.ids_broadcast]
      exact h.distinct
    · intro c hc
      obtain ⟨old, hold, rfl⟩ := List.mem_map.mp hc
      have hinv := h.each old hold
      obtain ⟨hpresent, hdestined⟩ := destined_process hwaiting hroom hkeeps hinv.present
      exact .inform hinv.own hpresent fun hin => hdestined.trans (hinv.agreed hin)
  · rw [if_neg htold]
    refine ⟨h.distinct, hrest, fun c hc => ?_⟩
    have hinv := h.each c hc
    obtain ⟨hpresent, hdestined⟩ := destined_process hwaiting hroom hkeeps hinv.present
    refine ⟨hinv.own, hpresent, ?_, fun hin => hdestined.trans (hinv.agreed hin)⟩
    show c.latest = host'.roomPlayers
    rw [hroom, roomAfter_of_silent (Bool.eq_false_iff.mpr htold)]
    exact hinv.current

/-- **What each step keeps**, if a client that sets up the match is caught up. -/
theorem Inv.step {a : Action} (h : Inv config s) (hcaught : CaughtUp s a)
    (hstep : step config s a = some t) : Inv config t := by
  cases a with
  | lobbySwitch id teamId => exact h.acts (fun _ ha => by cases ha) hstep
  | toggleReady id => exact h.acts (fun _ ha => by cases ha) hstep
  | switchTeam id => exact h.acts (fun _ ha => by cases ha) hstep
  | receive id => exact h.acts (fun _ ha => by cases ha) hstep
  | setup id => exact h.acts (fun _ _ => hcaught) hstep
  | deliver env id =>
      unfold Teams.step at hstep
      dsimp only at hstep
      split at hstep
      · rename_i client hfound
        split at hstep
        · rename_i packet rest hout
          obtain ⟨host, hhost, rfl⟩ := Option.map_eq_some_iff.mp hstep
          exact h.deliver (System.client?_some hfound).1 hout hhost
        · cases hstep
      · cases hstep
  | call call =>
      unfold Teams.step at hstep
      dsimp only at hstep
      split at hstep
      · rename_i packet hpacket
        have hwaiting : (s.host.enqueuePacket packet none).waiting =
            s.host.waiting ++ [⟨packet, none⟩] := (List.append_assoc ..).symm
        have hqueue : Inv config { s with host := s.host.enqueuePacket packet none } := by
          apply h.enqueue hwaiting rfl
          intro queued hqueued
          rw [List.mem_singleton.mp hqueued]
          exact own_packet hpacket
        cases hstep
        by_cases hstart : packet.isStart = true
        · rw [if_pos hstart]
          exact hqueue.start
        · rw [if_neg hstart]
          exact hqueue
      · cases hstep
        exact h
  | host env action =>
      unfold Teams.step at hstep
      dsimp only at hstep
      by_cases hmain : mainThread action = true
      · rw [if_pos hmain] at hstep
        obtain ⟨host, hhost, rfl⟩ := Option.map_eq_some_iff.mp hstep
        rcases mainThread_host hmain hhost with ⟨queued, hwaiting, hroom, hcast⟩ |
          ⟨hcast, hroom, queue, hwaiting, hqueue⟩
        · rw [hcast]
          exact h.process hwaiting hroom
        · rw [hcast]
          exact h.enqueue hwaiting hroom hqueue
      · rw [if_neg hmain] at hstep
        cases hstep

/-- Clients that have joined. -/
theorem Joined.inv (h : Joined config s) : Inv config s where
  distinct := h.distinct
  keeps := by
    rw [h.idle]
    exact fun queued hqueued => by cases hqueued
  each := by
    intro c hc
    obtain ⟨hinbox, hout, hin⟩ := h.quiet c hc
    refine ⟨?_, h.present c hc, ?_, ?_⟩
    · rw [hout]
      exact fun packet hpacket => by cases hpacket
    · rw [Client.latest, hinbox]
      exact h.copies c hc
    · rw [hin]
      exact fun hno => by cases hno

/-- **At rest the teams agree**, in every run in which each client that sets up
the match is caught up. -/
theorem teams_agree_at_rest {config : HostConfig} {s t : System} (hjoined : Joined config s)
    (h : Exec.ReachedAlong (step config) CaughtUp s t) (hrest : AtRest t) : TeamsAgree t := by
  have hinv : Inv config t :=
    h.invariant (Inv config) hjoined.inv fun s a t hinv hcaught hstep => hinv.step hcaught hstep
  obtain ⟨hidle, hquiet⟩ := hrest
  intro c hc
  obtain ⟨hinbox, hout, hin⟩ := hquiet c hc
  obtain ⟨rp, hrp, hid⟩ := (hinv.each c hc).present
  have hdestined := (hinv.each c hc).agreed hin
  unfold Client.destined Client.pending at hdestined
  rw [List.isEmpty_iff.mp hidle, List.isEmpty_iff.mp hout] at hdestined
  have hteam := team?_of_mem hrp
  rw [hid] at hteam
  have hhost : team? t.host.roomPlayers c.id = some c.localTeam :=
    hteam.trans (congrArg some hdestined)
  have hcopy := (hinv.each c hc).current
  rw [Client.latest, hinbox] at hcopy
  have hcopy : c.roomPlayers = t.host.roomPlayers := hcopy
  exact ⟨hhost, hcopy ▸ hhost⟩

/-- A host in team `1` and its guest in team `2`, who is ready. -/
def hostAndGuest : System :=
  let roomPlayers := [{ id := 100, team := 1 }, { id := 5, team := 2, isReady := true }]
  { host := {
      sessions := [{ id := 11, tag := some 5, joined := some 5 }]
      roomPlayers := roomPlayers }
    clients := [{ id := 5, connection := 11, roomPlayers := roomPlayers }] }

theorem hostAndGuest_joined : Joined { localNodeId := 100 } hostAndGuest where
  distinct := by decide
  idle := rfl
  copies := fun c hc => by rw [List.mem_singleton.mp hc]; rfl
  present := by decide
  quiet := fun c hc => by rw [List.mem_singleton.mp hc]; exact ⟨rfl, rfl, rfl⟩

/-- The guest switches in the lobby and again in the match. -/
theorem teams_agree_after_two_switches : ∃ t, AtRest t ∧ TeamsAgree t := by
  let run : List Action :=
    [.lobbySwitch 5 1, .deliver {} 5, .host {} .beginUpdate, .host {} .process, .receive 5,
      .call .startMatch, .receive 5, .setup 5, .host {} .beginUpdate, .host {} .process,
      .receive 5, .switchTeam 5, .deliver {} 5, .host {} .beginUpdate, .host {} .process,
      .receive 5]
  obtain ⟨t, ht, hrest⟩ : ∃ t, Exec.exec (step { localNodeId := 100 }) hostAndGuest run = some t ∧
      decide (AtRest t) = true :=
    Exec.exec_any (by decide +kernel)
  have halong : Exec.Along (step { localNodeId := 100 }) CaughtUp hostAndGuest run := by
    decide +kernel
  have hrest : AtRest t := of_decide_eq_true hrest
  exact ⟨t, hrest, teams_agree_at_rest hostAndGuest_joined ⟨run, ht, halong⟩ hrest⟩

/-- The run comes to rest with the teams split. -/
def ComesToSplit (run : List Action) : Prop :=
  ∃ t ∈ Exec.exec (step { localNodeId := 100 }) hostAndGuest run, AtRest t ∧ ¬ TeamsAgree t

instance (run : List Action) : Decidable (ComesToSplit run) :=
  inferInstanceAs (Decidable (∃ t ∈ Exec.exec (step { localNodeId := 100 }) hostAndGuest run, _))

/-- **The teams split for good.**  The guest's last switch in the lobby is still
on its way when the match starts, and the guest sets up the match in the team
it has left. -/
theorem teams_split :
    ¬ ∀ (config : HostConfig) (s t : System), Joined config s →
      Exec.Reached (step config) s t → AtRest t → TeamsAgree t := by
  let run : List Action :=
    [.lobbySwitch 5 1, .call .startMatch, .receive 5, .setup 5, .deliver {} 5,
      .host {} .beginUpdate, .host {} .process, .host {} .process, .receive 5, .receive 5]
  have hsplit : ComesToSplit run := by decide +kernel
  obtain ⟨t, ht, hrest, hno⟩ := hsplit
  intro hlaw
  exact hno (hlaw { localNodeId := 100 } hostAndGuest t hostAndGuest_joined ⟨run, ht⟩ hrest)

/-- The switch has reached the host, which starts the match before it takes it
off its queue. -/
example : ComesToSplit
    [.lobbySwitch 5 1, .deliver {} 5, .call .startMatch, .host {} .beginUpdate,
      .host {} .process, .host {} .process, .receive 5, .setup 5, .receive 5, .receive 5] := by
  decide +kernel

end Teams
