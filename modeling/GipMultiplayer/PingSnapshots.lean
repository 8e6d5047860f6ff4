import GipMultiplayer.LobbyRoom

/-!
# Ping snapshots

Clients report their ping to the host, which keeps the last report under the
tag of the session it came on.  Once a second `update` broadcasts the map.
Players come and go meanwhile; the map is never pruned.

Every snapshot is kept with the room at that moment and with what each player
last reported.

* `step_pings` — what a step does to the map;
* `PingInv` — the map is what was last reported;
* `ping_snapshots` — each snapshot describes the room exactly if everyone who
  ever reported is in it;
* `ping_snapshots_left` — a player that has left is still reported.
-/

namespace Lobby

open Voice (ConnectionId)

/-! ## Definitions -/

/-- `PlayerPingSnapshotPacket`. -/
structure PingSnapshot where
  playerIds : List UInt32 := []
  playerPings : List UInt32 := []
  deriving DecidableEq, Repr

/-- The packet of `broadcastPingSnapshot`. -/
def pingSnapshot (host : Host) : PingSnapshot :=
  { playerIds := host.hostPlayerPings.entries.map (·.1)
    playerPings := host.hostPlayerPings.entries.map fun kv => (Int32.ofInt kv.2).toUInt32 }

/-- The report of a packet: the player it is kept under, and the ping. -/
def Packet.report (session : Session) : Packet → Option (UInt32 × UInt32)
  | .ping _ reportedPing => (session.tag.filter (· ≠ 0)).map fun id => (id, reportedPing)
  | _ => none

/-- The report that an action brings. -/
def pingReport (host : Host) : HostAction → Option (UInt32 × UInt32)
  | .packet c packet => (host.session? c).bind packet.report
  | _ => none

/-- A snapshot that was broadcast, with the room at that moment and what each
player had last reported. -/
structure SentSnapshot where
  snapshot : PingSnapshot
  room : List RoomPlayerInfo
  lastReported : UInt32 → Option UInt32

/-- The host, its snapshot timer, what each player last reported and the
snapshots broadcast so far. -/
structure Pings where
  host : Host
  pingSnapshotTimer : ℚ := 0
  lastReported : UInt32 → Option UInt32 := fun _ => none
  sent : List SentSnapshot := []

/-- An action of the host, or the ping timer of `update`. -/
inductive PingAction
  | host (env : Env) (action : HostAction)
  | timer (deltaTime : ℚ)

/-- One step. -/
def pingStep (config : HostConfig) (s : Pings) : PingAction → Option Pings
  | .host env action =>
      (step config s.host (env, action)).map fun host =>
        { s with
          host := host
          lastReported := fun id =>
            match pingReport s.host action with
            | some (d, ping) => if id = d then some ping else s.lastReported id
            | none => s.lastReported id }
  | .timer deltaTime =>
      let pingSnapshotTimer := s.pingSnapshotTimer + deltaTime
      if 1 ≤ pingSnapshotTimer then
        some { s with
          pingSnapshotTimer := 0
          sent := s.sent ++ [⟨pingSnapshot s.host, s.host.roomPlayers, s.lastReported⟩] }
      else some { s with pingSnapshotTimer := pingSnapshotTimer }

/-- The host as it starts. -/
def startPings (config : HostConfig) (env : Env) : Pings :=
  { host := start config env }

/-! ## The law -/

/-- **The snapshot describes the room**: each id once, of a player in the room,
with what it last reported. -/
structure SentSnapshot.Describes (sent : SentSnapshot) : Prop where
  once : sent.snapshot.playerIds.Nodup
  inRoom : ∀ id ∈ sent.snapshot.playerIds, ∃ rp ∈ sent.room, rp.id = id
  last : ∀ entry ∈ sent.snapshot.playerIds.zip sent.snapshot.playerPings,
    sent.lastReported entry.1 = some entry.2
  bounded : sent.snapshot.playerIds.length ≤ sent.room.length

/-- **The condition**: everyone who ever reported a ping is in the room. -/
def SentSnapshot.ReportersPresent (sent : SentSnapshot) : Prop :=
  ∀ id, sent.lastReported id ≠ none → ∃ rp ∈ sent.room, rp.id = id

variable {config : HostConfig} {env : Env} {s t : Host}

/-! ## The map -/

/-- The map with one more report. -/
def noted (pings : AList fun _ : UInt32 => Int) (report : Option (UInt32 × UInt32)) :
    AList fun _ : UInt32 => Int :=
  match report with
  | some (id, ping) => pings.insert id ping.toInt32.toInt
  | none => pings

theorem onPacket_pings (session : Session) (packet : Packet) :
    (onPacket config env s session packet).hostPlayerPings =
      noted s.hostPlayerPings (packet.report session) := by
  cases packet with
  | lobbyJoin senderId playerName password =>
      unfold onPacket
      dsimp only
      split_ifs <;> rfl
  | ping timestamp reportedPing =>
      unfold onPacket Packet.report
      dsimp only
      cases session.tag with
      | none => rfl
      | some id =>
          dsimp only
          split_ifs with hid
          · rw [Option.filter_some_pos (by simpa using hid)]
            rfl
          · rw [Option.filter_some_neg (by simpa using hid)]
            rfl
  | _ => rfl

/-- The main thread's packets are no concern of the map. -/
theorem onPacketReceived_pings (queued : Queued) :
    (onPacketReceived config env s queued).hostPlayerPings = s.hostPlayerPings := by
  obtain ⟨packet, origin⟩ := queued
  cases packet with
  | nodeLeave netid =>
      show (receiveLeave config env s netid).hostPlayerPings = s.hostPlayerPings
      unfold receiveLeave
      split_ifs <;> rfl
  | chatMessage message =>
      obtain ⟨stamps, relays, heq, -⟩ := receiveChat_eq env s origin message
      show (receiveChat env s origin message).hostPlayerPings = s.hostPlayerPings
      rw [heq]
  | lobbyJoin senderId playerName password =>
      show (receiveJoin config env s senderId playerName).hostPlayerPings = s.hostPlayerPings
      unfold receiveJoin
      split_ifs <;> rfl
  | _ => rfl

/-- **One step**: the map takes a report, and is never pruned. -/
theorem step_pings {a : Env × HostAction} (h : step config s a = some t) :
    t.hostPlayerPings = noted s.hostPlayerPings (pingReport s a.2) := by
  obtain ⟨env, action⟩ := a
  have hperformed := step_performed h
  dsimp only at hperformed ⊢
  cases hperformed with
  | connect c adopted zdt =>
      unfold connect
      dsimp only
      split_ifs <;> rfl
  | packet c packet session hsession =>
      rw [onPacket_pings, pingReport, show s.session? c = some session from hsession]
      rfl
  | disconnected c session =>
      unfold onPeerDisconnected
      dsimp only
      cases session.tag with
      | none => rfl
      | some id =>
          dsimp only
          split_ifs <;> rfl
  | process queued rest => exact onPacketReceived_pings queued
  | sweep =>
      rw [sweepSessions_eq]
      rfl
  | kick playerId =>
      unfold kickPlayer
      split_ifs <;> rfl
  | _ => rfl

/-! ## Runs -/

/-- The map is what was last reported, and every snapshot was taken of such a
map. -/
structure PingInv (s : Pings) : Prop where
  last : ∀ id, s.host.hostPlayerPings.lookup id =
    (s.lastReported id).map fun ping => ping.toInt32.toInt
  sent : ∀ sent ∈ s.sent, ∃ pings : AList fun _ : UInt32 => Int,
    sent.snapshot = pingSnapshot { hostPlayerPings := pings } ∧
      ∀ id, pings.lookup id = (sent.lastReported id).map fun ping => ping.toInt32.toInt

/-- **One step.** -/
theorem PingInv.step {s t : Pings} (h : PingInv s) {a : PingAction}
    (hstep : pingStep config s a = some t) : PingInv t := by
  cases a with
  | host env action =>
      obtain ⟨host, hhost, rfl⟩ := Option.map_eq_some_iff.mp hstep
      refine ⟨fun id => ?_, h.sent⟩
      dsimp only
      rw [step_pings hhost]
      dsimp only
      cases pingReport s.host action with
      | none => exact h.last id
      | some report =>
          obtain ⟨d, ping⟩ := report
          dsimp only [noted]
          split_ifs with hid
          · rw [hid, AList.lookup_insert]
            rfl
          · rw [AList.lookup_insert_ne hid]
            exact h.last id
  | timer deltaTime =>
      unfold pingStep at hstep
      dsimp only at hstep
      split_ifs at hstep
      · cases hstep
        refine ⟨h.last, List.forall_mem_append.mpr ⟨h.sent, List.forall_mem_singleton.mpr ?_⟩⟩
        exact ⟨s.host.hostPlayerPings, rfl, h.last⟩
      · cases hstep
        exact ⟨h.last, h.sent⟩

theorem PingInv.reached {s : Pings}
    (h : Exec.Reached (pingStep config) (startPings config env) s) : PingInv s := by
  refine h.invariant PingInv ⟨fun id => ?_, ?_⟩ fun s a t hs ht => hs.step ht
  · unfold startPings start
    split_ifs <;> rfl
  · intro sent hsent
    cases hsent

/-! ## The snapshots -/

section

variable {sent : SentSnapshot} {pings : AList fun _ : UInt32 => Int}
  (hsnapshot : sent.snapshot = pingSnapshot { hostPlayerPings := pings })
  (hlast : ∀ id, pings.lookup id = (sent.lastReported id).map fun ping => ping.toInt32.toInt)

include hsnapshot

/-- A map has each key once. -/
theorem playerIds_nodup : sent.snapshot.playerIds.Nodup := by
  rw [hsnapshot]
  exact pings.keys_nodup

include hlast

/-- The snapshot lists everyone who ever reported. -/
theorem mem_playerIds {id : UInt32} :
    id ∈ sent.snapshot.playerIds ↔ sent.lastReported id ≠ none := by
  have hkeys : id ∈ sent.snapshot.playerIds ↔ id ∈ pings := by
    rw [hsnapshot]
    exact Iff.rfl
  rw [hkeys, ← not_iff_not, not_not, ← AList.lookup_eq_none, hlast, Option.map_eq_none_iff]

/-- A ping comes back from the map as it was reported. -/
theorem last_of_mem_zip {entry : UInt32 × UInt32}
    (hentry : entry ∈ sent.snapshot.playerIds.zip sent.snapshot.playerPings) :
    sent.lastReported entry.1 = some entry.2 := by
  rw [hsnapshot, pingSnapshot, List.zip_map', List.mem_map] at hentry
  obtain ⟨kv, hkv, rfl⟩ := hentry
  have hlookup : pings.lookup kv.1 = some kv.2 := AList.mem_lookup_iff.mpr hkv
  rw [hlast] at hlookup
  obtain ⟨ping, hping, hvalue⟩ := Option.map_eq_some_iff.mp hlookup
  dsimp only
  rw [hping, ← hvalue, Int32.ofInt_toInt]
  rfl

/-- **A snapshot describes the room exactly if everyone who ever reported is in
it.** -/
theorem describes_iff : sent.Describes ↔ sent.ReportersPresent := by
  constructor
  · intro h id hid
    exact h.inRoom id ((mem_playerIds hsnapshot hlast).mpr hid)
  · intro h
    have hroom : ∀ id ∈ sent.snapshot.playerIds, ∃ rp ∈ sent.room, rp.id = id :=
      fun id hid => h id ((mem_playerIds hsnapshot hlast).mp hid)
    have hsubset : sent.snapshot.playerIds ⊆ sent.room.map (·.id) :=
      fun id hid => List.mem_map.mpr (hroom id hid)
    have honce := playerIds_nodup hsnapshot
    refine ⟨honce, hroom, fun entry => last_of_mem_zip hsnapshot hlast, ?_⟩
    have hlength := (honce.subperm hsubset).length_le
    rwa [List.length_map] at hlength

end

/-- **Ping snapshots.**  In every run, each snapshot lists everyone who ever
reported a ping, once and with the value last reported; and it describes the
room exactly if they all are in the room when it is sent. -/
theorem ping_snapshots {s : Pings}
    (h : Exec.Reached (pingStep config) (startPings config env) s) :
    ∀ sent ∈ s.sent, sent.snapshot.playerIds.Nodup ∧
      (∀ id, id ∈ sent.snapshot.playerIds ↔ sent.lastReported id ≠ none) ∧
      (∀ entry ∈ sent.snapshot.playerIds.zip sent.snapshot.playerPings,
        sent.lastReported entry.1 = some entry.2) ∧
      (sent.Describes ↔ sent.ReportersPresent) := by
  intro sent hsent
  obtain ⟨pings, hsnapshot, hlast⟩ := (PingInv.reached h).sent sent hsent
  exact ⟨playerIds_nodup hsnapshot, fun id => mem_playerIds hsnapshot hlast,
    fun entry => last_of_mem_zip hsnapshot hlast, describes_iff hsnapshot hlast⟩

/-- A player joins and reports a ping of 30; it leaves or not, and a second
passes. -/
def pingRun (leaves : Bool) : List PingAction :=
  [.host {} (.connect 11 true true), .host {} (.packet 11 (.lobbyJoin 5 [65] [])),
    .host {} .beginUpdate, .host {} .process, .host {} .sweep, .timer (1 / 2),
    .host {} (.packet 11 (.ping 0 30))] ++
  (if leaves then [.host {} (.disconnected 11)] else []) ++
  [.host {} .beginUpdate] ++ (if leaves then [.host {} .process] else []) ++
  [.host {} .sweep, .timer (1 / 2)]

/-- A player that has stayed is reported once, with its ping. -/
theorem ping_snapshots_stayed :
    ∃ s : Pings, ∃ sent ∈ s.sent, sent.snapshot = ⟨[5], [30]⟩ ∧ sent.Describes := by
  obtain ⟨s, hs, htest⟩ := @Exec.exec_any _ _ (pingStep { localNodeId := 100 })
    (startPings { localNodeId := 100 } {}) (pingRun false)
    (fun s => ∃ sent ∈ s.sent, sent.snapshot = ⟨[5], [30]⟩ ∧ sent.room.map (·.id) = [5])
    (by decide +kernel)
  obtain ⟨sent, hsent, hsnapshot, hroom⟩ := of_decide_eq_true htest
  obtain ⟨-, hlisted, -, hiff⟩ := ping_snapshots ⟨pingRun false, hs⟩ sent hsent
  refine ⟨s, sent, hsent, hsnapshot, hiff.mpr fun id hid => ?_⟩
  have hmem : id ∈ sent.room.map (·.id) := by
    rw [← hlisted, hsnapshot] at hid
    rw [hroom]
    exact hid
  exact List.mem_map.mp hmem

/-- A player that has left is still reported, to an empty room. -/
theorem ping_snapshots_left :
    ¬ ∀ (config : HostConfig) (env : Env) (s : Pings),
      Exec.Reached (pingStep config) (startPings config env) s →
      ∀ sent ∈ s.sent, (∀ id ∈ sent.snapshot.playerIds, ∃ rp ∈ sent.room, rp.id = id) ∧
        sent.snapshot.playerIds.length ≤ sent.room.length := by
  intro hlaw
  obtain ⟨s, hs, htest⟩ := @Exec.exec_any _ _ (pingStep { localNodeId := 100 })
    (startPings { localNodeId := 100 } {}) (pingRun true)
    (fun s => ∃ sent ∈ s.sent, sent.snapshot = ⟨[5], [30]⟩ ∧ sent.room = [])
    (by decide +kernel)
  obtain ⟨sent, hsent, hsnapshot, hroom⟩ := of_decide_eq_true htest
  have hbounded := (hlaw _ _ s ⟨pingRun true, hs⟩ sent hsent).2
  rw [hsnapshot, hroom] at hbounded
  exact absurd hbounded (by decide)

end Lobby
