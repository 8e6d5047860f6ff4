import GipMultiplayer.LobbyRoom

/-!
# The match starts through the ready gate

`NetworkManager::startMatch` counts the ready players on the main thread and
puts a `StartMatchPacket` into the host's own queue; the match starts when that
packet is taken off the queue.  Three things come between the gate and the
start.  A client session may send the packet itself; the gate asks for one
fewer than all players without asking which one is not ready; and a player may
join or take back its readiness while the packet waits.

* `ThroughGate` — the law, for one step;
* `Gated` — the condition on each step;
* `match_starts_through_gate` — the law in every run under the condition;
* `match_starts_ungated` — a client starts the match.
-/

namespace Lobby

/-! ## The law -/

/-- Every player of the room other than the host is ready. -/
def OthersReady (config : HostConfig) (roomPlayers : List RoomPlayerInfo) : Prop :=
  ∀ rp ∈ roomPlayers, rp.id ≠ config.localNodeId → rp.isReady = true

instance (config : HostConfig) (roomPlayers : List RoomPlayerInfo) :
    Decidable (OthersReady config roomPlayers) :=
  inferInstanceAs (Decidable (∀ rp ∈ roomPlayers, _ → _))

/-- **The match starts through the gate**: only by taking a start of the host's
own off the queue, with everyone else ready. -/
def ThroughGate (config : HostConfig) (s : Host) (a : HostAction) (t : Host) : Prop :=
  s.matchInProgress = false → t.matchInProgress = true →
    a = .process ∧ (∃ rest, s.batch = ⟨.startMatch, none⟩ :: rest) ∧
      OthersReady config s.roomPlayers

/-! ## The condition -/

/-- A start waits to be processed. -/
def StartWaits (host : Host) : Prop :=
  ∃ queued ∈ host.waiting, queued.packet.isStart = true

instance (host : Host) : Decidable (StartWaits host) :=
  inferInstanceAs (Decidable (∃ queued ∈ host.waiting, _))

/-- The one player that is not ready is not the host. -/
def LetsOneThrough (config : HostConfig) (roomPlayers : List RoomPlayerInfo) : Prop :=
  roomPlayers.countP (!·.isReady) = 1 ∧
    ∃ rp ∈ roomPlayers, rp.id ≠ config.localNodeId ∧ rp.isReady = false

instance (config : HostConfig) (roomPlayers : List RoomPlayerInfo) :
    Decidable (LetsOneThrough config roomPlayers) :=
  inferInstanceAs (Decidable (_ ∧ ∃ rp ∈ roomPlayers, _))

/-- The packet adds a player, or takes back the readiness of one, other than
the host. -/
def Unreadies (config : HostConfig) (roomPlayers : List RoomPlayerInfo) : Packet → Prop
  | .lobbyJoin senderId _ _ =>
      senderId ≠ config.localNodeId ∧ ¬ roomPlayers.any (·.id == senderId) ∧
        roomPlayers.length < config.lobbyTeamSize.toNat * 2
  | .toggleReady senderId =>
      senderId ≠ config.localNodeId ∧ ∃ rp ∈ roomPlayers, rp.id = senderId ∧ rp.isReady = true
  | _ => False

instance (config : HostConfig) (roomPlayers : List RoomPlayerInfo) :
    (packet : Packet) → Decidable (Unreadies config roomPlayers packet)
  | .lobbyJoin _ _ _ => inferInstanceAs (Decidable (_ ∧ _ ∧ _))
  | .toggleReady _ => inferInstanceAs (Decidable (_ ∧ ∃ rp ∈ roomPlayers, _))
  | .nodeState _ _ | .nodeLeave _ | .playerFire _ | .playerHit _ _ | .playerKilled _ _
  | .serverQueryReq | .switchTeam _ _ | .startMatch | .keepAlive | .ping _ _ | .pong _
  | .chatMessage _ | .voiceUplink _ | .other => .isFalse id

/-- No match is in progress and no start waits, so the next start decides. -/
def Deciding (host : Host) : Prop :=
  host.matchInProgress = false ∧ ¬ StartWaits host

instance (host : Host) : Decidable (Deciding host) :=
  inferInstanceAs (Decidable (_ ∧ _))

/-- **The condition of the law.**  The start that decides is not a client's; the
host calls it when the one player who is not ready, if there is exactly one, is
the host; and while it waits, no other player joins or takes back its
readiness. -/
def Gated (config : HostConfig) (host : Host) : HostAction → Prop
  | .packet _ packet => packet.isStart = true → ¬ Deciding host
  | .own call => call = .startMatch → Deciding host → ¬ LetsOneThrough config host.roomPlayers
  | .process => host.matchInProgress = false → StartWaits host →
      ∀ queued ∈ host.batch.head?, ¬ Unreadies config host.roomPlayers queued.packet
  | _ => True

instance (config : HostConfig) (host : Host) :
    (a : HostAction) → Decidable (Gated config host a)
  | .packet _ _ => inferInstanceAs (Decidable (_ → ¬ _))
  | .own _ => inferInstanceAs (Decidable (_ → _ → ¬ _))
  | .process => inferInstanceAs (Decidable (_ → _ → ∀ queued ∈ host.batch.head?, ¬ _))
  | .connect _ _ _ | .die _ | .disconnected _ | .beginUpdate | .sweep | .kick _ | .roomCode
  | .setupMatch | .switchTeamInMatch | .login _ | .logout => .isTrue trivial

variable {config : HostConfig} {env : Env} {s t : Host}

/-! ## The gate -/

/-- **What the gate checks**: with no more than one player not ready, and that
one the host if there is one, everyone else is ready. -/
theorem othersReady_of_gate (hopen : OwnCall.packet config s .startMatch = some .startMatch)
    (hone : ¬ LetsOneThrough config s.roomPlayers) : OthersReady config s.roomPlayers := by
  simp only [OwnCall.packet] at hopen
  split_ifs at hopen with hgate
  rw [not_or, not_lt] at hgate
  intro rp hrp hother
  by_contra hready
  have hunready : rp.isReady = false := by simpa using hready
  have hcount := List.length_eq_countP_add_countP (l := s.roomPlayers)
    fun rp : RoomPlayerInfo => rp.isReady
  have hpos : 0 < s.roomPlayers.countP (!·.isReady) :=
    List.countP_pos_iff.mpr ⟨rp, hrp, by simp [hunready]⟩
  have hsame : s.roomPlayers.countP (fun rp => decide ¬ rp.isReady = true) =
      s.roomPlayers.countP (!·.isReady) := List.countP_congr fun rp _ => by simp
  rw [hsame] at hcount
  exact hone ⟨by omega, rp, hrp, hother, hunready⟩

/-- A call of the host's puts a start into its queue only as `startMatch`. -/
theorem own_start {call : OwnCall} (h : call.packet config s = some .startMatch) :
    call = .startMatch := by
  cases call with
  | startMatch => rfl
  | hostLobby => cases h
  | toggleReady => cases h
  | switchTeam teamId => cases h
  | chat channel text targetId =>
      simp only [OwnCall.packet] at h
      split_ifs at h <;> cases h

/-! ## What keeps everyone ready -/

theorem OthersReady.subset {room room' : List RoomPlayerInfo} (h : OthersReady config room)
    (hsub : room' ⊆ room) : OthersReady config room' :=
  fun rp hrp hother => h rp (hsub hrp) hother

/-- **One packet keeps everyone ready**, unless it is one that must not come. -/
theorem OthersReady.after {room : List RoomPlayerInfo} (h : OthersReady config room)
    {packet : Packet} (hkeeps : ¬ Unreadies config room packet) :
    OthersReady config (roomAfter config room packet) := by
  cases packet with
  | nodeLeave netid => exact h.subset (List.eraseP_subset ..)
  | startMatch =>
      intro rp hrp _
      obtain ⟨old, -, rfl⟩ := List.mem_map.mp hrp
      rfl
  | lobbyJoin senderId playerName password =>
      unfold roomAfter
      dsimp only
      split_ifs with hknown hfull
      · exact h
      · exact h
      · intro rp hrp hother
        rcases List.mem_append.mp hrp with hold | hnew
        · exact h rp hold hother
        · obtain rfl := List.mem_singleton.mp hnew
          exact absurd ⟨hother, hknown, not_le.mp hfull⟩ hkeeps
  | toggleReady senderId =>
      intro rp hrp hother
      rcases mem_modifyPlayer hrp with hold | ⟨old, hold, hid, rfl⟩
      · exact h rp hold hother
      · have hsender : senderId ≠ config.localNodeId := hid ▸ hother
        have hready := h old hold (hid.symm ▸ hsender)
        exact absurd ⟨hsender, old, hold, hid, hready⟩ hkeeps
  | switchTeam senderId teamId =>
      intro rp hrp hother
      rcases mem_modifyPlayer hrp with hold | ⟨old, hold, -, rfl⟩
      · exact h rp hold hother
      · exact h old hold hother
  | _ => exact h

/-! ## Runs -/

/-- The invariant: as long as no match is in progress, the first start that
waits is the host's own, and everyone else is ready for it. -/
def GateInv (config : HostConfig) (host : Host) : Prop :=
  host.matchInProgress = false →
    ∀ queued ∈ host.waiting.find? (·.packet.isStart),
      queued.origin = none ∧ OthersReady config host.roomPlayers

theorem startWaits_of_find {host : Host} {queued : Queued}
    (h : queued ∈ host.waiting.find? (·.packet.isStart)) : StartWaits host :=
  ⟨queued, List.mem_of_find?_eq_some h, by simpa using List.find?_some h⟩

/-- An action that adds the deciding start is a call of the host's own, through
an open gate. -/
theorem arrivals_start {a : HostAction} (hgated : Gated config s a) (hdeciding : Deciding s)
    {queued : Queued} (hqueued : queued ∈ arrivals config s a)
    (hstart : queued.packet.isStart = true) :
    queued.origin = none ∧ OthersReady config s.roomPlayers := by
  cases arrival_of_mem hqueued with
  | forwarded c packet session forwarded hsession hforwarded =>
      have hsame : packet.isStart = true := by
        cases packet with
        | startMatch => rfl
        | lobbyJoin senderId playerName password =>
            simp only [Packet.forwarded] at hforwarded
            split_ifs at hforwarded
            cases hforwarded
            cases hstart
        | _ =>
            cases hforwarded
            try cases hstart
      exact absurd hdeciding (hgated hsame)
  | own call packet hpacket =>
      obtain rfl := Packet.isStart_iff.mp hstart
      obtain rfl := own_start hpacket
      exact ⟨rfl, othersReady_of_gate hpacket (hgated rfl hdeciding)⟩
  | leave _ id => cases hstart
  | switched teamId => cases hstart

/-- **What each gated step keeps.** -/
theorem GateInv.step {a : Env × HostAction} (h : GateInv config s)
    (hgated : Gated config s a.2) (hstep : step config s a = some t) : GateInv config t := by
  intro hidle queued hqueued
  cases step_effect hstep with
  | processed first rest action batch waiting room started =>
      rw [hidle] at started
      obtain ⟨hbefore, hother⟩ := Bool.or_eq_false_iff.mp started.symm
      have hwaiting : s.waiting = first :: t.waiting := by
        rw [waiting, Host.waiting, batch, List.cons_append]
      have hfound : queued ∈ s.waiting.find? (·.packet.isStart) := by
        rw [hwaiting, List.find?_cons_of_neg (by simp [hother])]
        exact hqueued
      obtain ⟨horigin, hready⟩ := h hbefore queued hfound
      rw [action] at hgated
      have hkeeps := hgated hbefore (startWaits_of_find hfound) first (by rw [batch]; rfl)
      exact ⟨horigin, room ▸ hready.after hkeeps⟩
  | kicked playerId action waiting room started =>
      rw [waiting] at hqueued
      obtain ⟨horigin, hready⟩ := h (started ▸ hidle) queued hqueued
      exact ⟨horigin, room ▸ hready.subset List.filter_sublist.subset⟩
  | arrived quiet waiting room started =>
      rw [started] at hidle
      rw [room]
      rw [waiting, List.find?_append] at hqueued
      cases hold : s.waiting.find? (·.packet.isStart) with
      | some first =>
          rw [hold] at hqueued
          exact h hidle queued (hold.trans hqueued)
      | none =>
          rw [hold, Option.none_or] at hqueued
          have hnone : ¬ StartWaits s := by
            rintro ⟨first, hfirst, hstart⟩
            exact List.find?_eq_none.mp hold first hfirst hstart
          exact arrivals_start hgated ⟨hidle, hnone⟩ (List.mem_of_find?_eq_some hqueued)
            (by simpa using List.find?_some hqueued)

/-- **The match starts only through the ready gate**, in every run whose steps
meet the condition. -/
theorem match_starts_through_gate {config : HostConfig} {env : Env} {s t : Host}
    {a : Env × HostAction}
    (h : Exec.ReachedAlong (step config) (fun s a => Gated config s a.2) (start config env) s)
    (hstep : step config s a = some t) : ThroughGate config s a.2 t := by
  have hinv : GateInv config s := by
    refine h.invariant (GateInv config) ?_ fun s a t hinv hgated hstep =>
      hinv.step hgated hstep
    unfold start
    split_ifs <;> exact fun _ queued hqueued => by cases hqueued
  intro hidle hstarted
  cases step_effect hstep with
  | processed first rest action batch waiting room started =>
      rw [hstarted, hidle, Bool.false_or] at started
      obtain ⟨packet, origin⟩ := first
      obtain rfl := Packet.isStart_iff.mp started.symm
      obtain ⟨horigin, hready⟩ := hinv hidle ⟨.startMatch, origin⟩ (by
        rw [Host.waiting, batch]
        rfl)
      obtain rfl : origin = none := horigin
      exact ⟨action, ⟨rest, batch⟩, hready⟩
  | kicked playerId action waiting room started =>
      rw [started, hidle] at hstarted
      cases hstarted
  | arrived quiet waiting room started =>
      rw [started, hidle] at hstarted
      cases hstarted

/-- The host waits for its one guest to be ready, and starts. -/
theorem match_starts_with_a_guest :
    ∃ s t : Host, s.matchInProgress = false ∧ t.matchInProgress = true ∧
      ThroughGate { localNodeId := 100 } s .process t := by
  let run : List (Env × HostAction) :=
    [({}, .own .hostLobby), ({}, .connect 11 true true),
      ({}, .packet 11 (.lobbyJoin 5 [65] [])), ({}, .packet 11 (.toggleReady 5)),
      ({}, .beginUpdate), ({}, .process), ({}, .process), ({}, .process),
      ({}, .own .startMatch), ({}, .beginUpdate)]
  obtain ⟨s, hs, hout⟩ : ∃ s, Exec.exec (step { localNodeId := 100 })
      (start { localNodeId := 100 } {}) run = some s ∧
      decide (s.matchInProgress = false ∧ ∃ t ∈ step { localNodeId := 100 } s ({}, .process),
        t.matchInProgress = true) = true :=
    Exec.exec_any (by decide +kernel)
  have halong : Exec.Along (step { localNodeId := 100 })
      (fun s a => Gated { localNodeId := 100 } s a.2) (start { localNodeId := 100 } {}) run := by
    decide +kernel
  obtain ⟨hidle, t, hstep, hstarted⟩ := of_decide_eq_true hout
  exact ⟨s, t, hidle, hstarted, match_starts_through_gate ⟨run, hs, halong⟩ hstep⟩

/-- The run ends in a step that starts the match although a player other than
the host is not ready. -/
def StartsUnready (config : HostConfig) (run : List (Env × HostAction)) : Prop :=
  ∃ s ∈ Exec.exec (step config) (start config {}) run,
    ∃ t ∈ step config s ({}, .process), s.matchInProgress = false ∧
      t.matchInProgress = true ∧ ¬ OthersReady config s.roomPlayers

instance (config : HostConfig) (run : List (Env × HostAction)) :
    Decidable (StartsUnready config run) :=
  inferInstanceAs (Decidable (∃ s ∈ Exec.exec (step config) (start config {}) run,
    ∃ t ∈ step config s ({}, .process), _))

/-- **The match starts past the gate.**  A guest joins a lobby and sends the
`StartMatchPacket` itself. -/
theorem match_starts_ungated :
    ¬ ∀ (config : HostConfig) (env : Env) (s t : Host) (a : Env × HostAction),
      config.isDedicatedServer = false →
      Exec.Reached (step config) (start config env) s → step config s a = some t →
      ThroughGate config s a.2 t := by
  let run : List (Env × HostAction) :=
    [({}, .own .hostLobby), ({}, .connect 11 true true),
      ({}, .packet 11 (.lobbyJoin 5 [65] [])), ({}, .packet 11 .startMatch),
      ({}, .beginUpdate), ({}, .process), ({}, .process)]
  have hunready : StartsUnready { localNodeId := 100 } run := by decide +kernel
  obtain ⟨s, hs, t, hstep, hidle, hstarted, hothers⟩ := hunready
  intro hlaw
  exact hothers (hlaw { localNodeId := 100 } {} s t ({}, .process) rfl ⟨run, hs⟩ hstep
    hidle hstarted).2.2

/-- The gate lets one player through when the host has clicked ready. -/
example : StartsUnready { localNodeId := 100 }
    [({}, .own .hostLobby), ({}, .own .toggleReady), ({}, .connect 11 true true),
      ({}, .packet 11 (.lobbyJoin 5 [65] [])), ({}, .beginUpdate), ({}, .process),
      ({}, .process), ({}, .process), ({}, .own .startMatch), ({}, .beginUpdate)] := by
  decide +kernel

/-- A player joins while the start waits. -/
example : StartsUnready { localNodeId := 100 }
    [({}, .own .hostLobby), ({}, .connect 11 true true), ({}, .beginUpdate), ({}, .process),
      ({}, .packet 11 (.lobbyJoin 5 [65] [])), ({}, .own .startMatch), ({}, .beginUpdate),
      ({}, .process)] := by
  decide +kernel

end Lobby
