import GipMultiplayer.VoiceNetwork

/-!
# Downlink team isolation

With the global switch off, what a client accepts was routed to it as a member
of the session it is in, by a speaker of its own team, however long the packet
travelled and whatever happened to the teams meanwhile.

The router stamps a downlink with the recipient's generation at the moment of
routing, the client compares it with the generation of its last control, and a
generation stands for one membership only.

* `Net.Quiet` — the invariant of runs with the switch off, in which sessions
  are set by controls alone;
* `accepted_relay` — an accepted downlink names the membership of the client's
  control;
* `downlink_team_isolation` — the law.
-/

namespace Voice

/-- The steps of the law: everything but turning the global switch on and
setting a client's session without a control. -/
def NetStep.Isolated : NetStep → Bool
  | .setHearEnemiesVoice enable => !enable
  | .client _ (.setSession ..) => false
  | _ => true

namespace Net

variable {honest : ConnectionId → Bool} {s : Net}

/-- The switch has always been off, and a client without a control is in no
session. -/
structure Quiet (s : Net) : Prop where
  off : s.router.hearEnemies = false
  relays : ∀ relay ∈ s.relays, relay.router.hearEnemies = false
  idle : ∀ c, (s.clients c).applied = none → (s.clients c).processor.gate.sessionid = 0

theorem beginControl_hearEnemies (router : Router) (now : TimePoint) (c : ConnectionId)
    (requested : Option PeerState) :
    (Voice.beginControl router now c requested).1.hearEnemies = router.hearEnemies := by
  rw [beginControl_eq]
  cases effectiveRequest requested with
  | none =>
      simp only [beginClearPeerState]
      cases router.peers.lookup c <;> dsimp only
      split_ifs <;> rfl
  | some newstate =>
      simp only [beginSetPeerState]
      cases router.peers.lookup c <;> dsimp only
      split_ifs <;> rfl

theorem handleVoicePacket_hearEnemies (router : Router) (now : TimePoint) (c : ConnectionId)
    (packet : UplinkPacket) (sendOk : ConnectionId → Bool) :
    (handleVoicePacket router now c packet sendOk).1.hearEnemies = router.hearEnemies := by
  have hroute : (routeVoicePacket (countReceived router packet) now c packet).1.hearEnemies =
      router.hearEnemies := by
    unfold routeVoicePacket countReceived
    cases router.peers.lookup c <;> dsimp only
    split_ifs <;> rfl
  unfold handleVoicePacket
  split_ifs
  · rfl
  · split <;> rename_i heq <;> rw [heq] at hroute <;> exact hroute

theorem addPeer_hearEnemies (router : Router) (now : TimePoint) (c : ConnectionId)
    (callback : Bool) :
    (Voice.addPeer router now c callback).1.hearEnemies = router.hearEnemies := by
  unfold Voice.addPeer
  dsimp only
  split_ifs <;> rfl

theorem confirmControl_hearEnemies (router : Router) (call : ControlCall) :
    (Voice.confirmControl router call).1.hearEnemies = router.hearEnemies := by
  unfold Voice.confirmControl
  cases router.peers.lookup call.connectionid <;> dsimp only
  split_ifs <;> rfl

/-- A call other than a direct session keeps a client without a control out of
any session. -/
theorem idle_perform {client : Client} (clock : Nat) (call : ClientCall)
    (h : client.applied = none → client.processor.gate.sessionid = 0)
    (hcall : ∀ sessionid generation playerid,
      call ≠ .setSession sessionid generation playerid)
    (hnone : client.appliedAfter call = none) :
    (client.run clock call).gate.sessionid = 0 := by
  rcases client.run_session clock call with
    ⟨hsame, hsession⟩ | ⟨-, ⟨_, _, _, rfl⟩ | rfl⟩ | ⟨control, hset, -⟩
  · rw [hsession.1]
    exact h (hsame ▸ hnone)
  · exact absurd rfl (hcall _ _ _)
  · rfl
  · simp [hset] at hnone

theorem Quiet.perform (h : Quiet s) (c : ConnectionId) (call : ClientCall)
    (hcall : ∀ sessionid generation playerid,
      call ≠ .setSession sessionid generation playerid) : Quiet (s.perform c call) where
  off := h.off
  relays := h.relays
  idle d hnone := by
    by_cases hd : d = c
    · subst hd
      simp only [Net.perform, Function.update_self] at hnone ⊢
      exact idle_perform s.clock call (h.idle d) hcall hnone
    · simp only [Net.perform, Function.update_of_ne hd] at hnone ⊢
      exact h.idle d hnone

/-- **Step lemma.** -/
theorem quiet_step {t : Net} {a : NetStep} (h : Quiet s) (ha : a.Isolated = true)
    (ht : step honest s a = some t) : Quiet t := by
  obtain ⟨m, hm, rfl⟩ := Option.map_eq_some_iff.mp ht
  suffices hquiet : Quiet m from ⟨hquiet.off, hquiet.relays, hquiet.idle⟩
  cases a with
  | addPeer now c callback =>
      simp only [act] at hm
      by_cases hnew : c ∈ s.registered
      · simp [hnew] at hm
      · rw [if_neg hnew] at hm
        cases hm
        exact ⟨(addPeer_hearEnemies ..).trans h.off, h.relays, h.idle⟩
  | removePeer c =>
      cases hm
      exact ⟨h.off, h.relays, h.idle⟩
  | beginControl now c requested =>
      cases hm
      exact ⟨(beginControl_hearEnemies ..).trans h.off, h.relays, h.idle⟩
  | sendControl call sendOk =>
      simp only [act] at hm
      split_ifs at hm <;> cases hm <;> exact ⟨h.off, h.relays, h.idle⟩
  | confirmControl call =>
      simp only [act] at hm
      split_ifs at hm
      cases hm
      exact ⟨(confirmControl_hearEnemies ..).trans h.off, h.relays, h.idle⟩
  | setHearEnemiesVoice enable =>
      cases hm
      exact ⟨by simpa [NetStep.Isolated, Voice.setHearEnemiesVoice] using ha, h.relays, h.idle⟩
  | reset =>
      cases hm
      exact ⟨h.off, h.relays, h.idle⟩
  | uplink now c packet sendOk =>
      simp only [act] at hm
      split at hm
      · cases hm
        refine ⟨(handleVoicePacket_hearEnemies ..).trans h.off, fun relay hrelay => ?_, h.idle⟩
        dsimp only at hrelay
        split_ifs at hrelay
        · rcases List.mem_cons.mp hrelay with rfl | hold
          · exact h.off
          · exact h.relays relay hold
        · exact h.relays relay hrelay
      · cases hm
  | deliverControl c =>
      simp only [act] at hm
      split at hm
      · cases hm
      · rename_i control rest hcontrols
        cases hm
        have hrest : Quiet { s with controls := Function.update s.controls c rest } :=
          ⟨h.off, h.relays, h.idle⟩
        exact hrest.perform c _ fun _ _ _ heq => by cases heq
  | deliverDownlink c packet =>
      simp only [act] at hm
      split_ifs at hm
      cases hm
      exact h.perform c _ fun _ _ _ heq => by cases heq
  | client c call =>
      simp only [act] at hm
      split_ifs at hm
      cases hm
      refine h.perform c call fun sessionid generation playerid heq => ?_
      subst heq
      simp [NetStep.Isolated] at ha

/-- **Run lemma.** -/
theorem quiet_reached {config : Config} {processors : ConnectionId → ProcessorConfig}
    (h : Exec.ReachedAlong (step honest) (fun _ a => a.Isolated = true)
      (start config processors) s) : Quiet s :=
  h.invariant Quiet ⟨rfl, fun _ hrelay => absurd hrelay List.not_mem_nil, fun _ _ => rfl⟩
    fun _ _ _ hs ha ht => quiet_step hs ha ht

/-- What the acceptance test says of the gates. -/
theorem pushIncomingPacket_accepts {processor : Processor Sample} {packet : DownlinkPacket}
    (h : (processor.pushIncomingPacket packet).2 = true) :
    validateTeamVoiceDownlinkPacket packet = .none ∧
      packet.sessionid = processor.gate.sessionid ∧
      packet.recipientgeneration = processor.gate.membershipgeneration := by
  unfold Processor.pushIncomingPacket at h
  split_ifs at h with haccepts
  simp only [Gate.accepts, decide_eq_true_eq] at haccepts
  exact ⟨haccepts.1, haccepts.2.2.2.1, haccepts.2.2.2.2.1⟩

/-- What the router handed out, in terms of the relay it remembers. -/
theorem RelaySound.routes {history : ConnectionId → List (Option PeerState)} {relay : Relay}
    (h : RelaySound history relay) {c : ConnectionId} {packet : DownlinkPacket}
    (hhanded : (c, packet) ∈ relay.downlinks) :
    ∃ speaker listener,
      Routes relay.router relay.now relay.speaker relay.uplink c speaker listener ∧
      packet = relayPacket relay.uplink speaker listener := by
  obtain ⟨sendOk, hdownlinks⟩ := h.handed
  rw [hdownlinks] at hhanded
  exact (mem_handleVoicePacket h.wellFormed _ _ _ sendOk c packet).mp hhanded

/-- **Fencing.**  A control and a peer of the same connection with the same
generation are about the same membership. -/
theorem control_fence {history : List (Option PeerState)} (hfew : history.length < 2 ^ 32 - 1)
    {control : Control} (hsound : Sound history control)
    (henabled : control.packet.enabled = true) {peer : Peer}
    (hgranted : Granted history peer.generation (some peer.state))
    (hgeneration : control.packet.membershipgeneration = peer.generation) :
    control.state = some peer.state ∧ control.packet.sessionid = peer.state.sessionid ∧
      control.packet.playerid = peer.state.playerid := by
  unfold Sound at hsound
  cases hstate : control.state with
  | none => simp [hstate, henabled] at hsound
  | some state =>
      simp only [hstate] at hsound
      obtain ⟨g, hg, hpacket⟩ := hsound
      obtain rfl : g = peer.generation := by
        rw [← hgeneration, hpacket]
      have hsame : some state = some peer.state :=
        hg.unique (generationAfter_injective hfew) hgranted
      obtain rfl := Option.some.inj hsame
      rw [hpacket]
      exact ⟨rfl, rfl, rfl⟩

/-- A relay to `c` was made for the membership of the control `c` last applied:
the recipient was published with exactly that control and allowed to hear, and
the speaker was a different, published peer of its session and team that was
allowed to speak. -/
def RelayedFor (s : Net) (relay : Relay) (c : ConnectionId) : Prop :=
  ∃ control listener speaker,
    (s.clients c).applied = some control ∧ control.packet.enabled = true ∧
    relay.router.peers.lookup c = some listener ∧
    listener.hasstate = true ∧ listener.controlpublished = true ∧
    listener.state.sessionid = control.packet.sessionid ∧
    listener.generation = control.packet.membershipgeneration ∧
    listener.state.playerid = control.packet.playerid ∧
    listener.state.canreceive = true ∧
    relay.speaker ≠ c ∧ relay.router.peers.lookup relay.speaker = some speaker ∧
    speaker.hasstate = true ∧ speaker.controlpublished = true ∧
    speaker.state.cantransmit = true ∧
    speaker.state.sessionid = listener.state.sessionid ∧
    speaker.state.teamid = listener.state.teamid

/-- Every relay that handed out a downlink the client would accept was made for
its control. -/
theorem accepted_relay {config : Config} {processors : ConnectionId → ProcessorConfig}
    (h : Exec.ReachedAlong (step honest) (fun _ a => a.Isolated = true)
      (start config processors) s)
    (hfew : ∀ c, (s.history c).length < 2 ^ 32 - 1)
    {relay : Relay} (hrelay : relay ∈ s.relays) {c : ConnectionId} {packet : DownlinkPacket}
    (hhanded : (c, packet) ∈ relay.downlinks)
    (haccepts : ((s.clients c).processor.pushIncomingPacket packet).2 = true) :
    RelayedFor s relay c := by
  have hinv := reached_inv h.reached
  have hquiet := quiet_reached h
  obtain ⟨hvalid, hsession, hgeneration⟩ := pushIncomingPacket_accepts haccepts
  have hnonzero := (validateTeamVoiceDownlinkPacket_none.mp hvalid).2.2.1
  have hsound := hinv.relays relay hrelay
  obtain ⟨speaker, listener, hroutes, rfl⟩ := hsound.routes hhanded
  cases happlied : (s.clients c).applied with
  | none => exact absurd (hsession.trans (hquiet.idle c happlied)) hnonzero
  | some control =>
      have hsets := (hinv.clients c).control control happlied
      cases henabled : control.packet.enabled with
      | false =>
          simp only [Control.Sets, henabled] at hsets
          exact absurd (hsession.trans hsets.1) hnonzero
      | true =>
          simp only [Control.Sets, henabled, if_true] at hsets
          have hgen : control.packet.membershipgeneration = listener.generation :=
            hsets.2.1.symm.trans hgeneration.symm
          obtain ⟨-, hsessionid, hplayerid⟩ := control_fence (hfew c)
            (hinv.applied c control happlied) henabled
            (hsound.granted c listener hroutes.listening hroutes.listenerPublished.1) hgen
          have hteam : listener.state.teamid = speaker.state.teamid := by
            rcases hroutes.audible with hon | hteam
            · simp [hquiet.relays relay hrelay] at hon
            · exact hteam
          exact ⟨control, listener, speaker, happlied, henabled, hroutes.listening,
            hroutes.listenerPublished.1, hroutes.listenerPublished.2, hsessionid.symm,
            hgen.symm, hplayerid.symm, hroutes.receives, hroutes.other.symm,
            hroutes.registered, hroutes.published.1, hroutes.published.2,
            hroutes.transmits, hroutes.sameSession.symm, hteam.symm⟩

/-- **Downlink team isolation.**  In every run with the global switch off,
whenever a client accepts a downlink that is delivered to it, the router routed
that downlink, for the membership of the control the client last applied, from
a speaker of its own team. -/
theorem downlink_team_isolation {config : Config}
    {processors : ConnectionId → ProcessorConfig}
    (h : Exec.ReachedAlong (step honest) (fun _ a => a.Isolated = true)
      (start config processors) s)
    (hfew : ∀ c, (s.history c).length < 2 ^ 32 - 1) {c : ConnectionId}
    {packet : DownlinkPacket}
    (hdelivered : (step honest s (.deliverDownlink c packet)).isSome = true)
    (haccepts : ((s.clients c).processor.pushIncomingPacket packet).2 = true) :
    ∃ relay ∈ s.relays, (c, packet) ∈ relay.downlinks ∧ RelayedFor s relay c := by
  have hhanded : ∃ relay ∈ s.relays, (c, packet) ∈ relay.downlinks := by
    by_contra hnone
    have hrefused : (s.relays.any fun relay => relay.downlinks.any (· == (c, packet))) = false := by
      simp only [List.any_eq_false]
      rintro relay hrelay hany
      obtain ⟨_, hmem, rfl⟩ : ∃ x ∈ relay.downlinks, x = (c, packet) := by simpa using hany
      exact hnone ⟨relay, hrelay, hmem⟩
    simp [step, act, hrefused] at hdelivered
  obtain ⟨relay, hrelay, hmem⟩ := hhanded
  exact ⟨relay, hrelay, hmem, accepted_relay h hfew hrelay hmem haccepts⟩

/-- Two players join a session and a team, the second starts listening and the
first speaks. -/
def twoPlayers : List NetStep :=
  let granted : PeerState := ⟨7, 1, 9, true, true⟩
  let first : ControlCall := ⟨1, some granted, 0, 1⟩
  let second : ControlCall := ⟨2, some { granted with playerid := 8 }, 1, 1⟩
  [.addPeer 0 1 true, .addPeer 0 2 true,
    .beginControl 0 1 (some granted), .sendControl first true, .confirmControl first,
    .deliverControl 1,
    .beginControl 0 2 (some { granted with playerid := 8 }), .sendControl second true,
    .confirmControl second, .deliverControl 2,
    .client 2 (.start true),
    .uplink 0 1 { sessionid := 9, membershipgeneration := 1, streamgeneration := 1,
                  payload := [0xf8] } fun _ => true]

/-- The second player hears the first, under the law. -/
theorem downlink_team_isolation_heard :
    ∃ s, Exec.exec (step fun _ => false) (start {} fun _ => {}) twoPlayers = some s ∧
      ∃ packet, ((s.clients 2).processor.pushIncomingPacket packet).2 = true ∧
        ∃ relay ∈ s.relays, (2, packet) ∈ relay.downlinks ∧ RelayedFor s relay 2 := by
  let packet : DownlinkPacket :=
    { sessionid := 9, recipientgeneration := 1, speakerid := 7, speakergeneration := 1,
      streamgeneration := 1, payload := [0xf8] }
  have hrun : (Exec.exec (step fun _ => false) (start {} fun _ => {}) twoPlayers).any
      (fun s => s.clock == 13 && ((s.clients 2).processor.pushIncomingPacket packet).2 &&
        (step (fun _ => false) s (.deliverDownlink 2 packet)).isSome) = true := by
    decide +kernel
  obtain ⟨s, hs, htest⟩ := Exec.exec_any hrun
  simp only [Bool.and_eq_true, beq_iff_eq] at htest
  obtain ⟨⟨hclock, haccepts⟩, hdelivered⟩ := htest
  refine ⟨s, hs, packet, haccepts, downlink_team_isolation
    ⟨twoPlayers, hs, Exec.along_of_forall (by decide) _⟩ (fun c => ?_) hdelivered haccepts⟩
  have := history_length_lt_clock ⟨twoPlayers, hs⟩ c
  omega

end Net

end Voice
