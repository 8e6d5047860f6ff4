import GipMultiplayer.VoiceIsolation

/-!
# Uplink media barrier

When the router relays a packet of a connection whose uplinks come from a
client, every sample the packet was encoded from was captured under a live
microphone, after the last change before the packet was popped, and in the
session and generation the router holds for the connection when it relays.
The uplinks may be lost, repeated and reordered, and any call may come between
capture, encoding, popping and relaying.

* `relayed_speaker` — the sender of a relayed packet, as the router held it;
* `uplink_media_barrier` — the law.
-/

namespace Voice

namespace Net

variable {honest : ConnectionId → Bool} {s : Net}

/-- A routed packet has a published sender whose session and generation it
names. -/
theorem relayed_speaker {router : Router} {now : TimePoint} {c : ConnectionId}
    {packet : UplinkPacket} (h : verdict router now c packet = .routed) :
    ∃ speaker, router.peers.lookup c = some speaker ∧ speaker.maySend packet = true := by
  unfold verdict at h
  split_ifs at h
  cases hlookup : router.peers.lookup c with
  | none => simp [hlookup] at h
  | some speaker =>
      refine ⟨speaker, rfl, ?_⟩
      by_contra hrefused
      simp [hlookup, hrefused] at h

/-- A sample of a relayed packet was captured under a live microphone, after
the last change before the packet was popped, in the session and generation the
router held for the speaker, and under no control of another membership. -/
structure CapturedFor (popped : Popped) (speaker : Peer) (x : Sample) : Prop where
  time : popped.change < x.time
  running : x.gate.running = true
  enabled : x.gate.enabled = true
  transmitting : x.gate.transmitting = true
  unmuted : x.gate.localmuted = false
  session : x.gate.sessionid = speaker.state.sessionid
  generation : x.gate.membershipgeneration = speaker.generation
  membership : ∀ control, x.applied = some control → control.state = some speaker.state

/-- **Uplink media barrier.** -/
theorem uplink_media_barrier {config : Config} {processors : ConnectionId → ProcessorConfig}
    (h : Exec.Reached (step honest) (start config processors) s)
    (hfew : ∀ c, (s.history c).length < 2 ^ 32 - 1)
    {relay : Relay} (hrelay : relay ∈ s.relays) (hhonest : honest relay.speaker = true) :
    ∃ speaker, relay.router.peers.lookup relay.speaker = some speaker ∧
      (∃ popped ∈ (s.clients relay.speaker).popped, popped.frame.packet = relay.uplink) ∧
      ∀ popped ∈ (s.clients relay.speaker).popped, popped.frame.packet = relay.uplink →
        ∀ x ∈ popped.frame.pcm, CapturedFor popped speaker x := by
  have hinv := reached_inv h
  have hsound := hinv.relays relay hrelay
  obtain ⟨speaker, hspeaker, hsend⟩ := relayed_speaker hsound.routed
  obtain ⟨hstate, -, -, hvalid, hsession, hgeneration⟩ := Peer.maySend_iff.mp hsend
  refine ⟨speaker, hspeaker, hinv.honest relay hrelay hhonest,
    fun popped hpopped hpacket x hx => ?_⟩
  have hpromise := (hinv.clients relay.speaker).popped popped hpopped x hx
  have hgateSession : x.gate.sessionid = speaker.state.sessionid := by
    rw [hpromise.session, ← hsession, ← hpacket]
    rfl
  have hgateGeneration : x.gate.membershipgeneration = speaker.generation := by
    rw [hpromise.generation, ← hgeneration, ← hpacket]
    rfl
  refine ⟨hpromise.time, hpromise.running, hpromise.enabled, hpromise.transmitting,
    hpromise.unmuted, hgateSession, hgateGeneration, fun control hcontrol => ?_⟩
  have hsets := hpromise.control control hcontrol
  have hcontrolSound := hinv.popped relay.speaker popped hpopped control
    (hpromise.applied ▸ hcontrol)
  cases henabled : control.packet.enabled with
  | false =>
      simp only [Control.Sets, henabled] at hsets
      simp only [isValidPeerState, decide_eq_true_eq] at hvalid
      exact absurd (hgateSession.symm.trans hsets.1) hvalid.2.2
  | true =>
      simp only [Control.Sets, henabled, if_true] at hsets
      exact (control_fence (hfew relay.speaker) hcontrolSound henabled
        (hsound.granted relay.speaker speaker hspeaker hstate)
        (hsets.2.1.symm.trans hgateGeneration)).1

/-- A player joins, switches the microphone on and speaks one frame. -/
def onePlayer : List NetStep :=
  let granted : PeerState := ⟨7, 1, 9, true, true⟩
  let call : ControlCall := ⟨1, some granted, 0, 1⟩
  [.addPeer 0 1 true, .beginControl 0 1 (some granted), .sendControl call true,
    .confirmControl call, .deliverControl 1,
    .client 1 (.start true), .client 1 (.setTransmitting true), .client 1 (.workerPrelude 0),
    .client 1 (.pushCaptured (List.replicate frameSamples 5)),
    .client 1 (.workerIteration { encode := fun _ => some [0xf8] }),
    .client 1 .popOutgoingPacket,
    .uplink 0 1 { flags := flagStreamStart, sessionid := 9, membershipgeneration := 1,
                  streamgeneration := 1, payload := [0xf8] } fun _ => true]

/-- The frame is relayed, under the law. -/
theorem uplink_media_barrier_spoken :
    ∃ s, Exec.exec (step fun _ => true) (start {} fun _ => {}) onePlayer = some s ∧
      ∃ relay ∈ s.relays, relay.speaker = 1 ∧
      ∃ speaker, relay.router.peers.lookup relay.speaker = some speaker ∧
        (∃ popped ∈ (s.clients relay.speaker).popped, popped.frame.packet = relay.uplink) ∧
        ∀ popped ∈ (s.clients relay.speaker).popped, popped.frame.packet = relay.uplink →
          ∀ x ∈ popped.frame.pcm, CapturedFor popped speaker x := by
  have hrun : (Exec.exec (step fun _ => true) (start {} fun _ => {}) onePlayer).any
      (fun s => s.clock == 13 && s.relays.any (·.speaker == 1)) = true := by
    decide +kernel
  obtain ⟨s, hs, htest⟩ := Exec.exec_any hrun
  simp only [Bool.and_eq_true, beq_iff_eq, List.any_eq_true] at htest
  obtain ⟨hclock, relay, hrelay, hspeaker⟩ := htest
  refine ⟨s, hs, relay, hrelay, hspeaker,
    uplink_media_barrier ⟨onePlayer, hs⟩ (fun c => ?_) hrelay rfl⟩
  have := history_length_lt_clock ⟨onePlayer, hs⟩ c
  omega

end Net

end Voice
