import GipMultiplayer.VoiceProvenance

/-!
# Voice off and on again

`gTeamVoice` puts a processor behind an audio device.  Its `setEnabled` stores a
flag that the device callback reads; off, the callback writes zeros.  The
processor is not told: what arrives in the meantime is still accepted, decoded
and mixed into the ring, and the first callbacks after `setEnabled(true)` play
it.

* `TeamVoice.step` — one call, callback or worker step;
* `TeamVoice.PlaysSince` — what is written comes from downlinks handed over
  since the last `setEnabled(true)`;
* `TeamVoice.Enabling` — the processor holds nothing when voice is enabled;
* `TeamVoice.plays_since_enabled` — then the law holds in every run;
* `TeamVoice.plays_disabled_period` — and it does not hold in all.
-/

namespace Voice

/-- `gTeamVoice` over its processor.  `enabledAt` is the moment of the last
`setEnabled(true)`. -/
structure TeamVoice where
  listener : Listener
  initialized : Bool := false
  deviceinitialized : Bool := false
  enabled : Bool := true
  localmuted : Bool := false
  micVolume : ℚ := 1
  playbackVolume : ℚ := 1
  enabledAt : Nat := 0

/-- What can happen to it. -/
inductive TeamVoiceCall
  | initializeDevice (setupOk opened started : Bool)
  | shutdown
  | notificationCallback
  | dataCallback (input : Option (List Int)) (output : Bool) (framecount : Nat)
  | setEnabled (enabled : Bool)
  | startTransmitting
  | stopTransmitting
  | setLocalMuted (muted : Bool)
  | setSpeakerMuted (speakerid : UInt64) (muted : Bool)
  | setSpeakerVolume (speakerid : UInt64) (volume : ℚ)
  | setMicrophoneVolume (volume : Int)
  | setPlaybackVolume (volume : Int)
  | handleSessionPacket (control : Control)
  | handleVoicePacket (packet : DownlinkPacket)
  | resetSession
  | updateNetwork (send : UplinkPacket → Bool)
  | workerPrelude (now : Int)
  | workerIteration (input : Iteration)

/-- The calls that switch voice on or off or start a transmission. -/
def TeamVoiceCall.isControl : TeamVoiceCall → Bool
  | .setEnabled _ | .startTransmitting => true
  | _ => false

/-- Samples at a device volume; a volume near one is one. -/
def scaled (gain : ℚ) (samples : List Int) : List Int :=
  if 1 / 100 < |gain - 1| then
    samples.map fun sample : Int => truncate (max (-32768) (min 32767 ((sample : ℚ) * gain)))
  else samples

/-- The worker will clear its speakers before it decodes again. -/
def Processor.lags (processor : Processor Sample) : Bool :=
  match processor.worker with
  | .looping loop => loop.observedsessionepoch != processor.gate.sessionepoch
  | _ => false

/-- The processor holds nothing of a downlink, or nothing that it will not clear
first. -/
structure Processor.HoldsNothing (processor : Processor Sample) : Prop where
  incoming : processor.playback.incoming = []
  speakers : processor.playback.speakers.keys = [] ∨ processor.lags = true
  ring : processor.playback.ring = [] ∨ processor.playback.playbackclearrequested = true

instance (processor : Processor Sample) : Decidable processor.HoldsNothing :=
  decidable_of_iff (processor.playback.incoming = [] ∧
      (processor.playback.speakers.keys = [] ∨ processor.lags = true) ∧
      (processor.playback.ring = [] ∨ processor.playback.playbackclearrequested = true))
    ⟨fun h => ⟨h.1, h.2.1, h.2.2⟩, fun h => ⟨h.incoming, h.speakers, h.ring⟩⟩

namespace TeamVoice

abbrev processor (v : TeamVoice) : Processor Sample := v.listener.processor

/-- A call of the processor. -/
def call (v : TeamVoice) (c : ClientCall) : TeamVoice :=
  { v with listener := v.listener.perform c }

/-- A new `gTeamVoice`. -/
def start : TeamVoice := { listener := Listener.start {} }

/-- `initialize`; the processor, the device and its start can each fail. -/
def initializeDevice (v : TeamVoice) (setupOk opened started : Bool) : TeamVoice × Bool :=
  if v.initialized then (v, true)
  else
    let v := if v.deviceinitialized then { v with deviceinitialized := false }.call .stop else v
    if (v.processor.start setupOk).2 = false then (v.call (.start setupOk), false)
    else
      let v := v.call (.start setupOk)
      if opened = false then (v.call .stop, false)
      else if started = false then (v.call .stop, false)
      else ({ v with deviceinitialized := true, initialized := true }, true)

/-- `shutdown`. -/
def shutdown (v : TeamVoice) : TeamVoice :=
  let v := { v with initialized := false }.call (.setTransmitting false)
  { v with deviceinitialized := false }.call .stop

/-- The first half of the device callback: the microphone. -/
def capture (v : TeamVoice) (input : Option (List Int)) : TeamVoice :=
  match input with
  | some frames => v.call (.pushCaptured (scaled v.micVolume frames))
  | none => v

/-- `dataCallback`, with what it writes if there is an output. -/
def dataCallback (v : TeamVoice) (input : Option (List Int)) (output : Bool)
    (framecount : Nat) : TeamVoice × List Int :=
  let silence := if output then List.replicate framecount 0 else []
  if v.initialized = false then (v, silence)
  else if v.enabled = false then (v, silence)
  else
    let v := v.capture input
    if output then
      let ring := (v.processor.popPlayback framecount).2
      (v.call (.popPlayback framecount),
        scaled v.playbackVolume (ring ++ List.replicate (framecount - ring.length) 0))
    else (v, [])

/-- The sources of the ring samples that a callback writes first. -/
def callbackSources (v : TeamVoice) (input : Option (List Int)) (output : Bool)
    (framecount : Nat) : List (List Accepted) :=
  if v.initialized = true ∧ v.enabled = true ∧ output = true then
    (v.capture input).listener.popSources framecount
  else []

/-- `setEnabled`: the flag, and the end of transmission. -/
def setEnabled (v : TeamVoice) (enabled : Bool) : TeamVoice :=
  let v := { v with
    enabled := enabled
    enabledAt := if enabled then v.listener.clock else v.enabledAt }
  if enabled = false then v.call (.setTransmitting false) else v

/-- `startTransmitting`. -/
def startTransmitting (v : TeamVoice) : TeamVoice :=
  if v.processor.gate.transmitting then v
  else if v.enabled then v.call (.setTransmitting true)
  else v

/-- `stopTransmitting`. -/
def stopTransmitting (v : TeamVoice) : TeamVoice :=
  if v.processor.gate.transmitting = false then v else v.call (.setTransmitting false)

/-- `resetSession`. -/
def resetSession (v : TeamVoice) : TeamVoice :=
  (v.call (.setTransmitting false)).call .clearSession

/-- The loop of `updateNetwork`, which ends with the first pop that fails. -/
def sendOutgoing (send : UplinkPacket → Bool) : Nat → TeamVoice → Nat → TeamVoice × Nat
  | 0, v, sent => (v, sent)
  | n + 1, v, sent =>
      match v.processor.popOutgoingPacket.2 with
      | none => (v.call .popOutgoingPacket, sent)
      | some encoded =>
          sendOutgoing send n (v.call .popOutgoingPacket)
            (if send encoded.packet then sent + 1 else sent)

/-- `updateNetwork`, with the number of packets sent.  Each pop shortens the
queue. -/
def updateNetwork (v : TeamVoice) (send : UplinkPacket → Bool) : TeamVoice × Nat :=
  if v.initialized = false ∨ v.enabled = false then (v, 0)
  else sendOutgoing send (v.processor.capture.outgoing.length + 1) v 0

/-- Every call is possible at any time. -/
def step (v : TeamVoice) : TeamVoiceCall → Option TeamVoice
  | .initializeDevice setupOk opened started =>
      some (v.initializeDevice setupOk opened started).1
  | .shutdown => some v.shutdown
  | .notificationCallback => some { v with initialized := false }
  | .dataCallback input output framecount => some (v.dataCallback input output framecount).1
  | .setEnabled enabled => some (v.setEnabled enabled)
  | .startTransmitting => some v.startTransmitting
  | .stopTransmitting => some v.stopTransmitting
  | .setLocalMuted muted => some ({ v with localmuted := muted }.call (.setLocalMuted muted))
  | .setSpeakerMuted speakerid muted => some (v.call (.setSpeakerMuted speakerid muted))
  | .setSpeakerVolume speakerid volume => some (v.call (.setSpeakerVolume speakerid volume))
  | .setMicrophoneVolume volume => some { v with micVolume := (max 0 (min 200 volume) : Int) / 100 }
  | .setPlaybackVolume volume =>
      some { v with playbackVolume := (max 0 (min 100 volume) : Int) / 100 }
  | .handleSessionPacket control => some (v.call (.handleSessionPacket control))
  | .handleVoicePacket packet => some (v.call (.pushIncomingPacket packet))
  | .resetSession => some v.resetSession
  | .updateNetwork send => some (v.updateNetwork send).1
  | .workerPrelude now => some (v.call (.workerPrelude now))
  | .workerIteration input => some (v.call (.workerIteration input))

/-! ## The law -/

/-- **What a callback writes** is zero but for its ring samples, and these come
from downlinks handed over since the last `setEnabled(true)`. -/
def PlaysSince (v : TeamVoice) : Prop :=
  ∀ (input : Option (List Int)) (output : Bool) (framecount : Nat),
    (∀ sample ∈ (v.dataCallback input output framecount).2.drop
        (v.callbackSources input output framecount).length, sample = 0) ∧
      ∀ behind ∈ v.callbackSources input output framecount, ∀ a ∈ behind, v.enabledAt ≤ a.time

/-- The processor holds nothing when voice is enabled. -/
def Enabling (v : TeamVoice) : TeamVoiceCall → Prop
  | .setEnabled true => v.processor.HoldsNothing
  | _ => True

instance (v : TeamVoice) : (c : TeamVoiceCall) → Decidable (Enabling v c)
  | .setEnabled true => inferInstanceAs (Decidable v.processor.HoldsNothing)
  | .setEnabled false | .initializeDevice .. | .shutdown | .notificationCallback | .dataCallback ..
  | .startTransmitting | .stopTransmitting | .setLocalMuted _ | .setSpeakerMuted ..
  | .setSpeakerVolume .. | .setMicrophoneVolume _ | .setPlaybackVolume _
  | .handleSessionPacket _ | .handleVoicePacket _ | .resetSession | .updateNetwork _
  | .workerPrelude _ | .workerIteration _ => .isTrue trivial

/-! ## Calls and steps -/

variable {v w : TeamVoice}

/-- The processor has moved by calls of its own, and voice has not been enabled. -/
def Moved (v w : TeamVoice) : Prop :=
  Exec.Reached Listener.step v.listener w.listener ∧ w.enabledAt = v.enabledAt

theorem Moved.refl (v : TeamVoice) : Moved v v := ⟨⟨[], rfl⟩, rfl⟩

theorem Moved.call (h : Moved v w) (c : ClientCall) : Moved v (w.call c) :=
  ⟨h.1.tail rfl, h.2⟩

/-- The processor has been called without a transmission being started, and
voice has been switched neither on nor off. -/
inductive Via (v : TeamVoice) : TeamVoice → Prop
  | refl : Via v v
  | call {w : TeamVoice} {c : ClientCall} (h : Via v w) (hc : c ≠ .setTransmitting true) :
      Via v (w.call c)
  | fields {w w' : TeamVoice} (h : Via v w) (hlistener : w'.listener = w.listener)
      (henabled : w'.enabled = w.enabled) (henabledAt : w'.enabledAt = w.enabledAt) : Via v w'

theorem Via.moved (h : Via v w) : Moved v w := by
  induction h with
  | refl => exact Moved.refl v
  | call _ _ ih => exact ih.call _
  | fields _ hlistener _ henabledAt ih => exact ⟨hlistener ▸ ih.1, henabledAt.trans ih.2⟩

/-- The device callback reads the ring after it has delivered the microphone. -/
theorem via_capture (v : TeamVoice) (input : Option (List Int)) : Via v (v.capture input) := by
  cases input with
  | none => exact .refl
  | some frames => exact Via.refl.call (by nofun)

theorem via_dataCallback (v : TeamVoice) (input : Option (List Int)) (output : Bool)
    (framecount : Nat) : Via v (v.dataCallback input output framecount).1 := by
  have hcapture := via_capture v input
  unfold dataCallback
  by_cases hinitialized : v.initialized = false
  · rw [if_pos hinitialized]
    exact .refl
  · rw [if_neg hinitialized]
    by_cases henabled : v.enabled = false
    · rw [if_pos henabled]
      exact .refl
    · rw [if_neg henabled]
      dsimp only
      split_ifs
      · exact hcapture.call (by nofun)
      · exact hcapture

theorem via_initializeDevice (v : TeamVoice) (setupOk opened started : Bool) :
    Via v (v.initializeDevice setupOk opened started).1 := by
  have hstopped : Via v
      (if v.deviceinitialized then { v with deviceinitialized := false }.call .stop else v) := by
    split_ifs
    · have hfields : Via v { v with deviceinitialized := false } := Via.refl.fields rfl rfl rfl
      exact hfields.call nofun
    · exact .refl
  unfold initializeDevice
  by_cases hinitialized : v.initialized = true
  · rw [if_pos hinitialized]
    exact .refl
  · rw [if_neg hinitialized]
    dsimp only
    generalize (if v.deviceinitialized then { v with deviceinitialized := false }.call .stop
      else v) = stopped at *
    have hstarted := hstopped.call (c := .start setupOk) nofun
    split_ifs
    · exact hstarted
    · exact hstarted.call (by nofun)
    · exact hstarted.call (by nofun)
    · exact hstarted.fields rfl rfl rfl

theorem via_sendOutgoing (send : UplinkPacket → Bool) (n : Nat) (h : Via v w) (sent : Nat) :
    Via v (sendOutgoing send n w sent).1 := by
  induction n generalizing w sent with
  | zero => exact h
  | succ n ih =>
      unfold sendOutgoing
      split
      · exact h.call (by nofun)
      · exact ih (h.call (by nofun)) _

/-- **Other calls** leave the switch alone and start nothing. -/
theorem step_via {c : TeamVoiceCall} (hc : c.isControl = false) (h : step v c = some w) :
    Via v w := by
  cases c with
  | setEnabled enabled => cases hc
  | startTransmitting => cases hc
  | initializeDevice setupOk opened started =>
      obtain rfl := Option.some.inj h
      exact via_initializeDevice v setupOk opened started
  | shutdown =>
      obtain rfl := Option.some.inj h
      have hfields : Via v { v with initialized := false } := Via.refl.fields rfl rfl rfl
      have hquiet := hfields.call (c := .setTransmitting false) nofun
      have hclosed : Via v
          { ({ v with initialized := false }.call (.setTransmitting false)) with
            deviceinitialized := false } := hquiet.fields rfl rfl rfl
      exact hclosed.call (c := .stop) nofun
  | notificationCallback =>
      obtain rfl := Option.some.inj h
      exact Via.refl.fields rfl rfl rfl
  | dataCallback input output framecount =>
      obtain rfl := Option.some.inj h
      exact via_dataCallback v input output framecount
  | stopTransmitting =>
      obtain rfl := Option.some.inj h
      unfold stopTransmitting
      split_ifs
      · exact .refl
      · exact Via.refl.call (by nofun)
  | resetSession =>
      obtain rfl := Option.some.inj h
      exact (Via.refl.call (by nofun)).call (by nofun)
  | updateNetwork send =>
      obtain rfl := Option.some.inj h
      unfold updateNetwork
      split_ifs
      · exact .refl
      · exact via_sendOutgoing send _ .refl 0
  | setMicrophoneVolume volume =>
      obtain rfl := Option.some.inj h
      exact Via.refl.fields rfl rfl rfl
  | setPlaybackVolume volume =>
      obtain rfl := Option.some.inj h
      exact Via.refl.fields rfl rfl rfl
  | setLocalMuted muted =>
      obtain rfl := Option.some.inj h
      have hfields : Via v { v with localmuted := muted } := Via.refl.fields rfl rfl rfl
      exact hfields.call nofun
  | setSpeakerMuted speakerid muted =>
      obtain rfl := Option.some.inj h
      exact Via.refl.call (by nofun)
  | setSpeakerVolume speakerid volume =>
      obtain rfl := Option.some.inj h
      exact Via.refl.call (by nofun)
  | handleSessionPacket control =>
      obtain rfl := Option.some.inj h
      exact Via.refl.call (by nofun)
  | handleVoicePacket packet =>
      obtain rfl := Option.some.inj h
      exact Via.refl.call (by nofun)
  | workerPrelude now =>
      obtain rfl := Option.some.inj h
      exact Via.refl.call (by nofun)
  | workerIteration input =>
      obtain rfl := Option.some.inj h
      exact Via.refl.call (by nofun)

/-- **Only `setEnabled(true)` moves the moment**, and it calls nothing. -/
theorem step_moved {c : TeamVoiceCall} (h : step v c = some w) :
    Moved v w ∨ (c = .setEnabled true ∧
      w = { v with enabled := true, enabledAt := v.listener.clock }) := by
  cases hc : c.isControl with
  | false => exact .inl (step_via hc h).moved
  | true =>
      cases c with
      | setEnabled enabled =>
          obtain rfl := Option.some.inj h
          cases enabled with
          | true => exact .inr ⟨rfl, rfl⟩
          | false => exact .inl ((Moved.refl v).call (.setTransmitting false))
      | startTransmitting =>
          obtain rfl := Option.some.inj h
          refine .inl ?_
          unfold startTransmitting
          split_ifs
          · exact Moved.refl v
          · exact (Moved.refl v).call _
          · exact Moved.refl v
      | _ => cases hc

/-! ## The invariant -/

/-- Everything on its way in a listener was accepted at some moment or later. -/
structure Since (moment : Nat) (l : Listener) : Prop where
  past : moment ≤ l.clock
  inv : Listener.Inv (fun a => moment ≤ a.time) l

/-- What is accepted is accepted now. -/
theorem Since.reached {moment : Nat} {l l' : Listener} (h : Since moment l)
    (hreached : Exec.Reached Listener.step l l') : Since moment l' := by
  refine hreached.invariant (Since moment) h fun s c t hs hstep => ?_
  obtain rfl := Option.some.inj hstep
  exact ⟨hs.past.trans (Nat.le_succ _), Listener.step_inv hs.inv c fun _ _ _ => hs.past⟩

/-- Only speakers with a record have been written down. -/
theorem admitted_present {config : ProcessorConfig} {l : Listener}
    (h : Exec.Reached Listener.step (Listener.start config) l) :
    ∀ a ∈ l.admitted, a.packet.speakerid ∈ l.processor.playback.speakers := by
  refine h.invariant (fun l => ∀ a ∈ l.admitted, a.packet.speakerid ∈ l.processor.playback.speakers)
    (fun a ha => by cases ha) fun s c t _ hstep => ?_
  obtain rfl := Option.some.inj hstep
  exact fun a ha => (Listener.mem_present.mp ha).2

/-- **A processor that holds nothing holds nothing old.** -/
theorem Since.of_holdsNothing {config : ProcessorConfig} {l : Listener} {P : Accepted → Prop}
    (h : Exec.Reached Listener.step (Listener.start config) l) (hinv : Listener.Inv P l)
    (hnothing : l.processor.HoldsNothing) : Since l.clock l := by
  have hqueue : l.incoming = [] := by
    have hframes := (Listener.reached_traced h).queue
    rw [hnothing.incoming] at hframes
    exact List.map_eq_nil_iff.mp hframes
  refine ⟨le_rfl, ?_, hinv.stopped, hinv.idle, hinv.observed, ?_, hinv.length, ?_⟩
  · rw [hqueue]
    exact fun a ha => by cases ha
  · intro loop hloop hobserved a ha
    rcases hnothing.speakers with hnone | hlags
    · have hspeaker := AList.mem_keys.mp (admitted_present h a ha)
      rw [hnone] at hspeaker
      cases hspeaker
    · rw [Processor.lags, hloop] at hlags
      exact absurd hobserved (by simpa using hlags)
  · refine hnothing.ring.symm.imp_right fun hempty => ?_
    have hsources : l.sources = [] := by
      rw [← List.length_eq_zero_iff, hinv.length, hempty]
      rfl
    rw [hsources]
    exact fun behind hmem => by cases hmem

/-- **The invariant**: the processor has only been called, and what is on its
way was handed over since voice was last enabled. -/
structure Inv (v : TeamVoice) : Prop where
  reached : Exec.Reached Listener.step (Listener.start {}) v.listener
  since : Since v.enabledAt v.listener

theorem Inv.start : Inv start :=
  ⟨⟨[], rfl⟩, Nat.zero_le _, (fun _ ha => by cases ha), fun _ => rfl, fun _ => rfl,
    (fun _ hloop => by cases hloop), (fun _ hloop => by cases hloop), rfl,
    .inr fun _ hmem => by cases hmem⟩

theorem Inv.moved (h : Inv v) (hmoved : Moved v w) : Inv w :=
  ⟨h.reached.trans hmoved.1, hmoved.2 ▸ h.since.reached hmoved.1⟩

/-- **What each step keeps**, if the processor holds nothing when voice is
enabled. -/
theorem Inv.step {c : TeamVoiceCall} (h : Inv v) (hquiet : Enabling v c)
    (hstep : TeamVoice.step v c = some w) : Inv w := by
  rcases step_moved hstep with hmoved | ⟨rfl, rfl⟩
  · exact h.moved hmoved
  · exact ⟨h.reached, Since.of_holdsNothing h.reached h.since.inv hquiet⟩

/-! ## The law in every such run -/

theorem scaled_append (gain : ℚ) (front back : List Int) :
    scaled gain (front ++ back) = scaled gain front ++ scaled gain back := by
  unfold scaled
  split_ifs
  · exact List.map_append
  · rfl

@[simp] theorem length_scaled (gain : ℚ) (samples : List Int) :
    (scaled gain samples).length = samples.length := by
  unfold scaled
  split_ifs
  · exact List.length_map _
  · rfl

/-- Zeros stay zeros at every volume. -/
theorem scaled_zeros (gain : ℚ) (n : Nat) :
    scaled gain (List.replicate n 0) = List.replicate n 0 := by
  unfold scaled
  split_ifs
  · simp [truncate]
  · rfl

/-- A callback that plays reads the ring. -/
theorem dataCallback_played {output : Bool}
    (hplays : v.initialized = true ∧ v.enabled = true ∧ output = true)
    (input : Option (List Int)) (framecount : Nat) :
    (∃ gain k, (v.dataCallback input output framecount).2 =
      scaled gain (((v.capture input).processor.popPlayback framecount).2 ++
        List.replicate k 0)) ∧
      v.callbackSources input output framecount =
        (v.capture input).listener.popSources framecount := by
  refine ⟨⟨(v.capture input).playbackVolume,
    framecount - ((v.capture input).processor.popPlayback framecount).2.length, ?_⟩, if_pos hplays⟩
  obtain ⟨hinitialized, henabled, houtput⟩ := hplays
  unfold dataCallback
  rw [if_neg (by rw [hinitialized]; exact Bool.noConfusion),
    if_neg (by rw [henabled]; exact Bool.noConfusion)]
  exact congrArg Prod.snd (if_pos houtput)

/-- Any other callback writes zeros, if anything. -/
theorem dataCallback_silent {output : Bool}
    (hsilent : ¬ (v.initialized = true ∧ v.enabled = true ∧ output = true))
    (input : Option (List Int)) (framecount : Nat) :
    (∀ sample ∈ (v.dataCallback input output framecount).2, sample = 0) ∧
      v.callbackSources input output framecount = [] := by
  have hzeros : ∀ sample ∈ (if output then List.replicate framecount (0 : Int) else []),
      sample = 0 := by
    intro sample hsample
    split_ifs at hsample
    · exact List.eq_of_mem_replicate hsample
    · cases hsample
  refine ⟨?_, if_neg hsilent⟩
  unfold dataCallback
  by_cases hinitialized : v.initialized = false
  · rw [if_pos hinitialized]
    exact hzeros
  · rw [if_neg hinitialized]
    by_cases henabled : v.enabled = false
    · rw [if_pos henabled]
      exact hzeros
    · rw [if_neg henabled]
      have houtput : ¬ output = true := fun houtput =>
        hsilent ⟨by simpa using hinitialized, by simpa using henabled, houtput⟩
      rw [show output = false by simpa using houtput]
      exact fun sample hsample => by cases hsample

theorem Inv.playsSince (h : Inv v) : v.PlaysSince := by
  intro input output framecount
  have hcapture := h.moved (via_capture v input).moved
  by_cases hplays : v.initialized = true ∧ v.enabled = true ∧ output = true
  · obtain ⟨⟨gain, k, houtput⟩, hsources⟩ := dataCallback_played hplays input framecount
    rw [houtput, hsources]
    refine ⟨fun sample hsample => ?_, fun behind hmem a ha => ?_⟩
    · have hlength := hcapture.since.inv.popSources_length framecount
      rw [scaled_append, scaled_zeros, List.drop_left' (by rw [length_scaled, ← hlength])]
        at hsample
      exact List.eq_of_mem_replicate hsample
    · have hsince := hcapture.since.inv.readable behind (List.mem_of_mem_take hmem) a ha
      rwa [(via_capture v input).moved.2] at hsince
  · obtain ⟨hzeros, hsources⟩ := dataCallback_silent hplays input framecount
    rw [hsources]
    exact ⟨fun sample hsample => hzeros sample (List.mem_of_mem_drop hsample),
      fun behind hmem => by cases hmem⟩

/-- **Voice off and on is a barrier** in every run in which the processor holds
nothing whenever voice is enabled. -/
theorem plays_since_enabled (h : Exec.ReachedAlong step Enabling start v) : v.PlaysSince :=
  (h.invariant Inv Inv.start fun _ _ _ hinv hquiet hstep => hinv.step hquiet hstep).playsSince

/-- Voice is switched off and on before anything arrives. -/
theorem plays_since_enabled_switched :
    ∃ v : TeamVoice, v.PlaysSince ∧ v.enabledAt ≠ 0 ∧
      (v.dataCallback none true 2).2 = [7, 7] := by
  let control : Control :=
    ⟨{ enabled := true, sessionid := 5, membershipgeneration := 1, playerid := 9 }, none⟩
  let packet : DownlinkPacket :=
    { sessionid := 5, recipientgeneration := 1, speakerid := 2, speakergeneration := 1,
      streamgeneration := 1, sequence := 3, payload := [1] }
  let run : List TeamVoiceCall :=
    [.initializeDevice true true true, .workerPrelude 0, .handleSessionPacket control,
      .setEnabled false, .setEnabled true, .workerIteration {}, .dataCallback none true 2,
      .handleVoicePacket packet, .workerIteration {},
      .workerIteration
        { decode := fun _ => some (List.replicate frameSamples 7), now := milliseconds 80 }]
  obtain ⟨v, hv, hplayed⟩ : ∃ v, Exec.exec step start run = some v ∧
      (decide (v.enabledAt ≠ 0) && (v.dataCallback none true 2).2 == [7, 7]) = true :=
    Exec.exec_any (by decide +kernel)
  have hquiet : Exec.Along step Enabling start run := by decide +kernel
  simp only [Bool.and_eq_true, beq_iff_eq, decide_eq_true_eq] at hplayed
  exact ⟨v, plays_since_enabled ⟨run, hv, hquiet⟩, hplayed⟩

/-- **The disabled period is played.**  A downlink arrives while voice is off,
is decoded and mixed, and is heard as soon as voice is on again. -/
theorem plays_disabled_period :
    ¬ ∀ v : TeamVoice, Exec.Reached step start v → v.PlaysSince := by
  let control : Control :=
    ⟨{ enabled := true, sessionid := 5, membershipgeneration := 1, playerid := 9 }, none⟩
  let packet : DownlinkPacket :=
    { sessionid := 5, recipientgeneration := 1, speakerid := 2, speakergeneration := 1,
      streamgeneration := 1, sequence := 3, payload := [1] }
  let run : List TeamVoiceCall :=
    [.initializeDevice true true true, .workerPrelude 0, .handleSessionPacket control,
      .workerIteration {}, .dataCallback none true 2, .setEnabled false,
      .handleVoicePacket packet, .workerIteration {},
      .workerIteration
        { decode := fun _ => some (List.replicate frameSamples 7), now := milliseconds 80 },
      .dataCallback none true 2, .setEnabled true]
  obtain ⟨v, hv, hplayed⟩ : ∃ v, Exec.exec step start run = some v ∧
      ((v.dataCallback none true 2).2 == [7, 7] &&
        (v.callbackSources none true 2).any (·.any fun a => a.time < v.enabledAt)) = true :=
    Exec.exec_any (by decide +kernel)
  simp only [Bool.and_eq_true, List.any_eq_true, decide_eq_true_eq] at hplayed
  obtain ⟨-, behind, hbehind, a, ha, hold⟩ := hplayed
  intro hlaw
  have hsince := (hlaw v ⟨run, hv⟩ none true 2).2 behind hbehind a ha
  omega

end TeamVoice

end Voice
