import GipMultiplayer.VoicePlayback

/-!
# The voice audio processor

The client side of team voice: the gates that decide whether the microphone is
live, the capture path from device samples to outgoing packets, the acceptance
of downlinks, and the worker that connects them.

Every public call, capture callback and worker iteration is one function from
state to state.  The session and capture epochs count transitions; they stand
for 64-bit counters that no run exhausts.  The sample type `α` is a parameter:
the code only moves samples, so a run over plain samples and a run over samples
that remember their origin are the same run.  What Opus returns is a parameter
as well.
-/

namespace Voice

/-- The flags and identifiers that gate capture and reception.  The epochs have 64
bits in the source and only count up; they are numbers here, so this is the gate as
long as either has been advanced fewer than `2 ^ 64` times. -/
structure Gate where
  running : Bool := false
  enabled : Bool := true
  transmitting : Bool := false
  localmuted : Bool := false
  sessionid : UInt64 := 0
  membershipgeneration : UInt32 := 0
  localplayerid : UInt64 := 0
  sessionepoch : Nat := 2
  captureepoch : Nat := 1
  deriving DecidableEq, Repr

/-- `captureActive`. -/
def Gate.captureActive (gate : Gate) : Bool :=
  gate.enabled && gate.transmitting && !gate.localmuted &&
    gate.sessionid ≠ 0 && gate.membershipgeneration ≠ 0

/-- A whole frame of captured samples (`PcmFrame`). -/
structure PcmFrame (α : Type) where
  samples : List α
  sessionepoch : Nat
  captureepoch : Nat
  sampleposition : UInt64
  discontinuity : Bool

/-- An encoded frame waiting to be sent (`EncodedFrame`).  `pcm` is not stored
by the code: it names the samples the payload was encoded from. -/
structure EncodedFrame (α : Type) where
  flags : UInt8
  sessionepoch : Nat
  captureepoch : Nat
  sessionid : UInt64
  membershipgeneration : UInt32
  streamgeneration : UInt32
  sequence : UInt32
  sampleposition : UInt64
  payload : List UInt8
  pcm : List α

/-- The capture path: staging, the capture queue and the outgoing queue. -/
structure Capture (α : Type) where
  staging : List α := []
  stagingposition : UInt64 := 0
  stagingsessionepoch : Nat := 0
  stagingepoch : Nat := 0
  position : UInt64 := 0
  discontinuity : Bool := false
  queue : List (PcmFrame α) := []
  streamgeneration : UInt32 := 0
  outgoing : List (EncodedFrame α) := []

/-- Local variables of the worker loop. -/
structure WorkerLoop where
  observedsessionepoch : Nat
  observedcaptureepoch : Nat
  sequence : UInt32 := 0
  firstpacket : Bool := true
  nextmix : Int

/-- The worker thread: none, started but still before its loop, or in it. -/
inductive Worker
  | none
  | spawned
  | looping (loop : WorkerLoop)

/-- `gVoiceAudioProcessor::State`. -/
structure Processor (α : Type) where
  config : ProcessorConfig := {}
  gate : Gate := {}
  capture : Capture α := {}
  playback : Playback := {}
  worker : Worker := .none

variable {α : Type}

/-- The constructor. -/
def Processor.create (config : ProcessorConfig) : Processor α :=
  { config := sanitizeConfig config }

/-! ## Capture -/

/-- A full staging buffer goes to the capture queue, or is lost to an overrun. -/
def Capture.pushFrame (config : ProcessorConfig) (capture : Capture α) : Capture α :=
  let frame : PcmFrame α :=
    { samples := capture.staging
      sessionepoch := capture.stagingsessionepoch
      captureepoch := capture.stagingepoch
      sampleposition := capture.stagingposition
      discontinuity := capture.discontinuity }
  if capture.queue.length < config.captureframes then
    { capture with queue := capture.queue ++ [frame], discontinuity := false, staging := [] }
  else { capture with discontinuity := true, staging := [] }

/-- An empty staging buffer takes the epochs and the position of its first
sample. -/
def Capture.openStaging (gate : Gate) (capture : Capture α) (offset : Nat) : Capture α :=
  if capture.staging = [] then
    { capture with
      stagingposition := capture.position + UInt64.ofNat offset
      stagingsessionepoch := gate.sessionepoch
      stagingepoch := gate.captureepoch }
  else capture

/-- One round of the copy loop: as many samples as the staging buffer holds. -/
def Capture.copyRound (config : ProcessorConfig) (gate : Gate) (capture : Capture α)
    (offset : Nat) (input : List α) : Capture α × Nat × List α :=
  let capture := capture.openStaging gate offset
  let copy := min input.length (frameSamples - capture.staging.length)
  let capture := { capture with staging := capture.staging ++ input.take copy }
  (if capture.staging.length = frameSamples then capture.pushFrame config else capture,
    offset + copy, input.drop copy)

/-- The copy loop; each round but the last fills the staging buffer, so it runs
at most once per input sample. -/
def Capture.copyLoop (config : ProcessorConfig) (gate : Gate) :
    Nat → Capture α → Nat → List α → Capture α
  | 0, capture, _, _ => capture
  | fuel + 1, capture, offset, input =>
      if input = [] then capture
      else
        let (capture, offset, rest) := capture.copyRound config gate offset input
        copyLoop config gate fuel capture offset rest

/-- `pushCaptured`, the capture callback. -/
def Processor.pushCaptured (processor : Processor α) (input : List α) : Processor α :=
  if input = [] then processor
  else
    let gate := processor.gate
    let capture := processor.capture
    let advanced := fun capture : Capture α =>
      { capture with position := capture.position + UInt64.ofNat input.length }
    if gate.running = false ∨ gate.sessionepoch % 2 ≠ 0 ∨ gate.captureActive = false then
      { processor with capture := advanced { capture with staging := [] } }
    else
      let capture :=
        if capture.staging ≠ [] ∧ (capture.stagingsessionepoch ≠ gate.sessionepoch ∨
            capture.stagingepoch ≠ gate.captureepoch) then
          { capture with staging := [], discontinuity := true }
        else capture
      { processor with
        capture := advanced
          (capture.copyLoop processor.config gate input.length 0 input) }

/-- The flags of an encoded frame. -/
def encodedFlags (firstpacket discontinuity : Bool) : UInt8 :=
  (if firstpacket then flagStreamStart else 0) |||
    (if discontinuity then flagDiscontinuity else 0)

/-- A frame enters the outgoing queue; a full queue drops its oldest frame and
marks the gap on the next one. -/
def pushOutgoing (config : ProcessorConfig) (outgoing : List (EncodedFrame α))
    (encoded : EncodedFrame α) : List (EncodedFrame α) :=
  if config.outgoingpackets ≤ outgoing.length then
    match outgoing.drop 1 with
    | [] => [{ encoded with flags := encoded.flags ||| flagDiscontinuity }]
    | front :: rest =>
        { front with flags := front.flags ||| flagDiscontinuity } :: rest ++ [encoded]
  else outgoing ++ [encoded]

/-- `encodeFrame`; `payload` is what the encoder returns, `none` for an error. -/
def encodeFrame (config : ProcessorConfig) (gate : Gate) (capture : Capture α)
    (frame : PcmFrame α) (sequence : UInt32) (firstpacket : Bool)
    (payload : Option (List UInt8)) : Capture α :=
  if capture.streamgeneration = 0 ∨ frame.sessionepoch ≠ gate.sessionepoch ∨
      frame.captureepoch ≠ gate.captureepoch then capture
  else
    match payload with
    | none => capture
    | some payload =>
        let encoded : EncodedFrame α :=
          { flags := encodedFlags firstpacket frame.discontinuity
            sessionepoch := frame.sessionepoch
            captureepoch := frame.captureepoch
            sessionid := gate.sessionid
            membershipgeneration := gate.membershipgeneration
            streamgeneration := capture.streamgeneration
            sequence := sequence
            sampleposition := frame.sampleposition
            payload := payload
            pcm := frame.samples }
        if gate.running = false ∨ gate.captureActive = false then capture
        else { capture with outgoing := pushOutgoing config capture.outgoing encoded }

/-- The drain of the capture queue in a worker iteration.  `encode` is what the
encoder returns for the frames in turn. -/
def drainCapture (config : ProcessorConfig) (gate : Gate)
    (encode : Nat → Option (List UInt8)) :
    Nat → List (PcmFrame α) → Capture α → WorkerLoop → Capture α × WorkerLoop
  | _, [], capture, loop => (capture, loop)
  | k, frame :: frames, capture, loop =>
      if frame.sessionepoch ≠ loop.observedsessionepoch ∨
          frame.captureepoch ≠ loop.observedcaptureepoch then
        drainCapture config gate encode k frames capture loop
      else
        drainCapture config gate encode (k + 1) frames
          (encodeFrame config gate capture frame loop.sequence loop.firstpacket (encode k))
          { loop with sequence := loop.sequence + 1, firstpacket := false }

/-- The next stream generation, never zero. -/
def advanceStream (streamgeneration : UInt32) : UInt32 :=
  let streamgeneration := streamgeneration + 1
  if streamgeneration = 0 then streamgeneration + 1 else streamgeneration

/-! ## The worker -/

/-- `clearWorkerState`, on the capture and the playback side. -/
def Processor.clearWorkerState (processor : Processor α) : Processor α :=
  { processor with
    capture := { processor.capture with queue := [] }
    playback := { processor.playback with
      speakers := ∅
      playbackclearrequested := true
      playbackactive := false } }

/-- The stream generation the worker enters its loop with. -/
def preludeStream (gate : Gate) (streamgeneration : UInt32) : UInt32 :=
  if gate.sessionepoch % 2 = 0 ∧ gate.captureActive then advanceStream streamgeneration
  else streamgeneration

/-- The worker thread up to its loop. -/
def Processor.workerPrelude (processor : Processor α) (now : Int) : Processor α :=
  match processor.worker with
  | .spawned =>
      { processor with
        capture := { processor.capture with
          streamgeneration :=
            preludeStream processor.gate processor.capture.streamgeneration }
        worker := .looping
          { observedsessionepoch := processor.gate.sessionepoch
            observedcaptureepoch := processor.gate.captureepoch
            nextmix := now } }
  | _ => processor

/-- What one worker iteration takes from outside: the encoder's results, the
clock at each admission and the decoder set-ups, the decoders' results and the
clock of the mix. -/
structure Iteration where
  encode : Nat → Option (List UInt8) := fun _ => none
  arrival : Nat → Int := fun _ => 0
  setupOk : Nat → Bool := fun _ => true
  decode : UInt64 → Option (List Int) := fun _ => none
  cleared : Int := 0
  now : Int := 0

/-- `processIncoming`: the accepted downlinks of the observed session. -/
def Processor.processIncoming (processor : Processor α) (input : Iteration)
    (observedsessionepoch : Nat) : Processor α :=
  let batch := processor.playback.incoming
  let speakers := batch.zipIdx.foldl (fun speakers (frame, k) =>
    if frame.sessionepoch = observedsessionepoch ∧
        frame.sessionepoch = processor.gate.sessionepoch ∧ processor.gate.enabled then
      addRemoteFrame processor.config (input.arrival k) (input.setupOk k) speakers frame
    else speakers) processor.playback.speakers
  { processor with
    playback := { processor.playback with incoming := [], speakers := speakers } }

/-- The worker notices a new session. -/
def Processor.observeSession (processor : Processor α) (loop : WorkerLoop)
    (input : Iteration) : Processor α × WorkerLoop :=
  if processor.gate.sessionepoch ≠ loop.observedsessionepoch then
    (processor.clearWorkerState,
      { loop with
        observedsessionepoch := processor.gate.sessionepoch
        nextmix := input.cleared })
  else (processor, loop)

/-- The worker notices a new capture epoch: captured frames are dropped and,
when the microphone is live, a new stream begins. -/
def Processor.observeCapture (processor : Processor α) (loop : WorkerLoop) :
    Processor α × WorkerLoop :=
  if processor.gate.captureepoch ≠ loop.observedcaptureepoch then
    let capture := { processor.capture with queue := [] }
    let loop := { loop with observedcaptureepoch := processor.gate.captureepoch }
    if processor.gate.captureActive then
      ({ processor with
          capture := { capture with
            streamgeneration := advanceStream capture.streamgeneration } },
        { loop with sequence := 0, firstpacket := true })
    else ({ processor with capture := capture }, loop)
  else (processor, loop)

/-- The worker encodes what was captured, or drops it. -/
def Processor.encodeCaptured (processor : Processor α) (loop : WorkerLoop)
    (input : Iteration) : Processor α × WorkerLoop :=
  if processor.gate.captureActive then
    let (capture, loop) := drainCapture processor.config processor.gate input.encode 0
      processor.capture.queue { processor.capture with queue := [] } loop
    ({ processor with capture := capture }, loop)
  else
    ({ processor with capture := { processor.capture with queue := [] } }, loop)

/-- The worker mixes one frame when it is due and forgets silent speakers. -/
def Processor.mixDue (processor : Processor α) (loop : WorkerLoop) (input : Iteration) :
    Processor α × WorkerLoop :=
  let (playback, loop) :=
    if loop.nextmix ≤ input.now then
      let nextmix := loop.nextmix + milliseconds frameMilliseconds
      ((mixOneFrame processor.config input.now input.decode processor.playback).1,
        { loop with
          nextmix := if milliseconds 100 < input.now - nextmix then input.now else nextmix })
    else (processor.playback, loop)
  ({ processor with
      playback := { playback with
        speakers := cleanupSpeakers processor.config input.now playback.speakers } }, loop)

/-- One iteration of the worker loop. -/
def Processor.workerIteration (processor : Processor α) (input : Iteration) : Processor α :=
  match processor.worker with
  | .looping loop =>
      if processor.gate.running = false ∨ processor.gate.sessionepoch % 2 ≠ 0 then processor
      else
        let (processor, loop) := processor.observeSession loop input
        let (processor, loop) := processor.observeCapture loop
        let processor := processor.processIncoming input loop.observedsessionepoch
        let (processor, loop) := processor.encodeCaptured loop input
        let (processor, loop) := processor.mixDue loop input
        { processor with worker := .looping loop }
  | _ => processor

/-! ## Public calls -/

/-- `clearOutgoing`. -/
def Processor.clearOutgoing (processor : Processor α) : Processor α :=
  { processor with capture := { processor.capture with outgoing := [] } }

/-- `clearIncoming`. -/
def Processor.clearIncoming (processor : Processor α) : Processor α :=
  { processor with playback := { processor.playback with incoming := [] } }

/-- `start`; it fails when the encoder cannot be set up. -/
def Processor.start (processor : Processor α) (setupOk : Bool) : Processor α × Bool :=
  if processor.gate.running then (processor, true)
  else if setupOk = false then (processor, false)
  else
    ({ processor with
        gate := { processor.gate with
          captureepoch := processor.gate.captureepoch + 1
          running := true }
        worker := .spawned }, true)

/-- `stop`.  Joining a worker that has not reached its loop lets it run up to
it. -/
def Processor.stop (processor : Processor α) : Processor α :=
  let gate := { processor.gate with
    running := false
    captureepoch := processor.gate.captureepoch + 1 }
  let streamgeneration :=
    match processor.worker with
    | .spawned => preludeStream gate processor.capture.streamgeneration
    | _ => processor.capture.streamgeneration
  let processor := { processor with
    gate := gate
    capture := { processor.capture with streamgeneration := streamgeneration }
    worker := .none }
  processor.clearWorkerState.clearOutgoing.clearIncoming

/-- `setEnabled`. -/
def Processor.setEnabled (processor : Processor α) (enabled : Bool) : Processor α :=
  if processor.gate.enabled = enabled then processor
  else
    let processor := { processor with
      gate := { processor.gate with
        enabled := enabled
        captureepoch := processor.gate.captureepoch + 1
        sessionepoch := processor.gate.sessionepoch + 1 + 1 } }
    let processor := processor.clearOutgoing.clearIncoming
    { processor with
      playback := { processor.playback with playbackclearrequested := true } }

/-- `setTransmitting`. -/
def Processor.setTransmitting (processor : Processor α) (transmitting : Bool) : Processor α :=
  if processor.gate.transmitting = transmitting then processor
  else
    Processor.clearOutgoing { processor with
      gate := { processor.gate with
        transmitting := transmitting
        captureepoch := processor.gate.captureepoch + 1 } }

/-- `setLocalMuted`. -/
def Processor.setLocalMuted (processor : Processor α) (muted : Bool) : Processor α :=
  if processor.gate.localmuted = muted then processor
  else
    Processor.clearOutgoing { processor with
      gate := { processor.gate with
        localmuted := muted
        captureepoch := processor.gate.captureepoch + 1 } }

/-- `setSession`. -/
def Processor.setSession (processor : Processor α) (sessionid : UInt64)
    (membershipgeneration : UInt32) (localplayerid : UInt64) : Processor α :=
  let processor := { processor with
    gate := { processor.gate with
      sessionid := sessionid
      membershipgeneration := membershipgeneration
      localplayerid := localplayerid
      captureepoch := processor.gate.captureepoch + 1
      sessionepoch := processor.gate.sessionepoch + 1 + 1 } }
  let processor := processor.clearOutgoing.clearIncoming
  { processor with
    playback := { processor.playback with
      speakercontrols := ∅
      playbackclearrequested := true } }

/-- `clearSession`. -/
def Processor.clearSession (processor : Processor α) : Processor α :=
  processor.setSession 0 0 0

/-- `popPlayback`: the samples read from the ring; the device hears zeros after
them. -/
def Processor.popPlayback (processor : Processor α) (samplecount : Nat) :
    Processor α × List Int :=
  if samplecount = 0 then (processor, [])
  else
    let ring := if processor.playback.playbackclearrequested then [] else processor.playback.ring
    ({ processor with
        playback := { processor.playback with
          playbackclearrequested := false
          ring := ring.drop samplecount } },
      ring.take samplecount)

/-- The frame is of the current epochs and names the current session. -/
def EncodedFrame.isCurrent (encoded : EncodedFrame α) (gate : Gate) : Bool :=
  encoded.sessionepoch = gate.sessionepoch ∧ encoded.captureepoch = gate.captureepoch ∧
    encoded.sessionid = gate.sessionid ∧
    encoded.membershipgeneration = gate.membershipgeneration

/-- The packet of an encoded frame. -/
def EncodedFrame.packet (encoded : EncodedFrame α) : UplinkPacket :=
  { flags := encoded.flags
    sessionid := encoded.sessionid
    membershipgeneration := encoded.membershipgeneration
    streamgeneration := encoded.streamgeneration
    sequence := encoded.sequence
    sampleposition := encoded.sampleposition
    payload := encoded.payload }

/-- The pop loop: outdated frames are dropped until a current one is found. -/
def popCurrent (gate : Gate) :
    List (EncodedFrame α) → List (EncodedFrame α) × Option (EncodedFrame α)
  | [] => ([], none)
  | encoded :: rest =>
      if encoded.isCurrent gate then (rest, some encoded) else popCurrent gate rest

/-- `popOutgoingPacket`: the frame whose packet it returns. -/
def Processor.popOutgoingPacket (processor : Processor α) :
    Processor α × Option (EncodedFrame α) :=
  if processor.gate.running = false ∨ processor.gate.captureActive = false then
    (processor, none)
  else
    let (outgoing, popped) := popCurrent processor.gate processor.capture.outgoing
    ({ processor with capture := { processor.capture with outgoing := outgoing } }, popped)

/-- The acceptance test of `pushIncomingPacket`. -/
def Gate.accepts (gate : Gate) (packet : DownlinkPacket) : Bool :=
  validateTeamVoiceDownlinkPacket packet = .none ∧
    gate.sessionepoch % 2 = 0 ∧ gate.running ∧ packet.sessionid = gate.sessionid ∧
    packet.recipientgeneration = gate.membershipgeneration ∧
    packet.speakerid ≠ gate.localplayerid ∧ gate.enabled

/-- `pushIncomingPacket`. -/
def Processor.pushIncomingPacket (processor : Processor α) (packet : DownlinkPacket) :
    Processor α × Bool :=
  if processor.gate.accepts packet then
    let remote : RemoteFrame :=
      { flags := packet.flags
        sessionepoch := processor.gate.sessionepoch
        speakerid := packet.speakerid
        speakergeneration := packet.speakergeneration
        streamgeneration := packet.streamgeneration
        sequence := packet.sequence
        sampleposition := packet.sampleposition
        payload := packet.payload }
    let incoming := processor.playback.incoming
    let incoming :=
      if processor.config.incomingpackets ≤ incoming.length then incoming.drop 1 else incoming
    ({ processor with
        playback := { processor.playback with incoming := incoming ++ [remote] } }, true)
  else (processor, false)

/-- `setSpeakerMuted`. -/
def Processor.setSpeakerMuted (processor : Processor α) (speakerid : UInt64) (muted : Bool) :
    Processor α × Bool :=
  let (playback, result) :=
    processor.playback.setControl processor.config speakerid (some muted) none
  ({ processor with playback := playback }, result)

/-- `setSpeakerVolume`. -/
def Processor.setSpeakerVolume (processor : Processor α) (speakerid : UInt64) (volume : ℚ) :
    Processor α × Bool :=
  let (playback, result) :=
    processor.playback.setControl processor.config speakerid none (some volume)
  ({ processor with playback := playback }, result)

/-- `gTeamVoice::handleSessionPacket`: a malformed control changes nothing. -/
def Processor.handleSessionPacket (processor : Processor α) (packet : SessionPacket) :
    Processor α :=
  if validateTeamVoiceSessionPacket packet ≠ .none then processor
  else if packet.enabled = false then (processor.setTransmitting false).clearSession
  else processor.setSession packet.sessionid packet.membershipgeneration packet.playerid

end Voice
