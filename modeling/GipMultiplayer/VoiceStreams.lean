import Mathlib.Logic.Relation
import GipMultiplayer.VoiceClient
import GipMultiplayer.VoiceCapture

/-!
# Uplink streams

The worker cuts what the microphone says into streams: it begins one when it
enters its loop, or notices a new capture epoch, with the microphone live, and
numbers the frames of a stream from zero.  An uplink is a processor that also
writes down how many streams it has begun, how many frames it has taken from
the capture queue for the present one, and what `popOutgoingPacket` returned.

* `Processor.call` — one public call, callback or worker step;
* `Uplink.step` — the same with its tally;
* `Uplink.Effect` — what can happen to the uplink side at a time;
* `Uplink.perform_effects` — every call is a chain of effects.
-/

namespace Voice

variable {α : Type}

/-! ## Calls -/

/-- A public call of the processor, a device callback, the worker's prelude or
one worker iteration. -/
inductive ProcessorCall (α : Type)
  | start (setupOk : Bool)
  | stop
  | setEnabled (enabled : Bool)
  | setTransmitting (transmitting : Bool)
  | setLocalMuted (muted : Bool)
  | setSession (sessionid : UInt64) (membershipgeneration : UInt32) (localplayerid : UInt64)
  | clearSession
  | pushCaptured (input : List α)
  | workerPrelude (now : Int)
  | workerIteration (input : Iteration)
  | popOutgoingPacket
  | popPlayback (samplecount : Nat)
  | pushIncomingPacket (packet : DownlinkPacket)
  | setSpeakerMuted (speakerid : UInt64) (muted : Bool)
  | setSpeakerVolume (speakerid : UInt64) (volume : ℚ)

/-- The processor after a call. -/
def Processor.call (processor : Processor α) : ProcessorCall α → Processor α
  | .start setupOk => (processor.start setupOk).1
  | .stop => processor.stop
  | .setEnabled enabled => processor.setEnabled enabled
  | .setTransmitting transmitting => processor.setTransmitting transmitting
  | .setLocalMuted muted => processor.setLocalMuted muted
  | .setSession sessionid membershipgeneration localplayerid =>
      processor.setSession sessionid membershipgeneration localplayerid
  | .clearSession => processor.clearSession
  | .pushCaptured input => processor.pushCaptured input
  | .workerPrelude now => processor.workerPrelude now
  | .workerIteration input => processor.workerIteration input
  | .popOutgoingPacket => processor.popOutgoingPacket.1
  | .popPlayback samplecount => (processor.popPlayback samplecount).1
  | .pushIncomingPacket packet => (processor.pushIncomingPacket packet).1
  | .setSpeakerMuted speakerid muted => (processor.setSpeakerMuted speakerid muted).1
  | .setSpeakerVolume speakerid volume => (processor.setSpeakerVolume speakerid volume).1

/-- A call of a client is one call of its processor, or two. -/
theorem Client.run_calls (client : Client) (clock : Nat) (call : ClientCall) :
    ∃ calls : List (ProcessorCall Sample),
      client.run clock call = calls.foldl Processor.call client.processor := by
  cases call with
  | handleSessionPacket control =>
      simp only [Client.run, Processor.handleSessionPacket]
      split_ifs
      · exact ⟨[], rfl⟩
      · exact ⟨[.setTransmitting false, .clearSession], rfl⟩
      · exact ⟨[.setSession _ _ _], rfl⟩
  | start setupOk => exact ⟨[.start setupOk], rfl⟩
  | stop => exact ⟨[.stop], rfl⟩
  | setEnabled enabled => exact ⟨[.setEnabled enabled], rfl⟩
  | setTransmitting transmitting => exact ⟨[.setTransmitting transmitting], rfl⟩
  | setLocalMuted muted => exact ⟨[.setLocalMuted muted], rfl⟩
  | setSession sessionid membershipgeneration localplayerid =>
      exact ⟨[.setSession sessionid membershipgeneration localplayerid], rfl⟩
  | clearSession => exact ⟨[.clearSession], rfl⟩
  | pushCaptured input => exact ⟨[.pushCaptured (input.map (client.stamp clock))], rfl⟩
  | workerPrelude now => exact ⟨[.workerPrelude now], rfl⟩
  | workerIteration input => exact ⟨[.workerIteration input], rfl⟩
  | popOutgoingPacket => exact ⟨[.popOutgoingPacket], rfl⟩
  | popPlayback samplecount => exact ⟨[.popPlayback samplecount], rfl⟩
  | pushIncomingPacket packet => exact ⟨[.pushIncomingPacket packet], rfl⟩
  | setSpeakerMuted speakerid muted => exact ⟨[.setSpeakerMuted speakerid muted], rfl⟩
  | setSpeakerVolume speakerid volume => exact ⟨[.setSpeakerVolume speakerid volume], rfl⟩

/-! ## The tally of an uplink -/

/-- A packet that `popOutgoingPacket` returned, and the number of its stream,
counted from one. -/
structure Returned where
  packet : UplinkPacket
  stream : Nat
  deriving DecidableEq

/-- What an uplink writes down: the streams begun; the frames taken for the
present one, the most any stream had, and how many of the last ones the encoder
failed on in a row; and the packets returned, oldest first. -/
structure StreamTally where
  streams : Nat := 0
  frames : Nat := 0
  longest : Nat := 0
  failures : Nat := 0
  returned : List Returned := []
  deriving DecidableEq

/-- A stream begins. -/
def StreamTally.begin (tally : StreamTally) : StreamTally :=
  { tally with streams := tally.streams + 1, frames := 0, failures := 0 }

/-- A frame is taken for the present stream. -/
def StreamTally.take (tally : StreamTally) (encoded : Bool) : StreamTally :=
  { tally with
    frames := tally.frames + 1
    longest := max tally.longest (tally.frames + 1)
    failures := if encoded then 0 else tally.failures + 1 }

/-- The frames of a drain are taken in turn. -/
def StreamTally.takeAll (encode : Nat → Option (List UInt8)) :
    Nat → List (PcmFrame α) → StreamTally → StreamTally
  | _, [], tally => tally
  | k, _ :: frames, tally => takeAll encode (k + 1) frames (tally.take (encode k).isSome)

/-- A processor with its tally, and the frames that its capture callback has
put into the capture queue. -/
structure Uplink (α : Type) where
  processor : Processor α
  tally : StreamTally := {}
  framed : List (PcmFrame α) := []

/-- The frame is of the epochs that the worker has observed. -/
def PcmFrame.isObserved (frame : PcmFrame α) (loop : WorkerLoop) : Bool :=
  frame.sessionepoch = loop.observedsessionepoch ∧ frame.captureepoch = loop.observedcaptureepoch

/-- The frames that the next worker iteration takes for the present stream. -/
def Processor.taken (processor : Processor α) : List (PcmFrame α) :=
  match processor.worker with
  | .looping loop =>
      if processor.gate.running = false ∨ processor.gate.sessionepoch % 2 ≠ 0 ∨
          processor.gate.captureActive = false ∨
          processor.gate.sessionepoch ≠ loop.observedsessionepoch ∨
          processor.gate.captureepoch ≠ loop.observedcaptureepoch then []
      else processor.capture.queue.filter (·.isObserved loop)
  | _ => []

namespace Uplink

/-- The tally after the calls that may begin a stream. -/
def began (u : Uplink α) (processor : Processor α) : StreamTally :=
  if processor.capture.streamgeneration ≠ u.processor.capture.streamgeneration then
    u.tally.begin
  else u.tally

/-- What a call writes down. -/
def tallied (u : Uplink α) (processor : Processor α) : ProcessorCall α → StreamTally
  | .workerIteration input =>
      (u.began processor).takeAll input.encode 0 u.processor.taken
  | .popOutgoingPacket =>
      match u.processor.popOutgoingPacket.2 with
      | some frame =>
          { u.tally with returned := u.tally.returned ++ [⟨frame.packet, u.tally.streams⟩] }
      | none => u.tally
  | _ => u.began processor

/-- The uplink after a call. -/
def perform (u : Uplink α) (call : ProcessorCall α) : Uplink α :=
  let processor := u.processor.call call
  { processor := processor
    tally := u.tallied processor call
    framed := u.framed ++ match call with
      | .pushCaptured _ => processor.capture.queue.drop u.processor.capture.queue.length
      | _ => [] }

/-- Every call is possible at any time. -/
def step (u : Uplink α) (call : ProcessorCall α) : Option (Uplink α) :=
  some (u.perform call)

/-- A new processor. -/
def start (config : ProcessorConfig) : Uplink α :=
  { processor := Processor.create config }

end Uplink

/-! ## Effects -/

/-- What the worker's loop knows about streams. -/
structure Encoding where
  observedsessionepoch : Nat
  observedcaptureepoch : Nat
  sequence : UInt32
  firstpacket : Bool
  deriving DecidableEq

/-- A loop without the time of its next mix. -/
def WorkerLoop.encoding (loop : WorkerLoop) : Encoding :=
  { observedsessionepoch := loop.observedsessionepoch
    observedcaptureepoch := loop.observedcaptureepoch
    sequence := loop.sequence
    firstpacket := loop.firstpacket }

/-- The encoding of a worker that is in its loop. -/
def Worker.encoding : Worker → Option Encoding
  | .looping loop => some loop.encoding
  | _ => Option.none

/-- The frame is of the epochs observed. -/
def PcmFrame.Of (frame : PcmFrame α) (e : Encoding) : Prop :=
  frame.sessionepoch = e.observedsessionepoch ∧ frame.captureepoch = e.observedcaptureepoch

theorem PcmFrame.isObserved_iff {frame : PcmFrame α} {loop : WorkerLoop} :
    frame.isObserved loop = true ↔ frame.Of loop.encoding := by
  simp [isObserved, Of, WorkerLoop.encoding]

namespace Uplink

/-- The gates of an uplink. -/
abbrev gate (u : Uplink α) : Gate := u.processor.gate

/-- The capture path of an uplink. -/
abbrev capture (u : Uplink α) : Capture α := u.processor.capture

/-- The encoding of an uplink. -/
abbrev encoding (u : Uplink α) : Option Encoding := u.processor.worker.encoding

/-- Nothing on the uplink side differs. -/
structure Quiet (u u' : Uplink α) : Prop where
  gate : u'.gate = u.gate
  capture : u'.capture = u.capture
  encoding : u'.encoding = u.encoding
  tally : u'.tally = u.tally

theorem Quiet.refl (u : Uplink α) : Quiet u u := ⟨rfl, rfl, rfl, rfl⟩

/-- A stream begins, or does not, with the generation of the capture path. -/
def Begins (u u' : Uplink α) (begins : Prop) [Decidable begins] : Prop :=
  u'.capture.streamgeneration =
      (if begins then advanceStream u.capture.streamgeneration
        else u.capture.streamgeneration) ∧
    u'.tally = if begins then u.tally.begin else u.tally

/-- **One effect on the uplink side.**  The frames that are encoded meet `ok`,
judged with the tally before and what the encoder returns. -/
inductive Effect (ok : StreamTally → PcmFrame α → Option (List UInt8) → Prop)
    (u u' : Uplink α) : Prop
  | quiet (h : Quiet u u')
  | changed (hepoch : u.gate.captureepoch < u'.gate.captureepoch)
      (heven : u'.gate.sessionepoch % 2 = u.gate.sessionepoch % 2)
      (hcapture : u'.capture = { u.capture with outgoing := [] })
      (hencoding : u'.encoding = u.encoding) (htally : u'.tally = u.tally)
  | stopped (begins : Prop) [Decidable begins]
      (hgate : u'.gate = { u.gate with
        running := false, captureepoch := u.gate.captureepoch + 1 })
      (hcapture : u'.capture = { u.capture with
        queue := [], outgoing := [], streamgeneration := u'.capture.streamgeneration })
      (hencoding : u'.encoding = none) (hbegins : Begins u u' begins)
  | started (hoff : u.gate.running = false)
      (hgate : u'.gate = { u.gate with
        running := true, captureepoch := u.gate.captureepoch + 1 })
      (hcapture : u'.capture = u.capture) (hencoding : u'.encoding = none)
      (htally : u'.tally = u.tally)
  | entered (hnone : u.encoding = none) (hgate : u'.gate = u.gate)
      (hcapture : u'.capture = { u.capture with
        streamgeneration := u'.capture.streamgeneration })
      (hencoding : u'.encoding =
        some ⟨u.gate.sessionepoch, u.gate.captureepoch, 0, true⟩)
      (hbegins : Begins u u' (u.gate.sessionepoch % 2 = 0 ∧ u.gate.captureActive = true))
  | noticed (e : Encoding) (hold : u.encoding = some e)
      (hnew : u.gate.sessionepoch ≠ e.observedsessionepoch) (hgate : u'.gate = u.gate)
      (hcapture : u'.capture = { u.capture with queue := [] })
      (hencoding : u'.encoding = some { e with
        observedsessionepoch := u.gate.sessionepoch }) (htally : u'.tally = u.tally)
  | observed (e : Encoding) (hold : u.encoding = some e)
      (hsession : u.gate.sessionepoch = e.observedsessionepoch)
      (hnew : u.gate.captureepoch ≠ e.observedcaptureepoch) (hgate : u'.gate = u.gate)
      (hcapture : u'.capture = { u.capture with
        queue := [], streamgeneration := u'.capture.streamgeneration })
      (hencoding : u'.encoding = some (if u.gate.captureActive = true then
          ⟨e.observedsessionepoch, u.gate.captureepoch, 0, true⟩
        else { e with observedcaptureepoch := u.gate.captureepoch }))
      (hbegins : Begins u u' (u.gate.captureActive = true))
  | discarded (hoff : u.gate.captureActive = false) (hgate : u'.gate = u.gate)
      (hcapture : u'.capture = { u.capture with queue := [] })
      (hencoding : u'.encoding = u.encoding) (htally : u'.tally = u.tally)
  | skipped (e : Encoding) (hold : u.encoding = some e) (frame : PcmFrame α)
      (rest : List (PcmFrame α)) (hqueue : u.capture.queue = frame :: rest)
      (hother : ¬ frame.Of e) (hgate : u'.gate = u.gate)
      (hcapture : u'.capture = { u.capture with queue := rest })
      (hencoding : u'.encoding = u.encoding) (htally : u'.tally = u.tally)
  | encoded (e : Encoding) (hold : u.encoding = some e) (config : ProcessorConfig)
      (frame : PcmFrame α) (rest : List (PcmFrame α)) (payload : Option (List UInt8))
      (hqueue : u.capture.queue = frame :: rest) (hown : frame.Of e)
      (hrunning : u.gate.running = true) (hactive : u.gate.captureActive = true)
      (hsession : u.gate.sessionepoch = e.observedsessionepoch)
      (hepoch : u.gate.captureepoch = e.observedcaptureepoch)
      (hok : ok u.tally frame payload) (hgate : u'.gate = u.gate)
      (hcapture : u'.capture = encodeFrame config u.gate { u.capture with queue := rest } frame
        e.sequence e.firstpacket payload)
      (hencoding : u'.encoding = some { e with
        sequence := e.sequence + 1, firstpacket := false })
      (htally : u'.tally = u.tally.take payload.isSome)
  | captured (input : List α) (hgate : u'.gate = u.gate)
      (hcapture : u'.capture = (u.processor.pushCaptured input).capture)
      (hencoding : u'.encoding = u.encoding) (htally : u'.tally = u.tally)
  | popped (hrunning : u.gate.running = true) (hactive : u.gate.captureActive = true)
      (hgate : u'.gate = u.gate)
      (hcapture : u'.capture = { u.capture with
        outgoing := (popCurrent u.gate u.capture.outgoing).1 })
      (hencoding : u'.encoding = u.encoding)
      (htally : u'.tally = match (popCurrent u.gate u.capture.outgoing).2 with
        | some frame =>
            { u.tally with returned := u.tally.returned ++ [⟨frame.packet, u.tally.streams⟩] }
        | none => u.tally)

/-- A chain of effects. -/
abbrev Effects (ok : StreamTally → PcmFrame α → Option (List UInt8) → Prop) :
    Uplink α → Uplink α → Prop :=
  Relation.ReflTransGen (Effect ok)

end Uplink

/-! ## The drain of the capture queue -/

/-- The frames of a drain meet `ok` in turn. -/
def Drains (ok : StreamTally → PcmFrame α → Option (List UInt8) → Prop)
    (encode : Nat → Option (List UInt8)) : Nat → List (PcmFrame α) → StreamTally → Prop
  | _, [], _ => True
  | k, frame :: frames, tally =>
      ok tally frame (encode k) ∧ Drains ok encode (k + 1) frames (tally.take (encode k).isSome)

/-- Encoding a frame leaves the capture queue alone. -/
theorem encodeFrame_queue (config : ProcessorConfig) (gate : Gate) (capture : Capture α)
    (frame : PcmFrame α) (sequence : UInt32) (firstpacket : Bool) (payload : Option (List UInt8))
    (queue : List (PcmFrame α)) :
    (encodeFrame config gate { capture with queue := queue } frame sequence firstpacket payload) =
      { encodeFrame config gate capture frame sequence firstpacket payload with
        queue := queue } := by
  unfold encodeFrame
  cases payload with
  | none => split_ifs <;> rfl
  | some payload =>
      dsimp only
      split_ifs <;> rfl

theorem encodeFrame_streamgeneration (config : ProcessorConfig) (gate : Gate)
    (capture : Capture α) (frame : PcmFrame α) (sequence : UInt32) (firstpacket : Bool)
    (payload : Option (List UInt8)) :
    (encodeFrame config gate capture frame sequence firstpacket payload).streamgeneration =
      capture.streamgeneration := by
  unfold encodeFrame
  cases payload with
  | none => split_ifs <;> rfl
  | some payload =>
      dsimp only
      split_ifs <;> rfl

theorem drainCapture_streamgeneration (config : ProcessorConfig) (gate : Gate)
    (encode : Nat → Option (List UInt8)) (k : Nat) (frames : List (PcmFrame α))
    (capture : Capture α) (loop : WorkerLoop) :
    (drainCapture config gate encode k frames capture loop).1.streamgeneration =
      capture.streamgeneration := by
  induction frames generalizing k capture loop with
  | nil => rfl
  | cons frame frames ih =>
      unfold drainCapture
      split_ifs
      · exact ih k capture loop
      · rw [ih, encodeFrame_streamgeneration]

namespace Uplink

variable {ok : StreamTally → PcmFrame α → Option (List UInt8) → Prop}

/-- The uplink after a drain of these frames. -/
def drained (u : Uplink α) (encode : Nat → Option (List UInt8)) (k : Nat)
    (frames : List (PcmFrame α)) (loop : WorkerLoop) : Uplink α :=
  let (capture, drained) := drainCapture u.processor.config u.gate encode k frames
    { u.capture with queue := [] } loop
  { u with
    processor := { u.processor with capture := capture, worker := .looping drained }
    tally := u.tally.takeAll encode k (frames.filter (·.isObserved loop)) }

/-- The uplink when the drain has encoded one frame. -/
def encodedOne (u : Uplink α) (frame : PcmFrame α) (rest : List (PcmFrame α)) (loop : WorkerLoop)
    (payload : Option (List UInt8)) : Uplink α :=
  { u with
    processor := { u.processor with
      capture := encodeFrame u.processor.config u.gate { u.capture with queue := rest }
        frame loop.sequence loop.firstpacket payload
      worker := .looping { loop with sequence := loop.sequence + 1, firstpacket := false } }
    tally := u.tally.take payload.isSome }

/-- A drain that begins with a frame of the loop's epochs encodes it. -/
theorem drained_own (encode : Nat → Option (List UInt8)) (k : Nat) (u : Uplink α)
    {loop : WorkerLoop} {frame : PcmFrame α} (rest : List (PcmFrame α))
    (hown : frame.isObserved loop = true) :
    u.drained encode k (frame :: rest) loop =
      (u.encodedOne frame rest loop (encode k)).drained encode (k + 1) rest
        { loop with sequence := loop.sequence + 1, firstpacket := false } := by
  have hof : frame.Of loop.encoding := PcmFrame.isObserved_iff.mp hown
  have hdrain : drainCapture u.processor.config u.gate encode k (frame :: rest)
        { u.capture with queue := [] } loop =
      drainCapture u.processor.config u.gate encode (k + 1) rest
        { (u.encodedOne frame rest loop (encode k)).capture with queue := [] }
        { loop with sequence := loop.sequence + 1, firstpacket := false } := by
    have hnone := encodeFrame_queue u.processor.config u.gate u.capture frame
      loop.sequence loop.firstpacket (encode k) []
    have hrest := encodeFrame_queue u.processor.config u.gate u.capture frame
      loop.sequence loop.firstpacket (encode k) rest
    have htake : ¬ (frame.sessionepoch ≠ loop.observedsessionepoch ∨
        frame.captureepoch ≠ loop.observedcaptureepoch) := by
      rw [not_or, not_not, not_not]
      exact hof
    rw [drainCapture, if_neg htake]
    show drainCapture _ _ _ _ _ (encodeFrame _ _ _ _ _ _ _) _ =
      drainCapture _ _ _ _ _ { encodeFrame _ _ _ _ _ _ _ with queue := [] } _
    rw [hnone, hrest]
  unfold drained
  rw [hdrain, List.filter_cons, if_pos hown]
  rfl

/-- The uplink when the drain has dropped one frame. -/
def skippedOne (u : Uplink α) (rest : List (PcmFrame α)) : Uplink α :=
  { u with processor := { u.processor with capture := { u.capture with queue := rest } } }

/-- A drain that begins with another frame drops it. -/
theorem drained_other (encode : Nat → Option (List UInt8)) (k : Nat) (u : Uplink α)
    {loop : WorkerLoop} {frame : PcmFrame α} (rest : List (PcmFrame α))
    (hown : ¬ frame.isObserved loop = true) :
    u.drained encode k (frame :: rest) loop =
      (u.skippedOne rest).drained encode k rest loop := by
  have hother : ¬ frame.Of loop.encoding := fun h => hown (PcmFrame.isObserved_iff.mpr h)
  have hskip : frame.sessionepoch ≠ loop.observedsessionepoch ∨
      frame.captureepoch ≠ loop.observedcaptureepoch :=
    Decidable.not_and_iff_or_not.mp hother
  unfold drained
  rw [List.filter_cons, if_neg hown, drainCapture, if_pos hskip]
  rfl

/-- **A drain takes the frames one by one.** -/
theorem drain_effects (encode : Nat → Option (List UInt8)) (frames : List (PcmFrame α)) (k : Nat)
    {u : Uplink α} {loop : WorkerLoop} (hworker : u.processor.worker = .looping loop)
    (hrunning : u.gate.running = true) (hactive : u.gate.captureActive = true)
    (hsession : u.gate.sessionepoch = loop.observedsessionepoch)
    (hepoch : u.gate.captureepoch = loop.observedcaptureepoch)
    (hqueue : u.capture.queue = frames)
    (hok : Drains ok encode k (frames.filter (·.isObserved loop)) u.tally) :
    Effects ok u (u.drained encode k frames loop) := by
  induction frames generalizing k u loop with
  | nil =>
      refine .single (.quiet ⟨rfl, ?_, ?_, rfl⟩)
      · show { u.capture with queue := [] } = u.capture
        rw [← hqueue]
      · show some loop.encoding = u.processor.worker.encoding
        rw [hworker]
        rfl
  | cons frame rest ih =>
      have hencoding : u.encoding = some loop.encoding := by
        rw [encoding, hworker]
        rfl
      by_cases hown : frame.isObserved loop = true
      · rw [List.filter_cons, if_pos hown] at hok
        have hof : frame.Of loop.encoding := PcmFrame.isObserved_iff.mp hown
        have heffect : Effect ok u (u.encodedOne frame rest loop (encode k)) :=
          .encoded loop.encoding hencoding u.processor.config frame rest (encode k) hqueue hof
            hrunning hactive hsession hepoch hok.1 rfl rfl rfl rfl
        have hqueue₁ : (u.encodedOne frame rest loop (encode k)).capture.queue = rest := by
          show (encodeFrame _ _ _ _ _ _ _).queue = rest
          rw [encodeFrame_queue]
        rw [drained_own encode k u rest hown]
        exact .head heffect (ih (k + 1) rfl hrunning hactive hsession hepoch hqueue₁ hok.2)
      · rw [List.filter_cons, if_neg hown] at hok
        have hother : ¬ frame.Of loop.encoding := fun h => hown (PcmFrame.isObserved_iff.mpr h)
        have heffect : Effect ok u (u.skippedOne rest) :=
          .skipped loop.encoding hencoding frame rest hqueue hother rfl rfl rfl rfl
        rw [drained_other encode k u rest hown]
        exact .head heffect (ih k hworker hrunning hactive hsession hepoch rfl hok)

/-! ## Every call is a chain of effects -/

theorem began_of_eq {u : Uplink α} {processor : Processor α}
    (h : processor.capture.streamgeneration = u.processor.capture.streamgeneration) :
    u.began processor = u.tally := if_neg (not_not.mpr h)

/-- The next stream generation is another one. -/
theorem advanceStream_ne (streamgeneration : UInt32) :
    advanceStream streamgeneration ≠ streamgeneration := by
  unfold advanceStream
  dsimp only
  split_ifs with h <;> grind

/-- The tally when the stream generation goes from one value to another. -/
theorem began_of_begins {u : Uplink α} {processor : Processor α} (begins : Prop)
    [Decidable begins]
    (h : processor.capture.streamgeneration =
      if begins then advanceStream u.processor.capture.streamgeneration
      else u.processor.capture.streamgeneration) :
    u.began processor = if begins then u.tally.begin else u.tally := by
  by_cases hbegins : begins
  · rw [if_pos hbegins] at h ⊢
    exact if_pos (h ▸ advanceStream_ne _)
  · rw [if_neg hbegins] at h ⊢
    exact began_of_eq h

/-- A processor in the middle of an iteration, with a tally. -/
def stage (u : Uplink α) (processor : Processor α) (loop : WorkerLoop) (tally : StreamTally) :
    Uplink α :=
  { u with processor := { processor with worker := .looping loop }, tally := tally }

theorem observeSession_effect (u : Uplink α) (processor : Processor α) (loop : WorkerLoop)
    (input : Iteration) (tally : StreamTally) :
    Effect ok (u.stage processor loop tally)
      (u.stage (processor.observeSession loop input).1 (processor.observeSession loop input).2
        tally) := by
  unfold Processor.observeSession
  split_ifs with hnew
  · exact .noticed loop.encoding rfl hnew rfl rfl rfl rfl
  · exact .quiet (Quiet.refl _)

/-- The worker begins a stream when it notices a capture epoch. -/
def Notices (processor : Processor α) (loop : WorkerLoop) : Prop :=
  processor.gate.captureepoch ≠ loop.observedcaptureepoch ∧ processor.gate.captureActive = true

instance (processor : Processor α) (loop : WorkerLoop) : Decidable (Notices processor loop) :=
  inferInstanceAs (Decidable (_ ∧ _))

theorem observeCapture_streamgeneration (processor : Processor α) (loop : WorkerLoop) :
    (processor.observeCapture loop).1.capture.streamgeneration =
      if Notices processor loop then advanceStream processor.capture.streamgeneration
      else processor.capture.streamgeneration := by
  unfold Processor.observeCapture
  by_cases hnew : processor.gate.captureepoch ≠ loop.observedcaptureepoch
  · rw [if_pos hnew]
    by_cases hactive : processor.gate.captureActive = true
    · have hnotices : Notices processor loop := ⟨hnew, hactive⟩
      rw [if_pos hnotices, if_pos hactive]
    · have hquiet : ¬ Notices processor loop := fun h => hactive h.2
      rw [if_neg hquiet, if_neg hactive]
  · have hquiet : ¬ Notices processor loop := fun h => hnew h.1
    rw [if_neg hquiet, if_neg hnew]

theorem observeCapture_effect (u : Uplink α) {processor : Processor α} {loop : WorkerLoop}
    (tally : StreamTally)
    (hsession : processor.gate.sessionepoch = loop.observedsessionepoch) :
    Effect ok (u.stage processor loop tally)
      (u.stage (processor.observeCapture loop).1 (processor.observeCapture loop).2
        (if Notices processor loop then tally.begin else tally)) := by
  unfold Processor.observeCapture
  by_cases hnew : processor.gate.captureepoch ≠ loop.observedcaptureepoch
  · rw [if_pos hnew]
    by_cases hactive : processor.gate.captureActive = true
    · have hnotices : Notices processor loop := ⟨hnew, hactive⟩
      rw [if_pos hnotices, if_pos hactive]
      exact .observed loop.encoding rfl hsession hnew rfl rfl
        (congrArg some (if_pos hactive).symm) ⟨(if_pos hactive).symm, (if_pos hactive).symm⟩
    · have hquiet : ¬ Notices processor loop := fun h => hactive h.2
      rw [if_neg hquiet, if_neg hactive]
      exact .observed loop.encoding rfl hsession hnew rfl rfl
        (congrArg some (if_neg hactive).symm) ⟨(if_neg hactive).symm, (if_neg hactive).symm⟩
  · have hquiet : ¬ Notices processor loop := fun h => hnew h.1
    rw [if_neg hquiet, if_neg hnew]
    exact .quiet (Quiet.refl _)

theorem observeSession_observed (processor : Processor α) (loop : WorkerLoop)
    (input : Iteration) :
    (processor.observeSession loop input).2.observedsessionepoch =
      processor.gate.sessionepoch := by
  unfold Processor.observeSession
  split_ifs with hnew
  · rfl
  · exact (not_not.mp hnew).symm

theorem observeCapture_observed (processor : Processor α) (loop : WorkerLoop) :
    (processor.observeCapture loop).2.observedsessionepoch = loop.observedsessionepoch ∧
      (processor.observeCapture loop).2.observedcaptureepoch = processor.gate.captureepoch := by
  unfold Processor.observeCapture
  split_ifs with hnew hactive
  · exact ⟨rfl, rfl⟩
  · exact ⟨rfl, rfl⟩
  · exact ⟨rfl, (not_not.mp hnew).symm⟩

/-- Noticing a new epoch empties the capture queue. -/
theorem taken_eq {processor : Processor α} {loop : WorkerLoop} (input : Iteration)
    (hworker : processor.worker = .looping loop) (hrunning : processor.gate.running = true)
    (heven : processor.gate.sessionepoch % 2 = 0)
    (hactive : processor.gate.captureActive = true) {staged : Processor α × WorkerLoop}
    (hstaged : staged = (processor.observeSession loop input).1.observeCapture
      (processor.observeSession loop input).2) :
    processor.taken = staged.1.capture.queue.filter (·.isObserved staged.2) := by
  unfold Processor.taken
  rw [hworker, hstaged]
  by_cases hsession : processor.gate.sessionepoch = loop.observedsessionepoch
  · have hsame : processor.observeSession loop input = (processor, loop) :=
      if_neg (not_not.mpr hsession)
    rw [hsame]
    by_cases hepoch : processor.gate.captureepoch = loop.observedcaptureepoch
    · have hkept : processor.observeCapture loop = (processor, loop) :=
        if_neg (not_not.mpr hepoch)
      rw [hkept]
      simp [hrunning, heven, hactive, ← hsession, hepoch]
    · have hqueue : (processor.observeCapture loop).1.capture.queue = [] := by
        unfold Processor.observeCapture
        rw [if_pos hepoch]
        split_ifs
        rfl
      simp [hqueue, hepoch]
  · have hclear : (processor.observeSession loop input).1.capture.queue = [] := by
      unfold Processor.observeSession
      rw [if_pos hsession]
      rfl
    have hqueue : ((processor.observeSession loop input).1.observeCapture
        (processor.observeSession loop input).2).1.capture.queue = [] := by
      unfold Processor.observeCapture
      split_ifs
      · rfl
      · rfl
      · exact hclear
    simp [hqueue, hsession]

theorem encodeCaptured_effects (u : Uplink α) (processor : Processor α) (loop : WorkerLoop)
    (input : Iteration) (tally : StreamTally) (hrunning : processor.gate.running = true)
    (hsession : processor.gate.sessionepoch = loop.observedsessionepoch)
    (hepoch : processor.gate.captureepoch = loop.observedcaptureepoch)
    {taken : List (PcmFrame α)}
    (htaken : taken = if processor.gate.captureActive = true then
      processor.capture.queue.filter (·.isObserved loop) else [])
    (hok : Drains ok input.encode 0 taken tally) :
    Effects ok (u.stage processor loop tally)
      (u.stage (processor.encodeCaptured loop input).1 (processor.encodeCaptured loop input).2
        (tally.takeAll input.encode 0 taken)) := by
  subst htaken
  by_cases hactive : processor.gate.captureActive = true
  · rw [if_pos hactive] at hok ⊢
    have hdrained := drain_effects input.encode processor.capture.queue 0
      (u := u.stage processor loop tally) rfl hrunning hactive hsession hepoch rfl hok
    unfold Processor.encodeCaptured
    rw [if_pos hactive]
    exact hdrained
  · rw [if_neg hactive]
    unfold Processor.encodeCaptured
    rw [if_neg hactive]
    exact .single (.discarded (Bool.eq_false_of_not_eq_true hactive) rfl rfl rfl rfl)

theorem encodeCaptured_streamgeneration (processor : Processor α) (loop : WorkerLoop)
    (input : Iteration) :
    (processor.encodeCaptured loop input).1.capture.streamgeneration =
      processor.capture.streamgeneration := by
  unfold Processor.encodeCaptured
  split_ifs
  · exact drainCapture_streamgeneration ..
  · rfl

theorem observeSession_streamgeneration (processor : Processor α) (loop : WorkerLoop)
    (input : Iteration) :
    (processor.observeSession loop input).1.capture.streamgeneration =
      processor.capture.streamgeneration := by
  unfold Processor.observeSession
  split_ifs <;> rfl

theorem Notices.queue {processor : Processor α} {loop : WorkerLoop} (h : Notices processor loop) :
    (processor.observeCapture loop).1.capture.queue = [] := by
  unfold Processor.observeCapture
  rw [if_pos h.1, if_pos h.2]

theorem mixDue_encoding (processor : Processor α) (loop : WorkerLoop) (input : Iteration) :
    (processor.mixDue loop input).2.encoding = loop.encoding := by
  unfold Processor.mixDue
  split_ifs <;> rfl

/-- The stages of an iteration, in the words of the worker: the gates stay, and
after two stages the loop has observed their epochs. -/
structure Stages (u : Uplink α) (loop : WorkerLoop) (input : Iteration)
    (p₁ p₂ p₄ : Processor α) (loop₁ loop₂ loop₄ : WorkerLoop) : Prop where
  observed : u.processor.observeSession loop input = (p₁, loop₁)
  noticed : p₁.observeCapture loop₁ = (p₂, loop₂)
  encoded : (p₂.processIncoming input loop₂.observedsessionepoch).encodeCaptured loop₂ input =
    (p₄, loop₄)
  iteration : u.processor.workerIteration input =
    { (p₄.mixDue loop₄ input).1 with worker := .looping (p₄.mixDue loop₄ input).2 }
  gate₁ : p₁.gate = u.processor.gate
  gate₂ : p₂.gate = u.processor.gate
  session₁ : loop₁.observedsessionepoch = u.processor.gate.sessionepoch
  session₂ : loop₂.observedsessionepoch = u.processor.gate.sessionepoch
  epoch₂ : loop₂.observedcaptureepoch = u.processor.gate.captureepoch

theorem workerIteration_stages {u : Uplink α} {loop : WorkerLoop} (input : Iteration)
    (hworker : u.processor.worker = .looping loop) (hrunning : u.processor.gate.running = true)
    (heven : u.processor.gate.sessionepoch % 2 = 0) :
    ∃ p₁ p₂ p₄ loop₁ loop₂ loop₄, u.Stages loop input p₁ p₂ p₄ loop₁ loop₂ loop₄ := by
  obtain ⟨p₁, loop₁, h₁⟩ : ∃ p₁ loop₁, u.processor.observeSession loop input = (p₁, loop₁) :=
    ⟨_, _, rfl⟩
  obtain ⟨p₂, loop₂, h₂⟩ : ∃ p₂ loop₂, p₁.observeCapture loop₁ = (p₂, loop₂) := ⟨_, _, rfl⟩
  obtain ⟨p₄, loop₄, h₄⟩ : ∃ p₄ loop₄,
      (p₂.processIncoming input loop₂.observedsessionepoch).encodeCaptured loop₂ input =
        (p₄, loop₄) := ⟨_, _, rfl⟩
  have hiteration : u.processor.workerIteration input =
      { (p₄.mixDue loop₄ input).1 with worker := .looping (p₄.mixDue loop₄ input).2 } := by
    have hgo : ¬ (u.processor.gate.running = false ∨ u.processor.gate.sessionepoch % 2 ≠ 0) := by
      simp [hrunning, heven]
    simp only [Processor.workerIteration, hworker, if_neg hgo, h₁, h₂, h₄]
  have hgate₁ : p₁.gate = u.processor.gate := by
    have h := observeSession_gate u.processor loop input
    rwa [h₁] at h
  have hgate₂ : p₂.gate = u.processor.gate := by
    have h := observeCapture_gate p₁ loop₁
    rw [h₂] at h
    exact h.trans hgate₁
  have hsession₁ : loop₁.observedsessionepoch = u.processor.gate.sessionepoch := by
    have h := observeSession_observed u.processor loop input
    rwa [h₁] at h
  obtain ⟨hsession₂, hepoch₂⟩ : loop₂.observedsessionepoch = loop₁.observedsessionepoch ∧
      loop₂.observedcaptureepoch = p₁.gate.captureepoch := by
    have h := observeCapture_observed p₁ loop₁
    rwa [h₂] at h
  exact ⟨p₁, p₂, p₄, loop₁, loop₂, loop₄, h₁, h₂, h₄, hiteration, hgate₁, hgate₂, hsession₁,
    hsession₂.trans hsession₁, hepoch₂.trans (congrArg Gate.captureepoch hgate₁)⟩

section

variable {u : Uplink α} {loop loop₁ loop₂ loop₄ : WorkerLoop} {input : Iteration}
  {p₁ p₂ p₄ : Processor α}

/-- What an iteration takes is what its first two stages leave in the capture
queue. -/
theorem Stages.taken (h : u.Stages loop input p₁ p₂ p₄ loop₁ loop₂ loop₄)
    (hworker : u.processor.worker = .looping loop) (hrunning : u.processor.gate.running = true)
    (heven : u.processor.gate.sessionepoch % 2 = 0) :
    u.processor.taken = if p₂.gate.captureActive = true then
      p₂.capture.queue.filter (·.isObserved loop₂) else [] := by
  by_cases hactive : u.processor.gate.captureActive = true
  · rw [h.gate₂, if_pos hactive]
    have htaken := taken_eq input hworker hrunning heven hactive rfl
    rwa [h.observed, h.noticed] at htaken
  · rw [h.gate₂, if_neg hactive, Processor.taken, hworker]
    exact if_pos (.inr (.inr (.inl (Bool.eq_false_of_not_eq_true hactive))))

/-- An iteration begins a stream when it notices a capture epoch. -/
theorem Stages.began (h : u.Stages loop input p₁ p₂ p₄ loop₁ loop₂ loop₄) :
    u.began (u.processor.workerIteration input) =
      if Notices p₁ loop₁ then u.tally.begin else u.tally := by
  refine began_of_begins _ ?_
  have hsame₁ := observeSession_streamgeneration u.processor loop input
  have hnext := observeCapture_streamgeneration p₁ loop₁
  have hsame₄ := encodeCaptured_streamgeneration
    (p₂.processIncoming input loop₂.observedsessionepoch) loop₂ input
  rw [h.observed] at hsame₁
  rw [h.noticed] at hnext
  rw [h.encoded] at hsame₄
  rw [h.iteration, ← hsame₁]
  exact hsame₄.trans hnext

/-- The end of an iteration is no concern of the uplink. -/
theorem Stages.last (h : u.Stages loop input p₁ p₂ p₄ loop₁ loop₂ loop₄) :
    Effect ok (u.stage p₄ loop₄ ((if Notices p₁ loop₁ then u.tally.begin
      else u.tally).takeAll input.encode 0 u.processor.taken))
      (u.perform (.workerIteration input)) := by
  refine .quiet ⟨?_, ?_, ?_, ?_⟩
  · show (u.processor.workerIteration input).gate = p₄.gate
    rw [h.iteration]
    rfl
  · show (u.processor.workerIteration input).capture = p₄.capture
    rw [h.iteration]
    rfl
  · show (u.processor.workerIteration input).worker.encoding = some loop₄.encoding
    rw [h.iteration]
    exact congrArg some (mixDue_encoding p₄ loop₄ input)
  · show (u.began (u.processor.workerIteration input)).takeAll input.encode 0 u.processor.taken =
      StreamTally.takeAll input.encode 0 u.processor.taken _
    rw [h.began]

end

/-- An iteration that does work, stage by stage. -/
theorem workingIteration_effects {u : Uplink α} {loop : WorkerLoop} {input : Iteration}
    (hworker : u.processor.worker = .looping loop) (hrunning : u.processor.gate.running = true)
    (heven : u.processor.gate.sessionepoch % 2 = 0)
    (hok : Drains ok input.encode 0 u.processor.taken u.tally) :
    Effects ok u (u.perform (.workerIteration input)) := by
  obtain ⟨p₁, p₂, p₄, loop₁, loop₂, loop₄, h⟩ :=
    workerIteration_stages input hworker hrunning heven
  have htaken := h.taken hworker hrunning heven
  have hok₂ : Drains ok input.encode 0 u.processor.taken
      (if Notices p₁ loop₁ then u.tally.begin else u.tally) := by
    split_ifs with hnotices
    · have hqueue := hnotices.queue
      rw [h.noticed] at hqueue
      rw [htaken, hqueue, List.filter_nil, ite_self]
      trivial
    · exact hok
  have heffect₀ : Effect ok u (u.stage u.processor loop u.tally) := by
    refine .quiet ⟨rfl, rfl, ?_, rfl⟩
    show some loop.encoding = u.processor.worker.encoding
    rw [hworker]
    rfl
  have heffect₁ : Effect ok (u.stage u.processor loop u.tally) (u.stage p₁ loop₁ u.tally) := by
    have heffect : Effect ok _ _ := observeSession_effect u u.processor loop input u.tally
    rwa [h.observed] at heffect
  have heffect₂ : Effect ok (u.stage p₁ loop₁ u.tally)
      (u.stage p₂ loop₂ (if Notices p₁ loop₁ then u.tally.begin else u.tally)) := by
    have heffect : Effect ok _ _ := observeCapture_effect u u.tally
      ((congrArg Gate.sessionepoch h.gate₁).trans h.session₁.symm)
    rwa [h.noticed] at heffect
  have heffect₃ : Effect ok
      (u.stage p₂ loop₂ (if Notices p₁ loop₁ then u.tally.begin else u.tally))
      (u.stage (p₂.processIncoming input loop₂.observedsessionepoch) loop₂
        (if Notices p₁ loop₁ then u.tally.begin else u.tally)) := .quiet ⟨rfl, rfl, rfl, rfl⟩
  have heffects₄ := encodeCaptured_effects u
    (p₂.processIncoming input loop₂.observedsessionepoch) loop₂ input
    (if Notices p₁ loop₁ then u.tally.begin else u.tally)
    (show p₂.gate.running = true from h.gate₂ ▸ hrunning)
    (show p₂.gate.sessionepoch = _ by rw [h.gate₂, h.session₂])
    (show p₂.gate.captureepoch = _ by rw [h.gate₂, h.epoch₂]) htaken hok₂
  rw [h.encoded] at heffects₄
  exact .head heffect₀ (.head heffect₁ (.head heffect₂ (.head heffect₃
    (heffects₄.tail h.last))))

/-- **One worker iteration.** -/
theorem workerIteration_effects {u : Uplink α} {input : Iteration}
    (hok : Drains ok input.encode 0 u.processor.taken u.tally) :
    Effects ok u (u.perform (.workerIteration input)) := by
  have hstill (hsame : u.processor.workerIteration input = u.processor)
      (hidle : u.processor.taken = []) : Effects ok u (u.perform (.workerIteration input)) := by
    refine .single (.quiet ⟨?_, ?_, ?_, ?_⟩)
    · exact congrArg Processor.gate hsame
    · exact congrArg Processor.capture hsame
    · exact congrArg (fun processor : Processor α => processor.worker.encoding) hsame
    · show (u.began (u.processor.workerIteration input)).takeAll input.encode 0 u.processor.taken =
        u.tally
      rw [hidle, hsame, began_of_eq rfl]
      rfl
  cases hworker : u.processor.worker with
  | none =>
      refine hstill ?_ ?_
      · rw [Processor.workerIteration, hworker]
      · rw [Processor.taken, hworker]
  | spawned =>
      refine hstill ?_ ?_
      · rw [Processor.workerIteration, hworker]
      · rw [Processor.taken, hworker]
  | looping loop =>
      by_cases hidle : u.processor.gate.running = false ∨ u.processor.gate.sessionepoch % 2 ≠ 0
      · refine hstill ?_ ?_
        · rw [Processor.workerIteration, hworker]
          exact if_pos hidle
        · rw [Processor.taken, hworker]
          exact if_pos (hidle.imp_right .inl)
      · rw [not_or, Bool.not_eq_false, not_not] at hidle
        exact workingIteration_effects hworker hidle.1 hidle.2 hok

/-- The calls that meet `ok` frame by frame. -/
def Allows (ok : StreamTally → PcmFrame α → Option (List UInt8) → Prop) (u : Uplink α) :
    ProcessorCall α → Prop
  | .workerIteration input => Drains ok input.encode 0 u.processor.taken u.tally
  | _ => True

/-- A call that touches the playback side alone. -/
theorem playback_call {u : Uplink α} {call : ProcessorCall α} (playback : Playback)
    (htallied : u.tallied (u.processor.call call) call = u.began (u.processor.call call))
    (h : u.processor.call call = { u.processor with playback := playback }) :
    Effects ok u (u.perform call) := by
  refine .single (.quiet ⟨?_, ?_, ?_, ?_⟩)
  · show (u.processor.call call).gate = _
    rw [h]
  · show (u.processor.call call).capture = _
    rw [h]
  · show (u.processor.call call).worker.encoding = _
    rw [h]
  · refine htallied.trans (began_of_eq ?_)
    rw [h]

/-- A call that leaves the processor as it is. -/
theorem idle_call {u : Uplink α} {call : ProcessorCall α}
    (htallied : u.tallied (u.processor.call call) call = u.began (u.processor.call call))
    (h : u.processor.call call = u.processor) : Effects ok u (u.perform call) :=
  playback_call u.processor.playback htallied h

/-- A call that opens a capture epoch and clears what is outgoing. -/
theorem changed_call {u : Uplink α} {call : ProcessorCall α}
    (htallied : u.tallied (u.processor.call call) call = u.began (u.processor.call call))
    (hepoch : (u.processor.call call).gate.captureepoch = u.gate.captureepoch + 1)
    (heven : (u.processor.call call).gate.sessionepoch % 2 = u.gate.sessionepoch % 2)
    (hcapture : (u.processor.call call).capture = { u.capture with outgoing := [] })
    (hworker : (u.processor.call call).worker = u.processor.worker) :
    Effects ok u (u.perform call) := by
  have hsame : (u.processor.call call).capture.streamgeneration =
      u.processor.capture.streamgeneration := by
    rw [hcapture]
  exact .single (.changed (Nat.lt_of_lt_of_eq (Nat.lt_succ_self _) hepoch.symm) heven
    hcapture (congrArg Worker.encoding hworker) (htallied.trans (began_of_eq hsame)))

theorem stop_effects (u : Uplink α) : Effects ok u (u.perform .stop) := by
  have hstopped : ∀ (begins : Prop) [Decidable begins],
      (u.processor.stop.capture.streamgeneration = if begins then
        advanceStream u.capture.streamgeneration else u.capture.streamgeneration) →
      Effects ok u (u.perform .stop) :=
    fun _ _ hstream => .single (.stopped _ rfl rfl rfl ⟨hstream, began_of_begins _ hstream⟩)
  cases hworker : u.processor.worker with
  | spawned =>
      apply hstopped (u.gate.sessionepoch % 2 = 0 ∧ u.gate.captureActive = true)
      dsimp only [Processor.stop]
      rw [hworker]
      rfl
  | none =>
      apply hstopped False
      dsimp only [Processor.stop]
      rw [hworker]
      rfl
  | looping loop =>
      apply hstopped False
      dsimp only [Processor.stop]
      rw [hworker]
      rfl

theorem start_effects (u : Uplink α) (setupOk : Bool) :
    Effects ok u (u.perform (.start setupOk)) := by
  by_cases hrunning : u.processor.gate.running = true
  · exact idle_call rfl (congrArg Prod.fst (if_pos hrunning))
  · by_cases hsetup : setupOk = false
    · refine idle_call rfl ?_
      show (u.processor.start setupOk).1 = u.processor
      rw [Processor.start, if_neg hrunning, if_pos hsetup]
    · have hstart : (u.processor.start setupOk).1 = { u.processor with
          gate := { u.processor.gate with
            captureepoch := u.processor.gate.captureepoch + 1
            running := true }
          worker := .spawned } := by
        rw [Processor.start, if_neg hrunning, if_neg hsetup]
      refine .single (.started (Bool.eq_false_of_not_eq_true hrunning) ?_ ?_ ?_ ?_)
      · show (u.processor.start setupOk).1.gate = _
        rw [hstart]
      · show (u.processor.start setupOk).1.capture = _
        rw [hstart]
      · show (u.processor.start setupOk).1.worker.encoding = _
        rw [hstart]
        rfl
      · refine began_of_eq ?_
        show (u.processor.start setupOk).1.capture.streamgeneration = _
        rw [hstart]

theorem workerPrelude_effects (u : Uplink α) (now : Int) :
    Effects ok u (u.perform (.workerPrelude now)) := by
  cases hworker : u.processor.worker with
  | spawned =>
      have hprelude : u.processor.workerPrelude now = { u.processor with
          capture := { u.processor.capture with
            streamgeneration := preludeStream u.processor.gate
              u.processor.capture.streamgeneration }
          worker := .looping
            { observedsessionepoch := u.processor.gate.sessionepoch
              observedcaptureepoch := u.processor.gate.captureepoch
              nextmix := now } } := by
        rw [Processor.workerPrelude, hworker]
      have hstream : (u.perform (.workerPrelude now)).capture.streamgeneration =
          if u.gate.sessionepoch % 2 = 0 ∧ u.gate.captureActive = true then
            advanceStream u.capture.streamgeneration else u.capture.streamgeneration := by
        show (u.processor.workerPrelude now).capture.streamgeneration = _
        rw [hprelude]
        rfl
      refine .single (.entered ?_ ?_ ?_ ?_ ⟨hstream, began_of_begins _ hstream⟩)
      · exact congrArg Worker.encoding hworker
      · show (u.processor.workerPrelude now).gate = _
        rw [hprelude]
      · show (u.processor.workerPrelude now).capture =
          { u.capture with
            streamgeneration := (u.processor.workerPrelude now).capture.streamgeneration }
        rw [hprelude]
      · show (u.processor.workerPrelude now).worker.encoding = _
        rw [hprelude]
        rfl
  | none =>
      refine idle_call rfl ?_
      show u.processor.workerPrelude now = u.processor
      rw [Processor.workerPrelude, hworker]
  | looping loop =>
      refine idle_call rfl ?_
      show u.processor.workerPrelude now = u.processor
      rw [Processor.workerPrelude, hworker]

theorem setSession_effects (u : Uplink α) (sessionid : UInt64) (membershipgeneration : UInt32)
    (localplayerid : UInt64) :
    Effects ok u (u.perform (.setSession sessionid membershipgeneration localplayerid)) :=
  changed_call rfl rfl (Nat.add_mod_right _ 2) rfl rfl

theorem popOutgoingPacket_effects (u : Uplink α) :
    Effects ok u (u.perform .popOutgoingPacket) := by
  by_cases hoff : u.processor.gate.running = false ∨ u.processor.gate.captureActive = false
  · have hpop : u.processor.popOutgoingPacket = (u.processor, none) := if_pos hoff
    refine .single (.quiet ⟨?_, ?_, ?_, ?_⟩)
    · show u.processor.popOutgoingPacket.1.gate = _
      rw [hpop]
    · show u.processor.popOutgoingPacket.1.capture = _
      rw [hpop]
    · show u.processor.popOutgoingPacket.1.worker.encoding = _
      rw [hpop]
    · show (match u.processor.popOutgoingPacket.2 with | some _ => _ | none => _) = _
      rw [hpop]
  · have hpop : u.processor.popOutgoingPacket =
        ({ u.processor with
            capture := { u.processor.capture with
              outgoing := (popCurrent u.processor.gate u.processor.capture.outgoing).1 } },
          (popCurrent u.processor.gate u.processor.capture.outgoing).2) := if_neg hoff
    rw [not_or, Bool.not_eq_false, Bool.not_eq_false] at hoff
    refine .single (.popped hoff.1 hoff.2 ?_ ?_ ?_ ?_)
    · show u.processor.popOutgoingPacket.1.gate = _
      rw [hpop]
    · show u.processor.popOutgoingPacket.1.capture = _
      rw [hpop]
    · show u.processor.popOutgoingPacket.1.worker.encoding = _
      rw [hpop]
    · show (match u.processor.popOutgoingPacket.2 with | some _ => _ | none => _) = _
      rw [hpop]

/-- **Every call is a chain of effects.** -/
theorem perform_effects {u : Uplink α} {call : ProcessorCall α} (hok : u.Allows ok call) :
    Effects ok u (u.perform call) := by
  cases call with
  | start setupOk => exact start_effects u setupOk
  | stop => exact stop_effects u
  | setEnabled enabled =>
      by_cases hsame : u.processor.gate.enabled = enabled
      · exact idle_call rfl (if_pos hsame)
      · have hcall : u.processor.call (.setEnabled enabled) = _ := if_neg hsame
        exact changed_call rfl (by rw [hcall]; rfl) (by rw [hcall]; exact Nat.add_mod_right _ 2)
          (by rw [hcall]; rfl) (by rw [hcall]; rfl)
  | setTransmitting transmitting =>
      by_cases hsame : u.processor.gate.transmitting = transmitting
      · exact idle_call rfl (if_pos hsame)
      · have hcall : u.processor.call (.setTransmitting transmitting) = _ := if_neg hsame
        exact changed_call rfl (by rw [hcall]; rfl) (by rw [hcall]; rfl)
          (by rw [hcall]; rfl) (by rw [hcall]; rfl)
  | setLocalMuted muted =>
      by_cases hsame : u.processor.gate.localmuted = muted
      · exact idle_call rfl (if_pos hsame)
      · have hcall : u.processor.call (.setLocalMuted muted) = _ := if_neg hsame
        exact changed_call rfl (by rw [hcall]; rfl) (by rw [hcall]; rfl)
          (by rw [hcall]; rfl) (by rw [hcall]; rfl)
  | setSession sessionid membershipgeneration localplayerid => exact setSession_effects u ..
  | clearSession => exact setSession_effects u 0 0 0
  | pushCaptured input =>
      obtain ⟨hgate, hworker, hstream, -⟩ := pushCaptured_frame u.processor input
      exact .single (.captured input hgate rfl (congrArg Worker.encoding hworker)
        (began_of_eq hstream))
  | workerPrelude now => exact workerPrelude_effects u now
  | workerIteration input => exact workerIteration_effects hok
  | popOutgoingPacket => exact popOutgoingPacket_effects u
  | popPlayback samplecount =>
      by_cases hnone : samplecount = 0
      · exact idle_call rfl (congrArg Prod.fst (if_pos hnone))
      · exact playback_call _ rfl (congrArg Prod.fst (if_neg hnone))
  | pushIncomingPacket packet =>
      by_cases haccepts : u.processor.gate.accepts packet = true
      · exact playback_call _ rfl (congrArg Prod.fst (if_pos haccepts))
      · exact idle_call rfl (congrArg Prod.fst (if_neg haccepts))
  | setSpeakerMuted speakerid muted => exact playback_call _ rfl rfl
  | setSpeakerVolume speakerid volume => exact playback_call _ rfl rfl

end Uplink

end Voice
