import Mathlib.Data.List.AList
import Mathlib.Data.Rat.Floor
import GipMultiplayer.VoicePackets

/-!
# Playback of remote speakers

The receive side of the voice worker: one record per remote speaker with its
jitter queue, admission of a remote frame (`addRemoteFrame`), playout of one
20 ms frame per speaker (`mixOneFrame`), the sample mix and the bounded ring
the device reads from.

What the code takes from outside is a parameter: the clock, whether an Opus
decoder can be set up, and what a decoder returns.  `mixOneFrame` also returns
the decode calls it makes, which is what playback order is about.
-/

namespace Voice

/-- `FRAME_MILLISECONDS`. -/
def frameMilliseconds : Int := 20

/-- Nanoseconds of a number of milliseconds. -/
def milliseconds (count : Int) : Int := count * 1000000

/-- `MAX_FORWARD_SEQUENCE_JUMP`. -/
def maxForwardSequenceJump : UInt32 := 250

/-- `gVoiceAudioProcessor::Config` with its defaults. -/
structure ProcessorConfig where
  captureframes : Nat := 8
  outgoingpackets : Nat := 8
  incomingpackets : Nat := 256
  playbackframes : Nat := 6
  maxspeakers : Nat := 32
  jitterpackets : Nat := 12
  initialjitterpackets : Nat := 4
  maxplcframes : Int := 5
  speakertimeoutmilliseconds : Int := 2000
  deriving DecidableEq, Repr

/-- `sanitizeConfig`. -/
def sanitizeConfig (config : ProcessorConfig) : ProcessorConfig :=
  let jitterpackets := max 1 (min config.jitterpackets 256)
  { captureframes := max 1 (min config.captureframes 256)
    outgoingpackets := max 1 (min config.outgoingpackets 1024)
    incomingpackets := max 1 (min config.incomingpackets 4096)
    playbackframes := max 1 (min config.playbackframes 256)
    maxspeakers := max 1 (min config.maxspeakers 256)
    jitterpackets := jitterpackets
    initialjitterpackets := max 1 (min config.initialjitterpackets jitterpackets)
    maxplcframes := max 0 (min config.maxplcframes 100)
    speakertimeoutmilliseconds :=
      max frameMilliseconds (min config.speakertimeoutmilliseconds 60000) }

/-- A remote frame between its acceptance and its playout. -/
structure RemoteFrame where
  flags : UInt8 := 0
  sessionepoch : Nat := 0
  speakerid : UInt64 := 0
  speakergeneration : UInt32 := 0
  streamgeneration : UInt32 := 0
  sequence : UInt32 := 0
  sampleposition : UInt64 := 0
  payload : List UInt8 := []
  deriving DecidableEq, Repr

/-- The local listener's settings for a speaker. -/
structure SpeakerControl where
  muted : Bool := false
  volume : ℚ := 1
  deriving DecidableEq

/-- One remote speaker. -/
structure Speaker where
  speakerid : UInt64 := 0
  speakergeneration : UInt32 := 0
  streamgeneration : UInt32 := 0
  jitter : List RemoteFrame := []
  playing : Bool := false
  hasexpected : Bool := false
  expectedsequence : UInt32 := 0
  hashighest : Bool := false
  highestsequence : UInt32 := 0
  consecutivemissing : Int := 0
  firstarrival : Int
  lastactivity : Int
  nextplayout : Int
  deriving DecidableEq, Repr

/-- The speakers of the current session, by speaker id. -/
abbrev Speakers := AList (fun _ : UInt64 => Speaker)

/-! ## Admission of a remote frame -/

/-- `resetSpeaker`; it fails when no decoder can be set up. -/
def resetSpeaker (setupOk : Bool) (speaker : Speaker) (frame : RemoteFrame) (now : Int) :
    Option Speaker :=
  if setupOk then
    some { speaker with
      speakergeneration := frame.speakergeneration
      streamgeneration := frame.streamgeneration
      jitter := []
      playing := false
      hasexpected := false
      hashighest := false
      consecutivemissing := 0
      firstarrival := now
      lastactivity := now }
  else none

/-- The loop that looks for the oldest queued frame: it keeps the candidate at
`index` until a later one is older. -/
def oldestFrom (oldest : RemoteFrame) (index position : Nat) : List RemoteFrame → Nat
  | [] => index
  | candidate :: rest =>
      if isTeamVoiceSequenceNewer oldest.sequence candidate.sequence then
        oldestFrom candidate position (position + 1) rest
      else oldestFrom oldest index (position + 1) rest

/-- Position of the oldest queued frame. -/
def oldestIndex : List RemoteFrame → Nat
  | [] => 0
  | first :: rest => oldestFrom first 0 1 rest

/-- The frame is behind what the speaker plays next, or too far ahead of it. -/
def Speaker.outOfRange (speaker : Speaker) (sequence : UInt32) : Bool :=
  speaker.hasexpected ∧
    ((sequence ≠ speaker.expectedsequence ∧
        isTeamVoiceSequenceNewer sequence speaker.expectedsequence = false) ∨
      (isTeamVoiceSequenceNewer sequence speaker.expectedsequence = true ∧
        maxForwardSequenceJump <
          teamVoiceSequenceDistance sequence speaker.expectedsequence))

/-- The speaker with its highest sequence raised to an accepted frame's. -/
def Speaker.raiseHighest (speaker : Speaker) (sequence : UInt32) : Speaker :=
  if speaker.hashighest = false ∨
      isTeamVoiceSequenceNewer sequence speaker.highestsequence = true then
    { speaker with highestsequence := sequence, hashighest := true }
  else speaker

/-- The frame goes into the jitter queue; a full queue gives up its oldest
frame for a newer one. -/
def Speaker.enqueue (config : ProcessorConfig) (now : Int) (speaker : Speaker)
    (frame : RemoteFrame) : Speaker :=
  if config.jitterpackets ≤ speaker.jitter.length then
    match speaker.jitter[oldestIndex speaker.jitter]? with
    | some oldest =>
        if isTeamVoiceSequenceNewer frame.sequence oldest.sequence then
          { speaker with
            jitter := speaker.jitter.set (oldestIndex speaker.jitter) frame
            lastactivity := now }
        else speaker
    | none => speaker
  else
    { speaker with
      jitter := speaker.jitter ++ [frame]
      lastactivity := now }

/-- The part of `addRemoteFrame` after the speaker's record has been found,
created or reset. -/
def Speaker.addFrame (config : ProcessorConfig) (now : Int) (speaker : Speaker)
    (frame : RemoteFrame) : Speaker :=
  if speaker.outOfRange frame.sequence then speaker
  else if speaker.jitter.any (·.sequence == frame.sequence) then speaker
  else (speaker.raiseHighest frame.sequence).enqueue config now frame

/-- The frame belongs to another stream than the speaker plays, or starts the
speaker's timeline anew. -/
def Speaker.needsReset (speaker : Speaker) (frame : RemoteFrame) : Bool :=
  frame.speakergeneration ≠ speaker.speakergeneration ∨
    frame.streamgeneration ≠ speaker.streamgeneration ∨
    frame.flags &&& flagDiscontinuity ≠ 0

/-- The three refusals before a reset: an older membership, an older stream,
or a discontinuity that is not newer than everything received. -/
def Speaker.refusesReset (speaker : Speaker) (frame : RemoteFrame) : Bool :=
  (frame.speakergeneration ≠ speaker.speakergeneration ∧
      isTeamVoiceSequenceNewer frame.speakergeneration speaker.speakergeneration = false) ∨
  (frame.speakergeneration = speaker.speakergeneration ∧
      frame.streamgeneration ≠ speaker.streamgeneration ∧
      isTeamVoiceSequenceNewer frame.streamgeneration speaker.streamgeneration = false) ∨
  (frame.speakergeneration = speaker.speakergeneration ∧
      frame.streamgeneration = speaker.streamgeneration ∧ speaker.hashighest = true ∧
      isTeamVoiceSequenceNewer frame.sequence speaker.highestsequence = false)

/-- `addRemoteFrame`. -/
def addRemoteFrame (config : ProcessorConfig) (now : Int) (setupOk : Bool)
    (speakers : Speakers) (frame : RemoteFrame) : Speakers :=
  match speakers.lookup frame.speakerid with
  | none =>
      if config.maxspeakers ≤ speakers.keys.length then speakers
      else
        let speaker : Speaker :=
          { speakerid := frame.speakerid
            firstarrival := now
            lastactivity := now
            nextplayout := now }
        match resetSpeaker setupOk speaker frame now with
        | none => speakers
        | some speaker =>
            speakers.insert frame.speakerid (speaker.addFrame config now frame)
  | some speaker =>
      if speaker.needsReset frame then
        if speaker.refusesReset frame then speakers
        else
          match resetSpeaker setupOk speaker frame now with
          | none => speakers
          | some speaker =>
              speakers.insert frame.speakerid (speaker.addFrame config now frame)
      else speakers.insert frame.speakerid (speaker.addFrame config now frame)

/-! ## Playout -/

/-- A decode call: a queued frame, or concealment of a missing one. -/
inductive Decoding
  | frame (frame : RemoteFrame)
  | conceal
  deriving DecidableEq, Repr

/-- The start of playout: enough frames, or frames that have waited long
enough, and the oldest of them is played first. -/
def Speaker.startPlayout (config : ProcessorConfig) (now : Int) (speaker : Speaker) :
    Option Speaker :=
  if speaker.jitter.length < config.initialjitterpackets ∧
      now - speaker.firstarrival <
        milliseconds (frameMilliseconds * config.initialjitterpackets) then none
  else
    match speaker.jitter[oldestIndex speaker.jitter]? with
    | none => none
    | some oldest =>
        some { speaker with
          expectedsequence := oldest.sequence
          hasexpected := true
          playing := true
          nextplayout := now }

/-- One playout slot of a playing speaker has passed. -/
def Speaker.advance (speaker : Speaker) : Speaker :=
  { speaker with
    expectedsequence := speaker.expectedsequence + 1
    nextplayout := speaker.nextplayout + milliseconds frameMilliseconds }

/-- The playout slot of a playing speaker: the expected frame, or concealment
while it lasts, or the end of playout. -/
def Speaker.playSlot (config : ProcessorConfig) (speaker : Speaker) :
    Speaker × Option Decoding :=
  match speaker.jitter.find? (·.sequence == speaker.expectedsequence) with
  | some frame =>
      (Speaker.advance { speaker with
        jitter := speaker.jitter.eraseP (·.sequence == speaker.expectedsequence)
        consecutivemissing := 0 }, some (.frame frame))
  | none =>
      if speaker.consecutivemissing < config.maxplcframes then
        (Speaker.advance { speaker with
          consecutivemissing := speaker.consecutivemissing + 1 }, some .conceal)
      else ({ speaker with playing := false, hasexpected := false }, none)

/-- What `mixOneFrame` does with one speaker, and the decode call it makes. -/
def Speaker.mix (config : ProcessorConfig) (now : Int) (speaker : Speaker) :
    Speaker × Option Decoding :=
  let started :=
    if speaker.playing then some speaker else speaker.startPlayout config now
  match started with
  | none => (speaker, none)
  | some speaker =>
      if now < speaker.nextplayout then (speaker, none) else speaker.playSlot config

/-! ## Mixing -/

/-- `mixFrames`: the average of the inputs, truncated and clamped. -/
def mixFrames (inputs : List (List Int)) (samples : Nat) : List Int :=
  (List.range samples).map fun i =>
    if inputs = [] then 0
    else
      let sum := (inputs.map fun input => input.getD i 0).sum
      max (-32768) (min 32767 (sum.tdiv inputs.length))

/-- Truncation toward zero, as in the cast from float. -/
def truncate (x : ℚ) : Int := if 0 ≤ x then ⌊x⌋ else ⌈x⌉

/-- A decoded frame at the listener's volume. -/
def applyVolume (control : SpeakerControl) (decoded : List Int) : List Int :=
  if control.volume ≠ 1 then
    decoded.map fun sample =>
      truncate (max (-32768) (min 32767 ((sample : ℚ) * control.volume)))
  else decoded

/-- The receive side of the worker and the ring it fills. -/
structure Playback where
  incoming : List RemoteFrame := []
  speakers : Speakers := ∅
  speakercontrols : AList (fun _ : UInt64 => SpeakerControl) := ∅
  ring : List Int := []
  playbackactive : Bool := false
  playbackclearrequested : Bool := false

/-- `getSpeakerControl`. -/
def Playback.getSpeakerControl (playback : Playback) (speakerid : UInt64) : SpeakerControl :=
  (playback.speakercontrols.lookup speakerid).getD {}

/-- `setControl`; `none` leaves the setting as it is. -/
def Playback.setControl (config : ProcessorConfig) (playback : Playback) (speakerid : UInt64)
    (muted : Option Bool) (volume : Option ℚ) : Playback × Bool :=
  if speakerid = 0 then (playback, false)
  else if speakerid ∉ playback.speakercontrols ∧
      config.maxspeakers ≤ playback.speakercontrols.keys.length then (playback, false)
  else
    let control := playback.getSpeakerControl speakerid
    let control :=
      { control with
        muted := muted.getD control.muted
        volume := (volume.map fun v => max 0 (min 2 v)).getD control.volume }
    ({ playback with
        speakercontrols := playback.speakercontrols.insert speakerid control }, true)

/-- `SampleRingBuffer::write`: all samples or none. -/
def ringWrite (config : ProcessorConfig) (ring samples : List Int) : Option (List Int) :=
  if config.playbackframes * frameSamples - ring.length < samples.length then none
  else some (ring ++ samples)

/-- The same speakers, each record rewritten. -/
def mapSpeakers (f : Speaker → Speaker) (speakers : Speakers) : Speakers where
  entries := speakers.entries.map fun item => ⟨item.1, f item.2⟩
  nodupKeys := by
    have hkeys : (speakers.entries.map fun item => (⟨item.1, f item.2⟩ :
        Sigma fun _ : UInt64 => Speaker)).keys = speakers.entries.keys := by
      simp [List.keys]
    rw [List.NodupKeys, hkeys]
    exact speakers.nodupKeys

/-- The decode calls of one `mixOneFrame`, at most one per speaker. -/
def decodeCalls (config : ProcessorConfig) (now : Int) (speakers : Speakers) :
    List (UInt64 × Decoding) :=
  speakers.entries.filterMap fun item =>
    (item.2.mix config now).2.map fun decoding => (item.1, decoding)

/-- `mixOneFrame`.  `decode` is what the decoder of a speaker returns for its
one decode call, `none` when that is not a whole frame.  The second component
lists the decode calls. -/
def mixOneFrame (config : ProcessorConfig) (now : Int)
    (decode : UInt64 → Option (List Int)) (playback : Playback) :
    Playback × List (UInt64 × Decoding) :=
  let calls := decodeCalls config now playback.speakers
  let inputs := calls.filterMap fun (id, _) =>
    let control := playback.getSpeakerControl id
    if control.muted then none else (decode id).map (applyVolume control)
  let played := { playback with
    speakers := mapSpeakers (fun speaker => (speaker.mix config now).1) playback.speakers }
  if inputs = [] then ({ played with playbackactive := false }, calls)
  else
    match ringWrite config played.ring (mixFrames inputs frameSamples) with
    | none => (played, calls)
    | some ring => ({ played with ring := ring, playbackactive := true }, calls)

/-- `cleanupSpeakers`: a speaker that has been silent too long is forgotten. -/
def cleanupSpeakers (config : ProcessorConfig) (now : Int) (speakers : Speakers) : Speakers where
  entries := speakers.entries.filter fun item =>
    ¬ milliseconds config.speakertimeoutmilliseconds < now - item.2.lastactivity
  nodupKeys := speakers.nodupKeys.sublist List.filter_sublist

end Voice
