import GipMultiplayer.Exec
import GipMultiplayer.RawLoopback
import Mathlib.Algebra.Order.BigOperators.Group.List
import Mathlib.Algebra.Group.Action.Defs
import Mathlib.Algebra.Order.Group.Nat

/-!
# The Opus microphone loopback

In its Opus mode the loopback has a thread of its own.  The audio callback only
moves samples: it writes what the microphone gives into one ring and plays from
another.  The worker takes blocks of one frame from the first ring, encodes
them, keeps the packets back until a hundred of them wait, and decodes the
oldest one into the second ring.

* `Machine`, `step` — both threads and the owner of the loopback, one ring
  operation at a time; the codec may answer anything;
* `Record` — what has gone through since the last start;
* `Carried`, `Delayed`, `Counted` — the rings, the packets that are kept back, and
  the counters;
* `opus_delay` — the law.
-/

namespace Voice

namespace Loopback

open Exec (exec exec_invariant)

/-- `DELAY_PACKETS`. -/
def delayPackets : Nat := delayFrames / frameSamples

/-- A `CompressedFrame`; the encoder is given a buffer of `OPUS_MAX_PACKET_SIZE`. -/
abbrev CompressedFrame := { data : List UInt8 // data.length ≤ 1275 }

/-- What the decoder leaves in its buffer of one frame. -/
abbrev DecodedFrames := { samples : List Int16 // samples.length ≤ frameSamples }

/-- Where the thread of the worker stands. -/
inductive Worker
  /-- No thread. -/
  | absent
  /-- At the head of its loop. -/
  | polling
  /-- A block has been read and is not encoded yet. -/
  | holding (input : List Int16)
  /-- The oldest packet is decoded and not in the playback ring yet. -/
  | publishing (decoded : DecodedFrames)

/-- One call of the device and what became of it. -/
structure Call where
  framecount : Nat
  heard : List Int16
  output : List Int16
  ready : Bool

/-- What has gone through the loopback since the last start. -/
structure Record where
  /-- The frames the device has offered. -/
  offered : Nat := 0
  /-- Those of them the capture ring has taken. -/
  captured : List Int16 := []
  /-- The blocks the worker has encoded, with the answers of the encoder. -/
  coded : List (List Int16 × Option CompressedFrame) := []
  /-- The packets the worker has decoded, with the answers of the decoder. -/
  fed : List (CompressedFrame × Option DecodedFrames) := []
  /-- The decoded frames the worker has written, and what the playback ring has
  taken of each. -/
  stored : List (DecodedFrames × List Int16) := []
  /-- The calls of the device. -/
  calls : List Call := []

/-- The loopback with its worker. -/
structure Machine extends State where
  worker : Worker := .absent
  delayedpackets : List CompressedFrame := []
  opusbytes : UInt64 := 0
  encodedpackets : UInt64 := 0
  decodedpackets : UInt64 := 0
  playbackoverruns : UInt64 := 0
  codecerrors : UInt64 := 0
  record : Record := {}

/-- A step of one of the threads. -/
inductive Action
  /-- `start`, once an earlier session has been stopped. -/
  | start (newmode : Mode) (devices : Devices)
  /-- `stop` up to the point where it waits for the worker. -/
  | halt
  /-- The rest of `stop`. -/
  | join
  /-- `dataCallback`. -/
  | callback (callback : Callback)
  /-- `notificationCallback`, for a device that has stopped. -/
  | stopped
  /-- The worker looks at the capture ring, and reads a block if there is one. -/
  | poll
  /-- The worker encodes, and decodes if enough packets wait. -/
  | code (encoded : Option CompressedFrame) (decoded : Option DecodedFrames)
  /-- The worker writes what was decoded. -/
  | publish

/-! ## The steps -/

/-- `start`: everything is reset, and the worker runs in the Opus mode. -/
def Machine.start (machine : Machine) (newmode : Mode) (devices : Devices) : Machine :=
  { toState := (Loopback.start machine.toState newmode devices).1
    worker :=
      if (Loopback.start machine.toState newmode devices).2 = true ∧ newmode = .opus then .polling
      else .absent }

/-- What one call of the device takes from the playback ring. -/
def Machine.heard (machine : Machine) (callback : Callback) : List Int16 :=
  if machine.running = true ∧ machine.mode = .opus then
    (AudioRingBuffer.read machine.playbackring callback.framecount.toUInt64).2
  else []

/-- What one call of the device leaves in the capture ring. -/
def Machine.taken (machine : Machine) (callback : Callback) : List Int16 :=
  if machine.running = true ∧ machine.mode = .opus then
    match callback.input with
    | none => []
    | some input =>
        input.toList.take (AudioRingBuffer.write machine.capturering input.toList).2.toNat
  else []

/-- The frames one call of the device offers to the capture ring. -/
def Machine.offers (machine : Machine) (callback : Callback) : Nat :=
  if machine.running = true ∧ machine.mode = .opus then
    match callback.input with
    | none => 0
    | some _ => callback.framecount.toNat
  else 0

/-- `dataCallback`. -/
def Machine.callback (machine : Machine) (callback : Callback) : Machine :=
  { machine with
    toState := (dataCallback machine.toState callback).1
    record := { machine.record with
      offered := machine.record.offered + machine.offers callback
      captured := machine.record.captured ++ machine.taken callback
      calls := machine.record.calls ++
        [{ framecount := callback.framecount.toNat
           heard := machine.heard callback
           output := (dataCallback machine.toState callback).2
           ready := decide (machine.running = true ∧ machine.mode = .opus ∧
             machine.playbackready = true) }] } }

/-- The head of `workerLoop`. -/
def Machine.poll (machine : Machine) : Machine :=
  if machine.running = false then { machine with worker := .absent, delayedpackets := [] }
  else if AudioRingBuffer.available machine.capturering < UInt64.ofNat frameSamples then machine
  else
    let (capturering, input) := AudioRingBuffer.read machine.capturering (UInt64.ofNat frameSamples)
    { machine with capturering := capturering, worker := .holding input }

/-- The middle of `workerLoop`, with the answers of the codec. -/
def Machine.code (machine : Machine) (input : List Int16) (encoded : Option CompressedFrame)
    (decoded : Option DecodedFrames) : Machine :=
  let counted := { machine with
    worker := .polling
    pcmbytes := machine.pcmbytes + UInt64.ofNat (2 * frameSamples)
    record := { machine.record with coded := machine.record.coded ++ [(input, encoded)] } }
  match encoded with
  | none => { counted with codecerrors := counted.codecerrors + 1 }
  | some frame =>
      let pushed := { counted with
        opusbytes := counted.opusbytes + UInt64.ofNat frame.val.length
        encodedpackets := counted.encodedpackets + 1
        delayedpackets := counted.delayedpackets ++ [frame] }
      match pushed.delayedpackets with
      | [] => pushed
      | delayed :: rest =>
          if pushed.delayedpackets.length < delayPackets then pushed
          else
            let fed := { pushed with
              record := { pushed.record with fed := pushed.record.fed ++ [(delayed, decoded)] } }
            match decoded with
            | none => { fed with codecerrors := fed.codecerrors + 1, delayedpackets := rest }
            | some samples => { fed with worker := .publishing samples }

/-- The end of `workerLoop`. -/
def Machine.publish (machine : Machine) (decoded : DecodedFrames) : Machine :=
  let decodedframes := UInt64.ofNat decoded.val.length
  let (playbackring, written) := AudioRingBuffer.write machine.playbackring decoded.val
  { machine with
    playbackring := playbackring
    playbackoverruns :=
      if written < decodedframes then machine.playbackoverruns + (decodedframes - written)
      else machine.playbackoverruns
    decodedpackets := machine.decodedpackets + 1
    playbackready := true
    delayedpackets := machine.delayedpackets.tail
    worker := .polling
    record := { machine.record with
      stored := machine.record.stored ++ [(decoded, decoded.val.take written.toNat)] } }

/-- One step of one of the threads. -/
def step (machine : Machine) : Action → Option Machine
  | .start newmode devices =>
      match machine.worker with
      | .absent =>
          if machine.deviceinitialized = false then some (machine.start newmode devices) else none
      | _ => none
  | .halt => some { machine with running := false }
  | .join =>
      match machine.worker with
      | .absent => some { machine with toState := stop machine.toState }
      | _ => none
  | .callback callback => some (machine.callback callback)
  | .stopped => some { machine with running := false }
  | .poll =>
      match machine.worker with
      | .polling => some machine.poll
      | _ => none
  | .code encoded decoded =>
      match machine.worker with
      | .holding input => some (machine.code input encoded decoded)
      | _ => none
  | .publish =>
      match machine.worker with
      | .publishing decoded => some (machine.publish decoded)
      | _ => none

/-! ## What the rings carry -/

/-- `gone` has been read out of a ring, and `waiting` lies in it. -/
structure Carries (ring : RingBuffer Int16) (gone waiting : List Int16) : Prop where
  stands : Stands workerRingFrames.toNat 0 ring waiting
  read : ring.readposition.toNat = gone.length

namespace Carries

variable {ring : RingBuffer Int16} {gone waiting : List Int16}

theorem reset (h : Carries ring gone waiting) : Carries (AudioRingBuffer.reset ring) [] [] := by
  have hspare : Stands workerRingFrames.toNat ((RingOp.clear : RingOp Int16).fifo.offered + 0) ring
      waiting := h.stands
  exact ⟨(AudioRingBuffer.step_refines .clear hspare).1, rfl⟩

theorem create : Carries (AudioRingBuffer.create workerRingFrames) [] [] where
  stands := stands_create (by decide)
  read := rfl

/-- **A read takes the oldest samples.** -/
theorem take (h : Carries ring gone waiting) (count : UInt64) :
    (AudioRingBuffer.read ring count).2 = waiting.take count.toNat ∧
      Carries (AudioRingBuffer.read ring count).1 (gone ++ waiting.take count.toNat)
        (waiting.drop count.toNat) := by
  have hspare : Stands workerRingFrames.toNat ((RingOp.read count : RingOp Int16).fifo.offered + 0)
      ring waiting := h.stands
  obtain ⟨hstands, hout⟩ := AudioRingBuffer.step_refines (.read count) hspare
  have hsamples : (AudioRingBuffer.read ring count).2 = waiting.take count.toNat :=
    Fifo.Out.samples.inj hout
  refine ⟨hsamples, hstands, ?_⟩
  have hbefore := h.stands.positions
  have hafter : ring.writeposition.toNat =
      (AudioRingBuffer.read ring count).1.readposition.toNat +
        (waiting.drop count.toNat).length := hstands.positions
  have hread := h.read
  rw [List.length_drop] at hafter
  rw [List.length_append, List.length_take]
  omega

/-- **A write stores as much as fits**, behind what waits. -/
theorem put (h : Carries ring gone waiting) (input : List Int16)
    (hsmall : gone.length + waiting.length + input.length < 2 ^ 64) :
    (AudioRingBuffer.write ring input).2.toNat ≤ input.length ∧
      Carries (AudioRingBuffer.write ring input).1 gone
        (waiting ++ input.take (AudioRingBuffer.write ring input).2.toNat) := by
  have hspare :
      Stands workerRingFrames.toNat ((RingOp.write input).fifo.offered + 0) ring waiting :=
    { h.stands with
      spare := by
        have hpositions := h.stands.positions
        have hread := h.read
        show ring.writeposition.toNat + input.length < 2 ^ 64
        omega }
  obtain ⟨hstands, hout⟩ := AudioRingBuffer.step_refines (.write input) hspare
  have hwritten : (AudioRingBuffer.write ring input).2.toNat =
      (input.take (workerRingFrames.toNat - waiting.length)).length :=
    Fifo.Out.written.inj hout
  have hlength := hwritten
  rw [List.length_take] at hlength
  refine ⟨by omega, ?_, h.read⟩
  have htake : input.take (AudioRingBuffer.write ring input).2.toNat =
      input.take (workerRingFrames.toNat - waiting.length) := by
    rw [hlength, ← List.take_eq_take_min]
  rw [htake]
  exact hstands

/-- `available` is what waits. -/
theorem available (h : Carries ring gone waiting) :
    (AudioRingBuffer.available ring).toNat = waiting.length :=
  h.stands.stored

end Carries

/-! ## The invariant -/

/-- The block the worker has read and not encoded. -/
def Worker.held : Worker → List (List Int16)
  | .holding input => [input]
  | _ => []

/-- What the worker has decoded and not written. -/
def Worker.pending : Worker → List DecodedFrames
  | .publishing decoded => [decoded]
  | _ => []

/-- The packets the encoder has made, in order. -/
def Record.packets (record : Record) : List CompressedFrame := record.coded.filterMap Prod.snd

/-- What the decoder has made, in order. -/
def Record.decoded (record : Record) : List DecodedFrames := record.fed.filterMap Prod.snd

/-- What went into the playback ring, and what came out of it. -/
def Record.played (record : Record) : List Int16 := record.stored.flatMap Prod.snd

def Record.heard (record : Record) : List Int16 := record.calls.flatMap Call.heard

/-- The blocks the worker has read. -/
def Machine.blocks (machine : Machine) : List (List Int16) :=
  machine.record.coded.map Prod.fst ++ machine.worker.held

/-- **The rings**: what the microphone put in is cut into blocks, and what was
decoded is played. -/
structure Carried (machine : Machine) : Prop where
  capture : ∃ waiting, Carries machine.capturering machine.blocks.flatten waiting ∧
    machine.record.captured = machine.blocks.flatten ++ waiting
  blocks : ∀ block ∈ machine.blocks, block.length = frameSamples
  few : machine.record.captured.length ≤ machine.record.offered
  playback : ∃ waiting, Carries machine.playbackring machine.record.heard waiting ∧
    machine.record.played = machine.record.heard ++ waiting
  calls : machine.mode = .opus → ∀ call ∈ machine.record.calls,
    call.output = call.heard ++ List.replicate (call.framecount - call.heard.length) 0

/-- **The packets**: they are decoded in order, and all but the last ninety-nine
of them. -/
structure Delayed (machine : Machine) : Prop where
  fed : machine.record.fed.map Prod.fst =
    machine.record.packets.take (machine.record.packets.length - (delayPackets - 1))
  kept : machine.worker ≠ .absent → machine.delayedpackets =
    machine.record.packets.drop (machine.record.fed.length - machine.worker.pending.length)
  decoded : machine.record.decoded = machine.record.stored.map Prod.fst ++ machine.worker.pending
  stored : ∀ frame ∈ machine.record.stored, frame.2 <+: frame.1.val

variable {machine next : Machine}

/-- Nothing more is decoded than was captured. -/
theorem played_small (hcarried : Carried machine) (hdelayed : Delayed machine) :
    machine.record.played.length + (machine.worker.pending.map fun frame => frame.val.length).sum ≤
      machine.record.offered := by
  have hplayed : machine.record.played.length ≤
      (machine.record.stored.map fun frame => frame.1.val.length).sum := by
    rw [Record.played, List.length_flatMap]
    exact List.sum_le_sum fun frame hframe => (hdelayed.stored frame hframe).length_le
  have hsum : (machine.record.stored.map fun frame => frame.1.val.length).sum +
      (machine.worker.pending.map fun frame => frame.val.length).sum =
        (machine.record.decoded.map fun frame => frame.val.length).sum := by
    rw [hdelayed.decoded, List.map_append, List.sum_append, List.map_map]
    rfl
  have hdecoded : (machine.record.decoded.map fun frame => frame.val.length).sum ≤
      machine.record.decoded.length * frameSamples := by
    have hcard := List.sum_le_card_nsmul (machine.record.decoded.map fun frame => frame.val.length)
      frameSamples fun n hn => by
        obtain ⟨frame, _, rfl⟩ := List.mem_map.mp hn
        exact frame.property
    rwa [List.length_map, smul_eq_mul] at hcard
  have hfed : machine.record.decoded.length ≤ machine.record.fed.length :=
    List.length_filterMap_le _ _
  have hpackets : machine.record.fed.length ≤ machine.record.packets.length := by
    have hlength := congrArg List.length hdelayed.fed
    rw [List.length_map, List.length_take] at hlength
    omega
  have hcoded : machine.record.packets.length ≤ machine.record.coded.length :=
    List.length_filterMap_le _ _
  have hblocks : machine.blocks.flatten.length = machine.blocks.length * frameSamples := by
    rw [List.length_flatten, List.map_congr_left hcarried.blocks, List.map_const',
      List.sum_replicate, smul_eq_mul]
  have hcaptured : machine.blocks.flatten.length ≤ machine.record.captured.length := by
    obtain ⟨waiting, _, hcaptured⟩ := hcarried.capture
    rw [hcaptured, List.length_append]
    exact Nat.le_add_right _ _
  have hlength : machine.record.coded.length ≤ machine.blocks.length := by
    rw [Machine.blocks, List.length_append, List.length_map]
    exact Nat.le_add_right _ _
  have hfew := hcarried.few
  have hmul : machine.record.decoded.length * frameSamples ≤
      machine.blocks.length * frameSamples := Nat.mul_le_mul_right _ (by omega)
  omega

/-! ## The callback keeps the invariant -/

/-- A call that finds the loopback stopped, or in its raw mode, leaves the rings
alone. -/
theorem dataCallback_idle {state : State} (hidle : ¬ (state.running = true ∧ state.mode = .opus))
    (callback : Callback) :
    (dataCallback state callback).1.capturering = state.capturering ∧
      (dataCallback state callback).1.playbackring = state.playbackring ∧
      (dataCallback state callback).1.mode = state.mode ∧
      (dataCallback state callback).1.playbackready = state.playbackready ∧
      (dataCallback state callback).1.captureoverruns = state.captureoverruns ∧
      (dataCallback state callback).1.playbackunderruns = state.playbackunderruns := by
  unfold dataCallback
  split_ifs with hrunning
  · exact ⟨rfl, rfl, rfl, rfl, rfl, rfl⟩
  · cases hmode : state.mode with
    | rawPcm => exact ⟨rfl, rfl, hmode, rfl, rfl, rfl⟩
    | opus => exact absurd ⟨Bool.not_eq_false _ ▸ hrunning, hmode⟩ hidle

/-- A call in the Opus mode. -/
theorem dataCallback_opus {state : State} (hlive : state.running = true ∧ state.mode = .opus)
    (callback : Callback) : dataCallback state callback = processOpusCallback state callback := by
  unfold dataCallback
  rw [if_neg (by rw [hlive.1]; decide), hlive.2]

/-- What a call in the Opus mode plays. -/
theorem processOpusCallback_playback (state : State) (callback : Callback) :
    (processOpusCallback state callback).1.playbackring =
        (AudioRingBuffer.read state.playbackring callback.framecount.toUInt64).1 ∧
      (processOpusCallback state callback).2 =
        (AudioRingBuffer.read state.playbackring callback.framecount.toUInt64).2 ++
          List.replicate (callback.framecount.toNat -
            (AudioRingBuffer.read state.playbackring callback.framecount.toUInt64).2.length) 0 := by
  unfold processOpusCallback
  cases callback.input with
  | none => exact ⟨rfl, rfl⟩
  | some input => exact ⟨rfl, rfl⟩

theorem callback_mode (machine : Machine) (callback : Callback) :
    (machine.callback callback).mode = machine.mode := by
  by_cases hlive : machine.running = true ∧ machine.mode = .opus
  · simp only [Machine.callback, dataCallback_opus hlive]
    unfold processOpusCallback
    cases callback.input with
    | none => rfl
    | some input => rfl
  · exact (dataCallback_idle hlive callback).2.2.1

/-- The capture ring after a call. -/
theorem callback_capture (hcarries : ∃ waiting,
      Carries machine.capturering machine.blocks.flatten waiting ∧
        machine.record.captured = machine.blocks.flatten ++ waiting)
    (hfew : machine.record.captured.length ≤ machine.record.offered) {callback : Callback}
    (hsmall : machine.record.offered + machine.offers callback < 2 ^ 64) :
    (machine.taken callback).length ≤ machine.offers callback ∧
      ∃ waiting, Carries (machine.callback callback).capturering machine.blocks.flatten waiting ∧
        machine.record.captured ++ machine.taken callback = machine.blocks.flatten ++ waiting := by
  obtain ⟨waiting, hring, hcaptured⟩ := hcarries
  by_cases hlive : machine.running = true ∧ machine.mode = .opus
  · simp only [Machine.taken, Machine.offers, if_pos hlive, Machine.callback,
      dataCallback_opus hlive] at hsmall ⊢
    unfold processOpusCallback
    cases hinput : callback.input with
    | none =>
        refine ⟨Nat.zero_le _, waiting, hring, ?_⟩
        rw [List.append_nil]
        exact hcaptured
    | some input =>
        rw [hinput] at hsmall
        have hlength : input.toList.length = callback.framecount.toNat := input.length_toList
        have hwaiting := congrArg List.length hcaptured
        rw [List.length_append] at hwaiting
        obtain ⟨hwritten, hput⟩ := hring.put input.toList (by
          have hsum : machine.record.offered + callback.framecount.toNat < 2 ^ 64 := hsmall
          omega)
        refine ⟨?_, _, hput, ?_⟩
        · show (input.toList.take _).length ≤ callback.framecount.toNat
          rw [List.length_take]
          omega
        · show machine.record.captured ++ input.toList.take _ = _
          rw [hcaptured, List.append_assoc]
  · obtain ⟨hcapturering, -⟩ := dataCallback_idle hlive callback
    simp only [Machine.taken, Machine.offers, if_neg hlive, Machine.callback, hcapturering]
    exact ⟨Nat.zero_le _, waiting, hring, by rw [List.append_nil]; exact hcaptured⟩

/-- The playback ring after a call. -/
theorem callback_playback (hcarries : ∃ waiting,
      Carries machine.playbackring machine.record.heard waiting ∧
        machine.record.played = machine.record.heard ++ waiting) (callback : Callback) :
    (machine.mode = .opus → (dataCallback machine.toState callback).2 =
        machine.heard callback ++
          List.replicate (callback.framecount.toNat - (machine.heard callback).length) 0) ∧
      ∃ waiting, Carries (machine.callback callback).playbackring
          (machine.record.heard ++ machine.heard callback) waiting ∧
        machine.record.played = machine.record.heard ++ machine.heard callback ++ waiting := by
  obtain ⟨waiting, hring, hplayed⟩ := hcarries
  by_cases hlive : machine.running = true ∧ machine.mode = .opus
  · obtain ⟨hout, htake⟩ := hring.take callback.framecount.toUInt64
    have hheard : machine.heard callback =
        (AudioRingBuffer.read machine.playbackring callback.framecount.toUInt64).2 :=
      if_pos hlive
    obtain ⟨hplaybackring, houtput⟩ := processOpusCallback_playback machine.toState callback
    simp only [Machine.callback, dataCallback_opus hlive, hheard, hplaybackring]
    refine ⟨fun _ => houtput, _, hout ▸ htake, ?_⟩
    rw [hplayed, hout, List.append_assoc, List.take_append_drop]
  · obtain ⟨-, hplaybackring, -⟩ := dataCallback_idle hlive callback
    have hheard : machine.heard callback = [] := if_neg hlive
    simp only [Machine.callback, hplaybackring, hheard, List.append_nil]
    refine ⟨fun hmode => ?_, waiting, hring, hplayed⟩
    have hstopped : machine.running = false := by
      rw [← Bool.not_eq_true]
      exact fun h => hlive ⟨h, hmode⟩
    show (dataCallback machine.toState callback).2 = List.replicate callback.framecount.toNat 0
    rw [dataCallback, if_pos hstopped]

/-! ## The worker keeps the invariant -/

/-- What `start` leaves of the rings. -/
theorem start_rings (state : State) (newmode : Mode) (devices : Devices) :
    (Loopback.start state newmode devices).1.capturering =
        AudioRingBuffer.reset state.capturering ∧
      (Loopback.start state newmode devices).1.playbackring =
        AudioRingBuffer.reset state.playbackring := by
  obtain ⟨codecError, context, initError, startError⟩ := devices
  unfold Loopback.start
  cases newmode <;> cases codecError <;> cases context <;> cases initError <;>
    cases startError <;> exact ⟨rfl, rfl⟩

/-- What `start` leaves of the counters of the callback. -/
theorem start_counts (state : State) (newmode : Mode) (devices : Devices) :
    (Loopback.start state newmode devices).1.pcmbytes = 0 ∧
      (Loopback.start state newmode devices).1.captureoverruns = 0 ∧
      (Loopback.start state newmode devices).1.playbackunderruns = 0 := by
  obtain ⟨codecError, context, initError, startError⟩ := devices
  unfold Loopback.start
  cases newmode <;> cases codecError <;> cases context <;> cases initError <;>
    cases startError <;> exact ⟨rfl, rfl, rfl⟩

/-- What encoding and decoding leave alone. -/
structure Coded (machine next : Machine) (input : List Int16)
    (encoded : Option CompressedFrame) : Prop where
  capturering : next.capturering = machine.capturering
  playbackring : next.playbackring = machine.playbackring
  mode : next.mode = machine.mode
  held : next.worker.held = []
  offered : next.record.offered = machine.record.offered
  captured : next.record.captured = machine.record.captured
  stored : next.record.stored = machine.record.stored
  calls : next.record.calls = machine.record.calls
  coded : next.record.coded = machine.record.coded ++ [(input, encoded)]

theorem code_coded (machine : Machine) (input : List Int16) (encoded : Option CompressedFrame)
    (decoded : Option DecodedFrames) :
    Coded machine (machine.code input encoded decoded) input encoded := by
  unfold Machine.code
  cases encoded with
  | none => exact ⟨rfl, rfl, rfl, rfl, rfl, rfl, rfl, rfl, rfl⟩
  | some frame =>
      dsimp only
      split
      · exact ⟨rfl, rfl, rfl, rfl, rfl, rfl, rfl, rfl, rfl⟩
      · split_ifs
        · exact ⟨rfl, rfl, rfl, rfl, rfl, rfl, rfl, rfl, rfl⟩
        · cases decoded with
          | none => exact ⟨rfl, rfl, rfl, rfl, rfl, rfl, rfl, rfl, rfl⟩
          | some samples => exact ⟨rfl, rfl, rfl, rfl, rfl, rfl, rfl, rfl, rfl⟩

/-- The worker reads whole blocks. -/
theorem Carried.poll (h : Carried machine) (hworker : machine.worker = .polling) :
    Carried machine.poll := by
  have hheld : machine.worker.held = [] := by rw [hworker]; rfl
  have hblocks : machine.blocks = machine.record.coded.map Prod.fst := by
    rw [Machine.blocks, hheld, List.append_nil]
  unfold Machine.poll
  split_ifs with hrunning hfew
  · refine ⟨?_, ?_, h.few, h.playback, h.calls⟩
    · rw [show Machine.blocks _ = machine.blocks from by rw [hblocks]; exact List.append_nil _]
      exact h.capture
    · rw [show Machine.blocks _ = machine.blocks from by rw [hblocks]; exact List.append_nil _]
      exact h.blocks
  · exact h
  · obtain ⟨waiting, hring, hcaptured⟩ := h.capture
    obtain ⟨hread, htake⟩ := hring.take (UInt64.ofNat frameSamples)
    have henough : frameSamples ≤ waiting.length := by
      rw [UInt64.lt_iff_toNat_lt, hring.available] at hfew
      exact Nat.le_of_not_lt hfew
    have hnext : Machine.blocks { machine with
        capturering := (AudioRingBuffer.read machine.capturering (UInt64.ofNat frameSamples)).1
        worker := .holding
          (AudioRingBuffer.read machine.capturering (UInt64.ofNat frameSamples)).2 } =
        machine.blocks ++ [waiting.take frameSamples] := by
      rw [Machine.blocks, hblocks, hread]
      rfl
    refine ⟨?_, ?_, h.few, h.playback, h.calls⟩
    · refine ⟨waiting.drop frameSamples, ?_, ?_⟩
      · rw [hnext, List.flatten_append, List.flatten_singleton]
        exact htake
      · rw [hnext, List.flatten_append, List.flatten_singleton, List.append_assoc,
          List.take_append_drop]
        exact hcaptured
    · intro block hblock
      rw [hnext] at hblock
      rcases List.mem_append.mp hblock with hold | hnew
      · exact h.blocks block hold
      · obtain rfl := List.mem_singleton.mp hnew
        rw [List.length_take]
        omega

/-- A block that is encoded is no longer held. -/
theorem Carried.code (h : Carried machine) {input : List Int16}
    (hworker : machine.worker = .holding input) (encoded : Option CompressedFrame)
    (decoded : Option DecodedFrames) : Carried (machine.code input encoded decoded) := by
  have hcoded := code_coded machine input encoded decoded
  have hblocks : (machine.code input encoded decoded).blocks = machine.blocks := by
    rw [Machine.blocks, Machine.blocks, hcoded.coded, hcoded.held, hworker, List.append_nil,
      List.map_append]
    rfl
  have hheard : (machine.code input encoded decoded).record.heard = machine.record.heard :=
    congrArg (List.flatMap Call.heard) hcoded.calls
  have hplayed : (machine.code input encoded decoded).record.played = machine.record.played :=
    congrArg (List.flatMap Prod.snd) hcoded.stored
  refine ⟨?_, ?_, ?_, ?_, ?_⟩
  · rw [hblocks, hcoded.capturering, hcoded.captured]
    exact h.capture
  · rw [hblocks]
    exact h.blocks
  · rw [hcoded.captured, hcoded.offered]
    exact h.few
  · rw [hheard, hplayed, hcoded.playbackring]
    exact h.playback
  · rw [hcoded.mode, hcoded.calls]
    exact h.calls

theorem publish_played (machine : Machine) (decoded : DecodedFrames) :
    (machine.publish decoded).record.played = machine.record.played ++
      decoded.val.take (AudioRingBuffer.write machine.playbackring decoded.val).2.toNat := by
  show (machine.record.stored ++ [(decoded, _)]).flatMap Prod.snd = _
  rw [List.flatMap_append, List.flatMap_singleton]
  rfl

/-- What is decoded goes behind what waits to be played. -/
theorem Carried.publish (h : Carried machine) {decoded : DecodedFrames}
    (hworker : machine.worker = .publishing decoded)
    (hsmall : machine.record.played.length + decoded.val.length < 2 ^ 64) :
    Carried (machine.publish decoded) ∧
      (AudioRingBuffer.write machine.playbackring decoded.val).2.toNat ≤ decoded.val.length := by
  obtain ⟨waiting, hring, hplayed⟩ := h.playback
  have hlength := congrArg List.length hplayed
  rw [List.length_append] at hlength
  obtain ⟨hwritten, hput⟩ := hring.put decoded.val (by omega)
  have hblocks : (machine.publish decoded).blocks = machine.blocks := by
    rw [Machine.blocks, Machine.blocks, hworker]
    rfl
  refine ⟨⟨?_, ?_, h.few, ?_, h.calls⟩, hwritten⟩
  · rw [hblocks]
    exact h.capture
  · rw [hblocks]
    exact h.blocks
  · refine ⟨_, hput, ?_⟩
    show (machine.publish decoded).record.played = machine.record.heard ++ _
    rw [publish_played, hplayed, List.append_assoc]

/-- **Every step keeps the rings.** -/
theorem Carried.step {action : Action} (h : Carried machine) (hdelayed : Delayed machine)
    (hstep : step machine action = some next) (hsmall : next.record.offered < 2 ^ 64) :
    Carried next := by
  cases action with
  | start newmode devices =>
      simp only [Loopback.step] at hstep
      split at hstep
      · split_ifs at hstep
        obtain rfl := Option.some.inj hstep
        obtain ⟨hcapturering, hplaybackring⟩ := start_rings machine.toState newmode devices
        obtain ⟨_, hcapture, -⟩ := h.capture
        obtain ⟨_, hplayback, -⟩ := h.playback
        have hblocks : (machine.start newmode devices).blocks = [] := by
          simp only [Machine.blocks, Machine.start]
          split_ifs <;> rfl
        refine ⟨⟨[], ?_, ?_⟩, ?_, le_rfl, ⟨[], ?_, rfl⟩,
          fun _ call hcall => absurd hcall List.not_mem_nil⟩
        · rw [hblocks, show (machine.start newmode devices).capturering = _ from hcapturering]
          exact hcapture.reset
        · rw [hblocks]
          rfl
        · rw [hblocks]
          exact fun block hblock => absurd hblock List.not_mem_nil
        · rw [show (machine.start newmode devices).playbackring = _ from hplaybackring]
          exact hplayback.reset
      · cases hstep
  | halt =>
      obtain rfl := Option.some.inj hstep
      exact ⟨h.capture, h.blocks, h.few, h.playback, h.calls⟩
  | join =>
      simp only [Loopback.step] at hstep
      split at hstep
      · obtain rfl := Option.some.inj hstep
        exact ⟨h.capture, h.blocks, h.few, h.playback, h.calls⟩
      · cases hstep
  | callback callback =>
      obtain rfl := Option.some.inj hstep
      obtain ⟨htaken, hcapture⟩ := callback_capture h.capture h.few hsmall
      obtain ⟨houtput, hplayback⟩ := callback_playback h.playback callback
      have hmode : (machine.callback callback).mode = machine.mode := callback_mode machine callback
      have hheard : (machine.callback callback).record.heard =
          machine.record.heard ++ machine.heard callback := by
        rw [Record.heard, Machine.callback, List.flatMap_append, List.flatMap_singleton]
        rfl
      refine ⟨hcapture, h.blocks, ?_, ?_, ?_⟩
      · show (machine.record.captured ++ machine.taken callback).length ≤
          machine.record.offered + machine.offers callback
        have hfew := h.few
        rw [List.length_append]
        omega
      · rw [hheard]
        exact hplayback
      · intro hopus call hcall
        rw [hmode] at hopus
        rcases List.mem_append.mp hcall with hold | hnew
        · exact h.calls hopus call hold
        · obtain rfl := List.mem_singleton.mp hnew
          exact houtput hopus
  | stopped =>
      obtain rfl := Option.some.inj hstep
      exact ⟨h.capture, h.blocks, h.few, h.playback, h.calls⟩
  | poll =>
      simp only [Loopback.step] at hstep
      split at hstep
      · obtain rfl := Option.some.inj hstep
        exact h.poll ‹_›
      · cases hstep
  | code encoded decoded =>
      simp only [Loopback.step] at hstep
      split at hstep
      · obtain rfl := Option.some.inj hstep
        exact h.code ‹_› encoded decoded
      · cases hstep
  | publish =>
      simp only [Loopback.step] at hstep
      split at hstep
      · rename_i decoded hworker
        obtain rfl := Option.some.inj hstep
        have hplayed := played_small h hdelayed
        have hoffered : (machine.publish decoded).record.offered = machine.record.offered := rfl
        rw [hworker, Worker.pending, List.map_singleton, List.sum_singleton] at hplayed
        exact (h.publish hworker (by omega)).1
      · cases hstep

/-- A list that is cut behind one of its elements. -/
theorem cut_behind {α : Type} {xs rest : List α} {x : α} {n : Nat} (h : xs.drop n = x :: rest) :
    xs.take (n + 1) = xs.take n ++ [x] ∧ xs.drop (n + 1) = rest := by
  constructor
  · rw [List.take_add, h]
    rfl
  · rw [← List.drop_drop, h]
    rfl

theorem code_packets (machine : Machine) (input : List Int16)
    (encoded : Option CompressedFrame) (decoded : Option DecodedFrames) :
    (machine.code input encoded decoded).record.packets =
      machine.record.packets ++ encoded.toList := by
  rw [Record.packets, (code_coded machine input encoded decoded).coded, List.filterMap_append]
  cases encoded <;> rfl

/-- A packet that is not decoded is kept. -/
theorem code_kept {frame : CompressedFrame}
    (hfew : (machine.delayedpackets ++ [frame]).length < delayPackets) (input : List Int16)
    (decoded : Option DecodedFrames) :
    (machine.code input (some frame) decoded).record.fed = machine.record.fed ∧
      (machine.code input (some frame) decoded).delayedpackets = machine.delayedpackets ++ [frame] ∧
      (machine.code input (some frame) decoded).worker = .polling := by
  unfold Machine.code
  dsimp only
  split
  · exact ⟨rfl, rfl, rfl⟩
  · rw [if_pos hfew]
    exact ⟨rfl, rfl, rfl⟩

/-- The oldest packet is decoded when enough of them wait. -/
theorem code_fed {frame oldest : CompressedFrame} {rest : List CompressedFrame}
    (hqueue : machine.delayedpackets ++ [frame] = oldest :: rest)
    (henough : ¬ (machine.delayedpackets ++ [frame]).length < delayPackets) (input : List Int16)
    (decoded : Option DecodedFrames) :
    (machine.code input (some frame) decoded).record.fed =
        machine.record.fed ++ [(oldest, decoded)] ∧
      (machine.code input (some frame) decoded).worker.pending = decoded.toList ∧
      (machine.code input (some frame) decoded).delayedpackets =
        if decoded = none then rest else oldest :: rest := by
  unfold Machine.code
  dsimp only
  rw [hqueue] at henough ⊢
  dsimp only
  rw [if_neg henough]
  cases decoded with
  | none => exact ⟨rfl, rfl, rfl⟩
  | some samples => exact ⟨rfl, rfl, rfl⟩

/-- Encoding one more block keeps the packets in order. -/
theorem Delayed.code (h : Delayed machine) {input : List Int16}
    (hworker : machine.worker = .holding input) (encoded : Option CompressedFrame)
    (decoded : Option DecodedFrames) : Delayed (machine.code input encoded decoded) := by
  have hpending : machine.worker.pending = [] := by rw [hworker]; rfl
  have hkept := h.kept (by rw [hworker]; exact Worker.noConfusion)
  have hdecoded := h.decoded
  have hfed := h.fed
  rw [hpending, List.length_nil, Nat.sub_zero] at hkept
  rw [hpending, List.append_nil] at hdecoded
  have hcount : machine.record.fed.length = machine.record.packets.length - (delayPackets - 1) := by
    have hlength := congrArg List.length hfed
    rw [List.length_map, List.length_take] at hlength
    omega
  have hcoded := code_coded machine input encoded decoded
  have hpackets := code_packets machine input encoded decoded
  cases encoded with
  | none =>
      rw [Option.toList_none, List.append_nil] at hpackets
      have hfed' : (machine.code input none decoded).record.fed = machine.record.fed := rfl
      have hpending' : (machine.code input none decoded).worker.pending = [] := rfl
      refine ⟨?_, fun _ => ?_, ?_, h.stored⟩
      · rw [hpackets, hfed', hfed]
      · rw [hpackets, hfed', hpending', List.length_nil, Nat.sub_zero, ← hkept]
        unfold Machine.code
        rfl
      · rw [hpending', List.append_nil, Record.decoded, hfed', hcoded.stored]
        exact hdecoded
  | some frame =>
      rw [Option.toList_some] at hpackets
      have hqueue : machine.delayedpackets ++ [frame] =
          (machine.record.packets ++ [frame]).drop machine.record.fed.length := by
        rw [hkept, List.drop_append_of_le_length (by omega)]
      have hlength := congrArg List.length hqueue
      rw [List.length_drop, List.length_append, List.length_append,
        List.length_singleton] at hlength
      have hdelay : delayPackets = 100 := rfl
      have hstored : ∀ written ∈ (machine.code input (some frame) decoded).record.stored,
          written.2 <+: written.1.val := by
        rw [hcoded.stored]
        exact h.stored
      by_cases hfew : (machine.delayedpackets ++ [frame]).length < delayPackets
      · obtain ⟨hfed', hdelayed', hworker'⟩ := code_kept hfew input decoded
        rw [List.length_append, List.length_singleton] at hfew
        have hzero : machine.record.packets.length + 1 - (delayPackets - 1) =
            machine.record.packets.length - (delayPackets - 1) := by omega
        refine ⟨?_, fun _ => ?_, ?_, hstored⟩
        · rw [hfed', hpackets, hfed, List.length_append, List.length_singleton, hzero,
            List.take_append_of_le_length (by omega)]
        · rw [hdelayed', hpackets, hfed', hworker', hqueue]
          rfl
        · rw [Record.decoded, hfed', hworker', hcoded.stored]
          exact hdecoded.trans (List.append_nil _).symm
      · cases hsplit : machine.delayedpackets ++ [frame] with
        | nil => exact absurd hsplit (List.append_ne_nil_of_right_ne_nil _ (List.cons_ne_nil _ _))
        | cons oldest rest =>
            obtain ⟨hfed', hpending', hdelayed'⟩ := code_fed hsplit hfew input decoded
            rw [List.length_append, List.length_singleton] at hfew
            have hmore : machine.record.packets.length + 1 - (delayPackets - 1) =
                machine.record.fed.length + 1 := by omega
            obtain ⟨htake, hdrop⟩ := cut_behind (hqueue.symm.trans hsplit)
            refine ⟨?_, fun _ => ?_, ?_, hstored⟩
            · rw [hfed', hpackets, List.length_append, List.length_singleton, hmore, htake,
                List.take_append_of_le_length (by omega), hcount, ← hfed, List.map_append]
              rfl
            · rw [hdelayed', hpackets, hfed', hpending', List.length_append, List.length_singleton]
              cases decoded with
              | none => exact hdrop.symm
              | some samples => exact hsplit.symm.trans hqueue
            · rw [Record.decoded, hfed', hpending', hcoded.stored, List.filterMap_append,
                ← hdecoded]
              cases decoded <;> rfl

/-- A write of a decoded frame takes its packet off the queue. -/
theorem Delayed.publish (h : Delayed machine) {decoded : DecodedFrames}
    (hworker : machine.worker = .publishing decoded) : Delayed (machine.publish decoded) := by
  have hpending : machine.worker.pending = [decoded] := by rw [hworker]; rfl
  have hkept := h.kept (by rw [hworker]; exact Worker.noConfusion)
  have hdecoded := h.decoded
  have hfed : 0 < machine.record.fed.length := by
    have hlength := congrArg List.length hdecoded
    have hle : machine.record.decoded.length ≤ machine.record.fed.length :=
      List.length_filterMap_le _ _
    rw [hpending, List.length_append, List.length_singleton] at hlength
    omega
  refine ⟨h.fed, fun _ => ?_, ?_, ?_⟩
  · show machine.delayedpackets.tail = machine.record.packets.drop (machine.record.fed.length - 0)
    rw [hkept, hpending, List.tail_drop, List.length_singleton]
    congr 1
    omega
  · show machine.record.decoded = (machine.record.stored ++ [(decoded, _)]).map Prod.fst ++ []
    rw [hdecoded, hpending, List.map_append, List.append_nil]
    rfl
  · intro written hwritten
    rcases List.mem_append.mp hwritten with hold | hnew
    · exact h.stored written hold
    · obtain rfl := List.mem_singleton.mp hnew
      exact List.take_prefix _ _

/-- **Every step keeps the packets.** -/
theorem Delayed.step {action : Action} (h : Delayed machine)
    (hstep : step machine action = some next) : Delayed next := by
  cases action with
  | start newmode devices =>
      simp only [Loopback.step] at hstep
      split at hstep
      · split_ifs at hstep
        obtain rfl := Option.some.inj hstep
        refine ⟨rfl, fun _ => List.drop_nil.symm, ?_,
          fun written hwritten => absurd hwritten List.not_mem_nil⟩
        simp only [Machine.start]
        split_ifs <;> rfl
      · cases hstep
  | halt =>
      obtain rfl := Option.some.inj hstep
      exact ⟨h.fed, h.kept, h.decoded, h.stored⟩
  | join =>
      simp only [Loopback.step] at hstep
      split at hstep
      · obtain rfl := Option.some.inj hstep
        exact ⟨h.fed, h.kept, h.decoded, h.stored⟩
      · cases hstep
  | callback callback =>
      obtain rfl := Option.some.inj hstep
      exact ⟨h.fed, h.kept, h.decoded, h.stored⟩
  | stopped =>
      obtain rfl := Option.some.inj hstep
      exact ⟨h.fed, h.kept, h.decoded, h.stored⟩
  | poll =>
      simp only [Loopback.step] at hstep
      split at hstep
      · rename_i hworker
        obtain rfl := Option.some.inj hstep
        have hdecoded := h.decoded
        rw [hworker] at hdecoded
        have hkept := h.kept (by rw [hworker]; exact Worker.noConfusion)
        rw [hworker] at hkept
        unfold Machine.poll
        split_ifs
        · exact ⟨h.fed, fun hnot => absurd rfl hnot, hdecoded, h.stored⟩
        · exact h
        · exact ⟨h.fed, fun _ => hkept, hdecoded, h.stored⟩
      · cases hstep
  | code encoded decoded =>
      simp only [Loopback.step] at hstep
      split at hstep
      · obtain rfl := Option.some.inj hstep
        exact h.code ‹_› encoded decoded
      · cases hstep
  | publish =>
      simp only [Loopback.step] at hstep
      split at hstep
      · obtain rfl := Option.some.inj hstep
        exact h.publish ‹_›
      · cases hstep

/-! ## The counters -/

/-- The failures among the answers of the codec. -/
def Record.failed (record : Record) : Nat :=
  record.coded.countP (·.2.isNone) + record.fed.countP (·.2.isNone)

/-- What the decoded frames have lost in the playback ring. -/
def Record.overrun (record : Record) : Nat :=
  (record.stored.map fun written => written.1.val.length - written.2.length).sum

/-- What the calls have missed, once something had been decoded. -/
def Record.underrun (record : Record) : Nat :=
  ((record.calls.filter Call.ready).map fun call => call.framecount - call.heard.length).sum

/-- **The counters** of `getStats`; they have 64 bits. -/
structure Counted (machine : Machine) : Prop where
  pcm : machine.mode = .opus →
    machine.pcmbytes = UInt64.ofNat (2 * frameSamples * machine.record.coded.length)
  opus : machine.opusbytes =
    UInt64.ofNat (machine.record.packets.map fun frame => frame.val.length).sum
  encoded : machine.encodedpackets = UInt64.ofNat machine.record.packets.length
  decoded : machine.decodedpackets = UInt64.ofNat machine.record.stored.length
  errors : machine.codecerrors = UInt64.ofNat machine.record.failed
  capture : machine.captureoverruns =
    UInt64.ofNat (machine.record.offered - machine.record.captured.length)
  playback : machine.playbackoverruns = UInt64.ofNat machine.record.overrun
  underrun : machine.playbackunderruns = UInt64.ofNat machine.record.underrun

theorem underrun_append (record : Record) (call : Call) :
    Record.underrun { record with calls := record.calls ++ [call] } =
      record.underrun +
        if call.ready = true then call.framecount - call.heard.length else 0 := by
  unfold Record.underrun
  rw [List.filter_append, List.map_append, List.sum_append]
  congr 1
  cases hready : call.ready with
  | true =>
      rw [List.filter_cons_of_pos hready]
      exact Nat.add_zero _
  | false =>
      rw [List.filter_cons_of_neg (by rw [hready]; decide)]
      rfl

/-- A counter of what did not fit. -/
theorem overrun_eq (count : UInt64) {frames written : UInt64}
    (h : written.toNat ≤ frames.toNat) :
    (if written < frames then count + (frames - written) else count) =
      count + UInt64.ofNat (frames.toNat - written.toNat) := by
  have hsub : frames - written = UInt64.ofNat (frames.toNat - written.toNat) := by
    rw [← UInt64.toNat_inj, UInt64.toNat_sub_of_le _ _ (UInt64.le_iff_toNat_le.mpr h),
      UInt64.toNat_ofNat_of_lt' (Nat.lt_of_le_of_lt (Nat.sub_le _ _) frames.toNat_lt)]
  split_ifs with hlt
  · rw [hsub]
  · rw [UInt64.lt_iff_toNat_lt] at hlt
    have hzero : frames.toNat - written.toNat = 0 := by omega
    rw [hzero]
    exact (UInt64.add_zero _).symm

/-- What encoding and decoding count. -/
structure CodeCounts (machine next : Machine) (encoded : Option CompressedFrame) : Prop where
  pcm : next.pcmbytes = machine.pcmbytes + UInt64.ofNat (2 * frameSamples)
  opus : next.opusbytes =
    machine.opusbytes + UInt64.ofNat (encoded.toList.map fun frame => frame.val.length).sum
  packets : next.encodedpackets = machine.encodedpackets + UInt64.ofNat encoded.toList.length
  errors : ∃ failed, next.codecerrors = machine.codecerrors + UInt64.ofNat failed ∧
    next.record.failed = machine.record.failed + failed
  decoded : next.decodedpackets = machine.decodedpackets
  capture : next.captureoverruns = machine.captureoverruns
  playback : next.playbackoverruns = machine.playbackoverruns
  underrun : next.playbackunderruns = machine.playbackunderruns

theorem code_counts (machine : Machine) (input : List Int16) (encoded : Option CompressedFrame)
    (decoded : Option DecodedFrames) :
    CodeCounts machine (machine.code input encoded decoded) encoded := by
  cases encoded with
  | none =>
      unfold Machine.code
      refine ⟨rfl, (UInt64.add_zero _).symm, (UInt64.add_zero _).symm, ⟨1, rfl, ?_⟩, rfl, rfl, rfl,
        rfl⟩
      show (machine.record.coded ++ [(input, none)]).countP _ + _ = machine.record.failed + 1
      rw [List.countP_append, Nat.add_right_comm]
      rfl
  | some frame =>
      have hcoded : (machine.record.coded ++ [(input, some frame)]).countP (·.2.isNone) =
          machine.record.coded.countP (·.2.isNone) := by
        rw [List.countP_append]
        rfl
      unfold Machine.code
      dsimp only
      split
      · refine ⟨rfl, rfl, rfl, ⟨0, (UInt64.add_zero _).symm, ?_⟩, rfl, rfl, rfl, rfl⟩
        exact congrArg (· + _) hcoded
      · split_ifs
        · refine ⟨rfl, rfl, rfl, ⟨0, (UInt64.add_zero _).symm, ?_⟩, rfl, rfl, rfl, rfl⟩
          exact congrArg (· + _) hcoded
        · cases decoded with
          | none =>
              refine ⟨rfl, rfl, rfl, ⟨1, rfl, ?_⟩, rfl, rfl, rfl, rfl⟩
              show (machine.record.coded ++ [_]).countP _ + (machine.record.fed ++ [_]).countP _ = _
              rw [hcoded, List.countP_append]
              rfl
          | some samples =>
              refine ⟨rfl, rfl, rfl, ⟨0, (UInt64.add_zero _).symm, ?_⟩, rfl, rfl, rfl, rfl⟩
              show (machine.record.coded ++ [_]).countP _ + (machine.record.fed ++ [_]).countP _ = _
              rw [hcoded, List.countP_append]
              rfl

/-- The counters of the worker after a block is encoded. -/
theorem Counted.code (h : Counted machine) (input : List Int16)
    (encoded : Option CompressedFrame) (decoded : Option DecodedFrames) :
    Counted (machine.code input encoded decoded) := by
  have hcoded := code_coded machine input encoded decoded
  have hlength : 2 * frameSamples * (machine.record.coded ++ [(input, encoded)]).length =
      2 * frameSamples * machine.record.coded.length + 2 * frameSamples := by
    rw [List.length_append, List.length_singleton, Nat.mul_add, Nat.mul_one]
  have hcounts := code_counts machine input encoded decoded
  refine ⟨?_, ?_, ?_, ?_, ?_, ?_, ?_, ?_⟩
  · intro hmode
    rw [hcoded.mode] at hmode
    rw [hcounts.pcm, hcoded.coded, hlength, UInt64.ofNat_add, ← h.pcm hmode]
  · rw [hcounts.opus, code_packets, List.map_append, List.sum_append, UInt64.ofNat_add, ← h.opus]
  · rw [hcounts.packets, code_packets, List.length_append, UInt64.ofNat_add, ← h.encoded]
  · rw [hcounts.decoded, hcoded.stored]
    exact h.decoded
  · obtain ⟨failed, herrors, hfailed⟩ := hcounts.errors
    show _ = UInt64.ofNat (Record.failed _)
    rw [herrors, hfailed, UInt64.ofNat_add]
    exact congrArg (· + _) h.errors
  · rw [hcounts.capture, hcoded.offered, hcoded.captured]
    exact h.capture
  · rw [hcounts.playback, Record.overrun, hcoded.stored]
    exact h.playback
  · rw [hcounts.underrun, Record.underrun, hcoded.calls]
    exact h.underrun

/-- What a call in the Opus mode counts. -/
theorem processOpusCallback_counts (state : State) (callback : Callback) :
    (processOpusCallback state callback).1.pcmbytes = state.pcmbytes ∧
      (processOpusCallback state callback).1.captureoverruns =
        (match callback.input with
        | none => state.captureoverruns
        | some input =>
            if (AudioRingBuffer.write state.capturering input.toList).2 <
                callback.framecount.toUInt64 then
              state.captureoverruns + (callback.framecount.toUInt64 -
                (AudioRingBuffer.write state.capturering input.toList).2)
            else state.captureoverruns) ∧
      (processOpusCallback state callback).1.playbackunderruns =
        if state.playbackready = true ∧ UInt64.ofNat (AudioRingBuffer.read state.playbackring
            callback.framecount.toUInt64).2.length < callback.framecount.toUInt64 then
          state.playbackunderruns + (callback.framecount.toUInt64 -
            UInt64.ofNat (AudioRingBuffer.read state.playbackring
              callback.framecount.toUInt64).2.length)
        else state.playbackunderruns := by
  unfold processOpusCallback
  cases callback.input with
  | none => exact ⟨rfl, rfl, rfl⟩
  | some input => exact ⟨rfl, rfl, rfl⟩

/-- The counters of the callback. -/
theorem Counted.callback (h : Counted machine) (hcarried : Carried machine) {callback : Callback}
    (hsmall : machine.record.offered + machine.offers callback < 2 ^ 64) :
    Counted (machine.callback callback) := by
  have hfew := hcarried.few
  obtain ⟨_, hplayback, -⟩ := hcarried.playback
  have hmode := callback_mode machine callback
  by_cases hlive : machine.running = true ∧ machine.mode = .opus
  · obtain ⟨hpcm, hoverruns, hunderruns⟩ := processOpusCallback_counts machine.toState callback
    rw [← dataCallback_opus hlive] at hpcm hoverruns hunderruns
    have hframes : callback.framecount.toUInt64.toNat = callback.framecount.toNat :=
      UInt32.toNat_toUInt64 _
    refine ⟨?_, h.opus, h.encoded, h.decoded, h.errors, ?_, h.playback, ?_⟩
    · intro hopus
      exact hpcm.trans (h.pcm hlive.2)
    · show (dataCallback machine.toState callback).1.captureoverruns =
        UInt64.ofNat (machine.record.offered + machine.offers callback -
          (machine.record.captured ++ machine.taken callback).length)
      rw [hoverruns, h.capture, Machine.taken, Machine.offers, if_pos hlive, if_pos hlive]
      rw [Machine.offers, if_pos hlive] at hsmall
      cases hinput : callback.input with
      | none => rw [List.append_nil, Nat.add_zero]
      | some input =>
          rw [hinput] at hsmall
          dsimp only at hsmall ⊢
          have hlength : input.toList.length = callback.framecount.toNat := input.length_toList
          obtain ⟨waiting, hring, hcaptured⟩ := hcarried.capture
          have hwaiting := congrArg List.length hcaptured
          rw [List.length_append] at hwaiting
          obtain ⟨hwritten, -⟩ := hring.put input.toList (by omega)
          rw [overrun_eq _ (by omega), ← UInt64.ofNat_add, hframes, List.length_append,
            List.length_take]
          congr 1
          omega
    · show (dataCallback machine.toState callback).1.playbackunderruns =
        UInt64.ofNat (Record.underrun { machine.record with
          calls := machine.record.calls ++ [_] })
      have hheard : machine.heard callback =
          (AudioRingBuffer.read machine.playbackring callback.framecount.toUInt64).2 := if_pos hlive
      have hread : (machine.heard callback).length ≤ callback.framecount.toNat := by
        rw [hheard, (hplayback.take _).1, List.length_take, hframes]
        exact Nat.min_le_left _ _
      have hfits := callback.framecount.toNat_lt
      have hcount : (UInt64.ofNat (machine.heard callback).length).toNat =
          (machine.heard callback).length :=
        UInt64.toNat_ofNat_of_lt' (show _ < 2 ^ 64 by omega)
      rw [hunderruns, underrun_append, UInt64.ofNat_add, ← h.underrun, ← hheard]
      simp only [decide_eq_true_eq, hlive.1, hlive.2, true_and]
      by_cases hready : machine.playbackready = true
      · rw [if_pos hready]
        simp only [hready, true_and]
        rw [overrun_eq _ (by rw [hcount, hframes]; exact hread), hcount, hframes]
      · rw [if_neg hready, if_neg fun hboth => hready hboth.1]
        exact (UInt64.add_zero _).symm
  · obtain ⟨-, -, -, -, hoverruns, hunderruns⟩ := dataCallback_idle hlive callback
    have htaken : machine.taken callback = [] := if_neg hlive
    have hoffers : machine.offers callback = 0 := if_neg hlive
    refine ⟨?_, h.opus, h.encoded, h.decoded, h.errors, ?_, h.playback, ?_⟩
    · intro hopus
      rw [hmode] at hopus
      have hstopped : machine.running = false := by
        rw [← Bool.not_eq_true]
        exact fun hrunning => hlive ⟨hrunning, hopus⟩
      show (dataCallback machine.toState callback).1.pcmbytes = _
      rw [dataCallback, if_pos hstopped]
      exact h.pcm hopus
    · show (dataCallback machine.toState callback).1.captureoverruns =
        UInt64.ofNat (machine.record.offered + machine.offers callback -
          (machine.record.captured ++ machine.taken callback).length)
      rw [hoverruns, htaken, hoffers, List.append_nil, Nat.add_zero]
      exact h.capture
    · show (dataCallback machine.toState callback).1.playbackunderruns =
        UInt64.ofNat (Record.underrun { machine.record with
          calls := machine.record.calls ++ [_] })
      rw [hunderruns, h.underrun, underrun_append]
      have hready : ¬ (machine.running = true ∧ machine.mode = .opus ∧
          machine.playbackready = true) := fun hready => hlive ⟨hready.1, hready.2.1⟩
      simp only [decide_eq_false hready]
      rfl

/-- The counters of the worker after a frame is written. -/
theorem Counted.publish (h : Counted machine) {decoded : DecodedFrames}
    (hwritten : (AudioRingBuffer.write machine.playbackring decoded.val).2.toNat ≤
      decoded.val.length) (hsmall : decoded.val.length < 2 ^ 64) :
    Counted (machine.publish decoded) := by
  have hcount : (UInt64.ofNat decoded.val.length).toNat = decoded.val.length :=
    UInt64.toNat_ofNat_of_lt' hsmall
  refine ⟨h.pcm, h.opus, h.encoded, ?_, h.errors, h.capture, ?_, h.underrun⟩
  · show machine.decodedpackets + 1 = UInt64.ofNat (machine.record.stored ++ [_]).length
    rw [List.length_append, UInt64.ofNat_add, ← h.decoded]
    rfl
  · have hoverrun : (machine.publish decoded).record.overrun = machine.record.overrun +
        (decoded.val.length -
          (AudioRingBuffer.write machine.playbackring decoded.val).2.toNat) := by
      show ((machine.record.stored ++ [(decoded, _)]).map _).sum = _
      rw [List.map_append, List.sum_append, List.map_singleton, List.sum_singleton]
      congr 2
      exact (List.length_take_of_le hwritten)
    rw [hoverrun, UInt64.ofNat_add, ← h.playback]
    exact (overrun_eq _ (by rw [hcount]; exact hwritten)).trans (by rw [hcount]; rfl)

/-- **Every step keeps the counters.** -/
theorem Counted.step {action : Action} (h : Counted machine) (hcarried : Carried machine)
    (hdelayed : Delayed machine) (hstep : step machine action = some next)
    (hsmall : next.record.offered < 2 ^ 64) : Counted next := by
  cases action with
  | start newmode devices =>
      simp only [Loopback.step] at hstep
      split at hstep
      · split_ifs at hstep
        obtain rfl := Option.some.inj hstep
        obtain ⟨hpcm, hoverruns, hunderruns⟩ := start_counts machine.toState newmode devices
        exact ⟨fun _ => hpcm, rfl, rfl, rfl, rfl, hoverruns, rfl, hunderruns⟩
      · cases hstep
  | halt =>
      obtain rfl := Option.some.inj hstep
      exact ⟨h.pcm, h.opus, h.encoded, h.decoded, h.errors, h.capture, h.playback, h.underrun⟩
  | join =>
      simp only [Loopback.step] at hstep
      split at hstep
      · obtain rfl := Option.some.inj hstep
        exact ⟨h.pcm, h.opus, h.encoded, h.decoded, h.errors, h.capture, h.playback, h.underrun⟩
      · cases hstep
  | callback callback =>
      obtain rfl := Option.some.inj hstep
      exact h.callback hcarried hsmall
  | stopped =>
      obtain rfl := Option.some.inj hstep
      exact ⟨h.pcm, h.opus, h.encoded, h.decoded, h.errors, h.capture, h.playback, h.underrun⟩
  | poll =>
      simp only [Loopback.step] at hstep
      split at hstep
      · obtain rfl := Option.some.inj hstep
        unfold Machine.poll
        split_ifs
        · exact ⟨h.pcm, h.opus, h.encoded, h.decoded, h.errors, h.capture, h.playback, h.underrun⟩
        · exact h
        · exact ⟨h.pcm, h.opus, h.encoded, h.decoded, h.errors, h.capture, h.playback, h.underrun⟩
      · cases hstep
  | code encoded decoded =>
      simp only [Loopback.step] at hstep
      split at hstep
      · obtain rfl := Option.some.inj hstep
        exact h.code _ encoded decoded
      · cases hstep
  | publish =>
      simp only [Loopback.step] at hstep
      split at hstep
      · rename_i decoded hworker
        obtain rfl := Option.some.inj hstep
        have hplayed := played_small hcarried hdelayed
        have hoffered : (machine.publish decoded).record.offered = machine.record.offered := rfl
        rw [hworker, Worker.pending, List.map_singleton, List.sum_singleton] at hplayed
        exact h.publish (hcarried.publish hworker (by omega)).2 (by omega)
      · cases hstep

/-! ## The law -/

/-- The frames a step may offer. -/
def Action.frames : Action → Nat
  | .callback call => call.framecount.toNat
  | _ => 0

theorem step_offered {action : Action} (hstep : step machine action = some next) :
    next.record.offered ≤ machine.record.offered + action.frames := by
  cases action with
  | callback callback =>
      obtain rfl := Option.some.inj hstep
      refine Nat.add_le_add_left ?_ _
      rw [Machine.offers]
      split_ifs
      · split
        · exact Nat.zero_le _
        · exact Nat.le_refl _
      · exact Nat.zero_le _
  | halt | stopped =>
      obtain rfl := Option.some.inj hstep
      exact Nat.le_add_right _ _
  | start newmode devices =>
      simp only [Loopback.step] at hstep
      split at hstep
      · split_ifs at hstep
        obtain rfl := Option.some.inj hstep
        exact Nat.zero_le _
      · cases hstep
  | join | publish =>
      simp only [Loopback.step] at hstep
      split at hstep
      · obtain rfl := Option.some.inj hstep
        exact Nat.le_add_right _ _
      · cases hstep
  | poll =>
      simp only [Loopback.step] at hstep
      split at hstep
      · obtain rfl := Option.some.inj hstep
        unfold Machine.poll
        split_ifs <;> exact Nat.le_add_right _ _
      · cases hstep
  | code encoded decoded =>
      simp only [Loopback.step] at hstep
      split at hstep
      · obtain rfl := Option.some.inj hstep
        exact (code_coded _ _ encoded decoded).offered.le.trans (Nat.le_add_right _ _)
      · cases hstep

/-- **Runs** keep the rings, the packets and the counters. -/
theorem run_keeps {actions : List Action} (hcarried : Carried machine)
    (hdelayed : Delayed machine) (hcounted : Counted machine)
    (hframes : machine.record.offered + (actions.map Action.frames).sum < 2 ^ 64)
    (h : exec step machine actions = some next) :
    Carried next ∧ Delayed next ∧ Counted next := by
  induction actions generalizing machine with
  | nil =>
      obtain rfl : machine = next := by simpa using h
      exact ⟨hcarried, hdelayed, hcounted⟩
  | cons action actions ih =>
      obtain ⟨middle, hstep, hrest⟩ := Exec.exec_cons_some h
      have hoffered := step_offered hstep
      rw [List.map_cons, List.sum_cons] at hframes
      exact ih (hcarried.step hdelayed hstep (by omega)) (hdelayed.step hstep)
        (hcounted.step hcarried hdelayed hstep (by omega)) (by omega) hrest

/-- **The Opus loopback** encodes what the microphone put in, block after block;
decodes every packet in order, ninety-nine packets late; and plays what was
decoded.  What is lost is counted. -/
theorem opus_delay {actions : List Action} (hframes : (actions.map Action.frames).sum < 2 ^ 64)
    (h : exec step {} actions = some machine) :
    (∃ waiting, machine.record.captured = machine.blocks.flatten ++ waiting ∧
        waiting.length ≤ workerRingFrames.toNat) ∧
      (∀ block ∈ machine.blocks, block.length = frameSamples) ∧
      machine.record.fed.map Prod.fst =
        machine.record.packets.take (machine.record.packets.length - (delayPackets - 1)) ∧
      machine.record.decoded =
        machine.record.stored.map Prod.fst ++ machine.worker.pending ∧
      (∀ frame ∈ machine.record.stored, frame.2 <+: frame.1.val) ∧
      (∃ waiting, machine.record.played = machine.record.heard ++ waiting ∧
        waiting.length ≤ workerRingFrames.toNat) ∧
      (machine.record.packets.length < delayPackets → machine.record.heard = []) ∧
      (machine.mode = .opus → ∀ call ∈ machine.record.calls, call.output =
        call.heard ++ List.replicate (call.framecount - call.heard.length) 0) ∧
      Counted machine := by
  have hfresh : Carried {} := by
    refine ⟨⟨[], Carries.create, rfl⟩, ?_, le_rfl, ⟨[], Carries.create, rfl⟩, ?_⟩
    · exact fun block hblock => absurd hblock List.not_mem_nil
    · exact fun _ call hcall => absurd hcall List.not_mem_nil
  have hempty : Delayed {} :=
    ⟨rfl, fun hnot => absurd rfl hnot, rfl,
      fun written hwritten => absurd hwritten List.not_mem_nil⟩
  have hzero : Counted {} := ⟨fun _ => rfl, rfl, rfl, rfl, rfl, rfl, rfl, rfl⟩
  obtain ⟨hcarried, hdelayed, hcounted⟩ :=
    run_keeps hfresh hempty hzero (by rw [show ({} : Machine).record.offered = 0 from rfl]; omega) h
  obtain ⟨captured, hcapture, hcaptured⟩ := hcarried.capture
  obtain ⟨played, hplayback, hplayed⟩ := hcarried.playback
  refine ⟨⟨captured, hcaptured, hcapture.stands.fits⟩, hcarried.blocks, hdelayed.fed,
    hdelayed.decoded, hdelayed.stored, ⟨played, hplayed, hplayback.stands.fits⟩, ?_,
    hcarried.calls, hcounted⟩
  intro hfew
  have hnone : machine.record.packets.length - (delayPackets - 1) = 0 := by omega
  have hfed : machine.record.fed = [] := by
    rw [← List.map_eq_nil_iff, hdelayed.fed, hnone]
    rfl
  have hstored : machine.record.stored = [] := by
    have hdecoded := hdelayed.decoded
    rw [Record.decoded, hfed, List.filterMap_nil] at hdecoded
    exact List.map_eq_nil_iff.mp (List.append_eq_nil_iff.mp hdecoded.symm).1
  rw [Record.played, hstored, List.flatMap_nil] at hplayed
  exact (List.append_eq_nil_iff.mp hplayed.symm).1

/-- A block comes in, and the worker encodes it. -/
def oneBlock (encoded : CompressedFrame) : List Action :=
  [.start .opus {}, .poll, .callback ⟨960, some (Vector.replicate 960 5)⟩, .poll,
    .code (some encoded) none]

/-- One block has been encoded, and nothing else has been captured. -/
theorem opus_delay_start :
    ∃ (encoded : CompressedFrame) (machine : Machine),
      exec step {} (oneBlock encoded) = some machine ∧ machine.record.offered = 960 ∧
        machine.record.packets = [encoded] ∧
        (∃ waiting, machine.record.captured = machine.blocks.flatten ++ waiting) ∧
        Counted machine := by
  let encoded : CompressedFrame := ⟨[1], by decide⟩
  have hrun : (exec step {} (oneBlock encoded)).any (fun machine =>
      decide (machine.record.offered = 960 ∧ machine.record.packets = [encoded])) = true := by
    decide +kernel
  obtain ⟨machine, hmachine, htest⟩ := Exec.exec_any hrun
  obtain ⟨hoffered, hpackets⟩ := of_decide_eq_true htest
  have hdelay := opus_delay (by decide : ((oneBlock encoded).map Action.frames).sum < 2 ^ 64)
    hmachine
  exact ⟨encoded, machine, hmachine, hoffered, hpackets,
    hdelay.1.imp fun _ hwaiting => hwaiting.1, hdelay.2.2.2.2.2.2.2.2⟩

end Loopback

end Voice
