import GipMultiplayer.DelayLine
import GipMultiplayer.SampleRings

/-!
# The raw microphone loopback

`gVoiceLoopback` plays the microphone back two seconds late.  In its raw mode
the audio callback keeps the delay itself: a circular buffer that it reads and
overwrites, and a counter that keeps the output silent until the buffer is full
of samples.  The counter has 64 bits and comes round.

* `State`, `start`, `stop`, `dataCallback` — the loopback as its callback sees it;
* `processFrames_eq` — the buffer is a delay line, behind the counter;
* `run_raw` — how the stream is cut into callbacks does not matter;
* `heard_eq_delayed` — the law up to the round of the counter;
* `raw_delay` — the law.
-/

namespace Voice

namespace Loopback

open DelayLine (Line Keeps)

/-- `DELAY_FRAMES`: two seconds of samples. -/
def delayFrames : Nat := 96000

/-- `WORKER_RING_FRAMES`. -/
def workerRingFrames : UInt64 := 48000

inductive Mode
  | rawPcm
  | opus
deriving DecidableEq

/-- The delay of the raw mode. -/
structure Raw where
  rawbuffer : Vector Int16 delayFrames := Vector.replicate delayFrames 0
  rawposition : Fin delayFrames := ⟨0, by decide⟩
  rawframes : UInt64 := 0

/-- What the audio callback reads and writes, and what `start` reports. -/
structure State extends Raw where
  mode : Mode := .rawPcm
  running : Bool := false
  deviceinitialized : Bool := false
  capturering : RingBuffer Int16 := AudioRingBuffer.create workerRingFrames
  playbackring : RingBuffer Int16 := AudioRingBuffer.create workerRingFrames
  playbackready : Bool := false
  pcmbytes : UInt64 := 0
  captureoverruns : UInt64 := 0
  playbackunderruns : UInt64 := 0
  lasterror : String := ""

/-- One call of the device: null input is `none`. -/
structure Callback where
  framecount : UInt32
  input : Option (Vector Int16 framecount.toNat)

/-- The samples of a call; null counts as zeros. -/
def Callback.samples (callback : Callback) : List Int16 :=
  match callback.input with
  | some input => input.toList
  | none => List.replicate callback.framecount.toNat 0

/-! ## The callback -/

/-- The loop of `processRaw`; a frame that is not put out stays at the zero that
the callback has filled the output with. -/
def processFrames (raw : Raw) : List Int16 → Raw × List Int16
  | [] => (raw, [])
  | sample :: input =>
      let delayed := raw.rawbuffer[raw.rawposition]
      let output := if UInt64.ofNat delayFrames ≤ raw.rawframes then delayed else 0
      let rest := processFrames
        { rawbuffer := raw.rawbuffer.set raw.rawposition sample
          rawposition := DelayLine.next raw.rawposition
          rawframes := raw.rawframes + 1 } input
      (rest.1, output :: rest.2)

/-- `processRaw`. -/
def processRaw (state : State) (callback : Callback) : State × List Int16 :=
  let processed := processFrames state.toRaw callback.samples
  ({ state with
      toRaw := processed.1
      pcmbytes := state.pcmbytes + callback.framecount.toUInt64 * 2 }, processed.2)

/-- `processOpusCallback`. -/
def processOpusCallback (state : State) (callback : Callback) : State × List Int16 :=
  let framecount := callback.framecount.toUInt64
  let captured : State := match callback.input with
    | none => state
    | some input =>
        let (capturering, written) := AudioRingBuffer.write state.capturering input.toList
        { state with
          capturering := capturering
          captureoverruns :=
            if written < framecount then state.captureoverruns + (framecount - written)
            else state.captureoverruns }
  let (playbackring, output) := AudioRingBuffer.read captured.playbackring framecount
  let read := UInt64.ofNat output.length
  ({ captured with
      playbackring := playbackring
      playbackunderruns :=
        if captured.playbackready = true ∧ read < framecount then
          captured.playbackunderruns + (framecount - read)
        else captured.playbackunderruns },
    output ++ List.replicate (callback.framecount.toNat - output.length) 0)

/-- `dataCallback`. -/
def dataCallback (state : State) (callback : Callback) : State × List Int16 :=
  if state.running = false then (state, List.replicate callback.framecount.toNat 0)
  else match state.mode with
    | .rawPcm => processRaw state callback
    | .opus => processOpusCallback state callback

/-- Callbacks in a row, and all that they put out. -/
def run (state : State) : List Callback → State × List Int16
  | [] => (state, [])
  | callback :: callbacks =>
      let (called, output) := dataCallback state callback
      ((run called callbacks).1, output ++ (run called callbacks).2)

/-! ## Starting -/

/-- What the codec and the devices answer to `start`. -/
structure Devices where
  codecError : Option String := none
  context : Bool := true
  initError : Option String := none
  startError : Option String := none

/-- `stop`. -/
def stop (state : State) : State := { state with running := false, deviceinitialized := false }

/-- `resetBuffers`. -/
def resetBuffers (state : State) : State :=
  { state with
    rawbuffer := Vector.replicate delayFrames 0
    rawposition := ⟨0, by decide⟩
    rawframes := 0
    capturering := AudioRingBuffer.reset state.capturering
    playbackring := AudioRingBuffer.reset state.playbackring
    playbackready := false }

/-- `resetStats`. -/
def resetStats (state : State) : State :=
  { state with pcmbytes := 0, captureoverruns := 0, playbackunderruns := 0 }

/-- `start`, and whether it succeeded. -/
def start (state : State) (newmode : Mode) (devices : Devices) : State × Bool :=
  let reset := resetStats (resetBuffers { stop state with lasterror := "", mode := newmode })
  match newmode, devices.codecError with
  | .opus, some error => ({ reset with lasterror := error }, false)
  | _, _ =>
      if devices.context = false then
        ({ reset with lasterror := "Could not access the GlistEngine audio context" }, false)
      else match devices.initError with
        | some error => ({ reset with lasterror := error }, false)
        | none =>
            let opened := { reset with deviceinitialized := true, running := true }
            match devices.startError with
            | some error => (stop { opened with lasterror := error }, false)
            | none => (opened, true)

/-! ## The delay line behind the counter -/

/-- The buffer and its position. -/
def Raw.line (raw : Raw) : Line Int16 delayFrames := ⟨raw.rawbuffer, raw.rawposition⟩

/-- **The loop is a delay line behind the counter**: what comes out of the line
is put out when the counter has reached the delay. -/
theorem processFrames_eq (raw : Raw) (samples : List Int16) :
    processFrames raw samples =
      ({ rawbuffer := (raw.line.through samples).1.memory
         rawposition := (raw.line.through samples).1.slot
         rawframes := raw.rawframes + UInt64.ofNat samples.length },
       (raw.line.through samples).2.mapIdx fun i delayed =>
         if UInt64.ofNat delayFrames ≤ raw.rawframes + UInt64.ofNat i then delayed else 0) := by
  induction samples generalizing raw with
  | nil => simp [processFrames, Raw.line, Line.through]
  | cons sample samples ih =>
      have hcount : ∀ i, raw.rawframes + 1 + UInt64.ofNat i = raw.rawframes + UInt64.ofNat (i + 1) := by
        intro i
        rw [UInt64.ofNat_add, UInt64.add_assoc, UInt64.add_comm 1]
        rfl
      simp only [processFrames, ih, List.length_cons, hcount, Line.through, List.mapIdx_cons]
      refine Prod.ext rfl ?_
      show _ :: _ = _ :: _
      congr 1
      simp [Raw.line, Line.oldest]

theorem processFrames_append (raw : Raw) (xs ys : List Int16) :
    processFrames raw (xs ++ ys) =
      ((processFrames (processFrames raw xs).1 ys).1,
        (processFrames raw xs).2 ++ (processFrames (processFrames raw xs).1 ys).2) := by
  induction xs generalizing raw with
  | nil => rfl
  | cons x xs ih => simp only [List.cons_append, processFrames, ih]

/-! ## Calls in a row -/

/-- The samples of calls in a row. -/
def stream (callbacks : List Callback) : List Int16 := callbacks.flatMap Callback.samples

theorem stream_cons (callback : Callback) (callbacks : List Callback) :
    stream (callback :: callbacks) = callback.samples ++ stream callbacks :=
  List.flatMap_cons

variable {state : State}

/-- **How the stream is cut does not matter**: calls in a row are one loop over
all of the stream. -/
theorem run_raw (hrunning : state.running = true) (hmode : state.mode = .rawPcm)
    (callbacks : List Callback) :
    (run state callbacks).1.toRaw = (processFrames state.toRaw (stream callbacks)).1 ∧
      (run state callbacks).2 = (processFrames state.toRaw (stream callbacks)).2 := by
  induction callbacks generalizing state with
  | nil => exact ⟨rfl, rfl⟩
  | cons callback callbacks ih =>
      have hcall : dataCallback state callback = processRaw state callback := by
        unfold dataCallback
        rw [if_neg (by rw [hrunning]; decide), hmode]
      obtain ⟨hraw, houtput⟩ := @ih (processRaw state callback).1 hrunning hmode
      rw [stream_cons, processFrames_append]
      simp only [run, hcall]
      exact ⟨hraw, congrArg _ houtput⟩

/-! ## The law -/

/-- The frame `k` after a start, when `stream` has been put in. -/
def heard (stream : List Int16) (k : Nat) : Int16 :=
  if k % 2 ^ 64 < delayFrames then 0 else stream.getD (k - delayFrames) 0

/-- The stream, two seconds late. -/
def delayed (stream : List Int16) : List Int16 :=
  (List.replicate delayFrames 0 ++ stream).take stream.length

theorem getElem?_delayed {stream : List Int16} {k : Nat} (hk : k < stream.length) :
    (delayed stream)[k]? =
      some (if k < delayFrames then 0 else stream.getD (k - delayFrames) 0) := by
  unfold delayed
  rw [List.getElem?_take_of_lt hk]
  split_ifs with hsilent
  · rw [List.getElem?_append_left (by rw [List.length_replicate]; exact hsilent),
      List.getElem?_replicate_of_lt hsilent]
  · rw [List.getElem?_append_right (by rw [List.length_replicate]; omega),
      List.length_replicate, List.getD_eq_getElem?_getD, List.getElem?_eq_getElem (by omega)]
    rfl

/-- **What the loop puts out after a start**, frame by frame. -/
theorem processFrames_start (stream : List Int16) :
    (processFrames {} stream).2 = (List.range stream.length).map (heard stream) := by
  have hline : (({} : Raw).line.through stream).2 = delayed stream :=
    ((DelayLine.keeps_replicate 0 _).through stream).1
  have hlength : (delayed stream).length = stream.length := by
    rw [delayed, List.length_take, List.length_append]
    omega
  rw [processFrames_eq, hline]
  apply List.ext_getElem?
  intro k
  rcases Nat.lt_or_ge k stream.length with hk | hk
  · have hcount : UInt64.ofNat delayFrames ≤ ({} : Raw).rawframes + UInt64.ofNat k ↔
        ¬ k % 2 ^ 64 < delayFrames := by
      have hzero : ({} : Raw).rawframes + UInt64.ofNat k = UInt64.ofNat k := UInt64.zero_add _
      have hdelay : (UInt64.ofNat delayFrames).toNat = delayFrames := by decide
      rw [hzero, UInt64.le_iff_toNat_le, hdelay, UInt64.toNat_ofNat', Nat.not_lt]
    rw [List.getElem?_mapIdx, getElem?_delayed hk, List.getElem?_map, List.getElem?_range hk]
    simp only [Option.map_some, hcount, heard]
    split_ifs with hsilent hearly
    · rfl
    · -- The counter is never ahead of the frames.
      have hround := Nat.mod_le k (2 ^ 64)
      omega
    · rfl
  · rw [List.getElem?_eq_none (by rw [List.length_mapIdx, hlength]; exact hk),
      List.getElem?_eq_none (by rw [List.length_map, List.length_range]; exact hk)]

/-- Up to the round of the counter the stream is delayed. -/
theorem heard_eq_delayed {stream : List Int16} (h : stream.length ≤ 2 ^ 64) :
    (List.range stream.length).map (heard stream) = delayed stream := by
  apply List.ext_getElem?
  intro k
  rcases Nat.lt_or_ge k stream.length with hk | hk
  · rw [getElem?_delayed hk, List.getElem?_map, List.getElem?_range hk, Option.map_some, heard,
      Nat.mod_eq_of_lt (by omega)]
  · rw [List.getElem?_eq_none (by rw [List.length_map, List.length_range]; exact hk),
      List.getElem?_eq_none (by rw [delayed, List.length_take]; omega)]

/-- What a start that succeeds leaves. -/
theorem start_raw {devices : Devices} (h : (start state .rawPcm devices).2 = true) :
    (start state .rawPcm devices).1.toRaw = {} ∧
      (start state .rawPcm devices).1.running = true ∧
      (start state .rawPcm devices).1.mode = .rawPcm := by
  obtain ⟨codecError, context, initError, startError⟩ := devices
  cases context with
  | false => cases h
  | true =>
      cases initError with
      | some error => cases h
      | none =>
          cases startError with
          | some error => cases h
          | none => exact ⟨rfl, rfl, rfl⟩

/-- **The raw loopback is a delay line**, for as long as its counter has not come
round; after that it is silent for the delay whenever the counter starts over. -/
theorem raw_delay (state : State) (devices : Devices)
    (hstart : (start state .rawPcm devices).2 = true) (callbacks : List Callback) :
    (run (start state .rawPcm devices).1 callbacks).2 =
        (List.range (stream callbacks).length).map (heard (stream callbacks)) ∧
      ((stream callbacks).length ≤ 2 ^ 64 →
        (run (start state .rawPcm devices).1 callbacks).2 = delayed (stream callbacks)) ∧
      ∀ cut, stream cut = stream callbacks →
        (run (start state .rawPcm devices).1 cut).2 =
          (run (start state .rawPcm devices).1 callbacks).2 := by
  obtain ⟨hfresh, hrunning, hmode⟩ := start_raw hstart
  have houtput : ∀ calls, (run (start state .rawPcm devices).1 calls).2 =
      (List.range (stream calls).length).map (heard (stream calls)) := by
    intro calls
    rw [(run_raw hrunning hmode calls).2, hfresh, processFrames_start]
  refine ⟨houtput callbacks, ?_, ?_⟩
  · intro hlength
    rw [houtput, heard_eq_delayed hlength]
  · intro cut hcut
    rw [houtput, houtput, hcut]

/-- One frame in each call. -/
def frameOfOne : Callback := ⟨1, some #v[1]⟩

theorem stream_replicate (n : Nat) :
    stream (List.replicate n frameOfOne) = List.replicate n 1 := by
  induction n with
  | zero => rfl
  | succ n ih =>
      rw [List.replicate_succ, stream_cons, ih]
      rfl

/-- Two seconds of silence, and then the first two frames. -/
theorem raw_delay_start :
    (run (start {} .rawPcm {}).1 (List.replicate (delayFrames + 2) frameOfOne)).2 =
      List.replicate delayFrames 0 ++ [1, 1] := by
  have hshort : (stream (List.replicate (delayFrames + 2) frameOfOne)).length ≤ 2 ^ 64 := by
    rw [stream_replicate, List.length_replicate]
    decide
  rw [(raw_delay {} {} rfl _).2.1 hshort, stream_replicate, delayed, List.length_replicate,
    List.take_append, List.length_replicate, List.take_replicate, List.take_replicate,
    Nat.min_eq_right (Nat.le_add_right _ _), Nat.add_sub_cancel_left,
    Nat.min_eq_left (Nat.le_add_left _ _)]
  rfl

/-- The first frame of the second round is silent, and the stream was not. -/
theorem heard_ne_delayed {stream : List Int16} (hlong : 2 ^ 64 < stream.length)
    (hloud : stream.getD (2 ^ 64 - delayFrames) 0 ≠ 0) :
    (List.range stream.length).map (heard stream) ≠ delayed stream := by
  intro heq
  have hframe : heard stream (2 ^ 64) = stream.getD (2 ^ 64 - delayFrames) 0 := by
    have hget := congrArg (fun output => output[2 ^ 64]?) heq
    simp only [getElem?_delayed hlong, List.getElem?_map, List.getElem?_range hlong,
      Option.map_some, Option.some.injEq] at hget
    rw [hget, if_neg (by decide)]
  have hsilent : heard stream (2 ^ 64) = 0 := if_pos (by decide)
  exact hloud (hframe.symm.trans hsilent)

/-- After the counter has come round the output is silent. -/
theorem raw_silent_again :
    ¬ ∀ (state : State) (devices : Devices) (callbacks : List Callback),
      (start state .rawPcm devices).2 = true →
      (run (start state .rawPcm devices).1 callbacks).2 = delayed (stream callbacks) := by
  intro hall
  have hone := hall {} {} (List.replicate (2 ^ 64 + 1) frameOfOne) rfl
  obtain ⟨hfresh, hrunning, hmode⟩ := @start_raw {} {} rfl
  rw [(run_raw hrunning hmode _).2, hfresh, processFrames_start, stream_replicate] at hone
  refine heard_ne_delayed ?_ ?_ hone
  · rw [List.length_replicate]
    exact Nat.lt_succ_self _
  · rw [List.getD_eq_getElem?_getD,
      List.getElem?_replicate_of_lt (Nat.lt_succ_of_le (Nat.sub_le _ _))]
    decide

end Loopback

end Voice
