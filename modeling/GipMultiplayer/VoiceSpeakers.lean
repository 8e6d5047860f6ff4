import GipMultiplayer.Exec
import GipMultiplayer.Keyed
import GipMultiplayer.VoicePlayback

/-!
# The speaker map of the voice worker

The remote side of the worker with everything its calls write: the decoder of
each record, the counters of records and processor, and the session epoch the
worker has observed.  Each call is one step, so that another thread may change
the session between any two of them.

A decoder is named by the number of its set-up.  What is asked of a speaker's
decoders is written down per speaker (`trace`).

* `addRemoteFrame`, `mixOneFrame`, `cleanupSpeakers` — the calls;
* `plain` — the records without decoders and counters, on which the calls are
  those of the playback model (`plain_addRemoteFrame`, `plain_mixOneFrame`,
  `plain_cleanupSpeakers`);
* `addRemoteFrame_adds`, `step_effect` — the exits of an admission, and what a
  call does.
-/

namespace Voice

/-- The playout counters of a speaker, and of the processor.  They have 64 bits in
the source and are numbers here, as long as each is below `2 ^ 64`. -/
structure PlayoutCounters where
  decodedpackets : Nat := 0
  missingpackets : Nat := 0
  plcframes : Nat := 0
  decodeerrors : Nat := 0
  deriving DecidableEq, Repr

/-- A decode call is counted; `whole` says that it returned a whole frame. -/
def PlayoutCounters.count (whole : Bool) (counters : PlayoutCounters) :
    Option Decoding → PlayoutCounters
  | none => counters
  | some (.frame _) =>
      if whole then { counters with decodedpackets := counters.decodedpackets + 1 }
      else { counters with decodeerrors := counters.decodeerrors + 1 }
  | some .conceal =>
      let counters := { counters with missingpackets := counters.missingpackets + 1 }
      if whole then { counters with plcframes := counters.plcframes + 1 }
      else { counters with decodeerrors := counters.decodeerrors + 1 }

/-- One remote speaker with its decoder and counters. -/
structure SpeakerRecord extends Speaker where
  codec : Option Nat := none
  receivedpackets : Nat := 0
  counters : PlayoutCounters := {}
  deriving DecidableEq, Repr

/-- What becomes of the decoders of a speaker: one is set up or fails to be,
playback starts, a decode call. -/
inductive DecoderEvent
  | setup (ok : Bool)
  | start
  | decode (call : Decoding)
  deriving DecidableEq, Repr

/-- Where a frame passed to `addRemoteFrame` is counted. -/
inductive Admission
  | accepted
  | late
  | duplicate
  | decodeError
  deriving DecidableEq, Repr

/-! ## Admission of a frame -/

/-- The exits of `addRemoteFrame` once the record has been found, created or
reset. -/
def Speaker.admission (config : ProcessorConfig) (speaker : Speaker) (frame : RemoteFrame) :
    Admission :=
  if speaker.outOfRange frame.sequence then .late
  else if speaker.jitter.any (·.sequence == frame.sequence) then .duplicate
  else if config.jitterpackets ≤ speaker.jitter.length then
    match speaker.jitter[oldestIndex speaker.jitter]? with
    | some oldest =>
        if isTeamVoiceSequenceNewer frame.sequence oldest.sequence then .accepted else .late
    | none => .late
  else .accepted

/-- The frame is counted as reordered: it passes the range and duplicate tests
and is not newer than the highest sequence. -/
def Speaker.reorders (speaker : Speaker) (frame : RemoteFrame) : Bool :=
  ¬ speaker.outOfRange frame.sequence ∧
    ¬ speaker.jitter.any (·.sequence == frame.sequence) ∧
    speaker.hashighest ∧
    isTeamVoiceSequenceNewer frame.sequence speaker.highestsequence = false

/-- How a refused reset is counted: a duplicate of the highest sequence of the
same stream, or late. -/
def Speaker.refusal (speaker : Speaker) (frame : RemoteFrame) : Admission :=
  if frame.speakergeneration = speaker.speakergeneration ∧
      frame.streamgeneration = speaker.streamgeneration ∧
      frame.sequence = speaker.highestsequence then .duplicate
  else .late

/-- A record before its first reset. -/
def SpeakerRecord.create (id : UInt64) (now : Int) : SpeakerRecord :=
  { speakerid := id
    firstarrival := now
    lastactivity := now
    nextplayout := now }

/-- `resetSpeaker` with the decoder it sets up. -/
def SpeakerRecord.reset (setupOk : Bool) (codec : Nat) (record : SpeakerRecord)
    (frame : RemoteFrame) (now : Int) : Option SpeakerRecord :=
  (resetSpeaker setupOk record.toSpeaker frame now).map fun speaker =>
    { record with toSpeaker := speaker, codec := some codec }

/-- The record after the part of `addRemoteFrame` that follows its lookup. -/
def SpeakerRecord.addFrame (config : ProcessorConfig) (now : Int) (record : SpeakerRecord)
    (frame : RemoteFrame) : SpeakerRecord :=
  { record with
    toSpeaker := record.toSpeaker.addFrame config now frame
    receivedpackets := record.receivedpackets +
      if record.toSpeaker.admission config frame = .accepted then 1 else 0 }

/-- What `mixOneFrame` does with one record. -/
def SpeakerRecord.mix (config : ProcessorConfig) (now : Int) (whole : Bool)
    (record : SpeakerRecord) : SpeakerRecord :=
  { record with
    toSpeaker := (record.toSpeaker.mix config now).1
    counters := record.counters.count whole (record.toSpeaker.mix config now).2 }

/-- The start of playback, if there is one, and the decode call, if any. -/
def Speaker.mixEvents (config : ProcessorConfig) (now : Int) (speaker : Speaker) :
    List DecoderEvent :=
  (if speaker.playing = false ∧ (speaker.startPlayout config now).isSome then [.start] else []) ++
    ((speaker.mix config now).2.map .decode).toList

/-! ## The worker -/

/-- The records by speaker id. -/
abbrev SpeakerRecords := AList (fun _ : UInt64 => SpeakerRecord)

/-- The remote side of the worker.  `looping` says that the worker thread is in
its loop. -/
structure SpeakerWorker where
  looping : Bool := false
  enabled : Bool := true
  sessionepoch : Nat := 2
  observedsessionepoch : Nat := 0
  speakers : SpeakerRecords := ∅
  setups : Nat := 0
  latepackets : Nat := 0
  duplicatepackets : Nat := 0
  reorderedpackets : Nat := 0
  counters : PlayoutCounters := {}
  trace : UInt64 → List DecoderEvent := fun _ => []

namespace SpeakerWorker

/-- The processor's counter of an exit goes up; an accepted frame is counted in
its record. -/
def count (w : SpeakerWorker) : Admission → SpeakerWorker
  | .accepted => w
  | .late => { w with latepackets := w.latepackets + 1 }
  | .duplicate => { w with duplicatepackets := w.duplicatepackets + 1 }
  | .decodeError =>
      { w with counters := { w.counters with decodeerrors := w.counters.decodeerrors + 1 } }

/-- The events of one speaker are written down. -/
def log (w : SpeakerWorker) (id : UInt64) (events : List DecoderEvent) : SpeakerWorker :=
  { w with trace := fun other => if other = id then w.trace other ++ events else w.trace other }

/-- A decoder has been set up for a speaker, or has failed to be. -/
def attempt (w : SpeakerWorker) (id : UInt64) (setupOk : Bool) : SpeakerWorker :=
  { w.log id [.setup setupOk] with setups := w.setups + 1 }

/-- The frame is put to a record that plays its stream. -/
def putFrame (config : ProcessorConfig) (now : Int) (w : SpeakerWorker) (record : SpeakerRecord)
    (frame : RemoteFrame) : SpeakerWorker :=
  let counted := w.count (record.toSpeaker.admission config frame)
  { counted with
    speakers := w.speakers.insert frame.speakerid (record.addFrame config now frame)
    reorderedpackets :=
      w.reorderedpackets + if record.toSpeaker.reorders frame then 1 else 0 }

/-- The record is reset for the frame first. -/
def resetAndPut (config : ProcessorConfig) (now : Int) (setupOk : Bool) (w : SpeakerWorker)
    (record : SpeakerRecord) (frame : RemoteFrame) : SpeakerWorker :=
  match record.reset setupOk w.setups frame now with
  | none => (w.attempt frame.speakerid setupOk).count .decodeError
  | some record => (w.attempt frame.speakerid setupOk).putFrame config now record frame

/-- `addRemoteFrame`. -/
def addRemoteFrame (config : ProcessorConfig) (now : Int) (setupOk : Bool) (w : SpeakerWorker)
    (frame : RemoteFrame) : SpeakerWorker :=
  match w.speakers.lookup frame.speakerid with
  | none =>
      if config.maxspeakers ≤ w.speakers.keys.length then w.count .late
      else
        w.resetAndPut config now setupOk (.create frame.speakerid now) frame
  | some record =>
      if record.needsReset frame then
        if record.refusesReset frame then w.count (record.refusal frame)
        else w.resetAndPut config now setupOk record frame
      else w.putFrame config now record frame

/-- The test `processIncoming` makes on a frame of its batch. -/
def passes (w : SpeakerWorker) (frame : RemoteFrame) : Bool :=
  frame.sessionepoch = w.observedsessionepoch ∧ frame.sessionepoch = w.sessionepoch ∧ w.enabled

/-- `mixOneFrame`; `decode` is what the decoder of a speaker returns, `none` when
that is not a whole frame. -/
def mixOneFrame (config : ProcessorConfig) (now : Int) (decode : UInt64 → Option (List Int))
    (w : SpeakerWorker) : SpeakerWorker :=
  { w with
    speakers := Keyed.mapValues (fun id record => record.mix config now (decode id).isSome)
      w.speakers
    counters := w.speakers.entries.foldl (fun counters item =>
      counters.count (decode item.1).isSome (item.2.toSpeaker.mix config now).2) w.counters
    trace := fun id => w.trace id ++
      (w.speakers.lookup id).elim [] fun record => record.mixEvents config now }

/-- `cleanupSpeakers`. -/
def cleanupSpeakers (config : ProcessorConfig) (now : Int) (w : SpeakerWorker) :
    SpeakerWorker :=
  { w with
    speakers := Keyed.filterValues (fun record =>
      ¬ milliseconds config.speakertimeoutmilliseconds < now - record.lastactivity) w.speakers }

/-- `clearWorkerState`. -/
def clearWorkerState (w : SpeakerWorker) : SpeakerWorker := { w with speakers := ∅ }

/-- The worker notices a new session. -/
def observeSession (w : SpeakerWorker) : SpeakerWorker :=
  if w.sessionepoch % 2 = 0 ∧ w.sessionepoch ≠ w.observedsessionepoch then
    { w.clearWorkerState with observedsessionepoch := w.sessionepoch }
  else w

end SpeakerWorker

/-- A call of the worker, or of another thread. -/
inductive WorkerStep
  | workerLoop
  | stop
  | setSession
  | setEnabled (enabled : Bool)
  | observeSession
  | processIncoming (now : Int) (setupOk : Bool) (frame : RemoteFrame)
  | mixOneFrame (now : Int) (decode : UInt64 → Option (List Int))
  | cleanupSpeakers (now : Int)

namespace SpeakerWorker

/-- One call.  `processIncoming` handles one frame of its batch; the calls of
the worker thread need the thread in its loop. -/
def step (config : ProcessorConfig) (w : SpeakerWorker) : WorkerStep → Option SpeakerWorker
  | .workerLoop =>
      if w.looping then none
      else some { w with looping := true, observedsessionepoch := w.sessionepoch }
  | .stop => some { w.clearWorkerState with looping := false }
  | .setSession => some { w with sessionepoch := w.sessionepoch + 1 + 1 }
  | .setEnabled enabled =>
      if w.enabled = enabled then some w
      else some { w with enabled := enabled, sessionepoch := w.sessionepoch + 1 + 1 }
  | .observeSession => if w.looping then some w.observeSession else none
  | .processIncoming now setupOk frame =>
      if w.looping then
        some (if w.passes frame then w.addRemoteFrame config now setupOk frame else w)
      else none
  | .mixOneFrame now decode =>
      if w.looping then some (w.mixOneFrame config now decode) else none
  | .cleanupSpeakers now =>
      if w.looping then some (w.cleanupSpeakers config now) else none

/-! ## What an admission leaves -/

@[simp] theorem count_speakers (w : SpeakerWorker) (admission : Admission) :
    (w.count admission).speakers = w.speakers := by
  cases admission <;> rfl

@[simp] theorem count_looping (w : SpeakerWorker) (admission : Admission) :
    (w.count admission).looping = w.looping := by
  cases admission <;> rfl

@[simp] theorem count_observedsessionepoch (w : SpeakerWorker) (admission : Admission) :
    (w.count admission).observedsessionepoch = w.observedsessionepoch := by
  cases admission <;> rfl

@[simp] theorem count_sessionepoch (w : SpeakerWorker) (admission : Admission) :
    (w.count admission).sessionepoch = w.sessionepoch := by
  cases admission <;> rfl

@[simp] theorem count_enabled (w : SpeakerWorker) (admission : Admission) :
    (w.count admission).enabled = w.enabled := by
  cases admission <;> rfl

@[simp] theorem count_trace (w : SpeakerWorker) (admission : Admission) :
    (w.count admission).trace = w.trace := by
  cases admission <;> rfl

@[simp] theorem putFrame_trace (config : ProcessorConfig) (now : Int) (w : SpeakerWorker)
    (record : SpeakerRecord) (frame : RemoteFrame) :
    (w.putFrame config now record frame).trace = w.trace :=
  count_trace w _

theorem attempt_trace_self (w : SpeakerWorker) (id : UInt64) (setupOk : Bool) :
    (w.attempt id setupOk).trace id = w.trace id ++ [.setup setupOk] :=
  if_pos rfl

theorem attempt_trace_ne (w : SpeakerWorker) {id other : UInt64} (setupOk : Bool)
    (h : other ≠ id) : (w.attempt id setupOk).trace other = w.trace other :=
  if_neg h

/-- The exits of `addRemoteFrame`: the frame is refused before the record is
touched, a decoder cannot be set up, the frame is put to the record as it is,
or to a record with a new decoder, found or created. -/
inductive Adds (config : ProcessorConfig) (now : Int) (setupOk : Bool) (w : SpeakerWorker)
    (frame : RemoteFrame) : SpeakerWorker → Prop
  | refused (admission : Admission) (hcounted : admission = .late ∨ admission = .duplicate) :
      Adds config now setupOk w frame (w.count admission)
  | setupFailed (hsetup : setupOk = false) :
      Adds config now setupOk w frame ((w.attempt frame.speakerid setupOk).count .decodeError)
  | current (record : SpeakerRecord) (hlookup : w.speakers.lookup frame.speakerid = some record)
      (hsame : record.needsReset frame = false) :
      Adds config now setupOk w frame (w.putFrame config now record frame)
  | created (record : SpeakerRecord) (hlookup : w.speakers.lookup frame.speakerid = none)
      (hroom : w.speakers.keys.length < config.maxspeakers) (hsetup : setupOk = true)
      (hreset : (SpeakerRecord.create frame.speakerid now).reset true w.setups frame now =
        some record) :
      Adds config now setupOk w frame
        ((w.attempt frame.speakerid true).putFrame config now record frame)
  | reset (old record : SpeakerRecord)
      (hlookup : w.speakers.lookup frame.speakerid = some old)
      (haccepted : old.refusesReset frame = false) (hsetup : setupOk = true)
      (hreset : old.reset true w.setups frame now = some record) :
      Adds config now setupOk w frame
        ((w.attempt frame.speakerid true).putFrame config now record frame)

theorem refusal_cases (speaker : Speaker) (frame : RemoteFrame) :
    speaker.refusal frame = .late ∨ speaker.refusal frame = .duplicate := by
  unfold Speaker.refusal
  split_ifs
  · exact .inr rfl
  · exact .inl rfl

/-- A reset fails exactly when the decoder cannot be set up. -/
theorem reset_eq_none {setupOk : Bool} {codec : Nat} {record : SpeakerRecord}
    {frame : RemoteFrame} {now : Int} :
    record.reset setupOk codec frame now = none ↔ setupOk = false := by
  cases setupOk <;> simp [SpeakerRecord.reset, resetSpeaker]

/-- **The exits of `addRemoteFrame`.** -/
theorem addRemoteFrame_adds (config : ProcessorConfig) (now : Int) (setupOk : Bool)
    (w : SpeakerWorker) (frame : RemoteFrame) :
    Adds config now setupOk w frame (w.addRemoteFrame config now setupOk frame) := by
  unfold addRemoteFrame
  cases hlookup : w.speakers.lookup frame.speakerid with
  | none =>
      dsimp only
      split_ifs with hfull
      · exact .refused .late (.inl rfl)
      · unfold resetAndPut
        cases hreset : (SpeakerRecord.create frame.speakerid now).reset setupOk w.setups frame
            now with
        | none => exact .setupFailed (reset_eq_none.mp hreset)
        | some record =>
            cases setupOk with
            | false => exact absurd hreset (by rw [reset_eq_none.mpr rfl]; simp)
            | true => exact .created record hlookup (Nat.lt_of_not_le hfull) rfl hreset
  | some old =>
      dsimp only
      split_ifs with hneeds hrefuses
      · exact .refused _ (refusal_cases _ _)
      · unfold resetAndPut
        cases hreset : old.reset setupOk w.setups frame now with
        | none => exact .setupFailed (reset_eq_none.mp hreset)
        | some record =>
            cases setupOk with
            | false => exact absurd hreset (by rw [reset_eq_none.mpr rfl]; simp)
            | true =>
                exact .reset old record hlookup (Bool.not_eq_true _ ▸ hrefuses) rfl hreset
      · exact .current old hlookup (Bool.not_eq_true _ ▸ hneeds)

/-! ## What a call does -/

/-- The frame the call passes to `addRemoteFrame`. -/
def passed (w : SpeakerWorker) : WorkerStep → Option RemoteFrame
  | .processIncoming _ _ frame => if w.passes frame then some frame else none
  | _ => none

/-- Nothing has been counted, set up or decoded. -/
structure SameCounts (s t : SpeakerWorker) : Prop where
  latepackets : t.latepackets = s.latepackets
  duplicatepackets : t.duplicatepackets = s.duplicatepackets
  counters : t.counters = s.counters
  trace : t.trace = s.trace

/-- What a call does to the speaker map: the worker enters its loop, the map is
cleared or stays, a frame is admitted, a frame is mixed, silent speakers go. -/
inductive Effect (config : ProcessorConfig) (s : SpeakerWorker) : WorkerStep → SpeakerWorker → Prop
  | entered (hidle : s.looping = false) :
      Effect config s .workerLoop { s with looping := true, observedsessionepoch := s.sessionepoch }
  | cleared {a : WorkerStep} {t : SpeakerWorker} (hnone : s.passed a = none)
      (hspeakers : t.speakers = ∅) (hcounts : SameCounts s t) : Effect config s a t
  | unmoved {a : WorkerStep} {t : SpeakerWorker} (hnone : s.passed a = none)
      (hspeakers : t.speakers = s.speakers) (hlooping : t.looping = s.looping)
      (hobserved : t.observedsessionepoch = s.observedsessionepoch)
      (hcounts : SameCounts s t) : Effect config s a t
  | admitted (now : Int) (setupOk : Bool) (frame : RemoteFrame) (hlooping : s.looping = true)
      (hpasses : s.passes frame = true) :
      Effect config s (.processIncoming now setupOk frame)
        (s.addRemoteFrame config now setupOk frame)
  | mixed (now : Int) (decode : UInt64 → Option (List Int)) (hlooping : s.looping = true) :
      Effect config s (.mixOneFrame now decode) (s.mixOneFrame config now decode)
  | cleaned (now : Int) (hlooping : s.looping = true) :
      Effect config s (.cleanupSpeakers now) (s.cleanupSpeakers config now)

/-- **What a call does.** -/
theorem step_effect {config : ProcessorConfig} {s t : SpeakerWorker} {a : WorkerStep}
    (h : step config s a = some t) : Effect config s a t := by
  cases a with
  | workerLoop =>
      simp only [step] at h
      split_ifs at h with hlooping
      obtain rfl := Option.some.inj h
      exact .entered (Bool.not_eq_true _ ▸ hlooping)
  | stop =>
      obtain rfl := Option.some.inj h
      exact .cleared rfl rfl ⟨rfl, rfl, rfl, rfl⟩
  | setSession =>
      obtain rfl := Option.some.inj h
      exact .unmoved rfl rfl rfl rfl ⟨rfl, rfl, rfl, rfl⟩
  | setEnabled enabled =>
      simp only [step] at h
      split_ifs at h <;> obtain rfl := Option.some.inj h <;>
        exact .unmoved rfl rfl rfl rfl ⟨rfl, rfl, rfl, rfl⟩
  | observeSession =>
      simp only [step] at h
      split_ifs at h
      obtain rfl := Option.some.inj h
      unfold observeSession
      split_ifs
      · exact .cleared rfl rfl ⟨rfl, rfl, rfl, rfl⟩
      · exact .unmoved rfl rfl rfl rfl ⟨rfl, rfl, rfl, rfl⟩
  | processIncoming now setupOk frame =>
      simp only [step] at h
      split_ifs at h with hlooping hpasses <;> obtain rfl := Option.some.inj h
      · exact .admitted now setupOk frame hlooping hpasses
      · exact .unmoved (by rw [passed, if_neg hpasses]) rfl rfl rfl ⟨rfl, rfl, rfl, rfl⟩
  | mixOneFrame now decode =>
      simp only [step] at h
      split_ifs at h with hlooping
      obtain rfl := Option.some.inj h
      exact .mixed now decode hlooping
  | cleanupSpeakers now =>
      simp only [step] at h
      split_ifs at h with hlooping
      obtain rfl := Option.some.inj h
      exact .cleaned now hlooping

theorem lookup_mixOneFrame (config : ProcessorConfig) (now : Int)
    (decode : UInt64 → Option (List Int)) (w : SpeakerWorker) (id : UInt64) :
    (w.mixOneFrame config now decode).speakers.lookup id =
      (w.speakers.lookup id).map (·.mix config now (decode id).isSome) :=
  Keyed.lookup_mapValues _ _ id

theorem lookup_cleanupSpeakers {config : ProcessorConfig} {w : SpeakerWorker} {now : Int}
    {id : UInt64} {record : SpeakerRecord}
    (h : (w.cleanupSpeakers config now).speakers.lookup id = some record) :
    w.speakers.lookup id = some record := by
  have hfilter := Keyed.lookup_filterValues (fun record : SpeakerRecord =>
    ¬ milliseconds config.speakertimeoutmilliseconds < now - record.lastactivity) w.speakers id
  exact (Option.filter_eq_some_iff.mp (hfilter.symm.trans h)).1

/-! ## The records of the playback model -/

/-- The records without decoders and counters. -/
def plain (w : SpeakerWorker) : Speakers :=
  Keyed.mapValues (fun _ record => record.toSpeaker) w.speakers

theorem lookup_plain (w : SpeakerWorker) (id : UInt64) :
    w.plain.lookup id = (w.speakers.lookup id).map (·.toSpeaker) :=
  Keyed.lookup_mapValues _ _ id

theorem keys_plain (w : SpeakerWorker) : w.plain.keys = w.speakers.keys :=
  Keyed.keys_mapValues _ _

@[simp] theorem plain_count (w : SpeakerWorker) (admission : Admission) :
    (w.count admission).plain = w.plain := by
  rw [plain, count_speakers, plain]

theorem plain_putFrame (config : ProcessorConfig) (now : Int) (w : SpeakerWorker)
    (record : SpeakerRecord) (frame : RemoteFrame) :
    (w.putFrame config now record frame).plain =
      w.plain.insert frame.speakerid (record.toSpeaker.addFrame config now frame) :=
  Keyed.mapValues_insert _ _ _ _

theorem plain_resetAndPut (config : ProcessorConfig) (now : Int) (setupOk : Bool)
    (w : SpeakerWorker) (record : SpeakerRecord) (frame : RemoteFrame) :
    (w.resetAndPut config now setupOk record frame).plain =
      match resetSpeaker setupOk record.toSpeaker frame now with
      | none => w.plain
      | some speaker =>
          w.plain.insert frame.speakerid (speaker.addFrame config now frame) := by
  unfold resetAndPut SpeakerRecord.reset
  cases resetSpeaker setupOk record.toSpeaker frame now with
  | none => exact plain_count _ _
  | some speaker => exact plain_putFrame _ _ _ _ _

/-- **Admission is that of the playback model.** -/
theorem plain_addRemoteFrame (config : ProcessorConfig) (now : Int) (setupOk : Bool)
    (w : SpeakerWorker) (frame : RemoteFrame) :
    (w.addRemoteFrame config now setupOk frame).plain =
      Voice.addRemoteFrame config now setupOk w.plain frame := by
  unfold addRemoteFrame Voice.addRemoteFrame
  rw [lookup_plain, keys_plain]
  cases w.speakers.lookup frame.speakerid with
  | none =>
      dsimp only [Option.map_none]
      split_ifs
      · exact plain_count _ _
      · exact plain_resetAndPut _ _ _ _ _ _
  | some record =>
      dsimp only [Option.map_some]
      split_ifs
      · exact plain_count _ _
      · exact plain_resetAndPut _ _ _ _ _ _
      · exact plain_putFrame _ _ _ _ _

/-- **Playout is that of the playback model.** -/
theorem plain_mixOneFrame (config : ProcessorConfig) (now : Int)
    (decode : UInt64 → Option (List Int)) (w : SpeakerWorker) :
    (w.mixOneFrame config now decode).plain =
      mapSpeakers (fun speaker => (speaker.mix config now).1) w.plain := by
  refine AList.ext ?_
  simp only [plain, mixOneFrame, mapSpeakers, Keyed.mapValues, List.map_map]
  rfl

/-- **Cleanup is that of the playback model.** -/
theorem plain_cleanupSpeakers (config : ProcessorConfig) (now : Int) (w : SpeakerWorker) :
    (w.cleanupSpeakers config now).plain = Voice.cleanupSpeakers config now w.plain := by
  have hfilter := Keyed.mapValues_filterValues (f := fun _ record => record.toSpeaker)
    (p := fun record : SpeakerRecord =>
      ¬ milliseconds config.speakertimeoutmilliseconds < now - record.lastactivity)
    (q := fun speaker : Speaker =>
      ¬ milliseconds config.speakertimeoutmilliseconds < now - speaker.lastactivity)
    (fun _ _ => rfl) w.speakers
  exact hfilter

end SpeakerWorker

end Voice
