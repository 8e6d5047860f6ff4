import GipMultiplayer.VoicePlaybackOrder
import GipMultiplayer.VoiceSpeakers

/-!
# The jitter buffers

What a stream of frames can do to the speaker map, whatever ids, generations,
flags and sequences the frames carry: the map and each queue stay bounded, a
queue holds one stream of the observed session without repetition, a record
moves to newer streams only, and every frame is counted once.

* `Speaker.Queued` — the invariant of one queue, kept by `addFrame` and `mix`;
* `Inv` — the invariant of the map, kept by every call (`Inv.step`);
* `counted` — the four counters of an admission, and `counted_addRemoteFrame`,
  that one of them goes up by one;
* `jitter_invariant` — the law.
-/

namespace Voice

/-! ## One queue -/

/-- The queue is bounded and holds distinct sequences, all of the stream the
speaker plays and of the session. -/
structure Speaker.Queued (config : ProcessorConfig) (sessionepoch : Nat) (id : UInt64)
    (speaker : Speaker) : Prop where
  room : speaker.jitter.length ≤ config.jitterpackets
  distinct : (speaker.jitter.map (·.sequence)).Nodup
  own : ∀ f ∈ speaker.jitter, speaker.Plays id f ∧ f.sessionepoch = sessionepoch

namespace Speaker

variable {config : ProcessorConfig} {sessionepoch : Nat} {id : UInt64} {speaker : Speaker}

theorem enqueue_eq (config : ProcessorConfig) (now : Int) (speaker : Speaker)
    (frame : RemoteFrame) :
    ∃ jitter lastactivity, speaker.enqueue config now frame =
      { speaker with jitter := jitter, lastactivity := lastactivity } := by
  unfold enqueue
  split_ifs
  · split
    · split_ifs
      · exact ⟨_, _, rfl⟩
      · exact ⟨speaker.jitter, speaker.lastactivity, rfl⟩
    · exact ⟨speaker.jitter, speaker.lastactivity, rfl⟩
  · exact ⟨_, _, rfl⟩

/-- What a frame changes in the record it is put to. -/
theorem addFrame_eq (config : ProcessorConfig) (now : Int) (speaker : Speaker)
    (frame : RemoteFrame) :
    ∃ jitter lastactivity highest hashighest, speaker.addFrame config now frame =
      { speaker with
        jitter := jitter
        lastactivity := lastactivity
        highestsequence := highest
        hashighest := hashighest } := by
  have hunchanged : ∃ jitter lastactivity highest hashighest, speaker =
      { speaker with
        jitter := jitter
        lastactivity := lastactivity
        highestsequence := highest
        hashighest := hashighest } :=
    ⟨speaker.jitter, speaker.lastactivity, speaker.highestsequence, speaker.hashighest, rfl⟩
  unfold addFrame
  split_ifs
  · exact hunchanged
  · exact hunchanged
  · obtain ⟨highest, hashighest, hraised⟩ := raiseHighest_eq speaker frame.sequence
    obtain ⟨jitter, lastactivity, hqueued⟩ :=
      enqueue_eq config now (speaker.raiseHighest frame.sequence) frame
    rw [hqueued, hraised]
    exact ⟨jitter, lastactivity, highest, hashighest, rfl⟩

/-- A frame that is put to a record leaves its generations. -/
theorem addFrame_generations (config : ProcessorConfig) (now : Int) (speaker : Speaker)
    (frame : RemoteFrame) :
    (speaker.addFrame config now frame).speakergeneration = speaker.speakergeneration ∧
      (speaker.addFrame config now frame).streamgeneration = speaker.streamgeneration := by
  obtain ⟨_, _, _, _, heq⟩ := addFrame_eq config now speaker frame
  rw [heq]
  exact ⟨rfl, rfl⟩

/-- **The three ways a queue changes.**  A frame is appended while there is
room, takes the place of the oldest one, or stays out. -/
theorem Queued.enqueue (h : speaker.Queued config sessionepoch id) {frame : RemoteFrame}
    (hown : speaker.Plays id frame ∧ frame.sessionepoch = sessionepoch)
    (hnew : frame.sequence ∉ speaker.jitter.map (·.sequence)) (now : Int) :
    (speaker.enqueue config now frame).Queued config sessionepoch id := by
  unfold Speaker.enqueue
  split_ifs with hfull
  · cases holdest : speaker.jitter[oldestIndex speaker.jitter]? with
    | none => exact h
    | some oldest =>
        dsimp only
        split_ifs
        · refine ⟨?_, ?_, fun f hf => ?_⟩
          · rw [List.length_set]
            exact h.room
          · rw [List.map_set]
            exact h.distinct.set hnew
          · rcases List.mem_or_eq_of_mem_set hf with hf | rfl
            · exact h.own f hf
            · exact hown
        · exact h
  · refine ⟨?_, ?_, fun f hf => ?_⟩
    · rw [List.length_append, List.length_singleton]
      exact Nat.lt_of_not_le hfull
    · rw [List.map_append, List.map_singleton]
      exact h.distinct.append (List.nodup_singleton _) (by simpa using hnew)
    · rcases List.mem_append.mp hf with hf | hf
      · exact h.own f hf
      · exact List.mem_singleton.mp hf ▸ hown

/-- The highest sequence is no concern of the queue. -/
theorem Queued.setHighest (h : speaker.Queued config sessionepoch id) (highest : UInt32)
    (hashighest : Bool) :
    Speaker.Queued config sessionepoch id
      { speaker with highestsequence := highest, hashighest := hashighest } :=
  ⟨h.room, h.distinct, h.own⟩

/-- **Admission keeps the queue.** -/
theorem Queued.addFrame (h : speaker.Queued config sessionepoch id) {frame : RemoteFrame}
    (hown : speaker.Plays id frame ∧ frame.sessionepoch = sessionepoch) (now : Int) :
    (speaker.addFrame config now frame).Queued config sessionepoch id := by
  unfold Speaker.addFrame
  split_ifs with hrange hduplicate
  · exact h
  · exact h
  · obtain ⟨highest, hashighest, heq⟩ := raiseHighest_eq speaker frame.sequence
    rw [heq]
    refine (h.setHighest highest hashighest).enqueue hown ?_ now
    simpa using hduplicate

/-- What playout leaves of a record: its generations, and a part of its queue. -/
structure PlaysOn (before after : Speaker) : Prop where
  speakergeneration : after.speakergeneration = before.speakergeneration
  streamgeneration : after.streamgeneration = before.streamgeneration
  jitter : List.Sublist after.jitter before.jitter

theorem PlaysOn.refl (speaker : Speaker) : PlaysOn speaker speaker :=
  ⟨rfl, rfl, List.Sublist.refl _⟩

theorem startPlayout_playsOn {now : Int} {started : Speaker}
    (h : speaker.startPlayout config now = some started) : PlaysOn speaker started := by
  unfold startPlayout at h
  split_ifs at h
  split at h
  · cases h
  · obtain rfl := Option.some.inj h
    exact ⟨rfl, rfl, List.Sublist.refl _⟩

theorem playSlot_playsOn (config : ProcessorConfig) (speaker : Speaker) :
    PlaysOn speaker (speaker.playSlot config).1 := by
  unfold playSlot
  split
  · exact ⟨rfl, rfl, List.eraseP_sublist⟩
  · split_ifs <;> exact ⟨rfl, rfl, List.Sublist.refl _⟩

/-- **Playout only takes frames out.** -/
theorem mix_playsOn (config : ProcessorConfig) (now : Int) (speaker : Speaker) :
    PlaysOn speaker (speaker.mix config now).1 := by
  unfold mix
  cases hplaying : speaker.playing with
  | true =>
      simp only [if_true]
      split_ifs
      · exact PlaysOn.refl speaker
      · exact playSlot_playsOn config speaker
  | false =>
      simp only [Bool.false_eq_true, if_false]
      split
      · exact PlaysOn.refl speaker
      · rename_i started hstart
        have hbefore := startPlayout_playsOn hstart
        split_ifs
        · exact hbefore
        · have hafter := playSlot_playsOn config started
          exact ⟨hafter.1.trans hbefore.1, hafter.2.trans hbefore.2,
            hafter.3.trans hbefore.3⟩

/-- A part of a queue is a queue. -/
theorem Queued.playsOn (h : speaker.Queued config sessionepoch id) {after : Speaker}
    (hplays : PlaysOn speaker after) : after.Queued config sessionepoch id := by
  refine ⟨hplays.jitter.length_le.trans h.room, h.distinct.sublist (hplays.jitter.map _), ?_⟩
  intro f hf
  obtain ⟨⟨hid, hspeaker, hstream⟩, hepoch⟩ := h.own f (hplays.jitter.subset hf)
  exact ⟨⟨hid, hspeaker.trans hplays.1.symm, hstream.trans hplays.2.symm⟩, hepoch⟩

/-- A reset empties the queue. -/
theorem resetSpeaker_queued {setupOk : Bool} {frame : RemoteFrame} {now : Int}
    {reset : Speaker} (hreset : resetSpeaker setupOk speaker frame now = some reset) :
    reset.Queued config sessionepoch id := by
  unfold resetSpeaker at hreset
  split_ifs at hreset
  obtain rfl := Option.some.inj hreset
  exact ⟨Nat.zero_le _, List.nodup_nil, by simp⟩

/-- A record moves to a newer membership, within one to a newer stream, or
stays. -/
def Follows (after before : Speaker) : Prop :=
  (after.speakergeneration = before.speakergeneration ∧
      after.streamgeneration = before.streamgeneration) ∨
    isTeamVoiceSequenceNewer after.speakergeneration before.speakergeneration = true ∨
    (after.speakergeneration = before.speakergeneration ∧
      isTeamVoiceSequenceNewer after.streamgeneration before.streamgeneration = true)

/-- **A reset that is not refused moves forward.** -/
theorem follows_of_refusesReset {frame : RemoteFrame} {after : Speaker}
    (haccepted : speaker.refusesReset frame = false) (hplays : after.Plays id frame) :
    after.Follows speaker := by
  obtain ⟨-, hspeaker, hstream⟩ := hplays
  simp only [refusesReset, decide_eq_false_iff_not, not_or, not_and, Bool.not_eq_false]
    at haccepted
  obtain ⟨holder, hstale, -⟩ := haccepted
  rw [Follows, ← hspeaker, ← hstream]
  by_cases hs : frame.speakergeneration = speaker.speakergeneration
  · by_cases ht : frame.streamgeneration = speaker.streamgeneration
    · exact .inl ⟨hs, ht⟩
    · exact .inr (.inr ⟨hs, hstale hs ht⟩)
  · exact .inr (.inl (holder hs))

end Speaker

/-! ## The map -/

/-- A record has a decoder, and its queue is in order. -/
structure SpeakerRecord.Sound (config : ProcessorConfig) (sessionepoch : Nat) (id : UInt64)
    (record : SpeakerRecord) : Prop where
  codec : record.codec.isSome = true
  queued : record.toSpeaker.Queued config sessionepoch id

namespace SpeakerWorker

variable {config : ProcessorConfig} {w s t : SpeakerWorker} {frame : RemoteFrame}

/-- **The invariant of the speaker map.** -/
structure Inv (config : ProcessorConfig) (w : SpeakerWorker) : Prop where
  few : w.speakers.keys.length ≤ config.maxspeakers
  idle : w.looping = false → w.speakers = ∅
  records : ∀ id record, w.speakers.lookup id = some record →
    record.Sound config w.observedsessionepoch id

/-- A new decoder comes with an empty queue. -/
theorem reset_sound {setupOk : Bool} {codec : Nat} {old record : SpeakerRecord} {now : Int}
    {sessionepoch : Nat} {id : UInt64}
    (hreset : old.reset setupOk codec frame now = some record) :
    record.Sound config sessionepoch id := by
  obtain ⟨speaker, hspeaker, rfl⟩ := Option.map_eq_some_iff.mp hreset
  exact ⟨rfl, Speaker.resetSpeaker_queued hspeaker⟩

/-- A record that has been reset plays the frame's stream. -/
theorem reset_plays {setupOk : Bool} {codec : Nat} {old record : SpeakerRecord} {now : Int}
    (hreset : old.reset setupOk codec frame now = some record) :
    record.Plays frame.speakerid frame := by
  obtain ⟨speaker, hspeaker, rfl⟩ := Option.map_eq_some_iff.mp hreset
  exact (resetSpeaker_plays hspeaker).2

/-- **A frame put to a sound record keeps the map.**  The map may only grow
while it has room. -/
theorem Inv.putFrame (h : Inv config w) {record : SpeakerRecord}
    (hsound : record.Sound config w.observedsessionepoch frame.speakerid)
    (hplays : record.Plays frame.speakerid frame)
    (hepoch : frame.sessionepoch = w.observedsessionepoch) (hlooping : w.looping = true)
    (hroom : frame.speakerid ∈ w.speakers ∨ w.speakers.keys.length < config.maxspeakers)
    (now : Int) : Inv config (w.putFrame config now record frame) := by
  refine ⟨?_, fun hidle => ?_, fun id after hafter => ?_⟩
  · show (w.speakers.insert _ _).keys.length ≤ config.maxspeakers
    by_cases hmem : frame.speakerid ∈ w.speakers
    · rw [Keyed.length_insert_of_mem hmem]
      exact h.few
    · rw [Keyed.length_insert_of_notMem hmem]
      exact hroom.resolve_left hmem
  · rw [SpeakerWorker.putFrame] at hidle
    dsimp only at hidle
    rw [count_looping, hlooping] at hidle
    cases hidle
  · have hadded : (record.addFrame config now frame).Sound config w.observedsessionepoch
        frame.speakerid := ⟨hsound.codec, hsound.queued.addFrame ⟨hplays, hepoch⟩ now⟩
    have hrecords := Keyed.forall_insert
      (P := fun id record => SpeakerRecord.Sound config w.observedsessionepoch id record)
      h.records hadded id after hafter
    rw [SpeakerWorker.putFrame]
    dsimp only
    rw [count_observedsessionepoch]
    exact hrecords

/-- Counting and set-ups are no concern of the map. -/
theorem Inv.of_speakers (h : Inv config w) (hspeakers : t.speakers = w.speakers)
    (hlooping : t.looping = w.looping)
    (hobserved : t.observedsessionepoch = w.observedsessionepoch) : Inv config t :=
  ⟨hspeakers ▸ h.few, fun hidle => hspeakers ▸ h.idle (hlooping ▸ hidle),
    fun id record hrecord => hobserved ▸ h.records id record (hspeakers ▸ hrecord)⟩

theorem Inv.count (h : Inv config w) (admission : Admission) :
    Inv config (w.count admission) :=
  h.of_speakers (count_speakers _ _) (count_looping _ _) (count_observedsessionepoch _ _)

theorem Inv.attempt (h : Inv config w) (id : UInt64) (setupOk : Bool) :
    Inv config (w.attempt id setupOk) :=
  h.of_speakers rfl rfl rfl

/-- **Admission keeps the map**, by whichever exit it ends. -/
theorem Inv.adds (h : Inv config w) (hlooping : w.looping = true)
    (hepoch : frame.sessionepoch = w.observedsessionepoch) {now : Int} {setupOk : Bool}
    (hadds : Adds config now setupOk w frame t) : Inv config t := by
  cases hadds with
  | refused admission => exact h.count admission
  | setupFailed => exact (h.attempt _ _).count _
  | current record hlookup hsame =>
      have hmem : frame.speakerid ∈ w.speakers := AList.lookup_isSome.mp (by rw [hlookup]; rfl)
      exact h.putFrame (h.records _ _ hlookup) (plays_of_needsReset hsame) hepoch hlooping
        (.inl hmem) now
  | created record hlookup hroom hsetup hreset =>
      exact (h.attempt _ _).putFrame (reset_sound hreset) (reset_plays hreset) hepoch hlooping
        (.inr hroom) now
  | reset old record hlookup haccepted hsetup hreset =>
      have hmem : frame.speakerid ∈ w.speakers := AList.lookup_isSome.mp (by rw [hlookup]; rfl)
      exact (h.attempt _ _).putFrame (reset_sound hreset) (reset_plays hreset) hepoch hlooping
        (.inl hmem) now

/-- Playout keeps the map. -/
theorem Inv.mixOneFrame (h : Inv config w) (hlooping : w.looping = true) (now : Int)
    (decode : UInt64 → Option (List Int)) : Inv config (w.mixOneFrame config now decode) := by
  refine ⟨?_, fun hidle => ?_, fun id after hafter => ?_⟩
  · show (Keyed.mapValues _ w.speakers).keys.length ≤ config.maxspeakers
    rw [Keyed.keys_mapValues]
    exact h.few
  · have hidle' : w.looping = false := hidle
    rw [hlooping] at hidle'
    cases hidle'
  · rw [lookup_mixOneFrame] at hafter
    obtain ⟨before, hbefore, rfl⟩ := Option.map_eq_some_iff.mp hafter
    have hsound := h.records id before hbefore
    exact ⟨hsound.codec, hsound.queued.playsOn (Speaker.mix_playsOn config now _)⟩

/-- Cleanup keeps the map. -/
theorem Inv.cleanupSpeakers (h : Inv config w) (hlooping : w.looping = true) (now : Int) :
    Inv config (w.cleanupSpeakers config now) := by
  refine ⟨?_, fun hidle => ?_, fun id after hafter => ?_⟩
  · exact (Keyed.filterValues_keys_length _ _).trans h.few
  · have hidle' : w.looping = false := hidle
    rw [hlooping] at hidle'
    cases hidle'
  · exact h.records id after (lookup_cleanupSpeakers hafter)

/-- An empty map is in order. -/
theorem Inv.of_empty (h : w.speakers = ∅) : Inv config w :=
  ⟨by rw [h]; exact Nat.zero_le _, fun _ => h, fun id record hrecord => by
    rw [h, AList.lookup_empty] at hrecord
    cases hrecord⟩

/-- **Every call keeps the map.** -/
theorem Inv.step (h : Inv config s) {a : WorkerStep} (hstep : step config s a = some t) :
    Inv config t := by
  cases step_effect hstep with
  | entered hidle => exact Inv.of_empty (h.idle hidle)
  | cleared _ hspeakers _ => exact Inv.of_empty hspeakers
  | unmoved _ hspeakers hlooping hobserved _ => exact h.of_speakers hspeakers hlooping hobserved
  | admitted now setupOk frame hlooping hpasses =>
      have hepoch : frame.sessionepoch = s.observedsessionepoch := (of_decide_eq_true hpasses).1
      exact h.adds hlooping hepoch (addRemoteFrame_adds config now setupOk s frame)
  | mixed now decode hlooping => exact h.mixOneFrame hlooping now decode
  | cleaned now hlooping => exact h.cleanupSpeakers hlooping now

/-! ## What one call may do -/

/-- The four counters of an admission: what the records have received, and the
processor's counters. -/
def counted (w : SpeakerWorker) : Admission → Nat
  | .accepted => Keyed.total (·.receivedpackets) w.speakers
  | .late => w.latepackets
  | .duplicate => w.duplicatepackets
  | .decodeError => w.counters.decodeerrors

/-- One of the four counters has gone up by one, the others stand. -/
def CountedOnce (s t : SpeakerWorker) : Prop :=
  ∃ exit, ∀ counter, t.counted counter = s.counted counter + if counter = exit then 1 else 0

/-- No frame has been counted: as late, as a duplicate, or by a record. -/
structure Uncounted (s t : SpeakerWorker) : Prop where
  late : t.latepackets = s.latepackets
  duplicate : t.duplicatepackets = s.duplicatepackets
  accepted : ∀ id before after, s.speakers.lookup id = some before →
    t.speakers.lookup id = some after → after.receivedpackets = before.receivedpackets

/-- What one call may do to the records and counters. -/
structure Lawful (s : SpeakerWorker) (a : WorkerStep) (t : SpeakerWorker) : Prop where
  moves : ∀ id before after, s.speakers.lookup id = some before →
    t.speakers.lookup id = some after → after.Follows before.toSpeaker
  failed : ∀ id, t.trace id = s.trace id ++ [.setup false] → t.speakers = s.speakers
  counted : ∀ frame ∈ s.passed a, CountedOnce s t
  uncounted : s.passed a = none → Uncounted s t

theorem counted_count (w : SpeakerWorker) {exit : Admission} (hexit : exit ≠ .accepted)
    (counter : Admission) :
    (w.count exit).counted counter = w.counted counter + if counter = exit then 1 else 0 := by
  cases exit with
  | accepted => exact absurd rfl hexit
  | late => cases counter <;> rfl
  | duplicate => cases counter <;> rfl
  | decodeError => cases counter <;> rfl

/-- **A frame put to a record is counted once**: by the record when it is
accepted, by the processor when it is not. -/
theorem counted_putFrame {record : SpeakerRecord} (hreceived : ∀ value : SpeakerRecord,
      Keyed.total (·.receivedpackets) (w.speakers.insert frame.speakerid value) +
        record.receivedpackets = Keyed.total (·.receivedpackets) w.speakers +
          value.receivedpackets) (config : ProcessorConfig) (now : Int) :
    CountedOnce w (w.putFrame config now record frame) := by
  refine ⟨record.toSpeaker.admission config frame, fun counter => ?_⟩
  have htotal := hreceived (record.addFrame config now frame)
  have hadded : (record.addFrame config now frame).receivedpackets = record.receivedpackets +
      if record.toSpeaker.admission config frame = .accepted then 1 else 0 := rfl
  cases counter with
  | accepted =>
      show Keyed.total (·.receivedpackets)
        (w.speakers.insert frame.speakerid (record.addFrame config now frame)) =
          Keyed.total (·.receivedpackets) w.speakers + _
      have hsame : Admission.accepted = record.toSpeaker.admission config frame ↔
          record.toSpeaker.admission config frame = .accepted := eq_comm
      simp only [hsame]
      omega
  | late =>
      show (w.count (record.toSpeaker.admission config frame)).latepackets = w.latepackets + _
      cases record.toSpeaker.admission config frame <;> rfl
  | duplicate =>
      show (w.count (record.toSpeaker.admission config frame)).duplicatepackets =
        w.duplicatepackets + _
      cases record.toSpeaker.admission config frame <;> rfl
  | decodeError =>
      show (w.count (record.toSpeaker.admission config frame)).counters.decodeerrors =
        w.counters.decodeerrors + _
      cases record.toSpeaker.admission config frame <;> rfl

/-- A reset leaves what the record has received. -/
theorem reset_receivedpackets {setupOk : Bool} {codec : Nat} {old record : SpeakerRecord}
    {now : Int} (hreset : old.reset setupOk codec frame now = some record) :
    record.receivedpackets = old.receivedpackets := by
  obtain ⟨speaker, -, rfl⟩ := Option.map_eq_some_iff.mp hreset
  rfl

theorem CountedOnce.of_attempt {id : UInt64} {setupOk : Bool}
    (h : CountedOnce (w.attempt id setupOk) t) : CountedOnce w t := by
  obtain ⟨exit, hexit⟩ := h
  refine ⟨exit, fun counter => ?_⟩
  rw [hexit counter]
  cases counter <;> rfl

/-- **Every frame passed is counted once**, whichever exit it takes. -/
theorem counted_adds {now : Int} {setupOk : Bool} (hadds : Adds config now setupOk w frame t) :
    CountedOnce w t := by
  cases hadds with
  | refused admission hcounted =>
      refine ⟨admission, counted_count w ?_⟩
      rcases hcounted with rfl | rfl
      · exact nofun
      · exact nofun
  | setupFailed =>
      exact CountedOnce.of_attempt ⟨.decodeError, counted_count _ nofun⟩
  | current record hlookup hsame =>
      exact counted_putFrame (Keyed.total_insert _ hlookup) config now
  | created record hlookup hroom hsetup hreset =>
      refine CountedOnce.of_attempt (counted_putFrame (fun value => ?_) config now)
      have hnone : record.receivedpackets = 0 := reset_receivedpackets hreset
      rw [hnone]
      exact Keyed.total_insert_new _ hlookup value
  | reset old record hlookup haccepted hsetup hreset =>
      refine CountedOnce.of_attempt (counted_putFrame (fun value => ?_) config now)
      rw [reset_receivedpackets hreset]
      exact Keyed.total_insert _ hlookup value

/-! ## Which records move -/

/-- **What an admission leaves of a record**: the record as it was, or with the
frame put to it, as it was or after a reset that was not refused. -/
theorem adds_lookup {now : Int} {setupOk : Bool} (hadds : Adds config now setupOk w frame t)
    {id : UInt64} {before after : SpeakerRecord} (hbefore : w.speakers.lookup id = some before)
    (hafter : t.speakers.lookup id = some after) :
    after = before ∨ ∃ record : SpeakerRecord, after = record.addFrame config now frame ∧
      (record = before ∨ before.refusesReset frame = false ∧
        before.reset true w.setups frame now = some record) := by
  have hsame : w.speakers.lookup id = some after → after = before := fun hlookup =>
    Option.some.inj (hlookup.symm.trans hbefore)
  cases hadds with
  | refused admission =>
      rw [count_speakers] at hafter
      exact .inl (hsame hafter)
  | setupFailed => exact .inl (hsame hafter)
  | current record hlookup =>
      rcases Keyed.lookup_insert_cases hafter with ⟨rfl, rfl⟩ | ⟨-, hold⟩
      · exact .inr ⟨record, rfl, .inl (Option.some.inj (hlookup.symm.trans hbefore))⟩
      · exact .inl (hsame hold)
  | created record hlookup =>
      rcases Keyed.lookup_insert_cases hafter with ⟨rfl, -⟩ | ⟨-, hold⟩
      · rw [hlookup] at hbefore
        cases hbefore
      · exact .inl (hsame hold)
  | reset old record hlookup haccepted hsetup hreset =>
      rcases Keyed.lookup_insert_cases hafter with ⟨rfl, rfl⟩ | ⟨-, hold⟩
      · obtain rfl := Option.some.inj (hlookup.symm.trans hbefore)
        exact .inr ⟨record, rfl, .inr ⟨haccepted, hreset⟩⟩
      · exact .inl (hsame hold)

/-- **Admission moves records forward only.** -/
theorem adds_follows {now : Int} {setupOk : Bool} (hadds : Adds config now setupOk w frame t)
    {id : UInt64} {before after : SpeakerRecord} (hbefore : w.speakers.lookup id = some before)
    (hafter : t.speakers.lookup id = some after) : after.Follows before.toSpeaker := by
  rcases adds_lookup hadds hbefore hafter with rfl | ⟨record, rfl, rfl | ⟨haccepted, hreset⟩⟩
  · exact .inl ⟨rfl, rfl⟩
  · exact .inl (Speaker.addFrame_generations config now _ frame)
  · obtain ⟨hown, hspeaker, hstream⟩ := reset_plays hreset
    obtain ⟨hspeaker', hstream'⟩ := Speaker.addFrame_generations config now record.toSpeaker frame
    exact Speaker.follows_of_refusesReset haccepted
      ⟨hown, hspeaker.trans hspeaker'.symm, hstream.trans hstream'.symm⟩

/-- **Every call moves records forward only.** -/
theorem step_follows {a : WorkerStep} (heffect : Effect config s a t) {id : UInt64}
    {before after : SpeakerRecord} (hbefore : s.speakers.lookup id = some before)
    (hafter : t.speakers.lookup id = some after) : after.Follows before.toSpeaker := by
  have hsame : s.speakers.lookup id = some after → after.Follows before.toSpeaker := by
    intro hlookup
    obtain rfl := Option.some.inj (hbefore.symm.trans hlookup)
    exact .inl ⟨rfl, rfl⟩
  cases heffect with
  | entered => exact hsame hafter
  | cleared _ hspeakers =>
      rw [hspeakers, AList.lookup_empty] at hafter
      cases hafter
  | unmoved _ hspeakers => exact hsame (hspeakers ▸ hafter)
  | admitted now setupOk frame =>
      exact adds_follows (addRemoteFrame_adds config now setupOk s frame) hbefore hafter
  | mixed now decode =>
      rw [lookup_mixOneFrame, hbefore] at hafter
      obtain rfl := Option.some.inj hafter
      have hplays := Speaker.mix_playsOn config now before.toSpeaker
      exact .inl ⟨hplays.1, hplays.2⟩
  | cleaned now => exact hsame (lookup_cleanupSpeakers hafter)

/-! ## Failed set-ups -/

/-- Playout sets no decoder up. -/
theorem setup_notMem_mixEvents (config : ProcessorConfig) (now : Int) (speaker : Speaker)
    (ok : Bool) : .setup ok ∉ speaker.mixEvents config now := by
  unfold Speaker.mixEvents
  intro hmem
  rcases List.mem_append.mp hmem with hmem | hmem
  · split_ifs at hmem
    · cases List.mem_singleton.mp hmem
    · cases hmem
  · obtain ⟨call, -, hcall⟩ := Option.map_eq_some_iff.mp (Option.mem_toList.mp hmem)
    cases hcall

/-- **A failed set-up leaves every record.** -/
theorem adds_failed {now : Int} {setupOk : Bool} (hadds : Adds config now setupOk w frame t)
    {id : UInt64} (hfailed : t.trace id = w.trace id ++ [.setup false]) :
    t.speakers = w.speakers := by
  have hattempt : (w.attempt frame.speakerid true).trace id ≠ w.trace id ++ [.setup false] := by
    by_cases hid : id = frame.speakerid
    · rw [hid, attempt_trace_self]
      intro heq
      cases List.append_cancel_left heq
    · rw [attempt_trace_ne w true hid]
      simp
  cases hadds with
  | refused admission => exact count_speakers w admission
  | setupFailed => rfl
  | current record =>
      rw [putFrame_trace] at hfailed
      simp at hfailed
  | created record =>
      rw [putFrame_trace] at hfailed
      exact absurd hfailed hattempt
  | reset old record =>
      rw [putFrame_trace] at hfailed
      exact absurd hfailed hattempt

/-- No other call has a failed set-up. -/
theorem step_failed {a : WorkerStep} (heffect : Effect config s a t) {id : UInt64}
    (hfailed : t.trace id = s.trace id ++ [.setup false]) : t.speakers = s.speakers := by
  have hquiet : s.trace id ≠ s.trace id ++ [.setup false] := by simp
  cases heffect with
  | entered => exact absurd hfailed hquiet
  | cleared _ _ hcounts => exact absurd (hcounts.trace ▸ hfailed) hquiet
  | unmoved _ hspeakers => exact hspeakers
  | admitted now setupOk frame =>
      exact adds_failed (addRemoteFrame_adds config now setupOk s frame) hfailed
  | mixed now decode =>
      have hevents := List.append_cancel_left hfailed
      cases hlookup : s.speakers.lookup id with
      | none =>
          rw [hlookup] at hevents
          cases hevents
      | some record =>
          rw [hlookup] at hevents
          have hmem : .setup false ∈ record.mixEvents config now := by
            rw [show record.mixEvents config now = [.setup false] from hevents]
            exact List.mem_singleton_self _
          exact absurd hmem (setup_notMem_mixEvents config now _ false)
  | cleaned now => exact absurd hfailed hquiet

/-- A call that passes no frame counts none. -/
theorem step_uncounted {a : WorkerStep} (heffect : Effect config s a t)
    (hnone : s.passed a = none) : Uncounted s t := by
  have hsame : ∀ {before after : SpeakerRecord} {id : UInt64},
      s.speakers.lookup id = some before → s.speakers.lookup id = some after →
      after.receivedpackets = before.receivedpackets := by
    intro before after id hbefore hafter
    rw [Option.some.inj (hbefore.symm.trans hafter)]
  cases heffect with
  | entered => exact ⟨rfl, rfl, fun _ _ _ hbefore hafter => hsame hbefore hafter⟩
  | cleared _ hspeakers hcounts =>
      refine ⟨hcounts.latepackets, hcounts.duplicatepackets, fun id _ _ _ hafter => ?_⟩
      rw [hspeakers, AList.lookup_empty] at hafter
      cases hafter
  | unmoved _ hspeakers _ _ hcounts =>
      exact ⟨hcounts.latepackets, hcounts.duplicatepackets, fun _ _ _ hbefore hafter =>
        hsame hbefore (hspeakers ▸ hafter)⟩
  | admitted now setupOk frame hlooping hpasses =>
      rw [passed, if_pos hpasses] at hnone
      cases hnone
  | mixed now decode =>
      refine ⟨rfl, rfl, fun id before after hbefore hafter => ?_⟩
      rw [lookup_mixOneFrame, hbefore] at hafter
      obtain rfl := Option.some.inj hafter
      rfl
  | cleaned now =>
      exact ⟨rfl, rfl, fun _ _ _ hbefore hafter => hsame hbefore (lookup_cleanupSpeakers hafter)⟩

/-- **Every call is lawful.** -/
theorem step_lawful {a : WorkerStep} (hstep : step config s a = some t) : Lawful s a t := by
  have heffect := step_effect hstep
  refine ⟨fun id before after => step_follows heffect, fun id => step_failed heffect, ?_,
    step_uncounted heffect⟩
  intro frame hframe
  cases heffect with
  | entered => cases hframe
  | cleared hnone =>
      rw [hnone] at hframe
      cases hframe
  | unmoved hnone =>
      rw [hnone] at hframe
      cases hframe
  | admitted now setupOk frame' =>
      exact counted_adds (addRemoteFrame_adds config now setupOk s frame')
  | mixed => cases hframe
  | cleaned => cases hframe

theorem Inv.start (config : ProcessorConfig) : Inv config {} := Inv.of_empty rfl

end SpeakerWorker

/-- **Jitter buffers.**  Whatever the frames carry, in every reachable state the
map holds at most `maxspeakers` records, each with a decoder and a bounded queue
of distinct sequences of its own stream and of the observed session; and every
call from there moves records to newer streams only, leaves the records when a
set-up fails, and counts the frame it passes once. -/
theorem jitter_invariant {config : ProcessorConfig} {s : SpeakerWorker}
    (h : Exec.Reached (SpeakerWorker.step config) {} s) :
    SpeakerWorker.Inv config s ∧
      ∀ a t, SpeakerWorker.step config s a = some t → SpeakerWorker.Lawful s a t :=
  ⟨h.invariant (SpeakerWorker.Inv config) (SpeakerWorker.Inv.start config)
    fun _ _ _ hinv hstep => hinv.step hstep, fun _ _ hstep => SpeakerWorker.step_lawful hstep⟩

/-- Three sequences across the wrap into a queue of two, a duplicate, a second
speaker, a set-up that fails and one that does not. -/
theorem jitter_invariant_wrapped :
    let config := sanitizeConfig { jitterpackets := 2, maxspeakers := 1 }
    ∃ s : SpeakerWorker, (SpeakerWorker.Inv config s ∧
      ∀ a t, SpeakerWorker.step config s a = some t → SpeakerWorker.Lawful s a t) ∧
      (s.latepackets = 1 ∧ s.duplicatepackets = 1 ∧ s.counters.decodeerrors = 1) ∧
      s.trace 1 = [.setup true, .setup false, .setup true, .start,
        .decode (.frame { sessionepoch := 2, speakerid := 1, streamgeneration := 2 })] := by
  intro config
  let frame (id : UInt64) (stream n : UInt32) : RemoteFrame :=
    { sessionepoch := 2, speakerid := id, streamgeneration := stream, sequence := n }
  let incoming (setupOk : Bool) (frame : RemoteFrame) : WorkerStep :=
    .processIncoming 0 setupOk frame
  let run : List WorkerStep :=
    [.workerLoop, .observeSession, incoming true (frame 1 1 0xFFFFFFFF),
      incoming true (frame 1 1 0), incoming true (frame 1 1 1), incoming true (frame 1 1 1),
      incoming true (frame 2 1 0), incoming false (frame 1 2 0), incoming true (frame 1 2 0),
      .mixOneFrame (milliseconds 80) fun _ => some [], .cleanupSpeakers (milliseconds 80)]
  have hany : (Exec.exec (SpeakerWorker.step config) {} run).any (fun s =>
      decide ((s.latepackets = 1 ∧ s.duplicatepackets = 1 ∧ s.counters.decodeerrors = 1) ∧
        s.trace 1 = [.setup true, .setup false, .setup true, .start,
          .decode (.frame (frame 1 2 0))])) = true := by
    decide +kernel
  obtain ⟨s, hs, hstate⟩ := Exec.exec_any hany
  exact ⟨s, jitter_invariant ⟨run, hs⟩, of_decide_eq_true hstate⟩

end Voice
