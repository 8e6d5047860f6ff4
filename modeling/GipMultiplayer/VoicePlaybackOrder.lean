import GipMultiplayer.Exec
import GipMultiplayer.SerialNumbers
import GipMultiplayer.VoicePlayback

/-!
# Playback order

Runs of `addRemoteFrame` and `mixOneFrame` with the frames handed to the
decoders written down in order.  The senders are honest: the sequences of one
stream lie in a window of half the number circle.

Lateness is judged against the expected sequence, and a record has none after
concealment has run out or a discontinuity has reset it.  A frame that is
admitted then may have been decoded before, and playback goes back to it
(`playback_repeats`).  While no such frame is older than what has been decoded,
each stream is decoded in strictly increasing order.

* `Record` — the invariant of one speaker record against the frames decoded;
* `Record.addFrame`, `Record.mix` — admission and playout keep it;
* `playback_in_order` — the law under its condition.
-/

namespace Voice

theorem isTeamVoiceSequenceNewer_eq (a b : UInt32) :
    isTeamVoiceSequenceNewer a b = Serial.newer a b := rfl

/-! ## Runs -/

/-- The receive side with the frames decoded so far, in order. -/
structure PlaybackRun where
  playback : Playback := {}
  decoded : List RemoteFrame := []

/-- A call of `addRemoteFrame` or of `mixOneFrame`. -/
inductive PlaybackStep
  | addRemoteFrame (now : Int) (setupOk : Bool) (frame : RemoteFrame)
  | mixOneFrame (now : Int) (decode : UInt64 → Option (List Int))

/-- The queued frames among the decode calls. -/
def decodedFrames (calls : List (UInt64 × Decoding)) : List RemoteFrame :=
  calls.filterMap fun call =>
    match call.2 with
    | .frame frame => some frame
    | .conceal => none

namespace PlaybackRun

/-- One call. -/
def step (config : ProcessorConfig) (s : PlaybackRun) : PlaybackStep → Option PlaybackRun
  | .addRemoteFrame now setupOk frame =>
      some { s with
        playback := { s.playback with
          speakers := Voice.addRemoteFrame config now setupOk s.playback.speakers frame } }
  | .mixOneFrame now decode =>
      let mixed := Voice.mixOneFrame config now decode s.playback
      some { playback := mixed.1, decoded := s.decoded ++ decodedFrames mixed.2 }

/-- Two frames are of one stream of one speaker. -/
def SameStream (a b : RemoteFrame) : Prop :=
  a.speakerid = b.speakerid ∧ a.speakergeneration = b.speakergeneration ∧
    a.streamgeneration = b.streamgeneration

instance (a b : RemoteFrame) : Decidable (SameStream a b) :=
  inferInstanceAs (Decidable (_ ∧ _ ∧ _))

/-- Each stream is decoded in strictly increasing order: a frame is newer than
every frame of its stream decoded before it. -/
def InOrder (decoded : List RemoteFrame) : Prop :=
  decoded.Pairwise fun earlier later => SameStream earlier later →
    isTeamVoiceSequenceNewer later.sequence earlier.sequence = true

instance (decoded : List RemoteFrame) : Decidable (InOrder decoded) :=
  inferInstanceAs (Decidable (List.Pairwise _ decoded))

/-- The first sequence of each stream. -/
abbrev Bases := UInt64 → UInt32 → UInt32 → UInt32

/-- The base of a frame's stream. -/
def baseOf (base : Bases) (frame : RemoteFrame) : UInt32 :=
  base frame.speakerid frame.speakergeneration frame.streamgeneration

/-- The frame's sequence is one of the fewer than `2 ^ 31` of its stream. -/
def Honest (base : Bases) (frame : RemoteFrame) : Prop :=
  Serial.offset (baseOf base frame) frame.sequence < Serial.half

instance (base : Bases) (frame : RemoteFrame) : Decidable (Honest base frame) :=
  inferInstanceAs (Decidable (_ < _))

/-- A frame the senders of these streams may have sent. -/
def HonestStep (base : Bases) : PlaybackStep → Prop
  | .addRemoteFrame _ _ frame => Honest base frame
  | .mixOneFrame _ _ => True

instance (base : Bases) : (a : PlaybackStep) → Decidable (HonestStep base a)
  | .addRemoteFrame _ _ frame => inferInstanceAs (Decidable (Honest base frame))
  | .mixOneFrame _ _ => .isTrue trivial

/-- The frame is admitted to a queue with room while its record has no expected
sequence: the record has run out of concealment or has not started, or the
frame resets it. -/
def Unbounded (config : ProcessorConfig) (setupOk : Bool) (speaker : Speaker)
    (frame : RemoteFrame) : Prop :=
  if speaker.needsReset frame then speaker.refusesReset frame = false ∧ setupOk = true
  else speaker.hasexpected = false ∧ speaker.jitter.length < config.jitterpackets

instance (config : ProcessorConfig) (setupOk : Bool) (speaker : Speaker) (frame : RemoteFrame) :
    Decidable (Unbounded config setupOk speaker frame) :=
  inferInstanceAs (Decidable (ite _ _ _))

/-- The condition of the law: a frame that no expected sequence bounds is newer
than every frame of its stream already decoded. -/
def NotBehind (config : ProcessorConfig) (s : PlaybackRun) : PlaybackStep → Prop
  | .addRemoteFrame _ setupOk frame =>
      ∀ speaker ∈ s.playback.speakers.lookup frame.speakerid,
        Unbounded config setupOk speaker frame →
        ∀ earlier ∈ s.decoded, SameStream earlier frame →
          isTeamVoiceSequenceNewer frame.sequence earlier.sequence = true
  | .mixOneFrame _ _ => True

instance (config : ProcessorConfig) (s : PlaybackRun) :
    (a : PlaybackStep) → Decidable (NotBehind config s a)
  | .addRemoteFrame _ _ _ => inferInstanceAs (Decidable (∀ speaker ∈ _, _ → _))
  | .mixOneFrame _ _ => .isTrue trivial

end PlaybackRun

open PlaybackRun

/-! ## The oldest frame of a queue -/

/-- Within a window the search loop ends at a frame that no other is behind. -/
theorem oldestFrom_spec {b : UInt32} {jitter : List RemoteFrame}
    (hwindow : ∀ f ∈ jitter, Serial.offset b f.sequence < Serial.half)
    {oldest : RemoteFrame} {index : Nat} (seen rest : List RemoteFrame)
    (hjitter : jitter = seen ++ rest) (hindex : jitter[index]? = some oldest)
    (hseen : ∀ f ∈ seen, Serial.offset b oldest.sequence ≤ Serial.offset b f.sequence) :
    ∃ f, jitter[oldestFrom oldest index seen.length rest]? = some f ∧
      ∀ g ∈ jitter, Serial.offset b f.sequence ≤ Serial.offset b g.sequence := by
  induction rest generalizing oldest index seen with
  | nil =>
      refine ⟨oldest, hindex, fun g hg => hseen g ?_⟩
      simpa [hjitter] using hg
  | cons candidate rest ih =>
      have hjitter' : jitter = (seen ++ [candidate]) ++ rest := by simp [hjitter]
      have hcandidate : jitter[seen.length]? = some candidate := by simp [hjitter]
      have holdest := hwindow oldest (List.mem_of_getElem? hindex)
      have hnewer := Serial.newer_iff holdest (hwindow candidate (List.mem_of_getElem? hcandidate))
      unfold oldestFrom
      have hlength : (seen ++ [candidate]).length = seen.length + 1 := by simp
      rw [isTeamVoiceSequenceNewer_eq, ← hlength]
      split_ifs with h
      · refine ih _ hjitter' hcandidate fun f hf => ?_
        rcases List.mem_append.mp hf with hf | hf
        · exact (hnewer.mp h).le.trans (hseen f hf)
        · rw [List.mem_singleton.mp hf]
      · refine ih _ hjitter' hindex fun f hf => ?_
        rcases List.mem_append.mp hf with hf | hf
        · exact hseen f hf
        · rw [List.mem_singleton.mp hf]
          exact Nat.le_of_not_lt (mt hnewer.mpr h)

theorem oldestIndex_spec {b : UInt32} {jitter : List RemoteFrame} {oldest : RemoteFrame}
    (hwindow : ∀ f ∈ jitter, Serial.offset b f.sequence < Serial.half)
    (holdest : jitter[oldestIndex jitter]? = some oldest) :
    oldest ∈ jitter ∧
      ∀ g ∈ jitter, Serial.offset b oldest.sequence ≤ Serial.offset b g.sequence := by
  refine ⟨List.mem_of_getElem? holdest, ?_⟩
  cases jitter with
  | nil => simp
  | cons first rest =>
      obtain ⟨f, hf, hle⟩ := oldestFrom_spec hwindow [first] rest rfl
        (show (first :: rest)[0]? = some first from rfl)
        (fun f hf => by rw [List.mem_singleton.mp hf])
      have hsame : oldest = f := Option.some.inj (holdest.symm.trans hf)
      rw [hsame]
      exact hle

/-! ## One speaker record -/

/-- The frame is of the stream the speaker plays. -/
def Speaker.Plays (speaker : Speaker) (id : UInt64) (frame : RemoteFrame) : Prop :=
  frame.speakerid = id ∧ frame.speakergeneration = speaker.speakergeneration ∧
    frame.streamgeneration = speaker.streamgeneration

/-- The base of the stream the speaker plays. -/
def Speaker.base (speaker : Speaker) (base : Bases) (id : UInt64) : UInt32 :=
  base id speaker.speakergeneration speaker.streamgeneration

/-- How far a sequence is into the stream the speaker plays. -/
def Speaker.into (speaker : Speaker) (base : Bases) (id : UInt64) (sequence : UInt32) : Nat :=
  Serial.offset (speaker.base base id) sequence

/-- The expected sequence lies between the frames decoded and the frames
queued, and passes the end of the window by concealed frames only. -/
structure Expects (base : Bases) (id : UInt64) (decoded : List RemoteFrame)
    (speaker : Speaker) : Prop where
  bound : (speaker.into base id speaker.expectedsequence : Int) ≤
    Serial.half + speaker.consecutivemissing
  decoded : ∀ d ∈ decoded, speaker.Plays id d →
    speaker.into base id d.sequence < speaker.into base id speaker.expectedsequence
  queued : ∀ f ∈ speaker.jitter,
    speaker.into base id speaker.expectedsequence ≤ speaker.into base id f.sequence

/-- The invariant of the record of speaker `id` against the frames decoded. -/
structure Record (config : ProcessorConfig) (base : Bases) (id : UInt64)
    (decoded : List RemoteFrame) (speaker : Speaker) : Prop where
  own : ∀ f ∈ speaker.jitter, speaker.Plays id f
  window : ∀ f ∈ speaker.jitter, speaker.into base id f.sequence < Serial.half
  distinct : (speaker.jitter.map (·.sequence)).Nodup
  ahead : ∀ f ∈ speaker.jitter, ∀ d ∈ decoded, speaker.Plays id d →
    speaker.into base id d.sequence < speaker.into base id f.sequence
  playing : speaker.playing = speaker.hasexpected
  missing : 0 ≤ speaker.consecutivemissing ∧ speaker.consecutivemissing ≤ config.maxplcframes
  expects : speaker.hasexpected = true → Expects base id decoded speaker

variable {config : ProcessorConfig} {base : Bases} {id : UInt64} {decoded : List RemoteFrame}
  {speaker : Speaker}

/-- Only the decoded frames of the speaker's own stream matter. -/
theorem Record.of_decoded {decoded' : List RemoteFrame}
    (h : Record config base id decoded speaker)
    (hsub : ∀ d ∈ decoded', speaker.Plays id d → d ∈ decoded) :
    Record config base id decoded' speaker :=
  { h with
    ahead := fun f hf d hd hplays => h.ahead f hf d (hsub d hd hplays) hplays
    expects := fun hexp =>
      { h.expects hexp with
        decoded := fun d hd hplays => (h.expects hexp).decoded d (hsub d hd hplays) hplays } }

/-- A reset record waits for its new stream. -/
theorem resetSpeaker_record {frame : RemoteFrame} {now : Int} {setupOk : Bool}
    {reset : Speaker} (hmax : 0 ≤ config.maxplcframes)
    (hreset : resetSpeaker setupOk speaker frame now = some reset) :
    Record config base id decoded reset := by
  unfold resetSpeaker at hreset
  split_ifs at hreset
  cases hreset
  exact ⟨by simp, by simp, by simp, by simp, rfl, ⟨le_rfl, hmax⟩, by simp⟩

/-- A reset record plays the stream of the frame that reset it. -/
theorem resetSpeaker_plays {frame : RemoteFrame} {now : Int} {setupOk : Bool}
    {reset : Speaker} (hreset : resetSpeaker setupOk speaker frame now = some reset) :
    setupOk = true ∧ reset.Plays frame.speakerid frame := by
  unfold resetSpeaker at hreset
  split_ifs at hreset with hsetup
  cases hreset
  exact ⟨hsetup, rfl, rfl, rfl⟩

/-- A queue whose every frame was queued before, or is the new one. -/
theorem Record.setJitter (h : Record config base id decoded speaker) {frame : RemoteFrame}
    (hown : speaker.Plays id frame)
    (hwindow : speaker.into base id frame.sequence < Serial.half)
    (hahead : ∀ d ∈ decoded, speaker.Plays id d →
      speaker.into base id d.sequence < speaker.into base id frame.sequence)
    (hexpected : speaker.hasexpected = true →
      speaker.into base id speaker.expectedsequence ≤ speaker.into base id frame.sequence)
    {jitter : List RemoteFrame} (hjitter : ∀ f ∈ jitter, f ∈ speaker.jitter ∨ f = frame)
    (hdistinct : (jitter.map (·.sequence)).Nodup) (now : Int) :
    Record config base id decoded { speaker with jitter := jitter, lastactivity := now } where
  own f hf := (hjitter f hf).elim (h.own f) fun heq => heq ▸ hown
  window f hf := (hjitter f hf).elim (h.window f) fun heq => heq ▸ hwindow
  distinct := hdistinct
  ahead f hf := (hjitter f hf).elim (h.ahead f) fun heq => heq ▸ hahead
  playing := h.playing
  missing := h.missing
  expects hexp :=
    { bound := (h.expects hexp).bound
      decoded := (h.expects hexp).decoded
      queued := fun f hf =>
        (hjitter f hf).elim ((h.expects hexp).queued f) fun heq => heq ▸ hexpected hexp }

theorem raiseHighest_eq (speaker : Speaker) (sequence : UInt32) :
    ∃ highest hashighest, speaker.raiseHighest sequence =
      { speaker with highestsequence := highest, hashighest := hashighest } := by
  unfold Speaker.raiseHighest
  split_ifs
  · exact ⟨_, _, rfl⟩
  · exact ⟨speaker.highestsequence, speaker.hashighest, rfl⟩

/-- The highest sequence is no concern of the order. -/
theorem Record.setHighest (h : Record config base id decoded speaker) (highest : UInt32)
    (hashighest : Bool) :
    Record config base id decoded
      { speaker with highestsequence := highest, hashighest := hashighest } :=
  ⟨h.own, h.window, h.distinct, h.ahead, h.playing, h.missing, fun hexp =>
    ⟨(h.expects hexp).bound, (h.expects hexp).decoded, (h.expects hexp).queued⟩⟩

/-- A new frame goes behind everything decoded: because the caller says so when
the queue has room, because the frame it replaces does when it is full. -/
theorem Record.enqueue (h : Record config base id decoded speaker) {frame : RemoteFrame}
    (hown : speaker.Plays id frame)
    (hwindow : speaker.into base id frame.sequence < Serial.half)
    (hnew : frame.sequence ∉ speaker.jitter.map (·.sequence))
    (hahead : speaker.jitter.length < config.jitterpackets →
      ∀ d ∈ decoded, speaker.Plays id d →
        speaker.into base id d.sequence < speaker.into base id frame.sequence)
    (hexpected : speaker.hasexpected = true →
      speaker.into base id speaker.expectedsequence ≤ speaker.into base id frame.sequence)
    (now : Int) : Record config base id decoded (speaker.enqueue config now frame) := by
  unfold Speaker.enqueue
  split_ifs with hfull
  · cases holdest : speaker.jitter[oldestIndex speaker.jitter]? with
    | none => exact h
    | some oldest =>
        dsimp only
        split_ifs with hnewer
        · obtain ⟨hmem, -⟩ := oldestIndex_spec h.window holdest
          have hlt := (Serial.newer_iff hwindow (h.window oldest hmem)).mp hnewer
          refine h.setJitter hown hwindow
            (fun d hd hplays => (h.ahead oldest hmem d hd hplays).trans hlt) hexpected
            (fun f hf => List.mem_or_eq_of_mem_set hf) ?_ now
          rw [List.map_set]
          exact h.distinct.set hnew
        · exact h
  · refine h.setJitter hown hwindow (hahead (Nat.lt_of_not_le hfull)) hexpected
      (fun f hf => ?_) ?_ now
    · simpa using hf
    · rw [List.map_append, List.map_singleton]
      exact h.distinct.append (List.nodup_singleton _) (by simpa using hnew)

/-- A frame that passes the range test is not behind the expected sequence. -/
theorem Record.expected_le (h : Record config base id decoded speaker)
    (hconfig : config.maxplcframes ≤ 100) {sequence : UInt32}
    (hwindow : speaker.into base id sequence < Serial.half)
    (hrange : speaker.outOfRange sequence = false) (hexp : speaker.hasexpected = true) :
    speaker.into base id speaker.expectedsequence ≤ speaker.into base id sequence := by
  simp only [Speaker.outOfRange, hexp, true_and, decide_eq_false_iff_not, not_or, not_and,
    Bool.not_eq_false] at hrange
  obtain ⟨hlate, hjump⟩ := hrange
  by_cases heq : sequence = speaker.expectedsequence
  · exact heq ▸ le_rfl
  · have hnewer := hlate heq
    have hnear : (sequence - speaker.expectedsequence).toNat ≤ 250 := by
      have := hjump hnewer
      rw [maxForwardSequenceJump, teamVoiceSequenceDistance, UInt32.lt_iff_toNat_lt] at this
      exact Nat.le_of_not_lt this
    have hbound : speaker.into base id speaker.expectedsequence ≤ Serial.half + 100 := by
      have := (h.expects hexp).bound
      have := h.missing.2
      omega
    exact (Serial.offset_lt_of_newer hwindow hbound hnewer hnear (by decide)).le

/-- **Admission keeps the record.**  It needs the caller's word only for a frame
that no expected sequence bounds. -/
theorem Record.addFrame (h : Record config base id decoded speaker)
    (hconfig : config.maxplcframes ≤ 100) {frame : RemoteFrame}
    (hown : speaker.Plays id frame)
    (hwindow : speaker.into base id frame.sequence < Serial.half)
    (hahead : speaker.hasexpected = false → speaker.jitter.length < config.jitterpackets →
      ∀ d ∈ decoded, speaker.Plays id d →
        speaker.into base id d.sequence < speaker.into base id frame.sequence)
    (now : Int) : Record config base id decoded (speaker.addFrame config now frame) := by
  unfold Speaker.addFrame
  split_ifs with hrange hduplicate
  · exact h
  · exact h
  · have hexpected := h.expected_le hconfig hwindow (Bool.not_eq_true _ ▸ hrange)
    obtain ⟨highest, hashighest, heq⟩ := raiseHighest_eq speaker frame.sequence
    rw [heq]
    refine (h.setHighest highest hashighest).enqueue hown hwindow ?_ ?_ hexpected now
    · simpa using hduplicate
    · intro hroom d hd hplays
      cases hexp : speaker.hasexpected with
      | true => exact ((h.expects hexp).decoded d hd hplays).trans_le (hexpected hexp)
      | false => exact hahead hexp hroom d hd hplays

/-! ## Playout of one record -/

/-- The frame of a decode call, if it is not concealment. -/
def Decoding.queued : Option Decoding → List RemoteFrame
  | some (.frame f) => [f]
  | _ => []

/-- **The start of playout keeps the record.**  The oldest frame is expected. -/
theorem Record.startPlayout (h : Record config base id decoded speaker) {now : Int}
    {started : Speaker} (hstart : speaker.startPlayout config now = some started) :
    Record config base id decoded started ∧ started.hasexpected = true ∧
      started.jitter = speaker.jitter := by
  unfold Speaker.startPlayout at hstart
  split_ifs at hstart
  cases holdest : speaker.jitter[oldestIndex speaker.jitter]? with
  | none => simp [holdest] at hstart
  | some oldest =>
      simp only [holdest, Option.some.injEq] at hstart
      subst hstart
      obtain ⟨hmem, hle⟩ := oldestIndex_spec h.window holdest
      refine ⟨⟨h.own, h.window, h.distinct, h.ahead, rfl, h.missing, fun _ => ?_⟩, rfl, rfl⟩
      refine ⟨?_, h.ahead oldest hmem, hle⟩
      have hlt := h.window oldest hmem
      have hmissing := h.missing.1
      simp only [Speaker.into, Speaker.base] at hlt ⊢
      omega

/-- The end of playout keeps the record. -/
theorem Record.runOut (h : Record config base id decoded speaker) :
    Record config base id decoded { speaker with playing := false, hasexpected := false } :=
  ⟨h.own, h.window, h.distinct, h.ahead, rfl, h.missing, fun hexp => by simp at hexp⟩

/-- One slot further the expected sequence is one further. -/
theorem into_advance (hconfig : config.maxplcframes ≤ 100)
    (h : Record config base id decoded speaker) (hexp : speaker.hasexpected = true) :
    speaker.into base id (speaker.expectedsequence + 1) =
      speaker.into base id speaker.expectedsequence + 1 := by
  refine Serial.offset_succ ?_
  have hbound := (h.expects hexp).bound
  have hmissing := h.missing.2
  simp only [Speaker.into, Serial.half] at hbound
  omega

/-- **A slot keeps the record** when what stays queued is beyond the expected
sequence and nothing that was decoded is. -/
theorem Record.advance (h : Record config base id decoded speaker)
    (hconfig : config.maxplcframes ≤ 100) (hexp : speaker.hasexpected = true)
    {decoded' jitter : List RemoteFrame} {missing : Int}
    (hjitter : jitter.Sublist speaker.jitter)
    (hbeyond : ∀ f ∈ jitter,
      speaker.into base id speaker.expectedsequence < speaker.into base id f.sequence)
    (hdecoded : ∀ d ∈ decoded', speaker.Plays id d →
      speaker.into base id d.sequence ≤ speaker.into base id speaker.expectedsequence)
    (hmissing : 0 ≤ missing ∧ missing ≤ config.maxplcframes)
    (hbound : (speaker.into base id speaker.expectedsequence : Int) + 1 ≤
      Serial.half + missing) :
    Record config base id decoded' (Speaker.advance
      { speaker with jitter := jitter, consecutivemissing := missing }) := by
  have hadvance := into_advance hconfig h hexp
  refine ⟨fun f hf => h.own f (hjitter.subset hf), fun f hf => h.window f (hjitter.subset hf),
    h.distinct.sublist (hjitter.map _), ?_, h.playing, hmissing, fun _ => ⟨?_, ?_, ?_⟩⟩
  · intro f hf d hd hplays
    exact (hdecoded d hd hplays).trans_lt (hbeyond f hf)
  · show (speaker.into base id (speaker.expectedsequence + 1) : Int) ≤ Serial.half + missing
    rw [hadvance]
    push_cast
    exact hbound
  · intro d hd hplays
    show speaker.into base id d.sequence < speaker.into base id (speaker.expectedsequence + 1)
    rw [hadvance]
    exact Nat.lt_succ_of_le (hdecoded d hd hplays)
  · intro f hf
    show speaker.into base id (speaker.expectedsequence + 1) ≤ speaker.into base id f.sequence
    rw [hadvance]
    exact hbeyond f hf

/-- **A concealed slot keeps the record.**  No queued frame is the expected one,
so all are beyond it. -/
theorem Record.conceal (h : Record config base id decoded speaker)
    (hconfig : config.maxplcframes ≤ 100) (hexp : speaker.hasexpected = true)
    (hmissing : speaker.consecutivemissing < config.maxplcframes)
    (hnone : ∀ f ∈ speaker.jitter, f.sequence ≠ speaker.expectedsequence) :
    Record config base id decoded (Speaker.advance
      { speaker with consecutivemissing := speaker.consecutivemissing + 1 }) := by
  have hexpects := h.expects hexp
  have hbound := hexpects.bound
  have hbefore := h.missing
  apply h.advance hconfig hexp (List.Sublist.refl speaker.jitter)
  · intro f hf
    exact Nat.lt_of_le_of_ne (hexpects.queued f hf) fun heq =>
      hnone f hf (Serial.offset_inj heq).symm
  · intro d hd hplays
    exact (hexpects.decoded d hd hplays).le
  · omega
  · omega

/-- Among distinct sequences, none equal to the erased one stays. -/
theorem ne_of_mem_eraseP {jitter : List RemoteFrame} {sequence : UInt32}
    (hdistinct : (jitter.map (·.sequence)).Nodup) {f : RemoteFrame}
    (hf : f ∈ jitter.eraseP (·.sequence == sequence)) : f.sequence ≠ sequence := by
  intro heq
  obtain ⟨g, l₁, l₂, -, hg, hjitter, herase⟩ :=
    List.exists_of_eraseP (p := (·.sequence == sequence)) (List.mem_of_mem_eraseP hf)
      (by simpa using heq)
  rw [herase] at hf
  have hf' : f.sequence ∈ (l₁ ++ l₂).map (·.sequence) := List.mem_map_of_mem hf
  rw [hjitter, List.map_append, List.map_cons, List.nodup_middle, List.nodup_cons] at hdistinct
  rw [beq_iff_eq] at hg
  exact hdistinct.1 (by rw [hg, ← heq, ← List.map_append]; exact hf')

/-- **A played slot keeps the record.**  The frame decoded is the expected one;
what stays queued is beyond it. -/
theorem Record.play (h : Record config base id decoded speaker)
    (hconfig : config.maxplcframes ≤ 100) (hexp : speaker.hasexpected = true)
    {frame : RemoteFrame}
    (hfind : speaker.jitter.find? (·.sequence == speaker.expectedsequence) = some frame) :
    Record config base id (decoded ++ [frame]) (Speaker.advance
      { speaker with
        jitter := speaker.jitter.eraseP (·.sequence == speaker.expectedsequence)
        consecutivemissing := 0 }) := by
  have hexpects := h.expects hexp
  have hframe : frame.sequence = speaker.expectedsequence := by
    simpa using List.find?_some hfind
  have hwindow := h.window frame (List.mem_of_find?_eq_some hfind)
  have hbefore := h.missing
  apply h.advance hconfig hexp List.eraseP_sublist
  · intro f hf
    exact Nat.lt_of_le_of_ne (hexpects.queued f (List.mem_of_mem_eraseP hf)) fun heq =>
      ne_of_mem_eraseP h.distinct hf (Serial.offset_inj heq).symm
  · intro d hd hplays
    rcases List.mem_append.mp hd with hd | hd
    · exact (hexpects.decoded d hd hplays).le
    · rw [List.mem_singleton.mp hd, hframe]
  · omega
  · rw [hframe] at hwindow
    omega

/-- A playout slot keeps the record, with the decoded frame added; what is
decoded was queued. -/
theorem Record.playSlot (h : Record config base id decoded speaker)
    (hconfig : config.maxplcframes ≤ 100) (hexp : speaker.hasexpected = true) :
    Record config base id (decoded ++ Decoding.queued (speaker.playSlot config).2)
        (speaker.playSlot config).1 ∧
      ∀ f ∈ Decoding.queued (speaker.playSlot config).2, f ∈ speaker.jitter := by
  unfold Speaker.playSlot
  cases hfind : speaker.jitter.find? (·.sequence == speaker.expectedsequence) with
  | some frame =>
      refine ⟨h.play hconfig hexp hfind, fun f hf => ?_⟩
      rw [List.mem_singleton.mp hf]
      exact List.mem_of_find?_eq_some hfind
  | none =>
      have hnone : ∀ f ∈ speaker.jitter, f.sequence ≠ speaker.expectedsequence := by
        simpa using hfind
      dsimp only
      split_ifs with hmissing
      · simpa [Decoding.queued] using h.conceal hconfig hexp hmissing hnone
      · simpa [Decoding.queued] using h.runOut

/-- **Playout keeps the record**, with the decoded frame added; what is decoded
was queued. -/
theorem Record.mix (h : Record config base id decoded speaker)
    (hconfig : config.maxplcframes ≤ 100) (now : Int) :
    Record config base id (decoded ++ Decoding.queued (speaker.mix config now).2)
        (speaker.mix config now).1 ∧
      ∀ f ∈ Decoding.queued (speaker.mix config now).2, f ∈ speaker.jitter := by
  have hstarted : ∀ started,
      (if speaker.playing then some speaker else speaker.startPlayout config now) =
        some started →
      Record config base id decoded started ∧ started.hasexpected = true ∧
        started.jitter = speaker.jitter := by
    intro started heq
    split_ifs at heq with hplaying
    · cases heq
      exact ⟨h, h.playing ▸ hplaying, rfl⟩
    · exact h.startPlayout heq
  unfold Speaker.mix
  dsimp only
  split
  · simpa [Decoding.queued] using h
  · rename_i started heq
    obtain ⟨hrecord, hexp, hjitter⟩ := hstarted started heq
    split_ifs
    · simpa [Decoding.queued] using hrecord
    · obtain ⟨hslot, hqueued⟩ := hrecord.playSlot hconfig hexp
      exact ⟨hslot, fun f hf => hjitter ▸ hqueued f hf⟩

/-! ## All records -/

/-- A frame that resets nothing is of the stream the speaker plays. -/
theorem plays_of_needsReset {frame : RemoteFrame} (h : speaker.needsReset frame = false) :
    speaker.Plays frame.speakerid frame := by
  simp only [Speaker.needsReset, decide_eq_false_iff_not, not_or, not_not] at h
  exact ⟨rfl, h.1, h.2.1⟩

/-- **What `addRemoteFrame` writes**: nothing, or the frame into the record of
its speaker, which then plays the frame's stream: the record as it was, or one
that has just been reset. -/
theorem addRemoteFrame_cases (config : ProcessorConfig) (now : Int) (setupOk : Bool)
    (speakers : Speakers) (frame : RemoteFrame) :
    addRemoteFrame config now setupOk speakers frame = speakers ∨
    ∃ before : Speaker, addRemoteFrame config now setupOk speakers frame =
        speakers.insert frame.speakerid (before.addFrame config now frame) ∧
      before.Plays frame.speakerid frame ∧
      ((speakers.lookup frame.speakerid = some before ∧ before.needsReset frame = false) ∨
        ∃ old, resetSpeaker setupOk old frame now = some before ∧
          ∀ speaker, speakers.lookup frame.speakerid = some speaker →
            Unbounded config setupOk speaker frame) := by
  unfold addRemoteFrame
  cases hlookup : speakers.lookup frame.speakerid with
  | none =>
      dsimp only
      split_ifs
      · exact .inl rfl
      · split
        · exact .inl rfl
        · rename_i reset hreset
          have hplays := resetSpeaker_plays hreset
          exact .inr ⟨reset, rfl, hplays.2, .inr ⟨_, hreset, fun _ h => by simp at h⟩⟩
  | some speaker =>
      dsimp only
      split_ifs with hneeds hrefuses
      · exact .inl rfl
      · split
        · exact .inl rfl
        · rename_i reset hreset
          have hplays := resetSpeaker_plays hreset
          refine .inr ⟨reset, rfl, hplays.2, .inr ⟨_, hreset, fun speaker' h => ?_⟩⟩
          obtain rfl := Option.some.inj h
          rw [Unbounded, if_pos hneeds]
          exact ⟨Bool.not_eq_true _ ▸ hrefuses, hplays.1⟩
      · have hsame : speaker.needsReset frame = false := Bool.not_eq_true _ ▸ hneeds
        exact .inr ⟨speaker, rfl, plays_of_needsReset hsame, .inl ⟨rfl, hsame⟩⟩

theorem lookup_mapSpeakers (f : Speaker → Speaker) (speakers : Speakers) (id : UInt64) :
    (mapSpeakers f speakers).lookup id = (speakers.lookup id).map f := by
  ext speaker
  rw [← Option.mem_def, AList.mem_lookup_iff]
  simp only [mapSpeakers, List.mem_map, Option.map_eq_some_iff]
  constructor
  · rintro ⟨⟨id', before⟩, hmem, heq⟩
    cases heq
    exact ⟨before, AList.mem_lookup_iff.mpr hmem, rfl⟩
  · rintro ⟨before, hlookup, rfl⟩
    exact ⟨⟨id, before⟩, AList.mem_lookup_iff.mp hlookup, rfl⟩

/-- The frames one round of playout decodes, speaker by speaker. -/
theorem decodedFrames_decodeCalls (config : ProcessorConfig) (now : Int) (speakers : Speakers) :
    decodedFrames (decodeCalls config now speakers) =
      speakers.entries.flatMap fun item => Decoding.queued (item.2.mix config now).2 := by
  unfold decodedFrames decodeCalls
  induction speakers.entries with
  | nil => rfl
  | cons item rest ih =>
      rw [List.flatMap_cons, ← ih]
      rcases hcall : (item.2.mix config now).2 with _ | (frame | _)
      · simp [hcall, Decoding.queued]
      · simp [hcall, Decoding.queued]
      · simp [hcall, Decoding.queued]

/-- What `mixOneFrame` plays and decodes does not depend on the decoder. -/
theorem mixOneFrame_playout (config : ProcessorConfig) (now : Int)
    (decode : UInt64 → Option (List Int)) (playback : Playback) :
    (mixOneFrame config now decode playback).1.speakers =
        mapSpeakers (fun speaker => (speaker.mix config now).1) playback.speakers ∧
      decodedFrames (mixOneFrame config now decode playback).2 =
        decodedFrames (decodeCalls config now playback.speakers) := by
  unfold mixOneFrame
  dsimp only
  split_ifs
  · exact ⟨rfl, rfl⟩
  · split <;> exact ⟨rfl, rfl⟩

namespace PlaybackRun

/-- **The invariant of playback order.** -/
structure Inv (config : ProcessorConfig) (base : Bases) (s : PlaybackRun) : Prop where
  honest : ∀ d ∈ s.decoded, Honest base d
  records : ∀ id speaker, s.playback.speakers.lookup id = some speaker →
    Record config base id s.decoded speaker
  known : ∀ d ∈ s.decoded, d.speakerid ∈ s.playback.speakers
  order : InOrder s.decoded

variable {s t : PlaybackRun}

/-- Newer means further into the stream, for frames of the stream a speaker plays. -/
theorem newer_iff_into {earlier later : RemoteFrame} (hearlier : Honest base earlier)
    (hplays : speaker.Plays id earlier) (hplays' : speaker.Plays id later)
    (hwindow : speaker.into base id later.sequence < Serial.half) :
    isTeamVoiceSequenceNewer later.sequence earlier.sequence = true ↔
      speaker.into base id earlier.sequence < speaker.into base id later.sequence := by
  obtain ⟨rfl, hgeneration, hstream⟩ := hplays
  refine Serial.newer_iff hwindow ?_
  rw [Speaker.base, ← hgeneration, ← hstream]
  exact hearlier

/-- **Admission keeps the invariant.** -/
theorem Inv.addRemoteFrame (h : Inv config base s) (hmin : 0 ≤ config.maxplcframes)
    (hmax : config.maxplcframes ≤ 100) {now : Int} {setupOk : Bool} {frame : RemoteFrame}
    (hhonest : Honest base frame)
    (hcondition : NotBehind config s (.addRemoteFrame now setupOk frame))
    (hstep : step config s (.addRemoteFrame now setupOk frame) = some t) : Inv config base t := by
  obtain rfl := Option.some.inj hstep
  rcases addRemoteFrame_cases config now setupOk s.playback.speakers frame with
    heq | ⟨before, heq, hplays, hbefore⟩
  · exact ⟨h.honest, by simpa only [heq] using h.records, by simpa only [heq] using h.known,
      h.order⟩
  have hwindow : before.into base frame.speakerid frame.sequence < Serial.half := by
    rw [Speaker.into, Speaker.base, ← hplays.2.1, ← hplays.2.2]
    exact hhonest
  -- behind the frame is everything of its stream that was decoded
  have hahead : before.hasexpected = false → before.jitter.length < config.jitterpackets →
      ∀ d ∈ s.decoded, before.Plays frame.speakerid d →
        before.into base frame.speakerid d.sequence <
          before.into base frame.speakerid frame.sequence := by
    intro hexp hroom d hd hd'
    refine (newer_iff_into (h.honest d hd) hd' hplays hwindow).mp ?_
    have hstream : SameStream d frame :=
      ⟨hd'.1, hd'.2.1.trans hplays.2.1.symm, hd'.2.2.trans hplays.2.2.symm⟩
    obtain ⟨speaker, hspeaker⟩ :=
      Option.isSome_iff_exists.mp (AList.lookup_isSome.mpr (hd'.1 ▸ h.known d hd))
    refine hcondition speaker hspeaker ?_ d hd hstream
    rcases hbefore with ⟨hlookup, hneeds⟩ | ⟨old, -, hunbounded⟩
    · obtain rfl := Option.some.inj (hlookup.symm.trans hspeaker)
      rw [Unbounded, hneeds]
      exact ⟨hexp, hroom⟩
    · exact hunbounded speaker hspeaker
  have hrecord : Record config base frame.speakerid s.decoded before := by
    rcases hbefore with ⟨hlookup, -⟩ | ⟨old, hreset, -⟩
    · exact h.records _ _ hlookup
    · exact resetSpeaker_record hmin hreset
  refine ⟨h.honest, fun id speaker hspeaker => ?_, fun d hd => ?_, h.order⟩
  · rw [heq] at hspeaker
    rcases eq_or_ne id frame.speakerid with rfl | hne
    · rw [AList.lookup_insert, Option.some.injEq] at hspeaker
      rw [← hspeaker]
      exact hrecord.addFrame hmax hplays hwindow hahead now
    · rw [AList.lookup_insert_ne hne] at hspeaker
      exact h.records id speaker hspeaker
  · rw [heq]
    exact (AList.mem_insert _).mpr (.inr (h.known d hd))

/-- A frame decoded in a round of playout was queued in its speaker's record. -/
theorem Inv.queued_of_decoded (h : Inv config base s) (hmax : config.maxplcframes ≤ 100) {now : Int}
    {item : Sigma fun _ : UInt64 => Speaker} (hitem : item ∈ s.playback.speakers.entries)
    {f : RemoteFrame} (hf : f ∈ Decoding.queued (item.2.mix config now).2) :
    f.speakerid = item.1 ∧ item.2.Plays item.1 f ∧ f ∈ item.2.jitter := by
  have hrecord := h.records item.1 item.2 (AList.mem_lookup_iff.mpr hitem)
  have hqueued := (hrecord.mix hmax now).2 f hf
  exact ⟨(hrecord.own f hqueued).1, hrecord.own f hqueued, hqueued⟩

/-- Records of other speakers decode other speakers' frames. -/
theorem Inv.decoded_of_plays (h : Inv config base s) (hmax : config.maxplcframes ≤ 100) {now : Int}
    {id : UInt64} (hlookup : s.playback.speakers.lookup id = some speaker) {f : RemoteFrame}
    (hf : f ∈ s.playback.speakers.entries.flatMap fun item =>
      Decoding.queued (item.2.mix config now).2) (hid : f.speakerid = id) :
    f ∈ Decoding.queued (speaker.mix config now).2 := by
  obtain ⟨item, hitem, hf⟩ := List.mem_flatMap.mp hf
  obtain ⟨hown, -, -⟩ := h.queued_of_decoded hmax hitem hf
  have hitem' := AList.mem_lookup_iff.mpr hitem
  rw [← hown, hid] at hitem'
  rw [Option.some.inj (hlookup.symm.trans hitem')]
  exact hf

/-- **Playout keeps the invariant.** -/
theorem Inv.mixOneFrame (h : Inv config base s) (hmax : config.maxplcframes ≤ 100) {now : Int}
    {decode : UInt64 → Option (List Int)}
    (hstep : step config s (.mixOneFrame now decode) = some t) : Inv config base t := by
  obtain rfl := Option.some.inj hstep
  obtain ⟨hspeakers, hcalls⟩ := mixOneFrame_playout config now decode s.playback
  rw [decodedFrames_decodeCalls] at hcalls
  have hentries : ∀ item ∈ s.playback.speakers.entries, ∀ f ∈
      Decoding.queued (item.2.mix config now).2,
      item.2.Plays item.1 f ∧ Record config base item.1 s.decoded item.2 ∧ f ∈ item.2.jitter :=
    fun item hitem f hf => ⟨(h.queued_of_decoded hmax hitem hf).2.1,
      h.records _ _ (AList.mem_lookup_iff.mpr hitem), (h.queued_of_decoded hmax hitem hf).2.2⟩
  refine ⟨?_, fun id speaker hspeaker => ?_, ?_, ?_⟩
  · intro d hd
    dsimp only at hd
    rw [hcalls] at hd
    rcases List.mem_append.mp hd with hd | hd
    · exact h.honest d hd
    · obtain ⟨item, hitem, hd⟩ := List.mem_flatMap.mp hd
      obtain ⟨⟨hid, hgeneration, hstream⟩, hrecord, hqueued⟩ := hentries item hitem d hd
      have hwindow := hrecord.window d hqueued
      rw [Honest, baseOf, hid, hgeneration, hstream]
      exact hwindow
  · dsimp only at hspeaker ⊢
    rw [hspeakers, lookup_mapSpeakers, Option.map_eq_some_iff] at hspeaker
    obtain ⟨before, hlookup, rfl⟩ := hspeaker
    rw [hcalls]
    refine ((h.records id before hlookup).mix hmax now).1.of_decoded fun d hd hplays => ?_
    rcases List.mem_append.mp hd with hd | hd
    · exact List.mem_append_left _ hd
    · exact List.mem_append_right _ (h.decoded_of_plays hmax hlookup hd hplays.1)
  · intro d hd
    dsimp only at hd ⊢
    rw [hcalls] at hd
    rw [hspeakers, ← AList.lookup_isSome, lookup_mapSpeakers, Option.isSome_map,
      AList.lookup_isSome]
    rcases List.mem_append.mp hd with hd | hd
    · exact h.known d hd
    · obtain ⟨item, hitem, hd⟩ := List.mem_flatMap.mp hd
      rw [(hentries item hitem d hd).1.1]
      exact AList.lookup_isSome.mp (AList.mem_lookup_iff.mpr hitem ▸ rfl)
  · dsimp only
    rw [hcalls]
    refine List.pairwise_append.mpr ⟨h.order, List.pairwise_flatMap.mpr ⟨?_, ?_⟩, ?_⟩
    · intro item _
      rcases (item.2.mix config now).2 with _ | (frame | _) <;> simp [Decoding.queued]
    · refine (List.nodupKeys_iff_pairwise.mp s.playback.speakers.nodupKeys).imp_of_mem ?_
      intro item item' hitem hitem' hne f hf g hg hsame
      rw [(hentries item hitem f hf).1.1.symm, (hentries item' hitem' g hg).1.1.symm] at hne
      exact absurd hsame.1 hne
    · intro d hd f hf hsame
      obtain ⟨item, hitem, hf⟩ := List.mem_flatMap.mp hf
      obtain ⟨hplays, hrecord, hqueued⟩ := hentries item hitem f hf
      have hplays' : item.2.Plays item.1 d :=
        ⟨hsame.1.trans hplays.1, hsame.2.1.trans hplays.2.1, hsame.2.2.trans hplays.2.2⟩
      exact (newer_iff_into (h.honest d hd) hplays' hplays (hrecord.window f hqueued)).mpr
        (hrecord.ahead f hqueued d hd hplays')

/-- Each call of a run under the condition keeps the invariant. -/
theorem Inv.step (h : Inv config base s) (hmin : 0 ≤ config.maxplcframes)
    (hmax : config.maxplcframes ≤ 100) {a : PlaybackStep}
    (hcondition : HonestStep base a ∧ NotBehind config s a)
    (hstep : step config s a = some t) : Inv config base t := by
  cases a with
  | addRemoteFrame now setupOk frame =>
      exact h.addRemoteFrame hmin hmax hcondition.1 hcondition.2 hstep
  | mixOneFrame now decode => exact h.mixOneFrame hmax hstep

/-- Before any call. -/
theorem Inv.start (config : ProcessorConfig) (base : Bases) : Inv config base {} :=
  ⟨by simp, by simp, by simp, List.Pairwise.nil⟩

end PlaybackRun

theorem sanitizeConfig_maxplcframes (requested : ProcessorConfig) :
    0 ≤ (sanitizeConfig requested).maxplcframes ∧
      (sanitizeConfig requested).maxplcframes ≤ 100 := by
  simp only [sanitizeConfig]
  omega

/-- **Playback order.**  Frames of honest streams, delivered in any order with
any loss, duplication and delay, are decoded in strictly increasing order in
every run in which no frame older than what has been decoded is admitted to a
record without an expected sequence. -/
theorem playback_in_order {requested : ProcessorConfig} {base : Bases} {s : PlaybackRun}
    (h : Exec.ReachedAlong (step (sanitizeConfig requested))
      (fun s a => HonestStep base a ∧ NotBehind (sanitizeConfig requested) s a) {} s) :
    InOrder s.decoded := by
  obtain ⟨hmin, hmax⟩ := sanitizeConfig_maxplcframes requested
  refine (h.invariant (Inv (sanitizeConfig requested) base) (Inv.start _ _) ?_).order
  intro s a t hinv hcondition hstep
  exact hinv.step hmin hmax hcondition hstep

/-- Frames `2, 0, 0, 1`, then `1` again once it has been decoded. -/
theorem playback_in_order_reordered :
    ∃ s : PlaybackRun, InOrder s.decoded ∧ s.decoded.map (·.sequence) = [0, 1, 2] := by
  let frame (n : UInt32) : RemoteFrame :=
    { speakerid := 1, speakergeneration := 1, streamgeneration := 1, sequence := n }
  let run : List PlaybackStep :=
    [.addRemoteFrame 0 true (frame 2), .addRemoteFrame 0 true (frame 0),
      .addRemoteFrame 0 true (frame 0), .addRemoteFrame 0 true (frame 1),
      .mixOneFrame (milliseconds 80) fun _ => none,
      .mixOneFrame (milliseconds 100) fun _ => none,
      .addRemoteFrame (milliseconds 110) true (frame 1),
      .mixOneFrame (milliseconds 120) fun _ => none]
  obtain ⟨s, hs, hplayed⟩ : ∃ s, Exec.exec (step (sanitizeConfig {})) {} run = some s ∧
      decide (s.decoded.map (·.sequence) = [0, 1, 2]) = true :=
    Exec.exec_any (by decide +kernel)
  have halong : Exec.Along (step (sanitizeConfig {}))
      (fun s a => HonestStep (fun _ _ _ => 0) a ∧ NotBehind (sanitizeConfig {}) s a) {} run := by
    decide +kernel
  exact ⟨s, playback_in_order ⟨run, hs, halong⟩, of_decide_eq_true hplayed⟩

/-- **Playback repeats.**  A frame is decoded, five are concealed, concealment
runs out; a duplicate of the frame is admitted and decoded again. -/
theorem playback_repeats :
    ¬ ∀ (requested : ProcessorConfig) (base : Bases) (s : PlaybackRun),
      Exec.ReachedAlong (step (sanitizeConfig requested)) (fun _ a => HonestStep base a) {} s →
      InOrder s.decoded := by
  let frame : RemoteFrame := { speakerid := 1, speakergeneration := 1, streamgeneration := 1 }
  let mix (time : Int) : PlaybackStep := .mixOneFrame (milliseconds time) fun _ => none
  let run : List PlaybackStep :=
    [.addRemoteFrame 0 true frame, mix 80, mix 100, mix 120, mix 140, mix 160, mix 180, mix 200,
      .addRemoteFrame (milliseconds 210) true frame, mix 220]
  obtain ⟨s, hs, hrepeated⟩ : ∃ s, Exec.exec (step (sanitizeConfig {})) {} run = some s ∧
      decide (s.decoded = [frame, frame]) = true :=
    Exec.exec_any (by decide +kernel)
  have hhonest : Exec.Along (step (sanitizeConfig {}))
      (fun _ a => HonestStep (fun _ _ _ => 0) a) {} run := by
    decide +kernel
  intro hlaw
  have horder := hlaw {} (fun _ _ _ => 0) s ⟨run, hs, hhonest⟩
  rw [of_decide_eq_true hrepeated] at horder
  exact absurd horder (by decide +kernel)

end Voice
