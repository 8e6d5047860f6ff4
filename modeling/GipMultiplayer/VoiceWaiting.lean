import GipMultiplayer.OldestFrame
import GipMultiplayer.VoiceConcealment
import GipMultiplayer.VoicePlaybackOrder

/-!
# Waiting for playout

How long a queued frame waits.  In a round that finds its speaker due, the
speaker plays the expected frame, conceals a missing one, or stops; a speaker
that has stopped starts again on its oldest frame.  Frames go on arriving
meanwhile.  They cannot keep the frame waiting: between it and what has been
decoded there are only so many sequences, each is decoded once, and between two
of them playout conceals at most `maxplcframes` and stops at most once.

Two things take a frame from the queue undecoded: a full queue gives up its
oldest frame for a newer one, and a reset clears it.

* `waits` — the due rounds a queued frame may have to wait;
* `Record.mix_waits` — a due round decodes the frame or leaves it less to wait;
* `queued_frame_decoded` — the law over any run of arrivals and rounds.
-/

namespace Voice

open PlaybackRun

/-! ## What is waited for -/

/-- A round at `now` does something with the speaker: its next slot has come, or
it is stopped and may start. -/
def Speaker.due (config : ProcessorConfig) (now : Int) (speaker : Speaker) : Bool :=
  if speaker.playing then decide (speaker.nextplayout ≤ now)
  else decide (¬ (speaker.jitter.length < config.initialjitterpackets ∧
    now - speaker.firstarrival <
      milliseconds (frameMilliseconds * config.initialjitterpackets)))

/-- How far the stream the speaker plays has been decoded. -/
def Speaker.heard (base : Bases) (id : UInt64) (decoded : List RemoteFrame)
    (speaker : Speaker) : Nat :=
  ((decoded.filter fun d => d.speakerid = id ∧ d.speakergeneration = speaker.speakergeneration ∧
      d.streamgeneration = speaker.streamgeneration).map fun d =>
    speaker.into base id d.sequence + 1).foldr max 0

/-- The rounds spent since the last decoded frame: on concealment, and on the
stop after the last of it. -/
def Speaker.spent (config : ProcessorConfig) (speaker : Speaker) : Nat :=
  if speaker.playing then speaker.consecutivemissing.toNat else config.maxplcframes.toNat + 1

/-- The due rounds until a queued frame is decoded, at most: for each sequence
up to it a full stretch of concealment, a stop and a round that decodes. -/
def Speaker.waits (config : ProcessorConfig) (base : Bases) (id : UInt64)
    (decoded : List RemoteFrame) (speaker : Speaker) (frame : RemoteFrame) : Nat :=
  (speaker.into base id frame.sequence + 1 - speaker.heard base id decoded) *
    (config.maxplcframes.toNat + 2) - speaker.spent config

variable {config : ProcessorConfig} {base : Bases} {id : UInt64}
  {decoded decoded' : List RemoteFrame} {speaker after : Speaker} {frame : RemoteFrame}

theorem foldr_max_le_iff (values : List Nat) (n : Nat) :
    values.foldr max 0 ≤ n ↔ ∀ value ∈ values, value ≤ n := by
  induction values with
  | nil => simp
  | cons value rest ih => rw [List.foldr_cons, Nat.max_le, ih, List.forall_mem_cons]

theorem Speaker.heard_le_iff (n : Nat) :
    speaker.heard base id decoded ≤ n ↔
      ∀ d ∈ decoded, speaker.Plays id d → speaker.into base id d.sequence < n := by
  rw [heard, foldr_max_le_iff]
  simp only [List.mem_map, List.mem_filter, decide_eq_true_eq, Plays]
  constructor
  · intro h d hd hplays
    exact h _ ⟨d, ⟨hd, hplays⟩, rfl⟩
  · rintro h value ⟨d, ⟨hd, hplays⟩, rfl⟩
    exact h d hd hplays

/-- What has been decoded has been heard. -/
theorem Speaker.into_lt_heard {d : RemoteFrame} (hd : d ∈ decoded) (hplays : speaker.Plays id d) :
    speaker.into base id d.sequence < speaker.heard base id decoded :=
  (heard_le_iff _).mp le_rfl d hd hplays

/-- More decoded is more heard. -/
theorem Speaker.heard_mono (hsub : ∀ d ∈ decoded, d ∈ decoded') :
    speaker.heard base id decoded ≤ speaker.heard base id decoded' :=
  (heard_le_iff _).mpr fun _ hd hplays => into_lt_heard (hsub _ hd) hplays

/-- What is queued has not been heard. -/
theorem Record.heard_le (h : Record config base id decoded speaker)
    (hframe : frame ∈ speaker.jitter) :
    speaker.heard base id decoded ≤ speaker.into base id frame.sequence :=
  (Speaker.heard_le_iff _).mpr fun d hd hplays => h.ahead frame hframe d hd hplays

/-- The stop is the last round that can be spent. -/
theorem Record.spent_le (h : Record config base id decoded speaker) :
    speaker.spent config ≤ config.maxplcframes.toNat + 1 := by
  have hmissing := h.missing
  unfold Speaker.spent
  split_ifs <;> omega

/-- A queued frame has a round to wait. -/
theorem Record.waits_pos (h : Record config base id decoded speaker)
    (hframe : frame ∈ speaker.jitter) : 0 < speaker.waits config base id decoded frame := by
  have hheard := h.heard_le hframe
  have hspent := h.spent_le
  have hone : 1 * (config.maxplcframes.toNat + 2) ≤
      (speaker.into base id frame.sequence + 1 - speaker.heard base id decoded) *
        (config.maxplcframes.toNat + 2) :=
    Nat.mul_le_mul_right _ (by omega)
  unfold Speaker.waits
  omega

/-! ## A due round -/

/-- The two records play the same stream. -/
def Speaker.SameTimeline (before after : Speaker) : Prop :=
  after.speakergeneration = before.speakergeneration ∧
    after.streamgeneration = before.streamgeneration

theorem Speaker.SameTimeline.into_eq (h : speaker.SameTimeline after) (sequence : UInt32) :
    after.into base id sequence = speaker.into base id sequence := by
  rw [into, into, Speaker.base, Speaker.base, h.1, h.2]

theorem Speaker.SameTimeline.heard_eq (h : speaker.SameTimeline after) :
    after.heard base id decoded = speaker.heard base id decoded := by
  simp only [heard, h.into_eq, h.1, h.2]

/-- A round that is spent without a frame leaves one round less. -/
theorem Record.waits_lt_of_spent (h : Record config base id decoded speaker)
    (hframe : frame ∈ speaker.jitter) (hsame : speaker.SameTimeline after)
    (hsub : ∀ d ∈ decoded, d ∈ decoded')
    (hspent : speaker.spent config < after.spent config) :
    after.waits config base id decoded' frame < speaker.waits config base id decoded frame := by
  have hpos := h.waits_pos hframe
  have hheard : speaker.heard base id decoded ≤ after.heard base id decoded' :=
    hsame.heard_eq ▸ Speaker.heard_mono hsub
  have hleft : (after.into base id frame.sequence + 1 - after.heard base id decoded') *
        (config.maxplcframes.toNat + 2) ≤
      (speaker.into base id frame.sequence + 1 - speaker.heard base id decoded) *
        (config.maxplcframes.toNat + 2) := by
    rw [hsame.into_eq]
    exact Nat.mul_le_mul_right _ (Nat.sub_le_sub_left hheard _)
  unfold Speaker.waits at hpos ⊢
  omega

/-- A round that decodes another frame leaves a sequence less. -/
theorem Record.waits_lt_of_heard (h : Record config base id decoded speaker)
    (hframe : frame ∈ speaker.jitter) (hsame : speaker.SameTimeline after)
    (hheard : speaker.heard base id decoded < after.heard base id decoded') :
    after.waits config base id decoded' frame < speaker.waits config base id decoded frame := by
  have hpos := h.waits_pos hframe
  have hspent := h.spent_le
  have hqueued := h.heard_le hframe
  obtain ⟨left, hleft⟩ : ∃ left,
      speaker.into base id frame.sequence + 1 - speaker.heard base id decoded = left + 1 :=
    ⟨speaker.into base id frame.sequence - speaker.heard base id decoded, by omega⟩
  have hafter : (after.into base id frame.sequence + 1 - after.heard base id decoded') *
      (config.maxplcframes.toNat + 2) ≤ left * (config.maxplcframes.toNat + 2) := by
    rw [hsame.into_eq]
    exact Nat.mul_le_mul_right _ (by omega)
  unfold Speaker.waits at hpos ⊢
  rw [hleft, Nat.succ_mul] at hpos ⊢
  omega

/-- A queued frame stays queued while another one is played. -/
theorem mem_eraseP_of_ne (hframe : frame ∈ speaker.jitter)
    (hne : frame.sequence ≠ speaker.expectedsequence) :
    frame ∈ speaker.jitter.eraseP (·.sequence == speaker.expectedsequence) :=
  (List.mem_eraseP_of_neg (by simpa using hne)).mpr hframe

/-- The frame found at the expected sequence is the one queued there. -/
theorem Record.find_unique (h : Record config base id decoded speaker)
    (hframe : frame ∈ speaker.jitter) (heq : frame.sequence = speaker.expectedsequence)
    {found : RemoteFrame}
    (hfind : speaker.jitter.find? (·.sequence == speaker.expectedsequence) = some found) :
    found = frame := by
  have hfound : found.sequence = speaker.expectedsequence := by
    simpa using List.find?_some hfind
  exact List.inj_on_of_nodup_map h.distinct (List.mem_of_find?_eq_some hfind) hframe
    (hfound.trans heq.symm)

/-- A slot that plays a queued frame plays the one waited for, or one heard
before it. -/
theorem Record.playSlot_found (h : Record config base id decoded speaker)
    (hframe : frame ∈ speaker.jitter) {found : RemoteFrame}
    (hfind : speaker.jitter.find? (·.sequence == speaker.expectedsequence) = some found)
    (hsub : ∀ d ∈ decoded ++ Decoding.queued (speaker.playSlot config).2, d ∈ decoded') :
    frame ∈ Decoding.queued (speaker.playSlot config).2 ∨
      frame ∈ (speaker.playSlot config).1.jitter ∧
        speaker.SameTimeline (speaker.playSlot config).1 ∧
        speaker.heard base id decoded < (speaker.playSlot config).1.heard base id decoded' := by
  unfold Speaker.playSlot at hsub ⊢
  simp only [hfind] at hsub ⊢
  by_cases heq : frame.sequence = speaker.expectedsequence
  · exact .inl (List.mem_singleton.mpr (h.find_unique hframe heq hfind).symm)
  · have hmem := List.mem_of_find?_eq_some hfind
    have hheard : speaker.into base id found.sequence < speaker.heard base id decoded' :=
      Speaker.into_lt_heard
        (hsub found (List.mem_append_right _ (List.mem_singleton_self found))) (h.own found hmem)
    exact .inr ⟨mem_eraseP_of_ne hframe heq, ⟨rfl, rfl⟩, (h.heard_le hmem).trans_lt hheard⟩

/-- **A slot of a speaker that plays** decodes the frame or leaves it less to
wait. -/
theorem Record.playSlot_waits (h : Record config base id decoded speaker)
    (hplaying : speaker.playing = true) (hframe : frame ∈ speaker.jitter)
    (hsub : ∀ d ∈ decoded ++ Decoding.queued (speaker.playSlot config).2, d ∈ decoded') :
    frame ∈ Decoding.queued (speaker.playSlot config).2 ∨
      frame ∈ (speaker.playSlot config).1.jitter ∧
        (speaker.playSlot config).1.waits config base id decoded' frame <
          speaker.waits config base id decoded frame := by
  cases hfind : speaker.jitter.find? (·.sequence == speaker.expectedsequence) with
  | some found =>
      refine (h.playSlot_found hframe hfind hsub).imp_right fun ⟨hqueued, hsame, hheard⟩ => ?_
      exact ⟨hqueued, h.waits_lt_of_heard hframe hsame hheard⟩
  | none =>
      have hmissing := h.missing
      unfold Speaker.playSlot at hsub ⊢
      simp only [hfind] at hsub ⊢
      have hbefore : ∀ d ∈ decoded, d ∈ decoded' := fun d hd => hsub d (List.mem_append_left _ hd)
      split_ifs with hroom
      · refine .inr ⟨hframe, h.waits_lt_of_spent hframe ⟨rfl, rfl⟩ hbefore ?_⟩
        simp only [Speaker.spent, Speaker.advance, hplaying, if_true]
        omega
      · refine .inr ⟨hframe, h.waits_lt_of_spent hframe ⟨rfl, rfl⟩ hbefore ?_⟩
        simp only [Speaker.spent, hplaying, if_true, Bool.false_eq_true, if_false]
        omega

/-- **A due round** decodes the frame or leaves it less to wait. -/
theorem Record.mix_waits (h : Record config base id decoded speaker)
    (hframe : frame ∈ speaker.jitter) {now : Int} (hdue : speaker.due config now = true)
    (hsub : ∀ d ∈ decoded ++ Decoding.queued (speaker.mix config now).2, d ∈ decoded') :
    frame ∈ Decoding.queued (speaker.mix config now).2 ∨
      frame ∈ (speaker.mix config now).1.jitter ∧
        (speaker.mix config now).1.waits config base id decoded' frame <
          speaker.waits config base id decoded frame := by
  cases hplaying : speaker.playing with
  | true =>
      have hnow : ¬ now < speaker.nextplayout := by
        simpa [Speaker.due, hplaying] using hdue
      have hmix : speaker.mix config now = speaker.playSlot config := by
        simp [Speaker.mix, hplaying, hnow]
      rw [hmix] at hsub ⊢
      exact h.playSlot_waits hplaying hframe hsub
  | false =>
      -- the oldest frame is found in the slot that starts with it
      obtain ⟨started, hstart⟩ : ∃ started, speaker.startPlayout config now = some started := by
        have hwaited : ¬ (speaker.jitter.length < config.initialjitterpackets ∧
            now - speaker.firstarrival <
              milliseconds (frameMilliseconds * config.initialjitterpackets)) := by
          simpa only [Speaker.due, hplaying, Bool.false_eq_true, if_false, decide_eq_true_eq]
            using hdue
        have holdest := List.getElem?_eq_getElem
          (oldestIndex_lt (List.ne_nil_of_mem hframe))
        exact ⟨_, by rw [Speaker.startPlayout, if_neg hwaited, holdest]⟩
      obtain ⟨hrecord, -, -⟩ := h.startPlayout hstart
      obtain ⟨oldest, holdest, rfl⟩ := Speaker.startPlayout_some hstart
      have hmix : speaker.mix config now = Speaker.playSlot config
          { speaker with
            expectedsequence := oldest.sequence
            hasexpected := true
            playing := true
            nextplayout := now } := by
        simp [Speaker.mix, hplaying, hstart]
      have hsome : (speaker.jitter.find? (·.sequence == oldest.sequence)).isSome = true :=
        List.find?_isSome.mpr ⟨oldest, holdest, beq_self_eq_true oldest.sequence⟩
      obtain ⟨found, hfind⟩ := Option.isSome_iff_exists.mp hsome
      rw [hmix] at hsub ⊢
      refine (hrecord.playSlot_found hframe hfind hsub).imp_right fun ⟨hqueued, hsame, hheard⟩ => ?_
      exact ⟨hqueued, h.waits_lt_of_heard hframe hsame hheard⟩

/-- A round that does not find the speaker due leaves it. -/
theorem Speaker.mix_of_not_due {now : Int} (hdue : speaker.due config now = false) :
    speaker.mix config now = (speaker, none) := by
  unfold due at hdue
  unfold mix startPlayout
  cases hplaying : speaker.playing with
  | true =>
      rw [hplaying, if_pos rfl, decide_eq_false_iff_not, not_le] at hdue
      rw [if_pos rfl]
      exact if_pos hdue
  | false =>
      rw [hplaying, if_neg Bool.false_ne_true, decide_eq_false_iff_not, not_not] at hdue
      rw [if_neg Bool.false_ne_true, if_pos hdue]

/-! ## An arrival -/

/-- A full queue gives the frame up for the one that arrives. -/
def Speaker.Evicts (config : ProcessorConfig) (speaker : Speaker) (arrived frame : RemoteFrame) :
    Prop :=
  config.jitterpackets ≤ speaker.jitter.length ∧
    speaker.jitter[oldestIndex speaker.jitter]? = some frame ∧
    isTeamVoiceSequenceNewer arrived.sequence frame.sequence = true

instance (arrived : RemoteFrame) : Decidable (speaker.Evicts config arrived frame) :=
  inferInstanceAs (Decidable (_ ∧ _))

/-- A place of the queue is taken by no frame but the oldest one. -/
theorem Speaker.enqueue_keeps {arrived : RemoteFrame} (hframe : frame ∈ speaker.jitter)
    (hkept : ¬ speaker.Evicts config arrived frame) (now : Int) :
    frame ∈ (speaker.enqueue config now arrived).jitter := by
  unfold enqueue
  split_ifs with hfull
  · cases holdest : speaker.jitter[oldestIndex speaker.jitter]? with
    | none => exact hframe
    | some oldest =>
        dsimp only
        split_ifs with hnewer
        · have hne : frame ≠ oldest := by
            rintro rfl
            exact hkept ⟨hfull, holdest, hnewer⟩
          obtain ⟨position, hposition⟩ := List.mem_iff_getElem?.mp hframe
          have hother : oldestIndex speaker.jitter ≠ position := by
            rintro rfl
            exact hne (Option.some.inj (hposition.symm.trans holdest))
          refine List.mem_iff_getElem?.mpr ⟨position, ?_⟩
          rw [List.getElem?_set_ne hother, hposition]
        · exact hframe
  · exact List.mem_append_left _ hframe

/-- **An arrival** leaves a queued frame that it does not replace. -/
theorem Speaker.addFrame_keeps {arrived : RemoteFrame} (hframe : frame ∈ speaker.jitter)
    (hkept : ¬ speaker.Evicts config arrived frame) (now : Int) :
    frame ∈ (speaker.addFrame config now arrived).jitter := by
  unfold addFrame
  split_ifs
  · exact hframe
  · exact hframe
  · have hjitter : (speaker.raiseHighest arrived.sequence).jitter = speaker.jitter := by
      obtain ⟨_, _, hraised⟩ := raiseHighest_eq speaker arrived.sequence
      rw [hraised]
    refine enqueue_keeps (hjitter ▸ hframe) ?_ now
    rwa [Evicts, hjitter]

/-- An arrival does not make a frame wait longer. -/
theorem Speaker.addFrame_waits (arrived : RemoteFrame) (now : Int) :
    (speaker.addFrame config now arrived).waits config base id decoded frame =
      speaker.waits config base id decoded frame := by
  obtain ⟨_, _, _, _, heq⟩ := addFrame_eq config now speaker arrived
  rw [heq]
  rfl

/-- The call takes the frame from the record undecoded: it resets the record, or
the full queue gives the frame up. -/
def Speaker.Drops (config : ProcessorConfig) (setupOk : Bool) (speaker : Speaker)
    (arrived frame : RemoteFrame) : Prop :=
  if speaker.needsReset arrived then speaker.refusesReset arrived = false ∧ setupOk = true
  else speaker.Evicts config arrived frame

instance (setupOk : Bool) (arrived : RemoteFrame) :
    Decidable (speaker.Drops config setupOk arrived frame) :=
  inferInstanceAs (Decidable (ite _ _ _))

/-- A record from which an arrival drops nothing is left alone, or takes the
arrival in. -/
theorem addRemoteFrame_kept {speakers : Speakers} {arrived : RemoteFrame} {setupOk : Bool}
    (hlookup : speakers.lookup arrived.speakerid = some speaker)
    (hkept : ¬ speaker.Drops config setupOk arrived frame) (now : Int) :
    addRemoteFrame config now setupOk speakers arrived = speakers ∨
      (¬ speaker.Evicts config arrived frame ∧
        addRemoteFrame config now setupOk speakers arrived =
          speakers.insert arrived.speakerid (speaker.addFrame config now arrived)) := by
  unfold Speaker.Drops at hkept
  unfold addRemoteFrame
  rw [hlookup]
  dsimp only
  split_ifs at hkept ⊢ with hneeds hrefuses
  · exact .inl rfl
  · have hsetup : setupOk = false := by simpa [hrefuses] using hkept
    rw [hsetup]
    exact .inl rfl
  · exact .inr ⟨hkept, rfl⟩

/-! ## Runs -/

namespace PlaybackRun

/-- The call takes the frame from the queue of speaker `id` undecoded. -/
def Drops (config : ProcessorConfig) (id : UInt64) (frame : RemoteFrame) (s : PlaybackRun) :
    PlaybackStep → Prop
  | .addRemoteFrame _ setupOk arrived =>
      arrived.speakerid = id ∧ ∃ speaker ∈ s.playback.speakers.lookup id,
        speaker.Drops config setupOk arrived frame
  | .mixOneFrame _ _ => False

instance (s : PlaybackRun) : (a : PlaybackStep) → Decidable (Drops config id frame s a)
  | .addRemoteFrame _ setupOk arrived => inferInstanceAs (Decidable (_ ∧
      ∃ speaker ∈ s.playback.speakers.lookup id,
        Speaker.Drops config setupOk speaker arrived frame))
  | .mixOneFrame _ _ => .isFalse not_false

/-- The call is a round that finds speaker `id` due. -/
def dueRound (config : ProcessorConfig) (id : UInt64) (s : PlaybackRun) : PlaybackStep → Bool
  | .addRemoteFrame _ _ _ => false
  | .mixOneFrame now _ => (s.playback.speakers.lookup id).any fun speaker => speaker.due config now

/-- The rounds of a run that find speaker `id` due. -/
def dueRounds (config : ProcessorConfig) (id : UInt64) (s : PlaybackRun) :
    List PlaybackStep → Nat
  | [] => 0
  | call :: rest =>
      (dueRound config id s call).toNat +
        (step config s call).elim 0 fun next => dueRounds config id next rest

/-- The frame is queued in the record of speaker `id` and waits for no more than
`bound` due rounds. -/
def Awaits (config : ProcessorConfig) (base : Bases) (id : UInt64) (frame : RemoteFrame)
    (bound : Nat) (s : PlaybackRun) : Prop :=
  ∃ speaker, s.playback.speakers.lookup id = some speaker ∧ frame ∈ speaker.jitter ∧
    speaker.waits config base id s.decoded frame ≤ bound

variable {s t : PlaybackRun} {bound : Nat}

/-- **An arrival** that does not drop the frame leaves it waiting as before. -/
theorem Awaits.addRemoteFrame (h : Awaits config base id frame bound s) {now : Int}
    {setupOk : Bool} {arrived : RemoteFrame}
    (hkept : ¬ Drops config id frame s (.addRemoteFrame now setupOk arrived))
    (hstep : step config s (.addRemoteFrame now setupOk arrived) = some t) :
    Awaits config base id frame bound t := by
  obtain ⟨speaker, hlookup, hframe, hwaits⟩ := h
  obtain rfl := Option.some.inj hstep
  rcases eq_or_ne id arrived.speakerid with rfl | hne
  · have hspeaker : ¬ speaker.Drops config setupOk arrived frame :=
      fun hdrops => hkept ⟨rfl, speaker, hlookup, hdrops⟩
    rcases addRemoteFrame_kept hlookup hspeaker now with heq | ⟨hevicts, heq⟩
    · exact ⟨speaker, (congrArg (AList.lookup _) heq).trans hlookup, hframe, hwaits⟩
    · refine ⟨speaker.addFrame config now arrived, ?_,
        Speaker.addFrame_keeps hframe hevicts now, ?_⟩
      · exact (congrArg (AList.lookup _) heq).trans (AList.lookup_insert _)
      · rw [Speaker.addFrame_waits]
        exact hwaits
  · refine ⟨speaker, ?_, hframe, hwaits⟩
    rcases addRemoteFrame_cases config now setupOk s.playback.speakers arrived with
      heq | ⟨before, heq, -, -⟩
    · exact (congrArg (AList.lookup id) heq).trans hlookup
    · exact (congrArg (AList.lookup id) heq).trans ((AList.lookup_insert_ne hne).trans hlookup)

/-- What a round adds to the frames decoded. -/
theorem step_mixOneFrame {now : Int} {decode : UInt64 → Option (List Int)}
    (hstep : step config s (.mixOneFrame now decode) = some t) :
    t.playback.speakers =
        mapSpeakers (fun speaker => (speaker.mix config now).1) s.playback.speakers ∧
      t.decoded = s.decoded ++ s.playback.speakers.entries.flatMap fun item =>
        Decoding.queued (item.2.mix config now).2 := by
  obtain rfl := Option.some.inj hstep
  obtain ⟨hspeakers, hcalls⟩ := mixOneFrame_playout config now decode s.playback
  exact ⟨hspeakers, congrArg (s.decoded ++ ·) (hcalls.trans (decodedFrames_decodeCalls _ _ _))⟩

/-- **A round** decodes the frame, or leaves it a due round less to wait when it
was one. -/
theorem Awaits.mixOneFrame (hinv : Inv config base s) (h : Awaits config base id frame bound s)
    {now : Int} {decode : UInt64 → Option (List Int)}
    (hstep : step config s (.mixOneFrame now decode) = some t) :
    frame ∈ t.decoded ∨
      Awaits config base id frame
          (bound - (dueRound config id s (.mixOneFrame now decode)).toNat) t ∧
        (dueRound config id s (.mixOneFrame now decode)).toNat ≤ bound := by
  obtain ⟨speaker, hlookup, hframe, hwaits⟩ := h
  obtain ⟨hspeakers, hdecoded⟩ := step_mixOneFrame hstep
  have hrecord := hinv.records id speaker hlookup
  have hafter : t.playback.speakers.lookup id = some (speaker.mix config now).1 := by
    rw [hspeakers, lookup_mapSpeakers, hlookup, Option.map_some]
  have hround : dueRound config id s (.mixOneFrame now decode) = speaker.due config now := by
    rw [dueRound, hlookup, Option.any_some]
  have hsub : ∀ d ∈ s.decoded ++ Decoding.queued (speaker.mix config now).2, d ∈ t.decoded := by
    rw [hdecoded]
    intro d hd
    refine List.mem_append.mpr ((List.mem_append.mp hd).imp_right fun hd => ?_)
    exact List.mem_flatMap.mpr ⟨⟨id, speaker⟩, AList.mem_lookup_iff.mp hlookup, hd⟩
  rw [hround]
  cases hdue : speaker.due config now with
  | true =>
      have hpos := hrecord.waits_pos hframe
      rcases hrecord.mix_waits hframe hdue hsub with hnow | ⟨hqueued, hless⟩
      · exact .inl (hsub frame (List.mem_append_right _ hnow))
      · refine .inr ⟨⟨_, hafter, hqueued, ?_⟩, ?_⟩ <;> simp only [Bool.toNat_true] <;> omega
  | false =>
      rw [Speaker.mix_of_not_due hdue] at hafter hsub
      refine .inr ⟨⟨speaker, hafter, hframe, ?_⟩, Nat.zero_le _⟩
      have hheard : speaker.heard base id s.decoded ≤ speaker.heard base id t.decoded :=
        Speaker.heard_mono fun d hd => hsub d (List.mem_append_left _ hd)
      refine le_trans ?_ hwaits
      exact Nat.sub_le_sub_right (Nat.mul_le_mul_right _ (Nat.sub_le_sub_left hheard _)) _

/-- A run only adds to the frames decoded. -/
theorem step_decoded {a : PlaybackStep} (hstep : step config s a = some t)
    (hframe : frame ∈ s.decoded) : frame ∈ t.decoded := by
  cases a with
  | addRemoteFrame now setupOk arrived =>
      obtain rfl := Option.some.inj hstep
      exact hframe
  | mixOneFrame now decode =>
      rw [(step_mixOneFrame hstep).2]
      exact List.mem_append_left _ hframe

/-- **The run rule.**  A run of as many due rounds as the frame waits for
decodes it. -/
theorem Awaits.run (hmin : 0 ≤ config.maxplcframes) (hmax : config.maxplcframes ≤ 100)
    {calls : List PlaybackStep} (hinv : Inv config base s)
    (h : frame ∈ s.decoded ∨ Awaits config base id frame bound s)
    (halong : Exec.Along (step config) (fun m a =>
      (HonestStep base a ∧ NotBehind config m a) ∧ ¬ Drops config id frame m a) s calls)
    (hexec : Exec.exec (step config) s calls = some t)
    (hbound : bound ≤ dueRounds config id s calls) :
    frame ∈ t.decoded := by
  induction calls generalizing s bound with
  | nil =>
      obtain rfl : s = t := by simpa using hexec
      rcases h with hdecoded | ⟨speaker, hlookup, hframe, hwaits⟩
      · exact hdecoded
      · have hpos := (hinv.records id speaker hlookup).waits_pos hframe
        have hnone : bound ≤ 0 := hbound
        omega
  | cons call rest ih =>
      obtain ⟨m, hm, hrest⟩ := Exec.exec_cons_some hexec
      obtain ⟨⟨hcondition, hkept⟩, halong'⟩ := halong
      have hinv' := hinv.step hmin hmax hcondition hm
      rw [dueRounds, hm, Option.elim_some] at hbound
      rcases h with hdecoded | hawaits
      · exact ih hinv' (.inl (step_decoded hm hdecoded)) (halong' m hm) hrest (Nat.zero_le _)
      · cases call with
        | addRemoteFrame now setupOk arrived =>
            rw [dueRound, Bool.toNat_false, Nat.zero_add] at hbound
            exact ih hinv' (.inr (hawaits.addRemoteFrame hkept hm)) (halong' m hm) hrest hbound
        | mixOneFrame now decode =>
            rcases hawaits.mixOneFrame hinv hm with hnow | ⟨hlater, hround⟩
            · exact ih hinv' (.inl hnow) (halong' m hm) hrest (Nat.zero_le _)
            · exact ih hinv' (.inr hlater) (halong' m hm) hrest (by omega)

end PlaybackRun

end Voice
