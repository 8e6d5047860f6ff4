import GipMultiplayer.Stretches
import GipMultiplayer.VoiceJitter

/-!
# Concealment

What the decoders of a speaker are asked for, in order: how long a gap may be
concealed, and that a decoder which has heard nothing is never asked to conceal.
The counter of concealed frames survives the end of playback; the bound holds
because playback starts by decoding a queued frame, which clears it.

* `Mixes` — what `mixOneFrame` does with one record, and the decoder events;
* `Conceals` — the invariant of a record against its trace, kept by admission
  and playout;
* `concealment_bound` — the law.
-/

namespace Voice

namespace DecoderEvent

/-- A received frame is decoded. -/
def isFrame : DecoderEvent → Bool
  | .decode (.frame _) => true
  | _ => false

/-- A missing frame is concealed. -/
def isConceal : DecoderEvent → Bool
  | .decode .conceal => true
  | _ => false

/-- A new decoder is set up. -/
def isSetup : DecoderEvent → Bool
  | .setup ok => ok
  | _ => false

end DecoderEvent

open DecoderEvent (isFrame isConceal isSetup)

/-! ## One record -/

/-- What playout does with one record: nothing, a queued frame, concealment, the
end of playback, or a start that plays a queued frame at once. -/
inductive Speaker.Mixes (config : ProcessorConfig) (speaker : Speaker) :
    Speaker → List DecoderEvent → Prop
  | rests : Mixes config speaker speaker []
  | plays (frame : RemoteFrame) (after : Speaker) (hplaying : speaker.playing = true)
      (hmem : frame ∈ speaker.jitter) (hmissing : after.consecutivemissing = 0) :
      Mixes config speaker after [.decode (.frame frame)]
  | conceals (after : Speaker) (hplaying : speaker.playing = true)
      (hroom : speaker.consecutivemissing < config.maxplcframes)
      (hmissing : after.consecutivemissing = speaker.consecutivemissing + 1) :
      Mixes config speaker after [.decode .conceal]
  | stops (after : Speaker) (hplaying : after.playing = false)
      (hmissing : after.consecutivemissing = speaker.consecutivemissing) :
      Mixes config speaker after []
  | starts (frame : RemoteFrame) (after : Speaker) (hmem : frame ∈ speaker.jitter)
      (hmissing : after.consecutivemissing = 0) :
      Mixes config speaker after [.start, .decode (.frame frame)]

/-- A start of playback expects a queued frame, at once. -/
theorem Speaker.startPlayout_some {config : ProcessorConfig} {now : Int}
    {speaker started : Speaker} (h : speaker.startPlayout config now = some started) :
    ∃ oldest ∈ speaker.jitter, started =
      { speaker with
        expectedsequence := oldest.sequence
        hasexpected := true
        playing := true
        nextplayout := now } := by
  unfold startPlayout at h
  split_ifs at h
  split at h
  · cases h
  · rename_i oldest holdest
    exact ⟨oldest, List.mem_of_getElem? holdest, (Option.some.inj h).symm⟩

/-- A slot whose frame is queued plays it. -/
theorem Speaker.playSlot_queued (config : ProcessorConfig) (speaker : Speaker)
    {queued : RemoteFrame} (hmem : queued ∈ speaker.jitter)
    (hexpected : speaker.expectedsequence = queued.sequence) :
    ∃ frame ∈ speaker.jitter, (speaker.playSlot config).2 = some (.frame frame) ∧
      (speaker.playSlot config).1.consecutivemissing = 0 := by
  unfold playSlot
  cases hfind : speaker.jitter.find? (·.sequence == speaker.expectedsequence) with
  | none =>
      have hnone := List.find?_eq_none.mp hfind queued hmem
      simp [hexpected] at hnone
  | some frame => exact ⟨frame, List.mem_of_find?_eq_some hfind, rfl, rfl⟩

/-- **What playout does with one record.**  Concealment needs a record that
plays, and a record starts to play on a frame it has. -/
theorem Speaker.mix_mixes (config : ProcessorConfig) (now : Int) (speaker : Speaker) :
    Mixes config speaker (speaker.mix config now).1 (speaker.mixEvents config now) := by
  unfold Speaker.mixEvents Speaker.mix
  cases hplaying : speaker.playing with
  | true =>
      simp only [if_true, Bool.true_eq_false, false_and, if_false, List.nil_append]
      split_ifs
      · exact .rests
      · unfold playSlot
        cases hfind : speaker.jitter.find? (·.sequence == speaker.expectedsequence) with
        | some frame => exact .plays frame _ hplaying (List.mem_of_find?_eq_some hfind) rfl
        | none =>
            dsimp only
            split_ifs with hroom
            · exact .conceals _ hplaying hroom rfl
            · exact .stops _ rfl rfl
  | false =>
      cases hstart : speaker.startPlayout config now with
      | none => exact .rests
      | some started =>
          obtain ⟨oldest, hmem, rfl⟩ := startPlayout_some hstart
          obtain ⟨frame, hframe, hdecoded, hmissing⟩ :=
            playSlot_queued config
              { speaker with
                expectedsequence := oldest.sequence
                hasexpected := true
                playing := true
                nextplayout := now } hmem rfl
          simp only [Bool.false_eq_true, if_false, true_and, Option.isSome_some, if_true,
            lt_irrefl, hdecoded]
          exact .starts frame _ hframe hmissing

/-- A start decodes a queued frame in the same call. -/
theorem Speaker.Mixes.started {config : ProcessorConfig} {speaker after : Speaker}
    {events : List DecoderEvent} (hmixes : speaker.Mixes config after events)
    (hstart : .start ∈ events) :
    ∃ frame ∈ speaker.jitter, events = [.start, .decode (.frame frame)] := by
  cases hmixes with
  | rests => simp at hstart
  | plays => simp at hstart
  | conceals => simp at hstart
  | stops => simp at hstart
  | starts frame _ hmem => exact ⟨frame, hmem, rfl⟩

/-- Playback that was off and is on has started. -/
theorem Speaker.Mixes.restarted {config : ProcessorConfig} {speaker after : Speaker}
    {events : List DecoderEvent} (hmixes : speaker.Mixes config after events)
    (hidle : speaker.playing = false) (hplaying : after.playing = true) :
    ∃ frame ∈ speaker.jitter, events = [.start, .decode (.frame frame)] := by
  cases hmixes with
  | rests =>
      rw [hidle] at hplaying
      cases hplaying
  | plays _ _ hbefore =>
      rw [hidle] at hbefore
      cases hbefore
  | conceals _ hbefore =>
      rw [hidle] at hbefore
      cases hbefore
  | stops _ hafter =>
      rw [hafter] at hplaying
      cases hplaying
  | starts frame _ hmem => exact ⟨frame, hmem, rfl⟩

/-! ## Traces -/

/-- No gap is concealed for longer than allowed, and no decoder conceals before
it has decoded a frame. -/
structure Concealed (config : ProcessorConfig) (trace : List DecoderEvent) : Prop where
  bounded : Stretch.AtMost isFrame isConceal config.maxplcframes.toNat trace
  quiet : Stretch.Quiet isFrame isSetup isConceal trace

/-- The counter lies in its bounds; while the record plays, it covers what has
been concealed since the last frame, and its decoder has decoded one. -/
structure Speaker.Conceals (config : ProcessorConfig) (trace : List DecoderEvent)
    (speaker : Speaker) : Prop where
  missing : 0 ≤ speaker.consecutivemissing ∧ speaker.consecutivemissing ≤ config.maxplcframes
  covers : speaker.playing = true →
    ((Stretch.since isFrame trace).countP isConceal : Int) ≤ speaker.consecutivemissing
  heard : speaker.playing = true → ∀ e ∈ Stretch.since isFrame trace, isSetup e = false

variable {config : ProcessorConfig} {trace : List DecoderEvent} {speaker after : Speaker}

theorem isFrame_of_isSetup (event : DecoderEvent) (h : isSetup event = true) :
    isFrame event = false := by
  cases event with
  | setup ok => rfl
  | start => rfl
  | decode call => cases h

/-- An event that conceals nothing is always in order. -/
theorem Concealed.other (h : Concealed config trace) {event : DecoderEvent}
    (hother : isConceal event = false) : Concealed config (trace ++ [event]) := by
  refine ⟨h.bounded.concat_other hother, h.quiet.concat (fun hconceal => ?_) isFrame_of_isSetup⟩
  rw [hother] at hconceal
  cases hconceal

/-- **Concealment is in order** while the record plays and its counter has room. -/
theorem Concealed.conceal (h : Concealed config trace) (hrecord : speaker.Conceals config trace)
    (hplaying : speaker.playing = true)
    (hroom : speaker.consecutivemissing < config.maxplcframes) :
    Concealed config (trace ++ [.decode .conceal]) := by
  have hcovers := hrecord.covers hplaying
  refine ⟨h.bounded.concat ?_, h.quiet.concat (fun _ _ => hrecord.heard hplaying)
    isFrame_of_isSetup⟩
  rw [Stretch.since_concat rfl, List.countP_append, List.countP_singleton,
    show isConceal (.decode .conceal) = true from rfl, if_pos rfl]
  omega

/-- A record that does not play is bound by its counter alone. -/
theorem Speaker.Conceals.of_idle (hplaying : speaker.playing = false)
    (hmissing : 0 ≤ speaker.consecutivemissing ∧
      speaker.consecutivemissing ≤ config.maxplcframes) : speaker.Conceals config trace := by
  have hidle : speaker.playing ≠ true := by simp [hplaying]
  exact ⟨hmissing, fun h => absurd h hidle, fun h => absurd h hidle⟩

/-- A decoded frame starts the count anew. -/
theorem Speaker.Conceals.of_frame (hmax : 0 ≤ config.maxplcframes) (frame : RemoteFrame)
    (hmissing : speaker.consecutivemissing = 0) :
    speaker.Conceals config (trace ++ [.decode (.frame frame)]) := by
  have hsince : Stretch.since isFrame (trace ++ [.decode (.frame frame)]) = [] :=
    Stretch.since_concat_mark rfl
  refine ⟨by omega, fun _ => ?_, fun _ => ?_⟩
  · rw [hsince, hmissing]
    exact le_rfl
  · rw [hsince]
    simp

/-- A decoder that has decoded a frame has done so after any event but a set-up. -/
theorem Speaker.Conceals.heard_concat (h : speaker.Conceals config trace)
    (hplaying : speaker.playing = true) {event : DecoderEvent} (hframe : isFrame event = false)
    (hsetup : isSetup event = false) :
    ∀ e ∈ Stretch.since isFrame (trace ++ [event]), isSetup e = false := by
  intro e he
  rw [Stretch.since_concat hframe] at he
  rcases List.mem_append.mp he with hold | hnew
  · exact h.heard hplaying e hold
  · rw [List.mem_singleton.mp hnew]
    exact hsetup

/-- One more concealed frame is one more in the counter. -/
theorem Speaker.Conceals.conceal (h : speaker.Conceals config trace)
    (hplaying : speaker.playing = true)
    (hroom : speaker.consecutivemissing < config.maxplcframes)
    (hmissing : after.consecutivemissing = speaker.consecutivemissing + 1) :
    after.Conceals config (trace ++ [.decode .conceal]) := by
  have hcovers := h.covers hplaying
  have hbounds := h.missing
  refine ⟨by omega, fun _ => ?_, fun _ => h.heard_concat hplaying rfl rfl⟩
  rw [Stretch.since_concat rfl, List.countP_append, List.countP_singleton,
    show isConceal (.decode .conceal) = true from rfl, if_pos rfl, hmissing]
  push_cast
  omega

/-- A failed set-up leaves the decoder in use. -/
theorem Speaker.Conceals.setupFailed (h : speaker.Conceals config trace) :
    speaker.Conceals config (trace ++ [.setup false]) := by
  refine ⟨h.missing, fun hplaying => ?_, fun hplaying => h.heard_concat hplaying rfl rfl⟩
  rw [Stretch.since_concat rfl, List.countP_append, List.countP_singleton,
    show isConceal (.setup false) = false from rfl]
  exact h.covers hplaying

/-- **Playout keeps the record and its trace.** -/
theorem Speaker.Mixes.keeps {events : List DecoderEvent}
    (hmixes : speaker.Mixes config after events) (hmax : 0 ≤ config.maxplcframes)
    (htrace : Concealed config trace) (hrecord : speaker.Conceals config trace) :
    Concealed config (trace ++ events) ∧ after.Conceals config (trace ++ events) := by
  cases hmixes with
  | rests =>
      rw [List.append_nil]
      exact ⟨htrace, hrecord⟩
  | plays frame _ hplaying hmem hmissing =>
      exact ⟨htrace.other rfl, .of_frame hmax frame hmissing⟩
  | conceals _ hplaying hroom hmissing =>
      exact ⟨htrace.conceal hrecord hplaying hroom, hrecord.conceal hplaying hroom hmissing⟩
  | stops _ hplaying hmissing =>
      rw [List.append_nil]
      exact ⟨htrace, .of_idle hplaying (hmissing ▸ hrecord.missing)⟩
  | starts frame _ hmem hmissing =>
      have hstarted : Concealed config (trace ++ [.start]) := htrace.other rfl
      have hplayed : Concealed config (trace ++ [.start] ++ [.decode (.frame frame)]) :=
        hstarted.other rfl
      have hafter : after.Conceals config (trace ++ [.start] ++ [.decode (.frame frame)]) :=
        .of_frame hmax frame hmissing
      rw [List.append_assoc] at hplayed hafter
      exact ⟨hplayed, hafter⟩

/-! ## The worker -/

/-- Admission of a frame is no concern of playout. -/
theorem Speaker.Conceals.addFrame (h : speaker.Conceals config trace) (now : Int)
    (frame : RemoteFrame) : (speaker.addFrame config now frame).Conceals config trace := by
  obtain ⟨_, _, _, _, heq⟩ := Speaker.addFrame_eq config now speaker frame
  rw [heq]
  exact ⟨h.missing, h.covers, h.heard⟩

/-- A record with a new decoder does not play. -/
theorem SpeakerRecord.reset_conceals {setupOk : Bool} {codec : Nat}
    {old record : SpeakerRecord} {frame : RemoteFrame} {now : Int}
    (hmax : 0 ≤ config.maxplcframes) (hreset : old.reset setupOk codec frame now = some record) :
    record.Conceals config trace := by
  obtain ⟨speaker, hspeaker, rfl⟩ := Option.map_eq_some_iff.mp hreset
  unfold resetSpeaker at hspeaker
  split_ifs at hspeaker
  obtain rfl := Option.some.inj hspeaker
  exact .of_idle rfl ⟨le_rfl, hmax⟩

namespace SpeakerWorker

variable {w s t : SpeakerWorker} {frame : RemoteFrame}

/-- **The invariant of concealment.** -/
structure ConcealInv (config : ProcessorConfig) (w : SpeakerWorker) : Prop where
  traces : ∀ id, Concealed config (w.trace id)
  records : ∀ id record, w.speakers.lookup id = some record →
    record.Conceals config (w.trace id)

/-- The same records, or fewer, with the same traces. -/
theorem ConcealInv.of_trace (h : ConcealInv config w) (htrace : t.trace = w.trace)
    (hlookup : ∀ id record, t.speakers.lookup id = some record →
      w.speakers.lookup id = some record) : ConcealInv config t :=
  ⟨fun id => htrace ▸ h.traces id, fun id record hrecord =>
    htrace ▸ h.records id record (hlookup id record hrecord)⟩

/-- A set-up is in order on every trace. -/
theorem ConcealInv.traces_attempt (h : ConcealInv config w) (id : UInt64) (setupOk : Bool)
    (other : UInt64) : Concealed config ((w.attempt id setupOk).trace other) := by
  by_cases hid : other = id
  · rw [hid, attempt_trace_self]
    exact (h.traces id).other rfl
  · rw [attempt_trace_ne w setupOk hid]
    exact h.traces other

/-- A frame put to a record in order. -/
theorem ConcealInv.putFrame (htraces : ∀ id, Concealed config (w.trace id))
    (hothers : ∀ id record, id ≠ frame.speakerid → w.speakers.lookup id = some record →
      record.Conceals config (w.trace id)) {record : SpeakerRecord}
    (hrecord : record.Conceals config (w.trace frame.speakerid)) (now : Int) :
    ConcealInv config (w.putFrame config now record frame) := by
  refine ⟨fun id => ?_, fun id after hafter => ?_⟩
  · rw [putFrame_trace]
    exact htraces id
  · rw [putFrame_trace]
    rcases Keyed.lookup_insert_cases hafter with ⟨rfl, rfl⟩ | ⟨hid, hold⟩
    · exact hrecord.addFrame now frame
    · exact hothers id after hid hold

/-- A frame put to a record with a new decoder. -/
theorem ConcealInv.reset (h : ConcealInv config w) (hmax : 0 ≤ config.maxplcframes)
    {codec : Nat} {old record : SpeakerRecord} {now : Int}
    (hreset : old.reset true codec frame now = some record) :
    ConcealInv config ((w.attempt frame.speakerid true).putFrame config now record frame) := by
  refine .putFrame (h.traces_attempt _ _) (fun id other hid hother => ?_)
    (SpeakerRecord.reset_conceals hmax hreset) now
  rw [attempt_trace_ne w true hid]
  exact h.records id other hother

/-- **Admission keeps concealment in order**, by whichever exit it ends. -/
theorem ConcealInv.adds (h : ConcealInv config w) (hmax : 0 ≤ config.maxplcframes) {now : Int}
    {setupOk : Bool} (hadds : Adds config now setupOk w frame t) : ConcealInv config t := by
  cases hadds with
  | refused admission =>
      exact h.of_trace (count_trace w admission) fun _ _ hlookup =>
        count_speakers w admission ▸ hlookup
  | setupFailed hsetup =>
      have htraces := h.traces_attempt frame.speakerid setupOk
      refine ⟨htraces, fun id record hrecord => ?_⟩
      have hbefore := h.records id record hrecord
      show record.Conceals config ((w.attempt frame.speakerid setupOk).trace id)
      by_cases hid : id = frame.speakerid
      · rw [← hid, attempt_trace_self, hsetup]
        exact hbefore.setupFailed
      · rw [attempt_trace_ne w setupOk hid]
        exact hbefore
  | current record hlookup =>
      exact .putFrame h.traces (fun id other _ hother => h.records id other hother)
        (h.records _ _ hlookup) now
  | created record hlookup hroom hsetup hreset => exact h.reset hmax hreset
  | reset old record hlookup haccepted hsetup hreset => exact h.reset hmax hreset

/-- **Playout keeps concealment in order.** -/
theorem ConcealInv.mixOneFrame (h : ConcealInv config w) (hmax : 0 ≤ config.maxplcframes)
    (now : Int) (decode : UInt64 → Option (List Int)) :
    ConcealInv config (w.mixOneFrame config now decode) := by
  refine ⟨fun id => ?_, fun id after hafter => ?_⟩
  · show Concealed config (w.trace id ++ _)
    cases hlookup : w.speakers.lookup id with
    | none =>
        rw [Option.elim_none, List.append_nil]
        exact h.traces id
    | some record =>
        exact ((Speaker.mix_mixes config now record.toSpeaker).keeps hmax (h.traces id)
          (h.records id record hlookup)).1
  · rw [lookup_mixOneFrame] at hafter
    obtain ⟨before, hbefore, rfl⟩ := Option.map_eq_some_iff.mp hafter
    show (before.toSpeaker.mix config now).1.Conceals config (w.trace id ++ _)
    rw [hbefore]
    exact ((Speaker.mix_mixes config now before.toSpeaker).keeps hmax (h.traces id)
      (h.records id before hbefore)).2

/-- **Every call keeps concealment in order.** -/
theorem ConcealInv.step (h : ConcealInv config s) (hmax : 0 ≤ config.maxplcframes)
    {a : WorkerStep} (hstep : step config s a = some t) : ConcealInv config t := by
  cases step_effect hstep with
  | entered => exact h.of_trace rfl fun _ _ hlookup => hlookup
  | cleared _ hspeakers hcounts =>
      refine h.of_trace hcounts.trace fun id record hlookup => ?_
      rw [hspeakers, AList.lookup_empty] at hlookup
      cases hlookup
  | unmoved _ hspeakers _ _ hcounts =>
      exact h.of_trace hcounts.trace fun _ _ hlookup => hspeakers ▸ hlookup
  | admitted now setupOk frame =>
      exact h.adds hmax (addRemoteFrame_adds config now setupOk s frame)
  | mixed now decode => exact h.mixOneFrame hmax now decode
  | cleaned now => exact h.of_trace rfl fun _ _ hlookup => lookup_cleanupSpeakers hlookup

/-- Before any call. -/
theorem ConcealInv.start (config : ProcessorConfig) : ConcealInv config {} :=
  ⟨fun _ => ⟨Stretch.AtMost.nil _ _, Stretch.Quiet.nil _ _⟩, fun id record hrecord => by
    rw [AList.lookup_empty] at hrecord
    cases hrecord⟩

/-! ## Starts of playback -/

theorem reset_idle {setupOk : Bool} {codec : Nat} {old record : SpeakerRecord} {now : Int}
    (hreset : old.reset setupOk codec frame now = some record) : record.playing = false := by
  obtain ⟨speaker, hspeaker, rfl⟩ := Option.map_eq_some_iff.mp hreset
  unfold resetSpeaker at hspeaker
  split_ifs at hspeaker
  obtain rfl := Option.some.inj hspeaker
  rfl

/-- **Admission starts no playback.** -/
theorem adds_idle {now : Int} {setupOk : Bool} (hadds : Adds config now setupOk w frame t)
    {id : UInt64} {before after : SpeakerRecord} (hbefore : w.speakers.lookup id = some before)
    (hidle : before.playing = false) (hafter : t.speakers.lookup id = some after) :
    after.playing = false := by
  have hadded : ∀ record : SpeakerRecord,
      (record.addFrame config now frame).playing = record.playing := by
    intro record
    obtain ⟨_, _, _, _, heq⟩ := Speaker.addFrame_eq config now record.toSpeaker frame
    rw [SpeakerRecord.addFrame, heq]
  rcases adds_lookup hadds hbefore hafter with rfl | ⟨record, rfl, rfl | ⟨-, hreset⟩⟩
  · exact hidle
  · exact (hadded _).trans hidle
  · exact (hadded record).trans (reset_idle hreset)

/-- **Playback that a call turns on decodes a queued frame in that call.** -/
theorem step_restarted {a : WorkerStep} (hstep : step config s a = some t) {id : UInt64}
    {before after : SpeakerRecord} (hbefore : s.speakers.lookup id = some before)
    (hafter : t.speakers.lookup id = some after) (hidle : before.playing = false)
    (hplaying : after.playing = true) :
    ∃ frame ∈ before.jitter, t.trace id = s.trace id ++ [.start, .decode (.frame frame)] := by
  have hsame : s.speakers.lookup id ≠ some after := by
    intro hlookup
    obtain rfl := Option.some.inj (hbefore.symm.trans hlookup)
    rw [hidle] at hplaying
    cases hplaying
  cases step_effect hstep with
  | entered => exact absurd hafter hsame
  | cleared _ hspeakers =>
      rw [hspeakers, AList.lookup_empty] at hafter
      cases hafter
  | unmoved _ hspeakers => exact absurd (hspeakers ▸ hafter) hsame
  | admitted now setupOk frame =>
      have hadded := adds_idle (addRemoteFrame_adds config now setupOk s frame) hbefore hidle hafter
      rw [hplaying] at hadded
      cases hadded
  | mixed now decode =>
      rw [lookup_mixOneFrame, hbefore] at hafter
      obtain rfl := Option.some.inj hafter
      obtain ⟨frame, hmem, hevents⟩ :=
        (Speaker.mix_mixes config now before.toSpeaker).restarted hidle hplaying
      refine ⟨frame, hmem, ?_⟩
      show s.trace id ++ _ = _
      rw [hbefore, Option.elim_some, hevents]
  | cleaned now => exact absurd (lookup_cleanupSpeakers hafter) hsame

/-- A start written down is followed by a queued frame of the same call. -/
theorem step_started {now : Int} {decode : UInt64 → Option (List Int)}
    (hstep : step config s (.mixOneFrame now decode) = some t) {id : UInt64}
    {events : List DecoderEvent} (htrace : t.trace id = s.trace id ++ events)
    (hstart : .start ∈ events) :
    ∃ record frame, s.speakers.lookup id = some record ∧ frame ∈ record.jitter ∧
      events = [.start, .decode (.frame frame)] := by
  simp only [step] at hstep
  split_ifs at hstep
  obtain rfl := Option.some.inj hstep
  have hevents := List.append_cancel_left htrace
  cases hlookup : s.speakers.lookup id with
  | none =>
      rw [hlookup] at hevents
      rw [← hevents] at hstart
      cases hstart
  | some record =>
      rw [hlookup, Option.elim_some] at hevents
      obtain ⟨frame, hmem, heq⟩ :=
        (Speaker.mix_mixes config now record.toSpeaker).started (hevents ▸ hstart)
      exact ⟨record, frame, rfl, hmem, hevents ▸ heq⟩

/-- The law of concealment in one state, and of the calls from there. -/
structure ConcealmentLaw (config : ProcessorConfig) (s : SpeakerWorker) : Prop where
  bounded : ∀ id, Stretch.AtMost isFrame isConceal config.maxplcframes.toNat (s.trace id)
  quiet : ∀ id, Stretch.Quiet isFrame isSetup isConceal (s.trace id)
  missing : ∀ id record, s.speakers.lookup id = some record →
    0 ≤ record.consecutivemissing ∧ record.consecutivemissing ≤ config.maxplcframes
  started : ∀ now decode t, step config s (.mixOneFrame now decode) = some t →
    ∀ id events, t.trace id = s.trace id ++ events → .start ∈ events →
      ∃ record frame, s.speakers.lookup id = some record ∧ frame ∈ record.jitter ∧
        events = [.start, .decode (.frame frame)]
  restarted : ∀ a t, step config s a = some t → ∀ id before after,
    s.speakers.lookup id = some before → t.speakers.lookup id = some after →
    before.playing = false → after.playing = true →
      ∃ frame ∈ before.jitter, t.trace id = s.trace id ++ [.start, .decode (.frame frame)]

end SpeakerWorker

/-- **Concealment.**  In every run of admissions, resets, session changes and
playout at any times: between two decoded frames of a speaker at most
`maxplcframes` are concealed, none before a new decoder has decoded a frame, the
counter stays in its bounds, and playback starts on a queued frame. -/
theorem concealment_bound {requested : ProcessorConfig} {s : SpeakerWorker}
    (h : Exec.Reached (SpeakerWorker.step (sanitizeConfig requested)) {} s) :
    SpeakerWorker.ConcealmentLaw (sanitizeConfig requested) s := by
  obtain ⟨hmax, -⟩ := sanitizeConfig_maxplcframes requested
  have hinv := h.invariant (SpeakerWorker.ConcealInv (sanitizeConfig requested))
    (SpeakerWorker.ConcealInv.start _) fun _ _ _ hinv hstep => hinv.step hmax hstep
  exact
    { bounded := fun id => (hinv.traces id).bounded
      quiet := fun id => (hinv.traces id).quiet
      missing := fun id record hrecord => (hinv.records id record hrecord).missing
      started := fun _ _ _ hstep _ _ htrace => SpeakerWorker.step_started hstep htrace
      restarted := fun _ _ hstep _ _ _ hbefore hafter =>
        SpeakerWorker.step_restarted hstep hbefore hafter }

/-- Two frames are concealed, playback runs out, a frame of the same stream
starts it again, a new stream gets a new decoder. -/
theorem concealment_bound_restarted :
    let config := sanitizeConfig { maxplcframes := 2 }
    ∃ s : SpeakerWorker, SpeakerWorker.ConcealmentLaw config s ∧
      s.trace 1 = [.setup true, .start, .decode (.frame { sessionepoch := 2, speakerid := 1 }),
        .decode .conceal, .decode .conceal, .start,
        .decode (.frame { sessionepoch := 2, speakerid := 1, sequence := 9 }), .setup true] := by
  intro config
  let frame (stream n : UInt32) : RemoteFrame :=
    { sessionepoch := 2, speakerid := 1, streamgeneration := stream, sequence := n }
  let mix (time : Int) : WorkerStep := .mixOneFrame (milliseconds time) fun _ => none
  let run : List WorkerStep :=
    [.workerLoop, .processIncoming 0 true (frame 0 0), mix 80, mix 100, mix 120, mix 140,
      .processIncoming (milliseconds 150) true (frame 0 9), mix 160,
      .processIncoming (milliseconds 170) true (frame 1 0)]
  have hany : (Exec.exec (SpeakerWorker.step config) {} run).any (fun s =>
      decide (s.trace 1 = [.setup true, .start, .decode (.frame (frame 0 0)), .decode .conceal,
        .decode .conceal, .start, .decode (.frame (frame 0 9)), .setup true])) = true := by
    decide +kernel
  obtain ⟨s, hs, htrace⟩ := Exec.exec_any hany
  exact ⟨s, concealment_bound ⟨run, hs⟩, of_decide_eq_true htrace⟩

end Voice
