import Mathlib.Data.List.Chain
import GipMultiplayer.VoiceStreamIdentity

/-!
# The timeline of a stream

A packet carries the position of its first sample, and its sequence counts
frames of 960 samples.  Samples can be lost at three places: the capture queue
is full, the outgoing queue drops its oldest frame, or the encoder fails.

* `Follows` — frames in a row, each at the next position or flagged;
* `Capture.Extends` — the capture callback continues the row;
* `Timeline` — packets in a row, each at its position or flagged;
* `Uplink.timeline_flagged` — when no flagged or first frame is lost by the
  encoder, every gap is flagged;
* `Uplink.timeline_gap_unflagged` — otherwise one may not be.
-/

namespace Voice

variable {α : Type}

/-! ## Frames in a row -/

/-- Each frame is flagged or at the next position, from `position` on; `next`
says what comes after the last. -/
def Follows (next : UInt64 → Prop) : UInt64 → List (PcmFrame α) → Prop
  | position, [] => next position
  | position, frame :: frames =>
      (frame.discontinuity = false → frame.sampleposition = position) ∧
        Follows next (frame.sampleposition + UInt64.ofNat frameSamples) frames

theorem Follows.imp {next next' : UInt64 → Prop} (himp : ∀ position, next position → next' position)
    {frames : List (PcmFrame α)} {position : UInt64} (h : Follows next position frames) :
    Follows next' position frames := by
  induction frames generalizing position with
  | nil => exact himp position h
  | cons frame frames ih => exact ⟨h.1, ih h.2⟩

theorem follows_append {next : UInt64 → Prop} (frames frames' : List (PcmFrame α))
    (position : UInt64) :
    Follows next position (frames ++ frames') ↔
      Follows (fun position' => Follows next position' frames') position frames := by
  induction frames generalizing position with
  | nil => exact Iff.rfl
  | cons frame frames ih => exact and_congr Iff.rfl (ih _)

/-! ## The capture callback continues the row -/

/-- The frame is of the present epochs. -/
def PcmFrame.isCurrent (frame : PcmFrame α) (gate : Gate) : Bool :=
  frame.sessionepoch = gate.sessionepoch ∧ frame.captureepoch = gate.captureepoch

namespace Capture

/-- The captured frames of the present epochs. -/
def current (capture : Capture α) (gate : Gate) : List (PcmFrame α) :=
  capture.queue.filter (·.isCurrent gate)

/-- The next frame is flagged or at this position. -/
def Expects (capture : Capture α) (gate : Gate) (offset : Nat) (position : UInt64) : Prop :=
  capture.discontinuity = false → capture.StagesCurrent gate →
    capture.nextPosition offset = position

/-- The row goes on from one capture state to another. -/
def Extends (gate : Gate) (capture : Capture α) (offset : Nat) (capture' : Capture α)
    (offset' : Nat) : Prop :=
  ∃ frames : List (PcmFrame α), capture'.current gate = capture.current gate ++ frames ∧
    (∀ frame ∈ capture'.queue, frame ∈ capture.queue ∨ frame.isCurrent gate = true) ∧
    ∀ position, capture.Expects gate offset position →
      Follows (capture'.Expects gate offset') position frames

theorem Extends.follows {gate : Gate} {capture capture' : Capture α} {offset offset' : Nat}
    (h : Extends gate capture offset capture' offset') {position : UInt64}
    (hfollows : Follows (capture.Expects gate offset) position (capture.current gate)) :
    Follows (capture'.Expects gate offset') position (capture'.current gate) := by
  obtain ⟨frames, hcurrent, -, hframes⟩ := h
  rw [hcurrent, follows_append]
  exact hfollows.imp hframes

theorem Extends.trans {gate : Gate} {a b c : Capture α} {i j k : Nat}
    (hab : Extends gate a i b j) (hbc : Extends gate b j c k) : Extends gate a i c k := by
  obtain ⟨frames, hb, hbmem, hframes⟩ := hab
  obtain ⟨frames', hc, hcmem, hframes'⟩ := hbc
  refine ⟨frames ++ frames', by rw [hc, hb, List.append_assoc], fun frame hframe => ?_,
    fun position hposition => ?_⟩
  · rcases hcmem frame hframe with hold | hnew
    · exact hbmem frame hold
    · exact .inr hnew
  · rw [follows_append]
    exact (hframes position hposition).imp hframes'

/-- Nothing is pushed. -/
theorem Extends.of_queue {gate : Gate} {capture capture' : Capture α} {offset offset' : Nat}
    (hqueue : capture'.queue = capture.queue)
    (hexpects : ∀ position, capture.Expects gate offset position →
      capture'.Expects gate offset' position) :
    Extends gate capture offset capture' offset' := by
  refine ⟨[], ?_, fun frame hframe => .inl (hqueue ▸ hframe), hexpects⟩
  rw [current, current, hqueue, List.append_nil]

/-- Dropping stale samples marks the gap. -/
theorem dropStale_extends (gate : Gate) (capture : Capture α) (offset : Nat) :
    Extends gate capture offset (capture.dropStale gate) offset := by
  unfold dropStale
  split_ifs with hstale
  · exact .of_queue rfl fun _ _ hmarked => Bool.noConfusion hmarked
  · exact .of_queue rfl fun _ h => h

/-- Samples that do not fill the buffer keep the position of the next frame. -/
theorem stage_extends {gate : Gate} {capture : Capture α} {offset offset' : Nat}
    {samples : List α} (hsamples : samples ≠ []) (hcurrent : capture.StagesCurrent gate) :
    Extends gate capture offset (capture.stage gate offset samples) offset' := by
  refine .of_queue rfl fun position hposition hdiscontinuity _ => ?_
  have hsome : capture.staging ++ samples ≠ [] := fun h => hsamples (List.append_eq_nil_iff.mp h).2
  show (if capture.staging ++ samples = [] then _ else capture.nextPosition offset) = position
  rw [if_neg hsome]
  exact hposition hdiscontinuity hcurrent

/-- A full buffer goes to the queue at the position of the next frame, or its
loss is marked. -/
theorem pushFrame_extends (config : ProcessorConfig) {gate : Gate} {capture : Capture α}
    {offset : Nat} {samples : List α} (h : capture.Staged offset)
    (hcurrent : capture.StagesCurrent gate)
    (hfull : capture.staging.length + samples.length = frameSamples) :
    Extends gate capture offset ((capture.stage gate offset samples).pushFrame config)
      (offset + samples.length) := by
  by_cases hroom : (capture.stage gate offset samples).queue.length < config.captureframes
  · have hframe : (capture.stage gate offset samples).frame.isCurrent gate = true := by
      simp [PcmFrame.isCurrent, frame, stage]
    rw [pushFrame_room hroom]
    refine ⟨[(capture.stage gate offset samples).frame], ?_, fun frame hmem => ?_,
      fun position hposition => ⟨fun hunflagged => ?_, fun _ _ => ?_⟩⟩
    · show (capture.queue ++ [(capture.stage gate offset samples).frame]).filter _ = _
      rw [List.filter_append, List.filter_cons, if_pos hframe, List.filter_nil]
      rfl
    · rcases List.mem_append.mp hmem with hold | hnew
      · exact .inl hold
      · obtain rfl := List.mem_singleton.mp hnew
        exact .inr hframe
    · exact hposition hunflagged hcurrent
    · show capture.position + UInt64.ofNat (offset + samples.length) =
        capture.nextPosition offset + UInt64.ofNat frameSamples
      rw [← hfull, stage_ends h]
  · rw [pushFrame_overrun hroom]
    exact .of_queue rfl fun _ _ hmarked => Bool.noConfusion hmarked

/-- What the copy loop keeps, and the row it continues. -/
structure Copied (gate : Gate) (capture : Capture α) (offset : Nat) (capture' : Capture α)
    (offset' : Nat) : Prop where
  goes : Extends gate capture offset capture' offset'
  staged : capture'.Staged offset'
  current : capture'.StagesCurrent gate

/-- One round of the copy loop. -/
theorem copyRound_copied (config : ProcessorConfig) {gate : Gate} {capture : Capture α}
    {offset : Nat} {input : List α} (h : capture.Staged offset)
    (hcurrent : capture.StagesCurrent gate) (hinput : input ≠ []) :
    ∃ capture' copy, 0 < copy ∧ copy ≤ input.length ∧
      capture.copyRound config gate offset input = (capture', offset + copy, input.drop copy) ∧
      Copied gate capture offset capture' (offset + copy) := by
  have hlength : 0 < input.length := List.length_pos_iff.mpr hinput
  obtain ⟨copy, hcopy⟩ : ∃ copy, copy = min input.length (frameSamples - capture.staging.length) :=
    ⟨_, rfl⟩
  have hshort := h.short
  have htake : (input.take copy).length = copy := by
    rw [List.length_take]
    omega
  refine ⟨_, copy, by omega, by omega, copyRound_eq config offset input hcurrent hcopy, ?_⟩
  split_ifs with hfull
  · have hfilled : capture.staging.length + (input.take copy).length = frameSamples := by
      rw [htake]
      exact hfull
    have hgoes := pushFrame_extends config h hcurrent hfilled
    rw [htake] at hgoes
    refine ⟨hgoes, ?_, ?_⟩
    · by_cases hroom : (capture.stage gate offset (input.take copy)).queue.length <
          config.captureframes
      · rw [pushFrame_room hroom]
        exact ⟨Nat.zero_lt_succ _, fun h => absurd rfl h⟩
      · rw [pushFrame_overrun hroom]
        exact ⟨Nat.zero_lt_succ _, fun h => absurd rfl h⟩
    · by_cases hroom : (capture.stage gate offset (input.take copy)).queue.length <
          config.captureframes
      · rw [pushFrame_room hroom]
        exact fun h => absurd rfl h
      · rw [pushFrame_overrun hroom]
        exact fun h => absurd rfl h
  · have hsamples : input.take copy ≠ [] := by
      refine List.length_pos_iff.mp ?_
      omega
    refine ⟨stage_extends hsamples hcurrent, ⟨?_, fun _ => ?_⟩, fun _ => ⟨rfl, rfl⟩⟩
    · show (capture.staging ++ input.take copy).length < frameSamples
      rw [List.length_append, htake]
      omega
    · have hends := stage_ends h (input.take copy)
      rw [htake] at hends
      show capture.nextPosition offset + UInt64.ofNat (capture.staging ++ input.take copy).length =
        capture.position + UInt64.ofNat (offset + copy)
      rw [List.length_append, htake, hends]

/-- **The copy loop continues the row to the end of the callback.** -/
theorem copyLoop_copied (config : ProcessorConfig) {gate : Gate} (fuel : Nat) {capture : Capture α}
    {offset : Nat} {input : List α} (h : capture.Staged offset)
    (hcurrent : capture.StagesCurrent gate) (hfuel : input.length ≤ fuel) :
    Copied gate capture offset (capture.copyLoop config gate fuel offset input)
      (offset + input.length) := by
  induction fuel generalizing capture offset input with
  | zero =>
      obtain rfl : input = [] := List.length_eq_zero_iff.mp (Nat.le_zero.mp hfuel)
      exact ⟨.of_queue rfl fun _ h => h, h, hcurrent⟩
  | succ fuel ih =>
      unfold copyLoop
      by_cases hinput : input = []
      · rw [if_pos hinput, hinput]
        exact ⟨.of_queue rfl fun _ h => h, h, hcurrent⟩
      · obtain ⟨capture₁, copy, hpos, hle, hround, hcopied⟩ :=
          copyRound_copied config h hcurrent hinput
        rw [if_neg hinput, hround]
        have hrest : (input.drop copy).length ≤ fuel := by
          rw [List.length_drop]
          omega
        have hloop := ih hcopied.staged hcopied.current hrest
        have hoffset : offset + copy + (input.drop copy).length = offset + input.length := by
          rw [List.length_drop]
          omega
        rw [hoffset] at hloop
        exact ⟨hcopied.goes.trans hloop.goes, hloop.staged, hloop.current⟩

/-- The callback's end is where the next one begins. -/
theorem advance_copied {gate : Gate} {capture capture' : Capture α} {count : Nat}
    (h : Copied gate capture 0 capture' count) :
    Copied gate capture 0 (capture'.advance count) 0 := by
  have hends : capture'.position + UInt64.ofNat count + UInt64.ofNat 0 =
      capture'.position + UInt64.ofNat count := UInt64.add_zero _
  refine ⟨h.goes.trans (.of_queue rfl fun position hposition hdiscontinuity hcurrent => ?_),
    ⟨h.staged.short, fun hsome => (h.staged.ends hsome).trans hends.symm⟩, h.current⟩
  refine Eq.trans ?_ (hposition hdiscontinuity hcurrent)
  show (if capture'.staging = [] then _ else capture'.stagingposition) =
    if capture'.staging = [] then _ else capture'.stagingposition
  split_ifs
  · exact hends
  · rfl

end Capture

/-- **An open callback continues the row.** -/
theorem pushCaptured_extends (processor : Processor α) {input : List α} (hinput : input ≠ [])
    (hgate : processor.gate.Capturing) (h : processor.capture.Staged 0) :
    Capture.Extends processor.gate processor.capture 0
        (processor.pushCaptured input).capture 0 ∧
      (processor.pushCaptured input).capture.Staged 0 := by
  have hcopied := Capture.copyLoop_copied processor.config input.length
    (Capture.dropStale_staged processor.gate h)
    (Capture.dropStale_stagesCurrent processor.gate processor.capture) (Nat.le_refl _)
  rw [Nat.zero_add] at hcopied
  have hadvanced := Capture.advance_copied hcopied
  rw [pushCaptured_open processor hinput hgate]
  exact ⟨(Capture.dropStale_extends _ _ 0).trans hadvanced.goes, hadvanced.staged⟩

/-! ## Packets in a row -/

/-- The packet carries `STREAM_START`. -/
def UplinkPacket.starts (packet : UplinkPacket) : Bool := packet.flags &&& flagStreamStart ≠ 0

/-- The packet carries `DISCONTINUITY`. -/
def UplinkPacket.isDiscontinuous (packet : UplinkPacket) : Bool :=
  packet.flags &&& flagDiscontinuity ≠ 0

/-- The packet lies as far after the other on the timeline as in the sequence. -/
def UplinkPacket.IsAt (q p : UplinkPacket) : Prop :=
  q.sampleposition - p.sampleposition =
    UInt64.ofNat frameSamples * (q.sequence - p.sequence).toUInt64

instance (q p : UplinkPacket) : Decidable (q.IsAt p) := inferInstanceAs (Decidable (_ = _))

/-- What may come after what: a packet of the same stream is flagged or at its
position, and the first of a later stream is flagged. -/
def Comes : Option Returned → Returned → Prop
  | none, q => q.packet.starts = true ∨ q.packet.isDiscontinuous = true
  | some p, q =>
      p.stream = q.stream ∧ (q.packet.isDiscontinuous = false → q.packet.IsAt p.packet) ∨
        p.stream < q.stream ∧ (q.packet.starts = true ∨ q.packet.isDiscontinuous = true)

/-- Each entry may come after the one before it. -/
def Timeline : Option Returned → List Returned → Prop
  | _, [] => True
  | last, entry :: entries => Comes last entry ∧ Timeline (some entry) entries

theorem timeline_append (last : Option Returned) (entries entries' : List Returned) :
    Timeline last (entries ++ entries') ↔
      Timeline last entries ∧ Timeline (entries.getLast?.or last) entries' := by
  induction entries generalizing last with
  | nil => exact ⟨fun h => ⟨trivial, h⟩, And.right⟩
  | cons entry entries ih =>
      have hlast : (entry :: entries).getLast?.or last = entries.getLast?.or (some entry) := by
        cases entries with
        | nil => rfl
        | cons next entries => rfl
      rw [List.cons_append, Timeline, Timeline, ih, hlast, and_assoc]

/-- The entry with a gap marked before it. -/
def Returned.mark (entry : Returned) : Returned :=
  { entry with
    packet := { entry.packet with flags := entry.packet.flags ||| flagDiscontinuity } }

theorem flagDiscontinuity_set (flags : UInt8) :
    (flags ||| flagDiscontinuity) &&& flagDiscontinuity = flagDiscontinuity := by
  have hdistrib : (flags ||| flagDiscontinuity) &&& flagDiscontinuity =
      (flags &&& flagDiscontinuity) ||| (flagDiscontinuity &&& flagDiscontinuity) :=
    UInt8.eq_of_toBitVec_eq BitVec.and_or_distrib_right
  rw [hdistrib]
  exact UInt8.eq_of_toBitVec_eq (by ext i; simp)

theorem mark_isDiscontinuous (entry : Returned) : entry.mark.packet.isDiscontinuous = true := by
  rw [UplinkPacket.isDiscontinuous, decide_eq_true_eq]
  show (entry.packet.flags ||| flagDiscontinuity) &&& flagDiscontinuity ≠ 0
  rw [flagDiscontinuity_set]
  decide

theorem Comes.le {p q : Returned} (h : Comes (some p) q) : p.stream ≤ q.stream := by
  rcases h with ⟨heq, -⟩ | ⟨hlt, -⟩
  · exact heq.le
  · exact hlt.le

/-- A marked entry may come after any entry of its stream or an earlier one. -/
theorem comes_mark {last : Option Returned} (entry : Returned)
    (h : ∀ p, last = some p → p.stream ≤ entry.stream) : Comes last entry.mark := by
  cases last with
  | none => exact .inr (mark_isDiscontinuous entry)
  | some p =>
      rcases Nat.lt_or_eq_of_le (h p rfl) with hlt | heq
      · exact .inr ⟨hlt, .inr (mark_isDiscontinuous entry)⟩
      · refine .inl ⟨heq, fun hplain => ?_⟩
        rw [mark_isDiscontinuous] at hplain
        cases hplain

/-- What may come after an entry may come after it when it is marked. -/
theorem timeline_of_mark {entry : Returned} {entries : List Returned}
    (h : Timeline (some entry) entries) : Timeline (some entry.mark) entries := by
  cases entries with
  | nil => trivial
  | cons next entries => exact ⟨h.1, h.2⟩

/-- **A dropped entry leaves a mark on the next.** -/
theorem timeline_drop {last : Option Returned} {x y : Returned} {entries : List Returned}
    (h : Timeline last (x :: y :: entries)) : Timeline last (y.mark :: entries) := by
  obtain ⟨hx, hy, hrest⟩ := h
  refine ⟨comes_mark y fun p hp => ?_, timeline_of_mark hrest⟩
  subst hp
  exact hx.le.trans hy.le

/-- **A push keeps the row.**  The queue drops its oldest frame and marks the
next, also when that is the new one. -/
theorem timeline_push {last : Option Returned} {streams : Nat} (config : ProcessorConfig)
    {outgoing : List (EncodedFrame α)} {encoded : EncodedFrame α}
    (h : Timeline last ((outgoing ++ [encoded]).map
      fun frame => (⟨frame.packet, streams⟩ : Returned))) :
    Timeline last ((pushOutgoing config outgoing encoded).map
      fun frame => (⟨frame.packet, streams⟩ : Returned)) := by
  unfold pushOutgoing
  split_ifs with hfull
  · match outgoing with
    | [] =>
        refine ⟨comes_mark ⟨encoded.packet, streams⟩ fun p hp => ?_, trivial⟩
        subst hp
        exact h.1.le
    | [first] => exact timeline_drop h
    | first :: front :: rest => exact timeline_drop h
  · exact h

/-- The frame pushed is the last one, perhaps marked. -/
theorem getLast?_push (config : ProcessorConfig) (outgoing : List (EncodedFrame α))
    (encoded : EncodedFrame α) :
    ∃ flags, (pushOutgoing config outgoing encoded).getLast? =
      some { encoded with flags := flags } := by
  unfold pushOutgoing
  split_ifs with hfull
  · match outgoing with
    | [] => exact ⟨_, rfl⟩
    | [first] => exact ⟨_, rfl⟩
    | first :: front :: rest => exact ⟨encoded.flags, List.getLast?_concat⟩
  · exact ⟨encoded.flags, List.getLast?_concat⟩

/-! ## The invariant of the capture path -/

namespace Capture

/-- The captured frames of the present epochs are in a row, and the next frame
continues it. -/
structure Timed (gate : Gate) (capture : Capture α) : Prop where
  staged : capture.Staged 0
  behind : ∀ frame ∈ capture.queue, frame.captureepoch ≤ gate.captureepoch
  capturing : capture.current gate ≠ [] → gate.Capturing
  queued : ∀ frame frames, capture.current gate = frame :: frames →
    Follows (capture.Expects gate 0) (frame.sampleposition + UInt64.ofNat frameSamples) frames

theorem Timed.of_nil {gate : Gate} {capture : Capture α} (hstaged : capture.Staged 0)
    (hqueue : capture.queue = []) : capture.Timed gate where
  staged := hstaged
  behind frame hframe := absurd (hqueue ▸ hframe) List.not_mem_nil
  capturing hsome := absurd (by rw [current, hqueue, List.filter_nil]) hsome
  queued frame frames hcurrent := by
    rw [current, hqueue, List.filter_nil] at hcurrent
    cases hcurrent

/-- No captured frame is of an epoch that has just begun. -/
theorem Timed.of_epoch {gate gate' : Gate} {capture capture' : Capture α}
    (h : capture.Timed gate) (hepoch : gate.captureepoch < gate'.captureepoch)
    (hstaged : capture'.Staged 0) (hqueue : capture'.queue = capture.queue) :
    capture'.Timed gate' := by
  have hnone : capture'.current gate' = [] := by
    rw [current, hqueue, List.filter_eq_nil_iff]
    intro frame hframe hcurrent
    have hle := h.behind frame hframe
    have heq := (of_decide_eq_true hcurrent).2
    omega
  refine ⟨hstaged, fun frame hframe => ?_, fun hsome => absurd hnone hsome,
    fun frame frames hcurrent => ?_⟩
  · rw [hqueue] at hframe
    exact (h.behind frame hframe).trans hepoch.le
  · rw [hnone] at hcurrent
    cases hcurrent

/-- The frames after the first of a row. -/
theorem Timed.tail {gate : Gate} {capture : Capture α} (h : capture.Timed gate)
    {frame : PcmFrame α} {rest : List (PcmFrame α)} (hqueue : capture.queue = frame :: rest) :
    ({ capture with queue := rest } : Capture α).Timed gate := by
  have hmem : ∀ f ∈ rest, f ∈ capture.queue := fun f hf => hqueue ▸ List.mem_cons_of_mem _ hf
  have hsub : ∀ f ∈ ({ capture with queue := rest } : Capture α).current gate,
      f ∈ capture.current gate := by
    intro f hf
    obtain ⟨hrest, hcurrent⟩ := List.mem_filter.mp hf
    exact List.mem_filter.mpr ⟨hmem f hrest, hcurrent⟩
  refine ⟨⟨h.staged.short, h.staged.ends⟩, fun f hf => h.behind f (hmem f hf), fun hsome => ?_,
    fun f fs hcurrent => ?_⟩
  · obtain ⟨f, hf⟩ := List.exists_mem_of_ne_nil _ hsome
    exact h.capturing (List.ne_nil_of_mem (hsub f hf))
  · by_cases hown : frame.isCurrent gate = true
    · have hfirst : capture.current gate = frame :: f :: fs := by
        rw [current, hqueue, List.filter_cons, if_pos hown]
        exact congrArg _ hcurrent
      exact (h.queued frame (f :: fs) hfirst).2
    · have hfirst : capture.current gate = f :: fs := by
        rw [current, hqueue, List.filter_cons, if_neg hown]
        exact hcurrent
      exact h.queued f fs hfirst

/-- What comes after the first frame of the row, where the callback continues it. -/
theorem Timed.of_extends {gate : Gate} {capture capture' : Capture α} (h : capture.Timed gate)
    (hgate : gate.Capturing) (hstaged : capture'.Staged 0)
    (hextends : Extends gate capture 0 capture' 0) : capture'.Timed gate := by
  obtain ⟨new, hcurrent', hmem, hnew⟩ := hextends
  refine ⟨hstaged, fun frame hframe => ?_, fun _ => hgate, fun frame frames hfirst => ?_⟩
  · rcases hmem frame hframe with hold | hown
    · exact h.behind frame hold
    · exact (of_decide_eq_true hown).2.le
  · rw [hcurrent'] at hfirst
    cases hcurrent : capture.current gate with
    | nil =>
        rw [hcurrent, List.nil_append] at hfirst
        have hfollows := hnew (capture.nextPosition 0) fun _ _ => rfl
        rw [hfirst] at hfollows
        exact hfollows.2
    | cons first rest =>
        rw [hcurrent, List.cons_append] at hfirst
        obtain ⟨rfl, rfl⟩ := List.cons.inj hfirst
        rw [follows_append]
        exact (h.queued first rest hcurrent).imp hnew

end Capture

/-! ## The invariant of an uplink -/

/-- The encoder fails neither on the first frame of a stream, nor on a flagged
one, nor so often in a row that the sequence comes round. -/
def Spares (tally : StreamTally) (frame : PcmFrame α) (payload : Option (List UInt8)) : Prop :=
  payload = none →
    tally.frames ≠ 0 ∧ frame.discontinuity = false ∧ tally.failures + 2 < 2 ^ 32

namespace Uplink

/-- The last entry is of the present stream, and the captured frames continue it
when the encoder's failures since are counted. -/
def Linked (u : Uplink α) (e : Encoding) : Prop :=
  ∃ entry, u.entries.getLast? = some entry ∧ entry.stream = u.tally.streams ∧
    (e.sequence - entry.packet.sequence).toNat = u.tally.failures + 1 ∧
    Follows (u.capture.Expects u.gate 0)
      (entry.packet.sampleposition +
        UInt64.ofNat frameSamples * UInt64.ofNat (u.tally.failures + 1))
      (u.capture.current u.gate)

/-- **The entries are in a row, and what is captured continues it.** -/
structure Timing (u : Uplink α) : Prop where
  timed : u.capture.Timed u.gate
  fresh : u.tally.frames = 0 → ∀ entry ∈ u.entries, entry.stream ≠ u.tally.streams
  linked : ∀ e, u.Encodes e → 0 < u.tally.frames → u.Linked e
  timeline : Timeline none u.entries

/-- A new processor satisfies the invariant. -/
theorem start_timing (config : ProcessorConfig) : (start config : Uplink α).Timing where
  timed := .of_nil ⟨Nat.zero_lt_succ _, fun h => absurd rfl h⟩ rfl
  fresh _ _ h := absurd h List.not_mem_nil
  linked _ h := absurd h (not_encodes_of_none rfl _)
  timeline := trivial

/-- Dropping the newest entries keeps the row. -/
theorem Timing.returned {u : Uplink α} (h : u.Timing) : Timeline none u.tally.returned :=
  ((timeline_append none _ _).mp h.timeline).1

/-- Nothing outgoing and no stream being continued. -/
theorem Timing.of_unlinked {u u' : Uplink α} (h : u.Timing) (hinv : u.Inv)
    (htimed : u'.capture.Timed u'.gate) (hnil : u'.capture.outgoing = [])
    (begins : Prop) [Decidable begins]
    (htally : u'.tally = if begins then u.tally.begin else u.tally)
    (hlinked : ∀ e, u'.Encodes e → begins) : u'.Timing := by
  have hreturned : u'.tally.returned = u.tally.returned := by
    rw [htally]
    split_ifs <;> rfl
  have hentries : u'.entries = u.tally.returned := (entries_of_nil hnil).trans hreturned
  refine ⟨htimed, fun hframes entry hentry => ?_, fun e he hframes => ?_, ?_⟩
  · rw [hentries] at hentry
    have hold := List.mem_append_left
      (u.capture.outgoing.map fun frame => (⟨frame.packet, u.tally.streams⟩ : Returned)) hentry
    rw [htally] at hframes ⊢
    split_ifs at hframes ⊢ with hb
    · exact (Nat.lt_succ_of_le (hinv.entries entry hold).2.1).ne
    · exact h.fresh hframes entry hold
  · rw [htally, if_pos (hlinked e he)] at hframes
    exact absurd hframes (Nat.lt_irrefl 0)
  · rw [hentries]
    exact h.returned

/-- The same row, entries and stream. -/
theorem Timing.of_same {u u' : Uplink α} (h : u.Timing) (hgate : u'.gate = u.gate)
    (hencoding : u'.encoding = u.encoding) (htimed : u'.capture.Timed u.gate)
    (hfollows : ∀ position, (∃ e, u.Encodes e) →
      Follows (u.capture.Expects u.gate 0) position (u.capture.current u.gate) →
      Follows (u'.capture.Expects u.gate 0) position (u'.capture.current u.gate))
    (hentries : u'.entries = u.entries)
    (htally : u'.tally = { u.tally with returned := u'.tally.returned }) : u'.Timing where
  timed := hgate ▸ htimed
  fresh hframes := by
    rw [hentries, htally]
    rw [htally] at hframes
    exact h.fresh hframes
  linked e he hframes := by
    have hold := he.of_same hgate hencoding
    rw [htally] at hframes
    obtain ⟨entry, hlast, hstream, hsequence, hrow⟩ := h.linked e hold hframes
    refine ⟨entry, hentries ▸ hlast, ?_, ?_, ?_⟩
    · rw [htally]
      exact hstream
    · rw [htally]
      exact hsequence
    · rw [htally, hgate]
      exact hfollows _ ⟨e, hold⟩ hrow
  timeline := hentries ▸ h.timeline

theorem encodedFlags_starts (discontinuity : Bool) :
    encodedFlags true discontinuity &&& flagStreamStart ≠ 0 := by
  revert discontinuity
  decide

theorem encodedFlags_isDiscontinuous (firstpacket discontinuity : Bool) :
    decide (encodedFlags firstpacket discontinuity &&& flagDiscontinuity ≠ 0) =
      discontinuity := by
  revert firstpacket discontinuity
  decide

/-- **What is encoded next comes in the row.**  The first frame of a stream
starts it; a later one is flagged or where the last entry expects it. -/
theorem Timing.comes {u : Uplink α} (h : u.Timing) (hinv : u.Inv) {e : Encoding}
    (he : u.Encodes e) {frame : PcmFrame α} {frames : List (PcmFrame α)}
    (hcurrent : u.capture.current u.gate = frame :: frames) (payload : List UInt8) :
    Comes u.entries.getLast? ⟨(frame.encoded u.gate u.capture.streamgeneration e.sequence
      e.firstpacket payload).packet, u.tally.streams⟩ := by
  obtain ⟨-, -, hfirst⟩ := hinv.live e he
  by_cases hframes : u.tally.frames = 0
  · have hstarts : decide (encodedFlags e.firstpacket frame.discontinuity &&& flagStreamStart ≠ 0) =
        true := by
      rw [hfirst.mpr hframes, decide_eq_true_eq]
      exact encodedFlags_starts _
    cases hlast : u.entries.getLast? with
    | none => exact .inl hstarts
    | some p =>
        have hp : p ∈ u.entries := List.mem_of_getLast? hlast
        have hearlier : p.stream < u.tally.streams :=
          Nat.lt_of_le_of_ne (hinv.entries p hp).2.1 (h.fresh hframes p hp)
        exact .inr ⟨hearlier, .inl hstarts⟩
  · obtain ⟨p, hlast, hstream, hsequence, hrow⟩ := h.linked e he (Nat.pos_of_ne_zero hframes)
    rw [hlast]
    rw [hcurrent] at hrow
    refine .inl ⟨hstream, fun hplain => ?_⟩
    have hunflagged : frame.discontinuity = false :=
      (encodedFlags_isDiscontinuous e.firstpacket frame.discontinuity).symm.trans hplain
    have hcount : (e.sequence - p.packet.sequence).toUInt64 =
        UInt64.ofNat (u.tally.failures + 1) := by
      rw [← hsequence]
      exact (UInt64.ofNat_uInt32ToNat _).symm
    show frame.sampleposition - p.packet.sampleposition =
      UInt64.ofNat frameSamples * (e.sequence - p.packet.sequence).toUInt64
    rw [hrow.1 hunflagged, hcount, UInt64.add_comm, UInt64.add_sub_cancel]

/-- The encoder fails on a frame that is not flagged: the last entry is one frame
further behind. -/
theorem Linked.failed {u u' : Uplink α} {e : Encoding} (h : u.Linked e) {frame : PcmFrame α}
    {frames : List (PcmFrame α)} (hcurrent : u.capture.current u.gate = frame :: frames)
    (hplain : frame.discontinuity = false) (hfew : u.tally.failures + 2 < 2 ^ 32)
    (hentries : u'.entries = u.entries) (htally : u'.tally = u.tally.take false)
    (hrow : Follows (u'.capture.Expects u'.gate 0)
      (frame.sampleposition + UInt64.ofNat frameSamples) (u'.capture.current u'.gate)) :
    u'.Linked { e with sequence := e.sequence + 1, firstpacket := false } := by
  obtain ⟨p, hlast, hstream, hsequence, hfollows⟩ := h
  rw [hcurrent] at hfollows
  refine ⟨p, hentries ▸ hlast, ?_, ?_, ?_⟩
  · rw [htally]
    exact hstream
  · have hnext : e.sequence + 1 - p.packet.sequence =
        (e.sequence - p.packet.sequence) + 1 := by grind
    rw [htally]
    show (e.sequence + 1 - p.packet.sequence).toNat = u.tally.failures + 1 + 1
    rw [hnext, UInt32.toNat_add, hsequence]
    exact Nat.mod_eq_of_lt hfew
  · have hposition : p.packet.sampleposition +
        UInt64.ofNat frameSamples * UInt64.ofNat (u.tally.failures + 1 + 1) =
        frame.sampleposition + UInt64.ofNat frameSamples := by
      rw [hfollows.1 hplain, UInt64.ofNat_add (u.tally.failures + 1) 1, UInt64.mul_add,
        ← UInt64.add_assoc]
      rfl
    rw [htally]
    show Follows _ (p.packet.sampleposition +
      UInt64.ofNat frameSamples * UInt64.ofNat (u.tally.failures + 1 + 1)) _
    rw [hposition]
    exact hrow

/-- The frame just encoded is the last entry, with no failure since. -/
theorem Linked.pushed {u u' : Uplink α} {e : Encoding} {frame : PcmFrame α} (payload : List UInt8)
    (config : ProcessorConfig)
    (hentries : u'.entries = u.tally.returned ++ (pushOutgoing config u.capture.outgoing
        (frame.encoded u.gate u.capture.streamgeneration e.sequence e.firstpacket payload)).map
      fun frame => (⟨frame.packet, u.tally.streams⟩ : Returned))
    (htally : u'.tally = u.tally.take true)
    (hrow : Follows (u'.capture.Expects u'.gate 0)
      (frame.sampleposition + UInt64.ofNat frameSamples) (u'.capture.current u'.gate)) :
    u'.Linked { e with sequence := e.sequence + 1, firstpacket := false } := by
  obtain ⟨flags, hlast⟩ := getLast?_push config u.capture.outgoing
    (frame.encoded u.gate u.capture.streamgeneration e.sequence e.firstpacket payload)
  have hnext : e.sequence + 1 - e.sequence = 1 := by grind
  refine ⟨⟨{ (frame.encoded u.gate u.capture.streamgeneration e.sequence e.firstpacket
    payload).packet with flags := flags }, u.tally.streams⟩, ?_, ?_, ?_, ?_⟩
  · rw [hentries, List.getLast?_append, List.getLast?_map, hlast]
    rfl
  · rw [htally]
    rfl
  · rw [htally]
    show (e.sequence + 1 - e.sequence).toNat = 0 + 1
    rw [hnext]
    rfl
  · rw [htally]
    exact hrow

/-- The invariant when the worker encodes a frame. -/
theorem Timing.encoded {u u' : Uplink α} (h : u.Timing) (hinv : u.Inv) {e : Encoding}
    (he : u.Encodes e) {config : ProcessorConfig} {frame : PcmFrame α} {rest : List (PcmFrame α)}
    {payload : Option (List UInt8)} (hqueue : u.capture.queue = frame :: rest) (hown : frame.Of e)
    (hspares : Spares u.tally frame payload) (hgate : u'.gate = u.gate)
    (hcapture : u'.capture = encodeFrame config u.gate { u.capture with queue := rest } frame
      e.sequence e.firstpacket payload)
    (hencoding : u'.encoding = some { e with sequence := e.sequence + 1, firstpacket := false })
    (htally : u'.tally = u.tally.take payload.isSome) : u'.Timing := by
  obtain ⟨hpos, -, -⟩ := hinv.live e he
  have hsession := hinv.session e he.encoding he.epoch
  have hframe : frame.isCurrent u.gate = true :=
    decide_eq_true ⟨hown.1.trans hsession, hown.2.trans he.epoch⟩
  have hcurrent : u.capture.current u.gate =
      frame :: ({ u.capture with queue := rest } : Capture α).current u.gate := by
    rw [Capture.current, hqueue, List.filter_cons, if_pos hframe]
    rfl
  have hrow := h.timed.queued frame _ hcurrent
  have htimed := h.timed.tail hqueue
  have hframes : u'.tally.frames = u.tally.frames + 1 := by rw [htally]; rfl
  have hloop : ∀ e', u'.Encodes e' →
      e' = { e with sequence := e.sequence + 1, firstpacket := false } :=
    fun e' he' => Option.some.inj (he'.encoding.symm.trans hencoding)
  have hfresh : u'.tally.frames = 0 → ∀ entry ∈ u'.entries, entry.stream ≠ u'.tally.streams :=
    fun hzero => absurd (hframes.symm.trans hzero) (Nat.succ_ne_zero _)
  cases payload with
  | none =>
      obtain ⟨hlater, hplain, hfew⟩ := hspares rfl
      rw [encodeFrame_none] at hcapture
      have hentries : u'.entries = u.entries := by
        unfold entries
        rw [hcapture, htally]
        rfl
      refine ⟨by rw [hgate, hcapture]; exact htimed, hfresh, fun e' he' _ => ?_,
        hentries ▸ h.timeline⟩
      rw [hloop e' he']
      refine (h.linked e he (Nat.pos_of_ne_zero hlater)).failed hcurrent hplain hfew hentries
        htally ?_
      rw [hgate, hcapture]
      exact hrow
  | some payload =>
      rw [encodeFrame_some config e.sequence e.firstpacket payload
        (hinv.generation ▸ streamNumber_ne_zero hpos) (hown.1.trans hsession)
        (hown.2.trans he.epoch) he.running he.active] at hcapture
      have hentries : u'.entries = u.tally.returned ++ (pushOutgoing config u.capture.outgoing
          (frame.encoded u.gate u.capture.streamgeneration e.sequence e.firstpacket payload)).map
          fun frame => (⟨frame.packet, u.tally.streams⟩ : Returned) := by
        unfold entries
        rw [hcapture, htally]
        rfl
      refine ⟨?_, hfresh, fun e' he' _ => ?_, ?_⟩
      · rw [hgate, hcapture]
        exact ⟨⟨htimed.staged.short, htimed.staged.ends⟩, htimed.behind, htimed.capturing,
          htimed.queued⟩
      · rw [hloop e' he']
        refine Linked.pushed payload config hentries htally ?_
        rw [hgate, hcapture]
        exact hrow
      · have hpushed : Timeline none (u.entries ++ [⟨(frame.encoded u.gate
            u.capture.streamgeneration e.sequence e.firstpacket payload).packet,
            u.tally.streams⟩]) := by
          rw [timeline_append, Option.or_none]
          exact ⟨h.timeline, h.comes hinv he hcurrent payload, trivial⟩
        rw [entries, List.append_assoc, timeline_append] at hpushed
        rw [hentries, timeline_append]
        refine ⟨hpushed.1, timeline_push config ?_⟩
        rw [List.map_append]
        exact hpushed.2

/-- The invariant when the capture callback runs. -/
theorem Timing.captured {u u' : Uplink α} (h : u.Timing) (hinv : u.Inv) (input : List α)
    (hgate : u'.gate = u.gate) (hcapture : u'.capture = (u.processor.pushCaptured input).capture)
    (hencoding : u'.encoding = u.encoding) (htally : u'.tally = u.tally) : u'.Timing := by
  have hentries : u'.entries = u.entries := by
    obtain ⟨-, -, -, houtgoing⟩ := pushCaptured_frame u.processor input
    unfold entries
    rw [hcapture, houtgoing, htally]
  have hsame : u'.tally = { u.tally with returned := u'.tally.returned } := by rw [htally]
  rcases pushCaptured_cases u.processor input with
    ⟨-, hpush⟩ | ⟨hclosed, hpush⟩ | ⟨hinput, hopen, hpush⟩
  · rw [hpush] at hcapture
    exact h.of_same hgate hencoding (hcapture ▸ h.timed)
      (fun _ _ hfollows => by rw [hcapture]; exact hfollows) hentries hsame
  · rw [hpush] at hcapture
    -- a closed microphone has no frame of the present epochs waiting, and no stream
    have hnone : u.capture.current u.gate = [] := by
      by_contra hsome
      exact hclosed (h.timed.capturing hsome)
    refine h.of_same hgate hencoding ?_ (fun _ hencodes _ => ?_) hentries hsame
    · rw [hcapture]
      refine ⟨⟨Nat.zero_lt_succ _, fun h => absurd rfl h⟩, h.timed.behind,
        fun hsome => absurd hnone hsome, fun frame frames hcurrent => ?_⟩
      exact absurd (hnone.symm.trans hcurrent) (List.cons_ne_nil _ _).symm
    · obtain ⟨e, he⟩ := hencodes
      exact absurd ⟨he.running, hinv.even, he.active⟩ hclosed
  · obtain ⟨hextends, hstaged⟩ :=
      pushCaptured_extends u.processor hinput hopen h.timed.staged
    refine h.of_same hgate hencoding ?_ (fun _ _ hfollows => ?_) hentries hsame
    · rw [hcapture]
      exact h.timed.of_extends hopen hstaged hextends
    · rw [hcapture]
      exact hextends.follows hfollows

/-- The invariant when the drain skips a frame of other epochs. -/
theorem Timing.skipped {u u' : Uplink α} (h : u.Timing) (hinv : u.Inv) {e : Encoding}
    (hold : u.encoding = some e) {frame : PcmFrame α} {rest : List (PcmFrame α)}
    (hqueue : u.capture.queue = frame :: rest) (hother : ¬ frame.Of e) (hgate : u'.gate = u.gate)
    (hcapture : u'.capture = { u.capture with queue := rest })
    (hencoding : u'.encoding = u.encoding) (htally : u'.tally = u.tally) : u'.Timing := by
  have hentries : u'.entries = u.entries := by
    unfold entries
    rw [hcapture, htally]
  refine h.of_same hgate hencoding (hcapture ▸ h.timed.tail hqueue) (fun _ hencodes hfollows => ?_)
    hentries (by rw [htally])
  obtain ⟨e', he'⟩ := hencodes
  obtain rfl : e = e' := Option.some.inj (hold.symm.trans he'.encoding)
  have hstale : ¬ frame.isCurrent u.gate = true := by
    intro hcurrent
    obtain ⟨hsession, hepoch⟩ := of_decide_eq_true hcurrent
    exact hother ⟨hsession.trans (hinv.session e hold he'.epoch).symm, hepoch.trans he'.epoch.symm⟩
  have hrest : u.capture.current u.gate = u'.capture.current u.gate := by
    rw [hcapture, Capture.current, hqueue, List.filter_cons, if_neg hstale]
    rfl
  rw [← hrest, hcapture]
  exact hfollows

/-- **Step lemma.** -/
theorem Timing.effect {u u' : Uplink α} (h : u.Timing) (hinv : u.Inv)
    (heffect : Effect Spares u u') : u'.Timing := by
  have hstaged : ({ u.capture with queue := [] } : Capture α).Staged 0 :=
    ⟨h.timed.staged.short, h.timed.staged.ends⟩
  cases heffect with
  | quiet hquiet =>
      have hentries : u'.entries = u.entries := by
        unfold entries
        rw [hquiet.capture, hquiet.tally]
      exact h.of_same hquiet.gate hquiet.encoding (hquiet.capture ▸ h.timed)
        (fun _ _ hfollows => by rw [hquiet.capture]; exact hfollows) hentries
        (by rw [hquiet.tally])
  | changed hepoch heven hcapture hencoding htally =>
      refine h.of_unlinked hinv ?_ (by rw [hcapture]) False (by rw [htally]; rfl) fun e he => ?_
      · rw [hcapture]
        exact h.timed.of_epoch hepoch ⟨hstaged.short, hstaged.ends⟩ rfl
      · have hbehind := hinv.behind e (hencoding ▸ he.encoding)
        have hpresent := he.epoch
        omega
  | stopped begins hgate hcapture hencoding hbegins =>
      refine h.of_unlinked hinv ?_ (by rw [hcapture]) begins hbegins.2
        fun e he => absurd he (not_encodes_of_none hencoding e)
      rw [hcapture]
      exact .of_nil ⟨hstaged.short, hstaged.ends⟩ rfl
  | started hoff hgate hcapture hencoding htally =>
      have hidle : ∀ e, ¬ u.Encodes e := by
        intro e he
        rw [he.running] at hoff
        cases hoff
      refine h.of_unlinked hinv ?_ (by rw [hcapture]; exact hinv.outgoing_nil hidle) False
        (by rw [htally]; rfl) fun e he => absurd he (not_encodes_of_none hencoding e)
      rw [hcapture, hgate]
      exact h.timed.of_epoch (Nat.lt_succ_self _) h.timed.staged rfl
  | entered hnone hgate hcapture hencoding hbegins =>
      refine h.of_unlinked hinv ?_
        (by rw [hcapture]; exact hinv.outgoing_nil (not_encodes_of_none hnone)) _ hbegins.2
        fun e he => ⟨hinv.even, hgate ▸ he.active⟩
      rw [hcapture, hgate]
      exact ⟨⟨h.timed.staged.short, h.timed.staged.ends⟩, h.timed.behind, h.timed.capturing,
        h.timed.queued⟩
  | noticed e hold hnew hgate hcapture hencoding htally =>
      have hstale : e.observedcaptureepoch ≠ u.gate.captureepoch :=
        fun heq => hnew (hinv.session e hold heq).symm
      refine h.of_unlinked hinv ?_
        (by rw [hcapture]; exact hinv.outgoing_nil_of_stale hold hstale) False
        (by rw [htally]; rfl) fun e' he' => ?_
      · rw [hcapture]
        exact .of_nil hstaged rfl
      · have hpresent := he'.epoch
        rw [Option.some.inj (he'.encoding.symm.trans hencoding), hgate] at hpresent
        exact hstale hpresent
  | observed e hold hsession hnew hgate hcapture hencoding hbegins =>
      refine h.of_unlinked hinv ?_
        (by rw [hcapture]; exact hinv.outgoing_nil_of_stale hold hnew.symm) _ hbegins.2
        fun e' he' => hgate ▸ he'.active
      rw [hcapture]
      exact .of_nil ⟨hstaged.short, hstaged.ends⟩ rfl
  | discarded hoff hgate hcapture hencoding htally =>
      have hidle : ∀ e, ¬ u.Encodes e := by
        intro e he
        rw [he.active] at hoff
        cases hoff
      refine h.of_unlinked hinv ?_ (by rw [hcapture]; exact hinv.outgoing_nil hidle) False
        (by rw [htally]; rfl) fun e he => absurd (he.of_same hgate hencoding) (hidle e)
      rw [hcapture]
      exact .of_nil hstaged rfl
  | skipped e hold frame rest hqueue hother hgate hcapture hencoding htally =>
      exact h.skipped hinv hold hqueue hother hgate hcapture hencoding htally
  | encoded e hold config frame rest payload hqueue hown hrunning hactive hsession hepoch hok hgate
      hcapture hencoding htally =>
      exact h.encoded hinv ⟨hold, hepoch.symm, hrunning, hactive⟩ hqueue hown hok hgate hcapture
        hencoding htally
  | captured input hgate hcapture hencoding htally =>
      exact h.captured hinv input hgate hcapture hencoding htally
  | popped hrunning hactive hgate hcapture hencoding htally =>
      obtain ⟨hentries, -, hsame⟩ := hinv.popped_entries hcapture htally
      refine h.of_same hgate hencoding ?_ (fun _ _ hfollows => ?_) hentries hsame
      · rw [hcapture]
        exact ⟨⟨h.timed.staged.short, h.timed.staged.ends⟩, h.timed.behind, h.timed.capturing,
          h.timed.queued⟩
      · rw [hcapture]
        exact hfollows

/-! ## The law -/

/-- The calls that lose no mark: the encoder spares first and flagged frames, and
no packet is popped so late that stream generations have come round. -/
def KeepsMarks (u : Uplink α) : ProcessorCall α → Prop
  | .workerIteration input => Drains Spares input.encode 0 u.processor.taken u.tally
  | .popOutgoingPacket =>
      ∀ last ∈ u.tally.returned.getLast?, u.tally.streams - last.stream < 2 ^ 32 - 1
  | _ => True

theorem allows_spares (u : Uplink α) (call : ProcessorCall α) (h : u.KeepsMarks call) :
    u.Allows Spares call := by
  cases call with
  | workerIteration input => exact h
  | _ => trivial

/-- The streams of two packets returned in turn are close. -/
def Near (p q : Returned) : Prop := q.stream - p.stream < 2 ^ 32 - 1

theorem takeAll_returned (encode : Nat → Option (List UInt8)) (k : Nat)
    (frames : List (PcmFrame α)) (tally : StreamTally) :
    (tally.takeAll encode k frames).returned = tally.returned := by
  induction frames generalizing k tally with
  | nil => rfl
  | cons frame frames ih => exact (ih (k + 1) _).trans rfl

theorem began_returned (u : Uplink α) (processor : Processor α) :
    (u.began processor).returned = u.tally.returned := by
  unfold began
  split_ifs <;> rfl

/-- A call returns no packet, or one of the present stream. -/
theorem perform_returned (u : Uplink α) (call : ProcessorCall α) :
    (u.perform call).tally.returned = u.tally.returned ∨
      call = .popOutgoingPacket ∧ ∃ packet,
        (u.perform call).tally.returned = u.tally.returned ++ [⟨packet, u.tally.streams⟩] := by
  cases call with
  | workerIteration input => exact .inl ((takeAll_returned _ _ _ _).trans (began_returned u _))
  | popOutgoingPacket =>
      cases hpop : u.processor.popOutgoingPacket.2 with
      | none =>
          refine .inl ?_
          simp only [perform, tallied, hpop]
      | some frame =>
          refine .inr ⟨rfl, frame.packet, ?_⟩
          simp only [perform, tallied, hpop]
  | _ => exact .inl (began_returned u _)

theorem perform_near {u : Uplink α} {call : ProcessorCall α} (h : u.tally.returned.IsChain Near)
    (hcall : u.KeepsMarks call) : (u.perform call).tally.returned.IsChain Near := by
  rcases perform_returned u call with hsame | ⟨rfl, packet, hpopped⟩
  · rw [hsame]
    exact h
  · rw [hpopped, List.isChain_append]
    refine ⟨h, List.isChain_singleton _, fun last hlast entry hentry => ?_⟩
    obtain rfl := Option.some.inj hentry
    exact hcall last hlast

end Uplink

/-- **The law of the timeline.**  Of two packets returned in turn with one stream
generation, the second carries `DISCONTINUITY` or lies where the first expects
it; and the first packet of a stream generation carries a flag. -/
def GapsFlagged (packets : List UplinkPacket) : Prop :=
  (∀ p q, [p, q] <:+: packets → p.streamgeneration = q.streamgeneration →
    q.isDiscontinuous = false → q.IsAt p) ∧
  ∀ earlier q, earlier ++ [q] <+: packets →
    (∀ p ∈ earlier, p.streamgeneration ≠ q.streamgeneration) →
    q.starts = true ∨ q.isDiscontinuous = true

/-- Entries in a row that are near each other obey the law. -/
theorem Timeline.gapsFlagged {entries : List Returned} (h : Timeline none entries)
    (hnear : entries.IsChain Uplink.Near)
    (hgeneration : ∀ entry ∈ entries, 0 < entry.stream ∧
      entry.packet.streamgeneration = streamNumber entry.stream) :
    GapsFlagged (entries.map Returned.packet) := by
  constructor
  · rintro p q ⟨before, after, heq⟩ hsame hplain
    obtain ⟨first, after, rfl, hfirst, rfl⟩ := List.map_eq_append_iff.mp heq.symm
    obtain ⟨before, middle, rfl, rfl, hmiddle⟩ := List.map_eq_append_iff.mp hfirst
    obtain ⟨p, rest, rfl, rfl, hrest⟩ := List.map_eq_cons_iff.mp hmiddle
    obtain ⟨q, rest, rfl, rfl, hnil⟩ := List.map_eq_cons_iff.mp hrest
    obtain rfl := List.map_eq_nil_iff.mp hnil
    have hpq : [p, q] <:+: before ++ [p, q] ++ after := ⟨before, after, rfl⟩
    have hcomes : Comes (some p) q :=
      ((timeline_append _ _ _).mp ((timeline_append _ _ _).mp h).1).2.2.1
    have hpair : List.IsChain Uplink.Near [p, q] := List.IsChain.infix hnear hpq
    have hclose : Uplink.Near p q := List.isChain_pair.mp hpair
    obtain ⟨hpos, hp⟩ := hgeneration p (hpq.subset (by simp))
    obtain ⟨-, hq⟩ := hgeneration q (hpq.subset (by simp))
    rcases hcomes with ⟨-, hat⟩ | ⟨hlater, -⟩
    · exact hat hplain
    · rw [hp, hq] at hsame
      exact absurd (streamNumber_inj hpos hlater.le hclose hsame) hlater.ne
  · rintro earlier q ⟨after, heq⟩ hother
    obtain ⟨first, after, rfl, hfirst, rfl⟩ := List.map_eq_append_iff.mp heq.symm
    obtain ⟨before, middle, rfl, rfl, hmiddle⟩ := List.map_eq_append_iff.mp hfirst
    obtain ⟨q, rest, rfl, rfl, hnil⟩ := List.map_eq_cons_iff.mp hmiddle
    obtain rfl := List.map_eq_nil_iff.mp hnil
    have hcomes : Comes (before.getLast?.or none) q :=
      ((timeline_append _ _ _).mp ((timeline_append _ _ _).mp h).1).2.1
    rw [Option.or_none] at hcomes
    cases hlast : before.getLast? with
    | none =>
        rw [hlast] at hcomes
        exact hcomes
    | some p =>
        rw [hlast] at hcomes
        have hp : p ∈ before := List.mem_of_getLast? hlast
        obtain ⟨-, hpgeneration⟩ := hgeneration p (by simp [hp])
        obtain ⟨-, hqgeneration⟩ := hgeneration q (by simp)
        rcases hcomes with ⟨heq, -⟩ | ⟨-, hflagged⟩
        · refine absurd ?_ (hother p.packet (List.mem_map_of_mem hp))
          rw [hpgeneration, hqgeneration, heq]
        · exact hflagged

namespace Uplink

/-- **A gap is flagged unless its mark is lost.**  In a run whose calls lose no
mark, the packets returned obey the law of the timeline. -/
theorem timeline_flagged {config : ProcessorConfig} {u : Uplink α}
    (h : Exec.ReachedAlong step KeepsMarks (start config) u) : GapsFlagged u.packets := by
  obtain ⟨hinv, htiming⟩ : u.Inv ∧ u.Timing :=
    invariant_along allows_spares h (fun v => v.Inv ∧ v.Timing)
      ⟨start_inv config, start_timing config⟩
      fun v v' hv heffect => ⟨hv.1.effect heffect, hv.2.effect hv.1 heffect⟩
  have hnear : u.tally.returned.IsChain Near := by
    refine h.invariant (fun v => v.tally.returned.IsChain Near) List.isChain_nil ?_
    intro v call v' hv hcall hv'
    obtain rfl := Option.some.inj hv'
    exact perform_near hv hcall
  refine htiming.returned.gapsFlagged hnear fun entry hentry => ?_
  obtain ⟨hpos, -, hgeneration⟩ := hinv.entries entry (List.mem_append_left _ hentry)
  exact ⟨hpos, hgeneration⟩

instance (tally : StreamTally) (frame : PcmFrame α) (payload : Option (List UInt8)) :
    Decidable (Spares tally frame payload) := inferInstanceAs (Decidable (_ → _))

end Uplink

/-- A drain can be judged frame by frame. -/
instance decidableDrains {ok : StreamTally → PcmFrame α → Option (List UInt8) → Prop}
    [∀ tally frame payload, Decidable (ok tally frame payload)]
    (encode : Nat → Option (List UInt8)) :
    ∀ (k : Nat) (frames : List (PcmFrame α)) (tally : StreamTally),
      Decidable (Drains ok encode k frames tally)
  | _, [], _ => .isTrue trivial
  | k, _ :: frames, tally =>
      have : Decidable (Drains ok encode (k + 1) frames (tally.take (encode k).isSome)) :=
        decidableDrains encode (k + 1) frames _
      inferInstanceAs (Decidable (_ ∧ _))

namespace Uplink

instance (u : Uplink α) : ∀ call, Decidable (u.KeepsMarks call)
  | .workerIteration input =>
      inferInstanceAs (Decidable (Drains Spares input.encode 0 u.processor.taken u.tally))
  | .popOutgoingPacket =>
      match h : u.tally.returned.getLast? with
      | none => .isTrue (by simp [KeepsMarks, h])
      | some last => decidable_of_iff (u.tally.streams - last.stream < 2 ^ 32 - 1)
          (by simp [KeepsMarks, h])
  | .start _ | .stop | .setEnabled _ | .setTransmitting _ | .setLocalMuted _ | .setSession _ _ _
  | .clearSession | .pushCaptured _ | .workerPrelude _ | .popPlayback _ | .pushIncomingPacket _
  | .setSpeakerMuted _ _ | .setSpeakerVolume _ _ => .isTrue trivial

/-- The microphone goes live. -/
def goLive : List (ProcessorCall Unit) :=
  [.setSession 7 3 9, .setTransmitting true, .start true, .workerPrelude 0]

/-- The capture callback brings so many frames of samples. -/
def speak (frames : Nat) : ProcessorCall Unit :=
  .pushCaptured (List.replicate (frames * frameSamples) ())

/-- The encoder fails on one frame, and the capture queue overruns on another. -/
def flaggedGap : List (ProcessorCall Unit) :=
  goLive ++ [speak 1, .workerIteration encodesByte, .popOutgoingPacket,
    speak 1, .workerIteration {}, speak 2, .workerIteration encodesByte, .popOutgoingPacket,
    speak 1, .workerIteration encodesByte, .popOutgoingPacket]

/-- Flags, sequences and positions of the packets returned. -/
def timeline (u : Uplink α) : List (UInt8 × UInt32 × UInt64) :=
  u.packets.map fun packet => (packet.flags, packet.sequence, packet.sampleposition)

theorem timeline_flagged_gap :
    ∃ u : Uplink Unit, Exec.exec step (start { captureframes := 1 }) flaggedGap = some u ∧
      u.timeline = [(flagStreamStart, 0, 0), (0, 2, 1920), (flagDiscontinuity, 3, 3840)] ∧
      GapsFlagged u.packets := by
  have hany : (Exec.exec step (start { captureframes := 1 }) flaggedGap).any (fun u : Uplink Unit =>
      decide (u.timeline =
        [(flagStreamStart, 0, 0), (0, 2, 1920), (flagDiscontinuity, 3, 3840)])) = true := by
    decide +kernel
  have hkeeps : Exec.Along step KeepsMarks (start { captureframes := 1 }) flaggedGap := by
    decide +kernel
  obtain ⟨u, hrun, hu⟩ := Exec.exec_any hany
  exact ⟨u, hrun, of_decide_eq_true hu, timeline_flagged ⟨flaggedGap, hrun, hkeeps⟩⟩

/-- The capture queue overruns, and the encoder fails on the frame that carries
the mark. -/
def lostMark : List (ProcessorCall Unit) :=
  goLive ++ [speak 2, .workerIteration encodesByte, .popOutgoingPacket,
    speak 1, .workerIteration {}, speak 1, .workerIteration encodesByte, .popOutgoingPacket]

/-- **A gap may go unflagged.**  The second packet is unflagged, two after the
first in the sequence and three frames after it on the timeline. -/
theorem timeline_gap_unflagged :
    ¬ ∀ (config : ProcessorConfig) (u : Uplink Unit),
      Exec.ReachedAlong step (fun _ call => EncodesWithin call) (start config) u →
        GapsFlagged u.packets := by
  intro hlaw
  have hany : (Exec.exec step (start { captureframes := 1 }) lostMark).any (fun u : Uplink Unit =>
      decide (u.packets = [
        { flags := flagStreamStart, sessionid := 7, membershipgeneration := 3,
          streamgeneration := 1, payload := [1] },
        { sessionid := 7, membershipgeneration := 3, streamgeneration := 1, sequence := 2,
          sampleposition := 2880, payload := [1] }])) = true := by
    decide +kernel
  obtain ⟨u, hrun, hu⟩ := Exec.exec_any hany
  have hwithin : ∀ call ∈ lostMark, EncodesWithin call := by
    simp only [lostMark, goLive, speak, List.cons_append, List.nil_append, List.forall_mem_cons,
      encodesByte_within]
    simp [EncodesWithin, PayloadFits]
  obtain ⟨hgaps, -⟩ := hlaw _ u ⟨lostMark, hrun, Exec.along_of_forall hwithin _⟩
  rw [of_decide_eq_true hu] at hgaps
  exact absurd (hgaps _ _ (List.infix_refl _) rfl (by decide)) (by decide)

end Uplink

end Voice
