import GipMultiplayer.Framing
import GipMultiplayer.VoiceTimeline

/-!
# Capture framing

The frames that the capture callback pushes are the consecutive blocks of 960
samples of the device's stream, however the stream is cut into callbacks.  The
callback refines a framer that is fed one sample at a time.

* `frames` — the frames made of blocks, with their positions;
* `Capture.copyLoop_staging`, `Capture.copyLoop_feeds` — the copy loop feeds
  the framer;
* `Uplink.calls_feed` — so does a run in which capture stays active;
* `Uplink.framing_independent` — hence the cuts do not matter.
-/

namespace Voice

variable {α : Type}

/-! ## Frames of blocks -/

/-- The frames of consecutive blocks from a position on; the first carries the
mark of a gap before it. -/
def frames (gate : Gate) : UInt64 → Bool → List (List α) → List (PcmFrame α)
  | _, _, [] => []
  | position, discontinuity, block :: blocks =>
      { samples := block
        sessionepoch := gate.sessionepoch
        captureepoch := gate.captureepoch
        sampleposition := position
        discontinuity := discontinuity } ::
      frames gate (position + UInt64.ofNat frameSamples) false blocks

theorem frames_append (gate : Gate) (position : UInt64) (discontinuity : Bool)
    (blocks blocks' : List (List α)) :
    frames gate position discontinuity (blocks ++ blocks') =
      frames gate position discontinuity blocks ++
        frames gate (position + UInt64.ofNat (frameSamples * blocks.length))
          (discontinuity && blocks.isEmpty) blocks' := by
  induction blocks generalizing position discontinuity with
  | nil =>
      rw [List.nil_append, List.length_nil, Nat.mul_zero, List.isEmpty_nil, Bool.and_true]
      show _ = frames gate (position + 0) discontinuity blocks'
      rw [UInt64.add_zero]
  | cons block blocks ih =>
      have hposition : position + UInt64.ofNat frameSamples +
          UInt64.ofNat (frameSamples * blocks.length) =
          position + UInt64.ofNat (frameSamples * (block :: blocks).length) := by
        rw [List.length_cons, Nat.mul_succ, UInt64.ofNat_add, UInt64.add_assoc,
          UInt64.add_comm (UInt64.ofNat frameSamples)]
      rw [List.cons_append, frames, frames, ih, hposition, Bool.false_and, List.isEmpty_cons,
        Bool.and_false]
      rfl

/-- Only the epochs of the gates matter. -/
theorem frames_gate {gate gate' : Gate} (hsession : gate'.sessionepoch = gate.sessionepoch)
    (hepoch : gate'.captureepoch = gate.captureepoch) (position : UInt64) (discontinuity : Bool)
    (blocks : List (List α)) :
    frames gate' position discontinuity blocks = frames gate position discontinuity blocks := by
  induction blocks generalizing position discontinuity with
  | nil => rfl
  | cons block blocks ih => rw [frames, frames, hsession, hepoch, ih]

theorem frames_length (gate : Gate) (position : UInt64) (discontinuity : Bool)
    (blocks : List (List α)) :
    (frames gate position discontinuity blocks).length = blocks.length := by
  induction blocks generalizing position discontinuity with
  | nil => rfl
  | cons block blocks ih => exact congrArg (· + 1) (ih _ _)

/-- The `i`-th frame is the `i`-th block at its position. -/
theorem frames_getElem {gate : Gate} {position : UInt64} {discontinuity : Bool}
    {blocks : List (List α)} {i : Nat} {frame : PcmFrame α}
    (h : (frames gate position discontinuity blocks)[i]? = some frame) :
    blocks[i]? = some frame.samples ∧
      frame.sampleposition = position + UInt64.ofNat (frameSamples * i) := by
  induction blocks generalizing position discontinuity i with
  | nil => simp [frames] at h
  | cons block blocks ih =>
      cases i with
      | zero =>
          obtain rfl := Option.some.inj h
          refine ⟨rfl, ?_⟩
          rw [Nat.mul_zero]
          exact (UInt64.add_zero position).symm
      | succ i =>
          rw [frames, List.getElem?_cons_succ] at h
          obtain ⟨hblock, hposition⟩ := ih h
          refine ⟨hblock, hposition.trans ?_⟩
          rw [Nat.mul_succ, UInt64.ofNat_add, UInt64.add_assoc,
            UInt64.add_comm (UInt64.ofNat frameSamples)]

/-! ## The copy loop feeds the framer -/

namespace Capture

/-- Samples are fed to the framer: what is staged then, the frames pushed, the
mark that is left and the position of the next frame. -/
structure Feeds (gate : Gate) (capture : Capture α) (offset : Nat) (input : List α)
    (capture' : Capture α) (offset' : Nat) (pushed : List (PcmFrame α)) : Prop where
  staging : capture'.staging = (Framing.feed frameSamples capture.staging input).2
  pushed : pushed = frames gate (capture.nextPosition offset) capture.discontinuity
    (Framing.feed frameSamples capture.staging input).1
  discontinuity : capture'.discontinuity =
    (capture.discontinuity && (Framing.feed frameSamples capture.staging input).1.isEmpty)
  next : capture'.nextPosition offset' = capture.nextPosition offset +
    UInt64.ofNat (frameSamples * (Framing.feed frameSamples capture.staging input).1.length)

theorem Feeds.nil (gate : Gate) (capture : Capture α) (offset : Nat) :
    Feeds gate capture offset [] capture offset [] where
  staging := rfl
  pushed := rfl
  discontinuity := (Bool.and_true _).symm
  next := (UInt64.add_zero _).symm

theorem Feeds.trans {gate : Gate} {a b c : Capture α} {i j k : Nat} {xs ys : List α}
    {ps qs : List (PcmFrame α)} (hab : Feeds gate a i xs b j ps) (hbc : Feeds gate b j ys c k qs) :
    Feeds gate a i (xs ++ ys) c k (ps ++ qs) := by
  have hfeed := Framing.feed_append frameSamples a.staging xs ys
  rw [← hab.staging] at hfeed
  constructor
  · rw [hfeed]
    exact hbc.staging
  · rw [hfeed, frames_append, ← hab.next, ← hab.discontinuity, ← hab.pushed, ← hbc.pushed]
  · rw [hfeed, hbc.discontinuity, hab.discontinuity, Bool.and_assoc]
    exact congrArg _ (by cases (Framing.feed frameSamples a.staging xs).1 <;> rfl)
  · rw [hfeed, hbc.next, hab.next, List.length_append, Nat.mul_add, UInt64.ofNat_add,
      UInt64.add_assoc]

/-- One round of the copy loop, told from its result. -/
theorem copyRound_result {config : ProcessorConfig} {gate : Gate} {capture capture' : Capture α}
    {offset copy : Nat} {input : List α} (h : capture.Staged offset)
    (hcurrent : capture.StagesCurrent gate)
    (hround : capture.copyRound config gate offset input =
      (capture', offset + copy, input.drop copy)) :
    (input.take copy).length = copy ∧
      (capture.staging.length + copy = frameSamples ∧
          capture' = (capture.stage gate offset (input.take copy)).pushFrame config ∨
        capture.staging.length + copy < frameSamples ∧ copy = input.length ∧
          capture' = capture.stage gate offset (input.take copy)) := by
  have hshort := h.short
  have hcopy : copy = min input.length (frameSamples - capture.staging.length) := by
    have heq := copyRound_eq config offset input hcurrent rfl
    rw [hround, Prod.mk.injEq, Prod.mk.injEq] at heq
    omega
  have heq := copyRound_eq config offset input hcurrent hcopy
  rw [hround, Prod.mk.injEq] at heq
  obtain ⟨rfl, -⟩ := heq
  refine ⟨by rw [List.length_take]; omega, ?_⟩
  split_ifs with hfull
  · exact .inl ⟨hfull, rfl⟩
  · exact .inr ⟨by omega, by omega, rfl⟩

/-- What one round of the copy loop leaves in the staging buffer. -/
theorem copyRound_staging {config : ProcessorConfig} {gate : Gate} {capture capture' : Capture α}
    {offset copy : Nat} {input : List α} (h : capture.Staged offset)
    (hcurrent : capture.StagesCurrent gate) (hpos : 0 < copy)
    (hround : capture.copyRound config gate offset input =
      (capture', offset + copy, input.drop copy)) :
    capture'.staging = (Framing.feed frameSamples capture.staging (input.take copy)).2 := by
  obtain ⟨hlength, ⟨hfull, rfl⟩ | ⟨hless, -, rfl⟩⟩ := copyRound_result h hcurrent hround
  · have htake : input.take copy ≠ [] := List.length_pos_iff.mp (by omega)
    rw [Framing.feed_fill htake (by rw [hlength]; exact hfull)]
    by_cases hroom : (capture.stage gate offset (input.take copy)).queue.length <
        config.captureframes
    · rw [pushFrame_room hroom]
    · rw [pushFrame_overrun hroom]
  · rw [Framing.feed_short (by rw [hlength]; exact hless)]
    rfl

/-- **What the copy loop leaves in the staging buffer**, room or no room. -/
theorem copyLoop_staging (config : ProcessorConfig) {gate : Gate} (fuel : Nat)
    {capture : Capture α} {offset : Nat} {input : List α} (h : capture.Staged offset)
    (hcurrent : capture.StagesCurrent gate) (hfuel : input.length ≤ fuel) :
    (capture.copyLoop config gate fuel offset input).staging =
      (Framing.feed frameSamples capture.staging input).2 := by
  induction fuel generalizing capture offset input with
  | zero =>
      obtain rfl : input = [] := List.length_eq_zero_iff.mp (Nat.le_zero.mp hfuel)
      rfl
  | succ fuel ih =>
      unfold copyLoop
      by_cases hinput : input = []
      · rw [if_pos hinput, hinput]
        rfl
      · obtain ⟨capture₁, copy, hpos, hle, hround, hcopied⟩ :=
          copyRound_copied config h hcurrent hinput
        have hstaging := copyRound_staging h hcurrent hpos hround
        have hrest : (input.drop copy).length ≤ fuel := by
          rw [List.length_drop]
          omega
        have hfeed := Framing.feed_append frameSamples capture.staging (input.take copy)
          (input.drop copy)
        rw [List.take_append_drop, ← hstaging] at hfeed
        rw [if_neg hinput, hround, hfeed]
        exact ih hcopied.staged hcopied.current hrest

/-- There is room for the blocks that the samples complete. -/
def HasRoom (config : ProcessorConfig) (capture : Capture α) (count : Nat) : Prop :=
  capture.queue.length + (capture.staging.length + count) / frameSamples ≤ config.captureframes

/-- One round of the copy loop with room in the queue. -/
theorem copyRound_feeds {config : ProcessorConfig} {gate : Gate} {capture capture' : Capture α}
    {offset copy : Nat} {input : List α} (h : capture.Staged offset)
    (hcurrent : capture.StagesCurrent gate) (hroom : capture.HasRoom config input.length)
    (hpos : 0 < copy) (hle : copy ≤ input.length)
    (hround : capture.copyRound config gate offset input =
      (capture', offset + copy, input.drop copy)) :
    ∃ pushed, capture'.queue = capture.queue ++ pushed ∧
      Feeds gate capture offset (input.take copy) capture' (offset + copy) pushed ∧
      capture'.HasRoom config (input.drop copy).length := by
  have hstaging := copyRound_staging h hcurrent hpos hround
  obtain ⟨hlength, hresult⟩ := copyRound_result h hcurrent hround
  have htake : input.take copy ≠ [] := List.length_pos_iff.mp (by omega)
  unfold HasRoom at *
  rcases hresult with ⟨hfull, rfl⟩ | ⟨hless, hall, rfl⟩
  · have hfilled : capture.staging.length + (input.take copy).length = frameSamples := by
      rw [hlength, hfull]
    have hfeed := Framing.feed_fill htake hfilled
    have hsum : capture.staging.length + input.length =
        frameSamples + (input.length - copy) := by omega
    rw [hsum, Nat.add_div_left _ (by decide)] at hroom
    have hqueue : (capture.stage gate offset (input.take copy)).queue.length <
        config.captureframes := by
      exact (Nat.add_le_add_left (Nat.le_add_left 1 _) _).trans hroom
    rw [pushFrame_room hqueue] at hstaging ⊢
    refine ⟨[(capture.stage gate offset (input.take copy)).frame], rfl, ⟨hstaging, ?_, ?_, ?_⟩, ?_⟩
    · rw [hfeed]
      rfl
    · rw [hfeed]
      exact (Bool.and_false _).symm
    · rw [hfeed]
      show capture.position + UInt64.ofNat (offset + copy) =
        capture.nextPosition offset + UInt64.ofNat (frameSamples * 1)
      rw [Nat.mul_one, ← hfilled, stage_ends h, hlength]
    · rw [List.length_append, List.length_singleton, List.length_nil, List.length_drop,
        Nat.zero_add]
      show capture.queue.length + 1 + _ ≤ _
      rw [Nat.add_assoc, Nat.add_comm 1]
      exact hroom
  · have hfeed : Framing.feed frameSamples capture.staging (input.take copy) =
        ([], capture.staging ++ input.take copy) :=
      Framing.feed_short (by rw [hlength]; exact hless)
    refine ⟨[], (List.append_nil _).symm, ⟨hstaging, ?_, ?_, ?_⟩, ?_⟩
    · rw [hfeed]
      rfl
    · rw [hfeed]
      exact (Bool.and_true _).symm
    · have hsome : capture.staging ++ input.take copy ≠ [] :=
        fun hnil => htake (List.append_eq_nil_iff.mp hnil).2
      rw [hfeed, List.length_nil, Nat.mul_zero]
      show (if capture.staging ++ input.take copy = [] then _ else capture.nextPosition offset) =
        capture.nextPosition offset + 0
      rw [if_neg hsome, UInt64.add_zero]
    · have hsum : (capture.staging ++ input.take copy).length + (input.drop copy).length =
          capture.staging.length + input.length := by
        rw [List.length_append, hlength, List.length_drop]
        omega
      show capture.queue.length + ((capture.staging ++ input.take copy).length + _) / _ ≤ _
      rw [hsum]
      exact hroom

/-- **The copy loop feeds the framer**, as long as there is room. -/
theorem copyLoop_feeds (config : ProcessorConfig) {gate : Gate} (fuel : Nat) {capture : Capture α}
    {offset : Nat} {input : List α} (h : capture.Staged offset)
    (hcurrent : capture.StagesCurrent gate) (hfuel : input.length ≤ fuel)
    (hroom : capture.HasRoom config input.length) :
    ∃ pushed, (capture.copyLoop config gate fuel offset input).queue = capture.queue ++ pushed ∧
      Feeds gate capture offset input (capture.copyLoop config gate fuel offset input)
        (offset + input.length) pushed := by
  induction fuel generalizing capture offset input with
  | zero =>
      obtain rfl : input = [] := List.length_eq_zero_iff.mp (Nat.le_zero.mp hfuel)
      exact ⟨[], (List.append_nil _).symm, .nil gate capture offset⟩
  | succ fuel ih =>
      unfold copyLoop
      by_cases hinput : input = []
      · rw [if_pos hinput, hinput]
        exact ⟨[], (List.append_nil _).symm, .nil gate capture offset⟩
      · obtain ⟨capture₁, copy, hpos, hle, hround, hcopied⟩ :=
          copyRound_copied config h hcurrent hinput
        obtain ⟨pushed, hqueue, hfeeds, hroom₁⟩ :=
          copyRound_feeds h hcurrent hroom hpos hle hround
        have hrest : (input.drop copy).length ≤ fuel := by
          rw [List.length_drop]
          omega
        obtain ⟨pushed', hqueue', hfeeds'⟩ := ih hcopied.staged hcopied.current hrest hroom₁
        have hoffset : offset + copy + (input.drop copy).length = offset + input.length := by
          rw [List.length_drop]
          omega
        have hall := hfeeds.trans hfeeds'
        rw [List.take_append_drop, hoffset] at hall
        rw [if_neg hinput, hround]
        exact ⟨pushed ++ pushed', by rw [hqueue', hqueue, List.append_assoc], hall⟩

/-! ## Staging states -/

/-- The same samples staged, with the same position and epochs if there are any. -/
structure SameStaging (capture capture' : Capture α) : Prop where
  staging : capture'.staging = capture.staging
  position : capture'.position = capture.position
  discontinuity : capture'.discontinuity = capture.discontinuity
  opened : capture.staging ≠ [] → capture'.stagingposition = capture.stagingposition ∧
    capture'.stagingsessionepoch = capture.stagingsessionepoch ∧
    capture'.stagingepoch = capture.stagingepoch

theorem SameStaging.refl (capture : Capture α) : capture.SameStaging capture :=
  ⟨rfl, rfl, rfl, fun _ => ⟨rfl, rfl, rfl⟩⟩

theorem SameStaging.trans {a b c : Capture α} (hab : a.SameStaging b) (hbc : b.SameStaging c) :
    a.SameStaging c where
  staging := hbc.staging.trans hab.staging
  position := hbc.position.trans hab.position
  discontinuity := hbc.discontinuity.trans hab.discontinuity
  opened hsome := by
    obtain ⟨hp, hs, he⟩ := hab.opened hsome
    obtain ⟨hp', hs', he'⟩ := hbc.opened (hab.staging ▸ hsome)
    exact ⟨hp'.trans hp, hs'.trans hs, he'.trans he⟩

theorem SameStaging.symm {a b : Capture α} (h : a.SameStaging b) : b.SameStaging a where
  staging := h.staging.symm
  position := h.position.symm
  discontinuity := h.discontinuity.symm
  opened hsome := by
    obtain ⟨hp, hs, he⟩ := h.opened (h.staging ▸ hsome)
    exact ⟨hp.symm, hs.symm, he.symm⟩

theorem SameStaging.nextPosition {capture capture' : Capture α} (h : capture.SameStaging capture')
    (offset : Nat) : capture'.nextPosition offset = capture.nextPosition offset := by
  unfold Capture.nextPosition
  rw [h.staging, h.position]
  split_ifs with hempty
  · rfl
  · exact (h.opened hempty).1

theorem SameStaging.stagesCurrent {capture capture' : Capture α} {gate : Gate}
    (h : capture.SameStaging capture') (hcurrent : capture.StagesCurrent gate) :
    capture'.StagesCurrent gate := by
  intro hsome
  rw [h.staging] at hsome
  obtain ⟨-, hs, he⟩ := h.opened hsome
  rw [hs, he]
  exact hcurrent hsome

theorem SameStaging.staged {capture capture' : Capture α} {offset : Nat}
    (h : capture.SameStaging capture') (hstaged : capture.Staged offset) :
    capture'.Staged offset := by
  refine ⟨by rw [h.staging]; exact hstaged.short, fun hsome => ?_⟩
  rw [h.staging] at hsome
  rw [(h.opened hsome).1, h.staging, h.position]
  exact hstaged.ends hsome

/-- Stale samples are dropped from the one as from the other. -/
theorem SameStaging.dropStale {capture capture' : Capture α} {gate gate' : Gate}
    (h : capture.SameStaging capture') (hsession : gate'.sessionepoch = gate.sessionepoch)
    (hepoch : gate'.captureepoch = gate.captureepoch) :
    (capture.dropStale gate).SameStaging (capture'.dropStale gate') := by
  unfold Capture.dropStale
  rw [h.staging, hsession, hepoch]
  by_cases hsome : capture.staging = []
  · rw [if_neg fun hstale => hstale.1 hsome, if_neg fun hstale => hstale.1 hsome]
    exact h
  · obtain ⟨-, hs, he⟩ := h.opened hsome
    rw [hs, he]
    split_ifs
    · exact ⟨rfl, h.position, rfl, fun h => absurd rfl h⟩
    · exact h

theorem dropStale_of_current {gate : Gate} {capture : Capture α}
    (h : capture.StagesCurrent gate) : capture.dropStale gate = capture := by
  refine if_neg fun hstale => ?_
  obtain ⟨hsession, hepoch⟩ := h hstale.1
  rcases hstale.2 with hother | hother
  · exact hother hsession
  · exact hother hepoch

theorem Feeds.congr {gate : Gate} {a b b' : Capture α} {i j : Nat} {xs : List α}
    {ps : List (PcmFrame α)} (h : Feeds gate a i xs b j ps) (hb : b.SameStaging b') :
    Feeds gate a i xs b' j ps where
  staging := hb.staging.trans h.staging
  pushed := h.pushed
  discontinuity := hb.discontinuity.trans h.discontinuity
  next := (hb.nextPosition j).trans h.next

/-- The end of a callback is the beginning of the next. -/
theorem Feeds.advance {gate : Gate} {a b : Capture α} {i count : Nat} {xs : List α}
    {ps : List (PcmFrame α)} (h : Feeds gate a i xs b count ps) :
    Feeds gate a i xs (b.advance count) 0 ps where
  staging := h.staging
  pushed := h.pushed
  discontinuity := h.discontinuity
  next := by
    refine Eq.trans ?_ h.next
    show (if b.staging = [] then b.position + UInt64.ofNat count + 0 else b.stagingposition) =
      if b.staging = [] then b.position + UInt64.ofNat count else b.stagingposition
    rw [UInt64.add_zero]

end Capture

/-! ## The callback feeds the framer -/

/-- What an open callback leaves in the staging buffer. -/
theorem pushCaptured_staging (processor : Processor α) {input : List α} (hinput : input ≠ [])
    (hgate : processor.gate.Capturing) (h : processor.capture.Staged 0) :
    (processor.pushCaptured input).capture.staging =
      (Framing.feed frameSamples (processor.capture.dropStale processor.gate).staging input).2 := by
  rw [pushCaptured_open processor hinput hgate]
  exact Capture.copyLoop_staging processor.config input.length (Capture.dropStale_staged _ h)
    (Capture.dropStale_stagesCurrent _ _) (Nat.le_refl _)

/-- Every callback moves the position by its length. -/
theorem pushCaptured_position (processor : Processor α) (input : List α) :
    (processor.pushCaptured input).capture.position =
      processor.capture.position + UInt64.ofNat input.length := by
  rcases pushCaptured_cases processor input with ⟨rfl, h⟩ | ⟨-, h⟩ | ⟨-, -, h⟩
  · rw [h]
    exact (UInt64.add_zero _).symm
  · rw [h]
    rfl
  · have houtside := (Capture.dropStale_outside processor.gate processor.capture).trans
      (Capture.copyLoop_outside processor.config processor.gate input.length
        (processor.capture.dropStale processor.gate) 0 input)
    rw [h]
    exact congrArg (· + UInt64.ofNat input.length) houtside.position

/-- **An open callback with room feeds the framer.** -/
theorem pushCaptured_feeds (processor : Processor α) {input : List α} (hinput : input ≠ [])
    (hgate : processor.gate.Capturing) (h : processor.capture.Staged 0)
    (hroom : (processor.capture.dropStale processor.gate).HasRoom processor.config input.length) :
    ∃ pushed, (processor.pushCaptured input).capture.queue = processor.capture.queue ++ pushed ∧
      Capture.Feeds processor.gate (processor.capture.dropStale processor.gate) 0 input
        (processor.pushCaptured input).capture 0 pushed ∧
      (processor.pushCaptured input).capture.StagesCurrent processor.gate ∧
      (processor.pushCaptured input).capture.Staged 0 := by
  have hstaged := Capture.dropStale_staged processor.gate h
  have hcurrent := Capture.dropStale_stagesCurrent processor.gate processor.capture
  obtain ⟨pushed, hqueue, hfeeds⟩ :=
    Capture.copyLoop_feeds processor.config input.length hstaged hcurrent (Nat.le_refl _) hroom
  have hcopied := Capture.copyLoop_copied processor.config input.length hstaged hcurrent
    (Nat.le_refl _)
  rw [Nat.zero_add] at hfeeds hcopied
  have hkept : (processor.capture.dropStale processor.gate).queue = processor.capture.queue := by
    unfold Capture.dropStale
    split_ifs <;> rfl
  have hadvanced := Capture.advance_copied hcopied
  rw [hkept] at hqueue
  rw [pushCaptured_open processor hinput hgate]
  exact ⟨pushed, hqueue, hfeeds.advance, hadvanced.current, hadvanced.staged⟩

/-! ## The other calls -/

theorem encodeFrame_sameStaging (config : ProcessorConfig) (gate : Gate) (capture : Capture α)
    (frame : PcmFrame α) (sequence : UInt32) (firstpacket : Bool)
    (payload : Option (List UInt8)) :
    capture.SameStaging (encodeFrame config gate capture frame sequence firstpacket payload) := by
  unfold encodeFrame
  cases payload with
  | none => split_ifs <;> exact .refl capture
  | some payload =>
      dsimp only
      split_ifs
      · exact .refl capture
      · exact .refl capture
      · exact ⟨rfl, rfl, rfl, fun _ => ⟨rfl, rfl, rfl⟩⟩

theorem drainCapture_sameStaging (config : ProcessorConfig) (gate : Gate)
    (encode : Nat → Option (List UInt8)) (k : Nat) (frames : List (PcmFrame α))
    (capture : Capture α) (loop : WorkerLoop) :
    capture.SameStaging (drainCapture config gate encode k frames capture loop).1 := by
  induction frames generalizing k capture loop with
  | nil => exact .refl capture
  | cons frame frames ih =>
      unfold drainCapture
      split_ifs
      · exact ih k capture loop
      · exact (encodeFrame_sameStaging ..).trans (ih (k + 1) _ _)

theorem workerIteration_sameStaging (processor : Processor α) (input : Iteration) :
    processor.capture.SameStaging (processor.workerIteration input).capture := by
  unfold Processor.workerIteration
  split
  · rename_i loop _
    split_ifs
    · exact .refl _
    · have h₁ : processor.capture.SameStaging (processor.observeSession loop input).1.capture := by
        unfold Processor.observeSession
        split_ifs
        · exact ⟨rfl, rfl, rfl, fun _ => ⟨rfl, rfl, rfl⟩⟩
        · exact .refl _
      generalize processor.observeSession loop input = stage₁ at h₁
      obtain ⟨p₁, loop₁⟩ := stage₁
      have h₂ : p₁.capture.SameStaging (p₁.observeCapture loop₁).1.capture := by
        unfold Processor.observeCapture
        dsimp only
        split_ifs
        · exact ⟨rfl, rfl, rfl, fun _ => ⟨rfl, rfl, rfl⟩⟩
        · exact ⟨rfl, rfl, rfl, fun _ => ⟨rfl, rfl, rfl⟩⟩
        · exact .refl _
      generalize hp₂ : p₁.observeCapture loop₁ = stage₂ at h₂
      obtain ⟨p₂, loop₂⟩ := stage₂
      have h₃ : p₂.capture.SameStaging
          ((p₂.processIncoming input loop₂.observedsessionepoch).encodeCaptured
            loop₂ input).1.capture := by
        have hempty : p₂.capture.SameStaging { p₂.capture with queue := [] } :=
          ⟨rfl, rfl, rfl, fun _ => ⟨rfl, rfl, rfl⟩⟩
        unfold Processor.encodeCaptured
        split_ifs
        · exact hempty.trans (drainCapture_sameStaging ..)
        · exact hempty
      simp only [hp₂]
      exact (h₁.trans h₂).trans h₃
  · exact .refl _

/-- The samples that a call brings. -/
def ProcessorCall.samples : ProcessorCall α → List α
  | .pushCaptured input => input
  | _ => []

/-- Only the capture callback touches the staging buffer. -/
theorem call_sameStaging (processor : Processor α) {call : ProcessorCall α}
    (h : call.samples = []) : processor.capture.SameStaging (processor.call call).capture := by
  have hsame : ∀ capture : Capture α, capture.staging = processor.capture.staging →
      capture.position = processor.capture.position →
      capture.discontinuity = processor.capture.discontinuity →
      capture.stagingposition = processor.capture.stagingposition →
      capture.stagingsessionepoch = processor.capture.stagingsessionepoch →
      capture.stagingepoch = processor.capture.stagingepoch →
      processor.capture.SameStaging capture :=
    fun _ hs hp hd hsp hss hse => ⟨hs, hp, hd, fun _ => ⟨hsp, hss, hse⟩⟩
  cases call with
  | start setupOk =>
      simp only [Processor.call, Processor.start]
      split_ifs <;> exact .refl _
  | stop => exact hsame _ rfl rfl rfl rfl rfl rfl
  | setEnabled enabled =>
      simp only [Processor.call, Processor.setEnabled]
      split_ifs <;> exact hsame _ rfl rfl rfl rfl rfl rfl
  | setTransmitting transmitting =>
      simp only [Processor.call, Processor.setTransmitting]
      split_ifs <;> exact hsame _ rfl rfl rfl rfl rfl rfl
  | setLocalMuted muted =>
      simp only [Processor.call, Processor.setLocalMuted]
      split_ifs <;> exact hsame _ rfl rfl rfl rfl rfl rfl
  | setSession sessionid generation playerid => exact hsame _ rfl rfl rfl rfl rfl rfl
  | clearSession => exact hsame _ rfl rfl rfl rfl rfl rfl
  | pushCaptured input =>
      obtain rfl : input = [] := h
      exact .refl _
  | workerPrelude now =>
      simp only [Processor.call, Processor.workerPrelude]
      split <;> exact hsame _ rfl rfl rfl rfl rfl rfl
  | workerIteration input => exact workerIteration_sameStaging processor input
  | popOutgoingPacket =>
      simp only [Processor.call, Processor.popOutgoingPacket]
      split_ifs <;> exact hsame _ rfl rfl rfl rfl rfl rfl
  | popPlayback samplecount =>
      simp only [Processor.call, Processor.popPlayback]
      split_ifs <;> exact hsame _ rfl rfl rfl rfl rfl rfl
  | pushIncomingPacket packet =>
      simp only [Processor.call, Processor.pushIncomingPacket]
      split_ifs <;> exact hsame _ rfl rfl rfl rfl rfl rfl
  | setSpeakerMuted speakerid muted => exact hsame _ rfl rfl rfl rfl rfl rfl
  | setSpeakerVolume speakerid volume => exact hsame _ rfl rfl rfl rfl rfl rfl

namespace Uplink

/-- The gates change only with the capture epoch. -/
theorem effect_gate {ok : StreamTally → PcmFrame α → Option (List UInt8) → Prop}
    {u u' : Uplink α} (heffect : Effect ok u u') :
    u'.gate = u.gate ∨ u.gate.captureepoch < u'.gate.captureepoch := by
  cases heffect with
  | quiet hquiet => exact .inl hquiet.gate
  | changed hepoch heven hcapture hencoding htally => exact .inr hepoch
  | stopped begins hgate hcapture hencoding hbegins =>
      rw [hgate]
      exact .inr (Nat.lt_succ_self _)
  | started hoff hgate hcapture hencoding htally =>
      rw [hgate]
      exact .inr (Nat.lt_succ_self _)
  | entered hnone hgate hcapture hencoding hbegins => exact .inl hgate
  | noticed e hold hnew hgate hcapture hencoding htally => exact .inl hgate
  | observed e hold hsession hnew hgate hcapture hencoding hbegins => exact .inl hgate
  | discarded hoff hgate hcapture hencoding htally => exact .inl hgate
  | skipped e hold frame rest hqueue hother hgate hcapture hencoding htally => exact .inl hgate
  | encoded e hold config frame rest payload hqueue hown hrunning hactive hsession hepoch hok hgate
      hcapture hencoding htally => exact .inl hgate
  | captured input hgate hcapture hencoding htally => exact .inl hgate
  | popped hrunning hactive hgate hcapture hencoding htally => exact .inl hgate

theorem drains_true (encode : Nat → Option (List UInt8)) (k : Nat) (frames : List (PcmFrame α))
    (tally : StreamTally) : Drains (fun _ _ _ => True) encode k frames tally := by
  induction frames generalizing k tally with
  | nil => trivial
  | cons frame frames ih => exact ⟨trivial, ih (k + 1) _⟩

/-- A call that keeps the capture epoch keeps the gates. -/
theorem perform_gate {u : Uplink α} {call : ProcessorCall α}
    (h : (u.perform call).gate.captureepoch = u.gate.captureepoch) :
    (u.perform call).gate = u.gate := by
  have hallows : u.Allows (fun _ _ _ => True) call := by
    cases call with
    | workerIteration input => exact drains_true _ _ _ _
    | _ => trivial
  have hgate : (u.perform call).gate = u.gate ∨
      u.gate.captureepoch < (u.perform call).gate.captureepoch := by
    refine (perform_effects hallows).invariant
      (fun v => v.gate = u.gate ∨ u.gate.captureepoch < v.gate.captureepoch) (.inl rfl) ?_
    rintro v v' hv heffect
    rcases hv with hsame | hlater <;> rcases effect_gate heffect with hsame' | hlater'
    · exact .inl (hsame'.trans hsame)
    · exact .inr (hsame ▸ hlater')
    · exact .inr (hsame' ▸ hlater)
    · exact .inr (hlater.trans hlater')
  rcases hgate with hsame | hlater
  · exact hsame
  · exact absurd h hlater.ne'

/-! ## Runs -/

end Uplink

/-- The samples that calls bring, in order. -/
def samplesOf (calls : List (ProcessorCall α)) : List α := calls.flatMap ProcessorCall.samples

namespace Uplink

/-- The capture path as the next callback of these epochs finds it. -/
def normal (u : Uplink α) : Capture α := u.capture.dropStale u.gate

/-- Capture stays active, its epochs stay, and the capture queue has room. -/
structure Undisturbed (u : Uplink α) (call : ProcessorCall α) : Prop where
  capturing : u.gate.Capturing
  session : (u.perform call).gate.sessionepoch = u.gate.sessionepoch
  epoch : (u.perform call).gate.captureepoch = u.gate.captureepoch
  room : call.samples ≠ [] → u.normal.HasRoom u.processor.config call.samples.length

/-- An uplink has been fed samples and pushed frames. -/
structure Fed (u : Uplink α) (samples : List α) (v : Uplink α) (pushed : List (PcmFrame α)) :
    Prop where
  framed : v.framed = u.framed ++ pushed
  gate : v.gate = u.gate
  feeds : Capture.Feeds u.gate u.normal 0 samples v.normal 0 pushed
  position : v.capture.position = u.capture.position + UInt64.ofNat samples.length
  staged : v.capture.Staged 0
  idle : samples = [] → u.capture.SameStaging v.capture
  current : samples ≠ [] → v.capture.StagesCurrent v.gate

theorem Fed.refl {u : Uplink α} (h : u.capture.Staged 0) : u.Fed [] u [] where
  framed := (List.append_nil _).symm
  gate := rfl
  feeds := .nil u.gate u.normal 0
  position := (UInt64.add_zero _).symm
  staged := h
  idle _ := .refl u.capture
  current h := absurd rfl h

theorem Fed.trans {u v w : Uplink α} {xs ys : List α} {ps qs : List (PcmFrame α)}
    (huv : u.Fed xs v ps) (hvw : v.Fed ys w qs) : u.Fed (xs ++ ys) w (ps ++ qs) where
  framed := by rw [hvw.framed, huv.framed, List.append_assoc]
  gate := hvw.gate.trans huv.gate
  feeds := huv.feeds.trans (huv.gate ▸ hvw.feeds)
  position := by
    rw [hvw.position, huv.position, List.length_append, UInt64.ofNat_add, UInt64.add_assoc]
  staged := hvw.staged
  idle hnil := by
    obtain ⟨rfl, rfl⟩ := List.append_eq_nil_iff.mp hnil
    exact (huv.idle rfl).trans (hvw.idle rfl)
  current hsome := by
    by_cases hys : ys = []
    · have hxs : xs ≠ [] := by
        rw [hys, List.append_nil] at hsome
        exact hsome
      have hcurrent := huv.current hxs
      rw [← hvw.gate] at hcurrent
      exact (hvw.idle hys).stagesCurrent hcurrent
    · exact hvw.current hys

/-- A call without samples. -/
theorem fed_of_idle {u : Uplink α} {call : ProcessorCall α} (h : u.capture.Staged 0)
    (hgate : (u.perform call).gate = u.gate) (hcall : call.samples = []) :
    u.Fed [] (u.perform call) [] where
  framed := by
    cases call with
    | pushCaptured input =>
        obtain rfl : input = [] := hcall
        show u.framed ++ u.processor.capture.queue.drop u.processor.capture.queue.length = _
        rw [List.drop_length]
    | _ => rfl
  gate := hgate
  feeds := by
    have hsame := (call_sameStaging u.processor hcall).dropStale
      (congrArg Gate.sessionepoch hgate) (congrArg Gate.captureepoch hgate)
    exact (Capture.Feeds.nil u.gate u.normal 0).congr hsame
  position := by
    have hsame := (call_sameStaging u.processor hcall).position
    exact hsame.trans (UInt64.add_zero _).symm
  staged := (call_sameStaging u.processor hcall).staged h
  idle _ := call_sameStaging u.processor hcall
  current h := absurd rfl h

/-- **Step lemma.**  An undisturbed call feeds the framer its samples. -/
theorem call_feeds {u : Uplink α} {call : ProcessorCall α} (h : u.capture.Staged 0)
    (hcall : u.Undisturbed call) : ∃ pushed, u.Fed call.samples (u.perform call) pushed := by
  have hgate := perform_gate hcall.epoch
  by_cases hsamples : call.samples = []
  · rw [hsamples]
    exact ⟨[], fed_of_idle h hgate hsamples⟩
  · cases call with
    | pushCaptured input =>
        have hinput : input ≠ [] := hsamples
        obtain ⟨pushed, hqueue, hfeeds, hcurrent, hstaged⟩ :=
          pushCaptured_feeds u.processor hinput hcall.capturing h (hcall.room hsamples)
        have hcurrent' : (u.perform (.pushCaptured input)).capture.StagesCurrent
            (u.perform (.pushCaptured input)).gate := by
          rw [hgate]
          exact hcurrent
        refine ⟨pushed, ?_, hgate, ?_, pushCaptured_position u.processor input, hstaged,
          fun hnil => absurd hnil hsamples, fun _ => hcurrent'⟩
        · show u.framed ++ (u.processor.pushCaptured input).capture.queue.drop
            u.processor.capture.queue.length = _
          rw [hqueue, List.drop_left]
        · rw [normal, normal, Capture.dropStale_of_current hcurrent']
          exact hfeeds
    | _ => exact absurd rfl hsamples

/-- **Run lemma.**  So does an undisturbed run. -/
theorem calls_feed {u v : Uplink α} {calls : List (ProcessorCall α)} (h : u.capture.Staged 0)
    (hrun : Exec.exec step u calls = some v) (hcalls : Exec.Along step Undisturbed u calls) :
    ∃ pushed, u.Fed (samplesOf calls) v pushed := by
  induction calls generalizing u with
  | nil =>
      obtain rfl := Option.some.inj hrun
      exact ⟨[], .refl h⟩
  | cons call calls ih =>
      obtain ⟨w, hw, hrest⟩ := Exec.exec_cons_some hrun
      obtain rfl := Option.some.inj hw
      obtain ⟨pushed, hfed⟩ := call_feeds h hcalls.1
      obtain ⟨pushed', hfed'⟩ := ih hfed.staged hrest (hcalls.2 _ rfl)
      exact ⟨pushed ++ pushed', hfed.trans hfed'⟩

/-! ## The stream of the device -/

/-- What is staged is the end of the samples that the device has brought, and the
position counts them. -/
structure Placed (u : Uplink α) (samples : List α) : Prop where
  staged : u.capture.Staged 0
  position : u.capture.position = UInt64.ofNat samples.length
  suffix : u.capture.staging <:+ samples

theorem start_placed (config : ProcessorConfig) : (start config : Uplink α).Placed [] where
  staged := ⟨Nat.zero_lt_succ _, fun h => absurd rfl h⟩
  position := rfl
  suffix := List.suffix_refl []

/-- What is kept is staged. -/
theorem dropStale_suffix (gate : Gate) (capture : Capture α) :
    (capture.dropStale gate).staging <:+ capture.staging := by
  unfold Capture.dropStale
  split_ifs
  · exact List.nil_suffix
  · exact List.suffix_refl _

theorem pushCaptured_suffix (processor : Processor α) (input : List α)
    (h : processor.capture.Staged 0) :
    (processor.pushCaptured input).capture.staging <:+ processor.capture.staging ++ input := by
  by_cases hinput : input = []
  · rw [hinput, pushCaptured_nil, List.append_nil]
  · by_cases hgate : processor.gate.Capturing
    · rw [pushCaptured_staging processor hinput hgate h]
      refine List.IsSuffix.trans ⟨_, Framing.feed_flatten frameSamples _ input⟩ ?_
      obtain ⟨dropped, hdropped⟩ := dropStale_suffix processor.gate processor.capture
      exact ⟨dropped, by rw [← List.append_assoc, hdropped]⟩
    · rw [pushCaptured_closed processor hinput hgate]
      exact List.nil_suffix

theorem pushCaptured_staged (processor : Processor α) (input : List α)
    (h : processor.capture.Staged 0) : (processor.pushCaptured input).capture.Staged 0 := by
  by_cases hinput : input = []
  · rw [hinput, pushCaptured_nil]
    exact h
  · by_cases hgate : processor.gate.Capturing
    · exact (pushCaptured_extends processor hinput hgate h).2
    · rw [pushCaptured_closed processor hinput hgate]
      exact ⟨Nat.zero_lt_succ _, fun h => absurd rfl h⟩

theorem Placed.perform {u : Uplink α} {samples : List α} (h : u.Placed samples)
    (call : ProcessorCall α) : (u.perform call).Placed (samples ++ call.samples) := by
  by_cases hcall : call.samples = []
  · have hsame := call_sameStaging u.processor hcall
    rw [hcall, List.append_nil]
    exact ⟨hsame.staged h.staged, hsame.position.trans h.position, hsame.staging ▸ h.suffix⟩
  · cases call with
    | pushCaptured input =>
        refine ⟨pushCaptured_staged u.processor input h.staged, ?_, ?_⟩
        · show (u.processor.pushCaptured input).capture.position =
            UInt64.ofNat (samples ++ input).length
          rw [pushCaptured_position, List.length_append, UInt64.ofNat_add]
          exact congrArg (· + UInt64.ofNat input.length) h.position
        · obtain ⟨before, hbefore⟩ := h.suffix
          refine (pushCaptured_suffix u.processor input h.staged).trans ⟨before, ?_⟩
          rw [← List.append_assoc]
          exact congrArg (· ++ input) hbefore
    | _ => exact absurd rfl hcall

/-- **The staging buffer holds the end of the device's stream.** -/
theorem Placed.run {u v : Uplink α} {samples : List α} (h : u.Placed samples)
    {calls : List (ProcessorCall α)} (hrun : Exec.exec step u calls = some v) :
    v.Placed (samples ++ samplesOf calls) := by
  induction calls generalizing u samples with
  | nil =>
      obtain rfl := Option.some.inj hrun
      rw [samplesOf, List.flatMap_nil, List.append_nil]
      exact h
  | cons call calls ih =>
      obtain ⟨w, hw, hrest⟩ := Exec.exec_cons_some hrun
      obtain rfl := Option.some.inj hw
      rw [samplesOf, List.flatMap_cons, ← List.append_assoc]
      exact ih (h.perform call) hrest

/-- Where the next frame begins in the device's stream. -/
theorem Placed.first {u : Uplink α} {samples : List α} (h : u.Placed samples) :
    ∃ before, samples = before ++ u.normal.staging ∧
      u.normal.nextPosition 0 = UInt64.ofNat before.length := by
  obtain ⟨before, hbefore⟩ := (dropStale_suffix u.gate u.capture).trans h.suffix
  refine ⟨before, hbefore.symm, ?_⟩
  have hposition : u.normal.position = UInt64.ofNat before.length +
      UInt64.ofNat u.normal.staging.length := by
    rw [← UInt64.ofNat_add, ← List.length_append]
    show _ = UInt64.ofNat (before ++ (u.capture.dropStale u.gate).staging).length
    rw [hbefore, ← h.position]
    exact (Capture.dropStale_outside u.gate u.capture).position
  unfold Capture.nextPosition
  split_ifs with hempty
  · rw [hposition, hempty]
    show UInt64.ofNat before.length + 0 + 0 = _
    rw [UInt64.add_zero, UInt64.add_zero]
  · have hends := (Capture.dropStale_staged u.gate h.staged).ends hempty
    have hsum : u.normal.stagingposition + UInt64.ofNat u.normal.staging.length =
        UInt64.ofNat before.length + UInt64.ofNat u.normal.staging.length := by
      refine hends.trans ?_
      show u.normal.position + 0 = _
      rw [UInt64.add_zero, hposition]
    exact (UInt64.add_left_inj _).mp hsum

/-- Two runs with the same samples push the same frames and stage the same. -/
theorem Fed.unique {u₁ u₂ v₁ v₂ : Uplink α} {samples : List α} {ps qs : List (PcmFrame α)}
    (h₁ : u₁.Fed samples v₁ ps) (h₂ : u₂.Fed samples v₂ qs)
    (hstaging : u₁.capture.SameStaging u₂.capture)
    (hsession : u₂.gate.sessionepoch = u₁.gate.sessionepoch)
    (hepoch : u₂.gate.captureepoch = u₁.gate.captureepoch) :
    ps = qs ∧ v₁.capture.SameStaging v₂.capture := by
  have hnormal : u₁.normal.SameStaging u₂.normal := hstaging.dropStale hsession hepoch
  have hstaged : v₂.normal.staging = v₁.normal.staging := by
    rw [h₂.feeds.staging, h₁.feeds.staging, hnormal.staging]
  constructor
  · rw [h₁.feeds.pushed, h₂.feeds.pushed, frames_gate hsession hepoch, hnormal.staging,
      hnormal.nextPosition, hnormal.discontinuity]
  · by_cases hsamples : samples = []
    · exact (h₁.idle hsamples).symm.trans (hstaging.trans (h₂.idle hsamples))
    · have hcurrent₁ := h₁.current hsamples
      have hcurrent₂ := h₂.current hsamples
      have hv₁ : v₁.normal = v₁.capture := Capture.dropStale_of_current hcurrent₁
      have hv₂ : v₂.normal = v₂.capture := Capture.dropStale_of_current hcurrent₂
      have hnext : v₂.normal.nextPosition 0 = v₁.normal.nextPosition 0 := by
        rw [h₂.feeds.next, h₁.feeds.next, hnormal.nextPosition, hnormal.staging]
      have hmark : v₂.normal.discontinuity = v₁.normal.discontinuity := by
        rw [h₂.feeds.discontinuity, h₁.feeds.discontinuity, hnormal.discontinuity,
          hnormal.staging]
      rw [hv₁, hv₂] at hstaged hnext hmark
      refine ⟨hstaged, by rw [h₂.position, h₁.position, hstaging.position], hmark,
        fun hsome => ?_⟩
      obtain ⟨hsession₁, hepoch₁⟩ := hcurrent₁ hsome
      obtain ⟨hsession₂, hepoch₂⟩ := hcurrent₂ (hstaged ▸ hsome)
      refine ⟨?_, ?_, ?_⟩
      · unfold Capture.nextPosition at hnext
        rwa [hstaged, if_neg hsome, if_neg hsome] at hnext
      · rw [hsession₁, hsession₂, h₁.gate, h₂.gate, hsession]
      · rw [hepoch₁, hepoch₂, h₁.gate, h₂.gate, hepoch]

/-- **Capture framing does not depend on callback sizes.** -/
theorem framing_independent {config₁ config₂ : ProcessorConfig}
    {history₁ history₂ calls₁ calls₂ : List (ProcessorCall α)} {u₁ u₂ v₁ v₂ : Uplink α}
    (h₁ : Exec.exec step (start config₁) history₁ = some u₁)
    (h₂ : Exec.exec step (start config₂) history₂ = some u₂)
    (hstaging : u₁.capture.SameStaging u₂.capture)
    (hsession : u₂.gate.sessionepoch = u₁.gate.sessionepoch)
    (hepoch : u₂.gate.captureepoch = u₁.gate.captureepoch)
    (hrun₁ : Exec.exec step u₁ calls₁ = some v₁) (hrun₂ : Exec.exec step u₂ calls₂ = some v₂)
    (hcalls₁ : Exec.Along step Undisturbed u₁ calls₁)
    (hcalls₂ : Exec.Along step Undisturbed u₂ calls₂)
    (hsamples : samplesOf calls₂ = samplesOf calls₁) :
    ∃ first pushed, v₁.framed = u₁.framed ++ pushed ∧ v₂.framed = u₂.framed ++ pushed ∧
      v₁.capture.SameStaging v₂.capture ∧
      (samplesOf (history₁ ++ calls₁)).drop first = u₁.normal.staging ++ samplesOf calls₁ ∧
      (∀ i frame, pushed[i]? = some frame → frame.samples.length = frameSamples ∧
        frame.samples = ((samplesOf (history₁ ++ calls₁)).drop
          (first + frameSamples * i)).take frameSamples ∧
        frame.sampleposition = UInt64.ofNat (first + frameSamples * i)) ∧
      v₁.normal.staging =
        (samplesOf (history₁ ++ calls₁)).drop (first + frameSamples * pushed.length) ∧
      v₁.normal.staging.length < frameSamples := by
  have hplaced₁ : u₁.Placed (samplesOf history₁) := (start_placed config₁).run h₁
  have hplaced₂ : u₂.Placed (samplesOf history₂) := (start_placed config₂).run h₂
  obtain ⟨pushed, hfed₁⟩ := calls_feed hplaced₁.staged hrun₁ hcalls₁
  obtain ⟨pushed₂, hfed₂⟩ := calls_feed hplaced₂.staged hrun₂ hcalls₂
  rw [hsamples] at hfed₂
  obtain ⟨rfl, hsame⟩ := hfed₁.unique hfed₂ hstaging hsession hepoch
  obtain ⟨before, hhistory, hfirst⟩ := hplaced₁.first
  have hstream : samplesOf (history₁ ++ calls₁) =
      before ++ (u₁.normal.staging ++ samplesOf calls₁) := by
    rw [samplesOf, List.flatMap_append, ← List.append_assoc, ← hhistory]
    rfl
  have hdrop : ∀ n, (samplesOf (history₁ ++ calls₁)).drop (before.length + n) =
      (u₁.normal.staging ++ samplesOf calls₁).drop n := by
    intro n
    rw [hstream, ← List.drop_drop, List.drop_left]
  have hshort : u₁.normal.staging.length < frameSamples :=
    (Capture.dropStale_staged u₁.gate hplaced₁.staged).short
  refine ⟨before.length, pushed, hfed₁.framed, hfed₂.framed, hsame, ?_, fun i frame hframe => ?_,
    ?_, ?_⟩
  · exact hdrop 0
  · rw [hfed₁.feeds.pushed] at hframe
    obtain ⟨hblock, hposition⟩ := frames_getElem hframe
    refine ⟨Framing.feed_block_length _ _ _ (List.mem_of_getElem? hblock), ?_, ?_⟩
    · rw [hdrop]
      exact (Framing.feed_getElem hblock).symm
    · rw [hposition, hfirst, ← UInt64.ofNat_add]
  · rw [hfed₁.feeds.staging, hdrop, hfed₁.feeds.pushed, frames_length]
    exact Framing.feed_rest _ _ _
  · rw [hfed₁.feeds.staging]
    exact Framing.feed_rest_length hshort _

instance (config : ProcessorConfig) (capture : Capture α) (count : Nat) :
    Decidable (capture.HasRoom config count) := inferInstanceAs (Decidable (_ ≤ _))

instance (u : Uplink α) (call : ProcessorCall α) : Decidable (u.Undisturbed call) :=
  decidable_of_iff (u.gate.Capturing ∧ (u.perform call).gate.sessionepoch = u.gate.sessionepoch ∧
      (u.perform call).gate.captureepoch = u.gate.captureepoch ∧
      (call.samples ≠ [] → u.normal.HasRoom u.processor.config call.samples.length))
    ⟨fun ⟨h₁, h₂, h₃, h₄⟩ => ⟨h₁, h₂, h₃, h₄⟩, fun h => ⟨h.1, h.2, h.3, h.4⟩⟩

/-- The microphone goes live and brings its first hundred samples. -/
def firstHundred : List (ProcessorCall Nat) :=
  [.setSession 7 3 9, .setTransmitting true, .start true, .workerPrelude 0,
    .pushCaptured (List.range 100)]

/-- The next samples in one callback. -/
def oneCallback : List (ProcessorCall Nat) := [.pushCaptured (List.range' 100 1900)]

/-- The same in two, with a worker step in between. -/
def twoCallbacks : List (ProcessorCall Nat) :=
  [.pushCaptured (List.range' 100 900), .workerIteration encodesByte,
    .pushCaptured (List.range' 1000 1000)]

theorem framing_independent_cut :
    ∃ u v₁ v₂ : Uplink Nat, Exec.exec step (start {}) firstHundred = some u ∧
      Exec.exec step u oneCallback = some v₁ ∧ Exec.exec step u twoCallbacks = some v₂ ∧
      v₁.framed.map PcmFrame.sampleposition = [0, 960] ∧ v₁.framed = v₂.framed ∧
      v₁.capture.staging = v₂.capture.staging := by
  have hany₁ : (Exec.exec step (start {}) (firstHundred ++ oneCallback)).any (fun v : Uplink Nat =>
      decide (v.framed.map PcmFrame.sampleposition = [0, 960])) = true := by
    decide +kernel
  have hany₂ : (Exec.exec step (start {}) (firstHundred ++ twoCallbacks)).any (fun v : Uplink Nat =>
      decide (v.framed.length = 2)) = true := by
    decide +kernel
  obtain ⟨v₁, hrun₁, hv₁⟩ := Exec.exec_any hany₁
  obtain ⟨v₂, hrun₂, -⟩ := Exec.exec_any hany₂
  rw [Exec.exec_append] at hrun₁ hrun₂
  obtain ⟨u, hu, hrun₁⟩ := Option.bind_eq_some_iff.mp hrun₁
  rw [hu, Option.bind_some] at hrun₂
  have hfirst : (Exec.exec step (start {}) firstHundred).all (fun u : Uplink Nat =>
      decide (Exec.Along step Undisturbed u oneCallback ∧
        Exec.Along step Undisturbed u twoCallbacks)) = true := by
    decide +kernel
  rw [hu] at hfirst
  obtain ⟨hcalls₁, hcalls₂⟩ := of_decide_eq_true hfirst
  have hsamples : samplesOf twoCallbacks = samplesOf oneCallback := by decide +kernel
  obtain ⟨_, pushed, hpushed₁, hpushed₂, hsame, -⟩ :=
    framing_independent hu hu (.refl _) rfl rfl hrun₁ hrun₂ hcalls₁ hcalls₂ hsamples
  exact ⟨u, v₁, v₂, hu, hrun₁, hrun₂, of_decide_eq_true hv₁, hpushed₁.trans hpushed₂.symm,
    hsame.staging.symm⟩

end Uplink

end Voice
