import GipMultiplayer.VoiceProcessor

/-!
# The capture callback

What one call of `pushCaptured` does: three ways through it, the fields it never
touches, and one round of its copy loop in terms of where the next frame begins.

* `pushCaptured_cases` — nothing to do, microphone closed, microphone open;
* `pushCaptured_frame` — gates, worker, stream and outgoing queue stay;
* `Capture.copyRound_eq` — a round stages samples and may push a frame.
-/

namespace Voice

variable {α : Type}

/-! ## Ways through the callback -/

/-- The gates let the capture callback stage samples. -/
def Gate.Capturing (gate : Gate) : Prop :=
  gate.running = true ∧ gate.sessionepoch % 2 = 0 ∧ gate.captureActive = true

instance (gate : Gate) : Decidable gate.Capturing := inferInstanceAs (Decidable (_ ∧ _))

theorem Gate.not_capturing {gate : Gate} :
    ¬ gate.Capturing ↔
      (gate.running = false ∨ gate.sessionepoch % 2 ≠ 0 ∨ gate.captureActive = false) := by
  unfold Gate.Capturing
  rw [not_and_or, not_and_or, Bool.not_eq_true, Bool.not_eq_true]

/-- Staged samples of other epochs are dropped, and the gap is remembered. -/
def Capture.dropStale (gate : Gate) (capture : Capture α) : Capture α :=
  if capture.staging ≠ [] ∧ (capture.stagingsessionepoch ≠ gate.sessionepoch ∨
      capture.stagingepoch ≠ gate.captureepoch) then
    { capture with staging := [], discontinuity := true }
  else capture

/-- The stream position moves by the length of the callback. -/
def Capture.advance (capture : Capture α) (count : Nat) : Capture α :=
  { capture with position := capture.position + UInt64.ofNat count }

theorem pushCaptured_nil (processor : Processor α) : processor.pushCaptured [] = processor := rfl

/-- A closed microphone empties the staging buffer. -/
theorem pushCaptured_closed (processor : Processor α) {input : List α} (hinput : input ≠ [])
    (hgate : ¬ processor.gate.Capturing) :
    processor.pushCaptured input =
      { processor with
        capture := { processor.capture with staging := [] }.advance input.length } := by
  rw [Processor.pushCaptured, if_neg hinput]
  exact if_pos (Gate.not_capturing.mp hgate)

/-- An open one copies the samples. -/
theorem pushCaptured_open (processor : Processor α) {input : List α} (hinput : input ≠ [])
    (hgate : processor.gate.Capturing) :
    processor.pushCaptured input =
      { processor with
        capture := ((processor.capture.dropStale processor.gate).copyLoop processor.config
          processor.gate input.length 0 input).advance input.length } := by
  rw [Processor.pushCaptured, if_neg hinput]
  exact if_neg fun h => Gate.not_capturing.mpr h hgate

/-- Three ways through the capture callback. -/
theorem pushCaptured_cases (processor : Processor α) (input : List α) :
    input = [] ∧ processor.pushCaptured input = processor ∨
    ¬ processor.gate.Capturing ∧ processor.pushCaptured input =
      { processor with
        capture := { processor.capture with staging := [] }.advance input.length } ∨
    input ≠ [] ∧ processor.gate.Capturing ∧ processor.pushCaptured input =
      { processor with
        capture := ((processor.capture.dropStale processor.gate).copyLoop processor.config
          processor.gate input.length 0 input).advance input.length } := by
  by_cases hinput : input = []
  · exact .inl ⟨hinput, by rw [hinput, pushCaptured_nil]⟩
  · by_cases hgate : processor.gate.Capturing
    · exact .inr (.inr ⟨hinput, hgate, pushCaptured_open processor hinput hgate⟩)
    · exact .inr (.inl ⟨hgate, pushCaptured_closed processor hinput hgate⟩)

/-- What the copy loop leaves alone. -/
structure Capture.SameOutside (capture capture' : Capture α) : Prop where
  position : capture'.position = capture.position
  streamgeneration : capture'.streamgeneration = capture.streamgeneration
  outgoing : capture'.outgoing = capture.outgoing

theorem Capture.SameOutside.trans {a b c : Capture α} (hab : a.SameOutside b)
    (hbc : b.SameOutside c) : a.SameOutside c :=
  ⟨hbc.position.trans hab.position, hbc.streamgeneration.trans hab.streamgeneration,
    hbc.outgoing.trans hab.outgoing⟩

theorem Capture.pushFrame_outside (config : ProcessorConfig) (capture : Capture α) :
    capture.SameOutside (capture.pushFrame config) := by
  unfold pushFrame
  dsimp only
  split_ifs
  · exact ⟨rfl, rfl, rfl⟩
  · exact ⟨rfl, rfl, rfl⟩

theorem Capture.openStaging_outside (gate : Gate) (capture : Capture α) (offset : Nat) :
    capture.SameOutside (capture.openStaging gate offset) := by
  unfold openStaging
  split_ifs
  · exact ⟨rfl, rfl, rfl⟩
  · exact ⟨rfl, rfl, rfl⟩

theorem Capture.copyRound_outside (config : ProcessorConfig) (gate : Gate) (capture : Capture α)
    (offset : Nat) (input : List α) :
    capture.SameOutside (capture.copyRound config gate offset input).1 := by
  have hopen := openStaging_outside gate capture offset
  unfold copyRound
  dsimp only
  split_ifs
  · have hstaged : capture.SameOutside { capture.openStaging gate offset with
        staging := (capture.openStaging gate offset).staging ++ input.take (min input.length
          (frameSamples - (capture.openStaging gate offset).staging.length)) } :=
      ⟨hopen.position, hopen.streamgeneration, hopen.outgoing⟩
    exact hstaged.trans (pushFrame_outside config _)
  · exact ⟨hopen.position, hopen.streamgeneration, hopen.outgoing⟩

theorem Capture.copyLoop_outside (config : ProcessorConfig) (gate : Gate) (fuel : Nat)
    (capture : Capture α) (offset : Nat) (input : List α) :
    capture.SameOutside (capture.copyLoop config gate fuel offset input) := by
  induction fuel generalizing capture offset input with
  | zero => exact ⟨rfl, rfl, rfl⟩
  | succ fuel ih =>
      unfold copyLoop
      split_ifs
      · exact ⟨rfl, rfl, rfl⟩
      · exact (copyRound_outside config gate capture offset input).trans (ih _ _ _)

theorem Capture.dropStale_outside (gate : Gate) (capture : Capture α) :
    capture.SameOutside (capture.dropStale gate) := by
  unfold dropStale
  split_ifs
  · exact ⟨rfl, rfl, rfl⟩
  · exact ⟨rfl, rfl, rfl⟩

/-- The capture callback moves samples and nothing else. -/
theorem pushCaptured_frame (processor : Processor α) (input : List α) :
    (processor.pushCaptured input).gate = processor.gate ∧
      (processor.pushCaptured input).worker = processor.worker ∧
      (processor.pushCaptured input).capture.streamgeneration =
        processor.capture.streamgeneration ∧
      (processor.pushCaptured input).capture.outgoing = processor.capture.outgoing := by
  rcases pushCaptured_cases processor input with ⟨-, h⟩ | ⟨-, h⟩ | ⟨-, -, h⟩
  · rw [h]
    exact ⟨rfl, rfl, rfl, rfl⟩
  · rw [h]
    exact ⟨rfl, rfl, rfl, rfl⟩
  · have houtside := (Capture.dropStale_outside processor.gate processor.capture).trans
      (Capture.copyLoop_outside processor.config processor.gate input.length
        (processor.capture.dropStale processor.gate) 0 input)
    rw [h]
    exact ⟨rfl, rfl, houtside.streamgeneration, houtside.outgoing⟩

/-! ## Staging -/

namespace Capture

/-- Staged samples are of the present epochs. -/
def StagesCurrent (capture : Capture α) (gate : Gate) : Prop :=
  capture.staging ≠ [] →
    capture.stagingsessionepoch = gate.sessionepoch ∧ capture.stagingepoch = gate.captureepoch

/-- The position of the first sample of the next frame. -/
def nextPosition (capture : Capture α) (offset : Nat) : UInt64 :=
  if capture.staging = [] then capture.position + UInt64.ofNat offset
  else capture.stagingposition

/-- The staging buffer is short of a frame and ends at the present position. -/
structure Staged (capture : Capture α) (offset : Nat) : Prop where
  short : capture.staging.length < frameSamples
  ends : capture.staging ≠ [] → capture.stagingposition +
    UInt64.ofNat capture.staging.length = capture.position + UInt64.ofNat offset

theorem dropStale_stagesCurrent (gate : Gate) (capture : Capture α) :
    (capture.dropStale gate).StagesCurrent gate := by
  unfold dropStale
  split_ifs with hstale
  · exact fun h => absurd rfl h
  · intro hsome
    by_contra hother
    exact hstale ⟨hsome, by tauto⟩

theorem dropStale_staged (gate : Gate) {capture : Capture α} {offset : Nat}
    (h : capture.Staged offset) : (capture.dropStale gate).Staged offset := by
  unfold dropStale
  split_ifs
  · exact ⟨Nat.zero_lt_succ _, fun h => absurd rfl h⟩
  · exact h

/-- Opening the staging buffer fixes the position and the epochs of the frame. -/
theorem openStaging_spec {gate : Gate} {capture : Capture α} (offset : Nat)
    (hcurrent : capture.StagesCurrent gate) :
    capture.openStaging gate offset = { capture with
      stagingposition := capture.nextPosition offset
      stagingsessionepoch := gate.sessionepoch
      stagingepoch := gate.captureepoch } := by
  unfold openStaging nextPosition
  split_ifs with hempty
  · rfl
  · obtain ⟨hsession, hepoch⟩ := hcurrent hempty
    rw [← hsession, ← hepoch]

/-- The staging buffer with some more samples, opened if it was empty. -/
def stage (gate : Gate) (capture : Capture α) (offset : Nat) (samples : List α) : Capture α :=
  { capture with
    staging := capture.staging ++ samples
    stagingposition := capture.nextPosition offset
    stagingsessionepoch := gate.sessionepoch
    stagingepoch := gate.captureepoch }

theorem copyRound_eq (config : ProcessorConfig) {gate : Gate} {capture : Capture α} (offset : Nat)
    (input : List α) (hcurrent : capture.StagesCurrent gate) {copy : Nat}
    (hcopy : copy = min input.length (frameSamples - capture.staging.length)) :
    capture.copyRound config gate offset input =
      (if capture.staging.length + copy = frameSamples then
          (capture.stage gate offset (input.take copy)).pushFrame config
        else capture.stage gate offset (input.take copy), offset + copy, input.drop copy) := by
  have hlength : (capture.staging ++ input.take copy).length = capture.staging.length + copy := by
    rw [List.length_append, List.length_take]
    omega
  unfold copyRound
  rw [openStaging_spec offset hcurrent]
  dsimp only
  rw [← hcopy, hlength]
  rfl

/-- The samples staged end where the callback has come to. -/
theorem stage_ends {capture : Capture α} {offset : Nat} (h : capture.Staged offset)
    (samples : List α) :
    capture.nextPosition offset + UInt64.ofNat (capture.staging.length + samples.length) =
      capture.position + UInt64.ofNat (offset + samples.length) := by
  rw [UInt64.ofNat_add, UInt64.ofNat_add, ← UInt64.add_assoc, ← UInt64.add_assoc]
  congr 1
  unfold nextPosition
  split_ifs with hempty
  · rw [hempty]
    exact UInt64.add_zero _
  · exact h.ends hempty

/-- The frame that a full staging buffer makes. -/
def frame (capture : Capture α) : PcmFrame α :=
  { samples := capture.staging
    sessionepoch := capture.stagingsessionepoch
    captureepoch := capture.stagingepoch
    sampleposition := capture.stagingposition
    discontinuity := capture.discontinuity }

theorem pushFrame_room {config : ProcessorConfig} {capture : Capture α}
    (h : capture.queue.length < config.captureframes) :
    capture.pushFrame config = { capture with
      queue := capture.queue ++ [capture.frame], discontinuity := false, staging := [] } :=
  if_pos h

theorem pushFrame_overrun {config : ProcessorConfig} {capture : Capture α}
    (h : ¬ capture.queue.length < config.captureframes) :
    capture.pushFrame config = { capture with discontinuity := true, staging := [] } :=
  if_neg h

end Capture

end Voice
