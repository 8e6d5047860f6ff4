import GipMultiplayer.Circular
import GipMultiplayer.Fifo
import GipMultiplayer.VoiceProcessor

/-!
# The sample rings

The two rings that carry samples between the audio callback and a worker: the
playback ring of the voice processor and the rings of the microphone loopback.
Both keep their samples in a vector and count positions up without wrapping
them; they differ in what they do with a write that does not fit.

* `SampleRingBuffer`, `AudioRingBuffer` — the rings as the code has them;
* `Stands` — the queue a ring stands for, while samples may still be offered;
* `rings_refine_fifo` — both rings are bounded queues;
* `ringWrite_eq`, `popPlayback_eq` — the queue of the voice processor is one.
-/

namespace Voice

variable {α : Type}

/-- The vector of a ring and its positions, which are of type `size_t`. -/
structure RingBuffer (α : Type) where
  samples : List α
  readposition : UInt64 := 0
  writeposition : UInt64 := 0

/-- `samples.size()`. -/
def RingBuffer.size (ring : RingBuffer α) : UInt64 := UInt64.ofNat ring.samples.length

/-! ## `SampleRingBuffer` -/

namespace SampleRingBuffer

/-- The constructor. -/
def create [Inhabited α] (capacity : UInt64) : RingBuffer α :=
  { samples := List.replicate (max 1 capacity).toNat default }

/-- `copyInto`. -/
def copyInto (ring : RingBuffer α) (input : List α) (position : UInt64) : List α :=
  Circular.copyInto ring.samples position.toNat input

/-- `copyOut`. -/
def copyOut (ring : RingBuffer α) (position count : UInt64) : List α :=
  Circular.copyOut ring.samples position.toNat count.toNat

/-- `write`. -/
def write (ring : RingBuffer α) (input : List α) : RingBuffer α × UInt64 :=
  let count := UInt64.ofNat input.length
  if ring.size - (ring.writeposition - ring.readposition) < count then (ring, 0)
  else
    ({ ring with
        samples := copyInto ring input ring.writeposition
        writeposition := ring.writeposition + count }, count)

/-- `read`: the samples it puts out, as many as it returns. -/
def read (ring : RingBuffer α) (count : UInt64) : RingBuffer α × List α :=
  let available := min count (ring.writeposition - ring.readposition)
  ({ ring with readposition := ring.readposition + available },
    copyOut ring ring.readposition available)

/-- `discardByConsumer`. -/
def discardByConsumer (ring : RingBuffer α) : RingBuffer α :=
  { ring with readposition := ring.writeposition }

end SampleRingBuffer

/-! ## `AudioRingBuffer` -/

namespace AudioRingBuffer

/-- The constructor. -/
def create [Inhabited α] (capacity : UInt64) : RingBuffer α :=
  { samples := List.replicate capacity.toNat default }

/-- `copyIntoBuffer`. -/
def copyIntoBuffer (ring : RingBuffer α) (input : List α) (position : UInt64) : List α :=
  Circular.copyInto ring.samples position.toNat input

/-- `copyFromBuffer`. -/
def copyFromBuffer (ring : RingBuffer α) (position frames : UInt64) : List α :=
  Circular.copyOut ring.samples position.toNat frames.toNat

/-- `reset`. -/
def reset (ring : RingBuffer α) : RingBuffer α :=
  { ring with readposition := 0, writeposition := 0 }

/-- `available`. -/
def available (ring : RingBuffer α) : UInt64 := ring.writeposition - ring.readposition

/-- `write`. -/
def write (ring : RingBuffer α) (input : List α) : RingBuffer α × UInt64 :=
  let count := min (UInt64.ofNat input.length)
    (ring.size - (ring.writeposition - ring.readposition))
  ({ ring with
      samples := copyIntoBuffer ring (input.take count.toNat) ring.writeposition
      writeposition := ring.writeposition + count }, count)

/-- `read`: the samples it puts out, as many as it returns. -/
def read (ring : RingBuffer α) (frames : UInt64) : RingBuffer α × List α :=
  let count := min frames (ring.writeposition - ring.readposition)
  ({ ring with readposition := ring.readposition + count },
    copyFromBuffer ring ring.readposition count)

end AudioRingBuffer

/-! ## Operations -/

/-- An operation on a ring; `clear` is `discardByConsumer` of the one and
`reset` of the other. -/
inductive RingOp (α : Type)
  | write (input : List α)
  | read (count : UInt64)
  | clear

/-- The operation on the queue. -/
def RingOp.fifo : RingOp α → Fifo.Op α
  | .write input => .write input
  | .read count => .read count.toNat
  | .clear => .clear

/-- One operation on a `SampleRingBuffer`. -/
def SampleRingBuffer.step (ring : RingBuffer α) : RingOp α → RingBuffer α × Fifo.Out α
  | .write input =>
      ((SampleRingBuffer.write ring input).1,
        .written (SampleRingBuffer.write ring input).2.toNat)
  | .read count =>
      ((SampleRingBuffer.read ring count).1, .samples (SampleRingBuffer.read ring count).2)
  | .clear => (SampleRingBuffer.discardByConsumer ring, .cleared)

/-- One operation on an `AudioRingBuffer`. -/
def AudioRingBuffer.step (ring : RingBuffer α) : RingOp α → RingBuffer α × Fifo.Out α
  | .write input =>
      ((AudioRingBuffer.write ring input).1,
        .written (AudioRingBuffer.write ring input).2.toNat)
  | .read count =>
      ((AudioRingBuffer.read ring count).1, .samples (AudioRingBuffer.read ring count).2)
  | .clear => (AudioRingBuffer.reset ring, .cleared)

/-! ## The queue behind a ring -/

/-- **A ring stands for a queue** while `budget` samples may still be offered:
the slots from the read position on hold it, and the positions count up to it
without coming round. -/
structure Stands (capacity budget : ℕ) (ring : RingBuffer α) (queue : List α) : Prop where
  size : ring.samples.length = capacity
  small : capacity < 2 ^ 64
  positions : ring.writeposition.toNat = ring.readposition.toNat + queue.length
  fits : queue.length ≤ capacity
  spare : ring.writeposition.toNat + budget < 2 ^ 64
  holds : Circular.Holds ring.samples ring.readposition.toNat queue

variable {capacity budget : ℕ} {ring : RingBuffer α} {queue : List α}

/-- A ring that was created stands for the empty queue. -/
theorem stands_create [Inhabited α] {capacity : UInt64} (hbudget : budget < 2 ^ 64) :
    Stands capacity.toNat budget
      { samples := List.replicate capacity.toNat (default : α) } [] where
  size := List.length_replicate
  small := capacity.toNat_lt
  positions := rfl
  fits := Nat.zero_le _
  spare := by
    show (0 : UInt64).toNat + budget < 2 ^ 64
    rw [UInt64.toNat_zero]
    omega
  holds := Circular.Holds.nil _ _

namespace Stands

/-- `write - read` is what is stored. -/
theorem stored (h : Stands capacity budget ring queue) :
    (ring.writeposition - ring.readposition).toNat = queue.length := by
  have hpositions := h.positions
  rw [UInt64.toNat_sub_of_le _ _ (UInt64.le_iff_toNat_le.mpr (by omega))]
  omega

/-- `size() - (write - read)` is the room that is left. -/
theorem room (h : Stands capacity budget ring queue) :
    (ring.size - (ring.writeposition - ring.readposition)).toNat = capacity - queue.length := by
  have hsize : ring.size.toNat = capacity := by
    rw [RingBuffer.size, UInt64.toNat_ofNat_of_lt' (by rw [h.size]; exact h.small), h.size]
  have hstored := h.stored
  have hfits := h.fits
  rw [UInt64.toNat_sub_of_le _ _ (UInt64.le_iff_toNat_le.mpr (by omega))]
  omega

/-- **Samples that fit are appended.** -/
theorem store {n : ℕ} (h : Stands capacity (n + budget) ring queue) {input : List α}
    {count : UInt64} (hcount : count.toNat = input.length) (hn : input.length ≤ n)
    (hroom : input.length ≤ capacity - queue.length) :
    Stands capacity budget
      { ring with
        samples := Circular.copyInto ring.samples ring.writeposition.toNat input
        writeposition := ring.writeposition + count } (queue ++ input) := by
  have hspare := h.spare
  have hfits := h.fits
  have hsize := h.size
  have hpositions := h.positions
  have hadvanced : (ring.writeposition + count).toNat =
      ring.writeposition.toNat + input.length := by
    rw [UInt64.toNat_add, hcount, Nat.mod_eq_of_lt (by omega)]
  constructor
  · exact (Circular.length_copyInto _ (by omega)).trans hsize
  · exact h.small
  · show (ring.writeposition + count).toNat = ring.readposition.toNat + (queue ++ input).length
    rw [hadvanced, List.length_append]
    omega
  · rw [List.length_append]
    omega
  · show (ring.writeposition + count).toNat + budget < 2 ^ 64
    rw [hadvanced]
    omega
  · show Circular.Holds _ ring.readposition.toNat (queue ++ input)
    rw [hpositions]
    exact h.holds.copyInto (by omega)

/-- A budget need not be spent. -/
theorem spend {n : ℕ} (h : Stands capacity (n + budget) ring queue) :
    Stands capacity budget ring queue :=
  { h with spare := by have := h.spare; omega }

/-- What a read puts out. -/
theorem oldest (h : Stands capacity budget ring queue) (count : UInt64) :
    Circular.copyOut ring.samples ring.readposition.toNat
        (min count (ring.writeposition - ring.readposition)).toNat =
      queue.take count.toNat := by
  have hstored := h.stored
  have hfits := h.fits
  have hsize := h.size
  have hmin : (min count (ring.writeposition - ring.readposition)).toNat =
      min count.toNat queue.length := by
    rw [UInt64.toNat_min, hstored]
  rw [hmin, h.holds.copyOut (Nat.min_le_right _ _) (by omega)]
  rcases Nat.le_total count.toNat queue.length with hless | hmore
  · rw [Nat.min_eq_left hless]
  · rw [Nat.min_eq_right hmore, List.take_of_length_le hmore, List.take_length]

/-- **What is read is dropped.** -/
theorem dropOldest (h : Stands capacity budget ring queue) (count : UInt64) :
    Stands capacity budget
      { ring with
        readposition := ring.readposition +
          min count (ring.writeposition - ring.readposition) }
      (queue.drop count.toNat) := by
  have hstored := h.stored
  have hpositions := h.positions
  have hspare := h.spare
  have hfits := h.fits
  have hmin : (min count (ring.writeposition - ring.readposition)).toNat =
      min count.toNat queue.length := by
    rw [UInt64.toNat_min, hstored]
  have hread : (ring.readposition + min count (ring.writeposition - ring.readposition)).toNat =
      ring.readposition.toNat + min count.toNat queue.length := by
    rw [UInt64.toNat_add, hmin, Nat.mod_eq_of_lt (by omega)]
  have hdrop : queue.drop count.toNat = queue.drop (min count.toNat queue.length) := by
    rcases Nat.le_total count.toNat queue.length with hless | hmore
    · rw [Nat.min_eq_left hless]
    · rw [Nat.min_eq_right hmore, List.drop_of_length_le hmore, List.drop_length]
  rw [hdrop]
  constructor
  · exact h.size
  · exact h.small
  · show ring.writeposition.toNat = UInt64.toNat _ + _
    rw [hread, List.length_drop]
    omega
  · rw [List.length_drop]
    omega
  · exact hspare
  · show Circular.Holds ring.samples (UInt64.toNat _) _
    rw [hread]
    exact h.holds.drop _

end Stands

/-- **One operation on a `SampleRingBuffer`** is one on the queue. -/
theorem SampleRingBuffer.step_refines (op : RingOp α)
    (h : Stands capacity (op.fifo.offered + budget) ring queue) :
    Stands capacity budget (step ring op).1
        (Fifo.step Fifo.allOrNone capacity queue op.fifo).1 ∧
      (step ring op).2 = (Fifo.step Fifo.allOrNone capacity queue op.fifo).2 := by
  cases op with
  | write input =>
      have hspare := h.spare
      have hcount : (UInt64.ofNat input.length).toNat = input.length :=
        UInt64.toNat_ofNat_of_lt' (by
          show input.length < 2 ^ 64
          have : (RingOp.write input).fifo.offered = input.length := rfl
          omega)
      show Stands capacity budget (write ring input).1
          (queue ++ Fifo.allOrNone (capacity - queue.length) input) ∧
        Fifo.Out.written (write ring input).2.toNat =
          .written (Fifo.allOrNone (capacity - queue.length) input).length
      have hfull : ring.size - (ring.writeposition - ring.readposition) <
          UInt64.ofNat input.length ↔ capacity - queue.length < input.length := by
        rw [UInt64.lt_iff_toNat_lt, h.room, hcount]
      unfold write Fifo.allOrNone
      dsimp only
      rcases Nat.lt_or_ge (capacity - queue.length) input.length with hless | hroom
      · rw [if_pos (hfull.mpr hless), if_neg (by omega), List.append_nil]
        exact ⟨h.spend, rfl⟩
      · rw [if_neg (mt hfull.mp (by omega)), if_pos hroom]
        exact ⟨h.store hcount le_rfl hroom, congrArg Fifo.Out.written hcount⟩
  | read count => exact ⟨h.spend.dropOldest count, congrArg Fifo.Out.samples (h.oldest count)⟩
  | clear =>
      refine ⟨?_, rfl⟩
      exact { h.spend with
        positions := rfl
        fits := Nat.zero_le _
        holds := Circular.Holds.nil _ _ }

/-- **One operation on an `AudioRingBuffer`** is one on the queue. -/
theorem AudioRingBuffer.step_refines (op : RingOp α)
    (h : Stands capacity (op.fifo.offered + budget) ring queue) :
    Stands capacity budget (step ring op).1
        (Fifo.step Fifo.longestPrefix capacity queue op.fifo).1 ∧
      (step ring op).2 = (Fifo.step Fifo.longestPrefix capacity queue op.fifo).2 := by
  cases op with
  | write input =>
      have hspare := h.spare
      have hoffered : (RingOp.write input).fifo.offered = input.length := rfl
      have hcount : (min (UInt64.ofNat input.length)
          (ring.size - (ring.writeposition - ring.readposition))).toNat =
          (input.take (capacity - queue.length)).length := by
        rw [UInt64.toNat_min, h.room, UInt64.toNat_ofNat_of_lt' (by
          show input.length < 2 ^ 64
          omega), List.length_take, Nat.min_comm]
      have htaken : input.take (min (UInt64.ofNat input.length)
          (ring.size - (ring.writeposition - ring.readposition))).toNat =
          input.take (capacity - queue.length) := by
        rw [hcount, List.length_take]
        rcases Nat.le_total (capacity - queue.length) input.length with hless | hmore
        · rw [Nat.min_eq_left hless]
        · rw [Nat.min_eq_right hmore, List.take_length, List.take_of_length_le hmore]
      refine ⟨?_, congrArg Fifo.Out.written hcount⟩
      show Stands capacity budget (write ring input).1
        (queue ++ input.take (capacity - queue.length))
      unfold write copyIntoBuffer
      dsimp only
      rw [htaken]
      refine h.store hcount ?_ ?_
      · rw [hoffered, List.length_take]
        omega
      · rw [List.length_take]
        omega
  | read count => exact ⟨h.spend.dropOldest count, congrArg Fifo.Out.samples (h.oldest count)⟩
  | clear =>
      have hspare := h.spare
      refine ⟨?_, rfl⟩
      exact { h.spend with
        positions := rfl
        fits := Nat.zero_le _
        spare := by
          show (0 : UInt64).toNat + budget < 2 ^ 64
          rw [UInt64.toNat_zero]
          omega
        holds := Circular.Holds.nil _ _ }

/-! ## Runs -/

/-- A ring answers a sequence of operations as the queue does, stores what the
queue stores, and never more than its capacity. -/
structure RefinesFifo (step : RingBuffer α → RingOp α → RingBuffer α × Fifo.Out α)
    (accept : ℕ → List α → List α) (capacity : ℕ) (created : RingBuffer α)
    (ops : List (RingOp α)) : Prop where
  answers : (Fifo.run step created ops).2 =
    (Fifo.run (Fifo.step accept capacity) [] (ops.map RingOp.fifo)).2
  bounded : (Fifo.run (Fifo.step accept capacity) [] (ops.map RingOp.fifo)).1.length ≤ capacity
  stored : ((Fifo.run step created ops).1.writeposition -
      (Fifo.run step created ops).1.readposition).toNat =
    (Fifo.run (Fifo.step accept capacity) [] (ops.map RingOp.fifo)).1.length

/-- A ring refines the queue when it does so in each operation. -/
theorem RefinesFifo.of_step [Inhabited α] {capacity : UInt64}
    {step : RingBuffer α → RingOp α → RingBuffer α × Fifo.Out α}
    {accept : ℕ → List α → List α}
    (hstep : ∀ budget ring queue op,
      Stands capacity.toNat ((RingOp.fifo op).offered + budget) ring queue →
      Stands capacity.toNat budget (step ring op).1
          (Fifo.step accept capacity.toNat queue op.fifo).1 ∧
        (step ring op).2 = (Fifo.step accept capacity.toNat queue op.fifo).2)
    {ops : List (RingOp α)} (htotal : Fifo.offered (ops.map RingOp.fifo) < 2 ^ 64) :
    RefinesFifo step accept capacity.toNat
      { samples := List.replicate capacity.toNat default } ops := by
  have hcreated : Stands capacity.toNat (Fifo.offered (ops.map RingOp.fifo) + 0)
      { samples := List.replicate capacity.toNat (default : α) } [] := stands_create htotal
  obtain ⟨hstands, hanswers⟩ := Fifo.run_refines (Stands capacity.toNat) hstep hcreated
  exact ⟨hanswers, hstands.fits, hstands.stored⟩

/-- **Both sample rings refine one bounded queue**, each with its own answer to
a write that does not fit. -/
theorem rings_refine_fifo [Inhabited α] (capacity : UInt64) (hcapacity : 1 ≤ capacity)
    (ops : List (RingOp α)) (htotal : Fifo.offered (ops.map RingOp.fifo) < 2 ^ 64) :
    RefinesFifo SampleRingBuffer.step Fifo.allOrNone capacity.toNat
        (SampleRingBuffer.create capacity) ops ∧
      RefinesFifo AudioRingBuffer.step Fifo.longestPrefix capacity.toNat
        (AudioRingBuffer.create capacity) ops := by
  constructor
  · have hmax : max 1 capacity = capacity := if_pos hcapacity
    unfold SampleRingBuffer.create
    rw [hmax]
    exact .of_step (fun _ _ _ op h => SampleRingBuffer.step_refines op h) htotal
  · exact .of_step (fun _ _ _ op h => AudioRingBuffer.step_refines op h) htotal

/-- Writes and reads across the end of a ring of three, one of them too long. -/
def acrossTheEnd : List (RingOp Int) :=
  [.write [1, 2], .read 1, .write [3, 4, 5], .write [6], .read 5, .clear, .read 1]

theorem rings_refine_fifo_across :
    (Fifo.run SampleRingBuffer.step (SampleRingBuffer.create 3) acrossTheEnd).2 =
        [.written 2, .samples [1], .written 0, .written 1, .samples [2, 6], .cleared,
          .samples []] ∧
      (Fifo.run AudioRingBuffer.step (AudioRingBuffer.create 3) acrossTheEnd).2 =
        [.written 2, .samples [1], .written 2, .written 0, .samples [2, 3, 4], .cleared,
          .samples []] := by
  obtain ⟨hsample, haudio⟩ := rings_refine_fifo 3 (by decide) acrossTheEnd (by decide)
  rw [hsample.answers, haudio.answers]
  decide +kernel

/-! ## The playback ring of the voice processor -/

/-- The write of the voice processor is a write on the queue. -/
theorem ringWrite_eq (config : ProcessorConfig) (ring samples : List Int) :
    (ringWrite config ring samples).getD ring =
      (Fifo.step Fifo.allOrNone (config.playbackframes * frameSamples) ring
        (.write samples)).1 := by
  show _ = ring ++ Fifo.allOrNone (config.playbackframes * frameSamples - ring.length) samples
  unfold ringWrite Fifo.allOrNone
  rcases Nat.lt_or_ge (config.playbackframes * frameSamples - ring.length) samples.length with
    hfull | hroom
  · rw [if_pos hfull, if_neg (by omega), List.append_nil]
    rfl
  · rw [if_neg (by omega), if_pos hroom]
    rfl

/-- The read of the voice processor is a read on the queue, after a clear if
one was requested. -/
theorem popPlayback_eq {processor : Processor α} {samplecount : ℕ} (h : samplecount ≠ 0)
    (accept : ℕ → List Int → List Int) (capacity : ℕ) :
    ((processor.popPlayback samplecount).1.playback.ring,
        Fifo.Out.samples (processor.popPlayback samplecount).2) =
      Fifo.step accept capacity
        (if processor.playback.playbackclearrequested then
          (Fifo.step accept capacity processor.playback.ring .clear).1
        else processor.playback.ring) (.read samplecount) := by
  unfold Processor.popPlayback
  rw [if_neg h]
  rfl

end Voice
