import GipMultiplayer.Exec
import GipMultiplayer.SampleRings

/-!
# The rings without a lock

A ring has one thread that writes to it and one that reads from it, and nothing
but two positions between them.  Here each load, each store and each sample of a
copy is a step, and the steps of the two threads come in any order.  What a thread
knows of the other's position may be old, but only in the safe direction.

* `Threads`, `step` — the ring and how far either thread is;
* `Inv` — what either thread can rely on;
* `lock_free_rings` — the threads never meet in a slot, and nothing is lost,
  doubled, torn or reordered;
* `spsc_queue_linearizable` — the queue of frames acts at a moment.
-/

namespace Voice.LockFree

variable {α : Type}

/-! ## The rings -/

/-- The three rings; `SpscQueue` has one value in each push and pop. -/
inductive Kind
  | spscQueue | sampleRingBuffer | audioRingBuffer
  deriving DecidableEq

/-- How many of `count` samples a write stores when `used` slots are taken; none
where it returns at once. -/
def Kind.admit (kind : Kind) (size used count : UInt64) : Option UInt64 :=
  match kind with
  | .spscQueue => if size ≤ used then none else some count
  | .sampleRingBuffer => if size - used < count then none else some count
  | .audioRingBuffer => some (min count (size - used))

/-- What that comes to. -/
def Kind.accept (kind : Kind) : ℕ → List α → List α :=
  match kind with
  | .spscQueue | .sampleRingBuffer => Fifo.allOrNone
  | .audioRingBuffer => Fifo.longestPrefix

/-- The constructors. -/
def Kind.create [Inhabited α] (kind : Kind) (capacity : UInt64) : RingBuffer α :=
  match kind with
  | .spscQueue | .sampleRingBuffer => SampleRingBuffer.create capacity
  | .audioRingBuffer => AudioRingBuffer.create capacity

/-- The slot of the `k`-th sample of a transfer in two copies. -/
def slot (size position count : UInt64) (k : ℕ) : ℕ :=
  let offset := position % size
  let first := min count (size - offset)
  if k < first.toNat then offset.toNat + k else k - first.toNat

/-! ## The threads -/

/-- How far a write is: it has loaded its own position, or is copying.  `room` is
what was free when it loaded the other's. -/
inductive Producer (α : Type)
  | idle
  | loading (input : List α) (write : UInt64)
  | copying (input : List α) (write count : UInt64) (done room : ℕ)

/-- How far a read or a discard is.  `waiting` is what was there when it loaded
the other's position. -/
inductive Consumer (α : Type)
  | idle
  | loading (count read : UInt64)
  | copying (count read available : UInt64) (output : List α) (waiting : ℕ)
  | discarding (write : UInt64) (waiting : ℕ)

/-- A call that took effect. -/
inductive Event (α : Type)
  | wrote (input : List α) (room : ℕ) (stored : List α)
  | read (count : UInt64) (waiting : ℕ) (output : List α)
  | discarded (waiting : ℕ) (dropped : List α)

/-- A ring and its two threads.  Written down for the law: the samples offered so
far, those whose write has been published, those that have been released, and the
calls in the order in which they took effect. -/
structure Threads (α : Type) where
  ring : RingBuffer α
  producer : Producer α := .idle
  consumer : Consumer α := .idle
  offered : ℕ := 0
  accepted : List α := []
  taken : List α := []
  log : List (Event α) := []

/-- How many samples wait. -/
def Threads.waiting (s : Threads α) : ℕ := s.accepted.length - s.taken.length

/-- How many slots are free. -/
def Threads.room (s : Threads α) : ℕ := s.ring.samples.length - s.waiting

/-- The accesses to memory; the first of a call is the load of the thread's own
position, and a discard has none. -/
inductive Action (α : Type)
  | write (input : List α)
  | loadRead
  | copyIn
  | storeWrite
  | read (count : UInt64)
  | loadWrite
  | copyOut
  | storeRead
  | discard
  | storeDiscard

/-- One step. -/
def step (kind : Kind) (s : Threads α) : Action α → Option (Threads α)
  | .write input =>
      match s.producer with
      | .idle =>
          if kind = .spscQueue ∧ input.length ≠ 1 then none
          else some { s with
            producer := .loading input s.ring.writeposition
            offered := s.offered + input.length }
      | _ => none
  | .loadRead =>
      match s.producer with
      | .loading input write =>
          match kind.admit s.ring.size (write - s.ring.readposition)
              (UInt64.ofNat input.length) with
          | none => some { s with producer := .idle, log := s.log ++ [.wrote input s.room []] }
          | some count => some { s with producer := .copying input write count 0 s.room }
      | _ => none
  | .copyIn =>
      match s.producer with
      | .copying input write count done room =>
          if done < count.toNat then
            input[done]?.map fun sample =>
              { s with
                ring := { s.ring with
                  samples := s.ring.samples.set (slot s.ring.size write count done) sample }
                producer := .copying input write count (done + 1) room }
          else none
      | _ => none
  | .storeWrite =>
      match s.producer with
      | .copying input write count done room =>
          if done = count.toNat then
            some { s with
              ring := { s.ring with writeposition := write + count }
              producer := .idle
              accepted := s.accepted ++ input.take count.toNat
              log := s.log ++ [.wrote input room (input.take count.toNat)] }
          else none
      | _ => none
  | .read count =>
      match s.consumer with
      | .idle =>
          if kind = .spscQueue ∧ count ≠ 1 then none
          else some { s with consumer := .loading count s.ring.readposition }
      | _ => none
  | .loadWrite =>
      match s.consumer with
      | .loading count read =>
          let available := min count (s.ring.writeposition - read)
          if kind = .spscQueue ∧ available = 0 then
            some { s with consumer := .idle, log := s.log ++ [.read count s.waiting []] }
          else some { s with consumer := .copying count read available [] s.waiting }
      | _ => none
  | .copyOut =>
      match s.consumer with
      | .copying count read available output waiting =>
          if output.length < available.toNat then
            s.ring.samples[slot s.ring.size read available output.length]?.map fun sample =>
              { s with consumer := .copying count read available (output ++ [sample]) waiting }
          else none
      | _ => none
  | .storeRead =>
      match s.consumer with
      | .copying count read available output waiting =>
          if output.length = available.toNat then
            some { s with
              ring := { s.ring with readposition := read + available }
              consumer := .idle
              taken := s.taken ++ output
              log := s.log ++ [.read count waiting output] }
          else none
      | _ => none
  | .discard =>
      match s.consumer with
      | .idle =>
          if kind = .audioRingBuffer then none
          else some { s with consumer := .discarding s.ring.writeposition s.waiting }
      | _ => none
  | .storeDiscard =>
      match s.consumer with
      | .discarding write waiting =>
          let dropped := (s.accepted.drop s.taken.length).take waiting
          some { s with
            ring := { s.ring with readposition := write }
            consumer := .idle
            taken := s.taken ++ dropped
            log := s.log ++ [.discarded waiting dropped] }
      | _ => none

/-- The ring as it is constructed. -/
def start [Inhabited α] (kind : Kind) (capacity : UInt64) : Threads α :=
  { ring := kind.create capacity }

/-! ## What a call comes to -/

/-- The samples that a call stored. -/
def Event.stored : Event α → List α
  | .wrote _ _ stored => stored
  | .read _ _ _ | .discarded _ _ => []

/-- The samples that a call removed. -/
def Event.removed : Event α → List α
  | .wrote _ _ _ => []
  | .read _ _ output => output
  | .discarded _ dropped => dropped

/-- The call did what it could when it loaded the other's position. -/
def Event.Exact (kind : Kind) : Event α → Prop
  | .wrote input room stored => stored = kind.accept room input
  | .read count waiting output => output.length = min count.toNat waiting
  | .discarded waiting dropped => dropped.length = waiting

/-- The call as an operation on a queue; a discard removes what was there. -/
def Event.op : Event α → Fifo.Op α
  | .wrote input _ _ => .write input
  | .read count _ _ => .read count.toNat
  | .discarded waiting _ => .read waiting

/-- What it returned. -/
def Event.out : Event α → Fifo.Out α
  | .wrote _ _ stored => .written stored.length
  | .read _ _ output => .samples output
  | .discarded _ dropped => .samples dropped

/-- The slots that a write stores to. -/
def Producer.slots (size : UInt64) : Producer α → List ℕ
  | .copying _ write count _ _ => (List.range count.toNat).map (slot size write count)
  | _ => []

/-- The slots that a read loads from. -/
def Consumer.slots (size : UInt64) : Consumer α → List ℕ
  | .copying _ read available _ _ => (List.range available.toNat).map (slot size read available)
  | _ => []

/-! ## What the threads rely on -/

/-- A write that has stored `done` of its samples into slots that are free. -/
structure Producer.Copying (kind : Kind) (capacity : ℕ) (s : Threads α) (input : List α)
    (write count : UInt64) (done room : ℕ) : Prop where
  position : write.toNat = s.accepted.length
  free : s.accepted.length + count.toNat ≤ s.taken.length + capacity
  progress : done ≤ count.toNat
  copied : ∀ k, k < done → s.ring.samples[(s.accepted.length + k) % capacity]? = input[k]?
  fits : count.toNat ≤ input.length
  exact : input.take count.toNat = kind.accept room input
  whole : kind ≠ .audioRingBuffer → count.toNat = input.length

/-- A read that has loaded a part of the samples that wait. -/
structure Consumer.Copying (kind : Kind) (s : Threads α) (count read available : UInt64)
    (output : List α) (waiting : ℕ) : Prop where
  position : read.toNat = s.taken.length
  there : s.taken.length + available.toNat ≤ s.accepted.length
  progress : output.length ≤ available.toNat
  copied : output = (s.accepted.drop s.taken.length).take output.length
  exact : available.toNat = min count.toNat waiting
  whole : kind = .spscQueue → available = count

/-- What the writing thread knows. -/
def Producer.Sound (kind : Kind) (capacity : ℕ) (s : Threads α) : Producer α → Prop
  | .idle => True
  | .loading input write =>
      write.toNat = s.accepted.length ∧ (kind = .spscQueue → input.length = 1)
  | .copying input write count done room =>
      Producer.Copying kind capacity s input write count done room

/-- What the reading thread knows. -/
def Consumer.Sound (kind : Kind) (s : Threads α) : Consumer α → Prop
  | .idle => True
  | .loading count read => read.toNat = s.taken.length ∧ (kind = .spscQueue → count = 1)
  | .copying count read available output waiting =>
      Consumer.Copying kind s count read available output waiting
  | .discarding write waiting =>
      write.toNat = s.taken.length + waiting ∧ write.toNat ≤ s.accepted.length

/-- The samples that a write may still publish. -/
def Producer.pending : Producer α → ℕ
  | .idle => 0
  | .loading input _ | .copying input _ _ _ _ => input.length

/-- **The invariant.** -/
structure Inv (kind : Kind) (capacity : ℕ) (s : Threads α) : Prop where
  size : s.ring.samples.length = capacity
  written : s.ring.writeposition.toNat = s.accepted.length
  read : s.ring.readposition.toNat = s.taken.length
  taken : s.taken <+: s.accepted
  fits : s.accepted.length ≤ s.taken.length + capacity
  holds : Circular.Holds s.ring.samples s.taken.length (s.accepted.drop s.taken.length)
  offered : s.accepted.length + s.producer.pending ≤ s.offered
  producer : s.producer.Sound kind capacity s
  consumer : s.consumer.Sound kind s
  stored : s.log.flatMap Event.stored = s.accepted
  removed : s.log.flatMap Event.removed = s.taken
  exact : ∀ event ∈ s.log, event.Exact kind
  replayed : kind = .spscQueue →
    Fifo.run (Fifo.step Fifo.allOrNone capacity) [] (s.log.map Event.op) =
      (s.accepted.drop s.taken.length, s.log.map Event.out)

/-- A queue that acts at a moment takes the call as the ring does. -/
def Event.Answers (kind : Kind) (capacity : ℕ) (event : Event α) (queue next : List α) : Prop :=
  kind = .spscQueue →
    Fifo.step Fifo.allOrNone capacity queue event.op = (next, event.out)

variable {kind : Kind} {capacity : UInt64} {s t : Threads α}

/-! ## Positions -/

/-- The two copies go round the ring once. -/
theorem slot_eq {size position count : UInt64} (hpos : 0 < size.toNat)
    (hcount : count.toNat ≤ size.toNat) {k : ℕ} (hk : k < count.toNat) :
    slot size position count k = (position.toNat + k) % size.toNat := by
  have hmod : (position % size).toNat = position.toNat % size.toNat := UInt64.toNat_mod ..
  have hlt := Nat.mod_lt position.toNat hpos
  have hrest : (size - position % size).toNat = size.toNat - position.toNat % size.toNat := by
    rw [UInt64.toNat_sub_of_le _ _ (UInt64.le_iff_toNat_le.mpr (by omega)), hmod]
  have hfirst : (min count (size - position % size)).toNat =
      min count.toNat (size.toNat - position.toNat % size.toNat) := by
    rw [UInt64.toNat_min, hrest]
  unfold slot
  dsimp only
  rw [hfirst, hmod]
  rcases Nat.lt_or_ge (position.toNat % size.toNat + k) size.toNat with hbefore | hafter
  · rw [if_pos (by omega), Circular.slot_before hbefore]
  · rw [if_neg (by omega), Circular.slot_after (by omega) hafter]
    omega

theorem waiting_length (s : Threads α) : (s.accepted.drop s.taken.length).length = s.waiting :=
  List.length_drop

section

variable (h : Inv kind capacity.toNat s)

include h

theorem Inv.ringSize : s.ring.size = capacity := by
  unfold RingBuffer.size
  rw [h.size]
  exact UInt64.ofNat_toNat

theorem Inv.taken_le : s.taken.length ≤ s.accepted.length := h.taken.length_le

theorem Inv.accepted_eq : s.accepted = s.taken ++ s.accepted.drop s.taken.length := by
  conv_lhs => rw [← List.take_append_drop s.taken.length s.accepted]
  rw [← List.prefix_iff_eq_take.mp h.taken]

/-- What a thread makes of the two positions. -/
theorem Inv.used {write read : UInt64} (hwrite : write.toNat = s.accepted.length)
    (hread : read.toNat = s.taken.length) : (write - read).toNat = s.waiting := by
  have hle := h.taken_le
  rw [UInt64.toNat_sub_of_le _ _ (UInt64.le_iff_toNat_le.mpr (by omega)), hwrite, hread]
  rfl

theorem Inv.room_eq : s.room = capacity.toNat - s.waiting := by
  unfold Threads.room
  rw [h.size]

theorem Inv.waiting_le : s.waiting ≤ capacity.toNat := by
  have hfits := h.fits
  unfold Threads.waiting
  omega

end

/-- **A write is admitted** as the queue accepts it. -/
theorem admit_eq {used : UInt64} (hused : used ≤ capacity) {input : List α}
    (hinput : input.length < 2 ^ 64) (hsingle : kind = .spscQueue → input.length = 1) :
    match kind.admit capacity used (UInt64.ofNat input.length) with
    | none => kind.accept (capacity.toNat - used.toNat) input = []
    | some count =>
        kind.accept (capacity.toNat - used.toNat) input = input.take count.toNat ∧
          count.toNat ≤ capacity.toNat - used.toNat ∧ count.toNat ≤ input.length ∧
            (kind ≠ .audioRingBuffer → count.toNat = input.length) := by
  have hcount : (UInt64.ofNat input.length).toNat = input.length :=
    UInt64.toNat_ofNat_of_lt' hinput
  have hroom : (capacity - used).toNat = capacity.toNat - used.toNat :=
    UInt64.toNat_sub_of_le _ _ hused
  rw [UInt64.le_iff_toNat_le] at hused
  unfold Kind.admit Kind.accept
  cases kind with
  | spscQueue =>
      have hone := hsingle rfl
      dsimp only
      by_cases hfull : capacity ≤ used
      · rw [if_pos hfull]
        rw [UInt64.le_iff_toNat_le] at hfull
        exact if_neg (by omega)
      · rw [if_neg hfull]
        rw [UInt64.le_iff_toNat_le] at hfull
        dsimp only
        rw [hcount, List.take_length]
        exact ⟨if_pos (by omega), by omega, le_rfl, fun _ => rfl⟩
  | sampleRingBuffer =>
      dsimp only
      by_cases hfull : capacity - used < UInt64.ofNat input.length
      · rw [if_pos hfull]
        rw [UInt64.lt_iff_toNat_lt, hroom, hcount] at hfull
        exact if_neg (by omega)
      · rw [if_neg hfull]
        rw [UInt64.lt_iff_toNat_lt, hroom, hcount] at hfull
        dsimp only
        rw [hcount, List.take_length]
        exact ⟨if_pos (by omega), by omega, le_rfl, fun _ => rfl⟩
  | audioRingBuffer =>
      dsimp only
      rw [UInt64.toNat_min, hcount, hroom]
      refine ⟨?_, Nat.min_le_right _ _, Nat.min_le_left _ _, fun hne => absurd rfl hne⟩
      unfold Fifo.longestPrefix
      rw [← List.take_take]
      exact (List.take_of_length_le (List.length_take_le' ..)).symm

/-! ## What one thread does is no harm to the other -/

/-- Samples may be released. -/
theorem Producer.Sound.release {producer : Producer α}
    (h : producer.Sound kind capacity.toNat s) (hring : t.ring.samples = s.ring.samples)
    (haccepted : t.accepted = s.accepted) (htaken : s.taken.length ≤ t.taken.length) :
    producer.Sound kind capacity.toNat t := by
  cases producer with
  | idle => trivial
  | loading input write => exact ⟨haccepted ▸ h.1, h.2⟩
  | copying input write count done room =>
      obtain ⟨hposition, hfree, hprogress, hcopied, hfits, hexact, hwhole⟩ := h
      refine ⟨haccepted ▸ hposition, ?_, hprogress, ?_, hfits, hexact, hwhole⟩
      · rw [haccepted]
        omega
      · rw [haccepted, hring]
        exact hcopied

/-- Samples may be published. -/
theorem Consumer.Sound.publish {consumer : Consumer α} (h : consumer.Sound kind s)
    (htaken : t.taken = s.taken) (haccepted : s.accepted <+: t.accepted) :
    consumer.Sound kind t := by
  have hle := haccepted.length_le
  cases consumer with
  | idle => trivial
  | loading count read => exact ⟨htaken ▸ h.1, h.2⟩
  | copying count read available output waiting =>
      obtain ⟨hposition, hthere, hprogress, hcopied, hexact, hwhole⟩ := h
      refine ⟨htaken ▸ hposition, ?_, hprogress, ?_, hexact, hwhole⟩
      · rw [htaken]
        omega
      · obtain ⟨more, hmore⟩ := haccepted
        rw [htaken, ← hmore, List.drop_append_of_le_length (by omega),
          List.take_append_of_le_length (by rw [List.length_drop]; omega)]
        exact hcopied
  | discarding write waiting =>
      obtain ⟨hposition, hthere⟩ := h
      refine ⟨htaken ▸ hposition, ?_⟩
      omega

/-- The writing thread goes on, and the ring stays as it is. -/
theorem Inv.setProducer (h : Inv kind capacity.toNat s) {producer : Producer α} {offered : ℕ}
    (hoffered : s.accepted.length + producer.pending ≤ offered)
    (hsound : producer.Sound kind capacity.toNat s) :
    Inv kind capacity.toNat { s with producer := producer, offered := offered } :=
  { h with
    offered := hoffered
    producer := hsound.release rfl rfl le_rfl
    consumer := h.consumer.publish rfl List.prefix_rfl }

/-- The reading thread goes on, and the ring stays as it is. -/
theorem Inv.setConsumer (h : Inv kind capacity.toNat s) {consumer : Consumer α}
    (hsound : consumer.Sound kind s) :
    Inv kind capacity.toNat { s with consumer := consumer } :=
  { h with
    producer := h.producer.release rfl rfl le_rfl
    consumer := hsound.publish rfl List.prefix_rfl }

/-- One more call that the queue takes as the ring does. -/
theorem Inv.replay (h : Inv kind capacity.toNat s) {event : Event α} {next : List α}
    (hanswers : event.Answers kind capacity.toNat (s.accepted.drop s.taken.length) next)
    (hkind : kind = .spscQueue) :
    Fifo.run (Fifo.step Fifo.allOrNone capacity.toNat) [] ((s.log ++ [event]).map Event.op) =
      (next, (s.log ++ [event]).map Event.out) := by
  rw [List.map_append, List.map_singleton, Fifo.run_concat, h.replayed hkind, hanswers hkind,
    List.map_append, List.map_singleton]

/-- A call that changes nothing takes effect. -/
theorem Inv.note (h : Inv kind capacity.toNat s) {event : Event α} (hstored : event.stored = [])
    (hremoved : event.removed = []) (hexact : event.Exact kind)
    (hanswers : event.Answers kind capacity.toNat (s.accepted.drop s.taken.length)
      (s.accepted.drop s.taken.length)) :
    Inv kind capacity.toNat { s with log := s.log ++ [event] } :=
  { h with
    producer := h.producer.release rfl rfl le_rfl
    consumer := h.consumer.publish rfl List.prefix_rfl
    stored := by
      rw [List.flatMap_append, h.stored, List.flatMap_singleton, hstored, List.append_nil]
    removed := by
      rw [List.flatMap_append, h.removed, List.flatMap_singleton, hremoved, List.append_nil]
    exact := List.forall_mem_append.mpr ⟨h.exact, List.forall_mem_singleton.mpr hexact⟩
    replayed := h.replay hanswers }

/-- **A sample is stored** into a free slot. -/
theorem Inv.copyIn (h : Inv kind capacity.toNat s) (hcapacity : 0 < capacity.toNat)
    {input : List α} {write count : UInt64} {done room : ℕ}
    (hcopying : Producer.Copying kind capacity.toNat s input write count done room)
    (hpending : s.accepted.length + input.length ≤ s.offered)
    (hdone : done < count.toNat) {sample : α} (hsample : input[done]? = some sample) :
    Inv kind capacity.toNat
      { s with
        ring := { s.ring with
          samples := s.ring.samples.set (slot s.ring.size write count done) sample }
        producer := .copying input write count (done + 1) room } := by
  have hfree := hcopying.free
  have hle := h.taken_le
  have hroom : count.toNat ≤ capacity.toNat := by omega
  have hslot : slot s.ring.size write count done = (s.accepted.length + done) % capacity.toNat := by
    rw [h.ringSize, slot_eq hcapacity hroom hdone, hcopying.position]
  -- The slot is less than a round ahead of every sample that waits or was copied.
  have hother : ∀ k, k < s.waiting + done →
      (s.ring.samples.set (slot s.ring.size write count done) sample)[
        (s.taken.length + k) % capacity.toNat]? =
      s.ring.samples[(s.taken.length + k) % capacity.toNat]? := by
    intro k hk
    have hwaiting : s.waiting = s.accepted.length - s.taken.length := rfl
    rw [hslot, List.getElem?_set_ne]
    rw [show s.accepted.length + done = s.taken.length + (s.waiting + done) by omega]
    exact (Circular.slot_ne hk (by omega)).symm
  refine
    { h with
      size := (List.length_set ..).trans h.size
      holds := fun i hi => ?_
      offered := hpending
      producer := ⟨hcopying.position, hfree, hdone, fun k hk => ?_, hcopying.fits, hcopying.exact,
        hcopying.whole⟩
      consumer := h.consumer.publish rfl List.prefix_rfl }
  · have hlt : i < s.waiting := waiting_length s ▸ hi
    rw [List.length_set, h.size, hother i (by omega), ← h.size]
    exact h.holds i hi
  · rcases Nat.lt_succ_iff_lt_or_eq.mp hk with hlt | rfl
    · have hold := hother (s.waiting + k) (by omega)
      rw [show s.taken.length + (s.waiting + k) = s.accepted.length + k by
        unfold Threads.waiting; omega] at hold
      exact hold.trans (hcopying.copied k hlt)
    · dsimp only
      rw [← hslot, List.getElem?_set_self, hsample]
      rw [hslot, h.size]
      exact Nat.mod_lt _ hcapacity

/-- **The write position is stored**: the samples wait. -/
theorem Inv.storeWrite (h : Inv kind capacity.toNat s) {input : List α} {write count : UInt64}
    {room : ℕ}
    (hcopying : Producer.Copying kind capacity.toNat s input write count count.toNat room)
    (hpending : s.accepted.length + input.length ≤ s.offered) (hoffered : s.offered < 2 ^ 64) :
    Inv kind capacity.toNat
      { s with
        ring := { s.ring with writeposition := write + count }
        producer := .idle
        accepted := s.accepted ++ input.take count.toNat
        log := s.log ++ [.wrote input room (input.take count.toNat)] } := by
  have hle := h.taken_le
  have hfree := hcopying.free
  have hfits := hcopying.fits
  have hlength : (input.take count.toNat).length = count.toNat := List.length_take_of_le hfits
  refine
    { h with
      written := ?_
      taken := h.taken.trans (List.prefix_append ..)
      fits := ?_
      holds := ?_
      offered := ?_
      producer := trivial
      consumer := h.consumer.publish rfl (List.prefix_append ..)
      stored := ?_
      removed := ?_
      exact := ?_
      replayed := h.replay fun hkind => ?_ }
  · rw [UInt64.toNat_add, hcopying.position, List.length_append, hlength]
    exact Nat.mod_eq_of_lt (by omega)
  · rw [List.length_append, hlength]
    omega
  · rw [List.drop_append_of_le_length hle]
    intro i hi
    rw [List.length_append, hlength, waiting_length] at hi
    rcases Nat.lt_or_ge i s.waiting with hold | hnew
    · rw [List.getElem?_append_left (by rwa [waiting_length])]
      exact h.holds i (by rwa [waiting_length])
    · rw [List.getElem?_append_right (by rwa [waiting_length]), waiting_length,
        List.getElem?_take_of_lt (by omega), ← hcopying.copied _ (by omega), h.size]
      have hwaiting : s.waiting = s.accepted.length - s.taken.length := rfl
      rw [show s.accepted.length + (i - s.waiting) = s.taken.length + i by omega]
  · rw [List.length_append, hlength]
    show s.accepted.length + count.toNat + 0 ≤ s.offered
    omega
  · rw [List.flatMap_append, h.stored, List.flatMap_singleton]
    rfl
  · rw [List.flatMap_append, h.removed, List.flatMap_singleton]
    exact List.append_nil _
  · exact List.forall_mem_append.mpr ⟨h.exact, List.forall_mem_singleton.mpr hcopying.exact⟩
  · subst hkind
    have hwhole := hcopying.whole (by decide)
    have hwaiting : s.waiting = s.accepted.length - s.taken.length := rfl
    have hall : Fifo.allOrNone (capacity.toNat - s.waiting) input = input := if_pos (by omega)
    show (_ ++ Fifo.allOrNone _ input, _) = _
    rw [waiting_length, hall, List.drop_append_of_le_length hle, hwhole, List.take_length]
    rfl

/-- **A sample is loaded**: it is the oldest that was not. -/
theorem Inv.oldest (h : Inv kind capacity.toNat s) (hcapacity : 0 < capacity.toNat)
    {count read available : UInt64} {output : List α} {waiting : ℕ}
    (hcopying : Consumer.Copying kind s count read available output waiting)
    (hmore : output.length < available.toNat) :
    s.ring.samples[slot s.ring.size read available output.length]? =
      s.accepted[s.taken.length + output.length]? := by
  have hthere := hcopying.there
  have hfits := h.fits
  rw [h.ringSize, slot_eq hcapacity (by omega) hmore, hcopying.position, ← h.size,
    h.holds _ (by rw [List.length_drop]; omega), List.getElem?_drop]

/-- A read goes on. -/
theorem Consumer.Copying.load {count read available : UInt64} {output : List α} {waiting : ℕ}
    (h : Consumer.Copying kind s count read available output waiting)
    (hmore : output.length < available.toNat) {sample : α}
    (hsample : s.accepted[s.taken.length + output.length]? = some sample) :
    Consumer.Copying kind s count read available (output ++ [sample]) waiting where
  position := h.position
  there := h.there
  progress := by
    rw [List.length_append, List.length_singleton]
    exact hmore
  copied := by
    rw [List.length_append, List.length_singleton, List.take_add_one, ← h.copied,
      List.getElem?_drop, hsample]
    rfl
  exact := h.exact
  whole := h.whole

/-- **Samples are released**, and their slots are free. -/
theorem Inv.release (h : Inv kind capacity.toNat s) {event : Event α} {position : UInt64}
    {count : ℕ} (hposition : position.toNat = s.taken.length + count)
    (hthere : s.taken.length + count ≤ s.accepted.length) (hstored : event.stored = [])
    (hremoved : event.removed = (s.accepted.drop s.taken.length).take count)
    (hexact : event.Exact kind)
    (hanswers : event.Answers kind capacity.toNat (s.accepted.drop s.taken.length)
      ((s.accepted.drop s.taken.length).drop count)) :
    Inv kind capacity.toNat
      { s with
        ring := { s.ring with readposition := position }
        consumer := .idle
        taken := s.taken ++ (s.accepted.drop s.taken.length).take count
        log := s.log ++ [event] } := by
  have hlength : ((s.accepted.drop s.taken.length).take count).length = count := by
    rw [List.length_take, List.length_drop]
    omega
  have hafter : (s.taken ++ (s.accepted.drop s.taken.length).take count).length =
      s.taken.length + count := by
    rw [List.length_append, hlength]
  refine
    { h with
      read := hposition.trans hafter.symm
      taken := ?_
      fits := ?_
      holds := ?_
      producer := h.producer.release rfl rfl (by rw [hafter]; omega)
      consumer := trivial
      stored := ?_
      removed := ?_
      exact := List.forall_mem_append.mpr ⟨h.exact, List.forall_mem_singleton.mpr hexact⟩
      replayed := ?_ }
  · conv_rhs => rw [h.accepted_eq]
    exact List.prefix_append_right_inj _ |>.mpr (List.take_prefix ..)
  · rw [hafter]
    exact h.fits.trans (by omega)
  · rw [hafter, ← List.drop_drop]
    exact h.holds.drop count
  · rw [List.flatMap_append, h.stored, List.flatMap_singleton, hstored, List.append_nil]
  · rw [List.flatMap_append, h.removed, List.flatMap_singleton, hremoved]
  · rw [hafter, ← List.drop_drop]
    exact h.replay hanswers

/-- **The read position is stored.** -/
theorem Inv.storeRead (h : Inv kind capacity.toNat s) {count read available : UInt64}
    {output : List α} {waiting : ℕ}
    (hcopying : Consumer.Copying kind s count read available output waiting)
    (hdone : output.length = available.toNat) (hoffered : s.offered < 2 ^ 64) :
    Inv kind capacity.toNat
      { s with
        ring := { s.ring with readposition := read + available }
        consumer := .idle
        taken := s.taken ++ output
        log := s.log ++ [.read count waiting output] } := by
  have houtput := hcopying.copied
  have hthere := hcopying.there
  have hpending := h.offered
  rw [hdone] at houtput
  have hposition : (read + available).toNat = s.taken.length + available.toNat := by
    rw [UInt64.toNat_add, hcopying.position]
    exact Nat.mod_eq_of_lt (by omega)
  have hexact : Event.Exact kind (.read count waiting output) := hdone.trans hcopying.exact
  have hanswers : (Event.read count waiting output).Answers kind capacity.toNat
      (s.accepted.drop s.taken.length) ((s.accepted.drop s.taken.length).drop available.toNat) := by
    intro hkind
    obtain rfl := hcopying.whole hkind
    rw [houtput]
    rfl
  rw [houtput] at hexact hanswers ⊢
  exact h.release hposition hthere rfl rfl hexact hanswers

/-! ## Loads of the other's position -/

/-- **The read position is loaded**: what was free then is still free. -/
theorem Inv.loadRead (h : Inv kind capacity.toNat s) {input : List α} {write : UInt64}
    (hproducer : s.producer = .loading input write) (hoffered : s.offered < 2 ^ 64)
    (hstep : step kind s .loadRead = some t) : Inv kind capacity.toNat t := by
  have hsound := h.producer
  have hpending := h.offered
  rw [hproducer] at hsound hpending
  obtain ⟨hposition, hsingle⟩ := hsound
  have hused := h.used hposition h.read
  have hle := h.waiting_le
  have hinput : input.length < 2 ^ 64 :=
    lt_of_le_of_lt (le_trans (Nat.le_add_left ..) hpending) hoffered
  have hadmit := admit_eq (UInt64.le_iff_toNat_le.mpr (hused.trans_le hle)) hinput hsingle
  rw [hused, ← h.room_eq] at hadmit
  unfold step at hstep
  rw [hproducer] at hstep
  dsimp only at hstep
  rw [h.ringSize] at hstep
  cases hcount : kind.admit capacity (write - s.ring.readposition)
      (UInt64.ofNat input.length) with
  | none =>
      rw [hcount] at hstep hadmit
      obtain rfl := Option.some.inj hstep
      have hexact : Event.Exact kind (.wrote input s.room []) := hadmit.symm
      refine (h.note rfl rfl hexact fun hkind => ?_).setProducer
        (le_trans (Nat.le_add_right ..) hpending) trivial
      subst hkind
      show (_ ++ Fifo.allOrNone _ input, _) = _
      rw [waiting_length, ← h.room_eq, show Fifo.allOrNone s.room input = [] from hadmit,
        List.append_nil]
      rfl
  | some count =>
      rw [hcount] at hstep hadmit
      obtain rfl := Option.some.inj hstep
      obtain ⟨haccept, hroom, hfits, hwhole⟩ := hadmit
      have hfree := h.taken_le
      refine h.setProducer hpending ⟨hposition, ?_, Nat.zero_le _, fun k hk => absurd hk
        (Nat.not_lt_zero k), hfits, haccept.symm, hwhole⟩
      rw [h.room_eq] at hroom
      unfold Threads.waiting at hroom hle
      omega

/-- **The write position is loaded**: what waited then still waits. -/
theorem Inv.loadWrite (h : Inv kind capacity.toNat s) {count read : UInt64}
    (hconsumer : s.consumer = .loading count read) (hstep : step kind s .loadWrite = some t) :
    Inv kind capacity.toNat t := by
  have hsound := h.consumer
  rw [hconsumer] at hsound
  obtain ⟨hposition, hsingle⟩ := hsound
  have hused := h.used h.written hposition
  have havailable : (min count (s.ring.writeposition - read)).toNat =
      min count.toNat s.waiting := by
    rw [UInt64.toNat_min, hused]
  unfold step at hstep
  rw [hconsumer] at hstep
  dsimp only at hstep
  by_cases hempty : kind = .spscQueue ∧ min count (s.ring.writeposition - read) = 0
  · rw [if_pos hempty] at hstep
    obtain rfl := Option.some.inj hstep
    obtain ⟨hkind, hzero⟩ := hempty
    rw [hzero] at havailable
    have hexact : Event.Exact kind (.read count s.waiting ([] : List α)) := havailable
    refine (h.note rfl rfl hexact fun _ => ?_).setConsumer trivial
    obtain rfl := hsingle hkind
    have hnone : s.waiting = 0 := by
      have hmin : 0 = min 1 s.waiting := havailable
      omega
    have hnil : s.accepted.drop s.taken.length = [] :=
      List.length_eq_zero_iff.mp ((waiting_length s).trans hnone)
    rw [hnil]
    rfl
  · rw [if_neg hempty] at hstep
    obtain rfl := Option.some.inj hstep
    have hle := h.taken_le
    refine h.setConsumer ⟨hposition, ?_, Nat.zero_le _, rfl, havailable, fun hkind => ?_⟩
    · rw [havailable]
      unfold Threads.waiting
      omega
    · obtain rfl := hsingle hkind
      have hsome : min 1 (s.ring.writeposition - read) ≠ 0 := fun hzero => hempty ⟨hkind, hzero⟩
      rw [← UInt64.toNat_inj, havailable]
      rw [Ne, ← UInt64.toNat_inj, havailable] at hsome
      have hone : (1 : UInt64).toNat = 1 := rfl
      have hzero : (0 : UInt64).toNat = 0 := rfl
      omega

/-! ## Steps and runs -/

/-- **Each access** keeps the invariant. -/
theorem Inv.next (h : Inv kind capacity.toNat s) (hcapacity : 0 < capacity.toNat)
    {action : Action α} (hstep : step kind s action = some t) (hoffered : s.offered < 2 ^ 64) :
    Inv kind capacity.toNat t := by
  have hproducer := h.producer
  have hconsumer := h.consumer
  have hpending := h.offered
  cases action with
  | write input =>
      unfold step at hstep
      dsimp only at hstep
      split at hstep
      case h_2 => cases hstep
      rename_i hidle
      by_cases hmany : kind = .spscQueue ∧ input.length ≠ 1
      · rw [if_pos hmany] at hstep
        cases hstep
      · rw [if_neg hmany] at hstep
        obtain rfl := Option.some.inj hstep
        rw [hidle] at hpending
        refine h.setProducer (Nat.add_le_add_right hpending _) ⟨h.written, fun hkind => ?_⟩
        by_contra hne
        exact hmany ⟨hkind, hne⟩
  | loadRead =>
      cases hload : s.producer with
      | loading input write => exact h.loadRead hload hoffered hstep
      | idle | copying =>
          unfold step at hstep
          rw [hload] at hstep
          cases hstep
  | copyIn =>
      unfold step at hstep
      dsimp only at hstep
      split at hstep
      case h_2 => cases hstep
      rename_i input write count done room hcopy
      rw [hcopy] at hproducer hpending
      by_cases hmore : done < count.toNat
      · rw [if_pos hmore] at hstep
        obtain ⟨sample, hsample, rfl⟩ := Option.map_eq_some_iff.mp hstep
        exact h.copyIn hcapacity hproducer hpending hmore hsample
      · rw [if_neg hmore] at hstep
        cases hstep
  | storeWrite =>
      unfold step at hstep
      dsimp only at hstep
      split at hstep
      case h_2 => cases hstep
      rename_i input write count done room hcopy
      rw [hcopy] at hproducer hpending
      by_cases hdone : done = count.toNat
      · rw [if_pos hdone] at hstep
        obtain rfl := Option.some.inj hstep
        subst hdone
        exact h.storeWrite hproducer hpending hoffered
      · rw [if_neg hdone] at hstep
        cases hstep
  | read count =>
      unfold step at hstep
      dsimp only at hstep
      split at hstep
      case h_2 => cases hstep
      by_cases hmany : kind = .spscQueue ∧ count ≠ 1
      · rw [if_pos hmany] at hstep
        cases hstep
      · rw [if_neg hmany] at hstep
        obtain rfl := Option.some.inj hstep
        refine h.setConsumer ⟨h.read, fun hkind => ?_⟩
        by_contra hne
        exact hmany ⟨hkind, hne⟩
  | loadWrite =>
      cases hload : s.consumer with
      | loading count read => exact h.loadWrite hload hstep
      | idle | copying | discarding =>
          unfold step at hstep
          rw [hload] at hstep
          cases hstep
  | copyOut =>
      unfold step at hstep
      dsimp only at hstep
      split at hstep
      case h_2 => cases hstep
      rename_i count read available output waiting hcopy
      rw [hcopy] at hconsumer
      by_cases hmore : output.length < available.toNat
      · rw [if_pos hmore, h.oldest hcapacity hconsumer hmore] at hstep
        obtain ⟨sample, hsample, rfl⟩ := Option.map_eq_some_iff.mp hstep
        exact h.setConsumer (hconsumer.load hmore hsample)
      · rw [if_neg hmore] at hstep
        cases hstep
  | storeRead =>
      unfold step at hstep
      dsimp only at hstep
      split at hstep
      case h_2 => cases hstep
      rename_i count read available output waiting hcopy
      rw [hcopy] at hconsumer
      by_cases hdone : output.length = available.toNat
      · rw [if_pos hdone] at hstep
        obtain rfl := Option.some.inj hstep
        exact h.storeRead hconsumer hdone hoffered
      · rw [if_neg hdone] at hstep
        cases hstep
  | discard =>
      unfold step at hstep
      dsimp only at hstep
      split at hstep
      case h_2 => cases hstep
      by_cases hnone : kind = .audioRingBuffer
      · rw [if_pos hnone] at hstep
        cases hstep
      · rw [if_neg hnone] at hstep
        obtain rfl := Option.some.inj hstep
        have hle := h.taken_le
        refine h.setConsumer ⟨?_, h.written.le⟩
        rw [h.written]
        unfold Threads.waiting
        omega
  | storeDiscard =>
      unfold step at hstep
      dsimp only at hstep
      split at hstep
      case h_2 => cases hstep
      rename_i write waiting hdiscard
      rw [hdiscard] at hconsumer
      obtain rfl := Option.some.inj hstep
      obtain ⟨hposition, hthere⟩ := hconsumer
      exact h.release hposition (hposition ▸ hthere) rfl rfl
        (List.length_take_of_le (by rw [List.length_drop]; omega)) fun _ => rfl

/-- The samples offered only grow. -/
theorem offered_le {action : Action α} (hstep : step kind s action = some t) :
    s.offered ≤ t.offered := by
  cases action <;> unfold step at hstep <;> dsimp only at hstep <;> split at hstep <;>
    grind

theorem create_ring [Inhabited α] (hcapacity : 1 ≤ capacity) :
    kind.create capacity = ⟨List.replicate capacity.toNat (default : α), 0, 0⟩ := by
  cases kind with
  | spscQueue | sampleRingBuffer =>
      have hmax : max 1 capacity = capacity := if_pos hcapacity
      unfold Kind.create SampleRingBuffer.create
      rw [hmax]
  | audioRingBuffer => rfl

/-- The ring as it is constructed. -/
theorem Inv.start [Inhabited α] (hcapacity : 1 ≤ capacity) :
    Inv kind capacity.toNat (start kind capacity : Threads α) where
  size := by
    unfold LockFree.start
    rw [create_ring hcapacity]
    exact List.length_replicate
  written := by
    unfold LockFree.start
    rw [create_ring hcapacity]
    rfl
  read := by
    unfold LockFree.start
    rw [create_ring hcapacity]
    rfl
  taken := List.nil_prefix
  fits := Nat.zero_le _
  holds := Circular.Holds.nil _ _
  offered := le_rfl
  producer := trivial
  consumer := trivial
  stored := rfl
  removed := rfl
  exact := List.forall_mem_nil _
  replayed := fun _ => rfl

/-- Every run, until `2 ^ 64` samples have been offered. -/
theorem inv_of_reached [Inhabited α] (hcapacity : 1 ≤ capacity)
    (h : Exec.Reached (step kind) (start kind capacity : Threads α) s)
    (hoffered : s.offered < 2 ^ 64) : Inv kind capacity.toNat s :=
  h.invariant (fun s => s.offered < 2 ^ 64 → Inv kind capacity.toNat s)
    (fun _ => Inv.start hcapacity)
    (fun _ _ _ hinv hstep hlt =>
      have hbefore := lt_of_le_of_lt (offered_le hstep) hlt
      (hinv hbefore).next (UInt64.le_iff_toNat_le.mp hcapacity) hstep hbefore)
    hoffered

/-- The slots of a write and those of a read are less than a round apart. -/
theorem Inv.apart (h : Inv kind capacity.toNat s) (hcapacity : 0 < capacity.toNat) {i : ℕ}
    (hi : i ∈ s.producer.slots s.ring.size) : i ∉ s.consumer.slots s.ring.size := by
  have hproducer := h.producer
  have hconsumer := h.consumer
  rw [h.ringSize] at hi ⊢
  cases hwrite : s.producer with
  | idle | loading =>
      rw [hwrite] at hi
      cases hi
  | copying input write count done room =>
      cases hread : s.consumer with
      | idle | loading | discarding => exact List.not_mem_nil
      | copying wanted read available output waiting =>
          rw [hwrite] at hi hproducer
          rw [hread] at hconsumer
          have hfree := hproducer.free
          have hthere := hconsumer.there
          obtain ⟨k, hk, rfl⟩ := List.mem_map.mp hi
          intro hmeet
          obtain ⟨j, hj, heq⟩ := List.mem_map.mp hmeet
          rw [List.mem_range] at hj hk
          rw [slot_eq hcapacity (by omega) hj, slot_eq hcapacity (by omega) hk,
            hproducer.position, hconsumer.position,
            show s.accepted.length + k = s.taken.length + (s.waiting + k) by
              unfold Threads.waiting; omega] at heq
          refine Circular.slot_ne ?_ ?_ heq
          · unfold Threads.waiting
            omega
          · unfold Threads.waiting
            omega

/-- **The threads never meet in a slot, and nothing is lost, doubled, torn or
reordered.**  Whatever the order of their loads, stores and copies, the samples
that were stored are those that were removed and then those that wait, which fit
and lie in their slots, and each call stored or removed what it could when it
looked. -/
theorem lock_free_rings [Inhabited α] (hcapacity : 1 ≤ capacity)
    (h : Exec.Reached (step kind) (start kind capacity : Threads α) s)
    (hoffered : s.offered < 2 ^ 64) :
    (∀ i ∈ s.producer.slots s.ring.size, i ∉ s.consumer.slots s.ring.size) ∧
      (∃ waiting, s.log.flatMap Event.stored = s.log.flatMap Event.removed ++ waiting ∧
        waiting.length ≤ capacity.toNat ∧
        Circular.Holds s.ring.samples s.ring.readposition.toNat waiting) ∧
      ∀ event ∈ s.log, event.Exact kind := by
  have hinv := inv_of_reached hcapacity h hoffered
  refine ⟨fun i => hinv.apart (UInt64.le_iff_toNat_le.mp hcapacity),
    ⟨s.accepted.drop s.taken.length, ?_, ?_, ?_⟩, hinv.exact⟩
  · rw [hinv.stored, hinv.removed]
    exact hinv.accepted_eq
  · exact (waiting_length s).trans_le hinv.waiting_le
  · rw [hinv.read]
    exact hinv.holds

/-- A write goes across the end while a read that began before it is under way. -/
def acrossTheEnd : List (Action ℕ) :=
  [.write [1, 2, 3], .loadRead, .copyIn, .copyIn, .copyIn, .storeWrite, .read 2, .loadWrite,
    .copyOut, .write [4], .loadRead, .storeWrite, .copyOut, .storeRead, .write [4, 5], .loadRead,
    .read 5, .loadWrite, .copyIn, .copyOut, .copyIn]

/-- The write has the first two slots and the read the last. -/
theorem lock_free_rings_across : ∃ s,
    Exec.exec (step .audioRingBuffer) (start .audioRingBuffer 3) acrossTheEnd = some s ∧
      s.producer.slots s.ring.size = [0, 1] ∧ s.consumer.slots s.ring.size = [2] ∧
      s.log.map Event.out = [.written 3, .written 0, .samples [1, 2]] ∧
      (∃ waiting, s.log.flatMap Event.stored = s.log.flatMap Event.removed ++ waiting ∧
        waiting.length ≤ 3 ∧
        Circular.Holds s.ring.samples s.ring.readposition.toNat waiting) := by
  have hrun : (Exec.exec (step .audioRingBuffer) (start .audioRingBuffer 3) acrossTheEnd).any
      (fun s => decide (s.producer.slots s.ring.size = [0, 1] ∧
        s.consumer.slots s.ring.size = [2] ∧
        s.log.map Event.out = [.written 3, .written 0, .samples [1, 2]] ∧
        s.offered < 2 ^ 64)) = true := by
    decide +kernel
  obtain ⟨s, hs, htest⟩ := Exec.exec_any hrun
  obtain ⟨hproducer, hconsumer, hlog, hoffered⟩ := of_decide_eq_true htest
  exact ⟨s, hs, hproducer, hconsumer, hlog,
    (lock_free_rings (by decide) ⟨_, hs⟩ hoffered).2.1⟩

/-- **The queue of frames acts at a moment.**  In the order in which they took
effect, its pushes, pops and discards return what they return on a queue that
only one thread has. -/
theorem spsc_queue_linearizable [Inhabited α] (hcapacity : 1 ≤ capacity)
    (h : Exec.Reached (step .spscQueue) (start .spscQueue capacity : Threads α) s)
    (hoffered : s.offered < 2 ^ 64) :
    (Fifo.run (Fifo.step Fifo.allOrNone capacity.toNat) [] (s.log.map Event.op)).2 =
      s.log.map Event.out := by
  rw [(inv_of_reached hcapacity h hoffered).replayed rfl]

/-- A push finds the queue full while a discard is under way. -/
def discardedLate : List (Action ℕ) :=
  [.write [1], .loadRead, .copyIn, .storeWrite, .write [2], .loadRead, .read 1, .loadWrite,
    .copyIn, .storeWrite, .copyOut, .storeRead, .write [3], .loadRead, .copyIn, .storeWrite,
    .discard, .write [4], .loadRead, .storeDiscard, .write [5], .loadRead, .copyIn, .read 1,
    .loadWrite, .storeWrite, .read 1, .loadWrite, .copyOut, .storeRead]

/-- The refused push comes before the discard. -/
theorem spsc_queue_linearizable_discarded : ∃ s,
    Exec.exec (step .spscQueue) (start .spscQueue 2) discardedLate = some s ∧
      (Fifo.run (Fifo.step Fifo.allOrNone 2) [] (s.log.map Event.op)).2 =
        [.written 1, .written 1, .samples [1], .written 1, .written 0, .samples [2, 3],
          .samples [], .written 1, .samples [5]] := by
  have hrun : (Exec.exec (step .spscQueue) (start .spscQueue 2) discardedLate).any
      (fun s => decide (s.log.map Event.out =
        [.written 1, .written 1, .samples [1], .written 1, .written 0, .samples [2, 3],
          .samples [], .written 1, .samples [5]] ∧ s.offered < 2 ^ 64)) = true := by
    decide +kernel
  obtain ⟨s, hs, htest⟩ := Exec.exec_any hrun
  obtain ⟨hlog, hoffered⟩ := of_decide_eq_true htest
  exact ⟨s, hs, (spsc_queue_linearizable (by decide) ⟨_, hs⟩ hoffered).trans hlog⟩

end Voice.LockFree
