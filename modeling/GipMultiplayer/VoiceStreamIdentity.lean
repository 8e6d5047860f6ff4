import GipMultiplayer.Exec
import GipMultiplayer.VoiceStreams

/-!
# Stream identity

No two packets that leave an uplink carry the same stream generation and
sequence, and what leaves later is later in the order of the pairs, also across
restarts.

* `streamNumber` — the generation of the n-th stream of a processor;
* `Uplink.Inv` — streams, epochs and gates agree;
* `Uplink.returned_increasing` — the pairs only grow.
-/

namespace Voice

variable {α : Type}

/-! ## Numbers of streams -/

/-- The generation of the `n`-th stream that a processor begins. -/
def streamNumber : Nat → UInt32
  | 0 => 0
  | n + 1 => advanceStream (streamNumber n)

theorem advanceStream_toNat (streamgeneration : UInt32) :
    (advanceStream streamgeneration).toNat =
      streamgeneration.toNat % (2 ^ 32 - 1) + 1 := by
  have hlt := streamgeneration.toNat_lt
  unfold advanceStream
  dsimp only
  split_ifs with hwrap
  · have hlast : (streamgeneration.toNat + 1) % 2 ^ 32 = 0 := by
      have h := congrArg UInt32.toNat hwrap
      rwa [UInt32.toNat_add] at h
    rw [hwrap]
    show 1 = _
    omega
  · have hnext : (streamgeneration.toNat + 1) % 2 ^ 32 ≠ 0 := by
      intro h
      refine hwrap (UInt32.toNat_inj.mp ?_)
      rw [UInt32.toNat_add]
      exact h
    rw [UInt32.toNat_add]
    show (streamgeneration.toNat + 1) % 2 ^ 32 = _
    omega

/-- Generations repeat after all the numbers but zero. -/
theorem streamNumber_toNat (n : Nat) :
    (streamNumber (n + 1)).toNat = n % (2 ^ 32 - 1) + 1 := by
  induction n with
  | zero => rfl
  | succ n ih =>
      rw [streamNumber, advanceStream_toNat, ih]
      omega

theorem streamNumber_ne_zero {n : Nat} (hpos : 0 < n) : streamNumber n ≠ 0 := by
  obtain ⟨m, rfl⟩ := Nat.exists_eq_add_of_lt hpos
  intro hzero
  have htoNat := streamNumber_toNat (0 + m)
  rw [hzero] at htoNat
  exact absurd htoNat (Nat.succ_ne_zero _).symm

/-- Until the numbers run out, a stream has its own number. -/
theorem streamNumber_small {n : Nat} (hsmall : n < 2 ^ 32) : (streamNumber n).toNat = n := by
  cases n with
  | zero => rfl
  | succ n =>
      rw [streamNumber_toNat]
      omega

/-- Streams that are close have different generations. -/
theorem streamNumber_inj {m n : Nat} (hpos : 0 < m) (hle : m ≤ n) (hclose : n - m < 2 ^ 32 - 1)
    (heq : streamNumber m = streamNumber n) : m = n := by
  obtain ⟨i, rfl⟩ := Nat.exists_eq_add_of_lt hpos
  obtain ⟨j, rfl⟩ := Nat.exists_eq_add_of_lt (hpos.trans_le hle)
  have htoNat := congrArg UInt32.toNat heq
  rw [streamNumber_toNat, streamNumber_toNat] at htoNat
  omega

/-! ## Encoding a frame -/

/-- The encoded frame that the worker makes of a captured one. -/
def PcmFrame.encoded (frame : PcmFrame α) (gate : Gate) (streamgeneration sequence : UInt32)
    (firstpacket : Bool) (payload : List UInt8) : EncodedFrame α :=
  { flags := encodedFlags firstpacket frame.discontinuity
    sessionepoch := frame.sessionepoch
    captureepoch := frame.captureepoch
    sessionid := gate.sessionid
    membershipgeneration := gate.membershipgeneration
    streamgeneration := streamgeneration
    sequence := sequence
    sampleposition := frame.sampleposition
    payload := payload
    pcm := frame.samples }

/-- An error of the encoder leaves the outgoing queue alone. -/
theorem encodeFrame_none (config : ProcessorConfig) (gate : Gate) (capture : Capture α)
    (frame : PcmFrame α) (sequence : UInt32) (firstpacket : Bool) :
    encodeFrame config gate capture frame sequence firstpacket none = capture := by
  unfold encodeFrame
  split_ifs <;> rfl

/-- A current frame of a live microphone goes to the outgoing queue. -/
theorem encodeFrame_some (config : ProcessorConfig) {gate : Gate} {capture : Capture α}
    {frame : PcmFrame α} (sequence : UInt32) (firstpacket : Bool) (payload : List UInt8)
    (hstream : capture.streamgeneration ≠ 0) (hsession : frame.sessionepoch = gate.sessionepoch)
    (hepoch : frame.captureepoch = gate.captureepoch) (hrunning : gate.running = true)
    (hactive : gate.captureActive = true) :
    encodeFrame config gate capture frame sequence firstpacket (some payload) =
      { capture with
        outgoing := pushOutgoing config capture.outgoing
          (frame.encoded gate capture.streamgeneration sequence firstpacket payload) } := by
  have hcurrent : ¬ (capture.streamgeneration = 0 ∨ frame.sessionepoch ≠ gate.sessionepoch ∨
      frame.captureepoch ≠ gate.captureepoch) := by
    rw [not_or, not_or, not_not, not_not]
    exact ⟨hstream, hsession, hepoch⟩
  have hlive : ¬ (gate.running = false ∨ gate.captureActive = false) := by
    rw [not_or, Bool.not_eq_false, Bool.not_eq_false]
    exact ⟨hrunning, hactive⟩
  rw [encodeFrame, if_neg hcurrent]
  exact if_neg hlive

/-- **The outgoing queue flags, drops its oldest, and keeps its order.**  What
`key` reads of the frames, their flags apart, is what was there and the new
frame, less perhaps one. -/
theorem pushOutgoing_sublist {β : Type} (key : EncodedFrame α → β)
    (hkey : ∀ frame flags, key { frame with flags := flags } = key frame)
    (config : ProcessorConfig) (outgoing : List (EncodedFrame α)) (encoded : EncodedFrame α) :
    ((pushOutgoing config outgoing encoded).map key).Sublist
      (outgoing.map key ++ [key encoded]) := by
  unfold pushOutgoing
  split_ifs with hfull
  · match outgoing with
    | [] =>
        rw [List.drop_nil, List.map_cons, hkey, List.map_nil]
        exact List.Sublist.refl _
    | [first] =>
        rw [List.drop_one, List.tail_cons, List.map_cons, hkey]
        exact List.sublist_cons_self _ _
    | first :: front :: rest =>
        rw [List.drop_one, List.tail_cons, List.map_append, List.map_cons, hkey, List.map_cons,
          List.map_cons]
        exact List.sublist_cons_self _ _
  · rw [List.map_append, List.map_cons, List.map_nil]

/-- Every frame of the outgoing queue is one that was there, or the new one, with
perhaps another flag. -/
theorem mem_pushOutgoing_flagged {config : ProcessorConfig} {outgoing : List (EncodedFrame α)}
    {encoded frame : EncodedFrame α} (h : frame ∈ pushOutgoing config outgoing encoded) :
    ∃ source ∈ outgoing ++ [encoded], frame = source ∨
      frame = { source with flags := source.flags ||| flagDiscontinuity } := by
  unfold pushOutgoing at h
  split_ifs at h with hfull
  · match outgoing with
    | [] =>
        obtain rfl := List.mem_singleton.mp h
        exact ⟨encoded, by simp, .inr rfl⟩
    | [first] =>
        obtain rfl := List.mem_singleton.mp h
        exact ⟨encoded, by simp, .inr rfl⟩
    | first :: front :: rest =>
        simp only [List.drop_succ_cons, List.drop_zero, List.cons_append, List.mem_cons] at h
        rcases h with rfl | h
        · exact ⟨front, by simp, .inr rfl⟩
        · exact ⟨frame, by simp at h ⊢; tauto, .inl rfl⟩
  · exact ⟨frame, h, .inl rfl⟩

/-- What a frame keeps when it is flagged, the outgoing queue keeps. -/
theorem forall_pushOutgoing {p : EncodedFrame α → Prop}
    (hflag : ∀ frame : EncodedFrame α, p frame →
      p { frame with flags := frame.flags ||| flagDiscontinuity })
    {config : ProcessorConfig} {outgoing : List (EncodedFrame α)} {encoded : EncodedFrame α}
    (hold : ∀ frame ∈ outgoing, p frame) (hnew : p encoded) :
    ∀ frame ∈ pushOutgoing config outgoing encoded, p frame := by
  intro frame hframe
  obtain ⟨source, hsource, hflagged⟩ := mem_pushOutgoing_flagged hframe
  have hp : p source := by
    rcases List.mem_append.mp hsource with hmem | hmem
    · exact hold source hmem
    · obtain rfl := List.mem_singleton.mp hmem
      exact hnew
  rcases hflagged with rfl | rfl
  · exact hp
  · exact hflag source hp

/-! ## The invariant -/

namespace Uplink

/-- What was returned and what is outgoing, oldest first. -/
def entries (u : Uplink α) : List Returned :=
  u.tally.returned ++ u.capture.outgoing.map fun frame => ⟨frame.packet, u.tally.streams⟩

/-- The worker has observed the present capture epoch with the microphone live. -/
structure Encodes (u : Uplink α) (e : Encoding) : Prop where
  encoding : u.encoding = some e
  epoch : e.observedcaptureepoch = u.gate.captureepoch
  running : u.gate.running = true
  active : u.gate.captureActive = true

/-- **Streams, epochs and gates agree.** -/
structure Inv (u : Uplink α) : Prop where
  generation : u.capture.streamgeneration = streamNumber u.tally.streams
  even : u.gate.sessionepoch % 2 = 0
  behind : ∀ e, u.encoding = some e → e.observedcaptureepoch ≤ u.gate.captureepoch
  session : ∀ e, u.encoding = some e → e.observedcaptureepoch = u.gate.captureepoch →
    e.observedsessionepoch = u.gate.sessionepoch
  live : ∀ e, u.Encodes e → 0 < u.tally.streams ∧
    e.sequence = UInt32.ofNat u.tally.frames ∧ (e.firstpacket = true ↔ u.tally.frames = 0)
  held : u.capture.outgoing ≠ [] → ∃ e, u.Encodes e
  outgoing : ∀ frame ∈ u.capture.outgoing, frame.isCurrent u.gate = true
  entries : ∀ entry ∈ u.entries, 0 < entry.stream ∧ entry.stream ≤ u.tally.streams ∧
    entry.packet.streamgeneration = streamNumber entry.stream

variable {ok : StreamTally → PcmFrame α → Option (List UInt8) → Prop}

/-- Without a stream being encoded nothing is outgoing. -/
theorem Inv.outgoing_nil {u : Uplink α} (h : u.Inv) (hnone : ∀ e, ¬ u.Encodes e) :
    u.capture.outgoing = [] := by
  by_contra hsome
  obtain ⟨e, he⟩ := h.held hsome
  exact hnone e he

/-- The entries of an uplink with nothing outgoing. -/
theorem entries_of_nil {u : Uplink α} (h : u.capture.outgoing = []) :
    u.entries = u.tally.returned := by
  rw [entries, h, List.map_nil, List.append_nil]

/-- A new processor satisfies the invariant. -/
theorem start_inv (config : ProcessorConfig) : (start config : Uplink α).Inv where
  generation := rfl
  even := Nat.mod_self 2
  behind _ h := by cases h
  session _ h := by cases h
  live _ h := by cases h.encoding
  held h := absurd rfl h
  outgoing _ h := absurd h List.not_mem_nil
  entries _ h := absurd h List.not_mem_nil

theorem Encodes.of_same {u u' : Uplink α} {e : Encoding} (h : u'.Encodes e)
    (hgate : u'.gate = u.gate) (hencoding : u'.encoding = u.encoding) : u.Encodes e :=
  ⟨hencoding ▸ h.encoding, hgate ▸ h.epoch, hgate ▸ h.running, hgate ▸ h.active⟩

theorem not_encodes_of_none {u : Uplink α} (h : u.encoding = none) (e : Encoding) :
    ¬ u.Encodes e := by
  intro he
  rw [he.encoding] at h
  cases h

/-- An effect that leaves the gates, the loop and the stream alone and makes no
new entry. -/
theorem Inv.of_same {u u' : Uplink α} (h : u.Inv) (hgate : u'.gate = u.gate)
    (hencoding : u'.encoding = u.encoding)
    (hstream : u'.capture.streamgeneration = u.capture.streamgeneration)
    (hstreams : u'.tally.streams = u.tally.streams) (hframes : u'.tally.frames = u.tally.frames)
    (houtgoing : u'.capture.outgoing ⊆ u.capture.outgoing) (hentries : u'.entries ⊆ u.entries) :
    u'.Inv where
  generation := by rw [hstream, hstreams, h.generation]
  even := by rw [hgate, h.even]
  behind e he := by
    rw [hgate]
    exact h.behind e (hencoding ▸ he)
  session e he hepoch := by
    rw [hgate] at hepoch ⊢
    exact h.session e (hencoding ▸ he) hepoch
  live e he := by
    rw [hstreams, hframes]
    exact h.live e (he.of_same hgate hencoding)
  held hsome := by
    obtain ⟨frame, hframe⟩ := List.exists_mem_of_ne_nil _ hsome
    obtain ⟨e, he⟩ := h.held (List.ne_nil_of_mem (houtgoing hframe))
    exact ⟨e, he.of_same hgate.symm hencoding.symm⟩
  outgoing frame hframe := by
    rw [hgate]
    exact h.outgoing frame (houtgoing hframe)
  entries entry hentry := by
    rw [hstreams]
    exact h.entries entry (hentries hentry)

/-- An effect on the capture queue and the staging buffer alone. -/
theorem Inv.of_queue {u u' : Uplink α} (h : u.Inv) (hgate : u'.gate = u.gate)
    (hstream : u'.capture.streamgeneration = u.capture.streamgeneration)
    (houtgoing : u'.capture.outgoing = u.capture.outgoing)
    (hencoding : u'.encoding = u.encoding) (htally : u'.tally = u.tally) : u'.Inv := by
  have hentries : u'.entries = u.entries := by
    unfold Uplink.entries
    rw [houtgoing, htally]
  exact h.of_same hgate hencoding hstream (by rw [htally]) (by rw [htally])
    (by rw [houtgoing]; exact List.Subset.refl _) (by rw [hentries]; exact List.Subset.refl _)

theorem Begins.generation {u u' : Uplink α} {begins : Prop} [Decidable begins]
    (hbegins : Begins u u' begins)
    (h : u.capture.streamgeneration = streamNumber u.tally.streams) :
    u'.capture.streamgeneration = streamNumber u'.tally.streams := by
  obtain ⟨hstream, htally⟩ := hbegins
  rw [hstream, htally]
  split_ifs
  · rw [h]
    rfl
  · exact h

theorem Begins.tally {u u' : Uplink α} {begins : Prop} [Decidable begins]
    (hbegins : Begins u u' begins) :
    u'.tally.returned = u.tally.returned ∧ u.tally.streams ≤ u'.tally.streams := by
  rw [hbegins.2]
  split_ifs
  · exact ⟨rfl, Nat.le_succ _⟩
  · exact ⟨rfl, Nat.le_refl _⟩

/-- Entries stay well formed when nothing is outgoing and streams only begin. -/
theorem Inv.entries_of_nil {u u' : Uplink α} (h : u.Inv) (hnil : u'.capture.outgoing = [])
    (hreturned : u'.tally.returned = u.tally.returned)
    (hstreams : u.tally.streams ≤ u'.tally.streams) :
    ∀ entry ∈ u'.entries, 0 < entry.stream ∧ entry.stream ≤ u'.tally.streams ∧
      entry.packet.streamgeneration = streamNumber entry.stream := by
  intro entry hentry
  rw [Uplink.entries_of_nil hnil, hreturned] at hentry
  obtain ⟨hpos, hle, hgeneration⟩ := h.entries entry (List.mem_append_left _ hentry)
  exact ⟨hpos, hle.trans hstreams, hgeneration⟩

/-- A pop takes the oldest frame of a queue whose frames are all current. -/
theorem popCurrent_of_current {gate : Gate} {outgoing : List (EncodedFrame α)}
    (h : ∀ frame ∈ outgoing, frame.isCurrent gate = true) :
    popCurrent gate outgoing = (outgoing.tail, outgoing.head?) := by
  cases outgoing with
  | nil => rfl
  | cons frame rest => exact if_pos (h frame List.mem_cons_self)

/-- A pop moves a frame from the outgoing queue to the packets returned. -/
theorem Inv.popped_entries {u u' : Uplink α} (h : u.Inv)
    (hcapture : u'.capture = { u.capture with
      outgoing := (popCurrent u.gate u.capture.outgoing).1 })
    (htally : u'.tally = match (popCurrent u.gate u.capture.outgoing).2 with
      | some frame =>
          { u.tally with returned := u.tally.returned ++ [⟨frame.packet, u.tally.streams⟩] }
      | none => u.tally) :
    u'.entries = u.entries ∧ u'.capture.outgoing ⊆ u.capture.outgoing ∧
      u'.tally = { u.tally with returned := u'.tally.returned } := by
  rw [popCurrent_of_current h.outgoing] at hcapture htally
  unfold Uplink.entries
  rw [hcapture, htally]
  cases u.capture.outgoing with
  | nil => exact ⟨rfl, List.Subset.refl _, rfl⟩
  | cons frame rest =>
      refine ⟨?_, List.subset_cons_self _ _, rfl⟩
      show (u.tally.returned ++ [_]) ++ rest.map _ = u.tally.returned ++ (_ :: rest.map _)
      rw [List.append_assoc, List.singleton_append]
      rfl

/-- The invariant after a change of epoch. -/
theorem Inv.changed {u u' : Uplink α} (h : u.Inv)
    (hepoch : u.gate.captureepoch < u'.gate.captureepoch)
    (heven : u'.gate.sessionepoch % 2 = u.gate.sessionepoch % 2)
    (hcapture : u'.capture = { u.capture with outgoing := [] })
    (hencoding : u'.encoding = u.encoding) (htally : u'.tally = u.tally) : u'.Inv := by
  have hnil : u'.capture.outgoing = [] := by rw [hcapture]
  have hbehind : ∀ e, u'.encoding = some e → e.observedcaptureepoch < u'.gate.captureepoch :=
    fun e he => (h.behind e (hencoding ▸ he)).trans_lt hepoch
  exact
    { generation := by
        rw [hcapture, htally]
        exact h.generation
      even := heven.trans h.even
      behind := fun e he => (hbehind e he).le
      session := fun e he heq => absurd heq (hbehind e he).ne
      live := fun e he => absurd he.epoch (hbehind e he.encoding).ne
      held := fun hsome => absurd hnil hsome
      outgoing := fun frame hframe => absurd (hnil ▸ hframe) List.not_mem_nil
      entries := h.entries_of_nil hnil (by rw [htally]) (by rw [htally]) }

/-- The invariant without a worker in its loop. -/
theorem Inv.unlooped {u u' : Uplink α} (h : u.Inv)
    (heven : u'.gate.sessionepoch = u.gate.sessionepoch)
    (hnil : u'.capture.outgoing = []) (hencoding : u'.encoding = none)
    (hgeneration : u'.capture.streamgeneration = streamNumber u'.tally.streams)
    (hreturned : u'.tally.returned = u.tally.returned)
    (hstreams : u.tally.streams ≤ u'.tally.streams) : u'.Inv where
  generation := hgeneration
  even := by rw [heven, h.even]
  behind e he := by simp [hencoding] at he
  session e he := by simp [hencoding] at he
  live e he := absurd he (not_encodes_of_none hencoding e)
  held hsome := absurd hnil hsome
  outgoing frame hframe := absurd (hnil ▸ hframe) List.not_mem_nil
  entries := h.entries_of_nil hnil hreturned hstreams

/-- Without an outgoing frame of another epoch, noticing an epoch finds none. -/
theorem Inv.outgoing_nil_of_stale {u : Uplink α} (h : u.Inv) {e : Encoding}
    (hold : u.encoding = some e) (hstale : e.observedcaptureepoch ≠ u.gate.captureepoch) :
    u.capture.outgoing = [] := by
  refine h.outgoing_nil fun e' he' => hstale ?_
  obtain rfl : e = e' := Option.some.inj (hold.symm.trans he'.encoding)
  exact he'.epoch

/-- The invariant when the worker enters its loop. -/
theorem Inv.entered {u u' : Uplink α} (h : u.Inv) (hnone : u.encoding = none)
    (hgate : u'.gate = u.gate)
    (hcapture : u'.capture = { u.capture with streamgeneration := u'.capture.streamgeneration })
    (hencoding : u'.encoding = some ⟨u.gate.sessionepoch, u.gate.captureepoch, 0, true⟩)
    (hbegins : Begins u u' (u.gate.sessionepoch % 2 = 0 ∧ u.gate.captureActive = true)) :
    u'.Inv := by
  have hnil : u'.capture.outgoing = [] := by
    rw [hcapture]
    exact h.outgoing_nil (not_encodes_of_none hnone)
  have hloop : ∀ e, u'.encoding = some e →
      e = ⟨u.gate.sessionepoch, u.gate.captureepoch, 0, true⟩ :=
    fun e he => Option.some.inj (he.symm.trans hencoding)
  refine
    { generation := hbegins.generation h.generation
      even := by rw [hgate, h.even]
      behind := fun e he => by rw [hloop e he, hgate]
      session := fun e he _ => by rw [hloop e he, hgate]
      live := fun e he => ?_
      held := fun hsome => absurd hnil hsome
      outgoing := fun frame hframe => absurd (hnil ▸ hframe) List.not_mem_nil
      entries := h.entries_of_nil hnil hbegins.tally.1 hbegins.tally.2 }
  have hactive : u.gate.captureActive = true := hgate ▸ he.active
  have htally : u'.tally = u.tally.begin := by
    rw [hbegins.2, if_pos ⟨h.even, hactive⟩]
  rw [hloop e he.encoding, htally]
  exact ⟨Nat.succ_pos _, rfl, iff_of_true rfl rfl⟩

/-- The invariant when the worker notices a session. -/
theorem Inv.noticed {u u' : Uplink α} (h : u.Inv) {e : Encoding} (hold : u.encoding = some e)
    (hnew : u.gate.sessionepoch ≠ e.observedsessionepoch) (hgate : u'.gate = u.gate)
    (hcapture : u'.capture = { u.capture with queue := [] })
    (hencoding : u'.encoding = some { e with observedsessionepoch := u.gate.sessionepoch })
    (htally : u'.tally = u.tally) : u'.Inv := by
  have hstale : e.observedcaptureepoch ≠ u.gate.captureepoch :=
    fun heq => hnew (h.session e hold heq).symm
  have hnil : u'.capture.outgoing = [] := by
    rw [hcapture]
    exact h.outgoing_nil_of_stale hold hstale
  have hloop : ∀ e', u'.encoding = some e' →
      e' = { e with observedsessionepoch := u.gate.sessionepoch } :=
    fun e' he' => Option.some.inj (he'.symm.trans hencoding)
  exact
    { generation := by
        rw [hcapture, htally]
        exact h.generation
      even := by rw [hgate, h.even]
      behind := fun e' he' => by
        rw [hloop e' he', hgate]
        exact h.behind e hold
      session := fun e' he' _ => by rw [hloop e' he', hgate]
      live := fun e' he' => by
        have hepoch := he'.epoch
        rw [hloop e' he'.encoding, hgate] at hepoch
        exact absurd hepoch hstale
      held := fun hsome => absurd hnil hsome
      outgoing := fun frame hframe => absurd (hnil ▸ hframe) List.not_mem_nil
      entries := h.entries_of_nil hnil (by rw [htally]) (by rw [htally]) }

/-- The invariant when the worker notices a capture epoch. -/
theorem Inv.observed {u u' : Uplink α} (h : u.Inv) {e : Encoding} (hold : u.encoding = some e)
    (hsession : u.gate.sessionepoch = e.observedsessionepoch)
    (hnew : u.gate.captureepoch ≠ e.observedcaptureepoch) (hgate : u'.gate = u.gate)
    (hcapture : u'.capture = { u.capture with
      queue := [], streamgeneration := u'.capture.streamgeneration })
    (hencoding : u'.encoding = some (if u.gate.captureActive = true then
        ⟨e.observedsessionepoch, u.gate.captureepoch, 0, true⟩
      else { e with observedcaptureepoch := u.gate.captureepoch }))
    (hbegins : Begins u u' (u.gate.captureActive = true)) : u'.Inv := by
  have hnil : u'.capture.outgoing = [] := by
    rw [hcapture]
    exact h.outgoing_nil_of_stale hold hnew.symm
  have hloop : ∀ e', u'.encoding = some e' →
      e'.observedcaptureepoch = u.gate.captureepoch ∧
        e'.observedsessionepoch = u.gate.sessionepoch := by
    intro e' he'
    rw [Option.some.inj (he'.symm.trans hencoding)]
    split_ifs
    · exact ⟨rfl, hsession.symm⟩
    · exact ⟨rfl, hsession.symm⟩
  refine
    { generation := hbegins.generation h.generation
      even := by rw [hgate, h.even]
      behind := fun e' he' => by rw [(hloop e' he').1, hgate]
      session := fun e' he' _ => by rw [(hloop e' he').2, hgate]
      live := fun e' he' => ?_
      held := fun hsome => absurd hnil hsome
      outgoing := fun frame hframe => absurd (hnil ▸ hframe) List.not_mem_nil
      entries := h.entries_of_nil hnil hbegins.tally.1 hbegins.tally.2 }
  have hactive : u.gate.captureActive = true := hgate ▸ he'.active
  have htally : u'.tally = u.tally.begin := by rw [hbegins.2, if_pos hactive]
  rw [if_pos hactive] at hencoding
  rw [Option.some.inj (he'.encoding.symm.trans hencoding), htally]
  exact ⟨Nat.succ_pos _, rfl, iff_of_true rfl rfl⟩

/-- The invariant when the worker encodes a frame. -/
theorem Inv.encoded {u u' : Uplink α} (h : u.Inv) {e : Encoding} (he : u.Encodes e)
    {config : ProcessorConfig} {frame : PcmFrame α} {rest : List (PcmFrame α)}
    {payload : Option (List UInt8)} (hown : frame.Of e) (hgate : u'.gate = u.gate)
    (hcapture : u'.capture = encodeFrame config u.gate { u.capture with queue := rest } frame
      e.sequence e.firstpacket payload)
    (hencoding : u'.encoding = some { e with sequence := e.sequence + 1, firstpacket := false })
    (htally : u'.tally = u.tally.take payload.isSome) : u'.Inv := by
  obtain ⟨hpos, hsequence, -⟩ := h.live e he
  have hsession := h.session e he.encoding he.epoch
  have hcurrent : frame.sessionepoch = u.gate.sessionepoch ∧
      frame.captureepoch = u.gate.captureepoch := ⟨hown.1.trans hsession, hown.2.trans he.epoch⟩
  have hkept : u'.capture.streamgeneration = u.capture.streamgeneration := by
    rw [hcapture, encodeFrame_streamgeneration]
  have hencodes : u'.Encodes { e with sequence := e.sequence + 1, firstpacket := false } :=
    ⟨hencoding, hgate ▸ he.epoch, hgate ▸ he.running, hgate ▸ he.active⟩
  have hloop : ∀ e', u'.encoding = some e' →
      e' = { e with sequence := e.sequence + 1, firstpacket := false } :=
    fun e' he' => Option.some.inj (he'.symm.trans hencoding)
  -- what is outgoing was outgoing, or is the frame just encoded
  have houtgoing : ∀ f ∈ u'.capture.outgoing, f.isCurrent u.gate = true ∧
      f.streamgeneration = u.capture.streamgeneration := by
    have hold : ∀ f ∈ u.capture.outgoing, f.isCurrent u.gate = true ∧
        f.streamgeneration = u.capture.streamgeneration := by
      intro f hf
      refine ⟨h.outgoing f hf, ?_⟩
      have hentry : (⟨f.packet, u.tally.streams⟩ : Returned) ∈ u.entries :=
        List.mem_append_right _ (List.mem_map_of_mem hf)
      exact (h.entries _ hentry).2.2.trans h.generation.symm
    rw [hcapture]
    cases payload with
    | none =>
        rw [encodeFrame_none]
        exact hold
    | some payload =>
        rw [encodeFrame_some config e.sequence e.firstpacket payload
          (h.generation ▸ streamNumber_ne_zero hpos) hcurrent.1 hcurrent.2 he.running he.active]
        refine forall_pushOutgoing (fun f hf => hf) hold ⟨?_, rfl⟩
        simp [EncodedFrame.isCurrent, PcmFrame.encoded, hcurrent.1, hcurrent.2]
  have hstreams : u'.tally.streams = u.tally.streams := by rw [htally]; rfl
  exact
    { generation := by rw [hkept, h.generation, hstreams]
      even := by rw [hgate, h.even]
      behind := fun e' he' => by
        rw [hloop e' he', hgate]
        exact h.behind e he.encoding
      session := fun e' he' _ => by
        rw [hloop e' he', hgate]
        exact hsession
      live := fun e' he' => by
        rw [hloop e' he'.encoding, htally]
        refine ⟨hpos, ?_, iff_of_false Bool.false_ne_true (Nat.succ_ne_zero _)⟩
        show e.sequence + 1 = UInt32.ofNat (u.tally.frames + 1)
        rw [hsequence, UInt32.ofNat_add]
        rfl
      held := fun _ => ⟨_, hencodes⟩
      outgoing := fun f hf => by
        rw [hgate]
        exact (houtgoing f hf).1
      entries := fun entry hentry => by
        rw [hstreams]
        rcases List.mem_append.mp hentry with hreturned | hnew
        · rw [htally] at hreturned
          exact h.entries entry (List.mem_append_left _ hreturned)
        · obtain ⟨f, hf, rfl⟩ := List.mem_map.mp hnew
          refine ⟨hstreams ▸ hpos, hstreams ▸ Nat.le_refl _, ?_⟩
          show f.streamgeneration = streamNumber u'.tally.streams
          rw [(houtgoing f hf).2, h.generation, hstreams] }

/-- **Step lemma.**  Every effect keeps the invariant. -/
theorem Inv.effect {u u' : Uplink α} (h : u.Inv) (heffect : Effect ok u u') : u'.Inv := by
  cases heffect with
  | quiet hquiet =>
      exact h.of_queue hquiet.gate (by rw [hquiet.capture]) (by rw [hquiet.capture])
        hquiet.encoding hquiet.tally
  | changed hepoch heven hcapture hencoding htally =>
      exact h.changed hepoch heven hcapture hencoding htally
  | stopped begins hgate hcapture hencoding hbegins =>
      exact h.unlooped (by rw [hgate]) (by rw [hcapture]) hencoding
        (hbegins.generation h.generation) hbegins.tally.1 hbegins.tally.2
  | started hoff hgate hcapture hencoding htally =>
      have hnil : u'.capture.outgoing = [] := by
        rw [hcapture]
        refine h.outgoing_nil fun e he => ?_
        rw [he.running] at hoff
        cases hoff
      exact h.unlooped (by rw [hgate]) hnil hencoding (by rw [hcapture, htally]; exact h.generation)
        (by rw [htally]) (by rw [htally])
  | entered hnone hgate hcapture hencoding hbegins =>
      exact h.entered hnone hgate hcapture hencoding hbegins
  | noticed e hold hnew hgate hcapture hencoding htally =>
      exact h.noticed hold hnew hgate hcapture hencoding htally
  | observed e hold hsession hnew hgate hcapture hencoding hbegins =>
      exact h.observed hold hsession hnew hgate hcapture hencoding hbegins
  | discarded hoff hgate hcapture hencoding htally =>
      exact h.of_queue hgate (by rw [hcapture]) (by rw [hcapture]) hencoding htally
  | skipped e hold frame rest hqueue hother hgate hcapture hencoding htally =>
      exact h.of_queue hgate (by rw [hcapture]) (by rw [hcapture]) hencoding htally
  | encoded e hold config frame rest payload hqueue hown hrunning hactive hsession hepoch hok hgate
      hcapture hencoding htally =>
      exact h.encoded ⟨hold, hepoch.symm, hrunning, hactive⟩ hown hgate hcapture hencoding htally
  | captured input hgate hcapture hencoding htally =>
      obtain ⟨-, -, hstream, houtgoing⟩ := pushCaptured_frame u.processor input
      exact h.of_queue hgate (by rw [hcapture, hstream]) (by rw [hcapture, houtgoing]) hencoding
        htally
  | popped hrunning hactive hgate hcapture hencoding htally =>
      obtain ⟨hentries, houtgoing, hsame⟩ := h.popped_entries hcapture htally
      exact h.of_same hgate hencoding (by rw [hcapture]) (by rw [hsame]) (by rw [hsame]) houtgoing
        (by rw [hentries]; exact List.Subset.refl _)

/-! ## Runs -/

/-- A chain of effects keeps what each effect keeps. -/
theorem Effects.invariant {u u' : Uplink α} (heffects : Effects ok u u') (P : Uplink α → Prop)
    (hu : P u) (hstep : ∀ v v', P v → Effect ok v v' → P v') : P u' := by
  induction heffects with
  | refl => exact hu
  | tail _ heffect ih => exact hstep _ _ ih heffect

/-- **Run rule.**  What each effect keeps, each run of allowed calls keeps. -/
theorem invariant_along {admits : Uplink α → ProcessorCall α → Prop}
    (hadmits : ∀ u call, admits u call → u.Allows ok call) {u u' : Uplink α}
    (h : Exec.ReachedAlong step admits u u') (P : Uplink α → Prop) (hu : P u)
    (hstep : ∀ v v', P v → Effect ok v v' → P v') : P u' := by
  refine h.invariant P hu fun v call v' hv hcall hv' => ?_
  obtain rfl := Option.some.inj hv'
  exact (perform_effects (hadmits v call hcall)).invariant P hv hstep

/-! ## Identity -/

end Uplink

/-- What the encoder returns fits the payload buffer of a packet. -/
def PayloadFits (payload : Option (List UInt8)) : Prop :=
  ∀ bytes, payload = some bytes → bytes ≠ [] ∧ bytes.length ≤ networkMaxOpusBytes

/-- The encoder returns an error or between one and all the bytes of its buffer. -/
def EncodesWithin : ProcessorCall α → Prop
  | .workerIteration input => ∀ k, PayloadFits (input.encode k)
  | _ => True

/-- A frame is encoded within the buffer. -/
def Fits (_ : StreamTally) (_ : PcmFrame α) (payload : Option (List UInt8)) : Prop :=
  PayloadFits payload

theorem drains_of_forall {encode : Nat → Option (List UInt8)} (h : ∀ k, PayloadFits (encode k))
    (k : Nat) (frames : List (PcmFrame α)) (tally : StreamTally) :
    Drains Fits encode k frames tally := by
  induction frames generalizing k tally with
  | nil => trivial
  | cons frame frames ih => exact ⟨h k, ih (k + 1) _⟩

/-- The entry is of an earlier stream, or earlier in the same stream. -/
def Returned.Before (p q : Returned) : Prop :=
  p.stream < q.stream ∨ p.stream = q.stream ∧ p.packet.sequence < q.packet.sequence

namespace Uplink

theorem allows_fits (u : Uplink α) (call : ProcessorCall α) (h : EncodesWithin call) :
    u.Allows Fits call := by
  cases call with
  | workerIteration input => exact drains_of_forall h 0 _ _
  | _ => trivial

/-- The entries are valid packets in the order of their pairs. -/
structure Identity (u : Uplink α) : Prop where
  valid : ∀ entry ∈ u.entries, validateTeamVoiceUplinkPacket entry.packet = .none
  counted : u.tally.frames ≤ u.tally.longest
  below : u.tally.longest < 2 ^ 32 → ∀ entry ∈ u.entries, entry.stream = u.tally.streams →
    entry.packet.sequence.toNat < u.tally.frames
  increasing : u.tally.longest < 2 ^ 32 → u.entries.Pairwise Returned.Before

theorem entries_sublist {u u' : Uplink α}
    (houtgoing : u'.capture.outgoing.Sublist u.capture.outgoing) (htally : u'.tally = u.tally) :
    u'.entries.Sublist u.entries := by
  unfold entries
  rw [htally]
  exact (List.Sublist.refl _).append (houtgoing.map _)

theorem entries_sublist_of_nil {u u' : Uplink α} (hnil : u'.capture.outgoing = [])
    (hreturned : u'.tally.returned = u.tally.returned) : u'.entries.Sublist u.entries := by
  rw [entries_of_nil hnil, hreturned]
  exact List.sublist_append_left _ _

/-- Fewer entries of the same stream. -/
theorem Identity.of_sublist {u u' : Uplink α} (h : u.Identity)
    (hentries : u'.entries.Sublist u.entries)
    (htally : u'.tally = { u.tally with returned := u'.tally.returned }) : u'.Identity where
  valid entry hentry := h.valid entry (hentries.subset hentry)
  counted := by
    rw [htally]
    exact h.counted
  below hlongest entry hentry hstream := by
    rw [htally] at hlongest hstream ⊢
    exact h.below hlongest entry (hentries.subset hentry) hstream
  increasing hlongest := by
    rw [htally] at hlongest
    exact (h.increasing hlongest).sublist hentries

/-- Fewer entries, and perhaps a new stream. -/
theorem Identity.of_begins {u u' : Uplink α} (h : u.Identity) (hinv : u.Inv)
    (hnil : u'.capture.outgoing = []) {begins : Prop} [Decidable begins]
    (hbegins : Begins u u' begins) : u'.Identity := by
  have hentries := entries_sublist_of_nil hnil hbegins.tally.1
  by_cases hb : begins
  · have htally : u'.tally = u.tally.begin := hbegins.2.trans (if_pos hb)
    refine ⟨fun entry hentry => h.valid entry (hentries.subset hentry), ?_, ?_, ?_⟩
    · rw [htally]
      exact Nat.zero_le _
    · intro _ entry hentry hstream
      have hle := (hinv.entries entry (hentries.subset hentry)).2.1
      rw [htally] at hstream
      exact absurd hstream (Nat.lt_succ_of_le hle).ne
    · intro hlongest
      rw [htally] at hlongest
      exact (h.increasing hlongest).sublist hentries
  · have htally : u'.tally = u.tally := hbegins.2.trans (if_neg hb)
    exact h.of_sublist hentries (by rw [htally])

/-- The flags of an encoded frame are known ones, also with a gap marked. -/
theorem encodedFlags_valid (firstpacket discontinuity : Bool) :
    encodedFlags firstpacket discontinuity &&& ~~~validVoiceFlags = 0 := by
  revert firstpacket discontinuity
  decide

theorem flagDiscontinuity_valid {flags : UInt8} (h : flags &&& ~~~validVoiceFlags = 0) :
    (flags ||| flagDiscontinuity) &&& ~~~validVoiceFlags = 0 := by
  have hdistrib : (flags ||| flagDiscontinuity) &&& ~~~validVoiceFlags =
      (flags &&& ~~~validVoiceFlags) ||| (flagDiscontinuity &&& ~~~validVoiceFlags) :=
    UInt8.eq_of_toBitVec_eq BitVec.and_or_distrib_right
  rw [hdistrib, h]
  decide

/-- A gap marked on a valid packet leaves it valid. -/
theorem packet_flag_valid {frame : EncodedFrame α}
    (h : validateTeamVoiceUplinkPacket frame.packet = .none) :
    validateTeamVoiceUplinkPacket
      ({ frame with flags := frame.flags ||| flagDiscontinuity } : EncodedFrame α).packet =
      .none := by
  rw [validateTeamVoiceUplinkPacket_none] at h ⊢
  exact ⟨h.1, flagDiscontinuity_valid h.2.1, h.2.2⟩

/-- A live microphone has a session. -/
theorem Gate.session_of_captureActive {gate : Gate} (h : gate.captureActive = true) :
    gate.sessionid ≠ 0 ∧ gate.membershipgeneration ≠ 0 := by
  simp only [Gate.captureActive, Bool.and_eq_true, decide_eq_true_eq] at h
  exact ⟨h.1.2, h.2⟩

/-- The packet of a frame encoded within the buffer is valid. -/
theorem encoded_valid (frame : PcmFrame α) {gate : Gate} {streamgeneration : UInt32}
    (sequence : UInt32) (firstpacket : Bool) {payload : List UInt8}
    (hactive : gate.captureActive = true) (hstream : streamgeneration ≠ 0)
    (hpayload : payload ≠ [] ∧ payload.length ≤ networkMaxOpusBytes) :
    validateTeamVoiceUplinkPacket
      (frame.encoded gate streamgeneration sequence firstpacket payload).packet = .none := by
  obtain ⟨hsession, hmembership⟩ := Gate.session_of_captureActive hactive
  rw [validateTeamVoiceUplinkPacket_none]
  refine ⟨rfl, encodedFlags_valid _ _, hsession, hmembership, hstream, ?_⟩
  show validatePayload payload = .none
  rw [validatePayload, if_neg hpayload.1, if_neg (Nat.not_lt.mpr hpayload.2)]

/-- The stream and the sequence of an entry. -/
def pair (entry : Returned) : Nat × UInt32 := (entry.stream, entry.packet.sequence)

/-- **A frame that is newer than all entries keeps their order.** -/
theorem pairwise_push {returned : List Returned} {streams : Nat}
    {outgoing : List (EncodedFrame α)}
    (h : (returned ++ outgoing.map fun frame => (⟨frame.packet, streams⟩ : Returned)).Pairwise
      Returned.Before) (config : ProcessorConfig) {encoded : EncodedFrame α}
    (hnewer : ∀ entry ∈ returned ++ outgoing.map fun frame => (⟨frame.packet, streams⟩ : Returned),
      entry.Before ⟨encoded.packet, streams⟩) :
    (returned ++ (pushOutgoing config outgoing encoded).map
      fun frame => (⟨frame.packet, streams⟩ : Returned)).Pairwise Returned.Before := by
  let before (p q : Nat × UInt32) : Prop := p.1 < q.1 ∨ p.1 = q.1 ∧ p.2 < q.2
  have hpairs : ((returned ++ outgoing.map fun frame => (⟨frame.packet, streams⟩ : Returned)).map
      pair ++ [pair ⟨encoded.packet, streams⟩]).Pairwise before := by
    rw [List.pairwise_append]
    refine ⟨List.pairwise_map.mpr h, List.pairwise_singleton _ _, fun p hp q hq => ?_⟩
    obtain ⟨entry, hentry, rfl⟩ := List.mem_map.mp hp
    obtain rfl := List.mem_singleton.mp hq
    exact hnewer entry hentry
  refine (List.pairwise_map (R := before) (f := pair)).mp ?_
  refine hpairs.sublist ?_
  rw [List.map_append, List.map_append, List.map_map, List.map_map, List.append_assoc]
  exact (List.Sublist.refl _).append
    (pushOutgoing_sublist _ (fun _ _ => rfl) config outgoing encoded)

/-- Identity when the worker encodes a frame. -/
theorem Identity.encoded {u u' : Uplink α} (h : u.Identity) (hinv : u.Inv) {e : Encoding}
    (he : u.Encodes e) {config : ProcessorConfig} {frame : PcmFrame α}
    {rest : List (PcmFrame α)} {payload : Option (List UInt8)} (hown : frame.Of e)
    (hfits : PayloadFits payload)
    (hcapture : u'.capture = encodeFrame config u.gate { u.capture with queue := rest } frame
      e.sequence e.firstpacket payload)
    (htally : u'.tally = u.tally.take payload.isSome) : u'.Identity := by
  obtain ⟨hpos, hsequence, -⟩ := hinv.live e he
  have hsession := hinv.session e he.encoding he.epoch
  have hstream : u.capture.streamgeneration ≠ 0 := hinv.generation ▸ streamNumber_ne_zero hpos
  have hcounted : u'.tally.frames ≤ u'.tally.longest := by
    rw [htally]
    exact Nat.le_max_right _ _
  have hlonger : u'.tally.longest < 2 ^ 32 → u.tally.longest < 2 ^ 32 := by
    rw [htally]
    exact fun hlongest => (Nat.le_max_left _ _).trans_lt hlongest
  have hframes : u'.tally.frames = u.tally.frames + 1 := by rw [htally]; rfl
  have hstreams : u'.tally.streams = u.tally.streams := by rw [htally]; rfl
  cases payload with
  | none =>
      have hentries : u'.entries = u.entries := by
        unfold entries
        rw [hcapture, encodeFrame_none, htally]
        rfl
      refine ⟨by rw [hentries]; exact h.valid, hcounted, fun hlongest entry hentry hstream => ?_,
        fun hlongest => by rw [hentries]; exact h.increasing (hlonger hlongest)⟩
      rw [hentries] at hentry
      rw [hstreams] at hstream
      rw [hframes]
      exact (h.below (hlonger hlongest) entry hentry hstream).trans (Nat.lt_succ_self _)
  | some payload =>
      have hpushed : u'.capture.outgoing = pushOutgoing config u.capture.outgoing
          (frame.encoded u.gate u.capture.streamgeneration e.sequence e.firstpacket payload) := by
        rw [hcapture, encodeFrame_some config e.sequence e.firstpacket payload (by exact hstream)
          (hown.1.trans hsession) (hown.2.trans he.epoch) he.running he.active]
      have hentries : u'.entries = u.tally.returned ++
          u'.capture.outgoing.map fun frame => (⟨frame.packet, u.tally.streams⟩ : Returned) := by
        unfold entries
        rw [htally]
        rfl
      have hmem : ∀ f ∈ u.capture.outgoing, (⟨f.packet, u.tally.streams⟩ : Returned) ∈ u.entries :=
        fun f hf => List.mem_append_right _ (List.mem_map_of_mem hf)
      have hsmall : u'.tally.longest < 2 ^ 32 → e.sequence.toNat = u.tally.frames := by
        intro hlongest
        have hsmall : u.tally.frames < 2 ^ 32 := by omega
        rw [hsequence]
        exact UInt32.toNat_ofNat_of_lt' hsmall
      refine ⟨fun entry hentry => ?_, hcounted, fun hlongest entry hentry hstream => ?_,
        fun hlongest => ?_⟩
      · rw [hentries] at hentry
        rcases List.mem_append.mp hentry with hreturned | hnew
        · exact h.valid entry (List.mem_append_left _ hreturned)
        · obtain ⟨f, hf, rfl⟩ := List.mem_map.mp hnew
          rw [hpushed] at hf
          exact forall_pushOutgoing
            (p := fun f => validateTeamVoiceUplinkPacket f.packet = .none)
            (fun _ => packet_flag_valid) (fun f hf => h.valid _ (hmem f hf))
            (encoded_valid frame e.sequence e.firstpacket he.active hstream (hfits payload rfl))
            f hf
      · rw [hentries] at hentry
        rw [hstreams] at hstream
        rw [hframes]
        rcases List.mem_append.mp hentry with hreturned | hnew
        · exact (h.below (hlonger hlongest) entry (List.mem_append_left _ hreturned) hstream).trans
            (Nat.lt_succ_self _)
        · obtain ⟨f, hf, rfl⟩ := List.mem_map.mp hnew
          rw [hpushed] at hf
          refine forall_pushOutgoing (p := fun f => f.sequence.toNat < u.tally.frames + 1)
            (fun _ hf => hf) (fun f hf => ?_) ?_ f hf
          · exact (h.below (hlonger hlongest) _ (hmem f hf) rfl).trans (Nat.lt_succ_self _)
          · show e.sequence.toNat < u.tally.frames + 1
            rw [hsmall hlongest]
            exact Nat.lt_succ_self _
      · rw [hentries, hpushed]
        refine pairwise_push (h.increasing (hlonger hlongest)) config fun entry hentry => ?_
        rcases Nat.lt_or_eq_of_le (hinv.entries entry hentry).2.1 with hlt | heq
        · exact .inl hlt
        · refine .inr ⟨heq, ?_⟩
          have hbelow := h.below (hlonger hlongest) entry hentry heq
          show entry.packet.sequence < e.sequence
          rw [UInt32.lt_iff_toNat_lt, hsmall hlongest]
          exact hbelow

/-- **Step lemma.** -/
theorem Identity.effect {u u' : Uplink α} (h : u.Identity) (hinv : u.Inv)
    (heffect : Effect Fits u u') : u'.Identity := by
  cases heffect with
  | quiet hquiet =>
      exact h.of_sublist (entries_sublist (by rw [hquiet.capture]) hquiet.tally)
        (by rw [hquiet.tally])
  | changed hepoch heven hcapture hencoding htally =>
      exact h.of_sublist (entries_sublist_of_nil (by rw [hcapture]) (by rw [htally]))
        (by rw [htally])
  | stopped begins hgate hcapture hencoding hbegins =>
      exact h.of_begins hinv (by rw [hcapture]) hbegins
  | started hoff hgate hcapture hencoding htally =>
      exact h.of_sublist (entries_sublist (by rw [hcapture]) htally) (by rw [htally])
  | entered hnone hgate hcapture hencoding hbegins =>
      exact h.of_begins hinv (by rw [hcapture]; exact hinv.outgoing_nil (not_encodes_of_none hnone))
        hbegins
  | noticed e hold hnew hgate hcapture hencoding htally =>
      exact h.of_sublist (entries_sublist (by rw [hcapture]) htally) (by rw [htally])
  | observed e hold hsession hnew hgate hcapture hencoding hbegins =>
      exact h.of_begins hinv
        (by rw [hcapture]; exact hinv.outgoing_nil_of_stale hold hnew.symm) hbegins
  | discarded hoff hgate hcapture hencoding htally =>
      exact h.of_sublist (entries_sublist (by rw [hcapture]) htally) (by rw [htally])
  | skipped e hold frame rest hqueue hother hgate hcapture hencoding htally =>
      exact h.of_sublist (entries_sublist (by rw [hcapture]) htally) (by rw [htally])
  | encoded e hold config frame rest payload hqueue hown hrunning hactive hsession hepoch hok hgate
      hcapture hencoding htally =>
      exact h.encoded hinv ⟨hold, hepoch.symm, hrunning, hactive⟩ hown hok hcapture htally
  | captured input hgate hcapture hencoding htally =>
      obtain ⟨-, -, -, houtgoing⟩ := pushCaptured_frame u.processor input
      exact h.of_sublist (entries_sublist (by rw [hcapture, houtgoing]) htally) (by rw [htally])
  | popped hrunning hactive hgate hcapture hencoding htally =>
      obtain ⟨hentries, -, hsame⟩ := hinv.popped_entries hcapture htally
      exact h.of_sublist (by rw [hentries]) hsame

/-- A new processor satisfies both invariants. -/
theorem start_identity (config : ProcessorConfig) : (start config : Uplink α).Identity where
  valid _ h := absurd h List.not_mem_nil
  counted := Nat.le_refl _
  below _ _ h := absurd h List.not_mem_nil
  increasing _ := List.Pairwise.nil

/-- The packets that an uplink returned, oldest first. -/
def packets (u : Uplink α) : List UplinkPacket := u.tally.returned.map Returned.packet

/-- **Uplink stream identity.**  Whatever the order of calls, callbacks and
worker steps, every packet returned is valid, and the pairs of stream generation
and sequence of the packets returned only grow. -/
theorem returned_increasing {config : ProcessorConfig} {u : Uplink α}
    (h : Exec.ReachedAlong step (fun _ call => EncodesWithin call) (start config) u)
    (hstreams : u.tally.streams < 2 ^ 32 - 1) (hframes : u.tally.longest < 2 ^ 32) :
    (∀ packet ∈ u.packets, validateTeamVoiceUplinkPacket packet = .none) ∧
      u.packets.Pairwise fun p q => p.streamgeneration < q.streamgeneration ∨
        p.streamgeneration = q.streamgeneration ∧ p.sequence < q.sequence := by
  obtain ⟨hinv, hidentity⟩ : u.Inv ∧ u.Identity :=
    invariant_along (fun v call hcall => allows_fits v call hcall) h (fun v => v.Inv ∧ v.Identity)
      ⟨start_inv config, start_identity config⟩
      fun v v' hv heffect => ⟨hv.1.effect heffect, hv.2.effect hv.1 heffect⟩
  have hreturned : u.tally.returned.Sublist u.entries := List.sublist_append_left _ _
  constructor
  · intro packet hpacket
    obtain ⟨entry, hentry, rfl⟩ := List.mem_map.mp hpacket
    exact hidentity.valid entry (hreturned.subset hentry)
  · refine List.pairwise_map.mpr ?_
    refine ((hidentity.increasing hframes).sublist hreturned).imp_of_mem fun hp hq hbefore => ?_
    obtain ⟨-, hpstream, hpgeneration⟩ := hinv.entries _ (hreturned.subset hp)
    obtain ⟨-, hqstream, hqgeneration⟩ := hinv.entries _ (hreturned.subset hq)
    rw [hpgeneration, hqgeneration]
    rcases hbefore with hlt | ⟨heq, hlt⟩
    · refine .inl ?_
      rw [UInt32.lt_iff_toNat_lt, streamNumber_small (by omega), streamNumber_small (by omega)]
      exact hlt
    · exact .inr ⟨by rw [heq], hlt⟩

/-- A worker step whose encoder answers one byte for every frame. -/
def encodesByte : Iteration := { encode := fun _ => some [1] }

theorem encodesByte_within : EncodesWithin (.workerIteration encodesByte : ProcessorCall α) := by
  rintro k bytes ⟨⟩
  decide

/-- Two frames of a stream, a restart, and a frame of the next. -/
def restartedSpeech : List (ProcessorCall Unit) :=
  let frame : List Unit := List.replicate frameSamples ()
  [.setSession 7 3 9, .setTransmitting true, .start true, .workerPrelude 0,
    .pushCaptured frame, .workerIteration encodesByte, .popOutgoingPacket,
    .pushCaptured frame, .workerIteration encodesByte, .popOutgoingPacket,
    .stop, .start true, .workerPrelude 0,
    .pushCaptured frame, .workerIteration encodesByte, .popOutgoingPacket]

theorem returned_increasing_restarted :
    ∃ u : Uplink Unit, Exec.exec step (start {}) restartedSpeech = some u ∧
      (u.packets.map fun packet => (packet.streamgeneration, packet.sequence)) =
        [(1, 0), (1, 1), (2, 0)] ∧
      (∀ packet ∈ u.packets, validateTeamVoiceUplinkPacket packet = .none) ∧
      u.packets.Pairwise fun p q => p.streamgeneration < q.streamgeneration ∨
        p.streamgeneration = q.streamgeneration ∧ p.sequence < q.sequence := by
  have hany : (Exec.exec step (start {}) restartedSpeech).any (fun u : Uplink Unit =>
      decide ((u.packets.map fun packet => (packet.streamgeneration, packet.sequence)) =
        [(1, 0), (1, 1), (2, 0)] ∧
      u.tally.streams < 2 ^ 32 - 1 ∧ u.tally.longest < 2 ^ 32)) = true := by
    decide +kernel
  obtain ⟨u, hrun, hu⟩ := Exec.exec_any hany
  obtain ⟨hpackets, hstreams, hlongest⟩ := of_decide_eq_true hu
  have hfits : ∀ call ∈ restartedSpeech, EncodesWithin call := by
    simp only [restartedSpeech, List.forall_mem_cons, encodesByte_within]
    simp [EncodesWithin]
  exact ⟨u, hrun, hpackets, returned_increasing ⟨_, hrun, Exec.along_of_forall hfits _⟩ hstreams
    hlongest⟩

end Uplink

end Voice
