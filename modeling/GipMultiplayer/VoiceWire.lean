import GipMultiplayer.Wire
import GipMultiplayer.VoicePackets

/-!
# The voice wire format

The serializers of the three voice packets.  An uplink and a downlink are laid
out alike: a header of fixed width, the size of the payload, and the payload to
the end of the buffer.  They are two instances of one format.

* `FrameFormat`, `uplink`, `downlink` — the format and its instances;
* `FrameFormat.deserialize_ok` — what is accepted, and as which packet;
* `FrameFormat.deserialize_sound` — no read goes past the end;
* `sessionDeserialize_sound` — the same for the control packet;
* `voice_wire` — the format is a bijection on valid packets.
-/

namespace Voice

open Wire

/-- What a serializer answers: the null pointer, silently or with an error
reported, or a result. -/
inductive Reply (α : Type)
  | null
  | fail (error : TeamVoicePacketError)
  | ok (result : α)
  deriving DecidableEq, Repr

/-- A packet that ends in a payload. -/
structure FrameFormat (P : Type) where
  /-- Bytes before the payload, its size included. -/
  headerBytes : Nat
  validate : P → TeamVoicePacketError
  writeHeader : Layout → P → Buffer → Buffer
  readHeader : Layout → Buffer → P × Buffer
  payload : P → List UInt8
  withPayload : P → List UInt8 → P

namespace FrameFormat

variable {P : Type}

/-- `SerializeTyped` of either format. -/
def serializeTyped (format : FrameFormat P) (layout : Layout) (packet : Option P)
    (buffer : Buffer) : Reply Buffer :=
  match packet with
  | none => .null
  | some packet =>
      if format.validate packet ≠ .none then .fail (format.validate packet)
      else
        let buffer := format.writeHeader layout packet buffer
        let buffer := buffer.writeInt layout (UInt16.ofNat (format.payload packet).length)
        let buffer := buffer.write (format.payload packet)
        let (failed, buffer) := buffer.getAndClearLastError
        if failed then .fail .bufferError else .ok buffer

/-- The body of `DeserializeTyped`, with the buffer it leaves. -/
def deserialize (format : FrameFormat P) (layout : Layout) (buffer : Buffer) : Reply P × Buffer :=
  if buffer.readableBytes < format.headerBytes then (.fail .truncated, buffer)
  else
    let (packet, buffer) := format.readHeader layout buffer
    let (payloadsize, buffer) := buffer.readInt layout UInt16
    let (failed, buffer) := buffer.getAndClearLastError
    if failed then (.fail .bufferError, buffer)
    else if payloadsize = 0 then (.fail .emptyPayload, buffer)
    else if networkMaxOpusBytes < payloadsize.toNat then (.fail .oversizedPayload, buffer)
    else if buffer.readableBytes < payloadsize.toNat then (.fail .truncated, buffer)
    else if payloadsize.toNat < buffer.readableBytes then (.fail .trailingData, buffer)
    else
      let (payload, buffer) := buffer.read payloadsize.toNat
      let (failed, buffer) := buffer.getAndClearLastError
      if failed then (.fail .bufferError, buffer)
      else
        let packet := format.withPayload packet payload
        if format.validate packet ≠ .none then (.fail (format.validate packet), buffer)
        else (.ok packet, buffer)

/-- `DeserializeTyped` of either format. -/
def deserializeTyped (format : FrameFormat P) (layout : Layout) (buffer : Option Buffer) :
    Reply P :=
  match buffer with
  | none => .fail .truncated
  | some buffer => (format.deserialize layout buffer).1

end FrameFormat

/-! ## The source's formats -/

/-- The fields of an uplink before its payload size, as they are written. -/
def UplinkPacket.writeHeader (layout : Layout) (packet : UplinkPacket) (buffer : Buffer) :
    Buffer :=
  let buffer := buffer.writeInt layout packet.version
  let buffer := buffer.writeInt layout packet.flags
  let buffer := buffer.writeInt layout packet.sessionid
  let buffer := buffer.writeInt layout packet.membershipgeneration
  let buffer := buffer.writeInt layout packet.streamgeneration
  let buffer := buffer.writeInt layout packet.sequence
  buffer.writeInt layout packet.sampleposition

/-- The fields of an uplink before its payload size, as they are read. -/
def UplinkPacket.readHeader (layout : Layout) (buffer : Buffer) : UplinkPacket × Buffer :=
  let (version, buffer) := buffer.readInt layout UInt8
  let (flags, buffer) := buffer.readInt layout UInt8
  let (sessionid, buffer) := buffer.readInt layout UInt64
  let (membershipgeneration, buffer) := buffer.readInt layout UInt32
  let (streamgeneration, buffer) := buffer.readInt layout UInt32
  let (sequence, buffer) := buffer.readInt layout UInt32
  let (sampleposition, buffer) := buffer.readInt layout UInt64
  ({ version, flags, sessionid, membershipgeneration, streamgeneration, sequence,
     sampleposition }, buffer)

/-- `gTeamVoiceUplinkSerializer`. -/
def uplink : FrameFormat UplinkPacket where
  headerBytes := 1 + 1 + 8 + 4 + 4 + 4 + 8 + 2
  validate := validateTeamVoiceUplinkPacket
  writeHeader := UplinkPacket.writeHeader
  readHeader := UplinkPacket.readHeader
  payload := UplinkPacket.payload
  withPayload packet payload := { packet with payload }

/-- The fields of a downlink before its payload size, as they are written. -/
def DownlinkPacket.writeHeader (layout : Layout) (packet : DownlinkPacket) (buffer : Buffer) :
    Buffer :=
  let buffer := buffer.writeInt layout packet.version
  let buffer := buffer.writeInt layout packet.flags
  let buffer := buffer.writeInt layout packet.sessionid
  let buffer := buffer.writeInt layout packet.recipientgeneration
  let buffer := buffer.writeInt layout packet.speakerid
  let buffer := buffer.writeInt layout packet.speakergeneration
  let buffer := buffer.writeInt layout packet.streamgeneration
  let buffer := buffer.writeInt layout packet.sequence
  buffer.writeInt layout packet.sampleposition

/-- The fields of a downlink before its payload size, as they are read. -/
def DownlinkPacket.readHeader (layout : Layout) (buffer : Buffer) : DownlinkPacket × Buffer :=
  let (version, buffer) := buffer.readInt layout UInt8
  let (flags, buffer) := buffer.readInt layout UInt8
  let (sessionid, buffer) := buffer.readInt layout UInt64
  let (recipientgeneration, buffer) := buffer.readInt layout UInt32
  let (speakerid, buffer) := buffer.readInt layout UInt64
  let (speakergeneration, buffer) := buffer.readInt layout UInt32
  let (streamgeneration, buffer) := buffer.readInt layout UInt32
  let (sequence, buffer) := buffer.readInt layout UInt32
  let (sampleposition, buffer) := buffer.readInt layout UInt64
  ({ version, flags, sessionid, recipientgeneration, speakerid, speakergeneration,
     streamgeneration, sequence, sampleposition }, buffer)

/-- `gTeamVoiceDownlinkSerializer`. -/
def downlink : FrameFormat DownlinkPacket where
  headerBytes := 1 + 1 + 8 + 4 + 8 + 4 + 4 + 4 + 8 + 2
  validate := validateTeamVoiceDownlinkPacket
  writeHeader := DownlinkPacket.writeHeader
  readHeader := DownlinkPacket.readHeader
  payload := DownlinkPacket.payload
  withPayload packet payload := { packet with payload }

/-- `SESSION_PACKET_BYTES`. -/
def sessionPacketBytes : Nat := 1 + 1 + 8 + 4 + 8

/-- `gTeamVoiceSessionSerializer::SerializeTyped`. -/
def sessionSerializeTyped (layout : Layout) (packet : Option SessionPacket) (buffer : Buffer) :
    Reply Buffer :=
  match packet with
  | none => .null
  | some packet =>
      if validateTeamVoiceSessionPacket packet ≠ .none then
        .fail (validateTeamVoiceSessionPacket packet)
      else
        let buffer := buffer.writeInt layout packet.version
        let buffer := buffer.writeInt layout (if packet.enabled then 1 else 0 : UInt8)
        let buffer := buffer.writeInt layout packet.sessionid
        let buffer := buffer.writeInt layout packet.membershipgeneration
        let buffer := buffer.writeInt layout packet.playerid
        let (failed, buffer) := buffer.getAndClearLastError
        if failed then .fail .bufferError else .ok buffer

/-- The body of `gTeamVoiceSessionSerializer::DeserializeTyped`. -/
def sessionDeserialize (layout : Layout) (buffer : Buffer) : Reply SessionPacket × Buffer :=
  if buffer.readableBytes < sessionPacketBytes then (.fail .truncated, buffer)
  else if sessionPacketBytes < buffer.readableBytes then (.fail .trailingData, buffer)
  else
    let (version, buffer) := buffer.readInt layout UInt8
    let (enabled, buffer) := buffer.readInt layout UInt8
    let (sessionid, buffer) := buffer.readInt layout UInt64
    let (membershipgeneration, buffer) := buffer.readInt layout UInt32
    let (playerid, buffer) := buffer.readInt layout UInt64
    let packet : SessionPacket :=
      { version, enabled := enabled ≠ 0, sessionid, membershipgeneration, playerid }
    let (failed, buffer) := buffer.getAndClearLastError
    if failed then (.fail .bufferError, buffer)
    else if validateTeamVoiceSessionPacket packet ≠ .none then
      (.fail (validateTeamVoiceSessionPacket packet), buffer)
    else (.ok packet, buffer)

/-- `gTeamVoiceSessionSerializer::DeserializeTyped`. -/
def sessionDeserializeTyped (layout : Layout) (buffer : Option Buffer) : Reply SessionPacket :=
  match buffer with
  | none => .fail .truncated
  | some buffer => (sessionDeserialize layout buffer).1

/-! ## A lawful format -/

/-- The header is a sequence of bytes that the format reads as it wrote it, and
the rest of the packet is its payload. -/
structure FrameFormat.Lawful {P : Type} (format : FrameFormat P) (layout : Layout)
    (header : P → List UInt8) : Prop where
  write : ∀ packet bytes,
    format.writeHeader layout packet (.of bytes) = .of (bytes ++ header packet)
  read : ∀ packet rest, format.readHeader layout (.of (header packet ++ rest)) =
    (format.withPayload packet [], .of rest)
  length : ∀ packet, (header packet).length + 2 = format.headerBytes
  exists_header : ∀ bytes n, bytes.length + 2 = format.headerBytes + n →
    ∃ packet rest, bytes = header packet ++ rest ∧ rest.length = n
  header_withPayload : ∀ packet payload, header (format.withPayload packet payload) = header packet
  payload_withPayload : ∀ packet payload, format.payload (format.withPayload packet payload) =
    payload
  withPayload_withPayload : ∀ packet payload payload',
    format.withPayload (format.withPayload packet payload) payload' =
      format.withPayload packet payload'
  withPayload_payload : ∀ packet, format.withPayload packet (format.payload packet) = packet
  valid_payload : ∀ packet, format.validate packet = .none →
    validatePayload (format.payload packet) = .none

/-- A valid payload has one to 256 bytes. -/
theorem validatePayload_none {payload : List UInt8} :
    validatePayload payload = .none ↔
      0 < payload.length ∧ payload.length ≤ networkMaxOpusBytes := by
  unfold validatePayload
  split_ifs with hempty hlong
  · simp [hempty]
  · simp only [false_iff]
    omega
  · simp only [true_iff]
    exact ⟨List.length_pos_iff.mpr hempty, Nat.le_of_not_lt hlong⟩

/-- The bytes of an uplink's header. -/
def UplinkPacket.header (layout : Layout) (packet : UplinkPacket) : List UInt8 :=
  encode layout packet.version ++ (encode layout packet.flags ++
    (encode layout packet.sessionid ++ (encode layout packet.membershipgeneration ++
      (encode layout packet.streamgeneration ++ (encode layout packet.sequence ++
        encode layout packet.sampleposition)))))

/-- The bytes of a downlink's header. -/
def DownlinkPacket.header (layout : Layout) (packet : DownlinkPacket) : List UInt8 :=
  encode layout packet.version ++ (encode layout packet.flags ++
    (encode layout packet.sessionid ++ (encode layout packet.recipientgeneration ++
      (encode layout packet.speakerid ++ (encode layout packet.speakergeneration ++
        (encode layout packet.streamgeneration ++ (encode layout packet.sequence ++
          encode layout packet.sampleposition)))))))

theorem uplink_lawful (layout : Layout) : uplink.Lawful layout (UplinkPacket.header layout) where
  write packet bytes := by
    simp [uplink, UplinkPacket.writeHeader, UplinkPacket.header]
  read packet rest := by
    simp [uplink, UplinkPacket.readHeader, UplinkPacket.header]
  length packet := by
    simp only [UplinkPacket.header, List.length_append, encode_length]
    rfl
  exists_header bytes n h := by
    have hbytes : bytes.length = 1 + (1 + (8 + (4 + (4 + (4 + (8 + n)))))) := by
      change bytes.length + 2 = (1 + 1 + 8 + 4 + 4 + 4 + 8 + 2) + n at h
      omega
    obtain ⟨version, rest₁, rfl, hversion⟩ := exists_encode layout UInt8 hbytes
    obtain ⟨flags, rest₂, rfl, hflags⟩ := exists_encode layout UInt8 hversion
    obtain ⟨sessionid, rest₃, rfl, hsessionid⟩ := exists_encode layout UInt64 hflags
    obtain ⟨membershipgeneration, rest₄, rfl, hmembershipgeneration⟩ :=
      exists_encode layout UInt32 hsessionid
    obtain ⟨streamgeneration, rest₅, rfl, hstreamgeneration⟩ :=
      exists_encode layout UInt32 hmembershipgeneration
    obtain ⟨sequence, rest₆, rfl, hsequence⟩ := exists_encode layout UInt32 hstreamgeneration
    obtain ⟨sampleposition, rest₇, rfl, hsampleposition⟩ := exists_encode layout UInt64 hsequence
    refine ⟨{ version, flags, sessionid, membershipgeneration, streamgeneration, sequence,
              sampleposition }, rest₇, ?_, hsampleposition⟩
    simp only [UplinkPacket.header, List.append_assoc]
  header_withPayload _ _ := rfl
  payload_withPayload _ _ := rfl
  withPayload_withPayload _ _ _ := rfl
  withPayload_payload _ := rfl
  valid_payload _ h := (validateTeamVoiceUplinkPacket_none.mp h).2.2.2.2.2

theorem downlink_lawful (layout : Layout) :
    downlink.Lawful layout (DownlinkPacket.header layout) where
  write packet bytes := by
    simp [downlink, DownlinkPacket.writeHeader, DownlinkPacket.header]
  read packet rest := by
    simp [downlink, DownlinkPacket.readHeader, DownlinkPacket.header]
  length packet := by
    simp only [DownlinkPacket.header, List.length_append, encode_length]
    rfl
  exists_header bytes n h := by
    have hbytes : bytes.length = 1 + (1 + (8 + (4 + (8 + (4 + (4 + (4 + (8 + n)))))))) := by
      change bytes.length + 2 = (1 + 1 + 8 + 4 + 8 + 4 + 4 + 4 + 8 + 2) + n at h
      omega
    obtain ⟨version, rest₁, rfl, hversion⟩ := exists_encode layout UInt8 hbytes
    obtain ⟨flags, rest₂, rfl, hflags⟩ := exists_encode layout UInt8 hversion
    obtain ⟨sessionid, rest₃, rfl, hsessionid⟩ := exists_encode layout UInt64 hflags
    obtain ⟨recipientgeneration, rest₄, rfl, hrecipientgeneration⟩ :=
      exists_encode layout UInt32 hsessionid
    obtain ⟨speakerid, rest₅, rfl, hspeakerid⟩ := exists_encode layout UInt64 hrecipientgeneration
    obtain ⟨speakergeneration, rest₆, rfl, hspeakergeneration⟩ :=
      exists_encode layout UInt32 hspeakerid
    obtain ⟨streamgeneration, rest₇, rfl, hstreamgeneration⟩ :=
      exists_encode layout UInt32 hspeakergeneration
    obtain ⟨sequence, rest₈, rfl, hsequence⟩ := exists_encode layout UInt32 hstreamgeneration
    obtain ⟨sampleposition, rest₉, rfl, hsampleposition⟩ := exists_encode layout UInt64 hsequence
    refine ⟨{ version, flags, sessionid, recipientgeneration, speakerid, speakergeneration,
              streamgeneration, sequence, sampleposition }, rest₉, ?_, hsampleposition⟩
    simp only [DownlinkPacket.header, List.append_assoc]
  header_withPayload _ _ := rfl
  payload_withPayload _ _ := rfl
  withPayload_withPayload _ _ _ := rfl
  withPayload_payload _ := rfl
  valid_payload _ h := (validateTeamVoiceDownlinkPacket_none.mp h).2.2.2.2.2.2.2

/-! ## What is written and what is read -/

namespace FrameFormat

variable {P : Type} {format : FrameFormat P} {layout : Layout} {header : P → List UInt8}

/-- The bytes of a packet. -/
def wire (format : FrameFormat P) (layout : Layout) (header : P → List UInt8) (packet : P) :
    List UInt8 :=
  header packet ++
    (encode layout (UInt16.ofNat (format.payload packet).length) ++ format.payload packet)

/-- **What is sent.**  A valid packet is appended to the buffer, another one is
refused with its error. -/
theorem serializeTyped_eq (h : format.Lawful layout header) (packet : P) (bytes : List UInt8) :
    format.serializeTyped layout (some packet) (.of bytes) =
      if format.validate packet = .none then
        .ok (.of (bytes ++ format.wire layout header packet))
      else .fail (format.validate packet) := by
  unfold serializeTyped
  by_cases hvalid : format.validate packet = .none
  · simp only [hvalid, ne_eq, not_true, if_false, if_true, h.write, Buffer.writeInt_of,
      Buffer.write_of, Buffer.getAndClearLastError_of, Bool.false_eq_true, wire, List.append_assoc]
  · simp only [ne_eq, hvalid, not_false_iff, if_true, if_false]

/-- A buffer with room for the header, read up to the payload. -/
theorem deserialize_header (h : format.Lawful layout header) (packet : P) (size : UInt16)
    (payload : List UInt8) :
    format.deserialize layout (.of (header packet ++ (encode layout size ++ payload))) =
      if size = 0 then (.fail .emptyPayload, .of payload)
      else if networkMaxOpusBytes < size.toNat then (.fail .oversizedPayload, .of payload)
      else if payload.length < size.toNat then (.fail .truncated, .of payload)
      else if size.toNat < payload.length then (.fail .trailingData, .of payload)
      else if format.validate (format.withPayload packet payload) ≠ .none then
        (.fail (format.validate (format.withPayload packet payload)), .of [])
      else (.ok (format.withPayload packet payload), .of []) := by
  have hlength : ¬ (header packet ++ (encode layout size ++ payload)).length <
      format.headerBytes := by
    have hheader := h.length packet
    have hsize : (encode layout size).length = 2 := encode_length layout size
    rw [List.length_append, List.length_append]
    omega
  unfold deserialize
  simp only [Buffer.readableBytes_of, if_neg hlength, h.read, Buffer.readInt_append,
    Buffer.getAndClearLastError_of, Bool.false_eq_true, if_false]
  by_cases hfits : payload.length = size.toNat
  · have hread : (Buffer.of payload).read size.toNat = (payload, .of []) := by
      have hall := Buffer.read_append payload []
      rwa [List.append_nil, hfits] at hall
    simp only [hread, Buffer.getAndClearLastError_of, Bool.false_eq_true, if_false,
      h.withPayload_withPayload]
  · split_ifs
    all_goals first | rfl | omega

/-- With room for the header, a byte string is one, a size and the rest. -/
theorem exists_fields (h : format.Lawful layout header) {bytes : List UInt8}
    (hroom : format.headerBytes ≤ bytes.length) :
    ∃ (packet : P) (size : UInt16) (payload : List UInt8),
      bytes = header packet ++ (encode layout size ++ payload) := by
  obtain ⟨packet, rest, rfl, hrest⟩ := h.exists_header bytes
    (2 + (bytes.length - format.headerBytes)) (by omega)
  obtain ⟨size, payload, rfl, -⟩ := exists_encode layout UInt16 hrest
  exact ⟨packet, size, payload, rfl⟩

theorem deserialize_short {bytes : List UInt8} (hshort : bytes.length < format.headerBytes) :
    format.deserialize layout (.of bytes) = (.fail .truncated, .of bytes) := by
  rw [deserialize, Buffer.readableBytes_of, if_pos hshort]

/-- **No read goes past the end**, and no error is left behind. -/
theorem deserialize_sound (h : format.Lawful layout header) (bytes : List UInt8) :
    (format.deserialize layout (.of bytes)).2.Sound := by
  rcases Nat.lt_or_ge bytes.length format.headerBytes with hshort | hroom
  · rw [deserialize_short hshort]
    exact ⟨rfl, rfl⟩
  · obtain ⟨packet, size, payload, rfl⟩ := exists_fields h hroom
    rw [deserialize_header h]
    split_ifs
    all_goals exact ⟨rfl, rfl⟩

/-- **The round trip.**  The bytes of a valid packet are read back as it. -/
theorem deserialize_wire (h : format.Lawful layout header) {packet : P}
    (hvalid : format.validate packet = .none) :
    format.deserialize layout (.of (format.wire layout header packet)) =
      (.ok packet, .of []) := by
  obtain ⟨hpos, hle⟩ := validatePayload_none.mp (h.valid_payload packet hvalid)
  have hsize : (UInt16.ofNat (format.payload packet).length).toNat =
      (format.payload packet).length := by
    refine UInt16.toNat_ofNat_of_lt' (Nat.lt_of_le_of_lt hle ?_)
    decide
  have hnonzero : UInt16.ofNat (format.payload packet).length ≠ 0 := by
    intro hzero
    rw [hzero] at hsize
    exact absurd hsize.symm (Nat.pos_iff_ne_zero.mp hpos)
  rw [wire, deserialize_header h, if_neg hnonzero, hsize, if_neg (Nat.not_lt.mpr hle),
    if_neg (Nat.lt_irrefl _), if_neg (Nat.lt_irrefl _), h.withPayload_payload, hvalid]
  exact if_neg (absurd rfl)

/-- **What is accepted.**  A byte string is accepted as a packet exactly when
the packet is valid and the string is its bytes. -/
theorem deserialize_ok (h : format.Lawful layout header) {bytes : List UInt8} {packet : P} :
    (format.deserialize layout (.of bytes)).1 = .ok packet ↔
      format.validate packet = .none ∧ bytes = format.wire layout header packet := by
  constructor
  · intro hok
    rcases Nat.lt_or_ge bytes.length format.headerBytes with hshort | hroom
    · rw [deserialize_short hshort] at hok
      exact absurd hok nofun
    · obtain ⟨packet', size, payload, rfl⟩ := exists_fields h hroom
      rw [deserialize_header h] at hok
      split_ifs at hok with hempty hlong hshort htrailing hinvalid
      obtain rfl := Reply.ok.inj hok
      have hlength : payload.length = size.toNat := by omega
      refine ⟨Classical.not_not.mp hinvalid, ?_⟩
      rw [wire, h.header_withPayload, h.payload_withPayload, hlength, UInt16.ofNat_toNat]
  · rintro ⟨hvalid, rfl⟩
    rw [deserialize_wire h hvalid]

/-- The format is a bijection between valid packets and accepted byte strings,
and reading stays within the bytes. -/
structure Bijective (format : FrameFormat P) (layout : Layout) : Prop where
  /-- What is written for a valid packet is read back as it. -/
  roundTrip : ∀ packet, format.validate packet = .none →
    ∃ sent, format.serializeTyped layout (some packet) (.of []) = .ok sent ∧
      format.deserializeTyped layout (some sent) = .ok packet
  /-- Only what is written for a valid packet is accepted. -/
  accepts : ∀ bytes, (∃ packet, format.deserializeTyped layout (some (.of bytes)) = .ok packet) ↔
    ∃ packet, format.validate packet = .none ∧
      format.serializeTyped layout (some packet) (.of []) = .ok (.of bytes)
  /-- No read goes past the end. -/
  inBounds : ∀ bytes, (format.deserialize layout (.of bytes)).2.overread = false

theorem Lawful.bijective (h : format.Lawful layout header) : format.Bijective layout where
  roundTrip packet hvalid := by
    refine ⟨.of (format.wire layout header packet), ?_, ?_⟩
    · rw [serializeTyped_eq h, if_pos hvalid]
      rfl
    · exact congrArg Prod.fst (deserialize_wire h hvalid)
  accepts bytes := by
    constructor
    · rintro ⟨packet, hok⟩
      obtain ⟨hvalid, rfl⟩ := (deserialize_ok h).mp hok
      refine ⟨packet, hvalid, ?_⟩
      rw [serializeTyped_eq h, if_pos hvalid]
      rfl
    · rintro ⟨packet, hvalid, hsent⟩
      rw [serializeTyped_eq h, if_pos hvalid] at hsent
      have hbytes : format.wire layout header packet = bytes :=
        congrArg Buffer.unread (Reply.ok.inj hsent)
      exact ⟨packet, (deserialize_ok h).mpr ⟨hvalid, hbytes.symm⟩⟩
  inBounds bytes := (deserialize_sound h bytes).overread

end FrameFormat

/-! ## The control packet -/

/-- The bytes of a control packet, whatever stands for its flag. -/
def sessionFields (layout : Layout) (packet : SessionPacket) (enabled : UInt8) : List UInt8 :=
  encode layout packet.version ++ (encode layout enabled ++ (encode layout packet.sessionid ++
    (encode layout packet.membershipgeneration ++ encode layout packet.playerid)))

theorem sessionFields_length (layout : Layout) (packet : SessionPacket) (enabled : UInt8) :
    (sessionFields layout packet enabled).length = sessionPacketBytes := by
  simp only [sessionFields, List.length_append, encode_length]
  rfl

/-- A control of the right length: any byte but zero enables. -/
theorem sessionDeserialize_fields (layout : Layout) (packet : SessionPacket) (enabled : UInt8)
    (henabled : packet.enabled = decide (enabled ≠ 0)) :
    sessionDeserialize layout (.of (sessionFields layout packet enabled)) =
      if validateTeamVoiceSessionPacket packet ≠ .none then
        (.fail (validateTeamVoiceSessionPacket packet), .of [])
      else (.ok packet, .of []) := by
  have hlength := sessionFields_length layout packet enabled
  have hlast := Buffer.readInt_append layout packet.playerid []
  rw [List.append_nil] at hlast
  unfold sessionDeserialize
  rw [Buffer.readableBytes_of, if_neg (by omega), if_neg (by omega)]
  simp only [sessionFields, Buffer.readInt_append, hlast, ← henabled,
    Buffer.getAndClearLastError_of, Bool.false_eq_true, if_false]

theorem exists_sessionFields (layout : Layout) {bytes : List UInt8}
    (hlength : bytes.length = sessionPacketBytes) :
    ∃ (packet : SessionPacket) (enabled : UInt8), packet.enabled = decide (enabled ≠ 0) ∧
      bytes = sessionFields layout packet enabled := by
  have hbytes : bytes.length = 1 + (1 + (8 + (4 + (8 + 0)))) := hlength
  obtain ⟨version, rest₁, rfl, hversion⟩ := exists_encode layout UInt8 hbytes
  obtain ⟨enabled, rest₂, rfl, henabled⟩ := exists_encode layout UInt8 hversion
  obtain ⟨sessionid, rest₃, rfl, hsessionid⟩ := exists_encode layout UInt64 henabled
  obtain ⟨membershipgeneration, rest₄, rfl, hmembership⟩ := exists_encode layout UInt32 hsessionid
  obtain ⟨playerid, rest₅, rfl, hplayerid⟩ := exists_encode layout UInt64 hmembership
  obtain rfl := List.length_eq_zero_iff.mp hplayerid
  refine ⟨{ version, enabled := enabled ≠ 0, sessionid, membershipgeneration, playerid }, enabled,
    rfl, ?_⟩
  rw [sessionFields, List.append_nil]

/-- **A control of another length is refused**, unread. -/
theorem sessionDeserialize_length (layout : Layout) {bytes : List UInt8}
    (hlength : bytes.length ≠ sessionPacketBytes) :
    ∃ error, sessionDeserialize layout (.of bytes) = (.fail error, .of bytes) := by
  rw [sessionDeserialize, Buffer.readableBytes_of]
  split_ifs with hshort hlong
  · exact ⟨_, rfl⟩
  · exact ⟨_, rfl⟩
  · omega

/-- **No read of a control goes past the end.** -/
theorem sessionDeserialize_sound (layout : Layout) (bytes : List UInt8) :
    (sessionDeserialize layout (.of bytes)).2.Sound := by
  by_cases hlength : bytes.length = sessionPacketBytes
  · obtain ⟨packet, enabled, henabled, rfl⟩ := exists_sessionFields layout hlength
    rw [sessionDeserialize_fields layout packet enabled henabled]
    split_ifs
    all_goals exact ⟨rfl, rfl⟩
  · obtain ⟨error, herror⟩ := sessionDeserialize_length layout hlength
    rw [herror]
    exact ⟨rfl, rfl⟩

/-- What is sent for a control packet. -/
theorem sessionSerializeTyped_eq (layout : Layout) (packet : SessionPacket)
    (bytes : List UInt8) :
    sessionSerializeTyped layout (some packet) (.of bytes) =
      if validateTeamVoiceSessionPacket packet = .none then
        .ok (.of (bytes ++ sessionFields layout packet (if packet.enabled then 1 else 0)))
      else .fail (validateTeamVoiceSessionPacket packet) := by
  unfold sessionSerializeTyped
  by_cases hvalid : validateTeamVoiceSessionPacket packet = .none
  · simp only [hvalid, ne_eq, not_true, if_false, if_true, Buffer.writeInt_of,
      Buffer.getAndClearLastError_of, Bool.false_eq_true, sessionFields, List.append_assoc]
  · simp only [ne_eq, hvalid, not_false_iff, if_true, if_false]

/-- **The voice wire format is a bijection on valid packets.** -/
theorem voice_wire (layout : Layout) :
    uplink.Bijective layout ∧ downlink.Bijective layout ∧
      (∀ packet, validateTeamVoiceSessionPacket packet = .none →
        ∃ sent, sessionSerializeTyped layout (some packet) (.of []) = .ok sent ∧
          sessionDeserializeTyped layout (some sent) = .ok packet) ∧
      (∀ bytes : List UInt8, bytes.length ≠ 22 →
        ∃ error, sessionDeserializeTyped layout (some (.of bytes)) = .fail error) ∧
      ∀ bytes, (sessionDeserialize layout (.of bytes)).2.overread = false := by
  refine ⟨(uplink_lawful layout).bijective, (downlink_lawful layout).bijective,
    fun packet hvalid => ?_, fun bytes hlength => ?_,
    fun bytes => (sessionDeserialize_sound layout bytes).overread⟩
  · refine ⟨_, (sessionSerializeTyped_eq layout packet []).trans (if_pos hvalid), ?_⟩
    have henabled : packet.enabled =
        decide ((if packet.enabled then 1 else 0 : UInt8) ≠ 0) := by
      cases packet.enabled <;> rfl
    refine (congrArg Prod.fst (sessionDeserialize_fields layout packet _ henabled)).trans ?_
    rw [hvalid]
    rfl
  · obtain ⟨error, herror⟩ := sessionDeserialize_length layout hlength
    exact ⟨error, congrArg Prod.fst herror⟩

example : sessionSerializeTyped .littleEndian
    (some { enabled := true, sessionid := 100, membershipgeneration := 4, playerid := 55 })
    (.of []) =
    .ok (.of [1, 1, 100, 0, 0, 0, 0, 0, 0, 0, 4, 0, 0, 0, 55, 0, 0, 0, 0, 0, 0, 0]) := by
  decide +kernel

end Voice
