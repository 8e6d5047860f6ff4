import Mathlib.Data.UInt
import Mathlib.Tactic.SplitIfs

/-!
# Team voice packets

The three wire packets of team voice, the validators every receiver applies to
them and the wrap-aware comparison of sequence numbers.  The fields keep the
widths of the wire: an identifier or generation that the source holds in a
fixed-width integer is a fixed-width integer here.
-/

namespace Voice

/-- Samples of one 20 ms frame at 48 kHz (`FRAME_SAMPLES`). -/
def frameSamples : Nat := 960

/-- Longest Opus payload a network packet may carry (`NETWORK_MAX_OPUS_BYTES`). -/
def networkMaxOpusBytes : Nat := 256

/-- `G_TEAM_VOICE_PROTOCOL_VERSION`. -/
def teamVoiceProtocolVersion : UInt8 := 1

/-- `G_TEAM_VOICE_FLAG_STREAM_START`. -/
def flagStreamStart : UInt8 := 1

/-- `G_TEAM_VOICE_FLAG_DISCONTINUITY`. -/
def flagDiscontinuity : UInt8 := 2

/-- `VALID_VOICE_FLAGS`. -/
def validVoiceFlags : UInt8 := flagStreamStart ||| flagDiscontinuity

/-- Why a packet is refused (`gTeamVoicePacketError`). -/
inductive TeamVoicePacketError
  | none | truncated | trailingData | invalidVersion | invalidFlags | invalidSession
  | invalidGeneration | invalidSender | emptyPayload | oversizedPayload | bufferError
  deriving DecidableEq, Repr

/-- The reliable control that opens or closes a client's voice session
(`gTeamVoiceSessionPacket`). -/
structure SessionPacket where
  version : UInt8 := teamVoiceProtocolVersion
  enabled : Bool := false
  sessionid : UInt64 := 0
  membershipgeneration : UInt32 := 0
  playerid : UInt64 := 0
  deriving DecidableEq, Repr

/-- One encoded frame on its way to the server (`gTeamVoiceUplinkPacket`). -/
structure UplinkPacket where
  version : UInt8 := teamVoiceProtocolVersion
  flags : UInt8 := 0
  sessionid : UInt64 := 0
  membershipgeneration : UInt32 := 0
  streamgeneration : UInt32 := 0
  sequence : UInt32 := 0
  sampleposition : UInt64 := 0
  payload : List UInt8 := []
  deriving DecidableEq, Repr

/-- One encoded frame relayed to a listener (`gTeamVoiceDownlinkPacket`). -/
structure DownlinkPacket where
  version : UInt8 := teamVoiceProtocolVersion
  flags : UInt8 := 0
  sessionid : UInt64 := 0
  recipientgeneration : UInt32 := 0
  speakerid : UInt64 := 0
  speakergeneration : UInt32 := 0
  streamgeneration : UInt32 := 0
  sequence : UInt32 := 0
  sampleposition : UInt64 := 0
  payload : List UInt8 := []
  deriving DecidableEq, Repr

/-- `validatePayload`. -/
def validatePayload (payload : List UInt8) : TeamVoicePacketError :=
  if payload = [] then .emptyPayload
  else if networkMaxOpusBytes < payload.length then .oversizedPayload
  else .none

/-- `gValidateTeamVoiceSessionPacket`. -/
def validateTeamVoiceSessionPacket (packet : SessionPacket) : TeamVoicePacketError :=
  if packet.version ≠ teamVoiceProtocolVersion then .invalidVersion
  else if packet.enabled = false then .none
  else if packet.sessionid = 0 then .invalidSession
  else if packet.membershipgeneration = 0 then .invalidGeneration
  else if packet.playerid = 0 then .invalidSender
  else .none

/-- `gValidateTeamVoiceUplinkPacket`. -/
def validateTeamVoiceUplinkPacket (packet : UplinkPacket) : TeamVoicePacketError :=
  if packet.version ≠ teamVoiceProtocolVersion then .invalidVersion
  else if packet.flags &&& ~~~validVoiceFlags ≠ 0 then .invalidFlags
  else if packet.sessionid = 0 then .invalidSession
  else if packet.membershipgeneration = 0 ∨ packet.streamgeneration = 0 then .invalidGeneration
  else validatePayload packet.payload

/-- `gValidateTeamVoiceDownlinkPacket`. -/
def validateTeamVoiceDownlinkPacket (packet : DownlinkPacket) : TeamVoicePacketError :=
  if packet.version ≠ teamVoiceProtocolVersion then .invalidVersion
  else if packet.flags &&& ~~~validVoiceFlags ≠ 0 then .invalidFlags
  else if packet.sessionid = 0 then .invalidSession
  else if packet.recipientgeneration = 0 ∨ packet.speakergeneration = 0 ∨
      packet.streamgeneration = 0 then .invalidGeneration
  else if packet.speakerid = 0 then .invalidSender
  else validatePayload packet.payload

/-- An enabling control is valid exactly when it names a session, a generation
and a player. -/
theorem validateTeamVoiceSessionPacket_enabled {packet : SessionPacket}
    (henabled : packet.enabled = true) :
    validateTeamVoiceSessionPacket packet = .none ↔
      packet.version = teamVoiceProtocolVersion ∧ packet.sessionid ≠ 0 ∧
      packet.membershipgeneration ≠ 0 ∧ packet.playerid ≠ 0 := by
  grind [validateTeamVoiceSessionPacket]

/-- What a valid uplink promises, field by field. -/
theorem validateTeamVoiceUplinkPacket_none {packet : UplinkPacket} :
    validateTeamVoiceUplinkPacket packet = .none ↔
      packet.version = teamVoiceProtocolVersion ∧
      packet.flags &&& ~~~validVoiceFlags = 0 ∧ packet.sessionid ≠ 0 ∧
      packet.membershipgeneration ≠ 0 ∧ packet.streamgeneration ≠ 0 ∧
      validatePayload packet.payload = .none := by
  grind [validateTeamVoiceUplinkPacket]

/-- What a valid downlink promises, field by field. -/
theorem validateTeamVoiceDownlinkPacket_none {packet : DownlinkPacket} :
    validateTeamVoiceDownlinkPacket packet = .none ↔
      packet.version = teamVoiceProtocolVersion ∧
      packet.flags &&& ~~~validVoiceFlags = 0 ∧ packet.sessionid ≠ 0 ∧
      packet.recipientgeneration ≠ 0 ∧ packet.speakergeneration ≠ 0 ∧
      packet.streamgeneration ≠ 0 ∧ packet.speakerid ≠ 0 ∧
      validatePayload packet.payload = .none := by
  unfold validateTeamVoiceDownlinkPacket
  split_ifs with hversion hflags hsession hgeneration hspeaker
  case pos => simp [hversion]
  case pos => simp [hflags]
  case pos => simp [hsession]
  case pos => simp only [false_iff]; tauto
  case pos => simp [hspeaker]
  case neg => simp_all

/-- `gIsTeamVoiceSequenceNewer`: less than half the number circle ahead. -/
def isTeamVoiceSequenceNewer (sequence reference : UInt32) : Bool :=
  let distance := sequence - reference
  distance ≠ 0 ∧ distance < 0x80000000

/-- `gTeamVoiceSequenceDistance`. -/
def teamVoiceSequenceDistance (newer older : UInt32) : UInt32 := newer - older

end Voice
