import GipMultiplayer.Coders

/-!
# Codecs

A protocol has kinds of packets.  Every kind has an id, which its packets carry,
and a pair of serializers; either of the two may give up.  Each end of a
connection has a codec, a table from ids to serializers.  The sender looks up
the id of the packet; the receiver looks up the id that came with the bytes.

A packet comes out as it went in when both tables lead from its id to its own
serializers and these carry it.

* `Serializer`, `Serializer.Carries` — a pair of serializers, and what it carries;
* `Coder.serializer` — the serializers of a coder;
* `Protocol.send`, `Protocol.receive` — the two ends;
* `Protocol.delivered` — a list of packets arrives as it was sent, to the last byte.
-/

namespace Wire

variable {P : Type}

/-- A pair of serializers of one kind of packet. -/
structure Serializer (P : Type) where
  serializeTyped : P → Buffer → Option Buffer
  deserializeTyped : Buffer → Option P × Buffer

/-- **The serializers carry a packet**: behind whatever was written before, it is
written as `bytes`, and these are read as the packet, to the last one. -/
structure Serializer.Carries (s : Serializer P) (p : P) (bytes : List UInt8) : Prop where
  written : ∀ before, s.serializeTyped p (.of before) = some (.of (before ++ bytes))
  read : s.deserializeTyped (.of bytes) = (some p, .of [])

/-- The serializers carry a packet. -/
def Serializer.Faithful (s : Serializer P) (p : P) : Prop := ∃ bytes, s.Carries p bytes

/-- A coder is a pair of serializers that never gives up. -/
def Coder.serializer (coder : Coder P) : Serializer P where
  serializeTyped p buffer := some (buffer.put coder p)
  deserializeTyped buffer := (some (buffer.get coder).1, (buffer.get coder).2)

theorem Coder.serializer_carries (coder : Coder P) (p : P) :
    coder.serializer.Carries p (coder.bytes p) := by
  have hread := coder.read_append p []
  rw [List.append_nil] at hread
  refine ⟨fun before => rfl, ?_⟩
  show (some (coder.read (.of (coder.bytes p))).1, (coder.read (.of (coder.bytes p))).2) = _
  rw [hread]

/-- Every packet is carried by the serializers of a coder. -/
theorem Coder.serializer_faithful (coder : Coder P) (p : P) : coder.serializer.Faithful p :=
  ⟨_, coder.serializer_carries p⟩

/-! ## Protocols -/

/-- Kinds of packets with their ids and serializers. -/
structure Protocol (K : Type) where
  Packet : K → Type
  id : K → Nat
  serializer : ∀ k, Serializer (Packet k)

variable {K : Type} {protocol : Protocol K}

/-- A packet of some kind. -/
abbrev Protocol.Any (protocol : Protocol K) := Σ k, protocol.Packet k

/-- What has been added to a codec: ids with the kinds whose serializers they
lead to. -/
abbrev Codec (K : Type) := List (Nat × K)

/-- The codec has these kinds, each under its own id, and no id twice. -/
structure Codec.Registers (protocol : Protocol K) (codec : Codec K) (kinds : List K) : Prop where
  own : codec = kinds.map fun k => (protocol.id k, k)
  distinct : (kinds.map protocol.id).Nodup

/-- **A registered kind is found** under its id. -/
theorem Codec.Registers.lookup {codec : Codec K} {kinds : List K}
    (h : codec.Registers protocol kinds) {k : K} (hk : k ∈ kinds) :
    codec.lookup (protocol.id k) = some k := by
  obtain ⟨rfl, hdistinct⟩ := h
  induction kinds with
  | nil => cases hk
  | cons first rest ih =>
      rw [List.map_cons, List.nodup_cons] at hdistinct
      rw [List.map_cons, List.lookup_cons]
      rcases List.mem_cons.mp hk with rfl | hk
      · rw [beq_self_eq_true]
      · have hne : protocol.id k ≠ protocol.id first := by
          intro heq
          exact hdistinct.1 (heq ▸ List.mem_map_of_mem hk)
        rw [beq_false_of_ne hne]
        exact ih hk hdistinct.2

/-! ## The two ends -/

namespace Protocol

variable [DecidableEq K]

/-- The sender: the serializers its codec has under the id of the packet write
it, if they are those of its kind. -/
def send (protocol : Protocol K) (codec : Codec K) (packet : protocol.Any) :
    Option (Nat × Buffer) :=
  match codec.lookup (protocol.id packet.1) with
  | none => none
  | some k =>
      if k = packet.1 then
        ((protocol.serializer packet.1).serializeTyped packet.2 (.of [])).map fun buffer =>
          (protocol.id packet.1, buffer)
      else none

omit [DecidableEq K] in
/-- The receiver: what the serializers its codec has under the id make of the
bytes, with the bytes they leave. -/
def receive (protocol : Protocol K) (codec : Codec K) (message : Nat × Buffer) :
    Option (protocol.Any × Buffer) :=
  match codec.lookup message.1 with
  | none => none
  | some k =>
      let (packet, rest) := (protocol.serializer k).deserializeTyped message.2
      packet.map fun packet => (⟨k, packet⟩, rest)

/-- What the sender sends of a list of packets, the receiver makes the same list
of packets of, and it leaves no byte of any of them. -/
def Delivers (protocol : Protocol K) (sender receiver : Codec K) (packets : List protocol.Any) :
    Prop :=
  ∃ messages, packets.mapM (protocol.send sender) = some messages ∧
    messages.mapM (protocol.receive receiver) =
      some (packets.map fun packet => (packet, .of []))

variable {sender receiver : Codec K} {kinds kinds' : List K}

/-- One packet arrives as it was sent, and is read to its last byte. -/
theorem delivered_one (hsender : sender.Registers protocol kinds)
    (hreceiver : receiver.Registers protocol kinds') {packet : protocol.Any}
    (hsent : packet.1 ∈ kinds) (hknown : packet.1 ∈ kinds')
    (hcarries : (protocol.serializer packet.1).Faithful packet.2) :
    ∃ message, protocol.send sender packet = some message ∧
      protocol.receive receiver message = some (packet, .of []) := by
  obtain ⟨bytes, hbytes⟩ := hcarries
  have hwritten := hbytes.written []
  rw [List.nil_append] at hwritten
  refine ⟨(protocol.id packet.1, .of bytes), ?_, ?_⟩
  · rw [send, hsender.lookup hsent]
    dsimp only
    rw [if_pos rfl, hwritten, Option.map_some]
  · rw [receive, hreceiver.lookup hknown]
    simp only [hbytes.read, Option.map_some]

/-- **Packets arrive as they were sent**, in their order and to the last byte, when
both ends register their kinds and the serializers carry them. -/
theorem delivered (hsender : sender.Registers protocol kinds)
    (hreceiver : receiver.Registers protocol kinds') (packets : List protocol.Any)
    (hpackets : ∀ packet ∈ packets, packet.1 ∈ kinds ∧ packet.1 ∈ kinds' ∧
      (protocol.serializer packet.1).Faithful packet.2) :
    protocol.Delivers sender receiver packets := by
  induction packets with
  | nil => exact ⟨[], rfl, rfl⟩
  | cons packet rest ih =>
      obtain ⟨⟨hsent, hknown, hcarries⟩, hrest⟩ := List.forall_mem_cons.mp hpackets
      obtain ⟨message, hsend, hreceive⟩ :=
        delivered_one hsender hreceiver hsent hknown hcarries
      obtain ⟨messages, hsends, hreceives⟩ := ih hrest
      refine ⟨message :: messages, ?_, ?_⟩
      · rw [List.mapM_cons, hsend, hsends]
        rfl
      · rw [List.mapM_cons, hreceive, hreceives]
        rfl

end Protocol

end Wire
