import GipMultiplayer.ListPackets

/-!
# Corrupt lists

The deserializers of the packets that carry lists have no way to refuse.  When
the length is greater than the number of bytes left they return the packet as
it is, without entries; a smaller length is followed past the end of the buffer.
A client that is sent such bytes clears what it had and fills it from them.

* `ClientView.receive` — bytes arrive at a client;
* `LobbyState.accepted` and the like — how many entries are read from any bytes;
* `corrupt_lists_applied` — bytes that encode no packet are applied all the same;
* `corrupt_room_emptied` — a length without entries empties the room.
-/

namespace Lobby

open Wire (Coder Buffer)

/-! ## Arrival -/

/-- Bytes arrive: what a deserializer makes of them is processed, if anything. -/
def ClientView.receive {P : Type} (deserializeTyped : Buffer → Option P × Buffer)
    (process : ClientView → P → ClientView) (client : ClientView) (bytes : List UInt8) :
    ClientView :=
  match (deserializeTyped (.of bytes)).1 with
  | none => client
  | some p => process client p

namespace ClientView

/-- The bytes of a lobby state arrive. -/
def receiveLobbyState (znet : Znet) : ClientView → List UInt8 → ClientView :=
  receive (LobbyState.deserializeTyped znet) onLobbyState

/-- The bytes of a ping snapshot arrive. -/
def receivePingSnapshot (znet : Znet) : ClientView → List UInt8 → ClientView :=
  receive (PingSnapshot.deserializeTyped znet) onPingSnapshot

/-- The bytes of a server list arrive. -/
def receiveSendList (znet : Znet) : ClientView → List UInt8 → ClientView :=
  receive (SendList.deserializeTyped znet) onSendList

end ClientView

/-! ## Complete encodings -/

/-- The bytes are a lobby state, whole and with nothing behind it. -/
def LobbyState.Complete (znet : Znet) (bytes : List UInt8) : Prop :=
  ∃ p : LobbyState, bytes = p.bytes znet

/-- The bytes are a ping snapshot. -/
def PingSnapshot.Complete (znet : Znet) (bytes : List UInt8) : Prop :=
  ∃ p : PingSnapshot, bytes = Buffer.countedBytes znet.varint znet.pingEntry p.entries

/-- The bytes are a server list. -/
def SendList.Complete (znet : Znet) (bytes : List UInt8) : Prop :=
  ∃ p : SendList, bytes = Buffer.countedBytes znet.varint znet.serverInfo p.servers

/-- The length that stands at the front of a buffer, or zero when it is greater
than the number of bytes behind it. -/
def acceptedCount (znet : Znet) (buffer : Buffer) : Nat :=
  let (count, buffer) := buffer.get znet.varint
  if buffer.readableBytes < count then 0 else count

/-- How many entries a lobby state is read with. -/
def LobbyState.accepted (znet : Znet) (bytes : List UInt8) : Nat :=
  let (_, buffer) := (Buffer.of bytes).get znet.bool
  let (_, buffer) := buffer.get znet.bool
  let (_, buffer) := buffer.get znet.string
  acceptedCount znet buffer

/-! ## The law -/

namespace ClientView

/-- What is deserialized is processed. -/
theorem receive_eq {P : Type} {deserializeTyped : Buffer → Option P × Buffer}
    {process : ClientView → P → ClientView} {bytes : List UInt8} {p : P}
    (h : (deserializeTyped (.of bytes)).1 = some p) (client : ClientView) :
    receive deserializeTyped process client bytes = process client p := by
  rw [receive, h]

/-- A client has as many players as the packet has entries. -/
theorem length_roomPlayers (client : ClientView) (p : LobbyState) :
    (client.onLobbyState p).roomPlayers.length = p.playerIds.length := by
  unfold onLobbyState LobbyState.entries
  rw [List.length_map, List.length_map, List.length_range]

end ClientView

/-- **Any bytes are read as a lobby state.** -/
theorem LobbyState.deserializeTyped_some (znet : Znet) (bytes : List UInt8) :
    ∃ p, (deserializeTyped znet (.of bytes)).1 = some p ∧
      p.playerIds.length = accepted znet bytes := by
  refine ⟨_, rfl, ?_⟩
  rw [push, List.nil_append, List.length_map]
  exact Buffer.length_getCounted _ _ _

/-- **Any bytes are read as a ping snapshot.** -/
theorem PingSnapshot.deserializeTyped_some (znet : Znet) (bytes : List UInt8) :
    ∃ p, (deserializeTyped znet (.of bytes)).1 = some p ∧
      p.playerIds.length = acceptedCount znet (.of bytes) := by
  refine ⟨_, rfl, ?_⟩
  rw [List.length_map]
  exact Buffer.length_getCounted _ _ _

/-- **Any bytes are read as a server list.** -/
theorem SendList.deserializeTyped_some (znet : Znet) (bytes : List UInt8) :
    ∃ p, (deserializeTyped znet (.of bytes)).1 = some p ∧
      p.servers.length = acceptedCount znet (.of bytes) :=
  ⟨_, rfl, Buffer.length_getCounted _ _ _⟩

/-- **Corrupt lists are applied.**  Bytes that encode no packet yield a packet all the
same: the room of a client, its pings and the server list are replaced, by as
many entries as the length says, or by none when the length does not fit. -/
theorem corrupt_lists_applied (znet : Znet) (client : ClientView) (bytes : List UInt8) :
    (¬ LobbyState.Complete znet bytes →
      ∃ p, (LobbyState.deserializeTyped znet (.of bytes)).1 = some p ∧
        client.receiveLobbyState znet bytes = client.onLobbyState p ∧
        (client.receiveLobbyState znet bytes).roomPlayers.length =
          LobbyState.accepted znet bytes) ∧
      (¬ PingSnapshot.Complete znet bytes →
        ∃ p, (PingSnapshot.deserializeTyped znet (.of bytes)).1 = some p ∧
          client.receivePingSnapshot znet bytes = client.onPingSnapshot p ∧
          p.playerIds.length = acceptedCount znet (.of bytes)) ∧
      (¬ SendList.Complete znet bytes →
        ∃ p, (SendList.deserializeTyped znet (.of bytes)).1 = some p ∧
          client.receiveSendList znet bytes = client.onSendList p ∧
          (client.receiveSendList znet bytes).servers.length =
            acceptedCount znet (.of bytes)) := by
  refine ⟨?_, ?_, ?_⟩
  · intro _
    obtain ⟨p, hp, hlength⟩ := LobbyState.deserializeTyped_some znet bytes
    have hreceive : client.receiveLobbyState znet bytes = client.onLobbyState p :=
      ClientView.receive_eq hp client
    refine ⟨p, hp, hreceive, ?_⟩
    rw [hreceive, ClientView.length_roomPlayers, hlength]
  · intro _
    obtain ⟨p, hp, hlength⟩ := PingSnapshot.deserializeTyped_some znet bytes
    exact ⟨p, hp, ClientView.receive_eq hp client, hlength⟩
  · intro _
    obtain ⟨p, hp, hlength⟩ := SendList.deserializeTyped_some znet bytes
    have hreceive : client.receiveSendList znet bytes = client.onSendList p :=
      ClientView.receive_eq hp client
    refine ⟨p, hp, hreceive, ?_⟩
    rw [hreceive]
    exact hlength

/-- A length of five without entries is no lobby state. -/
theorem not_complete_five : ¬ LobbyState.Complete .littleEndian [0, 0, 0, 5] := by
  rintro ⟨p, hbytes⟩
  have hread := LobbyState.deserializeTyped_bytes .littleEndian p []
  rw [List.append_nil, ← hbytes] at hread
  have hempty : (LobbyState.deserializeTyped .littleEndian (.of [0, 0, 0, 5])).1 = some {} := rfl
  rw [hread] at hempty
  obtain ⟨hglobal, hmatch, hcode, hids, -, -, -⟩ :=
    LobbyState.mk.inj (Option.some.inj hempty)
  have hentries : p.entries = [] := List.map_eq_nil_iff.mp hids
  have hfour : p.bytes .littleEndian = [0, 0, 0, 0] := by
    rw [LobbyState.bytes, hglobal, hmatch, hcode, hentries]
    show [0] ++ ([0] ++ ((Coder.varintBytes 0 ++ []) ++ (Coder.varintBytes 0 ++ []))) = [0, 0, 0, 0]
    rw [Coder.varintBytes_of_lt (by decide)]
    rfl
  rw [hfour] at hbytes
  cases hbytes

/-- A room of one player meets a length of five without entries. -/
theorem corrupt_lists_applied_five :
    (ClientView.receiveLobbyState .littleEndian { roomPlayers := [{ id := 7 }] }
      [0, 0, 0, 5]).roomPlayers.length = 0 := by
  obtain ⟨p, -, -, hlength⟩ := (corrupt_lists_applied .littleEndian
    { roomPlayers := [{ id := 7 }] } [0, 0, 0, 5]).1 not_complete_five
  rw [hlength]
  rfl

/-- **A length without entries empties the room.** -/
theorem corrupt_room_emptied :
    ¬ ∀ (znet : Znet) (client : ClientView) (bytes : List UInt8),
      ¬ LobbyState.Complete znet bytes →
        (LobbyState.deserializeTyped znet (.of bytes)).1 = none ∧
          (client.receiveLobbyState znet bytes).roomPlayers = client.roomPlayers := by
  intro hall
  obtain ⟨-, hroom⟩ := hall .littleEndian { roomPlayers := [{ id := 7 }] } [0, 0, 0, 5]
    not_complete_five
  cases hroom

end Lobby
