import Mathlib.Data.UInt
import Mathlib.Tactic.SplitIfs

/-!
# Byte buffers

A buffer of bytes that fixed-width integers and raw bytes are written to and
read from.  How an integer is laid out is a parameter: all that is asked is
that writing and reading it are inverse.

* `Layout`, `Layout.littleEndian` — integers as bytes;
* `Buffer` — what is still to be read, and the errors so far;
* `Buffer.readInt_append`, `Buffer.read_append` — reading what was written;
* `exists_encode` — enough bytes hold an integer.
-/

namespace Wire

/-! ## Integers as bytes -/

/-- An unsigned integer type of `width` bytes. -/
class WireInt (T : Type) where
  width : Nat
  toNat : T → Nat
  ofNat : Nat → T
  toNat_lt : ∀ x, toNat x < 256 ^ width
  ofNat_toNat : ∀ x, ofNat (toNat x) = x
  toNat_ofNat : ∀ n, n < 256 ^ width → toNat (ofNat n) = n

instance : WireInt UInt8 where
  width := 1
  toNat := UInt8.toNat
  ofNat := UInt8.ofNat
  toNat_lt := UInt8.toNat_lt
  ofNat_toNat _ := UInt8.ofNat_toNat
  toNat_ofNat _ h := UInt8.toNat_ofNat_of_lt' h

instance : WireInt UInt16 where
  width := 2
  toNat := UInt16.toNat
  ofNat := UInt16.ofNat
  toNat_lt := UInt16.toNat_lt
  ofNat_toNat _ := UInt16.ofNat_toNat
  toNat_ofNat _ h := UInt16.toNat_ofNat_of_lt' h

instance : WireInt UInt32 where
  width := 4
  toNat := UInt32.toNat
  ofNat := UInt32.ofNat
  toNat_lt := UInt32.toNat_lt
  ofNat_toNat _ := UInt32.ofNat_toNat
  toNat_ofNat _ h := UInt32.toNat_ofNat_of_lt' h

instance : WireInt UInt64 where
  width := 8
  toNat := UInt64.toNat
  ofNat := UInt64.ofNat
  toNat_lt := UInt64.toNat_lt
  ofNat_toNat _ := UInt64.ofNat_toNat
  toNat_ofNat _ h := UInt64.toNat_ofNat_of_lt' h

/-- A way to lay out integers in bytes: writing and reading are inverse. -/
structure Layout where
  bytes : Nat → Nat → List UInt8
  value : List UInt8 → Nat
  bytes_length : ∀ width n, (bytes width n).length = width
  value_lt : ∀ bs, value bs < 256 ^ bs.length
  value_bytes : ∀ width n, n < 256 ^ width → value (bytes width n) = n
  bytes_value : ∀ bs, bytes bs.length (value bs) = bs

/-- The lowest byte first. -/
def littleEndianBytes : Nat → Nat → List UInt8
  | 0, _ => []
  | width + 1, n => UInt8.ofNat (n % 256) :: littleEndianBytes width (n / 256)

def littleEndianValue : List UInt8 → Nat
  | [] => 0
  | b :: bs => b.toNat + 256 * littleEndianValue bs

theorem littleEndianBytes_length (width n : Nat) : (littleEndianBytes width n).length = width := by
  induction width generalizing n with
  | zero => rfl
  | succ width ih => exact congrArg (· + 1) (ih _)

theorem littleEndianValue_lt (bs : List UInt8) : littleEndianValue bs < 256 ^ bs.length := by
  induction bs with
  | nil => exact Nat.one_pos
  | cons b bs ih =>
      have hb := b.toNat_lt
      rw [List.length_cons, Nat.pow_succ, littleEndianValue]
      omega

theorem littleEndianValue_bytes {width n : Nat} (h : n < 256 ^ width) :
    littleEndianValue (littleEndianBytes width n) = n := by
  induction width generalizing n with
  | zero =>
      have hzero : n < 1 := h
      rw [littleEndianBytes, littleEndianValue]
      omega
  | succ width ih =>
      have hrest : n / 256 < 256 ^ width := by
        rw [Nat.pow_succ] at h
        omega
      rw [littleEndianBytes, littleEndianValue, ih hrest,
        UInt8.toNat_ofNat_of_lt' (Nat.mod_lt n (by decide))]
      exact Nat.mod_add_div n 256

theorem littleEndianBytes_value (bs : List UInt8) :
    littleEndianBytes bs.length (littleEndianValue bs) = bs := by
  induction bs with
  | nil => rfl
  | cons b bs ih =>
      have hb : b.toNat < 256 := b.toNat_lt
      have hlow : (b.toNat + 256 * littleEndianValue bs) % 256 = b.toNat := by omega
      have hhigh : (b.toNat + 256 * littleEndianValue bs) / 256 = littleEndianValue bs := by omega
      rw [List.length_cons, littleEndianBytes, littleEndianValue, hlow, hhigh, ih,
        UInt8.ofNat_toNat]

/-- The little-endian layout. -/
def Layout.littleEndian : Layout where
  bytes := littleEndianBytes
  value := littleEndianValue
  bytes_length := littleEndianBytes_length
  value_lt := littleEndianValue_lt
  value_bytes _ _ := littleEndianValue_bytes
  bytes_value := littleEndianBytes_value

section

variable (layout : Layout) {T : Type} [WireInt T]

/-- The bytes of an integer. -/
def encode (x : T) : List UInt8 := layout.bytes (WireInt.width T) (WireInt.toNat x)

/-- The integer of some bytes. -/
def decode (bs : List UInt8) : T := WireInt.ofNat (layout.value bs)

theorem encode_length (x : T) : (encode layout x).length = WireInt.width T :=
  layout.bytes_length _ _

theorem decode_encode (x : T) : (decode layout (encode layout x) : T) = x := by
  rw [decode, encode, layout.value_bytes _ _ (WireInt.toNat_lt x), WireInt.ofNat_toNat]

theorem encode_decode {bs : List UInt8} (h : bs.length = WireInt.width T) :
    encode layout (decode layout bs : T) = bs := by
  rw [encode, decode, WireInt.toNat_ofNat _ (h ▸ layout.value_lt bs), ← h, layout.bytes_value]

/-- **Enough bytes hold an integer**, and the bytes after it. -/
theorem exists_encode (T : Type) [WireInt T] {bs : List UInt8} {n : Nat}
    (h : bs.length = WireInt.width T + n) :
    ∃ (x : T) (rest : List UInt8), bs = encode layout x ++ rest ∧ rest.length = n := by
  refine ⟨decode layout (bs.take (WireInt.width T)), bs.drop (WireInt.width T), ?_, ?_⟩
  · rw [encode_decode layout (by rw [List.length_take]; omega), List.take_append_drop]
  · rw [List.length_drop]
    omega

end

/-! ## The buffer -/

/-- The bytes between the read cursor and the end, whether an operation has
failed since the error was last asked for, and whether a read has ever gone
past the end. -/
structure Buffer where
  unread : List UInt8 := []
  failed : Bool := false
  overread : Bool := false
  deriving DecidableEq, Repr

namespace Buffer

/-- A buffer that holds the bytes. -/
def of (bytes : List UInt8) : Buffer := { unread := bytes }

/-- Nothing has gone wrong. -/
structure Sound (buffer : Buffer) : Prop where
  failed : buffer.failed = false
  overread : buffer.overread = false

/-- How much there is to read. -/
def readableBytes (buffer : Buffer) : Nat := buffer.unread.length

/-- Raw bytes are written at the end. -/
def write (buffer : Buffer) (bytes : List UInt8) : Buffer :=
  { buffer with unread := buffer.unread ++ bytes }

/-- A read of `count` bytes; one that goes past the end fails and reads zeros. -/
def read (buffer : Buffer) (count : Nat) : List UInt8 × Buffer :=
  if count ≤ buffer.unread.length then
    (buffer.unread.take count, { buffer with unread := buffer.unread.drop count })
  else
    (List.replicate count 0, { buffer with failed := true, overread := true })

/-- Whether an operation has failed; the error is cleared. -/
def getAndClearLastError (buffer : Buffer) : Bool × Buffer :=
  (buffer.failed, { buffer with failed := false })

section

variable (layout : Layout) {T : Type} [WireInt T]

def writeInt (buffer : Buffer) (x : T) : Buffer := buffer.write (encode layout x)

def readInt (T : Type) [WireInt T] (buffer : Buffer) : T × Buffer :=
  (decode layout (buffer.read (WireInt.width T)).1, (buffer.read (WireInt.width T)).2)

end

@[simp] theorem readableBytes_of (bytes : List UInt8) : (of bytes).readableBytes = bytes.length :=
  rfl

@[simp] theorem write_of (bytes more : List UInt8) : (of bytes).write more = of (bytes ++ more) :=
  rfl

@[simp] theorem getAndClearLastError_of (bytes : List UInt8) :
    (of bytes).getAndClearLastError = (false, of bytes) := rfl

@[simp] theorem writeInt_of (layout : Layout) {T : Type} [WireInt T] (bytes : List UInt8) (x : T) :
    (of bytes).writeInt layout x = of (bytes ++ encode layout x) := rfl

/-- **Reading raw bytes that were written.** -/
theorem read_append (bytes rest : List UInt8) :
    (of (bytes ++ rest)).read bytes.length = (bytes, of rest) := by
  have hle : bytes.length ≤ (of (bytes ++ rest)).unread.length := by
    show bytes.length ≤ (bytes ++ rest).length
    rw [List.length_append]
    exact Nat.le_add_right _ _
  rw [read, if_pos hle]
  show ((bytes ++ rest).take bytes.length, of ((bytes ++ rest).drop bytes.length)) = _
  rw [List.take_left, List.drop_left]

/-- **Reading an integer that was written.** -/
@[simp] theorem readInt_append (layout : Layout) {T : Type} [WireInt T] (x : T)
    (rest : List UInt8) : (of (encode layout x ++ rest)).readInt layout T = (x, of rest) := by
  have hread := read_append (encode layout x) rest
  rw [encode_length] at hread
  rw [readInt, hread, decode_encode]

end Buffer

end Wire
