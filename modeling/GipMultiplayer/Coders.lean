import GipMultiplayer.Wire
import Mathlib.Logic.Nontrivial.Defs

/-!
# Coders

A coder writes values of a type to a buffer and reads them back.  Reading never
fails: on bytes that were not written by the coder it returns something.

A list is written behind its length.  The reader gives up, with an empty list,
when the length is greater than the number of bytes left; a list that was
written never looks like that, because no value of a type with two values is
written in zero bytes.

* `Coder` — a writer and a reader that are inverse;
* `Coder.bytes_ne_nil` — values take bytes;
* `Buffer.putCounted`, `Buffer.getCounted` — lists;
* `Buffer.getCounted_append` — a list that was written is read;
* `Buffer.length_getCounted` — how long a list is read from any bytes;
* `Coder.int`, `Coder.varint`, `Coder.string`, `Coder.bool` — some coders.
-/

namespace Wire

/-- A writer and a reader of values that are inverse. -/
structure Coder (T : Type) where
  bytes : T → List UInt8
  read : Buffer → T × Buffer
  read_append : ∀ x rest, read (.of (bytes x ++ rest)) = (x, .of rest)

variable {S T : Type}

/-- **A value takes bytes**: otherwise nothing could tell it from another. -/
theorem Coder.bytes_ne_nil [Nontrivial T] (coder : Coder T) (x : T) : coder.bytes x ≠ [] := by
  intro hnil
  obtain ⟨y, hy⟩ := exists_ne x
  have hx := coder.read_append x (coder.bytes y)
  have hother := coder.read_append y []
  rw [hnil, List.nil_append] at hx
  rw [List.append_nil, hx] at hother
  exact hy (congrArg Prod.fst hother).symm

/-- A list of values takes at least as many bytes. -/
theorem Coder.length_le_bytes [Nontrivial T] (coder : Coder T) (l : List T) :
    l.length ≤ (l.flatMap coder.bytes).length := by
  induction l with
  | nil => exact le_rfl
  | cons x l ih =>
      have hpos := List.length_pos_iff.mpr (coder.bytes_ne_nil x)
      rw [List.flatMap_cons, List.length_append, List.length_cons]
      omega

namespace Buffer

/-- A value is written. -/
def put (buffer : Buffer) (coder : Coder T) (x : T) : Buffer := buffer.write (coder.bytes x)

/-- A value is read. -/
def get (buffer : Buffer) (coder : Coder T) : T × Buffer := coder.read buffer

@[simp] theorem put_of (bytes : List UInt8) (coder : Coder T) (x : T) :
    (of bytes).put coder x = of (bytes ++ coder.bytes x) := rfl

@[simp] theorem get_append (coder : Coder T) (x : T) (rest : List UInt8) :
    (of (coder.bytes x ++ rest)).get coder = (x, of rest) :=
  coder.read_append x rest

/-- So many values are read. -/
def getTimes (buffer : Buffer) (coder : Coder T) : Nat → List T × Buffer
  | 0 => ([], buffer)
  | n + 1 =>
      let (x, buffer) := buffer.get coder
      let (l, buffer) := buffer.getTimes coder n
      (x :: l, buffer)

/-- A list is written behind its length. -/
def putCounted (buffer : Buffer) (varint : Coder Nat) (coder : Coder T) (l : List T) : Buffer :=
  l.foldl (fun buffer x => buffer.put coder x) (buffer.put varint l.length)

/-- A list is read; a length greater than the number of bytes left is corrupt. -/
def getCounted (buffer : Buffer) (varint : Coder Nat) (coder : Coder T) : List T × Buffer :=
  let (count, buffer) := buffer.get varint
  if buffer.readableBytes < count then ([], buffer) else buffer.getTimes coder count

/-- The bytes of a list behind its length. -/
def countedBytes (varint : Coder Nat) (coder : Coder T) (l : List T) : List UInt8 :=
  varint.bytes l.length ++ l.flatMap coder.bytes

theorem foldl_put (bytes : List UInt8) (coder : Coder T) (l : List T) :
    l.foldl (fun buffer x => buffer.put coder x) (of bytes) =
      of (bytes ++ l.flatMap coder.bytes) := by
  induction l generalizing bytes with
  | nil => rw [List.foldl_nil, List.flatMap_nil, List.append_nil]
  | cons x l ih => rw [List.foldl_cons, put_of, ih, List.flatMap_cons, List.append_assoc]

@[simp] theorem putCounted_of (bytes : List UInt8) (varint : Coder Nat) (coder : Coder T)
    (l : List T) :
    (of bytes).putCounted varint coder l = of (bytes ++ countedBytes varint coder l) := by
  rw [putCounted, put_of, foldl_put, countedBytes, List.append_assoc]

theorem getTimes_append (coder : Coder T) (l : List T) (rest : List UInt8) :
    (of (l.flatMap coder.bytes ++ rest)).getTimes coder l.length = (l, of rest) := by
  induction l with
  | nil => rfl
  | cons x l ih =>
      rw [List.flatMap_cons, List.append_assoc, List.length_cons, getTimes, get_append]
      dsimp only
      rw [ih]

theorem length_getTimes (buffer : Buffer) (coder : Coder T) (n : Nat) :
    (buffer.getTimes coder n).1.length = n := by
  induction n generalizing buffer with
  | zero => rfl
  | succ n ih => exact congrArg (· + 1) (ih _)

/-- **A list that was written is read**: its length is never taken for corrupt. -/
@[simp] theorem getCounted_append [Nontrivial T] (varint : Coder Nat) (coder : Coder T)
    (l : List T) (rest : List UInt8) :
    (of (countedBytes varint coder l ++ rest)).getCounted varint coder = (l, of rest) := by
  have hfits : l.length ≤ (l.flatMap coder.bytes ++ rest).length := by
    have hle := coder.length_le_bytes l
    rw [List.length_append]
    omega
  rw [countedBytes, List.append_assoc, getCounted, get_append]
  dsimp only
  rw [readableBytes_of, if_neg (by omega), getTimes_append]

/-- **From any bytes** a list is read that is as long as the length says, or empty
when the length is greater than what is left. -/
theorem length_getCounted (buffer : Buffer) (varint : Coder Nat) (coder : Coder T) :
    (buffer.getCounted varint coder).1.length =
      if (buffer.get varint).2.readableBytes < (buffer.get varint).1 then 0
      else (buffer.get varint).1 := by
  unfold getCounted
  dsimp only
  split_ifs
  · rfl
  · exact length_getTimes _ _ _

end Buffer

/-! ## Some coders -/

namespace Coder

/-- Integers of fixed width. -/
def int (layout : Layout) (T : Type) [WireInt T] : Coder T where
  bytes := encode layout
  read buffer := buffer.readInt layout T
  read_append := Buffer.readInt_append layout

/-- Values that are written as others. -/
def map (coder : Coder S) (value : S → T) (code : T → S) (h : ∀ x, value (code x) = x) :
    Coder T where
  bytes x := coder.bytes (code x)
  read buffer := (value (coder.read buffer).1, (coder.read buffer).2)
  read_append x rest := by rw [coder.read_append, h]

/-- A boolean in one byte. -/
def bool (layout : Layout) : Coder Bool :=
  (int layout UInt8).map (fun byte => byte != 0) (fun b => if b then 1 else 0)
    fun b => by cases b <;> rfl

/-- Seven bits in each byte, the lowest first; all but the last byte have the
eighth bit set. -/
def varintBytes (n : Nat) : List UInt8 :=
  if n < 128 then [UInt8.ofNat n] else UInt8.ofNat (n % 128 + 128) :: varintBytes (n / 128)

def varintRead : List UInt8 → Nat × List UInt8
  | [] => (0, [])
  | byte :: bytes =>
      if byte.toNat < 128 then (byte.toNat, bytes)
      else (byte.toNat - 128 + 128 * (varintRead bytes).1, (varintRead bytes).2)

theorem varintBytes_of_lt {n : Nat} (h : n < 128) : varintBytes n = [UInt8.ofNat n] := by
  rw [varintBytes, if_pos h]

theorem varintRead_append (n : Nat) (rest : List UInt8) :
    varintRead (varintBytes n ++ rest) = (n, rest) := by
  induction n using Nat.strongRecOn with
  | ind n ih =>
      rcases Nat.lt_or_ge n 128 with hsmall | hlarge
      · rw [varintBytes_of_lt hsmall, List.singleton_append, varintRead,
          UInt8.toNat_ofNat_of_lt' (show n < 256 by omega), if_pos hsmall]
      · have hbyte : (UInt8.ofNat (n % 128 + 128)).toNat = n % 128 + 128 :=
          UInt8.toNat_ofNat_of_lt' (show n % 128 + 128 < 256 by omega)
        rw [varintBytes, if_neg (by omega), List.cons_append, varintRead, hbyte,
          if_neg (by omega), ih (n / 128) (by omega)]
        simp only [Prod.mk.injEq, and_true]
        omega

/-- Natural numbers of any size. -/
def varint : Coder Nat where
  bytes := varintBytes
  read buffer := ((varintRead buffer.unread).1, { buffer with unread := (varintRead buffer.unread).2 })
  read_append n rest := by
    have hread : varintRead (Buffer.of (varintBytes n ++ rest)).unread = (n, rest) :=
      varintRead_append n rest
    rw [hread]
    rfl

/-- Bytes behind their number. -/
def string : Coder (List UInt8) where
  bytes s := varint.bytes s.length ++ s
  read buffer := (varint.read buffer).2.read (varint.read buffer).1
  read_append s rest := by
    rw [List.append_assoc, varint.read_append, Buffer.read_append]

end Coder

end Wire
