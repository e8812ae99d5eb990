import Mathlib.Algebra.GroupWithZero.Nat
import Mathlib.Data.List.Basic

/-!
# Little-endian numerals

A fixed number of bytes, lowest first, and the number they denote.  The two
directions are inverse to each other on numerals that fit the width, so a
packed record of such fields is determined by its bytes and conversely.
-/

namespace RemoteWay.Base

/-- The low `width` bytes of `value`, lowest first. -/
def leBytes : Nat → Nat → List UInt8
  | 0, _ => []
  | width + 1, value =>
      UInt8.ofNat value :: leBytes width (value / 256)

/-- The number whose little-endian bytes are `bytes`. -/
def leValue : List UInt8 → Nat
  | [] => 0
  | byte :: rest => byte.toNat + 256 * leValue rest

@[simp]
theorem length_leBytes :
    ∀ width value, (leBytes width value).length = width
  | 0, _ => rfl
  | width + 1, value => by
      rw [leBytes, List.length_cons, length_leBytes width]

theorem leValue_leBytes :
    ∀ width value, leValue (leBytes width value) = value % 256 ^ width
  | 0, value => by
      simp [leBytes, leValue, Nat.mod_one]
  | width + 1, value => by
      have lowByte : (UInt8.ofNat value).toNat = value % 256 := by
        simp
      have split : value % (256 * 256 ^ width) =
          value % 256 + 256 * (value / 256 % 256 ^ width) :=
        Nat.mod_mul
      rw [leBytes, leValue, leValue_leBytes width, lowByte, Nat.pow_succ',
        split]

theorem leValue_leBytes_of_lt {width value : Nat}
    (fits : value < 256 ^ width) :
    leValue (leBytes width value) = value := by
  rw [leValue_leBytes, Nat.mod_eq_of_lt fits]

theorem leBytes_leValue :
    ∀ bytes : List UInt8, leBytes bytes.length (leValue bytes) = bytes
  | [] => rfl
  | byte :: rest => by
      have byteBound : byte.toNat < 256 := byte.toNat_lt
      have quotient : (byte.toNat + 256 * leValue rest) / 256 =
          leValue rest := by omega
      have lowByte :
          UInt8.ofNat (byte.toNat + 256 * leValue rest) = byte := by
        apply UInt8.toNat.inj
        rw [UInt8.toNat_ofNat']
        omega
      rw [List.length_cons, leValue, leBytes, quotient, lowByte,
        leBytes_leValue rest]

theorem leValue_lt :
    ∀ bytes : List UInt8, leValue bytes < 256 ^ bytes.length
  | [] => by
      simp [leValue]
  | byte :: rest => by
      have byteBound : byte.toNat < 256 := byte.toNat_lt
      have tailBound := leValue_lt rest
      rw [leValue, List.length_cons, Nat.pow_succ]
      omega

/-! ## Fixed-width fields -/

def u16Bytes (value : UInt16) : List UInt8 :=
  leBytes 2 value.toNat

def u32Bytes (value : UInt32) : List UInt8 :=
  leBytes 4 value.toNat

def u64Bytes (value : UInt64) : List UInt8 :=
  leBytes 8 value.toNat

def u16OfBytes (bytes : List UInt8) : UInt16 :=
  UInt16.ofNat (leValue bytes)

def u32OfBytes (bytes : List UInt8) : UInt32 :=
  UInt32.ofNat (leValue bytes)

def u64OfBytes (bytes : List UInt8) : UInt64 :=
  UInt64.ofNat (leValue bytes)

@[simp]
theorem length_u16Bytes (value : UInt16) :
    (u16Bytes value).length = 2 :=
  length_leBytes 2 value.toNat

@[simp]
theorem length_u32Bytes (value : UInt32) :
    (u32Bytes value).length = 4 :=
  length_leBytes 4 value.toNat

@[simp]
theorem length_u64Bytes (value : UInt64) :
    (u64Bytes value).length = 8 :=
  length_leBytes 8 value.toNat

@[simp]
theorem u16OfBytes_u16Bytes (value : UInt16) :
    u16OfBytes (u16Bytes value) = value := by
  rw [u16OfBytes, u16Bytes, leValue_leBytes_of_lt value.toNat_lt]
  exact UInt16.ofNat_toNat

@[simp]
theorem u32OfBytes_u32Bytes (value : UInt32) :
    u32OfBytes (u32Bytes value) = value := by
  rw [u32OfBytes, u32Bytes, leValue_leBytes_of_lt value.toNat_lt]
  exact UInt32.ofNat_toNat

@[simp]
theorem u64OfBytes_u64Bytes (value : UInt64) :
    u64OfBytes (u64Bytes value) = value := by
  rw [u64OfBytes, u64Bytes, leValue_leBytes_of_lt value.toNat_lt]
  exact UInt64.ofNat_toNat

theorem u16Bytes_u16OfBytes {bytes : List UInt8}
    (width : bytes.length = 2) : u16Bytes (u16OfBytes bytes) = bytes := by
  have fits := leValue_lt bytes
  rw [width] at fits
  rw [u16Bytes, u16OfBytes, UInt16.toNat_ofNat_of_lt' fits, ← width,
    leBytes_leValue]

theorem u32Bytes_u32OfBytes {bytes : List UInt8}
    (width : bytes.length = 4) : u32Bytes (u32OfBytes bytes) = bytes := by
  have fits := leValue_lt bytes
  rw [width] at fits
  rw [u32Bytes, u32OfBytes, UInt32.toNat_ofNat_of_lt' fits, ← width,
    leBytes_leValue]

theorem u64Bytes_u64OfBytes {bytes : List UInt8}
    (width : bytes.length = 8) : u64Bytes (u64OfBytes bytes) = bytes := by
  have fits := leValue_lt bytes
  rw [width] at fits
  rw [u64Bytes, u64OfBytes, UInt64.toNat_ofNat_of_lt' fits, ← width,
    leBytes_leValue]

/-! ## Records of 32-bit fields -/

def u32Fields (fields : List UInt32) : List UInt8 :=
  fields.flatMap u32Bytes

/-- The field with number `index` of a record at the front of `bytes`. -/
def u32FieldAt (bytes : List UInt8) (index : Nat) : UInt32 :=
  u32OfBytes ((bytes.drop (4 * index)).take 4)

@[simp]
theorem length_u32Fields :
    ∀ fields : List UInt32, (u32Fields fields).length = 4 * fields.length
  | [] => rfl
  | field :: rest => by
      have tail := length_u32Fields rest
      rw [u32Fields] at tail ⊢
      rw [List.flatMap_cons, List.length_append, tail, length_u32Bytes,
        List.length_cons]
      omega

theorem u32FieldAt_u32Fields (more : List UInt8) :
    ∀ (fields : List UInt32) (index : Nat) (inside : index < fields.length),
      u32FieldAt (u32Fields fields ++ more) index = fields[index]
  | [], _, inside => absurd inside (Nat.not_lt_zero _)
  | field :: rest, 0, _ => by
      rw [u32FieldAt, u32Fields, List.flatMap_cons, List.append_assoc,
        Nat.mul_zero, List.drop_zero,
        List.take_append_of_le_length (by simp),
        List.take_of_length_le (by simp), u32OfBytes_u32Bytes]
      rfl
  | field :: rest, index + 1, inside => by
      have tail := u32FieldAt_u32Fields more rest index
        (Nat.lt_of_succ_lt_succ inside)
      have shifted (later : List UInt8) :
          (u32Bytes field ++ later).drop (4 * (index + 1)) =
            later.drop (4 * index) := by
        rw [show 4 * (index + 1) = 4 + 4 * index by omega,
          ← List.drop_drop, List.drop_left' (length_u32Bytes field)]
      rw [u32FieldAt, u32Fields] at tail ⊢
      rw [List.flatMap_cons, List.append_assoc, shifted, tail]
      rfl

theorem u32Fields_u32FieldAt (bytes : List UInt8) :
    ∀ count, 4 * count ≤ bytes.length →
      u32Fields ((List.range count).map (u32FieldAt bytes)) =
        bytes.take (4 * count)
  | 0, _ => by
      simp [u32Fields]
  | count + 1, enough => by
      have front := u32Fields_u32FieldAt bytes count (by omega)
      have lastField :
          u32Bytes (u32FieldAt bytes count) =
            (bytes.drop (4 * count)).take 4 :=
        u32Bytes_u32OfBytes (by
          rw [List.length_take, List.length_drop]
          omega)
      rw [u32Fields] at front ⊢
      rw [List.range_succ, List.map_append, List.flatMap_append, front,
        Nat.mul_succ, List.take_add]
      simp only [List.map_cons, List.map_nil, List.flatMap_cons,
        List.flatMap_nil, List.append_nil, lastField]

/-! ## Packed records -/

/-- The layout of a record of fixed size, which is read off the front of the
bytes that start with it. -/
structure Packed (record : Type) where
  size : Nat
  asBytes : record → List UInt8
  ofFront : List UInt8 → record
  length_asBytes : ∀ value, (asBytes value).length = size
  ofFront_asBytes : ∀ value more, ofFront (asBytes value ++ more) = value

namespace Packed

variable {record : Type} (layout : Packed record)

/-- Reading a record takes exactly as many bytes as it has. -/
def refFromBytes (bytes : List UInt8) : Option record :=
  if bytes.length = layout.size then some (layout.ofFront bytes) else none

theorem refFromBytes_of_length {bytes : List UInt8}
    (width : bytes.length = layout.size) :
    layout.refFromBytes bytes = some (layout.ofFront bytes) :=
  if_pos width

/-- A record is read back from bytes that start with it. -/
theorem refFromBytes_take (value : record) (more : List UInt8) :
    layout.refFromBytes ((layout.asBytes value ++ more).take layout.size) =
      some value := by
  have width := layout.length_asBytes value
  have whole := layout.ofFront_asBytes value []
  rw [List.append_nil] at whole
  rw [List.take_left' width, layout.refFromBytes_of_length width, whole]

end Packed

end RemoteWay.Base
