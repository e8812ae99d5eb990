import RemoteWay.Base.LittleEndian

/-!
# Frame metadata and region descriptors

The records at the start of every `FrameUpdate` and `AnchorFrame` payload.
Both consist of 32-bit fields only.
-/

namespace RemoteWay.Proto

open RemoteWay.Base

/-- Frame payload wire header. -/
structure FrameMeta where
  width : UInt32
  height : UInt32
  stride : UInt32
  numRegions : UInt32
  deriving DecidableEq, Repr

/-- Per-region descriptor: rectangle and compressed blob size. -/
structure WireRegion where
  x : UInt32
  y : UInt32
  w : UInt32
  h : UInt32
  compressedSize : UInt32
  deriving DecidableEq, Repr

namespace FrameMeta

def size : Nat := 16

def asBytes (frameMeta : FrameMeta) : List UInt8 :=
  u32Fields
    [frameMeta.width, frameMeta.height, frameMeta.stride,
      frameMeta.numRegions]

def ofFront (bytes : List UInt8) : FrameMeta where
  width := u32FieldAt bytes 0
  height := u32FieldAt bytes 1
  stride := u32FieldAt bytes 2
  numRegions := u32FieldAt bytes 3

/-- `FrameMeta::ref_from_bytes`. -/
def refFromBytes (bytes : List UInt8) : Option FrameMeta :=
  if bytes.length = size then some (ofFront bytes) else none

@[simp]
theorem length_asBytes (frameMeta : FrameMeta) :
    frameMeta.asBytes.length = size := by
  simp [asBytes, size]

theorem ofFront_asBytes (frameMeta : FrameMeta) (more : List UInt8) :
    ofFront (frameMeta.asBytes ++ more) = frameMeta := by
  cases frameMeta with
  | mk width height stride numRegions =>
      simp [ofFront, asBytes, u32FieldAt_u32Fields]

theorem asBytes_ofFront {bytes : List UInt8}
    (width : bytes.length = size) : (ofFront bytes).asBytes = bytes := by
  have fields := u32Fields_u32FieldAt bytes 4 (Nat.le_of_eq width.symm)
  have whole : bytes.take (4 * 4) = bytes :=
    List.take_of_length_le (Nat.le_of_eq width)
  rw [whole] at fields
  exact fields

theorem refFromBytes_of_length {bytes : List UInt8}
    (width : bytes.length = size) :
    refFromBytes bytes = some (ofFront bytes) := by
  rw [refFromBytes, if_pos width]

theorem refFromBytes_asBytes (frameMeta : FrameMeta) :
    refFromBytes frameMeta.asBytes = some frameMeta := by
  have whole := ofFront_asBytes frameMeta []
  rw [List.append_nil] at whole
  rw [refFromBytes_of_length frameMeta.length_asBytes, whole]

end FrameMeta

namespace WireRegion

def size : Nat := 20

def asBytes (region : WireRegion) : List UInt8 :=
  u32Fields [region.x, region.y, region.w, region.h, region.compressedSize]

def ofFront (bytes : List UInt8) : WireRegion where
  x := u32FieldAt bytes 0
  y := u32FieldAt bytes 1
  w := u32FieldAt bytes 2
  h := u32FieldAt bytes 3
  compressedSize := u32FieldAt bytes 4

/-- `WireRegion::ref_from_bytes`. -/
def refFromBytes (bytes : List UInt8) : Option WireRegion :=
  if bytes.length = size then some (ofFront bytes) else none

@[simp]
theorem length_asBytes (region : WireRegion) :
    region.asBytes.length = size := by
  simp [asBytes, size]

theorem ofFront_asBytes (region : WireRegion) (more : List UInt8) :
    ofFront (region.asBytes ++ more) = region := by
  cases region with
  | mk x y w h compressedSize =>
      simp [ofFront, asBytes, u32FieldAt_u32Fields]

theorem asBytes_ofFront {bytes : List UInt8}
    (width : bytes.length = size) : (ofFront bytes).asBytes = bytes := by
  have fields := u32Fields_u32FieldAt bytes 5 (Nat.le_of_eq width.symm)
  have whole : bytes.take (4 * 5) = bytes :=
    List.take_of_length_le (Nat.le_of_eq width)
  rw [whole] at fields
  exact fields

theorem refFromBytes_of_length {bytes : List UInt8}
    (width : bytes.length = size) :
    refFromBytes bytes = some (ofFront bytes) := by
  rw [refFromBytes, if_pos width]

theorem refFromBytes_asBytes (region : WireRegion) :
    refFromBytes region.asBytes = some region := by
  have whole := ofFront_asBytes region []
  rw [List.append_nil] at whole
  rw [refFromBytes_of_length region.length_asBytes, whole]

end WireRegion

/-- Size of `ResizePayload`: two 16-bit and two 32-bit fields. -/
def resizePayloadSize : Nat := 12

end RemoteWay.Proto
