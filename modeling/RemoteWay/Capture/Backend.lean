import RemoteWay.Compress.Delta

/-!
# Captured frames

The frames a capture backend returns.  `WellFormed` is what the shared
memory buffers guarantee: whole rows of `stride` bytes, `width` pixels in
each, and damage inside the picture.
-/

namespace RemoteWay.Capture

open RemoteWay.Compress

/-- Pixel format of captured frames. -/
inductive PixelFormat where
  | argb8888
  | xrgb8888
  | abgr8888
  | xbgr8888
  deriving DecidableEq, Repr

/-- A captured frame with pixel data and damage information. -/
structure CapturedFrame where
  data : List UInt8
  damage : List DamageRect
  format : PixelFormat
  width : UInt32
  height : UInt32
  stride : UInt32
  timestampNs : UInt64
  deriving DecidableEq, Repr

/-- The rectangle lies inside a picture of the given size. -/
def InPicture (width height : UInt32) (rect : DamageRect) : Prop :=
  rect.x.toNat + rect.width.toNat ≤ width.toNat ∧
    rect.y.toNat + rect.height.toNat ≤ height.toNat

instance (width height : UInt32) (rect : DamageRect) :
    Decidable (InPicture width height rect) :=
  inferInstanceAs (Decidable (_ ∧ _))

structure CapturedFrame.WellFormed (frame : CapturedFrame) : Prop where
  length_eq : frame.data.length =
    frame.stride.toNat * frame.height.toNat
  rows : frame.width.toNat * 4 ≤ frame.stride.toNat
  damage_inside : ∀ rect, rect ∈ frame.damage →
    InPicture frame.width frame.height rect

instance (frame : CapturedFrame) : Decidable frame.WellFormed :=
  decidable_of_iff
    (frame.data.length = frame.stride.toNat * frame.height.toNat ∧
      frame.width.toNat * 4 ≤ frame.stride.toNat ∧
      ∀ rect, rect ∈ frame.damage →
        InPicture frame.width frame.height rect)
    ⟨fun ⟨length_eq, rows, inside⟩ => ⟨length_eq, rows, inside⟩,
      fun formed =>
        ⟨formed.length_eq, formed.rows, formed.damage_inside⟩⟩

end RemoteWay.Capture
