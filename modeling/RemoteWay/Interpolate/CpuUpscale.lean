import RemoteWay.Interpolate.Bicubic
import RemoteWay.Interpolate.Manager

/-!
# The upscaler of the interpolation crate

`cpu_bicubic_upscale`, the default of `FrameInterpolator::upscale`, clamps
the anchor of the kernel to the picture before it takes the samples around
it.
-/

namespace RemoteWay.Interpolate

open RemoteWay.Base

/-- The anchor is clamped, and then its neighbours. -/
def anchoredIndices : SampleIndices := fun profile size floor => do
  let last ← i32Sub profile size.toInt32 1
  let sFloor := min (max floor 0) last
  let s0 := (max (← i32Sub profile sFloor 1) 0).toUInt32
  let s1 := sFloor.toUInt32
  let s2 := (min (← i32Add profile sFloor 1) last).toUInt32
  let s3 := (min (← i32Add profile sFloor 2) last).toUInt32
  return [s0, s1, s2, s3]

/-- CPU Catmull-Rom bicubic upscale. -/
def cpuBicubicUpscale (profile : Profile) (src : GpuFrame)
    (dstW dstH : UInt32) : Exec GpuFrame := do
  let (dstStride, data) ← bicubicUpscale anchoredIndices profile src.data
    src.width src.height src.stride dstW dstH
  return {
    data := data
    width := dstW
    height := dstH
    stride := dstStride
    timestampNs := src.timestampNs }

def clampAnchor : ℕ → ℤ → ℤ := fun size anchor => clampIndex size anchor

/-- The kernel of the interpolation crate moves its anchor into the
picture. -/
theorem anchoredIndices_realises : Realises anchoredIndices clampAnchor := by
  intro profile size anchor nonempty small lower upper
  have one : (1 : Int32).toInt = 1 := rfl
  have two : (2 : Int32).toInt = 2 := rfl
  have zero : (0 : Int32).toInt = 0 := rfl
  have floor : (Int32.ofIntClamp anchor).toInt = anchor := by
    apply Int32.toInt_ofIntClamp
    · change -2147483648 ≤ anchor
      omega
    · change anchor ≤ 2147483647
      omega
  have sizeEq : size.toInt32.toInt = size.toNat :=
    u32_toInt_toInt32 (by omega)
  obtain ⟨subtracted, last⟩ := @i32Sub_of_inside profile size.toInt32 1
    (by omega) (by omega)
  rw [sizeEq, one] at last
  generalize sFloorEq : min (max (Int32.ofIntClamp anchor) 0)
    (size.toInt32 - 1) = sFloor
  have clamped : sFloor.toInt = max anchor 0 := by
    rw [← sFloorEq, i32_toInt_min, i32_toInt_max, last, floor, zero]
    omega
  obtain ⟨subtractedOne, before⟩ := @i32Sub_of_inside profile sFloor 1
    (by omega) (by omega)
  obtain ⟨addedOne, stop⟩ := @i32Add_of_inside profile sFloor 1
    (by omega) (by omega)
  obtain ⟨addedTwo, after⟩ := @i32Add_of_inside profile sFloor 2
    (by omega) (by omega)
  rw [clamped, one] at before stop
  rw [clamped, two] at after
  have toNat_max : (max (sFloor - 1) 0).toInt = max (sFloor - 1).toInt 0 := by
    rw [i32_toInt_max, zero]
  have toNat_min : ∀ value : Int32, (min value (size.toInt32 - 1)).toInt =
      min value.toInt (size.toNat - 1) := by
    intro value
    rw [i32_toInt_min, last]
  refine ⟨[(max (sFloor - 1) 0).toUInt32, sFloor.toUInt32,
    (min (sFloor + 1) (size.toInt32 - 1)).toUInt32,
    (min (sFloor + 2) (size.toInt32 - 1)).toUInt32], ?_, ?_⟩
  · rw [anchoredIndices, subtracted]
    simp only [bind, Except.bind]
    rw [sFloorEq, subtractedOne]
    dsimp only
    rw [addedOne]
    dsimp only
    rw [addedTwo]
    rfl
  · apply zip_cubicWeight
    · rw [i32_toNat_toUInt32 (by rw [toNat_max]; omega), toNat_max, before,
        clampAnchor, clampIndex, clampIndex]
      omega
    · rw [i32_toNat_toUInt32 (by omega), clamped, clampAnchor, clampIndex,
        clampIndex]
      omega
    · rw [i32_toNat_toUInt32 (by rw [toNat_min]; omega), toNat_min, stop,
        clampAnchor, clampIndex, clampIndex]
      omega
    · rw [i32_toNat_toUInt32 (by rw [toNat_min]; omega), toNat_min, after,
        clampAnchor, clampIndex, clampIndex]
      omega

/-- The upscaled frame, when it fits into a buffer. -/
theorem cpuBicubicUpscale_eq (profile : Profile) (image : SourceImage)
    (timestampNs : UInt64) {dstW dstH : UInt32}
    (fits : dstW.toNat * 4 * dstH.toNat < UInt32.size)
    (hasRows : 0 < dstH.toNat) :
    cpuBicubicUpscale profile
        ⟨image.data, image.width, image.height, image.stride, timestampNs⟩
        dstW dstH =
      .ok ⟨upscaledBytes clampAnchor image dstW.toNat dstH.toNat, dstW,
        dstH, dstW * 4, timestampNs⟩ := by
  rw [cpuBicubicUpscale]
  dsimp only
  rw [bicubicUpscale_eq anchoredIndices_realises fits hasRows]
  rfl

end RemoteWay.Interpolate
