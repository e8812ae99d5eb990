import Mathlib.Data.Rat.Floor
import Mathlib.Tactic.NormNum
import RemoteWay.Interpolate.Manager

/-!
# Linear blend

The CPU backend: pixels are blended in integer arithmetic, and the result is
stamped at the interpolated time.  The factor and the product with it are
exact here.
-/

namespace RemoteWay.Interpolate

def GpuFrame.sameDimensions (a b : GpuFrame) : Bool :=
  a.width == b.width && a.height == b.height && a.stride == b.stride

/-- Documented behaviour of a backend: frames that differ in size are
refused. -/
def FrameInterpolator.RefusesMismatch {state : Type}
    (interpolator : FrameInterpolator state) : Prop :=
  ∀ backend a b t, a.sameDimensions b = false →
    ∃ after reason,
      interpolator.interpolate backend a b t = (after, .error reason)

/-- The backend has a result for frames of one size, stamped at the
interpolated time. -/
def FrameInterpolator.StampsMidpoint {state : Type}
    (interpolator : FrameInterpolator state) : Prop :=
  ∀ backend a b, a.sameDimensions b = true →
    ∃ after frame,
      interpolator.interpolate backend a b (1 / 2) = (after, .ok frame) ∧
        frame.timestampNs.toNat = a.timestampNs.toNat +
          (b.timestampNs.toNat - a.timestampNs.toNat) / 2

namespace LinearBlend

/-- Blend two bytes with weights that add up to 256. -/
def blendByte (invT tFixed : Nat) (va vb : UInt8) : UInt8 :=
  UInt8.ofNat ((va.toNat * invT + vb.toNat * tFixed) >>> 8)

/-- The time between two timestamps, or the first if they are reversed. -/
def interpolatedTimestamp (a b : UInt64) (t : Rat) : UInt64 :=
  if a ≤ b then
    a + UInt64.ofNat (((b - a).toNat : Rat) * t).floor.toNat
  else
    a

def interpolate (a b : GpuFrame) (t : Rat) :
    Except InterpolateError GpuFrame :=
  if ¬ (0 ≤ t ∧ t ≤ 1) then
    .error (.invalidFactor t)
  else if !a.sameDimensions b then
    .error (.dimensionMismatch a.width a.height b.width b.height)
  else
    let tFixed := (t * 256).floor.toNat
    let invT := 256 - tFixed
    .ok
      { data := List.zipWith (blendByte invT tFixed) a.data b.data
        width := a.width
        height := a.height
        stride := a.stride
        timestampNs :=
          interpolatedTimestamp a.timestampNs b.timestampNs t }

end LinearBlend

/-- `LinearBlendInterpolator`, which has no state. -/
def linearBlend : FrameInterpolator Unit where
  interpolate backend a b t := (backend, LinearBlend.interpolate a b t)

theorem linearBlend_refusesMismatch : linearBlend.RefusesMismatch := by
  intro backend a b t differ
  refine ⟨backend, ?_⟩
  by_cases valid : 0 ≤ t ∧ t ≤ 1
  · refine ⟨.dimensionMismatch a.width a.height b.width b.height, ?_⟩
    simp [linearBlend, LinearBlend.interpolate, valid, differ]
  · refine ⟨.invalidFactor t, ?_⟩
    rw [linearBlend]
    dsimp only
    rw [LinearBlend.interpolate, if_pos valid]

/-- Half of a time difference, rounded down. -/
private theorem floor_half (delta : Nat) :
    (((delta : Rat) * (1 / 2)).floor).toNat = delta / 2 := by
  have halved : (delta : Rat) * (1 / 2) = (delta : Rat) / ((2 : Nat) : Rat) := by
    rw [mul_one_div]
    rfl
  have floored : ((delta : Rat) / ((2 : Nat) : Rat)).floor =
      ((delta / 2 : Nat) : Int) := by
    rw [Int.natCast_ediv]
    exact Rat.floor_natCast_div_natCast delta 2
  rw [halved, floored, Int.toNat_natCast]

theorem linearBlend_stampsMidpoint : linearBlend.StampsMidpoint := by
  intro backend a b same
  have valid : (0 : Rat) ≤ 1 / 2 ∧ (1 / 2 : Rat) ≤ 1 := by norm_num
  refine ⟨backend,
    { data := List.zipWith (LinearBlend.blendByte
        (256 - ((1 / 2 : Rat) * 256).floor.toNat)
        ((1 / 2 : Rat) * 256).floor.toNat) a.data b.data
      width := a.width
      height := a.height
      stride := a.stride
      timestampNs := LinearBlend.interpolatedTimestamp a.timestampNs
        b.timestampNs (1 / 2) }, ?_, ?_⟩
  · rw [linearBlend]
    dsimp only
    rw [LinearBlend.interpolate, if_neg (not_not.mpr valid), same]
    rfl
  · change (LinearBlend.interpolatedTimestamp _ _ _).toNat = _
    rw [LinearBlend.interpolatedTimestamp]
    by_cases ordered : a.timestampNs ≤ b.timestampNs
    · have below := UInt64.le_iff_toNat_le.mp ordered
      have bound := b.timestampNs.toNat_lt
      rw [if_pos ordered, UInt64.toNat_sub_of_le _ _ ordered, floor_half,
        UInt64.toNat_add, UInt64.toNat_ofNat_of_lt']
      · apply Nat.mod_eq_of_lt
        omega
      · change _ < 2 ^ 64
        omega
    · have above := Nat.lt_of_not_le fun le =>
        ordered (UInt64.le_iff_toNat_le.mpr le)
      rw [if_neg ordered]
      omega

end RemoteWay.Interpolate
