import RemoteWay.Base.AspectFit
import RemoteWay.Display.Viewport

/-!
# The fitted destination is the largest

`fit_preserve_aspect` compares the proportions by products of `u64` and
narrows a quotient to `i32`.  For sizes of 32 bits neither overflows, and the
result is the largest rectangle of the proportion that fits.
-/

namespace RemoteWay.Display

open RemoteWay.Base

section Widening

theorem u64Mul_of_lt (profile : Profile) {left right : UInt64}
    (small : left.toNat * right.toNat < 2 ^ 64) :
    u64Mul profile left right = .ok (left * right) :=
  if_pos small

theorem toNat_toUInt64_of_one_le {side : Int32} (positive : 1 ≤ side.toInt) :
    side.toInt64.toUInt64.toNat = side.toInt.toNat := by
  have nonneg : (0 : Int64) ≤ side.toInt64 := by
    rw [Int64.le_iff_toInt_le, Int32.toInt_toInt64]
    change (0 : Int) ≤ side.toInt
    omega
  rw [Int64.toNat_toUInt64_of_le nonneg, ← Int64.toNat_toInt,
    Int32.toInt_toInt64]

/-- A product of a source side and a destination side fits in `u64`. -/
theorem side_mul_side_lt (source : UInt32) (destination : Int32) :
    destination.toInt.toNat * source.toNat < 2 ^ 63 := by
  have below := destination.toInt_lt
  have inside : destination.toInt.toNat < 2 ^ 31 := by omega
  calc destination.toInt.toNat * source.toNat
      ≤ destination.toInt.toNat * 2 ^ 32 :=
        Nat.mul_le_mul_left _ (Nat.le_of_lt source.toNat_lt)
    _ < 2 ^ 31 * 2 ^ 32 :=
        Nat.mul_lt_mul_of_pos_right inside (by decide)
    _ = 2 ^ 63 := by decide

/-- The product of a destination side and a source side, exactly. -/
theorem u64Mul_sides (profile : Profile) (source : UInt32)
    {destination : Int32} (positive : 1 ≤ destination.toInt) :
    ∃ product, u64Mul profile destination.toInt64.toUInt64
        source.toUInt64 = .ok product ∧
      product.toNat = destination.toInt.toNat * source.toNat := by
  have small := side_mul_side_lt source destination
  have widened := toNat_toUInt64_of_one_le positive
  refine ⟨_, u64Mul_of_lt profile ?_, ?_⟩
  · rw [widened, UInt32.toNat_toUInt64]
    omega
  · rw [UInt64.toNat_mul, widened, UInt32.toNat_toUInt64]
    exact Nat.mod_eq_of_lt (by omega)

theorem u64Mul_comm (profile : Profile) (left right : UInt64) :
    u64Mul profile left right = u64Mul profile right left := by
  unfold u64Mul
  rw [Nat.mul_comm left.toNat, UInt64.mul_comm left]

/-- A quotient below `2 ^ 31` survives the cast to `i32`. -/
theorem toInt_quotient {product : UInt64} {other : UInt32} {length : Nat}
    (same : product.toNat = length)
    (small : length / other.toNat < 2 ^ 31) :
    (max (product / other.toUInt64).toUInt32.toInt32 1).toInt =
      ((max 1 (length / other.toNat) : Nat) : Int) := by
  have quotient : (product / other.toUInt64).toUInt32.toNat =
      length / other.toNat := by
    rw [UInt64.toNat_toUInt32, UInt64.toNat_div, UInt32.toNat_toUInt64,
      same]
    exact Nat.mod_eq_of_lt (by omega)
  have cast : (product / other.toUInt64).toUInt32.toInt32.toInt =
      ((length / other.toNat : Nat) : Int) := by
    rw [u32_toInt_toInt32 (by rw [quotient]; exact small), quotient]
  rw [i32_toInt_max, cast]
  change max ((length / other.toNat : Nat) : Int) 1 = _
  omega

end Widening

/-- The code computes the fitted rectangle exactly, in both build
profiles. -/
theorem fitPreserveAspect_eq (profile : Profile) {srcW srcH : UInt32}
    {dstW dstH : Int32} (sourceWide : 1 ≤ srcW.toNat)
    (sourceHigh : 1 ≤ srcH.toNat) (wide : 1 ≤ dstW.toInt)
    (high : 1 ≤ dstH.toInt) :
    ∃ fitted, fitPreserveAspect profile srcW srcH dstW dstH = .ok fitted ∧
      (fitted.1.toInt.toNat, fitted.2.toInt.toNat) =
        aspectFit srcW.toNat srcH.toNat dstW.toInt.toNat
          dstH.toInt.toNat := by
  have nonzero : ¬ (srcW = 0 ∨ srcH = 0) := by
    rintro (zero | zero)
    · rw [zero] at sourceWide
      cases sourceWide
    · rw [zero] at sourceHigh
      cases sourceHigh
  obtain ⟨lhs, leftDone, left⟩ := u64Mul_sides profile srcW high
  obtain ⟨rhs, rightDone, right⟩ := u64Mul_sides profile srcH wide
  have dstWSmall := dstW.toInt_lt
  have dstHSmall := dstH.toInt_lt
  have compared : lhs ≤ rhs ↔ srcW.toNat * dstH.toInt.toNat ≤
      dstW.toInt.toNat * srcH.toNat := by
    rw [UInt64.le_iff_toNat_le, left, right, Nat.mul_comm srcW.toNat]
  rw [fitPreserveAspect, if_neg nonzero,
    u64Mul_comm profile srcW.toUInt64, leftDone, rightDone, aspectFit]
  simp only [bind, Except.bind]
  by_cases narrow : lhs ≤ rhs
  · rw [if_pos narrow, if_pos (compared.mp narrow)]
    have bounded : dstH.toInt.toNat * srcW.toNat / srcH.toNat ≤
        dstW.toInt.toNat := by
      apply Nat.div_le_of_le_mul
      rw [Nat.mul_comm dstH.toInt.toNat, Nat.mul_comm srcH.toNat]
      exact compared.mp narrow
    refine ⟨_, rfl, ?_⟩
    rw [toInt_quotient left (by omega), Int.toNat_natCast]
    rfl
  · have wider : ¬ srcW.toNat * dstH.toInt.toNat ≤
        dstW.toInt.toNat * srcH.toNat := fun fits =>
      narrow (compared.mpr fits)
    rw [if_neg narrow, if_neg wider]
    have bounded : dstW.toInt.toNat * srcH.toNat / srcW.toNat ≤
        dstH.toInt.toNat := by
      apply Nat.div_le_of_le_mul
      omega
    refine ⟨_, rfl, ?_⟩
    rw [toInt_quotient right (by omega), Int.toNat_natCast]
    rfl

/-- For all source sizes of 32 bits and destination sizes of 31, aspect fit
returns the largest rectangle of the source's proportion that fits, and
nothing overflows. -/
theorem fitPreserveAspect_maximal (profile : Profile) {srcW srcH : UInt32}
    {dstW dstH : Int32} (sourceWide : 1 ≤ srcW.toNat)
    (sourceHigh : 1 ≤ srcH.toNat) (wide : 1 ≤ dstW.toInt)
    (high : 1 ≤ dstH.toInt) :
    ∃ fittedW fittedH,
      fitPreserveAspect profile srcW srcH dstW dstH =
          .ok (fittedW, fittedH) ∧
        MaximalFit srcW.toNat srcH.toNat dstW.toInt.toNat dstH.toInt.toNat
          (fittedW.toInt.toNat, fittedH.toInt.toNat) := by
  obtain ⟨⟨fittedW, fittedH⟩, computed, same⟩ :=
    fitPreserveAspect_eq profile sourceWide sourceHigh wide high
  refine ⟨fittedW, fittedH, computed, ?_⟩
  rw [same]
  exact maximalFit_aspectFit sourceWide sourceHigh (by omega) (by omega)

/-- The widest source in the smallest window, whose height is raised to one
pixel. -/
theorem fitPreserveAspect_maximal_widest :
    ∃ fittedW fittedH,
      fitPreserveAspect .dev 4294967295 1 2147483647 1 =
          .ok (fittedW, fittedH) ∧
        MaximalFit 4294967295 1 2147483647 1
          (fittedW.toInt.toNat, fittedH.toInt.toNat) :=
  @fitPreserveAspect_maximal .dev 4294967295 1 2147483647 1 (by decide)
    (by decide) (by decide) (by decide)

end RemoteWay.Display
