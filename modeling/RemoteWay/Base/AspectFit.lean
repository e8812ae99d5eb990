import Mathlib.Algebra.Order.Field.Rat
import Mathlib.Data.Nat.Cast.Order.Field
import Mathlib.Tactic.Linarith

/-!
# The largest rectangle of a proportion in another

One side of the rectangle is that of the other, and the other side is the
proportional length, rounded down but never below one.
-/

namespace RemoteWay.Base

/-- The proportional length, rounded down but at least one. -/
def fittedSide (source along other : ℕ) : ℕ :=
  max 1 (along * source / other)

/-- The sides of the fitted rectangle. -/
def aspectFit (srcW srcH dstW dstH : ℕ) : ℕ × ℕ :=
  if srcW * dstH ≤ dstW * srcH then
    (fittedSide srcW dstH srcH, dstH)
  else
    (dstW, fittedSide srcH dstW srcW)

theorem one_le_fittedSide (source along other : ℕ) :
    1 ≤ fittedSide source along other :=
  Nat.le_max_left _ _

theorem fittedSide_le {source along other limit : ℕ} (room : 1 ≤ limit)
    (fits : source * along ≤ limit * other) :
    fittedSide source along other ≤ limit := by
  refine Nat.max_le.mpr ⟨room, ?_⟩
  apply Nat.div_le_of_le_mul
  rw [Nat.mul_comm along, Nat.mul_comm other]
  exact fits

/-- A proportional side along a shorter one is less than a unit longer. -/
theorem lt_fittedSide_add_one {source along other : ℕ}
    (positive : 1 ≤ other) {first second : ℚ}
    (proportional : first * other = second * source)
    (shorter : second ≤ along) :
    first < fittedSide source along other + 1 := by
  have positive' : (0 : ℚ) < other := Nat.cast_pos.mpr positive
  have quotient : along * source <
      (fittedSide source along other + 1) * other := by
    have divided : along * source / other ≤ fittedSide source along other :=
      Nat.le_max_right _ _
    have below := Nat.lt_mul_div_succ (along * source) positive
    have raised : other * (along * source / other + 1) ≤
        other * (fittedSide source along other + 1) :=
      Nat.mul_le_mul_left other (Nat.succ_le_succ divided)
    rw [Nat.mul_comm _ other]
    exact Nat.lt_of_lt_of_le below raised
  have casted : (along : ℚ) * source <
      (fittedSide source along other + 1) * other := by
    exact_mod_cast quotient
  have bounded : second * source ≤ (along : ℚ) * source :=
    mul_le_mul_of_nonneg_right shorter (Nat.cast_nonneg source)
  have product : first * other <
      (fittedSide source along other + 1 : ℚ) * other := by
    rw [proportional]
    exact lt_of_le_of_lt bounded casted
  exact lt_of_mul_lt_mul_right product positive'.le

/-- What makes a rectangle the largest one of its proportion that fits. -/
structure MaximalFit (srcW srcH dstW dstH : ℕ) (fitted : ℕ × ℕ) : Prop where
  width : 1 ≤ fitted.1 ∧ fitted.1 ≤ dstW
  height : 1 ≤ fitted.2 ∧ fitted.2 ≤ dstH
  sides : (fitted.1 = max 1 (dstH * srcW / srcH) ∧ fitted.2 = dstH) ∨
    (fitted.1 = dstW ∧ fitted.2 = max 1 (dstW * srcH / srcW))
  /-- No rectangle of the proportion fits that is a unit longer. -/
  maximal : ∀ width height : ℚ, width * srcH = height * srcW →
    width ≤ dstW → height ≤ dstH →
      width < fitted.1 + 1 ∧ height < fitted.2 + 1

theorem maximalFit_aspectFit {srcW srcH dstW dstH : ℕ}
    (sourceWide : 1 ≤ srcW) (sourceHigh : 1 ≤ srcH) (wide : 1 ≤ dstW)
    (high : 1 ≤ dstH) :
    MaximalFit srcW srcH dstW dstH (aspectFit srcW srcH dstW dstH) := by
  rw [aspectFit]
  by_cases narrow : srcW * dstH ≤ dstW * srcH
  · rw [if_pos narrow]
    refine ⟨⟨one_le_fittedSide _ _ _, fittedSide_le wide narrow⟩,
      ⟨high, le_refl dstH⟩, Or.inl ⟨rfl, rfl⟩, ?_⟩
    intro width height proportional _ lower
    exact ⟨lt_fittedSide_add_one sourceHigh proportional lower,
      lt_of_le_of_lt lower (lt_add_one _)⟩
  · rw [if_neg narrow]
    have flat : srcH * dstW ≤ dstH * srcW := by
      rw [Nat.mul_comm srcH, Nat.mul_comm dstH]
      exact Nat.le_of_lt (Nat.lt_of_not_le narrow)
    refine ⟨⟨wide, le_refl dstW⟩,
      ⟨one_le_fittedSide _ _ _, fittedSide_le high flat⟩,
      Or.inr ⟨rfl, rfl⟩, ?_⟩
    intro width height proportional inside _
    exact ⟨lt_of_le_of_lt inside (lt_add_one _),
      lt_fittedSide_add_one sourceWide proportional.symm inside⟩

end RemoteWay.Base
