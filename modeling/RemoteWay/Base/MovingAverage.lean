import Mathlib.Algebra.Order.Ring.Nat
import Mathlib.Tactic.Ring

/-!
# Moving averages of natural numbers

A sample moves the average by its share of the distance, rounded down.  If
the samples stay within bounds, the distance of the average from these bounds
shrinks by a constant factor with each sample.  Below the bounds the rounding
leaves a margin of the weight of the old average.
-/

namespace RemoteWay.Base

/-- The old average counts as many times as the weight, the sample once. -/
def blend (weight average sample : ℕ) : ℕ :=
  (average * weight + sample) / (weight + 1)

variable {weight average sample least most : ℕ}

theorem le_blend_iff {bound : ℕ} :
    bound ≤ blend weight average sample ↔
      bound * (weight + 1) ≤ average * weight + sample :=
  Nat.le_div_iff_mul_le (Nat.succ_pos weight)

theorem blend_lt_iff {bound : ℕ} :
    blend weight average sample < bound ↔
      average * weight + sample < bound * (weight + 1) :=
  Nat.div_lt_iff_lt_mul (Nat.succ_pos weight)

/-- The average stays below a bound of the average and the sample. -/
theorem blend_le (averageBelow : average ≤ most) (sampleBelow : sample ≤ most) :
    blend weight average sample ≤ most := by
  rw [← Nat.lt_succ_iff, blend_lt_iff]
  calc
    average * weight + sample ≤ most * weight + most :=
      Nat.add_le_add (Nat.mul_le_mul_right weight averageBelow) sampleBelow
    _ = most * (weight + 1) := by ring
    _ < (most + 1) * (weight + 1) :=
      Nat.mul_lt_mul_of_pos_right (Nat.lt_succ_self most)
        (Nat.succ_pos weight)

theorem le_blend (averageAbove : least ≤ average)
    (sampleAbove : least ≤ sample) : least ≤ blend weight average sample := by
  rw [le_blend_iff]
  calc
    least * (weight + 1) = least * weight + least := by ring
    _ ≤ average * weight + sample :=
      Nat.add_le_add (Nat.mul_le_mul_right weight averageAbove) sampleAbove

/-- A repeated sample moves the average until it is at most the weight
below. -/
theorem blend_eq_self_iff :
    blend weight average sample = average ↔
      average ≤ sample ∧ sample ≤ average + weight := by
  have product : average * (weight + 1) = average * weight + average := by
    ring
  have next : (average + 1) * (weight + 1) =
      average * weight + average + (weight + 1) := by
    ring
  rw [Nat.le_antisymm_iff, le_blend_iff, ← Nat.lt_succ_iff,
    Nat.succ_eq_add_one, blend_lt_iff]
  omega

/-! ## Distance -/

/-- How far the average is above the bounds of the samples, or below them by
more than the weight. -/
def gap (weight least most average : ℕ) : ℕ :=
  max (average - most) (least - weight - average)

theorem gap_eq_zero_iff :
    gap weight least most average = 0 ↔
      least ≤ average + weight ∧ average ≤ most := by
  rw [gap]
  omega

theorem gap_of_sample (above : least ≤ sample) (below : sample ≤ most) :
    gap weight least most sample = 0 :=
  gap_eq_zero_iff.mpr ⟨Nat.le_add_right_of_le above, below⟩

theorem gap_le_max {bound : ℕ} (averageBelow : average ≤ bound)
    (leastBelow : least ≤ bound) : gap weight least most average ≤ bound := by
  rw [gap]
  omega

/-- A sample within the bounds shrinks the distance. -/
theorem gap_blend (above : least ≤ sample) (below : sample ≤ most) :
    (weight + 1) * gap weight least most (blend weight average sample) ≤
      weight * gap weight least most average := by
  have lower : (weight + 1) * blend weight average sample ≤
      average * weight + sample := Nat.mul_div_le _ _
  have upper : average * weight + sample <
      (weight + 1) * blend weight average sample + (weight + 1) :=
    Nat.lt_mul_div_succ _ (Nat.succ_pos weight)
  have commuted : average * weight = weight * average := Nat.mul_comm _ _
  have excess : (weight + 1) * (blend weight average sample - most) ≤
      weight * (average - most) := by
    have split : (weight + 1) * most = weight * most + most :=
      Nat.succ_mul weight most
    rw [Nat.mul_sub, Nat.mul_sub]
    omega
  have deficit :
      (weight + 1) * (least - weight - blend weight average sample) ≤
        weight * (least - weight - average) := by
    by_cases small : least ≤ weight
    · rw [Nat.sub_eq_zero_of_le small, Nat.zero_sub, Nat.mul_zero]
      exact Nat.zero_le _
    · have split : (weight + 1) * (least - weight) =
          weight * (least - weight) + (least - weight) :=
        Nat.succ_mul weight (least - weight)
      rw [Nat.mul_sub _ (least - weight), Nat.mul_sub _ (least - weight)]
      omega
  rw [gap, gap, ← Nat.mul_max_mul_left, ← Nat.mul_max_mul_left]
  exact max_le_max excess deficit

/-! ## Runs -/

/-- The average moves by a sample within the bounds, or becomes one. -/
def Sampled (weight least most before after : ℕ) : Prop :=
  ∃ sample, least ≤ sample ∧ sample ≤ most ∧
    (after = sample ∨ after = blend weight before sample)

theorem Sampled.gap_le {before after : ℕ}
    (sampled : Sampled weight least most before after) :
    (weight + 1) * gap weight least most after ≤
      weight * gap weight least most before := by
  obtain ⟨sample, above, below, same⟩ := sampled
  rcases same with rfl | rfl
  · rw [gap_of_sample above below, Nat.mul_zero]
    exact Nat.zero_le _
  · exact gap_blend above below

/-- What some number of such moves leads to. -/
inductive SampledTimes (weight least most : ℕ) : ℕ → ℕ → ℕ → Prop where
  | nil {average : ℕ} : SampledTimes weight least most 0 average average
  | cons {times first next last : ℕ}
      (here : Sampled weight least most first next)
      (later : SampledTimes weight least most times next last) :
      SampledTimes weight least most (times + 1) first last

/-- The distance shrinks geometrically. -/
theorem SampledTimes.gap_le {times first last : ℕ}
    (sampled : SampledTimes weight least most times first last) :
    (weight + 1) ^ times * gap weight least most last ≤
      weight ^ times * gap weight least most first := by
  induction sampled with
  | nil => exact Nat.le_refl _
  | @cons times first next last here later inductionHypothesis =>
      calc
        (weight + 1) ^ (times + 1) * gap weight least most last =
            (weight + 1) *
              ((weight + 1) ^ times * gap weight least most last) := by
          ring
        _ ≤ (weight + 1) *
              (weight ^ times * gap weight least most next) :=
          Nat.mul_le_mul_left _ inductionHypothesis
        _ = weight ^ times *
              ((weight + 1) * gap weight least most next) := by
          ring
        _ ≤ weight ^ times * (weight * gap weight least most first) :=
          Nat.mul_le_mul_left _ here.gap_le
        _ = weight ^ (times + 1) * gap weight least most first := by
          ring

theorem pow_enough {distance steps times : ℕ}
    (enough : weight ^ steps * distance < (weight + 1) ^ steps)
    (more : steps ≤ times) :
    weight ^ times * distance < (weight + 1) ^ times := by
  obtain ⟨others, rfl⟩ := Nat.exists_eq_add_of_le more
  calc
    weight ^ (steps + others) * distance =
        weight ^ others * (weight ^ steps * distance) := by
      ring
    _ ≤ (weight + 1) ^ others * (weight ^ steps * distance) :=
      Nat.mul_le_mul_right _ (Nat.pow_le_pow_left (Nat.le_succ weight) others)
    _ < (weight + 1) ^ others * (weight + 1) ^ steps :=
      Nat.mul_lt_mul_of_pos_left enough (Nat.pow_pos (Nat.succ_pos weight))
    _ = (weight + 1) ^ (steps + others) := by
      ring

/-- Enough moves bring the average within the bounds, up to the weight. -/
theorem SampledTimes.settles {steps times first last : ℕ}
    (sampled : SampledTimes weight least most times first last)
    (enough : weight ^ steps * gap weight least most first <
      (weight + 1) ^ steps)
    (more : steps ≤ times) : least ≤ last + weight ∧ last ≤ most := by
  rw [← gap_eq_zero_iff]
  by_contra apart
  have positive : 0 < gap weight least most last :=
    Nat.pos_of_ne_zero apart
  have whole : (weight + 1) ^ times ≤
      (weight + 1) ^ times * gap weight least most last :=
    Nat.le_mul_of_pos_right _ positive
  exact absurd (Nat.lt_of_le_of_lt (whole.trans sampled.gap_le)
    (pow_enough enough more)) (Nat.lt_irrefl _)

end RemoteWay.Base
