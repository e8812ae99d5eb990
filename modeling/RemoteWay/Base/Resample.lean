import Mathlib.Algebra.BigOperators.Ring.List
import Mathlib.Data.Rat.Floor
import Mathlib.Tactic.Linarith
import Mathlib.Tactic.Ring

/-!
# Resampling with a cubic kernel

A resampled value is a weighted sum of four neighbouring samples, `tapSum`.
The weights are those of the Catmull-Rom kernel, and positions outside the
line are clamped to it.  A line of `size` samples is resampled to `count`
values at the centres of `count` equal intervals.
-/

namespace RemoteWay.Base

/-! ## Weighted samples -/

/-- Sample positions with their weights. -/
abbrev Taps := List (ℕ × ℚ)

def tapSum (taps : Taps) (sample : ℕ → ℚ) : ℚ :=
  (taps.map fun tap => sample tap.1 * tap.2).sum

theorem tapSum_congr {taps : Taps} {first second : ℕ → ℚ}
    (same : ∀ tap, tap ∈ taps → first tap.1 = second tap.1) :
    tapSum taps first = tapSum taps second := by
  rw [tapSum, tapSum, List.map_congr_left fun tap member => by
    rw [same tap member]]

theorem tapSum_const (taps : Taps) (value : ℚ)
    (whole : (taps.map Prod.snd).sum = 1) :
    tapSum taps (fun _ => value) = value := by
  rw [tapSum, List.sum_map_mul_left, whole, mul_one]

/-! ## The kernel -/

/-- The weight of the sample before the interval that a position lies in, at
distance `t` from the start of the interval. -/
def cubicBefore (t : ℚ) : ℚ := 1 / 2 * (-t ^ 3 + 2 * t ^ 2 - t)

/-- The weight of the sample at the start of the interval. -/
def cubicStart (t : ℚ) : ℚ := 1 / 2 * (3 * t ^ 3 - 5 * t ^ 2 + 2)

/-- The weight of the sample at the end of the interval. -/
def cubicStop (t : ℚ) : ℚ := 1 / 2 * (-3 * t ^ 3 + 4 * t ^ 2 + t)

/-- The weight of the sample after the interval. -/
def cubicAfter (t : ℚ) : ℚ := 1 / 2 * (t ^ 3 - t ^ 2)

theorem cubic_sum (t : ℚ) :
    cubicBefore t + (cubicStart t + (cubicStop t + (cubicAfter t + 0))) =
      1 := by
  rw [cubicBefore, cubicStart, cubicStop, cubicAfter]
  ring

theorem cubicBefore_reflect (t : ℚ) : cubicBefore (1 - t) = cubicAfter t := by
  rw [cubicBefore, cubicAfter]
  ring

theorem cubicStart_reflect (t : ℚ) : cubicStart (1 - t) = cubicStop t := by
  rw [cubicStart, cubicStop]
  ring

theorem cubicStop_reflect (t : ℚ) : cubicStop (1 - t) = cubicStart t := by
  rw [cubicStop, cubicStart]
  ring

theorem cubicAfter_reflect (t : ℚ) : cubicAfter (1 - t) = cubicBefore t := by
  rw [cubicBefore, cubicAfter]
  ring

/-! ## Clamping -/

/-- The sample of the line that is nearest to a position. -/
def clampIndex (size : ℕ) (position : ℤ) : ℕ :=
  (max 0 (min position (size - 1))).toNat

variable {size : ℕ}

theorem clampIndex_lt (nonempty : 0 < size) (position : ℤ) :
    clampIndex size position < size := by
  rw [clampIndex]
  omega

theorem clampIndex_of_inside {position : ℕ} (inside : position < size) :
    clampIndex size position = position := by
  rw [clampIndex]
  omega

theorem clampIndex_reflect (nonempty : 0 < size) (position : ℤ) :
    clampIndex size (size - 1 - position) =
      size - 1 - clampIndex size position := by
  rw [clampIndex, clampIndex]
  omega

/-- The four taps of the kernel. -/
def kernelTaps (size : ℕ) (anchor : ℤ) (t : ℚ) : Taps :=
  [(clampIndex size (anchor - 1), cubicBefore t),
    (clampIndex size anchor, cubicStart t),
    (clampIndex size (anchor + 1), cubicStop t),
    (clampIndex size (anchor + 2), cubicAfter t)]

theorem lt_of_mem_kernelTaps (nonempty : 0 < size) {anchor : ℤ} {t : ℚ}
    {tap : ℕ × ℚ} (member : tap ∈ kernelTaps size anchor t) :
    tap.1 < size := by
  simp only [kernelTaps, List.mem_cons, List.not_mem_nil, or_false] at member
  rcases member with rfl | rfl | rfl | rfl <;>
    exact clampIndex_lt nonempty _

theorem kernelTaps_weights (size : ℕ) (anchor : ℤ) (t : ℚ) :
    ((kernelTaps size anchor t).map Prod.snd).sum = 1 :=
  cubic_sum t

/-- At a sample, the kernel is that sample. -/
theorem tapSum_kernelTaps_zero (size : ℕ) (anchor : ℤ)
    (sample : ℕ → ℚ) :
    tapSum (kernelTaps size anchor 0) sample =
      sample (clampIndex size anchor) := by
  simp [tapSum, kernelTaps, cubicBefore, cubicStart, cubicStop, cubicAfter]

/-- The kernel is symmetric. -/
theorem tapSum_kernelTaps_reflect (nonempty : 0 < size) (anchor : ℤ)
    (t : ℚ) (sample : ℕ → ℚ) :
    tapSum (kernelTaps size (size - 2 - anchor) (1 - t)) sample =
      tapSum (kernelTaps size anchor t)
        fun position => sample (size - 1 - position) := by
  have mirrored : ∀ offset : ℤ,
      clampIndex size (size - 2 - anchor + offset) =
        size - 1 - clampIndex size (anchor + (1 - offset)) := by
    intro offset
    rw [← clampIndex_reflect nonempty]
    congr 1
    ring
  have before : clampIndex size (size - 2 - anchor - 1) =
      size - 1 - clampIndex size (anchor + 2) := mirrored (-1)
  have start : clampIndex size (size - 2 - anchor) =
      size - 1 - clampIndex size (anchor + 1) := by
    rw [← add_zero ((size : ℤ) - 2 - anchor)]
    exact mirrored 0
  have stop : clampIndex size (size - 2 - anchor + 1) =
      size - 1 - clampIndex size anchor := by
    rw [mirrored 1, sub_self, add_zero]
  have after : clampIndex size (size - 2 - anchor + 2) =
      size - 1 - clampIndex size (anchor - 1) := mirrored 2
  simp only [tapSum, kernelTaps, List.map_cons, List.map_nil, List.sum_cons,
    List.sum_nil, before, start, stop, after, cubicBefore_reflect,
    cubicStart_reflect, cubicStop_reflect, cubicAfter_reflect]
  ring

/-! ## Positions -/

/-- The taps of a position on the line. -/
def tapsAt (size : ℕ) (position : ℚ) : Taps :=
  kernelTaps size ⌊position⌋ (position - ⌊position⌋)

theorem tapSum_tapsAt_nat {position : ℕ} (inside : position < size)
    (sample : ℕ → ℚ) :
    tapSum (tapsAt size position) sample = sample position := by
  have anchor : ⌊(position : ℚ)⌋ = (position : ℤ) := Int.floor_natCast _
  have start : (position : ℚ) - ((position : ℤ) : ℚ) = 0 := by
    rw [Int.cast_natCast, sub_self]
  rw [tapsAt, anchor, start, tapSum_kernelTaps_zero,
    clampIndex_of_inside inside]

/-- Mirroring the position is mirroring the line. -/
theorem tapSum_tapsAt_reflect (nonempty : 0 < size) (position : ℚ)
    (sample : ℕ → ℚ) :
    tapSum (tapsAt size (size - 1 - position)) sample =
      tapSum (tapsAt size position)
        fun index => sample (size - 1 - index) := by
  have below := Int.floor_le position
  have above := Int.lt_floor_add_one position
  by_cases whole : position = ⌊position⌋
  · -- A whole position stays whole, and has no neighbours to swap.
    have anchor : ⌊(size : ℚ) - 1 - position⌋ = size - 1 - ⌊position⌋ := by
      rw [Int.floor_eq_iff]
      push_cast
      constructor <;> linarith
    have start : position - (⌊position⌋ : ℚ) = 0 := sub_eq_zero.mpr whole
    have mirrored : (size : ℚ) - 1 - position -
        ((size - 1 - ⌊position⌋ : ℤ) : ℚ) = 0 := by
      push_cast
      linarith
    rw [tapsAt, tapsAt, anchor, start, mirrored, tapSum_kernelTaps_zero,
      tapSum_kernelTaps_zero, clampIndex_reflect nonempty]
  · have inner : (⌊position⌋ : ℚ) < position :=
      lt_of_le_of_ne below (Ne.symm whole)
    have anchor : ⌊(size : ℚ) - 1 - position⌋ = size - 2 - ⌊position⌋ := by
      rw [Int.floor_eq_iff]
      push_cast
      constructor <;> linarith
    have mirrored : (size : ℚ) - 1 - position -
        ((size - 2 - ⌊position⌋ : ℤ) : ℚ) =
          1 - (position - ⌊position⌋) := by
      push_cast
      ring
    rw [tapsAt, tapsAt, anchor, mirrored]
    exact tapSum_kernelTaps_reflect nonempty _ _ sample

/-- The centre of an interval, in the coordinates of the samples. -/
def centre (size count index : ℕ) : ℚ :=
  (index + 1 / 2) * size / count - 1 / 2

theorem centre_self (nonempty : 0 < size) (index : ℕ) :
    centre size size index = index := by
  have nonzero : (size : ℚ) ≠ 0 := Nat.cast_ne_zero.mpr (by omega)
  rw [centre, mul_div_assoc, div_self nonzero]
  ring

theorem centre_reflect {count index : ℕ} (inside : index < count) :
    centre size count (count - 1 - index) =
      size - 1 - centre size count index := by
  have nonzero : (count : ℚ) ≠ 0 := Nat.cast_ne_zero.mpr (by omega)
  have mirrored : ((count - 1 - index : ℕ) : ℚ) = count - 1 - index := by
    rw [Nat.sub_sub, Nat.cast_sub (by omega)]
    push_cast
    ring
  rw [centre, centre, mirrored]
  field_simp
  ring

theorem centre_bounds (nonempty : 0 < size) {count index : ℕ}
    (inside : index < count) :
    -1 / 2 < centre size count index ∧
      centre size count index < size - 1 / 2 := by
  have sizePos : (0 : ℚ) < size := Nat.cast_pos.mpr nonempty
  have countPos : (0 : ℚ) < count := Nat.cast_pos.mpr (by omega)
  have indexNonneg : (0 : ℚ) ≤ index := Nat.cast_nonneg _
  have indexBound : (index : ℚ) + 1 ≤ count := by exact_mod_cast inside
  constructor
  · have positive : 0 < ((index : ℚ) + 1 / 2) * size / count := by positivity
    rw [centre]
    linarith
  · have inner : ((index : ℚ) + 1 / 2) * size / count < size := by
      rw [div_lt_iff₀ countPos]
      nlinarith
    rw [centre]
    linarith

/-- The interval of a centre begins at a sample, or just before the first. -/
theorem floor_centre_bounds (nonempty : 0 < size) {count index : ℕ}
    (inside : index < count) :
    -1 ≤ ⌊centre size count index⌋ ∧
      ⌊centre size count index⌋ < size := by
  obtain ⟨lower, upper⟩ := centre_bounds nonempty inside
  constructor
  · rw [Int.le_floor]
    push_cast
    linarith
  · rw [Int.floor_lt]
    push_cast
    linarith

/-! ## Two dimensions -/

/-- The value at the crossing of a column and a row. -/
def convolve (columns rows : Taps) (pixel : ℕ → ℕ → ℚ) : ℚ :=
  tapSum rows fun y => tapSum columns fun x => pixel x y

theorem convolve_const {columns rows : Taps} (value : ℚ)
    (columnsWhole : (columns.map Prod.snd).sum = 1)
    (rowsWhole : (rows.map Prod.snd).sum = 1) :
    convolve columns rows (fun _ _ => value) = value := by
  rw [convolve, tapSum_const columns value columnsWhole,
    tapSum_const rows value rowsWhole]

theorem convolve_congr {columns rows : Taps} {first second : ℕ → ℕ → ℚ}
    (same : ∀ column, column ∈ columns → ∀ row, row ∈ rows →
      first column.1 row.1 = second column.1 row.1) :
    convolve columns rows first = convolve columns rows second :=
  tapSum_congr fun row rowMember =>
    tapSum_congr fun column columnMember =>
      same column columnMember row rowMember

end RemoteWay.Base
