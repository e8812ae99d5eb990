import Mathlib.Algebra.Order.Round
import Mathlib.Data.Rat.Floor
import Mathlib.Tactic.Linarith
import RemoteWay.Base.ScaledIntervals
import RemoteWay.Server.Downscale

/-!
# What the box filter should compute

The target size is a rational fraction of the source size, rounded.  Each
destination pixel stands for a rectangle of the source, and is the mean of
it, rounded down.  The rectangles tile the source.
-/

namespace RemoteWay.Server

open RemoteWay.Base

/-! ## The target size -/

/-- `(size as f64 * scale).round() as u32`, with exact arithmetic. -/
def roundedSize (size : UInt32) (scale : ℚ) : UInt32 :=
  UInt32.ofNat (round ((size.toNat : ℚ) * scale)).toNat

private theorem round_bounds {size : UInt32} {scale : ℚ}
    (atLeast : 1 / 10 ≤ scale) (below : scale < 1) :
    round ((size.toNat : ℚ) * scale) ≤ size.toNat ∧
      (size.toNat : ℤ) ≤ 10 * round ((size.toNat : ℚ) * scale) + 5 := by
  have near := abs_le.mp (abs_sub_round ((size.toNat : ℚ) * scale))
  have nonneg : (0 : ℚ) ≤ size.toNat := Nat.cast_nonneg _
  have lower : (size.toNat : ℚ) * (1 / 10) ≤ size.toNat * scale :=
    mul_le_mul_of_nonneg_left atLeast nonneg
  have upper : (size.toNat : ℚ) * scale ≤ size.toNat * 1 :=
    mul_le_mul_of_nonneg_left below.le nonneg
  constructor
  · have bounded : (round ((size.toNat : ℚ) * scale) : ℚ) <
        (size.toNat : ℤ) + 1 := by
      push_cast
      linarith
    have integral : round ((size.toNat : ℚ) * scale) <
        (size.toNat : ℤ) + 1 := by
      exact_mod_cast bounded
    omega
  · have bounded : ((size.toNat : ℤ) : ℚ) ≤
        10 * (round ((size.toNat : ℚ) * scale) : ℚ) + 5 := by
      push_cast
      linarith
    exact_mod_cast bounded

/-- The target is no larger than the source, and not much smaller than a
tenth of it. -/
theorem roundedSize_bounds {size : UInt32} {scale : ℚ}
    (atLeast : 1 / 10 ≤ scale) (below : scale < 1) :
    (roundedSize size scale).toNat ≤ size.toNat ∧
      size.toNat ≤ 10 * (roundedSize size scale).toNat + 5 := by
  obtain ⟨upper, lower⟩ := @round_bounds size scale atLeast below
  have small := size.toNat_lt
  have unwrapped : (roundedSize size scale).toNat =
      (round ((size.toNat : ℚ) * scale)).toNat := by
    rw [roundedSize, UInt32.toNat_ofNat']
    apply Nat.mod_eq_of_lt
    omega
  omega

/-! ## Means of rectangles -/

/-- The source positions of a destination position, on one axis. -/
def boxCells (fromSize toSize index : Nat) : List Nat :=
  List.range' (intervalStart fromSize toSize index)
    (intervalStart fromSize toSize (index + 1) -
      intervalStart fromSize toSize index)

/-- A picture that is scaled down. -/
structure BoxJob where
  src : List UInt8
  srcW : UInt32
  srcH : UInt32
  srcStride : UInt32
  dstW : UInt32
  dstH : UInt32

namespace BoxJob

variable (job : BoxJob)

/-- The offset of a source pixel. -/
def offset (sx sy : Nat) : Nat := sy * job.srcStride.toNat + sx * 4

def cellsX (dx : Nat) : List Nat :=
  boxCells job.srcW.toNat job.dstW.toNat dx

def cellsY (dy : Nat) : List Nat :=
  boxCells job.srcH.toNat job.dstH.toNat dy

/-- The offsets of the source rectangle of a destination pixel. -/
def boxOffsets (dx dy : Nat) : List Nat :=
  (job.cellsY dy).flatMap fun sy =>
    (job.cellsX dx).map fun sx => job.offset sx sy

/-- The sum of one channel over pixels at the given offsets. -/
def channelSum (src : List UInt8) (offsets : List Nat) (channel : Nat) :
    Nat :=
  (offsets.map fun off => (src.getD (off + channel) 0).toNat).sum

/-- The mean of a channel over a source rectangle, rounded down. -/
def boxMean (dx dy channel : Nat) : Nat :=
  channelSum job.src (job.boxOffsets dx dy) channel /
    (job.boxOffsets dx dy).length

/-- `downscale_box` on this picture. -/
def run (profile : Profile) : Exec (UInt32 × List UInt8) :=
  downscaleBox profile job.src job.srcW job.srcH job.srcStride job.dstW
    job.dstH

/-- The filter writes the mean of its rectangle to every channel of every
destination pixel.  In a `dev` build this includes that no read is out of
bounds, no operation overflows and no divisor is zero. -/
def WritesMeans (profile : Profile) : Prop :=
  ∃ dst, job.run profile = .ok (job.dstW * 4, dst) ∧
    dst.length = job.dstH.toNat * (job.dstW.toNat * 4) ∧
    ∀ dx dy channel, dx < job.dstW.toNat → dy < job.dstH.toNat →
      channel < 4 →
        dst[dy * (job.dstW.toNat * 4) + (dx * 4 + channel)]?.map
            UInt8.toNat =
          some (job.boxMean dx dy channel)

/-- The rectangles are non-empty and tile the picture. -/
structure Tiles : Prop where
  nonempty : ∀ dx dy, dx < job.dstW.toNat → dy < job.dstH.toNat →
    job.boxOffsets dx dy ≠ []
  inside : ∀ dx dy sx sy, dx < job.dstW.toNat → dy < job.dstH.toNat →
    sx ∈ job.cellsX dx → sy ∈ job.cellsY dy →
      sx < job.srcW.toNat ∧ sy < job.srcH.toNat
  covered : ∀ sx sy, sx < job.srcW.toNat → sy < job.srcH.toNat →
    (∃! dx, dx < job.dstW.toNat ∧ sx ∈ job.cellsX dx) ∧
      ∃! dy, dy < job.dstH.toNat ∧ sy ∈ job.cellsY dy

/-- Every byte of every pixel is zero. -/
def Black : Prop :=
  ∀ sx sy channel, sx < job.srcW.toNat → sy < job.srcH.toNat →
    channel < 4 → job.src.getD (job.offset sx sy + channel) 0 = 0

/-- The picture is a frame, scaled by a factor from a tenth to one to a
target with pixels. -/
structure Scaled (scale : ℚ) : Prop where
  width_pos : 0 < job.srcW.toNat
  height_pos : 0 < job.srcH.toNat
  rows : job.srcW.toNat * 4 ≤ job.srcStride.toNat
  enough : job.srcStride.toNat * job.srcH.toNat ≤ job.src.length
  fits : job.srcStride.toNat * job.srcH.toNat < UInt32.size
  atLeast : 1 / 10 ≤ scale
  below : scale < 1
  dstW_eq : job.dstW = roundedSize job.srcW scale
  dstH_eq : job.dstH = roundedSize job.srcH scale
  dstW_pos : 0 < job.dstW.toNat
  dstH_pos : 0 < job.dstH.toNat

end BoxJob

/-! ## The rectangles -/

theorem mem_boxCells {fromSize toSize index position : Nat} :
    position ∈ boxCells fromSize toSize index ↔
      InInterval fromSize toSize index position := by
  have ordered : intervalStart fromSize toSize index ≤
      intervalStart fromSize toSize (index + 1) :=
    intervalStart_le_of_le (Nat.le_succ index)
  rw [boxCells, List.mem_range'_1, InInterval]
  constructor
  · rintro ⟨lower, upper⟩
    exact ⟨lower, by omega⟩
  · rintro ⟨lower, upper⟩
    exact ⟨lower, by omega⟩

theorem boxCells_self {size : Nat} (positive : 0 < size) (index : Nat) :
    boxCells size size index = [index] := by
  rw [boxCells, intervalStart_self positive, intervalStart_self positive,
    Nat.add_sub_cancel_left]
  rfl

theorem length_boxCells_pos {fromSize toSize : Nat} (positive : 0 < toSize)
    (enough : toSize ≤ fromSize) (index : Nat) :
    0 < (boxCells fromSize toSize index).length := by
  have grows := intervalStart_lt_succ positive enough index
  rw [boxCells, List.length_range']
  omega

theorem length_boxCells_le {fromSize toSize ratio : Nat}
    (positive : 0 < toSize) (bounded : fromSize ≤ ratio * toSize)
    (index : Nat) : (boxCells fromSize toSize index).length ≤ ratio := by
  have grows := intervalStart_succ_le positive bounded index
  rw [boxCells, List.length_range']
  omega

theorem lt_of_mem_boxCells {fromSize toSize index position : Nat}
    (positive : 0 < toSize) (inside : index < toSize)
    (member : position ∈ boxCells fromSize toSize index) :
    position < fromSize := by
  have upper := (mem_boxCells.mp member).2
  have last := @intervalStart_le_total fromSize toSize positive (index + 1)
    inside
  omega

theorem BoxJob.Scaled.tiles {job : BoxJob} {scale : ℚ}
    (scaled : job.Scaled scale) : job.Tiles where
  nonempty := by
    intro dx dy insideX insideY
    have narrower := (@roundedSize_bounds job.srcW scale scaled.atLeast
      scaled.below).1
    have lower := (@roundedSize_bounds job.srcH scale scaled.atLeast
      scaled.below).1
    rw [← scaled.dstW_eq] at narrower
    rw [← scaled.dstH_eq] at lower
    have columns := length_boxCells_pos scaled.dstW_pos narrower dx
    have rows := length_boxCells_pos scaled.dstH_pos lower dy
    obtain ⟨sx, column⟩ := List.exists_mem_of_length_pos columns
    obtain ⟨sy, row⟩ := List.exists_mem_of_length_pos rows
    apply List.ne_nil_of_mem (a := job.offset sx sy)
    exact List.mem_flatMap.mpr ⟨sy, row, List.mem_map.mpr ⟨sx, column, rfl⟩⟩
  inside := by
    intro dx dy sx sy insideX insideY column row
    exact ⟨lt_of_mem_boxCells scaled.dstW_pos insideX column,
      lt_of_mem_boxCells scaled.dstH_pos insideY row⟩
  covered := by
    intro sx sy insideX insideY
    simp only [BoxJob.cellsX, BoxJob.cellsY, mem_boxCells]
    exact ⟨existsUnique_inInterval scaled.dstW_pos insideX,
      existsUnique_inInterval scaled.dstH_pos insideY⟩

end RemoteWay.Server
