import Mathlib.Data.List.GetD
import RemoteWay.Base.Blobs
import RemoteWay.Base.Filling
import RemoteWay.Base.Resample

/-!
# Bicubic upscaling

The loops that the client and the interpolation crate share word for word.
The kernel is evaluated over exact rationals.  The two copies differ in the
sample indices they take around the anchor of the kernel, so the indices are
a parameter here.
-/

namespace RemoteWay.Interpolate

open RemoteWay.Base

/-- `f64::round`, half away from zero. -/
def roundAway (x : ℚ) : ℤ :=
  if 0 ≤ x then ⌊x + 1 / 2⌋ else -⌊-x + 1 / 2⌋

/-- `acc.round().clamp(0.0, 255.0) as u8`. -/
def roundToByte (acc : ℚ) : UInt8 :=
  UInt8.ofNat (max 0 (min (roundAway acc) 255)).toNat

/-- Catmull-Rom cubic weights of the samples at offsets `-1`, `0`, `1` and
`2`. -/
def cubicWeight (t : ℚ) : List ℚ :=
  let t2 := t * t
  let t3 := t2 * t
  [1 / 2 * (-t3 + 2 * t2 - t),
    1 / 2 * (3 * t3 - 5 * t2 + 2),
    1 / 2 * (-3 * t3 + 4 * t2 + t),
    1 / 2 * (t3 - t2)]

/-- `(index as f64 + 0.5) * from as f64 / to as f64 - 0.5`. -/
def samplePosition (index : ℕ) (fromSize toSize : UInt32) : ℚ :=
  (index + 1 / 2) * fromSize.toNat / toSize.toNat - 1 / 2

/-! ## The loops -/

/-- The sample indices around the anchor of the kernel, on an axis of the
given size. -/
abbrev SampleIndices := Profile → UInt32 → Int32 → Exec (List UInt32)

variable (indices : SampleIndices) (profile : Profile)

/-- The samples of one axis with their weights. -/
def axisTaps (size : UInt32) (position : ℚ) :
    Exec (List (UInt32 × ℚ)) := do
  let anchor := Int32.ofIntClamp ⌊position⌋
  return (← indices profile size anchor).zip
    (cubicWeight (position - ⌊position⌋))

def bicubicSample (src : List UInt8) (row c : ℕ) (wy acc : ℚ)
    (tap : UInt32 × ℚ) : Exec ℚ := do
  let (colIdx, wx) := tap
  let si := row + (← u32Mul profile colIdx 4).toNat + c
  return acc + (← readAt src si).toNat * wx * wy

def bicubicSampleRow (src : List UInt8) (srcStride : UInt32)
    (cols : List (UInt32 × ℚ)) (c : ℕ) (acc : ℚ) (tap : UInt32 × ℚ) :
    Exec ℚ := do
  let (rowIdx, wy) := tap
  let row ← u32Mul profile rowIdx srcStride
  cols.foldlM (bicubicSample profile src row.toNat c wy) acc

/-- Convolve the 4×4 kernel and write the byte. -/
def bicubicChannel (src : List UInt8) (srcStride : UInt32)
    (cols rows : List (UInt32 × ℚ)) (di : ℕ) (dst : List UInt8) (c : ℕ) :
    Exec (List UInt8) := do
  let acc ← rows.foldlM (bicubicSampleRow profile src srcStride cols c) 0
  writeAt dst (di + c) (roundToByte acc)

def bicubicPixel (src : List UInt8) (srcW srcStride dstW : UInt32)
    (rows : List (UInt32 × ℚ)) (dstRow : ℕ) (dst : List UInt8) (dx : ℕ) :
    Exec (List UInt8) := do
  let cols ← axisTaps indices profile srcW (samplePosition dx srcW dstW)
  let di := dstRow + (← u32Mul profile (.ofNat dx) 4).toNat
  (List.range 4).foldlM
    (bicubicChannel profile src srcStride cols rows di) dst

def bicubicRow (src : List UInt8)
    (srcW srcH srcStride dstW dstH dstStride : UInt32) (dst : List UInt8)
    (dy : ℕ) : Exec (List UInt8) := do
  let rows ← axisTaps indices profile srcH (samplePosition dy srcH dstH)
  let dstRow ← u32Mul profile (.ofNat dy) dstStride
  (List.range dstW.toNat).foldlM
    (bicubicPixel indices profile src srcW srcStride dstW rows dstRow.toNat)
    dst

/-- Upscale an RGBA frame.  Returns the destination stride and the
destination. -/
def bicubicUpscale (src : List UInt8)
    (srcW srcH srcStride dstW dstH : UInt32) :
    Exec (UInt32 × List UInt8) := do
  let dstStride ← u32Mul profile dstW 4
  let total ← u32Mul profile dstStride dstH
  let dst ← (List.range dstH.toNat).foldlM
    (bicubicRow indices profile src srcW srcH srcStride dstW dstH dstStride)
    (List.replicate total.toNat 0)
  return (dstStride, dst)

/-! ## What the loops compute -/

/-- A picture in a buffer that 32-bit offsets reach. -/
structure SourceImage where
  data : List UInt8
  width : UInt32
  height : UInt32
  stride : UInt32
  hasColumns : 0 < width.toNat
  hasRows : 0 < height.toNat
  rowsFit : width.toNat * 4 ≤ stride.toNat
  addressable : stride.toNat * height.toNat < UInt32.size
  whole : stride.toNat * height.toNat ≤ data.length

namespace SourceImage

variable (image : SourceImage)

/-- A channel of a pixel. -/
def sample (c x y : ℕ) : UInt8 :=
  image.data.getD (y * image.stride.toNat + x * 4 + c) 0

def pixel (c x y : ℕ) : ℚ := (image.sample c x y).toNat

variable {image}

theorem offset_lt {x y c : ℕ} (xBound : x < image.width.toNat)
    (yBound : y < image.height.toNat) (cBound : c < 4) :
    y * image.stride.toNat + x * 4 + c <
      image.stride.toNat * image.height.toNat := by
  have rows := image.rowsFit
  have rowEnd : (y + 1) * image.stride.toNat ≤
      image.height.toNat * image.stride.toNat :=
    Nat.mul_le_mul_right _ yBound
  rw [Nat.add_mul, Nat.one_mul] at rowEnd
  rw [Nat.mul_comm image.stride.toNat]
  omega

/-- Pixels have four bytes, so there are not many of them on an axis. -/
theorem small (image : SourceImage) :
    image.width.toNat < 2 ^ 30 ∧ image.height.toNat < 2 ^ 30 := by
  have rows := image.rowsFit
  have columns := image.hasColumns
  have stride := image.stride.toNat_lt
  have total := image.addressable
  have tall : 4 * image.height.toNat ≤
      image.stride.toNat * image.height.toNat :=
    Nat.mul_le_mul_right _ (by omega)
  change _ < 4294967296 at total
  omega

end SourceImage

/-- The indices are those of the kernel at an anchor that depends on the one
they are given. -/
def Realises (indices : SampleIndices) (anchorOf : ℕ → ℤ → ℤ) : Prop :=
  ∀ profile (size : UInt32) (anchor : ℤ), 0 < size.toNat →
    size.toNat < 2 ^ 30 → -1 ≤ anchor → anchor < size.toNat →
      ∃ found, indices profile size (Int32.ofIntClamp anchor) = .ok found ∧
        ∀ t, (found.zip (cubicWeight t)).map
            (fun tap => (tap.1.toNat, tap.2)) =
          kernelTaps size.toNat (anchorOf size.toNat anchor) t

theorem cubicWeight_eq (t : ℚ) :
    cubicWeight t =
      [cubicBefore t, cubicStart t, cubicStop t, cubicAfter t] := by
  simp only [cubicWeight, cubicBefore, cubicStart, cubicStop, cubicAfter,
    pow_succ, pow_zero, one_mul]

/-- Four indices with their weights. -/
theorem zip_cubicWeight {s0 s1 s2 s3 : UInt32} {size : ℕ} {anchor : ℤ}
    (before : s0.toNat = clampIndex size (anchor - 1))
    (start : s1.toNat = clampIndex size anchor)
    (stop : s2.toNat = clampIndex size (anchor + 1))
    (after : s3.toNat = clampIndex size (anchor + 2)) (t : ℚ) :
    ([s0, s1, s2, s3].zip (cubicWeight t)).map
        (fun tap => (tap.1.toNat, tap.2)) =
      kernelTaps size anchor t := by
  rw [cubicWeight_eq, kernelTaps, ← before, ← start, ← stop, ← after]
  rfl

/-- The taps of a destination index on one axis. -/
def upscaleTaps (anchorOf : ℕ → ℤ → ℤ) (size count index : ℕ) : Taps :=
  let position := centre size count index
  kernelTaps size (anchorOf size ⌊position⌋) (position - ⌊position⌋)

theorem upscaleTaps_weights (anchorOf : ℕ → ℤ → ℤ) (size count index : ℕ) :
    ((upscaleTaps anchorOf size count index).map Prod.snd).sum = 1 :=
  kernelTaps_weights size _ _

/-- A byte of the destination. -/
def upscaledByte (anchorOf : ℕ → ℤ → ℤ) (image : SourceImage)
    (dstW dstH dx dy c : ℕ) : UInt8 :=
  roundToByte (convolve
    (upscaleTaps anchorOf image.width.toNat dstW dx)
    (upscaleTaps anchorOf image.height.toNat dstH dy) (image.pixel c))

def upscaledBytes (anchorOf : ℕ → ℤ → ℤ) (image : SourceImage)
    (dstW dstH : ℕ) : List UInt8 :=
  (List.range dstH).flatMap fun dy => (List.range dstW).flatMap fun dx =>
    (List.range 4).flatMap fun c =>
      [upscaledByte anchorOf image dstW dstH dx dy c]

/-! ## Pictures of one axis -/

section OneAxis

variable (anchorOf : ℕ → ℤ → ℤ) (image : SourceImage)
variable {dstW dstH dx dy c : ℕ} (value : ℕ → UInt8)

/-- Columns of one colour are resampled like a single row. -/
theorem upscaledByte_of_columns
    (columns : ∀ x y, x < image.width.toNat → y < image.height.toNat →
      image.sample c x y = value x) :
    upscaledByte anchorOf image dstW dstH dx dy c =
      roundToByte (tapSum (upscaleTaps anchorOf image.width.toNat dstW dx)
        fun x => (value x).toNat) := by
  have same : convolve (upscaleTaps anchorOf image.width.toNat dstW dx)
      (upscaleTaps anchorOf image.height.toNat dstH dy) (image.pixel c) =
        convolve (upscaleTaps anchorOf image.width.toNat dstW dx)
          (upscaleTaps anchorOf image.height.toNat dstH dy)
            fun x _ => (value x).toNat := by
    apply convolve_congr
    intro column columnMember row rowMember
    rw [SourceImage.pixel, columns _ _
      (lt_of_mem_kernelTaps image.hasColumns columnMember)
      (lt_of_mem_kernelTaps image.hasRows rowMember)]
  rw [upscaledByte, same, convolve,
    tapSum_const _ _ (upscaleTaps_weights anchorOf _ _ _)]

/-- Rows of one colour are resampled like a single column. -/
theorem upscaledByte_of_rows
    (rows : ∀ x y, x < image.width.toNat → y < image.height.toNat →
      image.sample c x y = value y) :
    upscaledByte anchorOf image dstW dstH dx dy c =
      roundToByte (tapSum (upscaleTaps anchorOf image.height.toNat dstH dy)
        fun y => (value y).toNat) := by
  have same : convolve (upscaleTaps anchorOf image.width.toNat dstW dx)
      (upscaleTaps anchorOf image.height.toNat dstH dy) (image.pixel c) =
        convolve (upscaleTaps anchorOf image.width.toNat dstW dx)
          (upscaleTaps anchorOf image.height.toNat dstH dy)
            fun _ y => (value y).toNat := by
    apply convolve_congr
    intro column columnMember row rowMember
    rw [SourceImage.pixel, rows _ _
      (lt_of_mem_kernelTaps image.hasColumns columnMember)
      (lt_of_mem_kernelTaps image.hasRows rowMember)]
  have inner : ∀ level : ℚ,
      tapSum (upscaleTaps anchorOf image.width.toNat dstW dx)
        (fun _ => level) = level := fun level =>
    tapSum_const _ _ (upscaleTaps_weights anchorOf _ _ _)
  rw [upscaledByte, same, convolve]
  simp only [inner]

end OneAxis

/-- The bytes of a grey picture. -/
def paint (stride size : ℕ) (colour : ℕ → ℕ → UInt8) : List UInt8 :=
  (List.range size).map fun offset =>
    colour (offset % stride / 4) (offset / stride)

@[simp]
theorem length_paint (stride size : ℕ) (colour : ℕ → ℕ → UInt8) :
    (paint stride size colour).length = size := by
  simp [paint]

theorem SourceImage.sample_paint {image : SourceImage}
    {colour : ℕ → ℕ → UInt8}
    (painted : image.data = paint image.stride.toNat
      (image.stride.toNat * image.height.toNat) colour)
    {x y c : ℕ} (column : x < image.width.toNat)
    (row : y < image.height.toNat) (channel : c < 4) :
    image.sample c x y = colour x y := by
  have inside := SourceImage.offset_lt column row channel
  have rows := image.rowsFit
  have small : x * 4 + c < image.stride.toNat := by omega
  have index : y * image.stride.toNat + x * 4 + c =
      image.stride.toNat * y + (x * 4 + c) := by
    rw [Nat.mul_comm, Nat.add_assoc]
  have remainder : (y * image.stride.toNat + x * 4 + c) %
      image.stride.toNat / 4 = x := by
    rw [index, Nat.mul_add_mod, Nat.mod_eq_of_lt small]
    omega
  have quotient : (y * image.stride.toNat + x * 4 + c) /
      image.stride.toNat = y := by
    rw [index, Nat.mul_add_div (by omega), Nat.div_eq_of_lt small,
      Nat.add_zero]
  rw [SourceImage.sample, painted, paint, List.getD_eq_getElem?_getD,
    List.getElem?_map, List.getElem?_range inside]
  simp only [Option.map_some, Option.getD_some, remainder, quotient]

/-- Another picture in a buffer of the same layout. -/
def SourceImage.painted (image : SourceImage) (colour : ℕ → ℕ → UInt8) :
    SourceImage :=
  { image with
    data := paint image.stride.toNat
      (image.stride.toNat * image.height.toNat) colour
    whole := Nat.le_of_eq (length_paint _ _ _).symm }

theorem SourceImage.sample_painted (image : SourceImage)
    (colour : ℕ → ℕ → UInt8) {x y c : ℕ} (column : x < image.width.toNat)
    (row : y < image.height.toNat) (channel : c < 4) :
    (image.painted colour).sample c x y = colour x y :=
  @sample_paint (image.painted colour) colour rfl x y c column row channel

/-- White samples behind a black one. -/
def darkStart (index : ℕ) : UInt8 := if index = 0 then 0 else 255

/-- The kernel at the black sample. -/
theorem tapSum_darkStart {size : ℕ} (enough : 2 ≤ size) (t : ℚ) :
    tapSum (kernelTaps size 0 t) (fun index => (darkStart index).toNat) =
      255 * (cubicStop t + cubicAfter t) := by
  have before : clampIndex size (0 - 1) = 0 := by
    rw [clampIndex]
    omega
  have start : clampIndex size 0 = 0 := by
    rw [clampIndex]
    omega
  have stop : clampIndex size (0 + 1) ≠ 0 := by
    rw [clampIndex]
    omega
  have after : clampIndex size (0 + 2) ≠ 0 := by
    rw [clampIndex]
    omega
  simp only [tapSum, kernelTaps, darkStart, List.map_cons, List.map_nil,
    List.sum_cons, List.sum_nil, before, start, if_neg stop, if_neg after,
    if_true]
  push_cast
  ring

/-- A byte of a picture without padding. -/
def outByte (bytes : List UInt8) (width x y c : ℕ) : UInt8 :=
  bytes.getD (y * (width * 4) + (x * 4 + c)) 0

private theorem length_pixelBytes (byte : ℕ → UInt8) :
    ((List.range 4).flatMap fun c => [byte c]).length = 4 := rfl

private theorem length_rowBytes (byte : ℕ → ℕ → UInt8) (width : ℕ) :
    ((List.range width).flatMap fun dx =>
      (List.range 4).flatMap fun c => [byte dx c]).length = width * 4 := by
  rw [List.length_flatMap, List.map_congr_left fun dx _ =>
    length_pixelBytes (byte dx)]
  simp

theorem length_upscaledBytes (anchorOf : ℕ → ℤ → ℤ) (image : SourceImage)
    (dstW dstH : ℕ) :
    (upscaledBytes anchorOf image dstW dstH).length = dstH * (dstW * 4) := by
  rw [upscaledBytes, List.length_flatMap, List.map_congr_left fun dy _ =>
    length_rowBytes (fun dx c =>
      upscaledByte anchorOf image dstW dstH dx dy c) dstW]
  simp

theorem outByte_upscaledBytes (anchorOf : ℕ → ℤ → ℤ) (image : SourceImage)
    {dstW dstH dx dy c : ℕ} (column : dx < dstW) (row : dy < dstH)
    (channel : c < 4) :
    outByte (upscaledBytes anchorOf image dstW dstH) dstW dx dy c =
      upscaledByte anchorOf image dstW dstH dx dy c := by
  rw [outByte, upscaledBytes, List.getD_eq_getElem?_getD,
    getElem?_flatMap_range (fun dy => length_rowBytes _ _) row (by omega),
    getElem?_flatMap_range (fun dx => length_pixelBytes _) column channel]
  have single := @getElem?_flatMap_range UInt8
    (fun c => [upscaledByte anchorOf image dstW dstH dx dy c]) 1 4 c 0
    (fun _ => rfl) channel Nat.one_pos
  rw [Nat.mul_one, Nat.add_zero] at single
  rw [single]
  rfl

/-! ## Rounding -/

theorem roundAway_natCast (n : ℕ) : roundAway n = n := by
  have nonneg : (0 : ℚ) ≤ n := Nat.cast_nonneg n
  rw [roundAway, if_pos nonneg, Int.floor_eq_iff]
  push_cast
  constructor <;> linarith

theorem toNat_roundToByte (acc : ℚ) :
    (roundToByte acc).toNat = (max 0 (min (roundAway acc) 255)).toNat := by
  rw [roundToByte]
  exact UInt8.toNat_ofNat_of_lt' (by
    change _ < 256
    omega)

/-- A byte exceeds `k` from the middle between `k` and `k + 1` on. -/
theorem lt_roundToByte_iff {k : ℕ} (small : k < 255) (acc : ℚ) :
    k < (roundToByte acc).toNat ↔ (k : ℚ) + 1 / 2 ≤ acc := by
  have clamped : k < (roundToByte acc).toNat ↔
      ((k + 1 : ℕ) : ℤ) ≤ roundAway acc := by
    rw [toNat_roundToByte]
    omega
  have kNonneg : (0 : ℚ) ≤ k := Nat.cast_nonneg k
  rw [clamped, roundAway]
  by_cases nonneg : 0 ≤ acc
  · rw [if_pos nonneg, Int.le_floor]
    push_cast
    constructor <;> intro <;> linarith
  · have floor : 0 ≤ ⌊-acc + 1 / 2⌋ := by
      rw [Int.le_floor]
      push_cast
      linarith
    rw [if_neg nonneg]
    constructor
    · intro above
      omega
    · intro above
      linarith

/-- A byte is the byte of its value. -/
theorem roundToByte_toNat (byte : UInt8) :
    roundToByte (byte.toNat : ℚ) = byte := by
  have bound := byte.toNat_lt
  rw [roundToByte, roundAway_natCast]
  have clamped : (max 0 (min (byte.toNat : ℤ) 255)).toNat = byte.toNat := by
    omega
  rw [clamped, UInt8.ofNat_toNat]

section Evaluation

variable {indices profile} {anchorOf : ℕ → ℤ → ℤ} {image : SourceImage}

/-- The taps of an axis with their indices as numbers. -/
theorem axisTaps_eq (realises : Realises indices anchorOf)
    {size count : UInt32} {index : ℕ} (nonempty : 0 < size.toNat)
    (small : size.toNat < 2 ^ 30) (inside : index < count.toNat) :
    ∃ taps, axisTaps indices profile size
        (samplePosition index size count) = .ok taps ∧
      taps.map (fun tap => (tap.1.toNat, tap.2)) =
        upscaleTaps anchorOf size.toNat count.toNat index := by
  obtain ⟨lower, upper⟩ := floor_centre_bounds nonempty inside
  obtain ⟨found, sampled, kernel⟩ := realises profile size
    ⌊centre size.toNat count.toNat index⌋ nonempty small lower upper
  refine ⟨_, ?_, kernel _⟩
  rw [axisTaps]
  change (do
    let found ← indices profile size
      (Int32.ofIntClamp ⌊centre size.toNat count.toNat index⌋)
    return found.zip _) = _
  rw [sampled]
  rfl

theorem lt_of_mem_upscaleTaps {size count index : ℕ}
    (nonempty : 0 < size) {tap : ℕ × ℚ}
    (member : tap ∈ upscaleTaps anchorOf size count index) :
    tap.1 < size :=
  lt_of_mem_kernelTaps nonempty member

/-- Sampling inside the picture. -/
theorem bicubicSample_eq {rowIdx : UInt32} {c : ℕ} (wy acc : ℚ)
    {tap : UInt32 × ℚ} (column : tap.1.toNat < image.width.toNat)
    (row : rowIdx.toNat < image.height.toNat) (channel : c < 4) :
    bicubicSample profile image.data
        (rowIdx.toNat * image.stride.toNat) c wy acc tap =
      .ok (acc + image.pixel c tap.1.toNat rowIdx.toNat * tap.2 * wy) := by
  have inside := SourceImage.offset_lt column row channel
  have total := image.addressable
  have length := image.whole
  have product : u32Mul profile tap.1 4 = .ok (tap.1 * 4) :=
    u32Mul_of_lt profile (by change tap.1.toNat * 4 < _; omega)
  have columnEq : (tap.1 * 4).toNat = tap.1.toNat * 4 := by
    rw [UInt32.toNat_mul]
    exact Nat.mod_eq_of_lt (by
      change tap.1.toNat * 4 < _
      change _ < 4294967296 at total
      omega)
  have read := readAt_of_lt (Nat.lt_of_lt_of_le inside length)
  rw [bicubicSample]
  dsimp only
  rw [product]
  simp only [bind, Except.bind]
  rw [columnEq, read]
  simp only [SourceImage.pixel, SourceImage.sample]
  rw [List.getD_eq_getElem _ _ (Nat.lt_of_lt_of_le inside length)]
  rfl

theorem bicubicSampleRow_eq {cols : List (UInt32 × ℚ)} {c : ℕ} (acc : ℚ)
    {tap : UInt32 × ℚ}
    (columns : ∀ column, column ∈ cols →
      column.1.toNat < image.width.toNat)
    (row : tap.1.toNat < image.height.toNat) (channel : c < 4) :
    bicubicSampleRow profile image.data image.stride cols c acc tap =
      .ok (acc + tapSum (cols.map fun column => (column.1.toNat, column.2))
        (fun x => image.pixel c x tap.1.toNat) * tap.2) := by
  have total := image.addressable
  have rowEnd : tap.1.toNat * image.stride.toNat <
      image.stride.toNat * image.height.toNat := by
    have inside := SourceImage.offset_lt image.hasColumns row channel
    omega
  have fits : tap.1.toNat * image.stride.toNat < UInt32.size :=
    Nat.lt_trans rowEnd total
  have rowEq : (tap.1 * image.stride).toNat =
      tap.1.toNat * image.stride.toNat := by
    rw [UInt32.toNat_mul]
    exact Nat.mod_eq_of_lt fits
  have adds : ∀ column, column ∈ cols → ∀ current,
      bicubicSample profile image.data
          (tap.1.toNat * image.stride.toNat) c tap.2 current column =
        .ok (current +
          image.pixel c column.1.toNat tap.1.toNat * column.2 * tap.2) :=
    fun column member current =>
      bicubicSample_eq tap.2 current (columns column member) row channel
  rw [bicubicSampleRow, u32Mul_of_lt profile fits]
  simp only [bind, Except.bind]
  rw [rowEq, foldlM_add acc adds, List.sum_map_mul_right, tapSum,
    List.map_map]
  rfl

theorem bicubicChannel_eq {cols rows : List (UInt32 × ℚ)} {di c : ℕ}
    {done rest : List UInt8}
    (columns : ∀ tap, tap ∈ cols → tap.1.toNat < image.width.toNat)
    (lines : ∀ tap, tap ∈ rows → tap.1.toNat < image.height.toNat)
    (channel : c < 4) (here : done.length = di + c * 1)
    (room : 1 ≤ rest.length) :
    bicubicChannel profile image.data image.stride cols rows di
        (done ++ rest) c =
      .ok (done ++ [roundToByte (convolve
        (cols.map fun tap => (tap.1.toNat, tap.2))
        (rows.map fun tap => (tap.1.toNat, tap.2)) (image.pixel c))] ++
          rest.drop 1) := by
  have adds : ∀ tap, tap ∈ rows → ∀ current,
      bicubicSampleRow profile image.data image.stride cols c current tap =
        .ok (current +
          tapSum (cols.map fun column => (column.1.toNat, column.2))
            (fun x => image.pixel c x tap.1.toNat) * tap.2) :=
    fun tap member current =>
      bicubicSampleRow_eq current columns (lines tap member) channel
  rw [bicubicChannel, foldlM_add 0 adds]
  simp only [bind, Except.bind]
  rw [writeAt_append _ (by omega) room, zero_add, convolve, tapSum,
    List.map_map]
  rfl

theorem bicubicPixel_eq (realises : Realises indices anchorOf)
    {dstW : UInt32} {rows : List (UInt32 × ℚ)} {dstH dx dy dstRow : ℕ}
    (small : dstW.toNat * 4 < UInt32.size) (inside : dx < dstW.toNat)
    (lines : rows.map (fun tap => (tap.1.toNat, tap.2)) =
      upscaleTaps anchorOf image.height.toNat dstH dy)
    {done rest : List UInt8} (here : done.length = dstRow + dx * 4)
    (room : 4 ≤ rest.length) :
    bicubicPixel indices profile image.data image.width image.stride dstW
        rows dstRow (done ++ rest) dx =
      .ok (done ++ (List.range 4).flatMap (fun c =>
        [upscaledByte anchorOf image dstW.toNat dstH dx dy c]) ++
          rest.drop 4) := by
  obtain ⟨cols, sampled, columns⟩ := @axisTaps_eq indices profile anchorOf
    realises image.width dstW dx image.hasColumns image.small.1 inside
  have columnBound : ∀ tap, tap ∈ cols →
      tap.1.toNat < image.width.toNat := by
    intro tap member
    have mapped := List.mem_map_of_mem member
      (f := fun tap : UInt32 × ℚ => (tap.1.toNat, tap.2))
    rw [columns] at mapped
    exact lt_of_mem_upscaleTaps image.hasColumns mapped
  have rowBound : ∀ tap, tap ∈ rows →
      tap.1.toNat < image.height.toNat := by
    intro tap member
    have mapped := List.mem_map_of_mem member
      (f := fun tap : UInt32 × ℚ => (tap.1.toNat, tap.2))
    rw [lines] at mapped
    exact lt_of_mem_upscaleTaps image.hasRows mapped
  have index : (UInt32.ofNat dx).toNat = dx :=
    UInt32.toNat_ofNat_of_lt' (Nat.lt_trans inside dstW.toNat_lt)
  have fits : (UInt32.ofNat dx).toNat * (4 : UInt32).toNat < UInt32.size := by
    rw [index]
    change dx * 4 < _
    omega
  have product : (UInt32.ofNat dx * 4).toNat = dx * 4 := by
    rw [UInt32.toNat_mul, index]
    apply Nat.mod_eq_of_lt
    change dx * 4 < 4294967296
    change _ < 4294967296 at small
    omega
  rw [bicubicPixel, sampled]
  simp only [bind, Except.bind]
  rw [u32Mul_of_lt profile fits]
  dsimp only
  rw [product]
  have filled := @foldlM_fill UInt8
    (bicubicChannel profile image.data image.stride cols rows
      (dstRow + dx * 4))
    (fun c => [upscaledByte anchorOf image dstW.toNat dstH dx dy c]) 1
    (dstRow + dx * 4) 4 (fun _ _ => rfl) (by
      intro c channel done rest here room
      rw [bicubicChannel_eq columnBound rowBound channel here room, columns,
        lines]
      rfl) done rest here (by omega)
  exact filled

theorem bicubicRow_eq (realises : Realises indices anchorOf)
    {dstW dstH : UInt32} {dy : ℕ}
    (fits : dstW.toNat * 4 * dstH.toNat < UInt32.size)
    (inside : dy < dstH.toNat) {done rest : List UInt8}
    (here : done.length = 0 + dy * (dstW.toNat * 4))
    (room : dstW.toNat * 4 ≤ rest.length) :
    bicubicRow indices profile image.data image.width image.height
        image.stride dstW dstH (dstW * 4) (done ++ rest) dy =
      .ok (done ++ ((List.range dstW.toNat).flatMap fun dx =>
        (List.range 4).flatMap fun c =>
          [upscaledByte anchorOf image dstW.toNat dstH.toNat dx dy c]) ++
            rest.drop (dstW.toNat * 4)) := by
  obtain ⟨rows, sampled, lines⟩ := @axisTaps_eq indices profile anchorOf
    realises image.height dstH dy image.hasRows image.small.2 inside
  have rowEnd : (dy + 1) * (dstW.toNat * 4) ≤
      dstH.toNat * (dstW.toNat * 4) := Nat.mul_le_mul_right _ inside
  rw [Nat.mul_comm dstH.toNat, Nat.add_mul, Nat.one_mul] at rowEnd
  have small : dstW.toNat * 4 < UInt32.size := by omega
  have index : (UInt32.ofNat dy).toNat = dy :=
    UInt32.toNat_ofNat_of_lt' (Nat.lt_trans inside dstH.toNat_lt)
  have stride : (dstW * 4).toNat = dstW.toNat * 4 := by
    rw [UInt32.toNat_mul]
    exact Nat.mod_eq_of_lt small
  have rowFits : (UInt32.ofNat dy).toNat * (dstW * 4).toNat <
      UInt32.size := by
    rw [index, stride]
    omega
  have product : (UInt32.ofNat dy * (dstW * 4)).toNat =
      dy * (dstW.toNat * 4) := by
    rw [UInt32.toNat_mul, index, stride]
    exact Nat.mod_eq_of_lt (by
      rw [index, stride] at rowFits
      exact rowFits)
  rw [bicubicRow, sampled]
  simp only [bind, Except.bind]
  rw [u32Mul_of_lt profile rowFits]
  dsimp only
  rw [product]
  exact foldlM_fill (fun dx _ => length_pixelBytes _)
    (fun dx inside done rest here room =>
      bicubicPixel_eq realises small inside lines here room)
    (by omega) room

/-- The bytes of the destination, when they fit into a buffer. -/
theorem bicubicUpscale_eq (realises : Realises indices anchorOf)
    {dstW dstH : UInt32}
    (fits : dstW.toNat * 4 * dstH.toNat < UInt32.size)
    (hasRows : 0 < dstH.toNat) :
    bicubicUpscale indices profile image.data image.width image.height
        image.stride dstW dstH =
      .ok (dstW * 4,
        upscaledBytes anchorOf image dstW.toNat dstH.toNat) := by
  have wide : dstW.toNat * 4 ≤ dstW.toNat * 4 * dstH.toNat :=
    Nat.le_mul_of_pos_right _ hasRows
  have strideFits : dstW.toNat * (4 : UInt32).toNat < UInt32.size :=
    Nat.lt_of_le_of_lt wide fits
  have stride : (dstW * 4).toNat = dstW.toNat * 4 := by
    rw [UInt32.toNat_mul]
    exact Nat.mod_eq_of_lt strideFits
  have totalFits : (dstW * 4).toNat * dstH.toNat < UInt32.size := by
    rw [stride]
    exact fits
  have total : (dstW * 4 * dstH).toNat = dstW.toNat * 4 * dstH.toNat := by
    rw [UInt32.toNat_mul, stride]
    exact Nat.mod_eq_of_lt fits
  have filled := @foldlM_fill UInt8
    (bicubicRow indices profile image.data image.width image.height
      image.stride dstW dstH (dstW * 4))
    (fun dy => (List.range dstW.toNat).flatMap fun dx =>
      (List.range 4).flatMap fun c =>
        [upscaledByte anchorOf image dstW.toNat dstH.toNat dx dy c])
    (dstW.toNat * 4) 0 dstH.toNat (fun dy _ => length_rowBytes _ _)
    (fun dy inside done rest here room =>
      bicubicRow_eq realises fits inside here room)
    [] (List.replicate (dstW.toNat * 4 * dstH.toNat) 0) rfl
    (by rw [List.length_replicate, Nat.mul_comm])
  rw [bicubicUpscale, u32Mul_of_lt profile strideFits]
  simp only [bind, Except.bind]
  rw [u32Mul_of_lt profile totalFits]
  dsimp only
  rw [total]
  rw [List.nil_append, List.nil_append, Nat.mul_comm dstH.toNat,
    List.drop_of_length_le (by rw [List.length_replicate]),
    List.append_nil] at filled
  rw [filled]
  rfl

end Evaluation

/-! ## Too large a destination -/

section Overflow

variable {indices profile} {src : List UInt8}
variable {srcW srcH srcStride dstW dstH dstStride : UInt32}
variable {cols rows : List (UInt32 × ℚ)} {dst result : List UInt8}

private theorem length_of_bicubicChannel {di c : ℕ}
    (done : bicubicChannel profile src srcStride cols rows di dst c =
      .ok result) : result.length = dst.length ∧ di + c < dst.length := by
  rw [bicubicChannel, bind_eq_ok_iff] at done
  obtain ⟨acc, _, written⟩ := done
  refine ⟨length_of_writeAt written, ?_⟩
  rw [writeAt] at written
  split at written
  · assumption
  · cases written

private theorem length_of_bicubicPixel {dstRow dx : ℕ}
    (done : bicubicPixel indices profile src srcW srcStride dstW rows dstRow
      dst dx = .ok result) :
    result.length = dst.length ∧
      dstRow + (UInt32.ofNat dx * 4).toNat + 3 < dst.length := by
  rw [bicubicPixel, bind_eq_ok_iff] at done
  obtain ⟨cols, _, done⟩ := done
  rw [bind_eq_ok_iff] at done
  obtain ⟨offset, multiplied, channels⟩ := done
  rw [← u32Mul_eq_ok multiplied] at channels
  obtain ⟨before, after, same, last⟩ := exists_round_of_foldlM
    (fun current : List UInt8 => current.length = dst.length)
    (fun _ _ _ channel same =>
      (length_of_bicubicChannel channel).1.trans same)
    (List.mem_range.mpr (show 3 < 4 by decide)) channels rfl
  refine ⟨foldlM_length (fun _ _ _ channel =>
    (length_of_bicubicChannel channel).1) _ _ _ channels, ?_⟩
  rw [← same]
  exact (length_of_bicubicChannel last).2

private theorem length_of_bicubicRow {dy : ℕ}
    (done : bicubicRow indices profile src srcW srcH srcStride dstW dstH
      dstStride dst dy = .ok result) :
    result.length = dst.length ∧ ∀ dx, dx < dstW.toNat →
      (UInt32.ofNat dy * dstStride).toNat + (UInt32.ofNat dx * 4).toNat + 3 <
        dst.length := by
  rw [bicubicRow, bind_eq_ok_iff] at done
  obtain ⟨rows, _, done⟩ := done
  rw [bind_eq_ok_iff] at done
  obtain ⟨dstRow, multiplied, pixels⟩ := done
  rw [← u32Mul_eq_ok multiplied] at pixels
  refine ⟨foldlM_length (fun _ _ _ pixel =>
    (length_of_bicubicPixel pixel).1) _ _ _ pixels, ?_⟩
  intro dx inside
  obtain ⟨before, after, same, here⟩ := exists_round_of_foldlM
    (fun current : List UInt8 => current.length = dst.length)
    (fun _ _ _ pixel same => (length_of_bicubicPixel pixel).1.trans same)
    (List.mem_range.mpr inside) pixels rfl
  rw [← same]
  exact (length_of_bicubicPixel here).2

/-- The loops never come to the end of a destination whose size does not fit
into 32 bits: they write behind its wrapped length. -/
theorem fits_of_bicubicUpscale {bytes : UInt32 × List UInt8}
    (hasColumns : 0 < dstW.toNat) (hasRows : 0 < dstH.toNat)
    (done : bicubicUpscale indices profile src srcW srcH srcStride dstW
      dstH = .ok bytes) : dstW.toNat * 4 * dstH.toNat < UInt32.size := by
  rw [bicubicUpscale, bind_eq_ok_iff] at done
  obtain ⟨dstStride, strideEq, done⟩ := done
  rw [bind_eq_ok_iff] at done
  obtain ⟨total, totalEq, done⟩ := done
  rw [bind_eq_ok_iff] at done
  obtain ⟨dst, filled, _⟩ := done
  rw [← u32Mul_eq_ok totalEq, ← u32Mul_eq_ok strideEq] at filled
  have writes : ∀ dy dx, dy < dstH.toNat → dx < dstW.toNat →
      (UInt32.ofNat dy * (dstW * 4)).toNat +
        (UInt32.ofNat dx * 4).toNat + 3 < (dstW * 4 * dstH).toNat := by
    intro dy dx row column
    obtain ⟨before, after, same, here⟩ := exists_round_of_foldlM
      (fun current : List UInt8 =>
        current.length = (dstW * 4 * dstH).toNat)
      (fun _ _ _ row same => (length_of_bicubicRow row).1.trans same)
      (List.mem_range.mpr row) filled List.length_replicate
    rw [← same]
    exact (length_of_bicubicRow here).2 dx column
  have dstWBound := dstW.toNat_lt
  have dstHBound := dstH.toNat_lt
  by_cases narrow : dstW.toNat * 4 < 2 ^ 32
  · have stride : (dstW * 4).toNat = dstW.toNat * 4 := by
      rw [UInt32.toNat_mul]
      exact Nat.mod_eq_of_lt narrow
    have length : (dstW * 4 * dstH).toNat =
        dstW.toNat * 4 * dstH.toNat % 2 ^ 32 := by
      rw [UInt32.toNat_mul, stride]
    by_contra large
    -- The row that the wrapped length ends in is a row of the destination.
    have shorter : (dstW * 4 * dstH).toNat < dstW.toNat * 4 * dstH.toNat :=
      Nat.lt_of_lt_of_le (dstW * 4 * dstH).toNat_lt (Nat.le_of_not_lt large)
    have positive : 0 < dstW.toNat * 4 := by omega
    have row := Nat.div_lt_of_lt_mul shorter
    have split := Nat.div_add_mod (dstW * 4 * dstH).toNat (dstW.toNat * 4)
    have rest := Nat.mod_lt (dstW * 4 * dstH).toNat positive
    have short := (dstW * 4 * dstH).toNat_lt
    generalize (dstW * 4 * dstH).toNat / (dstW.toNat * 4) = dy at row split
    have behind := writes dy (dstW.toNat - 1) row (by omega)
    have rowStart : (UInt32.ofNat dy * (dstW * 4)).toNat =
        dstW.toNat * 4 * dy := by
      rw [UInt32.toNat_mul, stride, UInt32.toNat_ofNat_of_lt'
        (Nat.lt_trans row dstHBound), Nat.mul_comm]
      exact Nat.mod_eq_of_lt (by omega)
    have columnStart : (UInt32.ofNat (dstW.toNat - 1) * 4).toNat =
        (dstW.toNat - 1) * 4 := by
      rw [UInt32.toNat_mul, UInt32.toNat_ofNat_of_lt'
        (by change _ < 2 ^ 32; omega)]
      exact Nat.mod_eq_of_lt (by change (dstW.toNat - 1) * 4 < _; omega)
    omega
  · have behind := writes 0 (2 ^ 30 - 1) hasRows (by omega)
    have columnStart : (UInt32.ofNat (2 ^ 30 - 1) * 4).toNat =
        2 ^ 32 - 4 := by decide
    have short := (dstW * 4 * dstH).toNat_lt
    omega

end Overflow

end RemoteWay.Interpolate
