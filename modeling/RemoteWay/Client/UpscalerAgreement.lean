import Mathlib.Tactic.NormNum
import RemoteWay.Client.Upscale
import RemoteWay.Interpolate.CpuUpscale

/-!
# The two upscalers

With interpolation the backend upscales, by default with
`cpu_bicubic_upscale`; without it the client does.  The two move the kernel
differently where its anchor lies before the first sample, which happens on
every axis that grows.
-/

namespace RemoteWay.Client

open RemoteWay.Base RemoteWay.Interpolate

/-- Width, height, stride and bytes for the display.  A backend without an
upscaler of its own uses the default. -/
def upscaleFrame (profile : Profile) (interpolation : Bool)
    (frame : GpuFrame) (tw th : UInt32) :
    Exec (UInt32 × UInt32 × UInt32 × List UInt8) :=
  if interpolation then do
    let upscaled ← cpuBicubicUpscale profile frame tw th
    return (upscaled.width, upscaled.height, upscaled.stride, upscaled.data)
  else do
    let (us, upscaled) ← upscaleBicubic profile frame.data frame.width
      frame.height frame.stride tw th
    return (tw, th, us, upscaled)

/-! ## Where the anchors agree -/

/-- The first sample is the only one before which an anchor can lie. -/
theorem floor_centre_nonneg {size count : ℕ}
    (shrinks : count ≤ size) {index : ℕ} (inside : index < count) :
    0 ≤ ⌊centre size count index⌋ := by
  have countPos : (0 : ℚ) < count := Nat.cast_pos.mpr (by omega)
  have ratio : (1 : ℚ) ≤ size / count := by
    rw [one_le_div countPos]
    exact_mod_cast shrinks
  have indexNonneg : (0 : ℚ) ≤ index := Nat.cast_nonneg _
  have grown : (1 / 2 : ℚ) * 1 ≤ (index + 1 / 2) * (size / count) :=
    mul_le_mul (by linarith) ratio zero_le_one (by linarith)
  rw [Int.le_floor, centre, mul_div_assoc]
  push_cast
  linarith

theorem upscaleTaps_clampAnchor {size count : ℕ} (nonempty : 0 < size)
    (agrees : count ≤ size ∨ size = 1) {index : ℕ}
    (inside : index < count) :
    upscaleTaps clampAnchor size count index =
      upscaleTaps keepAnchor size count index := by
  have upper := (floor_centre_bounds nonempty inside).2
  rcases agrees with shrinks | rfl
  · have lower := floor_centre_nonneg shrinks inside
    have same : (clampIndex size ⌊centre size count index⌋ : ℤ) =
        ⌊centre size count index⌋ := by
      rw [clampIndex]
      omega
    simp only [upscaleTaps, clampAnchor, keepAnchor, same]
  · have only : ∀ position, clampIndex 1 position = 0 := by
      intro position
      have := clampIndex_lt Nat.one_pos position
      omega
    simp only [upscaleTaps, kernelTaps, only]

/-! ## Where they do not -/

section Grows

variable {size count : ℕ}

/-- The anchor of the first value of a growing axis. -/
theorem floor_centre_first (nonempty : 0 < size) (grows : size < count) :
    ⌊centre size count 0⌋ = -1 ∧ 1 / 2 < centre size count 0 + 1 ∧
      centre size count 0 + 1 < 1 := by
  have sizePos : (0 : ℚ) < size := Nat.cast_pos.mpr nonempty
  have countPos : (0 : ℚ) < count := Nat.cast_pos.mpr (by omega)
  have ratioPos : (0 : ℚ) < size / count := div_pos sizePos countPos
  have ratio : (size : ℚ) / count < 1 := by
    rw [div_lt_one countPos]
    exact_mod_cast grows
  have first : centre size count 0 = 1 / 2 * (size / count) - 1 / 2 := by
    rw [centre]
    push_cast
    ring
  rw [first, Int.floor_eq_iff]
  push_cast
  refine ⟨⟨?_, ?_⟩, ?_, ?_⟩ <;> linarith

private theorem upscaleTaps_first (anchorOf : ℕ → ℤ → ℤ)
    (nonempty : 0 < size) (grows : size < count) :
    upscaleTaps anchorOf size count 0 =
      kernelTaps size (anchorOf size (-1)) (centre size count 0 + 1) := by
  rw [upscaleTaps, (floor_centre_first nonempty grows).1]
  push_cast
  rw [sub_neg_eq_add]

/-- The client keeps the first value of a growing axis dark. -/
theorem tapSum_keepAnchor_first (enough : 2 ≤ size)
    (grows : size < count) :
    roundToByte (tapSum (upscaleTaps keepAnchor size count 0)
      fun index => (darkStart index).toNat) = 0 := by
  obtain ⟨_, lower, upper⟩ := floor_centre_first (by omega) grows
  generalize tEq : centre size count 0 + 1 = t at lower upper
  have before : clampIndex size (-1 - 1) = 0 := by
    rw [clampIndex]
    omega
  have start : clampIndex size (-1) = 0 := by
    rw [clampIndex]
    omega
  have stop : clampIndex size (-1 + 1) = 0 := by
    rw [clampIndex]
    omega
  have after : clampIndex size (-1 + 2) ≠ 0 := by
    rw [clampIndex]
    omega
  have value : tapSum (upscaleTaps keepAnchor size count 0)
      (fun index => (darkStart index).toNat) = 255 * cubicAfter t := by
    rw [upscaleTaps_first keepAnchor (by omega) grows, tEq]
    simp only [tapSum, kernelTaps, keepAnchor, darkStart, List.map_cons,
      List.map_nil, List.sum_cons, List.sum_nil, before, start, stop,
      if_neg after, if_true]
    push_cast
    ring
  have negative : cubicAfter t ≤ 0 := by
    have square : 0 ≤ t ^ 2 * (1 - t) :=
      mul_nonneg (sq_nonneg t) (by linarith)
    rw [cubicAfter]
    linarith
  have dark : ¬ 0 < (roundToByte (255 * cubicAfter t)).toNat := by
    rw [lt_roundToByte_iff (by decide)]
    push_cast
    linarith
  rw [value]
  exact UInt8.toNat_inj.mp (Nat.eq_zero_of_not_pos dark)

/-- The interpolation crate brightens it. -/
theorem tapSum_clampAnchor_first (enough : 2 ≤ size)
    (grows : size < count) :
    roundToByte (tapSum (upscaleTaps clampAnchor size count 0)
      fun index => (darkStart index).toNat) ≠ 0 := by
  obtain ⟨_, lower, upper⟩ := floor_centre_first (by omega) grows
  generalize tEq : centre size count 0 + 1 = t at lower upper
  have anchor : clampAnchor size (-1) = 0 := by
    rw [clampAnchor, clampIndex]
    omega
  have value : tapSum (upscaleTaps clampAnchor size count 0)
      (fun index => (darkStart index).toNat) =
        255 * (cubicStop t + cubicAfter t) := by
    rw [upscaleTaps_first clampAnchor (by omega) grows, tEq, anchor,
      tapSum_darkStart enough]
  have large : 1 / 2 ≤ cubicStop t + cubicAfter t := by
    have factors : 0 ≤ (2 * t - 1) * (1 + t * (1 - t)) := by
      apply mul_nonneg (by linarith)
      have inner : 0 ≤ t * (1 - t) :=
        mul_nonneg (by linarith) (by linarith)
      linarith
    have expanded : cubicStop t + cubicAfter t =
        1 / 2 + 1 / 2 * ((2 * t - 1) * (1 + t * (1 - t))) := by
      rw [cubicStop, cubicAfter]
      ring
    linarith
  have bright : 0 <
      (roundToByte (255 * (cubicStop t + cubicAfter t))).toNat := by
    rw [lt_roundToByte_iff (by decide)]
    push_cast
    linarith
  rw [value]
  intro dark
  rw [dark] at bright
  cases bright

end Grows

/-! ## The condition -/

/-- The two upscalers give the display the same picture for every source of
these sizes. -/
def UpscalersAgree (profile : Profile)
    (width height stride dstW dstH : UInt32) : Prop :=
  ∀ data timestampNs, stride.toNat * height.toNat ≤ data.length →
    ∃ picture, ∀ interpolation,
      upscaleFrame profile interpolation
        ⟨data, width, height, stride, timestampNs⟩ dstW dstH = .ok picture

section Pictures

variable {width height stride dstW dstH : UInt32}

theorem upscaleFrame_eq (profile : Profile) (image : SourceImage)
    (timestampNs : UInt64)
    (fits : dstW.toNat * 4 * dstH.toNat < UInt32.size)
    (hasRows : 0 < dstH.toNat) (interpolation : Bool) :
    upscaleFrame profile interpolation
        ⟨image.data, image.width, image.height, image.stride, timestampNs⟩
        dstW dstH =
      .ok (dstW, dstH, dstW * 4,
        upscaledBytes (if interpolation then clampAnchor else keepAnchor)
          image dstW.toNat dstH.toNat) := by
  cases interpolation with
  | true =>
      rw [upscaleFrame, if_pos rfl,
        cpuBicubicUpscale_eq profile image timestampNs fits hasRows]
      rfl
  | false =>
      rw [upscaleFrame, if_neg Bool.false_ne_true]
      dsimp only
      rw [upscaleBicubic_eq profile image fits hasRows]
      rfl

/-- If all pictures of these sizes agree, so do their first bytes. -/
private theorem upscaledByte_eq_of_agree {profile : Profile}
    {image : SourceImage}
    (agree : UpscalersAgree profile image.width image.height image.stride
      dstW dstH) (dstColumns : 0 < dstW.toNat) (dstRows : 0 < dstH.toNat)
    (fits : dstW.toNat * 4 * dstH.toNat < UInt32.size) :
    upscaledByte clampAnchor image dstW.toNat dstH.toNat 0 0 0 =
      upscaledByte keepAnchor image dstW.toNat dstH.toNat 0 0 0 := by
  obtain ⟨picture, same⟩ := agree image.data 0 image.whole
  have on := same true
  have off := same false
  rw [upscaleFrame_eq profile image 0 fits dstRows] at on off
  have bytes : upscaledBytes clampAnchor image dstW.toNat dstH.toNat =
      upscaledBytes keepAnchor image dstW.toNat dstH.toNat :=
    congrArg (fun picture => picture.2.2.2)
      (Except.ok.inj (on.trans off.symm))
  rw [← outByte_upscaledBytes _ _ dstColumns dstRows (by decide),
    ← outByte_upscaledBytes _ _ dstColumns dstRows (by decide), bytes]

/-- An axis that grows, from at least two pixels. -/
private theorem grows_of_not {size count : UInt32} (nonempty : 0 < size.toNat)
    (grows : ¬ (count ≤ size ∨ size = 1)) :
    2 ≤ size.toNat ∧ size.toNat < count.toNat := by
  rw [not_or, UInt32.le_iff_toNat_le, ← UInt32.toNat_inj,
    show (1 : UInt32).toNat = 1 from rfl] at grows
  omega

private theorem agrees_of_or {size count : UInt32}
    (agrees : count ≤ size ∨ size = 1) :
    count.toNat ≤ size.toNat ∨ size.toNat = 1 := by
  rcases agrees with shrinks | rfl
  · exact Or.inl (UInt32.le_iff_toNat_le.mp shrinks)
  · exact Or.inr rfl

private theorem upscaledBytes_clampAnchor (image : SourceImage)
    {dstW dstH : ℕ}
    (columns : dstW ≤ image.width.toNat ∨ image.width.toNat = 1)
    (rows : dstH ≤ image.height.toNat ∨ image.height.toNat = 1) :
    upscaledBytes clampAnchor image dstW dstH =
      upscaledBytes keepAnchor image dstW dstH := by
  apply List.flatMap_congr
  intro dy row
  apply List.flatMap_congr
  intro dx column
  simp only [upscaledByte, upscaleTaps_clampAnchor image.hasColumns columns
    (List.mem_range.mp column), upscaleTaps_clampAnchor image.hasRows rows
    (List.mem_range.mp row)]

/-- The upscalers give the same picture exactly when no axis grows, apart
from axes of a single pixel, and the destination fits into a buffer. -/
theorem upscalersAgree_iff (profile : Profile)
    (hasColumns : 0 < width.toNat) (hasRows : 0 < height.toNat)
    (rowsFit : width.toNat * 4 ≤ stride.toNat)
    (addressable : stride.toNat * height.toNat < UInt32.size)
    (dstColumns : 0 < dstW.toNat) (dstRows : 0 < dstH.toNat) :
    UpscalersAgree profile width height stride dstW dstH ↔
      dstW.toNat * 4 * dstH.toNat < UInt32.size ∧
        (dstW ≤ width ∨ width = 1) ∧ (dstH ≤ height ∨ height = 1) := by
  constructor
  · intro agree
    let black : SourceImage := ⟨List.replicate
      (stride.toNat * height.toNat) 0, width, height, stride, hasColumns,
      hasRows, rowsFit, addressable,
      Nat.le_of_eq List.length_replicate.symm⟩
    have fits : dstW.toNat * 4 * dstH.toNat < UInt32.size := by
      obtain ⟨picture, same⟩ := agree black.data 0 black.whole
      have off := same false
      rw [upscaleFrame, if_neg Bool.false_ne_true, bind_eq_ok_iff] at off
      obtain ⟨upscaled, done, _⟩ := off
      exact fits_of_bicubicUpscale dstColumns dstRows done
    refine ⟨fits, ?_, ?_⟩
    · by_contra grows
      obtain ⟨enough, larger⟩ := grows_of_not hasColumns grows
      have dark : ∀ x y, x < black.width.toNat → y < black.height.toNat →
          (black.painted fun x _ => darkStart x).sample 0 x y =
            darkStart x := fun x y column row =>
        black.sample_painted _ column row (by decide)
      have same := @upscaledByte_eq_of_agree dstW dstH profile
        (black.painted fun x _ => darkStart x) agree dstColumns dstRows fits
      rw [upscaledByte_of_columns _ _ darkStart dark,
        upscaledByte_of_columns _ _ darkStart dark] at same
      have kept := tapSum_keepAnchor_first enough larger
      have moved := tapSum_clampAnchor_first enough larger
      exact moved (same.trans kept)
    · by_contra grows
      obtain ⟨enough, larger⟩ := grows_of_not hasRows grows
      have dark : ∀ x y, x < black.width.toNat → y < black.height.toNat →
          (black.painted fun _ y => darkStart y).sample 0 x y =
            darkStart y := fun x y column row =>
        black.sample_painted _ column row (by decide)
      have same := @upscaledByte_eq_of_agree dstW dstH profile
        (black.painted fun _ y => darkStart y) agree dstColumns dstRows fits
      rw [upscaledByte_of_rows _ _ darkStart dark,
        upscaledByte_of_rows _ _ darkStart dark] at same
      have kept := tapSum_keepAnchor_first enough larger
      have moved := tapSum_clampAnchor_first enough larger
      exact moved (same.trans kept)
  · rintro ⟨fits, columns, rows⟩ data timestampNs whole
    let image : SourceImage := ⟨data, width, height, stride, hasColumns,
      hasRows, rowsFit, addressable, whole⟩
    have agree : upscaledBytes clampAnchor image dstW.toNat dstH.toNat =
        upscaledBytes keepAnchor image dstW.toNat dstH.toNat :=
      upscaledBytes_clampAnchor image (agrees_of_or columns)
        (agrees_of_or rows)
    refine ⟨(dstW, dstH, dstW * 4,
      upscaledBytes keepAnchor image dstW.toNat dstH.toNat), ?_⟩
    intro interpolation
    have upscaled := upscaleFrame_eq profile image timestampNs fits dstRows
      interpolation
    cases interpolation with
    | true =>
        rw [if_pos rfl, agree] at upscaled
        exact upscaled
    | false => exact upscaled

end Pictures

/-- The sizes of the tests, where nothing grows. -/
theorem upscalersAgree_iff_same :
    UpscalersAgree .dev 2 2 8 2 2 ↔
      2 * 4 * 2 < UInt32.size ∧ ((2 : UInt32) ≤ 2 ∨ (2 : UInt32) = 1) ∧
        ((2 : UInt32) ≤ 2 ∨ (2 : UInt32) = 1) :=
  @upscalersAgree_iff 2 2 8 2 2 .dev (by decide) (by decide) (by decide)
    (by decide) (by decide) (by decide)

/-- Two pixels at twice their size: the second pixel reaches the first column
only with interpolation. -/
theorem not_upscalersAgree_twoPixels :
    ∃ bright, upscaleFrame .dev true ⟨twoPixels.data, twoPixels.width,
        twoPixels.height, twoPixels.stride, 0⟩ 4 2 = .ok bright ∧
      ∃ dark, upscaleFrame .dev false ⟨twoPixels.data, twoPixels.width,
          twoPixels.height, twoPixels.stride, 0⟩ 4 2 = .ok dark ∧
        bright.2.2.2 ≠ dark.2.2.2 := by
  decide +kernel

end RemoteWay.Client
