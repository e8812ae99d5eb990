import RemoteWay.Interpolate.Bicubic

/-!
# The upscaler of the client

`upscale_bicubic` keeps the anchor of the kernel and clamps each sample
index.  Its destination is the convolution of the picture with the kernel,
so it inherits the laws of the kernel.
-/

namespace RemoteWay.Client

open RemoteWay.Base RemoteWay.Interpolate

/-- `v.clamp(0, size as i32 - 1) as u32`. -/
def clampSample (profile : Profile) (size : UInt32) (v : Int32) :
    Exec UInt32 := do
  return (← i32Clamp v 0 (← i32Sub profile size.toInt32 1)).toUInt32

/-- Only the sample indices are clamped. -/
def clampedIndices : SampleIndices := fun profile size sFloor => do
  let s0 ← clampSample profile size (← i32Sub profile sFloor 1)
  let s1 ← clampSample profile size sFloor
  let s2 ← clampSample profile size (← i32Add profile sFloor 1)
  let s3 ← clampSample profile size (← i32Add profile sFloor 2)
  return [s0, s1, s2, s3]

/-- Upscale a frame with Catmull-Rom bicubic filtering.  Returns the
destination stride and the destination. -/
def upscaleBicubic (profile : Profile) (src : List UInt8)
    (srcW srcH srcStride dstW dstH : UInt32) :
    Exec (UInt32 × List UInt8) :=
  bicubicUpscale clampedIndices profile src srcW srcH srcStride dstW dstH

/-! ## The sample indices -/

theorem clampSample_eq (profile : Profile) {size : UInt32} {v : Int32}
    {position : ℤ} (nonempty : 0 < size.toNat)
    (small : size.toNat < 2 ^ 30) (value : v.toInt = position) :
    ∃ found, clampSample profile size v = .ok found ∧
      found.toNat = clampIndex size.toNat position := by
  have sizeEq : size.toInt32.toInt = size.toNat :=
    u32_toInt_toInt32 (by omega)
  have one : (1 : Int32).toInt = 1 := rfl
  have zero : (0 : Int32).toInt = 0 := rfl
  obtain ⟨subtracted, last⟩ := @i32Sub_of_inside profile size.toInt32 1
    (by omega) (by omega)
  have clamped : (max 0 (min v (size.toInt32 - 1))).toInt =
      max 0 (min position (size.toNat - 1)) := by
    rw [i32_toInt_max, i32_toInt_min, last, sizeEq, value, one, zero]
  refine ⟨(max 0 (min v (size.toInt32 - 1))).toUInt32, ?_, ?_⟩
  · rw [clampSample, subtracted]
    simp only [bind, Except.bind]
    rw [i32Clamp_of_le v (by omega)]
    rfl
  · rw [i32_toNat_toUInt32 (by omega), clamped]
    rfl

def keepAnchor : ℕ → ℤ → ℤ := fun _ anchor => anchor

/-- The kernel of the client keeps its anchor. -/
theorem clampedIndices_realises : Realises clampedIndices keepAnchor := by
  intro profile size anchor nonempty small lower upper
  have one : (1 : Int32).toInt = 1 := rfl
  have two : (2 : Int32).toInt = 2 := rfl
  have sFloor : (Int32.ofIntClamp anchor).toInt = anchor := by
    apply Int32.toInt_ofIntClamp
    · change -2147483648 ≤ anchor
      omega
    · change anchor ≤ 2147483647
      omega
  obtain ⟨subtracted, before⟩ := @i32Sub_of_inside profile
    (Int32.ofIntClamp anchor) 1 (by omega) (by omega)
  obtain ⟨addedOne, stop⟩ := @i32Add_of_inside profile
    (Int32.ofIntClamp anchor) 1 (by omega) (by omega)
  obtain ⟨addedTwo, after⟩ := @i32Add_of_inside profile
    (Int32.ofIntClamp anchor) 2 (by omega) (by omega)
  rw [sFloor, one] at before stop
  rw [sFloor, two] at after
  obtain ⟨s0, found0, index0⟩ := clampSample_eq profile nonempty small before
  obtain ⟨s1, found1, index1⟩ := clampSample_eq profile nonempty small sFloor
  obtain ⟨s2, found2, index2⟩ := clampSample_eq profile nonempty small stop
  obtain ⟨s3, found3, index3⟩ := clampSample_eq profile nonempty small after
  refine ⟨[s0, s1, s2, s3], ?_,
    zip_cubicWeight index0 index1 index2 index3⟩
  rw [clampedIndices, subtracted]
  simp only [bind, Except.bind]
  rw [found0, found1, addedOne]
  dsimp only
  rw [found2, addedTwo]
  dsimp only
  rw [found3]
  rfl

/-! ## The laws of the upscaler -/

section Laws

variable (image : SourceImage)

/-- The byte of the client's upscaler, before the picture is assembled. -/
theorem upscaledByte_keepAnchor (dstW dstH dx dy c : ℕ) :
    upscaledByte keepAnchor image dstW dstH dx dy c =
      roundToByte (convolve
        (tapsAt image.width.toNat (centre image.width.toNat dstW dx))
        (tapsAt image.height.toNat (centre image.height.toNat dstH dy))
        (image.pixel c)) := rfl

theorem upscaledByte_const {dstW dstH dx dy c : ℕ} {value : UInt8}
    (constant : ∀ x y, x < image.width.toNat → y < image.height.toNat →
      image.sample c x y = value) :
    upscaledByte keepAnchor image dstW dstH dx dy c = value := by
  have same : convolve
      (tapsAt image.width.toNat (centre image.width.toNat dstW dx))
      (tapsAt image.height.toNat (centre image.height.toNat dstH dy))
      (image.pixel c) = value.toNat := by
    rw [← convolve_const (value.toNat : ℚ)
      (kernelTaps_weights image.width.toNat _ _)
      (kernelTaps_weights image.height.toNat _ _)]
    apply convolve_congr
    intro column columnMember row rowMember
    rw [SourceImage.pixel, constant _ _
      (lt_of_mem_kernelTaps image.hasColumns columnMember)
      (lt_of_mem_kernelTaps image.hasRows rowMember)]
  rw [upscaledByte_keepAnchor, same, roundToByte_toNat]

/-- Without a change of size, the picture stays. -/
theorem upscaledByte_same {x y : ℕ} (c : ℕ)
    (column : x < image.width.toNat) (row : y < image.height.toNat) :
    upscaledByte keepAnchor image image.width.toNat image.height.toNat x y
        c = image.sample c x y := by
  rw [upscaledByte_keepAnchor, centre_self image.hasColumns,
    centre_self image.hasRows, convolve, tapSum_tapsAt_nat row,
    tapSum_tapsAt_nat column, SourceImage.pixel, roundToByte_toNat]

end Laws

/-- One picture shows the other mirrored horizontally. -/
structure MirrorOf (mirrored image : SourceImage) : Prop where
  width : mirrored.width = image.width
  height : mirrored.height = image.height
  pixels : ∀ x y c, x < image.width.toNat → y < image.height.toNat →
    c < 4 →
      mirrored.sample c x y = image.sample c (image.width.toNat - 1 - x) y

/-- One picture shows the other flipped vertically. -/
structure FlipOf (flipped image : SourceImage) : Prop where
  width : flipped.width = image.width
  height : flipped.height = image.height
  pixels : ∀ x y c, x < image.width.toNat → y < image.height.toNat →
    c < 4 →
      flipped.sample c x y = image.sample c x (image.height.toNat - 1 - y)

variable {image other : SourceImage} {dstW dstH dx dy c : ℕ}

theorem upscaledByte_mirror (mirror : MirrorOf other image)
    (inside : dx < dstW) (channel : c < 4) :
    upscaledByte keepAnchor other dstW dstH dx dy c =
      upscaledByte keepAnchor image dstW dstH (dstW - 1 - dx) dy c := by
  rw [upscaledByte_keepAnchor, upscaledByte_keepAnchor, mirror.width,
    mirror.height, centre_reflect inside, convolve, convolve]
  congr 1
  apply tapSum_congr
  intro row rowMember
  rw [tapSum_tapsAt_reflect image.hasColumns]
  apply tapSum_congr
  intro column columnMember
  rw [SourceImage.pixel, SourceImage.pixel, mirror.pixels _ _ _
    (lt_of_mem_kernelTaps image.hasColumns columnMember)
    (lt_of_mem_kernelTaps image.hasRows rowMember) channel]

theorem upscaledByte_flip (flip : FlipOf other image)
    (inside : dy < dstH) (channel : c < 4) :
    upscaledByte keepAnchor other dstW dstH dx dy c =
      upscaledByte keepAnchor image dstW dstH dx (dstH - 1 - dy) c := by
  rw [upscaledByte_keepAnchor, upscaledByte_keepAnchor, flip.width,
    flip.height, centre_reflect inside, convolve, convolve,
    tapSum_tapsAt_reflect image.hasRows]
  congr 1
  apply tapSum_congr
  intro row rowMember
  apply tapSum_congr
  intro column columnMember
  rw [SourceImage.pixel, SourceImage.pixel, flip.pixels _ _ _
    (lt_of_mem_kernelTaps image.hasColumns columnMember)
    (lt_of_mem_kernelTaps image.hasRows rowMember) channel]

/-- The bytes of the upscaled picture, when they fit into a buffer. -/
theorem upscaleBicubic_eq (profile : Profile) (image : SourceImage)
    {dstW dstH : UInt32}
    (fits : dstW.toNat * 4 * dstH.toNat < UInt32.size)
    (hasRows : 0 < dstH.toNat) :
    upscaleBicubic profile image.data image.width image.height image.stride
        dstW dstH =
      .ok (dstW * 4,
        upscaledBytes keepAnchor image dstW.toNat dstH.toNat) :=
  bicubicUpscale_eq clampedIndices_realises fits hasRows

/-- Upscaling reads inside the source.  It keeps constants and pictures of
the same size, and it commutes with mirroring and flipping. -/
theorem upscaleBicubic_laws (profile : Profile) (image : SourceImage)
    {dstW dstH : UInt32} (hasColumns : 0 < dstW.toNat)
    (hasRows : 0 < dstH.toNat)
    (fits : 4 * dstW.toNat * dstH.toNat < UInt32.size) :
    ∃ bytes,
      upscaleBicubic profile image.data image.width image.height
          image.stride dstW dstH = .ok (dstW * 4, bytes) ∧
      bytes.length = 4 * dstW.toNat * dstH.toNat ∧
      (∀ c value, c < 4 →
        (∀ x y, x < image.width.toNat → y < image.height.toNat →
          image.sample c x y = value) →
        ∀ dx dy, dx < dstW.toNat → dy < dstH.toNat →
          outByte bytes dstW.toNat dx dy c = value) ∧
      (dstW = image.width → dstH = image.height →
        ∀ x y c, x < dstW.toNat → y < dstH.toNat → c < 4 →
          outByte bytes dstW.toNat x y c = image.sample c x y) ∧
      (∀ mirrored, MirrorOf mirrored image → ∃ mirroredBytes,
        upscaleBicubic profile mirrored.data mirrored.width mirrored.height
            mirrored.stride dstW dstH = .ok (dstW * 4, mirroredBytes) ∧
        ∀ dx dy c, dx < dstW.toNat → dy < dstH.toNat → c < 4 →
          outByte mirroredBytes dstW.toNat dx dy c =
            outByte bytes dstW.toNat (dstW.toNat - 1 - dx) dy c) ∧
      (∀ flipped, FlipOf flipped image → ∃ flippedBytes,
        upscaleBicubic profile flipped.data flipped.width flipped.height
            flipped.stride dstW dstH = .ok (dstW * 4, flippedBytes) ∧
        ∀ dx dy c, dx < dstW.toNat → dy < dstH.toNat → c < 4 →
          outByte flippedBytes dstW.toNat dx dy c =
            outByte bytes dstW.toNat dx (dstH.toNat - 1 - dy) c) := by
  rw [Nat.mul_comm 4] at fits
  refine ⟨_, upscaleBicubic_eq profile image fits hasRows, ?_, ?_, ?_, ?_,
    ?_⟩
  · rw [length_upscaledBytes, Nat.mul_comm 4, Nat.mul_comm]
  · intro c value channel constant dx dy column row
    rw [outByte_upscaledBytes _ _ column row channel]
    exact upscaledByte_const image constant
  · rintro rfl rfl x y c column row channel
    rw [outByte_upscaledBytes _ _ column row channel]
    exact upscaledByte_same image c column row
  · intro mirrored mirror
    refine ⟨_, upscaleBicubic_eq profile mirrored fits hasRows, ?_⟩
    intro dx dy c column row channel
    rw [outByte_upscaledBytes _ _ column row channel,
      outByte_upscaledBytes _ _ (by omega) row channel]
    exact upscaledByte_mirror mirror column channel
  · intro flipped flip
    refine ⟨_, upscaleBicubic_eq profile flipped fits hasRows, ?_⟩
    intro dx dy c column row channel
    rw [outByte_upscaledBytes _ _ column row channel,
      outByte_upscaledBytes _ _ column (by omega) channel]
    exact upscaledByte_flip flip row channel

/-- A black pixel beside a white one. -/
def twoPixels : SourceImage where
  data := [0, 0, 0, 255, 255, 255, 255, 255]
  width := 2
  height := 1
  stride := 8
  hasColumns := Nat.two_pos
  hasRows := Nat.one_pos
  rowsFit := Nat.le_refl _
  addressable := by decide
  whole := Nat.le_refl _

/-- The laws for two pixels that become six. -/
theorem upscaleBicubic_laws_twoPixels :
    ∃ bytes, upscaleBicubic .dev twoPixels.data 2 1 8 3 2 =
        .ok (12, bytes) ∧ bytes.length = 24 ∧
      outByte bytes 3 0 0 3 = 255 := by
  obtain ⟨bytes, upscaled, length, constant, _⟩ :=
    @upscaleBicubic_laws .dev twoPixels 3 2 (by decide) (by decide)
      (by decide)
  have solid : ∀ x, x < 2 → ∀ y, y < 1 →
      twoPixels.sample 3 x y = 255 := by decide
  exact ⟨bytes, upscaled, length, constant 3 255 (by decide)
    (fun x y column row => solid x column y row) 0 0 (by decide)
    (by decide)⟩

end RemoteWay.Client
