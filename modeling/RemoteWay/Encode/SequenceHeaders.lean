import Mathlib.Data.Nat.Bitwise
import RemoteWay.Encode.Encoder

/-!
# Sequence headers and the size of a session

The parameters of a session are checked against the device, and the header
of each codec then declares the size of the pictures in units of its own:
macroblocks of 16 pixels, coding blocks of 8, or a number of bits.
-/

namespace RemoteWay.Encode

open RemoteWay.Base

/-! ## The parameters of a session -/

inductive RateControl where
  | constantQp (qp : UInt32)
  | cbr (bitrateBps : UInt64)
  | vbr (averageBps peakBps : UInt64)
  deriving DecidableEq, Repr

/-- The bit of `VkVideoEncodeRateControlModeFlagsKHR`. -/
def RateControl.toVkMode : RateControl → UInt32
  | .constantQp _ => 0x1
  | .cbr _ => 0x2
  | .vbr _ _ => 0x4

/-- `EncodeParams` with all its fields. -/
structure SessionParams extends EncodeParams where
  codec : VideoCodec
  frameRate : UInt32 × UInt32
  rateControl : RateControl
  intraRefreshPeriod : Option UInt32
  deriving DecidableEq, Repr

/-- What the device reports, as far as parameters are checked against it. -/
structure VideoEncodeCapabilities where
  codec : VideoCodec
  maxCodedExtent : UInt32 × UInt32
  minCodedExtent : UInt32 × UInt32
  pictureAccessGranularity : UInt32 × UInt32
  rateControlModes : UInt32
  supportsIntraRefresh : Bool
  deriving DecidableEq, Repr

/-! ## Validation -/

/-- `{:?}` of a codec. -/
def VideoCodec.debug : VideoCodec → String
  | .h264 => "H264"
  | .h265 => "H265"
  | .av1 => "Av1"

/-- `{:?}` of a pair. -/
def debugPair (pair : UInt32 × UInt32) : String :=
  "(" ++ toString pair.1 ++ ", " ++ toString pair.2 ++ ")"

/-- Return early if the condition holds. -/
def reject (condition : Prop) [Decidable condition] (message : String) :
    Except EncodeError Unit :=
  if condition then .error (.invalidParams message) else .ok ()

/-- The sanity check of a constant quantization parameter. -/
def RateControl.validateQp : RateControl → Except EncodeError Unit
  | .constantQp qp =>
      reject (255 < qp) ("qp " ++ toString qp ++ " out of range")
  | _ => .ok ()

namespace SessionParams

def resolution (params : SessionParams) : String :=
  "resolution " ++ toString params.width ++ "x" ++ toString params.height

/-- Check the parameters against the device.  `debugFlags` is the text of a
set of rate control modes. -/
def validateAgainst (debugFlags : UInt32 → String) (params : SessionParams)
    (caps : VideoEncodeCapabilities) : Except EncodeError Unit := do
  reject (caps.codec ≠ params.codec)
    ("caps describe codec " ++ caps.codec.debug ++ ", params request " ++
      params.codec.debug)
  reject (params.width = 0 ∨ params.height = 0)
    (params.resolution ++ " has zero dimension")
  reject
    (params.width < caps.minCodedExtent.1 ∨
      params.height < caps.minCodedExtent.2 ∨
      caps.maxCodedExtent.1 < params.width ∨
      caps.maxCodedExtent.2 < params.height)
    (params.resolution ++ " outside device range " ++
      debugPair caps.minCodedExtent ++ "..=" ++
      debugPair caps.maxCodedExtent)
  reject
    (0 < caps.pictureAccessGranularity.1 ∧
      params.width % caps.pictureAccessGranularity.1 ≠ 0)
    ("width " ++ toString params.width ++
      " not aligned to picture_access_granularity " ++
      toString caps.pictureAccessGranularity.1)
  reject
    (0 < caps.pictureAccessGranularity.2 ∧
      params.height % caps.pictureAccessGranularity.2 ≠ 0)
    ("height " ++ toString params.height ++
      " not aligned to picture_access_granularity " ++
      toString caps.pictureAccessGranularity.2)
  reject
    (caps.rateControlModes &&& params.rateControl.toVkMode ≠
      params.rateControl.toVkMode)
    ("rate control " ++ debugFlags params.rateControl.toVkMode ++
      " not in device-supported set " ++ debugFlags caps.rateControlModes)
  reject
    (params.intraRefreshPeriod.isSome ∧ caps.supportsIntraRefresh = false)
    ("intra_refresh_period set but device lacks " ++
      "VK_KHR_video_encode_intra_refresh")
  params.rateControl.validateQp
  reject (params.frameRate.2 = 0)
    ("frame_rate has zero denominator (numerator " ++
      toString params.frameRate.1 ++ ")")

/-- The parameters suit the device. -/
structure Suits (params : SessionParams) (caps : VideoEncodeCapabilities) :
    Prop where
  codec : caps.codec = params.codec
  width : params.width ≠ 0
  height : params.height ≠ 0
  widthInside : caps.minCodedExtent.1 ≤ params.width ∧
    params.width ≤ caps.maxCodedExtent.1
  heightInside : caps.minCodedExtent.2 ≤ params.height ∧
    params.height ≤ caps.maxCodedExtent.2
  widthAligned : 0 < caps.pictureAccessGranularity.1 →
    params.width % caps.pictureAccessGranularity.1 = 0
  heightAligned : 0 < caps.pictureAccessGranularity.2 →
    params.height % caps.pictureAccessGranularity.2 = 0
  rateControl : caps.rateControlModes &&& params.rateControl.toVkMode =
    params.rateControl.toVkMode
  intraRefresh : params.intraRefreshPeriod.isSome →
    caps.supportsIntraRefresh = true
  qp : ∀ qp, params.rateControl = .constantQp qp → qp ≤ 255
  frameRate : params.frameRate.2 ≠ 0

/-- Two checks pass exactly if each does. -/
theorem checks_eq_ok_iff {check : Except EncodeError Unit}
    {next : Unit → Except EncodeError Unit} :
    (check >>= next) = .ok () ↔ check = .ok () ∧ next () = .ok () := by
  cases check with
  | error reason => simp [bind, Except.bind]
  | ok done => simp [bind, Except.bind]

theorem reject_eq_ok_iff {condition : Prop} [Decidable condition]
    {message : String} : reject condition message = .ok () ↔ ¬ condition := by
  rw [reject]
  by_cases holds : condition
  · simp [holds]
  · simp [holds]

theorem validateQp_eq_ok_iff {rateControl : RateControl} :
    rateControl.validateQp = .ok () ↔
      ∀ qp, rateControl = .constantQp qp → qp ≤ 255 := by
  cases rateControl with
  | constantQp qp => simp [RateControl.validateQp, reject_eq_ok_iff]
  | cbr bitrateBps => simp [RateControl.validateQp]
  | vbr averageBps peakBps => simp [RateControl.validateQp]

/-- Validation passes exactly the parameters that suit the device. -/
theorem validateAgainst_eq_ok_iff {debugFlags : UInt32 → String}
    {params : SessionParams} {caps : VideoEncodeCapabilities} :
    params.validateAgainst debugFlags caps = .ok () ↔
      params.Suits caps := by
  simp only [validateAgainst, checks_eq_ok_iff, reject_eq_ok_iff,
    validateQp_eq_ok_iff, not_or, not_and, not_not, UInt32.not_lt,
    Bool.not_eq_false]
  constructor
  · rintro ⟨codec, ⟨width, height⟩, ⟨minWidth, minHeight, maxWidth,
      maxHeight⟩, widthAligned, heightAligned, rateControl, intraRefresh,
      qp, frameRate⟩
    exact ⟨codec, width, height, ⟨minWidth, maxWidth⟩,
      ⟨minHeight, maxHeight⟩, widthAligned, heightAligned, rateControl,
      intraRefresh, qp, frameRate⟩
  · intro suits
    exact ⟨suits.codec, ⟨suits.width, suits.height⟩,
      ⟨suits.widthInside.1, suits.heightInside.1, suits.widthInside.2,
        suits.heightInside.2⟩, suits.widthAligned, suits.heightAligned,
      suits.rateControl, suits.intraRefresh, suits.qp,
      suits.frameRate⟩

theorem Suits.sizes {params : SessionParams}
    {caps : VideoEncodeCapabilities} (suits : params.Suits caps) :
    1 ≤ params.width ∧ 1 ≤ params.height := by
  have positive : ∀ value : UInt32, value ≠ 0 → 1 ≤ value := by
    intro value nonzero
    rw [UInt32.le_iff_toNat_le]
    exact Nat.one_le_iff_ne_zero.mpr fun zero =>
      nonzero (UInt32.toNat_inj.mp zero)
  exact ⟨positive _ suits.width, positive _ suits.height⟩

end SessionParams

/-! ## H.264 -/

/-- The fields of `StdVideoH264SequenceParameterSet` that rule the size. -/
structure H264FrameSize where
  frameMbsOnlyFlag : Bool
  picWidthInMbsMinus1 : UInt32
  picHeightInMapUnitsMinus1 : UInt32
  frameCroppingFlag : Bool
  frameCropLeftOffset : UInt32
  frameCropRightOffset : UInt32
  frameCropTopOffset : UInt32
  frameCropBottomOffset : UInt32
  deriving DecidableEq, Repr

namespace H264

/-- `value.saturating_sub(1)`. -/
def saturatingPred (value : UInt32) : UInt32 :=
  if 1 ≤ value then value - 1 else 0

/-- The size that `build_sps` declares. -/
def buildFrameSize (width height : UInt32) : H264FrameSize where
  frameMbsOnlyFlag := true
  picWidthInMbsMinus1 := saturatingPred (width / 16)
  picHeightInMapUnitsMinus1 := saturatingPred (height / 16)
  frameCroppingFlag := false
  frameCropLeftOffset := 0
  frameCropRightOffset := 0
  frameCropTopOffset := 0
  frameCropBottomOffset := 0

end H264

namespace H264FrameSize

/-- The cropped width, with offsets in units of two pixels of 4:2:0. -/
def croppedWidth (size : H264FrameSize) : Int :=
  (size.picWidthInMbsMinus1.toNat + 1) * 16 -
    if size.frameCroppingFlag then
      2 * (size.frameCropLeftOffset.toNat + size.frameCropRightOffset.toNat)
    else 0

/-- The cropped height.  Without `frame_mbs_only_flag` a map unit is a pair
of macroblocks. -/
def croppedHeight (size : H264FrameSize) : Int :=
  (if size.frameMbsOnlyFlag then 1 else 2) *
    ((size.picHeightInMapUnitsMinus1.toNat + 1) * 16 -
      if size.frameCroppingFlag then
        2 * (size.frameCropTopOffset.toNat +
          size.frameCropBottomOffset.toNat)
      else 0)

def Declares (size : H264FrameSize) (width height : UInt32) : Prop :=
  size.croppedWidth = width.toNat ∧ size.croppedHeight = height.toNat

end H264FrameSize

namespace H264

theorem toNat_saturatingPred (value : UInt32) :
    (saturatingPred value).toNat = value.toNat - 1 := by
  rw [saturatingPred]
  by_cases positive : 1 ≤ value
  · rw [if_pos positive, UInt32.toNat_sub_of_le _ _ positive]
    rfl
  · rw [if_neg positive]
    rw [UInt32.le_iff_toNat_le] at positive
    change 0 = value.toNat - 1
    change ¬ 1 ≤ value.toNat at positive
    omega

/-- Macroblocks give a side of the picture exactly if it is whole in
them; a shorter one is declared as one macroblock. -/
theorem macroblocks_eq_iff {side : UInt32} (positive : 1 ≤ side) :
    ((saturatingPred (side / 16)).toNat + 1) * 16 = side.toNat ↔
      16 ∣ side.toNat := by
  have atLeast : 1 ≤ side.toNat := UInt32.le_iff_toNat_le.mp positive
  have sixteen : (16 : UInt32).toNat = 16 := rfl
  rw [toNat_saturatingPred, UInt32.toNat_div, sixteen]
  omega

theorem declares_iff {width height : UInt32} (wide : 1 ≤ width)
    (high : 1 ≤ height) :
    (buildFrameSize width height).Declares width height ↔
      16 ∣ width.toNat ∧ 16 ∣ height.toNat := by
  rw [← macroblocks_eq_iff wide, ← macroblocks_eq_iff high]
  simp only [H264FrameSize.Declares, H264FrameSize.croppedWidth,
    H264FrameSize.croppedHeight, buildFrameSize]
  simp
  omega

end H264

/-! ## H.265 -/

/-- The fields of `StdVideoH265SequenceParameterSet` that rule the size. -/
structure H265FrameSize where
  conformanceWindowFlag : Bool
  picWidthInLumaSamples : UInt32
  picHeightInLumaSamples : UInt32
  log2MinLumaCodingBlockSizeMinus3 : Nat
  confWinLeftOffset : UInt32
  confWinRightOffset : UInt32
  confWinTopOffset : UInt32
  confWinBottomOffset : UInt32
  deriving DecidableEq, Repr

namespace H265

/-- The size that `build_sps` declares. -/
def buildFrameSize (width height : UInt32) : H265FrameSize where
  conformanceWindowFlag := false
  picWidthInLumaSamples := width
  picHeightInLumaSamples := height
  log2MinLumaCodingBlockSizeMinus3 := 0
  confWinLeftOffset := 0
  confWinRightOffset := 0
  confWinTopOffset := 0
  confWinBottomOffset := 0

end H265

namespace H265FrameSize

def minCodingBlock (size : H265FrameSize) : Nat :=
  2 ^ (size.log2MinLumaCodingBlockSizeMinus3 + 3)

/-- The width inside the conformance window, with offsets in units of two
pixels of 4:2:0. -/
def croppedWidth (size : H265FrameSize) : Int :=
  size.picWidthInLumaSamples.toNat -
    if size.conformanceWindowFlag then
      2 * (size.confWinLeftOffset.toNat + size.confWinRightOffset.toNat)
    else 0

def croppedHeight (size : H265FrameSize) : Int :=
  size.picHeightInLumaSamples.toNat -
    if size.conformanceWindowFlag then
      2 * (size.confWinTopOffset.toNat + size.confWinBottomOffset.toNat)
    else 0

/-- The size is declared in whole coding blocks. -/
structure Declares (size : H265FrameSize) (width height : UInt32) :
    Prop where
  croppedWidth : size.croppedWidth = width.toNat
  croppedHeight : size.croppedHeight = height.toNat
  wholeWidth : size.minCodingBlock ∣ size.picWidthInLumaSamples.toNat
  wholeHeight : size.minCodingBlock ∣ size.picHeightInLumaSamples.toNat

end H265FrameSize

namespace H265

theorem declares_iff {width height : UInt32} :
    (buildFrameSize width height).Declares width height ↔
      8 ∣ width.toNat ∧ 8 ∣ height.toNat := by
  constructor
  · intro declares
    exact ⟨declares.wholeWidth, declares.wholeHeight⟩
  · rintro ⟨wholeWidth, wholeHeight⟩
    refine ⟨?_, ?_, wholeWidth, wholeHeight⟩
    · simp [H265FrameSize.croppedWidth, buildFrameSize]
    · simp [H265FrameSize.croppedHeight, buildFrameSize]

end H265

/-! ## AV1 -/

/-- The fields of `StdVideoAV1SequenceHeader` that rule the size. -/
structure Av1FrameSize where
  frameWidthBitsMinus1 : UInt8
  frameHeightBitsMinus1 : UInt8
  maxFrameWidthMinus1 : UInt16
  maxFrameHeightMinus1 : UInt16
  deriving DecidableEq, Repr

namespace Av1

/-- `value.leading_zeros()`. -/
def leadingZeros (value : UInt32) : UInt32 := ⟨value.toBitVec.clz⟩

/-- The number of bits of a size minus one, at least one. -/
def bitsNeeded (value : UInt32) : UInt32 :=
  max (32 - leadingZeros (max value 1 - 1)) 1

/-- The size that `build_seq_header` declares. -/
def buildFrameSize (profile : Profile) (width height : UInt32) :
    Exec Av1FrameSize := do
  let frameWidthBits := bitsNeeded width
  let frameHeightBits := bitsNeeded height
  let frameWidthBitsMinus1 ← u32Sub profile frameWidthBits 1
  let frameHeightBitsMinus1 ← u32Sub profile frameHeightBits 1
  let maxFrameWidthMinus1 ← u32Sub profile width 1
  let maxFrameHeightMinus1 ← u32Sub profile height 1
  let size : Av1FrameSize :=
    { frameWidthBitsMinus1 := frameWidthBitsMinus1.toUInt8
      frameHeightBitsMinus1 := frameHeightBitsMinus1.toUInt8
      maxFrameWidthMinus1 := maxFrameWidthMinus1.toUInt16
      maxFrameHeightMinus1 := maxFrameHeightMinus1.toUInt16 }
  return size

end Av1

namespace Av1FrameSize

/-- A size minus one is exact, and representable in the declared bits, of
which there are at most 16. -/
structure DeclaresSide (bitsMinus1 : UInt8) (sideMinus1 : UInt16)
    (side : UInt32) : Prop where
  exact : sideMinus1.toNat + 1 = side.toNat
  representable : sideMinus1.toNat < 2 ^ (bitsMinus1.toNat + 1)
  bits : bitsMinus1.toNat + 1 ≤ 16

def Declares (size : Av1FrameSize) (width height : UInt32) : Prop :=
  DeclaresSide size.frameWidthBitsMinus1 size.maxFrameWidthMinus1 width ∧
    DeclaresSide size.frameHeightBitsMinus1 size.maxFrameHeightMinus1 height

end Av1FrameSize

namespace Av1

section Bits

variable {side : UInt32}

/-- The bits in which a number is stored without leading zeros. -/
theorem toNat_bitsNeeded (positive : 1 ≤ side) :
    (bitsNeeded side).toNat =
      max (32 - (side - 1).toBitVec.clz.toNat) 1 := by
  have atLeast : max side 1 = side := by
    rw [← UInt32.toNat_inj, u32_toNat_max]
    exact Nat.max_eq_left (UInt32.le_iff_toNat_le.mp positive)
  have few : leadingZeros (side - 1) ≤ 32 := BitVec.clz_le
  have difference : (32 - leadingZeros (side - 1)).toNat =
      32 - (side - 1).toBitVec.clz.toNat :=
    UInt32.toNat_sub_of_le _ _ few
  rw [bitsNeeded, u32_toNat_max, atLeast, difference]
  rfl

/-- The last pixel of a side is representable in its bits. -/
theorem lt_two_pow_bitsNeeded (positive : 1 ≤ side) :
    (side - 1).toNat < 2 ^ (bitsNeeded side).toNat := by
  have stored := @BitVec.toNat_lt_two_pow_sub_clz 32 (side - 1).toBitVec
  rw [toNat_bitsNeeded positive]
  refine Nat.lt_of_lt_of_le stored ?_
  exact Nat.pow_le_pow_right (by decide) (Nat.le_max_left _ _)

/-- No fewer bits would do, except for a side of one pixel. -/
theorem bitsNeeded_le {bits : Nat} (positive : 1 ≤ side)
    (atLeast : 1 ≤ bits) (fits : (side - 1).toNat < 2 ^ bits) :
    (bitsNeeded side).toNat ≤ bits := by
  rw [toNat_bitsNeeded positive]
  refine Nat.max_le.mpr ⟨?_, atLeast⟩
  by_cases zero : (side - 1).toBitVec = 0
  · rw [zero]
    simp
  · have top := BitVec.two_pow_sub_clz_le_toNat_of_ne_zero (by decide) zero
    have smaller : 32 - 1 - (side - 1).toBitVec.clz.toNat < bits :=
      (Nat.pow_lt_pow_iff_right (by decide)).mp
        (Nat.lt_of_le_of_lt top fits)
    omega

theorem one_le_bitsNeeded (positive : 1 ≤ side) : 1 ≤ bitsNeeded side := by
  rw [UInt32.le_iff_toNat_le, toNat_bitsNeeded positive]
  exact Nat.le_max_right _ _

/-- What is declared of a side is exact exactly if the side has at most
`2 ^ 16` pixels. -/
theorem declaresSide_iff (positive : 1 ≤ side) :
    Av1FrameSize.DeclaresSide (bitsNeeded side - 1).toUInt8
        (side - 1).toUInt16 side ↔
      side.toNat ≤ 65536 := by
  have atLeast : 1 ≤ side.toNat := UInt32.le_iff_toNat_le.mp positive
  have last : (side - 1).toNat = side.toNat - 1 :=
    UInt32.toNat_sub_of_le _ _ positive
  have one := one_le_bitsNeeded positive
  have oneNat : 1 ≤ (bitsNeeded side).toNat := UInt32.le_iff_toNat_le.mp one
  have most : (bitsNeeded side).toNat ≤ 32 :=
    bitsNeeded_le positive (by decide) (side - 1).toNat_lt
  have bits : (bitsNeeded side - 1).toUInt8.toNat + 1 =
      (bitsNeeded side).toNat := by
    rw [UInt32.toNat_toUInt8, UInt32.toNat_sub_of_le _ _ one]
    change ((bitsNeeded side).toNat - 1) % 256 + 1 = _
    omega
  have stored := lt_two_pow_bitsNeeded positive
  constructor
  · intro declares
    have exact_ := declares.exact
    rw [UInt32.toNat_toUInt16, last] at exact_
    omega
  · intro small
    have kept : (side - 1).toUInt16.toNat = (side - 1).toNat := by
      rw [UInt32.toNat_toUInt16]
      omega
    refine ⟨?_, ?_, ?_⟩
    · rw [kept, last]
      omega
    · rw [kept, bits]
      exact stored
    · rw [bits]
      exact bitsNeeded_le positive (by decide) (by omega)

end Bits

theorem buildFrameSize_of_le (profile : Profile) {width height : UInt32}
    (wide : 1 ≤ width) (high : 1 ≤ height) :
    buildFrameSize profile width height = .ok
      ⟨(bitsNeeded width - 1).toUInt8, (bitsNeeded height - 1).toUInt8,
        (width - 1).toUInt16, (height - 1).toUInt16⟩ := by
  simp only [buildFrameSize, u32Sub_of_le profile (one_le_bitsNeeded wide),
    u32Sub_of_le profile (one_le_bitsNeeded high),
    u32Sub_of_le profile wide, u32Sub_of_le profile high]
  rfl

end Av1

/-! ## Every session -/

namespace SessionParams

/-- The header of the codec is built, and declares the size of the
session. -/
def DeclaresSize (profile : Profile) (params : SessionParams) : Prop :=
  match params.codec with
  | .h264 => (H264.buildFrameSize params.width params.height).Declares
      params.width params.height
  | .h265 => (H265.buildFrameSize params.width params.height).Declares
      params.width params.height
  | .av1 => ∃ size,
      Av1.buildFrameSize profile params.width params.height = .ok size ∧
        size.Declares params.width params.height

/-- Both sides are whole in the units of the codec, or fit its fields. -/
def WholeUnits (params : SessionParams) : Prop :=
  match params.codec with
  | .h264 => 16 ∣ params.width.toNat ∧ 16 ∣ params.height.toNat
  | .h265 => 8 ∣ params.width.toNat ∧ 8 ∣ params.height.toNat
  | .av1 => params.width.toNat ≤ 65536 ∧ params.height.toNat ≤ 65536

/-- The header of a session that was validated declares its size exactly if
the sides are whole in the units of the codec; validation does not ask for
that. -/
theorem declaresSize_iff {debugFlags : UInt32 → String}
    {params : SessionParams} {caps : VideoEncodeCapabilities}
    (profile : Profile)
    (valid : params.validateAgainst debugFlags caps = .ok ()) :
    params.DeclaresSize profile ↔ params.WholeUnits := by
  obtain ⟨wide, high⟩ := (validateAgainst_eq_ok_iff.mp valid).sizes
  rw [DeclaresSize, WholeUnits]
  cases params.codec with
  | h264 => exact H264.declares_iff wide high
  | h265 => exact H265.declares_iff
  | av1 =>
      dsimp only
      rw [Av1.buildFrameSize_of_le profile wide high,
        ← Av1.declaresSide_iff wide, ← Av1.declaresSide_iff high]
      constructor
      · rintro ⟨size, same, declares⟩
        injection same with same
        subst same
        exact declares
      · intro declares
        exact ⟨_, rfl, declares⟩

/-- A session at constant quality. -/
def plain (codec : VideoCodec) (width height : UInt32) : SessionParams where
  width := width
  height := height
  codec := codec
  frameRate := (60, 1)
  rateControl := .constantQp 26
  intraRefreshPeriod := none

/-- A device that takes sides up to a limit, in multiples of two. -/
def evenDevice (codec : VideoCodec) (limit : UInt32) :
    VideoEncodeCapabilities where
  codec := codec
  maxCodedExtent := (limit, limit)
  minCodedExtent := (64, 64)
  pictureAccessGranularity := (2, 2)
  rateControlModes := 0x1
  supportsIntraRefresh := false

/-- Two sessions at 1280x720, which is whole in macroblocks, and one at the
most that AV1 can declare. -/
theorem declaresSize_iff_plain :
    ((plain .h264 1280 720).DeclaresSize .dev ↔
        (plain .h264 1280 720).WholeUnits) ∧
      ((plain .h265 1280 720).DeclaresSize .dev ↔
        (plain .h265 1280 720).WholeUnits) ∧
      ((plain .av1 65536 65536).DeclaresSize .dev ↔
        (plain .av1 65536 65536).WholeUnits) :=
  ⟨@declaresSize_iff (fun _ => "DISABLED") _ (evenDevice .h264 4096) _ rfl,
    @declaresSize_iff (fun _ => "DISABLED") _ (evenDevice .h265 4096) _ rfl,
    @declaresSize_iff (fun _ => "DISABLED") _ (evenDevice .av1 65536) _ rfl⟩

/-- Validation is enough for the header of the codec to declare the size. -/
def ValidationSuffices (codec : VideoCodec) : Prop :=
  ∀ (profile : Profile) (debugFlags : UInt32 → String)
    (params : SessionParams) (caps : VideoEncodeCapabilities),
    params.codec = codec → params.validateAgainst debugFlags caps = .ok () →
      params.DeclaresSize profile

/-- H.264 declares 1072 lines for 1080, H.265 declares a width of 1366
pixels, which is not whole in coding blocks, and AV1 declares a width of 64
for 65600. -/
theorem not_validationSuffices :
    ¬ ValidationSuffices .h264 ∧ ¬ ValidationSuffices .h265 ∧
      ¬ ValidationSuffices .av1 := by
  refine ⟨?_, ?_, ?_⟩
  · intro all
    have declares := all .dev (fun _ => "DISABLED") (plain .h264 1920 1080)
      (evenDevice .h264 4096) rfl rfl
    exact absurd declares.2 (by decide +kernel)
  · intro all
    have declares := all .dev (fun _ => "DISABLED") (plain .h265 1366 768)
      (evenDevice .h265 4096) rfl rfl
    exact absurd declares.wholeWidth (by decide +kernel)
  · intro all
    obtain ⟨size, built, declares⟩ := all .dev (fun _ => "DISABLED")
      (plain .av1 65600 720) (evenDevice .av1 131072) rfl rfl
    injection (show _ = Except.ok size from built) with same
    subst same
    exact absurd declares.1.exact (by decide +kernel)

end SessionParams

end RemoteWay.Encode
