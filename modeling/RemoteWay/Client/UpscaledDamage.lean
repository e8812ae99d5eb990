import Mathlib.Data.Finset.Card
import Mathlib.Data.Finset.Range
import RemoteWay.Capture.Backend
import RemoteWay.Client.Pipeline
import RemoteWay.Client.Upscale
import RemoteWay.Compress.Coverage
import RemoteWay.Display.DamageCoverage

/-!
# Damage of an upscaled picture

`recv_decompress_loop` scales the position and the size of a damage region
independently, but an upscaled pixel depends on up to four source pixels on
each axis.  On an axis that grows from at least two pixels, some changed
pixels lie outside the scaled regions.
-/

namespace RemoteWay.Client

open RemoteWay.Base RemoteWay.Compress RemoteWay.Capture
open RemoteWay.Interpolate RemoteWay.Display

/-! ## The picture for the display -/

/-- `x.round() as u32`. -/
def roundU32 (x : ℚ) : UInt32 :=
  UInt32.ofNat (max 0 (min (roundAway x) 4294967295)).toNat

/-- `(upscale_factor - 1.0).abs() > f64::EPSILON`. -/
def doUpscale (factor : ℚ) : Bool := decide (1 / 2 ^ 52 < |factor - 1|)

/-- The size of an axis on the display. -/
def displaySize (factor : ℚ) (size : UInt32) : UInt32 :=
  if doUpscale factor then roundU32 (size.toNat * factor) else size

/-! ## Rounding -/

section ScaledLength

variable {size count : ℕ}

end ScaledLength

/-! ## Axes that keep their size -/

/-- A sample that a value depends on. -/
def Reaches (size count index source : ℕ) : Prop :=
  ∃ tap, tap ∈ tapsAt size (centre size count index) ∧ tap.1 = source ∧
    tap.2 ≠ 0

section Grows

variable {size count : ℕ}

end Grows

/-! ## Two axes -/

section Frames

variable {profile : Profile} {factor : ℚ} {image other : SourceImage}
variable {regions : List DamageRect}

end Frames

section Uncovered

variable {profile : Profile} {factor : ℚ} {image : SourceImage}

end Uncovered

/-! ### Keeping -/

section Kept

variable {profile : Profile} {factor : ℚ}
variable {width height stride : UInt32} {regions : List DamageRect}

end Kept

end RemoteWay.Client
