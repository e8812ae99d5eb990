import RemoteWay.Compress.Pipeline

/-!
# The parallel LZ4 path

`compress_regions_parallel` computes the delta of each region on its own,
`delta_encode_region`.  The encoders of `delta.rs` append these deltas in
region order, and `compress_frame_into` cuts them apart again.
-/

namespace RemoteWay.Compress

open RemoteWay.Base

def deltaEncodeRegionRow (profile : Profile)
    (current previous : List UInt8) (rect : DamageRect) (stride : Nat)
    (out : List UInt8) (row : Nat) : Exec (List UInt8) := do
  let rowBytes := rect.width.toNat * 4
  let xStart := rect.x.toNat * 4
  let rowStart ← rowOffset profile stride rect row xStart
  let rowEnd ← usizeAdd profile rowStart rowBytes
  let cur ← slice current rowStart rowEnd
  let prev ← slice previous rowStart rowEnd
  return out ++ List.zipWith (· ^^^ ·) cur prev

/-- XOR-encode a single damage region. -/
def deltaEncodeRegion (profile : Profile) (current previous : List UInt8)
    (rect : DamageRect) (stride : Nat) : Exec (List UInt8) := do
  let rowBytes := rect.width.toNat * 4
  let _capacity ← usizeMul profile rowBytes rect.height.toNat
  (List.range rect.height.toNat).foldlM
    (deltaEncodeRegionRow profile current previous rect stride) []

/-- Delta-encode and compress each damage region. -/
def compressRegionsParallel (profile : Profile)
    (libraries : CompressionLibraries) (current previous : List UInt8)
    (regions : List DamageRect) (stride : Nat) :
    Exec (List (List UInt8)) := do
  let deltas ← regions.mapM fun rect =>
    deltaEncodeRegion profile current previous rect stride
  return deltas.map libraries.compressPrependSize

section Inside

variable (profile : Profile) {current previous : List UInt8}
variable {stride : Nat}

private theorem deltaEncodeRegionRow_of_inside {rect : DamageRect}
    {row : Nat} (out : List UInt8)
    (sameLength : current.length = previous.length)
    (addressable : current.length < usizeRange)
    (inside : rowBase stride rect row + rect.width.toNat * 4 ≤
      current.length) :
    deltaEncodeRegionRow profile current previous rect stride out row =
      deltaEncodeRow profile current previous stride rect out row := by
  have started := rowOffset_start profile
    (show rowBase stride rect row < usizeRange by omega)
  have stopped := rowOffset_end profile
    (show rowBase stride rect row + rect.width.toNat * 4 < usizeRange by
      omega)
  have added := usizeAdd_of_lt profile
    (show rowBase stride rect row + rect.width.toNat * 4 < usizeRange by
      omega)
  rw [deltaEncodeRow_eq_scalarRow, deltaEncodeRegionRow,
    deltaEncodeScalarRow, started, stopped]
  simp only [bind, Except.bind, added]

theorem deltaEncodeRegion_of_inside {rect : DamageRect}
    (sameLength : current.length = previous.length)
    (addressable : current.length < usizeRange)
    (inside : ∀ row, row < rect.height.toNat →
      rowBase stride rect row + rect.width.toNat * 4 ≤ current.length)
    (fits : rect.width.toNat * 4 * rect.height.toNat < usizeRange) :
    deltaEncodeRegion profile current previous rect stride =
      .ok (rectDelta current previous stride rect) := by
  have rows : (List.range rect.height.toNat).foldlM
      (deltaEncodeRegionRow profile current previous rect stride) [] =
        .ok ([] ++ (List.range rect.height.toNat).flatMap fun row =>
          encodeAt 0 xorByte current previous
            (rowOffsets stride rect row)) := by
    apply foldlM_eq_append_flatMap
    intro row member out
    have rowInside := inside row (List.mem_range.mp member)
    rw [deltaEncodeRegionRow_of_inside profile out sameLength addressable
        rowInside,
      deltaEncodeRow_of_inside profile out sameLength addressable rowInside]
  rw [deltaEncodeRegion, usizeMul_of_lt profile fits]
  simp only [bind, Except.bind, rows]
  rw [List.nil_append, encodeAt_flatMap, rectDelta, rectOffsets]

private theorem regionSize_le_of_mem (stride : Nat) {rect : DamageRect}
    {regions : List DamageRect} (member : rect ∈ regions) :
    rect.width.toNat * 4 * rect.height.toNat ≤
      (regionOffsets stride regions).length := by
  obtain ⟨before, after, rfl⟩ := List.append_of_mem member
  simp only [regionOffsets, List.flatMap_append, List.flatMap_cons,
    List.length_append, length_rectOffsets]
  omega

theorem mapM_deltaEncodeRegion {regions : List DamageRect}
    (sameLength : current.length = previous.length)
    (addressable : current.length < usizeRange)
    (inside : RegionsInside stride current.length regions)
    (fits : (regionOffsets stride regions).length < usizeRange) :
    (regions.mapM fun rect =>
        deltaEncodeRegion profile current previous rect stride) =
      .ok (regions.map (rectDelta current previous stride)) := by
  apply mapM_ok_of_forall
  intro rect member
  have size := regionSize_le_of_mem stride member
  exact deltaEncodeRegion_of_inside profile sameLength addressable
    (inside rect member) (by omega)

/-- The parallel path yields the blobs of `compress_frame_into` with LZ4. -/
theorem compressRegionsParallel_eq (libraries : CompressionLibraries)
    {regions : List DamageRect}
    (sameLength : current.length = previous.length)
    (addressable : current.length < usizeRange)
    (inside : RegionsInside stride current.length regions)
    (fits : (regionOffsets stride regions).length < usizeRange) :
    compressRegionsParallel profile libraries current previous regions
        stride =
      .ok (regionBlobs (CompressorKind.lz4.codec libraries) current previous
        stride regions) := by
  rw [compressRegionsParallel, mapM_deltaEncodeRegion profile sameLength
    addressable inside fits]
  simp [bind, Except.bind, pure, Except.pure, regionBlobs, compressOrEmpty,
    CompressorKind.codec, CompressorKind.compress]

/-- The two encoders append the same bytes and report the same count: the
deltas of the single regions in order.  These deltas are also the slices that
`compress_frame_into` cuts out of its scratch buffer and compresses. -/
theorem deltaEncoders_agree {regions : List DamageRect}
    (output : List UInt8) (kind : Codec)
    (sameLength : current.length = previous.length)
    (addressable : current.length < usizeRange)
    (inside : RegionsInside stride current.length regions)
    (fits : (regionOffsets stride regions).length < usizeRange) :
    deltaEncodeSimd profile current previous stride regions output =
        deltaEncodeScalar profile current previous stride regions output ∧
      ∃ deltas scratch,
        (regions.mapM fun rect =>
            deltaEncodeRegion profile current previous rect stride) =
          .ok deltas ∧
        deltaEncodeSimd profile current previous stride regions output =
          .ok (deltas.flatten.length, output ++ deltas.flatten) ∧
        deltaEncodeSimd profile current previous stride regions [] =
          .ok (scratch.length, scratch) ∧
        regions.foldlM (regionSlice profile scratch) ([], 0) =
          .ok (deltas, scratch.length) ∧
        compressFrameInto profile current previous stride regions kind =
          .ok (CompressedFrame.ofBlobs scratch.length
            (deltas.map (compressOrEmpty kind))) := by
  have encoded := fun output => deltaEncodeSimd_of_inside profile output
    sameLength addressable inside
  have slices := regionSlices_eq profile
    (length_rectDelta current previous stride) regions [] []
    (by rw [List.nil_append, flatMap_rectDelta, length_deltaBytes]
        exact fits)
  rw [List.nil_append, flatMap_rectDelta, List.nil_append] at slices
  have joined : (regions.map (rectDelta current previous stride)).flatten =
      deltaBytes current previous stride regions := by
    rw [← flatMap_rectDelta, List.flatMap_def]
  refine ⟨deltaEncodeSimd_eq_scalar profile current previous stride regions
    output, regions.map (rectDelta current previous stride),
    deltaBytes current previous stride regions, ?_, ?_, ?_, ?_, ?_⟩
  · exact mapM_deltaEncodeRegion profile sameLength addressable inside fits
  · rw [joined]
    exact encoded output
  · exact encoded []
  · exact slices
  · rw [compressFrameInto_of_inside profile kind sameLength addressable
      inside fits, length_deltaBytes, regionBlobs, List.map_map]
    rfl

end Inside

def rampRows : List UInt8 := (List.range 48).map UInt8.ofNat

def flatRows : List UInt8 := List.replicate 48 7

private def overlappingRows : List DamageRect := [⟨1, 0, 9, 1⟩, ⟨0, 0, 2, 1⟩]

theorem deltaEncoders_agree_overlappingRows :
    deltaEncodeSimd .dev rampRows flatRows 48 overlappingRows [255] =
        deltaEncodeScalar .dev rampRows flatRows 48 overlappingRows
          [255] ∧
      ∃ deltas scratch,
        (overlappingRows.mapM fun rect =>
            deltaEncodeRegion .dev rampRows flatRows rect 48) =
          .ok deltas ∧
        deltaEncodeSimd .dev rampRows flatRows 48 overlappingRows [255] =
          .ok (deltas.flatten.length, [255] ++ deltas.flatten) ∧
        deltaEncodeSimd .dev rampRows flatRows 48 overlappingRows [] =
          .ok (scratch.length, scratch) ∧
        overlappingRows.foldlM (regionSlice .dev scratch) ([], 0) =
          .ok (deltas, scratch.length) ∧
        compressFrameInto .dev rampRows flatRows 48 overlappingRows
            .plain =
          .ok (CompressedFrame.ofBlobs scratch.length
            (deltas.map (compressOrEmpty .plain))) :=
  deltaEncoders_agree .dev [255] .plain (by decide) (by decide)
    (by unfold RegionsInside; decide) (by decide)

end RemoteWay.Compress
