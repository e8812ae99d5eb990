import RemoteWay.Compress.Pipeline

/-!
# Compression round trip with reused buffers

`compress_frame_into` and `decompress_frame_into` are given buffers that
still hold an earlier frame.  Here these buffers are part of the state.
Decompressing a compressed frame yields the current frame at the bytes of
the regions and the previous frame elsewhere, whatever the buffers held.
-/

namespace RemoteWay.Compress

open RemoteWay.Base

/-! ## Compressing into reused buffers -/

/-- Clear all per-frame state. -/
def CompressedFrame.reset (out : CompressedFrame) : CompressedFrame :=
  { out with data := [], regionOffsets := [], regionSizes := [],
             stats := ⟨0, 0⟩ }

/-- `compress_frame_into` with the buffers of its caller. -/
def compressFrameReusing (profile : Profile)
    (current previous : List UInt8) (stride : Nat)
    (regions : List DamageRect) (deltaScratch : List UInt8)
    (out : CompressedFrame) (kind : Codec) :
    Exec (List UInt8 × CompressedFrame) := do
  let out := out.reset
  let deltaScratch := deltaScratch.take 0
  let (originalBytes, deltaScratch) ←
    deltaEncodeSimd profile current previous stride regions deltaScratch
  let (regionSlices, _) ←
    regions.foldlM (regionSlice profile deltaScratch) ([], 0)
  let compressedRegions := regionSlices.map (compressOrEmpty kind)
  let out := compressedRegions.foldl CompressedFrame.push out
  return (deltaScratch,
    { out with stats := ⟨originalBytes, out.data.length⟩ })

/-- What is compressed does not depend on the contents of the buffers. -/
theorem compressFrameReusing_eq (profile : Profile)
    (current previous : List UInt8) (stride : Nat)
    (regions : List DamageRect) (deltaScratch : List UInt8)
    (out : CompressedFrame) (kind : Codec) :
    (compressFrameReusing profile current previous stride regions
        deltaScratch out kind).map Prod.snd =
      compressFrameInto profile current previous stride regions kind := by
  rw [compressFrameReusing, compressFrameInto, List.take_zero]
  cases deltaEncodeSimd profile current previous stride regions [] with
  | error panic => simp only [bind, Except.bind, Except.map]
  | ok result =>
      obtain ⟨originalBytes, deltaScratch⟩ := result
      cases sliced : regions.foldlM (regionSlice profile deltaScratch)
          ([], 0) with
      | error panic =>
          simp only [sliced, bind, Except.bind, Except.map]
      | ok slices =>
          simp only [sliced, bind, Except.bind]
          rfl

/-! ## Decompressing into reused buffers -/

/-- Append the decoded regions up to the first that failed. -/
def appendDecoded : List (Except CompressorError (List UInt8)) →
    List UInt8 → Except CompressorError Unit × List UInt8
  | [], deltaScratch => (.ok (), deltaScratch)
  | .error reason :: _, deltaScratch => (.error reason, deltaScratch)
  | .ok region :: decoded, deltaScratch =>
      appendDecoded decoded (deltaScratch ++ region)

/-- `decompress_frame_into` with the buffers of its caller: the result, and
the contents of `delta_scratch` and `output` that it leaves. -/
def decompressFrameReusing (profile : Profile)
    (compressed : CompressedFrame) (previous : List UInt8) (stride : Nat)
    (regions : List DamageRect) (deltaScratch output : List UInt8)
    (kind : Codec) :
    Exec (Except CompressorError Unit × List UInt8 × List UInt8) := do
  let output := resize output previous.length 0
  let deltaScratch := deltaScratch.take 0
  let blobs ←
    (List.range regions.length).mapM (regionBlob profile compressed)
  let decoded := blobs.map kind.decompress
  match appendDecoded decoded deltaScratch with
  | (.error reason, deltaScratch) =>
      return (.error reason, deltaScratch, output)
  | (.ok (), deltaScratch) =>
      let output ←
        deltaDecode profile deltaScratch previous stride regions output
      return (.ok (), deltaScratch, output)

theorem appendDecoded_of_mapM {decompress : List UInt8 →
      Except CompressorError (List UInt8)} :
    ∀ {blobs decoded : List (List UInt8)} (deltaScratch : List UInt8),
      blobs.mapM decompress = .ok decoded →
        appendDecoded (blobs.map decompress) deltaScratch =
          (.ok (), deltaScratch ++ decoded.flatten)
  | [], decoded, deltaScratch, done => by
      injection done with same
      rw [← same]
      exact Prod.ext rfl (List.append_nil _).symm
  | blob :: blobs, decoded, deltaScratch, done => by
      rw [List.mapM_cons] at done
      cases first : decompress blob with
      | error reason =>
          rw [first] at done
          cases done
      | ok region =>
          rw [first] at done
          cases rest : blobs.mapM decompress with
          | error reason =>
              rw [rest] at done
              cases done
          | ok regions =>
              rw [rest] at done
              injection done with same
              rw [List.map_cons, first, appendDecoded,
                appendDecoded_of_mapM _ rest, ← same, List.flatten_cons,
                List.append_assoc]

/-- What a frame decompresses to does not depend on the contents of the
scratch buffer. -/
theorem decompressFrameReusing_of_ok {profile : Profile}
    {compressed : CompressedFrame} {previous : List UInt8} {stride : Nat}
    {regions : List DamageRect} {output result : List UInt8} {kind : Codec}
    (deltaScratch : List UInt8)
    (done : decompressFrameInto profile compressed previous stride regions
      output kind = .ok (.ok result)) :
    ∃ scratch, decompressFrameReusing profile compressed previous stride
        regions deltaScratch output kind =
      .ok (.ok (), scratch, result) := by
  rw [decompressFrameInto, bind_eq_ok_iff] at done
  obtain ⟨blobs, cut, done⟩ := done
  rw [decompressFrameReusing, cut, List.take_zero]
  cases decompressed : blobs.mapM kind.decompress with
  | error reason =>
      rw [decompressed] at done
      injection done with same
      cases same
  | ok decoded =>
      rw [decompressed] at done
      dsimp only at done
      rw [bind_eq_ok_iff] at done
      obtain ⟨value, decodedOutput, done⟩ := done
      injection done with same
      injection same with same
      refine ⟨decoded.flatten, ?_⟩
      simp only [bind, Except.bind]
      rw [appendDecoded_of_mapM [] decompressed, List.nil_append]
      simp only [decodedOutput, same]
      rfl

/-! ## The round trip -/

/-- A byte of the frame that lies in some region. -/
def InSomeRegion (stride : Nat) (regions : List DamageRect)
    (offset : Nat) : Prop :=
  ∃ rect, rect ∈ regions ∧ ∃ row, row < rect.height.toNat ∧
    rowBase stride rect row ≤ offset ∧
      offset < rowBase stride rect row + rect.width.toNat * 4

theorem mem_regionOffsets_iff_inSomeRegion {stride offset : Nat}
    {regions : List DamageRect} :
    offset ∈ regionOffsets stride regions ↔
      InSomeRegion stride regions offset := by
  rw [mem_regionOffsets]
  constructor
  · rintro ⟨rect, rectMember, row, rowBound, column, columnBound, rfl⟩
    exact ⟨rect, rectMember, row, rowBound, by omega, by omega⟩
  · rintro ⟨rect, rectMember, row, rowBound, lower, upper⟩
    exact ⟨rect, rectMember, row, rowBound,
      offset - rowBase stride rect row, by omega, by omega⟩

/-- A lossless codec restores a compressed frame from the frame it was
compressed against. -/
theorem decompressFrameInto_ofBlobs (profile : Profile) {kind : Codec}
    (lossless : kind.Lossless) {current previous : List UInt8}
    {stride : Nat} {regions : List DamageRect}
    (addressable : previous.length < usizeRange)
    (inside : RegionsInside stride previous.length regions)
    (deltaFits : (regionOffsets stride regions).length < usizeRange)
    (blobsFit : (regionBlobs kind current previous stride
      regions).flatten.length < usizeRange)
    (originalBytes : Nat) (output : List UInt8) :
    decompressFrameInto profile
        (CompressedFrame.ofBlobs originalBytes
          (regionBlobs kind current previous stride regions))
        previous stride regions output kind =
      .ok (.ok (decodeAt 0 xorByte previous (regionOffsets stride regions)
        (deltaBytes current previous stride regions))) := by
  have count : (regionBlobs kind current previous stride
      regions).length = regions.length := List.length_map _
  have described :=
    CompressedFrame.described_ofBlobs originalBytes blobsFit
  rw [count] at described
  have blobs : (CompressedFrame.ofBlobs originalBytes
      (regionBlobs kind current previous stride regions)).blobs =
      regionBlobs kind current previous stride regions := by
    have cut := cutBlobs_flatten []
      (regionBlobs kind current previous stride regions)
    rw [List.append_nil] at cut
    exact cut
  have reaches : DeltaReaches (deltaBytes current previous stride regions)
      (regionOffsets stride regions).length :=
    ⟨Nat.le_of_eq (length_deltaBytes _ _ _ _).symm, deltaFits⟩
  rw [decompressFrameInto_of_described profile described, blobs,
    mapM_decompress_regionBlobs lossless]
  dsimp only
  rw [← List.flatMap_def, flatMap_rectDelta,
    deltaDecode_of_readable profile (length_resize _ _ _)
      (inside.readable addressable) reaches]
  rfl

/-- For frames of equal length and regions inside them, compression has a
result whenever the delta fits into a vector; and a result that fits is
decompressed to the current frame at every byte of a region and to the
previous frame elsewhere.  None of the four buffers needs to be empty. -/
theorem decompress_compress_round_trip (encodeProfile profile : Profile)
    {kind : Codec} (lossless : kind.Lossless)
    {current previous : List UInt8} {stride : Nat}
    {regions : List DamageRect}
    (sameLength : current.length = previous.length)
    (addressable : current.length < usizeRange)
    (inside : RegionsInside stride current.length regions)
    (deltaFits : (regionOffsets stride regions).length < usizeRange)
    (deltaScratch : List UInt8) (out : CompressedFrame) :
    ∃ delta compressed,
      compressFrameReusing encodeProfile current previous stride regions
          deltaScratch out kind = .ok (delta, compressed) ∧
      (compressed.data.length < usizeRange →
        ∀ scratch output, ∃ decoded result,
          decompressFrameReusing profile compressed previous stride regions
              scratch output kind = .ok (.ok (), decoded, result) ∧
            result.length = previous.length ∧
            ∀ offset, offset < previous.length →
              (InSomeRegion stride regions offset →
                result.getD offset 0 = current.getD offset 0) ∧
              (¬ InSomeRegion stride regions offset →
                result.getD offset 0 = previous.getD offset 0)) := by
  have compressed := compressFrameInto_of_inside encodeProfile kind
    sameLength addressable inside deltaFits
  rw [← compressFrameReusing_eq encodeProfile current previous stride
    regions deltaScratch out kind] at compressed
  cases reused : compressFrameReusing encodeProfile current previous stride
      regions deltaScratch out kind with
  | error panic =>
      rw [reused] at compressed
      cases compressed
  | ok buffers =>
      obtain ⟨delta, frame⟩ := buffers
      rw [reused] at compressed
      injection compressed with same
      refine ⟨delta, frame, rfl, ?_⟩
      intro blobsFit scratch output
      change frame = _ at same
      rw [same] at blobsFit ⊢
      rw [sameLength] at addressable inside
      obtain ⟨decoded, reconstructed⟩ := decompressFrameReusing_of_ok
        scratch (decompressFrameInto_ofBlobs profile lossless addressable
          inside deltaFits blobsFit (regionOffsets stride regions).length
          output)
      refine ⟨decoded, _, reconstructed, length_decodeAt _ _ _ _ _, ?_⟩
      intro offset within
      constructor
      · intro covered
        exact getD_decodeAt_of_agree 0 xorByte xorByte xorByte_undo within
          (mem_regionOffsets_iff_inSomeRegion.mpr covered) rfl
      · intro uncovered
        exact getD_decodeAt_of_not_mem 0 xorByte xorByte within
          fun covered => uncovered
            (mem_regionOffsets_iff_inSomeRegion.mp covered)

/-- Two overlapping regions of a padded frame, and an empty one. -/
def overlappingRegions : List DamageRect :=
  [⟨1, 0, 1, 2⟩, ⟨0, 1, 2, 1⟩, ⟨1, 1, 0, 1⟩]

private theorem overlappingRegions_inside :
    RegionsInside 12 24 overlappingRegions := by
  have each : ∀ rect, rect ∈ overlappingRegions → ∀ row,
      row < rect.height.toNat →
        rowBase 12 rect row + rect.width.toNat * 4 ≤ 24 := by
    decide
  exact each

def rampFrame : List UInt8 := (List.range 24).map UInt8.ofNat

def flatFrame : List UInt8 := List.replicate 24 77

theorem decompress_compress_round_trip_overlapping :
    ∃ delta compressed,
      compressFrameReusing .dev rampFrame flatFrame 12 overlappingRegions
          [1, 2] ⟨[3], [4], [5], ⟨6, 7⟩⟩ .plain =
        .ok (delta, compressed) ∧
      ∃ decoded result,
        decompressFrameReusing .release compressed flatFrame 12
            overlappingRegions [8] [9] .plain =
          .ok (.ok (), decoded, result) ∧
        result.getD 13 0 = 13 ∧ result.getD 3 0 = 77 := by
  obtain ⟨delta, compressed, encoded, restored⟩ :=
    decompress_compress_round_trip .dev .release Codec.plain_lossless
      (show rampFrame.length = flatFrame.length by decide) (by decide)
      overlappingRegions_inside (by decide) [1, 2] ⟨[3], [4], [5], ⟨6, 7⟩⟩
  have size : (compressFrameReusing .dev rampFrame flatFrame 12
      overlappingRegions [1, 2] ⟨[3], [4], [5], ⟨6, 7⟩⟩ .plain).map
        (fun buffers => buffers.2.data.length) = .ok 16 := by
    decide +kernel
  rw [encoded] at size
  injection size with size
  change compressed.data.length = 16 at size
  obtain ⟨decoded, result, reconstructed, _, at_⟩ :=
    restored (by rw [size]; decide) [8] [9]
  refine ⟨delta, compressed, encoded, decoded, result, reconstructed, ?_, ?_⟩
  · apply (at_ 13 (by decide)).1
    exact ⟨⟨0, 1, 2, 1⟩, by decide, 0, by decide, by decide, by decide⟩
  · apply (at_ 3 (by decide)).2
    rw [← mem_regionOffsets_iff_inSomeRegion]
    decide

end RemoteWay.Compress
