import RemoteWay.Base.Blobs
import RemoteWay.Compress.Compressor
import RemoteWay.Compress.Delta

/-!
# Compressing and decompressing frames

`compress_frame_into` encodes the damaged regions of a frame and compresses
each; `decompress_frame_into` reverses this.  Both clear their scratch
buffers first, so these are local here.  The compressed frame is determined
by its blobs, `CompressedFrame.ofBlobs`.
-/

namespace RemoteWay.Compress

open RemoteWay.Base

/-- Size metrics of a frame. -/
structure FrameStats where
  originalBytes : Nat
  compressedBytes : Nat
  deriving DecidableEq, Repr

/-- Output of the compression pipeline for one frame. -/
structure CompressedFrame where
  data : List UInt8
  regionOffsets : List Nat
  regionSizes : List Nat
  stats : FrameStats
  deriving DecidableEq, Repr

def CompressedFrame.empty : CompressedFrame := ⟨[], [], [], ⟨0, 0⟩⟩

/-! ## Compressing -/

/-- Cut the next region out of the scratch buffer.  The state is the slices
and the offset of the region. -/
def regionSlice (profile : Profile) (deltaScratch : List UInt8)
    (state : List (List UInt8) × Nat) (rect : DamageRect) :
    Exec (List (List UInt8) × Nat) := do
  let (regionSlices, deltaOffset) := state
  let regionLen ←
    usizeMul profile (rect.width.toNat * 4) rect.height.toNat
  let deltaEnd ← usizeAdd profile deltaOffset regionLen
  let region ← slice deltaScratch deltaOffset deltaEnd
  return (regionSlices ++ [region], deltaEnd)

/-- `kind.compress(delta).unwrap_or_default()`. -/
def compressOrEmpty (codec : Codec) (delta : List UInt8) : List UInt8 :=
  match codec.compress delta with
  | .ok blob => blob
  | .error _ => []

def CompressedFrame.push (out : CompressedFrame) (blob : List UInt8) :
    CompressedFrame :=
  { out with
    regionOffsets := out.regionOffsets ++ [out.data.length]
    regionSizes := out.regionSizes ++ [blob.length]
    data := out.data ++ blob }

/-- Encode and compress the damaged regions of a frame. -/
def compressFrameInto (profile : Profile) (current previous : List UInt8)
    (stride : Nat) (regions : List DamageRect) (kind : Codec) :
    Exec CompressedFrame := do
  let (originalBytes, deltaScratch) ←
    deltaEncodeSimd profile current previous stride regions []
  let (regionSlices, _) ←
    regions.foldlM (regionSlice profile deltaScratch) ([], 0)
  let compressedRegions := regionSlices.map (compressOrEmpty kind)
  let out := compressedRegions.foldl CompressedFrame.push
    CompressedFrame.empty
  return { out with stats := ⟨originalBytes, out.data.length⟩ }

/-! ## Decompressing -/

def regionBlob (profile : Profile) (compressed : CompressedFrame)
    (i : Nat) : Exec (List UInt8) := do
  let start ← readAt compressed.regionOffsets i
  let size ← readAt compressed.regionSizes i
  let stop ← usizeAdd profile start size
  slice compressed.data start stop

/-- Decompress and reconstruct a frame into `output`.  The first region that
fails to decompress, in region order, is the error. -/
def decompressFrameInto (profile : Profile) (compressed : CompressedFrame)
    (previous : List UInt8) (stride : Nat) (regions : List DamageRect)
    (output : List UInt8) (kind : Codec) :
    Exec (Except CompressorError (List UInt8)) := do
  let output := resize output previous.length 0
  let blobs ←
    (List.range regions.length).mapM (regionBlob profile compressed)
  match blobs.mapM kind.decompress with
  | .error reason => return .error reason
  | .ok decoded =>
      let deltaScratch := decoded.flatten
      return .ok
        (← deltaDecode profile deltaScratch previous stride regions output)

/-! ## The blobs of a frame -/

/-- The compressed frame that consists of the given blobs. -/
def CompressedFrame.ofBlobs (originalBytes : Nat)
    (blobs : List (List UInt8)) : CompressedFrame where
  data := blobs.flatten
  regionOffsets := offsetsFrom 0 (blobs.map List.length)
  regionSizes := blobs.map List.length
  stats := ⟨originalBytes, blobs.flatten.length⟩

/-- The delta of one region. -/
def rectDelta (current previous : List UInt8) (stride : Nat)
    (rect : DamageRect) : List UInt8 :=
  encodeAt 0 xorByte current previous (rectOffsets stride rect)

/-- The compressed deltas of a region list. -/
def regionBlobs (kind : Codec) (current previous : List UInt8)
    (stride : Nat) (regions : List DamageRect) : List (List UInt8) :=
  regions.map fun rect =>
    compressOrEmpty kind (rectDelta current previous stride rect)

@[simp]
theorem length_rectDelta (current previous : List UInt8) (stride : Nat)
    (rect : DamageRect) :
    (rectDelta current previous stride rect).length =
      rect.width.toNat * 4 * rect.height.toNat := by
  rw [rectDelta, length_encodeAt, length_rectOffsets]

theorem flatMap_rectDelta (current previous : List UInt8) (stride : Nat)
    (regions : List DamageRect) :
    regions.flatMap (rectDelta current previous stride) =
      deltaBytes current previous stride regions := by
  rw [deltaBytes, encodeAt, regionOffsets, List.map_flatMap]
  rfl

theorem length_deltaBytes (current previous : List UInt8) (stride : Nat)
    (regions : List DamageRect) :
    (deltaBytes current previous stride regions).length =
      (regionOffsets stride regions).length := by
  rw [deltaBytes, length_encodeAt]

/-- The slices of a scratch buffer that consists of the regions' pieces. -/
theorem regionSlices_eq (profile : Profile)
    {piece : DamageRect → List UInt8}
    (sized : ∀ rect, (piece rect).length =
      rect.width.toNat * 4 * rect.height.toNat) :
    ∀ (regions : List DamageRect) (before : List UInt8)
      (slices : List (List UInt8)),
      (before ++ regions.flatMap piece).length < usizeRange →
        regions.foldlM
            (regionSlice profile (before ++ regions.flatMap piece))
            (slices, before.length) =
          .ok (slices ++ regions.map piece,
            (before ++ regions.flatMap piece).length)
  | [], before, slices, _ => by
      simp [pure, Except.pure]
  | rect :: regions, before, slices, addressable => by
      have here := sized rect
      rw [List.flatMap_cons, List.length_append, List.length_append]
        at addressable
      have multiplied : usizeMul profile (rect.width.toNat * 4)
          rect.height.toNat = .ok (piece rect).length := by
        rw [usizeMul_of_lt profile (by omega), here]
      have added := usizeAdd_of_lt profile
        (show before.length + (piece rect).length < usizeRange by omega)
      have taken :
          slice (before ++ (rect :: regions).flatMap piece) before.length
              (before.length + (piece rect).length) =
            .ok (piece rect) := by
        rw [slice_of_le _ (Nat.le_add_right _ _) (by simp),
          Nat.add_sub_cancel_left, List.drop_left, List.flatMap_cons,
          List.take_left]
      have step :
          regionSlice profile (before ++ (rect :: regions).flatMap piece)
              (slices, before.length) rect =
            .ok (slices ++ [piece rect],
              (before ++ piece rect).length) := by
        rw [regionSlice]
        simp only [bind, Except.bind, multiplied, added, taken]
        rw [List.length_append]
        rfl
      have tail := regionSlices_eq profile sized regions
        (before ++ piece rect) (slices ++ [piece rect])
        (by rw [List.length_append, List.length_append]; omega)
      rw [List.foldlM_cons, step]
      simp only [bind, Except.bind]
      rw [List.flatMap_cons, ← List.append_assoc, tail]
      simp

private theorem foldl_push :
    ∀ (blobs : List (List UInt8)) (out : CompressedFrame),
      blobs.foldl CompressedFrame.push out =
        { out with
          data := out.data ++ blobs.flatten
          regionOffsets := out.regionOffsets ++
            offsetsFrom out.data.length (blobs.map List.length)
          regionSizes := out.regionSizes ++ blobs.map List.length }
  | [], out => by
      simp [offsetsFrom]
  | blob :: blobs, out => by
      rw [List.foldl_cons, foldl_push blobs (out.push blob)]
      simp [CompressedFrame.push, offsetsFrom]

/-- Compressing in-bounds regions of two equally long frames. -/
theorem compressFrameInto_of_inside (profile : Profile)
    {current previous : List UInt8} {stride : Nat}
    {regions : List DamageRect} (kind : Codec)
    (sameLength : current.length = previous.length)
    (addressable : current.length < usizeRange)
    (inside : RegionsInside stride current.length regions)
    (fits : (regionOffsets stride regions).length < usizeRange) :
    compressFrameInto profile current previous stride regions kind =
      .ok (CompressedFrame.ofBlobs (regionOffsets stride regions).length
        (regionBlobs kind current previous stride regions)) := by
  have encoded :=
    deltaEncodeSimd_of_inside profile [] sameLength addressable inside
  have slices := regionSlices_eq profile
    (length_rectDelta current previous stride) regions [] []
    (by rw [List.nil_append, flatMap_rectDelta, length_deltaBytes]
        exact fits)
  rw [List.nil_append, flatMap_rectDelta] at slices
  rw [List.nil_append] at encoded
  rw [compressFrameInto, encoded]
  simp only [bind, Except.bind]
  rw [show ([] : List UInt8).length = 0 from rfl] at slices
  rw [slices]
  dsimp only
  rw [List.nil_append, foldl_push, length_deltaBytes, List.map_map]
  simp [CompressedFrame.empty, CompressedFrame.ofBlobs, regionBlobs,
    Function.comp_def, pure, Except.pure]

private theorem length_of_regionSlices (profile : Profile)
    {deltaScratch : List UInt8} :
    ∀ {regions : List DamageRect} {state result : List (List UInt8) × Nat},
      regions.foldlM (regionSlice profile deltaScratch) state =
          .ok result →
        result.1.length = state.1.length + regions.length
  | [], state, result, done => by
      injection done with same
      rw [← same]
      rfl
  | rect :: regions, state, result, done => by
      rw [List.foldlM_cons, bind_eq_ok_iff] at done
      obtain ⟨next, sliced, done⟩ := done
      have tail := length_of_regionSlices profile done
      rw [regionSlice, bind_eq_ok_iff] at sliced
      obtain ⟨regionLen, _, sliced⟩ := sliced
      rw [bind_eq_ok_iff] at sliced
      obtain ⟨deltaEnd, _, sliced⟩ := sliced
      rw [bind_eq_ok_iff] at sliced
      obtain ⟨region, _, sliced⟩ := sliced
      injection sliced with same
      rw [tail, ← same, List.length_append, List.length_singleton,
        List.length_cons]
      omega

/-- A compressed frame consists of one blob for each region. -/
theorem compressFrameInto_eq_ok {profile : Profile}
    {current previous : List UInt8} {stride : Nat}
    {regions : List DamageRect} {kind : Codec}
    {compressed : CompressedFrame}
    (done : compressFrameInto profile current previous stride regions kind =
      .ok compressed) :
    ∃ originalBytes blobs, blobs.length = regions.length ∧
      compressed = CompressedFrame.ofBlobs originalBytes blobs := by
  rw [compressFrameInto, bind_eq_ok_iff] at done
  obtain ⟨⟨originalBytes, deltaScratch⟩, _, done⟩ := done
  rw [bind_eq_ok_iff] at done
  obtain ⟨⟨regionSlices, stop⟩, sliced, done⟩ := done
  have count := length_of_regionSlices profile sliced
  injection done with same
  refine ⟨originalBytes, regionSlices.map (compressOrEmpty kind), ?_, ?_⟩
  · rw [List.length_map, count]
    exact Nat.zero_add _
  · rw [← same, foldl_push]
    simp [CompressedFrame.empty, CompressedFrame.ofBlobs]

/-! ## Decompressing described blobs -/

/-- A compressed frame whose offsets are those of its sizes, and which holds
all the blobs they describe. -/
structure CompressedFrame.Described (compressed : CompressedFrame)
    (count : Nat) : Prop where
  offsets : compressed.regionOffsets =
    offsetsFrom 0 compressed.regionSizes
  count_eq : compressed.regionSizes.length = count
  enough : compressed.regionSizes.sum ≤ compressed.data.length
  addressable : compressed.regionSizes.sum < usizeRange

def CompressedFrame.blobs (compressed : CompressedFrame) :
    List (List UInt8) :=
  cutBlobs compressed.data compressed.regionSizes

private theorem regionBlob_of_described (profile : Profile)
    {compressed : CompressedFrame} {count index : Nat}
    (described : compressed.Described count) (inside : index < count) :
    regionBlob profile compressed index =
      .ok (compressed.blobs.getD index []) := by
  have sizeInside : index < compressed.regionSizes.length := by
    rw [described.count_eq]
    exact inside
  have size : compressed.regionSizes[index]? =
      some compressed.regionSizes[index] :=
    List.getElem?_eq_getElem sizeInside
  have offset := getElem?_offsetsFrom 0 compressed.regionSizes sizeInside
  have stop := sum_take_add_le compressed.regionSizes size
  have enough := described.enough
  have addressable := described.addressable
  have blob := getElem?_cutBlobs compressed.data compressed.regionSizes size
  rw [Nat.zero_add] at offset
  rw [regionBlob, described.offsets, readAt_eq_ok_iff.mpr offset,
    readAt_eq_ok_iff.mpr size]
  simp only [bind, Except.bind]
  rw [usizeAdd_of_lt profile (by omega)]
  dsimp only
  rw [slice_of_le _ (Nat.le_add_right _ _) (by omega),
    Nat.add_sub_cancel_left, CompressedFrame.blobs,
    List.getD_eq_getElem?_getD, blob]
  rfl

theorem mapM_regionBlob (profile : Profile) {compressed : CompressedFrame}
    {count : Nat} (described : compressed.Described count) :
    (List.range count).mapM (regionBlob profile compressed) =
      .ok compressed.blobs := by
  have each := mapM_ok_of_forall
    (fun index member => regionBlob_of_described profile described
      (List.mem_range.mp member))
  have width : compressed.blobs.length = count := by
    rw [CompressedFrame.blobs, length_cutBlobs, described.count_eq]
  rw [each]
  congr 1
  apply List.ext_getElem?
  intro index
  by_cases inside : index < count
  · have blobInside : index < compressed.blobs.length := by
      rw [width]
      exact inside
    simp [inside, List.getD_eq_getElem?_getD, blobInside]
  · simp [inside, width]

/-- Decompression of described blobs. -/
theorem decompressFrameInto_of_described (profile : Profile)
    {compressed : CompressedFrame} {regions : List DamageRect}
    (described : compressed.Described regions.length)
    (previous output : List UInt8) (stride : Nat) (kind : Codec) :
    decompressFrameInto profile compressed previous stride regions output
        kind =
      match compressed.blobs.mapM kind.decompress with
      | .error reason => .ok (.error reason)
      | .ok decoded =>
          (deltaDecode profile decoded.flatten previous stride regions
            (resize output previous.length 0)).map .ok := by
  rw [decompressFrameInto, mapM_regionBlob profile described]
  simp only [bind, Except.bind]
  cases compressed.blobs.mapM kind.decompress with
  | error reason => rfl
  | ok decoded =>
      dsimp only
      cases deltaDecode profile decoded.flatten previous stride regions
        (resize output previous.length 0) <;> rfl

theorem CompressedFrame.described_ofBlobs (originalBytes : Nat)
    {blobs : List (List UInt8)}
    (addressable : blobs.flatten.length < usizeRange) :
    (CompressedFrame.ofBlobs originalBytes blobs).Described
      blobs.length where
  offsets := rfl
  count_eq := List.length_map _
  enough := Nat.le_of_eq List.length_flatten.symm
  addressable := by
    rw [List.length_flatten] at addressable
    exact addressable

/-! ## Lossless blobs -/

theorem decompress_compressOrEmpty {kind : Codec} (lossless : kind.Lossless)
    (data : List UInt8) :
    kind.decompress (compressOrEmpty kind data) = .ok data := by
  obtain ⟨blob, compressed, decompressed⟩ := lossless data
  rw [compressOrEmpty, compressed]
  exact decompressed

/-- With a lossless codec the blobs of a frame decompress to its deltas. -/
theorem mapM_decompress_regionBlobs {kind : Codec}
    (lossless : kind.Lossless) (current previous : List UInt8)
    (stride : Nat) :
    ∀ regions : List DamageRect,
      (regionBlobs kind current previous stride regions).mapM
          kind.decompress =
        .ok (regions.map (rectDelta current previous stride))
  | [] => rfl
  | rect :: regions => by
      have tail := mapM_decompress_regionBlobs lossless current previous
        stride regions
      rw [regionBlobs] at tail ⊢
      rw [List.map_cons, List.mapM_cons,
        decompress_compressOrEmpty lossless, tail]
      rfl

end RemoteWay.Compress
