import RemoteWay.Base.Exec

/-!
# Server-side downscaling

Both filters fill a zeroed buffer of `dst_w * 4 * dst_h` bytes; the `u32`
arithmetic of the source is kept.  The length of the buffer is all that the
pipeline's delta coding depends on.
-/

namespace RemoteWay.Server

open RemoteWay.Base

inductive DownscaleFilter where
  | box
  | nearest
  deriving DecidableEq, Repr

/-- `(index as u64 * from as u64 / to as u64) as u32`. -/
def scaledIndex (index fromSize toSize : UInt32) : UInt32 :=
  UInt32.ofNat (index.toNat * fromSize.toNat / toSize.toNat)

/-- `start..stop`. -/
def u32Range (start stop : UInt32) : List UInt32 :=
  (List.range' start.toNat (stop.toNat - start.toNat)).map UInt32.ofNat

/-- `dst[di..di + 4].copy_from_slice(pixel)`. -/
def writePixel (dst : List UInt8) (di : Nat) (pixel : List UInt8) :
    Exec (List UInt8) := do
  let target ← slice dst di (di + 4)
  let copied ← copyFromSlice target pixel
  return dst.take di ++ copied ++ dst.drop (di + 4)

/-! ## Nearest neighbour -/

def nearestPixel (profile : Profile) (src : List UInt8)
    (srcW dstW : UInt32) (srcRow dstRow : Nat) (dst : List UInt8)
    (dx : UInt32) : Exec (List UInt8) := do
  let sx := scaledIndex dx srcW dstW
  let si := srcRow + (← u32Mul profile sx 4).toNat
  let di := dstRow + (← u32Mul profile dx 4).toNat
  writePixel dst di (← slice src si (si + 4))

def nearestRow (profile : Profile) (src : List UInt8)
    (srcW srcH srcStride dstW dstH dstStride : UInt32) (dst : List UInt8)
    (dy : UInt32) : Exec (List UInt8) := do
  let sy := scaledIndex dy srcH dstH
  let srcRow ← u32Mul profile sy srcStride
  let dstRow ← u32Mul profile dy dstStride
  (u32Range 0 dstW).foldlM
    (nearestPixel profile src srcW dstW srcRow.toNat dstRow.toNat) dst

/-- Nearest-neighbor downscale of an RGBA frame.  Returns the destination
stride and the destination. -/
def downscaleNearest (profile : Profile) (src : List UInt8)
    (srcW srcH srcStride dstW dstH : UInt32) :
    Exec (UInt32 × List UInt8) := do
  let dstStride ← u32Mul profile dstW 4
  let total ← u32Mul profile dstStride dstH
  let dst ← (u32Range 0 dstH).foldlM
    (nearestRow profile src srcW srcH srcStride dstW dstH dstStride)
    (List.replicate total.toNat 0)
  return (dstStride, dst)

/-! ## Box filter -/

/-- The accumulators of one destination pixel. -/
structure BoxSum where
  accR : UInt32
  accG : UInt32
  accB : UInt32
  accA : UInt32
  count : UInt32
  deriving DecidableEq, Repr

def boxSample (profile : Profile) (src : List UInt8) (rowOff : Nat)
    (sum : BoxSum) (sx : UInt32) : Exec BoxSum := do
  let off := rowOff + (← u32Mul profile sx 4).toNat
  let accR ← u32Add profile sum.accR (← readAt src off).toUInt32
  let accG ← u32Add profile sum.accG (← readAt src (off + 1)).toUInt32
  let accB ← u32Add profile sum.accB (← readAt src (off + 2)).toUInt32
  let accA ← u32Add profile sum.accA (← readAt src (off + 3)).toUInt32
  let count ← u32Add profile sum.count 1
  return ⟨accR, accG, accB, accA, count⟩

def boxSampleRow (profile : Profile) (src : List UInt8)
    (srcStride sx0 sx1 : UInt32) (sum : BoxSum) (sy : UInt32) :
    Exec BoxSum := do
  let rowOff ← u32Mul profile sy srcStride
  (u32Range sx0 sx1).foldlM (boxSample profile src rowOff.toNat) sum

/-- The source interval `[s0, s1)` that a destination index covers. -/
def boxInterval (profile : Profile) (index fromSize toSize : UInt32) :
    Exec (UInt32 × UInt32) := do
  let s0 := scaledIndex index fromSize toSize
  let s1Raw := scaledIndex (← u32Add profile index 1) fromSize toSize
  let next ← u32Add profile s0 1
  return (s0, min (max s1Raw next) fromSize)

/-- A `u32` division, which stops at a divisor of zero. -/
def u32Div (left right : UInt32) : Exec UInt32 :=
  if right = 0 then .error .division else .ok (left / right)

def boxPixel (profile : Profile) (src : List UInt8)
    (srcW srcStride dstW sy0 sy1 : UInt32) (rowBuf : List UInt8)
    (dx : UInt32) : Exec (List UInt8) := do
  let (sx0, sx1) ← boxInterval profile dx srcW dstW
  let sum ← (u32Range sy0 sy1).foldlM
    (boxSampleRow profile src srcStride sx0 sx1) ⟨0, 0, 0, 0, 0⟩
  let di := (← u32Mul profile dx 4).toNat
  let rowBuf ← writeAt rowBuf di (← u32Div sum.accR sum.count).toUInt8
  let rowBuf ←
    writeAt rowBuf (di + 1) (← u32Div sum.accG sum.count).toUInt8
  let rowBuf ←
    writeAt rowBuf (di + 2) (← u32Div sum.accB sum.count).toUInt8
  writeAt rowBuf (di + 3) (← u32Div sum.accA sum.count).toUInt8

def boxRow (profile : Profile) (src : List UInt8)
    (srcW srcH srcStride dstW dstH : UInt32) (rowBuf : List UInt8)
    (dyUs : Nat) : Exec (List UInt8) := do
  let dy := UInt32.ofNat dyUs
  let (sy0, sy1) ← boxInterval profile dy srcH dstH
  (u32Range 0 dstW).foldlM
    (boxPixel profile src srcW srcStride dstW sy0 sy1) rowBuf

/-- The chunks of `par_chunks_mut`, with their index. -/
def chunksOf (items : List UInt8) (size : Nat) : List (List UInt8 × Nat) :=
  (List.range ((items.length + size - 1) / size)).map fun index =>
    ((items.drop (index * size)).take size, index)

/-- Area-weighted downscale of an RGBA frame.  Returns the destination
stride and the destination. -/
def downscaleBox (profile : Profile) (src : List UInt8)
    (srcW srcH srcStride dstW dstH : UInt32) :
    Exec (UInt32 × List UInt8) := do
  let dstStride ← u32Mul profile dstW 4
  let total ← u32Mul profile dstStride dstH
  let dst := List.replicate total.toNat 0
  if dstW = 0 ∨ dstH = 0 then
    return (dstStride, dst)
  else if srcW ≤ dstW ∧ srcH ≤ dstH then
    return (dstStride, dst)
  else if dstStride = 0 then
    -- `par_chunks_mut` asserts a positive chunk size.
    .error .assertion
  else
    let rows ← (chunksOf dst dstStride.toNat).mapM fun (rowBuf, dyUs) =>
      boxRow profile src srcW srcH srcStride dstW dstH rowBuf dyUs
    return (dstStride, rows.flatten)

def downscale (profile : Profile) (filter : DownscaleFilter)
    (src : List UInt8) (srcW srcH srcStride dstW dstH : UInt32) :
    Exec (UInt32 × List UInt8) :=
  match filter with
  | .box => downscaleBox profile src srcW srcH srcStride dstW dstH
  | .nearest => downscaleNearest profile src srcW srcH srcStride dstW dstH

/-! ## Lengths -/

private theorem length_of_writePixel {dst pixel result : List UInt8}
    {di : Nat} (written : writePixel dst di pixel = .ok result) :
    result.length = dst.length := by
  rw [writePixel, bind_eq_ok_iff] at written
  obtain ⟨target, sliced, rest⟩ := written
  obtain ⟨⟨_, inside⟩, targetEq⟩ := slice_eq_ok_iff.mp sliced
  rw [bind_eq_ok_iff] at rest
  obtain ⟨copied, copiedEq, done⟩ := rest
  injection done with same
  have width : copied.length = 4 := by
    rw [copyFromSlice] at copiedEq
    split at copiedEq
    · rename_i sameLength
      injection copiedEq with pixelEq
      rw [← pixelEq, ← sameLength, ← targetEq, List.length_take,
        List.length_drop]
      omega
    · cases copiedEq
  rw [← same, List.length_append, List.length_append, List.length_take,
    List.length_drop, width]
  omega

private theorem length_of_nearestRow {profile : Profile} {src : List UInt8}
    {srcW srcH srcStride dstW dstH dstStride dy : UInt32}
    {dst result : List UInt8}
    (done : nearestRow profile src srcW srcH srcStride dstW dstH dstStride
      dst dy = .ok result) : result.length = dst.length := by
  rw [nearestRow, bind_eq_ok_iff] at done
  obtain ⟨srcRow, _, rest⟩ := done
  rw [bind_eq_ok_iff] at rest
  obtain ⟨dstRow, _, pixels⟩ := rest
  refine foldlM_length ?_ (u32Range 0 dstW) dst result pixels
  intro out dx written pixel
  rw [nearestPixel, bind_eq_ok_iff] at pixel
  obtain ⟨_, _, pixel⟩ := pixel
  rw [bind_eq_ok_iff] at pixel
  obtain ⟨_, _, pixel⟩ := pixel
  rw [bind_eq_ok_iff] at pixel
  obtain ⟨_, _, pixel⟩ := pixel
  exact length_of_writePixel pixel

private theorem length_of_boxRow {profile : Profile} {src : List UInt8}
    {srcW srcH srcStride dstW dstH : UInt32} {rowBuf result : List UInt8}
    {dyUs : Nat}
    (done : boxRow profile src srcW srcH srcStride dstW dstH rowBuf dyUs =
      .ok result) : result.length = rowBuf.length := by
  rw [boxRow, bind_eq_ok_iff] at done
  obtain ⟨⟨sy0, sy1⟩, _, pixels⟩ := done
  refine foldlM_length ?_ (u32Range 0 dstW) rowBuf result pixels
  intro out dx written pixel
  rw [boxPixel, bind_eq_ok_iff] at pixel
  obtain ⟨⟨sx0, sx1⟩, _, pixel⟩ := pixel
  simp only [bind_eq_ok_iff] at pixel
  obtain ⟨_, _, _, _, _, _, first, red, _, _, second, green, _, _, third,
    blue, _, _, alpha⟩ := pixel
  rw [length_of_writeAt alpha, length_of_writeAt blue,
    length_of_writeAt green, length_of_writeAt red]

/-- The chunks of a buffer are the buffer. -/
private theorem flatten_chunks (items : List UInt8) (size : Nat) :
    ∀ count, ((List.range count).map fun index =>
        (items.drop (index * size)).take size).flatten =
      items.take (count * size)
  | 0 => by simp
  | count + 1 => by
      rw [List.range_succ, List.map_append, List.flatten_append,
        flatten_chunks items size count, Nat.add_mul, Nat.one_mul,
        List.take_add]
      simp

private theorem length_of_mapM_rows {profile : Profile} {src : List UInt8}
    {srcW srcH srcStride dstW dstH : UInt32} :
    ∀ (chunks : List (List UInt8 × Nat)) (rows : List (List UInt8)),
      chunks.mapM (fun chunk => boxRow profile src srcW srcH srcStride dstW
        dstH chunk.1 chunk.2) = .ok rows →
        rows.flatten.length = (chunks.map Prod.fst).flatten.length
  | [], rows, done => by
      rw [List.mapM_nil] at done
      injection done with same
      rw [← same]
      rfl
  | chunk :: chunks, rows, done => by
      rw [List.mapM_cons, bind_eq_ok_iff] at done
      obtain ⟨row, first, rest⟩ := done
      rw [bind_eq_ok_iff] at rest
      obtain ⟨later, tail, joined⟩ := rest
      injection joined with same
      rw [← same, List.flatten_cons, List.length_append,
        length_of_boxRow first, length_of_mapM_rows chunks later tail,
        List.map_cons, List.flatten_cons, List.length_append]

private theorem flatten_chunksOf (items : List UInt8) {size : Nat}
    (positive : 0 < size) :
    ((chunksOf items size).map Prod.fst).flatten = items := by
  have enough : items.length ≤ (items.length + size - 1) / size * size := by
    have remainder :=
      Nat.div_add_mod (items.length + size - 1) size
    have small := Nat.mod_lt (items.length + size - 1) positive
    rw [Nat.mul_comm] at remainder
    omega
  rw [chunksOf, List.map_map]
  change ((List.range _).map fun index =>
    (items.drop (index * size)).take size).flatten = _
  rw [flatten_chunks, List.take_of_length_le enough]

/-- Whatever the filter, the destination has `dst_stride * dst_h` bytes. -/
theorem length_of_downscale {profile : Profile} {filter : DownscaleFilter}
    {src dst : List UInt8} {srcW srcH srcStride dstW dstH stride : UInt32}
    (scaled : downscale profile filter src srcW srcH srcStride dstW dstH =
      .ok (stride, dst)) :
    u32Mul profile dstW 4 = .ok stride ∧
      ∃ total, u32Mul profile stride dstH = .ok total ∧
        dst.length = total.toNat := by
  cases filter with
  | nearest =>
      rw [downscale, downscaleNearest, bind_eq_ok_iff] at scaled
      obtain ⟨dstStride, strideEq, rest⟩ := scaled
      rw [bind_eq_ok_iff] at rest
      obtain ⟨total, totalEq, rest⟩ := rest
      rw [bind_eq_ok_iff] at rest
      obtain ⟨filled, rows, done⟩ := rest
      injection done with same
      injection same with sameStride sameDst
      subst sameStride
      have width := foldlM_length
        (fun _ _ _ row => length_of_nearestRow row) _ _ _ rows
      refine ⟨strideEq, total, totalEq, ?_⟩
      rw [← sameDst, width, List.length_replicate]
  | box =>
      rw [downscale, downscaleBox, bind_eq_ok_iff] at scaled
      obtain ⟨dstStride, strideEq, rest⟩ := scaled
      rw [bind_eq_ok_iff] at rest
      obtain ⟨total, totalEq, rest⟩ := rest
      dsimp only at rest
      split at rest
      · injection rest with same
        injection same with sameStride sameDst
        subst sameStride
        refine ⟨strideEq, total, totalEq, ?_⟩
        rw [← sameDst, List.length_replicate]
      · split at rest
        · injection rest with same
          injection same with sameStride sameDst
          subst sameStride
          refine ⟨strideEq, total, totalEq, ?_⟩
          rw [← sameDst, List.length_replicate]
        · split at rest
          · cases rest
          · rename_i positive
            rw [bind_eq_ok_iff] at rest
            obtain ⟨rows, rowsEq, done⟩ := rest
            injection done with same
            injection same with sameStride sameDst
            subst sameStride
            refine ⟨strideEq, total, totalEq, ?_⟩
            have nonzero : 0 < dstStride.toNat := by
              rcases Nat.eq_zero_or_pos dstStride.toNat with zero | positive'
              · exact absurd (UInt32.toNat_inj.mp zero) positive
              · exact positive'
            rw [← sameDst, length_of_mapM_rows _ rows rowsEq,
              flatten_chunksOf _ nonzero, List.length_replicate]

end RemoteWay.Server
