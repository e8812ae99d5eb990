import Mathlib.Data.List.GetD
import Mathlib.Tactic.NormNum
import RemoteWay.Base.Blobs
import RemoteWay.Server.BoxMeans

/-!
# What the box filter computes

`downscale_box` samples the rectangle of each destination pixel and writes
its means.  Its early exit for pictures that keep both of their dimensions
leaves the destination black.
-/

namespace RemoteWay.Server

open RemoteWay.Base

/-! ## The bounds of a rectangle -/

private theorem clamp_eq {low middle high : UInt32}
    (above : low.toNat ≤ middle.toNat) (below : middle.toNat ≤ high.toNat) :
    min (max middle low) high = middle := by
  have greater : max middle low = middle := by
    change (if middle ≤ low then low else middle) = middle
    split
    · rename_i ordered
      apply UInt32.toNat_inj.mp
      have := UInt32.le_iff_toNat_le.mp ordered
      omega
    · rfl
  rw [greater]
  change (if middle ≤ high then middle else high) = middle
  rw [if_pos (UInt32.le_iff_toNat_le.mpr below)]

/-- The interval of a destination index that is not clamped. -/
theorem boxInterval_eq (profile : Profile) {index fromSize toSize : UInt32}
    (enough : toSize.toNat ≤ fromSize.toNat)
    (inside : index.toNat < toSize.toNat) :
    boxInterval profile index fromSize toSize =
      .ok (UInt32.ofNat
          (intervalStart fromSize.toNat toSize.toNat index.toNat),
        UInt32.ofNat
          (intervalStart fromSize.toNat toSize.toNat (index.toNat + 1))) := by
  have positive : 0 < toSize.toNat := by omega
  have small := fromSize.toNat_lt
  have grows := intervalStart_lt_succ positive enough index.toNat
  have last := @intervalStart_le_total fromSize.toNat toSize.toNat positive
    (index.toNat + 1) inside
  have nextIndex : (index + 1).toNat = index.toNat + 1 := by
    rw [UInt32.toNat_add]
    exact Nat.mod_eq_of_lt (by change _ + 1 < _; omega)
  have start : (UInt32.ofNat (intervalStart fromSize.toNat toSize.toNat
      index.toNat)).toNat =
        intervalStart fromSize.toNat toSize.toNat index.toNat := by
    rw [UInt32.toNat_ofNat']
    exact Nat.mod_eq_of_lt (by omega)
  have stop : (UInt32.ofNat (intervalStart fromSize.toNat toSize.toNat
      (index.toNat + 1))).toNat =
        intervalStart fromSize.toNat toSize.toNat (index.toNat + 1) := by
    rw [UInt32.toNat_ofNat']
    exact Nat.mod_eq_of_lt (by omega)
  rw [boxInterval, u32Add_of_lt profile (by
    change index.toNat + 1 < 4294967296
    omega)]
  have scaledStart : scaledIndex index fromSize toSize = UInt32.ofNat
      (intervalStart fromSize.toNat toSize.toNat index.toNat) := rfl
  have scaledStop : scaledIndex (index + 1) fromSize toSize = UInt32.ofNat
      (intervalStart fromSize.toNat toSize.toNat (index.toNat + 1)) := by
    rw [scaledIndex, nextIndex, intervalStart]
  simp only [bind, Except.bind]
  rw [scaledStart, scaledStop, u32Add_of_lt profile (by
    rw [start]
    change _ + 1 < 4294967296
    omega)]
  have successor : (UInt32.ofNat (intervalStart fromSize.toNat toSize.toNat
      index.toNat) + 1).toNat =
        intervalStart fromSize.toNat toSize.toNat index.toNat + 1 := by
    rw [UInt32.toNat_add, start]
    exact Nat.mod_eq_of_lt (by change _ + 1 < _; omega)
  dsimp only
  rw [clamp_eq (by rw [successor, stop]; omega) (by rw [stop]; exact last)]
  rfl
/-- The columns or rows that a destination index covers. -/
theorem u32Range_boxCells {fromSize toSize index : Nat}
    (positive : 0 < toSize) (inside : index < toSize)
    (small : fromSize < UInt32.size) :
    u32Range (UInt32.ofNat (intervalStart fromSize toSize index))
        (UInt32.ofNat (intervalStart fromSize toSize (index + 1))) =
      (boxCells fromSize toSize index).map UInt32.ofNat := by
  have last := @intervalStart_le_total fromSize toSize positive (index + 1)
    inside
  have ordered : intervalStart fromSize toSize index ≤
      intervalStart fromSize toSize (index + 1) :=
    intervalStart_le_of_le (Nat.le_succ index)
  rw [u32Range, boxCells, UInt32.toNat_ofNat', UInt32.toNat_ofNat',
    Nat.mod_eq_of_lt (Nat.lt_of_le_of_lt (Nat.le_trans ordered last) small),
    Nat.mod_eq_of_lt (Nat.lt_of_le_of_lt last small)]

/-! ## Sampling a rectangle -/

/-- The accumulators hold the sums over the pixels at some offsets. -/
structure BoxSum.Holds (sum : BoxSum) (src : List UInt8)
    (offsets : List Nat) : Prop where
  red : sum.accR.toNat = BoxJob.channelSum src offsets 0
  green : sum.accG.toNat = BoxJob.channelSum src offsets 1
  blue : sum.accB.toNat = BoxJob.channelSum src offsets 2
  alpha : sum.accA.toNat = BoxJob.channelSum src offsets 3
  count : sum.count.toNat = offsets.length

section Sampling

variable {src : List UInt8}

private theorem channelSum_concat (offsets : List Nat)
    (off channel : Nat) :
    BoxJob.channelSum src (offsets ++ [off]) channel =
      BoxJob.channelSum src offsets channel +
        (src.getD (off + channel) 0).toNat := by
  simp [BoxJob.channelSum]

private theorem channelSum_le (channel : Nat) :
    ∀ offsets : List Nat,
      BoxJob.channelSum src offsets channel ≤ 255 * offsets.length
  | [] => Nat.le_refl 0
  | off :: offsets => by
      have tail := channelSum_le channel offsets
      have byte := (src.getD (off + channel) 0).toNat_lt
      rw [BoxJob.channelSum] at tail ⊢
      rw [List.map_cons, List.sum_cons, List.length_cons]
      omega

/-- One byte more in an accumulator. -/
private theorem accumulate (profile : Profile) {acc : UInt32}
    {offsets : List Nat} {off channel : Nat}
    (held : acc.toNat = BoxJob.channelSum src offsets channel)
    (few : 255 * (offsets.length + 1) < UInt32.size) :
    ∃ next, u32Add profile acc (src.getD (off + channel) 0).toUInt32 =
        .ok next ∧
      next.toNat = BoxJob.channelSum src (offsets ++ [off]) channel := by
  have bound := @channelSum_le src channel (offsets ++ [off])
  rw [List.length_append, List.length_singleton] at bound
  rw [channelSum_concat] at bound ⊢
  have fits : acc.toNat + (src.getD (off + channel) 0).toUInt32.toNat <
      UInt32.size := by
    rw [UInt8.toNat_toUInt32]
    omega
  refine ⟨_, u32Add_of_lt profile fits, ?_⟩
  rw [UInt32.toNat_add, Nat.mod_eq_of_lt fits, held, UInt8.toNat_toUInt32]

private theorem readAt_getD {index : Nat} (inside : index < src.length) :
    readAt src index = .ok (src.getD index 0) := by
  rw [readAt_of_lt inside, List.getD_eq_getElem _ _ inside]

theorem boxSample_holds (profile : Profile) {rowOff : Nat} {sum : BoxSum}
    {sx : UInt32} {offsets : List Nat} (held : sum.Holds src offsets)
    (few : 255 * (offsets.length + 1) < UInt32.size)
    (narrow : sx.toNat * 4 < UInt32.size)
    (inside : rowOff + sx.toNat * 4 + 4 ≤ src.length) :
    ∃ next, boxSample profile src rowOff sum sx = .ok next ∧
      next.Holds src (offsets ++ [rowOff + sx.toNat * 4]) := by
  obtain ⟨accR, addedR, red⟩ := @accumulate src profile
    sum.accR offsets (rowOff + sx.toNat * 4) 0 held.red few
  obtain ⟨accG, addedG, green⟩ := @accumulate src profile
    sum.accG offsets (rowOff + sx.toNat * 4) 1 held.green few
  obtain ⟨accB, addedB, blue⟩ := @accumulate src profile
    sum.accB offsets (rowOff + sx.toNat * 4) 2 held.blue few
  obtain ⟨accA, addedA, alpha⟩ := @accumulate src profile
    sum.accA offsets (rowOff + sx.toNat * 4) 3 held.alpha few
  have counted : sum.count.toNat + (1 : UInt32).toNat < UInt32.size := by
    rw [held.count]
    change _ + 1 < _
    omega
  have column : (sx * 4).toNat = sx.toNat * 4 := by
    rw [UInt32.toNat_mul]
    exact Nat.mod_eq_of_lt narrow
  refine ⟨⟨accR, accG, accB, accA, sum.count + 1⟩, ?_,
    ⟨red, green, blue, alpha, ?_⟩⟩
  · have multiplied : u32Mul profile sx 4 = .ok (sx * 4) :=
      u32Mul_of_lt profile narrow
    rw [Nat.add_zero] at addedR
    simp only [boxSample, multiplied, bind, Except.bind, column]
    rw [readAt_getD (show rowOff + sx.toNat * 4 < src.length by omega)]
    dsimp only
    rw [addedR]
    dsimp only
    rw [readAt_getD (show rowOff + sx.toNat * 4 + 1 < src.length by omega)]
    dsimp only
    rw [addedG]
    dsimp only
    rw [readAt_getD (show rowOff + sx.toNat * 4 + 2 < src.length by omega)]
    dsimp only
    rw [addedB]
    dsimp only
    rw [readAt_getD (show rowOff + sx.toNat * 4 + 3 < src.length by omega)]
    dsimp only
    rw [addedA]
    dsimp only
    rw [u32Add_of_lt profile counted]
    rfl
  · dsimp only
    rw [UInt32.toNat_add, Nat.mod_eq_of_lt counted, held.count,
      List.length_append]
    rfl

end Sampling

/-! ## The accumulators of a destination pixel -/

section Rectangles

variable {job : BoxJob} {scale : ℚ}

theorem BoxJob.Scaled.dstW_le (scaled : job.Scaled scale) :
    job.dstW.toNat ≤ job.srcW.toNat ∧
      job.srcW.toNat ≤ 15 * job.dstW.toNat := by
  have bounds := @roundedSize_bounds job.srcW scale scaled.atLeast
    scaled.below
  have positive := scaled.dstW_pos
  rw [← scaled.dstW_eq] at bounds
  omega

theorem BoxJob.Scaled.dstH_le (scaled : job.Scaled scale) :
    job.dstH.toNat ≤ job.srcH.toNat ∧
      job.srcH.toNat ≤ 15 * job.dstH.toNat := by
  have bounds := @roundedSize_bounds job.srcH scale scaled.atLeast
    scaled.below
  have positive := scaled.dstH_pos
  rw [← scaled.dstH_eq] at bounds
  omega

/-- A row of the source lies inside the buffer. -/
theorem BoxJob.Scaled.row_inside (scaled : job.Scaled scale) {sy : Nat}
    (inside : sy < job.srcH.toNat) :
    sy * job.srcStride.toNat + job.srcStride.toNat ≤ job.src.length ∧
      sy * job.srcStride.toNat + job.srcStride.toNat < UInt32.size := by
  have rows := Nat.mul_le_mul_right job.srcStride.toNat
    (Nat.succ_le_of_lt inside)
  have enough := scaled.enough
  have fits := scaled.fits
  rw [Nat.succ_mul, Nat.mul_comm job.srcH.toNat] at rows
  omega

/-- Sampling the columns of a destination pixel in one row. -/
theorem boxSampleRow_holds (profile : Profile) (scaled : job.Scaled scale)
    {sum : BoxSum} {offsets : List Nat} {dx sy : Nat}
    (held : sum.Holds job.src offsets)
    (few : 255 * (offsets.length + (job.cellsX dx).length) < UInt32.size)
    (insideX : dx < job.dstW.toNat) (insideY : sy < job.srcH.toNat) :
    ∃ next, boxSampleRow profile job.src job.srcStride
        (UInt32.ofNat
          (intervalStart job.srcW.toNat job.dstW.toNat dx))
        (UInt32.ofNat
          (intervalStart job.srcW.toNat job.dstW.toNat (dx + 1)))
        sum (UInt32.ofNat sy) = .ok next ∧
      next.Holds job.src (offsets ++
        (job.cellsX dx).map fun sx => job.offset sx sy) := by
  obtain ⟨rowInside, rowFits⟩ := scaled.row_inside insideY
  have rows := scaled.rows
  have row : (UInt32.ofNat sy).toNat = sy := UInt32.toNat_ofNat_of_lt' (by
    have := job.srcH.toNat_lt
    change _ < 2 ^ 32
    omega)
  have multiplied : u32Mul profile (UInt32.ofNat sy) job.srcStride =
      .ok (UInt32.ofNat sy * job.srcStride) :=
    u32Mul_of_lt profile (by rw [row]; omega)
  have rowOff : (UInt32.ofNat sy * job.srcStride).toNat =
      sy * job.srcStride.toNat := by
    rw [UInt32.toNat_mul, row]
    exact Nat.mod_eq_of_lt (by change _ < UInt32.size; omega)
  rw [boxSampleRow, multiplied]
  simp only [bind, Except.bind, rowOff]
  rw [u32Range_boxCells scaled.dstW_pos insideX job.srcW.toNat_lt,
    List.foldlM_map]
  obtain ⟨next, sampled, holds⟩ := foldlM_invariant
    (fun (done : List Nat) (sum : BoxSum) =>
      sum.Holds job.src (offsets ++ done.map fun sx => job.offset sx sy))
    (boxCells job.srcW.toNat job.dstW.toNat dx) [] (by simpa using held) (by
      intro before sx after current split holds
      have member : sx ∈ boxCells job.srcW.toNat job.dstW.toNat dx := by
        rw [split]
        simp
      have column := lt_of_mem_boxCells scaled.dstW_pos insideX member
      have exactly : (UInt32.ofNat sx).toNat = sx := by
        have bounded := job.srcW.toNat_lt
        apply UInt32.toNat_ofNat_of_lt'
        change sx < 2 ^ 32
        omega
      have count : before.length < (job.cellsX dx).length := by
        rw [BoxJob.cellsX, split, List.length_append, List.length_cons]
        omega
      rw [List.nil_append] at holds
      obtain ⟨next, sampled, more⟩ := @boxSample_holds job.src profile
        (sy * job.srcStride.toNat) current (UInt32.ofNat sx) _ holds
        (by rw [List.length_append, List.length_map]; omega)
        (by rw [exactly]; omega) (by rw [exactly]; omega)
      refine ⟨next, sampled, ?_⟩
      rw [exactly, List.append_assoc] at more
      rw [List.nil_append, List.map_append]
      exact more)
  exact ⟨next, sampled, holds⟩

/-- The accumulators of a destination pixel. -/
theorem boxSum_holds (profile : Profile) (scaled : job.Scaled scale)
    {dx dy : Nat} (insideX : dx < job.dstW.toNat)
    (insideY : dy < job.dstH.toNat) :
    ∃ sum, (u32Range
          (UInt32.ofNat
            (intervalStart job.srcH.toNat job.dstH.toNat dy))
          (UInt32.ofNat
            (intervalStart job.srcH.toNat job.dstH.toNat (dy + 1)))).foldlM
        (boxSampleRow profile job.src job.srcStride
          (UInt32.ofNat
            (intervalStart job.srcW.toNat job.dstW.toNat dx))
          (UInt32.ofNat
            (intervalStart job.srcW.toNat job.dstW.toNat (dx + 1))))
        ⟨0, 0, 0, 0, 0⟩ = .ok sum ∧
      sum.Holds job.src (job.boxOffsets dx dy) := by
  have columns := length_boxCells_le scaled.dstW_pos scaled.dstW_le.2 dx
  have rows := length_boxCells_le scaled.dstH_pos scaled.dstH_le.2 dy
  rw [u32Range_boxCells scaled.dstH_pos insideY job.srcH.toNat_lt,
    List.foldlM_map]
  have area : ∀ done : List Nat,
      (done.flatMap fun sy =>
        (job.cellsX dx).map fun sx => job.offset sx sy).length =
        done.length * (job.cellsX dx).length := by
    intro done
    simp
  obtain ⟨sum, sampled, holds⟩ := foldlM_invariant
    (fun (done : List Nat) (sum : BoxSum) => sum.Holds job.src
      (done.flatMap fun sy =>
        (job.cellsX dx).map fun sx => job.offset sx sy))
    (boxCells job.srcH.toNat job.dstH.toNat dy) []
    (show BoxSum.Holds ⟨0, 0, 0, 0, 0⟩ job.src [] from
      ⟨rfl, rfl, rfl, rfl, rfl⟩) (by
      intro before sy after current split holds
      have member : sy ∈ boxCells job.srcH.toNat job.dstH.toNat dy := by
        rw [split]
        simp
      have row := lt_of_mem_boxCells scaled.dstH_pos insideY member
      have count : before.length < 15 := by
        rw [split, List.length_append, List.length_cons] at rows
        omega
      have bounded := Nat.mul_le_mul (Nat.le_of_lt_succ count) columns
      rw [List.nil_append] at holds
      obtain ⟨next, sampled, more⟩ := boxSampleRow_holds profile scaled
        holds (by
          rw [area]
          change _ < 4294967296
          change (job.cellsX dx).length ≤ 15 at columns
          change before.length * (job.cellsX dx).length ≤ _ at bounded
          omega) insideX row
      refine ⟨next, sampled, ?_⟩
      rw [List.nil_append, List.flatMap_append, List.flatMap_singleton]
      exact more)
  exact ⟨sum, sampled, holds⟩

end Rectangles

/-! ## The destination -/

section Filling

variable {job : BoxJob} {scale : ℚ}

/-- The value of a channel of a destination pixel. -/
def BoxJob.meanByte (job : BoxJob) (dx dy channel : Nat) : UInt8 :=
  UInt8.ofNat (job.boxMean dx dy channel)

private theorem div_toUInt8 {acc count : UInt32}
    {dx dy channel : Nat}
    (held : acc.toNat = BoxJob.channelSum job.src (job.boxOffsets dx dy)
      channel)
    (counted : count.toNat = (job.boxOffsets dx dy).length)
    (nonempty : job.boxOffsets dx dy ≠ []) :
    ∃ quotient, u32Div acc count = .ok quotient ∧
      quotient.toUInt8 = job.meanByte dx dy channel := by
  have nonzero : count ≠ 0 := by
    intro zero
    rw [zero] at counted
    exact nonempty (List.eq_nil_of_length_eq_zero counted.symm)
  refine ⟨acc / count, by rw [u32Div, if_neg nonzero], ?_⟩
  apply UInt8.toNat_inj.mp
  rw [UInt32.toNat_toUInt8, UInt32.toNat_div, held, counted,
    BoxJob.meanByte, UInt8.toNat_ofNat', BoxJob.boxMean]

private theorem getElem?_writeFour {items : List UInt8} {start : Nat}
    (value : Nat → UInt8) (inside : start + 4 ≤ items.length) (index : Nat) :
    ((((items.set start (value 0)).set (start + 1) (value 1)).set (start + 2)
        (value 2)).set (start + 3) (value 3))[index]? =
      if start ≤ index ∧ index < start + 4 then some (value (index - start))
      else items[index]? := by
  rw [List.getElem?_set, List.getElem?_set, List.getElem?_set,
    List.getElem?_set, List.length_set, List.length_set, List.length_set]
  by_cases within : start ≤ index ∧ index < start + 4
  · rw [if_pos within]
    obtain ⟨channel, rfl⟩ := Nat.exists_eq_add_of_le within.1
    rw [Nat.add_sub_cancel_left]
    obtain rfl | rfl | rfl | rfl :
        channel = 0 ∨ channel = 1 ∨ channel = 2 ∨ channel = 3 := by
      omega
    · have here : start < items.length := by omega
      simp [here]
    · have here : start + 1 < items.length := by omega
      simp [here]
    · have here : start + 2 < items.length := by omega
      simp [here]
    · have here : start + 3 < items.length := by omega
      simp [here]
  · have outside : ∀ channel, channel < 4 → start + channel ≠ index := by
      intro channel small same
      exact within ⟨by omega, by omega⟩
    rw [if_neg within, if_neg (outside 3 (by decide)),
      if_neg (outside 2 (by decide)), if_neg (outside 1 (by decide)),
      if_neg (show ¬start = index from outside 0 (by decide))]

/-- A destination pixel is replaced by the means of its rectangle. -/
theorem boxPixel_eq (profile : Profile) (scaled : job.Scaled scale)
    {dx dy : Nat} {rowBuf : List UInt8} (insideX : dx < job.dstW.toNat)
    (insideY : dy < job.dstH.toNat)
    (width : rowBuf.length = job.dstW.toNat * 4) :
    ∃ next, boxPixel profile job.src job.srcW job.srcStride job.dstW
        (UInt32.ofNat
          (intervalStart job.srcH.toNat job.dstH.toNat dy))
        (UInt32.ofNat
          (intervalStart job.srcH.toNat job.dstH.toNat (dy + 1)))
        rowBuf (UInt32.ofNat dx) = .ok next ∧
      next.length = rowBuf.length ∧
      ∀ index, next[index]? =
        if dx * 4 ≤ index ∧ index < dx * 4 + 4 then
          some (job.meanByte dx dy (index - dx * 4))
        else rowBuf[index]? := by
  have small : (UInt32.ofNat dx).toNat = dx := UInt32.toNat_ofNat_of_lt' (by
    have := job.dstW.toNat_lt
    change _ < 2 ^ 32
    omega)
  have narrow : (UInt32.ofNat dx).toNat * 4 < UInt32.size := by
    have rows := scaled.rows
    have smaller := scaled.dstW_le.1
    have stride := job.srcStride.toNat_lt
    rw [small]
    change _ < 2 ^ 32
    omega
  have interval := @boxInterval_eq profile (UInt32.ofNat dx) job.srcW
    job.dstW scaled.dstW_le.1 (by rw [small]; exact insideX)
  rw [small] at interval
  obtain ⟨sum, sampled, holds⟩ := boxSum_holds profile scaled insideX insideY
  have nonempty := scaled.tiles.nonempty dx dy insideX insideY
  obtain ⟨red, dividedR, redByte⟩ :=
    div_toUInt8 holds.red holds.count nonempty
  obtain ⟨green, dividedG, greenByte⟩ :=
    div_toUInt8 holds.green holds.count nonempty
  obtain ⟨blue, dividedB, blueByte⟩ :=
    div_toUInt8 holds.blue holds.count nonempty
  obtain ⟨alpha, dividedA, alphaByte⟩ :=
    div_toUInt8 holds.alpha holds.count nonempty
  have di : (UInt32.ofNat dx * 4).toNat = dx * 4 := by
    rw [small] at narrow
    rw [UInt32.toNat_mul, small]
    exact Nat.mod_eq_of_lt narrow
  have multiplied : u32Mul profile (UInt32.ofNat dx) 4 =
      .ok (UInt32.ofNat dx * 4) := u32Mul_of_lt profile narrow
  have inside : dx * 4 + 4 ≤ rowBuf.length := by omega
  refine ⟨((((rowBuf.set (dx * 4) (job.meanByte dx dy 0)).set (dx * 4 + 1)
    (job.meanByte dx dy 1)).set (dx * 4 + 2) (job.meanByte dx dy 2)).set
      (dx * 4 + 3) (job.meanByte dx dy 3)), ?_, by simp,
    getElem?_writeFour (job.meanByte dx dy) inside⟩
  rw [boxPixel, interval]
  simp only [bind, Except.bind]
  rw [sampled]
  dsimp only
  rw [multiplied]
  dsimp only
  rw [dividedR]
  dsimp only
  rw [di, redByte, writeAt_of_lt _ (by omega)]
  dsimp only
  rw [dividedG]
  dsimp only
  rw [greenByte, writeAt_of_lt _ (by rw [List.length_set]; omega)]
  dsimp only
  rw [dividedB]
  dsimp only
  rw [blueByte, writeAt_of_lt _ (by
    rw [List.length_set, List.length_set]; omega)]
  dsimp only
  rw [dividedA]
  dsimp only
  rw [alphaByte, writeAt_of_lt _ (by
    rw [List.length_set, List.length_set, List.length_set]; omega)]

/-- A buffer holds a row of the destination. -/
structure BoxJob.HoldsRow (job : BoxJob) (dy : Nat) (row : List UInt8) :
    Prop where
  width : row.length = job.dstW.toNat * 4
  mean : ∀ dx channel, dx < job.dstW.toNat → channel < 4 →
    row[dx * 4 + channel]? = some (job.meanByte dx dy channel)

theorem boxRow_holds (profile : Profile) (scaled : job.Scaled scale)
    {dy : Nat} {rowBuf : List UInt8} (insideY : dy < job.dstH.toNat)
    (width : rowBuf.length = job.dstW.toNat * 4) :
    ∃ row, boxRow profile job.src job.srcW job.srcH job.srcStride job.dstW
        job.dstH rowBuf dy = .ok row ∧ job.HoldsRow dy row := by
  have small : (UInt32.ofNat dy).toNat = dy := UInt32.toNat_ofNat_of_lt' (by
    have := job.dstH.toNat_lt
    change _ < 2 ^ 32
    omega)
  have interval := @boxInterval_eq profile (UInt32.ofNat dy) job.srcH
    job.dstH scaled.dstH_le.1 (by rw [small]; exact insideY)
  rw [small] at interval
  have columns : u32Range 0 job.dstW =
      (List.range job.dstW.toNat).map UInt32.ofNat := by
    rw [u32Range, List.range_eq_range']
    rfl
  obtain ⟨row, filled, size, means⟩ := foldlM_invariant
    (fun (done : List Nat) (buffer : List UInt8) =>
      buffer.length = job.dstW.toNat * 4 ∧
        ∀ dx, dx ∈ done → ∀ channel, channel < 4 →
          buffer[dx * 4 + channel]? = some (job.meanByte dx dy channel))
    (List.range job.dstW.toNat) [] ⟨width, by simp⟩ (by
      intro before dx after current split holds
      rw [List.nil_append] at holds
      obtain ⟨size, means⟩ := holds
      have insideX : dx < job.dstW.toNat := by
        apply List.mem_range.mp
        rw [split]
        simp
      obtain ⟨next, written, sameSize, cells⟩ :=
        boxPixel_eq profile scaled insideX insideY size
      refine ⟨next, written, by rw [sameSize, size], ?_⟩
      intro column member channel bound
      rw [cells]
      by_cases here : column = dx
      · rw [here, if_pos (by omega), Nat.add_sub_cancel_left]
      · rw [if_neg (by omega)]
        rw [List.nil_append, List.mem_append, List.mem_singleton] at member
        exact means column (member.resolve_right here) channel bound)
  refine ⟨row, ?_, size, ?_⟩
  · rw [boxRow, interval]
    simp only [bind, Except.bind]
    rw [columns, List.foldlM_map]
    exact filled
  · intro dx channel insideX bound
    exact means dx (by simpa using insideX) channel bound

private theorem chunksOf_replicate {size count : Nat} (positive : 0 < size)
    (fill : UInt8) :
    chunksOf (List.replicate (size * count) fill) size =
      (List.range count).map fun index =>
        (List.replicate size fill, index) := by
  have rounds : (size * count + size - 1) / size = count := by
    rw [Nat.add_sub_assoc positive, Nat.mul_add_div positive,
      Nat.div_eq_of_lt (by omega), Nat.add_zero]
  rw [chunksOf, List.length_replicate, rounds]
  apply List.map_congr_left
  intro index member
  have inside := Nat.mul_le_mul_right size
    (Nat.succ_le_of_lt (List.mem_range.mp member))
  rw [Nat.succ_mul, Nat.mul_comm count] at inside
  rw [List.drop_replicate, List.take_replicate,
    Nat.min_eq_left (by omega)]

theorem boxRows_hold (profile : Profile) (scaled : job.Scaled scale) :
    ∃ rows, (chunksOf (List.replicate
          (job.dstW.toNat * 4 * job.dstH.toNat) 0)
          (job.dstW.toNat * 4)).mapM
        (fun (rowBuf, dyUs) => boxRow profile job.src job.srcW job.srcH
          job.srcStride job.dstW job.dstH rowBuf dyUs) = .ok rows ∧
      rows.length = job.dstH.toNat ∧
      ∀ dy, dy < job.dstH.toNat →
        ∃ row, rows[dy]? = some row ∧ job.HoldsRow dy row := by
  have positive : 0 < job.dstW.toNat * 4 := by
    have := scaled.dstW_pos
    omega
  rw [chunksOf_replicate positive]
  have produced : ∀ chunk : List UInt8 × Nat,
      chunk ∈ (List.range job.dstH.toNat).map (fun index =>
        (List.replicate (job.dstW.toNat * 4) 0, index)) →
        ∃ row, boxRow profile job.src job.srcW job.srcH job.srcStride
            job.dstW job.dstH chunk.1 chunk.2 = .ok row ∧
          job.HoldsRow chunk.2 row := by
    intro chunk member
    obtain ⟨dy, inside, rfl⟩ := List.mem_map.mp member
    exact boxRow_holds profile scaled (List.mem_range.mp inside)
      List.length_replicate
  obtain ⟨rows, mapped, each⟩ := exists_mapM_of_forall produced
  refine ⟨rows, mapped, ?_, ?_⟩
  · rw [← each.length_eq, List.length_map, List.length_range]
  · intro dy inside
    have bound : dy < rows.length := by
      rw [← each.length_eq, List.length_map, List.length_range]
      exact inside
    have related := each.get (by simpa using inside) bound
    refine ⟨rows[dy], List.getElem?_eq_getElem bound, ?_⟩
    simpa using related

end Filling

/-! ## When the filter writes the means -/

section Result

variable {job : BoxJob} {scale : ℚ}

private theorem toNat_meanByte (job : BoxJob) (dx dy channel : Nat) :
    (job.meanByte dx dy channel).toNat = job.boxMean dx dy channel := by
  have bound := @channelSum_le job.src channel (job.boxOffsets dx dy)
  have mean : job.boxMean dx dy channel ≤ 255 :=
    Nat.div_le_of_le_mul (by rw [Nat.mul_comm]; exact bound)
  rw [BoxJob.meanByte, UInt8.toNat_ofNat']
  exact Nat.mod_eq_of_lt (Nat.lt_succ_of_le mean)

/-- The stride and the size of the destination. -/
private theorem destination_sizes (profile : Profile)
    (scaled : job.Scaled scale) :
    u32Mul profile job.dstW 4 = .ok (job.dstW * 4) ∧
      (job.dstW * 4).toNat = job.dstW.toNat * 4 ∧
      u32Mul profile (job.dstW * 4) job.dstH =
        .ok (job.dstW * 4 * job.dstH) ∧
      (job.dstW * 4 * job.dstH).toNat =
        job.dstW.toNat * 4 * job.dstH.toNat := by
  have narrower := scaled.dstW_le.1
  have lower := scaled.dstH_le.1
  have rows := scaled.rows
  have stride := job.srcStride.toNat_lt
  have width : job.dstW.toNat * 4 < UInt32.size := by
    change _ < 2 ^ 32
    omega
  have widthEq : (job.dstW * 4).toNat = job.dstW.toNat * 4 := by
    rw [UInt32.toNat_mul]
    exact Nat.mod_eq_of_lt width
  have area : (job.dstW * 4).toNat * job.dstH.toNat < UInt32.size := by
    have bound : job.dstW.toNat * 4 * job.dstH.toNat ≤
        job.srcStride.toNat * job.srcH.toNat :=
      Nat.mul_le_mul (by omega) lower
    have fits := scaled.fits
    rw [widthEq]
    omega
  refine ⟨u32Mul_of_lt profile width, widthEq, u32Mul_of_lt profile area, ?_⟩
  rw [UInt32.toNat_mul, Nat.mod_eq_of_lt area, widthEq]

private theorem BoxJob.Scaled.hasPixels (scaled : job.Scaled scale) :
    ¬(job.dstW = 0 ∨ job.dstH = 0) := by
  intro either
  rcases either with zero | zero
  · have positive := scaled.dstW_pos
    rw [zero] at positive
    cases positive
  · have positive := scaled.dstH_pos
    rw [zero] at positive
    cases positive

private theorem writesMeans_of_smaller (profile : Profile)
    (scaled : job.Scaled scale)
    (smaller : job.dstW.toNat < job.srcW.toNat ∨
      job.dstH.toNat < job.srcH.toNat) : job.WritesMeans profile := by
  obtain ⟨rows, mapped, count, held⟩ := boxRows_hold profile scaled
  obtain ⟨strideEq, strideNat, totalEq, totalNat⟩ :=
    destination_sizes profile scaled
  have sized : ∀ row, row ∈ rows → row.length = job.dstW.toNat * 4 := by
    intro row member
    obtain ⟨dy, bound, rfl⟩ := List.mem_iff_getElem.mp member
    obtain ⟨found, here, holds⟩ := held dy (by omega)
    rw [List.getElem?_eq_getElem bound] at here
    injection here with same
    rw [same]
    exact holds.width
  have shrinks : ¬(job.srcW ≤ job.dstW ∧ job.srcH ≤ job.dstH) := by
    rintro ⟨wide, high⟩
    rw [UInt32.le_iff_toNat_le] at wide high
    omega
  have positive : job.dstW * 4 ≠ 0 := by
    intro zero
    rw [zero] at strideNat
    have := scaled.dstW_pos
    change 0 = _ at strideNat
    omega
  refine ⟨rows.flatten, ?_, ?_, ?_⟩
  · rw [BoxJob.run, downscaleBox, strideEq]
    simp only [bind, Except.bind]
    rw [totalEq]
    dsimp only
    rw [if_neg scaled.hasPixels, if_neg shrinks, if_neg positive, totalNat,
      strideNat, mapped]
    rfl
  · rw [List.length_flatten, List.map_congr_left sized, List.map_const',
      List.sum_replicate_nat, count]
  · intro dx dy channel insideX insideY bound
    obtain ⟨row, found, holds⟩ := held dy insideY
    rw [getElem?_flatten_of_length (by omega) rows dy sized, found,
      Option.bind_some, holds.mean dx channel insideX bound, Option.map_some,
      toNat_meanByte]

/-- A picture that keeps both dimensions is the mean of single pixels. -/
private theorem boxMean_of_same {dx dy : Nat} (channel : Nat)
    (width : 0 < job.dstW.toNat) (height : 0 < job.dstH.toNat)
    (sameW : job.srcW.toNat = job.dstW.toNat)
    (sameH : job.srcH.toNat = job.dstH.toNat) :
    job.boxMean dx dy channel =
      (job.src.getD (job.offset dx dy + channel) 0).toNat := by
  have single : job.boxOffsets dx dy = [job.offset dx dy] := by
    rw [BoxJob.boxOffsets, BoxJob.cellsX, BoxJob.cellsY, sameW, sameH,
      boxCells_self width, boxCells_self height]
    rfl
  rw [BoxJob.boxMean, single]
  simp [BoxJob.channelSum]

private theorem writesMeans_of_same_iff (profile : Profile)
    (scaled : job.Scaled scale)
    (sameW : job.srcW.toNat = job.dstW.toNat)
    (sameH : job.srcH.toNat = job.dstH.toNat) :
    job.WritesMeans profile ↔ job.Black := by
  obtain ⟨strideEq, strideNat, totalEq, totalNat⟩ :=
    destination_sizes profile scaled
  have mean := fun dx dy channel => @boxMean_of_same job dx dy channel
    scaled.dstW_pos scaled.dstH_pos sameW sameH
  have keeps : job.srcW ≤ job.dstW ∧ job.srcH ≤ job.dstH := by
    rw [UInt32.le_iff_toNat_le, UInt32.le_iff_toNat_le]
    omega
  have early : job.run profile = .ok (job.dstW * 4,
      List.replicate (job.dstW.toNat * 4 * job.dstH.toNat) 0) := by
    rw [BoxJob.run, downscaleBox, strideEq]
    simp only [bind, Except.bind]
    rw [totalEq]
    dsimp only
    rw [if_neg scaled.hasPixels, if_pos keeps, totalNat]
    rfl
  have inside : ∀ {dx dy channel : Nat}, dx < job.dstW.toNat →
      dy < job.dstH.toNat → channel < 4 →
        dy * (job.dstW.toNat * 4) + (dx * 4 + channel) <
          job.dstW.toNat * 4 * job.dstH.toNat := by
    intro dx dy channel insideX insideY bound
    have rows := Nat.mul_le_mul_right (job.dstW.toNat * 4)
      (Nat.succ_le_of_lt insideY)
    rw [Nat.succ_mul, Nat.mul_comm job.dstH.toNat] at rows
    omega
  constructor
  · rintro ⟨dst, done, _, means⟩ sx sy channel insideX insideY bound
    rw [early] at done
    injection done with done
    injection done with _ same
    have here := means sx sy channel (by omega) (by omega) bound
    rw [← same, List.getElem?_replicate_of_lt
      (inside (by omega) (by omega) bound), mean] at here
    injection here with zero
    exact UInt8.toNat_inj.mp zero.symm
  · intro black
    refine ⟨_, early, ?_, ?_⟩
    · rw [List.length_replicate, Nat.mul_comm]
    · intro dx dy channel insideX insideY bound
      rw [List.getElem?_replicate_of_lt (inside insideX insideY bound), mean,
        black dx dy channel (by omega) (by omega) bound]
      rfl

/-- The rectangles tile the picture and the filter writes their means,
exactly if the target is smaller in one of its dimensions or the picture is
black. -/
theorem tiles_and_writesMeans_iff (profile : Profile)
    (scaled : job.Scaled scale) :
    (job.Tiles ∧ job.WritesMeans profile) ↔
      (job.dstW < job.srcW ∨ job.dstH < job.srcH) ∨ job.Black := by
  have narrower := scaled.dstW_le.1
  have lower := scaled.dstH_le.1
  rw [UInt32.lt_iff_toNat_lt, UInt32.lt_iff_toNat_lt]
  by_cases smaller : job.dstW.toNat < job.srcW.toNat ∨
      job.dstH.toNat < job.srcH.toNat
  · exact iff_of_true
      ⟨scaled.tiles, writesMeans_of_smaller profile scaled smaller⟩
      (Or.inl smaller)
  · have same := writesMeans_of_same_iff profile scaled (by omega) (by omega)
    rw [same]
    constructor
    · rintro ⟨_, black⟩
      exact Or.inr black
    · intro either
      rcases either with shrinks | black
      · exact absurd shrinks smaller
      · exact ⟨scaled.tiles, black⟩

end Result

theorem tiles_and_writesMeans_iff_halved :
    ((⟨List.replicate 32 200, 4, 2, 16, 2, 1⟩ : BoxJob).Tiles ∧
        (⟨List.replicate 32 200, 4, 2, 16, 2, 1⟩ : BoxJob).WritesMeans
          .dev) ↔
      ((2 : UInt32) < 4 ∨ (1 : UInt32) < 2) ∨
        (⟨List.replicate 32 200, 4, 2, 16, 2, 1⟩ : BoxJob).Black :=
  @tiles_and_writesMeans_iff ⟨List.replicate 32 200, 4, 2, 16, 2, 1⟩ (1 / 2)
    .dev
    { width_pos := by decide
      height_pos := by decide
      rows := by decide
      enough := by decide
      fits := by decide
      atLeast := by norm_num
      below := by norm_num
      dstW_eq := by decide +kernel
      dstH_eq := by decide +kernel
      dstW_pos := by decide
      dstH_pos := by decide }

/-- A white picture of one pixel keeps its size at half the scale, and turns
black. -/
theorem not_writesMeans_onePixel :
    (⟨[255, 255, 255, 255], 1, 1, 4, 1, 1⟩ : BoxJob).Scaled (1 / 2) ∧
      (⟨[255, 255, 255, 255], 1, 1, 4, 1, 1⟩ : BoxJob).run .dev =
        .ok (4, [0, 0, 0, 0]) ∧
      ¬((⟨[255, 255, 255, 255], 1, 1, 4, 1, 1⟩ : BoxJob).Tiles ∧
        (⟨[255, 255, 255, 255], 1, 1, 4, 1, 1⟩ : BoxJob).WritesMeans
          .dev) := by
  have black : (⟨[255, 255, 255, 255], 1, 1, 4, 1, 1⟩ : BoxJob).run .dev =
      .ok (4, [0, 0, 0, 0]) := by
    decide +kernel
  refine ⟨?_, black, ?_⟩
  · exact
      { width_pos := by decide
        height_pos := by decide
        rows := by decide
        enough := by decide
        fits := by decide
        atLeast := by norm_num
        below := by norm_num
        dstW_eq := by decide +kernel
        dstH_eq := by decide +kernel
        dstW_pos := by decide
        dstH_pos := by decide }
  · rintro ⟨_, dst, done, _, means⟩
    rw [black] at done
    injection done with done
    injection done with _ same
    have here := means 0 0 0 (by decide) (by decide) (by decide)
    rw [← same] at here
    revert here
    decide +kernel

end RemoteWay.Server
