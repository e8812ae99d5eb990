import Mathlib.Data.List.Nodup
import RemoteWay.Compress.Pipeline
import RemoteWay.Server.Regions

/-!
# Stripes partition the picture

The stripes of a full frame follow each other from the first row to the
last, so compressing them reads every visible byte of the frame once, in the
order of the buffer.
-/

namespace RemoteWay.Server

open RemoteWay.Base RemoteWay.Compress

/-! ## Stripes in a row -/

/-- Each rectangle begins in the row below its predecessor; the first begins
at `start`, and the last ends at `stop`. -/
def ContiguousRows : Nat → List DamageRect → Nat → Prop
  | start, [], stop => start = stop
  | start, rect :: rest, stop =>
      rect.y.toNat = start ∧
        ContiguousRows (start + rect.height.toNat) rest stop

private theorem contiguousRows_stripeAt (width height : UInt32)
    {parts : Nat} :
    ∀ {count first : Nat}, first + count ≤ parts →
      ContiguousRows (cutStart height.toNat parts first)
        ((List.range' first count).map (stripeAt width height parts))
        (cutStart height.toNat parts (first + count)) := by
  intro count
  induction count with
  | zero =>
      intro first _
      rfl
  | succ count inductionHypothesis =>
      intro first inside
      have here : first < parts := by omega
      have rest := @inductionHypothesis (first + 1) (by omega)
      rw [Nat.add_right_comm, Nat.add_assoc] at rest
      refine ⟨toNat_stripeAt_y width height here, ?_⟩
      rw [toNat_stripeAt_height width height here, ← cutStart_succ]
      exact rest

theorem evenStripes_contiguous (width height : UInt32) {parts : Nat}
    (positive : 0 < parts) :
    ContiguousRows 0 (evenStripes width height parts) height.toNat := by
  have whole := @contiguousRows_stripeAt width height parts parts 0
    (Nat.le_of_eq (Nat.zero_add parts))
  rw [cutStart_zero, Nat.zero_add, cutStart_parts positive] at whole
  rw [evenStripes, List.range_eq_range']
  exact whole

theorem evenStripes_heights (width height : UInt32) {parts : Nat}
    {first second : DamageRect}
    (firstMember : first ∈ evenStripes width height parts)
    (secondMember : second ∈ evenStripes width height parts) :
    first.height.toNat ≤ second.height.toNat + 1 := by
  obtain ⟨i, firstIndex, rfl⟩ := List.mem_map.mp firstMember
  obtain ⟨j, secondIndex, rfl⟩ := List.mem_map.mp secondMember
  rw [toNat_stripeAt_height width height (List.mem_range.mp firstIndex),
    toNat_stripeAt_height width height (List.mem_range.mp secondIndex)]
  exact cutSize_le_succ height.toNat parts i j

/-- No more stripes than rows, or a single one, come in increasing order. -/
theorem evenStripes_increasing (width height : UInt32) {parts : Nat}
    (enough : parts = 1 ∨ parts ≤ height.toNat) :
    (evenStripes width height parts).Pairwise fun first second =>
      first.y < second.y := by
  rcases enough with rfl | enough
  · exact List.pairwise_singleton _ _
  · rw [evenStripes, List.pairwise_map, List.pairwise_iff_getElem]
    intro i j iBound jBound ordered
    rw [List.length_range] at iBound jBound
    rw [List.getElem_range, List.getElem_range, UInt32.lt_iff_toNat_lt,
      toNat_stripeAt_y width height iBound,
      toNat_stripeAt_y width height jBound]
    have positive := @cutSize_pos height.toNat parts (by omega) enough i
    have next := @cutStart_le_of_le height.toNat parts (i + 1) j ordered
    rw [cutStart_succ] at next
    omega

theorem toNat_stripeCount (height : UInt32) {n : Nat}
    (small : n < UInt32.size) :
    (stripeCount height n).toNat = max 1 (min n height.toNat) := by
  rw [stripeCount, u32_toNat_max, u32_toNat_min,
    UInt32.toNat_ofNat_of_lt' small, Nat.max_comm]
  rfl

/-! ## Reading the picture once -/

/-- The offsets of the visible bytes, in the order of the buffer. -/
def visibleOffsets (geometry : Geometry) : List Nat :=
  (List.range geometry.height.toNat).flatMap fun y =>
    (List.range (geometry.width.toNat * 4)).map
      (y * geometry.stride.toNat + ·)

theorem mem_visibleOffsets {geometry : Geometry} {offset : Nat} :
    offset ∈ visibleOffsets geometry ↔ geometry.Visible offset := by
  simp [visibleOffsets, Geometry.Visible]

theorem visibleOffsets_nodup {geometry : Geometry}
    (rows : geometry.RowsFit) : (visibleOffsets geometry).Nodup := by
  rw [Geometry.RowsFit] at rows
  rw [visibleOffsets, List.nodup_flatMap]
  constructor
  · intro y _
    exact List.nodup_range.map fun left right same =>
      Nat.add_left_cancel same
  · refine List.Pairwise.imp ?_ List.pairwise_lt_range
    intro above below ordered offset inAbove inBelow
    obtain ⟨left, leftBound, rfl⟩ := List.mem_map.mp inAbove
    obtain ⟨right, rightBound, same⟩ := List.mem_map.mp inBelow
    have leftSmall := List.mem_range.mp leftBound
    have rowEnd : (above + 1) * geometry.stride.toNat ≤
        below * geometry.stride.toNat := Nat.mul_le_mul_right _ ordered
    rw [Nat.add_mul, Nat.one_mul] at rowEnd
    omega

theorem length_visibleOffsets_le {geometry : Geometry}
    (rows : geometry.RowsFit) :
    (visibleOffsets geometry).length ≤ geometry.size := by
  have each : ∀ y, ((List.range (geometry.width.toNat * 4)).map
      (y * geometry.stride.toNat + ·)).length =
        geometry.width.toNat * 4 := by
    intro y
    rw [List.length_map, List.length_range]
  rw [visibleOffsets, List.length_flatMap, List.map_congr_left
    (fun y _ => each y), List.map_const', List.length_range,
    List.sum_replicate_nat, Geometry.size, Nat.mul_comm]
  exact Nat.mul_le_mul_right _ rows

/-- A delta of all stripes visits the visible bytes in order. -/
theorem StripesUpTo.regionOffsets_eq {geometry : Geometry}
    {stripes : List DamageRect}
    (upTo : StripesUpTo geometry.width geometry.height.toNat stripes) :
    regionOffsets geometry.stride.toNat stripes =
      visibleOffsets geometry := by
  rw [visibleOffsets, ← upTo.rows, List.flatMap_assoc, regionOffsets]
  apply List.flatMap_congr
  intro rect member
  obtain ⟨left, width⟩ := upTo.fullWidth rect member
  rw [rectOffsets, List.range'_eq_map_range, List.flatMap_map]
  apply List.flatMap_congr
  intro row _
  rw [rowOffsets, rowBase, left, width]
  rfl

/-- Compressing the stripes of a frame reads each of its visible bytes
once, and no other byte. -/
theorem StripesUpTo.compressFrameInto_eq (profile : Profile)
    {geometry : Geometry} {stripes : List DamageRect}
    (upTo : StripesUpTo geometry.width geometry.height.toNat stripes)
    (rows : geometry.RowsFit) {current previous : List UInt8}
    (whole : current.length = geometry.size)
    (sameLength : previous.length = geometry.size) (kind : Codec) :
    compressFrameInto profile current previous geometry.stride.toNat stripes
        kind =
      .ok (CompressedFrame.ofBlobs (visibleOffsets geometry).length
        (regionBlobs kind current previous geometry.stride.toNat
          stripes)) := by
  have addressable : geometry.size < usizeRange := by
    calc geometry.size
        ≤ geometry.stride.toNat * UInt32.size :=
          Nat.mul_le_mul_left _ (Nat.le_of_lt geometry.height.toNat_lt)
      _ < UInt32.size * UInt32.size :=
          Nat.mul_lt_mul_of_pos_right geometry.stride.toNat_lt (by decide)
      _ = usizeRange := rfl
  have inside := upTo.regionsInside rows
  rw [← whole] at inside
  have fits : (regionOffsets geometry.stride.toNat stripes).length <
      usizeRange := by
    rw [upTo.regionOffsets_eq]
    exact Nat.lt_of_le_of_lt (length_visibleOffsets_le rows) addressable
  rw [compressFrameInto_of_inside profile kind (whole.trans sameLength.symm)
    (Nat.lt_of_le_of_lt (Nat.le_of_eq whole) addressable) inside fits,
    upTo.regionOffsets_eq]

/-- The stripes of a full frame are a partition of its rows into parts of
almost equal height, and compressing them reads each visible byte of the
frame once. -/
theorem stripeFullFrame_partition (profile : Profile)
    (width height : UInt32) {n : Nat} (small : n < UInt32.size) :
    ∃ stripes, stripeFullFrame profile width height n = .ok stripes ∧
      (∀ rect, rect ∈ stripes → rect.x = 0 ∧ rect.width = width) ∧
      ContiguousRows 0 stripes height.toNat ∧
      (stripes.flatMap fun rect =>
        List.range' rect.y.toNat rect.height.toNat) =
          List.range height.toNat ∧
      stripes.length = max 1 (min n height.toNat) ∧
      (∀ first, first ∈ stripes → ∀ second, second ∈ stripes →
        first.height.toNat ≤ second.height.toNat + 1) ∧
      (stripes.Pairwise fun first second => first.y < second.y) ∧
      ∀ stride : UInt32, width.toNat * 4 ≤ stride.toNat →
        (∀ offset, offset ∈ regionOffsets stride.toNat stripes ↔
          (Geometry.mk width height stride).Visible offset) ∧
        (regionOffsets stride.toNat stripes).Nodup ∧
        ∀ current previous kind,
          current.length = stride.toNat * height.toNat →
          previous.length = stride.toNat * height.toNat →
            compressFrameInto profile current previous stride.toNat stripes
                kind =
              .ok (CompressedFrame.ofBlobs
                (regionOffsets stride.toNat stripes).length
                (regionBlobs kind current previous stride.toNat
                  stripes)) := by
  have positive := stripeCount_pos height n
  have count := toNat_stripeCount height small
  have upTo := evenStripes_upTo width height positive
  refine ⟨_, stripeFullFrame_eq_evenStripes profile width height n,
    upTo.fullWidth, evenStripes_contiguous width height positive, upTo.rows,
    ?_, ?_, ?_, ?_⟩
  · rw [evenStripes, List.length_map, List.length_range, count]
  · intro first firstMember second secondMember
    exact evenStripes_heights width height firstMember secondMember
  · apply evenStripes_increasing
    omega
  · intro stride rows
    let geometry : Geometry := ⟨width, height, stride⟩
    have offsets : regionOffsets stride.toNat (evenStripes width height
        (stripeCount height n).toNat) = visibleOffsets geometry :=
      @StripesUpTo.regionOffsets_eq geometry _ upTo
    refine ⟨?_, ?_, ?_⟩
    · intro offset
      rw [offsets]
      exact mem_visibleOffsets
    · rw [offsets]
      exact @visibleOffsets_nodup geometry rows
    · intro current previous kind whole sameLength
      rw [offsets]
      exact @StripesUpTo.compressFrameInto_eq profile geometry _ upTo rows
        current previous whole sameLength kind

/-- Seven rows in three stripes. -/
theorem stripeFullFrame_partition_seven :
    3 < UInt32.size ∧
      ∃ stripes, stripeFullFrame .dev 5 7 3 = .ok stripes ∧
        ContiguousRows 0 stripes 7 ∧ stripes.length = 3 := by
  obtain ⟨stripes, striped, _, contiguous, _, count, _⟩ :=
    @stripeFullFrame_partition .dev 5 7 3 (by decide)
  exact ⟨by decide, stripes, striped, contiguous, count⟩

end RemoteWay.Server
