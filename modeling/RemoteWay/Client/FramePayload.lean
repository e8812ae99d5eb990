import RemoteWay.Compress.Pipeline
import RemoteWay.Proto.Frame

/-!
# Parsing frame payloads

`deserialize_frame_payload` checks the payload's length against the header,
the region descriptors and the announced blob sizes.  Nothing it computes
can overflow, so it never stops, and an accepted payload describes its blobs
consistently.
-/

namespace RemoteWay.Client

open RemoteWay.Base RemoteWay.Proto RemoteWay.Compress

/-- Why a payload is rejected: an `ensure!` with its text, or a failed
cast. -/
inductive PayloadError where
  | ensure (text : String)
  | cast
  deriving DecidableEq, Repr

structure ParsedPayload where
  width : UInt32
  height : UInt32
  stride : UInt32
  regions : List DamageRect
  compressed : CompressedFrame
  deriving DecidableEq, Repr

/-- What the loop over the region descriptors has collected. -/
structure RegionTable where
  regions : List DamageRect
  regionOffsets : List Nat
  regionSizes : List Nat
  dataOffset : Nat

/-- One round of the loop over the region descriptors. -/
def readRegion (profile : Profile) (payload : List UInt8) :
    Except PayloadError RegionTable → Nat →
      Exec (Except PayloadError RegionTable)
  | .error reason, _ => .ok (.error reason)
  | .ok table, i => do
      let off ← usizeAdd profile FrameMeta.size
        (← usizeMul profile i WireRegion.size)
      let bytes ← slice payload off
        (← usizeAdd profile off WireRegion.size)
      match WireRegion.refFromBytes bytes with
      | none => return .error .cast
      | some wr =>
          let cs := wr.compressedSize.toNat
          return .ok
            { regions := table.regions ++ [⟨wr.x, wr.y, wr.w, wr.h⟩]
              regionOffsets := table.regionOffsets ++ [table.dataOffset]
              regionSizes := table.regionSizes ++ [cs]
              dataOffset := ← usizeAdd profile table.dataOffset cs }

/-- Deserialize a frame payload from wire bytes. -/
def deserializeFramePayload (profile : Profile) (payload : List UInt8) :
    Exec (Except PayloadError ParsedPayload) := do
  if payload.length < FrameMeta.size then
    return .error (.ensure "payload too short for FrameMeta")
  else
    match FrameMeta.refFromBytes (← slice payload 0 FrameMeta.size) with
    | none => return .error .cast
    | some frameMeta =>
        let numRegions := frameMeta.numRegions.toNat
        let regionsEnd ← usizeAdd profile FrameMeta.size
          (← usizeMul profile WireRegion.size numRegions)
        if payload.length < regionsEnd then
          return .error (.ensure "payload too short for region descriptors")
        else
          match ← (List.range numRegions).foldlM
              (readRegion profile payload) (.ok ⟨[], [], [], 0⟩) with
          | .error reason => return .error reason
          | .ok table =>
              let compressedData ← slice payload regionsEnd payload.length
              if compressedData.length < table.dataOffset then
                return .error
                  (.ensure "payload too short for compressed data")
              else
                return .ok
                  { width := frameMeta.width
                    height := frameMeta.height
                    stride := frameMeta.stride
                    regions := table.regions
                    compressed :=
                      { data := compressedData
                        regionOffsets := table.regionOffsets
                        regionSizes := table.regionSizes
                        stats := ⟨0, 0⟩ } }

/-! ## The fields of a payload -/

def payloadMeta (payload : List UInt8) : FrameMeta :=
  FrameMeta.ofFront (payload.take FrameMeta.size)

/-- The region descriptor at a position. -/
def descriptorAt (payload : List UInt8) (i : Nat) : WireRegion :=
  WireRegion.ofFront
    ((payload.drop (FrameMeta.size + i * WireRegion.size)).take
      WireRegion.size)

/-- The region descriptors that the header announces. -/
def descriptors (payload : List UInt8) : List WireRegion :=
  (List.range (payloadMeta payload).numRegions.toNat).map
    (descriptorAt payload)

def rectOf (region : WireRegion) : DamageRect :=
  ⟨region.x, region.y, region.w, region.h⟩

def payloadRegions (payload : List UInt8) : List DamageRect :=
  (descriptors payload).map rectOf

def payloadSizes (payload : List UInt8) : List Nat :=
  (descriptors payload).map fun region => region.compressedSize.toNat

/-- Where the region descriptors end. -/
def descriptorsEnd (payload : List UInt8) : Nat :=
  FrameMeta.size +
    WireRegion.size * (payloadMeta payload).numRegions.toNat

/-- The blobs after the region descriptors. -/
def payloadBlobs (payload : List UInt8) : List (List UInt8) :=
  cutBlobs (payload.drop (descriptorsEnd payload)) (payloadSizes payload)

/-- The payload holds its header, its descriptors and its blobs. -/
structure WellSized (payload : List UInt8) : Prop where
  header : FrameMeta.size ≤ payload.length
  table : descriptorsEnd payload ≤ payload.length
  blobs : (payloadSizes payload).sum ≤
    (payload.drop (descriptorsEnd payload)).length

instance (payload : List UInt8) : Decidable (WellSized payload) :=
  decidable_of_iff
    (FrameMeta.size ≤ payload.length ∧
      descriptorsEnd payload ≤ payload.length ∧
      (payloadSizes payload).sum ≤
        (payload.drop (descriptorsEnd payload)).length)
    ⟨fun ⟨header, table, blobs⟩ => ⟨header, table, blobs⟩,
      fun sized => ⟨sized.header, sized.table, sized.blobs⟩⟩

/-- The parse of a payload that holds what it announces. -/
def parsedPayload (payload : List UInt8) : ParsedPayload where
  width := (payloadMeta payload).width
  height := (payloadMeta payload).height
  stride := (payloadMeta payload).stride
  regions := payloadRegions payload
  compressed :=
    { data := payload.drop (descriptorsEnd payload)
      regionOffsets := offsetsFrom 0 (payloadSizes payload)
      regionSizes := payloadSizes payload
      stats := ⟨0, 0⟩ }

/-! ## What the parser computes -/

/-- The sizes of at most `2 ^ 32` blobs add up without overflow. -/
theorem sum_compressedSize_lt {regions : List WireRegion}
    (few : regions.length ≤ UInt32.size) :
    (regions.map fun region => region.compressedSize.toNat).sum <
      usizeRange := by
  have bounded : ∀ tested : List WireRegion,
      (tested.map fun region => region.compressedSize.toNat).sum ≤
        tested.length * (UInt32.size - 1) := by
    intro tested
    induction tested with
    | nil => exact Nat.le_refl 0
    | cons region rest inductionHypothesis =>
        have small := region.compressedSize.toNat_lt
        rw [List.map_cons, List.sum_cons, List.length_cons, Nat.add_mul,
          Nat.one_mul]
        have bound : region.compressedSize.toNat ≤ UInt32.size - 1 :=
          Nat.le_sub_one_of_lt small
        omega
  calc (regions.map fun region => region.compressedSize.toNat).sum
      ≤ regions.length * (UInt32.size - 1) := bounded regions
    _ ≤ UInt32.size * (UInt32.size - 1) := Nat.mul_le_mul_right _ few
    _ < usizeRange := by decide

private def tableOf (regions : List WireRegion) : RegionTable where
  regions := regions.map rectOf
  regionOffsets :=
    offsetsFrom 0 (regions.map fun region => region.compressedSize.toNat)
  regionSizes := regions.map fun region => region.compressedSize.toNat
  dataOffset :=
    (regions.map fun region => region.compressedSize.toNat).sum

private theorem readRegion_of_inside (profile : Profile)
    {payload : List UInt8} {regions : List WireRegion} {i : Nat}
    (few : regions.length < UInt32.size)
    (index : i < UInt32.size)
    (inside : FrameMeta.size + (i + 1) * WireRegion.size ≤
      payload.length) :
    readRegion profile payload (.ok (tableOf regions)) i =
      .ok (.ok (tableOf (regions ++ [descriptorAt payload i]))) := by
  have metaSize : FrameMeta.size = 16 := rfl
  have regionSize : WireRegion.size = 20 := rfl
  have range : UInt32.size = 4294967296 := rfl
  have wide : usizeRange = 18446744073709551616 := rfl
  have total := sum_compressedSize_lt
    (show (regions ++ [descriptorAt payload i]).length ≤ UInt32.size by
      rw [List.length_append, List.length_singleton]
      omega)
  rw [List.map_append, List.sum_append, List.map_singleton,
    List.sum_singleton] at total
  have offset : FrameMeta.size + i * WireRegion.size +
      WireRegion.size ≤ payload.length := by
    rw [Nat.add_mul, Nat.one_mul] at inside
    omega
  have start : i * WireRegion.size ≤ UInt32.size * 20 :=
    Nat.mul_le_mul (Nat.le_of_lt index) (Nat.le_of_eq regionSize)
  have width :
      ((payload.drop (FrameMeta.size + i * WireRegion.size)).take
        WireRegion.size).length = WireRegion.size := by
    rw [List.length_take, List.length_drop]
    omega
  rw [readRegion, usizeMul_of_lt profile (by omega)]
  simp only [bind, Except.bind]
  rw [usizeAdd_of_lt profile (by omega)]
  dsimp only
  rw [usizeAdd_of_lt profile (by omega)]
  dsimp only
  rw [slice_of_le _ (Nat.le_add_right _ _) offset, Nat.add_sub_cancel_left]
  dsimp only
  rw [WireRegion.refFromBytes_of_length width]
  dsimp only
  rw [← descriptorAt, tableOf, usizeAdd_of_lt profile total]
  simp [tableOf, rectOf, offsetsFrom_append, offsetsFrom, pure, Except.pure]

private theorem readRegions_eq (profile : Profile) {payload : List UInt8} :
    ∀ count, count < UInt32.size →
      FrameMeta.size + WireRegion.size * count ≤ payload.length →
        (List.range count).foldlM (readRegion profile payload)
            (.ok ⟨[], [], [], 0⟩) =
          .ok (.ok (tableOf
            ((List.range count).map (descriptorAt payload))))
  | 0, _, _ => rfl
  | count + 1, few, inside => by
      have frontInside :
          FrameMeta.size + WireRegion.size * count ≤ payload.length := by
        rw [Nat.mul_add] at inside
        omega
      have front :=
        readRegions_eq profile count (Nat.lt_of_succ_lt few) frontInside
      have last := readRegion_of_inside profile
        (show ((List.range count).map (descriptorAt payload)).length <
          UInt32.size by rw [List.length_map, List.length_range]; omega)
        (show count < UInt32.size by omega)
        (by rw [Nat.mul_comm] at inside; exact inside)
      rw [List.range_succ, List.foldlM_append, front]
      simp only [bind, Except.bind, List.foldlM_cons, List.foldlM_nil]
      rw [last, List.map_append]
      rfl

/-- The parser, check by check. -/
theorem deserializeFramePayload_eq (profile : Profile)
    (payload : List UInt8) :
    deserializeFramePayload profile payload =
      if payload.length < FrameMeta.size then
        .ok (.error (.ensure "payload too short for FrameMeta"))
      else if payload.length < descriptorsEnd payload then
        .ok (.error (.ensure "payload too short for region descriptors"))
      else if (payload.drop (descriptorsEnd payload)).length <
          (payloadSizes payload).sum then
        .ok (.error (.ensure "payload too short for compressed data"))
      else
        .ok (.ok (parsedPayload payload)) := by
  have metaSize : FrameMeta.size = 16 := rfl
  have regionSize : WireRegion.size = 20 := rfl
  have range : UInt32.size = 4294967296 := rfl
  have wide : usizeRange = 18446744073709551616 := rfl
  have few : (payloadMeta payload).numRegions.toNat < UInt32.size :=
    (payloadMeta payload).numRegions.toNat_lt
  have tableSize :
      WireRegion.size * (payloadMeta payload).numRegions.toNat ≤
        20 * UInt32.size :=
    Nat.mul_le_mul (Nat.le_of_eq regionSize) (Nat.le_of_lt few)
  rw [deserializeFramePayload]
  by_cases short : payload.length < FrameMeta.size
  · rw [if_pos short, if_pos short]
    rfl
  · have width : (payload.take FrameMeta.size).length = FrameMeta.size := by
      rw [List.length_take]
      omega
    rw [if_neg short, if_neg short,
      slice_of_le _ (Nat.zero_le _) (Nat.le_of_not_lt short)]
    simp only [bind, Except.bind, List.drop_zero, Nat.sub_zero]
    rw [FrameMeta.refFromBytes_of_length width]
    dsimp only
    rw [← payloadMeta, usizeMul_of_lt profile (by omega)]
    dsimp only
    rw [usizeAdd_of_lt profile (by omega)]
    dsimp only
    rw [← descriptorsEnd]
    by_cases shortTable : payload.length < descriptorsEnd payload
    · rw [if_pos shortTable, if_pos shortTable]
      rfl
    · have table := readRegions_eq profile _ few
        (Nat.le_of_not_lt shortTable)
      rw [if_neg shortTable, if_neg shortTable, table]
      dsimp only
      rw [slice_of_le _ (Nat.le_of_not_lt shortTable) (Nat.le_refl _),
        List.take_of_length_le (Nat.le_of_eq List.length_drop)]
      dsimp only
      rw [← descriptors, tableOf, ← payloadSizes]
      rfl

theorem deserializeFramePayload_of_wellSized (profile : Profile)
    {payload : List UInt8} (sized : WellSized payload) :
    deserializeFramePayload profile payload =
      .ok (.ok (parsedPayload payload)) := by
  rw [deserializeFramePayload_eq, if_neg (Nat.not_lt_of_le sized.header),
    if_neg (Nat.not_lt_of_le sized.table),
    if_neg (Nat.not_lt_of_le sized.blobs)]

/-- Every other payload is an error, without a panic. -/
theorem deserializeFramePayload_of_not_wellSized (profile : Profile)
    {payload : List UInt8} (unsized : ¬ WellSized payload) :
    ∃ reason,
      deserializeFramePayload profile payload = .ok (.error reason) := by
  rw [deserializeFramePayload_eq]
  by_cases short : payload.length < FrameMeta.size
  · rw [if_pos short]
    exact ⟨_, rfl⟩
  · rw [if_neg short]
    by_cases shortTable : payload.length < descriptorsEnd payload
    · rw [if_pos shortTable]
      exact ⟨_, rfl⟩
    · rw [if_neg shortTable]
      by_cases shortData :
          (payload.drop (descriptorsEnd payload)).length <
            (payloadSizes payload).sum
      · rw [if_pos shortData]
        exact ⟨_, rfl⟩
      · exact absurd ⟨Nat.le_of_not_lt short, Nat.le_of_not_lt shortTable,
          Nat.le_of_not_lt shortData⟩ unsized

/-- The blobs of an accepted payload are described consistently. -/
theorem described_parsedPayload {payload : List UInt8}
    (sized : WellSized payload) :
    (parsedPayload payload).compressed.Described
      (parsedPayload payload).regions.length where
  offsets := rfl
  count_eq := by
    simp [parsedPayload, payloadRegions, payloadSizes]
  enough := sized.blobs
  addressable := by
    have few : (descriptors payload).length ≤ UInt32.size := by
      rw [descriptors, List.length_map, List.length_range]
      exact Nat.le_of_lt (payloadMeta payload).numRegions.toNat_lt
    exact sum_compressedSize_lt few

theorem blobs_parsedPayload (payload : List UInt8) :
    (parsedPayload payload).compressed.blobs = payloadBlobs payload := rfl

end RemoteWay.Client
