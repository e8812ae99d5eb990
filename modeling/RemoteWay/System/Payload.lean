import RemoteWay.Client.FramePayload
import RemoteWay.Server.Pipeline

/-!
# Payload round trip

The server's `serialize_frame_payload` and the client's
`deserialize_frame_payload` agree on the layout of a frame payload: header,
region descriptors, blobs.  Fields are 32 bits wide, so the counts and sizes
of a frame must fit.
-/

namespace RemoteWay.System

open RemoteWay.Base RemoteWay.Proto RemoteWay.Compress
open RemoteWay.Server RemoteWay.Client

/-! ## The layout -/

/-- Header, region descriptors and blob data in a row. -/
def framePayload (frameMeta : FrameMeta) (regions : List WireRegion)
    (data : List UInt8) : List UInt8 :=
  frameMeta.asBytes ++ regions.flatMap WireRegion.asBytes ++ data

def wireRegion (rect : DamageRect) (size : Nat) : WireRegion :=
  ⟨rect.x, rect.y, rect.width, rect.height, UInt32.ofNat size⟩

private theorem serializeRegions_eq (compressed : CompressedFrame) :
    ∀ (regions : List DamageRect) (start : Nat) (payload : List UInt8),
      start + regions.length ≤ compressed.regionSizes.length →
        (regions.zipIdx start).foldlM (serializeRegion compressed) payload =
          .ok (payload ++ (List.zipWith wireRegion regions
            (compressed.regionSizes.drop start)).flatMap
              WireRegion.asBytes)
  | [], start, payload, _ => by
      simp [pure, Except.pure]
  | rect :: regions, start, payload, inside => by
      rw [List.length_cons] at inside
      have here : start < compressed.regionSizes.length := by omega
      have step :
          serializeRegion compressed payload (rect, start) =
            .ok (payload ++
              (wireRegion rect compressed.regionSizes[start]).asBytes) := by
        rw [serializeRegion, readAt_of_lt here]
        rfl
      have tail := serializeRegions_eq compressed regions (start + 1)
        (payload ++
          (wireRegion rect compressed.regionSizes[start]).asBytes)
        (by omega)
      rw [List.zipIdx_cons, List.foldlM_cons, step]
      simp only [bind, Except.bind]
      rw [tail, List.drop_eq_getElem_cons here, List.zipWith_cons_cons,
        List.flatMap_cons, List.append_assoc]

/-- The serializer writes one descriptor for each region. -/
theorem serializeFramePayload_eq (width height stride : UInt32)
    {regions : List DamageRect} {compressed : CompressedFrame}
    (sizes : compressed.regionSizes.length = regions.length) :
    serializeFramePayload width height stride regions compressed =
      .ok (framePayload
        ⟨width, height, stride, UInt32.ofNat regions.length⟩
        (List.zipWith wireRegion regions compressed.regionSizes)
        compressed.data) := by
  have loop := serializeRegions_eq compressed regions 0
    (FrameMeta.mk width height stride
      (UInt32.ofNat regions.length)).asBytes (by omega)
  rw [serializeFramePayload, loop]
  rfl

/-! ## Parsing the layout -/

section Parsing

variable {frameMeta : FrameMeta} {regions : List WireRegion}
variable {data : List UInt8}

theorem payloadMeta_framePayload :
    payloadMeta (framePayload frameMeta regions data) = frameMeta := by
  have whole := frameMeta.ofFront_asBytes []
  rw [List.append_nil] at whole
  rw [payloadMeta, framePayload, List.append_assoc,
    List.take_left' frameMeta.length_asBytes, whole]

private theorem drop_descriptors {index : Nat}
    (inside : index ≤ regions.length) :
    (framePayload frameMeta regions data).drop
        (FrameMeta.size + index * WireRegion.size) =
      (regions.drop index).flatMap WireRegion.asBytes ++ data := by
  rw [framePayload, List.append_assoc, ← List.drop_drop,
    List.drop_left' frameMeta.length_asBytes,
    drop_flatMap_of_length WireRegion.length_asBytes data regions index
      inside]

theorem descriptorAt_framePayload {index : Nat}
    (inside : index < regions.length) :
    descriptorAt (framePayload frameMeta regions data) index =
      regions[index] := by
  have whole := regions[index].ofFront_asBytes []
  rw [List.append_nil] at whole
  rw [descriptorAt, drop_descriptors (Nat.le_of_lt inside),
    List.drop_eq_getElem_cons inside, List.flatMap_cons,
    List.append_assoc, List.take_left' (WireRegion.length_asBytes _), whole]

variable (counted : frameMeta.numRegions.toNat = regions.length)

include counted

theorem descriptors_framePayload :
    descriptors (framePayload frameMeta regions data) = regions := by
  rw [descriptors, payloadMeta_framePayload, counted]
  apply List.ext_getElem
  · rw [List.length_map, List.length_range]
  · intro index mapped inside
    rw [List.getElem_map, List.getElem_range,
      descriptorAt_framePayload inside]

theorem drop_descriptorsEnd_framePayload :
    (framePayload frameMeta regions data).drop
        (descriptorsEnd (framePayload frameMeta regions data)) = data := by
  rw [descriptorsEnd, payloadMeta_framePayload, counted, Nat.mul_comm,
    drop_descriptors (Nat.le_refl regions.length)]
  simp

theorem wellSized_framePayload
    (enough : (regions.map fun region =>
      region.compressedSize.toNat).sum ≤ data.length) :
    WellSized (framePayload frameMeta regions data) where
  header := by
    rw [framePayload, List.append_assoc, List.length_append,
      FrameMeta.length_asBytes]
    exact Nat.le_add_right _ _
  table := by
    rw [descriptorsEnd, payloadMeta_framePayload, counted, framePayload,
      List.length_append, List.length_append, FrameMeta.length_asBytes,
      List.length_flatMap]
    simp [Nat.mul_comm]
  blobs := by
    rw [payloadSizes, descriptors_framePayload counted,
      drop_descriptorsEnd_framePayload counted]
    exact enough

end Parsing

/-! ## Parsing what the server serialized -/

/-- The counts and sizes of a frame fit their 32-bit fields. -/
structure WireSized (rects : List DamageRect) (blobs : List (List UInt8)) :
    Prop where
  sameLength : blobs.length = rects.length
  few : rects.length < UInt32.size
  short : ∀ blob, blob ∈ blobs → blob.length < UInt32.size

/-- The payload of a frame with one blob for each region. -/
def sentPayload (width height stride : UInt32) (rects : List DamageRect)
    (blobs : List (List UInt8)) : List UInt8 :=
  framePayload ⟨width, height, stride, UInt32.ofNat rects.length⟩
    (List.zipWith wireRegion rects (blobs.map List.length)) blobs.flatten

theorem serializeFramePayload_ofBlobs (width height stride : UInt32)
    {rects : List DamageRect} {blobs : List (List UInt8)}
    (sameLength : blobs.length = rects.length) (originalBytes : Nat) :
    serializeFramePayload width height stride rects
        (CompressedFrame.ofBlobs originalBytes blobs) =
      .ok (sentPayload width height stride rects blobs) :=
  serializeFramePayload_eq width height stride
    ((List.length_map _).trans sameLength)

private theorem map_compressedSize :
    ∀ {rects : List DamageRect} {blobs : List (List UInt8)},
      blobs.length = rects.length →
      (∀ blob, blob ∈ blobs → blob.length < UInt32.size) →
        (List.zipWith wireRegion rects (blobs.map List.length)).map
            (fun region => region.compressedSize.toNat) =
          blobs.map List.length
  | [], [], _, _ => rfl
  | rect :: rects, blob :: blobs, sameLength, short => by
      have tail := map_compressedSize (Nat.succ.inj sameLength)
        fun later member => short later (List.mem_cons_of_mem blob member)
      rw [List.map_cons, List.zipWith_cons_cons, List.map_cons, tail,
        wireRegion,
        UInt32.toNat_ofNat_of_lt' (short blob List.mem_cons_self)]

private theorem map_rectOf :
    ∀ {rects : List DamageRect} {sizes : List Nat},
      sizes.length = rects.length →
        (List.zipWith wireRegion rects sizes).map rectOf = rects
  | [], [], _ => rfl
  | rect :: rects, size :: sizes, sameLength => by
      rw [List.zipWith_cons_cons, List.map_cons,
        map_rectOf (Nat.succ.inj sameLength)]
      rfl

section RoundTrip

variable {width height stride : UInt32} {rects : List DamageRect}
variable {blobs : List (List UInt8)}

theorem payloadMeta_sentPayload :
    payloadMeta (sentPayload width height stride rects blobs) =
      ⟨width, height, stride, UInt32.ofNat rects.length⟩ :=
  payloadMeta_framePayload

variable (sized : WireSized rects blobs)

include sized

private theorem counted_sentPayload :
    (UInt32.ofNat rects.length).toNat =
      (List.zipWith wireRegion rects (blobs.map List.length)).length := by
  rw [UInt32.toNat_ofNat_of_lt' sized.few, List.length_zipWith,
    List.length_map, sized.sameLength, Nat.min_self]

theorem payloadRegions_sentPayload :
    payloadRegions (sentPayload width height stride rects blobs) =
      rects := by
  rw [payloadRegions, sentPayload,
    descriptors_framePayload (counted_sentPayload sized)]
  exact map_rectOf ((List.length_map _).trans sized.sameLength)

theorem payloadSizes_sentPayload :
    payloadSizes (sentPayload width height stride rects blobs) =
      blobs.map List.length := by
  rw [payloadSizes, sentPayload,
    descriptors_framePayload (counted_sentPayload sized),
    map_compressedSize sized.sameLength sized.short]

theorem drop_descriptorsEnd_sentPayload :
    (sentPayload width height stride rects blobs).drop
        (descriptorsEnd (sentPayload width height stride rects blobs)) =
      blobs.flatten := by
  rw [sentPayload,
    drop_descriptorsEnd_framePayload (counted_sentPayload sized)]

theorem payloadBlobs_sentPayload :
    payloadBlobs (sentPayload width height stride rects blobs) = blobs := by
  have whole := cutBlobs_flatten [] blobs
  rw [List.append_nil] at whole
  rw [payloadBlobs, payloadSizes_sentPayload sized,
    drop_descriptorsEnd_sentPayload sized, whole]

theorem wellSized_sentPayload :
    WellSized (sentPayload width height stride rects blobs) := by
  apply wellSized_framePayload (counted_sentPayload sized)
  rw [map_compressedSize sized.sameLength sized.short]
  exact Nat.le_of_eq List.length_flatten.symm

end RoundTrip

end RemoteWay.System
