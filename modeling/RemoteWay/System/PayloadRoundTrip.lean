import RemoteWay.System.Payload

/-!
# Payloads in both directions

What the server serializes for a compressed frame, the client parses back,
with the offsets that `compress_frame_into` stored.  Every payload that the
client accepts is serialized back to the same bytes, also those after the
blobs.
-/

namespace RemoteWay.System

open RemoteWay.Base RemoteWay.Proto RemoteWay.Compress
open RemoteWay.Server RemoteWay.Client

/-! ## From the frame to the payload and back -/

/-- The parse of a sent payload. -/
theorem deserializeFramePayload_sentPayload (profile : Profile)
    {width height stride : UInt32} {rects : List DamageRect}
    {blobs : List (List UInt8)} (sized : WireSized rects blobs)
    (originalBytes : Nat) :
    deserializeFramePayload profile
        (sentPayload width height stride rects blobs) =
      .ok (.ok
        { width := width
          height := height
          stride := stride
          regions := rects
          compressed :=
            { CompressedFrame.ofBlobs originalBytes blobs with
              stats := ⟨0, 0⟩ } }) := by
  rw [deserializeFramePayload_of_wellSized profile
    (wellSized_sentPayload sized), parsedPayload, payloadMeta_sentPayload,
    payloadRegions_sentPayload sized, payloadSizes_sentPayload sized,
    drop_descriptorsEnd_sentPayload sized]
  rfl

/-! ## From the payload to the frame and back -/

private theorem zipWith_wireRegion :
    ∀ regions : List WireRegion,
      List.zipWith wireRegion (regions.map rectOf)
          (regions.map fun region => region.compressedSize.toNat) =
        regions
  | [] => rfl
  | region :: regions => by
      rw [List.map_cons, List.map_cons, List.zipWith_cons_cons,
        zipWith_wireRegion regions, wireRegion, UInt32.ofNat_toNat]
      rfl

private theorem asBytes_descriptorAt {payload : List UInt8} {index : Nat}
    (inside : FrameMeta.size + (index + 1) * WireRegion.size ≤
      payload.length) :
    (descriptorAt payload index).asBytes =
      ((payload.drop FrameMeta.size).drop (index * WireRegion.size)).take
        WireRegion.size := by
  rw [Nat.add_mul, Nat.one_mul] at inside
  rw [descriptorAt, List.drop_drop, WireRegion.asBytes_ofFront]
  rw [List.length_take, List.length_drop]
  omega

/-- The descriptors are the bytes between the header and the blobs. -/
private theorem flatMap_descriptors {payload : List UInt8}
    (sized : WellSized payload) :
    (descriptors payload).flatMap WireRegion.asBytes =
      (payload.drop FrameMeta.size).take
        (WireRegion.size * (payloadMeta payload).numRegions.toNat) := by
  have table := sized.table
  rw [descriptorsEnd] at table
  rw [descriptors, List.flatMap_map, Nat.mul_comm, ← flatMap_pieces]
  apply List.flatMap_congr
  intro index member
  have inside := List.mem_range.mp member
  have rows : (index + 1) * WireRegion.size ≤
      (payloadMeta payload).numRegions.toNat * WireRegion.size :=
    Nat.mul_le_mul_right _ inside
  apply asBytes_descriptorAt
  rw [Nat.mul_comm] at table
  omega

/-- A payload that holds what it announces consists of its header, its
descriptors and the rest. -/
theorem framePayload_of_wellSized {payload : List UInt8}
    (sized : WellSized payload) :
    framePayload (payloadMeta payload) (descriptors payload)
        (payload.drop (descriptorsEnd payload)) = payload := by
  have header : (payloadMeta payload).asBytes =
      payload.take FrameMeta.size := by
    rw [payloadMeta, FrameMeta.asBytes_ofFront]
    rw [List.length_take, Nat.min_eq_left sized.header]
  rw [framePayload, header, flatMap_descriptors sized, descriptorsEnd,
    ← List.drop_drop, List.append_assoc, List.take_append_drop,
    List.take_append_drop]

theorem serializeFramePayload_parsedPayload {payload : List UInt8}
    (sized : WellSized payload) :
    serializeFramePayload (payloadMeta payload).width
        (payloadMeta payload).height (payloadMeta payload).stride
        (parsedPayload payload).regions (parsedPayload payload).compressed =
      .ok payload := by
  have count : (parsedPayload payload).regions.length =
      (payloadMeta payload).numRegions.toNat := by
    simp [parsedPayload, payloadRegions, descriptors]
  have whole := framePayload_of_wellSized sized
  rw [serializeFramePayload_eq _ _ _
    (described_parsedPayload sized).count_eq, count, UInt32.ofNat_toNat]
  change Except.ok (framePayload (payloadMeta payload)
    (List.zipWith wireRegion (payloadRegions payload)
      (payloadSizes payload)) (payload.drop (descriptorsEnd payload))) = _
  rw [payloadRegions, payloadSizes, zipWith_wireRegion, whole]

/-! ## Both directions -/

/-- For every compressed frame whose counts and sizes fit 32 bits, the client
parses from the server's payload the same dimensions, regions, sizes, data
and offsets; and serializing what the client parsed from any payload yields
that payload. -/
theorem framePayload_round_trip (profile : Profile) :
    (∀ serverProfile current previous encodeStride regions kind compressed,
      compressFrameInto serverProfile current previous encodeStride regions
          kind = .ok compressed →
      regions.length < UInt32.size →
      (∀ size, size ∈ compressed.regionSizes → size < UInt32.size) →
        ∀ width height stride, ∃ payload,
          serializeFramePayload width height stride regions compressed =
              .ok payload ∧
            deserializeFramePayload profile payload =
              .ok (.ok
                { width := width
                  height := height
                  stride := stride
                  regions := regions
                  compressed := { compressed with stats := ⟨0, 0⟩ } })) ∧
      ∀ payload parsed,
        deserializeFramePayload profile payload = .ok (.ok parsed) →
          serializeFramePayload parsed.width parsed.height parsed.stride
            parsed.regions parsed.compressed = .ok payload := by
  constructor
  · intro serverProfile current previous encodeStride regions kind
      compressed done few short width height stride
    obtain ⟨originalBytes, blobs, sameLength, rfl⟩ :=
      compressFrameInto_eq_ok done
    have sized : WireSized regions blobs :=
      { sameLength := sameLength
        few := few
        short := fun blob member =>
          short blob.length (List.mem_map_of_mem member) }
    exact ⟨_, serializeFramePayload_ofBlobs width height stride sameLength
        originalBytes,
      deserializeFramePayload_sentPayload profile sized originalBytes⟩
  · intro payload parsed accepted
    by_cases sized : WellSized payload
    · rw [deserializeFramePayload_of_wellSized profile sized] at accepted
      injection accepted with accepted
      injection accepted with same
      rw [← same]
      exact serializeFramePayload_parsedPayload sized
    · obtain ⟨reason, failed⟩ :=
        deserializeFramePayload_of_not_wellSized profile sized
      rw [failed] at accepted
      injection accepted with accepted
      cases accepted

/-- A frame of one pixel, of which two regions are sent, one of them
empty. -/
def onePixelRegions : List DamageRect := [⟨0, 0, 1, 1⟩, ⟨1, 0, 0, 1⟩]

theorem framePayload_round_trip_onePixel :
    ∃ compressed payload parsed,
      compressFrameInto .dev [1, 2, 3, 4] [4, 3, 2, 1] 4 onePixelRegions
          .plain = .ok compressed ∧
        serializeFramePayload 1 1 4 onePixelRegions compressed =
          .ok payload ∧
        deserializeFramePayload .release payload = .ok (.ok parsed) ∧
        parsed.compressed.regionOffsets = [0, 4] ∧
        serializeFramePayload parsed.width parsed.height parsed.stride
          parsed.regions parsed.compressed = .ok payload := by
  obtain ⟨forth, back⟩ := framePayload_round_trip .release
  cases done : compressFrameInto .dev [1, 2, 3, 4] [4, 3, 2, 1] 4
      onePixelRegions .plain with
  | error panic =>
      have succeeds : (compressFrameInto .dev [1, 2, 3, 4] [4, 3, 2, 1] 4
          onePixelRegions .plain).isOk = true := by
        decide +kernel
      rw [done] at succeeds
      cases succeeds
  | ok compressed =>
      have fields : (compressFrameInto .dev [1, 2, 3, 4] [4, 3, 2, 1] 4
          onePixelRegions .plain).map (fun frame =>
            (frame.regionSizes, frame.regionOffsets)) =
          .ok ([4, 0], [0, 4]) := by
        decide +kernel
      rw [done] at fields
      injection fields with fields
      injection fields with sizes offsets
      have short : ∀ size, size ∈ compressed.regionSizes →
          size < UInt32.size := by
        rw [sizes]
        decide
      obtain ⟨payload, serialized, parsed⟩ :=
        forth _ _ _ _ _ _ _ done (by decide) short 1 1 4
      exact ⟨compressed, payload, _, rfl, serialized, parsed, offsets,
        back _ _ parsed⟩

end RemoteWay.System
