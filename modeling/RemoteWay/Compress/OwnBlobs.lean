import RemoteWay.Compress.Pipeline

/-!
# The blob each region is decoded from

`decompress_frame_into` joins the decompressed blobs and lets `delta_decode`
consume them by a running offset.  As long as every blob has the size of its
region, this is the same as decoding each region from a delta of its own,
`decodeRegions`.  Nothing checks the sizes: a blob of another size shifts the
deltas of the regions after it, or stops the decoder.
-/

namespace RemoteWay.Compress

open RemoteWay.Base

/-! ## Decoding each region from its own delta -/

/-- The number of bytes of a region, and of its delta. -/
def regionSize (rect : DamageRect) : Nat :=
  rect.width.toNat * 4 * rect.height.toNat

/-- The rows of one region, decoded from the start of a delta. -/
def decodeRegion (profile : Profile) (previous : List UInt8) (stride : Nat)
    (output : List UInt8) (region : DamageRect × List UInt8) :
    Exec (List UInt8) := do
  let (rect, delta) := region
  let (output, _) ← (List.range rect.height.toNat).foldlM
    (deltaDecodeRow profile delta previous stride rect) (output, 0)
  return output

/-- The regions in turn, each from its own delta. -/
def decodeRegions (profile : Profile) (previous : List UInt8) (stride : Nat)
    (regions : List (DamageRect × List UInt8)) : Exec (List UInt8) :=
  regions.foldlM (decodeRegion profile previous stride) previous

/-- One delta for each region, and of its size. -/
def EachSized (regions : List DamageRect) (deltas : List (List UInt8)) :
    Prop :=
  List.Forall₂ (fun rect delta => delta.length = regionSize rect) regions
    deltas

section Segment

variable (profile : Profile) (previous before own after : List UInt8)

private theorem readAt_segment {index : Nat} (inside : index < own.length) :
    readAt (before ++ own ++ after) (before.length + index) =
      readAt own index := by
  have here : (before ++ own ++ after)[before.length + index]? =
      own[index]? := by
    rw [List.append_assoc,
      List.getElem?_append_right (Nat.le_add_right _ _),
      Nat.add_sub_cancel_left, List.getElem?_append_left inside]
  rw [readAt, readAt, here]

private theorem deltaDecodeByte_segment {rowStart offset i : Nat}
    (output : List UInt8) (inside : offset + i < own.length)
    (addressable : (before ++ own ++ after).length < usizeRange) :
    deltaDecodeByte profile (before ++ own ++ after) previous rowStart
        (before.length + offset) output i =
      deltaDecodeByte profile own previous rowStart offset output i := by
  rw [List.length_append, List.length_append] at addressable
  have shifted := usizeAdd_of_lt profile
    (show before.length + offset + i < usizeRange by omega)
  have plain := usizeAdd_of_lt profile
    (show offset + i < usizeRange by omega)
  rw [Nat.add_assoc] at shifted
  simp only [deltaDecodeByte, shifted, plain, bind, Except.bind,
    readAt_segment before own after inside]

private theorem storeBytes_segment (rowStart offset : Nat) :
    ∀ (columns : List Nat) (output : List UInt8),
      (∀ i, i ∈ columns → offset + i < own.length) →
      (before ++ own ++ after).length < usizeRange →
        columns.foldlM (deltaDecodeByte profile (before ++ own ++ after)
            previous rowStart (before.length + offset)) output =
          columns.foldlM
            (deltaDecodeByte profile own previous rowStart offset) output
  | [], output, _, _ => rfl
  | i :: columns, output, inside, addressable => by
      rw [List.foldlM_cons, List.foldlM_cons,
        deltaDecodeByte_segment profile previous before own after output
          (inside i List.mem_cons_self) addressable]
      congr 1
      funext output
      exact storeBytes_segment rowStart offset columns output
        (fun later member => inside later (List.mem_cons_of_mem i member))
        addressable

/-- A row read from a segment of a joined delta. -/
private theorem deltaDecodeRow_segment {stride : Nat} {rect : DamageRect}
    {row offset : Nat} (output : List UInt8)
    (inside : offset + rect.width.toNat * 4 ≤ own.length)
    (addressable : (before ++ own ++ after).length < usizeRange) :
    deltaDecodeRow profile (before ++ own ++ after) previous stride rect
        (output, before.length + offset) row =
      (deltaDecodeRow profile own previous stride rect (output, offset)
        row).map fun state => (state.1, before.length + state.2) := by
  have within : ∀ i, i ∈ List.range (rect.width.toNat * 4) →
      offset + i < own.length := by
    intro i member
    have column := List.mem_range.mp member
    omega
  have stored := fun rowStart => storeBytes_segment profile previous before
    own after rowStart offset (List.range (rect.width.toNat * 4)) output
    within addressable
  rw [List.length_append, List.length_append] at addressable
  have shifted := usizeAdd_of_lt profile
    (show before.length + offset + rect.width.toNat * 4 < usizeRange by
      omega)
  have plain := usizeAdd_of_lt profile
    (show offset + rect.width.toNat * 4 < usizeRange by omega)
  simp only [deltaDecodeRow, Nat.add_sub_cancel_left, stored, shifted, plain]
  cases rowOffset profile stride rect row (rect.x.toNat * 4) with
  | error panic => rfl
  | ok rowStart =>
      simp only [bind, Except.bind]
      cases (List.range (rect.width.toNat * 4)).foldlM
        (deltaDecodeByte profile own previous rowStart offset) output with
      | error panic => rfl
      | ok output =>
          simp only [Except.map, pure, Except.pure, Nat.add_assoc]

private theorem deltaDecodeRow_offset {stride : Nat} {rect : DamageRect}
    {row offset : Nat} {output : List UInt8}
    {state : List UInt8 × Nat}
    (fits : offset + rect.width.toNat * 4 < usizeRange)
    (done : deltaDecodeRow profile own previous stride rect
      (output, offset) row = .ok state) :
    state.2 = offset + rect.width.toNat * 4 := by
  rw [deltaDecodeRow, bind_eq_ok_iff] at done
  obtain ⟨rowStart, _, done⟩ := done
  rw [bind_eq_ok_iff] at done
  obtain ⟨stored, _, done⟩ := done
  rw [Nat.add_sub_cancel_left, usizeAdd_of_lt profile fits] at done
  injection done with same
  rw [← same]

/-- The rows of a region read from a segment of a joined delta. -/
private theorem decodeRows_segment (stride : Nat) (rect : DamageRect) :
    ∀ (rows : List Nat) (output : List UInt8) (offset : Nat),
      offset + rows.length * (rect.width.toNat * 4) = own.length →
      (before ++ own ++ after).length < usizeRange →
        rows.foldlM (deltaDecodeRow profile (before ++ own ++ after)
            previous stride rect) (output, before.length + offset) =
          (rows.foldlM (deltaDecodeRow profile own previous stride rect)
            (output, offset)).map fun state =>
              (state.1, (before ++ own).length)
  | [], output, offset, reached, _ => by
      rw [List.length_nil, Nat.zero_mul, Nat.add_zero] at reached
      simp [Except.map, pure, Except.pure, reached]
  | row :: rows, output, offset, reached, addressable => by
      rw [List.length_cons, Nat.add_mul, Nat.one_mul] at reached
      have addressableOwn : own.length < usizeRange := by
        rw [List.length_append, List.length_append] at addressable
        omega
      rw [List.foldlM_cons, List.foldlM_cons,
        deltaDecodeRow_segment profile previous before own after output
          (by omega) addressable]
      cases first : deltaDecodeRow profile own previous stride rect
          (output, offset) row with
      | error panic => rfl
      | ok state =>
          have advanced := deltaDecodeRow_offset profile previous own
            (show offset + rect.width.toNat * 4 < usizeRange by omega) first
          obtain ⟨output, next⟩ := state
          obtain rfl : next = offset + rect.width.toNat * 4 := advanced
          exact decodeRows_segment stride rect rows output _ (by omega)
            addressable

end Segment

/-- Deltas of the sizes of their regions are consumed region by region. -/
private theorem decodeRects_eq_decodeRegions (profile : Profile)
    (previous : List UInt8) (stride : Nat) (before : List UInt8) :
    ∀ {regions : List DamageRect} {deltas : List (List UInt8)}
      (output : List UInt8),
      EachSized regions deltas →
      (before ++ deltas.flatten).length < usizeRange →
        regions.foldlM (fun state rect =>
            (List.range rect.height.toNat).foldlM
              (deltaDecodeRow profile (before ++ deltas.flatten) previous
                stride rect) state) (output, before.length) =
          ((regions.zip deltas).foldlM
            (decodeRegion profile previous stride) output).map fun output =>
              (output, (before ++ deltas.flatten).length) := by
  intro regions deltas output sized
  induction sized generalizing before output with
  | nil => simp [Except.map, pure, Except.pure]
  | @cons rect delta regions deltas size sized inductionHypothesis =>
      intro addressable
      rw [List.flatten_cons, ← List.append_assoc] at addressable ⊢
      have rows := decodeRows_segment profile previous before delta
        deltas.flatten stride rect (List.range rect.height.toNat) output 0
        (by rw [List.length_range, size, regionSize, Nat.zero_add,
              Nat.mul_comm]) addressable
      rw [Nat.add_zero] at rows
      rw [List.foldlM_cons, rows, List.zip_cons_cons, List.foldlM_cons,
        decodeRegion]
      cases (List.range rect.height.toNat).foldlM
          (deltaDecodeRow profile delta previous stride rect)
          (output, 0) with
      | error panic => rfl
      | ok state =>
          have tail := inductionHypothesis _ state.1 addressable
          simpa only [bind, Except.bind, Except.map, pure, Except.pure]
            using tail

/-- Decoding deltas of the sizes of their regions, joined in order. -/
theorem deltaDecode_flatten (profile : Profile) (previous : List UInt8)
    (stride : Nat) {regions : List DamageRect} {deltas : List (List UInt8)}
    {output : List UInt8} (sameLength : output.length = previous.length)
    (sized : EachSized regions deltas)
    (addressable : deltas.flatten.length < usizeRange) :
    deltaDecode profile deltas.flatten previous stride regions output =
      decodeRegions profile previous stride (regions.zip deltas) := by
  have rects := decodeRects_eq_decodeRegions profile previous stride []
    previous sized addressable
  rw [List.nil_append] at rects
  rw [deltaDecode, copyFromSlice_of_length_eq sameLength, decodeRegions]
  simp only [bind, Except.bind]
  rw [show (0 : Nat) = ([] : List UInt8).length from rfl, rects]
  cases (regions.zip deltas).foldlM (decodeRegion profile previous stride)
    previous <;> rfl

/-! ## When only right sizes are accepted -/

/-- The blob of a region decompresses, but not to the size of the region. -/
def WrongSize (kind : Codec) (region : DamageRect × List UInt8) : Prop :=
  match kind.decompress region.2 with
  | .ok delta => delta.length ≠ regionSize region.1
  | .error _ => False

instance (kind : Codec) (region : DamageRect × List UInt8) :
    Decidable (WrongSize kind region) := by
  unfold WrongSize
  cases kind.decompress region.2 <;> infer_instance

/-- The blob is not a compressed one. -/
def Undecodable (kind : Codec) (blob : List UInt8) : Prop :=
  ∃ reason, kind.decompress blob = .error reason

/-- An accepted frame has a delta of the right size for each region, from
which the region is decoded.  A blob of a wrong size is an error. -/
structure AcceptsRightSizes (profile : Profile)
    (compressed : CompressedFrame) (previous : List UInt8) (stride : Nat)
    (regions : List DamageRect) (output : List UInt8) (kind : Codec) :
    Prop where
  own : ∀ result,
    decompressFrameInto profile compressed previous stride regions output
        kind = .ok (.ok result) →
      ∃ deltas, List.Forall₂
          (fun blob delta => kind.decompress blob = .ok delta)
          compressed.blobs deltas ∧
        EachSized regions deltas ∧
        decodeRegions profile previous stride (regions.zip deltas) =
          .ok result
  rejected : ∀ region, region ∈ regions.zip compressed.blobs →
    WrongSize kind region →
      ∃ reason, decompressFrameInto profile compressed previous stride
        regions output kind = .ok (.error reason)

/-- Decompressed blobs have the sizes of their regions exactly when none of
them has a wrong size. -/
private theorem eachSized_iff {kind : Codec} {blobs deltas : List (List UInt8)}
    (decoded : List.Forall₂
      (fun blob delta => kind.decompress blob = .ok delta) blobs deltas) :
    ∀ {regions : List DamageRect}, regions.length = blobs.length →
      (EachSized regions deltas ↔
        ∀ region, region ∈ regions.zip blobs → ¬WrongSize kind region) := by
  induction decoded with
  | nil =>
      intro regions sameLength
      obtain rfl : regions = [] := List.eq_nil_of_length_eq_zero sameLength
      simp [EachSized]
  | @cons blob delta blobs deltas first decoded inductionHypothesis =>
      intro regions sameLength
      cases regions with
      | nil => cases sameLength
      | cons rect regions =>
          have rest := inductionHypothesis (Nat.succ.inj sameLength)
          rw [EachSized] at rest ⊢
          rw [List.forall₂_cons, rest, List.zip_cons_cons,
            List.forall_mem_cons]
          simp only [WrongSize, first, ne_eq, Decidable.not_not]

section Described

variable {profile : Profile} {compressed : CompressedFrame}
variable {previous : List UInt8} {stride : Nat}
variable {regions : List DamageRect} {output : List UInt8} {kind : Codec}

private theorem length_blobs
    (described : compressed.Described regions.length) :
    regions.length = compressed.blobs.length := by
  rw [CompressedFrame.blobs, length_cutBlobs, described.count_eq]

private theorem acceptsRightSizes_of_undecodable
    (described : compressed.Described regions.length)
    (undecodable : ∃ blob, blob ∈ compressed.blobs ∧
      Undecodable kind blob) :
    AcceptsRightSizes profile compressed previous stride regions output
      kind := by
  obtain ⟨reason, failed⟩ := mapM_fails_iff.mpr undecodable
  have rejected : decompressFrameInto profile compressed previous stride
      regions output kind = .ok (.error reason) := by
    rw [decompressFrameInto_of_described profile described, failed]
  constructor
  · intro result accepted
    rw [rejected] at accepted
    injection accepted with accepted
    cases accepted
  · intro region _ _
    exact ⟨reason, rejected⟩

/-- Only right sizes are accepted exactly if some blob does not decompress
or every blob decompresses to the size of its region. -/
theorem acceptsRightSizes_iff
    (described : compressed.Described regions.length)
    (addressable : ∀ deltas, compressed.blobs.mapM kind.decompress =
      .ok deltas → deltas.flatten.length < usizeRange) :
    AcceptsRightSizes profile compressed previous stride regions output
        kind ↔
      (∃ blob, blob ∈ compressed.blobs ∧ Undecodable kind blob) ∨
        ∀ region, region ∈ regions.zip compressed.blobs →
          ¬WrongSize kind region := by
  cases decoded : compressed.blobs.mapM kind.decompress with
  | error reason =>
      have undecodable := mapM_fails_iff.mp ⟨reason, decoded⟩
      exact iff_of_true
        (acceptsRightSizes_of_undecodable described undecodable)
        (Or.inl undecodable)
  | ok deltas =>
      have each := mapM_eq_ok_iff.mp decoded
      have sized := eachSized_iff each (length_blobs described)
      have accepted : decompressFrameInto profile compressed previous stride
          regions output kind =
          (deltaDecode profile deltas.flatten previous stride regions
            (resize output previous.length 0)).map .ok := by
        rw [decompressFrameInto_of_described profile described, decoded]
      constructor
      · intro rightSizes
        refine Or.inr fun region member wrong => ?_
        obtain ⟨reason, rejected⟩ := rightSizes.rejected region member wrong
        rw [accepted] at rejected
        cases written : deltaDecode profile deltas.flatten previous stride
            regions (resize output previous.length 0) with
        | error panic =>
            rw [written] at rejected
            cases rejected
        | ok result =>
            rw [written] at rejected
            injection rejected with rejected
            cases rejected
      · intro either
        rcases either with undecodable | right
        · exact acceptsRightSizes_of_undecodable described undecodable
        · have own := deltaDecode_flatten profile previous stride
            (length_resize output previous.length 0) (sized.mpr right)
            (addressable deltas decoded)
          constructor
          · intro result done
            rw [accepted, own] at done
            refine ⟨deltas, each, sized.mpr right, ?_⟩
            cases written : decodeRegions profile previous stride
                (regions.zip deltas) with
            | error panic =>
                rw [written] at done
                cases done
            | ok output =>
                rw [written] at done
                injection done with done
                injection done with same
                rw [same]
          · intro region member wrong
            exact absurd wrong (right region member)

end Described

private def twoPixels : List DamageRect := [⟨0, 0, 1, 1⟩, ⟨1, 0, 1, 1⟩]

theorem acceptsRightSizes_iff_twoPixels :
    AcceptsRightSizes .release
        (.ofBlobs 8 [[1, 2, 3, 4], [5, 6, 7, 8]]) (List.replicate 8 0) 8
        twoPixels [] .plain ↔
      (∃ blob, blob ∈ (CompressedFrame.ofBlobs 8
          [[1, 2, 3, 4], [5, 6, 7, 8]]).blobs ∧ Undecodable .plain blob) ∨
        ∀ region, region ∈ twoPixels.zip (CompressedFrame.ofBlobs 8
            [[1, 2, 3, 4], [5, 6, 7, 8]]).blobs →
          ¬WrongSize .plain region :=
  acceptsRightSizes_iff (CompressedFrame.described_ofBlobs 8 (by decide))
    (by
      intro deltas decoded
      injection decoded with same
      rw [← same]
      decide)

/-- The blob of the second pixel is drawn at the first one when the first
blob is empty and the second is too long.  When no later blob makes up for
the empty one, the decoder stops. -/
theorem not_acceptsRightSizes_emptyBlob :
    (CompressedFrame.ofBlobs 8 [[], [1, 2, 3, 4, 5, 6, 7, 8]]).Described
        twoPixels.length ∧
      decompressFrameInto .release
          (.ofBlobs 8 [[], [1, 2, 3, 4, 5, 6, 7, 8]]) (List.replicate 8 0) 8
          twoPixels [] .plain =
        .ok (.ok [1, 2, 3, 4, 5, 6, 7, 8]) ∧
      ¬AcceptsRightSizes .release
        (.ofBlobs 8 [[], [1, 2, 3, 4, 5, 6, 7, 8]]) (List.replicate 8 0) 8
        twoPixels [] .plain ∧
      decompressFrameInto .release (.ofBlobs 8 [[], [5, 6, 7, 8]])
          (List.replicate 8 0) 8 twoPixels [] .plain =
        .error .bounds := by
  have shifted : decompressFrameInto .release
      (.ofBlobs 8 [[], [1, 2, 3, 4, 5, 6, 7, 8]]) (List.replicate 8 0) 8
      twoPixels [] .plain = .ok (.ok [1, 2, 3, 4, 5, 6, 7, 8]) := by
    decide +kernel
  refine ⟨CompressedFrame.described_ofBlobs 8 (by decide), shifted, ?_,
    by decide +kernel⟩
  intro rightSizes
  obtain ⟨reason, rejected⟩ := rightSizes.rejected (⟨0, 0, 1, 1⟩, [])
    (by decide) (by decide)
  rw [shifted] at rejected
  injection rejected with rejected
  cases rejected

end RemoteWay.Compress
