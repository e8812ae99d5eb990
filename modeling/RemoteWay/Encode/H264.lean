import RemoteWay.Encode.Encoder

/-!
# References of the H.264 backend

`frame_num`, the picture order count and the descriptor of the reference are
computed from the running frame index.  They agree with what was recorded
for the reference as long as the frame index stands where an IDR picture
restarts the counts.
-/

namespace RemoteWay.Encode

open RemoteWay.Base

/-! ## What is declared -/

/-- A DPB slot with its `StdVideoEncodeH264ReferenceInfo`. -/
structure H264SlotInfo where
  slotIndex : Nat
  frameNum : UInt32
  picOrderCnt : Int32
  deriving DecidableEq, Repr

/-- What `encode` declares for a picture.  `refPicList0` is the first entry
of the list; the others are unused. -/
structure H264Picture where
  idrPicFlag : Bool
  frameNum : UInt32
  picOrderCnt : Int32
  refPicList0 : UInt8
  setupReferenceSlot : H264SlotInfo
  referenceSlot : Option H264SlotInfo
  deriving DecidableEq, Repr

/-- The fields of the sequence parameter set that rule the counts. -/
structure H264SequenceParameterSet where
  gapsInFrameNumValueAllowedFlag : Bool
  log2MaxFrameNumMinus4 : Nat
  log2MaxPicOrderCntLsbMinus4 : Nat
  maxNumRefFrames : Nat
  deriving DecidableEq, Repr

namespace H264

def buildSps : H264SequenceParameterSet where
  gapsInFrameNumValueAllowedFlag := false
  log2MaxFrameNumMinus4 := 0
  log2MaxPicOrderCntLsbMinus4 := 4
  maxNumRefFrames := 1

/-- The values of `frame_num` that the sequence parameter set allows. -/
def maxFrameNum : Nat := 2 ^ (buildSps.log2MaxFrameNumMinus4 + 4)

/-- The descriptor of the reference, computed from the frame index. -/
def referenceSlotInfo (profile : Profile) (encoder : VideoEncoder Unit) :
    Exec (Option H264SlotInfo) :=
  match encoder.refSlot with
  | none => return none
  | some prev => do
      let previous ← i32Sub profile (asI32 encoder.frameIndex) 1
      let picOrderCnt ← i32Mul profile previous 2
      return some
        ⟨prev, (encoder.frameIndex.toUInt32 - 1) &&& 0xF, picOrderCnt⟩

def declare (profile : Profile) (encoder : VideoEncoder Unit) :
    Exec H264Picture := do
  let picOrderCnt ← i32Mul profile (asI32 encoder.frameIndex) 2
  let frameNum :=
    if encoder.isKey then 0 else encoder.frameIndex.toUInt32 &&& 0xF
  let referenceSlot ← referenceSlotInfo profile encoder
  let picture : H264Picture :=
    { idrPicFlag := encoder.isKey
      frameNum := frameNum
      picOrderCnt := picOrderCnt
      refPicList0 :=
        match encoder.refSlot with
        | none => 0xFF
        | some prev => UInt8.ofNat prev
      setupReferenceSlot := ⟨encoder.setupSlot, frameNum, picOrderCnt⟩
      referenceSlot := referenceSlot }
  return picture

def backend : Backend Unit H264Picture where
  declare := declare
  advance := id
  frameBitstream := id

/-! ## The declared values -/

section Declared

variable {profile : Profile} {encoder : VideoEncoder Unit}
variable {picture : H264Picture}

theorem referenceSlotInfo_eq_ok {reference : Option H264SlotInfo}
    (described : referenceSlotInfo profile encoder = .ok reference) :
    reference = encoder.refSlot.map fun prev =>
      ⟨prev, (encoder.frameIndex.toUInt32 - 1) &&& 0xF,
        (asI32 encoder.frameIndex - 1) * 2⟩ := by
  rw [referenceSlotInfo] at described
  cases referred : encoder.refSlot with
  | none =>
      rw [referred] at described
      injection described with same
      exact same.symm
  | some prev =>
      rw [referred] at described
      dsimp only at described
      rw [bind_eq_ok_iff] at described
      obtain ⟨previous, subtracted, described⟩ := described
      rw [bind_eq_ok_iff] at described
      obtain ⟨picOrderCnt, multiplied, described⟩ := described
      injection described with same
      rw [← same, ← i32Mul_eq_ok multiplied, ← i32Sub_eq_ok subtracted]
      rfl

/-- What is declared, up to overflows. -/
structure Declares (encoder : VideoEncoder Unit) (picture : H264Picture) :
    Prop where
  idrPicFlag : picture.idrPicFlag = encoder.isKey
  frameNum : picture.frameNum =
    if encoder.isKey then 0 else encoder.frameIndex.toUInt32 &&& 0xF
  picOrderCnt : picture.picOrderCnt = asI32 encoder.frameIndex * 2
  setup : picture.setupReferenceSlot =
    ⟨encoder.setupSlot, picture.frameNum, picture.picOrderCnt⟩
  reference : picture.referenceSlot = encoder.refSlot.map fun prev =>
    ⟨prev, (encoder.frameIndex.toUInt32 - 1) &&& 0xF,
      (asI32 encoder.frameIndex - 1) * 2⟩
  list : ∀ slot, encoder.refSlot = some slot →
    picture.refPicList0 = UInt8.ofNat slot

theorem declares_of_declare (done : declare profile encoder = .ok picture) :
    Declares encoder picture := by
  rw [declare, bind_eq_ok_iff] at done
  obtain ⟨picOrderCnt, multiplied, done⟩ := done
  dsimp only at done
  rw [bind_eq_ok_iff] at done
  obtain ⟨reference, described, done⟩ := done
  injection done with same
  subst same
  refine ⟨rfl, rfl, (i32Mul_eq_ok multiplied).symm, rfl,
    referenceSlotInfo_eq_ok described, ?_⟩
  intro slot referred
  simp [referred]

end Declared

/-! ## Arithmetic of the counts -/

theorem toNat_and_fifteen (value : UInt32) :
    (value &&& 0xF).toNat = value.toNat % maxFrameNum := by
  rw [UInt32.toNat_and]
  exact Nat.and_two_pow_sub_one_eq_mod value.toNat 4

theorem asI32_mul_two_eq_zero_iff (frameIndex : UInt64) :
    asI32 frameIndex * 2 = 0 ↔ frameIndex.toNat % 2147483648 = 0 := by
  have two : (2 : Int32).toInt = 2 := rfl
  have zero : (0 : Int32).toInt = 0 := rfl
  rw [← Int32.toInt_inj, Int32.toInt_mul, toInt_asI32]
  simp only [two, zero, Int.bmod_def]
  omega

/-- At such an index the running `frame_num` is that of an IDR picture. -/
theorem and_fifteen_eq_zero {frameIndex : UInt64}
    (restarts : frameIndex.toNat % 2147483648 = 0) :
    frameIndex.toUInt32 &&& 0xF = 0 := by
  rw [← UInt32.toNat_inj, toNat_and_fifteen, UInt64.toNat_toUInt32,
    maxFrameNum]
  change frameIndex.toNat % 4294967296 % 16 = 0
  omega

theorem succ_and_fifteen (frameIndex : UInt64) :
    ((frameIndex + 1).toUInt32 &&& 0xF).toNat =
      ((frameIndex.toUInt32 &&& 0xF).toNat + 1) % maxFrameNum := by
  rw [toNat_and_fifteen, toNat_and_fifteen, UInt64.toUInt32_add,
    UInt32.toNat_add, maxFrameNum]
  change (frameIndex.toUInt32.toNat + 1) % 4294967296 % 16 =
    (frameIndex.toUInt32.toNat % 16 + 1) % 16
  omega

end H264

/-! ## Sessions -/

abbrev H264Session := Session Unit H264Picture

/-- A P picture refers to the picture before it as that was recorded, and is
counted one further. -/
def H264.Follows (last picture : H264Picture) : Prop :=
  picture.referenceSlot = some last.setupReferenceSlot ∧
    picture.refPicList0 = UInt8.ofNat last.setupReferenceSlot.slotIndex ∧
    picture.frameNum.toNat =
      (last.setupReferenceSlot.frameNum.toNat + 1) % H264.maxFrameNum ∧
    picture.setupReferenceSlot.slotIndex ≠ last.setupReferenceSlot.slotIndex

/-- The references and counts of a frame, given the picture before it. -/
def H264.Referenced (parameterSetsBlob : List UInt8)
    (previous : Option H264Picture) (frame : EncodedFrame)
    (picture : H264Picture) : Prop :=
  (frame.kind = .p → ∃ last ∈ previous, H264.Follows last picture) ∧
    (frame.kind = .idr → picture.frameNum = 0 ∧ picture.picOrderCnt = 0 ∧
      frame.parameterSets = some parameterSetsBlob)

instance (last picture : H264Picture) :
    Decidable (H264.Follows last picture) :=
  inferInstanceAs (Decidable (_ ∧ _))

instance (parameterSetsBlob : List UInt8) (previous : Option H264Picture)
    (frame : EncodedFrame) (picture : H264Picture) :
    Decidable (H264.Referenced parameterSetsBlob previous frame picture) :=
  inferInstanceAs (Decidable ((_ → _) ∧ _))

namespace H264Session

/-- What the call encoded is referenced as it should be. -/
def Referenced (parameterSetsBlob : List UInt8)
    (before : H264Session) (_ : EncoderCall) (after : H264Session) : Prop :=
  Session.AllNew (H264.Referenced parameterSetsBlob before.previous) before
    after

/-- A keyframe is encoded only where the running counts stand at zero. -/
def RestartsAtZero (session : H264Session) (call : EncoderCall) : Prop :=
  session.Encodes true call →
    session.encoder.frameIndex.toNat % 2147483648 = 0

/-- What is recorded agrees with the running frame index. -/
structure Consistent (parameterSetsBlob : List UInt8)
    (session : H264Session) : Prop where
  blob : session.encoder.parameterSetsBlob = parameterSetsBlob
  first : session.previous = none → session.encoder.frameIndex = 0
  recorded : ∀ last, session.previous = some last →
    ∃ index, session.encoder.frameIndex = index + 1 ∧
      session.encoder.priorRefSlot =
        some last.setupReferenceSlot.slotIndex ∧
      last.setupReferenceSlot.frameNum = index.toUInt32 &&& 0xF ∧
      last.setupReferenceSlot.picOrderCnt = asI32 index * 2

theorem consistent_start (params : EncodeParams)
    (parameterSetsBlob : List UInt8) :
    Consistent parameterSetsBlob (.start params parameterSetsBlob ()) where
  blob := rfl
  first := fun _ => rfl
  recorded := by
    intro last impossible
    cases impossible

section Steps

variable {profile : Profile} {parameterSetsBlob : List UInt8}
variable {before after : H264Session} {call : EncoderCall}
variable {frame : EncodedFrame} {picture : H264Picture}

theorem Consistent.of_skipped
    (consistent : Consistent parameterSetsBlob before)
    (skipped : Session.Skipped before after) :
    Consistent parameterSetsBlob after := by
  have same := skipped.previous
  constructor
  · rw [skipped.blob, consistent.blob]
  · rw [same, skipped.frameIndex]
    exact consistent.first
  · rw [same, skipped.frameIndex, skipped.priorRefSlot]
    exact consistent.recorded

/-- A keyframe at such an index records what the running counts give. -/
theorem Consistent.of_encoded
    (consistent : Consistent parameterSetsBlob before)
    (encoded : Session.Encoded H264.backend profile before after frame
      picture)
    (restarts : before.encoder.isKey = true →
      before.encoder.frameIndex.toNat % 2147483648 = 0) :
    Consistent parameterSetsBlob after := by
  have declares := H264.declares_of_declare encoded.declares
  constructor
  · rw [encoded.blob, consistent.blob]
  · rw [encoded.previous]
    intro impossible
    cases impossible
  · intro last same
    rw [encoded.previous] at same
    injection same with same
    subst same
    refine ⟨before.encoder.frameIndex, encoded.frameIndex, ?_, ?_, ?_⟩
    · rw [encoded.priorRefSlot, declares.setup]
    · rw [declares.setup]
      change picture.frameNum = _
      rw [declares.frameNum]
      cases key : before.encoder.isKey with
      | false => rfl
      | true => exact (H264.and_fifteen_eq_zero (restarts key)).symm
    · rw [declares.setup]
      exact declares.picOrderCnt

/-- A P frame is referenced as it should be, from any consistent state. -/
theorem Consistent.predicted
    (consistent : Consistent parameterSetsBlob before)
    (encoded : Session.Encoded H264.backend profile before after frame
      picture) (inter : before.encoder.isKey = false) :
    H264.Referenced parameterSetsBlob before.previous frame picture := by
  have declares := H264.declares_of_declare encoded.declares
  have notFirst : before.encoder.frameIndex ≠ 0 := by
    intro zero
    rw [VideoEncoder.isKey, zero] at inter
    cases inter
  have kind : frame.kind = .p := by
    rw [encoded.kind, inter]
    rfl
  constructor
  · intro _
    cases recent : before.previous with
    | none => exact absurd (consistent.first recent) notFirst
    | some last =>
        obtain ⟨index, indexEq, prior, frameNum, picOrderCnt⟩ :=
          consistent.recorded last recent
        have referred : before.encoder.refSlot =
            some last.setupReferenceSlot.slotIndex := by
          rw [VideoEncoder.refSlot, inter, prior]
          rfl
        refine ⟨last, rfl, ?_, declares.list _ referred, ?_, ?_⟩
        · rw [declares.reference, referred, indexEq, asI32_succ_sub_one,
            ← picOrderCnt, UInt64.toUInt32_add]
          change some (H264SlotInfo.mk _ (index.toUInt32 + 1 - 1 &&& 0xF) _) =
            _
          rw [UInt32.add_sub_cancel, ← frameNum]
        · rw [declares.frameNum, inter, indexEq, frameNum]
          exact H264.succ_and_fifteen index
        · rw [declares.setup]
          exact setupSlot_ne_refSlot referred
  · intro restarted
    rw [kind] at restarted
    cases restarted

/-- A keyframe starts its counts at zero exactly where the running counts
stand at zero. -/
theorem Consistent.restarted_iff
    (consistent : Consistent parameterSetsBlob before)
    (encoded : Session.Encoded H264.backend profile before after frame
      picture) (key : before.encoder.isKey = true) :
    H264.Referenced parameterSetsBlob before.previous frame picture ↔
      before.encoder.frameIndex.toNat % 2147483648 = 0 := by
  have declares := H264.declares_of_declare encoded.declares
  have kind : frame.kind = .idr := by
    rw [encoded.kind, key]
    rfl
  rw [← H264.asI32_mul_two_eq_zero_iff, ← declares.picOrderCnt]
  constructor
  · intro referenced
    exact (referenced.2 kind).2.1
  · intro zero
    constructor
    · intro predicted
      rw [kind] at predicted
      cases predicted
    · intro _
      refine ⟨?_, zero, ?_⟩
      · rw [declares.frameNum, key]
        rfl
      · rw [encoded.parameterSets, key, consistent.blob]
        rfl

end Steps

/-! ## Whole sessions -/

/-- In a session whose GPU operations succeed, every frame has the
references and counts it should have if and only if keyframes are encoded
only at frame indices divisible by `2 ^ 31`, such as the first. -/
theorem referenced_iff_restartsAtZero {profile : Profile}
    {params : EncodeParams} {parameterSetsBlob : List UInt8}
    {calls : List EncoderCall} {last : H264Session} :
    Run (fun before call after =>
        Session.Step H264.backend profile before call after ∧
          RestartsAtZero before call)
        (.start params parameterSetsBlob ()) calls last ↔
      Run (fun before call after =>
        Session.Step H264.backend profile before call after ∧
          Referenced parameterSetsBlob before call after)
        (.start params parameterSetsBlob ()) calls last := by
  refine run_restrict_iff ?_ ?_
    (consistent_start params parameterSetsBlob)
  · intro before call after stepped consistent restarts
    rcases Session.step_cases stepped with
      ⟨_, skipped⟩ | ⟨encodes, frame, picture, encoded⟩
    · exact ⟨consistent.of_skipped skipped, skipped.allNew⟩
    · have atZero : before.encoder.isKey = true →
          before.encoder.frameIndex.toNat % 2147483648 = 0 := by
        intro key
        rw [key] at encodes
        exact restarts encodes
      refine ⟨consistent.of_encoded encoded atZero, ?_⟩
      rw [Referenced, encoded.allNew_iff]
      cases key : before.encoder.isKey with
      | false => exact consistent.predicted encoded key
      | true => exact (consistent.restarted_iff encoded key).mpr (atZero key)
  · intro before call after stepped consistent referenced key
    rcases Session.step_cases stepped with
      ⟨none, _⟩ | ⟨encodes, frame, picture, encoded⟩
    · exact absurd key (none true)
    · have isKey := Session.isKey_of_encodes key
      exact (consistent.restarted_iff encoded isKey).mp
        (encoded.allNew_iff.mp referenced)

instance (parameterSetsBlob : List UInt8) (before : H264Session)
    (call : EncoderCall) (after : H264Session) :
    Decidable (Referenced parameterSetsBlob before call after) :=
  inferInstanceAs (Decidable (Session.AllNew _ before after))

/-- The keyframe has the picture order count 4, and the frame after it
refers to `FrameNum` 2, where 0 was recorded. -/
theorem not_referenced_forcedKeyframe :
    ¬ ∀ (profile : Profile) (params : EncodeParams)
        (parameterSetsBlob : List UInt8) (calls : List EncoderCall)
        (last : H264Session),
      Run (Session.Step H264.backend profile)
          (.start params parameterSetsBlob ()) calls last →
        Run (fun before call after =>
          Session.Step H264.backend profile before call after ∧
            Referenced parameterSetsBlob before call after)
          (.start params parameterSetsBlob ()) calls last := by
  intro all
  obtain ⟨last, reached⟩ : ∃ last,
      EncoderCall.forcedKeyframe.foldlM (fun before call =>
        (Session.perform H264.backend .release before call).filter
          fun _ => decide call.GpuSucceeds)
        (.start ⟨64, 64⟩ [] ()) = some last :=
    Option.isSome_iff_exists.mp (by decide +kernel)
  have safe := all .release ⟨64, 64⟩ [] _ last
    (run_iff_foldlM_filtered.mpr reached)
  simp only [and_assoc] at safe
  have continued := run_iff_foldlM_filtered.mp safe
  have stopped : EncoderCall.forcedKeyframe.foldlM (fun before call =>
      (Session.perform H264.backend .release before call).filter
        fun after => decide (call.GpuSucceeds ∧
          Referenced [] before call after))
      (.start ⟨64, 64⟩ [] ()) = none := by
    decide +kernel
  rw [stopped] at continued
  cases continued

end H264Session

end RemoteWay.Encode
