import RemoteWay.Base.ResidueExpansion
import RemoteWay.Encode.Encoder

/-!
# Picture order counts of the H.265 backend

The backend counts pictures from the first one on, while a decoder starts
again at every IDR picture and receives only eight bits of the count.  The
two agree on the reference of a P picture as long as the backend's count of
the last IDR picture is a multiple of 256.
-/

namespace RemoteWay.Encode

open RemoteWay.Base

/-! ## What is declared -/

/-- A DPB slot with its `StdVideoEncodeH265ReferenceInfo`. -/
structure H265SlotInfo where
  slotIndex : Nat
  picOrderCntVal : Int32
  deriving DecidableEq, Repr

/-- What `encode` declares for a picture.  `refPicList0` is the first entry
of the list; the others are unused. -/
structure H265Picture where
  irapPicFlag : Bool
  shortTermRefPicSetSpsFlag : Bool
  picOrderCntVal : Int32
  refPicList0 : UInt8
  setupReferenceSlot : H265SlotInfo
  referenceSlot : Option H265SlotInfo
  deriving DecidableEq, Repr

structure H265ShortTermRefPicSet where
  numNegativePics : Nat
  numPositivePics : Nat
  deltaPocS0Minus1 : List Nat
  deriving DecidableEq, Repr

/-- The fields of the sequence parameter set that rule the counts. -/
structure H265SequenceParameterSet where
  log2MaxPicOrderCntLsbMinus4 : Nat
  shortTermRefPicSet : H265ShortTermRefPicSet
  deriving DecidableEq, Repr

namespace H265

/-- There is a single reference picture set: one negative delta-POC, the
picture before. -/
def buildSps : H265SequenceParameterSet where
  log2MaxPicOrderCntLsbMinus4 := 4
  shortTermRefPicSet :=
    { numNegativePics := 1
      numPositivePics := 0
      deltaPocS0Minus1 := List.replicate 16 0 }

def referenceSlotInfo (profile : Profile) (encoder : VideoEncoder Unit) :
    Exec (Option H265SlotInfo) :=
  match encoder.refSlot with
  | none => return none
  | some prev => do
      let previous ← i32Sub profile (asI32 encoder.frameIndex) 1
      return some ⟨prev, previous⟩

def declare (profile : Profile) (encoder : VideoEncoder Unit) :
    Exec H265Picture := do
  let picOrderCnt := asI32 encoder.frameIndex
  let referenceSlot ← referenceSlotInfo profile encoder
  let picture : H265Picture :=
    { irapPicFlag := encoder.isKey
      shortTermRefPicSetSpsFlag := !encoder.isKey
      picOrderCntVal := picOrderCnt
      refPicList0 :=
        match encoder.refSlot with
        | none => 0xFF
        | some prev => UInt8.ofNat prev
      setupReferenceSlot := ⟨encoder.setupSlot, picOrderCnt⟩
      referenceSlot := referenceSlot }
  return picture

def backend : Backend Unit H265Picture where
  declare := declare
  advance := id
  frameBitstream := id

/-- What is declared, up to overflows. -/
structure Declares (encoder : VideoEncoder Unit) (picture : H265Picture) :
    Prop where
  irapPicFlag : picture.irapPicFlag = encoder.isKey
  picOrderCntVal : picture.picOrderCntVal = asI32 encoder.frameIndex
  setup : picture.setupReferenceSlot =
    ⟨encoder.setupSlot, asI32 encoder.frameIndex⟩
  reference : picture.referenceSlot = encoder.refSlot.map fun prev =>
    ⟨prev, asI32 encoder.frameIndex - 1⟩

theorem declares_of_declare {profile : Profile}
    {encoder : VideoEncoder Unit} {picture : H265Picture}
    (done : declare profile encoder = .ok picture) :
    Declares encoder picture := by
  rw [declare, bind_eq_ok_iff] at done
  obtain ⟨reference, described, done⟩ := done
  injection done with same
  subst same
  refine ⟨rfl, rfl, rfl, ?_⟩
  rw [referenceSlotInfo] at described
  cases referred : encoder.refSlot with
  | none =>
      rw [referred] at described
      injection described with same
      exact same.symm
  | some prev =>
      rw [referred] at described
      dsimp only at described
      rw [bind_eq_ok_iff] at described
      obtain ⟨previous, subtracted, described⟩ := described
      injection described with same
      rw [Option.map_some, i32Sub_eq_ok subtracted]
      exact same.symm

end H265

/-! ## The decoder -/

/-- The count of the last picture, and the held pictures with their counts.
A picture is known by its number in the stream. -/
structure H265Decoder where
  previousPoc : Int
  dpb : List (Int × Nat)
  deriving DecidableEq, Repr

namespace H265Decoder

/-- The period of the transmitted count, `MaxPicOrderCntLsb`. -/
def maxPicOrderCntLsb : Int :=
  2 ^ (H265.buildSps.log2MaxPicOrderCntLsbMinus4 + 4)

/-- The count of a picture, which restarts at an IDR picture. -/
def poc (decoder : H265Decoder) (picture : H265Picture) : Int :=
  if picture.irapPicFlag then
    0
  else
    expandResidue maxPicOrderCntLsb decoder.previousPoc
      (picture.picOrderCntVal.toInt % maxPicOrderCntLsb)

/-- The count of the picture that the reference picture set names. -/
def referencePoc (decoder : H265Decoder) (picture : H265Picture) : Int :=
  decoder.poc picture -
    (H265.buildSps.shortTermRefPicSet.deltaPocS0Minus1.getD 0 0 + 1)

/-- The held picture that the reference picture set names. -/
def reference (decoder : H265Decoder) (picture : H265Picture) :
    Option Nat :=
  (decoder.dpb.find? fun held =>
    held.1 == decoder.referencePoc picture).map Prod.snd

/-- An IDR picture empties the DPB; any other keeps the pictures of its
reference picture set. -/
def decode (decoder : H265Decoder) (picture : H265Picture) (number : Nat) :
    H265Decoder where
  previousPoc := decoder.poc picture
  dpb :=
    (if picture.irapPicFlag then []
      else decoder.dpb.filter fun held =>
        held.1 == decoder.referencePoc picture) ++
      [(decoder.poc picture, number)]

end H265Decoder

/-! ## What the decoder refers to -/

namespace H265Decoder

variable {decoder : H265Decoder} {picture : H265Picture} {number : Nat}

theorem maxPicOrderCntLsb_eq : maxPicOrderCntLsb = 256 := by decide

/-- The picture decoded last is found by a transmitted count one further. -/
theorem reference_of_next (inter : picture.irapPicFlag = false)
    (found : (decoder.dpb.find? fun held =>
      held.1 == decoder.previousPoc) = some (decoder.previousPoc, number))
    (transmitted : picture.picOrderCntVal.toInt % maxPicOrderCntLsb =
      (decoder.previousPoc + 1) % maxPicOrderCntLsb) :
    decoder.reference picture = some number := by
  have named : decoder.referencePoc picture = decoder.previousPoc := by
    rw [referencePoc, poc, inter, transmitted]
    change expandResidue _ _ _ - 1 = _
    rw [expandResidue_succ _ (by decide)]
    omega
  rw [reference, named, found]
  rfl

/-- After an IDR picture only the count 1 refers to a held picture. -/
theorem transmitted_of_reference (inter : picture.irapPicFlag = false)
    (restarted : ∃ only, decoder = ⟨0, [(0, only)]⟩)
    (referred : decoder.reference picture = some number) :
    picture.picOrderCntVal.toInt % maxPicOrderCntLsb = 1 := by
  obtain ⟨only, rfl⟩ := restarted
  have nonneg : 0 ≤ picture.picOrderCntVal.toInt % maxPicOrderCntLsb :=
    Int.emod_nonneg _ (by decide)
  have small : picture.picOrderCntVal.toInt % maxPicOrderCntLsb <
      maxPicOrderCntLsb :=
    Int.emod_lt_of_pos _ (by decide)
  rw [reference, Option.map_eq_some_iff] at referred
  obtain ⟨held, found, _⟩ := referred
  have member := List.mem_of_find?_eq_some found
  have named := List.find?_some found
  rw [List.mem_singleton.mp member, beq_iff_eq, referencePoc, poc, inter]
    at named
  change (0 : Int) = expandResidue maxPicOrderCntLsb 0 _ - 1 at named
  have next : expandResidue maxPicOrderCntLsb 0
      (picture.picOrderCntVal.toInt % maxPicOrderCntLsb) = 0 + 1 := by
    omega
  rw [(expandResidue_eq_succ_iff (by decide) nonneg small).mp next]
  rfl

end H265Decoder

/-! ## The stream -/

/-- What the pictures so far left: their number, for each slot of the
encoder the last picture set up there with the count it was given, and the
decoder. -/
structure H265Stream where
  count : Nat
  slots : Nat → Option (Nat × Int32)
  decoder : H265Decoder

namespace H265Stream

def start : H265Stream := ⟨0, fun _ => none, ⟨0, []⟩⟩

def next (stream : H265Stream) (picture : H265Picture) : H265Stream where
  count := stream.count + 1
  slots := fun slot =>
    if slot = picture.setupReferenceSlot.slotIndex then
      some (stream.count, picture.setupReferenceSlot.picOrderCntVal)
    else
      stream.slots slot
  decoder := stream.decoder.decode picture stream.count

/-- The last picture was set up in the given slot under the given count, and
the decoder holds the same picture under its own count. -/
structure Holds (stream : H265Stream) (slot : Nat) (declared : Int32)
    (number : Nat) : Prop where
  slot_eq : stream.slots slot = some (number, declared)
  found : (stream.decoder.dpb.find? fun held =>
    held.1 == stream.decoder.previousPoc) =
      some (stream.decoder.previousPoc, number)

/-- The decoder holds nothing but an IDR picture. -/
def Restarted (stream : H265Stream) : Prop :=
  ∃ number, stream.decoder = ⟨0, [(0, number)]⟩

theorem holds_next (stream : H265Stream) (picture : H265Picture) :
    (stream.next picture).Holds picture.setupReferenceSlot.slotIndex
      picture.setupReferenceSlot.picOrderCntVal stream.count := by
  constructor
  · simp [next]
  · cases restarted : picture.irapPicFlag with
    | true => simp [next, H265Decoder.decode, restarted]
    | false =>
        have earlier : ((stream.decoder.dpb.filter fun held =>
            held.1 == stream.decoder.referencePoc picture).find? fun held =>
              held.1 == stream.decoder.poc picture) = none := by
          rw [List.find?_eq_none]
          intro held member same
          have one : stream.decoder.referencePoc picture =
              stream.decoder.poc picture - 1 := rfl
          have kept := (List.mem_filter.mp member).2
          rw [beq_iff_eq] at kept same
          omega
        simp only [next, H265Decoder.decode, restarted]
        simp [earlier]

theorem restarted_next {stream : H265Stream} {picture : H265Picture}
    (irap : picture.irapPicFlag = true) : (stream.next picture).Restarted :=
  ⟨stream.count, by
    simp [next, H265Decoder.decode, H265Decoder.poc, irap]⟩

end H265Stream

/-! ## Sessions -/

abbrev H265Session := Session Unit H265Picture

namespace H265Session

/-- What the pictures of the session left. -/
def stream (session : H265Session) : H265Stream :=
  session.encoded.foldl (fun stream new => stream.next new.2) .start

/-- The decoder refers to the picture that the encoder used, in the slot
`prior_ref_slot`, and the encoder declares the count it gave to that. -/
def AgreesOn (session : H265Session) (frame : EncodedFrame)
    (picture : H265Picture) : Prop :=
  frame.kind = .p →
    ∃ slot ∈ session.encoder.priorRefSlot,
      ∃ used ∈ session.stream.slots slot,
        session.stream.decoder.reference picture = some used.1 ∧
          picture.referenceSlot = some ⟨slot, used.2⟩

instance (session : H265Session) (frame : EncodedFrame)
    (picture : H265Picture) : Decidable (session.AgreesOn frame picture) :=
  inferInstanceAs (Decidable (_ → _))

def Agrees (before : H265Session) (_ : EncoderCall) (after : H265Session) :
    Prop :=
  Session.AllNew before.AgreesOn before after

instance (before : H265Session) (call : EncoderCall)
    (after : H265Session) : Decidable (Agrees before call after) :=
  inferInstanceAs (Decidable (Session.AllNew _ before after))

/-- A P frame directly after an IDR frame is encoded one past a multiple of
256. -/
def LeavesInStep (session : H265Session) (call : EncoderCall) : Prop :=
  session.Encodes false call →
    ∀ last ∈ session.previous, last.irapPicFlag = true →
      session.encoder.frameIndex.toNat % 256 = 1

instance (session : H265Session) (call : EncoderCall) :
    Decidable (session.LeavesInStep call) :=
  inferInstanceAs (Decidable (_ → _))

/-- What is recorded agrees with the running frame index, and the decoder's
count does after a P picture. -/
structure Consistent (session : H265Session) : Prop where
  first : session.previous = none → session.encoder.frameIndex = 0
  recorded : ∀ last ∈ session.previous, ∃ index number,
    session.encoder.frameIndex = index + 1 ∧
      session.encoder.priorRefSlot =
        some last.setupReferenceSlot.slotIndex ∧
      session.stream.Holds last.setupReferenceSlot.slotIndex (asI32 index)
        number ∧
      if last.irapPicFlag then session.stream.Restarted
      else session.stream.decoder.previousPoc % 256 =
        index.toNat % 256

theorem consistent_start (params : EncodeParams)
    (parameterSetsBlob : List UInt8) :
    Consistent (.start params parameterSetsBlob ()) where
  first := fun _ => rfl
  recorded := by
    intro last impossible
    cases impossible

section Steps

variable {profile : Profile} {before after : H265Session}
variable {frame : EncodedFrame} {picture : H265Picture}

theorem stream_of_encoded
    (encoded : Session.Encoded H265.backend profile before after frame
      picture) : after.stream = before.stream.next picture := by
  rw [stream, encoded.appended, List.foldl_concat]
  rfl

theorem Consistent.of_skipped (consistent : Consistent before)
    (skipped : Session.Skipped before after) : Consistent after := by
  have same := skipped.previous
  have sameStream : after.stream = before.stream := by
    rw [stream, skipped.encoded, stream]
  constructor
  · rw [same, skipped.frameIndex]
    exact consistent.first
  · rw [same, skipped.frameIndex, skipped.priorRefSlot, sameStream]
    exact consistent.recorded

/-- The transmitted count is the frame index modulo 256. -/
theorem transmitted_eq (frameIndex : UInt64) :
    (asI32 frameIndex).toInt % H265Decoder.maxPicOrderCntLsb =
      frameIndex.toNat % 256 := by
  rw [toInt_asI32, Int.bmod_def]
  rw [H265Decoder.maxPicOrderCntLsb_eq]
  split <;> omega

/-- In a consistent session a P frame agrees exactly if it leaves an IDR
frame in step. -/
theorem Consistent.agreesOn_iff (consistent : Consistent before)
    (encoded : Session.Encoded H265.backend profile before after frame
      picture) (inter : before.encoder.isKey = false) :
    before.AgreesOn frame picture ↔
      ∀ last ∈ before.previous, last.irapPicFlag = true →
        before.encoder.frameIndex.toNat % 256 = 1 := by
  have declares := H265.declares_of_declare encoded.declares
  have notFirst : before.encoder.frameIndex ≠ 0 := by
    intro zero
    rw [VideoEncoder.isKey, zero] at inter
    cases inter
  have kind : frame.kind = .p := by
    rw [encoded.kind, inter]
    rfl
  have noIrap : picture.irapPicFlag = false := by
    rw [declares.irapPicFlag, inter]
  have transmitted : picture.picOrderCntVal.toInt %
      H265Decoder.maxPicOrderCntLsb =
        before.encoder.frameIndex.toNat % 256 := by
    rw [declares.picOrderCntVal, transmitted_eq]
  cases recent : before.previous with
  | none => exact absurd (consistent.first recent) notFirst
  | some last =>
      obtain ⟨index, number, indexEq, prior, holds, counts⟩ :=
        consistent.recorded last recent
      have referred : picture.referenceSlot =
          some ⟨last.setupReferenceSlot.slotIndex, asI32 index⟩ := by
        rw [declares.reference, VideoEncoder.refSlot, inter, prior, indexEq]
        simp
      have successor : before.encoder.frameIndex.toNat % 256 =
          (index.toNat % 256 + 1) % 256 := by
        rw [indexEq, UInt64.toNat_add]
        change (index.toNat + 1) % 18446744073709551616 % 256 = _
        omega
      constructor
      · intro agrees recent' same irap
        injection same with same
        subst same
        rw [if_pos irap] at counts
        obtain ⟨slot, slotMember, used, usedMember, reference, _⟩ :=
          agrees kind
        have one := H265Decoder.transmitted_of_reference noIrap counts
          reference
        omega
      · intro inStep _
        refine ⟨_, prior, _, holds.slot_eq, ?_, referred⟩
        apply H265Decoder.reference_of_next noIrap holds.found
        rw [transmitted, H265Decoder.maxPicOrderCntLsb_eq]
        by_cases irap : last.irapPicFlag = true
        · have one := inStep last rfl irap
          rw [if_pos irap] at counts
          obtain ⟨only, restarted⟩ := counts
          rw [restarted]
          change _ = ((0 : Int) + 1) % 256
          omega
        · rw [if_neg irap] at counts
          omega

/-- An encoded frame leaves the session consistent. -/
theorem consistent_of_encoded
    (encoded : Session.Encoded H265.backend profile before after frame
      picture) : Consistent after := by
  have declares := H265.declares_of_declare encoded.declares
  constructor
  · rw [encoded.previous]
    intro impossible
    cases impossible
  · intro last same
    rw [encoded.previous] at same
    injection same with same
    subst same
    have holds := before.stream.holds_next picture
    rw [declares.setup] at holds
    refine ⟨before.encoder.frameIndex, before.stream.count,
      encoded.frameIndex, ?_, ?_, ?_⟩
    · rw [encoded.priorRefSlot, declares.setup]
    · rw [stream_of_encoded encoded, declares.setup]
      exact holds
    · rw [stream_of_encoded encoded]
      cases key : before.encoder.isKey with
      | true =>
          have irap : picture.irapPicFlag = true := by
            rw [declares.irapPicFlag, key]
          rw [if_pos irap]
          exact H265Stream.restarted_next irap
      | false =>
          have inter : picture.irapPicFlag = false := by
            rw [declares.irapPicFlag, key]
          rw [if_neg (by rw [inter]; decide)]
          change before.stream.decoder.poc picture % 256 = _
          rw [H265Decoder.poc, inter, declares.picOrderCntVal,
            transmitted_eq, H265Decoder.maxPicOrderCntLsb_eq]
          exact expandResidue_emod _ (by omega) (by omega)

end Steps

/-! ## Whole sessions -/

/-- In a session whose GPU operations succeed, the decoder refers to the
encoder's reference at every P frame if and only if every P frame that comes
directly after an IDR frame is encoded one past a multiple of 256. -/
theorem agrees_iff_leavesInStep {profile : Profile} {params : EncodeParams}
    {parameterSetsBlob : List UInt8} {calls : List EncoderCall}
    {last : H265Session} :
    Run (fun before call after =>
        Session.Step H265.backend profile before call after ∧
          LeavesInStep before call)
        (.start params parameterSetsBlob ()) calls last ↔
      Run (fun before call after =>
        Session.Step H265.backend profile before call after ∧
          Agrees before call after)
        (.start params parameterSetsBlob ()) calls last := by
  refine run_restrict_iff ?_ ?_
    (consistent_start params parameterSetsBlob)
  · intro before call after stepped consistent inStep
    rcases Session.step_cases stepped with
      ⟨_, skipped⟩ | ⟨encodes, frame, picture, encoded⟩
    · exact ⟨consistent.of_skipped skipped, skipped.allNew⟩
    · have agrees : H265Session.AgreesOn before frame picture := by
        cases key : before.encoder.isKey with
        | true =>
            intro predicted
            rw [encoded.kind, key] at predicted
            cases predicted
        | false =>
            rw [key] at encodes
            exact (consistent.agreesOn_iff encoded key).mpr (inStep encodes)
      refine ⟨consistent_of_encoded encoded, ?_⟩
      rw [Agrees, encoded.allNew_iff]
      exact agrees
  · intro before call after stepped consistent agrees encodesP
    rcases Session.step_cases stepped with
      ⟨none, _⟩ | ⟨encodes, frame, picture, encoded⟩
    · exact absurd encodesP (none false)
    · have inter := Session.isKey_of_encodes encodesP
      rw [Agrees, encoded.allNew_iff] at agrees
      exact (consistent.agreesOn_iff encoded inter).mp agrees

/-- The keyframe has the count 2, and the frame after it arrives with the
count 3 at a decoder that holds only the count 0. -/
theorem not_agrees_forcedKeyframe :
    ¬ ∀ (profile : Profile) (params : EncodeParams)
        (parameterSetsBlob : List UInt8) (calls : List EncoderCall)
        (last : H265Session),
      Run (Session.Step H265.backend profile)
          (.start params parameterSetsBlob ()) calls last →
        Run (fun before call after =>
          Session.Step H265.backend profile before call after ∧
            Agrees before call after)
          (.start params parameterSetsBlob ()) calls last := by
  intro all
  obtain ⟨last, reached⟩ : ∃ last,
      EncoderCall.forcedKeyframe.foldlM (fun before call =>
        (Session.perform H265.backend .release before call).filter
          fun _ => decide call.GpuSucceeds)
        (.start ⟨64, 64⟩ [] ()) = some last :=
    Option.isSome_iff_exists.mp (by decide +kernel)
  have agreed := all .release ⟨64, 64⟩ [] _ last
    (run_iff_foldlM_filtered.mpr reached)
  simp only [and_assoc] at agreed
  have continued := run_iff_foldlM_filtered.mp agreed
  have stopped : EncoderCall.forcedKeyframe.foldlM (fun before call =>
      (Session.perform H265.backend .release before call).filter
        fun after => decide (call.GpuSucceeds ∧ Agrees before call after))
      (.start ⟨64, 64⟩ [] ()) = none := by
    decide +kernel
  rw [stopped] at continued
  cases continued

end H265Session

end RemoteWay.Encode
