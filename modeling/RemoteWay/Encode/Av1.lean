import RemoteWay.Encode.Encoder

/-!
# Saved frames of the AV1 backend

A decoder keeps eight saved frames, all of which a KEY frame replaces and of
which an INTER frame replaces the first.  The backend refers to the first
only, and declares the order hint 0 for the others, which hold the last KEY
frame.
-/

namespace RemoteWay.Encode

open RemoteWay.Base

/-! ## What is declared -/

/-- A DPB slot with its `StdVideoEncodeAV1ReferenceInfo`. -/
structure Av1SlotInfo where
  slotIndex : Nat
  orderHint : UInt8
  deriving DecidableEq, Repr

inductive Av1FrameType where
  | key
  | inter
  deriving DecidableEq, Repr

/-- What `encode` declares for a picture. -/
structure Av1Picture where
  frameType : Av1FrameType
  orderHint : UInt8
  primaryRefFrame : UInt8
  refreshFrameFlags : UInt8
  refOrderHint : List UInt8
  refFrameIdx : List Nat
  referenceNameSlotIndices : List Int
  setupReferenceSlot : Av1SlotInfo
  referenceSlot : Option Av1SlotInfo
  deriving DecidableEq, Repr

namespace Av1

def primaryRefNone : UInt8 := 7

/-- The index of `LAST_FRAME` among the seven reference names. -/
def refNameLastFrame : Nat := 0

def refreshLastFrameOnly : UInt8 := 0x01

def declare (encoder : VideoEncoder UInt8) : Av1Picture where
  frameType := if encoder.isKey then .key else .inter
  orderHint := encoder.counter
  primaryRefFrame := if encoder.isKey then primaryRefNone else 0
  refreshFrameFlags := if encoder.isKey then 0xFF else refreshLastFrameOnly
  refOrderHint :=
    if encoder.refSlot.isSome then
      (List.replicate 8 0).set 0 (encoder.counter - 1)
    else
      List.replicate 8 0
  refFrameIdx := List.replicate 7 0
  referenceNameSlotIndices :=
    match encoder.refSlot with
    | none => List.replicate 7 (-1)
    | some prev => (List.replicate 7 (-1)).set refNameLastFrame prev
  setupReferenceSlot := ⟨encoder.setupSlot, encoder.counter⟩
  referenceSlot := encoder.refSlot.map fun prev =>
    ⟨prev, encoder.counter - 1⟩

/-- The frame OBUs follow a temporal delimiter. -/
def frameBitstream (bitstream : List UInt8) : List UInt8 :=
  [0x12, 0x00] ++ bitstream

/-- The backend's own counter is the order hint, which wraps at 256. -/
def backend : Backend UInt8 Av1Picture where
  declare := fun _ encoder => .ok (declare encoder)
  advance := fun orderHint => orderHint + 1
  frameBitstream := frameBitstream

end Av1

/-! ## The decoder -/

/-- What the pictures so far left: their number, for each DPB slot of the
encoder the last picture set up there with the order hint it was given, and
the saved frames of the decoder with their order hints. -/
structure Av1Stream where
  count : Nat
  slots : Nat → Option (Nat × UInt8)
  saved : Nat → Option (Nat × UInt8)

namespace Av1Stream

def start : Av1Stream := ⟨0, fun _ => none, fun _ => none⟩

/-- A picture replaces the saved frames that its refresh flags name. -/
def next (stream : Av1Stream) (picture : Av1Picture) : Av1Stream where
  count := stream.count + 1
  slots := fun slot =>
    if slot = picture.setupReferenceSlot.slotIndex then
      some (stream.count, picture.setupReferenceSlot.orderHint)
    else
      stream.slots slot
  saved := fun index =>
    if picture.refreshFrameFlags.toNat.testBit index then
      some (stream.count, picture.orderHint)
    else
      stream.saved index

/-- The frame that `ref_frame_idx` names for `LAST_FRAME` is the picture in
the DPB slot that is referred to, with the order hint declared for it; the
DPB slot set up is another. -/
def LastFrameMatches (stream : Av1Stream) (picture : Av1Picture) : Prop :=
  ∃ reference ∈ picture.referenceSlot,
    ∃ used ∈ stream.slots reference.slotIndex,
      picture.referenceNameSlotIndices[Av1.refNameLastFrame]? =
          some (reference.slotIndex : Int) ∧
        stream.saved (picture.refFrameIdx.getD Av1.refNameLastFrame 0) =
          some used ∧
        reference.orderHint = used.2 ∧
        picture.setupReferenceSlot.slotIndex ≠ reference.slotIndex

/-- The order hint declared for a saved frame is that frame's. -/
def HintMatches (stream : Av1Stream) (picture : Av1Picture) (index : Nat) :
    Prop :=
  ∃ held ∈ stream.saved index, picture.refOrderHint[index]? = some held.2

instance (stream : Av1Stream) (picture : Av1Picture) :
    Decidable (stream.LastFrameMatches picture) :=
  inferInstanceAs (Decidable (∃ _ ∈ _, _))

instance (stream : Av1Stream) (picture : Av1Picture) (index : Nat) :
    Decidable (stream.HintMatches picture index) :=
  inferInstanceAs (Decidable (∃ _ ∈ _, _))

end Av1Stream

/-! ## Sessions -/

abbrev Av1Session := Session UInt8 Av1Picture

namespace Av1Session

/-- What the pictures of the session left. -/
def stream (session : Av1Session) : Av1Stream :=
  session.encoded.foldl (fun stream new => stream.next new.2) .start

/-- The KEY picture encoded last. -/
def lastKey (session : Av1Session) : Option Av1Picture :=
  (session.encoded.map Prod.snd).reverse.find? fun picture =>
    picture.frameType == .key

/-- All eight order hints and the reference of an INTER frame match the
decoder's saved frames. -/
def MatchesAll (session : Av1Session) (frame : EncodedFrame)
    (picture : Av1Picture) : Prop :=
  frame.kind = .p →
    session.stream.LastFrameMatches picture ∧
      ∀ index, index < 8 → session.stream.HintMatches picture index

/-- The reference of an INTER frame matches, and the order hint of the saved
frame it is in; the other order hints are zero, and match exactly while the
last KEY frame had the order hint 0. -/
def MatchesLast (session : Av1Session) (frame : EncodedFrame)
    (picture : Av1Picture) : Prop :=
  frame.kind = .p →
    session.stream.LastFrameMatches picture ∧
      session.stream.HintMatches picture 0 ∧
      ∃ key ∈ session.lastKey, ∀ index, index < 8 → index ≠ 0 →
        picture.refOrderHint[index]? = some 0 ∧
          (session.stream.HintMatches picture index ↔ key.orderHint = 0)

instance (session : Av1Session) (frame : EncodedFrame)
    (picture : Av1Picture) : Decidable (session.MatchesAll frame picture) :=
  inferInstanceAs (Decidable (_ → _ ∧ _))

/-- What is recorded agrees with the running order hint, and what only KEY
frames replace has the order hint of the last. -/
structure Consistent (session : Av1Session) : Prop where
  first : session.previous = none → session.encoder.frameIndex = 0
  recorded : ∀ last ∈ session.previous, ∃ number,
    session.encoder.counter = last.orderHint + 1 ∧
      session.encoder.priorRefSlot =
        some last.setupReferenceSlot.slotIndex ∧
      session.stream.slots last.setupReferenceSlot.slotIndex =
        some (number, last.orderHint) ∧
      session.stream.saved 0 = some (number, last.orderHint)
  keys : ∀ last ∈ session.previous, ∃ key ∈ session.lastKey,
    ∀ index, index < 8 → index ≠ 0 →
      ∃ number, session.stream.saved index = some (number, key.orderHint)

theorem consistent_start (params : EncodeParams)
    (parameterSetsBlob : List UInt8) :
    Consistent (.start params parameterSetsBlob 0) where
  first := fun _ => rfl
  recorded := by
    intro last impossible
    cases impossible
  keys := by
    intro last impossible
    cases impossible

section Steps

variable {profile : Profile} {before after : Av1Session}
variable {frame : EncodedFrame} {picture : Av1Picture}

theorem stream_of_encoded
    (encoded : Session.Encoded Av1.backend profile before after frame
      picture) : after.stream = before.stream.next picture := by
  rw [stream, encoded.appended, List.foldl_concat]
  rfl

theorem lastKey_of_encoded
    (encoded : Session.Encoded Av1.backend profile before after frame
      picture) :
    after.lastKey =
      if picture.frameType == .key then some picture
      else before.lastKey := by
  rw [lastKey, encoded.appended, List.map_append, List.reverse_append]
  cases isKey : picture.frameType == .key <;> simp [isKey, lastKey]

theorem declared_eq
    (encoded : Session.Encoded Av1.backend profile before after frame
      picture) : picture = Av1.declare before.encoder := by
  have declares := encoded.declares
  injection declares with same
  exact same.symm

theorem Consistent.of_skipped (consistent : Consistent before)
    (skipped : Session.Skipped before after) : Consistent after := by
  have same := skipped.previous
  have sameStream : after.stream = before.stream := by
    rw [stream, skipped.encoded, stream]
  have sameKey : after.lastKey = before.lastKey := by
    rw [lastKey, skipped.encoded, lastKey]
  constructor
  · rw [same, skipped.frameIndex]
    exact consistent.first
  · rw [same, skipped.counter, skipped.priorRefSlot, sameStream]
    exact consistent.recorded
  · rw [same, sameKey, sameStream]
    exact consistent.keys

/-- The first saved frame is replaced by every picture. -/
theorem refreshes_first (encoder : VideoEncoder UInt8) :
    (Av1.declare encoder).refreshFrameFlags.toNat.testBit 0 = true := by
  cases key : encoder.isKey with
  | false =>
      simp [Av1.declare, key]
      rfl
  | true =>
      simp [Av1.declare, key]

/-- The others are replaced by KEY pictures only. -/
theorem refreshes_other (encoder : VideoEncoder UInt8) {index : Nat}
    (small : index < 8) (other : index ≠ 0) :
    (Av1.declare encoder).refreshFrameFlags.toNat.testBit index =
      encoder.isKey := by
  have each : ∀ index < 8, index ≠ 0 →
      (0xFF : UInt8).toNat.testBit index = true ∧
        Av1.refreshLastFrameOnly.toNat.testBit index = false := by
    decide
  cases key : encoder.isKey
  · simp only [Av1.declare, key]
    exact (each index small other).2
  · simp only [Av1.declare, key]
    exact (each index small other).1

theorem Consistent.of_encoded (consistent : Consistent before)
    (encoded : Session.Encoded Av1.backend profile before after frame
      picture) : Consistent after := by
  have declared := declared_eq encoded
  have sameStream := stream_of_encoded encoded
  have sameKey := lastKey_of_encoded encoded
  subst declared
  constructor
  · rw [encoded.previous]
    intro impossible
    cases impossible
  · rw [encoded.previous, sameStream]
    intro last same
    injection same with same
    subst same
    refine ⟨before.stream.count, encoded.counter, encoded.priorRefSlot, ?_,
      ?_⟩
    · simp [Av1Stream.next, Av1.declare]
    · rw [Av1Stream.next]
      dsimp only
      rw [if_pos (refreshes_first before.encoder)]
  · rw [encoded.previous, sameStream, sameKey]
    intro last same
    cases key : before.encoder.isKey with
    | true =>
        have isKey : ((Av1.declare before.encoder).frameType == .key) =
            true := by
          simp [Av1.declare, key]
        refine ⟨Av1.declare before.encoder, by rw [if_pos isKey]; rfl, ?_⟩
        intro index small other
        refine ⟨before.stream.count, ?_⟩
        rw [Av1Stream.next]
        dsimp only
        rw [if_pos (by rw [refreshes_other _ small other, key])]
    | false =>
        have isInter : ¬ ((Av1.declare before.encoder).frameType == .key) =
            true := by
          simp [Av1.declare, key]
        have notFirst : before.previous ≠ none := by
          intro empty
          rw [VideoEncoder.isKey, consistent.first empty] at key
          cases key
        obtain ⟨recent, recentEq⟩ := Option.ne_none_iff_exists'.mp notFirst
        obtain ⟨keyPicture, keyMember, held⟩ :=
          consistent.keys recent recentEq
        refine ⟨keyPicture, by rw [if_neg isInter]; exact keyMember, ?_⟩
        intro index small other
        obtain ⟨number, saved⟩ := held index small other
        refine ⟨number, ?_⟩
        rw [Av1Stream.next]
        dsimp only
        rw [if_neg (by rw [refreshes_other _ small other, key]; decide)]
        exact saved

theorem Consistent.matchesLast (consistent : Consistent before)
    (encoded : Session.Encoded Av1.backend profile before after frame
      picture) : before.MatchesLast frame picture := by
  intro predicted
  have inter : before.encoder.isKey = false := by
    cases key : before.encoder.isKey with
    | false => rfl
    | true =>
        rw [encoded.kind, key] at predicted
        cases predicted
  have declared := declared_eq encoded
  subst declared
  have notFirst : before.previous ≠ none := by
    intro empty
    rw [VideoEncoder.isKey, consistent.first empty] at inter
    cases inter
  obtain ⟨last, recent⟩ := Option.ne_none_iff_exists'.mp notFirst
  obtain ⟨number, counter, prior, used, saved⟩ :=
    consistent.recorded last recent
  obtain ⟨key, keyMember, held⟩ := consistent.keys last recent
  have referred : before.encoder.refSlot =
      some last.setupReferenceSlot.slotIndex := by
    rw [VideoEncoder.refSlot, inter, prior]
    rfl
  have hint : before.encoder.counter - 1 = last.orderHint := by
    rw [counter, UInt8.add_sub_cancel]
  refine ⟨?_, ?_, key, keyMember, ?_⟩
  · refine ⟨⟨last.setupReferenceSlot.slotIndex, last.orderHint⟩, ?_, _, used,
      ?_, saved, rfl, setupSlot_ne_refSlot referred⟩
    · simp [Av1.declare, referred, hint]
    · simp [Av1.declare, referred, Av1.refNameLastFrame]
  · refine ⟨_, saved, ?_⟩
    simp [Av1.declare, referred, hint]
  · intro index small other
    have zero : (Av1.declare before.encoder).refOrderHint[index]? =
        some 0 := by
      rw [Av1.declare, referred, Option.isSome_some, if_pos rfl,
        List.getElem?_set_ne (Ne.symm other),
        List.getElem?_replicate_of_lt small]
    obtain ⟨keyNumber, savedKey⟩ := held index small other
    refine ⟨zero, ?_⟩
    rw [Av1Stream.HintMatches, savedKey, zero]
    constructor
    · rintro ⟨_, same, hintEq⟩
      injection same with same
      subst same
      injection hintEq with hintEq
      exact hintEq.symm
    · intro keyHint
      exact ⟨_, rfl, by rw [keyHint]⟩

end Steps

/-! ## Whole sessions -/

/-- In every session whose GPU operations succeed, the reference of every
INTER frame matches the decoder's saved frames.  Of the declared order hints
the one of the saved frame referred to matches; the other seven are zero,
and match exactly while the last KEY frame had the order hint 0. -/
theorem matchesLast_of_run {profile : Profile} {params : EncodeParams}
    {parameterSetsBlob : List UInt8} {calls : List EncoderCall}
    {last : Av1Session}
    (run : Run (Session.Step Av1.backend profile)
      (.start params parameterSetsBlob 0) calls last) :
    Run (fun before call after =>
        Session.Step Av1.backend profile before call after ∧
          Session.AllNew (MatchesLast before) before after)
      (.start params parameterSetsBlob 0) calls last := by
  refine run.refine ?_
    (consistent_start params parameterSetsBlob)
  intro before call after stepped consistent
  rcases Session.step_cases stepped with
    ⟨_, skipped⟩ | ⟨_, frame, picture, encoded⟩
  · exact ⟨consistent.of_skipped skipped, stepped, skipped.allNew⟩
  · refine ⟨consistent.of_encoded encoded, stepped, ?_⟩
    exact encoded.allNew_iff.mpr (consistent.matchesLast encoded)

/-- The session that the calls lead to. -/
def sessionAfter (calls : List EncoderCall) : Av1Session :=
  (calls.foldlM (Session.perform Av1.backend .dev)
    (.start ⟨64, 64⟩ [] 0)).getD (.start ⟨64, 64⟩ [] 0)

theorem matchesLast_of_run_forcedKeyframe :
    Run (fun before call after =>
        Session.Step Av1.backend .dev before call after ∧
          Session.AllNew (MatchesLast before) before after)
      (.start ⟨64, 64⟩ [] 0) EncoderCall.forcedKeyframe
      (sessionAfter EncoderCall.forcedKeyframe) :=
  matchesLast_of_run (run_iff_foldlM_filtered.mpr (by decide +kernel))

/-- The KEY frame on request has the order hint 2, and so have the saved
frames that the INTER frame after it declares as 0. -/
theorem not_matchesAll_forcedKeyframe :
    ¬ ∀ (profile : Profile) (params : EncodeParams)
        (parameterSetsBlob : List UInt8) (calls : List EncoderCall)
        (last : Av1Session),
      Run (Session.Step Av1.backend profile)
          (.start params parameterSetsBlob 0) calls last →
        Run (fun before call after =>
          Session.Step Av1.backend profile before call after ∧
            Session.AllNew (MatchesAll before) before after)
          (.start params parameterSetsBlob 0) calls last := by
  intro all
  have matching := all .dev ⟨64, 64⟩ [] EncoderCall.forcedKeyframe
    (sessionAfter EncoderCall.forcedKeyframe)
    (run_iff_foldlM_filtered.mpr (by decide +kernel))
  simp only [and_assoc] at matching
  have continued := run_iff_foldlM_filtered.mp matching
  have stopped : EncoderCall.forcedKeyframe.foldlM (fun before call =>
      (Session.perform Av1.backend .dev before call).filter
        fun after => decide (call.GpuSucceeds ∧
          Session.AllNew (MatchesAll before) before after))
      (.start ⟨64, 64⟩ [] 0) = none := by
    decide +kernel
  rw [stopped] at continued
  cases continued

end Av1Session

end RemoteWay.Encode
