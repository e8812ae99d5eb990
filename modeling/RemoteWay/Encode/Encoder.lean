import RemoteWay.Base.Exec
import RemoteWay.Base.Runs

/-!
# Encoder backends

The three backends share how an `encode` call proceeds: the frame size is
checked, the pending keyframe request is consumed, the bookkeeping of the
picture is declared, and only after the GPU operations succeeded the frame
counter and the reference slot advance.  A backend differs in what it
declares for a picture.
-/

namespace RemoteWay.Encode

open RemoteWay.Base

inductive VideoCodec where
  | h264
  | h265
  | av1
  deriving DecidableEq, Repr

/-- The dimensions of an encoding session. -/
structure EncodeParams where
  width : UInt32
  height : UInt32
  deriving DecidableEq, Repr

inductive EncodeError where
  | vulkan (message : String)
  | notReady
  | invalidParams (message : String)
  | submitFailed (message : String)
  | readbackFailed (message : String)
  deriving DecidableEq, Repr

/-- Type of an encoded frame. -/
inductive FrameKind where
  | idr
  | i
  | p
  | intraRefresh
  deriving DecidableEq, Repr

structure EncodedFrame where
  data : List UInt8
  kind : FrameKind
  pts90khz : UInt64
  parameterSets : Option (List UInt8)
  deriving DecidableEq, Repr

/-- An input frame; the image is the GPU's. -/
structure InputFrame where
  width : UInt32
  height : UInt32
  pts90khz : UInt64
  deriving DecidableEq, Repr

/-- How the GPU operations of an `encode` call end: with the bitstream that
was read back, or with an error. -/
abbrev GpuOutcome := Except EncodeError (List UInt8)

/-- The number of pictures in the DPB, `DPB_SLOTS`. -/
def dpbSlots : Nat := 2

/-! ## The state of a backend -/

/-- The bookkeeping of a backend.  `counter` is its own counter, if any. -/
structure VideoEncoder (own : Type) where
  params : EncodeParams
  parameterSetsBlob : List UInt8
  priorRefSlot : Option Nat
  frameIndex : UInt64
  forceKeyframe : Bool
  counter : own
  deriving DecidableEq, Repr

/-- How a backend describes a picture, from its state before the call. -/
structure Backend (own picture : Type) where
  declare : Profile → VideoEncoder own → Exec picture
  advance : own → own
  frameBitstream : List UInt8 → List UInt8

variable {own picture : Type}

namespace VideoEncoder

/-- The bookkeeping that `new` returns. -/
def start (params : EncodeParams) (parameterSetsBlob : List UInt8)
    (counter : own) : VideoEncoder own where
  params := params
  parameterSetsBlob := parameterSetsBlob
  priorRefSlot := none
  frameIndex := 0
  forceKeyframe := false
  counter := counter

/-- The next picture is an IDR or KEY picture. -/
def isKey (encoder : VideoEncoder own) : Bool :=
  encoder.frameIndex == 0 || encoder.forceKeyframe

/-- The DPB slot that the next picture sets up. -/
def setupSlot (encoder : VideoEncoder own) : Nat :=
  match encoder.priorRefSlot with
  | none => 0
  | some prev => (prev + 1) % dpbSlots

/-- The DPB slot that the next picture refers to. -/
def refSlot (encoder : VideoEncoder own) : Option Nat :=
  if encoder.isKey then none else encoder.priorRefSlot

/-- The frame has the dimensions of the session. -/
def Accepts (encoder : VideoEncoder own) (frame : InputFrame) : Prop :=
  frame.width = encoder.params.width ∧ frame.height = encoder.params.height

instance (encoder : VideoEncoder own) (frame : InputFrame) :
    Decidable (encoder.Accepts frame) :=
  inferInstanceAs (Decidable (_ ∧ _))

def sizeMismatch (encoder : VideoEncoder own) (frame : InputFrame) :
    EncodeError :=
  .invalidParams
    ("InputFrame " ++ toString frame.width ++ "x" ++
      toString frame.height ++ " != session " ++
      toString encoder.params.width ++ "x" ++
      toString encoder.params.height)

/-- Encode one frame.  Returns the state after the call and, on success, the
encoded frame with what was declared for it. -/
def encode (backend : Backend own picture) (profile : Profile)
    (encoder : VideoEncoder own) (frame : InputFrame)
    (gpu : GpuOutcome) :
    Exec (VideoEncoder own ×
      Except EncodeError (EncodedFrame × picture)) :=
  if encoder.Accepts frame then do
    let declared ← backend.declare profile encoder
    match gpu with
    | .error reason =>
        return ({ encoder with forceKeyframe := false }, .error reason)
    | .ok bitstream =>
        let frameIndex ← u64Add profile encoder.frameIndex 1
        let encoded : EncodedFrame :=
          { data := backend.frameBitstream bitstream
            kind := if encoder.isKey then .idr else .p
            pts90khz := frame.pts90khz
            parameterSets :=
              if encoder.isKey then some encoder.parameterSetsBlob
              else none }
        let encoder : VideoEncoder own :=
          { encoder with
            forceKeyframe := false
            frameIndex := frameIndex
            priorRefSlot := some encoder.setupSlot
            counter := backend.advance encoder.counter }
        return (encoder, .ok (encoded, declared))
  else
    .ok (encoder, .error (encoder.sizeMismatch frame))

def requestKeyframe (encoder : VideoEncoder own) :
    VideoEncoder own :=
  { encoder with forceKeyframe := true }

end VideoEncoder

/-! ## Sessions -/

/-- A call on an encoder; an `encode` call with what the GPU did. -/
inductive EncoderCall where
  | encode (frame : InputFrame) (gpu : GpuOutcome)
  | requestKeyframe

/-- The GPU operations of the call succeed. -/
def EncoderCall.GpuSucceeds : EncoderCall → Prop
  | .encode _ gpu => gpu.isOk = true
  | .requestKeyframe => True

instance (call : EncoderCall) : Decidable call.GpuSucceeds :=
  match call with
  | .encode _ gpu => inferInstanceAs (Decidable (gpu.isOk = true))
  | .requestKeyframe => .isTrue trivial

/-- Two frames, a keyframe on request, and one more frame. -/
def EncoderCall.forcedKeyframe : List EncoderCall :=
  [.encode ⟨64, 64, 0⟩ (.ok []), .encode ⟨64, 64, 1⟩ (.ok []),
    .requestKeyframe, .encode ⟨64, 64, 2⟩ (.ok []),
    .encode ⟨64, 64, 3⟩ (.ok [])]

/-- An encoder with the frames it returned, the newest last. -/
structure Session (own picture : Type) where
  encoder : VideoEncoder own
  encoded : List (EncodedFrame × picture)
  deriving DecidableEq, Repr

namespace Session

def start (params : EncodeParams) (parameterSetsBlob : List UInt8)
    (counter : own) : Session own picture :=
  ⟨.start params parameterSetsBlob counter, []⟩

/-- What the session is after a call.  A panic leaves none. -/
def perform (backend : Backend own picture) (profile : Profile)
    (session : Session own picture) :
    EncoderCall → Option (Session own picture)
  | .requestKeyframe =>
      some { session with encoder := session.encoder.requestKeyframe }
  | .encode frame gpu =>
      match session.encoder.encode backend profile frame gpu with
      | .error _ => none
      | .ok (encoder, .error _) => some { session with encoder := encoder }
      | .ok (encoder, .ok frame) => some ⟨encoder, session.encoded ++ [frame]⟩

/-- Calls whose GPU operations succeed. -/
abbrev Step (backend : Backend own picture) (profile : Profile)
    (before : Session own picture) (call : EncoderCall)
    (after : Session own picture) : Prop :=
  before.perform backend profile call = some after ∧ call.GpuSucceeds

/-- The call encodes a frame, which is a keyframe or not. -/
def Encodes (session : Session own picture) (key : Bool) :
    EncoderCall → Prop
  | .encode frame _ =>
      session.encoder.Accepts frame ∧ session.encoder.isKey = key
  | .requestKeyframe => False

instance (session : Session own picture) (key : Bool)
    (call : EncoderCall) : Decidable (session.Encodes key call) :=
  match call with
  | .encode _ _ => inferInstanceAs (Decidable (_ ∧ _))
  | .requestKeyframe => .isFalse id

theorem isKey_of_encodes {session : Session own picture} {key : Bool}
    {call : EncoderCall} (encodes : session.Encodes key call) :
    session.encoder.isKey = key := by
  cases call with
  | requestKeyframe => cases encodes
  | encode frame gpu => exact encodes.2

/-- An accepted frame and what was declared for it. -/
structure Encoded (backend : Backend own picture) (profile : Profile)
    (before after : Session own picture) (frame : EncodedFrame)
    (declared : picture) : Prop where
  declares : backend.declare profile before.encoder = .ok declared
  appended : after.encoded = before.encoded ++ [(frame, declared)]
  kind : frame.kind = if before.encoder.isKey then .idr else .p
  parameterSets : frame.parameterSets =
    if before.encoder.isKey then some before.encoder.parameterSetsBlob
    else none
  blob : after.encoder.parameterSetsBlob = before.encoder.parameterSetsBlob
  frameIndex : after.encoder.frameIndex = before.encoder.frameIndex + 1
  priorRefSlot : after.encoder.priorRefSlot = some before.encoder.setupSlot
  counter : after.encoder.counter = backend.advance before.encoder.counter

/-- A call that encodes nothing. -/
structure Skipped (before after : Session own picture) : Prop where
  encoded : after.encoded = before.encoded
  blob : after.encoder.parameterSetsBlob = before.encoder.parameterSetsBlob
  frameIndex : after.encoder.frameIndex = before.encoder.frameIndex
  priorRefSlot : after.encoder.priorRefSlot = before.encoder.priorRefSlot
  counter : after.encoder.counter = before.encoder.counter

variable {backend : Backend own picture} {profile : Profile}
variable {before after : Session own picture} {call : EncoderCall}

/-- A call either encodes nothing or appends one picture. -/
theorem step_cases (stepped : Step backend profile before call after) :
    ((∀ key, ¬ before.Encodes key call) ∧ Skipped before after) ∨
      before.Encodes before.encoder.isKey call ∧
        ∃ frame declared,
          Encoded backend profile before after frame declared := by
  obtain ⟨performed, succeeds⟩ := stepped
  cases call with
  | requestKeyframe =>
      injection performed with same
      subst same
      exact Or.inl ⟨fun _ => id, rfl, rfl, rfl, rfl, rfl⟩
  | encode frame gpu =>
      by_cases accepted : before.encoder.Accepts frame
      · cases gpu with
        | error reason => cases succeeds
        | ok bitstream =>
            right
            refine ⟨⟨accepted, rfl⟩, ?_⟩
            rw [perform] at performed
            cases encoding : before.encoder.encode backend profile frame
                (.ok bitstream) with
            | error panic =>
                rw [encoding] at performed
                cases performed
            | ok result =>
                rw [encoding] at performed
                rw [VideoEncoder.encode, if_pos accepted, bind_eq_ok_iff]
                  at encoding
                obtain ⟨declared, declares, encoding⟩ := encoding
                dsimp only at encoding
                rw [bind_eq_ok_iff] at encoding
                obtain ⟨frameIndex, increased, encoding⟩ := encoding
                injection encoding with same
                subst same
                injection performed with same
                subst same
                exact ⟨_, declared, declares, rfl, rfl, rfl, rfl,
                  (u64Add_eq_ok increased).symm, rfl, rfl⟩
      · left
        refine ⟨fun _ encodes => accepted encodes.1, ?_⟩
        rw [perform, VideoEncoder.encode, if_neg accepted] at performed
        injection performed with same
        subst same
        exact ⟨rfl, rfl, rfl, rfl, rfl⟩

/-- The picture encoded last. -/
def previous (session : Session own picture) : Option picture :=
  session.encoded.getLast?.map Prod.snd

/-- What a call encoded has a property. -/
def AllNew (property : EncodedFrame → picture → Prop)
    (before after : Session own picture) : Prop :=
  ∀ new, new ∈ after.encoded.drop before.encoded.length →
    property new.1 new.2

instance (property : EncodedFrame → picture → Prop)
    [∀ frame declared, Decidable (property frame declared)]
    (before after : Session own picture) :
    Decidable (AllNew property before after) :=
  inferInstanceAs (Decidable (∀ new, new ∈ _ → _))

variable {frame : EncodedFrame} {declared : picture}
variable {property : EncodedFrame → picture → Prop}

theorem Encoded.previous
    (encoded : Encoded backend profile before after frame declared) :
    after.previous = some declared := by
  rw [Session.previous, encoded.appended, List.getLast?_concat]
  rfl

theorem Encoded.allNew_iff
    (encoded : Encoded backend profile before after frame declared) :
    AllNew property before after ↔ property frame declared := by
  rw [AllNew, encoded.appended, List.drop_left]
  simp

theorem Skipped.previous (skipped : Skipped before after) :
    after.previous = before.previous := by
  rw [Session.previous, skipped.encoded, Session.previous]

theorem Skipped.allNew (skipped : Skipped before after) :
    AllNew property before after := by
  rw [AllNew, skipped.encoded, List.drop_length]
  intro new member
  cases member

end Session

/-! ## The frame index -/

/-- `frame_index as i32`. -/
def asI32 (frameIndex : UInt64) : Int32 := frameIndex.toUInt32.toInt32

theorem toInt_asI32 (frameIndex : UInt64) :
    (asI32 frameIndex).toInt = (frameIndex.toNat : Int).bmod 4294967296 := by
  change BitVec.toInt frameIndex.toUInt32.toBitVec = _
  rw [BitVec.toInt_eq_toNat_bmod]
  simp only [UInt32.toNat_toBitVec, UInt64.toNat_toUInt32, Int.natCast_emod]
  exact Int.emod_bmod _ 4294967296

@[simp]
theorem asI32_succ_sub_one (frameIndex : UInt64) :
    asI32 (frameIndex + 1) - 1 = asI32 frameIndex := by
  simp [asI32]

/-! ## Slots -/

/-- Of the slots of the DPB, the one to set up is not the one set up
before. -/
theorem setupSlot_ne_refSlot {encoder : VideoEncoder own} {slot : Nat}
    (referred : encoder.refSlot = some slot) :
    encoder.setupSlot ≠ slot := by
  have prior : encoder.priorRefSlot = some slot := by
    rw [VideoEncoder.refSlot] at referred
    split at referred
    · cases referred
    · exact referred
  rw [VideoEncoder.setupSlot, prior]
  change (slot + 1) % dpbSlots ≠ slot
  rw [dpbSlots]
  omega

end RemoteWay.Encode
