import RemoteWay.Client.FramePayload
import RemoteWay.Interpolate.Manager
import RemoteWay.Transport.Multiplexer

/-!
# Receive loop of the client

The decoding state of `recv_decompress_loop` and what one message does to
it: parsing, the reset of the delta base, decompression, and the update of
the interpolation manager and the delta base.  What happens to a decoded
frame afterwards (upscaling, overlay, display) does not touch this state.
-/

namespace RemoteWay.Client

open RemoteWay.Base RemoteWay.Proto RemoteWay.Compress
open RemoteWay.Interpolate RemoteWay.Transport

structure ClientConfig (backend : Type) where
  compressorKind : Codec
  interpolator : FrameInterpolator backend

/-- The decoding state.  There is a manager when interpolation is on. -/
structure ClientState (backend : Type) where
  previousFrame : List UInt8
  hasPrevious : Bool
  interpolation : Option (InterpolationManager backend)
  deriving DecidableEq

/-- A decoded frame with the dimensions its message announced. -/
structure DecodedFrame where
  width : UInt32
  height : UInt32
  stride : UInt32
  regions : List DamageRect
  output : List UInt8
  deriving DecidableEq, Repr

/-- How the handling of a frame message ends. -/
inductive FrameOutcome where
  | parseFailed (reason : PayloadError)
  | decompressFailed (reason : CompressorError)
  | decoded (frame : DecodedFrame)
  deriving DecidableEq, Repr

variable {backend : Type}

namespace ClientState

def initial (interpolation : Option (InterpolationManager backend)) :
    ClientState backend :=
  ⟨[], false, interpolation⟩

/-- An anchor, or the first frame, resizes the delta base. -/
def prepareBase (state : ClientState backend) (isAnchor : Bool)
    (frameSize : Nat) : ClientState backend :=
  if isAnchor || !state.hasPrevious then
    { state with
      previousFrame := resize state.previousFrame frameSize 0
      interpolation :=
        state.interpolation.map InterpolationManager.resetAnchor }
  else
    state

end ClientState

/-- Parse and decompress the payload of a frame message. -/
def decodeFrame (profile : Profile) (kind : Codec)
    (state : ClientState backend) (isAnchor : Bool)
    (payload : List UInt8) : Exec (ClientState backend × FrameOutcome) := do
  match ← deserializeFramePayload profile payload with
  | .error reason => return (state, .parseFailed reason)
  | .ok parsed =>
      let frameSize ← u32Mul profile parsed.stride parsed.height
      let state := state.prepareBase isAnchor frameSize.toNat
      match ← decompressFrameInto profile parsed.compressed
          state.previousFrame parsed.stride.toNat parsed.regions [] kind with
      | .error reason => return (state, .decompressFailed reason)
      | .ok output =>
          return (state,
            .decoded
              { width := parsed.width
                height := parsed.height
                stride := parsed.stride
                regions := parsed.regions
                output := output })

/-- Feed the interpolation manager and keep the frame as the next delta
base. -/
def acceptFrame (interpolator : FrameInterpolator backend)
    (state : ClientState backend) (frame : DecodedFrame)
    (timestampNs : UInt64) : ClientState backend where
  previousFrame := frame.output
  hasPrevious := true
  interpolation := state.interpolation.map fun manager =>
    ((manager.pushFrame
      { data := frame.output
        width := frame.width
        height := frame.height
        stride := frame.stride
        timestampNs := timestampNs }).interpolate interpolator (1 / 2)).1

def handleFrame (profile : Profile) (config : ClientConfig backend)
    (state : ClientState backend) (isAnchor : Bool)
    (msg : IncomingMessage) : Exec (ClientState backend × FrameOutcome) := do
  let (state, outcome) ←
    decodeFrame profile config.compressorKind state isAnchor msg.payload
  match outcome with
  | .decoded frame =>
      return (acceptFrame config.interpolator state frame
        msg.header.timestampNs, outcome)
  | _ => return (state, outcome)

/-- A resize notification forgets the delta base. -/
def handleResize (state : ClientState backend) (payload : List UInt8) :
    ClientState backend :=
  if resizePayloadSize ≤ payload.length then
    { state with
      hasPrevious := false
      interpolation := state.interpolation.map InterpolationManager.clear }
  else
    state

/-- One round of `recv_decompress_loop`.  There is an outcome for a frame
message. -/
def handleMessage (profile : Profile) (config : ClientConfig backend)
    (state : ClientState backend) (msg : IncomingMessage) :
    Exec (ClientState backend × Option FrameOutcome) :=
  match msg.header.msgType with
  | .ok .anchorFrame => do
      let (state, outcome) ← handleFrame profile config state true msg
      return (state, some outcome)
  | .ok .frameUpdate => do
      let (state, outcome) ← handleFrame profile config state false msg
      return (state, some outcome)
  | .ok .resize => .ok (handleResize state msg.payload, none)
  | .ok _ => .ok (state, none)
  | .error _ => .ok (state, none)

/-- What one message did. -/
structure ClientStep (backend : Type) where
  msg : IncomingMessage
  outcome : Option FrameOutcome
  after : ClientState backend

/-- The loop over the messages of the transport. -/
def recvDecompressLoop (profile : Profile) (config : ClientConfig backend) :
    ClientState backend → List IncomingMessage →
      Exec (List (ClientStep backend))
  | _, [] => .ok []
  | state, msg :: msgs => do
      let (after, outcome) ← handleMessage profile config state msg
      let later ← recvDecompressLoop profile config after msgs
      return ⟨msg, outcome, after⟩ :: later

/-! ## Decoding, case by case -/

section Decoding

variable (profile : Profile) (kind : Codec) (state : ClientState backend)
variable (isAnchor : Bool) {payload : List UInt8}

theorem decodeFrame_of_not_wellSized (unsized : ¬ WellSized payload) :
    ∃ reason, decodeFrame profile kind state isAnchor payload =
      .ok (state, .parseFailed reason) := by
  obtain ⟨reason, failed⟩ :=
    deserializeFramePayload_of_not_wellSized profile unsized
  refine ⟨reason, ?_⟩
  rw [decodeFrame, failed]
  rfl

theorem decodeFrame_of_overflow (sized : WellSized payload)
    {panic : Panic}
    (overflow : u32Mul profile (payloadMeta payload).stride
      (payloadMeta payload).height = .error panic) :
    decodeFrame profile kind state isAnchor payload = .error panic := by
  have product : u32Mul profile (parsedPayload payload).stride
      (parsedPayload payload).height = .error panic := overflow
  rw [decodeFrame, deserializeFramePayload_of_wellSized profile sized]
  simp only [bind, Except.bind]
  rw [product]

/-- The frame that a well-sized payload stands for, with its output. -/
def decodedFrame (payload output : List UInt8) : DecodedFrame where
  width := (payloadMeta payload).width
  height := (payloadMeta payload).height
  stride := (payloadMeta payload).stride
  regions := payloadRegions payload
  output := output

theorem decodeFrame_of_wellSized (sized : WellSized payload)
    {frameSize : UInt32}
    (multiplied : u32Mul profile (payloadMeta payload).stride
      (payloadMeta payload).height = .ok frameSize) :
    decodeFrame profile kind state isAnchor payload =
      let prepared := state.prepareBase isAnchor frameSize.toNat
      match (payloadBlobs payload).mapM kind.decompress with
      | .error reason => .ok (prepared, .decompressFailed reason)
      | .ok decoded =>
          (deltaDecode profile decoded.flatten prepared.previousFrame
            (payloadMeta payload).stride.toNat (payloadRegions payload)
            (resize [] prepared.previousFrame.length 0)).map fun output =>
              (prepared, .decoded (decodedFrame payload output)) := by
  have product : u32Mul profile (parsedPayload payload).stride
      (parsedPayload payload).height = .ok frameSize := multiplied
  rw [decodeFrame, deserializeFramePayload_of_wellSized profile sized]
  simp only [bind, Except.bind]
  rw [product]
  dsimp only
  rw [decompressFrameInto_of_described profile
    (described_parsedPayload sized), blobs_parsedPayload]
  cases (payloadBlobs payload).mapM kind.decompress with
  | error reason => rfl
  | ok decoded =>
      dsimp only
      rw [show (parsedPayload payload).stride.toNat =
          (payloadMeta payload).stride.toNat from rfl,
        show (parsedPayload payload).regions = payloadRegions payload
          from rfl]
      cases deltaDecode profile decoded.flatten
        (state.prepareBase isAnchor frameSize.toNat).previousFrame
        (payloadMeta payload).stride.toNat (payloadRegions payload)
        (resize [] (state.prepareBase isAnchor
          frameSize.toNat).previousFrame.length 0) <;> rfl

/-- A payload is not parsed and the state left alone, or it is parsed and the
delta base prepared, whether it is decoded then or not. -/
theorem decodeFrame_cases {profile : Profile} {kind : Codec}
    {state prepared : ClientState backend} {isAnchor : Bool}
    {outcome : FrameOutcome}
    (done : decodeFrame profile kind state isAnchor payload =
      .ok (prepared, outcome)) :
    (∃ reason, deserializeFramePayload profile payload = .ok (.error reason) ∧
        prepared = state ∧ outcome = .parseFailed reason) ∨
      ∃ parsed frameSize,
        deserializeFramePayload profile payload = .ok (.ok parsed) ∧
        prepared = state.prepareBase isAnchor frameSize ∧
        ∀ reason, outcome ≠ .parseFailed reason := by
  rw [decodeFrame, bind_eq_ok_iff] at done
  obtain ⟨result, parsing, done⟩ := done
  cases result with
  | error reason =>
      injection done with same
      injection same with kept failed
      exact Or.inl ⟨reason, parsing, kept.symm, failed.symm⟩
  | ok parsed =>
      dsimp only at done
      rw [bind_eq_ok_iff] at done
      obtain ⟨frameSize, _, done⟩ := done
      rw [bind_eq_ok_iff] at done
      obtain ⟨output, _, done⟩ := done
      refine Or.inr ⟨parsed, frameSize.toNat, parsing, ?_⟩
      cases output with
      | error reason =>
          injection done with same
          injection same with kept failed
          refine ⟨kept.symm, ?_⟩
          rw [← failed]
          intro other
          exact FrameOutcome.noConfusion
      | ok bytes =>
          injection done with same
          injection same with kept decoded
          refine ⟨kept.symm, ?_⟩
          rw [← decoded]
          intro other
          exact FrameOutcome.noConfusion

end Decoding

end RemoteWay.Client
