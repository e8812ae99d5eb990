import RemoteWay.Client.Pipeline
import RemoteWay.Display.Thread
import RemoteWay.Interpolate.LinearBlend

/-!
# What the client passes to the display

`recv_decompress_loop` passes each decoded frame to the display, and after
it the frame interpolated between the previous frame and this one, if there
is one.  How pixels are scaled and painted is a parameter; it depends on
floating-point numbers and on the clock, of which the frame rate shown is an
input of each round.
-/

namespace RemoteWay.Client

open RemoteWay.Base RemoteWay.Proto RemoteWay.Compress
open RemoteWay.Interpolate RemoteWay.Transport RemoteWay.Display

/-- Spatial upscaling, unless its factor is 1, and the debug overlay. -/
structure Rendering where
  upscale : Option (GpuFrame → Picture)
  scaleDamage : Picture → DecodedFrame → List DamageRegion
  drawFps : Option (Nat → Picture → List UInt8)

/-- The rectangle of the overlay at `(10, 10)`. -/
def overlayRect : DamageRegion := ⟨10, 10, 188, 29⟩

namespace Rendering

variable (rendering : Rendering)

def upscaled (frame : GpuFrame) : Picture :=
  match rendering.upscale with
  | some upscale => upscale frame
  | none => ⟨frame.width, frame.height, frame.stride, frame.data⟩

def painted (fps : Nat) (picture : Picture) : Picture :=
  match rendering.drawFps with
  | some drawFps => { picture with data := drawFps fps picture }
  | none => picture

/-- The overlay's rectangle inside a picture. -/
def overlayDamage (picture : Picture) : List DamageRegion :=
  match rendering.drawFps with
  | some _ =>
      [{ overlayRect with
          width := min overlayRect.width
            (if overlayRect.x ≤ picture.width then
              picture.width - overlayRect.x else 0)
          height := min overlayRect.height
            (if overlayRect.y ≤ picture.height then
              picture.height - overlayRect.y else 0) }]
  | none => []

/-- The display frame of a decoded frame. -/
def realFrame (fps : Nat) (header : FrameHeader) (frame : DecodedFrame) :
    DisplayFrame :=
  let scaled := rendering.upscaled
    ⟨frame.output, frame.width, frame.height, frame.stride,
      header.timestampNs⟩
  let picture := rendering.painted fps scaled
  { surfaceId := header.streamId
    data := picture.data
    damage := rendering.scaleDamage scaled frame ++
      rendering.overlayDamage scaled
    width := picture.width
    height := picture.height
    stride := picture.stride
    timestampNs := header.timestampNs }

/-- The display frame of an interpolated frame, all of which is damaged. -/
def interpolatedFrame (fps : Nat) (header : FrameHeader)
    (frame : GpuFrame) : DisplayFrame :=
  let picture := rendering.painted fps (rendering.upscaled frame)
  { surfaceId := header.streamId
    data := picture.data
    damage := [⟨0, 0, picture.width, picture.height⟩]
    width := picture.width
    height := picture.height
    stride := picture.stride
    timestampNs := frame.timestampNs }

end Rendering

variable {backend : Type}

/-- A decoded frame as the interpolation manager is fed with it. -/
def DecodedFrame.gpuFrame (frame : DecodedFrame) (timestampNs : UInt64) :
    GpuFrame :=
  ⟨frame.output, frame.width, frame.height, frame.stride, timestampNs⟩

/-- The interpolated frame, if there is one. -/
def interpolated (interpolator : FrameInterpolator backend)
    (state : ClientState backend) (frame : DecodedFrame)
    (timestampNs : UInt64) : Option GpuFrame :=
  match state.interpolation with
  | none => none
  | some manager =>
      match ((manager.pushFrame (frame.gpuFrame timestampNs)).interpolate
          interpolator (1 / 2)).2 with
      | .ok blend => blend
      | .error _ => none

/-- The frames passed to the display for a decoded frame. -/
def displayed (interpolator : FrameInterpolator backend)
    (rendering : Rendering) (fps : Nat) (state : ClientState backend)
    (header : FrameHeader) (frame : DecodedFrame) : List DisplayFrame :=
  rendering.realFrame fps header frame ::
    (interpolated interpolator state frame header.timestampNs).toList.map
      (rendering.interpolatedFrame fps header)

/-- Whether a message carries a frame, and if so, whether an anchor. -/
def frameKind (msg : IncomingMessage) : Option Bool :=
  match msg.header.msgType with
  | .ok .anchorFrame => some true
  | .ok .frameUpdate => some false
  | _ => none

/-- One round of `recv_decompress_loop` for a frame message, with the frames
passed to the display. -/
def showFrame (profile : Profile) (config : ClientConfig backend)
    (rendering : Rendering) (fps : Nat) (state : ClientState backend)
    (isAnchor : Bool) (msg : IncomingMessage) :
    Exec (ClientState backend × List DisplayFrame) := do
  let (state, outcome) ←
    decodeFrame profile config.compressorKind state isAnchor msg.payload
  match outcome with
  | .decoded frame =>
      return (acceptFrame config.interpolator state frame
          msg.header.timestampNs,
        displayed config.interpolator rendering fps state msg.header frame)
  | _ => return (state, [])

/-- One round of `recv_decompress_loop`, with the frames passed to the
display. -/
def showMessage (profile : Profile) (config : ClientConfig backend)
    (rendering : Rendering) (fps : Nat) (state : ClientState backend)
    (msg : IncomingMessage) :
    Exec (ClientState backend × List DisplayFrame) :=
  match frameKind msg with
  | some isAnchor =>
      showFrame profile config rendering fps state isAnchor msg
  | none => do
      let (state, _) ← handleMessage profile config state msg
      return (state, [])

/-- The loop over the messages of the transport, with the frames passed to
the display.  Each message comes with the frame rate that the overlay
shows. -/
def showLoop (profile : Profile) (config : ClientConfig backend)
    (rendering : Rendering) :
    ClientState backend → List (IncomingMessage × Nat) →
      Exec (List DisplayFrame)
  | _, [] => .ok []
  | state, (msg, fps) :: rounds => do
      let (after, frames) ←
        showMessage profile config rendering fps state msg
      let later ← showLoop profile config rendering after rounds
      return frames ++ later

section Showing

variable {profile : Profile} {config : ClientConfig backend}
variable {rendering : Rendering} {fps : Nat}
variable {before after : ClientState backend} {msg : IncomingMessage}

/-- Nothing is shown of a message that is not decoded; of a decoded frame,
what `displayed` says. -/
theorem showFrame_cases {isAnchor : Bool} {frames : List DisplayFrame}
    (shown : showFrame profile config rendering fps before isAnchor msg =
      .ok (after, frames)) :
    ∃ prepared outcome,
      decodeFrame profile config.compressorKind before isAnchor
          msg.payload = .ok (prepared, outcome) ∧
        ((frames = [] ∧ after = prepared ∧
            ∀ frame, outcome ≠ .decoded frame) ∨
          ∃ frame, outcome = .decoded frame ∧
            after = acceptFrame config.interpolator prepared frame
              msg.header.timestampNs ∧
            frames = displayed config.interpolator rendering fps prepared
              msg.header frame) := by
  rw [showFrame, bind_eq_ok_iff] at shown
  obtain ⟨⟨prepared, outcome⟩, decoded, shown⟩ := shown
  refine ⟨prepared, outcome, decoded, ?_⟩
  cases outcome with
  | decoded frame =>
      injection shown with same
      injection same with sameState sameFrames
      exact Or.inr ⟨frame, rfl, sameState.symm, sameFrames.symm⟩
  | parseFailed reason | decompressFailed reason =>
      injection shown with same
      injection same with sameState sameFrames
      exact Or.inl ⟨sameFrames.symm, sameState.symm, nofun⟩

private theorem showFrame_state (isAnchor : Bool) :
    (showFrame profile config rendering fps before isAnchor msg).map
        Prod.fst =
      (handleFrame profile config before isAnchor msg).map Prod.fst := by
  rw [showFrame, handleFrame]
  cases decodeFrame profile config.compressorKind before isAnchor
      msg.payload with
  | error panic => rfl
  | ok decoded =>
      obtain ⟨prepared, outcome⟩ := decoded
      cases outcome with
      | decoded frame => rfl
      | parseFailed reason => rfl
      | decompressFailed reason => rfl

/-- Showing frames does not change how messages are handled. -/
theorem showMessage_state :
    (showMessage profile config rendering fps before msg).map Prod.fst =
      (handleMessage profile config before msg).map Prod.fst := by
  have unshown : (do
        let (state, _) ← handleMessage profile config before msg
        return (state, []) :
          Exec (ClientState backend × List DisplayFrame)).map Prod.fst =
      (handleMessage profile config before msg).map Prod.fst := by
    cases handleMessage profile config before msg <;> rfl
  have framed : ∀ isAnchor,
      (do
        let (state, outcome) ←
          handleFrame profile config before isAnchor msg
        return (state, some outcome) :
          Exec (ClientState backend × Option FrameOutcome)).map Prod.fst =
        (handleFrame profile config before isAnchor msg).map Prod.fst := by
    intro isAnchor
    cases handleFrame profile config before isAnchor msg <;> rfl
  rw [showMessage, frameKind]
  rw [handleMessage] at unshown ⊢
  cases kind : msg.header.msgType with
  | error reason =>
      rw [kind] at unshown
      exact unshown
  | ok msgType =>
      rw [kind] at unshown
      cases msgType with
      | anchorFrame => exact (showFrame_state true).trans (framed true).symm
      | frameUpdate => exact (showFrame_state false).trans (framed false).symm
      | _ => exact unshown

end Showing

/-! ## Without interpolation and overlay -/

section Plain

variable {profile : Profile} {config : ClientConfig backend}
variable {rendering : Rendering}
variable {before after : ClientState backend} {msg : IncomingMessage}

/-- The frame passed to the display for a message that was decoded. -/
def ClientStep.shown (rendering : Rendering) (step : ClientStep backend) :
    List DisplayFrame :=
  match step.outcome with
  | some (.decoded frame) =>
      [rendering.realFrame 0 step.msg.header frame]
  | _ => []

theorem realFrame_of_bare (bare : rendering.drawFps = none) (fps : Nat)
    (header : FrameHeader) (frame : DecodedFrame) :
    rendering.realFrame fps header frame =
      rendering.realFrame 0 header frame := by
  simp only [Rendering.realFrame, Rendering.painted, bare]

theorem displayed_of_off (bare : rendering.drawFps = none)
    (off : before.interpolation = none) (fps : Nat)
    (header : FrameHeader) (frame : DecodedFrame) :
    displayed config.interpolator rendering fps before header frame =
      [rendering.realFrame 0 header frame] := by
  rw [displayed, interpolated, off, realFrame_of_bare bare]
  rfl

/-- Decoding does not turn interpolation on. -/
theorem decodeFrame_off {kind : Codec} {isAnchor : Bool}
    {payload : List UInt8} {outcome : FrameOutcome}
    (off : before.interpolation = none)
    (decoded : decodeFrame profile kind before isAnchor payload =
      .ok (after, outcome)) :
    after.interpolation = none := by
  have prepared : ∀ frameSize,
      (before.prepareBase isAnchor frameSize).interpolation = none := by
    intro frameSize
    rw [ClientState.prepareBase]
    split
    · exact Option.map_eq_none_iff.mpr off
    · exact off
  rw [decodeFrame, bind_eq_ok_iff] at decoded
  obtain ⟨result, _, decoded⟩ := decoded
  cases result with
  | error reason =>
      injection decoded with same
      injection same with same
      rw [← same]
      exact off
  | ok parsed =>
      dsimp only at decoded
      rw [bind_eq_ok_iff] at decoded
      obtain ⟨frameSize, _, decoded⟩ := decoded
      rw [bind_eq_ok_iff] at decoded
      obtain ⟨output, _, decoded⟩ := decoded
      cases output with
      | error reason | ok bytes =>
          injection decoded with same
          injection same with same
          rw [← same]
          exact prepared _

private theorem showFrame_of_handled (bare : rendering.drawFps = none)
    (off : before.interpolation = none) {isAnchor : Bool}
    {outcome : FrameOutcome}
    (handled : handleFrame profile config before isAnchor msg =
      .ok (after, outcome)) (fps : Nat) :
    showFrame profile config rendering fps before isAnchor msg =
        .ok (after, ClientStep.shown rendering ⟨msg, some outcome, after⟩) ∧
      after.interpolation = none := by
  rw [handleFrame, bind_eq_ok_iff] at handled
  obtain ⟨⟨prepared, ended⟩, decoded, handled⟩ := handled
  have kept := decodeFrame_off off decoded
  rw [showFrame, decoded]
  cases ended with
  | decoded frame =>
      injection handled with same
      injection same with sameState sameOutcome
      rw [← sameState, ← sameOutcome]
      refine ⟨?_, Option.map_eq_none_iff.mpr kept⟩
      simp only [bind, Except.bind, displayed_of_off bare kept]
      rfl
  | parseFailed reason | decompressFailed reason =>
      injection handled with same
      injection same with sameState sameOutcome
      rw [← sameState, ← sameOutcome]
      exact ⟨rfl, kept⟩

theorem showMessage_of_handled (bare : rendering.drawFps = none)
    (off : before.interpolation = none) {outcome : Option FrameOutcome}
    (handled : handleMessage profile config before msg =
      .ok (after, outcome)) (fps : Nat) :
    showMessage profile config rendering fps before msg =
        .ok (after, ClientStep.shown rendering ⟨msg, outcome, after⟩) ∧
      after.interpolation = none := by
  have framed : ∀ isAnchor,
      (do
        let (state, outcome) ←
          handleFrame profile config before isAnchor msg
        return (state, some outcome) :
          Exec (ClientState backend × Option FrameOutcome)) =
            .ok (after, outcome) →
      showFrame profile config rendering fps before isAnchor msg =
          .ok (after, ClientStep.shown rendering ⟨msg, outcome, after⟩) ∧
        after.interpolation = none := by
    intro isAnchor done
    rw [bind_eq_ok_iff] at done
    obtain ⟨⟨state, ended⟩, framed, done⟩ := done
    injection done with same
    injection same with sameState sameOutcome
    rw [← sameOutcome]
    rw [sameState] at framed
    exact showFrame_of_handled bare off framed fps
  have unshown : frameKind msg = none → outcome = none →
      showMessage profile config rendering fps before msg =
        .ok (after, ClientStep.shown rendering ⟨msg, outcome, after⟩) := by
    intro other nothing
    rw [showMessage, other]
    dsimp only
    rw [handled, nothing]
    rfl
  have kept := handled
  rw [handleMessage] at kept
  rw [showMessage, frameKind] at unshown ⊢
  cases kind : msg.header.msgType with
  | error reason =>
      rw [kind] at kept unshown
      injection kept with same
      injection same with sameState sameOutcome
      rw [← sameState] at unshown ⊢
      exact ⟨unshown rfl sameOutcome.symm, off⟩
  | ok msgType =>
      rw [kind] at kept unshown
      cases msgType with
      | anchorFrame => exact framed true kept
      | frameUpdate => exact framed false kept
      | resize =>
          injection kept with same
          injection same with sameState sameOutcome
          refine ⟨unshown rfl sameOutcome.symm, ?_⟩
          rw [← sameState, handleResize]
          split
          · exact Option.map_eq_none_iff.mpr off
          · exact off
      | _ =>
          injection kept with same
          injection same with sameState sameOutcome
          rw [← sameState] at unshown ⊢
          exact ⟨unshown rfl sameOutcome.symm, off⟩

/-- What the loop passes to the display is what it decoded. -/
theorem showLoop_of_recvDecompressLoop (bare : rendering.drawFps = none) :
    ∀ {rounds : List (IncomingMessage × Nat)}
      {state : ClientState backend} {steps : List (ClientStep backend)},
      state.interpolation = none →
      recvDecompressLoop profile config state (rounds.map Prod.fst) =
          .ok steps →
        showLoop profile config rendering state rounds =
          .ok (steps.flatMap (ClientStep.shown rendering)) := by
  intro rounds
  induction rounds with
  | nil =>
      intro state steps _ received
      injection received with same
      rw [← same]
      rfl
  | cons round rounds inductionHypothesis =>
      intro state steps off received
      rw [List.map_cons, recvDecompressLoop, bind_eq_ok_iff] at received
      obtain ⟨⟨after, outcome⟩, handled, received⟩ := received
      rw [bind_eq_ok_iff] at received
      obtain ⟨later, rest, done⟩ := received
      injection done with same
      obtain ⟨shown, kept⟩ :=
        showMessage_of_handled bare off handled round.2
      rw [showLoop, shown]
      simp only [bind, Except.bind]
      rw [inductionHypothesis kept rest, ← same]
      rfl

end Plain

end RemoteWay.Client
