import RemoteWay.Base.Runs
import RemoteWay.Server.Regions

/-!
# Rounds of the server

What a completed round computed, step by step, and the loop as a run of
rounds.  The picture that is sent has the dimensions of the captured frame or
those it is scaled to, and its buffer has the size of these dimensions as
`u32` arithmetic computes it.
-/

namespace RemoteWay.Server

open RemoteWay.Base RemoteWay.Proto RemoteWay.Compress
open RemoteWay.Capture RemoteWay.Transport

/-! ## The message of a round -/

def FrameView.geometry (view : FrameView) : Geometry :=
  ⟨view.width, view.height, view.stride⟩

def FrameMessage.geometry (message : FrameMessage) : Geometry :=
  message.view.geometry

/-- The regions of a round are stripes of the full frame, or the damage of a
frame that is sent unscaled, as an update, after an accepted one. -/
theorem chooseRegions_eq_ok {profile : Profile} {config : ServerConfig}
    {state : LoopState} {frame : CapturedFrame} {view : FrameView}
    {regions : List DamageRect}
    (chosen : chooseRegions profile config state frame view = .ok regions) :
    StripesUpTo view.width view.height.toNat regions ∨
      (config.downscale = none ∧ state.forceAnchor = false ∧
        state.needFullDamage = false ∧ regions = frame.damage) := by
  rw [chooseRegions] at chosen
  by_cases striped : ((state.forceAnchor || frame.damage.isEmpty ||
      state.needFullDamage) || config.downscale.isSome) = true
  · rw [if_pos striped] at chosen
    obtain ⟨stripes, striping, upTo⟩ := stripeFullFrame_eq profile
      view.width view.height (max config.threads 1)
    rw [striping] at chosen
    injection chosen with same
    rw [← same]
    exact Or.inl upTo
  · rw [if_neg striped] at chosen
    injection chosen with same
    simp only [Bool.or_eq_true, not_or, Bool.not_eq_true,
      Option.isSome_eq_false_iff, Option.isNone_iff_eq_none] at striped
    obtain ⟨⟨⟨update, _⟩, partialDamage⟩, unscaled⟩ := striped
    exact Or.inr ⟨unscaled, update, partialDamage, same.symm⟩

/-- What `prepareMessage` computed, step by step. -/
structure Prepared (profile : Profile) (config : ServerConfig)
    (state : LoopState) (frame : CapturedFrame) (message : FrameMessage) :
    Prop where
  view : viewOf profile config frame = .ok message.view
  regions : chooseRegions profile config state frame message.view =
    .ok message.regions
  msgType : message.msgType =
    if state.forceAnchor then MsgType.anchorFrame else MsgType.frameUpdate
  timestampNs : message.timestampNs = frame.timestampNs
  base : message.base = state.encodeBase message.view.data.length
  compressed : compressFrameInto profile message.view.data message.base
    message.view.stride.toNat message.regions config.compressorKind =
      .ok message.compressed
  payload : serializeFramePayload message.view.width message.view.height
    message.view.stride message.regions message.compressed =
      .ok message.payload
  wire : splitIntoChunks profile 1 message.msgType Flags.compressed
    message.payload message.timestampNs chunkSize [] = .ok message.wire

theorem prepareMessage_eq_ok {profile : Profile} {config : ServerConfig}
    {state : LoopState} {frame : CapturedFrame} {message : FrameMessage}
    (prepared : prepareMessage profile config state frame = .ok message) :
    Prepared profile config state frame message := by
  rw [prepareMessage, bind_eq_ok_iff] at prepared
  obtain ⟨view, viewed, prepared⟩ := prepared
  rw [bind_eq_ok_iff] at prepared
  obtain ⟨regions, chosen, prepared⟩ := prepared
  rw [bind_eq_ok_iff] at prepared
  obtain ⟨compressed, encoded, prepared⟩ := prepared
  rw [bind_eq_ok_iff] at prepared
  obtain ⟨payload, serialized, prepared⟩ := prepared
  rw [bind_eq_ok_iff] at prepared
  obtain ⟨wire, split, done⟩ := prepared
  injection done with same
  subst same
  exact
    { view := viewed
      regions := chosen
      msgType := rfl
      timestampNs := rfl
      base := rfl
      compressed := encoded
      payload := serialized
      wire := split }

/-- What a completed round consists of. -/
theorem round_eq_ok {profile : Profile} {config : ServerConfig}
    {state : LoopState} {input : RoundInput} {step : ServerStep}
    (done : round profile config state input = .ok step) :
    step.input = input ∧
      step.before =
        state.noteSkipped (!input.newer.isEmpty) input.dropped ∧
      Prepared profile config step.before input.latest step.message ∧
      step.after = step.before.afterSend step.message input.sent := by
  rw [round, bind_eq_ok_iff] at done
  obtain ⟨message, prepared, done⟩ := done
  injection done with same
  subst same
  exact ⟨rfl, rfl, prepareMessage_eq_ok prepared, rfl⟩

theorem round_of_prepareMessage {profile : Profile}
    {config : ServerConfig} {state : LoopState} {input : RoundInput}
    {message : FrameMessage}
    (prepared : prepareMessage profile config
      (state.noteSkipped (!input.newer.isEmpty) input.dropped)
      input.latest = .ok message) :
    round profile config state input =
      .ok
        { input := input
          before :=
            state.noteSkipped (!input.newer.isEmpty) input.dropped
          message := message
          after :=
            (state.noteSkipped (!input.newer.isEmpty)
              input.dropped).afterSend message input.sent } := by
  rw [round, prepared]
  rfl

/-! ## The picture that is sent -/

def capturedGeometry (frame : CapturedFrame) : Geometry :=
  ⟨frame.width, frame.height, frame.stride⟩

/-- The dimensions that a captured picture is sent with. -/
def ServerConfig.sentGeometry (config : ServerConfig)
    (captured : Geometry) : Geometry :=
  match config.downscale with
  | none => captured
  | some down =>
      ⟨down.target captured.width, down.target captured.height,
        down.target captured.width * 4⟩

/-- The length of the buffer that is sent. -/
def ServerConfig.sentLength (config : ServerConfig)
    (captured : Geometry) : Nat :=
  match config.downscale with
  | none => captured.size
  | some _ =>
      ((config.sentGeometry captured).stride *
        (config.sentGeometry captured).height).toNat

theorem sentLength_eq_size {config : ServerConfig} {captured : Geometry}
    (fits : (config.sentGeometry captured).size < UInt32.size) :
    config.sentLength captured = (config.sentGeometry captured).size := by
  cases scaling : config.downscale with
  | none => simp [ServerConfig.sentLength, ServerConfig.sentGeometry, scaling]
  | some down =>
      rw [ServerConfig.sentLength, scaling]
      dsimp only
      rw [UInt32.toNat_mul]
      exact Nat.mod_eq_of_lt fits

theorem viewOf_eq_ok {profile : Profile} {config : ServerConfig}
    {frame : CapturedFrame} {view : FrameView} (formed : frame.WellFormed)
    (viewed : viewOf profile config frame = .ok view) :
    view.geometry = config.sentGeometry (capturedGeometry frame) ∧
      view.data.length = config.sentLength (capturedGeometry frame) := by
  rw [ServerConfig.sentLength, ServerConfig.sentGeometry]
  rw [viewOf] at viewed
  cases scaling : config.downscale with
  | none =>
      rw [scaling] at viewed
      injection viewed with same
      rw [← same]
      exact ⟨rfl, formed.length_eq⟩
  | some down =>
      rw [scaling] at viewed
      dsimp only at viewed
      rw [bind_eq_ok_iff] at viewed
      obtain ⟨⟨dstStride, scaledBuf⟩, scaled, viewed⟩ := viewed
      rw [bind_eq_ok_iff] at viewed
      obtain ⟨stride, strideEq, viewed⟩ := viewed
      injection viewed with same
      obtain ⟨dstStrideEq, total, totalEq, width⟩ :=
        length_of_downscale scaled
      have strideMul := u32Mul_eq_ok strideEq
      have dstStrideMul := u32Mul_eq_ok dstStrideEq
      have totalMul := u32Mul_eq_ok totalEq
      rw [← same]
      refine ⟨?_, ?_⟩
      · rw [FrameView.geometry, ← strideMul]
        rfl
      · rw [width, ← totalMul, ← dstStrideMul]
        rfl

/-- The buffer that is sent has the size of the dimensions it is announced
with, when these can be computed in `u32`. -/
theorem length_eq_size_of_viewOf {profile : Profile}
    {config : ServerConfig} {frame : CapturedFrame} {view : FrameView}
    (formed : frame.WellFormed)
    (viewed : viewOf profile config frame = .ok view)
    (fits : view.geometry.size < UInt32.size) :
    view.data.length = view.geometry.size := by
  obtain ⟨geometryEq, width⟩ := viewOf_eq_ok formed viewed
  rw [geometryEq] at fits ⊢
  rw [width, sentLength_eq_size fits]

/-- Stripes and damage both stay inside the picture that is sent. -/
theorem chooseRegions_within {profile : Profile} {config : ServerConfig}
    {state : LoopState} {frame : CapturedFrame} {view : FrameView}
    {regions : List DamageRect} (formed : frame.WellFormed)
    (viewed : viewOf profile config frame = .ok view)
    (chosen : chooseRegions profile config state frame view = .ok regions)
    (rows : view.geometry.RowsFit) :
    RegionsWithin view.geometry regions := by
  rcases chooseRegions_eq_ok chosen with
    upTo | ⟨unscaled, _, _, damage⟩
  · exact StripesUpTo.within upTo rows
  · have geometryEq := (viewOf_eq_ok formed viewed).1
    rw [ServerConfig.sentGeometry, unscaled] at geometryEq
    rw [damage]
    apply regionsWithin_of_inPicture rows
    rw [geometryEq]
    exact formed.damage_inside

/-- The delta of the chosen regions visits only visible bytes. -/
theorem chooseRegions_visible {profile : Profile} {config : ServerConfig}
    {state : LoopState} {frame : CapturedFrame} {view : FrameView}
    {regions : List DamageRect} (formed : frame.WellFormed)
    (viewed : viewOf profile config frame = .ok view)
    (chosen : chooseRegions profile config state frame view = .ok regions)
    {offset : Nat}
    (member : offset ∈ regionOffsets view.geometry.stride.toNat regions) :
    view.geometry.Visible offset := by
  refine visible_of_mem_regionOffsets ?_ member
  intro rect rectMember
  rcases chooseRegions_eq_ok chosen with
    upTo | ⟨unscaled, _, _, damage⟩
  · obtain ⟨left, width⟩ := upTo.fullWidth rect rectMember
    refine ⟨?_, fun row inside => ?_⟩
    · rw [left, width]
      exact Nat.le_of_eq (Nat.zero_add _)
    · exact @StripesUpTo.row_lt view.geometry _ upTo _ rectMember _ inside
  · have geometryEq := (viewOf_eq_ok formed viewed).1
    rw [ServerConfig.sentGeometry, unscaled] at geometryEq
    rw [damage] at rectMember
    rw [geometryEq]
    obtain ⟨columns, lines⟩ := formed.damage_inside rect rectMember
    refine ⟨columns, ?_⟩
    intro row inside
    change rect.y.toNat + row < frame.height.toNat
    omega

/-- Without downscaling the captured frame itself is sent. -/
theorem viewOf_unscaled {profile : Profile} {config : ServerConfig}
    {frame : CapturedFrame} {view : FrameView}
    (unscaled : config.downscale = none)
    (viewed : viewOf profile config frame = .ok view) :
    view = ⟨frame.data, frame.width, frame.height, frame.stride⟩ := by
  rw [viewOf, unscaled] at viewed
  injection viewed with same
  exact same.symm

/-! ## The message of a well-formed frame -/

section Prepared

variable {profile : Profile} {config : ServerConfig} {state : LoopState}
variable {frame : CapturedFrame} {message : FrameMessage}

theorem Prepared.geometry_eq
    (prepared : Prepared profile config state frame message)
    (formed : frame.WellFormed) :
    message.geometry = config.sentGeometry (capturedGeometry frame) :=
  (viewOf_eq_ok formed prepared.view).1

theorem Prepared.length_eq
    (prepared : Prepared profile config state frame message)
    (formed : frame.WellFormed) :
    message.view.data.length =
      config.sentLength (capturedGeometry frame) :=
  (viewOf_eq_ok formed prepared.view).2

theorem Prepared.length_eq_size
    (prepared : Prepared profile config state frame message)
    (formed : frame.WellFormed)
    (fits : message.geometry.size < UInt32.size) :
    message.view.data.length = message.geometry.size :=
  length_eq_size_of_viewOf formed prepared.view fits

theorem Prepared.within
    (prepared : Prepared profile config state frame message)
    (formed : frame.WellFormed) (rows : message.geometry.RowsFit) :
    RegionsWithin message.geometry message.regions :=
  chooseRegions_within formed prepared.view prepared.regions rows

/-- An anchor is striped. -/
theorem Prepared.stripes_of_anchor
    (prepared : Prepared profile config state frame message)
    (anchor : state.forceAnchor = true) :
    StripesUpTo message.geometry.width message.geometry.height.toNat
      message.regions := by
  rcases chooseRegions_eq_ok prepared.regions with
    upTo | ⟨_, update, _⟩
  · exact upTo
  · rw [anchor] at update
    cases update

end Prepared

/-! ## The loop -/

/-- One round as a step of the loop state. -/
def roundStep (profile : Profile) (config : ServerConfig)
    (before : LoopState) (done : ServerStep) (after : LoopState) : Prop :=
  round profile config before done.input = .ok done ∧ done.after = after

/-- The rounds of the loop are a run. -/
theorem run_of_compressSendLoop {profile : Profile}
    {config : ServerConfig} :
    ∀ {inputs : List RoundInput} {state : LoopState}
      {steps : List ServerStep},
      compressSendLoop profile config state inputs = .ok steps →
        steps.map ServerStep.input = inputs ∧
          ∃ last, Run (roundStep profile config) state steps last
  | [], state, steps, done => by
      rw [compressSendLoop] at done
      injection done with same
      rw [← same]
      exact ⟨rfl, state, .nil state⟩
  | input :: inputs, state, steps, done => by
      rw [compressSendLoop, bind_eq_ok_iff] at done
      obtain ⟨step, first, done⟩ := done
      rw [bind_eq_ok_iff] at done
      obtain ⟨later, rest, done⟩ := done
      injection done with same
      obtain ⟨inputEq, _, _, _⟩ := round_eq_ok first
      obtain ⟨inputsEq, last, run⟩ := run_of_compressSendLoop rest
      rw [← inputEq] at first
      rw [← same]
      refine ⟨?_, last, .cons ⟨first, rfl⟩ run⟩
      rw [List.map_cons, inputEq, inputsEq]

/-- A run of rounds is a run of the loop. -/
theorem compressSendLoop_of_rounds {profile : Profile}
    {config : ServerConfig} {state last : LoopState}
    {steps : List ServerStep}
    (run : Run (roundStep profile config) state steps last) :
    compressSendLoop profile config state (steps.map ServerStep.input) =
      .ok steps := by
  induction run with
  | nil here => rfl
  | @cons before after last step steps stepped rest inductionHypothesis =>
      obtain ⟨done, afterEq⟩ := stepped
      rw [List.map_cons, compressSendLoop, done]
      simp only [bind, Except.bind]
      rw [afterEq, inductionHypothesis]
      rfl

/-- The delta base is empty before the first round, and has the length of
the pictures that are sent afterwards. -/
def BaseSized (length : Nat) (state : LoopState) : Prop :=
  (state.isFirst = true ∧ state.previousFrame = []) ∨
    (state.isFirst = false ∧ state.previousFrame.length = length)

theorem baseSized_initial (length : Nat) :
    BaseSized length LoopState.initial :=
  Or.inl ⟨rfl, rfl⟩

theorem BaseSized.noteSkipped {length : Nat} {state : LoopState}
    (sized : BaseSized length state) (skipped dropped : Bool) :
    BaseSized length (state.noteSkipped skipped dropped) :=
  sized

theorem BaseSized.length_encodeBase {length : Nat} {state : LoopState}
    (sized : BaseSized length state) :
    (state.encodeBase length).length = length := by
  rw [LoopState.encodeBase]
  rcases sized with ⟨first, _⟩ | ⟨_, width⟩
  · rw [LoopState.forceAnchor, first]
    exact length_resize _ _ _
  · by_cases anchor : state.forceAnchor = true
    · rw [if_pos anchor]
      exact length_resize _ _ _
    · rw [if_neg anchor]
      exact width

/-- Resizing changes no byte of a base that has the right length or is
empty. -/
theorem BaseSized.getD_encodeBase {length : Nat} {state : LoopState}
    (sized : BaseSized length state) (offset : Nat) :
    (state.encodeBase length).getD offset 0 =
      state.previousFrame.getD offset 0 := by
  have resized : (resize state.previousFrame length 0).getD offset 0 =
      state.previousFrame.getD offset 0 := by
    rcases sized with ⟨_, empty⟩ | ⟨_, width⟩
    · rw [empty]
      by_cases inside : offset < length
      · exact getD_resize [] length 0 inside
      · simp [resize, List.getD_eq_getElem?_getD, inside]
    · rw [← width, resize_length]
  rw [LoopState.encodeBase]
  by_cases anchor : state.forceAnchor = true
  · rw [if_pos anchor]
    exact resized
  · rw [if_neg anchor]

end RemoteWay.Server
