import RemoteWay.Client.DisplayOutput
import RemoteWay.Display.PixelFidelity
import RemoteWay.System.Lockstep

/-!
# Colours from capture to display

A captured frame has one of four pixel formats, but no message says which:
every stage copies bytes, and the client creates all its buffers as
`Xrgb8888`.  So the colours survive when the bytes that reach the buffer,
read as `Xrgb8888`, mean what the captured ones mean in their own format.
-/

namespace RemoteWay.System

open RemoteWay.Base RemoteWay.Proto RemoteWay.Compress
open RemoteWay.Capture RemoteWay.Server RemoteWay.Client
open RemoteWay.Transport RemoteWay.Display

/-! ## Colours -/

structure Colour where
  red : UInt8
  green : UInt8
  blue : UInt8
  deriving DecidableEq, Repr

/-- The colour of the four bytes of a pixel.  The names of the formats list
the channels from the most significant byte of a little-endian word. -/
def colourOf (format : PixelFormat) (bytes : List UInt8) : Colour :=
  match format with
  | .argb8888 | .xrgb8888 =>
      ⟨bytes.getD 2 0, bytes.getD 1 0, bytes.getD 0 0⟩
  | .abgr8888 | .xbgr8888 =>
      ⟨bytes.getD 0 0, bytes.getD 1 0, bytes.getD 2 0⟩

/-- The format of the buffers that `init_surface_uploader` and
`resize_surface` create. -/
def bufferFormat : PixelFormat := .xrgb8888

def capturedPicture (frame : CapturedFrame) : Picture :=
  ⟨frame.width, frame.height, frame.stride, frame.data⟩

/-- Each pixel has the captured colour. -/
def ColoursSurvive (frame : CapturedFrame) (commit : Commit) : Prop :=
  ∀ x y, x < frame.width.toNat → y < frame.height.toNat →
    (commit.picture.pixel x y).map (colourOf bufferFormat) =
      ((capturedPicture frame).pixel x y).map (colourOf frame.format)

def pixelBytes (byteAt : Nat → UInt8) (start : Nat) : List UInt8 :=
  (List.range 4).map fun index => byteAt (start + index)

/-- A byte of the frame, with zeros between the rows. -/
def clearedByte (frame : CapturedFrame) (offset : Nat) : UInt8 :=
  if offset % frame.stride.toNat < frame.width.toNat * 4 then
    frame.data.getD offset 0
  else
    0

/-- The colour of a captured pixel. -/
def capturedColour (frame : CapturedFrame) (x y : Nat) : Colour :=
  colourOf frame.format (pixelBytes (fun offset =>
    frame.data.getD offset 0) (y * frame.stride.toNat + x * 4))

/-- The colour of the pixel in a buffer with the bytes of the frame. -/
def bufferColour (frame : CapturedFrame) (x y : Nat) : Colour :=
  colourOf bufferFormat (pixelBytes (clearedByte frame)
    (y * (frame.width.toNat * 4) + x * 4))

/-- Read as `Xrgb8888` in rows of `width * 4` bytes, the frame has the colours
that it has in its own format and rows. -/
def ReadsAlike (frame : CapturedFrame) : Prop :=
  ∀ x, x < frame.width.toNat → ∀ y, y < frame.height.toNat →
    bufferColour frame x y = capturedColour frame x y

instance (frame : CapturedFrame) : Decidable (ReadsAlike frame) :=
  inferInstanceAs (Decidable (∀ x, x < _ → ∀ y, y < _ → _))

/-- The format that the buffers have, up to alpha. -/
def InBufferOrder (format : PixelFormat) : Prop :=
  format = .argb8888 ∨ format = .xrgb8888

theorem colourOf_eq_iff {format : PixelFormat} {bytes : List UInt8} :
    colourOf bufferFormat bytes = colourOf format bytes ↔
      InBufferOrder format ∨
        (colourOf format bytes).red = (colourOf format bytes).blue := by
  cases format with
  | argb8888 => exact ⟨fun _ => Or.inl (Or.inl rfl), fun _ => rfl⟩
  | xrgb8888 => exact ⟨fun _ => Or.inl (Or.inr rfl), fun _ => rfl⟩
  | abgr8888 | xbgr8888 =>
      simp [colourOf, bufferFormat, InBufferOrder, eq_comm]

/-- Where a row starts at the same byte for both row lengths, its colours
agree if the channels have the order of the buffer, or red and blue do. -/
theorem bufferColour_eq_iff {frame : CapturedFrame}
    (rows : frame.width.toNat * 4 ≤ frame.stride.toNat) {x y : Nat}
    (xBound : x < frame.width.toNat)
    (start : y * (frame.width.toNat * 4) = y * frame.stride.toNat) :
    bufferColour frame x y = capturedColour frame x y ↔
      InBufferOrder frame.format ∨
        (capturedColour frame x y).red = (capturedColour frame x y).blue := by
  have cleared : pixelBytes (clearedByte frame)
        (y * (frame.width.toNat * 4) + x * 4) =
      pixelBytes (fun offset => frame.data.getD offset 0)
        (y * frame.stride.toNat + x * 4) := by
    rw [start]
    apply List.map_congr_left
    intro index member
    have inside := List.mem_range.mp member
    rw [clearedByte, Nat.add_assoc, Nat.mul_add_mod',
      Nat.mod_eq_of_lt (by omega), if_pos (by omega)]
  rw [bufferColour, cleared]
  exact colourOf_eq_iff

/-- Without padding, the colours are the same as long as the channels have
the order of the buffer or red and blue agree. -/
theorem readsAlike_iff_of_unpadded {frame : CapturedFrame}
    (unpadded : frame.stride.toNat = frame.width.toNat * 4) :
    ReadsAlike frame ↔
      InBufferOrder frame.format ∨
        ∀ x, x < frame.width.toNat → ∀ y, y < frame.height.toNat →
          (capturedColour frame x y).red =
            (capturedColour frame x y).blue := by
  have each := fun x y (xBound : x < frame.width.toNat) =>
    @bufferColour_eq_iff frame (Nat.le_of_eq unpadded.symm) x y xBound
      (by rw [unpadded])
  constructor
  · intro alike
    apply or_iff_not_imp_left.mpr
    intro other x xBound y yBound
    rcases (each x y xBound).mp (alike x xBound y yBound) with order | same
    · exact absurd order other
    · exact same
  · intro order x xBound y yBound
    exact (each x y xBound).mpr
      (order.imp_right fun same => same x xBound y yBound)

/-! ## Layouts -/

section Layouts

variable {format : PixelFormat} {width height stride : UInt32}

variable (format width height stride) in
/-- A frame with a single byte that is not zero. -/
def markedFrame (offset : Nat) : CapturedFrame where
  data := (List.replicate (stride.toNat * height.toNat) 0).set offset 1
  damage := []
  format := format
  width := width
  height := height
  stride := stride
  timestampNs := 0

theorem markedFrame_wellFormed
    (rows : width.toNat * 4 ≤ stride.toNat) (offset : Nat) :
    (markedFrame format width height stride offset).WellFormed where
  length_eq := by
    rw [markedFrame, List.length_set, List.length_replicate]
  rows := rows
  damage_inside := by
    intro rect member
    cases member

theorem getD_markedFrame {offset : Nat} (read : Nat)
    (inside : offset < stride.toNat * height.toNat) :
    (markedFrame format width height stride offset).data.getD read 0 =
      if offset = read then 1 else 0 := by
  simp only [markedFrame, List.getD_eq_getElem?_getD, List.getElem?_set,
    List.length_replicate, inside, if_true]
  by_cases same : offset = read
  · simp [same]
  · rw [if_neg same, if_neg same, List.getElem?_replicate]
    split <;> rfl

theorem clearedByte_markedFrame {offset : Nat} (read : Nat)
    (inside : offset < stride.toNat * height.toNat) :
    clearedByte (markedFrame format width height stride offset) read =
      if read % stride.toNat < width.toNat * 4 then
        if offset = read then 1 else 0
      else
        0 := by
  rw [clearedByte, getD_markedFrame _ inside]
  rfl

/-- If the channels have another order, a frame whose first byte is set does
not read alike. -/
theorem not_readsAlike_of_order (order : ¬ InBufferOrder format)
    (columns : 0 < width.toNat) (lines : 0 < height.toNat)
    (rows : width.toNat * 4 ≤ stride.toNat) :
    ¬ ReadsAlike (markedFrame format width height stride 0) := by
  intro alike
  have inside : 0 < stride.toNat * height.toNat :=
    Nat.mul_pos (by omega) lines
  have blue := congrArg Colour.blue (alike 0 columns 0 lines)
  have swapped : ∀ bytes : List UInt8,
      (colourOf format bytes).blue = bytes.getD 2 0 := by
    intro bytes
    cases format with
    | argb8888 => exact absurd (Or.inl rfl) order
    | xrgb8888 => exact absurd (Or.inr rfl) order
    | abgr8888 | xbgr8888 => rfl
  change _ = (colourOf format _).blue at blue
  rw [swapped] at blue
  change clearedByte _ (0 * (width.toNat * 4) + 0 * 4) =
    List.getD _ (0 * stride.toNat + 0 * 4 + 2) 0 at blue
  have column : (0 * (width.toNat * 4) + 0 * 4) % stride.toNat <
      width.toNat * 4 := by
    rw [Nat.zero_mul, Nat.zero_mul, Nat.zero_mod]
    omega
  rw [clearedByte_markedFrame _ inside, if_pos column,
    getD_markedFrame _ inside] at blue
  simp at blue

/-- If there is padding before a second row, a frame whose second row has its
first byte set does not read alike. -/
theorem not_readsAlike_of_padded (order : InBufferOrder format)
    (columns : 0 < width.toNat) (tall : 1 < height.toNat)
    (padded : width.toNat * 4 < stride.toNat) :
    ¬ ReadsAlike
      (markedFrame format width height stride stride.toNat) := by
  intro alike
  have inside : stride.toNat < stride.toNat * height.toNat := by
    have room : stride.toNat * 2 ≤ stride.toNat * height.toNat :=
      Nat.mul_le_mul_left _ tall
    omega
  have blue := congrArg Colour.blue (alike 0 columns 1 tall)
  have sameOrder : ∀ bytes : List UInt8,
      (colourOf format bytes).blue = bytes.getD 0 0 := by
    intro bytes
    rcases order with rfl | rfl <;> rfl
  change _ = (colourOf format _).blue at blue
  rw [sameOrder] at blue
  change clearedByte _ (1 * (width.toNat * 4) + 0 * 4) =
    List.getD _ (1 * stride.toNat + 0 * 4) 0 at blue
  -- the row starts in the padding of the first one
  have column : ¬ (1 * (width.toNat * 4) + 0 * 4) % stride.toNat <
      width.toNat * 4 := by
    rw [Nat.mod_eq_of_lt (by omega)]
    omega
  rw [clearedByte_markedFrame _ inside, if_neg column,
    getD_markedFrame _ inside] at blue
  simp at blue

/-- Every picture of a layout reads alike only if its format has the order
of the buffer, and there is no padding or at most one row. -/
theorem readsAlike_forall_iff (rows : width.toNat * 4 ≤ stride.toNat) :
    (∀ frame : CapturedFrame, frame.format = format →
        frame.width = width → frame.height = height →
          frame.stride = stride → frame.WellFormed → ReadsAlike frame) ↔
      width.toNat = 0 ∨ height.toNat = 0 ∨
        (InBufferOrder format ∧
          (height.toNat ≤ 1 ∨ stride.toNat = width.toNat * 4)) := by
  constructor
  · intro all
    have alike := fun offset =>
      all (markedFrame format width height stride offset) rfl rfl rfl rfl
        (markedFrame_wellFormed rows offset)
    by_contra failing
    simp only [not_or, not_and_or] at failing
    obtain ⟨columns, lines, failing⟩ := failing
    have wide := Nat.pos_of_ne_zero columns
    by_cases order : InBufferOrder format
    · rcases failing with other | ⟨tall, longer⟩
      · exact other order
      · exact not_readsAlike_of_padded order wide
          (Nat.lt_of_not_le tall)
          (Nat.lt_of_le_of_ne rows fun same => longer same.symm) (alike _)
    · exact not_readsAlike_of_order order wide (Nat.pos_of_ne_zero lines)
        rows (alike 0)
  · rintro (empty | empty | ⟨order, whole⟩) frame rfl rfl rfl rfl formed
      x xBound y yBound
    · omega
    · omega
    · have start : y * (frame.width.toNat * 4) =
          y * frame.stride.toNat := by
        rcases whole with single | unpadded
        · have first : y = 0 := by omega
          rw [first, Nat.zero_mul, Nat.zero_mul]
        · rw [unpadded]
      exact (bufferColour_eq_iff formed.rows xBound start).mpr
        (Or.inl order)

end Layouts

/-! ## Padding -/

/-- Bytes that show no pixel are zero. -/
def ZeroPadding (geometry : Geometry) (bytes : List UInt8) : Prop :=
  ∀ offset, ¬ geometry.Visible offset → bytes.getD offset 0 = 0

section Padding

variable {backend : Type} {geometry : Geometry} {bytes : List UInt8}

theorem ZeroPadding.resize (zero : ZeroPadding geometry bytes)
    (length : Nat) : ZeroPadding geometry (resize bytes length 0) := by
  intro offset hidden
  by_cases inside : offset < length
  · rw [getD_resize bytes length 0 inside]
    exact zero offset hidden
  · apply List.getD_eq_default
    rw [length_resize]
    omega

theorem ZeroPadding.prepareBase {client : ClientState backend}
    (zero : ZeroPadding geometry client.previousFrame) (isAnchor : Bool)
    (frameSize : Nat) :
    ZeroPadding geometry
      (client.prepareBase isAnchor frameSize).previousFrame := by
  rw [ClientState.prepareBase]
  split
  · exact zero.resize frameSize
  · exact zero

/-- The delta leaves the padding alone. -/
theorem ZeroPadding.decodedOutput {message : FrameMessage}
    (zero : ZeroPadding message.geometry bytes)
    (visible : ∀ offset,
      offset ∈ regionOffsets message.view.stride.toNat message.regions →
        message.geometry.Visible offset) :
    ZeroPadding message.geometry (decodedOutput message bytes) := by
  intro offset hidden
  by_cases inside : offset < bytes.length
  · rw [getD_decodedOutput_of_not_mem inside
      fun member => hidden (visible offset member)]
    exact zero offset hidden
  · apply List.getD_eq_default
    rw [length_decodedOutput]
    omega

end Padding

/-! ## The frame that is shown -/

/-- A decoded frame is the captured one with zeros between the rows. -/
structure Redraws (captured : CapturedFrame) (frame : DecodedFrame) :
    Prop where
  formed : captured.WellFormed
  width : frame.width = captured.width
  height : frame.height = captured.height
  length : frame.output.length = captured.data.length
  bytes : ∀ offset,
    frame.output.getD offset 0 = clearedByte captured offset

theorem redraws_of_samePicture {captured : CapturedFrame}
    {frame : DecodedFrame} (formed : captured.WellFormed)
    (width : frame.width = captured.width)
    (height : frame.height = captured.height)
    (length : frame.output.length = (capturedGeometry captured).size)
    (same : (capturedGeometry captured).SamePicture frame.output
      captured.data)
    (zero : ZeroPadding (capturedGeometry captured) frame.output) :
    Redraws captured frame where
  formed := formed
  width := width
  height := height
  length := length.trans formed.length_eq.symm
  bytes := by
    intro offset
    have visible := @Geometry.visible_iff (capturedGeometry captured)
      formed.rows offset
    rw [clearedByte]
    by_cases inside : offset < (capturedGeometry captured).size
    · by_cases column :
          offset % captured.stride.toNat < captured.width.toNat * 4
      · rw [if_pos column]
        exact same offset (visible.mpr ⟨inside, column⟩)
      · rw [if_neg column]
        exact zero offset fun shown => column (visible.mp shown).2
    · have beyond : captured.data.length ≤ offset := by
        rw [formed.length_eq]
        exact Nat.le_of_not_lt inside
      rw [zero offset fun shown => inside (visible.mp shown).1,
        List.getD_eq_default _ _ beyond, ite_self]

/-- A committed frame that redraws the captured one has its colours exactly
when it reads alike. -/
theorem coloursSurvive_iff {captured : CapturedFrame}
    {decoded : DecodedFrame} {frame : DisplayFrame} {commit : Commit}
    (redraws : Redraws captured decoded)
    (width : frame.width = decoded.width)
    (height : frame.height = decoded.height)
    (data : frame.data = decoded.output) (shown : Display.Shows frame commit) :
    ColoursSurvive captured commit ↔ ReadsAlike captured := by
  have formed := redraws.formed
  have widthEq := width.trans redraws.width
  have heightEq := height.trans redraws.height
  have enough : frame.width.toNat * 4 * frame.height.toNat ≤
      frame.data.length := by
    rw [data, redraws.length, formed.length_eq, widthEq, heightEq]
    exact Nat.mul_le_mul_right _ formed.rows
  have committed : ∀ x y, x < captured.width.toNat →
      y < captured.height.toNat →
        commit.picture.pixel x y = some (pixelBytes (clearedByte captured)
          (y * (captured.width.toNat * 4) + x * 4)) := by
    intro x y xBound yBound
    rw [← widthEq] at xBound
    rw [← heightEq] at yBound
    rw [shown.pixel_eq enough xBound yBound, widthEq, data]
    simp only [redraws.bytes]
    rfl
  have own : ∀ x y, x < captured.width.toNat → y < captured.height.toNat →
      (capturedPicture captured).pixel x y =
        some (pixelBytes (fun offset => captured.data.getD offset 0)
          (y * captured.stride.toNat + x * 4)) :=
    fun _ _ => @Picture.pixel_of_whole (capturedPicture captured)
      formed.rows (Nat.le_of_eq formed.length_eq.symm) _ _
  constructor
  · intro survive x xBound y yBound
    have same := survive x y xBound yBound
    rw [committed x y xBound yBound, own x y xBound yBound] at same
    exact Option.some_inj.mp same
  · intro alike x y xBound yBound
    rw [committed x y xBound yBound, own x y xBound yBound]
    exact congrArg some (alike x xBound y yBound)

/-! ## Whole runs -/

section Runs

variable {backend : Type}
variable {serverProfile clientProfile : Profile}
variable {serverConfig : ServerConfig} {clientConfig : ClientConfig backend}
variable {captured : Geometry}

/-- The client decoded the frame of the round, with zeros between the
rows. -/
def Restored (server : ServerStep) (client : ClientStep backend) : Prop :=
  ∃ frame, client.outcome = some (.decoded frame) ∧
    Redraws server.input.latest frame

/-- The states of both loops between two rounds. -/
structure InStep (captured : Geometry) (config : ServerConfig)
    (server : LoopState) (client : ClientState backend) : Prop where
  sized : BaseSized (config.sentLength captured) server
  synced : Synced (config.sentGeometry captured) server client
  padding : ZeroPadding captured client.previousFrame

theorem inStep_initial
    (interpolation : Option (Interpolate.InterpolationManager backend)) :
    InStep captured serverConfig LoopState.initial
      (ClientState.initial interpolation) where
  sized := baseSized_initial _
  synced := synced_initial _ interpolation
  padding := fun _ _ => rfl

/-- A refused round keeps the states in step. -/
theorem InStep.refused {before after : LoopState} {step : ServerStep}
    {client : ClientState backend}
    (inStep : InStep captured serverConfig before client)
    (stepped : roundStep serverProfile serverConfig before step after)
    (framed : CapturedAs captured step.input)
    (refused : step.input.sent = false) :
    InStep captured serverConfig after client where
  sized := (roundStep_base stepped framed inStep.sized).1
  synced :=
    { picture := inStep.synced.picture.trans
        (roundStep_refused stepped framed inStep.sized refused _).symm
      sized := inStep.synced.sized }
  padding := inStep.padding

/-- The frame of an accepted round is restored. -/
theorem InStep.accepted {before after : LoopState} {step : ServerStep}
    {client : ClientState backend}
    (inStep : InStep captured serverConfig before client)
    (sameKind : clientConfig.compressorKind = serverConfig.compressorKind)
    (lossless : serverConfig.compressorKind.Lossless)
    (unscaled : serverConfig.downscale = none)
    (stepped : roundStep serverProfile serverConfig before step after)
    (reaches : Reaches captured step) (accepted : step.input.sent = true) :
    ∃ clientAfter outcome,
      handleMessage clientProfile clientConfig client
          (messageOf step.message) = .ok (clientAfter, some outcome) ∧
        (∀ msg, Carries step.message msg →
          Restored step ⟨msg, some outcome, clientAfter⟩) ∧
        InStep captured serverConfig after clientAfter := by
  obtain ⟨framed, covered, fits⟩ := reaches
  obtain ⟨handled, width, shown⟩ := roundStep_handled clientProfile
    sameKind lossless stepped framed inStep.sized accepted covered
    (fits accepted) inStep.synced
  obtain ⟨clientAfter, outcome, again, _, nextSynced⟩ := roundStep_accepted
    sameKind lossless stepped framed inStep.sized accepted covered
    (fits accepted) inStep.synced
  rw [handled] at again
  injection again with same
  injection same with sameState sameOutcome
  rw [← sameState] at nextSynced
  obtain ⟨_, _, prepared, _⟩ := round_eq_ok stepped.1
  have viewEq := viewOf_unscaled unscaled prepared.view
  have geometryEq : step.message.geometry =
      capturedGeometry step.input.latest := by
    rw [FrameMessage.geometry, viewEq]
    rfl
  have padding : ZeroPadding step.message.geometry
      client.previousFrame := by
    rw [geometryEq, framed.geometry]
    exact inStep.padding
  have cleared := (padding.prepareBase step.before.forceAnchor
    step.message.geometry.size).decodedOutput fun _ =>
      chooseRegions_visible framed.formed prepared.view prepared.regions
  refine ⟨_, _, handled, ?_, ?_⟩
  · intro msg _
    refine ⟨_, rfl, redraws_of_samePicture framed.formed ?_ ?_ ?_ ?_ ?_⟩
    · exact congrArg FrameView.width viewEq
    · exact congrArg FrameView.height viewEq
    · exact (length_decodedOutput.trans width).trans
        (congrArg Geometry.size geometryEq)
    · have dataEq : step.message.view.data = step.input.latest.data :=
        congrArg FrameView.data viewEq
      rw [← geometryEq, ← dataEq]
      exact shown
    · rw [← geometryEq]
      exact cleared
  · refine ⟨(roundStep_base stepped framed inStep.sized).1, nextSynced, ?_⟩
    rw [← framed.geometry, ← geometryEq]
    exact cleared

theorem follows_restored
    (sameKind : clientConfig.compressorKind = serverConfig.compressorKind)
    (lossless : serverConfig.compressorKind.Lossless)
    (unscaled : serverConfig.downscale = none)
    {steps : List ServerStep} {before last : LoopState}
    (run : Run (roundStep serverProfile serverConfig) before steps last)
    {client : ClientState backend}
    (each : ∀ step, step ∈ steps → Reaches captured step)
    (inStep : InStep captured serverConfig before client) :
    Follows clientProfile clientConfig Restored client steps := by
  refine follows_of_rounds (Reaches captured)
    (InStep captured serverConfig) ?_ ?_ run each inStep
  · intro before after step client stepped reaches refused inStep
    exact inStep.refused stepped reaches.1 refused
  · intro before after step client stepped reaches accepted inStep
    exact inStep.accepted sameKind lossless unscaled stepped reaches
      accepted

end Runs

/-! ## From capture to display -/

section Display

variable {backend : Type} {rendering : Rendering}

/-- A frame passed to the display redraws the captured frame of a round. -/
def Shown (rendering : Rendering) (step : ServerStep)
    (frame : DisplayFrame) : Prop :=
  ∃ header decoded, frame = rendering.realFrame 0 header decoded ∧
    Redraws step.input.latest decoded

/-- The property holds of whatever a run of the display thread commits for
the frame. -/
def OnceCommitted (frame : DisplayFrame) (property : Commit → Prop) :
    Prop :=
  ∀ profile capacity actions last,
    Run (DisplayThread.Step profile capacity) .spawn actions last →
      ∀ item commit, (item, commit) ∈ last.committed →
        item.frame = frame → property commit

/-- Each restored frame is passed to the display. -/
theorem forall₂_shown :
    ∀ {serverSteps : List ServerStep}
      {clientSteps : List (ClientStep backend)},
      List.Forall₂ Restored serverSteps (frameSteps clientSteps) →
        List.Forall₂ (Shown rendering) serverSteps
          (clientSteps.flatMap (ClientStep.shown rendering)) := by
  intro serverSteps clientSteps
  induction clientSteps generalizing serverSteps with
  | nil =>
      intro restored
      cases restored
      exact .nil
  | cons client clientSteps inductionHypothesis =>
      intro restored
      rw [frameSteps, List.filter_cons] at restored
      rw [List.flatMap_cons]
      cases framed : client.outcome with
      | none =>
          rw [framed] at restored
          have nothing : client.shown rendering = [] := by
            rw [ClientStep.shown, framed]
          rw [nothing]
          exact inductionHypothesis restored
      | some outcome =>
          rw [framed] at restored
          cases restored with
          | cons here later =>
              obtain ⟨frame, decoded, redraws⟩ := here
              have single : client.shown rendering =
                  [rendering.realFrame 0 client.msg.header frame] := by
                rw [ClientStep.shown, decoded]
              rw [single]
              exact .cons ⟨_, frame, rfl, redraws⟩
                (inductionHypothesis later)

/-- Over every run with scaling, interpolation and overlay off, the client
passes one frame to the display for each accepted message; and in every run
of the display thread, what is committed for it has the captured colours if
and only if the captured frame reads alike.  This is so for all frames of a
layout only if its format has the order of the buffer, and there is no
padding or at most one row. -/
theorem coloursSurvive_iff_readsAlike
    {serverProfile clientProfile : Profile} {serverConfig : ServerConfig}
    {clientConfig : ClientConfig backend} {captured : Geometry}
    (sameKind : clientConfig.compressorKind = serverConfig.compressorKind)
    (lossless : serverConfig.compressorKind.Lossless)
    (unscaled : serverConfig.downscale = none)
    (plain : rendering.upscale = none) (bare : rendering.drawFps = none)
    {inputs : List RoundInput} {steps : List ServerStep}
    {rounds : List (IncomingMessage × Nat)}
    (constant : ∀ input, input ∈ inputs → CapturedAs captured input)
    (run : compressSendLoop serverProfile serverConfig LoopState.initial
      inputs = .ok steps)
    (covered : ∀ step, step ∈ steps → UpdateCovers step)
    (fits : ∀ step, step ∈ steps →
      step.input.sent = true → FitsWire step.message)
    (delivered : Delivered steps (rounds.map Prod.fst)) :
    (∃ shown,
      showLoop clientProfile clientConfig rendering
          (ClientState.initial none) rounds = .ok shown ∧
        List.Forall₂ (fun step frame => OnceCommitted frame fun commit =>
            (ColoursSurvive step.input.latest commit ↔
              ReadsAlike step.input.latest))
          (acceptedSteps steps) shown) ∧
      (∀ frame : CapturedFrame,
        frame.stride.toNat = frame.width.toNat * 4 →
          (ReadsAlike frame ↔
            InBufferOrder frame.format ∨
              ∀ x, x < frame.width.toNat → ∀ y, y < frame.height.toNat →
                (capturedColour frame x y).red =
                  (capturedColour frame x y).blue)) ∧
      ∀ format width height stride, UInt32.toNat width * 4 ≤
          UInt32.toNat stride →
        ((∀ frame : CapturedFrame, frame.format = format →
            frame.width = width → frame.height = height →
              frame.stride = stride → frame.WellFormed →
                ReadsAlike frame) ↔
          width.toNat = 0 ∨ height.toNat = 0 ∨
            (InBufferOrder format ∧
              (height.toNat ≤ 1 ∨ stride.toNat = width.toNat * 4))) := by
  refine ⟨?_, fun _ => readsAlike_iff_of_unpadded,
    fun _ _ _ _ => readsAlike_forall_iff⟩
  obtain ⟨inputsEq, last, serverRun⟩ := run_of_compressSendLoop run
  have framed : ∀ step, step ∈ steps → CapturedAs captured step.input := by
    intro step member
    apply constant
    rw [← inputsEq]
    exact List.mem_map_of_mem member
  have follows : Follows clientProfile clientConfig Restored
      (ClientState.initial none) steps :=
    follows_restored sameKind lossless unscaled serverRun
      (fun step member =>
        ⟨framed step member, covered step member, fits step member⟩)
      (inStep_initial none)
  obtain ⟨clientSteps, received, restored⟩ :=
    recvDecompressLoop_of_follows delivered follows
  refine ⟨_, showLoop_of_recvDecompressLoop bare rfl received, ?_⟩
  apply (forall₂_shown restored).imp
  rintro step frame ⟨header, decoded, rfl, redraws⟩
  intro profile capacity actions last displayRun item commit member same
  have sound := displayRun.keeps
    (fun _ _ _ performed kept => DisplayThread.Sound.perform kept performed)
    DisplayThread.sound_spawn
  have shown := sound.shown (item, commit) member
  rw [same] at shown
  apply coloursSurvive_iff redraws ?_ ?_ ?_ shown
  all_goals
    simp only [Rendering.realFrame, Rendering.painted, Rendering.upscaled,
      plain, bare]

end Display

/-! ## Example runs -/

/-- Without scaling the damage of the display is that of the message. -/
def unscaledRendering : Rendering where
  upscale := none
  scaleDamage := fun _ frame =>
    frame.regions.map fun rect => ⟨rect.x, rect.y, rect.width, rect.height⟩
  drawFps := none

/-- The accepted messages of a run with a frame rate that is not shown. -/
def roundsOf (steps : List ServerStep) : List (IncomingMessage × Nat) :=
  (messagesOf steps).map fun msg => (msg, 0)

theorem map_fst_roundsOf (steps : List ServerStep) :
    (roundsOf steps).map Prod.fst = messagesOf steps := by
  simp [roundsOf, Function.comp_def]

theorem coloursSurvive_iff_readsAlike_small :
    ∃ shown,
      showLoop .release plainClient unscaledRendering
          (ClientState.initial none)
          (roundsOf (completedSteps plainServer smallInputs)) =
            .ok shown ∧
        List.Forall₂ (fun (step : ServerStep) (frame : DisplayFrame) =>
            OnceCommitted frame fun commit =>
              (ColoursSurvive step.input.latest commit ↔
                ReadsAlike step.input.latest))
          (acceptedSteps (completedSteps plainServer smallInputs)) shown := by
  have constant : ∀ input, input ∈ smallInputs →
      CapturedAs ⟨2, 1, 8⟩ input := by decide
  have run : compressSendLoop .dev plainServer LoopState.initial
      smallInputs = .ok (completedSteps plainServer smallInputs) := by
    decide +kernel
  have delivered := delivered_messagesOf
    (completedSteps plainServer smallInputs)
  rw [← map_fst_roundsOf] at delivered
  exact (coloursSurvive_iff_readsAlike rfl Codec.plain_lossless rfl rfl rfl
    constant run (by decide +kernel) (by decide +kernel) delivered).1

/-- A red pixel, as a portal delivers it. -/
def redFrame : CapturedFrame where
  data := [255, 0, 0, 0]
  damage := []
  format := .xbgr8888
  width := 1
  height := 1
  stride := 4
  timestampNs := 0

def redInputs : List RoundInput := [⟨redFrame, [], false, true⟩]

/-- What the client passes to the display for the red pixel. -/
def redDisplayFrame : DisplayFrame where
  surfaceId := 1
  data := [255, 0, 0, 0]
  damage := [⟨0, 0, 1, 1⟩]
  width := 1
  height := 1
  stride := 4
  timestampNs := 0

private theorem redDisplayFrame_committed :
    ((firstFrame redDisplayFrame).foldlM
        (DisplayThread.perform .dev Display.ringCapacity)
        DisplayThread.spawn).map (fun last => last.committed) =
      some
        [(⟨0, none, redDisplayFrame⟩,
          { surfaceId := 1
            buffer := ⟨0, 0⟩
            picture := ⟨1, 1, 4, [255, 0, 0, 0]⟩
            damage := [⟨0, 0, 1, 1⟩] })] := by
  decide +kernel

/-- The red pixel is shown as a blue one. -/
theorem not_coloursSurvive_redFrame :
    ¬ ∀ steps shown,
      compressSendLoop .dev plainServer LoopState.initial redInputs =
          .ok steps →
        showLoop .dev plainClient unscaledRendering
            (ClientState.initial none) (roundsOf steps) = .ok shown →
          List.Forall₂ (fun (step : ServerStep) (frame : DisplayFrame) =>
              OnceCommitted frame (ColoursSurvive step.input.latest))
            (acceptedSteps steps) shown := by
  intro survive
  have each := survive (completedSteps plainServer redInputs)
    [redDisplayFrame] (by decide +kernel) (by decide +kernel)
  have captured : (acceptedSteps (completedSteps plainServer
      redInputs)).map (fun step => step.input.latest) = [redFrame] := by
    decide +kernel
  generalize acceptedSteps (completedSteps plainServer redInputs) =
    accepted at each captured
  cases each with
  | cons here later =>
      injection captured with captured _
      dsimp only at captured
      obtain ⟨last, iterated, committed⟩ :=
        Option.map_eq_some_iff.mp redDisplayFrame_committed
      have kept := here .dev Display.ringCapacity _ last
        (run_iff_foldlM.mpr iterated) _ _
        (by rw [committed]; exact List.mem_singleton_self _) rfl
      rw [captured] at kept
      exact absurd (kept 0 0 (by decide) (by decide)) (by decide)

end RemoteWay.System
