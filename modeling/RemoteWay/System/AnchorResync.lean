import RemoteWay.System.Lockstep

/-!
# Resynchronisation at an anchor

Both sides resize their delta base at an anchor, and keep what it held.  The
anchor is therefore still a difference against the server's old base, and
shows the right picture on exactly those clients whose old base, extended by
zeros, agrees with the server's on every visible byte.
-/

namespace RemoteWay.System

open RemoteWay.Base RemoteWay.Proto RemoteWay.Compress
open RemoteWay.Capture RemoteWay.Server RemoteWay.Client
open RemoteWay.Transport

variable {backend : Type}

/-- Handling the message shows the picture that the server sent. -/
def Shows (profile : Profile) (config : ClientConfig backend)
    (client : ClientState backend) (message : FrameMessage)
    (msg : IncomingMessage) : Prop :=
  ∃ after frame, handleMessage profile config client msg =
      .ok (after, some (.decoded frame)) ∧
    message.geometry.SamePicture frame.output message.view.data

section Anchor

variable {serverProfile clientProfile : Profile}
variable {serverConfig : ServerConfig} {clientConfig : ClientConfig backend}
variable {state : LoopState} {input : RoundInput} {step : ServerStep}

/-- The message of an anchor, whatever the dimensions of the frames before
it. -/
theorem round_anchor_encoded
    (done : round serverProfile serverConfig state input = .ok step)
    (formed : input.latest.WellFormed)
    (anchor : step.before.forceAnchor = true)
    (fits : FitsWire step.message) :
    Encoded serverConfig.compressorKind step.message := by
  obtain ⟨_, _, prepared, _⟩ := round_eq_ok done
  have dataLength := prepared.length_eq_size formed fits.frame
  have baseLength : step.message.base.length =
      step.message.geometry.size := by
    rw [prepared.base, LoopState.encodeBase, if_pos anchor, length_resize,
      dataLength]
  exact encoded_of_prepared prepared fits dataLength baseLength
    (prepared.within formed fits.rows)

theorem forceAnchor_of_msgType
    (done : round serverProfile serverConfig state input = .ok step)
    (anchor : step.message.msgType = .anchorFrame) :
    step.before.forceAnchor = true := by
  obtain ⟨_, _, prepared, _⟩ := round_eq_ok done
  have typed := prepared.msgType
  rw [anchor] at typed
  cases forced : step.before.forceAnchor with
  | true => rfl
  | false =>
      rw [forced] at typed
      cases typed

/-- The picture that a client obtains from an anchor whose delta bases it
shares on some visible bytes only. -/
theorem samePicture_anchor_iff {message : FrameMessage}
    {base : List UInt8}
    (rows : message.geometry.RowsFit)
    (sized : base.length = message.geometry.size)
    (upTo : StripesUpTo message.geometry.width
      message.geometry.height.toNat message.regions) :
    message.geometry.SamePicture (decodedOutput message base)
        message.view.data ↔
      message.geometry.SamePicture base message.base := by
  have each : ∀ offset, message.geometry.Visible offset →
      ((decodedOutput message base).getD offset 0 =
          message.view.data.getD offset 0 ↔
        base.getD offset 0 = message.base.getD offset 0) := by
    intro offset visible
    apply getD_decodedOutput_eq_iff
    · rw [sized]
      exact visible.lt_size rows
    · exact upTo.mem_regionOffsets visible
  constructor
  · intro same offset visible
    exact (each offset visible).mp (same offset visible)
  · intro same offset visible
    exact (each offset visible).mpr (same offset visible)

/-- An anchor resynchronises exactly the clients whose delta base shows the
server's picture already. -/
theorem anchor_shows_iff
    (sameKind : clientConfig.compressorKind = serverConfig.compressorKind)
    (lossless : serverConfig.compressorKind.Lossless)
    (done : round serverProfile serverConfig state input = .ok step)
    (formed : input.latest.WellFormed)
    (anchor : step.message.msgType = .anchorFrame)
    (fits : FitsWire step.message) (client : ClientState backend)
    {msg : IncomingMessage} (carried : Carries step.message msg) :
    Shows clientProfile clientConfig client step.message msg ↔
      step.message.geometry.SamePicture client.previousFrame
        state.previousFrame := by
  have forced := forceAnchor_of_msgType done anchor
  have encoded := round_anchor_encoded done formed forced fits
  obtain ⟨_, beforeEq, prepared, _⟩ := round_eq_ok done
  have serverBase : step.message.geometry.SamePicture step.message.base
      state.previousFrame := by
    rw [prepared.base, LoopState.encodeBase, if_pos forced,
      encoded.data_length, beforeEq]
    exact Geometry.samePicture_resize fits.rows _
  have clientBase : (client.prepareBase true
      step.message.geometry.size).previousFrame =
        resize client.previousFrame step.message.geometry.size 0 := rfl
  have sized : (client.prepareBase true
      step.message.geometry.size).previousFrame.length =
        step.message.geometry.size := length_resize _ _ _
  have decodes := decodeFrame_of_encoded clientProfile lossless encoded
    fits client true sized
  rw [← sameKind, ← carried.payload] at decodes
  have typed : msg.header.msgType = .ok (frameMsgType true) := by
    rw [carried.msgType, anchor]
    rfl
  have handled := handleMessage_of_decodes typed decodes
  have shown := samePicture_anchor_iff fits.rows sized
    (prepared.stripes_of_anchor forced)
  rw [clientBase] at shown
  have resized : step.message.geometry.SamePicture
      (resize client.previousFrame step.message.geometry.size 0)
      client.previousFrame := Geometry.samePicture_resize fits.rows _
  constructor
  · intro shows
    obtain ⟨after, frame, same, picture⟩ := shows
    rw [handled] at same
    injection same with same
    injection same with _ same
    injection same with same
    injection same with same
    rw [← same] at picture
    exact (resized.symm.trans (shown.mp picture)).trans serverBase
  · intro agree
    exact ⟨_, _, handled,
      shown.mpr ((resized.trans agree).trans serverBase.symm)⟩

end Anchor

/-! ## The first anchor of a session -/

def smallInput : RoundInput :=
  ⟨smallFrame [1, 2, 3, 4, 5, 6, 7, 8], [], false, true⟩

/-- What the first round sends. -/
private theorem round_smallInput :
    ∃ step, round .dev plainServer LoopState.initial smallInput =
        .ok step ∧
      step.message.msgType = .anchorFrame ∧ FitsWire step.message := by
  decide +kernel

/-- A new client shows it. -/
theorem anchor_shows_on_new_client :
    ∃ step, round .dev plainServer LoopState.initial smallInput =
        .ok step ∧
      Shows .dev plainClient (ClientState.initial none) step.message
        (messageOf step.message) := by
  obtain ⟨step, done, anchor, fits⟩ := round_smallInput
  refine ⟨step, done, ?_⟩
  exact (anchor_shows_iff rfl Codec.plain_lossless done (by decide) anchor
    fits (ClientState.initial none) (carries_messageOf step.message)).mpr
      (Geometry.SamePicture.refl _)

/-- A client that holds a picture from before: one visible byte. -/
def staleClient : ClientState Unit := ⟨[255], true, none⟩

/-- What the stale client decodes: the first byte is off by its own. -/
def stalePicture : DecodedFrame where
  width := 2
  height := 1
  stride := 8
  regions := [⟨0, 0, 2, 1⟩]
  output := [254, 2, 3, 4, 5, 6, 7, 8]

/-- It decodes the anchor without an error, to a different picture. -/
theorem anchor_does_not_show_on_staleClient :
    ∃ step, round .dev plainServer LoopState.initial smallInput =
        .ok step ∧
      step.message.msgType = .anchorFrame ∧
      step.message.view.data = smallInput.latest.data ∧
      handleMessage .dev plainClient staleClient
          (messageOf step.message) =
        .ok (⟨stalePicture.output, true, none⟩,
          some (.decoded stalePicture)) ∧
      ¬ step.message.geometry.SamePicture stalePicture.output
        step.message.view.data := by
  decide +kernel

end RemoteWay.System
