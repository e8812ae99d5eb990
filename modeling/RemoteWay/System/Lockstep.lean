import RemoteWay.System.Delivery

/-!
# Lockstep of server and client

The accepted messages of a server run, delivered in order, keep the client's
delta base the same picture as the server's.  The relation between the two
loop states is `Synced`; an accepted round and the handling of its message
re-establish it, and a refused round keeps it.
-/

namespace RemoteWay.System

open RemoteWay.Base RemoteWay.Proto RemoteWay.Compress
open RemoteWay.Capture RemoteWay.Server RemoteWay.Client
open RemoteWay.Transport

variable {backend : Type}

/-! ## The relation -/

/-- The client's delta base shows the server's picture, and has the right
length once the client has decoded a frame. -/
structure Synced (geometry : Geometry) (server : LoopState)
    (client : ClientState backend) : Prop where
  picture :
    geometry.SamePicture client.previousFrame server.previousFrame
  sized : client.hasPrevious = true →
    client.previousFrame.length = geometry.size

theorem synced_initial (geometry : Geometry)
    (interpolation :
      Option (Interpolate.InterpolationManager backend)) :
    Synced geometry LoopState.initial
      (ClientState.initial interpolation) where
  picture := Geometry.SamePicture.refl _
  sized := by
    intro decoded
    cases decoded

/-- The delta base a client decodes against. -/
theorem Synced.prepareBase {geometry : Geometry} {server : LoopState}
    {client : ClientState backend}
    (synced : Synced geometry server client) (rows : geometry.RowsFit)
    (isAnchor : Bool) :
    (client.prepareBase isAnchor geometry.size).previousFrame.length =
        geometry.size ∧
      geometry.SamePicture
        (client.prepareBase isAnchor geometry.size).previousFrame
        server.previousFrame := by
  rw [ClientState.prepareBase]
  by_cases reset : (isAnchor || !client.hasPrevious) = true
  · rw [if_pos reset]
    exact ⟨length_resize _ _ _,
      (Geometry.samePicture_resize rows _).trans synced.picture⟩
  · rw [if_neg reset]
    have decoded : client.hasPrevious = true := by
      cases previous : client.hasPrevious with
      | true => rfl
      | false =>
          rw [previous] at reset
          simp at reset
    exact ⟨synced.sized decoded, synced.picture⟩

/-- A round and the message it delivers: the message decodes, to the
server's picture, which is also the next delta base of both sides. -/
structure InLockstep (server : ServerStep) (client : ClientStep backend) :
    Prop where
  carried : Carries server.message client.msg
  decoded : ∃ frame, client.outcome = some (.decoded frame) ∧
    server.message.geometry.SamePicture frame.output
      server.message.view.data
  base : server.message.geometry.SamePicture client.after.previousFrame
    server.after.previousFrame

/-! ## One round -/

/-- The frame that a round sends is well formed and has the given
dimensions. -/
structure CapturedAs (captured : Geometry) (input : RoundInput) : Prop where
  formed : input.latest.WellFormed
  geometry : capturedGeometry input.latest = captured

instance (captured : Geometry) (input : RoundInput) :
    Decidable (CapturedAs captured input) :=
  decidable_of_iff
    (input.latest.WellFormed ∧ capturedGeometry input.latest = captured)
    ⟨fun ⟨formed, geometry⟩ => ⟨formed, geometry⟩,
      fun framed => ⟨framed.formed, framed.geometry⟩⟩

/-- The regions of an accepted update cover what changed. -/
def UpdateCovers (step : ServerStep) : Prop :=
  step.input.sent = true → step.message.msgType = .frameUpdate →
    Covers step.message.geometry step.message.regions
      step.message.view.data step.before.previousFrame

instance (step : ServerStep) : Decidable (UpdateCovers step) :=
  inferInstanceAs (Decidable (_ → _ → _))

section Round

variable {serverProfile clientProfile : Profile}
variable {serverConfig : ServerConfig} {clientConfig : ClientConfig backend}
variable {captured : Geometry} {before after : LoopState}
variable {step : ServerStep}

/-- What a round does to the delta base, apart from an accepted message. -/
theorem roundStep_base
    (stepped : roundStep serverProfile serverConfig before step after)
    (framed : CapturedAs captured step.input)
    (sized : BaseSized (serverConfig.sentLength captured) before) :
    BaseSized (serverConfig.sentLength captured) after ∧
      step.before.previousFrame = before.previousFrame ∧
      step.message.base.length = step.message.view.data.length ∧
      ∀ offset, step.message.base.getD offset 0 =
        before.previousFrame.getD offset 0 := by
  obtain ⟨done, afterEq⟩ := stepped
  obtain ⟨_, beforeEq, prepared, sentEq⟩ := round_eq_ok done
  have width := prepared.length_eq framed.formed
  have baseEq := prepared.base
  have noted := sized.noteSkipped (!step.input.newer.isEmpty)
    step.input.dropped
  rw [framed.geometry] at width
  rw [width, beforeEq] at baseEq
  refine ⟨?_, ?_, ?_, ?_⟩
  · rw [← afterEq, sentEq]
    apply Or.inr
    refine ⟨rfl, ?_⟩
    rw [LoopState.afterSend]
    by_cases sent : step.input.sent = true
    · rw [if_pos sent]
      exact width
    · rw [if_neg sent, baseEq]
      exact noted.length_encodeBase
  · rw [beforeEq]
    rfl
  · rw [baseEq, width]
    exact noted.length_encodeBase
  · intro offset
    rw [baseEq]
    exact noted.getD_encodeBase offset

/-- A refused round leaves the picture of the delta base as it was. -/
theorem roundStep_refused
    (stepped : roundStep serverProfile serverConfig before step after)
    (framed : CapturedAs captured step.input)
    (sized : BaseSized (serverConfig.sentLength captured) before)
    (refused : step.input.sent = false) (geometry : Geometry) :
    geometry.SamePicture after.previousFrame before.previousFrame := by
  obtain ⟨_, _, _, agree⟩ := roundStep_base stepped framed sized
  obtain ⟨done, afterEq⟩ := stepped
  obtain ⟨_, _, _, sentEq⟩ := round_eq_ok done
  intro offset _
  rw [← afterEq, sentEq, LoopState.afterSend, refused]
  exact agree offset

/-- The message of an accepted round, as the server encoded it. -/
theorem roundStep_encoded
    (stepped : roundStep serverProfile serverConfig before step after)
    (framed : CapturedAs captured step.input)
    (sized : BaseSized (serverConfig.sentLength captured) before)
    (fits : FitsWire step.message) :
    Encoded serverConfig.compressorKind step.message := by
  obtain ⟨_, _, sameLength, _⟩ := roundStep_base stepped framed sized
  obtain ⟨_, _, prepared, _⟩ := round_eq_ok stepped.1
  have dataLength := prepared.length_eq_size framed.formed fits.frame
  exact encoded_of_prepared prepared fits dataLength
    (sameLength.trans dataLength) (prepared.within framed.formed fits.rows)

/-- The regions of an accepted message cover what it differs in from the
delta base it was encoded against. -/
theorem roundStep_covers
    (stepped : roundStep serverProfile serverConfig before step after)
    (covered : UpdateCovers step) (accepted : step.input.sent = true) :
    Covers step.message.geometry step.message.regions
      step.message.view.data step.message.base := by
  obtain ⟨_, _, prepared, _⟩ := round_eq_ok stepped.1
  by_cases anchor : step.before.forceAnchor = true
  · exact (prepared.stripes_of_anchor anchor).covers _ _
  · have typed := prepared.msgType
    have baseEq := prepared.base
    rw [if_neg anchor] at typed
    rw [LoopState.encodeBase, if_neg anchor] at baseEq
    rw [baseEq]
    exact covered accepted typed

variable (clientProfile) in
/-- The client accepts the message of an accepted round, and obtains the
server's picture. -/
theorem roundStep_handled
    (sameKind : clientConfig.compressorKind = serverConfig.compressorKind)
    (lossless : serverConfig.compressorKind.Lossless)
    (stepped : roundStep serverProfile serverConfig before step after)
    (framed : CapturedAs captured step.input)
    (sized : BaseSized (serverConfig.sentLength captured) before)
    (accepted : step.input.sent = true)
    (covered : UpdateCovers step) (fits : FitsWire step.message)
    {client : ClientState backend}
    (synced : Synced (serverConfig.sentGeometry captured) before client) :
    let prepared := client.prepareBase step.before.forceAnchor
      step.message.geometry.size
    let frame := decodedMessage step.message prepared.previousFrame
    handleMessage clientProfile clientConfig client
        (messageOf step.message) =
          .ok (acceptFrame clientConfig.interpolator prepared frame
            (messageOf step.message).header.timestampNs,
              some (.decoded frame)) ∧
      prepared.previousFrame.length = step.message.geometry.size ∧
      step.message.geometry.SamePicture frame.output
        step.message.view.data := by
  have encoded := roundStep_encoded stepped framed sized fits
  have covers := roundStep_covers stepped covered accepted
  obtain ⟨_, _, _, agree⟩ := roundStep_base stepped framed sized
  obtain ⟨_, _, prepared, _⟩ := round_eq_ok stepped.1
  have geometryEq := prepared.geometry_eq framed.formed
  rw [framed.geometry] at geometryEq
  rw [← geometryEq] at synced
  obtain ⟨width, same⟩ :=
    synced.prepareBase fits.rows step.before.forceAnchor
  rw [← sameKind] at lossless encoded
  refine ⟨handleMessage_of_encoded clientProfile lossless encoded fits
    client prepared.msgType width, width, ?_⟩
  exact samePicture_decodedOutput fits.rows width
    (same.trans fun offset _ => (agree offset).symm) covers

/-- An accepted round, and the client's handling of its message. -/
theorem roundStep_accepted
    (sameKind : clientConfig.compressorKind = serverConfig.compressorKind)
    (lossless : serverConfig.compressorKind.Lossless)
    (stepped : roundStep serverProfile serverConfig before step after)
    (framed : CapturedAs captured step.input)
    (sized : BaseSized (serverConfig.sentLength captured) before)
    (accepted : step.input.sent = true)
    (covered : UpdateCovers step) (fits : FitsWire step.message)
    {client : ClientState backend}
    (synced : Synced (serverConfig.sentGeometry captured) before client) :
    ∃ clientAfter outcome,
      handleMessage clientProfile clientConfig client
          (messageOf step.message) = .ok (clientAfter, some outcome) ∧
        (∀ msg, Carries step.message msg →
          InLockstep step ⟨msg, some outcome, clientAfter⟩) ∧
        Synced (serverConfig.sentGeometry captured) after clientAfter := by
  obtain ⟨handled, width, shown⟩ := roundStep_handled clientProfile
    sameKind lossless stepped framed sized accepted covered fits synced
  obtain ⟨done, afterEq⟩ := stepped
  obtain ⟨_, _, prepared, sentEq⟩ := round_eq_ok done
  have geometryEq := prepared.geometry_eq framed.formed
  rw [framed.geometry] at geometryEq
  rw [← geometryEq]
  have nextBase : after.previousFrame = step.message.view.data := by
    rw [← afterEq, sentEq, LoopState.afterSend, accepted]
    rfl
  refine ⟨_, _, handled, ?_, ?_, ?_⟩
  · intro msg carried
    refine ⟨carried, ⟨_, rfl, shown⟩, ?_⟩
    rw [afterEq, nextBase]
    exact shown
  · rw [nextBase]
    exact shown
  · intro _
    exact length_decodedOutput.trans width

end Round

/-! ## Whole runs -/

section Runs

variable {serverProfile clientProfile : Profile}
variable {serverConfig : ServerConfig} {clientConfig : ClientConfig backend}
variable {captured : Geometry}

/-- A round of the run, as far as the client depends on it. -/
def Reaches (captured : Geometry) (step : ServerStep) : Prop :=
  CapturedAs captured step.input ∧ UpdateCovers step ∧
    (step.input.sent = true → FitsWire step.message)

/-- From related states, the client follows the rounds in lockstep. -/
private theorem follows_from
    (sameKind : clientConfig.compressorKind = serverConfig.compressorKind)
    (lossless : serverConfig.compressorKind.Lossless)
    {steps : List ServerStep} {before last : LoopState}
    (run : Run (roundStep serverProfile serverConfig) before steps last)
    {client : ClientState backend}
    (each : ∀ step, step ∈ steps → Reaches captured step)
    (sized : BaseSized (serverConfig.sentLength captured) before)
    (synced : Synced (serverConfig.sentGeometry captured) before client) :
    Follows clientProfile clientConfig InLockstep client steps := by
  refine follows_of_rounds (Reaches captured)
    (fun server client =>
      BaseSized (serverConfig.sentLength captured) server ∧
        Synced (serverConfig.sentGeometry captured) server client)
    ?_ ?_ run each ⟨sized, synced⟩
  · intro before after step client stepped ⟨framed, _, _⟩ refused
      ⟨sized, synced⟩
    have kept := roundStep_refused stepped framed sized refused
      (serverConfig.sentGeometry captured)
    exact ⟨(roundStep_base stepped framed sized).1,
      synced.picture.trans kept.symm, synced.sized⟩
  · intro before after step client stepped ⟨framed, covered, fits⟩
      accepted ⟨sized, synced⟩
    obtain ⟨clientAfter, outcome, handled, locked, nextSynced⟩ :=
      roundStep_accepted sameKind lossless stepped framed sized accepted
        covered (fits accepted) synced
    exact ⟨clientAfter, outcome, handled, locked,
      (roundStep_base stepped framed sized).1, nextSynced⟩

/-- Over every run of the server with pictures of constant dimensions, in
which accepted updates cover what changed and accepted messages fit the
wire, the client decodes every delivered message to the server's picture and
continues from the same delta base; a refused round changes neither. -/
theorem recvDecompressLoop_in_lockstep
    (sameKind : clientConfig.compressorKind = serverConfig.compressorKind)
    (lossless : serverConfig.compressorKind.Lossless)
    (interpolation : Option (Interpolate.InterpolationManager backend))
    {inputs : List RoundInput} {steps : List ServerStep}
    {msgs : List IncomingMessage}
    (constant : ∀ input, input ∈ inputs → CapturedAs captured input)
    (run : compressSendLoop serverProfile serverConfig LoopState.initial
      inputs = .ok steps)
    (covered : ∀ step, step ∈ steps → UpdateCovers step)
    (fits : ∀ step, step ∈ steps →
      step.input.sent = true → FitsWire step.message)
    (delivered : Delivered steps msgs) :
    (∃ clientSteps,
      recvDecompressLoop clientProfile clientConfig
          (ClientState.initial interpolation) msgs = .ok clientSteps ∧
        List.Forall₂ InLockstep (acceptedSteps steps)
          (frameSteps clientSteps)) ∧
      ∀ step, step ∈ steps → step.input.sent = false →
        step.message.geometry.SamePicture step.after.previousFrame
          step.before.previousFrame := by
  obtain ⟨inputsEq, last, rounds⟩ := run_of_compressSendLoop run
  have framed : ∀ step, step ∈ steps → CapturedAs captured step.input := by
    intro step member
    apply constant
    rw [← inputsEq]
    exact List.mem_map_of_mem member
  constructor
  · apply recvDecompressLoop_of_follows delivered
    exact follows_from sameKind lossless rounds
      (fun step member =>
        ⟨framed step member, covered step member, fits step member⟩)
      (baseSized_initial _)
      (synced_initial _ interpolation)
  · intro step member refused
    obtain ⟨_, around⟩ := rounds.around
      (fun before done after present stepped sized =>
        (roundStep_base stepped (framed done present) sized).1)
      (baseSized_initial (serverConfig.sentLength captured))
    obtain ⟨before, after, stepped, sized, _⟩ := around step member
    have kept := roundStep_refused stepped (framed step member) sized
      refused step.message.geometry
    obtain ⟨_, sameBase, _⟩ :=
      roundStep_base stepped (framed step member) sized
    rw [stepped.2, sameBase]
    exact kept

end Runs

/-! ## Example runs -/

/-- A 2×1 picture in which the first pixel is damaged. -/
def smallFrame (data : List UInt8) : CapturedFrame where
  data := data
  damage := [⟨0, 0, 1, 1⟩]
  format := .argb8888
  width := 2
  height := 1
  stride := 8
  timestampNs := 0

/-- An accepted anchor, a refused update and an accepted one. -/
def smallInputs : List RoundInput :=
  [⟨smallFrame [1, 2, 3, 4, 5, 6, 7, 8], [], false, true⟩,
    ⟨smallFrame [9, 2, 3, 4, 5, 6, 7, 8], [], false, false⟩,
    ⟨smallFrame [9, 9, 3, 4, 5, 6, 7, 8], [], false, true⟩]

/-- The rounds of a run that completes. -/
def completedSteps (config : ServerConfig) (inputs : List RoundInput) :
    List ServerStep :=
  match compressSendLoop .dev config LoopState.initial inputs with
  | .ok steps => steps
  | .error _ => []

theorem recvDecompressLoop_in_lockstep_small :
    (∃ clientSteps,
      recvDecompressLoop .release plainClient (ClientState.initial none)
          (messagesOf (completedSteps plainServer smallInputs)) =
            .ok clientSteps ∧
        List.Forall₂ InLockstep
          (acceptedSteps (completedSteps plainServer smallInputs))
          (frameSteps clientSteps)) ∧
      ∀ step, step ∈ completedSteps plainServer smallInputs →
        step.input.sent = false →
          step.message.geometry.SamePicture step.after.previousFrame
            step.before.previousFrame := by
  have constant : ∀ input, input ∈ smallInputs →
      CapturedAs ⟨2, 1, 8⟩ input := by decide
  have run : compressSendLoop .dev plainServer LoopState.initial
      smallInputs = .ok (completedSteps plainServer smallInputs) := by
    decide +kernel
  exact recvDecompressLoop_in_lockstep rfl Codec.plain_lossless none
    constant run (by decide +kernel) (by decide +kernel)
    (delivered_messagesOf _)

/-! ## A frame that does not fit the wire -/

/-- A 1×2 picture of 2 ^ 32 zero bytes. -/
def hugeFrame : CapturedFrame where
  data := List.replicate 4294967296 0
  damage := []
  format := .argb8888
  width := 1
  height := 2
  stride := 2147483648
  timestampNs := 0

def hugeInput : RoundInput := ⟨hugeFrame, [], false, true⟩

def hugeRegion : DamageRect := ⟨0, 0, 1, 2⟩

/-- What the server sends for the huge frame. -/
def hugeFramePayload : List UInt8 :=
  sentPayload 1 2 2147483648 [hugeRegion] [List.replicate 8 0]

private theorem hugeFrame_wellFormed : hugeFrame.WellFormed where
  length_eq := List.length_replicate
  rows := by decide
  damage_inside := by
    intro rect member
    cases member

private theorem getD_replicate_zero (count index : Nat) :
    (List.replicate count (0 : UInt8)).getD index 0 = 0 := by
  rw [List.getD_eq_getElem?_getD, List.getElem?_replicate]
  split <;> rfl

private theorem rectDelta_zero (count : Nat) (stride : Nat)
    (rect : DamageRect) :
    rectDelta (List.replicate count 0) (resize [] count 0) stride rect =
      List.replicate (rect.width.toNat * 4 * rect.height.toNat) 0 := by
  have zeros : resize [] count 0 = List.replicate count (0 : UInt8) := by
    simp [resize]
  rw [rectDelta, encodeAt, zeros]
  simp only [getD_replicate_zero]
  rw [← length_rectOffsets stride rect]
  exact List.map_const'

/-- The server sends the huge frame as an anchor with a single stripe. -/
private theorem round_hugeInput (profile : Profile) :
    ∃ step, round profile plainServer LoopState.initial hugeInput =
        .ok step ∧
      step.input = hugeInput ∧
      step.message.msgType = .anchorFrame ∧
      step.message.payload = hugeFramePayload := by
  have viewed : viewOf profile plainServer hugeFrame =
      .ok ⟨hugeFrame.data, 1, 2, 2147483648⟩ := rfl
  have chosen : chooseRegions profile plainServer LoopState.initial
      hugeFrame ⟨hugeFrame.data, 1, 2, 2147483648⟩ =
        .ok [hugeRegion] := rfl
  have width : hugeFrame.data.length = 4294967296 := List.length_replicate
  have based : LoopState.initial.encodeBase hugeFrame.data.length =
      resize [] 4294967296 0 := by
    rw [width]
    rfl
  have inside : RegionsInside (2147483648 : UInt32).toNat
      hugeFrame.data.length [hugeRegion] := by
    intro rect member row rowBound
    rw [List.mem_singleton.mp member] at rowBound ⊢
    have rows : row < 2 := rowBound
    rw [width]
    change (0 + row) * 2147483648 + 0 * 4 + 1 * 4 ≤ 4294967296
    omega
  have compressed := compressFrameInto_of_inside profile
    plainServer.compressorKind
    (show hugeFrame.data.length =
      (LoopState.initial.encodeBase hugeFrame.data.length).length by
        rw [based, length_resize, width])
    (by rw [width]; decide) inside (by decide)
  have blobs : regionBlobs plainServer.compressorKind hugeFrame.data
      (LoopState.initial.encodeBase hugeFrame.data.length)
      (2147483648 : UInt32).toNat [hugeRegion] = [List.replicate 8 0] := by
    rw [based, regionBlobs, List.map_singleton]
    change [rectDelta (List.replicate 4294967296 0)
      (resize [] 4294967296 0) _ hugeRegion] = _
    rw [rectDelta_zero]
    rfl
  rw [blobs] at compressed
  obtain ⟨message, prepared, typed, payload⟩ : ∃ message,
      prepareMessage profile plainServer LoopState.initial hugeFrame =
          .ok message ∧
        message.msgType = .anchorFrame ∧
        message.payload = hugeFramePayload := by
    obtain ⟨wire, prepared⟩ := prepareMessage_of_compressed viewed chosen
      compressed rfl (by decide)
    exact ⟨_, prepared, rfl, rfl⟩
  exact ⟨_, round_of_prepareMessage prepared, rfl, typed, payload⟩

/-- The client stops at the huge frame, in either build. -/
private theorem decodeFrame_hugeFramePayload (profile : Profile) :
    ∃ panic, decodeFrame profile Codec.plain
      (ClientState.initial none : ClientState Unit) true hugeFramePayload =
        .error panic := by
  cases profile with
  | dev => exact ⟨.overflow, by decide +kernel⟩
  | release => exact ⟨.bounds, by decide +kernel⟩

/-- A run over one well-formed frame that needs no coverage, whose only
message, delivered intact, stops the client. -/
theorem recvDecompressLoop_stops_at_hugeFrame :
    CapturedAs ⟨1, 2, 2147483648⟩ hugeInput ∧
      ∀ serverProfile clientProfile, ∃ step panic,
        compressSendLoop serverProfile plainServer LoopState.initial
          [hugeInput] = .ok [step] ∧
        UpdateCovers step ∧
        Delivered [step] [messageOf step.message] ∧
        recvDecompressLoop clientProfile plainClient
          (ClientState.initial none) [messageOf step.message] =
            .error panic := by
  refine ⟨⟨hugeFrame_wellFormed, rfl⟩, ?_⟩
  intro serverProfile clientProfile
  obtain ⟨step, done, inputEq, typed, payload⟩ :=
    round_hugeInput serverProfile
  obtain ⟨panic, stopped⟩ := decodeFrame_hugeFramePayload clientProfile
  have carried := carries_messageOf step.message
  have anchored : (messageOf step.message).header.msgType =
      .ok (frameMsgType true) := by
    rw [carried.msgType, typed]
    rfl
  have accepted : step.input.sent = true := by
    rw [inputEq]
    rfl
  refine ⟨step, panic, ?_, ?_, .accepted accepted carried .done, ?_⟩
  · rw [compressSendLoop, done]
    rfl
  · intro _ update
    rw [typed] at update
    cases update
  · rw [recvDecompressLoop,
      handleMessage_of_frame clientProfile plainClient _ anchored,
      handleFrame, carried.payload, payload]
    change (Except.map _ (decodeFrame clientProfile Codec.plain
      (ClientState.initial none) true hugeFramePayload >>= _) >>= _) = _
    rw [stopped]
    rfl

end RemoteWay.System
