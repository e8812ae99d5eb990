import RemoteWay.System.Delivery

/-!
# Resolution changes

The delta base follows the captured frames only at anchors.  A run in which
every update has the length of the delta base, and in which both sides'
bases agree where something is sent, survives any change of dimensions; an
update of another length is encoded against a base it does not fit.
-/

namespace RemoteWay.System

open RemoteWay.Base RemoteWay.Proto RemoteWay.Compress
open RemoteWay.Capture RemoteWay.Server RemoteWay.Client
open RemoteWay.Transport

variable {backend : Type}

/-! ## The condition -/

/-- The blobs of a round. -/
def roundBlobs (kind : Codec) (server : LoopState) (view : FrameView)
    (regions : List DamageRect) : List (List UInt8) :=
  regionBlobs kind view.data (server.encodeBase view.data.length)
    view.stride.toNat regions

/-- The numbers of a round fit their wire fields, and its payload can be
allocated. -/
structure RoundFits (kind : Codec) (server : LoopState) (view : FrameView)
    (regions : List DamageRect) : Prop where
  rows : view.geometry.RowsFit
  frame : view.geometry.size < UInt32.size
  few : regions.length < UInt32.size
  short : ∀ blob, blob ∈ roundBlobs kind server view regions →
    blob.length < UInt32.size
  allocatable : (sentPayload view.width view.height view.stride regions
    (roundBlobs kind server view regions)).length < 2 ^ 63

instance (kind : Codec) (server : LoopState) (view : FrameView)
    (regions : List DamageRect) :
    Decidable (RoundFits kind server view regions) :=
  decidable_of_iff
    (view.geometry.RowsFit ∧ view.geometry.size < UInt32.size ∧
      regions.length < UInt32.size ∧
      (∀ blob, blob ∈ roundBlobs kind server view regions →
        blob.length < UInt32.size) ∧
      (sentPayload view.width view.height view.stride regions
        (roundBlobs kind server view regions)).length < 2 ^ 63)
    ⟨fun ⟨rows, frame, few, short, allocatable⟩ =>
        ⟨rows, frame, few, short, allocatable⟩,
      fun fits => ⟨fits.rows, fits.frame, fits.few, fits.short,
        fits.allocatable⟩⟩

/-- The delta bases fit the picture of a round: the server's has its length,
and so has the client's, which agrees with the server's in the regions. -/
structure BasesFit (server : LoopState) (client : ClientState backend)
    (view : FrameView) (regions : List DamageRect) (sent : Bool) :
    Prop where
  serverSized : server.forceAnchor = true ∨
    server.previousFrame.length = view.data.length
  clientSized : sent = true → server.forceAnchor = true ∨
    client.hasPrevious = false ∨
    client.previousFrame.length = view.geometry.size
  agree : sent = true → ∀ offset,
    offset ∈ regionOffsets view.stride.toNat regions →
      client.previousFrame.getD offset 0 =
        server.previousFrame.getD offset 0

instance (server : LoopState) (client : ClientState backend)
    (view : FrameView) (regions : List DamageRect) (sent : Bool) :
    Decidable (BasesFit server client view regions sent) :=
  decidable_of_iff
    ((server.forceAnchor = true ∨
        server.previousFrame.length = view.data.length) ∧
      (sent = true → server.forceAnchor = true ∨
        client.hasPrevious = false ∨
        client.previousFrame.length = view.geometry.size) ∧
      (sent = true → ∀ offset,
        offset ∈ regionOffsets view.stride.toNat regions →
          client.previousFrame.getD offset 0 =
            server.previousFrame.getD offset 0))
    ⟨fun ⟨serverSized, clientSized, agree⟩ =>
        ⟨serverSized, clientSized, agree⟩,
      fun bases => ⟨bases.serverSized, bases.clientSized, bases.agree⟩⟩

section Condition

variable (serverProfile clientProfile : Profile)
variable (serverConfig : ServerConfig) (clientConfig : ClientConfig backend)

/-- What a round asks of the states before it. -/
def RoundMeets (server : LoopState) (client : ClientState backend)
    (input : RoundInput) : Prop :=
  let before :=
    server.noteSkipped (!input.newer.isEmpty) input.dropped
  ∃ view, viewOf serverProfile serverConfig input.latest = .ok view ∧
    ∃ regions, chooseRegions serverProfile serverConfig before
        input.latest view = .ok regions ∧
      RoundFits serverConfig.compressorKind before view regions ∧
        BasesFit before client view regions input.sent

instance (server : LoopState) (client : ClientState backend)
    (input : RoundInput) :
    Decidable (RoundMeets serverProfile serverConfig server client input) :=
  inferInstanceAs (Decidable (∃ _, _ ∧ ∃ _, _ ∧ _ ∧ _))

/-- A round, and the client's handling of its message if it is accepted. -/
def exchange (server : LoopState) (client : ClientState backend)
    (input : RoundInput) : Exec (LoopState × ClientState backend) := do
  let step ← round serverProfile serverConfig server input
  if input.sent then
    let (after, _) ← handleMessage clientProfile clientConfig client
      (messageOf step.message)
    return (step.after, after)
  else
    return (step.after, client)

/-- Every round of a run meets the condition in the states it finds. -/
def RunMeets : LoopState → ClientState backend → List RoundInput → Prop
  | _, _, [] => True
  | server, client, input :: inputs =>
      RoundMeets serverProfile serverConfig server client input ∧
        ∀ after, exchange serverProfile clientProfile serverConfig
            clientConfig server client input = .ok after →
          RunMeets after.1 after.2 inputs

instance decidableRunMeets :
    ∀ (server : LoopState) (client : ClientState backend)
      (inputs : List RoundInput),
      Decidable (RunMeets serverProfile clientProfile serverConfig
        clientConfig server client inputs)
  | _, _, [] => isTrue trivial
  | _, _, _ :: inputs =>
      have _ (after : LoopState × ClientState backend) :
          Decidable (RunMeets serverProfile clientProfile serverConfig
            clientConfig after.1 after.2 inputs) :=
        decidableRunMeets after.1 after.2 inputs
      inferInstanceAs (Decidable (_ ∧ ∀ _, _ → _))

end Condition

/-! ## One round -/

/-- The client decodes the whole picture announced in the message, and what
was sent of it. -/
structure ReceivedWhole (server : ServerStep) (client : ClientStep backend) :
    Prop where
  carried : Carries server.message client.msg
  decoded : ∃ frame, client.outcome = some (.decoded frame) ∧
    frame.width = server.message.view.width ∧
    frame.height = server.message.view.height ∧
    frame.stride = server.message.view.stride ∧
    frame.output.length = frame.stride.toNat * frame.height.toNat ∧
    ∀ offset, offset ∈ regionOffsets frame.stride.toNat
        server.message.regions →
      frame.output.getD offset 0 =
        server.message.view.data.getD offset 0

section Round

variable {serverProfile clientProfile : Profile}
variable {serverConfig : ServerConfig} {clientConfig : ClientConfig backend}
variable {server : LoopState} {client : ClientState backend}
variable {input : RoundInput}

/-- A round that meets the condition completes. -/
theorem round_of_meets (formed : input.latest.WellFormed)
    (meets : RoundMeets serverProfile serverConfig server client input) :
    ∃ step, round serverProfile serverConfig server input = .ok step ∧
      step.input = input ∧
      Encoded serverConfig.compressorKind step.message ∧
      FitsWire step.message ∧
      BasesFit step.before client step.message.view step.message.regions
        input.sent := by
  obtain ⟨view, viewed, regions, chosen, fits, bases⟩ := meets
  have within := chooseRegions_within formed viewed chosen fits.rows
  have dataLength := length_eq_size_of_viewOf formed viewed fits.frame
  have baseLength : view.data.length =
      ((server.noteSkipped (!input.newer.isEmpty)
        input.dropped).encodeBase view.data.length).length := by
    rw [LoopState.encodeBase]
    by_cases anchor : (server.noteSkipped (!input.newer.isEmpty)
        input.dropped).forceAnchor = true
    · rw [if_pos anchor, length_resize]
    · rw [if_neg anchor]
      rcases bases.serverSized with forced | sameLength
      · exact absurd forced anchor
      · exact sameLength.symm
  have small : view.data.length < usizeRange := by
    rw [dataLength]
    exact Nat.lt_trans fits.frame (by decide)
  have inside : RegionsInside view.stride.toNat view.data.length
      regions := by
    rw [dataLength]
    exact within.inside
  have addressable : (regionOffsets view.stride.toNat regions).length <
      usizeRange :=
    within.length_regionOffsets_lt fits.rows fits.frame fits.few
  have compressed := compressFrameInto_of_inside serverProfile
    serverConfig.compressorKind baseLength small inside addressable
  obtain ⟨wire, prepared⟩ := prepareMessage_of_compressed viewed chosen
    compressed (List.length_map _) fits.allocatable
  refine ⟨_, round_of_prepareMessage prepared, rfl, ?_, ?_, bases⟩
  · exact
      { data_length := dataLength
        base_length := baseLength.symm.trans dataLength
        within := within
        sizes := rfl
        payload := rfl }
  · exact
      { rows := fits.rows
        frame := fits.frame
        regions := fits.few
        blobs := by
          intro size member
          obtain ⟨blob, blobMember, rfl⟩ := List.mem_map.mp member
          exact fits.short blob blobMember }

/-- Preparing the delta bases changes no byte inside the picture. -/
private theorem getD_encodeBase (before : LoopState) {length offset : Nat}
    (inside : offset < length) :
    (before.encodeBase length).getD offset 0 =
      before.previousFrame.getD offset 0 := by
  rw [LoopState.encodeBase]
  by_cases anchor : before.forceAnchor = true
  · rw [if_pos anchor]
    exact getD_resize _ _ _ inside
  · rw [if_neg anchor]

private theorem getD_prepareBase (client : ClientState backend)
    (isAnchor : Bool) {size offset : Nat} (inside : offset < size) :
    (client.prepareBase isAnchor size).previousFrame.getD offset 0 =
      client.previousFrame.getD offset 0 := by
  rw [ClientState.prepareBase]
  by_cases reset : (isAnchor || !client.hasPrevious) = true
  · rw [if_pos reset]
    exact getD_resize _ _ _ inside
  · rw [if_neg reset]

private theorem length_prepareBase_of_fits {isAnchor : Bool} {size : Nat}
    (fits : isAnchor = true ∨ client.hasPrevious = false ∨
      client.previousFrame.length = size) :
    (client.prepareBase isAnchor size).previousFrame.length = size := by
  rw [ClientState.prepareBase]
  by_cases reset : (isAnchor || !client.hasPrevious) = true
  · rw [if_pos reset]
    exact length_resize _ _ _
  · rw [if_neg reset]
    rcases fits with anchor | empty | width
    · rw [anchor] at reset
      exact absurd rfl reset
    · rw [empty, Bool.not_false, Bool.or_true] at reset
      exact absurd rfl reset
    · exact width

/-- The message of an accepted round is received whole. -/
theorem received_of_basesFit {step : ServerStep}
    (sameKind : clientConfig.compressorKind = serverConfig.compressorKind)
    (lossless : serverConfig.compressorKind.Lossless)
    (done : round serverProfile serverConfig server input = .ok step)
    (encoded : Encoded serverConfig.compressorKind step.message)
    (fits : FitsWire step.message)
    (bases : BasesFit step.before client step.message.view
      step.message.regions true) :
    ∃ after outcome,
      handleMessage clientProfile clientConfig client
          (messageOf step.message) = .ok (after, some outcome) ∧
        ∀ msg, Carries step.message msg →
          ReceivedWhole step ⟨msg, some outcome, after⟩ := by
  obtain ⟨_, _, prepared, _⟩ := round_eq_ok done
  have sized : (client.prepareBase step.before.forceAnchor
      step.message.geometry.size).previousFrame.length =
        step.message.geometry.size :=
    length_prepareBase_of_fits (bases.clientSized rfl)
  refine ⟨_, _, handleMessage_of_encoded clientProfile
    (by rw [sameKind]; exact lossless) (by rw [sameKind]; exact encoded)
    fits client prepared.msgType sized, ?_⟩
  intro msg carried
  refine ⟨carried, _, rfl, rfl, rfl, rfl,
    length_decodedOutput.trans sized, ?_⟩
  intro offset member
  have inside : offset < step.message.geometry.size :=
    lt_of_mem_regionOffsets encoded.within.inside member
  have insideBase := inside
  have insideData := inside
  rw [← sized] at insideBase
  rw [← encoded.data_length] at insideData
  apply (getD_decodedOutput_eq_iff insideBase member).mpr
  rw [getD_prepareBase client _ inside, bases.agree rfl offset member,
    prepared.base, getD_encodeBase step.before insideData]

end Round

/-! ## Whole runs -/

section Runs

variable {serverProfile clientProfile : Profile}
variable {serverConfig : ServerConfig} {clientConfig : ClientConfig backend}

/-- From any two states the server completes all rounds, and the client
follows. -/
private theorem follows_of_runMeets
    (sameKind : clientConfig.compressorKind = serverConfig.compressorKind)
    (lossless : serverConfig.compressorKind.Lossless) :
    ∀ (inputs : List RoundInput) (server : LoopState)
      (client : ClientState backend),
      (∀ input, input ∈ inputs → input.latest.WellFormed) →
      RunMeets serverProfile clientProfile serverConfig clientConfig server
        client inputs →
        ∃ steps,
          compressSendLoop serverProfile serverConfig server inputs =
              .ok steps ∧
            Follows clientProfile clientConfig ReceivedWhole client
              steps := by
  intro inputs
  induction inputs with
  | nil =>
      intro server client _ _
      exact ⟨[], rfl, .done client⟩
  | cons input inputs inductionHypothesis =>
      intro server client formed meets
      obtain ⟨here, later⟩ := meets
      obtain ⟨step, done, inputEq, encoded, fits, bases⟩ :=
        round_of_meets (formed input List.mem_cons_self) here
      have othersFormed := fun other member =>
        formed other (List.mem_cons_of_mem input member)
      cases accepted : input.sent with
      | false =>
          have exchanged : exchange serverProfile clientProfile
              serverConfig clientConfig server client input =
                .ok (step.after, client) := by
            rw [exchange, done, accepted]
            rfl
          obtain ⟨steps, run, follows⟩ := inductionHypothesis step.after
            client othersFormed (later _ exchanged)
          refine ⟨step :: steps, ?_, .refused (by rw [inputEq, accepted])
            follows⟩
          rw [compressSendLoop, done]
          simp only [bind, Except.bind]
          rw [run]
          rfl
      | true =>
          rw [accepted] at bases
          obtain ⟨after, outcome, handled, received⟩ :=
            received_of_basesFit sameKind lossless done encoded fits bases
          have exchanged : exchange serverProfile clientProfile
              serverConfig clientConfig server client input =
                .ok (step.after, after) := by
            rw [exchange, done, accepted]
            simp only [bind, Except.bind, if_true]
            rw [handled]
            rfl
          obtain ⟨steps, run, follows⟩ := inductionHypothesis step.after
            after othersFormed (later _ exchanged)
          refine ⟨step :: steps, ?_, .accepted (by rw [inputEq, accepted])
            handled received follows⟩
          rw [compressSendLoop, done]
          simp only [bind, Except.bind]
          rw [run]
          rfl

/-- Over every sequence of well-formed frames of any dimensions whose rounds
meet the condition, the server completes every round, and the client
receives every message whole, in a buffer of the announced size. -/
theorem recvDecompressLoop_receives_whole
    (sameKind : clientConfig.compressorKind = serverConfig.compressorKind)
    (lossless : serverConfig.compressorKind.Lossless)
    (interpolation : Option (Interpolate.InterpolationManager backend))
    {inputs : List RoundInput}
    (formed : ∀ input, input ∈ inputs → input.latest.WellFormed)
    (meets : RunMeets serverProfile clientProfile serverConfig clientConfig
      LoopState.initial (ClientState.initial interpolation) inputs) :
    ∃ steps,
      compressSendLoop serverProfile serverConfig LoopState.initial
          inputs = .ok steps ∧
        ∀ msgs, Delivered steps msgs → ∃ clientSteps,
          recvDecompressLoop clientProfile clientConfig
              (ClientState.initial interpolation) msgs =
                .ok clientSteps ∧
            List.Forall₂ ReceivedWhole (acceptedSteps steps)
              (frameSteps clientSteps) := by
  obtain ⟨steps, run, follows⟩ := follows_of_runMeets sameKind lossless
    inputs LoopState.initial (ClientState.initial interpolation) formed
      meets
  exact ⟨steps, run, fun msgs delivered =>
    recvDecompressLoop_of_follows delivered follows⟩

end Runs

/-! ## Example runs -/

/-- Four bytes become eight at the second frame. -/
def growingInputs : List RoundInput :=
  [⟨⟨[1, 2, 3, 4], [], .argb8888, 1, 1, 4, 0⟩, [], false, true⟩,
    ⟨⟨[1, 2, 3, 4, 5, 6, 7, 8], [], .argb8888, 2, 1, 8, 0⟩, [], false,
      true⟩]

/-- Eight bytes become four at the second frame. -/
def shrinkingInputs : List RoundInput :=
  [⟨⟨[1, 2, 3, 4, 5, 6, 7, 8], [], .argb8888, 2, 1, 8, 0⟩, [], false,
      true⟩,
    ⟨⟨[9, 9, 9, 9], [], .argb8888, 1, 1, 4, 0⟩, [], false, true⟩]

/-- Two pixels in a row become two rows. -/
def turningInputs : List RoundInput :=
  [⟨⟨[1, 2, 3, 4, 5, 6, 7, 8], [], .argb8888, 2, 1, 8, 0⟩, [], false,
      true⟩,
    ⟨⟨[1, 2, 3, 4, 9, 9, 9, 9], [⟨0, 1, 1, 1⟩], .argb8888, 1, 2, 4, 0⟩,
      [], false, true⟩]

theorem recvDecompressLoop_receives_turning :
    ∃ steps,
      compressSendLoop .dev plainServer LoopState.initial turningInputs =
          .ok steps ∧
        ∀ msgs, Delivered steps msgs → ∃ clientSteps,
          recvDecompressLoop .release plainClient (ClientState.initial none)
              msgs = .ok clientSteps ∧
            List.Forall₂ ReceivedWhole (acceptedSteps steps)
              (frameSteps clientSteps) :=
  recvDecompressLoop_receives_whole rfl Codec.plain_lossless none
    (by decide) (by decide +kernel)

/-- The client's outputs in a run of accepted messages. -/
def outputsOf (profile : Profile) (steps : List ServerStep) :
    Exec (List (Option FrameOutcome)) := do
  let clientSteps ← recvDecompressLoop profile plainClient
    (ClientState.initial none) (messagesOf steps)
  return clientSteps.map ClientStep.outcome

/-- A growing frame stops the server at its second round: a `dev` build at
the length assertion, a `release` build out of bounds.  A shrinking frame
passes a `release` build, and the client ends up with eight bytes for a
picture of four. -/
theorem compressSendLoop_fails_on_other_length :
    (∀ input, input ∈ growingInputs → input.latest.WellFormed) ∧
      compressSendLoop .dev plainServer LoopState.initial growingInputs =
        .error .assertion ∧
      compressSendLoop .release plainServer LoopState.initial
        growingInputs = .error .bounds ∧
    (∀ input, input ∈ shrinkingInputs → input.latest.WellFormed) ∧
      ∃ steps, compressSendLoop .release plainServer LoopState.initial
          shrinkingInputs = .ok steps ∧
        outputsOf .release steps =
          .ok [some (.decoded ⟨2, 1, 8, [⟨0, 0, 2, 1⟩],
              [1, 2, 3, 4, 5, 6, 7, 8]⟩),
            some (.decoded ⟨1, 1, 4, [⟨0, 0, 1, 1⟩],
              [9, 9, 9, 9, 5, 6, 7, 8]⟩)] := by
  decide +kernel

end RemoteWay.System
