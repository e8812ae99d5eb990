import RemoteWay.System.Message

/-!
# Delivery of the accepted messages

The transport hands the accepted messages of a server run to the client once
each and in order, between messages of other kinds.  `Follows` is the rule
for relating the two loops: it is enough to relate each accepted round to the
client's handling of its message.
-/

namespace RemoteWay.System

open RemoteWay.Base RemoteWay.Proto RemoteWay.Compress
open RemoteWay.Server RemoteWay.Client RemoteWay.Transport

variable {backend : Type}

/-! ## Messages on their way -/

/-- The transport hands the message to the client intact. -/
structure Carries (message : FrameMessage) (msg : IncomingMessage) :
    Prop where
  msgType : msg.header.msgType = .ok message.msgType
  payload : msg.payload = message.payload
  timestampNs : msg.header.timestampNs = message.timestampNs

/-- Neither a frame nor a resize notification. -/
def Unrelated (msg : IncomingMessage) : Prop :=
  msg.header.msgType ≠ .ok .anchorFrame ∧
    msg.header.msgType ≠ .ok .frameUpdate ∧
    msg.header.msgType ≠ .ok .resize

instance (msg : IncomingMessage) : Decidable (Unrelated msg) :=
  inferInstanceAs (Decidable (_ ∧ _))

/-- The accepted messages of a run reach the client once each and in order,
between unrelated messages. -/
inductive Delivered : List ServerStep → List IncomingMessage → Prop where
  | done : Delivered [] []
  | refused {step : ServerStep} {steps : List ServerStep}
      {msgs : List IncomingMessage} :
      step.input.sent = false → Delivered steps msgs →
        Delivered (step :: steps) msgs
  | accepted {step : ServerStep} {steps : List ServerStep}
      {msg : IncomingMessage} {msgs : List IncomingMessage} :
      step.input.sent = true → Carries step.message msg →
        Delivered steps msgs → Delivered (step :: steps) (msg :: msgs)
  | unrelated {steps : List ServerStep} {msg : IncomingMessage}
      {msgs : List IncomingMessage} :
      Unrelated msg → Delivered steps msgs →
        Delivered steps (msg :: msgs)

/-- The rounds whose message the transport accepted. -/
def acceptedSteps (steps : List ServerStep) : List ServerStep :=
  steps.filter fun step => step.input.sent

/-- The messages that the client handled as frames. -/
def frameSteps (steps : List (ClientStep backend)) :
    List (ClientStep backend) :=
  steps.filter fun step => step.outcome.isSome

/-- An accepted message as it arrives. -/
def messageOf (message : FrameMessage) : IncomingMessage where
  header := FrameHeader.new 1 message.msgType
    (Flags.compressed ||| Flags.lastChunk)
    (UInt32.ofNat message.payload.length) message.timestampNs
  payload := message.payload

/-- The messages of a run, as they arrive without any others. -/
def messagesOf (steps : List ServerStep) : List IncomingMessage :=
  (acceptedSteps steps).map fun step => messageOf step.message

theorem carries_messageOf (message : FrameMessage) :
    Carries message (messageOf message) where
  msgType := FrameHeader.msgType_new _ _ _ _ _
  payload := rfl
  timestampNs := rfl

theorem delivered_messagesOf :
    ∀ steps : List ServerStep, Delivered steps (messagesOf steps)
  | [] => .done
  | step :: steps => by
      have rest := delivered_messagesOf steps
      rw [messagesOf, acceptedSteps] at rest ⊢
      rw [List.filter_cons]
      cases accepted : step.input.sent with
      | true =>
          exact .accepted accepted (carries_messageOf step.message) rest
      | false => exact .refused accepted rest

def plainServer : ServerConfig where
  compressorKind := Codec.plain
  downscale := none
  threads := 1

def plainClient : ClientConfig Unit where
  compressorKind := Codec.plain
  interpolator := ⟨fun _ _ _ _ => ((), .error .noBackend)⟩

/-! ## Handling a message -/

theorem handleMessage_of_decodes {profile : Profile}
    {config : ClientConfig backend} {state prepared : ClientState backend}
    {isAnchor : Bool} {msg : IncomingMessage} {frame : DecodedFrame}
    (typed : msg.header.msgType = .ok (frameMsgType isAnchor))
    (decodes : decodeFrame profile config.compressorKind state isAnchor
      msg.payload = .ok (prepared, .decoded frame)) :
    handleMessage profile config state msg =
      .ok (acceptFrame config.interpolator prepared frame
        msg.header.timestampNs, some (.decoded frame)) := by
  rw [handleMessage_of_frame profile config state typed, handleFrame,
    decodes]
  rfl

/-- A client whose delta base has the announced size accepts the frame of an
encoded message. -/
theorem handleMessage_of_encoded (profile : Profile)
    {config : ClientConfig backend} {message : FrameMessage}
    (lossless : config.compressorKind.Lossless)
    (encoded : Encoded config.compressorKind message)
    (fits : FitsWire message) (state : ClientState backend)
    {isAnchor : Bool} (typed : message.msgType = frameMsgType isAnchor)
    (sized : (state.prepareBase isAnchor
      message.geometry.size).previousFrame.length = message.geometry.size) :
    let prepared := state.prepareBase isAnchor message.geometry.size
    let frame := decodedMessage message prepared.previousFrame
    handleMessage profile config state (messageOf message) =
      .ok (acceptFrame config.interpolator prepared frame
        (messageOf message).header.timestampNs, some (.decoded frame)) := by
  have arrived := (carries_messageOf message).msgType
  rw [typed] at arrived
  exact handleMessage_of_decodes arrived
    (decodeFrame_of_encoded profile lossless encoded fits state isAnchor
      sized)

/-- What a client does with a message depends on what the transport
carries. -/
theorem handleMessage_of_carries (profile : Profile)
    (config : ClientConfig backend) (state : ClientState backend)
    {message : FrameMessage} {msg : IncomingMessage}
    (carried : Carries message msg) :
    handleMessage profile config state msg =
      handleMessage profile config state (messageOf message) := by
  have same := carries_messageOf message
  rw [handleMessage, handleMessage, handleFrame, handleFrame, handleFrame,
    handleFrame, carried.msgType, same.msgType, carried.payload,
    same.payload, carried.timestampNs, same.timestampNs]

/-! ## Relating the loops -/

section Following

variable {profile : Profile} {config : ClientConfig backend}
variable {related : ServerStep → ClientStep backend → Prop}

variable (profile config related) in
/-- From this client state on, each accepted round is related to the
handling of its message. -/
inductive Follows : ClientState backend → List ServerStep → Prop where
  | done (client : ClientState backend) : Follows client []
  | refused {client : ClientState backend} {step : ServerStep}
      {steps : List ServerStep} :
      step.input.sent = false → Follows client steps →
        Follows client (step :: steps)
  | accepted {client after : ClientState backend} {outcome : FrameOutcome}
      {step : ServerStep} {steps : List ServerStep} :
      step.input.sent = true →
      handleMessage profile config client (messageOf step.message) =
        .ok (after, some outcome) →
      (∀ msg, Carries step.message msg →
        related step ⟨msg, some outcome, after⟩) →
      Follows after steps → Follows client (step :: steps)

/-- Step rule for following the rounds of a run: every round keeps the
states related, and an accepted one is related to the handling of its
message. -/
theorem follows_of_rounds {serverProfile : Profile}
    {serverConfig : ServerConfig} (Each : ServerStep → Prop)
    (States : LoopState → ClientState backend → Prop)
    (refused : ∀ {before after step client},
      roundStep serverProfile serverConfig before step after → Each step →
        step.input.sent = false → States before client →
          States after client)
    (accepted : ∀ {before after step client},
      roundStep serverProfile serverConfig before step after → Each step →
        step.input.sent = true → States before client →
          ∃ clientAfter outcome,
            handleMessage profile config client (messageOf step.message) =
                .ok (clientAfter, some outcome) ∧
              (∀ msg, Carries step.message msg →
                related step ⟨msg, some outcome, clientAfter⟩) ∧
              States after clientAfter)
    {steps : List ServerStep} {before last : LoopState}
    (run : Run (roundStep serverProfile serverConfig) before steps last) :
    ∀ {client : ClientState backend}, (∀ step, step ∈ steps → Each step) →
      States before client →
        Follows profile config related client steps := by
  induction run with
  | nil here =>
      intro client _ _
      exact .done client
  | @cons before after last step steps stepped rest
      inductionHypothesis =>
      intro client each states
      have here := each step List.mem_cons_self
      have later := fun other member =>
        each other (List.mem_cons_of_mem step member)
      cases sent : step.input.sent with
      | false =>
          exact .refused sent (inductionHypothesis later
            (refused stepped here sent states))
      | true =>
          obtain ⟨clientAfter, outcome, handled, locked, next⟩ :=
            accepted stepped here sent states
          exact .accepted sent handled locked
            (inductionHypothesis later next)

/-- Delivery keeps the loops related. -/
theorem recvDecompressLoop_of_follows {steps : List ServerStep}
    {msgs : List IncomingMessage} (delivered : Delivered steps msgs) :
    ∀ {client : ClientState backend},
      Follows profile config related client steps →
        ∃ clientSteps,
          recvDecompressLoop profile config client msgs =
              .ok clientSteps ∧
            List.Forall₂ related (acceptedSteps steps)
              (frameSteps clientSteps) := by
  induction delivered with
  | done =>
      intro client _
      exact ⟨[], rfl, .nil⟩
  | @refused step steps msgs refused _ inductionHypothesis =>
      intro client follows
      have skipped : acceptedSteps (step :: steps) = acceptedSteps steps :=
        List.filter_cons_of_neg (by rw [refused]; decide)
      rw [skipped]
      cases follows with
      | refused _ rest => exact inductionHypothesis rest
      | accepted accepted _ _ _ =>
          rw [refused] at accepted
          cases accepted
  | @accepted step steps msg msgs accepted carried _
      inductionHypothesis =>
      intro client follows
      have taken :
          acceptedSteps (step :: steps) = step :: acceptedSteps steps :=
        List.filter_cons_of_pos accepted
      cases follows with
      | refused refused _ =>
          rw [refused] at accepted
          cases accepted
      | @accepted _ after outcome _ _ _ handled each rest =>
          obtain ⟨clientSteps, received, others⟩ :=
            inductionHypothesis rest
          refine ⟨⟨msg, some outcome, after⟩ :: clientSteps, ?_, ?_⟩
          · rw [recvDecompressLoop,
              handleMessage_of_carries profile config client carried,
              handled]
            simp only [bind, Except.bind]
            rw [received]
            rfl
          · rw [taken]
            exact .cons (each msg carried) others
  | @unrelated steps msg msgs unrelated _ inductionHypothesis =>
      intro client follows
      obtain ⟨clientSteps, received, others⟩ :=
        inductionHypothesis follows
      refine ⟨⟨msg, none, client⟩ :: clientSteps, ?_, others⟩
      rw [recvDecompressLoop,
        handleMessage_of_ignored profile config client unrelated.1
          unrelated.2.1 unrelated.2.2]
      simp only [bind, Except.bind]
      rw [received]
      rfl

end Following

end RemoteWay.System
