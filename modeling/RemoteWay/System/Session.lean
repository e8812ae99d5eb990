import RemoteWay.System.Lockstep
import RemoteWay.System.Relay

/-!
# A whole session

Both programs from their start, with `compress_send_loop` on the server and
`recv_decompress_loop` on the client.  The client takes its messages out of
the channel that its `read_loop` fills from what the server's `write_loop`
has written, in pieces of any size.  Either connection may end at any time.

In every interleaving the client handles a front part of the accepted
messages without a panic, and decodes each to the picture that the server
encoded.  Once nothing is on the way, both sides have the same delta base.
-/

namespace RemoteWay.System

open RemoteWay.Base RemoteWay.Proto RemoteWay.Compress
open RemoteWay.Capture RemoteWay.Server RemoteWay.Client
open RemoteWay.Transport

/-! ## The frames of a message -/

theorem compressed_unmarked : Flags.compressed &&& Flags.lastChunk = 0 := by
  decide

theorem chunkSize_pos : 0 < chunkSize := by decide

theorem chunkSize_le_maxPayloadLen :
    chunkSize ≤ maxPayloadLen.toNat := by
  decide

/-- A message as it is handed to `split_into_chunks`. -/
def outgoingOf (message : FrameMessage)
    (addressable : message.payload.length < 2 ^ 63) : OutgoingMessage where
  streamId := 1
  msgType := message.msgType
  extraFlags := Flags.compressed
  payload := message.payload
  timestampNs := message.timestampNs
  chunkSize := chunkSize
  unmarked := compressed_unmarked
  chunkSize_pos := chunkSize_pos
  chunkSize_le := chunkSize_le_maxPayloadLen
  addressable := addressable

/-- The frames in which a message is written. -/
def messageFrames (message : FrameMessage) : List Frame :=
  if addressable : message.payload.length < 2 ^ 63 then
    (outgoingOf message addressable).chunkFrames
  else
    []

theorem wire_eq_messageFrames {profile : Profile} {config : ServerConfig}
    {loop : LoopState} {input : RoundInput} {step : ServerStep}
    (completed : Server.round profile config loop input = .ok step)
    (addressable : step.message.payload.length < 2 ^ 63) :
    step.message.wire =
      (messageFrames step.message).flatMap Frame.encode := by
  obtain ⟨_, _, prepared, _⟩ := round_eq_ok completed
  have frames := ((outgoingOf step.message addressable).split_eq profile
    []).symm.trans prepared.wire
  injection frames with frames
  rw [messageFrames, dif_pos addressable, ← frames, List.nil_append]

/-- The frames of a message arrive as this message. -/
theorem carries_of_messageFrames {message : FrameMessage}
    (addressable : message.payload.length < 2 ^ 63) :
    ∃ msg, Carries message msg ∧
      Scanner.reactAll reassembleFrame (fun _ => none)
          (messageFrames message) = (fun _ => none, [msg]) := by
  obtain ⟨output, arrived, delivered⟩ :=
    reactAll_chunkFrames [outgoingOf message addressable]
  rw [List.flatMap_singleton] at arrived
  cases delivered with
  | cons delivers rest =>
      cases rest
      obtain ⟨_, msgType, timestampNs, payload⟩ := delivers
      refine ⟨_, ⟨msgType, payload, timestampNs⟩, ?_⟩
      rw [messageFrames, dif_pos addressable, arrived]

/-! ## The system -/

/-- How both programs were started. -/
structure Deployment (backend : Type) where
  serverProfile : Profile
  clientProfile : Profile
  serverConfig : ServerConfig
  clientConfig : ClientConfig backend
  captureArg : CaptureBackendArg
  compressArg : CompressArg
  interpolation : Option (Interpolate.InterpolationManager backend)

/-- Both programs, the rounds of `compress_send_loop`, and what
`recv_decompress_loop` has done.  A panic ends that loop. -/
structure Session (backend : Type) where
  startup : Startup
  rounds : List ServerStep
  client : Exec (ClientState backend)
  shown : List (ClientStep backend)

/-- A step of either program, or the end of a connection. -/
inductive SessionAction where
  | program (action : StartupAction)
  | clientEnds
  | serverEnds
  deriving DecidableEq, Repr

namespace Session

variable {backend : Type}

def initial (deployment : Deployment backend) : Session backend where
  startup := .initial
  rounds := []
  client := .ok (.initial deployment.interpolation)
  shown := []

/-- `recv_decompress_loop` handles a message. -/
def handle (deployment : Deployment backend) (session : Session backend)
    (startup : Startup) (msg : IncomingMessage) : Option (Session backend) :=
  match session.client with
  | .error _ => none
  | .ok state =>
      match handleMessage deployment.clientProfile deployment.clientConfig
          state msg with
      | .ok (after, outcome) =>
          some { session with
            startup := startup
            client := .ok after
            shown := session.shown ++ [⟨msg, outcome, after⟩] }
      | .error panic =>
          some { session with startup := startup, client := .error panic }

/-- What the loops of both programs do in a step, of which the new state of
the programs is given. -/
def advance (deployment : Deployment backend) (session : Session backend)
    (startup : Startup) : StartupAction → Option (Session backend)
  | .client .recv =>
      match session.startup.client.main,
          session.startup.client.incoming with
      | .running _, msg :: _ => session.handle deployment startup msg
      | _, _ => some { session with startup := startup }
  | .round input =>
      match Server.round deployment.serverProfile deployment.serverConfig
          session.startup.loop input with
      | .ok step =>
          some { session with
            startup := startup
            rounds := session.rounds ++ [step] }
      | .error _ => none
  | _ => some { session with startup := startup }

def perform (deployment : Deployment backend) (session : Session backend) :
    SessionAction → Option (Session backend)
  | .program action =>
      match session.startup.perform deployment.serverProfile
          deployment.serverConfig deployment.captureArg
          deployment.compressArg action with
      | some startup => session.advance deployment startup action
      | none => none
  | .clientEnds =>
      some { session with
        startup :=
          { session.startup with
            client :=
              { session.startup.client with
                transport :=
                  session.startup.client.transport.disconnect } } }
  | .serverEnds =>
      some { session with
        startup :=
          { session.startup with
            server :=
              { session.startup.server with
                transport :=
                  session.startup.server.transport.disconnect } } }

/-- The rounds of a step send frames of constant dimensions, whose updates
cover what changed and whose messages fit the wire, and no anchor overtakes
an update. -/
def Fair (captured : Geometry) (before after : Session backend) : Prop :=
  ∀ step, step ∈ after.rounds.drop before.rounds.length →
    Reaches captured step ∧
      (step.input.sent = true → step.message.msgType = .anchorFrame →
        before.startup.server.transport.frameRx = [])

instance (captured : Geometry) (step : ServerStep) :
    Decidable (Reaches captured step) :=
  inferInstanceAs (Decidable (_ ∧ _ ∧ (_ → _)))

instance (captured : Geometry) (before after : Session backend) :
    Decidable (Fair captured before after) :=
  inferInstanceAs (Decidable (∀ step, step ∈ _ → _))

/-! ## The invariant -/

/-- A round whose message is decoded in lockstep, to a frame of the size that
the message announces. -/
structure Delivered (server : ServerStep) (client : ClientStep backend) :
    Prop extends InLockstep server client where
  whole : ∃ base,
    base.length = server.message.geometry.size ∧
      client.outcome =
        some (.decoded (decodedMessage server.message base))

section Invariant

variable (deployment : Deployment backend) (captured : Geometry)

/-- A message as a step of `recv_decompress_loop`. -/
def handleStep (before : ClientState backend) (done : ClientStep backend)
    (after : ClientState backend) : Prop :=
  handleMessage deployment.clientProfile deployment.clientConfig before
      done.msg = .ok (done.after, done.outcome) ∧ done.after = after

/-- The frames that the server has accepted. -/
def stream (session : Session backend) : List Frame :=
  if session.startup.server.main = .starting then
    []
  else
    Startup.serverHandshake deployment.captureArg
        deployment.compressArg ::
      (acceptedSteps session.rounds).flatMap fun step =>
        messageFrames step.message

/-- The messages that the client's main task has taken. -/
def taken (session : Session backend) : List IncomingMessage :=
  match session.startup.client.main with
  | .running first => first :: session.shown.map ClientStep.msg
  | _ => []

/-- The server's handshake, once it has been queued. -/
def greeting (session : Session backend) : List IncomingMessage :=
  if session.startup.server.main = .starting then
    []
  else
    [arrivalMessage (Startup.serverHandshake deployment.captureArg
      deployment.compressArg)]

/-- The client is in the given state, and is going to do the given steps with
the messages that it has not handled yet, which bring it level with the
server. -/
structure Pursues (session : Session backend) (state : ClientState backend)
    (due : List (ClientStep backend)) (level : ClientState backend) :
    Prop where
  running : session.client = .ok state
  shown : Run (handleStep deployment)
    (ClientState.initial deployment.interpolation) session.shown state
  catchesUp : Run (handleStep deployment) state due level
  arrives : Scanner.reactAll reassembleFrame (fun _ => none)
      (session.stream deployment) =
    (fun _ => none, session.greeting deployment ++
      (session.shown ++ due).map ClientStep.msg)
  delivered : List.Forall₂ Delivered (acceptedSteps session.rounds)
    (session.shown ++ due)
  sized : BaseSized (deployment.serverConfig.sentLength captured)
    session.startup.loop
  synced : Synced (deployment.serverConfig.sentGeometry captured)
    session.startup.loop level

structure Sound (session : Session backend) : Prop where
  relay : Relay (session.stream deployment) session.startup.server
    session.startup.client session.taken
  rounds : Run (roundStep deployment.serverProfile deployment.serverConfig)
    LoopState.initial session.rounds session.startup.loop
  fresh : session.startup.server.main = .starting → session.rounds = []
  unmet : (∀ first, session.startup.client.main ≠ .running first) →
    session.shown = []
  pursues : ∃ state due level,
    session.Pursues deployment captured state due level

end Invariant

section Steps

variable {deployment : Deployment backend} {captured : Geometry}
variable {before after : Session backend}

theorem sound_initial : (initial deployment).Sound deployment captured where
  relay := relay_initial
  rounds := .nil _
  fresh := fun _ => rfl
  unmet := fun _ => rfl
  pursues := ⟨_, [], _, ⟨rfl, .nil _, .nil _, rfl, .nil,
    baseSized_initial _, synced_initial _ _⟩⟩

variable (deployment) in
theorem stream_starting
    (starting : before.startup.server.main = .starting) :
    before.stream deployment = [] ∧ before.greeting deployment = [] := by
  rw [stream, greeting, if_pos starting, if_pos starting]
  exact ⟨rfl, rfl⟩

theorem greeting_begun (begun : before.startup.server.main ≠ .starting) :
    before.greeting deployment =
      [arrivalMessage (Startup.serverHandshake deployment.captureArg
        deployment.compressArg)] := by
  rw [greeting, if_neg begun]

/-- A step that neither starts the server nor completes a round, and in which
the client handles no message. -/
theorem Sound.keep (sound : before.Sound deployment captured)
    (starting : after.startup.server.main = .starting ↔
      before.startup.server.main = .starting)
    (loop : after.startup.loop = before.startup.loop)
    (rounds : after.rounds = before.rounds)
    (client : after.client = before.client)
    (shown : after.shown = before.shown)
    (unmet : (∀ first, after.startup.client.main ≠ .running first) →
      before.shown = [])
    (relay : Relay (before.stream deployment) after.startup.server
      after.startup.client after.taken) :
    after.Sound deployment captured := by
  have sameStream : after.stream deployment = before.stream deployment := by
    rw [stream, stream, rounds]
    simp only [starting]
  have sameGreeting :
      after.greeting deployment = before.greeting deployment := by
    rw [greeting, greeting]
    simp only [starting]
  refine ⟨?_, ?_, ?_, ?_, ?_⟩
  · rw [sameStream]
    exact relay
  · rw [rounds, loop]
    exact sound.rounds
  · rw [rounds]
    exact fun early => sound.fresh (starting.mp early)
  · rw [shown]
    exact unmet
  · obtain ⟨state, due, level, pursues⟩ := sound.pursues
    obtain ⟨running, early, catchesUp, arrives, delivered, sized, synced⟩ :=
      pursues
    refine ⟨state, due, level, ⟨client.trans running, ?_, catchesUp, ?_, ?_,
      ?_, ?_⟩⟩
    · rw [shown]
      exact early
    · rw [sameStream, sameGreeting, shown]
      exact arrives
    · rw [rounds, shown]
      exact delivered
    · rw [loop]
      exact sized
    · rw [loop]
      exact synced

/-- The messages that the server has accepted, in order. -/
theorem Pursues.streamMessages {state level : ClientState backend}
    {due : List (ClientStep backend)}
    (pursues : before.Pursues deployment captured state due level) :
    streamMessages (before.stream deployment) =
      before.greeting deployment ++
        (before.shown ++ due).map ClientStep.msg := by
  rw [System.streamMessages, pursues.arrives]

/-! ## Steps of the server -/

/-- The server queues its handshake. -/
theorem Sound.start {server : Endpoint}
    (sound : before.Sound deployment captured)
    (started : before.startup.server.start (Server.buildHandshake
      deployment.captureArg deployment.compressArg) = some server)
    (same : after = { before with
      startup := { before.startup with server := server } }) :
    after.Sound deployment captured := by
  subst same
  obtain ⟨starting, waiting⟩ := main_of_start started
  have begun : server.main ≠ .starting := by
    rw [waiting]
    intro impossible
    cases impossible
  obtain ⟨noFrames, noGreeting⟩ := stream_starting deployment starting
  have noRounds := sound.fresh starting
  obtain ⟨state, due, level, pursues⟩ := sound.pursues
  have streamEq : stream deployment { before with
      startup := { before.startup with server := server } } =
        [Startup.serverHandshake deployment.captureArg
          deployment.compressArg] := by
    rw [stream, if_neg begun, noRounds]
    rfl
  have nothing : (before.shown ++ due).map ClientStep.msg = [] := by
    have arrives := pursues.arrives
    rw [noFrames, noGreeting, Scanner.reactAll, List.nil_append] at arrives
    injection arrives with _ empty
    exact empty.symm
  refine ⟨?_, sound.rounds, fun impossible => absurd impossible begun,
    sound.unmet, state, due, level, ?_⟩
  · have relay : Relay (before.stream deployment ++
        [Startup.serverHandshake deployment.captureArg
          deployment.compressArg]) server before.startup.client before.taken :=
      sound.relay.start (sound.relay.updates_of_nil noFrames) started
    rw [noFrames, List.nil_append] at relay
    rw [streamEq]
    exact relay
  · refine ⟨pursues.running, pursues.shown, pursues.catchesUp, ?_,
      pursues.delivered, pursues.sized, pursues.synced⟩
    rw [streamEq, greeting, if_neg begun, nothing, Scanner.reactAll,
      reassembleFrame_eq,
      if_pos (Startup.isHandshake_server deployment.captureArg
        deployment.compressArg).whole]
    refine Prod.ext ?_ rfl
    exact Function.update_eq_self _ _

/-- Any step of the server. -/
theorem Sound.server {step : TaskStep} {server : Endpoint}
    {bytes : List UInt8} (sound : before.Sound deployment captured)
    (performed : before.startup.server.perform (Server.buildHandshake
      deployment.captureArg deployment.compressArg) step =
        some (server, bytes))
    (same : after = { before with
      startup :=
        { before.startup with
          client := before.startup.client.deliver bytes
          server := server } }) :
    after.Sound deployment captured := by
  by_cases starts : step = .start
  · subst starts
    obtain ⟨next, started, nextEq⟩ := Option.map_eq_some_iff.mp performed
    injection nextEq with nextEq bytesEq
    subst nextEq bytesEq
    rw [deliver_nil] at same
    exact sound.start started same
  · have starting :
        server.main = .starting ↔ before.startup.server.main = .starting := by
      by_cases receives : step = .recv
      · subst receives
        obtain ⟨next, received, nextEq⟩ :=
          Option.map_eq_some_iff.mp performed
        injection nextEq with nextEq _
        rw [nextEq] at received
        obtain ⟨early, late⟩ := begun_of_recv received
        exact ⟨fun impossible => absurd impossible late,
          fun impossible => absurd impossible early⟩
      · rw [main_of_perform performed starts receives]
    have relay : Relay (before.stream deployment ++
        framesOfStep (Startup.serverHandshake deployment.captureArg
          deployment.compressArg) step) server
            (before.startup.client.deliver bytes) before.taken :=
      sound.relay.sends (fun early => (stream_starting deployment early).1)
        performed
    have noFrames : framesOfStep (Startup.serverHandshake
        deployment.captureArg deployment.compressArg) step = [] := by
      cases step with
      | start => exact absurd rfl starts
      | recv | select | write _ | finish | read _ | forward => rfl
    rw [noFrames, List.append_nil] at relay
    rw [same]
    exact sound.keep starting rfl rfl rfl rfl sound.unmet relay

/-- An accepted message is queued behind all others, unless it is an anchor
and updates are queued. -/
theorem queuedBytes_of_offer {transport next : SshTransport}
    {message : FrameMessage}
    (offered : offer transport message = (true, next))
    (prompt : message.msgType = .anchorFrame → transport.frameRx = []) :
    transport.connected = true ∧
      queuedBytes next = queuedBytes transport ++ message.wire := by
  rw [offer] at offered
  by_cases anchor : message.msgType = .anchorFrame
  · rw [if_pos anchor] at offered
    rcases transport.sendAnchor_eq message.wire with
      ⟨_, sent⟩ | ⟨connected, sent⟩
    · rw [sent] at offered
      cases offered
    · rw [sent] at offered
      injection offered with _ same
      rw [← same, queuedBytes, queuedBytes, prompt anchor]
      exact ⟨connected, by simp⟩
  · rw [if_neg anchor] at offered
    rcases transport.trySendFrame_eq message.wire with
      sent | ⟨connected, _, sent⟩
    · rw [sent] at offered
      cases offered
    · rw [sent] at offered
      injection offered with _ same
      rw [← same, queuedBytes, queuedBytes]
      exact ⟨connected, by simp⟩

/-- A refused message changes nothing. -/
theorem eq_of_offer_refused {transport next : SshTransport}
    {message : FrameMessage}
    (offered : offer transport message = (false, next)) :
    next = transport := by
  rcases offer_eq transport message with refused | ⟨_, accepted, _⟩
  · rw [refused] at offered
    injection offered with _ same
    exact same.symm
  · rw [accepted] at offered
    cases offered

/-- What a round of the session is. -/
theorem round_cases {input : RoundInput} {startup : Startup}
    (performed : before.startup.round deployment.serverProfile
      deployment.serverConfig input = some startup)
    (advanced : before.advance deployment startup (.round input) =
      some after) :
    ∃ step transport, Server.round deployment.serverProfile
        deployment.serverConfig before.startup.loop input = .ok step ∧
      step.message.payload.length < 2 ^ 63 ∧
      offer before.startup.server.transport step.message =
        (step.input.sent, transport) ∧
      before.startup.server.main ≠ .starting ∧
      after = { before with
        startup :=
          { client := before.startup.client
            server := { before.startup.server with transport := transport }
            loop := step.after }
        rounds := before.rounds ++ [step] } := by
  rw [Startup.round] at performed
  split at performed
  · rename_i first running
    cases completed : Server.round deployment.serverProfile
        deployment.serverConfig before.startup.loop input with
    | error panic =>
        rw [completed] at performed
        cases performed
    | ok step =>
        rw [completed] at performed
        rw [advance, completed] at advanced
        cases offered : offer before.startup.server.transport
            step.message with
        | mk sent transport =>
            simp only [offered] at performed
            obtain ⟨⟨addressable, answered⟩, same⟩ :=
              Option.ite_none_right_eq_some.mp performed
            injection same with same
            injection advanced with advanced
            obtain ⟨inputEq, _, _, _⟩ := round_eq_ok completed
            refine ⟨step, transport, rfl, addressable, ?_, ?_, ?_⟩
            · rw [offered, inputEq, answered]
            · rw [running]
              intro impossible
              cases impossible
            · rw [← advanced, ← same]
  · cases performed

/-- The client decodes the message of an accepted round in lockstep, and to a
whole frame. -/
theorem roundStep_delivered
    (sameKind : deployment.clientConfig.compressorKind =
      deployment.serverConfig.compressorKind)
    (lossless : deployment.serverConfig.compressorKind.Lossless)
    {loop next : LoopState} {step : ServerStep}
    (stepped : roundStep deployment.serverProfile deployment.serverConfig
      loop step next)
    (framed : CapturedAs captured step.input)
    (sized : BaseSized (deployment.serverConfig.sentLength captured) loop)
    (accepted : step.input.sent = true) (covered : UpdateCovers step)
    (fits : FitsWire step.message) {client : ClientState backend}
    (synced : Synced (deployment.serverConfig.sentGeometry captured) loop
      client) :
    ∃ after outcome,
      handleMessage deployment.clientProfile deployment.clientConfig client
          (messageOf step.message) = .ok (after, some outcome) ∧
        (∀ msg, Carries step.message msg →
          Delivered step ⟨msg, some outcome, after⟩) ∧
        Synced (deployment.serverConfig.sentGeometry captured) next
          after := by
  obtain ⟨handled, width, _⟩ := roundStep_handled deployment.clientProfile
    sameKind lossless stepped framed sized accepted covered fits synced
  obtain ⟨after, outcome, same, locked, level⟩ :=
    roundStep_accepted sameKind lossless stepped framed sized accepted
      covered fits synced
  refine ⟨after, outcome, same, ?_, level⟩
  intro msg carried
  rw [handled] at same
  injection same with same
  injection same with _ outcomeEq
  exact ⟨locked msg carried, _, width, outcomeEq.symm⟩

/-- A round that the transport accepts extends what the client is going to
do; a refused one does not change it. -/
theorem Sound.round {input : RoundInput} {startup : Startup}
    (sameKind : deployment.clientConfig.compressorKind =
      deployment.serverConfig.compressorKind)
    (lossless : deployment.serverConfig.compressorKind.Lossless)
    (sound : before.Sound deployment captured)
    (performed : before.startup.round deployment.serverProfile
      deployment.serverConfig input = some startup)
    (advanced : before.advance deployment startup (.round input) =
      some after)
    (fair : Fair captured before after) :
    after.Sound deployment captured := by
  obtain ⟨step, transport, completed, addressable, offered, begun, same⟩ :=
    round_cases performed advanced
  have sentFairly := fair step (by rw [same]; simp)
  obtain ⟨⟨framed, covered, fits⟩, prompt⟩ := sentFairly
  obtain ⟨inputEq, _, _, _⟩ := round_eq_ok completed
  have stepped : roundStep deployment.serverProfile
      deployment.serverConfig before.startup.loop step step.after := by
    refine ⟨?_, rfl⟩
    rw [inputEq]
    exact completed
  have rounds : Run (roundStep deployment.serverProfile
      deployment.serverConfig) LoopState.initial (before.rounds ++ [step])
        step.after :=
    run_concat_iff.mpr ⟨_, sound.rounds, stepped⟩
  have fresh : before.startup.server.main = .starting →
      before.rounds ++ [step] = [] := fun impossible =>
    absurd impossible begun
  obtain ⟨state, due, level, pursues⟩ := sound.pursues
  obtain ⟨sized, _, _, _⟩ := roundStep_base stepped framed pursues.sized
  cases accepted : step.input.sent with
  | false =>
      rw [accepted] at offered
      have kept := eq_of_offer_refused offered
      have sameRounds : acceptedSteps (before.rounds ++ [step]) =
          acceptedSteps before.rounds := by
        rw [acceptedSteps, List.filter_append, List.filter_singleton,
          accepted]
        exact List.append_nil _
      have streamEq : after.stream deployment =
          before.stream deployment := by
        rw [same, stream, stream]
        dsimp only
        rw [sameRounds]
      have picture := roundStep_refused stepped framed pursues.sized accepted
        (deployment.serverConfig.sentGeometry captured)
      subst same
      refine ⟨?_, rounds, fresh, sound.unmet, state, due, level,
        ⟨pursues.running, pursues.shown, pursues.catchesUp, ?_, ?_, sized,
          ⟨pursues.synced.picture.trans picture.symm,
            pursues.synced.sized⟩⟩⟩
      · rw [streamEq]
        dsimp only
        rw [kept]
        exact sound.relay
      · rw [streamEq]
        exact pursues.arrives
      · dsimp only
        rw [sameRounds]
        exact pursues.delivered
  | true =>
      rw [accepted] at offered
      obtain ⟨connected, longer⟩ :=
        queuedBytes_of_offer offered (prompt accepted)
      obtain ⟨next, outcome, handled, locked, synced⟩ :=
        roundStep_delivered sameKind lossless stepped framed pursues.sized
          accepted covered (fits accepted) pursues.synced
      obtain ⟨msg, carried, arrived⟩ :=
        carries_of_messageFrames addressable
      have moreRounds : acceptedSteps (before.rounds ++ [step]) =
          acceptedSteps before.rounds ++ [step] := by
        rw [acceptedSteps, List.filter_append, List.filter_singleton,
          accepted]
        rfl
      have streamEq : after.stream deployment =
          before.stream deployment ++ messageFrames step.message := by
        rw [same, stream, stream]
        dsimp only
        rw [if_neg begun, if_neg begun, moreRounds, List.flatMap_append,
          List.flatMap_singleton, List.cons_append]
      subst same
      refine ⟨?_, rounds, fresh, sound.unmet, state,
        due ++ [⟨msg, some outcome, next⟩], next,
        ⟨pursues.running, pursues.shown, ?_, ?_, ?_, sized, synced⟩⟩
      · rw [streamEq]
        apply sound.relay.queue
        intro _
        refine ⟨connected, ?_⟩
        rw [Endpoint.outgoing, Endpoint.outgoing, longer,
          wire_eq_messageFrames completed addressable, ← List.append_assoc]
        rfl
      · refine run_concat_iff.mpr ⟨level, pursues.catchesUp, ?_, rfl⟩
        rw [← handled]
        exact handleMessage_of_carries _ _ _ carried
      · rw [streamEq, Scanner.reactAll_append, pursues.arrives]
        dsimp only
        rw [arrived, List.append_assoc, ← List.append_assoc before.shown]
        simp only [List.map_append]
        rfl
      · dsimp only
        rw [moreRounds, ← List.append_assoc]
        exact List.rel_append pursues.delivered
          (.cons (locked msg carried) .nil)

/-! ## Steps of the client -/

/-- The messages on the way to the main task of the client. -/
theorem Sound.taken_prefix (sound : before.Sound deployment captured)
    {state level : ClientState backend} {due : List (ClientStep backend)}
    (pursues : before.Pursues deployment captured state due level) :
    before.taken ++ before.startup.client.incoming <+:
      before.greeting deployment ++
        (before.shown ++ due).map ClientStep.msg := by
  rw [← pursues.streamMessages]
  exact sound.relay.taken_prefix

/-- A client that has not received the handshake handles no message. -/
theorem taken_unmet
    (unmet : ∀ first, before.startup.client.main ≠ .running first) :
    before.taken = [] := by
  rw [taken]
  split
  · rename_i first running
    exact absurd running (unmet first)
  · rfl

theorem taken_running {first : IncomingMessage}
    (running : before.startup.client.main = .running first) :
    before.taken = first :: before.shown.map ClientStep.msg := by
  rw [taken, running]

/-- The first message that the client receives is the server's handshake. -/
theorem Sound.first_message (sound : before.Sound deployment captured)
    (unmet : ∀ first, before.startup.client.main ≠ .running first)
    {msg : IncomingMessage} {msgs : List IncomingMessage}
    (incoming : before.startup.client.incoming = msg :: msgs) :
    msg = arrivalMessage (Startup.serverHandshake deployment.captureArg
      deployment.compressArg) := by
  obtain ⟨state, due, level, pursues⟩ := sound.pursues
  have isFront := sound.taken_prefix pursues
  rw [taken_unmet unmet, incoming, List.nil_append] at isFront
  by_cases starting : before.startup.server.main = .starting
  · have nothing := sound.relay.taken_prefix
    rw [(stream_starting deployment starting).1, taken_unmet unmet, incoming]
      at nothing
    obtain ⟨_, impossible⟩ := nothing
    cases impossible
  · rw [greeting_begun starting] at isFront
    exact (List.cons_prefix_cons.mp isFront).1

/-- A later message is the next of those that are due. -/
theorem Sound.next_message (sound : before.Sound deployment captured)
    {state level : ClientState backend} {due : List (ClientStep backend)}
    (pursues : before.Pursues deployment captured state due level)
    {first msg : IncomingMessage} {msgs : List IncomingMessage}
    (running : before.startup.client.main = .running first)
    (incoming : before.startup.client.incoming = msg :: msgs) :
    ∃ step later, due = step :: later ∧ step.msg = msg := by
  have isFront := sound.taken_prefix pursues
  by_cases starting : before.startup.server.main = .starting
  · have nothing := sound.relay.taken_prefix
    rw [(stream_starting deployment starting).1, taken_running running] at nothing
    obtain ⟨_, impossible⟩ := nothing
    cases impossible
  · rw [taken_running running, greeting_begun starting, incoming,
      List.map_append, List.cons_append, List.singleton_append,
      List.cons_prefix_cons, List.prefix_append_right_inj] at isFront
    cases due with
    | nil =>
        obtain ⟨_, impossible⟩ := isFront.2
        cases impossible
    | cons step later =>
        exact ⟨step, later, rfl,
          ((List.cons_prefix_cons.mp isFront.2).1).symm⟩

/-- `recv_decompress_loop` handles the message as it was going to. -/
theorem Sound.handle {first msg : IncomingMessage}
    {msgs : List IncomingMessage} {startup : Startup}
    (sound : before.Sound deployment captured)
    (running : before.startup.client.main = .running first)
    (incoming : before.startup.client.incoming = msg :: msgs)
    (server : startup.server = before.startup.server)
    (loop : startup.loop = before.startup.loop)
    (main : startup.client.main = before.startup.client.main)
    (relay : Relay (before.stream deployment) startup.server startup.client
      (before.taken ++ [msg]))
    (handled : before.handle deployment startup msg = some after) :
    after.Sound deployment captured := by
  obtain ⟨state, due, level, pursues⟩ := sound.pursues
  obtain ⟨step, later, dueEq, msgEq⟩ :=
    sound.next_message pursues running incoming
  subst dueEq
  obtain ⟨next, stepped, catchesUp⟩ := run_cons_iff.mp pursues.catchesUp
  obtain ⟨done, nextEq⟩ := stepped
  subst msgEq
  have same : after = { before with
      startup := startup
      client := .ok step.after
      shown := before.shown ++ [step] } := by
    rw [Session.handle, pursues.running] at handled
    dsimp only at handled
    rw [done] at handled
    injection handled with handled
    exact handled.symm
  have joined : before.shown ++ [step] ++ later =
      before.shown ++ step :: later := by
    rw [List.append_assoc]
    rfl
  have still : startup.client.main = .running first := main.trans running
  subst same
  refine ⟨?_, ?_, ?_, ?_, step.after, later, level,
    ⟨rfl, ?_, ?_, ?_, ?_, ?_, ?_⟩⟩
  · rw [taken_running running, server] at relay
    rw [taken_running still, List.map_append, ← List.cons_append, stream,
      server]
    exact relay
  · rw [loop]
    exact sound.rounds
  · rw [server]
    exact sound.fresh
  · intro unmet
    exact absurd still (unmet first)
  · exact run_concat_iff.mpr ⟨state, pursues.shown, done, rfl⟩
  · rw [nextEq]
    exact catchesUp
  · rw [joined, stream, greeting, server]
    exact pursues.arrives
  · rw [joined]
    exact pursues.delivered
  · rw [loop]
    exact pursues.sized
  · rw [loop]
    exact pursues.synced

/-- Any step of the client. -/
theorem Sound.client {step : TaskStep} {client : Endpoint}
    {bytes : List UInt8} (sound : before.Sound deployment captured)
    (performed : before.startup.client.perform buildHandshake step =
      some (client, bytes))
    (advanced : before.advance deployment
      { before.startup with
        client := client
        server := before.startup.server.deliver bytes } (.client step) =
          some after) :
    after.Sound deployment captured := by
  have relay := sound.relay.receives performed
  by_cases receives : step = .recv
  · subst receives
    obtain ⟨next, received, nextEq⟩ := Option.map_eq_some_iff.mp performed
    injection nextEq with nextEq bytesEq
    subst nextEq bytesEq
    rw [deliver_nil] at relay advanced
    rcases recv_cases received with ⟨msg, msgs, waiting, incoming, same⟩ |
      ⟨waiting, incoming, same⟩ |
      ⟨first, msg, msgs, running, incoming, same⟩
    · have unmet : ∀ first,
          before.startup.client.main ≠ .running first := by
        intro first running
        rw [waiting] at running
        cases running
      have greeted := Endpoint.check_of_handshake
        { before.startup.client with incoming := msgs }
        (show msg.header.msgType = .ok .handshake by
          rw [sound.first_message unmet incoming]
          rfl)
      rw [greeted] at same
      rw [advance, waiting, incoming] at advanced
      injection advanced with afterEq
      rw [messagesOfStep, incoming, taken_unmet unmet] at relay
      rw [← afterEq]
      refine sound.keep Iff.rfl rfl rfl rfl rfl ?_ ?_
      · intro _
        exact sound.unmet unmet
      · rw [taken_running (show next.main = .running msg by rw [same]),
          sound.unmet unmet]
        exact relay
    · have unmet : ∀ first,
          before.startup.client.main ≠ .running first := by
        intro first running
        rw [waiting] at running
        cases running
      rw [advance, waiting, incoming] at advanced
      injection advanced with afterEq
      rw [messagesOfStep, incoming, taken_unmet unmet] at relay
      rw [← afterEq]
      refine sound.keep Iff.rfl rfl rfl rfl rfl ?_ ?_
      · intro _
        exact sound.unmet unmet
      · rw [taken_unmet]
        · exact relay
        · intro first running
          rw [same] at running
          cases running
    · rw [advance, running, incoming] at advanced
      rw [messagesOfStep, incoming] at relay
      refine sound.handle running incoming ?_ ?_ ?_ ?_ advanced
      · rfl
      · rfl
      · rw [same]
      · exact relay
  · have nothing : messagesOfStep before.startup.client step = [] := by
      cases step with
      | recv => exact absurd rfl receives
      | start | select | write _ | finish | read _ | forward => rfl
    have sameRunning : ∀ first, client.main = .running first ↔
        before.startup.client.main = .running first := by
      intro first
      by_cases starts : step = .start
      · subst starts
        obtain ⟨next, started, nextEq⟩ :=
          Option.map_eq_some_iff.mp performed
        injection nextEq with nextEq _
        rw [nextEq] at started
        obtain ⟨starting, waiting⟩ := main_of_start started
        rw [starting, waiting]
        constructor
        · intro impossible
          cases impossible
        · intro impossible
          cases impossible
      · rw [main_of_perform performed starts receives]
    have afterEq : after = { before with
        startup := { before.startup with
          client := client
          server := before.startup.server.deliver bytes } } := by
      cases step with
      | recv => exact absurd rfl receives
      | start | select | write _ | finish | read _ | forward =>
          injection advanced with same
          exact same.symm
    rw [nothing, List.append_nil] at relay
    subst afterEq
    refine sound.keep Iff.rfl rfl rfl rfl rfl ?_ ?_
    · intro unmet
      exact sound.unmet fun first running =>
        unmet first ((sameRunning first).mpr running)
    · have sameTaken : taken { before with
          startup := { before.startup with
            client := client
            server := before.startup.server.deliver bytes } } =
              before.taken := by
        by_cases met : ∃ first, client.main = .running first
        · obtain ⟨first, running⟩ := met
          rw [taken_running running,
            taken_running ((sameRunning first).mp running)]
        · rw [taken_unmet fun first running => met ⟨first, running⟩,
            taken_unmet fun first running =>
              met ⟨first, (sameRunning first).mpr running⟩]
      rw [sameTaken]
      exact relay

/-- The client captures an input. -/
theorem Sound.capture {input : Input} {startup : Startup}
    (sound : before.Sound deployment captured)
    (performed : before.startup.capture input = some startup)
    (same : after = { before with startup := startup }) :
    after.Sound deployment captured := by
  rw [Startup.capture] at performed
  split at performed
  · injection performed with startupEq
    subst same
    rw [← startupEq]
    exact sound.keep Iff.rfl rfl rfl rfl rfl sound.unmet
      (sound.relay.receiver_kept rfl rfl rfl rfl)
  · cases performed

/-! ## Any step -/

/-- The connection of the client ends. -/
theorem Sound.clientEnds (sound : before.Sound deployment captured)
    (performed : before.perform deployment .clientEnds = some after) :
    after.Sound deployment captured := by
  injection performed with same
  rw [← same]
  exact sound.keep Iff.rfl rfl rfl rfl rfl sound.unmet
    (sound.relay.receiver_kept rfl rfl rfl rfl)

/-- The connection of the server ends. -/
theorem Sound.serverEnds (sound : before.Sound deployment captured)
    (performed : before.perform deployment .serverEnds = some after) :
    after.Sound deployment captured := by
  injection performed with same
  rw [← same]
  refine sound.keep Iff.rfl rfl rfl rfl rfl sound.unmet
    (sound.relay.sender_kept ?_)
  intro still
  cases still

theorem Sound.perform {action : SessionAction}
    (sameKind : deployment.clientConfig.compressorKind =
      deployment.serverConfig.compressorKind)
    (lossless : deployment.serverConfig.compressorKind.Lossless)
    (sound : before.Sound deployment captured)
    (performed : before.perform deployment action = some after)
    (fair : Fair captured before after) :
    after.Sound deployment captured := by
  cases action with
  | clientEnds => exact sound.clientEnds performed
  | serverEnds => exact sound.serverEnds performed
  | program action =>
      rw [Session.perform] at performed
      cases stepped : before.startup.perform deployment.serverProfile
          deployment.serverConfig deployment.captureArg
          deployment.compressArg action with
      | none =>
          rw [stepped] at performed
          cases performed
      | some startup =>
          rw [stepped] at performed
          dsimp only at performed
          cases action with
          | client step =>
              obtain ⟨⟨client, bytes⟩, done, same⟩ :=
                Option.map_eq_some_iff.mp stepped
              rw [← same] at performed
              exact sound.client done performed
          | server step =>
              obtain ⟨⟨server, bytes⟩, done, same⟩ :=
                Option.map_eq_some_iff.mp stepped
              rw [← same] at performed
              injection performed with afterEq
              exact sound.server done afterEq.symm
          | capture input =>
              injection performed with afterEq
              exact sound.capture stepped afterEq.symm
          | round input =>
              exact sound.round sameKind lossless stepped performed fair

end Steps

/-! ## Whole runs -/

section Runs

variable {deployment : Deployment backend} {captured : Geometry}

/-- A run of handled messages is a run of the loop. -/
theorem recvDecompressLoop_of_run {state last : ClientState backend}
    {steps : List (ClientStep backend)}
    (run : Run (handleStep deployment) state steps last) :
    recvDecompressLoop deployment.clientProfile deployment.clientConfig
      state (steps.map ClientStep.msg) = .ok steps := by
  induction run with
  | nil here => rfl
  | @cons before after last step steps stepped rest inductionHypothesis =>
      obtain ⟨done, afterEq⟩ := stepped
      rw [List.map_cons, recvDecompressLoop, done]
      simp only [bind, Except.bind]
      rw [afterEq, inductionHypothesis, ← afterEq]
      rfl

/-- When nothing is on the way, the client has handled all messages. -/
theorem Sound.settled {session : Session backend}
    (sound : session.Sound deployment captured)
    (settled : Settled session.startup.server session.startup.client)
    {state level : ClientState backend} {due : List (ClientStep backend)}
    (pursues : session.Pursues deployment captured state due level) :
    due = [] := by
  have all := sound.relay.taken_of_settled settled
  rw [pursues.streamMessages] at all
  by_cases met : ∃ first, session.startup.client.main = .running first
  · obtain ⟨first, running⟩ := met
    rw [taken_running running] at all
    by_cases starting : session.startup.server.main = .starting
    · have nothing := sound.relay.taken_of_settled settled
      rw [(stream_starting deployment starting).1, taken_running running] at nothing
      cases nothing
    · rw [greeting_begun starting, List.map_append, List.singleton_append]
        at all
      injection all with _ all
      have none := List.append_cancel_left
        ((List.append_nil _).trans all)
      exact List.map_eq_nil_iff.mp none.symm
  · rw [taken_unmet fun first running => met ⟨first, running⟩] at all
    have none := (List.append_eq_nil_iff.mp all.symm).2
    rw [List.map_append, List.append_eq_nil_iff] at none
    exact List.map_eq_nil_iff.mp none.2

/-- In every interleaving of both programs, whatever pieces the bytes are
written and read in and whenever a connection ends, the client handles a
front part of the accepted messages, in lockstep with the server and without
a panic.  Once nothing is on the way it has handled all of them, and both
sides have the same delta base. -/
theorem shown_in_lockstep
    (sameKind : deployment.clientConfig.compressorKind =
      deployment.serverConfig.compressorKind)
    (lossless : deployment.serverConfig.compressorKind.Lossless)
    {actions : List SessionAction} {last : Session backend}
    (run : Run (fun before action after =>
        before.perform deployment action = some after ∧
          Fair captured before after) (initial deployment) actions last) :
    compressSendLoop deployment.serverProfile deployment.serverConfig
        LoopState.initial (last.rounds.map ServerStep.input) =
          .ok last.rounds ∧
      recvDecompressLoop deployment.clientProfile deployment.clientConfig
        (ClientState.initial deployment.interpolation)
          (last.shown.map ClientStep.msg) = .ok last.shown ∧
      List.Forall₂ InLockstep
        ((acceptedSteps last.rounds).take last.shown.length) last.shown ∧
      ∃ state, last.client = .ok state ∧
        (Settled last.startup.server last.startup.client →
          last.shown.length = (acceptedSteps last.rounds).length ∧
            Synced (deployment.serverConfig.sentGeometry captured)
              last.startup.loop state) := by
  have sound : last.Sound deployment captured := run.keeps
    (fun _ _ _ stepped kept =>
      Sound.perform sameKind lossless kept stepped.1 stepped.2)
    sound_initial
  obtain ⟨state, due, level, pursues⟩ := sound.pursues
  refine ⟨compressSendLoop_of_rounds sound.rounds,
    recvDecompressLoop_of_run pursues.shown, ?_, state, pursues.running, ?_⟩
  · have front := List.forall₂_take last.shown.length pursues.delivered
    rw [List.take_left] at front
    exact front.imp fun _ _ delivered => delivered.toInLockstep
  · intro settled
    have none := sound.settled settled pursues
    have lengths := pursues.delivered.length_eq
    have reached := pursues.catchesUp
    rw [none] at lengths reached
    cases reached
    rw [List.append_nil] at lengths
    exact ⟨lengths.symm, pursues.synced⟩

end Runs

/-- A deployment without compression and interpolation. -/
def plainDeployment : Deployment Unit where
  serverProfile := .dev
  clientProfile := .dev
  serverConfig := plainServer
  clientConfig := plainClient
  captureArg := .auto
  compressArg := .lz4
  interpolation := none

/-- Both handshakes arrive. -/
def greetings : List StartupAction :=
  Startup.serverGreets ++
    [.client .select, .client (.write 24), .client .finish,
      .server (.read 24), .server .forward, .server .recv]

def queuedExchange : List StartupAction :=
  greetings ++ [.round ⟨pixelFrame, [], false, true⟩]

/-- The client reads the frame in two pieces, and shows it. -/
def frameExchange : List StartupAction :=
  queuedExchange ++
    [.server .select, .server (.write 20), .client (.read 18),
      .server (.write 36), .server .finish, .client (.read 38),
      .client .forward, .client .recv]

instance (sender receiver : Endpoint) : Decidable (Settled sender receiver) :=
  decidable_of_iff
    (sender.transport.connected = true ∧ sender.outgoing = [] ∧
      receiver.inbound = [] ∧ receiver.forwarding = [] ∧
      receiver.incoming = [])
    ⟨fun ⟨connected, outgoing, inbound, forwarding, incoming⟩ =>
        ⟨connected, outgoing, inbound, forwarding, incoming⟩,
      fun settled => ⟨settled.connected, settled.outgoing, settled.inbound,
        settled.forwarding, settled.incoming⟩⟩

theorem shown_in_lockstep_exchange :
    ∃ last : Session Unit, last.shown.length = 1 ∧
      List.Forall₂ InLockstep
        ((acceptedSteps last.rounds).take last.shown.length) last.shown ∧
      ∃ state, last.client = .ok state ∧
        Synced ⟨1, 1, 4⟩ last.startup.loop state := by
  have evaluated :
      ((frameExchange.map SessionAction.program).foldlM
          (fun (before : Session Unit) action =>
            (before.perform plainDeployment action).filter
              (Fair ⟨1, 1, 4⟩ before ·)) (initial plainDeployment)).map
        (fun last => (last.shown.length, decide
          (Settled last.startup.server last.startup.client))) =
      some (1, true) := by
    decide +kernel
  obtain ⟨last, iterated, reached⟩ := Option.map_eq_some_iff.mp evaluated
  injection reached with one settled
  obtain ⟨_, _, lockstep, state, running, level⟩ :=
    shown_in_lockstep rfl Codec.plain_lossless
      (run_iff_foldlM_filtered.mpr iterated)
  exact ⟨last, one, lockstep, state, running,
    (level (of_decide_eq_true settled)).2⟩

end Session

end RemoteWay.System
