import Mathlib.Data.List.Forall2
import RemoteWay.System.DamageCoverage
import RemoteWay.System.Draining

/-!
# From the capture backend to the client

The capture thread, the ring, the compress loop, the transports and the
client, interleaved in any order.  A round of the loop sends the frame that
the ring was drained to, with damage that is relative to the frame before it
or full.

If the damage of the backend is exact and drops are noticed, then the client
shows the pixels of captured frames, in the order in which the backend
returned them.
-/

namespace RemoteWay.System

open RemoteWay.Base RemoteWay.Proto RemoteWay.Compress
open RemoteWay.Capture RemoteWay.Server RemoteWay.Client
open RemoteWay.Transport

/-! ## The system -/

/-- The threads of the server with the session.  `returned` is the history of
the frames that the backend returned. -/
structure Streaming (backend : Type) where
  server : ServerState
  session : Session backend
  returned : List CapturedFrame

/-- A step of a thread of the server, or of the rest of the session. -/
inductive StreamingAction where
  | server (action : ServerAction)
  | session (action : SessionAction)
  deriving DecidableEq, Repr

/-- What a round works on, once the flag is taken. -/
def Consumer.roundInput (sent : Bool) : Consumer → Option RoundInput
  | .flagTaken first newer dropped =>
      some ⟨first.frame, newer.map Returned.frame, dropped, sent⟩
  | _ => none

/-- The frame that the backend returns in a step, if any. -/
def framesOfAction : ServerAction → List CapturedFrame
  | .capture (.limit frame) | .capture (.push frame) => [frame]
  | .capture .storeDropped | .tryRecv | .takeDroppedFlag | .send _ => []

namespace Streaming

variable {backend : Type}

def initial (deployment : Deployment backend) : Streaming backend where
  server := .initial
  session := .initial deployment
  returned := []

/-- The threads are spawned after the handshake.  A round of the loop is a
step of both. -/
def performServer (deployment : Deployment backend) (capacity : Nat)
    (streaming : Streaming backend) (action : ServerAction) :
    Option (Streaming backend) :=
  match streaming.session.startup.server.main,
      streaming.server.perform deployment.serverProfile
        deployment.serverConfig capacity action with
  | .running _, some server =>
      let next :=
        { streaming with
          server := server
          returned := streaming.returned ++ framesOfAction action }
      match action with
      | .send sent =>
          match streaming.server.consumer.roundInput sent with
          | some input =>
              (streaming.session.perform deployment
                (.program (.round input))).map fun session =>
                  { next with session := session }
          | none => none
      | _ => some next
  | _, _ => none

def perform (deployment : Deployment backend) (capacity : Nat)
    (streaming : Streaming backend) :
    StreamingAction → Option (Streaming backend)
  | .server action => streaming.performServer deployment capacity action
  | .session action =>
      match action with
      | .program (.round _) => none
      | _ =>
          (streaming.session.perform deployment action).map fun session =>
            { streaming with session := session }

/-- The backend returns well-formed frames of constant dimensions with exact
damage, and drops are noticed. -/
def Noticed (captured : Geometry) (streaming : Streaming backend) :
    StreamingAction → Prop
  | .server action =>
      streaming.server.Noticed captured action ∧
        ∀ frame, frame ∈ framesOfAction action → frame.WellFormed
  | .session _ => True

/-- Accepted messages fit the wire, and no anchor overtakes an update. -/
def Prompt (before after : Session backend) : Prop :=
  ∀ step, step ∈ after.rounds.drop before.rounds.length →
    step.input.sent = true →
      FitsWire step.message ∧
        (step.message.msgType = .anchorFrame →
          before.startup.server.transport.frameRx = [])

instance (captured : Geometry) (streaming : Streaming backend) :
    ∀ action, Decidable (streaming.Noticed captured action)
  | .server _ => inferInstanceAs (Decidable (_ ∧ ∀ frame, frame ∈ _ → _))
  | .session _ => isTrue trivial

instance (before after : Session backend) : Decidable (Prompt before after) :=
  inferInstanceAs (Decidable (∀ step, step ∈ _ → _))

/-! ## The invariant -/

/-- The frames that are waiting for their round, or in it. -/
def waiting (state : ServerState) : List CapturedFrame :=
  (match state.consumer with
    | .flagTaken first newer _ => [newer.getLastD first]
    | consumer => consumer.held).map Returned.frame ++
      state.thread.ring.map Returned.frame

/-- The frames of the accepted messages. -/
def acceptedFrames (steps : List ServerStep) : List CapturedFrame :=
  (acceptedSteps steps).map fun step => step.input.latest

structure Coherent (deployment : Deployment backend) (captured : Geometry)
    (streaming : Streaming backend) : Prop where
  loop : streaming.session.startup.loop = streaming.server.loop
  rounds : streaming.session.rounds = streaming.server.steps
  returned : ∀ frame, frame ∈ streaming.returned →
    frame.WellFormed ∧ capturedGeometry frame = captured
  inOrder : List.Sublist
    (acceptedFrames streaming.server.steps ++ waiting streaming.server)
    streaming.returned
  covering : streaming.server.Covering captured
  sound : streaming.session.Sound deployment captured

variable {deployment : Deployment backend} {captured : Geometry}
variable {capacity : Nat} {before after : Streaming backend}

theorem coherent_initial :
    (initial deployment).Coherent deployment captured where
  loop := rfl
  rounds := rfl
  returned := by
    intro frame member
    cases member
  inOrder := List.Sublist.refl _
  covering := ServerState.covering_initial
  sound := Session.sound_initial

/-! ## Frames on their way to a round -/

/-- The capture thread adds the frame that the backend returns, or nothing. -/
theorem waiting_capture {state : ServerState} {action : CaptureAction}
    {thread : CaptureThread}
    (stepped : state.thread.captureStep capacity action = some thread) :
    List.Sublist (waiting { state with thread := thread })
      (waiting state ++ framesOfAction (.capture action)) := by
  cases action with
  | limit frame =>
      obtain ⟨_, rfl⟩ := CaptureThread.captureStep_limit stepped
      exact List.sublist_append_left _ _
  | push frame =>
      obtain ⟨_, ⟨_, rfl⟩ | ⟨_, rfl⟩⟩ :=
        CaptureThread.captureStep_push stepped
      · simp only [waiting, List.map_append, ← List.append_assoc]
        exact List.Sublist.refl _
      · exact List.sublist_append_left _ _
  | storeDropped =>
      obtain ⟨seq, _, rfl⟩ := CaptureThread.captureStep_storeDropped stepped
      exact List.sublist_append_left _ _

/-- Reading the ring keeps the frames in order. -/
theorem waiting_tryRecv {state next : ServerState}
    (performed : state.recvStep = some next) :
    waiting next = waiting state := by
  obtain ⟨ring, consumer, rfl, held, notYet, notNow⟩ :=
    ServerState.recvStep_eq_some performed
  have elsewhere : ∀ at_ : ServerState,
      (∀ first newer dropped,
        at_.consumer ≠ .flagTaken first newer dropped) →
        waiting at_ =
          (at_.consumer.held ++ at_.thread.ring).map Returned.frame := by
    intro at_ notTaken
    rw [waiting, List.map_append]
    cases consumer : at_.consumer with
    | flagTaken first newer dropped =>
        exact absurd consumer (notTaken first newer dropped)
    | waiting => rfl
    | draining first newer => rfl
    | drained first newer => rfl
  rw [elsewhere _ notNow, elsewhere _ notYet, ← held]

/-- A round keeps the newest of its frames. -/
theorem waiting_flag {state next : ServerState}
    (performed : state.flagStep = some next) :
    List.Sublist (waiting next) (waiting state) := by
  obtain ⟨first, newer, consumer, rfl⟩ :=
    ServerState.flagStep_eq_some performed
  rw [waiting, waiting, consumer]
  refine List.Sublist.append ?_ (List.Sublist.refl _)
  apply List.Sublist.map
  rw [List.singleton_sublist]
  exact List.getLastD_mem_cons

/-- A step that completes no round keeps the order. -/
theorem Coherent.move {server : ServerState} {frames : List CapturedFrame}
    (coherent : before.Coherent deployment captured)
    (loop : server.loop = before.server.loop)
    (steps : server.steps = before.server.steps)
    (formed : ∀ frame, frame ∈ frames →
      frame.WellFormed ∧ capturedGeometry frame = captured)
    (waits : List.Sublist (waiting server)
      (waiting before.server ++ frames))
    (covering : server.Covering captured) :
    { before with
      server := server
      returned := before.returned ++ frames }.Coherent deployment
        captured where
  loop := coherent.loop.trans loop.symm
  rounds := coherent.rounds.trans steps.symm
  returned := by
    intro frame member
    rcases List.mem_append.mp member with early | late
    · exact coherent.returned frame early
    · exact formed frame late
  inOrder := by
    change List.Sublist (acceptedFrames server.steps ++ waiting server) _
    rw [steps]
    refine (List.Sublist.append (List.Sublist.refl _) waits).trans ?_
    rw [← List.append_assoc]
    exact List.Sublist.append coherent.inOrder (List.Sublist.refl _)
  covering := covering
  sound := coherent.sound

/-! ## Rounds -/

/-- What a step of a thread of the server does. -/
theorem performServer_eq_some {action : ServerAction}
    (performed : before.performServer deployment capacity action =
      some after) :
    ∃ server, before.server.perform deployment.serverProfile
        deployment.serverConfig capacity action = some server ∧
      ((after = { before with
            server := server
            returned := before.returned ++ framesOfAction action } ∧
          ∀ sent, action ≠ .send sent) ∨
        ∃ sent input session, action = .send sent ∧
          before.server.consumer.roundInput sent = some input ∧
          before.session.perform deployment (.program (.round input)) =
            some session ∧
          after = { before with server := server, session := session }) := by
  rw [performServer] at performed
  split at performed
  · rename_i first server _ stepped
    refine ⟨server, stepped, ?_⟩
    cases action with
    | send sent =>
        dsimp only at performed
        split at performed
        · rename_i input taken
          obtain ⟨session, rounded, same⟩ :=
            Option.map_eq_some_iff.mp performed
          refine Or.inr ⟨sent, input, session, rfl, taken, rounded, ?_⟩
          rw [← same, framesOfAction, List.append_nil]
        · cases performed
    | capture action =>
        injection performed with same
        refine Or.inl ⟨same.symm, ?_⟩
        intro _ impossible
        cases impossible
    | tryRecv =>
        injection performed with same
        refine Or.inl ⟨same.symm, ?_⟩
        intro _ impossible
        cases impossible
    | takeDroppedFlag =>
        injection performed with same
        refine Or.inl ⟨same.symm, ?_⟩
        intro _ impossible
        cases impossible
  · cases performed

/-- A round of the session, from the state of the loop. -/
theorem round_of_perform {input : RoundInput} {session next : Session backend}
    (performed : session.perform deployment (.program (.round input)) =
      some next) :
    ∃ step, Server.round deployment.serverProfile deployment.serverConfig
        session.startup.loop input = .ok step ∧
      next.startup.loop = step.after ∧
      next.rounds = session.rounds ++ [step] := by
  rw [Session.perform, Startup.perform] at performed
  cases rounded : session.startup.round deployment.serverProfile
      deployment.serverConfig input with
  | none =>
      rw [rounded] at performed
      cases performed
  | some startup =>
      rw [rounded] at performed
      obtain ⟨step, transport, completed, _, _, _, same⟩ :=
        Session.round_cases rounded performed
      rw [same]
      exact ⟨step, completed, rfl, rfl⟩

/-- A round sends the frame that was waiting for it. -/
theorem Coherent.send {sent : Bool} {server : ServerState}
    {input : RoundInput} {session : Session backend}
    (unscaled : deployment.serverConfig.downscale = none)
    (sameKind : deployment.clientConfig.compressorKind =
      deployment.serverConfig.compressorKind)
    (lossless : deployment.serverConfig.compressorKind.Lossless)
    (coherent : before.Coherent deployment captured)
    (performed : before.server.sendStep deployment.serverProfile
      deployment.serverConfig sent = some server)
    (taken : before.server.consumer.roundInput sent = some input)
    (rounded : before.session.perform deployment (.program (.round input)) =
      some session)
    (prompt : Prompt before.session session) :
    { before with server := server, session := session }.Coherent
      deployment captured := by
  have covering := coherent.covering.send unscaled performed
  obtain ⟨first, newer, dropped, step, consumer, done, same⟩ :=
    ServerState.sendStep_eq_some performed
  obtain ⟨other, completed, loop, rounds⟩ := round_of_perform rounded
  rw [consumer] at taken
  injection taken with inputEq
  rw [coherent.loop, ← inputEq, done] at completed
  injection completed with stepEq
  rw [← stepEq] at loop rounds
  obtain ⟨stepInput, _, _, _⟩ := round_eq_ok done
  have latest : step.input.latest = (newer.getLastD first).frame := by
    rw [stepInput, RoundInput.latest]
    exact List.getLastD_map
  have waits : waiting before.server =
      step.input.latest :: before.server.thread.ring.map Returned.frame := by
    rw [waiting, consumer, latest]
    rfl
  have arrived : step.input.latest ∈ before.returned := by
    apply coherent.inOrder.subset
    rw [waits]
    exact List.mem_append.mpr (Or.inr List.mem_cons_self)
  obtain ⟨formed, geometry⟩ := coherent.returned _ arrived
  have fair : Session.Fair captured before.session session := by
    intro next member
    have fresh := prompt next member
    rw [rounds, List.drop_left, List.mem_singleton] at member
    rw [member] at fresh ⊢
    refine ⟨⟨⟨formed, geometry⟩, ?_, fun accepted => (fresh accepted).1⟩,
      fun accepted => (fresh accepted).2⟩
    apply covering.covers
    rw [same]
    exact List.mem_append.mpr (Or.inr (List.mem_singleton.mpr rfl))
  have inOrder : List.Sublist
      (acceptedFrames (before.server.steps ++ [step]) ++
        before.server.thread.ring.map Returned.frame) before.returned := by
    refine List.Sublist.trans ?_ coherent.inOrder
    rw [waits, acceptedFrames, acceptedFrames, acceptedSteps, acceptedSteps,
      List.filter_append, List.filter_singleton, List.map_append]
    cases step.input.sent with
    | true =>
        rw [List.append_assoc]
        exact List.Sublist.refl _
    | false =>
        rw [cond_false, List.map_nil, List.append_nil]
        exact List.Sublist.append (List.Sublist.refl _)
          (List.sublist_cons_self _ _)
  refine ⟨?_, ?_, coherent.returned, ?_, covering, ?_⟩
  · rw [loop, same]
  · rw [rounds, coherent.rounds, same]
  · rw [same]
    exact inOrder
  · exact coherent.sound.perform sameKind lossless rounded fair

/-! ## Any step -/

/-- A step of the rest of the session is one of the session, but no round. -/
theorem session_of_perform {action : SessionAction}
    (performed : before.perform deployment capacity (.session action) =
      some after) :
    ∃ session, before.session.perform deployment action = some session ∧
      (∀ input, action ≠ .program (.round input)) ∧
      after = { before with session := session } := by
  cases action with
  | clientEnds | serverEnds =>
      injection performed with same
      refine ⟨_, rfl, ?_, same.symm⟩
      intro _ impossible
      cases impossible
  | program action =>
      cases action with
      | round input => cases performed
      | client _ | server _ | capture _ =>
          obtain ⟨session, stepped, same⟩ :=
            Option.map_eq_some_iff.mp performed
          refine ⟨session, stepped, ?_, same.symm⟩
          intro _ impossible
          cases impossible

/-- Other steps of the session complete no round. -/
theorem rounds_of_perform {action : SessionAction}
    {session next : Session backend}
    (performed : session.perform deployment action = some next)
    (noRound : ∀ input, action ≠ .program (.round input)) :
    next.rounds = session.rounds ∧
      next.startup.loop = session.startup.loop := by
  cases action with
  | clientEnds =>
      injection performed with same
      rw [← same]
      exact ⟨rfl, rfl⟩
  | serverEnds =>
      injection performed with same
      rw [← same]
      exact ⟨rfl, rfl⟩
  | program action =>
      cases action with
      | client step =>
          obtain ⟨_, _, _, startup, rounds⟩ :=
            Session.client_of_perform performed
          rw [startup]
          exact ⟨rounds, rfl⟩
      | server step =>
          obtain ⟨_, _, _, startup, rounds⟩ :=
            Session.server_of_perform performed
          rw [startup]
          exact ⟨rounds, rfl⟩
      | capture input =>
          rw [Session.perform, Startup.perform] at performed
          cases captured : session.startup.capture input with
          | none =>
              rw [captured] at performed
              cases performed
          | some startup =>
              rw [captured] at performed
              injection performed with same
              rw [Startup.capture] at captured
              split at captured
              · injection captured with startupEq
                rw [← same, ← startupEq]
                exact ⟨rfl, rfl⟩
              · cases captured
      | round input => exact absurd rfl (noRound input)

theorem Coherent.perform {action : StreamingAction}
    (unscaled : deployment.serverConfig.downscale = none)
    (sameKind : deployment.clientConfig.compressorKind =
      deployment.serverConfig.compressorKind)
    (lossless : deployment.serverConfig.compressorKind.Lossless)
    (coherent : before.Coherent deployment captured)
    (performed : before.perform deployment capacity action = some after)
    (noticed : before.Noticed captured action)
    (prompt : Prompt before.session after.session) :
    after.Coherent deployment captured := by
  cases action with
  | server action =>
      obtain ⟨⟨fromBackend, inTime⟩, formed⟩ := noticed
      obtain ⟨server, stepped, ⟨same, notSent⟩ |
        ⟨sent, input, session, sends, taken, rounded, same⟩⟩ :=
          performServer_eq_some performed
      · rw [same]
        have covering := coherent.covering.perform unscaled stepped
          fromBackend inTime
        cases action with
        | send sent => exact absurd rfl (notSent sent)
        | capture action =>
            obtain ⟨thread, moved, rfl⟩ :=
              ServerState.perform_capture stepped
            refine coherent.move rfl rfl ?_ (waiting_capture moved) covering
            intro frame member
            refine ⟨formed frame member, ?_⟩
            cases action with
            | limit other | push other =>
                rw [framesOfAction, List.mem_singleton] at member
                rw [member]
                exact fromBackend.1
            | storeDropped => cases member
        | tryRecv =>
            obtain ⟨ring, consumer, sameServer, _⟩ :=
              ServerState.recvStep_eq_some stepped
            refine coherent.move (by rw [sameServer]) (by rw [sameServer])
              ?_ ?_ covering
            · intro frame member
              cases member
            · rw [waiting_tryRecv stepped]
              exact List.sublist_append_left _ _
        | takeDroppedFlag =>
            obtain ⟨first, newer, _, sameServer⟩ :=
              ServerState.flagStep_eq_some stepped
            refine coherent.move (by rw [sameServer]) (by rw [sameServer])
              ?_ ?_ covering
            · intro frame member
              cases member
            · exact (waiting_flag stepped).trans
                (List.sublist_append_left _ _)
      · rw [same]
        subst sends
        rw [same] at prompt
        exact coherent.send unscaled sameKind lossless stepped taken rounded
          prompt
  | session action =>
      obtain ⟨session, stepped, noRound, same⟩ :=
        session_of_perform performed
      obtain ⟨rounds, loop⟩ := rounds_of_perform stepped noRound
      have fair : Session.Fair captured before.session session := by
        intro step member
        rw [rounds, List.drop_length] at member
        cases member
      rw [same]
      exact ⟨loop.trans coherent.loop, rounds.trans coherent.rounds,
        coherent.returned, coherent.inOrder, coherent.covering,
        coherent.sound.perform sameKind lossless stepped fair⟩

/-! ## Whole runs -/

/-- Without downscaling, a message shows the frame of its round. -/
theorem message_of_run {profile : Profile} {config : ServerConfig}
    (unscaled : config.downscale = none) {start last : LoopState}
    {steps : List ServerStep}
    (run : Run (roundStep profile config) start steps last) :
    ∀ step, step ∈ steps →
      step.message.view.data = step.input.latest.data ∧
        step.message.geometry = capturedGeometry step.input.latest := by
  obtain ⟨_, around⟩ := run.around (fun _ _ _ _ _ _ => trivial)
    (show (fun _ => True) start from trivial)
  intro step member
  obtain ⟨_, _, stepped, _⟩ := around step member
  obtain ⟨_, _, prepared, _⟩ := round_eq_ok stepped.1
  have viewEq := viewOf_unscaled unscaled prepared.view
  rw [FrameMessage.geometry, viewEq]
  exact ⟨rfl, rfl⟩

/-- The client has decoded a message to the pixels of the frame. -/
def Shows (frame : CapturedFrame) (shown : ClientStep backend) : Prop :=
  ∃ decoded, shown.outcome = some (.decoded decoded) ∧
    (capturedGeometry frame).SamePicture decoded.output frame.data

/-- In every interleaving of all threads of both programs: if the backend
returns frames of constant dimensions with exact damage, drops are noticed,
accepted messages fit the wire, and no anchor overtakes an update, then the
frames of the accepted messages are among those that the backend returned, in
their order; the client shows the pixels of a front part of them, without a
panic, and of all of them once nothing is on the way. -/
theorem shows_captured_frames
    (unscaled : deployment.serverConfig.downscale = none)
    (sameKind : deployment.clientConfig.compressorKind =
      deployment.serverConfig.compressorKind)
    (lossless : deployment.serverConfig.compressorKind.Lossless)
    {actions : List StreamingAction} {last : Streaming backend}
    (run : Run (fun before action after =>
        before.perform deployment capacity action = some after ∧
          before.Noticed captured action ∧
          Prompt before.session after.session)
      (initial deployment) actions last) :
    let frames := acceptedFrames last.server.steps
    List.Sublist frames last.returned ∧
      List.Forall₂ Shows (frames.take last.session.shown.length)
        last.session.shown ∧
      (∃ state, last.session.client = .ok state) ∧
      (Settled last.session.startup.server last.session.startup.client →
        last.session.shown.length = frames.length) := by
  have coherent : last.Coherent deployment captured := run.keeps
    (fun _ _ _ stepped kept =>
      Coherent.perform unscaled sameKind lossless kept stepped.1 stepped.2.1
        stepped.2.2)
    coherent_initial
  obtain ⟨state, due, level, pursues⟩ := coherent.sound.pursues
  have lockstep := pursues.delivered
  rw [coherent.rounds] at lockstep
  refine ⟨(List.sublist_append_left _ _).trans coherent.inOrder, ?_,
    ⟨state, pursues.running⟩, ?_⟩
  · have front := List.forall₂_take last.session.shown.length lockstep
    rw [List.take_left] at front
    have messages := message_of_run unscaled coherent.sound.rounds
    rw [coherent.rounds] at messages
    rw [acceptedFrames, ← List.map_take, List.forall₂_map_left_iff]
    refine List.Forall₂.imp ?_ ((List.forall₂_and_left _ _).mpr
      ⟨fun step member => messages step
        (List.mem_of_mem_filter (List.mem_of_mem_take member)), front⟩)
    intro step shown ⟨⟨data, geometry⟩, locked⟩
    obtain ⟨decoded, outcome, same⟩ := locked.toInLockstep.decoded
    rw [data, geometry] at same
    exact ⟨decoded, outcome, same⟩
  · intro settled
    have none := coherent.sound.settled settled pursues
    rw [none, List.append_nil] at lockstep
    rw [acceptedFrames, List.length_map]
    exact lockstep.length_eq.symm

/-- A message is written, read in two pieces and shown. -/
def delivery (first second : Nat) : List StartupAction :=
  [.server .select, .server (.write (first + second)), .server .finish,
    .client (.read first), .client (.read second), .client .forward,
    .client .recv]

/-- After the handshakes, an anchor and an update are captured, sent and
shown. -/
def capturedTwice : List StreamingAction :=
  (Session.greetings.map fun action =>
      StreamingAction.session (.program action)) ++
    (.capture (.push startFrame) :: roundActions 1 ++
      .capture (.push middleFrame) :: roundActions 1).map .server ++
    (delivery 59 1 ++ delivery 15 41).map fun action =>
      StreamingAction.session (.program action)

theorem shows_captured_frames_twice :
    ∃ last : Streaming Unit, last.session.shown.length = 2 ∧
      last.returned = [startFrame, middleFrame] ∧
      List.Forall₂ Shows (acceptedFrames last.server.steps)
        last.session.shown := by
  have evaluated :
      (capturedTwice.foldlM (fun (before : Streaming Unit) action =>
          (before.perform Session.plainDeployment ringCapacity action).filter
            fun after => before.Noticed ⟨2, 1, 8⟩ action ∧
              Prompt before.session after.session)
        (initial Session.plainDeployment)).map
        (fun last => (last.session.shown.length, last.returned,
          (acceptedFrames last.server.steps).length)) =
      some (2, [startFrame, middleFrame], 2) := by
    decide +kernel
  obtain ⟨last, iterated, reached⟩ := Option.map_eq_some_iff.mp evaluated
  injection reached with two reached
  injection reached with returned frames
  obtain ⟨_, shows, _⟩ := shows_captured_frames rfl rfl
    Codec.plain_lossless (run_iff_foldlM_filtered.mpr iterated)
  rw [two, ← frames, List.take_length] at shows
  exact ⟨last, two, returned, shows⟩

end Streaming

end RemoteWay.System
