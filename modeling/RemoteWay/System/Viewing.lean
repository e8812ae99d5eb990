import RemoteWay.Display.FrameOrder
import RemoteWay.System.Colours
import RemoteWay.System.Streaming

/-!
# From the captured screen to the shown one

All threads of both programs, from the capture backend of the server to the
compositor of the client.  `recv_decompress_loop` passes the frames that it
decodes to the display thread before it takes the next message.

Without scaling, interpolation and overlay, and without padding, every buffer
that is committed shows the pixels of a captured frame, and the frames appear
in the order in which they were captured.
-/

namespace RemoteWay.System

open RemoteWay.Base RemoteWay.Compress RemoteWay.Capture RemoteWay.Server
open RemoteWay.Client RemoteWay.Transport RemoteWay.Display

/-! ## Messages that are taken -/

namespace Session

variable {backend : Type}

/-- The message that `recv_decompress_loop` takes in a step, and the state in
which it does. -/
def taking (session : Session backend) :
    SessionAction → Option (ClientState backend × IncomingMessage)
  | .program (.client .recv) =>
      match session.startup.client.main, session.startup.client.incoming,
          session.client with
      | .running _, msg :: _, .ok state => some (state, msg)
      | _, _, _ => none
  | _ => none

variable {deployment : Deployment backend} {before after : Session backend}

private theorem advance_of_other {startup : Startup} {action : StartupAction}
    (advanced : before.advance deployment startup action = some after)
    (other : action ≠ .client .recv) :
    after.client = before.client ∧ after.shown = before.shown := by
  rw [advance.eq_def] at advanced
  split at advanced
  · exact absurd rfl other
  · split at advanced
    · injection advanced with same
      rw [← same]
      exact ⟨rfl, rfl⟩
    · cases advanced
  · injection advanced with same
    rw [← same]
    exact ⟨rfl, rfl⟩

/-- What a step does to the client that takes the given message in it. -/
def Handles (deployment : Deployment backend)
    (before after : Session backend) :
    Option (ClientState backend × IncomingMessage) → Prop
  | none => after.client = before.client ∧ after.shown = before.shown
  | some (state, msg) =>
      before.client = .ok state ∧
        ((∃ next outcome,
            handleMessage deployment.clientProfile deployment.clientConfig
                state msg = .ok (next, outcome) ∧
              after.client = .ok next ∧
              after.shown = before.shown ++ [⟨msg, outcome, next⟩]) ∨
          ∃ panic, after.client = .error panic)

theorem handles_of_perform {action : SessionAction}
    (performed : before.perform deployment action = some after) :
    Handles deployment before after (before.taking action) := by
  cases action with
  | clientEnds | serverEnds =>
      injection performed with same
      rw [← same]
      exact ⟨rfl, rfl⟩
  | program action =>
      rw [perform] at performed
      split at performed
      · by_cases receives : action = .client .recv
        · subst receives
          rw [advance] at performed
          rw [taking]
          split at performed
          · rename_i first msg later main incoming
            rw [handle] at performed
            rw [main, incoming]
            cases client : before.client with
            | error panic =>
                rw [client] at performed
                cases performed
            | ok state =>
                rw [client] at performed
                refine ⟨client, ?_⟩
                dsimp only at performed
                split at performed
                · rename_i next outcome handled
                  injection performed with same
                  rw [← same]
                  exact Or.inl ⟨next, outcome, handled, rfl, rfl⟩
                · rename_i panic _
                  injection performed with same
                  rw [← same]
                  exact Or.inr ⟨panic, rfl⟩
          · rename_i waits
            injection performed with same
            rw [← same]
            split
            · rename_i first msg later state main incoming _
              exact absurd incoming (waits first msg later main)
            · exact ⟨rfl, rfl⟩
        · have nothing : before.taking (.program action) = none := by
            rw [taking.eq_def]
            split
            · rename_i same
              injection same with same
              exact absurd same receives
            · rfl
          rw [nothing]
          exact advance_of_other performed receives
      · cases performed

end Session

/-! ## The system -/

/-- All threads of both programs.  `inHand` are the display frames of the
last message that are not passed yet. -/
structure Viewing (backend : Type) where
  streaming : Streaming backend
  inHand : List DisplayFrame
  display : DisplayThread

/-- A step of the server, the transports or the client, at the frame rate
that the overlay shows; passing a frame to the display thread; or a step of
that thread. -/
inductive ViewingAction where
  | streaming (action : StreamingAction) (fps : Nat)
  | pass
  | display (action : DisplayAction)

namespace Viewing

variable {backend : Type}

def initial (deployment : Deployment backend) : Viewing backend where
  streaming := .initial deployment
  inHand := []
  display := .spawn

/-- The message that the client takes in a step, if any. -/
def taking (viewing : Viewing backend) :
    StreamingAction → Option (ClientState backend × IncomingMessage)
  | .session action => viewing.streaming.session.taking action
  | .server _ => none

/-- The display frames of a message. -/
def framesFor (deployment : Deployment backend) (rendering : Rendering)
    (fps : Nat) (state : ClientState backend) (msg : IncomingMessage) :
    List DisplayFrame :=
  match showMessage deployment.clientProfile deployment.clientConfig
      rendering fps state msg with
  | .ok (_, frames) => frames
  | .error _ => []

def perform (deployment : Deployment backend) (rendering : Rendering)
    (capacity room : Nat) (viewing : Viewing backend) :
    ViewingAction → Option (Viewing backend)
  | .streaming action fps =>
      match viewing.taking action, viewing.inHand with
      | none, _ =>
          (viewing.streaming.perform deployment capacity action).map
            fun streaming => { viewing with streaming := streaming }
      | some (state, msg), [] =>
          (viewing.streaming.perform deployment capacity action).map
            fun streaming =>
              { viewing with
                streaming := streaming
                inHand := framesFor deployment rendering fps state msg }
      | some _, _ :: _ => none
  | .pass =>
      match viewing.inHand with
      | [] => none
      | frame :: later =>
          some { viewing with
            inHand := later
            display := viewing.display.sendFrame room frame }
  | .display action =>
      match action with
      | .sendFrame _ => none
      | _ =>
          (viewing.display.perform deployment.clientProfile room action).map
            fun display => { viewing with display := display }

/-- The condition on a step of the server, the transports or the client. -/
def Noticed (captured : Geometry) (before after : Viewing backend) :
    ViewingAction → Prop
  | .streaming action _ =>
      before.streaming.Noticed captured action ∧
        Streaming.Prompt before.streaming.session after.streaming.session
  | .pass | .display _ => True

instance (captured : Geometry) (before after : Viewing backend) :
    ∀ action, Decidable (Noticed captured before after action)
  | .streaming _ _ => inferInstanceAs (Decidable (_ ∧ _))
  | .pass => isTrue trivial
  | .display _ => isTrue trivial

end Viewing

/-! ## Frames on the way to the screen -/

/-- A display frame holds the whole picture of a captured frame. -/
structure Depicts (shown : DisplayFrame) (frame : CapturedFrame) :
    Prop where
  width : shown.width = frame.width
  height : shown.height = frame.height
  stride : shown.stride = frame.stride
  whole : shown.data.length = (capturedGeometry frame).size
  same : (capturedGeometry frame).SamePicture shown.data frame.data

/-- The committed buffer shows the pixels of the captured frame. -/
def OnScreen (commit : Commit) (frame : CapturedFrame) : Prop :=
  commit.picture.width = frame.width ∧
    commit.picture.height = frame.height ∧
      ∀ x y, x < frame.width.toNat → y < frame.height.toNat →
        commit.picture.pixel x y = (capturedPicture frame).pixel x y

theorem Depicts.onScreen {shown : DisplayFrame} {frame : CapturedFrame}
    {commit : Commit} (depicts : Depicts shown frame)
    (shows : Display.Shows shown commit) (formed : frame.WellFormed)
    (unpadded : frame.stride.toNat = frame.width.toNat * 4) :
    OnScreen commit frame := by
  have whole : shown.stride.toNat * shown.height.toNat ≤
      shown.data.length := by
    rw [depicts.whole, depicts.stride, depicts.height]
    exact Nat.le_refl _
  have rows : shown.width.toNat * 4 ≤ shown.stride.toNat := by
    rw [depicts.width, depicts.stride]
    exact formed.rows
  have unshifted : shown.picture.Unshifted := by
    intro y _ column _
    change List.getD _ (y * (shown.width.toNat * 4) + column) 0 =
      List.getD _ (y * shown.stride.toNat + column) 0
    rw [depicts.stride, depicts.width, unpadded]
  have faithful := (shows.faithful_iff rows whole).mpr unshifted
  refine ⟨shows.width.trans depicts.width, shows.height.trans depicts.height,
    ?_⟩
  intro x y xBound yBound
  have xShown : x < shown.width.toNat := by
    rw [depicts.width]
    exact xBound
  have yShown : y < shown.height.toNat := by
    rw [depicts.height]
    exact yBound
  rw [faithful x y xShown yShown,
    @Picture.pixel_of_whole shown.picture rows whole _ _ xShown yShown,
    @Picture.pixel_of_whole (capturedPicture frame) formed.rows
      (Nat.le_of_eq formed.length_eq.symm) _ _ xBound yBound]
  congr 1
  apply List.map_congr_left
  intro index member
  have inside := List.mem_range.mp member
  have byte := depicts.same (y * frame.stride.toNat + (x * 4 + index))
    ⟨y, yBound, x * 4 + index, by
      change x * 4 + index < frame.width.toNat * 4
      omega, rfl⟩
  change List.getD _ (y * shown.stride.toNat + x * 4 + index) 0 =
    List.getD _ (y * frame.stride.toNat + x * 4 + index) 0
  rw [depicts.stride, Nat.add_assoc]
  exact byte

/-! ## The invariant -/

/-- A frame that the client has decoded, with the layout of the captured
one. -/
def Rebuilt (shown : ClientStep backend) (frame : CapturedFrame) : Prop :=
  ∃ decoded, shown.outcome = some (.decoded decoded) ∧
    decoded.width = frame.width ∧ decoded.height = frame.height ∧
    decoded.stride = frame.stride ∧
    decoded.output.length = (capturedGeometry frame).size ∧
    (capturedGeometry frame).SamePicture decoded.output frame.data

/-- The client rebuilds the frames of the accepted messages. -/
theorem Streaming.Coherent.rebuilt {deployment : Deployment backend}
    {captured : Geometry} {streaming : Streaming backend}
    (unscaled : deployment.serverConfig.downscale = none)
    (coherent : streaming.Coherent deployment captured) :
    List.Forall₂ Rebuilt streaming.session.shown
      ((acceptedFrames streaming.server.steps).take
        streaming.session.shown.length) := by
  obtain ⟨state, due, level, pursues⟩ := coherent.sound.pursues
  have delivered := pursues.delivered
  rw [coherent.rounds] at delivered
  have front := List.forall₂_take streaming.session.shown.length delivered
  rw [List.take_left] at front
  have messages := message_of_run unscaled coherent.sound.rounds
  rw [coherent.rounds] at messages
  rw [acceptedFrames, ← List.map_take, List.forall₂_map_right_iff]
  apply List.Forall₂.flip
  refine List.Forall₂.imp ?_ ((List.forall₂_and_left _ _).mpr
    ⟨fun step member => messages step
      (List.mem_of_mem_filter (List.mem_of_mem_take member)), front⟩)
  rintro step shown ⟨⟨data, geometry⟩, locked⟩
  obtain ⟨decoded, outcome, same⟩ := locked.decoded
  obtain ⟨base, width, whole⟩ := locked.whole
  rw [outcome] at whole
  injection whole with whole
  injection whole with whole
  rw [data, geometry] at same
  rw [geometry] at width
  refine ⟨decoded, outcome, ?_, ?_, ?_, ?_, same⟩
  · rw [whole]
    exact congrArg Geometry.width geometry
  · rw [whole]
    exact congrArg Geometry.height geometry
  · rw [whole]
    exact congrArg Geometry.stride geometry
  · rw [whole]
    exact length_decodedOutput.trans width

namespace Viewing

structure Watched (deployment : Deployment backend) (captured : Geometry)
    (rendering : Rendering) (viewing : Viewing backend) : Prop where
  coherent : viewing.streaming.Coherent deployment captured
  off : ∀ state, viewing.streaming.session.client = .ok state →
    state.interpolation = none
  passed : viewing.display.offered ++ viewing.inHand =
    viewing.streaming.session.shown.flatMap (ClientStep.shown rendering)
  sound : viewing.display.Sound
  inOrder : viewing.display.InOrder

variable {deployment : Deployment backend} {captured : Geometry}
variable {rendering : Rendering} {capacity room : Nat}
variable {before after : Viewing backend}

theorem watched_initial (off : deployment.interpolation = none) :
    (initial deployment).Watched deployment captured rendering where
  coherent := Streaming.coherent_initial
  off := by
    intro state same
    injection same with same
    rw [← same]
    exact off
  passed := rfl
  sound := DisplayThread.sound_spawn
  inOrder := DisplayThread.inOrder_spawn

/-- What the client does in a step of the server, the transports or
itself. -/
theorem handles_of_streaming {action : StreamingAction}
    {streaming : Streaming backend}
    (performed : before.streaming.perform deployment capacity action =
      some streaming) :
    Session.Handles deployment before.streaming.session streaming.session
      (before.taking action) := by
  cases action with
  | server action =>
      obtain ⟨server, _, ⟨same, _⟩ |
        ⟨sent, input, session, _, _, rounded, same⟩⟩ :=
          Streaming.performServer_eq_some performed
      · rw [same]
        exact ⟨rfl, rfl⟩
      · rw [same]
        exact Session.handles_of_perform rounded
  | session action =>
      obtain ⟨session, stepped, _, same⟩ :=
        Streaming.session_of_perform performed
      rw [same]
      exact Session.handles_of_perform stepped

theorem Watched.streaming {action : StreamingAction} {fps : Nat}
    (bare : rendering.drawFps = none)
    (watched : before.Watched deployment captured rendering)
    (performed : before.perform deployment rendering capacity room
      (.streaming action fps) = some after)
    (coherent : after.streaming.Coherent deployment captured) :
    after.Watched deployment captured rendering := by
  rw [perform] at performed
  split at performed
  · rename_i nothing
    obtain ⟨streaming, stepped, same⟩ :=
      Option.map_eq_some_iff.mp performed
    obtain ⟨client, shown⟩ := by
      have handles := handles_of_streaming stepped
      rw [nothing] at handles
      exact handles
    subst same
    refine ⟨coherent, ?_, ?_, watched.sound, watched.inOrder⟩
    · dsimp only
      rw [client]
      exact watched.off
    · dsimp only
      rw [shown]
      exact watched.passed
  · rename_i state msg taken empty
    obtain ⟨streaming, stepped, same⟩ :=
      Option.map_eq_some_iff.mp performed
    obtain ⟨client, handled⟩ := by
      have handles := handles_of_streaming stepped
      rw [taken] at handles
      exact handles
    subst same
    rcases handled with ⟨next, outcome, handled, running, shown⟩ |
      ⟨panic, failed⟩
    · obtain ⟨frames, kept⟩ := showMessage_of_handled bare
        (watched.off state client) handled fps
      have passed := watched.passed
      rw [empty, List.append_nil] at passed
      refine ⟨coherent, ?_, ?_, watched.sound, watched.inOrder⟩
      · intro other same
        rw [running] at same
        injection same with same
        rw [← same]
        exact kept
      · dsimp only
        rw [shown, List.flatMap_append, List.flatMap_singleton, ← passed,
          framesFor, frames]
    · obtain ⟨other, due, level, pursues⟩ := coherent.sound.pursues
      have running := pursues.running
      rw [failed] at running
      cases running
  · cases performed

/-- The client passes the first of the frames in its hand. -/
theorem Watched.pass (watched : before.Watched deployment captured rendering)
    (performed : before.perform deployment rendering capacity room .pass =
      some after) : after.Watched deployment captured rendering := by
  rw [perform] at performed
  cases inHand : before.inHand with
  | nil =>
      rw [inHand] at performed
      cases performed
  | cons frame later =>
      rw [inHand] at performed
      injection performed with same
      have sent : before.display.perform deployment.clientProfile room
          (.sendFrame frame) = some (before.display.sendFrame room frame) :=
        rfl
      have passed := watched.passed
      rw [inHand] at passed
      have offered : (before.display.sendFrame room frame).offered =
          before.display.offered ++ [frame] := by
        rcases DisplayThread.perform_sendFrame sent with ⟨_, took⟩ | ⟨_, full⟩
        · rw [took]
        · rw [full]
      rw [← same]
      refine ⟨watched.coherent, watched.off, ?_,
        watched.sound.perform sent, watched.inOrder.perform sent⟩
      dsimp only
      rw [offered, List.append_assoc]
      exact passed

/-- The display thread passes no frames to itself. -/
theorem offered_of_perform {profile : Profile} {thread next : DisplayThread}
    {action : DisplayAction}
    (performed : thread.perform profile room action = some next)
    (passes : ∀ frame, action ≠ .sendFrame frame) :
    next.offered = thread.offered := by
  cases action with
  | sendFrame frame => exact absurd rfl (passes frame)
  | dispatch event =>
      obtain ⟨_, rfl⟩ := DisplayThread.perform_dispatch performed
      rfl
  | pop =>
      obtain ⟨item, ring, _, rfl⟩ := DisplayThread.perform_pop performed
      rfl
  | drained =>
      obtain ⟨_, ⟨_, rfl⟩ | ⟨item, _, ⟨_, rfl⟩ | ⟨display, _, _, rfl⟩⟩⟩ :=
        DisplayThread.perform_drained performed
      · rfl
      · rfl
      · rfl
  | created memory =>
      obtain ⟨item, display, _, _, rfl⟩ :=
        DisplayThread.perform_created performed
      rfl
  | present clock memory =>
      obtain ⟨item, resized, display, outcome, _, _, _, result⟩ :=
        DisplayThread.perform_present performed
      rcases result with ⟨_, rfl⟩ | ⟨commit, _, rfl⟩
      · rfl
      · rfl

theorem Watched.perform {action : ViewingAction}
    (unscaled : deployment.serverConfig.downscale = none)
    (sameKind : deployment.clientConfig.compressorKind =
      deployment.serverConfig.compressorKind)
    (lossless : deployment.serverConfig.compressorKind.Lossless)
    (bare : rendering.drawFps = none)
    (watched : before.Watched deployment captured rendering)
    (performed : before.perform deployment rendering capacity room action =
      some after)
    (noticed : Noticed captured before after action) :
    after.Watched deployment captured rendering := by
  cases action with
  | streaming action fps =>
      have stepped : before.streaming.perform deployment capacity action =
          some after.streaming := by
        rw [Viewing.perform] at performed
        split at performed
        · obtain ⟨streaming, stepped, same⟩ :=
            Option.map_eq_some_iff.mp performed
          rw [← same]
          exact stepped
        · obtain ⟨streaming, stepped, same⟩ :=
            Option.map_eq_some_iff.mp performed
          rw [← same]
          exact stepped
        · cases performed
      exact watched.streaming bare performed
        (watched.coherent.perform unscaled sameKind lossless stepped
          noticed.1 noticed.2)
  | pass => exact watched.pass performed
  | display action =>
      obtain ⟨display, stepped, passes, same⟩ : ∃ display,
          before.display.perform deployment.clientProfile room action =
            some display ∧ (∀ frame, action ≠ .sendFrame frame) ∧
            { before with display := display } = after := by
        cases action with
        | sendFrame frame => cases performed
        | dispatch _ | pop | drained | created _ | present _ _ =>
            obtain ⟨display, stepped, same⟩ :=
              Option.map_eq_some_iff.mp performed
            refine ⟨display, stepped, ?_, same⟩
            intro _ impossible
            cases impossible
      rw [← same]
      refine ⟨watched.coherent, watched.off, ?_,
        watched.sound.perform stepped, watched.inOrder.perform stepped⟩
      dsimp only
      rw [offered_of_perform stepped passes]
      exact watched.passed

/-! ## Whole runs -/

/-- The display frames of rebuilt frames depict the captured ones. -/
theorem depicts_of_rebuilt (bare : rendering.drawFps = none)
    (unzoomed : rendering.upscale = none)
    {shown : List (ClientStep backend)} {frames : List CapturedFrame}
    (rebuilt : List.Forall₂ Rebuilt shown frames) :
    List.Forall₂ Depicts (shown.flatMap (ClientStep.shown rendering))
      frames := by
  induction rebuilt with
  | nil => exact .nil
  | @cons step frame shown frames first rest inductionHypothesis =>
      obtain ⟨decoded, outcome, width, height, stride, whole, same⟩ := first
      have one : step.shown rendering =
          [rendering.realFrame 0 step.msg.header decoded] := by
        rw [ClientStep.shown, outcome]
      rw [List.flatMap_cons, one]
      refine .cons ?_ inductionHypothesis
      have upscaled : ∀ frame, rendering.upscaled frame =
          ⟨frame.width, frame.height, frame.stride, frame.data⟩ := by
        intro frame
        rw [Rendering.upscaled, unzoomed]
      have painted : ∀ picture, rendering.painted 0 picture = picture := by
        intro picture
        rw [Rendering.painted, bare]
      refine ⟨?_, ?_, ?_, ?_, ?_⟩ <;>
        rw [Rendering.realFrame, upscaled, painted]
      · exact width
      · exact height
      · exact stride
      · exact whole
      · exact same

/-- A part of the related items is related to a part of the others. -/
theorem sublistForall₂_of_sublist {alpha beta : Type}
    {relation : alpha → beta → Prop} {picked items : List alpha}
    {others : List beta} (sub : List.Sublist picked items)
    (related : List.Forall₂ relation items others) :
    List.SublistForall₂ relation picked others := by
  induction sub generalizing others with
  | slnil => exact .nil
  | cons item _ inductionHypothesis =>
      cases related with
      | cons _ rest => exact .cons_right (inductionHypothesis rest)
  | cons_cons item _ inductionHypothesis =>
      cases related with
      | cons first rest => exact .cons first (inductionHypothesis rest)

/-- In every interleaving of all threads of both programs and of the events
of the client's compositor, under the conditions of the session and without
padding, scaling, interpolation and overlay: the committed buffers show
frames that the backend returned, pixel for pixel and in their order.  Once
nothing is on the way, the last of them shows the newest frame that the
server's transport accepted, unless the display's ring was full for it. -/
theorem screen_shows_captured_frames
    (unscaled : deployment.serverConfig.downscale = none)
    (sameKind : deployment.clientConfig.compressorKind =
      deployment.serverConfig.compressorKind)
    (lossless : deployment.serverConfig.compressorKind.Lossless)
    (off : deployment.interpolation = none)
    (bare : rendering.drawFps = none) (unzoomed : rendering.upscale = none)
    (unpadded : captured.stride.toNat = captured.width.toNat * 4)
    {actions : List ViewingAction} {last : Viewing backend}
    (run : Run (fun before action after =>
        before.perform deployment rendering capacity room action =
            some after ∧
          Noticed captured before after action)
      (initial deployment) actions last) :
    List.SublistForall₂ OnScreen (last.display.committed.map Prod.snd)
        last.streaming.returned ∧
      (Settled last.streaming.session.startup.server
          last.streaming.session.startup.client →
        last.inHand = [] → last.display.ring = [] →
        last.display.pendingFrame = none →
        ∀ item, item ∈ last.display.popped.getLast? →
          item.seq + 1 = last.display.offered.length →
            ∃ commit frame,
              (item, commit) ∈ last.display.committed.getLast? ∧
                frame ∈ (Streaming.acceptedFrames
                  last.streaming.server.steps).getLast? ∧
                OnScreen commit frame) := by
  have watched : last.Watched deployment captured rendering := run.keeps
    (fun _ _ _ stepped kept =>
      Watched.perform unscaled sameKind lossless bare kept stepped.1
        stepped.2)
    (watched_initial off)
  have depicts := depicts_of_rebuilt bare unzoomed
    (watched.coherent.rebuilt unscaled)
  rw [← watched.passed] at depicts
  have among : List.Sublist (Streaming.acceptedFrames last.streaming.server.steps)
      last.streaming.returned :=
    (List.sublist_append_left _ _).trans watched.coherent.inOrder
  have onScreen : ∀ item commit frame,
      (item, commit) ∈ last.display.committed →
        frame ∈ last.streaming.returned → Depicts item.frame frame →
          OnScreen commit frame := by
    intro item commit frame committed member depicts
    obtain ⟨formed, geometry⟩ :=
      watched.coherent.returned frame member
    refine depicts.onScreen (watched.sound.shown (item, commit) committed)
      formed ?_
    rw [← geometry] at unpadded
    exact unpadded
  constructor
  · have early : List.Sublist
        (last.display.committed.map fun entry => entry.1.frame)
        (last.display.offered ++ last.inHand) :=
      watched.inOrder.committed_sublist.trans (List.sublist_append_left _ _)
    obtain ⟨frames, related, part⟩ := List.sublistForall₂_iff.mp
      (sublistForall₂_of_sublist early depicts)
    apply List.sublistForall₂_iff.mpr
    have inside := part.trans ((List.take_sublist _ _).trans among)
    refine ⟨frames, ?_, inside⟩
    rw [List.forall₂_map_left_iff] at related ⊢
    have known := ((List.forall₂_and_left _ _).mpr
      ⟨fun frame (member : frame ∈ frames) => inside.subset member,
        related.flip⟩).flip
    refine List.Forall₂.imp ?_ ((List.forall₂_and_left _ _).mpr
      ⟨fun entry (member : entry ∈ last.display.committed) => member, known⟩)
    intro entry frame ⟨committed, member, depicts⟩
    exact onScreen entry.1 entry.2 frame committed member depicts
  · intro settled empty noRing nothing item newest number
    obtain ⟨numbered, commit, committed⟩ :=
      watched.inOrder.committed_newest noRing nothing newest
    obtain ⟨state, due, level, pursues⟩ := watched.coherent.sound.pursues
    have lengths := pursues.delivered.length_eq
    rw [watched.coherent.sound.settled settled pursues, List.append_nil,
      watched.coherent.rounds] at lengths
    have all : (Streaming.acceptedFrames last.streaming.server.steps).length =
        last.streaming.session.shown.length := by
      rw [Streaming.acceptedFrames, List.length_map]
      exact lengths
    rw [← all, List.take_length, empty, List.append_nil] at depicts
    have same := depicts.length_eq
    have inside : item.seq < last.display.offered.length := by omega
    have there : item.seq <
        (Streaming.acceptedFrames last.streaming.server.steps).length := by
      omega
    have shown := depicts.get inside there
    rw [List.getElem?_eq_getElem inside] at numbered
    injection numbered with numbered
    rw [List.get_eq_getElem, List.get_eq_getElem] at shown
    dsimp only at shown
    rw [numbered] at shown
    refine ⟨commit, _, committed, ?_, onScreen item commit _
      (List.mem_of_getLast? committed)
      (among.subset (List.getElem_mem there)) shown⟩
    rw [Option.mem_def, List.getLast?_eq_getElem?]
    have lastIndex : (Streaming.acceptedFrames
        last.streaming.server.steps).length - 1 = item.seq := by
      omega
    rw [lastIndex]
    exact List.getElem?_eq_getElem there

/-! ## Two frames -/

def plainRendering : Rendering where
  upscale := none
  scaleDamage := fun _ frame => frame.regions.map fun rect =>
    ⟨rect.x, rect.y, rect.width, rect.height⟩
  drawFps := none

/-- The compositor is idle, the newest frame is taken and presented. -/
def presentNewest (idle : List DisplayAction) : List ViewingAction :=
  .pass :: (idle ++ [DisplayAction.pop, DisplayAction.drained]).map .display

/-- After the handshakes two frames are captured, and each is sent, shown
and presented. -/
def presentedTwice : List ViewingAction :=
  (Session.greetings.map fun action =>
      .streaming (.session (.program action)) 60) ++
    (.capture (.push startFrame) :: roundActions 1 ++
      .capture (.push middleFrame) :: roundActions 1).map
        (fun action => .streaming (.server action) 60) ++
    (Streaming.delivery 59 1).map
      (fun action => .streaming (.session (.program action)) 60) ++
    presentNewest [] ++
    [.display (.dispatch (.configure 1)), .display (.created fun _ => .ok ()),
      .display (.present ⟨0, 0⟩ fun _ => .ok ())] ++
    (Streaming.delivery 15 41).map
      (fun action => .streaming (.session (.program action)) 60) ++
    presentNewest [.dispatch (.done 1)] ++
    [.display (.present ⟨1, 1⟩ fun _ => .ok ())]

theorem screen_shows_captured_frames_twice :
    ∃ last : Viewing Unit, last.display.committed.length = 2 ∧
      List.SublistForall₂ OnScreen (last.display.committed.map Prod.snd)
        [startFrame, middleFrame] ∧
      ∃ commit frame,
        commit ∈ (last.display.committed.map Prod.snd).getLast? ∧
          frame ∈ (Streaming.acceptedFrames
            last.streaming.server.steps).getLast? ∧
          OnScreen commit frame := by
  have evaluated :
      (presentedTwice.foldlM (fun (before : Viewing Unit) action =>
          (before.perform Session.plainDeployment plainRendering
            Capture.ringCapacity Display.ringCapacity action).filter
              (Noticed ⟨2, 1, 8⟩ before · action))
        (initial Session.plainDeployment)).map
        (fun last => (last.display.committed.length,
          last.streaming.returned,
          last.display.popped.getLast?.map Queued.seq,
          last.display.offered.length,
          decide (Settled last.streaming.session.startup.server
              last.streaming.session.startup.client ∧
            last.inHand = [] ∧ last.display.ring = [] ∧
              last.display.pendingFrame = none))) =
      some (2, [startFrame, middleFrame], some 1, 2, true) := by
    decide +kernel
  obtain ⟨last, iterated, reached⟩ := Option.map_eq_some_iff.mp evaluated
  injection reached with two reached
  injection reached with returned reached
  injection reached with number reached
  injection reached with passed rests
  obtain ⟨settled, empty, noRing, nothing⟩ := of_decide_eq_true rests
  obtain ⟨item, newest, second⟩ := Option.map_eq_some_iff.mp number
  obtain ⟨shows, latest⟩ := screen_shows_captured_frames rfl rfl
    Codec.plain_lossless rfl rfl rfl rfl
    (run_iff_foldlM_filtered.mpr iterated)
  obtain ⟨commit, frame, committed, accepted, onScreen⟩ :=
    latest settled empty noRing nothing item newest
      (by rw [second, passed])
  rw [returned] at shows
  refine ⟨last, two, shows, commit, frame, ?_, accepted, onScreen⟩
  rw [List.getLast?_map]
  exact Option.map_eq_some_iff.mpr ⟨_, committed, rfl⟩

end Viewing

end RemoteWay.System
