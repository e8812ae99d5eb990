import RemoteWay.Client.FrameErrors
import RemoteWay.Client.NewestFrame

/-!
# Which frames are interpolated

The interpolation manager hands its backend pairs of frames.  Whatever the
order of frames, failed frames and resize notifications, the two frames of
a pair were decoded one after the other, with nothing in between that breaks
the continuity: the pending reset and the target tell so.
-/

namespace RemoteWay.Client

open RemoteWay.Base RemoteWay.Proto RemoteWay.Compress
open RemoteWay.Interpolate RemoteWay.Transport

variable {backend : Type}

/-! ## Pairs -/

/-- A backend that also records the pairs it is handed, the newest last. -/
def recording (interpolator : FrameInterpolator backend) :
    FrameInterpolator (List (GpuFrame × GpuFrame) × backend) where
  interpolate state anchor target t :=
    let answer := interpolator.interpolate state.2 anchor target t
    ((state.1 ++ [(anchor, target)], answer.1), answer.2)

abbrev RecordingManager (backend : Type) :=
  InterpolationManager (List (GpuFrame × GpuFrame) × backend)

abbrev RecordingStep (backend : Type) :=
  ClientStep (List (GpuFrame × GpuFrame) × backend)

/-- The pairs that were handed to the backend so far. -/
def handedPairs
    (state : ClientState (List (GpuFrame × GpuFrame) × backend)) :
    List (GpuFrame × GpuFrame) :=
  match state.interpolation with
  | none => []
  | some manager => manager.backend.1

/-- The pairs handed after a number of rounds, given those before them. -/
def pairsAfter (start : List (GpuFrame × GpuFrame)) :
    List (RecordingStep backend) → List (GpuFrame × GpuFrame)
  | [] => start
  | step :: steps => pairsAfter (handedPairs step.after) steps

/-- Interpolation changes neither frame, nor a pending reset. -/
theorem interpolate_keeps (interpolator : FrameInterpolator backend)
    (manager : InterpolationManager backend) (t : Rat) :
    (manager.interpolate interpolator t).1.anchor = manager.anchor ∧
      (manager.interpolate interpolator t).1.target = manager.target ∧
      (manager.interpolate interpolator t).1.forceReset =
        manager.forceReset := by
  obtain ⟨state, anchor, target, frameCount, interpolatedCount, reset⟩ :=
    manager
  cases anchor with
  | none => exact ⟨rfl, rfl, rfl⟩
  | some anchor =>
      cases target with
      | none => exact ⟨rfl, rfl, rfl⟩
      | some target =>
          rw [InterpolationManager.interpolate]
          dsimp only
          cases interpolator.interpolate state anchor target t with
          | mk next result =>
              cases result with
              | error reason => exact ⟨rfl, rfl, rfl⟩
              | ok frame => exact ⟨rfl, rfl, rfl⟩

/-- What a recording backend is handed after a frame was pushed. -/
theorem recorded_pushFrame (interpolator : FrameInterpolator backend)
    (manager : RecordingManager backend) (frame : GpuFrame) (t : Rat) :
    ((manager.pushFrame frame).interpolate (recording interpolator)
        t).1.backend.1 =
      if manager.forceReset then
        manager.backend.1
      else
        match manager.target with
        | none => manager.backend.1
        | some target => manager.backend.1 ++ [(target, frame)] := by
  rw [InterpolationManager.pushFrame]
  cases manager.forceReset with
  | true => rfl
  | false =>
      cases manager.target with
      | none => rfl
      | some target =>
          simp only [InterpolationManager.interpolate, recording,
            if_neg Bool.false_ne_true]
          cases (interpolator.interpolate manager.backend.2 target frame
            t).2 with
          | error reason => rfl
          | ok blend => rfl

/-! ## Continuity -/

/-- The frame that a round decoded, as the manager is fed with it. -/
def ClientStep.decodedGpu (step : ClientStep backend) : Option GpuFrame :=
  match step.outcome with
  | some (.decoded frame) =>
      some (frame.gpuFrame step.msg.header.timestampNs)
  | _ => none

/-- The message is an anchor frame whose payload can be parsed, or a resize
notification that is long enough. -/
def Breaks (profile : Profile) (msg : IncomingMessage) : Prop :=
  (msg.header.msgType = .ok .anchorFrame ∧
      ∃ parsed, deserializeFramePayload profile msg.payload =
        .ok (.ok parsed)) ∨
    (msg.header.msgType = .ok .resize ∧
      resizePayloadSize ≤ msg.payload.length)

/-- The last frame that was decoded, with the rounds after it. -/
structure LastDecoded (done early : List (ClientStep backend))
    (step : ClientStep backend) (later : List (ClientStep backend))
    (frame : GpuFrame) : Prop where
  split : done = early ++ step :: later
  decoded : step.decodedGpu = some frame
  latest : ∀ other, other ∈ later → other.decodedGpu = none

/-- The last two frames that were decoded, the second one by the last round,
and from the first one on nothing breaks the continuity. -/
def Consecutive (profile : Profile) (done : List (ClientStep backend))
    (older newer : GpuFrame) : Prop :=
  ∃ early first between last,
    LastDecoded (early ++ first :: between) early first between older ∧
      done = early ++ first :: (between ++ [last]) ∧
      last.decodedGpu = some newer ∧
      ∀ step, step ∈ between ++ [last] → ¬ Breaks profile step.msg

/-- The target of the manager was decoded last.  If the continuity was broken
since then, a reset is pending. -/
def Continuous (profile : Profile) (done : List (ClientStep backend))
    {state : Type} (manager : InterpolationManager state) : Prop :=
  ∀ frame, manager.target = some frame →
    ∃ early step later, LastDecoded done early step later frame ∧
      (manager.forceReset = false →
        ∀ other, other ∈ later → ¬ Breaks profile other.msg)

section Keeping

variable {profile : Profile} {done : List (ClientStep backend)}
variable {state : Type} {before after : InterpolationManager state}
variable {step : ClientStep backend}

/-- A round that decodes nothing and keeps the target. -/
theorem Continuous.quiet (continuous : Continuous profile done before)
    (undecoded : step.decodedGpu = none)
    (target : after.target = before.target)
    (reset : after.forceReset = false →
      before.forceReset = false ∧ ¬ Breaks profile step.msg) :
    Continuous profile (done ++ [step]) after := by
  intro frame held
  rw [target] at held
  obtain ⟨early, first, later, last, unbroken⟩ := continuous frame held
  refine ⟨early, first, later ++ [step], ⟨?_, last.decoded, ?_⟩, ?_⟩
  · rw [last.split, List.append_assoc, List.cons_append]
  · intro other member
    rcases List.mem_append.mp member with member | member
    · exact last.latest other member
    · rw [List.mem_singleton.mp member]
      exact undecoded
  · intro open_ other member
    obtain ⟨formerly, unbrokenHere⟩ := reset open_
    rcases List.mem_append.mp member with member | member
    · exact unbroken formerly other member
    · rw [List.mem_singleton.mp member]
      exact unbrokenHere

/-- A round that decodes the target. -/
theorem continuous_decoded {frame : GpuFrame}
    (decoded : step.decodedGpu = some frame)
    (target : after.target = some frame) :
    Continuous profile (done ++ [step]) after := by
  intro held same
  rw [target] at same
  injection same with same
  subst same
  refine ⟨done, step, [], ⟨rfl, decoded, ?_⟩, ?_⟩
  · intro other member
    cases member
  · intro _ other member
    cases member

theorem continuous_cleared (target : after.target = none) :
    Continuous profile done after := by
  intro frame held
  rw [target] at held
  cases held

end Keeping

/-! ## Rounds -/

section Rounds

variable {profile : Profile} {kind : Codec}
variable {interpolator : FrameInterpolator backend}
variable {done : List (RecordingStep backend)}
variable {before after :
  ClientState (List (GpuFrame × GpuFrame) × backend)}
variable {manager : RecordingManager backend}
variable {msg : IncomingMessage}

/-- Preparing the delta base resets at an anchor, and leaves the target. -/
theorem prepareBase_manager (present : before.interpolation = some manager)
    (isAnchor : Bool) (frameSize : Nat) :
    ∃ prepared, (before.prepareBase isAnchor frameSize).interpolation =
        some prepared ∧
      prepared.target = manager.target ∧
      prepared.backend = manager.backend ∧
      (prepared.forceReset = false →
        manager.forceReset = false ∧ isAnchor = false) := by
  rw [ClientState.prepareBase]
  by_cases reset : (isAnchor || !before.hasPrevious) = true
  · rw [if_pos reset, present]
    refine ⟨_, rfl, rfl, rfl, ?_⟩
    intro impossible
    cases impossible
  · rw [if_neg reset, present]
    refine ⟨_, rfl, rfl, rfl, ?_⟩
    intro formerly
    refine ⟨formerly, ?_⟩
    cases isAnchor with
    | true => exact absurd rfl reset
    | false => rfl

/-- Of the frame messages only an anchor breaks the continuity. -/
theorem not_breaks_of_frame {isAnchor : Bool}
    (typed : msg.header.msgType = .ok (frameMsgType isAnchor))
    (harmless : isAnchor = false ∨ ∃ reason,
      deserializeFramePayload profile msg.payload = .ok (.error reason)) :
    ¬ Breaks profile msg := by
  rintro (⟨anchor, parsed, parsing⟩ | ⟨resized, _⟩)
  · rcases harmless with update | ⟨reason, unparsed⟩
    · rw [typed, update] at anchor
      cases anchor
    · rw [unparsed] at parsing
      cases parsing
  · rw [typed] at resized
    cases isAnchor with
    | true => cases resized
    | false => cases resized

/-- The manager after a round, with what the round handed to the backend. -/
def Kept (profile : Profile) (done : List (RecordingStep backend))
    (manager : RecordingManager backend) (step : RecordingStep backend) :
    Prop :=
  ∃ next, step.after.interpolation = some next ∧
    Continuous profile (done ++ [step]) next ∧
    (next.backend.1 = manager.backend.1 ∨
      ∃ older newer,
        next.backend.1 = manager.backend.1 ++ [(older, newer)] ∧
          Consecutive profile (done ++ [step]) older newer)

/-- A decoded frame is paired with the target, unless a reset is pending. -/
theorem kept_of_decoded {isAnchor : Bool} {frame : DecodedFrame}
    {prepared : RecordingManager backend}
    {state : ClientState (List (GpuFrame × GpuFrame) × backend)}
    (typed : msg.header.msgType = .ok (frameMsgType isAnchor))
    (continuous : Continuous profile done manager)
    (present : state.interpolation = some prepared)
    (target : prepared.target = manager.target)
    (same : prepared.backend = manager.backend)
    (reset : prepared.forceReset = false →
      manager.forceReset = false ∧ isAnchor = false) :
    Kept profile done manager
      ⟨msg, some (.decoded frame),
        acceptFrame (recording interpolator) state frame
          msg.header.timestampNs⟩ := by
  have recorded := recorded_pushFrame interpolator prepared
    (frame.gpuFrame msg.header.timestampNs) (1 / 2)
  have keeps := (interpolate_keeps (recording interpolator)
    (prepared.pushFrame (frame.gpuFrame msg.header.timestampNs)) (1 / 2)).2.1
  refine ⟨((prepared.pushFrame (frame.gpuFrame
    msg.header.timestampNs)).interpolate (recording interpolator)
      (1 / 2)).1, ?_, continuous_decoded rfl keeps, ?_⟩
  · rw [acceptFrame, present]
    rfl
  · rw [recorded, target, same]
    cases pending : prepared.forceReset with
    | true => exact Or.inl rfl
    | false =>
        obtain ⟨formerly, update⟩ := reset pending
        rw [if_neg Bool.false_ne_true]
        cases held : manager.target with
        | none => exact Or.inl rfl
        | some older =>
            obtain ⟨early, first, between, last, unbroken⟩ :=
              continuous older held
            refine Or.inr ⟨older, _, rfl, early, first, between,
              ⟨msg, some (.decoded frame), acceptFrame
                (recording interpolator) state frame
                msg.header.timestampNs⟩,
              ⟨rfl, last.decoded, last.latest⟩, ?_, rfl, ?_⟩
            · rw [last.split, List.append_assoc, List.cons_append]
            · intro other member
              rcases List.mem_append.mp member with member | member
              · exact unbroken formerly other member
              · rw [List.mem_singleton.mp member]
                exact not_breaks_of_frame typed (.inl update)

theorem kept_of_frame {isAnchor : Bool} {outcome : FrameOutcome}
    (typed : msg.header.msgType = .ok (frameMsgType isAnchor))
    (present : before.interpolation = some manager)
    (continuous : Continuous profile done manager)
    (handled : handleFrame profile ⟨kind, recording interpolator⟩ before
      isAnchor msg = .ok (after, outcome)) :
    Kept profile done manager ⟨msg, some outcome, after⟩ := by
  rw [handleFrame, bind_eq_ok_iff] at handled
  obtain ⟨⟨state, result⟩, decoding, handled⟩ := handled
  rcases decodeFrame_cases decoding with
    ⟨reason, unparsed, same, failed⟩ | ⟨parsed, frameSize, _, same, passed⟩
  · subst same failed
    injection handled with same
    injection same with state outcome
    subst state outcome
    exact ⟨manager, present, continuous.quiet rfl rfl fun formerly =>
      ⟨formerly, not_breaks_of_frame typed (.inr ⟨reason, unparsed⟩)⟩,
      Or.inl rfl⟩
  · obtain ⟨prepared, found, target, backend, reset⟩ :=
      prepareBase_manager present isAnchor frameSize
    rw [← same] at found
    cases result with
    | parseFailed reason => exact absurd rfl (passed reason)
    | decompressFailed reason =>
        injection handled with same
        injection same with state outcome
        subst state outcome
        refine ⟨prepared, found, continuous.quiet rfl target ?_,
          Or.inl (by rw [backend])⟩
        intro unset
        exact ⟨(reset unset).1,
          not_breaks_of_frame typed (.inl (reset unset).2)⟩
    | decoded frame =>
        injection handled with same
        injection same with state outcome
        subst state outcome
        exact kept_of_decoded typed continuous found target backend reset

/-- A message that is neither a frame nor a resize changes nothing. -/
theorem kept_of_ignored (present : before.interpolation = some manager)
    (continuous : Continuous profile done manager)
    (harmless : ¬ Breaks profile msg) :
    Kept profile done manager ⟨msg, none, before⟩ :=
  ⟨manager, present,
    continuous.quiet rfl rfl fun formerly => ⟨formerly, harmless⟩,
    Or.inl rfl⟩

theorem kept_of_resize (present : before.interpolation = some manager)
    (continuous : Continuous profile done manager)
    (typed : msg.header.msgType = .ok .resize) :
    Kept profile done manager
      ⟨msg, none, handleResize before msg.payload⟩ := by
  rw [handleResize]
  by_cases long : resizePayloadSize ≤ msg.payload.length
  · rw [if_pos long]
    refine ⟨manager.clear, ?_, continuous_cleared rfl, Or.inl rfl⟩
    change before.interpolation.map _ = _
    rw [present]
    rfl
  · rw [if_neg long]
    refine kept_of_ignored present continuous ?_
    rintro (⟨anchor, _⟩ | ⟨_, enough⟩)
    · rw [typed] at anchor
      cases anchor
    · exact long enough

/-- Every round keeps the continuity, and hands over at most one pair. -/
theorem kept_of_handleMessage {outcome : Option FrameOutcome}
    (present : before.interpolation = some manager)
    (continuous : Continuous profile done manager)
    (handled : handleMessage profile ⟨kind, recording interpolator⟩ before
      msg = .ok (after, outcome)) :
    Kept profile done manager ⟨msg, outcome, after⟩ := by
  have frame : ∀ isAnchor, msg.header.msgType =
      .ok (frameMsgType isAnchor) →
        Kept profile done manager ⟨msg, outcome, after⟩ := by
    intro isAnchor typed
    rw [handleMessage_of_frame _ _ _ typed] at handled
    cases done : handleFrame profile ⟨kind, recording interpolator⟩ before
        isAnchor msg with
    | error panic =>
        rw [done] at handled
        cases handled
    | ok result =>
        rw [done] at handled
        injection handled with same
        injection same with state same
        subst state same
        exact kept_of_frame typed present continuous done
  by_cases anchor : msg.header.msgType = .ok .anchorFrame
  · exact frame true anchor
  by_cases update : msg.header.msgType = .ok .frameUpdate
  · exact frame false update
  by_cases resized : msg.header.msgType = .ok .resize
  · rw [handleMessage, resized] at handled
    injection handled with same
    injection same with state outcome
    subst state outcome
    exact kept_of_resize present continuous resized
  · rw [handleMessage_of_ignored _ _ _ anchor update resized] at handled
    injection handled with same
    injection same with state outcome
    subst state outcome
    refine kept_of_ignored present continuous ?_
    rintro (⟨broken, _⟩ | ⟨broken, _⟩)
    · exact anchor broken
    · exact resized broken

end Rounds

/-! ## Whole runs -/

/-- What a round hands to the backend, if anything: the last two frames that
were decoded, the second one by this round, with nothing in between that
breaks the continuity. -/
def HandsConsecutive (profile : Profile)
    (before : List (GpuFrame × GpuFrame))
    (done : List (RecordingStep backend)) (step : RecordingStep backend) :
    Prop :=
  handedPairs step.after = before ∨
    ∃ older newer, handedPairs step.after = before ++ [(older, newer)] ∧
      Consecutive profile (done ++ [step]) older newer

theorem handsConsecutive_of_loop {profile : Profile} {kind : Codec}
    {interpolator : FrameInterpolator backend} :
    ∀ {msgs : List IncomingMessage}
      {state : ClientState (List (GpuFrame × GpuFrame) × backend)}
      {manager : RecordingManager backend}
      {done steps : List (RecordingStep backend)},
      state.interpolation = some manager →
        Continuous profile done manager →
          recvDecompressLoop profile ⟨kind, recording interpolator⟩ state
              msgs = .ok steps →
            ∀ {early later step}, steps = early ++ step :: later →
              HandsConsecutive profile (pairsAfter manager.backend.1 early)
                (done ++ early) step := by
  intro msgs
  induction msgs with
  | nil =>
      intro state manager done steps _ _ looped early later step split
      injection looped with same
      rw [← same] at split
      exact absurd split (by simp)
  | cons msg msgs inductionHypothesis =>
      intro state manager done steps present continuous looped early later
        step split
      rw [recvDecompressLoop, bind_eq_ok_iff] at looped
      obtain ⟨⟨after, outcome⟩, handled, looped⟩ := looped
      rw [bind_eq_ok_iff] at looped
      obtain ⟨rest, looped, done_⟩ := looped
      injection done_ with same
      rw [← same] at split
      obtain ⟨next, found, kept, handed⟩ :=
        kept_of_handleMessage present continuous handled
      have pairs : handedPairs after = next.backend.1 := by
        rw [handedPairs, found]
      cases early with
      | nil =>
          injection split with first _
          subst first
          rw [List.append_nil]
          rcases handed with quiet | ⟨older, newer, appended, consecutive⟩
          · exact Or.inl (pairs.trans quiet)
          · exact Or.inr ⟨older, newer, pairs.trans appended, consecutive⟩
      | cons first early =>
          injection split with first' split
          subst first'
          have later' := inductionHypothesis found kept looped split
          rw [List.append_assoc] at later'
          rw [pairsAfter, pairs]
          exact later'

/-- For every sequence of messages, any codec and any backend: whenever the
manager hands a pair of frames to the backend, these are the two frames
decoded last, in their order, with no anchor that was parsed and no resize
from after the older one up to and including the newer one.  Interpolation
itself changes neither frame. -/
theorem pairs_consecutive {profile : Profile} {kind : Codec}
    {interpolator : FrameInterpolator backend} {start : backend}
    {msgs : List IncomingMessage} {steps : List (RecordingStep backend)}
    (looped : recvDecompressLoop profile ⟨kind, recording interpolator⟩
      (.initial (some (.new ([], start)))) msgs = .ok steps) :
    (∀ early step later, steps = early ++ step :: later →
      HandsConsecutive profile (pairsAfter [] early) early step) ∧
    ∀ (manager : InterpolationManager backend) (t : Rat),
      (manager.interpolate interpolator t).1.anchor = manager.anchor ∧
        (manager.interpolate interpolator t).1.target = manager.target := by
  constructor
  · intro early step later split
    have handed := @handsConsecutive_of_loop backend profile kind
      interpolator msgs _ _ [] steps rfl (continuous_cleared rfl) looped
      early later step split
    rw [List.nil_append] at handed
    exact handed
  · intro manager t
    obtain ⟨anchor, target, _⟩ := interpolate_keeps interpolator manager t
    exact ⟨anchor, target⟩

/-- An anchor and an update: the update hands the pair of the two. -/
theorem pairs_consecutive_anchorThenUpdate :
    ∃ first second : RecordingStep Unit,
      recvDecompressLoop .dev ⟨.plain, recording linearBlend⟩
          (.initial (some (.new ([], ()))))
          (ShowingClient.anchorThenUpdate.map Prod.fst) = .ok [first, second] ∧
        (handedPairs second.after).length = 1 ∧
        HandsConsecutive .dev (handedPairs first.after) [first] second := by
  have evaluated : (recvDecompressLoop .dev
      ⟨.plain, recording linearBlend⟩ (.initial (some (.new ([], ()))))
      (ShowingClient.anchorThenUpdate.map Prod.fst)).map (fun steps =>
        steps.map fun step => (handedPairs step.after).length) =
      .ok [0, 1] := by
    decide +kernel
  cases looped : recvDecompressLoop .dev ⟨.plain, recording linearBlend⟩
      (.initial (some (.new ([], ()))))
      (ShowingClient.anchorThenUpdate.map Prod.fst) with
  | error panic =>
      rw [looped] at evaluated
      cases evaluated
  | ok steps =>
      rw [looped] at evaluated
      injection evaluated with lengths
      obtain ⟨first, rest, rfl, _, lengths⟩ := List.map_eq_cons_iff.mp lengths
      obtain ⟨second, rest, rfl, one, lengths⟩ :=
        List.map_eq_cons_iff.mp lengths
      rw [List.map_eq_nil_iff] at lengths
      subst lengths
      exact ⟨first, second, rfl, one,
        (pairs_consecutive looped).1 [first] second [] rfl⟩

end RemoteWay.Client
