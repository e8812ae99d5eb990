import RemoteWay.Encode.H264
import RemoteWay.Encode.H265
import RemoteWay.Encode.Av1

/-!
# Failed calls and keyframe requests

An `encode` call goes through a number of GPU operations, each of which may
fail.  The frame counter, the reference slot and the order hint advance only
once all of them succeeded.  The keyframe request is consumed before the
first of them, so a failure after a request loses it.
-/

namespace RemoteWay.Encode

open RemoteWay.Base

/-! ## The GPU operations of a call -/

/-- The operations of an `encode` call that may fail, in their order. -/
inductive GpuOperation where
  | resetCommandPool
  | beginCommandBuffer
  | createImageView
  | endCommandBuffer
  | resetFences
  | queueSubmit
  | waitForFences
  | getQueryPoolResults
  | mapMemory
  deriving DecidableEq, Repr

def GpuOperation.name : GpuOperation → String
  | .resetCommandPool => "reset_command_pool"
  | .beginCommandBuffer => "begin_command_buffer"
  | .createImageView => "create_image_view"
  | .endCommandBuffer => "end_command_buffer"
  | .resetFences => "reset_fences"
  | .queueSubmit => "queue_submit"
  | .waitForFences => "wait_for_fences"
  | .getQueryPoolResults => "get_query_pool_results"
  | .mapMemory => "map_memory(out_buffer)"

/-- The error of a failed operation, given the text of its result code. -/
def GpuOperation.failure (operation : GpuOperation) (code : String) :
    EncodeError :=
  match operation with
  | .getQueryPoolResults | .mapMemory =>
      .readbackFailed (operation.name ++ ": " ++ code)
  | _ => .submitFailed (operation.name ++ ": " ++ code)

/-- The size of the output buffer, `OUTPUT_BUFFER_BYTES`. -/
def outputBufferBytes : Nat := 1024 * 1024

/-- The device during a call: the result code of each operation that fails,
the count that the query returns and the bytes of the output buffer. -/
structure Device where
  failing : GpuOperation → Option String
  bytesWritten : UInt32
  outBuffer : List UInt8

namespace Device

def attempt (device : Device) (operation : GpuOperation) :
    Except EncodeError Unit :=
  match device.failing operation with
  | none => .ok ()
  | some code => .error (operation.failure code)

/-- Look up the view of an image, or create it.  Returns the images that
have a view. -/
def inputView (device : Device) (inputViews : List UInt64)
    (image : UInt64) : Except EncodeError (List UInt64) :=
  if image ∈ inputViews then .ok inputViews
  else do
    device.attempt .createImageView
    return image :: inputViews

def begin (device : Device) (inputViews : List UInt64) (image : UInt64) :
    Except EncodeError (List UInt64) := do
  device.attempt .resetCommandPool
  device.attempt .beginCommandBuffer
  device.inputView inputViews image

/-- Submit the commands, wait for them and read the bitstream back. -/
def submit (device : Device) : GpuOutcome := do
  device.attempt .endCommandBuffer
  device.attempt .resetFences
  device.attempt .queueSubmit
  device.attempt .waitForFences
  device.attempt .getQueryPoolResults
  device.attempt .mapMemory
  return device.outBuffer.take
    (min device.bytesWritten.toNat outputBufferBytes)

/-- All GPU operations of a call.  A view that was created stays, whatever
happens after it. -/
def execute (device : Device) (inputViews : List UInt64) (image : UInt64) :
    List UInt64 × GpuOutcome :=
  match device.begin inputViews image with
  | .error reason => (inputViews, .error reason)
  | .ok inputViews => (inputViews, device.submit)

/-- The operation is part of a call for the image. -/
def Asked (inputViews : List UInt64) (image : UInt64)
    (operation : GpuOperation) : Prop :=
  operation = .createImageView → image ∉ inputViews

/-- No operation of a call for the image fails. -/
def Completes (device : Device) (inputViews : List UInt64)
    (image : UInt64) : Prop :=
  ∀ operation, Asked inputViews image operation →
    device.failing operation = none

theorem isOk_attempt_bind_iff {result : Type} (device : Device)
    (operation : GpuOperation) (next : Unit → Except EncodeError result) :
    (device.attempt operation >>= next).isOk = true ↔
      device.failing operation = none ∧ (next ()).isOk = true := by
  rw [attempt]
  cases device.failing operation with
  | none => simp [bind, Except.bind]
  | some code => simp [bind, Except.bind, Except.isOk, Except.toBool]

theorem isOk_inputView_iff (device : Device) (inputViews : List UInt64)
    (image : UInt64) :
    (device.inputView inputViews image).isOk = true ↔
      (image ∉ inputViews → device.failing .createImageView = none) := by
  rw [inputView]
  by_cases known : image ∈ inputViews
  · simp [known, Except.isOk, Except.toBool]
  · rw [if_neg known, isOk_attempt_bind_iff]
    simp [known, pure, Except.pure, Except.isOk, Except.toBool]

theorem isOk_submit_iff (device : Device) :
    device.submit.isOk = true ↔
      device.failing .endCommandBuffer = none ∧
        device.failing .resetFences = none ∧
        device.failing .queueSubmit = none ∧
        device.failing .waitForFences = none ∧
        device.failing .getQueryPoolResults = none ∧
        device.failing .mapMemory = none := by
  simp only [submit, isOk_attempt_bind_iff]
  simp [pure, Except.pure, Except.isOk, Except.toBool]

theorem isOk_execute_iff (device : Device) (inputViews : List UInt64)
    (image : UInt64) :
    (device.execute inputViews image).2.isOk = true ↔
      (device.begin inputViews image).isOk = true ∧
        device.submit.isOk = true := by
  rw [execute]
  cases device.begin inputViews image with
  | error reason => simp [Except.isOk, Except.toBool]
  | ok inputViews => simp [Except.isOk, Except.toBool]

/-- A call succeeds on the GPU exactly if each of its operations does. -/
theorem completes_iff (device : Device) (inputViews : List UInt64)
    (image : UInt64) :
    device.Completes inputViews image ↔
      (device.execute inputViews image).2.isOk = true := by
  rw [isOk_execute_iff, begin, isOk_attempt_bind_iff, isOk_attempt_bind_iff,
    isOk_inputView_iff, isOk_submit_iff]
  constructor
  · intro completes
    have other : ∀ operation, operation ≠ .createImageView →
        device.failing operation = none :=
      fun operation different =>
        completes operation fun same => absurd same different
    exact ⟨⟨other _ (by decide), other _ (by decide),
        fun unknown => completes .createImageView fun _ => unknown⟩,
      other _ (by decide), other _ (by decide), other _ (by decide),
      other _ (by decide), other _ (by decide), other _ (by decide)⟩
  · rintro ⟨⟨reset, begun, viewed⟩, ended, fences, submitted, waited,
      queried, mapped⟩ operation asked
    cases operation with
    | createImageView => exact viewed (asked rfl)
    | resetCommandPool => exact reset
    | beginCommandBuffer => exact begun
    | endCommandBuffer => exact ended
    | resetFences => exact fences
    | queueSubmit => exact submitted
    | waitForFences => exact waited
    | getQueryPoolResults => exact queried
    | mapMemory => exact mapped

end Device

/-! ## Sessions on a device -/

namespace VideoCodec

/-- The counter that the backend has of its own. -/
def Own : VideoCodec → Type
  | .h264 | .h265 => Unit
  | .av1 => UInt8

def Picture : VideoCodec → Type
  | .h264 => H264Picture
  | .h265 => H265Picture
  | .av1 => Av1Picture

def backend : (codec : VideoCodec) → Backend codec.Own codec.Picture
  | .h264 => H264.backend
  | .h265 => H265.backend
  | .av1 => Av1.backend

/-- Where the counter of a new backend stands. -/
def counter : (codec : VideoCodec) → codec.Own
  | .h264 | .h265 => ()
  | .av1 => (0 : UInt8)

end VideoCodec

/-- What a call on an encoder returns. -/
inductive CallResult where
  | requested
  | refused (reason : EncodeError)
  | encoded (frame : EncodedFrame)
  deriving DecidableEq, Repr

/-- A call on an encoder; an `encode` call with the image of the frame and
the device during the call. -/
inductive DeviceCall where
  | encode (frame : InputFrame) (image : UInt64) (device : Device)
  | requestKeyframe

/-- An encoder with the images that have a view and the results of the calls
so far, the newest last. -/
structure DeviceSession (own : Type) where
  encoder : VideoEncoder own
  inputViews : List UInt64
  results : List CallResult

namespace DeviceSession

variable {own picture : Type}

def start (params : EncodeParams) (parameterSetsBlob : List UInt8)
    (counter : own) : DeviceSession own :=
  ⟨.start params parameterSetsBlob counter, [], []⟩

/-- What the session is after a call.  A panic leaves none. -/
def perform (backend : Backend own picture) (profile : Profile)
    (session : DeviceSession own) : DeviceCall → Option (DeviceSession own)
  | .requestKeyframe =>
      some
        { session with
          encoder := session.encoder.requestKeyframe
          results := session.results ++ [.requested] }
  | .encode frame image device =>
      let executed := device.execute session.inputViews image
      match session.encoder.encode backend profile frame executed.2 with
      | .error _ => none
      | .ok (encoder, result) =>
          some
            { encoder := encoder
              inputViews :=
                if session.encoder.Accepts frame then executed.1
                else session.inputViews
              results := session.results ++
                [match result with
                  | .error reason => .refused reason
                  | .ok encoded => .encoded encoded.1] }

abbrev Step (backend : Backend own picture) (profile : Profile)
    (before : DeviceSession own) (call : DeviceCall)
    (after : DeviceSession own) : Prop :=
  before.perform backend profile call = some after

/-- Whether a keyframe is due after a call. -/
def dueAfter (due : Bool) : CallResult → Bool
  | .requested => true
  | .refused _ => due
  | .encoded _ => false

/-- A keyframe is due: no frame was encoded since the last request, or none
at all. -/
def due (session : DeviceSession own) : Bool :=
  session.results.foldl dueAfter true

/-- A call that returns an error leaves the frame index, the reference slot,
the keyframe request and the order hint as they were; the rest of the
encoder never changes. -/
def Atomic (before after : DeviceSession own) : Prop :=
  ∀ reason, after.results = before.results ++ [.refused reason] →
    after.encoder = before.encoder

/-- A frame that is encoded while a keyframe is due is an IDR frame with the
parameter sets of the session. -/
def AnswersDue (parameterSetsBlob : List UInt8)
    (before after : DeviceSession own) : Prop :=
  ∀ frame, after.results = before.results ++ [.encoded frame] →
    before.due = true →
      frame.kind = .idr ∧ frame.parameterSets = some parameterSetsBlob

/-- While a keyframe request is pending, no operation of a call for a frame
of the session's size fails. -/
def CompletesRequest (session : DeviceSession own) : DeviceCall → Prop
  | .requestKeyframe => True
  | .encode frame image device =>
      session.encoder.Accepts frame →
        session.encoder.forceKeyframe = true →
          device.Completes session.inputViews image

/-! ## What a call does -/

/-- What a call of each outcome leaves. -/
inductive Outcome (before : DeviceSession own) :
    DeviceCall → DeviceSession own → Prop where
  | requested (after : DeviceSession own)
      (encoder : after.encoder = before.encoder.requestKeyframe)
      (results : after.results = before.results ++ [.requested]) :
      Outcome before .requestKeyframe after
  | mismatched (frame : InputFrame) (image : UInt64) (device : Device)
      (after : DeviceSession own) (reason : EncodeError)
      (rejected : ¬ before.encoder.Accepts frame)
      (encoder : after.encoder = before.encoder)
      (results : after.results = before.results ++ [.refused reason]) :
      Outcome before (.encode frame image device) after
  | failed (frame : InputFrame) (image : UInt64) (device : Device)
      (after : DeviceSession own) (reason : EncodeError)
      (accepted : before.encoder.Accepts frame)
      (incomplete : ¬ device.Completes before.inputViews image)
      (encoder : after.encoder =
        { before.encoder with forceKeyframe := false })
      (results : after.results = before.results ++ [.refused reason]) :
      Outcome before (.encode frame image device) after
  | encoded (frame : InputFrame) (image : UInt64) (device : Device)
      (after : DeviceSession own) (encoded : EncodedFrame)
      (complete : device.Completes before.inputViews image)
      (kind : encoded.kind = if before.encoder.isKey then .idr else .p)
      (parameterSets : encoded.parameterSets =
        if before.encoder.isKey then some before.encoder.parameterSetsBlob
        else none)
      (blob : after.encoder.parameterSetsBlob =
        before.encoder.parameterSetsBlob)
      (results : after.results = before.results ++ [.encoded encoded]) :
      Outcome before (.encode frame image device) after

variable {backend : Backend own picture} {profile : Profile}
variable {before after : DeviceSession own} {call : DeviceCall}

theorem outcome_of_step (stepped : Step backend profile before call after) :
    Outcome before call after := by
  cases call with
  | requestKeyframe =>
      injection stepped with same
      subst same
      exact .requested _ rfl rfl
  | encode frame image device =>
      rw [Step, perform] at stepped
      have complete := device.completes_iff before.inputViews image
      by_cases accepted : before.encoder.Accepts frame
      · cases gpu : (device.execute before.inputViews image).2 with
        | error reason =>
            rw [gpu] at stepped complete
            cases declares : backend.declare profile before.encoder with
            | error panic =>
                simp [VideoEncoder.encode, accepted, declares, bind,
                  Except.bind] at stepped
            | ok declared =>
                simp only [VideoEncoder.encode, if_pos accepted, declares]
                  at stepped
                injection stepped with same
                subst same
                refine .failed _ _ _ _ reason accepted ?_ rfl rfl
                intro completes
                exact absurd (complete.mp completes) Bool.false_ne_true
        | ok bitstream =>
            rw [gpu] at stepped complete
            cases encoding : before.encoder.encode backend profile frame
                (.ok bitstream) with
            | error panic =>
                rw [encoding] at stepped
                cases stepped
            | ok result =>
                rw [encoding] at stepped
                rw [VideoEncoder.encode, if_pos accepted, bind_eq_ok_iff]
                  at encoding
                obtain ⟨declared, declares, encoding⟩ := encoding
                dsimp only at encoding
                rw [bind_eq_ok_iff] at encoding
                obtain ⟨frameIndex, increased, encoding⟩ := encoding
                injection encoding with same
                subst same
                injection stepped with same
                subst same
                exact .encoded _ _ _ _ _ (complete.mpr rfl) rfl rfl rfl rfl
      · simp only [VideoEncoder.encode, if_neg accepted] at stepped
        injection stepped with same
        subst same
        exact .mismatched _ _ _ _ _ accepted rfl rfl

theorem due_append (result : CallResult)
    (results : after.results = before.results ++ [result]) :
    after.due = dueAfter before.due result := by
  rw [due, results, List.foldl_append]
  rfl

/-- The encoder knows when a keyframe is due. -/
structure Remembers (parameterSetsBlob : List UInt8)
    (session : DeviceSession own) : Prop where
  blob : session.encoder.parameterSetsBlob = parameterSetsBlob
  key : session.due = true → session.encoder.isKey = true

theorem remembers_start (params : EncodeParams)
    (parameterSetsBlob : List UInt8) (counter : own) :
    Remembers parameterSetsBlob
      (start params parameterSetsBlob counter) where
  blob := rfl
  key := fun _ => rfl

/-- A call that appends one result is atomic if that is no error. -/
theorem atomic_of_append {result : CallResult}
    (results : after.results = before.results ++ [result])
    (noError : ∀ reason, result ≠ .refused reason) :
    Atomic before after := by
  intro reason refused
  rw [results] at refused
  injection List.append_cancel_left refused with same
  exact absurd same (noError reason)

theorem answersDue_of_append {parameterSetsBlob : List UInt8}
    {result : CallResult}
    (results : after.results = before.results ++ [result])
    (noFrame : ∀ frame, result ≠ .encoded frame) :
    AnswersDue parameterSetsBlob before after := by
  intro frame encoded
  rw [results] at encoded
  injection List.append_cancel_left encoded with same
  exact absurd same (noFrame frame)

/-- A call is atomic exactly if it does not fail with a request pending. -/
theorem atomic_iff (outcome : Outcome before call after) :
    Atomic before after ↔ before.CompletesRequest call := by
  cases outcome with
  | requested _ encoder results =>
      have atomic : Atomic before after :=
        atomic_of_append results fun reason => CallResult.noConfusion
      exact iff_of_true atomic trivial
  | mismatched frame image device _ reason rejected encoder results =>
      exact iff_of_true (fun _ _ => encoder)
        (fun accepted => absurd accepted rejected)
  | failed frame image device _ reason accepted incomplete encoder results =>
      constructor
      · intro atomic _ pending
        have same := atomic reason results
        rw [encoder] at same
        have cleared : false = before.encoder.forceKeyframe :=
          congrArg VideoEncoder.forceKeyframe same
        rw [pending] at cleared
        cases cleared
      · intro completes _ _
        have idle : before.encoder.forceKeyframe = false :=
          Bool.eq_false_iff.mpr fun pending =>
            incomplete (completes accepted pending)
        rw [encoder, ← idle]
  | encoded frame image device _ encoded complete kind parameterSets blob
      results =>
      have atomic : Atomic before after :=
        atomic_of_append results fun reason => CallResult.noConfusion
      exact iff_of_true atomic fun _ _ => complete

variable {parameterSetsBlob : List UInt8}

/-- Atomic calls do not forget that a keyframe is due. -/
theorem Remembers.next (remembers : Remembers parameterSetsBlob before)
    (outcome : Outcome before call after) (atomic : Atomic before after) :
    Remembers parameterSetsBlob after := by
  have unchanged : ∀ reason,
      after.results = before.results ++ [.refused reason] →
        Remembers parameterSetsBlob after := by
    intro reason results
    have same := atomic reason results
    refine ⟨by rw [same, remembers.blob], ?_⟩
    rw [due_append _ results, same]
    exact remembers.key
  cases outcome with
  | requested _ encoder results =>
      refine ⟨by rw [encoder]; exact remembers.blob, ?_⟩
      intro _
      rw [encoder]
      exact Bool.or_true _
  | mismatched frame image device _ reason rejected encoder results =>
      exact unchanged reason results
  | failed frame image device _ reason accepted incomplete encoder results =>
      exact unchanged reason results
  | encoded frame image device _ encoded complete kind parameterSets blob
      results =>
      refine ⟨by rw [blob, remembers.blob], ?_⟩
      rw [due_append _ results]
      intro impossible
      cases impossible

theorem Remembers.answersDue (remembers : Remembers parameterSetsBlob before)
    (outcome : Outcome before call after) :
    AnswersDue parameterSetsBlob before after := by
  cases outcome with
  | requested _ encoder results =>
      exact answersDue_of_append results fun frame => CallResult.noConfusion
  | mismatched frame image device _ reason rejected encoder results =>
      exact answersDue_of_append results fun frame => CallResult.noConfusion
  | failed frame image device _ reason accepted incomplete encoder results =>
      exact answersDue_of_append results fun frame => CallResult.noConfusion
  | encoded frame image device _ encoded complete kind parameterSets blob
      results =>
      intro returned same due
      rw [results] at same
      injection List.append_cancel_left same with same
      injection same with same
      subst same
      rw [kind, parameterSets, remembers.key due, remembers.blob]
      exact ⟨rfl, rfl⟩

/-! ## Whole sessions -/

/-- For each of the three backends and any sequence of calls on a device
that may fail at any operation: failed calls are atomic and every due
keyframe is delivered if and only if no call fails on the device while a
keyframe request is pending. -/
theorem atomic_iff_completesRequest {codec : VideoCodec} {profile : Profile}
    {params : EncodeParams} {calls : List DeviceCall}
    {last : DeviceSession codec.Own} :
    Run (fun before call after =>
        Step codec.backend profile before call after ∧
          before.CompletesRequest call)
        (.start params parameterSetsBlob codec.counter) calls last ↔
      Run (fun before call after =>
        Step codec.backend profile before call after ∧
          Atomic before after ∧ AnswersDue parameterSetsBlob before after)
        (.start params parameterSetsBlob codec.counter) calls last := by
  refine run_restrict_iff ?_ ?_
    (remembers_start params parameterSetsBlob codec.counter)
  · intro before call after stepped remembers completes
    have outcome := outcome_of_step stepped
    have atomic := (atomic_iff outcome).mpr completes
    exact ⟨remembers.next outcome atomic, atomic,
      remembers.answersDue outcome⟩
  · intro before call after stepped _ kept
    exact (atomic_iff (outcome_of_step stepped)).mp kept.1

/-- Failed calls are atomic and every due keyframe is delivered, in every
session of a backend. -/
def FailsAtomically (codec : VideoCodec) : Prop :=
  ∀ (profile : Profile) (params : EncodeParams)
    (parameterSetsBlob : List UInt8) (calls : List DeviceCall)
    (last : DeviceSession codec.Own),
    Run (Step codec.backend profile)
        (.start params parameterSetsBlob codec.counter) calls last →
      Run (fun before call after =>
        Step codec.backend profile before call after ∧
          Atomic before after ∧ AnswersDue parameterSetsBlob before after)
        (.start params parameterSetsBlob codec.counter) calls last

/-- A device on which the operation of the name fails, if any. -/
def lossyDevice (failed : Option GpuOperation) : Device where
  failing operation :=
    if some operation = failed then some "ERROR_DEVICE_LOST" else none
  bytesWritten := 0
  outBuffer := []

/-- A frame, a keyframe request, and a frame whose submission fails. -/
def lostRequest : List DeviceCall :=
  [.encode ⟨64, 64, 0⟩ 7 (lossyDevice none), .requestKeyframe,
    .encode ⟨64, 64, 1⟩ 7 (lossyDevice (some .queueSubmit))]

/-- The next frame. -/
def nextFrame : DeviceCall :=
  .encode ⟨64, 64, 2⟩ 7 (lossyDevice none)

def sessionAfter (codec : VideoCodec) (calls : List DeviceCall) :
    Option (DeviceSession codec.Own) :=
  calls.foldlM (perform codec.backend .release)
    (.start ⟨64, 64⟩ [] codec.counter)

theorem sessionAfter_lostRequest (codec : VideoCodec) :
    ∃ before after frame,
      sessionAfter codec lostRequest = some before ∧
        before.perform codec.backend .release nextFrame = some after ∧
        before.due = true ∧ frame.kind = .p ∧
        after.results = before.results ++ [.encoded frame] := by
  cases codec with
  | h264 => exact ⟨_, _, _, rfl, rfl, rfl, rfl, rfl⟩
  | h265 => exact ⟨_, _, _, rfl, rfl, rfl, rfl, rfl⟩
  | av1 => exact ⟨_, _, _, rfl, rfl, rfl, rfl, rfl⟩

theorem not_failsAtomically (codec : VideoCodec) :
    ¬ FailsAtomically codec := by
  intro all
  obtain ⟨before, after, frame, reached, stepped, due, kind, results⟩ :=
    sessionAfter_lostRequest codec
  have run := all .release ⟨64, 64⟩ [] (lostRequest ++ [nextFrame]) after
    (run_concat_iff.mpr ⟨before, run_iff_foldlM.mpr reached, stepped⟩)
  obtain ⟨same, early, _, _, answers⟩ := run_concat_iff.mp run
  have again : sessionAfter codec lostRequest = some same :=
    run_iff_foldlM.mp (early.mono fun _ _ _ both => both.1)
  rw [reached] at again
  injection again with again
  subst again
  have answered := (answers frame results due).1
  rw [kind] at answered
  cases answered

/-- After the failure the next frame is a P frame, with each backend. -/
theorem not_failsAtomically_lostRequest :
    ¬ FailsAtomically .h264 ∧ ¬ FailsAtomically .h265 ∧
      ¬ FailsAtomically .av1 :=
  ⟨not_failsAtomically .h264, not_failsAtomically .h265,
    not_failsAtomically .av1⟩

end DeviceSession

end RemoteWay.Encode
