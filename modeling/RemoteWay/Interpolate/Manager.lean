import Mathlib.Data.List.Basic

/-!
# Interpolation manager

A sliding window of the two latest real frames.  The backend is a parameter:
a state and its `interpolate`.
-/

namespace RemoteWay.Interpolate

/-- A frame in CPU memory. -/
structure GpuFrame where
  data : List UInt8
  width : UInt32
  height : UInt32
  stride : UInt32
  timestampNs : UInt64
  deriving DecidableEq, Repr

inductive InterpolateError where
  | noBackend
  | deviceLost
  | dimensionMismatch (aWidth aHeight bWidth bHeight : UInt32)
  | invalidFactor (t : Rat)
  | initFailed (reason : String)
  | interpolateFailed (reason : String)
  deriving DecidableEq

/-- An interpolation backend with its internal state. -/
structure FrameInterpolator (state : Type) where
  interpolate : state → GpuFrame → GpuFrame → Rat →
    state × Except InterpolateError GpuFrame

/-- Manages frame buffering and interpolation between real frames. -/
structure InterpolationManager (state : Type) where
  backend : state
  anchor : Option GpuFrame
  target : Option GpuFrame
  frameCount : Nat
  interpolatedCount : Nat
  forceReset : Bool
  deriving DecidableEq

namespace InterpolationManager

variable {state : Type} (manager : InterpolationManager state)

def new (backend : state) : InterpolationManager state where
  backend := backend
  anchor := none
  target := none
  frameCount := 0
  interpolatedCount := 0
  forceReset := false

/-- The previous target becomes the anchor, unless a reset is pending. -/
def pushFrame (frame : GpuFrame) : InterpolationManager state :=
  let shifted :=
    if manager.forceReset then
      { manager with anchor := none, forceReset := false }
    else
      { manager with anchor := manager.target }
  { shifted with
    target := some frame
    frameCount := manager.frameCount + 1 }

/-- Generate a frame between the anchor and the target. -/
def interpolate (interpolator : FrameInterpolator state) (t : Rat) :
    InterpolationManager state ×
      Except InterpolateError (Option GpuFrame) :=
  match manager.anchor, manager.target with
  | some anchor, some target =>
      match interpolator.interpolate manager.backend anchor target t with
      | (backend, .error reason) =>
          ({ manager with backend := backend }, .error reason)
      | (backend, .ok frame) =>
          ({ manager with
              backend := backend
              interpolatedCount := manager.interpolatedCount + 1 },
            .ok (some frame))
  | _, _ => (manager, .ok none)

def resetAnchor : InterpolationManager state :=
  { manager with forceReset := true }

def clear : InterpolationManager state :=
  { manager with
    anchor := none
    target := none
    frameCount := 0
    interpolatedCount := 0
    forceReset := false }

/-- Interpolation after a frame was pushed: between the previous target and
this frame, unless a reset is pending. -/
theorem interpolate_pushFrame (interpolator : FrameInterpolator state)
    (frame : GpuFrame) (t : Rat) :
    ((manager.pushFrame frame).interpolate interpolator t).2 =
      if manager.forceReset then
        .ok none
      else
        match manager.target with
        | none => .ok none
        | some target =>
            (interpolator.interpolate manager.backend target frame t).2.map
              some := by
  rw [pushFrame]
  cases manager.forceReset with
  | true => rfl
  | false =>
      cases manager.target with
      | none =>
          simp only [interpolate, if_neg Bool.false_ne_true]
      | some target =>
          simp only [interpolate, if_neg Bool.false_ne_true]
          cases interpolator.interpolate manager.backend target frame t with
          | mk backend result =>
              cases result with
              | error reason => rfl
              | ok blend => rfl

end InterpolationManager

end RemoteWay.Interpolate
