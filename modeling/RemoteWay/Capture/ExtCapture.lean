import RemoteWay.Capture.WaylandIo

/-!
# The ext-image-capture backend

`next_frame` captures into the pool that was created when the session was
set up.  The session announces the size of the buffer and its format, also
later on; the handlers store them, and `next_frame` labels its frame with
what they stored.
-/

namespace RemoteWay.Capture

open RemoteWay.Base RemoteWay.Compress

/-! ## Events -/

inductive ExtSessionEvent where
  | bufferSize (width height : UInt32)
  | shmFormat (format : WEnum)
  | done
  | stopped
  deriving DecidableEq, Repr

inductive ExtFrameEvent where
  | damage (x y width height : Int32)
  | presentationTime (tvSecHi tvSecLo tvNsec : UInt32)
  | transform (transform : WEnum)
  | ready
  | failed
  deriving DecidableEq, Repr

inductive ExtEvent where
  | session (event : ExtSessionEvent)
  | frame (event : ExtFrameEvent)
  deriving DecidableEq, Repr

/-- The state that the handlers share with `next_frame`. -/
structure ExtCaptureState where
  session : Bool
  shmPool : Option ShmBufferPool
  bufferWidth : UInt32
  bufferHeight : UInt32
  shmFormat : Option UInt32
  sessionReady : Bool
  frameReady : Bool
  frameTransform : UInt32
  frameFailed : Bool
  damageRects : List DamageRect
  timestampNs : UInt64
  stopped : Bool

namespace ExtCaptureState

def initial : ExtCaptureState where
  session := false
  shmPool := none
  bufferWidth := 0
  bufferHeight := 0
  shmFormat := none
  sessionReady := false
  frameReady := false
  frameTransform := 0
  frameFailed := false
  damageRects := []
  timestampNs := 0
  stopped := false

/-- Prefer XRGB8888, but accept the first offered. -/
def offerFormat (current : Option UInt32) : WEnum → Option UInt32
  | .value code =>
      if current = none ∨ code = 1 then some code else current
  | .unknown _ => current

def onSession (state : ExtCaptureState) : ExtSessionEvent → ExtCaptureState
  | .bufferSize width height =>
      { state with bufferWidth := width, bufferHeight := height }
  | .shmFormat format =>
      { state with shmFormat := offerFormat state.shmFormat format }
  | .done => { state with sessionReady := true }
  | .stopped => { state with stopped := true }

/-- The code of a transform, known or not. -/
def transformCode : WEnum → UInt32
  | .value code => code
  | .unknown code => code

/-- `DamageRect::new(x as u32, y as u32, width as u32, height as u32)`. -/
def castRect (x y width height : Int32) : DamageRect :=
  ⟨x.toUInt32, y.toUInt32, width.toUInt32, height.toUInt32⟩

def onFrame (profile : Profile) (state : ExtCaptureState) :
    ExtFrameEvent → Exec ExtCaptureState
  | .damage x y width height =>
      .ok { state with
        damageRects := state.damageRects ++ [castRect x y width height] }
  | .presentationTime tvSecHi tvSecLo tvNsec => do
      let timestampNs ← timestampOf profile tvSecHi tvSecLo tvNsec
      .ok { state with timestampNs := timestampNs }
  | .transform transform =>
      .ok { state with frameTransform := transformCode transform }
  | .ready => .ok { state with frameReady := true }
  | .failed => .ok { state with frameFailed := true }

def dispatch (profile : Profile) (state : ExtCaptureState) :
    ExtEvent → Exec ExtCaptureState
  | .session event => .ok (state.onSession event)
  | .frame event => state.onFrame profile event

/-! ## Setting up the session -/

/-- The last part of `new`: the session answers with its parameters, and the
pool is created from them. -/
def setUp (profile : Profile) (provided : Fin 2 → Except String Unit)
    (events : List ExtSessionEvent) :
    Exec (Except CaptureError ExtCaptureState) := do
  let state := events.foldl onSession { initial with session := true }
  if state.sessionReady = false then
    return .error (.captureFailed "session setup incomplete")
  else
    match state.shmFormat with
    | none => return .error (.captureFailed "no supported SHM format")
    | some format =>
        let stride ← u32Mul profile state.bufferWidth 4
        match ShmBufferPool.new provided state.bufferWidth
            state.bufferHeight stride format with
        | .error reason => return .error reason
        | .ok pool => return .ok { state with shmPool := some pool }

/-! ## Undoing the transform -/

/-- Swap two rows of the buffer. -/
def swapRows (data : List UInt8) (stride top bottom : Nat) :
    Exec (List UInt8) := do
  let upper ← slice data (top * stride) ((top + 1) * stride)
  let lower ← slice data (bottom * stride) ((bottom + 1) * stride)
  return data.take (top * stride) ++ lower ++
    (data.drop ((top + 1) * stride)).take ((bottom - (top + 1)) * stride) ++
    upper ++ data.drop ((bottom + 1) * stride)

/-- The loop of `flip_rows`. -/
def flipLoop (stride : Nat) : Nat → Nat → List UInt8 → Exec (List UInt8)
  | _, 0, data => .ok data
  | top, bottom + 1, data =>
      if top < bottom + 1 then do
        let data ← swapRows data stride top (bottom + 1)
        flipLoop stride (top + 1) bottom data
      else
        .ok data

/-- Swap rows top-to-bottom. -/
def flipRows (data : List UInt8) (stride : Nat) : Exec (List UInt8) :=
  if stride = 0 then
    .error .division
  else
    let height := data.length / stride
    flipLoop stride 0 (height - 1) data

def swapBytes (row : List UInt8) (left right : Nat) :
    Exec (List UInt8) := do
  let first ← readAt row left
  let second ← readAt row right
  let row ← writeAt row left second
  writeAt row right first

def mirrorRow (pixels : Nat) (row : List UInt8) : Exec (List UInt8) :=
  (List.range (pixels / 2)).foldlM (fun row i =>
    (List.range 4).foldlM (fun row k =>
      swapBytes row (i * 4 + k) ((pixels - 1 - i) * 4 + k)) row) row

/-- Reverse the pixels within each row.  `chunks_exact_mut` asserts a
positive chunk size and leaves an incomplete last chunk alone. -/
def mirrorRows (data : List UInt8) (stride : Nat) : Exec (List UInt8) :=
  if stride = 0 then
    .error .assertion
  else do
    let rows := data.length / stride
    let mirrored ← (List.range rows).mapM fun index =>
      mirrorRow (stride / 4) ((data.drop (index * stride)).take stride)
    return mirrored.flatten ++ data.drop (rows * stride)

/-- The whole picture as damage. -/
def fullDamage (state : ExtCaptureState) : List DamageRect :=
  [⟨0, 0, state.bufferWidth, state.bufferHeight⟩]

/-- The pixels upright, and the damage of the frame. -/
def undoTransform (state : ExtCaptureState) (data : List UInt8)
    (stride : UInt32) : Exec (List UInt8 × List DamageRect) :=
  if state.frameTransform = 0 then
    .ok (data, state.damageRects)
  else if state.frameTransform = 2 then do
    let flipped ← flipRows data stride.toNat
    let mirrored ← mirrorRows flipped stride.toNat
    return (mirrored, state.fullDamage)
  else if state.frameTransform = 4 then do
    let mirrored ← mirrorRows data stride.toNat
    return (mirrored, state.fullDamage)
  else if state.frameTransform = 6 then do
    let flipped ← flipRows data stride.toNat
    return (flipped, state.fullDamage)
  else
    -- The image may be rotated; the frame is returned all the same.
    .ok (data, state.fullDamage)

/-! ## Capturing a frame -/

/-- The frame is neither ready nor failed, and the session goes on. -/
def waiting (state : ExtCaptureState) : Bool :=
  !state.frameReady && !state.frameFailed && !state.stopped

/-- Reset the per-frame state. -/
def beginFrame (state : ExtCaptureState) : ExtCaptureState :=
  { state with frameReady := false, frameFailed := false, damageRects := [] }

/-- Copy the frame out of the pool. -/
def copyFrame (profile : Profile) (state : ExtCaptureState)
    (memory : Nat → UInt8) :
    Exec (Except CaptureError CapturedFrame × ExtCaptureState) := do
  let state :=
    if state.damageRects.isEmpty then
      { state with damageRects := state.fullDamage }
    else
      state
  let stride ← u32Mul profile state.bufferWidth 4
  let formatRaw := state.shmFormat.getD 0
  match PixelFormat.fromWlShm formatRaw with
  | none => return (.error (.unsupportedFormat formatRaw), state)
  | some format =>
      match state.shmPool with
      | none => .error .assertion
      | some pool =>
          let (data, damage) ←
            undoTransform state (pool.activeData memory) stride
          let frame : CapturedFrame :=
            { data := data
              damage := damage
              format := format
              width := state.bufferWidth
              height := state.bufferHeight
              stride := stride
              timestampNs := state.timestampNs }
          return (.ok frame,
            { state with shmPool := some pool.swap, damageRects := [] })

/-- What `next_frame` does when the wait is over. -/
def finishFrame (profile : Profile) (state : ExtCaptureState)
    (memory : Nat → UInt8) :
    Exec (Except CaptureError CapturedFrame × ExtCaptureState) :=
  if state.stopped then
    .ok (.error .sessionEnded, state)
  else if state.frameFailed then
    .ok (.error (.captureFailed "compositor reported capture failure"),
      state)
  else
    state.copyFrame profile memory

/-- Capture the next frame.  `memory` is what the compositor has written to
the active buffer when the wait is over.  What is left of the script is
returned too. -/
def nextFrame (profile : Profile) (state : ExtCaptureState)
    (script : List (DispatchOutcome ExtEvent)) (memory : Nat → UInt8) :
    Exec (Except CaptureError CapturedFrame × ExtCaptureState ×
      List (DispatchOutcome ExtEvent)) :=
  if state.stopped then
    .ok (.error .sessionEnded, state, script)
  else if state.session = false then
    .ok (.error .noBackend, state.beginFrame, script)
  else if state.shmPool.isNone then
    .ok (.error (.captureFailed "no SHM pool"), state.beginFrame, script)
  else do
    -- A quiet screen produces no frame; the wait goes on after a timeout.
    let (waited, state, rest) ←
      awaitEvents (dispatch profile) waiting true script state.beginFrame
    match waited with
    | .failed reason => return (.error reason, state, rest)
    | _ =>
        let (returned, state) ← state.finishFrame profile memory
        return (returned, state, rest)

def stop (state : ExtCaptureState) : ExtCaptureState :=
  { state with stopped := true }

end ExtCaptureState

end RemoteWay.Capture
