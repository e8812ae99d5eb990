import RemoteWay.Capture.WaylandIo

/-!
# The wlr-screencopy backend

For every call the compositor announces the buffer it wants, and the pool is
created anew if it has other attributes.  A call has a frame object of its
own; the handlers do not look at the object an event is for, but the events
of destroyed objects do not reach them.
-/

namespace RemoteWay.Capture

open RemoteWay.Base RemoteWay.Compress

inductive ScreencopyEvent where
  | buffer (format : WEnum) (width height stride : UInt32)
  | bufferDone
  | damage (x y width height : UInt32)
  | ready (tvSecHi tvSecLo tvNsec : UInt32)
  | failed
  | other
  deriving DecidableEq, Repr

/-- An event with the frame object it is for. -/
structure FrameObjectEvent where
  object : Nat
  event : ScreencopyEvent
  deriving DecidableEq, Repr

/-- The state that the handlers share with `next_frame`. -/
structure ScreencopyState where
  shm : Bool
  shmPool : Option ShmBufferPool
  screencopyManager : Bool
  output : Bool
  frameReady : Bool
  frameFailed : Bool
  bufferDone : Bool
  damageRects : List DamageRect
  frameFormat : Option PixelFormat
  frameWidth : UInt32
  frameHeight : UInt32
  frameStride : UInt32
  frameFormatRaw : UInt32
  wlShmFormat : Option UInt32
  timestampNs : UInt64
  bufferAttached : Bool
  stopped : Bool

/-- The backend: its state, the number of frame objects created, those not
destroyed, and the buffer passed to `copy` last. -/
structure ScreencopyBackend where
  state : ScreencopyState
  created : Nat
  live : List Nat
  copied : Option ShmSlot

namespace ScreencopyState

/-- The state after `new`, with the globals it found. -/
def initial (shm screencopyManager output : Bool) : ScreencopyState where
  shm := shm
  shmPool := none
  screencopyManager := screencopyManager
  output := output
  frameReady := false
  frameFailed := false
  bufferDone := false
  damageRects := []
  frameFormat := none
  frameWidth := 0
  frameHeight := 0
  frameStride := 0
  frameFormatRaw := 0
  wlShmFormat := none
  timestampNs := 0
  bufferAttached := false
  stopped := false

def onFrame (profile : Profile) (state : ScreencopyState) :
    ScreencopyEvent → Exec ScreencopyState
  | .buffer (.value code) width height stride =>
      .ok { state with
        frameWidth := width
        frameHeight := height
        frameStride := stride
        frameFormatRaw := code
        frameFormat := PixelFormat.fromWlShm code
        wlShmFormat := some code }
  | .buffer (.unknown _) _ _ _ => .ok { state with frameFailed := true }
  | .bufferDone => .ok { state with bufferDone := true }
  | .damage x y width height =>
      .ok { state with
        damageRects := state.damageRects ++ [⟨x, y, width, height⟩] }
  | .ready tvSecHi tvSecLo tvNsec => do
      let timestampNs ← timestampOf profile tvSecHi tvSecLo tvNsec
      .ok { state with timestampNs := timestampNs, frameReady := true }
  | .failed => .ok { state with frameFailed := true }
  | .other => .ok state

/-- Reset the per-frame state. -/
def beginFrame (state : ScreencopyState) : ScreencopyState :=
  { state with
    frameReady := false
    frameFailed := false
    bufferDone := false
    damageRects := []
    bufferAttached := false }

/-- Phase 1 goes on. -/
def waitingForBuffer (state : ScreencopyState) : Bool :=
  !state.bufferDone && !state.frameFailed && !state.stopped

/-- Phase 2 goes on. -/
def waitingForFrame (state : ScreencopyState) : Bool :=
  !state.frameReady && !state.frameFailed && !state.stopped

/-- The pool does not have the announced attributes. -/
def needsNewPool (state : ScreencopyState)
    (prevPoolFormat : Option UInt32) (wlFormat : UInt32) : Bool :=
  match state.shmPool with
  | some pool =>
      pool.width != state.frameWidth || pool.height != state.frameHeight ||
        pool.stride != state.frameStride || prevPoolFormat != some wlFormat
  | none => true

/-- Create or recreate the pool between the phases. -/
def preparePool (state : ScreencopyState)
    (provided : Fin 2 → Except String Unit)
    (prevPoolFormat : Option UInt32) (wlFormat : UInt32) :
    Except CaptureError Unit × ScreencopyState :=
  if state.needsNewPool prevPoolFormat wlFormat then
    if state.shm = false then
      (.error (.captureFailed "wl_shm not available"), state)
    else
      match ShmBufferPool.new provided state.frameWidth state.frameHeight
          state.frameStride wlFormat with
      | .error reason => (.error reason, { state with shmPool := none })
      | .ok pool => (.ok (), { state with shmPool := some pool })
  else
    (.ok (), state)

/-- Copy the frame out of the pool. -/
def copyFrame (state : ScreencopyState) (memory : Nat → UInt8) :
    Except CaptureError CapturedFrame × ScreencopyState :=
  let state :=
    if state.damageRects.isEmpty then
      { state with
        damageRects := [⟨0, 0, state.frameWidth, state.frameHeight⟩] }
    else
      state
  match state.frameFormat with
  | none => (.error (.unsupportedFormat state.frameFormatRaw), state)
  | some format =>
      match state.shmPool with
      | none =>
          (.error (.captureFailed
            "SHM pool not initialized (no Buffer event received)"), state)
      | some pool =>
          let frame : CapturedFrame :=
            { data := pool.activeData memory
              damage := state.damageRects
              format := format
              width := state.frameWidth
              height := state.frameHeight
              stride := state.frameStride
              timestampNs := state.timestampNs }
          (.ok frame,
            { state with shmPool := some pool.swap, damageRects := [] })

/-- What `next_frame` does after phase 2. -/
def finishFrame (state : ScreencopyState) (memory : Nat → UInt8) :
    Except CaptureError CapturedFrame × ScreencopyState :=
  if state.stopped then
    (.error .sessionEnded, state)
  else if state.frameFailed then
    (.error (.captureFailed "compositor reported capture failure"), state)
  else
    state.copyFrame memory

end ScreencopyState

namespace ScreencopyBackend

abbrev Script := List (DispatchOutcome FrameObjectEvent)

/-- What a call gives back: its result, the backend, and what is left of the
script. -/
abbrev Outcome :=
  Except CaptureError CapturedFrame × ScreencopyBackend × Script

def dispatch (profile : Profile) (backend : ScreencopyBackend)
    (sent : FrameObjectEvent) : Exec ScreencopyBackend :=
  if sent.object ∈ backend.live then do
    let state ← backend.state.onFrame profile sent.event
    .ok { backend with state := state }
  else
    .ok backend

/-- `manager.capture_output(..)`. -/
def captureOutput (backend : ScreencopyBackend) : ScreencopyBackend :=
  { backend with
    created := backend.created + 1
    live := backend.created :: backend.live }

/-- `frame.destroy()`. -/
def destroy (backend : ScreencopyBackend) (object : Nat) :
    ScreencopyBackend :=
  { backend with live := backend.live.filter (· ≠ object) }

/-- `frame.copy(buffer)`. -/
def copy (backend : ScreencopyBackend) (buffer : ShmSlot) :
    ScreencopyBackend :=
  { backend with
    state := { backend.state with bufferAttached := true }
    copied := some buffer }

/-- Phase 2 and what follows it. -/
def awaitFrame (profile : Profile) (backend : ScreencopyBackend)
    (object : Nat) (script : Script) (memory : Nat → UInt8) :
    Exec Outcome := do
  let (waited, backend, rest) ← awaitEvents (dispatch profile)
    (·.state.waitingForFrame) false script backend
  match waited with
  | .failed reason => return (.error reason, backend, rest)
  | .timedOut =>
      return (.error (.captureFailed
          "phase2 timeout: frame not Ready within 1s"),
        backend.destroy object, rest)
  | .satisfied =>
      let backend := backend.destroy object
      let (returned, state) := backend.state.finishFrame memory
      return (returned, { backend with state := state }, rest)

/-- The round trip and the request to copy into the pool. -/
def requestCopy (profile : Profile) (backend : ScreencopyBackend)
    (object : Nat) (script : Script) (memory : Nat → UInt8) :
    Exec Outcome := do
  let (waited, backend, rest) ← roundtrip (dispatch profile) script backend
  match waited with
  | .failed reason => return (.error reason, backend, rest)
  | _ =>
      match backend.state.shmPool with
      | none =>
          return (.error (.captureFailed "SHM pool not initialized"),
            backend, rest)
      | some pool =>
          (backend.copy pool.activeBuffer).awaitFrame profile object rest
            memory

/-- What `next_frame` does between the phases. -/
def betweenPhases (profile : Profile) (backend : ScreencopyBackend)
    (object : Nat) (prevPoolFormat : Option UInt32)
    (provided : Fin 2 → Except String Unit) (script : Script)
    (memory : Nat → UInt8) : Exec Outcome :=
  if backend.state.frameFailed then
    .ok (.error (.captureFailed "compositor reported capture failure"),
      backend.destroy object, script)
  else
    match backend.state.wlShmFormat with
    | none =>
        .ok (.error (.captureFailed "no buffer format received"), backend,
          script)
    | some wlFormat =>
        let (prepared, state) :=
          backend.state.preparePool provided prevPoolFormat wlFormat
        match prepared with
        -- The frame object is left behind.
        | .error reason =>
            .ok (.error reason, { backend with state := state }, script)
        | .ok () =>
            ({ backend with state := state } : ScreencopyBackend).requestCopy
              profile object script memory

/-- Capture the next frame.  `provided` is the answer of the operating system
should a pool be created, and `memory` what the compositor has written to the
active buffer. -/
def nextFrame (profile : Profile) (backend : ScreencopyBackend)
    (provided : Fin 2 → Except String Unit) (script : Script)
    (memory : Nat → UInt8) : Exec Outcome :=
  if backend.state.stopped then
    .ok (.error .sessionEnded, backend, script)
  else
    let prevPoolFormat := backend.state.shmPool.map ShmBufferPool.format
    let reset : ScreencopyBackend :=
      { backend with state := backend.state.beginFrame }
    if backend.state.screencopyManager = false then
      .ok (.error .noBackend, reset, script)
    else if backend.state.output = false then
      .ok (.error .noOutputs, reset, script)
    else do
      let object := backend.created
      let (waited, backend, rest) ← awaitEvents (dispatch profile)
        (·.state.waitingForBuffer) false script reset.captureOutput
      match waited with
      | .failed reason => return (.error reason, backend, rest)
      | .timedOut =>
          return (.error (.captureFailed
              "phase1 timeout: BufferDone not received within 1s"),
            backend.destroy object, rest)
      | .satisfied =>
          backend.betweenPhases profile object prevPoolFormat provided rest
            memory

def stop (backend : ScreencopyBackend) : ScreencopyBackend :=
  { backend with state := { backend.state with stopped := true } }

end ScreencopyBackend

end RemoteWay.Capture
