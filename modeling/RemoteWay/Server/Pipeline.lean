import RemoteWay.Capture.Backend
import RemoteWay.Compress.Pipeline
import RemoteWay.Proto.Frame
import RemoteWay.Server.Downscale
import RemoteWay.Transport.ChunkSender

/-!
# Compress and send loop of the server

One round of `compress_send_loop` takes the latest captured frame, chooses
the regions to send, encodes them against `previous_frame` and offers the
message to the transport.  A round is split into `prepareMessage`, which
depends on nothing shared, and `LoopState.afterSend`, which depends on the
transport's answer.
-/

namespace RemoteWay.Server

open RemoteWay.Base RemoteWay.Proto RemoteWay.Compress
open RemoteWay.Capture RemoteWay.Transport

/-- Maximum chunk size for frame data on the wire (64 KiB). -/
def chunkSize : Nat := 64 * 1024

/-- An anchor frame is sent every so many frames. -/
def anchorInterval : Nat := 300

/-! ## Stripes -/

/-- One round of the loop over the stripes.  The state is the stripes and
the row of the next one. -/
def stripeStep (profile : Profile) (width base rem : UInt32)
    (state : List DamageRect × UInt32) (i : UInt32) :
    Exec (List DamageRect × UInt32) := do
  let (stripes, y) := state
  let h ← u32Add profile base (if i < rem then 1 else 0)
  return (stripes ++ [⟨0, y, width, h⟩], ← u32Add profile y h)

/-- Cut a full rect into roughly equal horizontal stripes. -/
def stripeFullFrame (profile : Profile) (width height : UInt32) (n : Nat) :
    Exec (List DamageRect) :=
  let n := max (min (UInt32.ofNat n) height) 1
  if n = 1 then
    .ok [⟨0, 0, width, height⟩]
  else do
    let base := height / n
    let rem := height % n
    let (stripes, _) ← (u32Range 0 n).foldlM
      (stripeStep profile width base rem) ([], 0)
    return stripes

/-! ## Payloads -/

def serializeRegion (compressed : CompressedFrame) (payload : List UInt8)
    (entry : DamageRect × Nat) : Exec (List UInt8) := do
  let (rect, i) := entry
  let size ← readAt compressed.regionSizes i
  let wr : WireRegion :=
    ⟨rect.x, rect.y, rect.width, rect.height, UInt32.ofNat size⟩
  return payload ++ wr.asBytes

/-- Serialize a compressed frame into wire payload bytes. -/
def serializeFramePayload (width height stride : UInt32)
    (regions : List DamageRect) (compressed : CompressedFrame) :
    Exec (List UInt8) := do
  let frameMeta : FrameMeta :=
    ⟨width, height, stride, UInt32.ofNat regions.length⟩
  let payload ← regions.zipIdx.foldlM (serializeRegion compressed)
    frameMeta.asBytes
  return payload ++ compressed.data

/-! ## One round -/

/-- Downscaling with the rounded `f64` product of a dimension and the scale
as a function of the dimension. -/
structure Downscale where
  filter : DownscaleFilter
  target : UInt32 → UInt32

/-- The arguments of the loop.  Without `downscale` the scale is 1. -/
structure ServerConfig where
  compressorKind : Codec
  downscale : Option Downscale
  threads : Nat

structure LoopState where
  previousFrame : List UInt8
  isFirst : Bool
  frameCount : Nat
  needFullDamage : Bool
  deriving DecidableEq, Repr

/-- The picture that is encoded: `frame_data` with its dimensions. -/
structure FrameView where
  data : List UInt8
  width : UInt32
  height : UInt32
  stride : UInt32
  deriving DecidableEq, Repr

/-- What a round offers to the transport, with the delta base it was encoded
against. -/
structure FrameMessage where
  msgType : MsgType
  view : FrameView
  timestampNs : UInt64
  base : List UInt8
  regions : List DamageRect
  compressed : CompressedFrame
  payload : List UInt8
  wire : List UInt8
  deriving DecidableEq, Repr

/-- Apply server-side downscaling. -/
def viewOf (profile : Profile) (config : ServerConfig)
    (frame : CapturedFrame) : Exec FrameView :=
  match config.downscale with
  | none => .ok ⟨frame.data, frame.width, frame.height, frame.stride⟩
  | some down => do
      let tw := down.target frame.width
      let th := down.target frame.height
      let (_, scaledBuf) ← downscale profile down.filter frame.data
        frame.width frame.height frame.stride tw th
      return ⟨scaledBuf, tw, th, ← u32Mul profile tw 4⟩

namespace LoopState

def initial : LoopState := ⟨[], true, 0, false⟩

def forceAnchor (state : LoopState) : Bool :=
  state.isFirst ||
    (0 < state.frameCount && state.frameCount % anchorInterval == 0)

/-- Frames that were skipped or dropped before this round make the damage of
the latest one unreliable. -/
def noteSkipped (state : LoopState) (skipped dropped : Bool) : LoopState :=
  { state with
    needFullDamage := state.needFullDamage || skipped || dropped }

/-- The delta base of the next message. -/
def encodeBase (state : LoopState) (length : Nat) : List UInt8 :=
  if state.forceAnchor then
    resize state.previousFrame length 0
  else
    state.previousFrame

/-- Only a message that the transport accepts advances the delta base. -/
def afterSend (state : LoopState) (message : FrameMessage) (sent : Bool) :
    LoopState where
  previousFrame := if sent then message.view.data else message.base
  isFirst := false
  frameCount := state.frameCount + 1
  needFullDamage := !sent

end LoopState

/-- The regions to send: stripes of the full frame, or the damage. -/
def chooseRegions (profile : Profile) (config : ServerConfig)
    (state : LoopState) (frame : CapturedFrame) (view : FrameView) :
    Exec (List DamageRect) :=
  let useFullDamage :=
    state.forceAnchor || frame.damage.isEmpty || state.needFullDamage
  if useFullDamage || config.downscale.isSome then
    stripeFullFrame profile view.width view.height (max config.threads 1)
  else
    .ok frame.damage

/-- Encode the latest frame into the message of this round. -/
def prepareMessage (profile : Profile) (config : ServerConfig)
    (state : LoopState) (frame : CapturedFrame) : Exec FrameMessage := do
  let view ← viewOf profile config frame
  let regions ← chooseRegions profile config state frame view
  let msgType :=
    if state.forceAnchor then MsgType.anchorFrame else MsgType.frameUpdate
  let base := state.encodeBase view.data.length
  let compressed ← compressFrameInto profile view.data base
    view.stride.toNat regions config.compressorKind
  let payload ← serializeFramePayload view.width view.height view.stride
    regions compressed
  let wire ← splitIntoChunks profile 1 msgType Flags.compressed payload
    frame.timestampNs chunkSize []
  return {
    msgType := msgType
    view := view
    timestampNs := frame.timestampNs
    base := base
    regions := regions
    compressed := compressed
    payload := payload
    wire := wire }

/-! ## The loop -/

/-- What the rest of the program contributes to a round: the frames that the
ring held, the dropped flag, and the transport's answer. -/
structure RoundInput where
  first : CapturedFrame
  newer : List CapturedFrame
  dropped : Bool
  sent : Bool
  deriving DecidableEq, Repr

/-- The frame that the ring is drained to. -/
def RoundInput.latest (input : RoundInput) : CapturedFrame :=
  input.newer.getLastD input.first

/-- What a round did.  `before` is the state the message was prepared in. -/
structure ServerStep where
  input : RoundInput
  before : LoopState
  message : FrameMessage
  after : LoopState
  deriving DecidableEq, Repr

def round (profile : Profile) (config : ServerConfig) (state : LoopState)
    (input : RoundInput) : Exec ServerStep := do
  let before := state.noteSkipped (!input.newer.isEmpty) input.dropped
  let message ← prepareMessage profile config before input.latest
  return {
    input := input
    before := before
    message := message
    after := before.afterSend message input.sent }

/-- The rounds of a run that find a frame in the ring. -/
def compressSendLoop (profile : Profile) (config : ServerConfig) :
    LoopState → List RoundInput → Exec (List ServerStep)
  | _, [] => .ok []
  | state, input :: inputs => do
      let step ← round profile config state input
      let later ← compressSendLoop profile config step.after inputs
      return step :: later

end RemoteWay.Server
