import RemoteWay.Client.FrameErrors
import RemoteWay.Server.Round
import RemoteWay.System.Payload

/-!
# One message, from the server to the client

A message that the server encoded from buffers of the announced size, and
whose numbers fit their wire fields, decodes on every client whose delta base
has that size.  What the client obtains at a visited offset is the server's
byte as soon as the two delta bases agree there.
-/

namespace RemoteWay.System

open RemoteWay.Base RemoteWay.Proto RemoteWay.Compress
open RemoteWay.Capture RemoteWay.Server RemoteWay.Client
open RemoteWay.Transport

/-! ## Messages -/

/-- The numbers of a message fit the 32-bit fields and products of the
client. -/
structure FitsWire (message : FrameMessage) : Prop where
  rows : message.geometry.RowsFit
  frame : message.geometry.size < UInt32.size
  regions : message.regions.length < UInt32.size
  blobs : ∀ size, size ∈ message.compressed.regionSizes →
    size < UInt32.size

instance (message : FrameMessage) : Decidable (FitsWire message) :=
  decidable_of_iff
    (message.geometry.RowsFit ∧ message.geometry.size < UInt32.size ∧
      message.regions.length < UInt32.size ∧
      ∀ size, size ∈ message.compressed.regionSizes → size < UInt32.size)
    ⟨fun ⟨rows, frame, regions, blobs⟩ => ⟨rows, frame, regions, blobs⟩,
      fun fits => ⟨fits.rows, fits.frame, fits.regions, fits.blobs⟩⟩

/-- The blobs of a message. -/
def messageBlobs (kind : Codec) (message : FrameMessage) :
    List (List UInt8) :=
  regionBlobs kind message.view.data message.base
    message.view.stride.toNat message.regions

/-- The message carries the delta of a picture against a base of the same
size. -/
structure Encoded (kind : Codec) (message : FrameMessage) : Prop where
  data_length : message.view.data.length = message.geometry.size
  base_length : message.base.length = message.geometry.size
  within : RegionsWithin message.geometry message.regions
  sizes : message.compressed.regionSizes =
    (messageBlobs kind message).map List.length
  payload : message.payload =
    sentPayload message.view.width message.view.height message.view.stride
      message.regions (messageBlobs kind message)

theorem length_regionOffsets_lt {message : FrameMessage}
    (within : RegionsWithin message.geometry message.regions)
    (fits : FitsWire message) :
    (regionOffsets message.view.stride.toNat message.regions).length <
      usizeRange :=
  within.length_regionOffsets_lt fits.rows fits.frame fits.regions

/-- What the server prepares from two buffers of the announced size. -/
theorem encoded_of_prepared {profile : Profile} {config : ServerConfig}
    {state : LoopState} {frame : CapturedFrame} {message : FrameMessage}
    (prepared : Prepared profile config state frame message)
    (fits : FitsWire message)
    (dataLength : message.view.data.length = message.geometry.size)
    (baseLength : message.base.length = message.geometry.size)
    (within : RegionsWithin message.geometry message.regions) :
    Encoded config.compressorKind message := by
  have small : message.view.data.length < usizeRange := by
    have frameFits := fits.frame
    have range : UInt32.size = 4294967296 := rfl
    rw [usizeRange]
    omega
  have inside : RegionsInside message.view.stride.toNat
      message.view.data.length message.regions := by
    rw [dataLength]
    exact within.inside
  have compressed := compressFrameInto_of_inside profile
    config.compressorKind (dataLength.trans baseLength.symm) small inside
    (length_regionOffsets_lt within fits)
  have compressedEq := prepared.compressed
  rw [compressed] at compressedEq
  injection compressedEq with compressedEq
  have serialized := serializeFramePayload_ofBlobs message.view.width
    message.view.height message.view.stride
    (show (regionBlobs config.compressorKind message.view.data message.base
      message.view.stride.toNat message.regions).length =
        message.regions.length from List.length_map _)
    (regionOffsets message.view.stride.toNat message.regions).length
  have payloadEq := prepared.payload
  rw [← compressedEq, serialized] at payloadEq
  injection payloadEq with payloadEq
  exact
    { data_length := dataLength
      base_length := baseLength
      within := within
      sizes := by
        rw [← compressedEq]
        rfl
      payload := payloadEq.symm }

/-- A round whose compression succeeds prepares a message, as long as the
payload can be allocated. -/
theorem prepareMessage_of_compressed {profile : Profile}
    {config : ServerConfig} {state : LoopState} {frame : CapturedFrame}
    {view : FrameView} {regions : List DamageRect} {originalBytes : Nat}
    {blobs : List (List UInt8)}
    (viewed : viewOf profile config frame = .ok view)
    (chosen : chooseRegions profile config state frame view = .ok regions)
    (compressed : compressFrameInto profile view.data
      (state.encodeBase view.data.length) view.stride.toNat regions
      config.compressorKind =
        .ok (CompressedFrame.ofBlobs originalBytes blobs))
    (sameLength : blobs.length = regions.length)
    (addressable : (sentPayload view.width view.height view.stride regions
      blobs).length < 2 ^ 63) :
    ∃ wire, prepareMessage profile config state frame =
      .ok
        { msgType := frameMsgType state.forceAnchor
          view := view
          timestampNs := frame.timestampNs
          base := state.encodeBase view.data.length
          regions := regions
          compressed := CompressedFrame.ofBlobs originalBytes blobs
          payload := sentPayload view.width view.height view.stride regions
            blobs
          wire := wire } := by
  let outgoing : OutgoingMessage :=
    { streamId := 1
      msgType := frameMsgType state.forceAnchor
      extraFlags := Flags.compressed
      payload := sentPayload view.width view.height view.stride regions
        blobs
      timestampNs := frame.timestampNs
      chunkSize := chunkSize
      unmarked := by decide
      chunkSize_pos := by decide
      chunkSize_le := by decide
      addressable := addressable }
  refine ⟨[] ++ outgoing.chunkFrames.flatMap Frame.encode, ?_⟩
  have split : splitIntoChunks profile 1 (frameMsgType state.forceAnchor)
      Flags.compressed (sentPayload view.width view.height view.stride
        regions blobs) frame.timestampNs chunkSize [] =
      .ok ([] ++ outgoing.chunkFrames.flatMap Frame.encode) :=
    outgoing.split_eq profile []
  have serialized := serializeFramePayload_ofBlobs view.width view.height
    view.stride sameLength originalBytes
  rw [frameMsgType] at split ⊢
  rw [prepareMessage, viewed]
  simp only [bind, Except.bind]
  rw [chosen]
  dsimp only
  rw [compressed]
  dsimp only
  rw [serialized]
  dsimp only
  rw [split]
  rfl

/-! ## Decoding a message -/

variable {backend : Type}

/-- The output of a client with the given delta base. -/
def decodedOutput (message : FrameMessage) (base : List UInt8) :
    List UInt8 :=
  decodeAt 0 xorByte base
    (regionOffsets message.view.stride.toNat message.regions)
    (deltaBytes message.view.data message.base message.view.stride.toNat
      message.regions)

def decodedMessage (message : FrameMessage) (base : List UInt8) :
    DecodedFrame where
  width := message.view.width
  height := message.view.height
  stride := message.view.stride
  regions := message.regions
  output := decodedOutput message base

section Decoding

variable {kind : Codec} {message : FrameMessage}

theorem wireSized_messageBlobs (encoded : Encoded kind message)
    (fits : FitsWire message) :
    WireSized message.regions (messageBlobs kind message) where
  sameLength := List.length_map _
  few := fits.regions
  short := by
    intro blob member
    apply fits.blobs
    rw [encoded.sizes]
    exact List.mem_map_of_mem member

/-- A client whose delta base has the announced size decodes the message. -/
theorem decodeFrame_of_encoded (profile : Profile)
    (lossless : kind.Lossless) (encoded : Encoded kind message)
    (fits : FitsWire message) (state : ClientState backend)
    (isAnchor : Bool)
    (sized : (state.prepareBase isAnchor
      message.geometry.size).previousFrame.length = message.geometry.size) :
    decodeFrame profile kind state isAnchor message.payload =
      .ok (state.prepareBase isAnchor message.geometry.size,
        .decoded (decodedMessage message (state.prepareBase isAnchor
          message.geometry.size).previousFrame)) := by
  have wire := wireSized_messageBlobs encoded fits
  have metaEq : payloadMeta message.payload =
      ⟨message.view.width, message.view.height, message.view.stride,
        UInt32.ofNat message.regions.length⟩ := by
    rw [encoded.payload]
    exact payloadMeta_sentPayload
  have regionsEq : payloadRegions message.payload = message.regions := by
    rw [encoded.payload]
    exact payloadRegions_sentPayload wire
  have blobsEq :
      payloadBlobs message.payload = messageBlobs kind message := by
    rw [encoded.payload]
    exact payloadBlobs_sentPayload wire
  have wellSized : WellSized message.payload := by
    rw [encoded.payload]
    exact wellSized_sentPayload wire
  have frameFits : FrameSizeFits message.payload := by
    rw [FrameSizeFits, metaEq]
    exact fits.frame
  have frameSize := toNat_frameSize frameFits
  rw [metaEq] at frameSize
  have decompressed := mapM_decompress_regionBlobs lossless
    message.view.data message.base message.view.stride.toNat
    message.regions
  have decodes := decodeFrame_of_wellSized profile kind state isAnchor
    wellSized (u32Mul_of_frameSizeFits profile frameFits)
  rw [metaEq, blobsEq, regionsEq, messageBlobs, decompressed, frameSize]
    at decodes
  have joined := flatMap_rectDelta message.view.data message.base
    message.view.stride.toNat message.regions
  rw [List.flatMap_def] at joined
  have addressable := length_regionOffsets_lt encoded.within fits
  have readable : RegionsReadable message.view.stride.toNat
      (state.prepareBase isAnchor
        message.geometry.size).previousFrame.length message.regions := by
    rw [sized]
    have small : message.geometry.size < usizeRange :=
      Nat.lt_trans fits.frame (by decide)
    exact encoded.within.inside.readable small
  have reaches : DeltaReaches
      (deltaBytes message.view.data message.base
        message.view.stride.toNat message.regions)
      (regionOffsets message.view.stride.toNat message.regions).length :=
    ⟨Nat.le_of_eq (length_deltaBytes _ _ _ _).symm, addressable⟩
  have applied := deltaDecode_of_readable profile
    (length_resize [] _ 0) readable reaches
  have sizeEq : message.view.stride.toNat * message.view.height.toNat =
      message.geometry.size := rfl
  dsimp only at decodes
  rw [joined, sizeEq, applied] at decodes
  rw [decodes, Except.map, decodedFrame, metaEq, regionsEq]
  rfl

end Decoding

/-! ## What a client obtains -/

section Output

variable {message : FrameMessage} {base : List UInt8}

@[simp]
theorem length_decodedOutput :
    (decodedOutput message base).length = base.length :=
  length_decodeAt 0 xorByte base _ _

/-- At a visited offset the client obtains the server's byte exactly when
the delta bases agree there. -/
theorem getD_decodedOutput_eq_iff {offset : Nat}
    (inside : offset < base.length)
    (covered : offset ∈
      regionOffsets message.view.stride.toNat message.regions) :
    (decodedOutput message base).getD offset 0 =
        message.view.data.getD offset 0 ↔
      base.getD offset 0 = message.base.getD offset 0 :=
  getD_decodeAt_eq_current_iff 0 xorByte xorByte xorByte_undo
    xorByte_determined inside covered

theorem getD_decodedOutput_of_not_mem {offset : Nat}
    (inside : offset < base.length)
    (uncovered : offset ∉
      regionOffsets message.view.stride.toNat message.regions) :
    (decodedOutput message base).getD offset 0 = base.getD offset 0 :=
  getD_decodeAt_of_not_mem 0 xorByte xorByte inside uncovered

/-- Agreeing delta bases, and regions that cover what changed, make the
client show the server's picture. -/
theorem samePicture_decodedOutput (rows : message.geometry.RowsFit)
    (sized : base.length = message.geometry.size)
    (agree : message.geometry.SamePicture base message.base)
    (covers : Covers message.geometry message.regions message.view.data
      message.base) :
    message.geometry.SamePicture (decodedOutput message base)
      message.view.data := by
  intro offset visible
  have inside : offset < base.length := by
    rw [sized]
    exact visible.lt_size rows
  by_cases covered : offset ∈
      regionOffsets message.view.stride.toNat message.regions
  · exact (getD_decodedOutput_eq_iff inside covered).mpr
      (agree offset visible)
  · rw [getD_decodedOutput_of_not_mem inside covered,
      agree offset visible]
    exact (covers.getD_eq_of_not_mem visible covered).symm

end Output

end RemoteWay.System
