import RemoteWay.Client.Pipeline

/-!
# Malformed frame messages

Two questions about a frame message the client should not accept: when does
handling it stop the program, and when does handling it leave the decoding
state as it was.  Nothing between the parser and the decoder checks the
announced dimensions or rectangles, and the delta base is resized before the
blobs are decompressed.
-/

namespace RemoteWay.Client

open RemoteWay.Base RemoteWay.Proto RemoteWay.Compress
open RemoteWay.Interpolate RemoteWay.Transport

variable {backend : Type}

/-! ## The frame size -/

/-- The announced size, computed in `u32`, is not too large. -/
def FrameSizeFits (payload : List UInt8) : Prop :=
  (payloadMeta payload).stride.toNat * (payloadMeta payload).height.toNat <
    UInt32.size

instance (payload : List UInt8) : Decidable (FrameSizeFits payload) :=
  inferInstanceAs (Decidable (_ < _))

theorem u32Mul_of_frameSizeFits (profile : Profile) {payload : List UInt8}
    (fits : FrameSizeFits payload) :
    u32Mul profile (payloadMeta payload).stride
        (payloadMeta payload).height =
      .ok ((payloadMeta payload).stride * (payloadMeta payload).height) :=
  u32Mul_of_lt profile fits

theorem toNat_frameSize {payload : List UInt8}
    (fits : FrameSizeFits payload) :
    ((payloadMeta payload).stride * (payloadMeta payload).height).toNat =
      (payloadMeta payload).stride.toNat *
        (payloadMeta payload).height.toNat := by
  rw [UInt32.toNat_mul]
  exact Nat.mod_eq_of_lt fits

theorem u32Mul_dev_of_not_frameSizeFits {payload : List UInt8}
    (large : ¬ FrameSizeFits payload) :
    u32Mul .dev (payloadMeta payload).stride (payloadMeta payload).height =
      .error .overflow := by
  rw [FrameSizeFits] at large
  rw [u32Mul, u32Result, if_neg large]

/-- The length of the delta base that a payload is decoded against. -/
def baseLength (state : ClientState backend) (isAnchor : Bool)
    (payload : List UInt8) : Nat :=
  if isAnchor || !state.hasPrevious then
    (payloadMeta payload).stride.toNat * (payloadMeta payload).height.toNat
  else
    state.previousFrame.length

theorem length_prepareBase (state : ClientState backend) (isAnchor : Bool)
    {payload : List UInt8} (fits : FrameSizeFits payload) :
    (state.prepareBase isAnchor ((payloadMeta payload).stride *
        (payloadMeta payload).height).toNat).previousFrame.length =
      baseLength state isAnchor payload := by
  rw [toNat_frameSize fits, ClientState.prepareBase, baseLength]
  by_cases reset : (isAnchor || !state.hasPrevious) = true
  · simp [reset]
  · simp [reset]

/-! ## When a frame message is handled -/

/-- The decoder of a `dev` build, which reports overflows, ends without a
panic exactly for payloads it rejects and for payloads whose frame size fits
and whose regions, if they decompress, lie inside the delta base and are
filled by what was decompressed. -/
theorem decodeFrame_dev_isOk_iff (kind : Codec)
    (state : ClientState backend) (isAnchor : Bool)
    (payload : List UInt8) :
    (∃ after outcome, decodeFrame .dev kind state isAnchor payload =
        .ok (after, outcome)) ↔
      ¬ WellSized payload ∨
        (FrameSizeFits payload ∧
          ∀ decoded,
            (payloadBlobs payload).mapM kind.decompress = .ok decoded →
              RegionsReadable (payloadMeta payload).stride.toNat
                (baseLength state isAnchor payload)
                (payloadRegions payload) ∧
              DeltaReaches decoded.flatten
                (regionOffsets (payloadMeta payload).stride.toNat
                  (payloadRegions payload)).length) := by
  by_cases sized : WellSized payload
  · by_cases fits : FrameSizeFits payload
    · rw [decodeFrame_of_wellSized .dev kind state isAnchor sized
        (u32Mul_of_frameSizeFits .dev fits)]
      have width := length_prepareBase state isAnchor fits
      generalize state.prepareBase isAnchor ((payloadMeta payload).stride *
        (payloadMeta payload).height).toNat = prepared at width ⊢
      dsimp only
      cases decompressed :
          (payloadBlobs payload).mapM kind.decompress with
      | error reason =>
          constructor
          · intro _
            refine Or.inr ⟨fits, ?_⟩
            intro decoded accepted
            cases accepted
          · intro _
            exact ⟨_, _, rfl⟩
      | ok decoded =>
          have decodes :
              (∃ result, deltaDecode .dev decoded.flatten
                prepared.previousFrame (payloadMeta payload).stride.toNat
                (payloadRegions payload)
                (resize [] prepared.previousFrame.length 0) =
                  .ok result) ↔
              RegionsReadable (payloadMeta payload).stride.toNat
                  prepared.previousFrame.length (payloadRegions payload) ∧
                DeltaReaches decoded.flatten
                  (regionOffsets (payloadMeta payload).stride.toNat
                    (payloadRegions payload)).length :=
            deltaDecode_dev_isOk_iff (length_resize _ _ _)
          rw [width] at decodes
          constructor
          · rintro ⟨after, outcome, handled⟩
            refine Or.inr ⟨fits, ?_⟩
            intro other accepted
            injection accepted with same
            subst same
            apply decodes.mp
            dsimp only at handled
            rw [width] at handled
            cases done : deltaDecode .dev decoded.flatten
                prepared.previousFrame (payloadMeta payload).stride.toNat
                (payloadRegions payload)
                (resize [] (baseLength state isAnchor payload) 0) with
            | error panic =>
                rw [done] at handled
                cases handled
            | ok output => exact ⟨output, rfl⟩
          · intro either
            rcases either with unsized | ⟨_, readable⟩
            · exact absurd sized unsized
            · obtain ⟨output, done⟩ := decodes.mpr (readable decoded rfl)
              dsimp only
              rw [width, done]
              exact ⟨_, _, rfl⟩
    · rw [decodeFrame_of_overflow .dev kind state isAnchor sized
        (u32Mul_dev_of_not_frameSizeFits fits)]
      constructor
      · rintro ⟨after, outcome, handled⟩
        cases handled
      · intro either
        rcases either with unsized | ⟨fitted, _⟩
        · exact absurd sized unsized
        · exact absurd fitted fits
  · obtain ⟨reason, failed⟩ :=
      decodeFrame_of_not_wellSized .dev kind state isAnchor sized
    exact ⟨fun _ => Or.inl sized, fun _ => ⟨_, _, failed⟩⟩

/-- A 1×1 frame whose only blob is empty, as the server sends a region that
it failed to compress. -/
def emptyBlobPayload : List UInt8 :=
  (FrameMeta.mk 1 1 4 1).asBytes ++ (WireRegion.mk 0 0 1 1 0).asBytes

/-- A frame of 2 ^ 32 bytes without regions. -/
def hugePayload : List UInt8 :=
  (FrameMeta.mk 16384 65536 65536 0).asBytes

/-- Both payloads are complete, and stop the decoder. -/
theorem decodeFrame_panics :
    (∀ profile, decodeFrame profile Codec.plain
      (ClientState.initial none : ClientState Unit) true emptyBlobPayload =
        .error .bounds) ∧
    decodeFrame .dev Codec.plain
      (ClientState.initial none : ClientState Unit) true hugePayload =
        .error .overflow := by
  constructor
  · intro profile
    cases profile <;> decide +kernel
  · decide +kernel

/-! ## When a failed message leaves no trace -/

/-- The payload does not parse, or one of its regions does not
decompress. -/
def FailsToDecode (kind : Codec) (payload : List UInt8) : Prop :=
  ¬ WellSized payload ∨
    ∃ reason, (payloadBlobs payload).mapM kind.decompress = .error reason

/-- What the decoding of the next message depends on. -/
def decodingState (state : ClientState backend) :
    List UInt8 × Bool ×
      Option (Option GpuFrame × Option GpuFrame × Bool) :=
  (state.previousFrame, state.hasPrevious,
    state.interpolation.map fun manager =>
      (manager.anchor, manager.target, manager.forceReset))

/-- The message type of an anchor, or of an update. -/
def frameMsgType (isAnchor : Bool) : MsgType :=
  if isAnchor then .anchorFrame else .frameUpdate

theorem handleMessage_of_frame (profile : Profile)
    (config : ClientConfig backend) (state : ClientState backend)
    {isAnchor : Bool} {msg : IncomingMessage}
    (typed : msg.header.msgType = .ok (frameMsgType isAnchor)) :
    handleMessage profile config state msg =
      (handleFrame profile config state isAnchor msg).map fun result =>
        (result.1, some result.2) := by
  rw [handleMessage, typed]
  cases isAnchor with
  | true =>
      change (handleFrame profile config state true msg >>= _) = _
      cases handleFrame profile config state true msg <;> rfl
  | false =>
      change (handleFrame profile config state false msg >>= _) = _
      cases handleFrame profile config state false msg <;> rfl

/-- A message that is neither a frame nor a resize changes nothing. -/
theorem handleMessage_of_ignored (profile : Profile)
    (config : ClientConfig backend) (state : ClientState backend)
    {msg : IncomingMessage}
    (notAnchor : msg.header.msgType ≠ .ok .anchorFrame)
    (notUpdate : msg.header.msgType ≠ .ok .frameUpdate)
    (notResize : msg.header.msgType ≠ .ok .resize) :
    handleMessage profile config state msg = .ok (state, none) := by
  rw [handleMessage]
  split
  · exact absurd ‹_› notAnchor
  · exact absurd ‹_› notUpdate
  · exact absurd ‹_› notResize
  · rfl
  · rfl

/-- A message that fails changes at most the delta base and the pending
reset. -/
theorem handleFrame_of_fails {profile : Profile}
    {config : ClientConfig backend} (state : ClientState backend)
    {isAnchor : Bool} {msg : IncomingMessage}
    (sized : WellSized msg.payload) {frameSize : UInt32}
    (multiplied : u32Mul profile (payloadMeta msg.payload).stride
      (payloadMeta msg.payload).height = .ok frameSize)
    {reason : CompressorError}
    (failed : (payloadBlobs msg.payload).mapM
      config.compressorKind.decompress = .error reason) :
    handleFrame profile config state isAnchor msg =
      .ok (state.prepareBase isAnchor frameSize.toNat,
        .decompressFailed reason) := by
  rw [handleFrame, decodeFrame_of_wellSized profile config.compressorKind
    state isAnchor sized multiplied, failed]
  rfl

/-- Resizing the delta base keeps it, and setting the pending reset keeps
the manager, only if nothing was to be done. -/
theorem decodingState_prepareBase_eq_iff (state : ClientState backend)
    (isAnchor : Bool) (frameSize : Nat) :
    decodingState (state.prepareBase isAnchor frameSize) =
        decodingState state ↔
      (isAnchor = false ∧ state.hasPrevious = true) ∨
        (state.previousFrame.length = frameSize ∧
          ∀ manager, state.interpolation = some manager →
            manager.forceReset = true) := by
  cases state with
  | mk previousFrame hasPrevious interpolation =>
  rw [ClientState.prepareBase]
  by_cases reset : (isAnchor || !hasPrevious) = true
  · have unkept : ¬ (isAnchor = false ∧ hasPrevious = true) := by
      rintro ⟨update, kept⟩
      rw [update, kept] at reset
      cases reset
    have resized :
        resize previousFrame frameSize 0 = previousFrame ↔
          previousFrame.length = frameSize := by
      constructor
      · intro same
        rw [← same, length_resize]
      · intro width
        rw [← width, resize_length]
    rw [if_pos reset, or_iff_right unkept, ← resized]
    cases interpolation with
    | none => simp [decodingState]
    | some manager =>
        simp only [decodingState, Option.map_some,
          InterpolationManager.resetAnchor, Prod.mk.injEq,
          Option.some.injEq, true_and]
        constructor
        · rintro ⟨same, pending⟩
          exact ⟨same, fun other here => here ▸ pending.symm⟩
        · rintro ⟨same, pending⟩
          exact ⟨same, (pending manager rfl).symm⟩
  · have kept : isAnchor = false ∧ hasPrevious = true := by
      cases isAnchor <;> cases hasPrevious <;> simp_all
    rw [if_neg reset]
    exact ⟨fun _ => Or.inl kept, fun _ => rfl⟩

/-- A frame message that does not decode leaves the decoding state as it was
exactly when it does not parse, or when its frame size is computed without a
panic and there is no delta base to reset: it is an update of an existing
base, or the base has the announced size and a reset is already pending. -/
theorem handleMessage_keeps_state_iff (profile : Profile)
    (config : ClientConfig backend) (state : ClientState backend)
    {isAnchor : Bool} {msg : IncomingMessage}
    (typed : msg.header.msgType = .ok (frameMsgType isAnchor))
    (fails : FailsToDecode config.compressorKind msg.payload) :
    (∃ after outcome, handleMessage profile config state msg =
        .ok (after, outcome) ∧
          decodingState after = decodingState state) ↔
      ¬ WellSized msg.payload ∨
        ∃ frameSize, u32Mul profile (payloadMeta msg.payload).stride
            (payloadMeta msg.payload).height = .ok frameSize ∧
          ((isAnchor = false ∧ state.hasPrevious = true) ∨
            (state.previousFrame.length = frameSize.toNat ∧
              ∀ manager, state.interpolation = some manager →
                manager.forceReset = true)) := by
  rw [handleMessage_of_frame profile config state typed]
  by_cases sized : WellSized msg.payload
  · obtain ⟨reason, failed⟩ :
        ∃ reason, (payloadBlobs msg.payload).mapM
          config.compressorKind.decompress = .error reason := by
      rcases fails with unsized | failed
      · exact absurd sized unsized
      · exact failed
    cases multiplied : u32Mul profile (payloadMeta msg.payload).stride
        (payloadMeta msg.payload).height with
    | error panic =>
        rw [handleFrame, decodeFrame_of_overflow profile
          config.compressorKind state isAnchor sized multiplied]
        constructor
        · rintro ⟨after, outcome, handled, _⟩
          cases handled
        · intro either
          rcases either with unsized | ⟨frameSize, impossible, _⟩
          · exact absurd sized unsized
          · cases impossible
    | ok frameSize =>
        rw [handleFrame_of_fails state sized multiplied failed]
        constructor
        · rintro ⟨after, outcome, handled, same⟩
          injection handled with handled
          injection handled with afterEq _
          rw [← afterEq] at same
          exact Or.inr ⟨frameSize, rfl,
            (decodingState_prepareBase_eq_iff state isAnchor
              frameSize.toNat).mp same⟩
        · intro either
          rcases either with unsized | ⟨other, same, kept⟩
          · exact absurd sized unsized
          · injection same with same
            subst same
            exact ⟨_, _, rfl,
              (decodingState_prepareBase_eq_iff state isAnchor
                frameSize.toNat).mpr kept⟩
  · obtain ⟨reason, failed⟩ := decodeFrame_of_not_wellSized profile
      config.compressorKind state isAnchor sized
    rw [handleFrame, failed]
    exact ⟨fun _ => Or.inl sized, fun _ => ⟨_, _, rfl, rfl⟩⟩

/-- Rejects a blob without room for its four-byte size. -/
def sizePrepended : Codec where
  compress data := .ok (u32Bytes (UInt32.ofNat data.length) ++ data)
  decompress blob :=
    if blob.length < 4 then
      .error (.lz4 "decompression failed")
    else
      .ok (blob.drop 4)

def exampleConfig : ClientConfig Unit where
  compressorKind := sizePrepended
  interpolator := ⟨fun _ _ _ _ => ((), .error .noBackend)⟩

/-- A 2×1 frame whose only blob is empty. -/
def undecompressable (isAnchor : Bool) : IncomingMessage where
  header := FrameHeader.new 1 (frameMsgType isAnchor) Flags.lastChunk 36 0
  payload := (FrameMeta.mk 2 1 8 1).asBytes ++
    (WireRegion.mk 0 0 2 1 0).asBytes

def exampleState : ClientState Unit := ⟨[1, 2, 3, 4], true, none⟩

/-- As an update, the message is dropped without a trace. -/
theorem handleMessage_keeps_state_update :
    ∃ after outcome,
      handleMessage .dev exampleConfig exampleState
          (undecompressable false) = .ok (after, outcome) ∧
        decodingState after = decodingState exampleState :=
  (handleMessage_keeps_state_iff .dev exampleConfig exampleState
    (FrameHeader.msgType_new _ _ _ _ _)
    (Or.inr ⟨.lz4 "decompression failed", by decide +kernel⟩)).mpr
      (Or.inr ⟨8, by decide +kernel, Or.inl ⟨rfl, rfl⟩⟩)

/-- As an anchor, it has already resized the delta base. -/
theorem handleMessage_changes_state_anchor :
    FailsToDecode exampleConfig.compressorKind
        (undecompressable true).payload ∧
      handleMessage .dev exampleConfig exampleState
          (undecompressable true) =
        .ok (⟨[1, 2, 3, 4, 0, 0, 0, 0], true, none⟩,
          some (.decompressFailed (.lz4 "decompression failed"))) :=
  ⟨Or.inr ⟨.lz4 "decompression failed", by decide +kernel⟩,
    by decide +kernel⟩

end RemoteWay.Client
