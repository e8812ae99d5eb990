import Mathlib.Logic.Function.Basic
import RemoteWay.Base.Scanner
import RemoteWay.Proto.Header

/-!
# Stream parsing

`StreamParser::push` appends incoming bytes to a buffer, takes complete
frames off its front and reassembles chunked payloads per stream.  The loop
is an instance of `Scanner.feed`: frames are the tokens, `reassemble` is the
consumer.
-/

namespace RemoteWay.Transport

open RemoteWay.Base RemoteWay.Proto

/-- The errors of `push`. -/
inductive MultiplexerError where
  | unknownMsgType (reason : ProtoError)
  | payloadTooLarge (length : UInt32)
  deriving DecidableEq, Repr

/-- Maximum allowed payload per frame chunk (4 MiB). -/
def maxPayloadLen : UInt32 := 4 * 1024 * 1024

/-- A fully reassembled message received from the wire. -/
structure IncomingMessage where
  header : FrameHeader
  payload : List UInt8
  deriving DecidableEq, Repr

/-- Serialize a header and a payload into `dst`. -/
def encodeFrame (header : FrameHeader) (payload dst : List UInt8) :
    List UInt8 :=
  dst ++ header.asBytes ++ payload

/-! ## The parser -/

/-- In-progress reassembly of chunked payloads, keyed by stream id. -/
abbrev ChunkMap := UInt16 → Option (List UInt8)

structure StreamParser where
  buf : List UInt8
  chunks : ChunkMap

def StreamParser.new : StreamParser := ⟨[], fun _ => none⟩

/-- Number of streams currently being reassembled. -/
def StreamParser.inProgressStreams (parser : StreamParser) : Nat :=
  (List.range UInt16.size).countP fun id =>
    (parser.chunks (UInt16.ofNat id)).isSome

/-- Reassemble chunked payloads.  There is a message only when the last
chunk arrives. -/
def reassemble (chunks : ChunkMap) (hdr : FrameHeader)
    (payload : List UInt8) : ChunkMap × Option IncomingMessage :=
  let streamId := hdr.streamId
  let isLast := hdr.isLast
  if isLast && (chunks streamId).isNone &&
      payload.length == hdr.payloadLen.toNat then
    (chunks, some ⟨hdr, payload⟩)
  else
    let buf := (chunks streamId).getD [] ++ payload
    if isLast then
      (Function.update chunks streamId none, some ⟨hdr, buf⟩)
    else
      (Function.update chunks streamId (some buf), none)

/-- The loop of `push`.  A round that does not end the loop takes a header
off the buffer, so `buf.length + 1` rounds are enough. -/
def pushLoop : Nat → StreamParser → List IncomingMessage →
    StreamParser × Except MultiplexerError (List IncomingMessage)
  | 0, parser, out => (parser, .ok out)
  | rounds + 1, parser, out =>
      if parser.buf.length < FrameHeader.size then
        (parser, .ok out)
      else
        match FrameHeader.refFromBytes
            (parser.buf.take FrameHeader.size) with
        | none => (parser, .error (.unknownMsgType (.unknownMsgType 0)))
        | some hdr =>
            let payloadLen := hdr.payloadLen.toNat
            if payloadLen > maxPayloadLen.toNat then
              (parser, .error (.payloadTooLarge hdr.payloadLen))
            else
              let total := FrameHeader.size + payloadLen
              if parser.buf.length < total then
                (parser, .ok out)
              else
                match hdr.msgType with
                | .error reason => (parser, .error (.unknownMsgType reason))
                | .ok _ =>
                    let frameBytes := parser.buf.take total
                    let payload := frameBytes.drop FrameHeader.size
                    let (chunks, msg) :=
                      reassemble parser.chunks hdr payload
                    pushLoop rounds ⟨parser.buf.drop total, chunks⟩
                      (out ++ msg.toList)

/-- Feed raw bytes from the wire. -/
def StreamParser.push (parser : StreamParser) (data : List UInt8) :
    StreamParser × Except MultiplexerError (List IncomingMessage) :=
  let buf := parser.buf ++ data
  pushLoop (buf.length + 1) ⟨buf, parser.chunks⟩ []

/-- Successive pushes up to the first error, with the messages they
return. -/
def StreamParser.pushAll : StreamParser → List (List UInt8) →
    StreamParser × List IncomingMessage × Option MultiplexerError
  | parser, [] => (parser, [], none)
  | parser, data :: pieces =>
      match parser.push data with
      | (after, .error reason) => (after, [], some reason)
      | (after, .ok msgs) =>
          let later := StreamParser.pushAll after pieces
          (later.1, msgs ++ later.2.1, later.2.2)

/-! ## Frames as tokens -/

/-- A frame that `push` accepts: a header with a known message type and the
payload it announces. -/
@[ext]
structure Frame where
  header : FrameHeader
  payload : List UInt8
  sized : payload.length = header.payloadLen.toNat
  small : header.payloadLen.toNat ≤ maxPayloadLen.toNat
  typed : ∃ msgType, header.msgType = .ok msgType
  deriving DecidableEq

namespace Frame

def encode (frame : Frame) : List UInt8 :=
  frame.header.asBytes ++ frame.payload

@[simp]
theorem length_encode (frame : Frame) :
    frame.encode.length =
      FrameHeader.size + frame.header.payloadLen.toNat := by
  rw [encode, List.length_append, FrameHeader.length_asBytes, frame.sized]

/-- The length of the frame that a buffer starts with. -/
def totalOfFront (buf : List UInt8) : Nat :=
  FrameHeader.size + (FrameHeader.ofFront buf).payloadLen.toNat

def ofFront (buf : List UInt8)
    (small : (FrameHeader.ofFront buf).payloadLen.toNat ≤
      maxPayloadLen.toNat)
    (complete : totalOfFront buf ≤ buf.length)
    (typed : ∃ msgType, (FrameHeader.ofFront buf).msgType = .ok msgType) :
    Frame where
  header := FrameHeader.ofFront buf
  payload := (buf.take (totalOfFront buf)).drop FrameHeader.size
  sized := by
    rw [List.length_drop, List.length_take, Nat.min_eq_left complete]
    exact Nat.add_sub_cancel_left _ _
  small := small
  typed := typed

theorem payload_ofFront {buf : List UInt8}
    (small : (FrameHeader.ofFront buf).payloadLen.toNat ≤
      maxPayloadLen.toNat)
    (complete : totalOfFront buf ≤ buf.length)
    (typed : ∃ msgType, (FrameHeader.ofFront buf).msgType = .ok msgType) :
    (ofFront buf small complete typed).payload =
      (buf.take (totalOfFront buf)).drop FrameHeader.size :=
  rfl

theorem encode_ofFront {buf : List UInt8}
    (small : (FrameHeader.ofFront buf).payloadLen.toNat ≤
      maxPayloadLen.toNat)
    (complete : totalOfFront buf ≤ buf.length)
    (typed : ∃ msgType, (FrameHeader.ofFront buf).msgType = .ok msgType) :
    (ofFront buf small complete typed).encode =
      buf.take (totalOfFront buf) := by
  have headerInside : FrameHeader.size ≤ totalOfFront buf :=
    Nat.le_add_right _ _
  change (FrameHeader.ofFront buf).asBytes ++
    (buf.take (totalOfFront buf)).drop FrameHeader.size = _
  rw [FrameHeader.asBytes_ofFront (Nat.le_trans headerInside complete),
    ← Nat.min_eq_left headerInside, ← List.take_take,
    Nat.min_eq_left headerInside, List.take_append_drop]

end Frame

/-- Take a frame off the front of a buffer, with the checks of `push` in
their order. -/
def scanFrame (buf : List UInt8) : Scan Frame MultiplexerError :=
  if buf.length < FrameHeader.size then
    .more
  else if small : (FrameHeader.ofFront buf).payloadLen.toNat ≤
      maxPayloadLen.toNat then
    if complete : Frame.totalOfFront buf ≤ buf.length then
      match typed : (FrameHeader.ofFront buf).msgType with
      | .error reason => .fail (.unknownMsgType reason)
      | .ok msgType =>
          .token (Frame.ofFront buf small complete ⟨msgType, typed⟩)
    else
      .more
  else
    .fail (.payloadTooLarge (FrameHeader.ofFront buf).payloadLen)

/-- The front of a buffer is a frame that `push` rejects. -/
def MalformedFront (buf : List UInt8) (reason : MultiplexerError) : Prop :=
  ∃ header after, buf = FrameHeader.asBytes header ++ after ∧
    ((maxPayloadLen.toNat < header.payloadLen.toNat ∧
        reason = .payloadTooLarge header.payloadLen) ∨
      (header.payloadLen.toNat ≤ maxPayloadLen.toNat ∧
        header.payloadLen.toNat ≤ after.length ∧
        ∃ unknown, header.msgType = .error unknown ∧
          reason = .unknownMsgType unknown))

/-- A long enough buffer starts with the bytes of its header. -/
private theorem exists_after_header {buf : List UInt8}
    (enough : FrameHeader.size ≤ buf.length) :
    ∃ after, buf = (FrameHeader.ofFront buf).asBytes ++ after ∧
      after.length = buf.length - FrameHeader.size := by
  refine ⟨buf.drop FrameHeader.size, ?_, List.length_drop⟩
  rw [FrameHeader.asBytes_ofFront enough, List.take_append_drop]

theorem scanFrame_eq_token_iff {buf : List UInt8} {frame : Frame} :
    scanFrame buf = .token frame ↔ frame.encode <+: buf := by
  constructor
  · intro scanned
    rw [scanFrame] at scanned
    split at scanned
    · cases scanned
    · split at scanned
      · split at scanned
        · split at scanned
          · cases scanned
          · injection scanned with same
            rw [← same, Frame.encode_ofFront]
            exact List.take_prefix _ buf
        · cases scanned
      · cases scanned
  · rintro ⟨after, rfl⟩
    have header :
        FrameHeader.ofFront (frame.encode ++ after) = frame.header := by
      rw [Frame.encode, List.append_assoc]
      exact FrameHeader.ofFront_asBytes frame.header _
    have total :
        Frame.totalOfFront (frame.encode ++ after) =
          frame.encode.length := by
      rw [Frame.totalOfFront, header, frame.length_encode]
    have headerInside : FrameHeader.size ≤ frame.encode.length := by
      rw [frame.length_encode]
      exact Nat.le_add_right _ _
    obtain ⟨msgType, typed⟩ := frame.typed
    rw [scanFrame, if_neg (by rw [List.length_append]; omega),
      dif_pos (by rw [header]; exact frame.small),
      dif_pos (by rw [total, List.length_append]; omega)]
    split
    · rename_i reason untyped
      rw [header, typed] at untyped
      cases untyped
    · congr 1
      apply Frame.ext
      · exact header
      · rw [Frame.payload_ofFront, total, List.take_left, Frame.encode,
          ← frame.header.length_asBytes, List.drop_left]

theorem scanFrame_eq_fail_iff {buf : List UInt8}
    {reason : MultiplexerError} :
    scanFrame buf = .fail reason ↔ MalformedFront buf reason := by
  constructor
  · intro scanned
    rw [scanFrame] at scanned
    split at scanned
    · cases scanned
    · rename_i long
      obtain ⟨after, split, afterLength⟩ :=
        exists_after_header (Nat.le_of_not_lt long)
      refine ⟨FrameHeader.ofFront buf, after, split, ?_⟩
      split at scanned
      · split at scanned
        · split at scanned
          · rename_i small complete unknown untyped
            injection scanned with same
            rw [Frame.totalOfFront] at complete
            exact Or.inr
              ⟨small, by omega, unknown, untyped, same.symm⟩
          · cases scanned
        · cases scanned
      · rename_i large
        injection scanned with same
        exact Or.inl ⟨Nat.lt_of_not_le large, same.symm⟩
  · rintro ⟨header, after, rfl, faulty⟩
    have headerEq := FrameHeader.ofFront_asBytes header after
    have width := header.length_asBytes
    rw [scanFrame, if_neg (by rw [List.length_append]; omega)]
    rcases faulty with
      ⟨large, rfl⟩ | ⟨small, complete, unknown, untyped, rfl⟩
    · rw [dif_neg (by rw [headerEq]; omega), headerEq]
    · rw [dif_pos (by rw [headerEq]; exact small),
        dif_pos (by
          rw [Frame.totalOfFront, headerEq, List.length_append]
          omega)]
      split
      · rename_i other otherUntyped
        rw [headerEq, untyped] at otherUntyped
        injection otherUntyped with same
        rw [same]
      · rename_i msgType typed
        rw [headerEq, untyped] at typed
        cases typed

theorem MalformedFront.append {buf : List UInt8}
    {reason : MultiplexerError} (malformed : MalformedFront buf reason)
    (more : List UInt8) : MalformedFront (buf ++ more) reason := by
  obtain ⟨header, after, rfl, faulty⟩ := malformed
  refine ⟨header, after ++ more, List.append_assoc _ _ _, ?_⟩
  rcases faulty with large | ⟨small, complete, untyped⟩
  · exact Or.inl large
  · exact Or.inr ⟨small, by rw [List.length_append]; omega, untyped⟩

theorem scanFrame_encode (frame : Frame) :
    scanFrame frame.encode = .token frame :=
  scanFrame_eq_token_iff.mpr (List.prefix_refl _)

def frameScanner : Scanner UInt8 Frame MultiplexerError where
  scan := scanFrame
  encode := Frame.encode
  scan_nil := rfl
  front := scanFrame_eq_token_iff.mp
  tight := fun _ => scanFrame_eq_token_iff.mpr (List.prefix_refl _)
  token_stable := fun more scanned =>
    scanFrame_eq_token_iff.mpr <|
      (scanFrame_eq_token_iff.mp scanned).trans (List.prefix_append _ more)
  fail_stable := fun more scanned =>
    scanFrame_eq_fail_iff.mpr <|
      (scanFrame_eq_fail_iff.mp scanned).append more

theorem frameScanner_scan : frameScanner.scan = scanFrame := rfl

theorem frameScanner_encode : frameScanner.encode = Frame.encode := rfl

/-- A frame is parsed from its own encoding. -/
theorem frameScanner_scan_encode (frame : Frame) :
    frameScanner.scan (frameScanner.encode frame) = .token frame := by
  rw [frameScanner_scan, frameScanner_encode]
  exact scanFrame_encode frame

/-! ## The loop as a scanner -/

/-- Reassemble one accepted frame. -/
def reassembleFrame (chunks : ChunkMap) (frame : Frame) :
    ChunkMap × List IncomingMessage :=
  let (chunks, msg) := reassemble chunks frame.header frame.payload
  (chunks, msg.toList)

private theorem pushLoop_eq (rounds : Nat) (parser : StreamParser)
    (out : List IncomingMessage) :
    pushLoop (rounds + 1) parser out =
      match scanFrame parser.buf with
      | .more => (parser, .ok out)
      | .fail reason => (parser, .error reason)
      | .token frame =>
          let reacted := reassembleFrame parser.chunks frame
          pushLoop rounds
            ⟨parser.buf.drop frame.encode.length, reacted.1⟩
            (out ++ reacted.2) := by
  rw [pushLoop]
  by_cases short : parser.buf.length < FrameHeader.size
  · have scanned : scanFrame parser.buf = .more := by
      simp [scanFrame, short]
    rw [if_pos short, scanned]
  · obtain ⟨after, split, afterLength⟩ :=
      exists_after_header (Nat.le_of_not_lt short)
    have header :
        FrameHeader.refFromBytes (parser.buf.take FrameHeader.size) =
          some (FrameHeader.ofFront parser.buf) := by
      rw [← FrameHeader.asBytes_ofFront (Nat.le_of_not_lt short)]
      exact FrameHeader.refFromBytes_asBytes _
    rw [if_neg short, header]
    dsimp only
    rw [← Frame.totalOfFront]
    by_cases small : (FrameHeader.ofFront parser.buf).payloadLen.toNat ≤
        maxPayloadLen.toNat
    · rw [if_neg (Nat.not_lt_of_le small)]
      by_cases complete :
          Frame.totalOfFront parser.buf ≤ parser.buf.length
      · rw [if_neg (Nat.not_lt_of_le complete)]
        cases typed : (FrameHeader.ofFront parser.buf).msgType with
        | error unknown =>
            rw [Frame.totalOfFront] at complete
            have scanned := scanFrame_eq_fail_iff.mpr
              ⟨FrameHeader.ofFront parser.buf, after, split,
                Or.inr ⟨small, by omega, unknown, typed, rfl⟩⟩
            rw [scanned]
        | ok msgType =>
            have encoded :=
              Frame.encode_ofFront small complete ⟨msgType, typed⟩
            have scanned := scanFrame_eq_token_iff.mpr
              (encoded ▸ List.take_prefix _ parser.buf)
            rw [scanned]
            dsimp only
            rw [Frame.length_encode]
            rfl
      · have scanned : scanFrame parser.buf = .more := by
          rw [scanFrame, if_neg short, dif_pos small, dif_neg complete]
        rw [if_pos (Nat.lt_of_not_le complete), scanned]
    · have scanned := scanFrame_eq_fail_iff.mpr
        ⟨FrameHeader.ofFront parser.buf, after, split,
          Or.inl ⟨Nat.lt_of_not_le small, rfl⟩⟩
      rw [if_pos (Nat.lt_of_not_le small), scanned]

private theorem pushLoop_eq_drain (rounds : Nat) :
    ∀ (buf : List UInt8) (chunks : ChunkMap)
      (out : List IncomingMessage), buf.length < rounds →
        pushLoop rounds ⟨buf, chunks⟩ out =
          let drained := frameScanner.drain buf
          let reacted :=
            Scanner.reactAll reassembleFrame chunks drained.tokens
          (⟨drained.rest, reacted.1⟩,
            match drained.stop with
            | none => .ok (out ++ reacted.2)
            | some reason => .error reason) := by
  induction rounds with
  | zero =>
      intro buf _ _ short
      exact absurd short (Nat.not_lt_zero _)
  | succ rounds inductionHypothesis =>
      intro buf chunks out short
      rw [pushLoop_eq]
      cases scanned : scanFrame buf with
      | more =>
          rw [frameScanner.drain_of_more scanned]
          simp [Scanner.reactAll]
      | fail reason =>
          rw [frameScanner.drain_of_fail scanned]
          rfl
      | token frame =>
          have shorter := frameScanner.length_drop_lt scanned
          have tail := inductionHypothesis
            (buf.drop frame.encode.length)
            (reassembleFrame chunks frame).1
            (out ++ (reassembleFrame chunks frame).2)
            (Nat.lt_of_lt_of_le shorter (Nat.le_of_lt_succ short))
          rw [frameScanner.drain_of_token scanned]
          dsimp only
          rw [tail]
          simp only [Scanner.reactAll, List.append_assoc]
          rfl

/-- `push` drains the extended buffer and reassembles the frames. -/
theorem push_eq_feed (parser : StreamParser) (data : List UInt8) :
    parser.push data =
      let fed :=
        frameScanner.feed reassembleFrame parser.buf parser.chunks data
      (⟨fed.1.1, fed.1.2⟩, fed.2) := by
  rw [StreamParser.push]
  dsimp only
  rw [pushLoop_eq_drain _ _ _ _ (Nat.lt_succ_self _), Scanner.feed]
  cases stop : (frameScanner.drain (parser.buf ++ data)).stop <;>
    simp only [stop, List.nil_append]

/-- A push of some of the bytes of frames takes whole frames off their
front. -/
theorem push_frames {parser : StreamParser} {piece more : List UInt8}
    {frames : List Frame}
    (whole : parser.buf ++ (piece ++ more) = frames.flatMap Frame.encode) :
    ∃ arrived later rest, frames = arrived ++ later ∧
      rest ++ more = later.flatMap Frame.encode ∧
      frameScanner.scan rest = .more ∧
      parser.push piece =
        (⟨rest, (Scanner.reactAll reassembleFrame parser.chunks arrived).1⟩,
          .ok (Scanner.reactAll reassembleFrame parser.chunks arrived).2) := by
  rw [← List.append_assoc] at whole
  obtain ⟨later, finished, split, rest⟩ :=
    frameScanner.drain_of_append_eq_flatMap_encode
      (fun frame _ => frameScanner_scan_encode frame) whole
  refine ⟨(frameScanner.drain (parser.buf ++ piece)).tokens, later,
    (frameScanner.drain (parser.buf ++ piece)).rest, split, rest, ?_, ?_⟩
  · exact frameScanner.scan_rest_of_stop_none _ finished
  · rw [push_eq_feed, Scanner.feed]
    dsimp only
    rw [finished]

theorem pushAll_eq_feedAll :
    ∀ (pieces : List (List UInt8)) (parser : StreamParser),
      parser.pushAll pieces =
        let fed := frameScanner.feedAll reassembleFrame parser.buf
          parser.chunks pieces
        (⟨fed.1.1, fed.1.2⟩, fed.2)
  | [], _ => rfl
  | data :: pieces, parser => by
      rw [StreamParser.pushAll, push_eq_feed, Scanner.feedAll]
      dsimp only
      cases fed : frameScanner.feed reassembleFrame parser.buf
          parser.chunks data with
      | mk after result =>
          cases result with
          | error reason => rfl
          | ok msgs =>
              dsimp only
              rw [pushAll_eq_feedAll pieces]

end RemoteWay.Transport
