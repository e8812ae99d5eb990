import RemoteWay.Base.Reassembly
import RemoteWay.Transport.ChunkSender

/-!
# Reassembly of chunked messages

The parser after any successful pushes: its buffer is an unfinished frame,
its map holds the payloads of the unfinished messages, and it has emitted
what the reference fold `Labels.assembleAll` emits.  The chunks of any
messages, interleaved without reordering a stream and cut into any pushes,
come out as these messages.
-/

namespace RemoteWay.Transport

open RemoteWay.Base RemoteWay.Proto

def frameLabels : Labels Frame UInt16 UInt8 where
  keyOf frame := frame.header.streamId
  isLast frame := frame.header.isLast
  payload frame := frame.payload

/-- The message that a whole payload is delivered as. -/
def messageOf (emitted : Frame × List UInt8) : IncomingMessage :=
  ⟨emitted.1.header, emitted.2⟩

/-- The reference fold: append payloads per stream, emit at the last
chunk. -/
def referenceMessages (frames : List Frame) : List IncomingMessage :=
  (frameLabels.assembleAll frames).2.map messageOf

/-- The non-last chunks of a stream since its latest last chunk. -/
def unfinishedChunks (stream : UInt16) (frames : List Frame) :
    List Frame :=
  frameLabels.unfinished stream frames

/-- The map entry that stands for the unfinished chunks of a stream. -/
def entryOf (unfinished : List Frame) : Option (List UInt8) :=
  if unfinished = [] then
    none
  else
    some (unfinished.flatMap Frame.payload)

theorem unfinishedChunks_concat (stream : UInt16) (frames : List Frame)
    (frame : Frame) :
    unfinishedChunks stream (frames ++ [frame]) =
      if frame.header.streamId = stream then
        if frame.header.isLast then []
        else unfinishedChunks stream frames ++ [frame]
      else
        unfinishedChunks stream frames :=
  frameLabels.unfinished_concat stream frames frame

theorem referenceMessages_concat (frames : List Frame) (frame : Frame) :
    referenceMessages (frames ++ [frame]) =
      referenceMessages frames ++
        if frame.header.isLast then
          [⟨frame.header,
            (unfinishedChunks frame.header.streamId frames).flatMap
              Frame.payload ++ frame.payload⟩]
        else [] := by
  rw [referenceMessages, frameLabels.assembleAll_concat, List.map_append]
  change _ ++ List.map messageOf (if frame.header.isLast then _ else _) = _
  cases frame.header.isLast <;> rfl

/-! ## The map -/

/-- The single-chunk path returns what the accumulating path would. -/
theorem reassembleFrame_eq (chunks : ChunkMap) (frame : Frame) :
    reassembleFrame chunks frame =
      let buf := (chunks frame.header.streamId).getD [] ++ frame.payload
      if frame.header.isLast then
        (Function.update chunks frame.header.streamId none,
          [⟨frame.header, buf⟩])
      else
        (Function.update chunks frame.header.streamId (some buf), []) := by
  rw [reassembleFrame, reassemble]
  have sized :
      (frame.payload.length == frame.header.payloadLen.toNat) = true := by
    rw [frame.sized]
    exact beq_self_eq_true _
  rw [sized, Bool.and_true]
  cases last : frame.header.isLast with
  | false => simp
  | true =>
      cases entry : chunks frame.header.streamId with
      | some buf => simp
      | none =>
          have unchanged :
              Function.update chunks frame.header.streamId none =
                chunks := by
            rw [← entry]
            exact Function.update_eq_self _ _
          simp [unchanged]

theorem getD_entryOf (unfinished : List Frame) :
    (entryOf unfinished).getD [] = unfinished.flatMap Frame.payload := by
  rw [entryOf]
  by_cases empty : unfinished = []
  · simp [empty]
  · simp [empty]

/-- The map and the messages after any frames, from an empty map. -/
theorem reactAll_reassembleFrame (frames : List Frame) :
    Scanner.reactAll reassembleFrame (fun _ => none) frames =
      (fun stream => entryOf (unfinishedChunks stream frames),
        referenceMessages frames) := by
  induction frames using List.reverseRecOn with
  | nil => rfl
  | append_singleton frames frame inductionHypothesis =>
      rw [Scanner.reactAll_append, inductionHypothesis]
      simp only [Scanner.reactAll, List.append_nil]
      rw [reassembleFrame_eq, referenceMessages_concat, getD_entryOf]
      have entries : ∀ stream,
          entryOf (unfinishedChunks stream (frames ++ [frame])) =
            Function.update
              (fun other => entryOf (unfinishedChunks other frames))
              frame.header.streamId
              (if frame.header.isLast then none
                else some ((unfinishedChunks frame.header.streamId
                  frames).flatMap Frame.payload ++ frame.payload))
              stream := by
        intro stream
        rw [unfinishedChunks_concat]
        by_cases here : frame.header.streamId = stream
        · subst here
          cases frame.header.isLast <;> simp [entryOf]
        · simp [here, Ne.symm here]
      simp only [entries]
      cases frame.header.isLast <;> simp

/-! ## Successful pushes -/

/-- A fresh parser that has met no error holds the frames of the joined
input. -/
theorem pushAll_new_of_stop_none {pieces : List (List UInt8)}
    (finished : (frameScanner.drain pieces.flatten).stop = none) :
    StreamParser.new.pushAll pieces =
      let drained := frameScanner.drain pieces.flatten
      (⟨drained.rest,
          fun stream => entryOf (unfinishedChunks stream drained.tokens)⟩,
        referenceMessages drained.tokens, none) := by
  have run := frameScanner.feedAll_of_stop_none reassembleFrame pieces []
    (fun _ => none) rfl finished
  rw [pushAll_eq_feedAll]
  change ((⟨(frameScanner.feedAll reassembleFrame [] (fun _ => none)
    pieces).1.1, _⟩ : StreamParser), _) = _
  rw [StreamParser.new, run, List.nil_append]
  dsimp only
  rw [reactAll_reassembleFrame]

theorem pushAll_new_failure (pieces : List (List UInt8)) :
    (StreamParser.new.pushAll pieces).2.2 =
      (frameScanner.drain pieces.flatten).stop := by
  rw [pushAll_eq_feedAll]
  exact frameScanner.feedAll_failure reassembleFrame pieces []
    (fun _ => none) rfl

/-- The bytes of some frame, of whatever type and size. -/
def IsFrameBytes (bytes : List UInt8) : Prop :=
  ∃ (header : FrameHeader) (payload : List UInt8),
    payload.length = header.payloadLen.toNat ∧
      bytes = header.asBytes ++ payload

/-- Any bytes can be continued to a frame that is no shorter than they are
and than a header, and as short as the announced payload allows. -/
private theorem exists_frame_of_front {buf : List UInt8}
    (incomplete : FrameHeader.size ≤ buf.length →
      buf.length < Frame.totalOfFront buf) :
    ∃ frameBytes, IsFrameBytes frameBytes ∧ buf <+: frameBytes ∧
      buf.length < frameBytes.length := by
  by_cases short : buf.length < FrameHeader.size
  · let padded := buf ++ List.replicate (FrameHeader.size - buf.length) 0
    have width : padded.length = FrameHeader.size := by
      simp [padded]
      omega
    have header : (FrameHeader.ofFront padded).asBytes = padded := by
      rw [FrameHeader.asBytes_ofFront (Nat.le_of_eq width.symm), ← width,
        List.take_length]
    let payload := List.replicate
      (FrameHeader.ofFront padded).payloadLen.toNat (0 : UInt8)
    refine ⟨padded ++ payload,
      ⟨FrameHeader.ofFront padded, payload, List.length_replicate, ?_⟩,
      ?_, ?_⟩
    · rw [header]
    · exact (List.prefix_append _ _).trans (List.prefix_append _ _)
    · rw [List.length_append]
      omega
  · have long : FrameHeader.size ≤ buf.length := Nat.le_of_not_lt short
    have missing := incomplete long
    rw [Frame.totalOfFront] at missing
    let payload := buf.drop FrameHeader.size ++ List.replicate
      (Frame.totalOfFront buf - buf.length) 0
    have split : (FrameHeader.ofFront buf).asBytes ++ payload =
        buf ++ List.replicate (Frame.totalOfFront buf - buf.length) 0 := by
      rw [FrameHeader.asBytes_ofFront long, ← List.append_assoc,
        List.take_append_drop]
    refine ⟨_, ⟨FrameHeader.ofFront buf, payload, ?_, rfl⟩, ?_, ?_⟩
    · simp [payload, Frame.totalOfFront]
      omega
    · rw [split]
      exact List.prefix_append _ _
    · rw [split, List.length_append, List.length_replicate,
        Frame.totalOfFront]
      omega

/-- A buffer that waits for more input is shorter than a header, or than the
frame its header announces. -/
private theorem incomplete_of_more {buf : List UInt8}
    (waiting : scanFrame buf = .more) :
    (FrameHeader.size ≤ buf.length →
        buf.length < Frame.totalOfFront buf) ∧
      buf.length < FrameHeader.size + maxPayloadLen.toNat := by
  have positive : 0 < maxPayloadLen.toNat := by decide
  rw [scanFrame] at waiting
  split at waiting
  · exact ⟨fun long => by omega, by omega⟩
  · split at waiting
    · rename_i small
      split at waiting
      · split at waiting <;> cases waiting
      · rename_i incomplete
        refine ⟨fun _ => Nat.lt_of_not_le incomplete, ?_⟩
        rw [Frame.totalOfFront] at incomplete
        omega
    · cases waiting

/-- After any successful pushes the parser's state and its output are those
of the reference reassembly. -/
theorem pushAll_eq_reference {pieces : List (List UInt8)}
    {parser : StreamParser} {output : List IncomingMessage}
    (accepted :
      StreamParser.new.pushAll pieces = (parser, output, none)) :
    ∃ frames : List Frame,
      frames.flatMap Frame.encode ++ parser.buf = pieces.flatten ∧
      (∃ frameBytes, IsFrameBytes frameBytes ∧
        parser.buf <+: frameBytes ∧
        parser.buf.length < frameBytes.length) ∧
      parser.buf.length < 16 + 4 * 1024 * 1024 ∧
      (∀ stream, parser.chunks stream =
        if unfinishedChunks stream frames = [] then
          none
        else
          some ((unfinishedChunks stream frames).flatMap
            Frame.payload)) ∧
      output = referenceMessages frames := by
  have finished : (frameScanner.drain pieces.flatten).stop = none := by
    rw [← pushAll_new_failure, accepted]
  have run := pushAll_new_of_stop_none finished
  rw [accepted] at run
  injection run with parserEq rest
  injection rest with outputEq _
  have waiting :=
    frameScanner.scan_rest_of_stop_none pieces.flatten finished
  obtain ⟨incomplete, bounded⟩ := incomplete_of_more waiting
  have joined := frameScanner.flatMap_encode_append_rest pieces.flatten
  refine ⟨(frameScanner.drain pieces.flatten).tokens, ?_, ?_, ?_, ?_,
    outputEq⟩
  · rw [parserEq]
    exact joined
  · rw [parserEq]
    exact exists_frame_of_front incomplete
  · rw [parserEq]
    exact bounded
  · intro stream
    rw [parserEq]
    rfl

/-- A complete message, the first chunk of another and three bytes of its
second chunk, pushed in two pieces. -/
def examplePieces : List (List UInt8) :=
  [[1, 0, 0, 3, 1, 0, 0, 0, 9, 0, 0, 0, 0, 0, 0, 0, 7, 2, 0],
    [1, 1, 2, 0, 0, 0, 9, 0, 0, 0, 0, 0, 0, 0, 5, 6, 2, 0, 1]]

theorem pushAll_eq_reference_examplePieces :
    (StreamParser.new.pushAll examplePieces).2.2 = none ∧
      (StreamParser.new.pushAll examplePieces).1.buf = [2, 0, 1] ∧
      ∃ frames : List Frame,
        frames.flatMap Frame.encode ++
            (StreamParser.new.pushAll examplePieces).1.buf =
          examplePieces.flatten ∧
        (StreamParser.new.pushAll examplePieces).2.1 =
          referenceMessages frames := by
  have failure :
      (StreamParser.new.pushAll examplePieces).2.2 = none := by
    decide +kernel
  have accepted :
      StreamParser.new.pushAll examplePieces =
        ((StreamParser.new.pushAll examplePieces).1,
          (StreamParser.new.pushAll examplePieces).2.1, none) := by
    rw [← failure]
  obtain ⟨frames, joined, _, _, _, outputEq⟩ :=
    pushAll_eq_reference accepted
  exact ⟨failure, by decide +kernel, frames, joined, outputEq⟩

/-! ## Chunked messages -/

/-- The message as the receiver gets it. -/
def Delivers (message : OutgoingMessage) (incoming : IncomingMessage) :
    Prop :=
  incoming.header.streamId = message.streamId ∧
    incoming.header.msgType = .ok message.msgType ∧
    incoming.header.timestampNs = message.timestampNs ∧
    incoming.payload = message.payload

namespace OutgoingMessage

variable (message : OutgoingMessage)

private theorem mem_chunksFrom {frame : Frame} :
    ∀ {rounds : Nat} {rest : List UInt8},
      frame ∈ message.chunksFrom rounds rest →
        frame.header.streamId = message.streamId ∧
          frame.header.msgType = .ok message.msgType ∧
          frame.header.timestampNs = message.timestampNs
  | 0, _, member => by cases member
  | rounds + 1, rest, member => by
      rw [chunksFrom] at member
      split at member
      · rw [List.mem_singleton.mp member]
        exact ⟨rfl, FrameHeader.msgType_new _ _ _ _ _, rfl⟩
      · rcases List.mem_cons.mp member with rfl | later
        · exact ⟨rfl, FrameHeader.msgType_new _ _ _ _ _, rfl⟩
        · exact mem_chunksFrom later

private theorem flatMap_payload_chunksFrom :
    ∀ (rounds : Nat) (rest : List UInt8), rest.length < rounds →
      (message.chunksFrom rounds rest).flatMap Frame.payload = rest
  | 0, _, short => absurd short (Nat.not_lt_zero _)
  | rounds + 1, rest, short => by
      have positive := message.chunkSize_pos
      rw [chunksFrom]
      split
      · simp [chunk]
      · have shorter :
            (rest.drop message.chunkSize).length < rounds := by
          rw [List.length_drop]
          omega
        rw [List.flatMap_cons,
          flatMap_payload_chunksFrom rounds _ shorter]
        exact List.take_append_drop _ _

private theorem chunksFrom_closed :
    ∀ (rounds : Nat) (rest : List UInt8), rest.length < rounds →
      ∃ middle final, message.chunksFrom rounds rest = middle ++ [final] ∧
        final.header.isLast = true ∧
        ∀ frame, frame ∈ middle → frame.header.isLast = false
  | 0, _, short => absurd short (Nat.not_lt_zero _)
  | rounds + 1, rest, short => by
      have positive := message.chunkSize_pos
      rw [chunksFrom]
      split
      · exact ⟨[], _, rfl, message.isLast_of_marked _, by simp⟩
      · have shorter :
            (rest.drop message.chunkSize).length < rounds := by
          rw [List.length_drop]
          omega
        obtain ⟨middle, final, split, last, opened⟩ :=
          chunksFrom_closed rounds _ shorter
        refine ⟨_ :: middle, final, by rw [split]; rfl, last, ?_⟩
        intro frame member
        rcases List.mem_cons.mp member with rfl | later
        · exact message.isLast_of_unmarked _
        · exact opened frame later

end OutgoingMessage

theorem cutting_chunkFrames :
    frameLabels.Cutting OutgoingMessage.streamId OutgoingMessage.payload
      OutgoingMessage.chunkFrames where
  keyed message _ member := (message.mem_chunksFrom member).1
  joined message :=
    message.flatMap_payload_chunksFrom _ _ (Nat.lt_succ_self _)
  closed message := message.chunksFrom_closed _ _ (Nat.lt_succ_self _)

/-- Messages that are sent one after the other come out in this order, and
leave nothing behind. -/
theorem reactAll_chunkFrames (messages : List OutgoingMessage) :
    ∃ output,
      Scanner.reactAll reassembleFrame (fun _ => none)
          (messages.flatMap OutgoingMessage.chunkFrames) =
        (fun _ => none, output) ∧
      List.Forall₂ Delivers messages output := by
  have interleaved : Labels.Interleaving OutgoingMessage.streamId
      OutgoingMessage.chunkFrames messages
        (Labels.inTurn OutgoingMessage.chunkFrames messages) :=
    Labels.interleaving_inTurn messages
  have order := Labels.finished_inTurn cutting_chunkFrames messages
  rw [← Labels.map_snd_inTurn, reactAll_reassembleFrame]
  refine ⟨_, Prod.ext ?_ rfl, ?_⟩
  · funext stream
    dsimp only
    rw [unfinishedChunks, Labels.unfinished_interleaving
      cutting_chunkFrames interleaved stream]
    rfl
  · suffices delivered : List.Forall₂ Delivers
        ((frameLabels.finished (Labels.inTurn OutgoingMessage.chunkFrames
          messages)).map Prod.fst)
        (referenceMessages ((Labels.inTurn OutgoingMessage.chunkFrames
          messages).map Prod.snd)) by
      rw [order] at delivered
      exact delivered
    rw [referenceMessages, Labels.assembleAll_interleaving
      cutting_chunkFrames interleaved, List.map_map,
      List.forall₂_map_left_iff, List.forall₂_map_right_iff,
      List.forall₂_same]
    intro tag member
    have cutMember := Labels.mem_cut_of_mem_tagged interleaved
      (List.mem_of_mem_filter member)
    obtain ⟨streamEq, typeEq, timestampEq⟩ :=
      tag.1.mem_chunksFrom cutMember
    exact ⟨streamEq, typeEq, timestampEq, rfl⟩

/-- An order of the chunks of messages that keeps the chunks of each stream
in order. -/
abbrev ChunkInterleaving (messages : List OutgoingMessage)
    (tagged : List (OutgoingMessage × Frame)) : Prop :=
  Labels.Interleaving OutgoingMessage.streamId OutgoingMessage.chunkFrames
    messages tagged

/-- The messages in the order of their last chunks. -/
def lastChunkOrder (tagged : List (OutgoingMessage × Frame)) :
    List OutgoingMessage :=
  (frameLabels.finished tagged).map Prod.fst

/-- Messages that are split, interleaved and cut into any pushes come out
whole, one each, in the order of their last chunks. -/
theorem split_push_round_trip (profile : Profile)
    {messages : List OutgoingMessage}
    {tagged : List (OutgoingMessage × Frame)}
    (interleaved : ChunkInterleaving messages tagged)
    {pieces : List (List UInt8)}
    (joined : pieces.flatten = tagged.flatMap fun tag => tag.2.encode) :
    (∀ message, message ∈ messages → ∀ dst,
      message.split profile dst =
        .ok (dst ++ message.chunkFrames.flatMap Frame.encode)) ∧
    ∃ parser output,
      StreamParser.new.pushAll pieces = (parser, output, none) ∧
      parser.buf = [] ∧
      (∀ stream, parser.chunks stream = none) ∧
      parser.inProgressStreams = 0 ∧
      (lastChunkOrder tagged).Perm messages ∧
      List.Forall₂ Delivers (lastChunkOrder tagged) output := by
  refine ⟨fun message _ dst => message.split_eq profile dst, ?_⟩
  have drained :
      frameScanner.drain pieces.flatten =
        ⟨tagged.map Prod.snd, [], none⟩ := by
    have encoded := frameScanner.drain_flatMap_encode
      (tagged.map Prod.snd) []
      (fun frame _ => frameScanner_scan_encode frame) frameScanner.scan_nil
    rw [joined, ← encoded, List.append_nil, List.flatMap_map]
    rfl
  have empty : ∀ stream,
      entryOf (unfinishedChunks stream (tagged.map Prod.snd)) = none := by
    intro stream
    rw [unfinishedChunks, Labels.unfinished_interleaving
      cutting_chunkFrames interleaved stream]
    rfl
  have finished : (frameScanner.drain pieces.flatten).stop = none := by
    rw [drained]
  have run := pushAll_new_of_stop_none finished
  rw [drained] at run
  refine ⟨_, _, run, rfl, empty, ?_, ?_, ?_⟩
  · rw [StreamParser.inProgressStreams, List.countP_eq_zero]
    intro id _
    simp [empty]
  · exact Labels.finished_perm cutting_chunkFrames interleaved
  · rw [referenceMessages, Labels.assembleAll_interleaving
      cutting_chunkFrames interleaved, lastChunkOrder, List.map_map,
      List.forall₂_map_left_iff, List.forall₂_map_right_iff,
      List.forall₂_same]
    intro tag member
    have cutMember := Labels.mem_cut_of_mem_tagged interleaved
      (List.mem_of_mem_filter member)
    obtain ⟨streamEq, typeEq, timestampEq⟩ :=
      tag.1.mem_chunksFrom cutMember
    exact ⟨streamEq, typeEq, timestampEq, rfl⟩

def exampleLong : OutgoingMessage where
  streamId := 1
  msgType := .frameUpdate
  extraFlags := Flags.compressed
  payload := [5, 6, 7]
  timestampNs := 9
  chunkSize := 2
  unmarked := by decide
  chunkSize_pos := by decide
  chunkSize_le := by decide
  addressable := by decide

def exampleEmpty : OutgoingMessage where
  streamId := 2
  msgType := .ack
  extraFlags := 0
  payload := []
  timestampNs := 4
  chunkSize := 1
  unmarked := by decide
  chunkSize_pos := by decide
  chunkSize_le := by decide
  addressable := by decide

/-- The empty message overtakes the second chunk of the long one. -/
def exampleTagged : List (OutgoingMessage × Frame) :=
  (exampleLong.chunkFrames.take 1).map (Prod.mk exampleLong) ++
    (exampleEmpty.chunkFrames.map (Prod.mk exampleEmpty) ++
      (exampleLong.chunkFrames.drop 1).map (Prod.mk exampleLong))

private theorem filter_map_mk (message : OutgoingMessage)
    (target : UInt16) (frames : List Frame) :
    (frames.map (Prod.mk message)).filter
        (fun tag => tag.1.streamId = target) =
      if message.streamId = target then
        frames.map (Prod.mk message)
      else [] := by
  rw [List.filter_map]
  by_cases here : message.streamId = target <;>
    simp [Function.comp_def, here]

theorem split_push_round_trip_example :
    ∃ parser output,
      StreamParser.new.pushAll
          [(exampleTagged.flatMap fun tag => tag.2.encode).take 25,
            (exampleTagged.flatMap fun tag => tag.2.encode).drop 25] =
        (parser, output, none) ∧
      List.Forall₂ Delivers [exampleEmpty, exampleLong] output := by
  have interleaved :
      ChunkInterleaving [exampleLong, exampleEmpty] exampleTagged := by
    intro target
    rw [exampleTagged, List.filter_append, List.filter_append,
      filter_map_mk, filter_map_mk, filter_map_mk]
    by_cases longHere : exampleLong.streamId = target
    · have emptyElsewhere : exampleEmpty.streamId ≠ target := by
        rw [← longHere]
        decide
      rw [if_pos longHere, if_neg emptyElsewhere, if_pos longHere,
        List.nil_append, ← List.map_append, List.take_append_drop]
      simp [longHere, emptyElsewhere]
    · by_cases emptyHere : exampleEmpty.streamId = target
      · simp [longHere, emptyHere]
      · simp [longHere, emptyHere]
  obtain ⟨_, parser, output, run, _, _, _, _, delivered⟩ :=
    split_push_round_trip .dev interleaved
      (show [(exampleTagged.flatMap fun tag => tag.2.encode).take 25,
          (exampleTagged.flatMap fun tag => tag.2.encode).drop 25].flatten =
        exampleTagged.flatMap fun tag => tag.2.encode by simp)
  have order :
      lastChunkOrder exampleTagged = [exampleEmpty, exampleLong] := by
    decide +kernel
  rw [order] at delivered
  exact ⟨parser, output, run, delivered⟩

end RemoteWay.Transport
