import RemoteWay.Transport.Reassembly

/-!
# Pushes and the cut of the stream

The error of a run of pushes is that of the joined stream.  The messages are
too, unless a malformed frame follows a last chunk: a push that meets the
malformed frame withholds the messages it has already completed.
-/

namespace RemoteWay.Transport

open RemoteWay.Base RemoteWay.Proto

/-- The reference fold emits nothing exactly without a last chunk. -/
theorem referenceMessages_eq_nil_iff (frames : List Frame) :
    referenceMessages frames = [] ↔
      ∀ frame, frame ∈ frames → frame.header.isLast = false := by
  induction frames using List.reverseRecOn with
  | nil => exact ⟨fun _ => by simp, fun _ => rfl⟩
  | append_singleton frames frame inductionHypothesis =>
      rw [referenceMessages_concat, List.append_eq_nil_iff,
        inductionHypothesis]
      cases last : frame.header.isLast with
      | false =>
          constructor
          · rintro ⟨opened, _⟩ tested member
            rcases List.mem_append.mp member with early | here
            · exact opened tested early
            · rw [List.mem_singleton.mp here]
              exact last
          · intro opened
            exact ⟨fun tested early =>
              opened tested (List.mem_append_left _ early), rfl⟩
      | true =>
          constructor
          · rintro ⟨_, silent⟩
            cases silent
          · intro opened
            have here := opened frame (by simp)
            rw [last] at here
            cases here

/-- Where the stream stops, in terms of its frames. -/
theorem drain_stop_iff {stream : List UInt8} {frames : List Frame}
    {rest : List UInt8} {reason : MultiplexerError} :
    frameScanner.drain stream = ⟨frames, rest, some reason⟩ ↔
      stream = frames.flatMap Frame.encode ++ rest ∧
        MalformedFront rest reason := by
  constructor
  · intro drained
    have joined := frameScanner.flatMap_encode_append_rest stream
    have stopped := frameScanner.scan_rest_of_stop_some stream
      (by rw [drained])
    rw [drained] at joined stopped
    exact ⟨joined.symm, scanFrame_eq_fail_iff.mp stopped⟩
  · rintro ⟨rfl, malformed⟩
    have stopped := frameScanner.drain_of_fail
      (scanFrame_eq_fail_iff.mpr malformed)
    have taken := frameScanner.drain_flatMap_encode_append frames rest
      fun frame _ => frameScanner_scan_encode frame
    rw [stopped] at taken
    exact taken.trans (by simp)

/-- The error that a run of pushes ends with is that of the joined
stream. -/
theorem pushAll_error_independent {pieces others : List (List UInt8)}
    (joined : pieces.flatten = others.flatten) :
    (StreamParser.new.pushAll pieces).2.2 =
      (StreamParser.new.pushAll others).2.2 := by
  rw [pushAll_new_failure, pushAll_new_failure, joined]

/-- The messages and the error of a run of pushes depend on the stream alone
exactly when no malformed frame of the stream follows a last chunk. -/
theorem pushAll_independent_of_split_iff (stream : List UInt8) :
    (∀ pieces others : List (List UInt8),
      pieces.flatten = stream → others.flatten = stream →
        (StreamParser.new.pushAll pieces).2 =
          (StreamParser.new.pushAll others).2) ↔
      ∀ (frames : List Frame) (rest : List UInt8)
        (reason : MultiplexerError),
        stream = frames.flatMap Frame.encode ++ rest →
        MalformedFront rest reason →
          ∀ frame, frame ∈ frames → frame.header.isLast = false := by
  have onlyMessages :
      (∀ pieces others : List (List UInt8),
        pieces.flatten = stream → others.flatten = stream →
          (StreamParser.new.pushAll pieces).2 =
            (StreamParser.new.pushAll others).2) ↔
        ∀ pieces others : List (List UInt8),
          pieces.flatten = stream → others.flatten = stream →
            (StreamParser.new.pushAll pieces).2.1 =
              (StreamParser.new.pushAll others).2.1 := by
    constructor
    · intro same pieces others joined otherJoined
      rw [same pieces others joined otherJoined]
    · intro same pieces others joined otherJoined
      exact Prod.ext (same pieces others joined otherJoined)
        (pushAll_error_independent (joined.trans otherJoined.symm))
  have independent :=
    frameScanner.feedAll_independent_of_pieces_iff reassembleFrame stream
      (fun _ => none)
  rw [onlyMessages]
  simp only [pushAll_eq_feedAll]
  rw [reactAll_reassembleFrame, referenceMessages_eq_nil_iff]
    at independent
  refine Iff.trans independent ?_
  constructor
  · rintro silent frames rest reason split malformed
    have drained := drain_stop_iff.mpr ⟨split, malformed⟩
    rw [drained] at silent
    rcases silent with finished | opened
    · cases finished
    · exact opened
  · intro opened
    cases stop : (frameScanner.drain stream).stop with
    | none => exact Or.inl rfl
    | some reason =>
        refine Or.inr ?_
        have drained :
            frameScanner.drain stream =
              ⟨(frameScanner.drain stream).tokens,
                (frameScanner.drain stream).rest, some reason⟩ := by
          rw [← stop]
        obtain ⟨split, malformed⟩ := drain_stop_iff.mp drained
        exact opened _ _ reason split malformed

/-- A complete message, then a header of an unknown type. -/
def goodHeader : FrameHeader :=
  FrameHeader.new 1 .ack Flags.lastChunk 0 0

def unknownHeader : FrameHeader where
  streamId := 1
  msgTypeByte := 255
  flags := Flags.lastChunk
  payloadLen := 0
  timestampNs := 0

/-- Pushed at once, the complete message is lost; pushed apart, it is
delivered. -/
theorem pushAll_depends_on_split :
    [goodHeader.asBytes ++ unknownHeader.asBytes].flatten =
      [goodHeader.asBytes, unknownHeader.asBytes].flatten ∧
    (StreamParser.new.pushAll
        [goodHeader.asBytes ++ unknownHeader.asBytes]).2 =
      ([], some (.unknownMsgType (.unknownMsgType 255))) ∧
    (StreamParser.new.pushAll
        [goodHeader.asBytes, unknownHeader.asBytes]).2 =
      ([⟨goodHeader, []⟩],
        some (.unknownMsgType (.unknownMsgType 255))) := by
  refine ⟨by simp, ?_, ?_⟩ <;> decide +kernel

end RemoteWay.Transport
