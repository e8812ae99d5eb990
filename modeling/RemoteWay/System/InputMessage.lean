import RemoteWay.Input.InjectThread
import RemoteWay.Transport.Reassembly

/-!
# Messages of input events

The client frames an input event as a message of one chunk; the server
decodes it from the front of the payload and hands it to the inject thread.
-/

namespace RemoteWay.System

open RemoteWay.Base RemoteWay.Proto RemoteWay.Transport RemoteWay.Input

/-- The header of each input event. -/
def inputHeader : FrameHeader :=
  FrameHeader.new 0 .inputEvent Flags.lastChunk
    (UInt32.ofNat InputEvent.layout.size) 0

/-- What the callback of `make_input_sender` sends. -/
def inputWire (event : InputEvent) : List UInt8 :=
  inputHeader.asBytes ++ InputEvent.layout.asBytes event

/-- One round of `recv_dispatch_loop`. -/
def recvDispatch (capacity : Nat) (inject : InjectThread)
    (msg : IncomingMessage) : InjectThread :=
  match msg.header.msgType with
  | .ok .inputEvent =>
      if InputEvent.layout.size ≤ msg.payload.length then
        match InputEvent.layout.refFromBytes
            (msg.payload.take InputEvent.layout.size) with
        | some event => inject.send capacity event
        | none => inject
      else
        inject
  | _ => inject

/-! ## Frames of input events -/

/-- An input event as a frame. -/
def inputFrame (event : InputEvent) : Frame where
  header := inputHeader
  payload := InputEvent.layout.asBytes event
  sized := InputEvent.layout.length_asBytes event
  small := by decide
  typed := ⟨.inputEvent, rfl⟩

/-- An input event as it arrives. -/
def inputMessage (event : InputEvent) : IncomingMessage :=
  ⟨inputHeader, InputEvent.layout.asBytes event⟩

theorem encode_inputFrame (event : InputEvent) :
    (inputFrame event).encode = inputWire event :=
  rfl

theorem flatMap_encode_inputFrame (events : List InputEvent) :
    (events.map inputFrame).flatMap Frame.encode =
      events.flatMap inputWire := by
  rw [List.flatMap_map]
  rfl

/-- Frames of one chunk are not held back. -/
theorem reactAll_inputFrame (events : List InputEvent) :
    Scanner.reactAll reassembleFrame (fun _ => none)
        (events.map inputFrame) =
      (fun _ => none, events.map inputMessage) := by
  induction events with
  | nil => rfl
  | cons event events inductionHypothesis =>
      have whole : reassembleFrame (fun _ => none) (inputFrame event) =
          (fun _ => none, [inputMessage event]) := by
        have last : inputHeader.isLast = true := by decide
        have header : (inputFrame event).header = inputHeader := rfl
        have removed : Function.update
            (fun _ : UInt16 => (none : Option (List UInt8)))
            inputHeader.streamId none = fun _ => none :=
          Function.update_eq_self _ _
        rw [reassembleFrame_eq, header]
        dsimp only
        rw [if_pos last, removed]
        rfl
      rw [List.map_cons, Scanner.reactAll, whole]
      dsimp only
      rw [inductionHypothesis]
      rfl

/-- A push of some of the bytes of input events takes whole events off their
front. -/
theorem push_inputWire {parser : StreamParser} {piece more : List UInt8}
    {events : List InputEvent} (fresh : parser.chunks = fun _ => none)
    (whole : parser.buf ++ (piece ++ more) = events.flatMap inputWire) :
    ∃ arrived later rest, events = arrived ++ later ∧
      rest ++ more = later.flatMap inputWire ∧
      frameScanner.scan rest = .more ∧
      parser.push piece =
        (⟨rest, fun _ => none⟩, .ok (arrived.map inputMessage)) := by
  rw [← flatMap_encode_inputFrame] at whole
  obtain ⟨frames, later, rest, split, others, waiting, pushed⟩ :=
    push_frames whole
  obtain ⟨arrived, left, events, arrivedFrames, laterFrames⟩ :=
    List.map_eq_append_iff.mp split
  refine ⟨arrived, left, rest, events, ?_, waiting, ?_⟩
  · rw [others, ← laterFrames]
    exact flatMap_encode_inputFrame left
  · rw [pushed, fresh, ← arrivedFrames, reactAll_inputFrame]

/-- A buffer that waits for more input does not hold an event. -/
theorem eq_nil_of_scan_more {events : List InputEvent}
    (waiting : frameScanner.scan (events.flatMap inputWire) = .more) :
    events = [] := by
  cases events with
  | nil => rfl
  | cons event events =>
      have scanned : frameScanner.scan ((event :: events).flatMap
          inputWire) = .token (inputFrame event) := by
        rw [List.flatMap_cons, ← encode_inputFrame]
        exact scanFrame_eq_token_iff.mpr (List.prefix_append _ _)
      rw [waiting] at scanned
      cases scanned

/-- The event arrives at the inject thread as it was sent. -/
theorem recvDispatch_inputMessage (capacity : Nat) (inject : InjectThread)
    (event : InputEvent) :
    recvDispatch capacity inject (inputMessage event) =
      inject.send capacity event := by
  have width := InputEvent.layout.length_asBytes event
  have decoded := InputEvent.layout.refFromBytes_take event []
  rw [List.append_nil] at decoded
  have kind : (inputMessage event).header.msgType = .ok .inputEvent := rfl
  have payload : (inputMessage event).payload =
      InputEvent.layout.asBytes event := rfl
  rw [recvDispatch, kind, payload]
  dsimp only
  rw [if_pos (Nat.le_of_eq width.symm), decoded]

end RemoteWay.System
