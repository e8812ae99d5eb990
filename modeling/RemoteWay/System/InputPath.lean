import RemoteWay.Base.Runs
import RemoteWay.Proto.Handshake
import RemoteWay.System.InputMessage
import RemoteWay.Transport.ExactlyOnce

/-!
# The path of the inputs

Input events on their way from the capture thread of the client to the
virtual devices of the server: `write_loop`, the bytes between the two
sides, `read_loop`, `recv_dispatch_loop` and `inject_loop`, interleaved in
any order.
-/

namespace RemoteWay.System

open RemoteWay.Base RemoteWay.Proto RemoteWay.Transport RemoteWay.Input

/-- Most bytes that `read_loop` reads at once. -/
def readBufSize : Nat := 64 * 1024

/-- Capacity of the incoming message channel. -/
def incomingQueueDepth : Nat := 2

/-- `build_handshake` of the client. -/
def buildHandshake : List UInt8 :=
  (FrameHeader.new 0 .handshake Flags.lastChunk 8 0).asBytes ++
    (HandshakePayload.new
      (CaptureFlags.wlrScreencopy ||| CaptureFlags.extImageCapture)
      CompressFlags.lz4).asBytes

/-- The inputs captured so far, and where their events are: in the queue of
the client, partly written, between the two sides, in the parser, returned
by a push, in the channel of incoming messages, received, or at the inject
thread. -/
structure InputPath where
  captured : List Input
  client : SshTransport
  writing : Option (Packet × List UInt8)
  pipe : List UInt8
  reading : Bool
  parser : StreamParser
  forwarding : List IncomingMessage
  incoming : List IncomingMessage
  received : Option IncomingMessage
  inject : InjectThread

inductive InputAction where
  | capture (input : Input)
  | select
  | write (count : Nat)
  | finish
  | read (count : Nat)
  | forward
  | recv
  | send
  | pop
  | dispatch
  deriving DecidableEq, Repr

namespace InputPath

/-- After the handshakes have been exchanged, when that of the client
arrived in the given pieces. -/
def start (handshake : List (List UInt8)) : InputPath where
  captured := []
  client := .new
  writing := none
  pipe := []
  reading := true
  parser := (StreamParser.new.pushAll handshake).1
  forwarding := []
  incoming := []
  received := none
  inject := .spawn

/-- A step of one of the loops.  A parse error ends `read_loop`. -/
def perform (capacity : Nat) (path : InputPath) :
    InputAction → Option InputPath
  | .capture input =>
      some { path with
        captured := path.captured ++ [input]
        client := (path.client.sendInput (inputWire input.event)).2 }
  | .select =>
      match path.writing with
      | none =>
          path.client.nextPacket.map fun (packet, client) =>
            { path with
              client := client
              writing := some (packet, packet.data) }
      | some _ => none
  | .write count =>
      match path.writing with
      | some (packet, rest) =>
          if 0 < count ∧ count ≤ rest.length then
            some { path with
              writing := some (packet, rest.drop count)
              pipe := path.pipe ++ rest.take count }
          else
            none
      | none => none
  | .finish =>
      match path.writing with
      | some (packet, []) =>
          some { path with
            client :=
              { path.client with
                written := path.client.written ++ [packet] }
            writing := none }
      | _ => none
  | .read count =>
      if path.reading ∧ path.forwarding = [] ∧ 0 < count ∧
          count ≤ readBufSize ∧ count ≤ path.pipe.length then
        match path.parser.push (path.pipe.take count) with
        | (parser, .ok msgs) =>
            some { path with
              pipe := path.pipe.drop count
              parser := parser
              forwarding := msgs }
        | (parser, .error _) =>
            some { path with
              pipe := path.pipe.drop count
              parser := parser
              reading := false }
      else
        none
  | .forward =>
      match path.forwarding with
      | msg :: msgs =>
          if path.incoming.length < incomingQueueDepth then
            some { path with
              forwarding := msgs
              incoming := path.incoming ++ [msg] }
          else
            none
      | [] => none
  | .recv =>
      match path.received, path.incoming with
      | none, msg :: msgs =>
          some { path with incoming := msgs, received := some msg }
      | _, _ => none
  | .send =>
      path.received.map fun msg =>
        { path with
          received := none
          inject := recvDispatch capacity path.inject msg }
  | .pop => path.inject.pop.map fun inject => { path with inject := inject }
  | .dispatch =>
      path.inject.dispatch.map fun inject => { path with inject := inject }

/-! ## The invariant -/

/-- The messages that were parsed and not yet dispatched. -/
def parsed (path : InputPath) : List IncomingMessage :=
  path.received.toList ++ (path.incoming ++ path.forwarding)

/-- The bytes that were sent and not yet parsed. -/
def unparsed (path : InputPath) : List UInt8 :=
  path.parser.buf ++ (path.pipe ++
    ((path.writing.map Prod.snd).getD [] ++ path.client.inputRx.flatten))

/-- The captured events have been handed to the inject thread, were parsed,
or are among the bytes on the way, in this order. -/
structure InOrder (path : InputPath) : Prop where
  connected : path.client.connected = true
  inputsOnly : path.client.anchorRx = [] ∧ path.client.frameRx = []
  reading : path.reading = true
  fresh : path.parser.chunks = fun _ => none
  waiting : frameScanner.scan path.parser.buf = .more
  account : ∃ arrived later,
    path.captured.map Input.event =
        path.inject.handed.map Prod.fst ++ (arrived ++ later) ∧
      path.parsed = arrived.map inputMessage ∧
      path.unparsed = later.flatMap inputWire
  accepted : path.inject.Accounted

/-! ## The start -/

def handshakeFrame : Frame where
  header := FrameHeader.new 0 .handshake Flags.lastChunk 8 0
  payload := (HandshakePayload.new
    (CaptureFlags.wlrScreencopy ||| CaptureFlags.extImageCapture)
    CompressFlags.lz4).asBytes
  sized := rfl
  small := by decide
  typed := ⟨.handshake, rfl⟩

/-- The handshake leaves nothing behind in the parser. -/
theorem pushAll_handshake {handshake : List (List UInt8)}
    (exchanged : handshake.flatten = buildHandshake) :
    (StreamParser.new.pushAll handshake).1 = .new := by
  have encoded : [handshakeFrame].flatMap frameScanner.encode ++ [] =
      buildHandshake := by
    rw [List.append_nil, List.flatMap_singleton]
    rfl
  have drained := frameScanner.drain_flatMap_encode [handshakeFrame] []
    (fun frame _ => frameScanner_scan_encode frame) frameScanner.scan_nil
  rw [encoded, ← exchanged] at drained
  have clean : (frameScanner.drain handshake.flatten).stop = none := by
    rw [drained]
  rw [pushAll_new_of_stop_none clean, drained]
  dsimp only
  have last : handshakeFrame.header.isLast = true := by decide
  have finished : ∀ stream,
      unfinishedChunks stream [handshakeFrame] = [] := by
    intro stream
    have concat := unfinishedChunks_concat stream [] handshakeFrame
    rw [List.nil_append, if_pos last] at concat
    rw [concat]
    by_cases here : handshakeFrame.header.streamId = stream
    · exact if_pos here
    · exact if_neg here
  simp only [finished]
  rfl

theorem inOrder_start {handshake : List (List UInt8)}
    (exchanged : handshake.flatten = buildHandshake) :
    (start handshake).InOrder := by
  have fresh : (start handshake).parser = .new :=
    pushAll_handshake exchanged
  exact
    { connected := rfl
      inputsOnly := ⟨rfl, rfl⟩
      reading := rfl
      fresh := by
        rw [fresh]
        rfl
      waiting := by
        rw [fresh]
        rfl
      account := by
        refine ⟨[], [], rfl, rfl, ?_⟩
        rw [unparsed, fresh]
        rfl
      accepted := InjectThread.accounted_spawn }

/-! ## Steps -/

variable {capacity : Nat} {before after : InputPath}

theorem InOrder.capture (inOrder : before.InOrder) {input : Input}
    (performed : before.perform capacity (.capture input) = some after) :
    after.InOrder := by
  injection performed with same
  have sent : (before.client.sendInput (inputWire input.event)).2 =
      { before.client with
        inputRx := before.client.inputRx ++ [inputWire input.event] } := by
    rw [SshTransport.sendInput, if_pos inOrder.connected]
  rw [sent] at same
  rw [← same]
  obtain ⟨arrived, later, captured, parsed, unparsed⟩ := inOrder.account
  exact
    { connected := inOrder.connected
      inputsOnly := inOrder.inputsOnly
      reading := inOrder.reading
      fresh := inOrder.fresh
      waiting := inOrder.waiting
      account := by
        refine ⟨arrived, later ++ [input.event], ?_, parsed, ?_⟩
        · rw [List.map_append, captured]
          simp
        · rw [InputPath.unparsed] at unparsed ⊢
          rw [List.flatMap_append, ← unparsed]
          simp
      accepted := inOrder.accepted }

/-- While there are only inputs, the next one is selected. -/
theorem nextPacket_inputs {transport rest : SshTransport} {packet : Packet}
    (inputsOnly : transport.anchorRx = [] ∧ transport.frameRx = [])
    (next : transport.nextPacket = some (packet, rest)) :
    transport.inputRx = packet.data :: rest.inputRx ∧
      rest = { transport with inputRx := rest.inputRx } := by
  obtain ⟨inputRx, anchorRx, frameRx, connected, written⟩ := transport
  obtain ⟨anchors, frames⟩ := inputsOnly
  dsimp only at anchors frames
  subst anchors frames
  cases inputRx with
  | nil => cases next
  | cons data inputs =>
      injection next with next
      injection next with packetEq restEq
      subst packetEq restEq
      exact ⟨rfl, rfl⟩

/-- A step that only moves events on keeps their order. -/
theorem InOrder.moved (inOrder : before.InOrder)
    (same : after.captured = before.captured ∧
      after.inject = before.inject ∧ after.reading = before.reading ∧
      after.parser = before.parser)
    (client : after.client.connected = before.client.connected ∧
      after.client.anchorRx = before.client.anchorRx ∧
      after.client.frameRx = before.client.frameRx)
    (parsed : after.parsed = before.parsed)
    (unparsed : after.unparsed = before.unparsed) : after.InOrder := by
  obtain ⟨captured, inject, reading, parser⟩ := same
  obtain ⟨connected, anchors, frames⟩ := client
  exact
    { connected := connected.trans inOrder.connected
      inputsOnly := ⟨anchors.trans inOrder.inputsOnly.1,
        frames.trans inOrder.inputsOnly.2⟩
      reading := reading.trans inOrder.reading
      fresh := by
        rw [parser]
        exact inOrder.fresh
      waiting := by
        rw [parser]
        exact inOrder.waiting
      account := by
        rw [captured, inject, parsed, unparsed]
        exact inOrder.account
      accepted := by
        rw [inject]
        exact inOrder.accepted }

theorem InOrder.select (inOrder : before.InOrder)
    (performed : before.perform capacity .select = some after) :
    after.InOrder := by
  rw [InputPath.perform] at performed
  cases writing : before.writing with
  | some packet =>
      rw [writing] at performed
      cases performed
  | none =>
      rw [writing] at performed
      obtain ⟨⟨packet, client⟩, next, same⟩ :=
        Option.map_eq_some_iff.mp performed
      obtain ⟨first, others⟩ := nextPacket_inputs inOrder.inputsOnly next
      rw [← same]
      refine inOrder.moved ?_ ?_ ?_ ?_
      · exact ⟨rfl, rfl, rfl, rfl⟩
      · rw [others]
        exact ⟨rfl, rfl, rfl⟩
      · rfl
      · rw [unparsed, unparsed, writing, first]
        simp

theorem InOrder.write (inOrder : before.InOrder) {count : Nat}
    (performed : before.perform capacity (.write count) = some after) :
    after.InOrder := by
  rw [InputPath.perform] at performed
  cases writing : before.writing with
  | none =>
      rw [writing] at performed
      cases performed
  | some written =>
      obtain ⟨packet, rest⟩ := written
      rw [writing] at performed
      obtain ⟨_, same⟩ := Option.ite_none_right_eq_some.mp performed
      injection same with same
      rw [← same]
      refine inOrder.moved ⟨rfl, rfl, rfl, rfl⟩ ⟨rfl, rfl, rfl⟩ rfl ?_
      rw [unparsed, unparsed, writing]
      simp [← List.append_assoc (rest.take count)]

theorem InOrder.finish (inOrder : before.InOrder)
    (performed : before.perform capacity .finish = some after) :
    after.InOrder := by
  rw [InputPath.perform] at performed
  split at performed
  · rename_i packet writing
    injection performed with same
    rw [← same]
    refine inOrder.moved ⟨rfl, rfl, rfl, rfl⟩ ⟨rfl, rfl, rfl⟩ rfl ?_
    rw [unparsed, unparsed, writing]
    rfl
  · cases performed

/-- `read_loop` parses whole events only. -/
theorem InOrder.read (inOrder : before.InOrder) {count : Nat}
    (performed : before.perform capacity (.read count) = some after) :
    after.InOrder := by
  rw [InputPath.perform] at performed
  obtain ⟨⟨_, idle, _, _, _⟩, performed⟩ :=
    Option.ite_none_right_eq_some.mp performed
  obtain ⟨arrived, later, captured, parsed, unparsed⟩ := inOrder.account
  rw [InputPath.unparsed, ← List.take_append_drop count before.pipe,
    List.append_assoc] at unparsed
  obtain ⟨next, left, rest, split, others, waiting, pushed⟩ :=
    push_inputWire inOrder.fresh unparsed
  rw [pushed] at performed
  injection performed with same
  rw [← same]
  exact
    { connected := inOrder.connected
      inputsOnly := inOrder.inputsOnly
      reading := inOrder.reading
      fresh := rfl
      waiting := waiting
      account := by
        refine ⟨arrived ++ next, left, ?_, ?_, others⟩
        · rw [captured, split]
          simp
        · rw [InputPath.parsed, idle, List.append_nil] at parsed
          rw [List.map_append, ← parsed, InputPath.parsed]
          simp
      accepted := inOrder.accepted }

theorem InOrder.forward (inOrder : before.InOrder)
    (performed : before.perform capacity .forward = some after) :
    after.InOrder := by
  rw [InputPath.perform] at performed
  split at performed
  · rename_i msg msgs forwarding
    obtain ⟨_, same⟩ := Option.ite_none_right_eq_some.mp performed
    injection same with same
    rw [← same]
    refine inOrder.moved ⟨rfl, rfl, rfl, rfl⟩ ⟨rfl, rfl, rfl⟩ ?_ rfl
    rw [parsed, parsed, forwarding]
    simp
  · cases performed

theorem InOrder.recv (inOrder : before.InOrder)
    (performed : before.perform capacity .recv = some after) :
    after.InOrder := by
  rw [InputPath.perform] at performed
  split at performed
  · rename_i msg msgs idle incoming
    injection performed with same
    rw [← same]
    refine inOrder.moved ⟨rfl, rfl, rfl, rfl⟩ ⟨rfl, rfl, rfl⟩ ?_ rfl
    rw [parsed, parsed, idle, incoming]
    rfl
  · cases performed

/-- Each event is handed to the inject thread once. -/
theorem InOrder.send (inOrder : before.InOrder)
    (performed : before.perform capacity .send = some after) :
    after.InOrder := by
  obtain ⟨msg, received, same⟩ := Option.map_eq_some_iff.mp performed
  obtain ⟨arrived, later, captured, parsed, unparsed⟩ := inOrder.account
  rw [InputPath.parsed, received] at parsed
  cases arrived with
  | nil => cases parsed
  | cons event arrived =>
      injection parsed with isEvent parsed
      rw [isEvent, recvDispatch_inputMessage] at same
      rw [← same]
      exact
        { connected := inOrder.connected
          inputsOnly := inOrder.inputsOnly
          reading := inOrder.reading
          fresh := inOrder.fresh
          waiting := inOrder.waiting
          account := by
            refine ⟨arrived, later, ?_, parsed, unparsed⟩
            dsimp only
            rw [captured, InjectThread.handed_send]
            simp
          accepted := inOrder.accepted.send capacity event }

/-- The inject thread works on the events it was handed. -/
theorem InOrder.inject (inOrder : before.InOrder) {inject : InjectThread}
    (handed : inject.handed = before.inject.handed)
    (accepted : inject.Accounted) :
    InOrder { before with inject := inject } where
  connected := inOrder.connected
  inputsOnly := inOrder.inputsOnly
  reading := inOrder.reading
  fresh := inOrder.fresh
  waiting := inOrder.waiting
  account := by
    dsimp only
    rw [handed]
    exact inOrder.account
  accepted := accepted

theorem InOrder.perform (inOrder : before.InOrder) {action : InputAction}
    (performed : before.perform capacity action = some after) :
    after.InOrder := by
  cases action with
  | capture input => exact inOrder.capture performed
  | select => exact inOrder.select performed
  | write count => exact inOrder.write performed
  | finish => exact inOrder.finish performed
  | read count => exact inOrder.read performed
  | forward => exact inOrder.forward performed
  | recv => exact inOrder.recv performed
  | send => exact inOrder.send performed
  | pop =>
      obtain ⟨inject, popped, same⟩ := Option.map_eq_some_iff.mp performed
      obtain ⟨_, event, _, kept⟩ := InjectThread.pop_eq_some popped
      have handed : inject.handed = before.inject.handed := by
        rw [kept]
      rw [← same]
      exact inOrder.inject handed (inOrder.accepted.pop popped)
  | dispatch =>
      obtain ⟨inject, dispatched, same⟩ :=
        Option.map_eq_some_iff.mp performed
      obtain ⟨event, _, kept⟩ := Option.map_eq_some_iff.mp dispatched
      have handed : inject.handed = before.inject.handed := by
        rw [← kept]
      rw [← same]
      exact inOrder.inject handed (inOrder.accepted.dispatch dispatched)

/-! ## Whole runs -/

/-- Nothing is queued anywhere. -/
structure Quiet (path : InputPath) : Prop where
  client : path.client.inputRx = []
  writing : path.writing = none
  pipe : path.pipe = []
  forwarding : path.forwarding = []
  incoming : path.incoming = []
  received : path.received = none
  ring : path.inject.ring = []
  popped : path.inject.popped = none

instance (path : InputPath) : Decidable path.Quiet :=
  decidable_of_iff
    (path.client.inputRx = [] ∧ path.writing = none ∧ path.pipe = [] ∧
      path.forwarding = [] ∧ path.incoming = [] ∧ path.received = none ∧
      path.inject.ring = [] ∧ path.inject.popped = none)
    ⟨fun ⟨client, writing, pipe, forwarding, incoming, received, ring,
        popped⟩ =>
      ⟨client, writing, pipe, forwarding, incoming, received, ring, popped⟩,
      fun quiet => ⟨quiet.client, quiet.writing, quiet.pipe,
        quiet.forwarding, quiet.incoming, quiet.received, quiet.ring,
        quiet.popped⟩⟩

/-- The ring of the inject thread had room for every event so far. -/
def NeverFull (path : InputPath) : Prop :=
  ∀ handed, handed ∈ path.inject.handed → handed.2 = true

instance (path : InputPath) : Decidable path.NeverFull :=
  inferInstanceAs (Decidable (∀ handed ∈ path.inject.handed, _))

/-- When nothing is queued, every captured event has been handed to the
inject thread, and what the ring accepted has been dispatched. -/
theorem InOrder.quiet {path : InputPath} (inOrder : path.InOrder)
    (quiet : path.Quiet) :
    path.captured.map Input.event = path.inject.handed.map Prod.fst ∧
      path.inject.accepted = path.inject.dispatched := by
  obtain ⟨arrived, later, captured, parsed, unparsed⟩ := inOrder.account
  have accepted := inOrder.accepted
  rw [InputPath.parsed, quiet.received, quiet.incoming, quiet.forwarding]
    at parsed
  rw [InputPath.unparsed, quiet.pipe, quiet.writing, quiet.client] at unparsed
  rw [InjectThread.Accounted, quiet.popped, quiet.ring] at accepted
  have noneParsed : arrived = [] := List.map_eq_nil_iff.mp parsed.symm
  have waiting := inOrder.waiting
  have buffered : path.parser.buf = later.flatMap inputWire := by
    rw [← unparsed]
    simp
  rw [buffered] at waiting
  rw [noneParsed, eq_nil_of_scan_more waiting] at captured
  constructor
  · rw [captured]
    simp
  · rw [accepted]
    simp

/-- What follows the dispatched events among the captured ones, while the ring
had room for all of them. -/
theorem InOrder.front {path : InputPath} (inOrder : path.InOrder)
    (room : path.NeverFull) :
    path.inject.dispatched <+: path.captured.map Input.event := by
  obtain ⟨arrived, later, captured, _, _⟩ := inOrder.account
  have accepted := inOrder.accepted
  rw [InjectThread.Accounted, InjectThread.accepted,
    List.filter_eq_self.mpr room] at accepted
  rw [captured, accepted, List.append_assoc]
  exact List.prefix_append _ _

/-- In every state of every interleaving of the loops in which the ring had
room for every event: the bytes sent were all well formed, the dispatched
events are the first of the captured ones, all of them when nothing is
queued, and each decodes to the input it was made of. -/
theorem dispatched_exactly_once {handshake : List (List UInt8)}
    (exchanged : handshake.flatten = buildHandshake)
    {actions : List InputAction} {last : InputPath}
    (run : Run (fun before action after =>
        before.perform capacity action = some after) (start handshake)
      actions last)
    (room : last.NeverFull) :
    last.reading = true ∧
      last.inject.dispatched <+: last.captured.map Input.event ∧
      (last.Quiet →
        last.inject.dispatched = last.captured.map Input.event) ∧
      last.inject.dispatched.map decodeEvent <+:
        last.captured.map Except.ok := by
  have inOrder := run.keeps
    (fun _ _ _ performed kept => InOrder.perform kept performed)
    (inOrder_start exchanged)
  have front := inOrder.front room
  refine ⟨inOrder.reading, front, ?_, ?_⟩
  · intro quiet
    obtain ⟨handed, accepted⟩ := inOrder.quiet quiet
    rw [InjectThread.accepted, List.filter_eq_self.mpr room] at accepted
    rw [handed, accepted]
  · have decoded := front.map decodeEvent
    rw [List.map_map] at decoded
    have same : decodeEvent ∘ Input.event = Except.ok :=
      funext decodeEvent_event
    rw [same] at decoded
    exact decoded

/-- A key press and a motion, cut in the middle of both. -/
def exampleInputs : List Input :=
  [.key ⟨30, 1⟩, .pointerMotion ⟨2, 0, 0x42F70000, 0x43E40000⟩]

def exampleActions : List InputAction :=
  exampleInputs.map .capture ++
    [.select, .write 32, .finish, .select, .read 20, .write 9, .read 21,
      .forward, .recv, .send, .write 23, .pop, .finish, .read 23, .forward,
      .recv, .dispatch, .send, .pop, .dispatch]

def exampleHandshake : List (List UInt8) :=
  [buildHandshake.take 5, buildHandshake.drop 5]

theorem dispatched_exactly_once_example :
    ∃ last, Run (fun before action after =>
        before.perform ringCapacity action = some after)
          (start exampleHandshake) exampleActions last ∧
      last.captured = exampleInputs ∧
      last.inject.dispatched = exampleInputs.map Input.event ∧
      last.inject.dispatched.map decodeEvent <+:
        exampleInputs.map Except.ok := by
  have evaluated :
      (exampleActions.foldlM (perform ringCapacity)
          (start exampleHandshake)).map
        (fun last => (last.captured, decide last.NeverFull,
          decide last.Quiet)) = some (exampleInputs, true, true) := by
    decide +kernel
  obtain ⟨last, iterated, state⟩ := Option.map_eq_some_iff.mp evaluated
  injection state with captured state
  injection state with room quiet
  have run := run_iff_foldlM.mpr iterated
  have exchanged : exampleHandshake.flatten = buildHandshake := by decide
  obtain ⟨_, _, all, decoded⟩ :=
    dispatched_exactly_once exchanged run (of_decide_eq_true room)
  have everything := all (of_decide_eq_true quiet)
  rw [captured] at everything decoded
  exact ⟨last, run, captured, everything, decoded⟩

end InputPath

end RemoteWay.System
