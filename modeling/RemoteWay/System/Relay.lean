import RemoteWay.System.HandshakeFirst

/-!
# Frames from one program to the other

The frames that one side has queued arrive at the other side in the order in
which they were queued, as long as nothing is queued in front of what is
waiting.  The messages that the main task of the receiver has taken are the
first of those that the queued frames stand for.  All steps of both sides
keep this, also the end of a connection.
-/

namespace RemoteWay.System

open RemoteWay.Base RemoteWay.Proto RemoteWay.Transport

/-! ## The invariant -/

/-- The queued packets in the order in which `write_loop` takes them. -/
def queuedBytes (transport : SshTransport) : List UInt8 :=
  transport.inputRx.flatten ++
    (transport.anchorRx.flatten ++ transport.frameRx.flatten)

/-- What a sender has accepted and not written. -/
def Endpoint.outgoing (endpoint : Endpoint) : List UInt8 :=
  endpoint.unwritten ++ queuedBytes endpoint.transport

/-- The first frames of a stream have been parsed, and the bytes of the next
ones are on the way.  While the sender is connected, these are all. -/
structure Relayed (stream parsed left : List Frame) (rest : List UInt8)
    (sender receiver : Endpoint) (taken : List IncomingMessage) : Prop where
  front : parsed ++ left <+: stream
  waiting : frameScanner.scan receiver.parser.buf = .more
  messages : Scanner.reactAll reassembleFrame (fun _ => none) parsed =
    (receiver.parser.chunks,
      taken ++ (receiver.incoming ++ receiver.forwarding))
  bytes : receiver.parser.buf ++ (receiver.inbound ++ rest) =
    left.flatMap Frame.encode
  whole : sender.transport.connected = true →
    parsed ++ left = stream ∧ rest = sender.outgoing

/-- The receiver gets the frames of a stream, and its main task has taken the
given messages. -/
def Relay (stream : List Frame) (sender receiver : Endpoint)
    (taken : List IncomingMessage) : Prop :=
  ∃ parsed left rest,
    Relayed stream parsed left rest sender receiver taken

theorem relay_initial : Relay [] Endpoint.initial Endpoint.initial [] :=
  ⟨[], [], [], ⟨List.prefix_rfl, rfl, rfl, rfl, fun _ => ⟨rfl, rfl⟩⟩⟩

section Steps

variable {stream : List Frame} {sender receiver after : Endpoint}
variable {taken : List IncomingMessage}

/-! ## Steps of the sender -/

/-- Frames are queued behind everything else. -/
theorem Relay.queue (relay : Relay stream sender receiver taken)
    (frames : List Frame)
    (queued : after.transport.connected = true →
      sender.transport.connected = true ∧
        after.outgoing = sender.outgoing ++ frames.flatMap Frame.encode) :
    Relay (stream ++ frames) after receiver taken := by
  obtain ⟨parsed, left, rest, relayed⟩ := relay
  by_cases connected : after.transport.connected = true
  · obtain ⟨early, longer⟩ := queued connected
    obtain ⟨all, restEq⟩ := relayed.whole early
    have joined : parsed ++ (left ++ frames) = stream ++ frames := by
      rw [← List.append_assoc, all]
    refine ⟨parsed, left ++ frames, after.outgoing,
      ⟨?_, relayed.waiting, relayed.messages, ?_, fun _ => ⟨joined, rfl⟩⟩⟩
    · exact joined ▸ List.prefix_rfl
    · rw [List.flatMap_append, ← relayed.bytes, longer, restEq]
      simp only [List.append_assoc]
  · exact ⟨parsed, left, rest,
      ⟨relayed.front.trans (List.prefix_append _ _), relayed.waiting,
        relayed.messages, relayed.bytes, fun still =>
          absurd still connected⟩⟩

/-- Nothing is queued. -/
theorem Relay.sender_kept (relay : Relay stream sender receiver taken)
    (kept : after.transport.connected = true →
      sender.transport.connected = true ∧
        after.outgoing = sender.outgoing) :
    Relay stream after receiver taken := by
  rw [← List.append_nil stream]
  apply relay.queue
  intro connected
  rw [List.flatMap_nil, List.append_nil]
  exact kept connected

theorem queuedBytes_of_nextPacket {transport rest : SshTransport}
    {packet : Packet} (next : transport.nextPacket = some (packet, rest)) :
    queuedBytes transport = packet.data ++ queuedBytes rest := by
  obtain ⟨inputRx, anchorRx, frameRx, connected, written⟩ := transport
  cases inputRx with
  | cons data inputs =>
      injection next with next
      injection next with packetEq restEq
      subst packetEq restEq
      simp [queuedBytes]
  | nil =>
      cases anchorRx with
      | cons data anchors =>
          injection next with next
          injection next with packetEq restEq
          subst packetEq restEq
          simp [queuedBytes]
      | nil =>
          cases frameRx with
          | cons data frames =>
              injection next with next
              injection next with packetEq restEq
              subst packetEq restEq
              simp [queuedBytes]
          | nil => cases next

theorem Relay.select (relay : Relay stream sender receiver taken)
    (selected : sender.select = some after) :
    Relay stream after receiver taken := by
  rw [Endpoint.select] at selected
  obtain ⟨⟨connected, vacant⟩, selected⟩ :=
    Option.ite_none_right_eq_some.mp selected
  obtain ⟨⟨packet, transport⟩, next, same⟩ :=
    Option.map_eq_some_iff.mp selected
  apply relay.sender_kept
  intro _
  refine ⟨connected, ?_⟩
  rw [← same, Endpoint.outgoing, Endpoint.outgoing,
    queuedBytes_of_nextPacket next, Endpoint.unwritten, Endpoint.unwritten,
    vacant]
  rfl

theorem Relay.write {count : Nat} {bytes : List UInt8}
    (relay : Relay stream sender receiver taken)
    (wrote : sender.write count = some (after, bytes)) :
    Relay stream after (receiver.deliver bytes) taken := by
  rw [Endpoint.write] at wrote
  split at wrote
  · rename_i packet rest writing
    obtain ⟨⟨connected, _, _⟩, same⟩ :=
      Option.ite_none_right_eq_some.mp wrote
    injection same with same
    injection same with afterEq bytesEq
    obtain ⟨parsed, left, unsent, relayed⟩ := relay
    obtain ⟨all, unsentEq⟩ := relayed.whole connected
    have split : sender.outgoing = bytes ++ after.outgoing := by
      rw [← afterEq, ← bytesEq, Endpoint.outgoing, Endpoint.outgoing,
        Endpoint.unwritten, Endpoint.unwritten, writing]
      simp only [Option.map_some, Option.getD_some]
      rw [← List.append_assoc, List.take_append_drop]
    refine ⟨parsed, left, after.outgoing,
      ⟨relayed.front, relayed.waiting, relayed.messages, ?_,
        fun _ => ⟨all, rfl⟩⟩⟩
    rw [← relayed.bytes, unsentEq, split, Endpoint.deliver]
    simp only [List.append_assoc]
  · cases wrote

theorem Relay.finish (relay : Relay stream sender receiver taken)
    (finished : sender.finish = some after) :
    Relay stream after receiver taken := by
  rw [Endpoint.finish] at finished
  split at finished
  · rename_i packet writing
    obtain ⟨connected, same⟩ := Option.ite_none_right_eq_some.mp finished
    injection same with same
    apply relay.sender_kept
    intro _
    refine ⟨connected, ?_⟩
    rw [← same, Endpoint.outgoing, Endpoint.outgoing, Endpoint.unwritten,
      Endpoint.unwritten, writing]
    rfl
  · cases finished

/-- A sender that has queued nothing has nothing left to write. -/
theorem Relay.updates_of_nil (relay : Relay stream sender receiver taken)
    (nothing : stream = []) (connected : sender.transport.connected = true) :
    sender.transport.frameRx.flatten = [] := by
  obtain ⟨parsed, left, rest, relayed⟩ := relay
  obtain ⟨all, restEq⟩ := relayed.whole connected
  rw [nothing] at all
  have bytes := relayed.bytes
  rw [(List.append_eq_nil_iff.mp all).2, List.flatMap_nil,
    List.append_eq_nil_iff, List.append_eq_nil_iff] at bytes
  have empty := restEq.symm.trans bytes.2.2
  rw [Endpoint.outgoing, queuedBytes, List.append_eq_nil_iff,
    List.append_eq_nil_iff, List.append_eq_nil_iff] at empty
  exact empty.2.2.2

/-- The handshake is queued. -/
theorem Relay.start {frame : Frame}
    (relay : Relay stream sender receiver taken)
    (updates : sender.transport.connected = true →
      sender.transport.frameRx.flatten = [])
    (started : sender.start frame.encode = some after) :
    Relay (stream ++ [frame]) after receiver taken := by
  rw [Endpoint.start] at started
  split at started
  · injection started with same
    apply relay.queue
    intro connected
    rcases sender.transport.sendAnchor_eq frame.encode with
      ⟨ended, sent⟩ | ⟨early, sent⟩
    · rw [← same] at connected
      dsimp only at connected
      rw [sent, ended] at connected
      cases connected
    · refine ⟨early, ?_⟩
      rw [← same, Endpoint.outgoing, Endpoint.outgoing]
      dsimp only
      rw [sent, queuedBytes, queuedBytes, updates early,
        List.flatMap_singleton]
      simp [Endpoint.unwritten]
  · cases started

/-- The main task and `read_loop` of the sender leave its queues alone. -/
theorem Relay.of_sameQueues (relay : Relay stream sender receiver taken)
    (same : SameQueues sender after)
    (connected : after.transport.connected = true →
      sender.transport.connected = true) :
    Relay stream after receiver taken := by
  apply relay.sender_kept
  intro still
  refine ⟨connected still, ?_⟩
  rw [Endpoint.outgoing, Endpoint.outgoing, Endpoint.unwritten,
    Endpoint.unwritten, same.writing, queuedBytes, queuedBytes, same.inputs,
    same.anchors, same.frames]

/-- What `recv` does: check the first message, end the program without one,
or take a later message. -/
theorem recv_cases {endpoint : Endpoint}
    (received : endpoint.recv = some after) :
    (∃ msg msgs, endpoint.main = .waiting ∧
        endpoint.incoming = msg :: msgs ∧
        after = { endpoint with incoming := msgs }.check msg) ∨
      (endpoint.main = .waiting ∧ endpoint.incoming = [] ∧
        after = endpoint.bail "transport closed before handshake") ∨
      ∃ first msg msgs, endpoint.main = .running first ∧
        endpoint.incoming = msg :: msgs ∧
        after = { endpoint with incoming := msgs } := by
  rw [Endpoint.recv] at received
  split at received
  · rename_i msg msgs waiting incoming
    injection received with same
    exact Or.inl ⟨msg, msgs, waiting, incoming, same.symm⟩
  · rename_i waiting empty
    split at received
    · cases received
    · injection received with same
      exact Or.inr (Or.inl ⟨waiting, empty, same.symm⟩)
  · rename_i first msg msgs running incoming
    injection received with same
    exact Or.inr (Or.inr ⟨first, msg, msgs, running, incoming, same.symm⟩)
  · cases received

/-- The handshake check concerns only the main task and the connection. -/
theorem check_keeps (endpoint : Endpoint) (msg : IncomingMessage) :
    (endpoint.check msg).incoming = endpoint.incoming ∧
      (endpoint.check msg).parser = endpoint.parser ∧
      (endpoint.check msg).inbound = endpoint.inbound ∧
      (endpoint.check msg).forwarding = endpoint.forwarding ∧
      ((endpoint.check msg).transport.connected = true →
        endpoint.transport.connected = true) := by
  rw [Endpoint.check]
  split
  · exact ⟨rfl, rfl, rfl, rfl, id⟩
  · refine ⟨rfl, rfl, rfl, rfl, ?_⟩
    intro still
    cases still

theorem connected_of_recv (received : sender.recv = some after)
    (still : after.transport.connected = true) :
    sender.transport.connected = true := by
  rcases recv_cases received with ⟨msg, msgs, _, _, same⟩ |
    ⟨_, _, same⟩ | ⟨_, _, _, _, _, same⟩
  · rw [same] at still
    exact (check_keeps { sender with incoming := msgs } msg).2.2.2.2 still
  · rw [same] at still
    cases still
  · rw [same] at still
    exact still

theorem connected_of_read {count : Nat}
    (done : sender.read count = some after) :
    sender.transport.connected = true := by
  rw [Endpoint.read] at done
  exact (Option.ite_none_right_eq_some.mp done).1.1

theorem connected_of_forward (forwarded : sender.forward = some after) :
    sender.transport.connected = true := by
  rw [Endpoint.forward] at forwarded
  split at forwarded
  · exact (Option.ite_none_right_eq_some.mp forwarded).1.1
  · cases forwarded

/-- A transport is never connected again. -/
theorem connected_of_perform {data bytes : List UInt8} {step : TaskStep}
    (performed : sender.perform data step = some (after, bytes))
    (still : after.transport.connected = true) :
    sender.transport.connected = true := by
  cases step with
  | start =>
      obtain ⟨next, started, same⟩ := Option.map_eq_some_iff.mp performed
      injection same with nextEq _
      rw [← nextEq] at still
      rw [Endpoint.start] at started
      split at started
      · injection started with same
        rcases sender.transport.sendAnchor_eq data with
          ⟨ended, sent⟩ | ⟨connected, _⟩
        · rw [← same] at still
          dsimp only at still
          rw [sent, ended] at still
          cases still
        · exact connected
      · cases started
  | recv =>
      obtain ⟨next, received, same⟩ := Option.map_eq_some_iff.mp performed
      injection same with nextEq _
      rw [← nextEq] at still
      exact connected_of_recv received still
  | select =>
      obtain ⟨next, selected, _⟩ := Option.map_eq_some_iff.mp performed
      rw [Endpoint.select] at selected
      exact (Option.ite_none_right_eq_some.mp selected).1.1
  | write count =>
      rw [Endpoint.perform, Endpoint.write] at performed
      split at performed
      · exact (Option.ite_none_right_eq_some.mp performed).1.1
      · cases performed
  | finish =>
      obtain ⟨next, finished, _⟩ := Option.map_eq_some_iff.mp performed
      rw [Endpoint.finish] at finished
      split at finished
      · exact (Option.ite_none_right_eq_some.mp finished).1
      · cases finished
  | read count =>
      obtain ⟨next, done, _⟩ := Option.map_eq_some_iff.mp performed
      exact connected_of_read done
  | forward =>
      obtain ⟨next, forwarded, _⟩ := Option.map_eq_some_iff.mp performed
      exact connected_of_forward forwarded

/-- Only the start and the first message concern the main task. -/
theorem main_of_perform {data bytes : List UInt8} {step : TaskStep}
    (performed : sender.perform data step = some (after, bytes))
    (started : step ≠ .start) (received : step ≠ .recv) :
    after.main = sender.main := by
  cases step with
  | start => exact absurd rfl started
  | recv => exact absurd rfl received
  | select =>
      obtain ⟨next, selected, same⟩ := Option.map_eq_some_iff.mp performed
      injection same with nextEq _
      rw [← nextEq]
      rw [Endpoint.select] at selected
      obtain ⟨_, selected⟩ := Option.ite_none_right_eq_some.mp selected
      obtain ⟨_, _, same⟩ := Option.map_eq_some_iff.mp selected
      rw [← same]
  | write count =>
      rw [Endpoint.perform, Endpoint.write] at performed
      split at performed
      · obtain ⟨_, same⟩ := Option.ite_none_right_eq_some.mp performed
        injection same with same
        injection same with same _
        rw [← same]
      · cases performed
  | finish =>
      obtain ⟨next, finished, same⟩ := Option.map_eq_some_iff.mp performed
      injection same with nextEq _
      rw [← nextEq]
      rw [Endpoint.finish] at finished
      split at finished
      · obtain ⟨_, same⟩ := Option.ite_none_right_eq_some.mp finished
        injection same with same
        rw [← same]
      · cases finished
  | read count =>
      obtain ⟨next, done, same⟩ := Option.map_eq_some_iff.mp performed
      injection same with nextEq _
      rw [← nextEq]
      rw [Endpoint.read] at done
      obtain ⟨_, done⟩ := Option.ite_none_right_eq_some.mp done
      split at done
      · injection done with same
        rw [← same]
      · injection done with same
        rw [← same]
  | forward =>
      obtain ⟨next, forwarded, same⟩ := Option.map_eq_some_iff.mp performed
      injection same with nextEq _
      rw [← nextEq]
      rw [Endpoint.forward] at forwarded
      split at forwarded
      · obtain ⟨_, same⟩ := Option.ite_none_right_eq_some.mp forwarded
        injection same with same
        rw [← same]
      · cases forwarded

/-- The program has started after any step of its main task. -/
theorem begun_of_recv (received : sender.recv = some after) :
    sender.main ≠ .starting ∧ after.main ≠ .starting := by
  rcases recv_cases received with ⟨msg, msgs, waiting, _, same⟩ |
    ⟨waiting, _, same⟩ | ⟨first, msg, msgs, running, _, same⟩
  · rw [waiting, same, Endpoint.check]
    constructor
    · intro starting
      cases starting
    · intro starting
      split at starting
      · cases starting
      · cases starting
  · rw [waiting, same]
    constructor
    · intro starting
      cases starting
    · intro starting
      cases starting
  · rw [running, same]
    constructor
    · intro starting
      cases starting
    · intro starting
      rw [running] at starting
      cases starting

theorem main_of_start {data : List UInt8}
    (started : sender.start data = some after) :
    sender.main = .starting ∧ after.main = .waiting := by
  rw [Endpoint.start] at started
  split at started
  · rename_i starting
    injection started with same
    rw [← same]
    exact ⟨starting, rfl⟩
  · cases started

/-- The frames that a step queues. -/
def framesOfStep (frame : Frame) : TaskStep → List Frame
  | .start => [frame]
  | .recv | .select | .write _ | .finish | .read _ | .forward => []

/-- Any step of the sender. -/
theorem Relay.sends {frame : Frame} {bytes : List UInt8} {step : TaskStep}
    (relay : Relay stream sender receiver taken)
    (fresh : sender.main = .starting → stream = [])
    (performed : sender.perform frame.encode step = some (after, bytes)) :
    Relay (stream ++ framesOfStep frame step) after
      (receiver.deliver bytes) taken := by
  cases step with
  | start =>
      obtain ⟨next, started, same⟩ := Option.map_eq_some_iff.mp performed
      injection same with nextEq bytesEq
      subst nextEq bytesEq
      rw [deliver_nil]
      apply relay.start _ started
      intro connected
      apply relay.updates_of_nil _ connected
      exact fresh (main_of_start started).1
  | recv =>
      obtain ⟨next, received, same⟩ := Option.map_eq_some_iff.mp performed
      injection same with nextEq bytesEq
      subst nextEq bytesEq
      rw [deliver_nil, framesOfStep, List.append_nil]
      exact relay.of_sameQueues (sameQueues_recv received)
        (connected_of_recv received)
  | select =>
      obtain ⟨next, selected, same⟩ := Option.map_eq_some_iff.mp performed
      injection same with nextEq bytesEq
      subst nextEq bytesEq
      rw [deliver_nil, framesOfStep, List.append_nil]
      exact relay.select selected
  | write count =>
      rw [framesOfStep, List.append_nil]
      exact relay.write performed
  | finish =>
      obtain ⟨next, finished, same⟩ := Option.map_eq_some_iff.mp performed
      injection same with nextEq bytesEq
      subst nextEq bytesEq
      rw [deliver_nil, framesOfStep, List.append_nil]
      exact relay.finish finished
  | read count =>
      obtain ⟨next, done, same⟩ := Option.map_eq_some_iff.mp performed
      injection same with nextEq bytesEq
      subst nextEq bytesEq
      rw [deliver_nil, framesOfStep, List.append_nil]
      exact relay.of_sameQueues (sameQueues_read done)
        fun _ => connected_of_read done
  | forward =>
      obtain ⟨next, forwarded, same⟩ := Option.map_eq_some_iff.mp performed
      injection same with nextEq bytesEq
      subst nextEq bytesEq
      rw [deliver_nil, framesOfStep, List.append_nil]
      exact relay.of_sameQueues (sameQueues_forward forwarded)
        fun _ => connected_of_forward forwarded

/-! ## Steps of the receiver -/

/-- A step of the receiver that handles no messages. -/
theorem Relay.receiver_kept (relay : Relay stream sender receiver taken)
    (inbound : after.inbound = receiver.inbound)
    (parser : after.parser = receiver.parser)
    (forwarding : after.forwarding = receiver.forwarding)
    (incoming : after.incoming = receiver.incoming) :
    Relay stream sender after taken := by
  obtain ⟨parsed, left, rest, relayed⟩ := relay
  refine ⟨parsed, left, rest, ⟨relayed.front, ?_, ?_, ?_, relayed.whole⟩⟩
  · rw [parser]
    exact relayed.waiting
  · rw [parser, incoming, forwarding]
    exact relayed.messages
  · rw [parser, inbound]
    exact relayed.bytes

theorem Relay.of_sameMessages (relay : Relay stream sender receiver taken)
    (same : SameMessages receiver after) :
    Relay stream sender after taken :=
  relay.receiver_kept same.inbound same.parser same.forwarding same.incoming

/-- `read_loop` parses the next frames of the stream. -/
theorem Relay.read {count : Nat}
    (relay : Relay stream sender receiver taken)
    (done : receiver.read count = some after) :
    Relay stream sender after taken := by
  obtain ⟨parsed, left, rest, relayed⟩ := relay
  rw [Endpoint.read] at done
  obtain ⟨⟨_, nothing, _⟩, done⟩ := Option.ite_none_right_eq_some.mp done
  have bytes := relayed.bytes
  rw [← List.take_append_drop count receiver.inbound, List.append_assoc]
    at bytes
  obtain ⟨arrived, later, buffer, split, others, more, pushed⟩ :=
    push_frames bytes
  rw [pushed] at done
  injection done with same
  have joined : parsed ++ arrived ++ later = parsed ++ left := by
    rw [split, List.append_assoc]
  have messages := relayed.messages
  rw [nothing, List.append_nil] at messages
  refine ⟨parsed ++ arrived, later, rest, ⟨?_, ?_, ?_, ?_, ?_⟩⟩
  · rw [joined]
    exact relayed.front
  · rw [← same]
    exact more
  · rw [Scanner.reactAll_append, messages, ← same]
    simp only [List.append_assoc]
  · rw [← same]
    exact others
  · intro connected
    rw [joined]
    exact relayed.whole connected

theorem Relay.forward (relay : Relay stream sender receiver taken)
    (forwarded : receiver.forward = some after) :
    Relay stream sender after taken := by
  obtain ⟨parsed, left, rest, relayed⟩ := relay
  rw [Endpoint.forward] at forwarded
  split at forwarded
  · rename_i msg msgs forwarding
    obtain ⟨_, same⟩ := Option.ite_none_right_eq_some.mp forwarded
    injection same with same
    refine ⟨parsed, left, rest, ?_⟩
    rw [← same]
    refine ⟨relayed.front, relayed.waiting, ?_, relayed.bytes,
      relayed.whole⟩
    rw [relayed.messages, forwarding]
    simp
  · cases forwarded

/-- The message that a step takes out of the channel, if any. -/
def messagesOfStep (endpoint : Endpoint) : TaskStep → List IncomingMessage
  | .recv => endpoint.incoming.take 1
  | .start | .select | .write _ | .finish | .read _ | .forward => []

theorem Relay.recv (relay : Relay stream sender receiver taken)
    (received : receiver.recv = some after) :
    Relay stream sender after (taken ++ receiver.incoming.take 1) := by
  have popped : after.incoming = receiver.incoming.drop 1 ∧
      after.parser = receiver.parser ∧ after.inbound = receiver.inbound ∧
      after.forwarding = receiver.forwarding := by
    rcases recv_cases received with ⟨msg, msgs, _, incoming, same⟩ |
      ⟨_, incoming, same⟩ | ⟨_, msg, msgs, _, incoming, same⟩
    · obtain ⟨left, parser, inbound, forwarding, _⟩ :=
        check_keeps { receiver with incoming := msgs } msg
      rw [same, incoming]
      exact ⟨left, parser, inbound, forwarding⟩
    · rw [same, incoming]
      exact ⟨incoming, rfl, rfl, rfl⟩
    · rw [same, incoming]
      exact ⟨rfl, rfl, rfl, rfl⟩
  obtain ⟨incoming, parser, inbound, forwarding⟩ := popped
  obtain ⟨parsed, left, rest, relayed⟩ := relay
  refine ⟨parsed, left, rest, ⟨relayed.front, ?_, ?_, ?_, relayed.whole⟩⟩
  · rw [parser]
    exact relayed.waiting
  · rw [relayed.messages, parser, incoming, forwarding, List.append_assoc,
      ← List.append_assoc (receiver.incoming.take 1),
      List.take_append_drop]
  · rw [parser, inbound]
    exact relayed.bytes

/-- Any step of the receiver. -/
theorem Relay.receives {data bytes : List UInt8} {step : TaskStep}
    (relay : Relay stream sender receiver taken)
    (performed : receiver.perform data step = some (after, bytes)) :
    Relay stream (sender.deliver bytes) after
      (taken ++ messagesOfStep receiver step) := by
  have delivered : ∀ next msgs, Relay stream sender next msgs →
      Relay stream (sender.deliver bytes) next msgs := fun _ _ other =>
    other.sender_kept fun connected => ⟨connected, rfl⟩
  apply delivered
  cases step with
  | start =>
      obtain ⟨next, started, same⟩ := Option.map_eq_some_iff.mp performed
      injection same with nextEq _
      rw [← nextEq, messagesOfStep, List.append_nil]
      exact relay.of_sameMessages (sameMessages_start started)
  | recv =>
      obtain ⟨next, received, same⟩ := Option.map_eq_some_iff.mp performed
      injection same with nextEq _
      rw [← nextEq]
      exact relay.recv received
  | select =>
      obtain ⟨next, selected, same⟩ := Option.map_eq_some_iff.mp performed
      injection same with nextEq _
      rw [← nextEq, messagesOfStep, List.append_nil]
      exact relay.of_sameMessages (sameMessages_select selected)
  | write count =>
      rw [messagesOfStep, List.append_nil]
      exact relay.of_sameMessages (sameMessages_write performed)
  | finish =>
      obtain ⟨next, finished, same⟩ := Option.map_eq_some_iff.mp performed
      injection same with nextEq _
      rw [← nextEq, messagesOfStep, List.append_nil]
      exact relay.of_sameMessages (sameMessages_finish finished)
  | read count =>
      obtain ⟨next, done, same⟩ := Option.map_eq_some_iff.mp performed
      injection same with nextEq _
      rw [← nextEq, messagesOfStep, List.append_nil]
      exact relay.read done
  | forward =>
      obtain ⟨next, forwarded, same⟩ := Option.map_eq_some_iff.mp performed
      injection same with nextEq _
      rw [← nextEq, messagesOfStep, List.append_nil]
      exact relay.forward forwarded

/-! ## What has been received -/

/-- The messages that a stream stands for. -/
def streamMessages (stream : List Frame) : List IncomingMessage :=
  (Scanner.reactAll reassembleFrame (fun _ => none) stream).2

theorem streamMessages_prefix {front whole : List Frame}
    (isFront : front <+: whole) :
    streamMessages front <+: streamMessages whole := by
  obtain ⟨later, rfl⟩ := isFront
  rw [streamMessages, streamMessages, Scanner.reactAll_append]
  exact List.prefix_append _ _

/-- The main task takes the messages of the stream in order. -/
theorem Relay.taken_prefix (relay : Relay stream sender receiver taken) :
    taken ++ receiver.incoming <+: streamMessages stream := by
  obtain ⟨parsed, left, rest, relayed⟩ := relay
  have early : streamMessages parsed <+: streamMessages stream :=
    streamMessages_prefix
      ((List.prefix_append parsed left).trans relayed.front)
  rw [streamMessages, relayed.messages, ← List.append_assoc] at early
  exact (List.prefix_append _ _).trans early

/-- Nothing is on the way. -/
structure Settled (sender receiver : Endpoint) : Prop where
  connected : sender.transport.connected = true
  outgoing : sender.outgoing = []
  inbound : receiver.inbound = []
  forwarding : receiver.forwarding = []
  incoming : receiver.incoming = []

/-- When nothing is on the way, the main task has taken all messages. -/
theorem Relay.taken_of_settled (relay : Relay stream sender receiver taken)
    (settled : Settled sender receiver) : taken = streamMessages stream := by
  obtain ⟨parsed, left, rest, relayed⟩ := relay
  obtain ⟨all, restEq⟩ := relayed.whole settled.connected
  have bytes := relayed.bytes
  rw [settled.inbound, restEq, settled.outgoing] at bytes
  have none : left = [] := by
    cases left with
    | nil => rfl
    | cons frame left =>
        rw [List.append_nil, List.append_nil, List.flatMap_cons] at bytes
        have scanned := frameScanner.token_stable
          (left.flatMap Frame.encode) (frameScanner_scan_encode frame)
        have waiting := relayed.waiting
        rw [bytes] at waiting
        cases waiting.symm.trans scanned
  rw [none, List.append_nil] at all
  have messages := relayed.messages
  rw [settled.incoming, settled.forwarding, List.append_nil, List.append_nil,
    all] at messages
  rw [streamMessages, messages]

end Steps

end RemoteWay.System
