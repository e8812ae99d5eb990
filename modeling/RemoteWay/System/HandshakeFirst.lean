import RemoteWay.System.Startup

/-!
# The handshake comes first

What has been written in one direction is the handshake and then frames, as
long as nothing overtakes the handshake in the queues of the sender.  The
server sends no inputs, so nothing overtakes its handshake.  An input of the
client does, if it is queued before `write_loop` has taken the handshake.
-/

namespace RemoteWay.System

open RemoteWay.Base RemoteWay.Proto RemoteWay.Transport
open RemoteWay.Input RemoteWay.Server

/-! ## One direction -/

/-- A handshake of a single chunk. -/
structure IsHandshake (frame : Frame) : Prop where
  typed : frame.header.msgType = .ok .handshake
  whole : frame.header.isLast = true

/-- A frame of a single chunk as it arrives. -/
def arrivalMessage (frame : Frame) : IncomingMessage :=
  ⟨frame.header, frame.payload⟩

/-- Bytes that are the encodings of frames. -/
def WellFramed (data : List UInt8) : Prop :=
  ∃ frames : List Frame, data = frames.flatMap Frame.encode

/-- All queued packets are well framed. -/
def Framed (transport : SshTransport) : Prop :=
  ∀ data, data ∈ transport.inputRx ∨ data ∈ transport.anchorRx ∨
    data ∈ transport.frameRx → WellFramed data

namespace Endpoint

/-- Nothing has been queued. -/
structure Unsent (endpoint : Endpoint) : Prop where
  starting : endpoint.main = .starting
  inputs : endpoint.transport.inputRx = []
  anchors : endpoint.transport.anchorRx = []
  frames : endpoint.transport.frameRx = []

/-- The handshake is what `write_loop` takes next. -/
structure Due (endpoint : Endpoint) (frame : Frame) : Prop where
  inputs : endpoint.transport.inputRx = []
  anchors : ∃ others, endpoint.transport.anchorRx = frame.encode :: others

/-- The main task has not received a message. -/
def Unmet (endpoint : Endpoint) : Prop :=
  endpoint.main = .starting ∨ endpoint.main = .waiting

/-- No message has arrived. -/
structure Idle (endpoint : Endpoint) : Prop where
  unmet : endpoint.Unmet
  incoming : endpoint.incoming = []
  forwarding : endpoint.forwarding = []
  chunks : endpoint.parser.chunks = fun _ => none

/-- The first message is, or is going to be, the given one. -/
def Greeted (endpoint : Endpoint) (first : IncomingMessage) : Prop :=
  endpoint.main = .running first ∨
    (endpoint.Unmet ∧
      ∃ others, endpoint.incoming ++ endpoint.forwarding = first :: others)

/-- What has not been written of the packet that was taken last. -/
def unwritten (endpoint : Endpoint) : List UInt8 :=
  (endpoint.writing.map Prod.snd).getD []

end Endpoint

/-- The bytes on the way that have not been parsed. -/
def flight (sender receiver : Endpoint) : List UInt8 :=
  receiver.parser.buf ++ (receiver.inbound ++ sender.unwritten)

/-- How far the handshake has come. -/
inductive Progress (frame : Frame) (sender receiver : Endpoint) : Prop where
  | unsent : receiver.Idle → sender.Unsent → sender.writing = none →
      flight sender receiver = [] → Progress frame sender receiver
  | due : receiver.Idle → sender.Due frame → sender.writing = none →
      flight sender receiver = [] → Progress frame sender receiver
  | sent (frames : List Frame) : receiver.Idle →
      flight sender receiver = (frame :: frames).flatMap Frame.encode →
        Progress frame sender receiver
  | greeted (frames : List Frame) :
      receiver.Greeted (arrivalMessage frame) →
      flight sender receiver = frames.flatMap Frame.encode →
        Progress frame sender receiver

/-- The handshake comes first in one direction. -/
structure Stream (frame : Frame) (sender receiver : Endpoint) : Prop where
  connected : receiver.transport.connected = true
  waiting : frameScanner.scan receiver.parser.buf = .more
  framed : Framed sender.transport
  progress : Progress frame sender receiver

variable {frame : Frame} {sender receiver after : Endpoint}

theorem Endpoint.Unmet.ne_running {endpoint : Endpoint}
    {msg : IncomingMessage} (unmet : endpoint.Unmet) :
    endpoint.main ≠ .running msg := by
  intro running
  rcases unmet with early | early
  · rw [running] at early
    cases early
  · rw [running] at early
    cases early

/-- What is no longer idle has been greeted. -/
theorem Progress.greeted_of_busy (progress : Progress frame sender receiver)
    (busy : ¬receiver.Idle) :
    receiver.Greeted (arrivalMessage frame) ∧ ∃ frames : List Frame,
      flight sender receiver = frames.flatMap Frame.encode := by
  cases progress with
  | unsent idle _ _ _ => exact absurd idle busy
  | due idle _ _ _ => exact absurd idle busy
  | sent frames idle _ => exact absurd idle busy
  | greeted frames greeted sent => exact ⟨greeted, frames, sent⟩

@[simp]
theorem deliver_nil (endpoint : Endpoint) : endpoint.deliver [] = endpoint := by
  rw [Endpoint.deliver, List.append_nil]

/-! ## Steps of the sender -/

/-- A step of the sender that leaves its queues alone. -/
theorem Stream.sender_kept (stream : Stream frame sender receiver)
    (inputs : after.transport.inputRx = sender.transport.inputRx)
    (anchors : after.transport.anchorRx = sender.transport.anchorRx)
    (frames : after.transport.frameRx = sender.transport.frameRx)
    (writing : after.writing = sender.writing)
    (starting : sender.main = .starting → after.main = .starting) :
    Stream frame after receiver := by
  obtain ⟨connected, waiting, framed, progress⟩ := stream
  have sameFlight : flight after receiver = flight sender receiver := by
    rw [flight, flight, Endpoint.unwritten, Endpoint.unwritten, writing]
  refine ⟨connected, waiting, ?_, ?_⟩
  · intro data member
    rw [inputs, anchors, frames] at member
    exact framed data member
  · rcases progress with ⟨idle, unsent, nothing, empty⟩ |
      ⟨idle, due, nothing, empty⟩ | ⟨rest, idle, sent⟩ |
      ⟨rest, greeted, sent⟩
    · refine .unsent idle ?_ (writing.trans nothing)
        (sameFlight.trans empty)
      exact ⟨starting unsent.starting, inputs.trans unsent.inputs,
        anchors.trans unsent.anchors, frames.trans unsent.frames⟩
    · obtain ⟨others, next⟩ := due.anchors
      exact .due idle
        ⟨inputs.trans due.inputs, others, anchors.trans next⟩
        (writing.trans nothing) (sameFlight.trans empty)
    · exact .sent rest idle (sameFlight.trans sent)
    · exact .greeted rest greeted (sameFlight.trans sent)

/-- The sender queues packets behind the handshake. -/
theorem Stream.queue (stream : Stream frame sender receiver)
    (framed : Framed after.transport)
    (writing : after.writing = sender.writing)
    (begun : sender.main ≠ .starting)
    (due : sender.Due frame → after.Due frame) :
    Stream frame after receiver := by
  obtain ⟨connected, waiting, _, progress⟩ := stream
  have sameFlight : flight after receiver = flight sender receiver := by
    rw [flight, flight, Endpoint.unwritten, Endpoint.unwritten, writing]
  refine ⟨connected, waiting, framed, ?_⟩
  rcases progress with ⟨_, unsent, _, _⟩ | ⟨idle, next, nothing, empty⟩ |
    ⟨rest, idle, sent⟩ | ⟨rest, greeted, sent⟩
  · exact absurd unsent.starting begun
  · exact .due idle (due next) (writing.trans nothing)
      (sameFlight.trans empty)
  · exact .sent rest idle (sameFlight.trans sent)
  · exact .greeted rest greeted (sameFlight.trans sent)

theorem wellFramed_encode (frame : Frame) : WellFramed frame.encode :=
  ⟨[frame], (List.flatMap_singleton _ _).symm⟩

theorem framed_of_nextPacket {transport rest : SshTransport}
    {packet : Packet} (framed : Framed transport)
    (next : transport.nextPacket = some (packet, rest)) :
    WellFramed packet.data ∧ Framed rest := by
  obtain ⟨inputRx, anchorRx, frameRx, connected, written⟩ := transport
  cases inputRx with
  | cons data inputs =>
      injection next with next
      injection next with packetEq restEq
      subst packetEq restEq
      refine ⟨framed data (Or.inl List.mem_cons_self), ?_⟩
      intro other member
      rcases member with input | queued
      · exact framed other (Or.inl (List.mem_cons_of_mem data input))
      · exact framed other (Or.inr queued)
  | nil =>
      cases anchorRx with
      | cons data anchors =>
          injection next with next
          injection next with packetEq restEq
          subst packetEq restEq
          refine ⟨framed data (Or.inr (Or.inl List.mem_cons_self)), ?_⟩
          intro other member
          rcases member with input | anchor | queued
          · exact framed other (Or.inl input)
          · exact framed other
              (Or.inr (Or.inl (List.mem_cons_of_mem data anchor)))
          · exact framed other (Or.inr (Or.inr queued))
      | nil =>
          cases frameRx with
          | cons data frames =>
              injection next with next
              injection next with packetEq restEq
              subst packetEq restEq
              refine ⟨framed data (Or.inr (Or.inr List.mem_cons_self)), ?_⟩
              intro other member
              rcases member with input | anchor | queued
              · exact framed other (Or.inl input)
              · exact framed other (Or.inr (Or.inl anchor))
              · exact framed other
                  (Or.inr (Or.inr (List.mem_cons_of_mem data queued)))
          | nil => cases next

/-- A queue is left alone, or the packet is put at its end. -/
def Extends (data : List UInt8) (before after : List (List UInt8)) : Prop :=
  after = before ∨ after = before ++ [data]

/-- What queueing a packet does. -/
structure Enqueues (data : List UInt8) (before after : SshTransport) :
    Prop where
  connected : after.connected = before.connected
  inputs : Extends data before.inputRx after.inputRx
  anchors : Extends data before.anchorRx after.anchorRx
  frames : Extends data before.frameRx after.frameRx

theorem Extends.mem {data other : List UInt8}
    {before after : List (List UInt8)} (extended : Extends data before after)
    (member : other ∈ after) : other ∈ before ∨ other = data := by
  rcases extended with same | same
  · rw [same] at member
    exact Or.inl member
  · rw [same] at member
    simpa using member

/-- Queueing a well-framed packet keeps the queues well framed. -/
theorem Enqueues.framed {data : List UInt8} {before after : SshTransport}
    (enqueued : Enqueues data before after) (framed : Framed before)
    (wellFramed : WellFramed data) : Framed after := by
  intro other member
  rcases member with input | anchor | queued
  · rcases enqueued.inputs.mem input with early | rfl
    · exact framed other (Or.inl early)
    · exact wellFramed
  · rcases enqueued.anchors.mem anchor with early | rfl
    · exact framed other (Or.inr (Or.inl early))
    · exact wellFramed
  · rcases enqueued.frames.mem queued with early | rfl
    · exact framed other (Or.inr (Or.inr early))
    · exact wellFramed

theorem enqueues_none (data : List UInt8) (transport : SshTransport) :
    Enqueues data transport transport :=
  ⟨rfl, Or.inl rfl, Or.inl rfl, Or.inl rfl⟩

theorem enqueues_sendInput (transport : SshTransport) (data : List UInt8) :
    Enqueues data transport (transport.sendInput data).2 := by
  rw [SshTransport.sendInput]
  split
  · exact ⟨rfl, Or.inr rfl, Or.inl rfl, Or.inl rfl⟩
  · exact enqueues_none data transport

theorem enqueues_sendAnchor (transport : SshTransport) (data : List UInt8) :
    Enqueues data transport (transport.sendAnchor data).2 := by
  rw [SshTransport.sendAnchor]
  split
  · exact ⟨rfl, Or.inl rfl, Or.inr rfl, Or.inl rfl⟩
  · exact enqueues_none data transport

theorem enqueues_trySendFrame (transport : SshTransport)
    (data : List UInt8) :
    Enqueues data transport (transport.trySendFrame data).2 := by
  rw [SshTransport.trySendFrame]
  split
  · exact ⟨rfl, Or.inl rfl, Or.inl rfl, Or.inr rfl⟩
  · exact enqueues_none data transport

/-- The handshake is queued. -/
theorem Stream.start (stream : Stream frame sender receiver)
    (connected : sender.transport.connected = true)
    (started : sender.start frame.encode = some after) :
    Stream frame after receiver := by
  rw [Endpoint.start] at started
  split at started
  · rename_i starting
    injection started with same
    have queued : after.transport =
        { sender.transport with
          anchorRx := sender.transport.anchorRx ++ [frame.encode] } := by
      rw [← same]
      dsimp only
      rw [SshTransport.sendAnchor, if_pos connected]
    have framed : Framed after.transport := by
      rw [← same]
      exact (enqueues_sendAnchor _ _).framed stream.framed
        (wellFramed_encode frame)
    have writing : after.writing = sender.writing := by
      rw [← same]
    obtain ⟨connected, waiting, _, progress⟩ := stream
    have sameFlight : flight after receiver = flight sender receiver := by
      rw [flight, flight, Endpoint.unwritten, Endpoint.unwritten, writing]
    refine ⟨connected, waiting, framed, ?_⟩
    rcases progress with ⟨idle, unsent, nothing, empty⟩ |
      ⟨idle, due, nothing, empty⟩ | ⟨rest, idle, sent⟩ |
      ⟨rest, greeted, sent⟩
    · refine .due idle ⟨?_, [], ?_⟩ (writing.trans nothing)
        (sameFlight.trans empty)
      · rw [queued]
        exact unsent.inputs
      · rw [queued, unsent.anchors]
        rfl
    · obtain ⟨others, next⟩ := due.anchors
      refine .due idle ⟨?_, others ++ [frame.encode], ?_⟩
        (writing.trans nothing) (sameFlight.trans empty)
      · rw [queued]
        exact due.inputs
      · rw [queued, next]
        rfl
    · exact .sent rest idle (sameFlight.trans sent)
    · exact .greeted rest greeted (sameFlight.trans sent)
  · cases started

/-- The handshake is taken before anything else. -/
theorem Stream.select (stream : Stream frame sender receiver)
    (selected : sender.select = some after) :
    Stream frame after receiver := by
  rw [Endpoint.select] at selected
  obtain ⟨⟨_, vacant⟩, selected⟩ :=
    Option.ite_none_right_eq_some.mp selected
  obtain ⟨⟨packet, transport⟩, next, same⟩ :=
    Option.map_eq_some_iff.mp selected
  obtain ⟨⟨frames, data⟩, framed⟩ :=
    framed_of_nextPacket stream.framed next
  obtain ⟨connected, waiting, _, progress⟩ := stream
  have longer : flight after receiver =
      flight sender receiver ++ packet.data := by
    rw [← same, flight, flight, Endpoint.unwritten, Endpoint.unwritten,
      vacant]
    simp
  refine ⟨connected, waiting, by rw [← same]; exact framed, ?_⟩
  rcases progress with ⟨_, unsent, _, _⟩ | ⟨idle, due, _, empty⟩ |
    ⟨rest, idle, sent⟩ | ⟨rest, greeted, sent⟩
  · rw [SshTransport.nextPacket, unsent.inputs, unsent.anchors,
      unsent.frames] at next
    cases next
  · obtain ⟨others, anchors⟩ := due.anchors
    rw [SshTransport.nextPacket, due.inputs, anchors] at next
    injection next with next
    injection next with packetEq _
    refine .sent [] idle ?_
    rw [longer, empty, ← packetEq]
    exact (List.flatMap_singleton _ _).symm
  · refine .sent (rest ++ frames) idle ?_
    rw [longer, sent, data, ← List.cons_append, List.flatMap_append]
  · refine .greeted (rest ++ frames) greeted ?_
    rw [longer, sent, data, List.flatMap_append]

/-- Bytes of the packet that is being written move on. -/
theorem Stream.moved {bytes : List UInt8}
    (stream : Stream frame sender receiver)
    (taken : sender.writing ≠ none)
    (transport : Framed sender.transport → Framed after.transport)
    (sameFlight : flight after (receiver.deliver bytes) =
      flight sender receiver) :
    Stream frame after (receiver.deliver bytes) := by
  obtain ⟨connected, waiting, framed, progress⟩ := stream
  refine ⟨connected, waiting, transport framed, ?_⟩
  cases progress with
  | unsent _ _ nothing _ => exact absurd nothing taken
  | due _ _ nothing _ => exact absurd nothing taken
  | sent frames idle sent =>
      exact .sent frames ⟨idle.unmet, idle.incoming, idle.forwarding,
        idle.chunks⟩ (sameFlight.trans sent)
  | greeted frames greeted sent =>
      exact .greeted frames greeted (sameFlight.trans sent)

theorem Stream.write {count : Nat} {bytes : List UInt8}
    (stream : Stream frame sender receiver)
    (wrote : sender.write count = some (after, bytes)) :
    Stream frame after (receiver.deliver bytes) := by
  rw [Endpoint.write] at wrote
  split at wrote
  · rename_i packet rest writing
    obtain ⟨_, same⟩ := Option.ite_none_right_eq_some.mp wrote
    injection same with same
    injection same with afterEq bytesEq
    apply stream.moved
    · rw [writing]
      exact Option.some_ne_none _
    · rw [← afterEq]
      exact id
    · rw [← afterEq, ← bytesEq, flight, flight, Endpoint.deliver,
        Endpoint.unwritten, Endpoint.unwritten, writing]
      simp
  · cases wrote

theorem Stream.finish (stream : Stream frame sender receiver)
    (finished : sender.finish = some after) :
    Stream frame after receiver := by
  rw [Endpoint.finish] at finished
  split at finished
  · rename_i packet writing
    obtain ⟨_, same⟩ := Option.ite_none_right_eq_some.mp finished
    injection same with same
    rw [← deliver_nil receiver]
    apply stream.moved
    · rw [writing]
      exact Option.some_ne_none _
    · rw [← same]
      exact id
    · rw [← same, deliver_nil, flight, flight, Endpoint.unwritten,
        Endpoint.unwritten, writing]
      rfl
  · cases finished

/-! ## Steps of the receiver -/

/-- A step of the receiver that handles no messages. -/
theorem Stream.receiver_kept (stream : Stream frame sender receiver)
    (connected : after.transport.connected = true)
    (inbound : after.inbound = receiver.inbound)
    (parser : after.parser = receiver.parser)
    (forwarding : after.forwarding = receiver.forwarding)
    (incoming : after.incoming = receiver.incoming)
    (main : after.main = receiver.main ∨
      (receiver.main = .starting ∧ after.main = .waiting)) :
    Stream frame sender after := by
  obtain ⟨_, waiting, framed, progress⟩ := stream
  have sameFlight : flight sender after = flight sender receiver := by
    rw [flight, flight, inbound, parser]
  have unmet : receiver.Unmet → after.Unmet := by
    intro either
    rcases either with starting | waiting
    · rcases main with same | ⟨_, waiting⟩
      · exact Or.inl (same.trans starting)
      · exact Or.inr waiting
    · rcases main with same | ⟨starting, _⟩
      · exact Or.inr (same.trans waiting)
      · rw [starting] at waiting
        cases waiting
  have kept : receiver.Idle → after.Idle := by
    intro idle
    exact ⟨unmet idle.unmet, incoming.trans idle.incoming,
      forwarding.trans idle.forwarding, by rw [parser]; exact idle.chunks⟩
  refine ⟨connected, by rw [parser]; exact waiting, framed, ?_⟩
  rcases progress with ⟨idle, unsent, nothing, empty⟩ |
    ⟨idle, due, nothing, empty⟩ | ⟨rest, idle, sent⟩ |
    ⟨rest, greeted, sent⟩
  · exact .unsent (kept idle) unsent nothing (sameFlight.trans empty)
  · exact .due (kept idle) due nothing (sameFlight.trans empty)
  · exact .sent rest (kept idle) (sameFlight.trans sent)
  · refine .greeted rest ?_ (sameFlight.trans sent)
    rcases greeted with running | ⟨early, others, next⟩
    · refine Or.inl ?_
      rcases main with same | ⟨starting, _⟩
      · exact same.trans running
      · rw [starting] at running
        cases running
    · refine Or.inr ⟨unmet early, others, ?_⟩
      rw [incoming, forwarding]
      exact next

/-- A handshake that arrives in a fresh parser is the first message. -/
theorem reactAll_handshake {chunks : ChunkMap} {frames : List Frame}
    (handshake : IsHandshake frame) (fresh : chunks = fun _ => none) :
    ∃ others, (Scanner.reactAll reassembleFrame chunks (frame :: frames)).2 =
      arrivalMessage frame :: others := by
  rw [Scanner.reactAll, reassembleFrame_eq, fresh]
  dsimp only
  rw [if_pos handshake.whole]
  exact ⟨_, rfl⟩

/-- What `read_loop` does with bytes from which it parses frames. -/
structure Parses (before : Endpoint) (arrived : List Frame)
    (after : Endpoint) : Prop where
  waiting : frameScanner.scan after.parser.buf = .more
  transport : after.transport = before.transport
  main : after.main = before.main
  incoming : after.incoming = before.incoming
  chunks : after.parser.chunks =
    (Scanner.reactAll reassembleFrame before.parser.chunks arrived).1
  forwarding : after.forwarding =
    (Scanner.reactAll reassembleFrame before.parser.chunks arrived).2

theorem parses_of_read {count : Nat} {frames : List Frame}
    (done : receiver.read count = some after)
    (sent : flight sender receiver = frames.flatMap Frame.encode) :
    ∃ arrived later, frames = arrived ++ later ∧
      flight sender after = later.flatMap Frame.encode ∧
      Parses receiver arrived after := by
  rw [Endpoint.read] at done
  obtain ⟨_, done⟩ := Option.ite_none_right_eq_some.mp done
  rw [flight, ← List.take_append_drop count receiver.inbound,
    List.append_assoc] at sent
  obtain ⟨arrived, later, rest, split, others, more, pushed⟩ :=
    push_frames sent
  rw [pushed] at done
  injection done with same
  rw [← same]
  exact ⟨arrived, later, split, others, more, rfl, rfl, rfl, rfl, rfl⟩

/-- `read_loop` meets no error, and the first message that it parses is the
handshake. -/
theorem Stream.read {count : Nat} (handshake : IsHandshake frame)
    (stream : Stream frame sender receiver)
    (done : receiver.read count = some after) :
    Stream frame sender after := by
  obtain ⟨connected, _, framed, progress⟩ := stream
  have guarded := done
  rw [Endpoint.read] at guarded
  obtain ⟨⟨_, idleLoop, positive, _, available⟩, _⟩ :=
    Option.ite_none_right_eq_some.mp guarded
  have filled : flight sender receiver ≠ [] := by
    intro empty
    rw [flight, List.append_eq_nil_iff, List.append_eq_nil_iff] at empty
    rw [empty.2.1] at available
    exact absurd positive (Nat.not_lt_of_le available)
  cases progress with
  | unsent _ _ _ empty => exact absurd empty filled
  | due _ _ _ empty => exact absurd empty filled
  | sent rest idle sent =>
      obtain ⟨arrived, later, split, left, parses⟩ :=
        parses_of_read done sent
      refine ⟨by rw [parses.transport]; exact connected, parses.waiting,
        framed, ?_⟩
      have unmet : after.Unmet := by
        rw [Endpoint.Unmet, parses.main]
        exact idle.unmet
      have empty := parses.incoming.trans idle.incoming
      cases arrived with
      | nil =>
          rw [List.nil_append] at split
          refine .sent rest ⟨unmet, empty, parses.forwarding,
            parses.chunks.trans idle.chunks⟩ ?_
          rw [left, split]
      | cons first arrived =>
          injection split with same split
          subst same
          refine .greeted later (Or.inr ⟨unmet, ?_⟩) left
          rw [empty, parses.forwarding]
          exact reactAll_handshake handshake idle.chunks
  | greeted rest greeted sent =>
      obtain ⟨arrived, later, _, left, parses⟩ := parses_of_read done sent
      refine ⟨by rw [parses.transport]; exact connected, parses.waiting,
        framed, .greeted later ?_ left⟩
      rcases greeted with running | ⟨early, others, next⟩
      · exact Or.inl (parses.main.trans running)
      · rw [idleLoop, List.append_nil] at next
        refine Or.inr ⟨?_, others ++ after.forwarding, ?_⟩
        · rw [Endpoint.Unmet, parses.main]
          exact early
        · rw [parses.incoming, next]
          rfl

theorem Stream.forward (stream : Stream frame sender receiver)
    (forwarded : receiver.forward = some after) :
    Stream frame sender after := by
  rw [Endpoint.forward] at forwarded
  split at forwarded
  · rename_i msg msgs parsed
    obtain ⟨_, same⟩ := Option.ite_none_right_eq_some.mp forwarded
    injection same with same
    obtain ⟨connected, waiting, framed, progress⟩ := stream
    have busy : ¬receiver.Idle := by
      intro idle
      have empty := idle.forwarding
      rw [parsed] at empty
      cases empty
    obtain ⟨greeted, rest, sent⟩ := progress.greeted_of_busy busy
    rw [← same]
    refine ⟨connected, waiting, framed, .greeted rest ?_ sent⟩
    rcases greeted with running | ⟨early, others, next⟩
    · exact Or.inl running
    · refine Or.inr ⟨early, others, ?_⟩
      rw [← next, parsed]
      simp
  · cases forwarded

/-- The first message that the main task receives is the handshake. -/
theorem Stream.recv (handshake : IsHandshake frame)
    (stream : Stream frame sender receiver)
    (received : receiver.recv = some after) :
    Stream frame sender after := by
  rw [Endpoint.recv] at received
  obtain ⟨connected, waiting, framed, progress⟩ := stream
  split at received
  · rename_i msg msgs early incoming
    injection received with same
    have busy : ¬receiver.Idle := by
      intro idle
      have empty := idle.incoming
      rw [incoming] at empty
      cases empty
    obtain ⟨greeted, rest, sent⟩ := progress.greeted_of_busy busy
    rcases greeted with running | ⟨_, others, next⟩
    · rw [early] at running
      cases running
    · rw [incoming, List.cons_append] at next
      injection next with first _
      have accepted : after =
          { receiver with
            main := .running msg
            incoming := msgs } := by
        rw [← same, first]
        exact Endpoint.check_of_handshake _ handshake.typed
      rw [accepted, first]
      exact ⟨connected, waiting, framed, .greeted rest (Or.inl rfl) sent⟩
  · rename_i early empty
    rw [if_pos connected] at received
    cases received
  · rename_i first msg msgs running incoming
    injection received with same
    obtain ⟨greeted, rest, sent⟩ := progress.greeted_of_busy
      fun idle => idle.unmet.ne_running running
    rw [← same]
    refine ⟨connected, waiting, framed, .greeted rest ?_ sent⟩
    rcases greeted with same | ⟨unmet, _⟩
    · exact Or.inl same
    · exact absurd running unmet.ne_running
  · cases received

/-! ## Any step -/

/-- What the main task and `read_loop` leave alone. -/
structure SameQueues (before after : Endpoint) : Prop where
  inputs : after.transport.inputRx = before.transport.inputRx
  anchors : after.transport.anchorRx = before.transport.anchorRx
  frames : after.transport.frameRx = before.transport.frameRx
  writing : after.writing = before.writing
  starting : before.main = .starting → after.main = .starting

private theorem sameQueues_check {before : Endpoint} (msg : IncomingMessage)
    (begun : before.main ≠ .starting) :
    SameQueues before (before.check msg) := by
  rw [Endpoint.check]
  split
  · exact ⟨rfl, rfl, rfl, rfl, fun starting => absurd starting begun⟩
  · exact ⟨rfl, rfl, rfl, rfl, fun starting => absurd starting begun⟩

theorem sameQueues_recv {before : Endpoint}
    (received : before.recv = some after) : SameQueues before after := by
  rw [Endpoint.recv] at received
  split at received
  · rename_i msg msgs waiting _
    injection received with same
    have begun : before.main ≠ .starting := by
      rw [waiting]
      rintro ⟨⟩
    rw [← same]
    obtain ⟨inputs, anchors, frames, writing, starting⟩ :=
      @sameQueues_check { before with incoming := msgs } msg begun
    exact ⟨inputs, anchors, frames, writing, starting⟩
  · rename_i waiting _
    split at received
    · cases received
    · injection received with same
      rw [← same]
      refine ⟨rfl, rfl, rfl, rfl, ?_⟩
      rw [waiting]
      rintro ⟨⟩
  · injection received with same
    rw [← same]
    exact ⟨rfl, rfl, rfl, rfl, id⟩
  · cases received

theorem sameQueues_read {before : Endpoint} {count : Nat}
    (done : before.read count = some after) : SameQueues before after := by
  rw [Endpoint.read] at done
  obtain ⟨_, done⟩ := Option.ite_none_right_eq_some.mp done
  split at done
  · injection done with same
    rw [← same]
    exact ⟨rfl, rfl, rfl, rfl, id⟩
  · injection done with same
    rw [← same]
    exact ⟨rfl, rfl, rfl, rfl, id⟩

theorem sameQueues_forward {before : Endpoint}
    (forwarded : before.forward = some after) : SameQueues before after := by
  rw [Endpoint.forward] at forwarded
  split at forwarded
  · obtain ⟨_, same⟩ := Option.ite_none_right_eq_some.mp forwarded
    injection same with same
    rw [← same]
    exact ⟨rfl, rfl, rfl, rfl, id⟩
  · cases forwarded

theorem Stream.of_sameQueues (stream : Stream frame sender receiver)
    (same : SameQueues sender after) : Stream frame after receiver :=
  stream.sender_kept same.inputs same.anchors same.frames same.writing
    same.starting

/-- Any step of the sender. -/
theorem Stream.sends {bytes : List UInt8} {step : TaskStep}
    (stream : Stream frame sender receiver)
    (connected : sender.transport.connected = true)
    (performed : sender.perform frame.encode step = some (after, bytes)) :
    Stream frame after (receiver.deliver bytes) := by
  cases step with
  | start =>
      obtain ⟨next, started, same⟩ := Option.map_eq_some_iff.mp performed
      injection same with nextEq bytesEq
      subst nextEq bytesEq
      rw [deliver_nil]
      exact stream.start connected started
  | recv =>
      obtain ⟨next, received, same⟩ := Option.map_eq_some_iff.mp performed
      injection same with nextEq bytesEq
      subst nextEq bytesEq
      rw [deliver_nil]
      exact stream.of_sameQueues (sameQueues_recv received)
  | select =>
      obtain ⟨next, selected, same⟩ := Option.map_eq_some_iff.mp performed
      injection same with nextEq bytesEq
      subst nextEq bytesEq
      rw [deliver_nil]
      exact stream.select selected
  | write count => exact stream.write performed
  | finish =>
      obtain ⟨next, finished, same⟩ := Option.map_eq_some_iff.mp performed
      injection same with nextEq bytesEq
      subst nextEq bytesEq
      rw [deliver_nil]
      exact stream.finish finished
  | read count =>
      obtain ⟨next, done, same⟩ := Option.map_eq_some_iff.mp performed
      injection same with nextEq bytesEq
      subst nextEq bytesEq
      rw [deliver_nil]
      exact stream.of_sameQueues (sameQueues_read done)
  | forward =>
      obtain ⟨next, forwarded, same⟩ := Option.map_eq_some_iff.mp performed
      injection same with nextEq bytesEq
      subst nextEq bytesEq
      rw [deliver_nil]
      exact stream.of_sameQueues (sameQueues_forward forwarded)

/-- Steps that only take or write packets leave the messages alone. -/
structure SameMessages (before after : Endpoint) : Prop where
  connected : before.transport.connected = true →
    after.transport.connected = true
  inbound : after.inbound = before.inbound
  parser : after.parser = before.parser
  forwarding : after.forwarding = before.forwarding
  incoming : after.incoming = before.incoming
  main : after.main = before.main ∨
    (before.main = .starting ∧ after.main = .waiting)

theorem Stream.of_sameMessages (stream : Stream frame sender receiver)
    (same : SameMessages receiver after) : Stream frame sender after :=
  stream.receiver_kept (same.connected stream.connected) same.inbound
    same.parser same.forwarding same.incoming same.main

theorem sameMessages_start {before : Endpoint} {data : List UInt8}
    (started : before.start data = some after) :
    SameMessages before after := by
  rw [Endpoint.start] at started
  split at started
  · rename_i starting
    injection started with same
    rw [← same]
    refine ⟨?_, rfl, rfl, rfl, rfl, Or.inr ⟨starting, rfl⟩⟩
    intro connected
    rcases before.transport.sendAnchor_eq data with ⟨_, sent⟩ | ⟨_, sent⟩
    · dsimp only
      rw [sent]
      exact connected
    · dsimp only
      rw [sent]
      exact connected
  · cases started

theorem sameMessages_select {before : Endpoint}
    (selected : before.select = some after) : SameMessages before after := by
  rw [Endpoint.select] at selected
  obtain ⟨_, selected⟩ := Option.ite_none_right_eq_some.mp selected
  obtain ⟨⟨packet, transport⟩, next, same⟩ :=
    Option.map_eq_some_iff.mp selected
  rw [← same]
  refine ⟨?_, rfl, rfl, rfl, rfl, Or.inl rfl⟩
  intro connected
  exact (SshTransport.nextPacket_eq_some next).1.trans connected

theorem sameMessages_write {before : Endpoint} {count : Nat}
    {bytes : List UInt8} (wrote : before.write count = some (after, bytes)) :
    SameMessages before after := by
  rw [Endpoint.write] at wrote
  split at wrote
  · obtain ⟨_, same⟩ := Option.ite_none_right_eq_some.mp wrote
    injection same with same
    injection same with afterEq _
    rw [← afterEq]
    exact ⟨id, rfl, rfl, rfl, rfl, Or.inl rfl⟩
  · cases wrote

theorem sameMessages_finish {before : Endpoint}
    (finished : before.finish = some after) : SameMessages before after := by
  rw [Endpoint.finish] at finished
  split at finished
  · obtain ⟨_, same⟩ := Option.ite_none_right_eq_some.mp finished
    injection same with same
    rw [← same]
    exact ⟨id, rfl, rfl, rfl, rfl, Or.inl rfl⟩
  · cases finished

/-- Any step of the receiver. -/
theorem Stream.receives {data bytes : List UInt8} {step : TaskStep}
    (handshake : IsHandshake frame) (stream : Stream frame sender receiver)
    (performed : receiver.perform data step = some (after, bytes)) :
    Stream frame (sender.deliver bytes) after := by
  have delivered : ∀ next : Endpoint, Stream frame sender next →
      Stream frame (sender.deliver bytes) next := fun _ next =>
    next.of_sameQueues ⟨rfl, rfl, rfl, rfl, id⟩
  apply delivered
  cases step with
  | start =>
      obtain ⟨next, started, same⟩ := Option.map_eq_some_iff.mp performed
      injection same with nextEq _
      exact nextEq ▸ stream.of_sameMessages (sameMessages_start started)
  | recv =>
      obtain ⟨next, received, same⟩ := Option.map_eq_some_iff.mp performed
      injection same with nextEq _
      exact nextEq ▸ stream.recv handshake received
  | select =>
      obtain ⟨next, selected, same⟩ := Option.map_eq_some_iff.mp performed
      injection same with nextEq _
      exact nextEq ▸ stream.of_sameMessages (sameMessages_select selected)
  | write count => exact stream.of_sameMessages (sameMessages_write performed)
  | finish =>
      obtain ⟨next, finished, same⟩ := Option.map_eq_some_iff.mp performed
      injection same with nextEq _
      exact nextEq ▸ stream.of_sameMessages (sameMessages_finish finished)
  | read count =>
      obtain ⟨next, done, same⟩ := Option.map_eq_some_iff.mp performed
      injection same with nextEq _
      exact nextEq ▸ stream.read handshake done
  | forward =>
      obtain ⟨next, forwarded, same⟩ := Option.map_eq_some_iff.mp performed
      injection same with nextEq _
      exact nextEq ▸ stream.forward forwarded

/-! ## Messages of the senders -/

theorem wellFramed_inputWire (event : InputEvent) :
    WellFramed (inputWire event) := by
  rw [← encode_inputFrame]
  exact wellFramed_encode (inputFrame event)

theorem wellFramed_of_split {profile : Profile} {msgType : MsgType}
    {payload wire : List UInt8} {timestampNs : UInt64}
    (addressable : payload.length < 2 ^ 63)
    (split : splitIntoChunks profile 1 msgType Flags.compressed payload
      timestampNs chunkSize [] = .ok wire) : WellFramed wire := by
  let outgoing : OutgoingMessage :=
    { streamId := 1
      msgType := msgType
      extraFlags := Flags.compressed
      payload := payload
      timestampNs := timestampNs
      chunkSize := chunkSize
      unmarked := by decide
      chunkSize_pos := by decide
      chunkSize_le := by decide
      addressable := addressable }
  have frames := (outgoing.split_eq profile []).symm.trans split
  injection frames with frames
  exact ⟨outgoing.chunkFrames, frames.symm⟩

/-- A frame is sent in chunks that are well framed. -/
theorem wellFramed_of_round {profile : Profile} {config : ServerConfig}
    {loop : LoopState} {input : RoundInput} {step : ServerStep}
    (completed : Server.round profile config loop input = .ok step)
    (addressable : step.message.payload.length < 2 ^ 63) :
    WellFramed step.message.wire := by
  obtain ⟨_, _, prepared, _⟩ := round_eq_ok completed
  exact wellFramed_of_split addressable prepared.wire

/-! ## Both directions -/

namespace Startup

def handshakeHeader : FrameHeader :=
  FrameHeader.new 0 .handshake Flags.lastChunk 8 0

/-- The frame of the server's handshake. -/
def serverHandshake (captureArg : CaptureBackendArg)
    (compressArg : CompressArg) : Frame where
  header := handshakeHeader
  payload := (HandshakePayload.new (captureFlagsOf captureArg)
    (compressFlagsOf compressArg)).asBytes
  sized := rfl
  small := by decide
  typed := ⟨.handshake, rfl⟩

theorem isHandshake_client : IsHandshake InputPath.handshakeFrame :=
  ⟨rfl, by decide⟩

theorem isHandshake_server (captureArg : CaptureBackendArg)
    (compressArg : CompressArg) :
    IsHandshake (serverHandshake captureArg compressArg) :=
  ⟨rfl, isHandshake_client.whole⟩

/-- No main task has bailed, and the first message that it received is the
given one. -/
def Welcomed (main : MainTask) (first : IncomingMessage) : Prop :=
  match main with
  | .running msg => msg = first
  | .bailed _ => False
  | _ => True

/-- Neither side has received anything before the other's handshake. -/
structure HandshakeFirst (captureArg : CaptureBackendArg)
    (compressArg : CompressArg) (startup : Startup) : Prop where
  client : Welcomed startup.client.main
    (arrivalMessage (serverHandshake captureArg compressArg))
  server : Welcomed startup.server.main
    (arrivalMessage InputPath.handshakeFrame)

/-- The client captures an input only after `write_loop` has taken the
handshake. -/
def Timely (startup : Startup) : StartupAction → Prop
  | .capture _ => startup.client.transport.anchorRx = []
  | _ => True

/-- The handshake comes first in both directions. -/
structure Orderly (captureArg : CaptureBackendArg)
    (compressArg : CompressArg) (startup : Startup) : Prop where
  toServer : Stream InputPath.handshakeFrame startup.client startup.server
  toClient : Stream (serverHandshake captureArg compressArg) startup.server
    startup.client

section Runs

variable {profile : Profile} {config : ServerConfig}
variable {captureArg : CaptureBackendArg} {compressArg : CompressArg}
variable {before after : Startup}

theorem orderly_initial : initial.Orderly captureArg compressArg := by
  have idle : Endpoint.initial.Idle := ⟨Or.inl rfl, rfl, rfl, rfl⟩
  have unsent : Endpoint.initial.Unsent := ⟨rfl, rfl, rfl, rfl⟩
  have framed : Framed Endpoint.initial.transport := by
    intro data member
    rcases member with input | anchor | queued
    · cases input
    · cases anchor
    · cases queued
  exact ⟨⟨rfl, rfl, framed, .unsent idle unsent rfl rfl⟩,
    ⟨rfl, rfl, framed, .unsent idle unsent rfl rfl⟩⟩

theorem Orderly.capture (orderly : before.Orderly captureArg compressArg)
    {input : Input} (taken : before.client.transport.anchorRx = [])
    (performed : before.capture input = some after) :
    after.Orderly captureArg compressArg := by
  rw [Startup.capture] at performed
  split at performed
  · rename_i first running
    injection performed with same
    rw [← same]
    have enqueued := enqueues_sendInput before.client.transport
      (inputWire input.event)
    constructor
    · refine orderly.toServer.queue
        (enqueued.framed orderly.toServer.framed (wellFramed_inputWire _))
        rfl ?_ ?_
      · rw [running]
        rintro ⟨⟩
      · intro due
        obtain ⟨others, next⟩ := due.anchors
        rw [taken] at next
        cases next
    · exact orderly.toClient.of_sameMessages
        ⟨fun connected => enqueued.connected.trans connected, rfl, rfl, rfl,
          rfl, Or.inl rfl⟩
  · cases performed

/-- A round queues its message behind the inputs, if at all. -/
theorem enqueues_offer (transport : SshTransport) (message : FrameMessage) :
    Enqueues message.wire transport (offer transport message).2 ∧
      (offer transport message).2.inputRx = transport.inputRx := by
  rw [offer]
  by_cases anchor : message.msgType = .anchorFrame
  · rw [if_pos anchor]
    refine ⟨enqueues_sendAnchor _ _, ?_⟩
    rw [SshTransport.sendAnchor]
    split <;> rfl
  · rw [if_neg anchor]
    refine ⟨enqueues_trySendFrame _ _, ?_⟩
    rw [SshTransport.trySendFrame]
    split <;> rfl

/-- A round does not overtake the server's handshake. -/
theorem Orderly.round (orderly : before.Orderly captureArg compressArg)
    {input : RoundInput}
    (performed : before.round profile config input = some after) :
    after.Orderly captureArg compressArg := by
  rw [Startup.round] at performed
  split at performed
  · rename_i first running
    split at performed
    · rename_i step completed
      dsimp only at performed
      obtain ⟨⟨addressable, _⟩, same⟩ :=
        Option.ite_none_right_eq_some.mp performed
      injection same with same
      have wellFramed := wellFramed_of_round completed addressable
      obtain ⟨enqueued, inputs⟩ :=
        enqueues_offer before.server.transport step.message
      rw [← same]
      constructor
      · exact orderly.toServer.of_sameMessages
          ⟨fun connected => enqueued.connected.trans connected, rfl, rfl,
            rfl, rfl, Or.inl rfl⟩
      · refine orderly.toClient.queue
          (enqueued.framed orderly.toClient.framed wellFramed) rfl ?_ ?_
        · rw [running]
          rintro ⟨⟩
        · intro due
          obtain ⟨others, next⟩ := due.anchors
          refine ⟨inputs.trans due.inputs, ?_⟩
          rcases enqueued.anchors with same | same
          · exact ⟨others, same.trans next⟩
          · refine ⟨others ++ [step.message.wire], ?_⟩
            rw [← List.cons_append, ← next]
            exact same
    · cases performed
  · cases performed

theorem Orderly.perform (orderly : before.Orderly captureArg compressArg)
    {action : StartupAction}
    (performed : before.perform profile config captureArg compressArg
      action = some after)
    (timely : before.Timely action) :
    after.Orderly captureArg compressArg := by
  cases action with
  | client step =>
      obtain ⟨⟨client, bytes⟩, stepped, same⟩ :=
        Option.map_eq_some_iff.mp performed
      rw [← same]
      exact ⟨orderly.toServer.sends orderly.toClient.connected stepped,
        orderly.toClient.receives (isHandshake_server _ _) stepped⟩
  | server step =>
      obtain ⟨⟨server, bytes⟩, stepped, same⟩ :=
        Option.map_eq_some_iff.mp performed
      rw [← same]
      exact ⟨orderly.toServer.receives isHandshake_client stepped,
        orderly.toClient.sends orderly.toServer.connected stepped⟩
  | capture input => exact orderly.capture timely performed
  | round input => exact orderly.round performed

private theorem welcomed_of_stream {frame : Frame}
    {sender receiver : Endpoint} (stream : Stream frame sender receiver) :
    Welcomed receiver.main (arrivalMessage frame) := by
  have unmet : receiver.Unmet →
      Welcomed receiver.main (arrivalMessage frame) := by
    intro either
    rcases either with starting | waiting
    · rw [starting]
      trivial
    · rw [waiting]
      trivial
  rcases stream.progress with ⟨idle, _, _, _⟩ | ⟨idle, _, _, _⟩ |
    ⟨_, idle, _⟩ | ⟨_, running | ⟨early, _⟩, _⟩
  · exact unmet idle.unmet
  · exact unmet idle.unmet
  · exact unmet idle.unmet
  · rw [running]
    exact rfl
  · exact unmet early

/-- In every interleaving in which the client captures no input before its
`write_loop` has taken the handshake, each side receives the other's handshake
first. -/
theorem handshakeFirst_of_run {actions : List StartupAction}
    {last : Startup}
    (run : Run (fun before action after =>
        before.perform profile config captureArg compressArg action =
          some after ∧ before.Timely action) initial actions last) :
    last.HandshakeFirst captureArg compressArg := by
  have orderly := run.keeps
    (fun _ _ _ stepped kept => Orderly.perform kept stepped.1 stepped.2)
    orderly_initial
  exact ⟨welcomed_of_stream orderly.toClient,
    welcomed_of_stream orderly.toServer⟩

end Runs

instance (startup : Startup) :
    ∀ action, Decidable (startup.Timely action)
  | .client _ => inferInstanceAs (Decidable True)
  | .server _ => inferInstanceAs (Decidable True)
  | .capture _ =>
      inferInstanceAs (Decidable (startup.client.transport.anchorRx = []))
  | .round _ => inferInstanceAs (Decidable True)

/-- The server's handshake reaches the client. -/
def serverGreets : List StartupAction :=
  [.server .start, .server .select, .server (.write 24), .server .finish,
    .client .start, .client (.read 24), .client .forward, .client .recv]

/-- Both handshakes arrive, the client's in two pieces, before the input and
the frame. -/
def promptStartup : List StartupAction :=
  serverGreets ++
    [.client .select, .client (.write 20), .capture (.key ⟨30, 1⟩),
      .client (.write 4), .client .finish, .server (.read 21),
      .client .select, .client (.write 32), .server (.read 35),
      .server .forward, .server .recv,
      .round ⟨pixelFrame, [], false, true⟩, .server .forward,
      .server .select]

theorem handshakeFirst_of_run_prompt :
    ∃ last : Startup, last.client.main = .running (arrivalMessage
        (serverHandshake .auto .lz4)) ∧
      last.server.main = .running (arrivalMessage
        InputPath.handshakeFrame) ∧
      last.HandshakeFirst .auto .lz4 := by
  have evaluated :
      (promptStartup.foldlM (fun (before : Startup) action =>
          if before.Timely action then
            before.perform .dev plainServer .auto .lz4 action
          else none) initial).map
        (fun last => (last.client.main, last.server.main)) =
      some (.running (arrivalMessage (serverHandshake .auto .lz4)),
        .running (arrivalMessage InputPath.handshakeFrame)) := by
    decide +kernel
  obtain ⟨last, iterated, mains⟩ := Option.map_eq_some_iff.mp evaluated
  injection mains with client server
  exact ⟨last, client, server,
    handshakeFirst_of_run (run_iff_foldlM_guarded.mpr iterated)⟩

/-- The input is captured before `write_loop` takes the handshake. -/
def hastyStartup : List StartupAction :=
  serverGreets ++
    [.capture (.key ⟨30, 1⟩), .client .select, .client (.write 32),
      .client .finish, .server (.read 32), .server .forward, .server .recv]

/-- The input overtakes the handshake, and the server bails. -/
theorem not_handshakeFirst_hasty :
    ∃ last, Run (fun before action after =>
        before.perform .dev plainServer .auto .lz4 action = some after)
          initial hastyStartup last ∧
      last.server.main =
        .bailed "expected handshake, got msg_type=2" ∧
      ¬ last.HandshakeFirst .auto .lz4 := by
  have evaluated :
      (hastyStartup.foldlM (perform .dev plainServer .auto .lz4)
          initial).map (fun last => last.server.main) =
        some (.bailed "expected handshake, got msg_type=2") := by
    decide +kernel
  obtain ⟨last, iterated, bailed⟩ := Option.map_eq_some_iff.mp evaluated
  refine ⟨last, run_iff_foldlM.mpr iterated, bailed, ?_⟩
  intro first
  have welcomed := first.server
  rw [bailed] at welcomed
  exact welcomed

end Startup

end RemoteWay.System
