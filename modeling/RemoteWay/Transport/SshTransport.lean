import RemoteWay.Base.Overtaking

/-!
# Outgoing side of the SSH transport

Three queues of different priority between the senders and `write_loop`.
Inputs and anchors are queued without a bound, frames up to
`frameQueueDepth`.  A packet counts as written when `write_loop` takes it out
of its queue and writes it without an error; an error ends the connection.
-/

namespace RemoteWay.Transport

open RemoteWay.Base

/-- Capacity of the bounded frame channel. -/
def frameQueueDepth : Nat := 2

/-- The channels of a `TransportSender`. -/
inductive Channel where
  | input
  | anchor
  | frame
  deriving DecidableEq, Repr

/-- Bytes and the channel they were sent on. -/
structure Packet where
  channel : Channel
  data : List UInt8
  deriving DecidableEq, Repr

/-- The queues, and what has been written so far. -/
structure SshTransport where
  inputRx : List (List UInt8)
  anchorRx : List (List UInt8)
  frameRx : List (List UInt8)
  connected : Bool
  written : List Packet
  deriving DecidableEq, Repr

namespace SshTransport

def new : SshTransport := ⟨[], [], [], true, []⟩

/-! ## Senders -/

variable (transport : SshTransport) (data : List UInt8)

/-- Send an input event.  Succeeds unless the transport is shut down. -/
def sendInput : Bool × SshTransport :=
  if transport.connected then
    (true, { transport with inputRx := transport.inputRx ++ [data] })
  else
    (false, transport)

/-- Send an anchor frame.  Succeeds unless the transport is shut down. -/
def sendAnchor : Bool × SshTransport :=
  if transport.connected then
    (true, { transport with anchorRx := transport.anchorRx ++ [data] })
  else
    (false, transport)

/-- Enqueue a regular frame.  Fails if the queue is full. -/
def trySendFrame : Bool × SshTransport :=
  if transport.connected ∧ transport.frameRx.length < frameQueueDepth then
    (true, { transport with frameRx := transport.frameRx ++ [data] })
  else
    (false, transport)

/-! ## The write loop -/

/-- The `biased` select: input before anchor before frame. -/
def nextPacket : Option (Packet × SshTransport) :=
  match transport.inputRx, transport.anchorRx, transport.frameRx with
  | data :: rest, _, _ =>
      some (⟨.input, data⟩, { transport with inputRx := rest })
  | [], data :: rest, _ =>
      some (⟨.anchor, data⟩, { transport with anchorRx := rest })
  | [], [], data :: rest =>
      some (⟨.frame, data⟩, { transport with frameRx := rest })
  | [], [], [] => none

/-- The end of the connection, in either loop. -/
def disconnect : SshTransport :=
  { transport with connected := false }

/-- One round of `write_loop`, which waits while there is no packet. -/
def writeRound (flushed : Bool) : Option SshTransport :=
  if transport.connected then
    transport.nextPacket.map fun (packet, transport) =>
      if flushed then
        { transport with written := transport.written ++ [packet] }
      else
        transport.disconnect
  else
    none

/-! ## The order of frames -/

/-- The anchors and frames among the written packets. -/
def framesWritten : List Packet :=
  transport.written.filter fun packet => packet.channel != .input

/-- The anchors and frames in the order they are written in if no more
arrive. -/
def wireOrder : List Packet :=
  transport.framesWritten ++
    (transport.anchorRx.map (Packet.mk .anchor) ++
      transport.frameRx.map (Packet.mk .frame))

variable {transport data}

theorem framesWritten_prefix : transport.framesWritten <+:
    transport.wireOrder :=
  List.prefix_append _ _

/-- Inputs do not touch the frames. -/
theorem sendInput_keeps (transport : SshTransport) (data : List UInt8) :
    (transport.sendInput data).2.wireOrder = transport.wireOrder ∧
      (transport.sendInput data).2.written = transport.written ∧
      (transport.sendInput data).2.frameRx = transport.frameRx ∧
      (transport.sendInput data).2.connected = transport.connected := by
  rw [sendInput]
  by_cases connected : transport.connected = true
  · rw [if_pos connected]
    exact ⟨rfl, rfl, rfl, rfl⟩
  · rw [if_neg connected]
    exact ⟨rfl, rfl, rfl, rfl⟩

/-- A refused packet changes nothing, and an anchor is only refused after
the end of the connection. -/
theorem sendAnchor_eq (transport : SshTransport) (data : List UInt8) :
    (transport.connected = false ∧
        transport.sendAnchor data = (false, transport)) ∨
      (transport.connected = true ∧ transport.sendAnchor data =
        (true,
          { transport with anchorRx := transport.anchorRx ++ [data] })) := by
  rw [sendAnchor]
  cases connected : transport.connected with
  | false => exact Or.inl ⟨rfl, rfl⟩
  | true => exact Or.inr ⟨rfl, rfl⟩

theorem trySendFrame_eq (transport : SshTransport) (data : List UInt8) :
    transport.trySendFrame data = (false, transport) ∨
      (transport.connected = true ∧
        transport.frameRx.length < frameQueueDepth ∧
        transport.trySendFrame data =
          (true,
            { transport with frameRx := transport.frameRx ++ [data] })) := by
  rw [trySendFrame]
  by_cases free : transport.connected = true ∧
      transport.frameRx.length < frameQueueDepth
  · rw [if_pos free]
    exact Or.inr ⟨free.1, free.2, rfl⟩
  · rw [if_neg free]
    exact Or.inl rfl

/-- An anchor goes in front of the queued frames. -/
theorem wireOrder_anchor :
    wireOrder { transport with anchorRx := transport.anchorRx ++ [data] } =
      insertBefore transport.wireOrder transport.frameRx.length
        ⟨.anchor, data⟩ := by
  have inserted := insertBefore_append
    (transport.framesWritten ++ transport.anchorRx.map (Packet.mk .anchor))
    (transport.frameRx.map (Packet.mk .frame)) ⟨.anchor, data⟩
  rw [List.length_map, List.append_assoc] at inserted
  rw [wireOrder, wireOrder, inserted]
  simp [framesWritten]

/-- A frame goes to the end. -/
theorem wireOrder_frame :
    wireOrder { transport with frameRx := transport.frameRx ++ [data] } =
      transport.wireOrder ++ [⟨.frame, data⟩] := by
  simp [wireOrder, framesWritten]

/-- Taking a packet writes the first one that is due. -/
theorem nextPacket_eq_some {packet : Packet} {after : SshTransport}
    (next : transport.nextPacket = some (packet, after)) :
    after.connected = transport.connected ∧
      after.written = transport.written ∧
      after.frameRx.length ≤ transport.frameRx.length ∧
      wireOrder { after with written := after.written ++ [packet] } =
        transport.wireOrder := by
  cases transport with
  | mk inputRx anchorRx frameRx connected written =>
  cases inputRx with
  | cons data inputs =>
      injection next with next
      injection next with packetEq afterEq
      subst packetEq afterEq
      refine ⟨rfl, rfl, Nat.le_refl _, ?_⟩
      simp [wireOrder, framesWritten]
  | nil =>
      cases anchorRx with
      | cons data anchors =>
          injection next with next
          injection next with packetEq afterEq
          subst packetEq afterEq
          refine ⟨rfl, rfl, Nat.le_refl _, ?_⟩
          simp [wireOrder, framesWritten]
      | nil =>
          cases frameRx with
          | cons data frames =>
              injection next with next
              injection next with packetEq afterEq
              subst packetEq afterEq
              refine ⟨rfl, rfl, Nat.le_succ _, ?_⟩
              simp [wireOrder, framesWritten]
          | nil => cases next

/-- A round of the loop writes the packet that is due, or ends the
connection. -/
theorem writeRound_eq_some {flushed : Bool} {after : SshTransport}
    (done : transport.writeRound flushed = some after) :
    transport.connected = true ∧
      after.frameRx.length ≤ transport.frameRx.length ∧
      ((after.connected = true ∧
          after.wireOrder = transport.wireOrder) ∨
        (after.connected = false ∧
          after.framesWritten = transport.framesWritten)) := by
  rw [writeRound] at done
  cases connected : transport.connected with
  | false =>
      rw [connected] at done
      cases done
  | true =>
      rw [connected, if_pos rfl] at done
      cases next : transport.nextPacket with
      | none =>
          rw [next] at done
          cases done
      | some taken =>
          obtain ⟨packet, rest⟩ := taken
          rw [next] at done
          injection done with same
          obtain ⟨connectedEq, writtenEq, shorter, order⟩ :=
            nextPacket_eq_some next
          cases flushed with
          | true =>
              rw [← same]
              exact ⟨rfl, shorter,
                Or.inl ⟨connectedEq.trans connected, order⟩⟩
          | false =>
              rw [← same]
              refine ⟨rfl, shorter, Or.inr ⟨rfl, ?_⟩⟩
              change rest.framesWritten = _
              rw [framesWritten, writtenEq, framesWritten]

end SshTransport

end RemoteWay.Transport
