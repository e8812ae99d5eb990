import RemoteWay.Base.Runs
import RemoteWay.Transport.SshTransport

/-!
# Exactly once

Any number of cloned senders and `write_loop`, interleaved in any order,
while the connection holds.  A round of the loop selects a packet and
finishes writing it later; senders may come in between.  The history is the
packets that were accepted.
-/

namespace RemoteWay.Transport

open RemoteWay.Base

/-! ## Calls of the senders -/

namespace SshTransport

/-- The queue of a channel. -/
def queue (transport : SshTransport) : Channel → List (List UInt8)
  | .input => transport.inputRx
  | .anchor => transport.anchorRx
  | .frame => transport.frameRx

/-- The queue of a channel with one packet more. -/
def enqueue (transport : SshTransport) (data : List UInt8) :
    Channel → SshTransport
  | .input => { transport with inputRx := transport.inputRx ++ [data] }
  | .anchor => { transport with anchorRx := transport.anchorRx ++ [data] }
  | .frame => { transport with frameRx := transport.frameRx ++ [data] }

/-- The method of `TransportSender` for a channel. -/
def send (transport : SshTransport) (data : List UInt8) :
    Channel → Bool × SshTransport
  | .input => transport.sendInput data
  | .anchor => transport.sendAnchor data
  | .frame => transport.trySendFrame data

variable {transport : SshTransport}

/-- While the connection holds, only a frame is refused, exactly when the
frame queue is full, and a refused packet changes nothing. -/
theorem send_eq (connected : transport.connected = true)
    (data : List UInt8) (channel : Channel) :
    transport.send data channel =
      if channel = .frame ∧ frameQueueDepth ≤ transport.frameRx.length then
        (false, transport)
      else
        (true, transport.enqueue data channel) := by
  cases channel with
  | input =>
      rw [send, sendInput, if_pos connected, if_neg (by simp)]
      rfl
  | anchor =>
      rw [send, sendAnchor, if_pos connected, if_neg (by simp)]
      rfl
  | frame =>
      rw [send, trySendFrame]
      by_cases full : frameQueueDepth ≤ transport.frameRx.length
      · rw [if_neg (by omega), if_pos ⟨rfl, full⟩]
      · rw [if_pos ⟨connected, by omega⟩, if_neg (by simp [full])]
        rfl

theorem queue_enqueue (data : List UInt8) (channel other : Channel) :
    (transport.enqueue data channel).queue other =
      transport.queue other ++ if channel = other then [data] else [] := by
  cases channel <;> cases other <;> simp [enqueue, queue]

theorem connected_enqueue (data : List UInt8) (channel : Channel) :
    (transport.enqueue data channel).connected = transport.connected := by
  cases channel <;> rfl

theorem written_enqueue (data : List UInt8) (channel : Channel) :
    (transport.enqueue data channel).written = transport.written := by
  cases channel <;> rfl

/-- Selecting takes the first packet of the first queue that holds one. -/
theorem nextPacket_cases {packet : Packet} {after : SshTransport}
    (next : transport.nextPacket = some (packet, after)) :
    (∀ channel, transport.queue channel =
        (if packet.channel = channel then [packet.data] else []) ++
          after.queue channel) ∧
      after.connected = transport.connected ∧
      after.written = transport.written ∧
      (packet.channel = .anchor → transport.inputRx = []) ∧
      (packet.channel = .frame →
        transport.inputRx = [] ∧ transport.anchorRx = []) := by
  cases transport with
  | mk inputRx anchorRx frameRx connected written =>
  cases inputRx with
  | cons data inputs =>
      injection next with next
      injection next with packetEq afterEq
      subst packetEq afterEq
      refine ⟨?_, rfl, rfl, nofun, nofun⟩
      intro channel
      cases channel <;> rfl
  | nil =>
      cases anchorRx with
      | cons data anchors =>
          injection next with next
          injection next with packetEq afterEq
          subst packetEq afterEq
          refine ⟨?_, rfl, rfl, fun _ => rfl, nofun⟩
          intro channel
          cases channel <;> rfl
      | nil =>
          cases frameRx with
          | cons data frames =>
              injection next with next
              injection next with packetEq afterEq
              subst packetEq afterEq
              refine ⟨?_, rfl, rfl, nofun, fun _ => ⟨rfl, rfl⟩⟩
              intro channel
              cases channel <;> rfl
          | nil => cases next

/-- There is a packet to select unless every queue is empty. -/
theorem nextPacket_eq_none_iff :
    transport.nextPacket = none ↔
      ∀ channel, transport.queue channel = [] := by
  cases transport with
  | mk inputRx anchorRx frameRx connected written =>
  constructor
  · intro idle channel
    cases inputRx with
    | cons data inputs => cases idle
    | nil =>
        cases anchorRx with
        | cons data anchors => cases idle
        | nil =>
            cases frameRx with
            | cons data frames => cases idle
            | nil => cases channel <;> rfl
  · intro empty
    have inputs : inputRx = [] := empty .input
    have anchors : anchorRx = [] := empty .anchor
    have frames : frameRx = [] := empty .frame
    subst inputs anchors frames
    rfl

end SshTransport

/-! ## The senders and the write loop -/

/-- The transport while it is shared: the packet being written, the bytes
written so far, and the history of accepted packets. -/
structure SharedTransport where
  transport : SshTransport
  writing : Option Packet
  wire : List UInt8
  accepted : List Packet
  deriving DecidableEq, Repr

/-- A call of one of the senders, or a step of `write_loop`. -/
inductive TransportAction where
  | send (sender : Nat) (channel : Channel) (data : List UInt8)
  | select
  | finish
  deriving DecidableEq, Repr

namespace SharedTransport

def new : SharedTransport := ⟨.new, none, [], []⟩

def perform (shared : SharedTransport) :
    TransportAction → Option SharedTransport
  | .send _ channel data =>
      let (sent, transport) := shared.transport.send data channel
      some { shared with
        transport := transport
        accepted :=
          if sent then shared.accepted ++ [⟨channel, data⟩]
          else shared.accepted }
  | .select =>
      match shared.writing with
      | none =>
          shared.transport.nextPacket.map fun (packet, transport) =>
            { shared with transport := transport, writing := some packet }
      | some _ => none
  | .finish =>
      shared.writing.map fun packet =>
        { shared with
          transport :=
            { shared.transport with
              written := shared.transport.written ++ [packet] }
          writing := none
          wire := shared.wire ++ packet.data }

/-! ## The invariant -/

/-- The packets of a channel. -/
def packetsOf (channel : Channel) (packets : List Packet) : List Packet :=
  packets.filter fun packet => packet.channel = channel

/-- What was accepted on a channel is written, being written or queued, in
the order of acceptance, and the bytes on the wire are those of the written
packets. -/
structure Accounted (shared : SharedTransport) : Prop where
  connected : shared.transport.connected = true
  depth : shared.transport.frameRx.length ≤ frameQueueDepth
  account : ∀ channel,
    packetsOf channel shared.accepted =
      packetsOf channel (shared.transport.written ++
          shared.writing.toList) ++
        (shared.transport.queue channel).map (Packet.mk channel)
  wire : shared.wire = shared.transport.written.flatMap Packet.data

theorem accounted_new : new.Accounted where
  connected := rfl
  depth := Nat.zero_le _
  account := by
    intro channel
    cases channel <;> rfl
  wire := rfl

variable {before after : SharedTransport}

theorem Accounted.send (accounted : before.Accounted) {sender : Nat}
    {channel : Channel} {data : List UInt8}
    (performed : before.perform (.send sender channel data) = some after) :
    after.Accounted := by
  rw [SharedTransport.perform,
    SshTransport.send_eq accounted.connected] at performed
  by_cases full : channel = .frame ∧
      frameQueueDepth ≤ before.transport.frameRx.length
  · rw [if_pos full] at performed
    injection performed with same
    rw [← same]
    exact accounted
  · rw [if_neg full] at performed
    injection performed with same
    rw [← same]
    exact
      { connected := by
          rw [SshTransport.connected_enqueue]
          exact accounted.connected
        depth := by
          have queued : (before.transport.enqueue data channel).queue
              .frame = before.transport.queue .frame ++
                if channel = .frame then [data] else [] :=
            SshTransport.queue_enqueue data channel .frame
          change ((before.transport.enqueue data channel).queue
            .frame).length ≤ _
          rw [queued, List.length_append]
          by_cases frame : channel = .frame
          · rw [if_pos frame]
            change before.transport.frameRx.length + 1 ≤ _
            have room : ¬ frameQueueDepth ≤
                before.transport.frameRx.length := fun tooMany =>
              full ⟨frame, tooMany⟩
            omega
          · rw [if_neg frame]
            exact accounted.depth
        account := by
          intro other
          have account := accounted.account other
          simp only [SshTransport.queue_enqueue,
            SshTransport.written_enqueue, if_true]
          rw [packetsOf, List.filter_append, ← packetsOf, account]
          by_cases here : channel = other
          · simp [here]
          · simp [here]
        wire := by
          rw [SshTransport.written_enqueue]
          exact accounted.wire }

theorem Accounted.select (accounted : before.Accounted)
    (performed : before.perform .select = some after) :
    after.Accounted := by
  rw [perform] at performed
  cases writing : before.writing with
  | some packet =>
      rw [writing] at performed
      cases performed
  | none =>
      rw [writing] at performed
      obtain ⟨⟨packet, transport⟩, next, same⟩ :=
        Option.map_eq_some_iff.mp performed
      obtain ⟨queues, connected, written, _, _⟩ :=
        SshTransport.nextPacket_cases next
      rw [← same]
      exact
        { connected := connected.trans accounted.connected
          depth := by
            have frames := congrArg List.length (queues .frame)
            have depth := accounted.depth
            rw [List.length_append] at frames
            change (transport.queue .frame).length ≤ _
            change (before.transport.queue .frame).length ≤ _ at depth
            omega
          account := by
            intro channel
            have account := accounted.account channel
            rw [account, writing, queues channel]
            simp only [written, packetsOf, Option.toList_none,
              Option.toList_some, List.append_nil, List.filter_append,
              List.append_assoc, List.map_append]
            by_cases here : packet.channel = channel
            · simp [← here]
            · simp [here]
          wire := by
            rw [written]
            exact accounted.wire }

theorem Accounted.finish (accounted : before.Accounted)
    (performed : before.perform .finish = some after) :
    after.Accounted := by
  obtain ⟨packet, writing, same⟩ := Option.map_eq_some_iff.mp performed
  rw [← same]
  exact
    { connected := accounted.connected
      depth := accounted.depth
      account := by
        intro channel
        have account := accounted.account channel
        rw [writing] at account
        rw [account]
        simp
        rfl
      wire := by
        rw [accounted.wire, List.flatMap_append]
        simp }

theorem Accounted.perform (accounted : before.Accounted)
    {action : TransportAction}
    (performed : before.perform action = some after) : after.Accounted := by
  cases action with
  | send sender channel data => exact accounted.send performed
  | select => exact accounted.select performed
  | finish => exact accounted.finish performed

/-! ## Whole runs -/

/-- In every state of every interleaving of the senders with the write loop:
the bytes on the wire are those of whole accepted packets, written in the
order of acceptance on each channel with none lost or repeated; the next
packet is selected only when the channels of higher priority are empty; and
a packet is refused, without a trace, exactly if it is a frame and two frames
are queued. -/
theorem written_exactly_once {actions : List TransportAction}
    {last : SharedTransport}
    (run : Run (fun before action after =>
      before.perform action = some after) new actions last) :
    last.wire = last.transport.written.flatMap Packet.data ∧
      (∀ channel, packetsOf channel last.accepted =
        packetsOf channel (last.transport.written ++
            last.writing.toList) ++
          (last.transport.queue channel).map (Packet.mk channel)) ∧
      (last.transport.nextPacket = none ↔
        ∀ channel, last.transport.queue channel = []) ∧
      (∀ packet transport,
        last.transport.nextPacket = some (packet, transport) →
          (packet.channel = .anchor → last.transport.inputRx = []) ∧
          (packet.channel = .frame → last.transport.inputRx = [] ∧
            last.transport.anchorRx = [])) ∧
      ∀ channel data,
        ((last.transport.send data channel).1 = false ↔
          channel = .frame ∧ last.transport.frameRx.length = 2) ∧
        ((last.transport.send data channel).1 = false →
          (last.transport.send data channel).2 = last.transport) := by
  have accounted := run.keeps
    (fun _ _ _ performed kept => Accounted.perform kept performed)
    accounted_new
  refine ⟨accounted.wire, accounted.account,
    SshTransport.nextPacket_eq_none_iff, ?_, ?_⟩
  · intro packet transport next
    obtain ⟨_, _, _, anchor, frame⟩ := SshTransport.nextPacket_cases next
    exact ⟨anchor, frame⟩
  · intro channel data
    have depth := accounted.depth
    rw [SshTransport.send_eq accounted.connected]
    by_cases full : channel = .frame ∧
        frameQueueDepth ≤ last.transport.frameRx.length
    · rw [if_pos full]
      have two : last.transport.frameRx.length = 2 :=
        Nat.le_antisymm depth full.2
      exact ⟨⟨fun _ => ⟨full.1, two⟩, fun _ => rfl⟩, fun _ => rfl⟩
    · rw [if_neg full]
      refine ⟨⟨nofun, ?_⟩, nofun⟩
      rintro ⟨frame, two⟩
      exact absurd ⟨frame, Nat.le_of_eq two.symm⟩ full

/-- Three senders; the third frame finds the queue full. -/
def sharedActions : List TransportAction :=
  [.send 0 .frame [1], .send 1 .frame [2], .send 0 .frame [3],
    .send 1 .anchor [4], .select, .send 2 .input [5]] ++
    (List.replicate 3 [.finish, .select]).flatten

theorem written_exactly_once_shared :
    ∃ last, Run (fun (before : SharedTransport) action after =>
        before.perform action = some after) new sharedActions last ∧
      last.wire = [4, 5, 1] ∧
      last.wire = last.transport.written.flatMap Packet.data := by
  have evaluated : (sharedActions.foldlM perform new).map
      (fun last => last.wire) = some [4, 5, 1] := by decide
  obtain ⟨last, iterated, wire⟩ := Option.map_eq_some_iff.mp evaluated
  have run := run_iff_foldlM.mpr iterated
  exact ⟨last, run, wire, (written_exactly_once run).1⟩

end SharedTransport

end RemoteWay.Transport
