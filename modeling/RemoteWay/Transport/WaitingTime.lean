import Mathlib.Algebra.Ring.Nat
import RemoteWay.Transport.ExactlyOnce

/-!
# How long a packet waits

`write_loop` selects inputs before anchors before frames.  A packet waits for
the one being written, for those that are queued on its own channel and on
channels with priority when it is sent, and for those that are sent later on
channels with priority.  It waits for no others.
-/

namespace RemoteWay.Transport

open RemoteWay.Base

/-! ## Priorities -/

namespace Channel

/-- Packets of the first channel are selected before those of the second. -/
def precedes : Channel → Channel → Bool
  | .input, .anchor => true
  | .input, .frame => true
  | .anchor, .frame => true
  | _, _ => false

end Channel

namespace SshTransport

/-- The number of packets on channels with priority. -/
def above (transport : SshTransport) : Channel → Nat
  | .input => 0
  | .anchor => transport.inputRx.length
  | .frame => transport.inputRx.length + transport.anchorRx.length

variable {transport : SshTransport}

theorem above_enqueue (data : List UInt8) (other channel : Channel) :
    (transport.enqueue data other).above channel =
      transport.above channel + if other.precedes channel then 1 else 0 := by
  cases other <;> cases channel <;>
    simp [above, enqueue, Channel.precedes] <;> omega

/-- Selecting takes a packet with priority, or the first one of the channel
once there is none with priority. -/
theorem above_of_nextPacket {channel : Channel} {data : List UInt8}
    {early late : List (List UInt8)} {packet : Packet} {after : SshTransport}
    (queued : transport.queue channel = early ++ data :: late)
    (next : transport.nextPacket = some (packet, after)) :
    (after.queue channel = early ++ data :: late ∧
        after.above channel + 1 = transport.above channel) ∨
      (packet.channel = channel ∧ transport.above channel = 0 ∧
        after.above channel = 0 ∧
        packet.data :: after.queue channel = early ++ data :: late) := by
  obtain ⟨inputRx, anchorRx, frameRx, connected, written⟩ := transport
  cases inputRx with
  | cons first inputs =>
      injection next with next
      injection next with packetEq afterEq
      subst packetEq afterEq
      cases channel with
      | input => exact Or.inr ⟨rfl, rfl, rfl, queued⟩
      | anchor => exact Or.inl ⟨queued, rfl⟩
      | frame =>
          refine Or.inl ⟨queued, ?_⟩
          simp only [above, List.length_cons]
          omega
  | nil =>
      cases anchorRx with
      | cons first anchors =>
          injection next with next
          injection next with packetEq afterEq
          subst packetEq afterEq
          cases channel with
          | input =>
              have impossible := congrArg List.length queued
              rw [List.length_append] at impossible
              cases impossible
          | anchor => exact Or.inr ⟨rfl, rfl, rfl, queued⟩
          | frame =>
              refine Or.inl ⟨queued, ?_⟩
              simp only [above, List.length_cons]
              omega
      | nil =>
          cases frameRx with
          | cons first frames =>
              injection next with next
              injection next with packetEq afterEq
              subst packetEq afterEq
              cases channel with
              | input =>
                  have impossible := congrArg List.length queued
                  rw [List.length_append] at impossible
                  cases impossible
              | anchor =>
                  have impossible := congrArg List.length queued
                  rw [List.length_append] at impossible
                  cases impossible
              | frame => exact Or.inr ⟨rfl, rfl, rfl, queued⟩
          | nil => cases next

end SshTransport

namespace SharedTransport

/-! ## A packet on its way -/

/-- At most `bound` packets are written between the given ones and the
packet. -/
inductive Waits (packet : Packet) (earlier : List Packet) (bound : Nat)
    (shared : SharedTransport) : Prop where
  | queued (front : List Packet) (early late : List (List UInt8)) :
      shared.transport.written = earlier ++ front →
      shared.transport.queue packet.channel =
        early ++ packet.data :: late →
      front.length + shared.writing.toList.length +
          shared.transport.above packet.channel + early.length ≤ bound →
        Waits packet earlier bound shared
  | writing (front : List Packet) :
      shared.transport.written = earlier ++ front →
      shared.writing = some packet → front.length ≤ bound →
        Waits packet earlier bound shared
  | written (front later : List Packet) :
      shared.transport.written = earlier ++ front ++ packet :: later →
      front.length ≤ bound → Waits packet earlier bound shared

variable {packet : Packet} {earlier : List Packet} {bound : Nat}
variable {before after : SharedTransport}

/-- The packets that an action puts in front of a packet. -/
def overtaking (channel : Channel) : TransportAction → Nat
  | .send _ other _ => if other.precedes channel then 1 else 0
  | .select => 0
  | .finish => 0

/-- Sending puts at most one packet in front. -/
theorem Waits.send (waits : Waits packet earlier bound before)
    (connected : before.transport.connected = true) {sender : Nat}
    {channel : Channel} {data : List UInt8}
    (performed : before.perform (.send sender channel data) = some after) :
    Waits packet earlier
      (bound + overtaking packet.channel (.send sender channel data))
        after := by
  rw [SharedTransport.perform, SshTransport.send_eq connected] at performed
  have grown : bound ≤
      bound + overtaking packet.channel (.send sender channel data) :=
    Nat.le_add_right _ _
  by_cases full : channel = .frame ∧
      frameQueueDepth ≤ before.transport.frameRx.length
  · rw [if_pos full] at performed
    injection performed with same
    rw [← same]
    cases waits with
    | queued front early late written queue few =>
        exact .queued front early late written queue (Nat.le_trans few grown)
    | writing front written taken few =>
        exact .writing front written taken (Nat.le_trans few grown)
    | written front later written few =>
        exact .written front later written (Nat.le_trans few grown)
  · rw [if_neg full] at performed
    injection performed with same
    have writtenEq : (before.transport.enqueue data channel).written =
        before.transport.written := SshTransport.written_enqueue data channel
    rw [← same]
    cases waits with
    | queued front early late written queue few =>
        refine .queued front early
          (late ++ if channel = packet.channel then [data] else [])
          (writtenEq.trans written) ?_ ?_
        · dsimp only
          rw [SshTransport.queue_enqueue, queue]
          simp only [List.append_assoc, List.cons_append]
        · dsimp only
          rw [SshTransport.above_enqueue, overtaking]
          omega
    | writing front written taken few =>
        exact .writing front (writtenEq.trans written) taken
          (Nat.le_trans few grown)
    | written front later written few =>
        exact .written front later (writtenEq.trans written)
          (Nat.le_trans few grown)

/-- Selecting brings the packet nearer. -/
theorem Waits.select (waits : Waits packet earlier bound before)
    (performed : before.perform .select = some after) :
    Waits packet earlier bound after := by
  rw [SharedTransport.perform] at performed
  split at performed
  · rename_i vacant
    obtain ⟨⟨taken, transport⟩, next, same⟩ :=
      Option.map_eq_some_iff.mp performed
    obtain ⟨_, _, writtenEq, _, _⟩ := SshTransport.nextPacket_cases next
    rw [← same]
    cases waits with
    | queued front early late written queue few =>
        rw [vacant] at few
        simp only [Option.toList_none, List.length_nil] at few
        rcases SshTransport.above_of_nextPacket queue next with
          ⟨kept, fewer⟩ | ⟨own, _, none, split⟩
        · refine .queued front early late (writtenEq.trans written) kept ?_
          simp only [Option.toList_some, List.length_singleton]
          omega
        · cases early with
          | nil =>
              injection split with dataEq _
              have packetEq : taken = packet := by
                cases taken
                cases packet
                rw [Packet.mk.injEq]
                exact ⟨own, dataEq⟩
              refine .writing front (writtenEq.trans written) ?_ ?_
              · rw [← packetEq]
              · omega
          | cons first early =>
              injection split with _ rest
              refine .queued front early late (writtenEq.trans written) rest
                ?_
              dsimp only
              rw [none]
              simp only [Option.toList_some, List.length_cons,
                List.length_nil] at few ⊢
              omega
    | writing front written taken few =>
        rw [vacant] at taken
        cases taken
    | written front later written few =>
        exact .written front later (writtenEq.trans written) few
  · cases performed

/-- A written packet is one packet less to wait for. -/
theorem Waits.finish (waits : Waits packet earlier bound before)
    (performed : before.perform .finish = some after) :
    Waits packet earlier bound after := by
  obtain ⟨done, writing, same⟩ := Option.map_eq_some_iff.mp performed
  rw [← same]
  cases waits with
  | queued front early late written queue few =>
      refine .queued (front ++ [done]) early late ?_ queue ?_
      · dsimp only
        rw [written, List.append_assoc]
      · rw [writing] at few
        simp only [Option.toList_some, List.length_singleton,
          Option.toList_none, List.length_nil, List.length_append] at few ⊢
        exact few
  | writing front written taken few =>
      rw [writing] at taken
      injection taken with taken
      refine .written front [] ?_ few
      dsimp only
      rw [written, taken]
  | written front later written few =>
      refine .written front (later ++ [done]) ?_ few
      dsimp only
      rw [written, List.append_assoc (earlier ++ front), List.cons_append]

theorem Waits.perform {action : TransportAction}
    (waits : Waits packet earlier bound before)
    (connected : before.transport.connected = true)
    (performed : before.perform action = some after) :
    Waits packet earlier (bound + overtaking packet.channel action)
      after := by
  cases action with
  | send sender channel data => exact waits.send connected performed
  | select => exact waits.select performed
  | finish => exact waits.finish performed

/-! ## Whole runs -/

/-- The packets that actions put in front of a packet of the channel. -/
def overtakings (channel : Channel) (actions : List TransportAction) : Nat :=
  (actions.map (overtaking channel)).sum

/-- Nothing overtakes an input. -/
theorem overtakings_input (actions : List TransportAction) :
    overtakings .input actions = 0 := by
  induction actions with
  | nil => rfl
  | cons action actions inductionHypothesis =>
      rw [overtakings] at inductionHypothesis
      rw [overtakings, List.map_cons, List.sum_cons, inductionHypothesis]
      cases action with
      | send sender other data => cases other <;> rfl
      | select => rfl
      | finish => rfl

theorem Waits.run {actions : List TransportAction} {last : SharedTransport}
    (run : Run (fun before action after =>
      SharedTransport.perform before action = some after)
        before actions last) :
    ∀ {bound : Nat}, before.Accounted → Waits packet earlier bound before →
      Waits packet earlier (bound + overtakings packet.channel actions)
        last := by
  induction run with
  | nil here =>
      intro bound _ waits
      exact waits
  | @cons before after last action actions performed rest
      inductionHypothesis =>
      intro bound accounted waits
      have next := waits.perform accounted.connected performed
      have later := inductionHypothesis (accounted.perform performed) next
      rw [overtakings, List.map_cons, List.sum_cons, ← Nat.add_assoc]
      exact later

/-- Each finished packet is written. -/
theorem length_written_of_run {actions : List TransportAction}
    {last : SharedTransport}
    (run : Run (fun before action after =>
      SharedTransport.perform before action = some after)
        before actions last) :
    last.transport.written.length =
      before.transport.written.length + actions.count .finish := by
  induction run with
  | nil here => rfl
  | @cons before after last action actions performed rest
      inductionHypothesis =>
      have one : after.transport.written.length =
          before.transport.written.length +
            if action = .finish then 1 else 0 := by
        cases action with
        | send sender channel data =>
            injection performed with same
            rw [← same]
            cases channel with
            | input =>
                dsimp only [SshTransport.send, SshTransport.sendInput]
                split <;> rfl
            | anchor =>
                dsimp only [SshTransport.send, SshTransport.sendAnchor]
                split <;> rfl
            | frame =>
                dsimp only [SshTransport.send, SshTransport.trySendFrame]
                split <;> rfl
        | select =>
            rw [SharedTransport.perform] at performed
            split at performed
            · obtain ⟨⟨taken, transport⟩, next, same⟩ :=
                Option.map_eq_some_iff.mp performed
              obtain ⟨_, _, written, _, _⟩ :=
                SshTransport.nextPacket_cases next
              rw [← same]
              dsimp only
              rw [written]
              rfl
            · cases performed
        | finish =>
            obtain ⟨done, _, same⟩ := Option.map_eq_some_iff.mp performed
            rw [← same, if_pos rfl]
            exact List.length_append
      rw [inductionHypothesis, one, List.count_cons]
      simp only [beq_iff_eq]
      omega

/-- How many packets are written at most before one that is sent now. -/
def delay (shared : SharedTransport) (channel : Channel) : Nat :=
  shared.writing.toList.length + shared.transport.above channel +
    (shared.transport.queue channel).length

/-- In every interleaving of the senders with the write loop, an accepted
packet is written as soon as the loop has finished one packet more than were
ahead of it, in its own queue and those with priority, when it was sent and
than are sent later with priority; no others are written before it. -/
theorem written_within_delay {actions later : List TransportAction}
    {before sent last : SharedTransport} {sender : Nat} {channel : Channel}
    {data : List UInt8}
    (reached : Run (fun before action after =>
      SharedTransport.perform before action = some after) new actions before)
    (accepted : (before.transport.send data channel).1 = true)
    (sends : before.perform (.send sender channel data) = some sent)
    (run : Run (fun before action after =>
      SharedTransport.perform before action = some after) sent later last)
    (enough : before.delay channel + overtakings channel later <
      later.count .finish) :
    ∃ front rest,
      last.transport.written = before.transport.written ++ front ++
        ⟨channel, data⟩ :: rest ∧
      front.length ≤ before.delay channel + overtakings channel later := by
  have accounted : before.Accounted := reached.keeps
    (fun _ _ _ performed kept => Accounted.perform kept performed)
    accounted_new
  have taken : sent = { before with
      transport := before.transport.enqueue data channel
      accepted := before.accepted ++ [⟨channel, data⟩] } := by
    rw [SharedTransport.perform] at sends
    rw [SshTransport.send_eq accounted.connected] at sends accepted
    by_cases full : channel = .frame ∧
        frameQueueDepth ≤ before.transport.frameRx.length
    · rw [if_pos full] at accepted
      cases accepted
    · rw [if_neg full] at sends
      injection sends with same
      exact same.symm
  have written : sent.transport.written = before.transport.written := by
    rw [taken]
    exact SshTransport.written_enqueue data channel
  have start : Waits ⟨channel, data⟩ before.transport.written
      (before.delay channel) sent := by
    refine .queued [] (before.transport.queue channel) [] ?_ ?_ ?_
    · rw [written, List.append_nil]
    · rw [taken]
      dsimp only
      rw [SshTransport.queue_enqueue, if_pos rfl]
    · rw [taken]
      dsimp only
      rw [SshTransport.above_enqueue, delay, List.length_nil, Nat.zero_add]
      cases channel with
      | input | anchor | frame => exact Nat.le_refl _
  have count := length_written_of_run run
  rw [written] at count
  have final := Waits.run run (accounted.perform sends) start
  cases final with
  | queued front early late here _ few =>
      rw [here, List.length_append] at count
      dsimp only at few
      omega
  | writing front here _ few =>
      rw [here, List.length_append] at count
      dsimp only at few
      omega
  | written front rest here few => exact ⟨front, rest, here, few⟩

/-- An anchor is sent while a frame is being written and another is queued;
an input overtakes it. -/
theorem written_within_delay_anchor :
    ∃ before last : SharedTransport, before.delay .anchor = 1 ∧
      ∃ front rest,
        last.transport.written = before.transport.written ++ front ++
          ⟨.anchor, [3]⟩ :: rest ∧ front.length ≤ 2 := by
  let earlier : List TransportAction :=
    [.send 0 .frame [1], .send 0 .frame [2], .select]
  let later : List TransportAction :=
    .send 1 .input [4] :: (List.replicate 3 [.finish, .select]).flatten
  have evaluated :
      ((earlier.foldlM perform new).bind fun before =>
        (before.perform (.send 0 .anchor [3])).bind fun sent =>
          (later.foldlM perform sent).map fun last =>
            (before, sent, last)).map
        (fun (before, _, _) => (before.delay .anchor,
          (before.transport.send [3] .anchor).1)) =
      some (1, true) := by
    decide
  obtain ⟨⟨first, middle, final⟩, states, values⟩ :=
    Option.map_eq_some_iff.mp evaluated
  obtain ⟨before, reached, states⟩ := Option.bind_eq_some_iff.mp states
  obtain ⟨sent, sends, states⟩ := Option.bind_eq_some_iff.mp states
  obtain ⟨last, run, same⟩ := Option.map_eq_some_iff.mp states
  injection same with beforeEq same
  injection same with sentEq lastEq
  subst beforeEq sentEq lastEq
  injection values with one accepted
  have waits := written_within_delay (run_iff_foldlM.mpr reached) accepted
    sends (run_iff_foldlM.mpr run) (by rw [one]; decide)
  rw [one] at waits
  exact ⟨before, last, one, waits⟩

end SharedTransport

end RemoteWay.Transport
