import RemoteWay.System.Session

/-!
# Nothing gets stuck

Between two captured frames or inputs, the programs can only take finitely
many steps: each one moves something on, which makes the load of the two
sides smaller.  When no step is possible and both connections hold, nothing
is on the way, and the client has shown all frames that the server's
transport has accepted.
-/

namespace RemoteWay.System

open RemoteWay.Base RemoteWay.Proto RemoteWay.Compress
open RemoteWay.Server RemoteWay.Client RemoteWay.Transport

/-! ## What a push makes of its bytes -/

theorem length_reactAll_le (frames : List Frame) :
    ∀ chunks : ChunkMap,
      (Scanner.reactAll reassembleFrame chunks frames).2.length ≤
        frames.length := by
  induction frames with
  | nil =>
      intro chunks
      exact Nat.le_refl 0
  | cons frame frames inductionHypothesis =>
      intro chunks
      have later := inductionHypothesis (reassembleFrame chunks frame).1
      have one : (reassembleFrame chunks frame).2.length ≤ 1 := by
        rw [reassembleFrame_eq]
        dsimp only
        split
        · exact Nat.le_refl 1
        · exact Nat.zero_le 1
      rw [Scanner.reactAll, List.length_append, List.length_cons]
      omega

theorem length_flatMap_encode_ge (frames : List Frame) :
    FrameHeader.size * frames.length ≤
      (frames.flatMap Frame.encode).length := by
  induction frames with
  | nil => exact Nat.le_refl 0
  | cons frame frames inductionHypothesis =>
      rw [List.flatMap_cons, List.length_append, Frame.length_encode,
        List.length_cons, Nat.mul_succ]
      omega

/-- A message takes at least a header off the buffer. -/
theorem length_push_le (parser : StreamParser) (piece : List UInt8) :
    (parser.push piece).1.buf.length +
        FrameHeader.size * ((parser.push piece).2.toOption.getD []).length ≤
      parser.buf.length + piece.length := by
  have joined := congrArg List.length
    (frameScanner.flatMap_encode_append_rest (parser.buf ++ piece))
  have headers := length_flatMap_encode_ge
    (frameScanner.drain (parser.buf ++ piece)).tokens
  have few := length_reactAll_le
    (frameScanner.drain (parser.buf ++ piece)).tokens parser.chunks
  rw [List.length_append, List.length_append] at joined
  change ((frameScanner.drain (parser.buf ++ piece)).tokens.flatMap
    Frame.encode).length + _ = _ at joined
  rw [push_eq_feed, Scanner.feed]
  dsimp only
  have kept := Nat.mul_le_mul_left FrameHeader.size few
  cases (frameScanner.drain (parser.buf ++ piece)).stop with
  | none =>
      change _ + FrameHeader.size * (Scanner.reactAll reassembleFrame
        parser.chunks _).2.length ≤ _
      omega
  | some reason =>
      change _ + FrameHeader.size * 0 ≤ _
      omega

/-! ## The load of a side -/

/-- The handshake of either side has 24 bytes. -/
def MainTask.load : MainTask → Nat
  | .starting => 76
  | .waiting => 1
  | .running _ => 0
  | .bailed _ => 0

def queuedPackets (transport : SshTransport) : Nat :=
  transport.inputRx.length + transport.anchorRx.length +
    transport.frameRx.length

/-- What is left to do with the queues.  A byte weighs less on its way through
the connection into the parser. -/
def Endpoint.sending (endpoint : Endpoint) : Nat :=
  3 * endpoint.outgoing.length + 2 * queuedPackets endpoint.transport +
    (endpoint.writing.map fun _ => 1).getD 0

/-- What is left to do with what has arrived.  A message weighs less than the
header that it arrived with. -/
def Endpoint.receiving (endpoint : Endpoint) : Nat :=
  2 * endpoint.inbound.length + endpoint.parser.buf.length +
    2 * endpoint.forwarding.length + endpoint.incoming.length

def Endpoint.load (endpoint : Endpoint) : Nat :=
  endpoint.main.load + endpoint.sending + endpoint.receiving

section Loads

variable {endpoint after : Endpoint}

theorem load_deliver (endpoint : Endpoint) (bytes : List UInt8) :
    (endpoint.deliver bytes).load = endpoint.load + 2 * bytes.length := by
  have receiving : (endpoint.deliver bytes).receiving =
      endpoint.receiving + 2 * bytes.length := by
    simp only [Endpoint.receiving, Endpoint.deliver, List.length_append]
    omega
  have sending : (endpoint.deliver bytes).sending = endpoint.sending := rfl
  have main : (endpoint.deliver bytes).main = endpoint.main := rfl
  rw [Endpoint.load, Endpoint.load, receiving, sending, main]
  omega

theorem load_start {data : List UInt8} (short : data.length = 24)
    (started : endpoint.start data = some after) :
    after.load < endpoint.load := by
  rw [Endpoint.start] at started
  split at started
  · rename_i starting
    injection started with same
    have receiving : after.receiving = endpoint.receiving := by
      rw [← same]
      rfl
    have main : after.main.load = 1 := by
      rw [← same]
      rfl
    have sending : after.sending ≤ endpoint.sending + 74 := by
      rw [← same, Endpoint.sending, Endpoint.sending, Endpoint.outgoing,
        Endpoint.outgoing]
      dsimp only
      rcases endpoint.transport.sendAnchor_eq data with
        ⟨_, sent⟩ | ⟨_, sent⟩
      · rw [sent]
        exact Nat.le_add_right _ _
      · rw [sent]
        simp only [queuedBytes, queuedPackets, Endpoint.unwritten,
          List.length_append, List.flatten_append, List.flatten_cons,
          List.flatten_nil, List.length_cons, List.length_nil, short]
        omega
    have early : endpoint.main.load = 76 := by
      rw [starting]
      rfl
    rw [Endpoint.load, Endpoint.load, receiving, main, early]
    omega
  · cases started

theorem queuedPackets_of_nextPacket {transport rest : SshTransport}
    {packet : Packet} (next : transport.nextPacket = some (packet, rest)) :
    queuedPackets transport = queuedPackets rest + 1 := by
  obtain ⟨inputRx, anchorRx, frameRx, connected, written⟩ := transport
  cases inputRx with
  | cons data inputs =>
      injection next with next
      injection next with _ restEq
      subst restEq
      simp only [queuedPackets, List.length_cons]
      omega
  | nil =>
      cases anchorRx with
      | cons data anchors =>
          injection next with next
          injection next with _ restEq
          subst restEq
          simp only [queuedPackets, List.length_cons]
          omega
      | nil =>
          cases frameRx with
          | cons data frames =>
              injection next with next
              injection next with _ restEq
              subst restEq
              simp only [queuedPackets, List.length_cons]
              omega
          | nil => cases next

/-- A step that does not concern what has arrived. -/
theorem load_of_sending (spent : Nat) (main : after.main = endpoint.main)
    (receiving : after.receiving = endpoint.receiving)
    (sending : after.sending + spent < endpoint.sending) :
    after.load + spent < endpoint.load := by
  rw [Endpoint.load, Endpoint.load, main, receiving]
  omega

theorem load_select (selected : endpoint.select = some after) :
    after.load < endpoint.load := by
  rw [Endpoint.select] at selected
  obtain ⟨⟨_, vacant⟩, selected⟩ :=
    Option.ite_none_right_eq_some.mp selected
  obtain ⟨⟨packet, transport⟩, next, same⟩ :=
    Option.map_eq_some_iff.mp selected
  have fewer := queuedPackets_of_nextPacket next
  have bytes := congrArg List.length (queuedBytes_of_nextPacket next)
  rw [List.length_append] at bytes
  rw [← same]
  apply load_of_sending 0
  · rfl
  · rfl
  simp only [Endpoint.sending, Endpoint.outgoing, Endpoint.unwritten,
    vacant, Option.map_some, Option.map_none, Option.getD_some,
    Option.getD_none, List.length_append, List.length_nil]
  omega

theorem load_write {count : Nat} {bytes : List UInt8}
    (wrote : endpoint.write count = some (after, bytes)) :
    after.load + 2 * bytes.length < endpoint.load := by
  rw [Endpoint.write] at wrote
  split at wrote
  · rename_i packet rest writing
    obtain ⟨⟨_, positive, enough⟩, same⟩ :=
      Option.ite_none_right_eq_some.mp wrote
    injection same with same
    injection same with afterEq bytesEq
    have taken : bytes.length = count := by
      rw [← bytesEq, List.length_take, Nat.min_eq_left enough]
    rw [← afterEq]
    apply load_of_sending (2 * bytes.length)
    · rfl
    · rfl
    simp only [Endpoint.sending, Endpoint.outgoing, Endpoint.unwritten,
      writing, Option.map_some, Option.getD_some, List.length_append,
      List.length_drop]
    omega
  · cases wrote

theorem load_finish (finished : endpoint.finish = some after) :
    after.load < endpoint.load := by
  rw [Endpoint.finish] at finished
  split at finished
  · rename_i packet writing
    obtain ⟨_, same⟩ := Option.ite_none_right_eq_some.mp finished
    injection same with same
    rw [← same]
    apply load_of_sending 0
    · rfl
    · rfl
    simp only [Endpoint.sending, Endpoint.outgoing, Endpoint.unwritten,
      queuedBytes, queuedPackets, writing, Option.map_some, Option.map_none,
      Option.getD_some, Option.getD_none, List.length_append,
      List.length_nil]
    omega
  · cases finished

/-- A step that does not concern the queues. -/
theorem load_of_receiving (main : after.main = endpoint.main)
    (sending : after.sending = endpoint.sending)
    (receiving : after.receiving < endpoint.receiving) :
    after.load < endpoint.load := by
  rw [Endpoint.load, Endpoint.load, main, sending]
  omega

theorem load_read {count : Nat} (done : endpoint.read count = some after) :
    after.load < endpoint.load := by
  rw [Endpoint.read] at done
  obtain ⟨⟨_, nothing, positive, _, enough⟩, done⟩ :=
    Option.ite_none_right_eq_some.mp done
  have pushed := length_push_le endpoint.parser
    (endpoint.inbound.take count)
  rw [List.length_take, Nat.min_eq_left enough,
    show FrameHeader.size = 16 from rfl] at pushed
  split at done
  · rename_i parser msgs result
    rw [result] at pushed
    change parser.buf.length + 16 * msgs.length ≤ _ at pushed
    injection done with same
    rw [← same]
    apply load_of_receiving
    · rfl
    · rfl
    simp only [Endpoint.receiving, nothing, List.length_drop,
      List.length_nil]
    omega
  · rename_i parser reason result
    rw [result] at pushed
    change parser.buf.length + 16 * 0 ≤ _ at pushed
    injection done with same
    rw [← same]
    apply load_of_receiving
    · rfl
    · rfl
    simp only [Endpoint.receiving, nothing, List.length_drop,
      List.length_nil]
    omega

theorem load_forward (forwarded : endpoint.forward = some after) :
    after.load < endpoint.load := by
  rw [Endpoint.forward] at forwarded
  split at forwarded
  · rename_i msg msgs forwarding
    obtain ⟨_, same⟩ := Option.ite_none_right_eq_some.mp forwarded
    injection same with same
    rw [← same]
    apply load_of_receiving
    · rfl
    · rfl
    simp only [Endpoint.receiving, forwarding, List.length_append,
      List.length_cons, List.length_nil]
    omega
  · cases forwarded

theorem load_recv (received : endpoint.recv = some after) :
    after.load < endpoint.load := by
  rcases recv_cases received with ⟨msg, msgs, waiting, incoming, same⟩ |
    ⟨waiting, incoming, same⟩ | ⟨first, msg, msgs, _, incoming, same⟩
  · -- The main task goes on or ends, with one message less to handle.
    have sending : after.sending = endpoint.sending := by
      rw [same, Endpoint.check]
      split
      · rfl
      · rfl
    have receiving : after.receiving < endpoint.receiving := by
      obtain ⟨left, parser, inbound, forwarding, _⟩ :=
        check_keeps { endpoint with incoming := msgs } msg
      rw [same, Endpoint.receiving, Endpoint.receiving, left, parser,
        inbound, forwarding, incoming, List.length_cons]
      exact Nat.lt_succ_self _
    have main : after.main.load = 0 := by
      rw [same, Endpoint.check]
      split
      · rfl
      · rfl
    rw [Endpoint.load, Endpoint.load, main, sending]
    omega
  · have main : endpoint.main.load = 1 := by
      rw [waiting]
      rfl
    have ended : after.load = 0 + endpoint.sending + endpoint.receiving := by
      rw [same]
      rfl
    rw [ended, Endpoint.load, main]
    omega
  · rw [same]
    apply load_of_receiving
    · rfl
    · rfl
    simp only [Endpoint.receiving, incoming, List.length_cons]
    omega

private theorem load_of_map {result : Option Endpoint} {bytes : List UInt8}
    (performed : result.map (·, []) = some (after, bytes))
    (lighter : ∀ next, result = some next → next.load < endpoint.load) :
    after.load + 2 * bytes.length < endpoint.load := by
  obtain ⟨next, done, same⟩ := Option.map_eq_some_iff.mp performed
  injection same with nextEq bytesEq
  rw [← nextEq, ← bytesEq, List.length_nil, Nat.mul_zero, Nat.add_zero]
  exact lighter next done

/-- Every step of a program makes its load smaller, by more than what the
other side has to do with the bytes that it writes. -/
theorem load_of_perform {data bytes : List UInt8} {step : TaskStep}
    (short : data.length = 24)
    (performed : endpoint.perform data step = some (after, bytes)) :
    after.load + 2 * bytes.length < endpoint.load := by
  cases step with
  | start =>
      exact load_of_map performed fun _ started => load_start short started
  | recv => exact load_of_map performed fun _ => load_recv
  | select => exact load_of_map performed fun _ => load_select
  | write count => exact load_write performed
  | finish => exact load_of_map performed fun _ => load_finish
  | read count => exact load_of_map performed fun _ => load_read
  | forward => exact load_of_map performed fun _ => load_forward

/-! ## Stuck sides -/

/-- A side that has nothing left to do. -/
structure Endpoint.Resting (endpoint : Endpoint) : Prop where
  begun : endpoint.main ≠ .starting
  writing : endpoint.writing = none
  queues : endpoint.transport.nextPacket = none
  inbound : endpoint.inbound = []
  forwarding : endpoint.forwarding = []
  incoming : endpoint.incoming = []

instance (endpoint : Endpoint) : Decidable endpoint.Resting :=
  decidable_of_iff
    (endpoint.main ≠ .starting ∧ endpoint.writing = none ∧
      endpoint.transport.nextPacket = none ∧ endpoint.inbound = [] ∧
      endpoint.forwarding = [] ∧ endpoint.incoming = [])
    ⟨fun ⟨begun, writing, queues, inbound, forwarding, incoming⟩ =>
        ⟨begun, writing, queues, inbound, forwarding, incoming⟩,
      fun resting => ⟨resting.begun, resting.writing, resting.queues,
        resting.inbound, resting.forwarding, resting.incoming⟩⟩

theorem Endpoint.Resting.outgoing (resting : endpoint.Resting) :
    endpoint.outgoing = [] := by
  have queues := resting.queues
  rw [Endpoint.outgoing, Endpoint.unwritten, resting.writing]
  rw [SshTransport.nextPacket] at queues
  split at queues
  · cases queues
  · cases queues
  · cases queues
  · rename_i inputs anchors frames
    rw [queuedBytes, inputs, anchors, frames]
    rfl

/-- A connected side on which no step is possible has nothing left to do. -/
theorem resting_of_stuck {data : List UInt8}
    (connected : endpoint.transport.connected = true)
    (live : ∀ reason, endpoint.main ≠ .bailed reason)
    (stuck : ∀ step, endpoint.perform data step = none) :
    endpoint.Resting := by
  have begun : endpoint.main ≠ .starting := by
    intro starting
    have start := Option.map_eq_none_iff.mp (stuck .start)
    rw [Endpoint.start, starting] at start
    cases start
  have incoming : endpoint.incoming = [] := by
    cases incoming : endpoint.incoming with
    | nil => rfl
    | cons msg msgs =>
        cases main : endpoint.main with
        | starting => exact absurd main begun
        | waiting =>
            have recv := Option.map_eq_none_iff.mp (stuck .recv)
            rw [Endpoint.recv, main, incoming] at recv
            cases recv
        | running first =>
            have recv := Option.map_eq_none_iff.mp (stuck .recv)
            rw [Endpoint.recv, main, incoming] at recv
            cases recv
        | bailed reason => exact absurd main (live reason)
  have forwarding : endpoint.forwarding = [] := by
    cases forwarding : endpoint.forwarding with
    | nil => rfl
    | cons msg msgs =>
        have forward := Option.map_eq_none_iff.mp (stuck .forward)
        rw [Endpoint.forward, forwarding, incoming] at forward
        dsimp only at forward
        rw [if_pos ⟨connected, by decide⟩] at forward
        cases forward
  have inbound : endpoint.inbound = [] := by
    by_contra arrived
    have positive := List.length_pos_iff.mpr arrived
    have limit : 0 < readBufSize := by decide
    have read := Option.map_eq_none_iff.mp
      (stuck (.read (min endpoint.inbound.length readBufSize)))
    rw [Endpoint.read, if_pos ⟨connected, forwarding, by omega,
      Nat.min_le_right _ _, Nat.min_le_left _ _⟩] at read
    split at read
    · cases read
    · cases read
  have writing : endpoint.writing = none := by
    cases writing : endpoint.writing with
    | none => rfl
    | some taken =>
        obtain ⟨packet, rest⟩ := taken
        cases rest with
        | nil =>
            have finish := Option.map_eq_none_iff.mp (stuck .finish)
            rw [Endpoint.finish, writing] at finish
            dsimp only at finish
            rw [if_pos connected] at finish
            cases finish
        | cons byte rest =>
            have write : endpoint.write 1 = none := stuck (.write 1)
            rw [Endpoint.write, writing] at write
            dsimp only at write
            rw [if_pos ⟨connected, Nat.one_pos, by
              rw [List.length_cons]
              exact Nat.le_add_left 1 _⟩] at write
            cases write
  have queues : endpoint.transport.nextPacket = none := by
    have select := Option.map_eq_none_iff.mp (stuck .select)
    rw [Endpoint.select, if_pos ⟨connected, writing⟩,
      Option.map_eq_none_iff] at select
    exact select
  exact ⟨begun, writing, queues, inbound, forwarding, incoming⟩

/-- No step is possible on a connected side that has nothing left to do. -/
theorem Endpoint.Resting.stuck {data : List UInt8}
    (resting : endpoint.Resting)
    (connected : endpoint.transport.connected = true) (step : TaskStep) :
    endpoint.perform data step = none := by
  cases step with
  | start =>
      rw [Endpoint.perform, Endpoint.start]
      split
      · rename_i starting
        exact absurd starting resting.begun
      · rfl
  | recv =>
      rw [Endpoint.perform, Endpoint.recv, resting.incoming]
      split
      · rename_i impossible
        cases impossible
      · rw [if_pos connected]
        rfl
      · rename_i impossible
        cases impossible
      · rfl
  | select =>
      rw [Endpoint.perform, Endpoint.select,
        if_pos ⟨connected, resting.writing⟩, resting.queues]
      rfl
  | write count => rw [Endpoint.perform, Endpoint.write, resting.writing]
  | finish =>
      rw [Endpoint.perform, Endpoint.finish, resting.writing]
      rfl
  | read count =>
      rw [Endpoint.perform, Endpoint.read, resting.inbound, if_neg]
      · rfl
      · rintro ⟨_, _, positive, _, enough⟩
        exact absurd positive (Nat.not_lt_of_le enough)
  | forward =>
      rw [Endpoint.perform, Endpoint.forward, resting.forwarding]
      rfl

/-- A program that has ended has ended its connection. -/
def Endpoint.Live (endpoint : Endpoint) : Prop :=
  endpoint.transport.connected = true →
    ∀ reason, endpoint.main ≠ .bailed reason

theorem Endpoint.Live.check {msg : IncomingMessage} :
    (endpoint.check msg).Live := by
  rw [Endpoint.check]
  split
  · intro _ reason impossible
    cases impossible
  · intro still
    cases still

theorem Endpoint.Live.perform {data bytes : List UInt8} {step : TaskStep}
    (live : endpoint.Live)
    (performed : endpoint.perform data step = some (after, bytes)) :
    after.Live := by
  by_cases starts : step = .start
  · subst starts
    obtain ⟨next, started, same⟩ := Option.map_eq_some_iff.mp performed
    injection same with same _
    rw [same] at started
    intro _ reason ended
    rw [(main_of_start started).2] at ended
    cases ended
  · by_cases receives : step = .recv
    · subst receives
      obtain ⟨next, received, same⟩ := Option.map_eq_some_iff.mp performed
      injection same with same _
      rw [same] at received
      rcases recv_cases received with ⟨msg, msgs, _, _, afterEq⟩ |
        ⟨_, _, afterEq⟩ | ⟨first, msg, msgs, running, _, afterEq⟩
      · rw [afterEq]
        exact Endpoint.Live.check
      · rw [afterEq]
        intro still
        cases still
      · rw [afterEq]
        intro _ reason ended
        rw [running] at ended
        cases ended
    · intro still reason ended
      rw [main_of_perform performed starts receives] at ended
      exact live (connected_of_perform performed still) reason ended

end Loads

/-! ## Sessions -/

/-- A step of one of the programs. -/
inductive Transfer where
  | client (step : TaskStep)
  | server (step : TaskStep)
  deriving DecidableEq, Repr

def Transfer.action : Transfer → SessionAction
  | .client step => .program (.client step)
  | .server step => .program (.server step)

namespace Session

variable {backend : Type} {deployment : Deployment backend}
variable {captured : Geometry} {before after : Session backend}

/-- What is left to do on both sides. -/
def load (session : Session backend) : Nat :=
  session.startup.client.load + session.startup.server.load

/-- Neither program has ended and left its connection open. -/
structure Live (session : Session backend) : Prop where
  client : session.startup.client.Live
  server : session.startup.server.Live

/-- Handling a message concerns neither the programs nor the rounds. -/
theorem startup_of_handle {startup : Startup} {msg : IncomingMessage}
    (handled : before.handle deployment startup msg = some after) :
    after.startup = startup ∧ after.rounds = before.rounds := by
  rw [handle] at handled
  split at handled
  · cases handled
  · split at handled
    · injection handled with same
      rw [← same]
      exact ⟨rfl, rfl⟩
    · injection handled with same
      rw [← same]
      exact ⟨rfl, rfl⟩

theorem startup_of_advance {startup : Startup} {step : TaskStep}
    (advanced : before.advance deployment startup (.client step) =
      some after) :
    after.startup = startup ∧ after.rounds = before.rounds := by
  cases step with
  | recv =>
      rw [advance] at advanced
      split at advanced
      · exact startup_of_handle advanced
      · injection advanced with same
        rw [← same]
        exact ⟨rfl, rfl⟩
  | start | select | write _ | finish | read _ | forward =>
      injection advanced with same
      rw [← same]
      exact ⟨rfl, rfl⟩

/-- A step of the client, on both sides. -/
theorem client_of_perform {step : TaskStep}
    (performed : before.perform deployment (.program (.client step)) =
      some after) :
    ∃ client bytes,
      before.startup.client.perform buildHandshake step =
          some (client, bytes) ∧
        after.startup = { before.startup with
          client := client
          server := before.startup.server.deliver bytes } ∧
        after.rounds = before.rounds := by
  rw [Session.perform, Startup.perform] at performed
  cases stepped : before.startup.client.perform buildHandshake step with
  | none =>
      rw [stepped] at performed
      cases performed
  | some next =>
      obtain ⟨client, bytes⟩ := next
      rw [stepped] at performed
      obtain ⟨startupEq, roundsEq⟩ := startup_of_advance performed
      exact ⟨client, bytes, rfl, startupEq, roundsEq⟩

/-- A step of the server, on both sides. -/
theorem server_of_perform {step : TaskStep}
    (performed : before.perform deployment (.program (.server step)) =
      some after) :
    ∃ server bytes,
      before.startup.server.perform (Server.buildHandshake
          deployment.captureArg deployment.compressArg) step =
          some (server, bytes) ∧
        after.startup = { before.startup with
          client := before.startup.client.deliver bytes
          server := server } ∧
        after.rounds = before.rounds := by
  rw [Session.perform, Startup.perform] at performed
  cases stepped : before.startup.server.perform (Server.buildHandshake
      deployment.captureArg deployment.compressArg) step with
  | none =>
      rw [stepped] at performed
      cases performed
  | some next =>
      obtain ⟨server, bytes⟩ := next
      rw [stepped] at performed
      injection performed with same
      rw [← same]
      exact ⟨server, bytes, rfl, rfl, rfl⟩

/-- Each transfer makes the load smaller, and completes no round. -/
theorem load_of_transfer {transfer : Transfer}
    (performed : before.perform deployment transfer.action = some after) :
    after.load < before.load ∧ after.rounds = before.rounds := by
  cases transfer with
  | client step =>
      obtain ⟨client, bytes, stepped, startupEq, roundsEq⟩ :=
        client_of_perform performed
      have lighter := load_of_perform rfl stepped
      refine ⟨?_, roundsEq⟩
      rw [load, load, startupEq]
      dsimp only
      rw [load_deliver]
      omega
  | server step =>
      obtain ⟨server, bytes, stepped, startupEq, roundsEq⟩ :=
        server_of_perform performed
      have lighter := load_of_perform rfl stepped
      refine ⟨?_, roundsEq⟩
      rw [load, load, startupEq]
      dsimp only
      rw [load_deliver]
      omega

theorem live_initial : (initial deployment).Live where
  client := fun _ reason ended => by cases ended
  server := fun _ reason ended => by cases ended

/-- A change of the queues does not end a program. -/
theorem live_of_connected {endpoint : Endpoint} (live : endpoint.Live)
    {transport : SshTransport}
    (same : transport.connected = true →
      endpoint.transport.connected = true) :
    ({ endpoint with transport := transport } : Endpoint).Live :=
  fun still => live (same still)

theorem Live.perform {action : SessionAction} (live : before.Live)
    (performed : before.perform deployment action = some after) :
    after.Live := by
  cases action with
  | clientEnds =>
      injection performed with same
      rw [← same]
      refine ⟨live_of_connected live.client ?_, live.server⟩
      intro still
      cases still
  | serverEnds =>
      injection performed with same
      rw [← same]
      refine ⟨live.client, live_of_connected live.server ?_⟩
      intro still
      cases still
  | program action =>
      cases action with
      | client step =>
          obtain ⟨client, bytes, stepped, startupEq, _⟩ :=
            client_of_perform performed
          constructor
          · rw [startupEq]
            exact live.client.perform stepped
          · rw [startupEq]
            exact live.server
      | server step =>
          obtain ⟨server, bytes, stepped, startupEq, _⟩ :=
            server_of_perform performed
          constructor
          · rw [startupEq]
            exact live.client
          · rw [startupEq]
            exact live.server.perform stepped
      | capture input =>
          rw [Session.perform, Startup.perform] at performed
          cases captured : before.startup.capture input with
          | none =>
              rw [captured] at performed
              cases performed
          | some startup =>
              rw [captured] at performed
              injection performed with same
              rw [Startup.capture] at captured
              split at captured
              · injection captured with startupEq
                rw [← same, ← startupEq]
                refine ⟨live_of_connected live.client ?_, live.server⟩
                intro still
                rw [← still]
                exact (enqueues_sendInput _ _).connected.symm
              · cases captured
      | round input =>
          rw [Session.perform, Startup.perform] at performed
          cases rounded : before.startup.round deployment.serverProfile
              deployment.serverConfig input with
          | none =>
              rw [rounded] at performed
              cases performed
          | some startup =>
              rw [rounded] at performed
              obtain ⟨step, transport, _, _, offered, _, same⟩ :=
                round_cases rounded performed
              rw [same]
              refine ⟨live.client, live_of_connected live.server ?_⟩
              intro still
              rw [← still, show transport =
                (offer before.startup.server.transport step.message).2 by
                  rw [offered]]
              exact (Startup.enqueues_offer _ _).1.connected.symm

/-- A session in which no transfer is possible has nothing on the way. -/
theorem Sound.settled_of_stuck (sound : before.Sound deployment captured)
    (live : before.Live)
    (client : before.startup.client.transport.connected = true)
    (server : before.startup.server.transport.connected = true)
    (stuck : ∀ transfer : Transfer,
      before.perform deployment transfer.action = none) :
    Settled before.startup.server before.startup.client := by
  obtain ⟨state, due, level, pursues⟩ := sound.pursues
  have clientStuck : ∀ step,
      before.startup.client.perform buildHandshake step = none := by
    intro step
    cases stepped : before.startup.client.perform buildHandshake step with
    | none => rfl
    | some next =>
        have never := stuck (.client step)
        rw [Transfer.action, Session.perform, Startup.perform, stepped]
          at never
        cases step with
        | recv =>
            dsimp only [Option.map, advance] at never
            split at never
            · rw [Session.handle, pursues.running] at never
              dsimp only at never
              split at never
              · cases never
              · cases never
            · cases never
        | start | select | write _ | finish | read _ | forward =>
            cases never
  have serverStuck : ∀ step,
      before.startup.server.perform (Server.buildHandshake
        deployment.captureArg deployment.compressArg) step = none := by
    intro step
    cases stepped : before.startup.server.perform (Server.buildHandshake
        deployment.captureArg deployment.compressArg) step with
    | none => rfl
    | some next =>
        have never := stuck (.server step)
        rw [Transfer.action, Session.perform, Startup.perform, stepped]
          at never
        cases never
  have receiver := resting_of_stuck client (live.client client) clientStuck
  have sender := resting_of_stuck server (live.server server) serverStuck
  exact ⟨server, sender.outgoing, receiver.inbound, receiver.forwarding,
    receiver.incoming⟩

/-- Two connected sides with nothing left to do are stuck. -/
theorem stuck_of_resting
    (client : before.startup.client.Resting ∧
      before.startup.client.transport.connected = true)
    (server : before.startup.server.Resting ∧
      before.startup.server.transport.connected = true)
    (transfer : Transfer) :
    before.perform deployment transfer.action = none := by
  cases transfer with
  | client step =>
      rw [Transfer.action, Session.perform, Startup.perform,
        client.1.stuck client.2]
      rfl
  | server step =>
      rw [Transfer.action, Session.perform, Startup.perform,
        server.1.stuck server.2]
      rfl

/-- From every state of every session, the programs take at most as many
steps as their load allows before they need another frame or input.  If they
cannot take a step while both connections hold, then the client has shown
every frame that the server's transport has accepted, and both sides have the
same delta base: there is neither a deadlock nor a livelock. -/
theorem transfers_end_in_lockstep
    (sameKind : deployment.clientConfig.compressorKind =
      deployment.serverConfig.compressorKind)
    (lossless : deployment.serverConfig.compressorKind.Lossless)
    {actions : List SessionAction} {transfers : List Transfer}
    {reached last : Session backend}
    (run : Run (fun before action after =>
        before.perform deployment action = some after ∧
          Fair captured before after) (initial deployment) actions reached)
    (more : Run (fun before transfer after =>
        before.perform deployment (Transfer.action transfer) = some after)
          reached transfers last) :
    transfers.length + last.load ≤ reached.load ∧
      (last.startup.client.transport.connected = true →
        last.startup.server.transport.connected = true →
        (∀ transfer : Transfer,
          last.perform deployment transfer.action = none) →
          last.rounds = reached.rounds ∧
            List.Forall₂ InLockstep (acceptedSteps reached.rounds)
              last.shown ∧
            ∃ state, last.client = .ok state ∧
              Synced (deployment.serverConfig.sentGeometry captured)
                last.startup.loop state) := by
  have sound : reached.Sound deployment captured := run.keeps
    (fun _ _ _ stepped kept =>
      Sound.perform sameKind lossless kept stepped.1 stepped.2)
    sound_initial
  have live : reached.Live := run.keeps
    (fun _ _ _ stepped kept => Live.perform kept stepped.1) live_initial
  clear run
  induction more with
  | nil here =>
      refine ⟨by rw [List.length_nil, Nat.zero_add], ?_⟩
      intro client server stuck
      have settled := sound.settled_of_stuck live client server stuck
      obtain ⟨state, due, level, pursues⟩ := sound.pursues
      have none := sound.settled settled pursues
      have delivered := pursues.delivered
      have reached := pursues.catchesUp
      rw [none, List.append_nil] at delivered
      rw [none] at reached
      cases reached
      have lockstep := delivered.imp fun _ _ locked => locked.toInLockstep
      exact ⟨rfl, lockstep, state, pursues.running, pursues.synced⟩
  | @cons before after last transfer transfers stepped rest
      inductionHypothesis =>
      obtain ⟨lighter, sameRounds⟩ := load_of_transfer stepped
      have fair : Fair captured before after := by
        intro step member
        rw [sameRounds, List.drop_length] at member
        cases member
      obtain ⟨bounded, ends⟩ := inductionHypothesis
        (Sound.perform sameKind lossless sound stepped fair)
        (live.perform stepped)
      rw [sameRounds] at ends
      refine ⟨?_, ends⟩
      rw [List.length_cons]
      omega

/-- The frame is written and shown. -/
def frameTransfers : List Transfer :=
  [.server .select, .server (.write 20), .client (.read 18),
    .server (.write 36), .server .finish, .client (.read 38),
    .client .forward, .client .recv]

theorem transfers_end_in_lockstep_exchange :
    ∃ reached last : Session Unit,
      frameTransfers.length + last.load ≤ reached.load ∧
      List.Forall₂ InLockstep (acceptedSteps reached.rounds) last.shown ∧
      reached.rounds.length = 1 := by
  have evaluated :
      ((queuedExchange.map SessionAction.program).foldlM
          (fun (before : Session Unit) action =>
            (before.perform plainDeployment action).filter
              (Fair ⟨1, 1, 4⟩ before ·)) (initial plainDeployment)).bind
        (fun reached =>
          (frameTransfers.foldlM (fun (before : Session Unit) transfer =>
            before.perform plainDeployment transfer.action) reached).map
              fun last => (reached.rounds.length,
                decide (last.startup.client.Resting ∧
                  last.startup.client.transport.connected = true),
                decide (last.startup.server.Resting ∧
                  last.startup.server.transport.connected = true))) =
      some (1, true, true) := by
    decide +kernel
  obtain ⟨reached, iterated, rest⟩ := Option.bind_eq_some_iff.mp evaluated
  obtain ⟨last, transferred, result⟩ := Option.map_eq_some_iff.mp rest
  injection result with one both
  injection both with client server
  have clientRests := of_decide_eq_true client
  have serverRests := of_decide_eq_true server
  obtain ⟨bounded, ends⟩ :=
    transfers_end_in_lockstep rfl Codec.plain_lossless
      (run_iff_foldlM_filtered.mpr iterated)
      (run_iff_foldlM.mpr transferred)
  obtain ⟨_, lockstep, _⟩ := ends clientRests.2 serverRests.2
    (stuck_of_resting clientRests serverRests)
  exact ⟨reached, last, bounded, lockstep, one⟩

end Session

end RemoteWay.System
