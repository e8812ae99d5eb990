import RemoteWay.System.InputPath
import RemoteWay.System.WireOrder

/-!
# Start-up

Each program queues its handshake and waits for the first message of the
other.  Only after that does the client capture inputs and the server send
frames.  The main tasks, the I/O loops of both sides and the senders are
interleaved in any order; bytes between the two sides are neither lost nor
reordered.
-/

namespace RemoteWay.Server

open RemoteWay.Proto

/-- `--capture`; the portal needs a build with its feature. -/
inductive CaptureBackendArg where
  | auto
  | wlrScreencopy
  | extImageCapture
  | portal
  deriving DecidableEq, Repr

/-- `--compress`. -/
inductive CompressArg where
  | none
  | lz4
  | zstd
  deriving DecidableEq, Repr

def captureFlagsOf : CaptureBackendArg → UInt8
  | .auto =>
      CaptureFlags.wlrScreencopy ||| CaptureFlags.extImageCapture |||
        CaptureFlags.portal
  | .wlrScreencopy => CaptureFlags.wlrScreencopy
  | .extImageCapture => CaptureFlags.extImageCapture
  | .portal => CaptureFlags.portal

def compressFlagsOf : CompressArg → UInt8
  | .none => CompressFlags.none
  | .lz4 => CompressFlags.lz4
  | .zstd => CompressFlags.lz4 ||| CompressFlags.zstd

/-- `build_handshake` of the server. -/
def buildHandshake (captureArg : CaptureBackendArg)
    (compressArg : CompressArg) : List UInt8 :=
  (FrameHeader.new 0 .handshake Flags.lastChunk 8 0).asBytes ++
    (HandshakePayload.new (captureFlagsOf captureArg)
      (compressFlagsOf compressArg)).asBytes

end RemoteWay.Server

namespace RemoteWay.System

open RemoteWay.Base RemoteWay.Proto RemoteWay.Transport
open RemoteWay.Input RemoteWay.Server

/-! ## One program -/

/-- How far `run` has come. -/
inductive MainTask where
  | starting
  | waiting
  | running (first : IncomingMessage)
  | bailed (reason : String)
  deriving DecidableEq, Repr

/-- A program with its transport: what `write_loop` is writing, the bytes
that the other side has written and `read_loop` not yet read, the messages of
the last push, and the channel of incoming messages.  The loops end together
with the connection of the transport. -/
structure Endpoint where
  main : MainTask
  transport : SshTransport
  writing : Option (Packet × List UInt8)
  inbound : List UInt8
  parser : StreamParser
  forwarding : List IncomingMessage
  incoming : List IncomingMessage

inductive TaskStep where
  | start
  | recv
  | select
  | write (count : Nat)
  | finish
  | read (count : Nat)
  | forward
  deriving DecidableEq, Repr

namespace Endpoint

/-- Before anything has been sent. -/
def initial : Endpoint where
  main := .starting
  transport := .new
  writing := none
  inbound := []
  parser := .new
  forwarding := []
  incoming := []

/-- Queue the handshake and wait for that of the other side. -/
def start (handshake : List UInt8) (endpoint : Endpoint) :
    Option Endpoint :=
  match endpoint.main with
  | .starting =>
      some { endpoint with
        main := .waiting
        transport := (endpoint.transport.sendAnchor handshake).2 }
  | _ => none

/-- End the program. -/
def bail (endpoint : Endpoint) (reason : String) : Endpoint :=
  { endpoint with
    main := .bailed reason
    transport := endpoint.transport.disconnect }

/-- Check that the first message is a handshake. -/
def check (endpoint : Endpoint) (msg : IncomingMessage) : Endpoint :=
  match msg.header.msgType with
  | .ok .handshake => { endpoint with main := .running msg }
  | _ =>
      endpoint.bail
        s!"expected handshake, got msg_type={msg.header.msgTypeByte}"

theorem check_of_handshake (endpoint : Endpoint) {msg : IncomingMessage}
    (typed : msg.header.msgType = .ok .handshake) :
    endpoint.check msg = { endpoint with main := .running msg } := by
  rw [check, typed]

/-- Take a message out of the channel.  Those after the first are for other
loops. -/
def recv (endpoint : Endpoint) : Option Endpoint :=
  match endpoint.main, endpoint.incoming with
  | .waiting, msg :: msgs =>
      some ({ endpoint with incoming := msgs }.check msg)
  | .waiting, [] =>
      if endpoint.transport.connected then none
      else some (endpoint.bail "transport closed before handshake")
  | .running _, _ :: msgs => some { endpoint with incoming := msgs }
  | _, _ => none

/-- The `biased` select of `write_loop`. -/
def select (endpoint : Endpoint) : Option Endpoint :=
  if endpoint.transport.connected ∧ endpoint.writing = none then
    endpoint.transport.nextPacket.map fun (packet, transport) =>
      { endpoint with
        transport := transport
        writing := some (packet, packet.data) }
  else
    none

/-- Write some bytes, which are returned as well. -/
def write (count : Nat) (endpoint : Endpoint) :
    Option (Endpoint × List UInt8) :=
  match endpoint.writing with
  | some (packet, rest) =>
      if endpoint.transport.connected ∧ 0 < count ∧
          count ≤ rest.length then
        some ({ endpoint with writing := some (packet, rest.drop count) },
          rest.take count)
      else
        none
  | none => none

def finish (endpoint : Endpoint) : Option Endpoint :=
  match endpoint.writing with
  | some (packet, []) =>
      if endpoint.transport.connected then
        some { endpoint with
          transport :=
            { endpoint.transport with
              written := endpoint.transport.written ++ [packet] }
          writing := none }
      else
        none
  | _ => none

/-- A round of `read_loop`.  A parse error ends the loops. -/
def read (count : Nat) (endpoint : Endpoint) : Option Endpoint :=
  if endpoint.transport.connected ∧ endpoint.forwarding = [] ∧ 0 < count ∧
      count ≤ readBufSize ∧ count ≤ endpoint.inbound.length then
    match endpoint.parser.push (endpoint.inbound.take count) with
    | (parser, .ok msgs) =>
        some { endpoint with
          inbound := endpoint.inbound.drop count
          parser := parser
          forwarding := msgs }
    | (parser, .error _) =>
        some { endpoint with
          inbound := endpoint.inbound.drop count
          parser := parser
          transport := endpoint.transport.disconnect }
  else
    none

/-- Put a message into the channel. -/
def forward (endpoint : Endpoint) : Option Endpoint :=
  match endpoint.forwarding with
  | msg :: msgs =>
      if endpoint.transport.connected ∧
          endpoint.incoming.length < incomingQueueDepth then
        some { endpoint with
          forwarding := msgs
          incoming := endpoint.incoming ++ [msg] }
      else
        none
  | [] => none

/-- A step of the main task or of one of the loops, with the bytes that it
writes. -/
def perform (handshake : List UInt8) (endpoint : Endpoint) :
    TaskStep → Option (Endpoint × List UInt8)
  | .start => (endpoint.start handshake).map (·, [])
  | .recv => endpoint.recv.map (·, [])
  | .select => endpoint.select.map (·, [])
  | .write count => endpoint.write count
  | .finish => endpoint.finish.map (·, [])
  | .read count => (endpoint.read count).map (·, [])
  | .forward => endpoint.forward.map (·, [])

/-- Bytes of the other side arrive. -/
def deliver (endpoint : Endpoint) (bytes : List UInt8) : Endpoint :=
  { endpoint with inbound := endpoint.inbound ++ bytes }

end Endpoint

/-! ## The two programs -/

/-- Client and server, and the state of the server's `compress_send_loop`. -/
structure Startup where
  client : Endpoint
  server : Endpoint
  loop : LoopState

/-- A step of either program, an input that the client captures, or a round
of the server's loop with the transport's answer. -/
inductive StartupAction where
  | client (step : TaskStep)
  | server (step : TaskStep)
  | capture (input : Input)
  | round (input : RoundInput)
  deriving DecidableEq, Repr

namespace Startup

def initial : Startup where
  client := .initial
  server := .initial
  loop := .initial

/-- An input is sent once the input capture thread has been started. -/
def capture (startup : Startup) (input : Input) : Option Startup :=
  match startup.client.main with
  | .running _ =>
      some { startup with
        client :=
          { startup.client with
            transport := (startup.client.transport.sendInput
              (inputWire input.event)).2 } }
  | _ => none

/-- A frame is sent once the `compress_send_loop` thread has been started.
No allocation exceeds `isize::MAX` bytes. -/
def round (profile : Profile) (config : ServerConfig) (startup : Startup)
    (input : RoundInput) : Option Startup :=
  match startup.server.main with
  | .running _ =>
      match Server.round profile config startup.loop input with
      | .ok step =>
          let (sent, transport) :=
            offer startup.server.transport step.message
          if step.message.payload.length < 2 ^ 63 ∧ sent = input.sent then
            some
              { client := startup.client
                server := { startup.server with transport := transport }
                loop := step.after }
          else
            none
      | .error _ => none
  | _ => none

def perform (profile : Profile) (config : ServerConfig)
    (captureArg : CaptureBackendArg) (compressArg : CompressArg)
    (startup : Startup) : StartupAction → Option Startup
  | .client step =>
      (startup.client.perform buildHandshake step).map fun (client, bytes) =>
        { startup with
          client := client
          server := startup.server.deliver bytes }
  | .server step =>
      (startup.server.perform
        (Server.buildHandshake captureArg compressArg) step).map
          fun (server, bytes) =>
            { startup with
              client := startup.client.deliver bytes
              server := server }
  | .capture input => startup.capture input
  | .round input => startup.round profile config input

end Startup

end RemoteWay.System
