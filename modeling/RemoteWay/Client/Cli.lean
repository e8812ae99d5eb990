import RemoteWay.Base.NumberText
import RemoteWay.System.Startup

/-!
# Options of the client

The client starts the server through `ssh`: the options of `ssh`, the host,
and then the command line for the remote side, one argument a word.
-/

namespace RemoteWay.Client

open RemoteWay.Base
open RemoteWay.Server (CaptureBackendArg CompressArg)

/-- String value as the server's parser expects it. -/
def captureAsServerArg : CaptureBackendArg → String
  | .auto => "auto"
  | .wlrScreencopy => "wlr-screencopy"
  | .extImageCapture => "ext-image-capture"
  | .portal => "portal"

/-- String value as the server's parser expects it. -/
def compressAsServerArg : CompressArg → String
  | .none => "none"
  | .lz4 => "lz4"
  | .zstd => "zstd"

structure Cli (F : F64) where
  host : List Char
  capture : CaptureBackendArg
  compress : CompressArg
  serverScale : F.Value
  appId : Option (List Char)
  captureFps : UInt32
  serverBin : List Char
  sshOpt : List (List Char)
  command : List (List Char)

namespace Cli

variable {F : F64}

/-- `(server_scale - 1.0).abs() > f64::EPSILON`. -/
def forwardsScale (cli : Cli F) : Bool :=
  F.gt (F.abs (F.sub cli.serverScale F.one)) F.epsilon

/-- Build the full SSH command line. -/
def sshCommand (cli : Cli F) : List (List Char) :=
  ["ssh".toList] ++ cli.sshOpt ++ [cli.host] ++ [cli.serverBin] ++
    (if cli.capture ≠ .auto then
      ["--capture".toList, (captureAsServerArg cli.capture).toList]
    else []) ++
    (match cli.appId with
    | some appId => ["--app-id".toList, appId]
    | none => []) ++
    ["--capture-fps".toList, u32ToString cli.captureFps] ++
    -- lz4 is implicit on both sides
    (if cli.compress ≠ .lz4 then
      ["--compress".toList, (compressAsServerArg cli.compress).toList]
    else []) ++
    (if cli.forwardsScale then
      ["--scale".toList, F.toString cli.serverScale]
    else []) ++
    (if cli.command ≠ [] then "--".toList :: cli.command else [])

/-- The arguments after the host. -/
def remoteWords (cli : Cli F) : List (List Char) :=
  cli.sshCommand.drop (cli.sshOpt.length + 2)

end Cli

end RemoteWay.Client
