import RemoteWay.Base.Arguments
import RemoteWay.Base.NumberText
import RemoteWay.System.Startup

/-!
# Options of the server

The declared options with their names, defaults and value parsers.
-/

namespace RemoteWay.Server

open RemoteWay.Base

/-- The options that take a value. -/
inductive CliOption where
  | capture
  | compress
  | output
  | appId
  | captureFps
  | scale
  | downscaleFilter
  deriving DecidableEq, Repr

namespace CliOption

def long : CliOption → String
  | .capture => "--capture"
  | .compress => "--compress"
  | .output => "--output"
  | .appId => "--app-id"
  | .captureFps => "--capture-fps"
  | .scale => "--scale"
  | .downscaleFilter => "--downscale-filter"

def name (option : CliOption) : List Char := option.long.toList

def all : List CliOption :=
  [.capture, .compress, .output, .appId, .captureFps, .scale,
    .downscaleFilter]

def ofName (text : List Char) : Option CliOption :=
  all.find? fun option => option.name = text

theorem names : Arguments.Names name ofName where
  named := by
    intro option
    cases option <;> decide
  sound := by
    intro text option found
    simpa using List.find?_some found
  proper := by
    intro option
    cases option <;> decide

end CliOption

inductive DownscaleFilterArg where
  | box
  | nearest
  deriving DecidableEq, Repr

/-- The portal is a value only with its feature. -/
def captureFromStr (portal : Bool) (text : List Char) :
    Option CaptureBackendArg :=
  if text = "auto".toList then some .auto
  else if text = "wlr-screencopy".toList then some .wlrScreencopy
  else if text = "ext-image-capture".toList then some .extImageCapture
  else if portal && text = "portal".toList then some .portal
  else none

def compressFromStr (text : List Char) : Option CompressArg :=
  if text = "none".toList then some .none
  else if text = "lz4".toList then some .lz4
  else if text = "zstd".toList then some .zstd
  else none

def downscaleFilterFromStr (text : List Char) : Option DownscaleFilterArg :=
  if text = "box".toList then some .box
  else if text = "nearest".toList then some .nearest
  else none

structure Cli (F : F64) where
  capture : CaptureBackendArg
  compress : CompressArg
  output : Option (List Char)
  appId : Option (List Char)
  command : List (List Char)
  captureFps : UInt32
  scale : F.Value
  downscaleFilter : DownscaleFilterArg

namespace Cli

/-- The value of an option, or its default. -/
def value (result : Matches CliOption) (option : CliOption)
    (default : String) : List Char :=
  (result.given.lookup option).getD default.toList

/-- The declaration of the options.  A window and an output are mutually
exclusive. -/
def fromMatches (F : F64) (portal : Bool) (result : Matches CliOption) :
    Option (Cli F) := do
  let output := result.given.lookup .output
  let appId := result.given.lookup .appId
  if appId.isSome && output.isSome then none
  let capture ← captureFromStr portal (value result .capture "auto")
  let compress ← compressFromStr (value result .compress "lz4")
  let captureFps ← u32FromStr (value result .captureFps "100")
  let scale ← F.fromStr (value result .scale "1.0")
  let downscaleFilter ←
    downscaleFilterFromStr (value result .downscaleFilter "box")
  some
    { capture := capture
      compress := compress
      output := output
      appId := appId
      command := result.command
      captureFps := captureFps
      scale := scale
      downscaleFilter := downscaleFilter }

/-- Parse the arguments after the name of the program. -/
def parse (F : F64) (portal : Bool)
    (read : List (List Char) → Option (Matches CliOption))
    (arguments : List (List Char)) : Option (Cli F) :=
  (read arguments).bind (fromMatches F portal)

end Cli

end RemoteWay.Server
