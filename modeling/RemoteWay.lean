import RemoteWay.Base.SparseDelta
import RemoteWay.Base.Exec
import RemoteWay.Base.Scanner
import RemoteWay.Compress.Delta
import RemoteWay.Proto.Header
import RemoteWay.Proto.Frame
import RemoteWay.Transport.Multiplexer
import RemoteWay.Transport.ChunkSender
import RemoteWay.Base.Reassembly
import RemoteWay.Transport.Reassembly
import RemoteWay.Transport.SplitIndependence
import RemoteWay.Base.Blobs
import RemoteWay.Compress.Compressor
import RemoteWay.Compress.Pipeline
import RemoteWay.Client.FramePayload
import RemoteWay.Interpolate.Manager
import RemoteWay.Client.Pipeline
import RemoteWay.Client.FrameErrors
import RemoteWay.Capture.Backend
import RemoteWay.Server.Downscale
import RemoteWay.Server.Pipeline
import RemoteWay.Compress.Coverage
import RemoteWay.Server.Regions
import RemoteWay.System.Payload
import RemoteWay.Base.Runs
import RemoteWay.Server.Round
import RemoteWay.System.Message
import RemoteWay.System.Lockstep
import RemoteWay.System.AnchorResync
import RemoteWay.System.ResolutionChange
import RemoteWay.Base.Overtaking
import RemoteWay.System.WireOrder
import RemoteWay.Capture.Thread
import RemoteWay.System.DamageCoverage
import RemoteWay.Transport.ExactlyOnce
import RemoteWay.Transport.WaitingTime
import RemoteWay.System.PayloadRoundTrip
import RemoteWay.Compress.RoundTrip
import RemoteWay.Display.Shm
import RemoteWay.Display.Surface
import RemoteWay.Display.Thread
import RemoteWay.Display.PixelFidelity
import RemoteWay.Display.BufferOwnership
import RemoteWay.Display.DamageCoverage
import RemoteWay.Display.LatestFrame
import RemoteWay.Client.DisplayOutput
import RemoteWay.Client.NewestFrame
import RemoteWay.Proto.Input
import RemoteWay.Input.Inject
import RemoteWay.Input.InjectThread
import RemoteWay.System.InputMessage
import RemoteWay.Proto.Handshake
import RemoteWay.System.InputPath
import RemoteWay.Base.Assignments
import RemoteWay.System.HeldKeys
import RemoteWay.Base.ResidueExpansion
import RemoteWay.Encode.Encoder
import RemoteWay.Encode.H264
import RemoteWay.Encode.H265
import RemoteWay.Encode.Av1
import RemoteWay.Compress.OwnBlobs
import RemoteWay.Compress.Lz4
import RemoteWay.Base.ScaledIntervals
import RemoteWay.Server.BoxFilter
import RemoteWay.Capture.Shm
import RemoteWay.Capture.WaylandIo
import RemoteWay.Capture.ExtCapture
import RemoteWay.Capture.ExtSession
import RemoteWay.Capture.Screencopy
import RemoteWay.Capture.ScreencopySession
import RemoteWay.System.Startup
import RemoteWay.System.HandshakeFirst
import RemoteWay.System.Colours
import RemoteWay.Server.StripePartition
import RemoteWay.Base.Filling
import RemoteWay.Base.Resample
import RemoteWay.Interpolate.Bicubic
import RemoteWay.Client.Upscale
import RemoteWay.Interpolate.CpuUpscale
import RemoteWay.Client.UpscalerAgreement
import RemoteWay.Client.UpscaledDamage
import RemoteWay.Base.Retry
import RemoteWay.Capture.Error
import RemoteWay.Server.CaptureRetry
import RemoteWay.Base.FirstEntry
import RemoteWay.Capture.Toplevels
import RemoteWay.Server.ChildWindow
import RemoteWay.Display.ResizeGeometry
import RemoteWay.Display.Viewport
import RemoteWay.Base.Shell
import RemoteWay.Base.ShellQuotes
import RemoteWay.Base.Arguments
import RemoteWay.Base.NumberText
import RemoteWay.Client.Cli
import RemoteWay.Server.Cli
import RemoteWay.System.RemoteCommand
import RemoteWay.Encode.Keyframes
import RemoteWay.Encode.SequenceHeaders
import RemoteWay.Base.Pieces
import RemoteWay.Capture.Transforms
import RemoteWay.Base.AspectFit
import RemoteWay.Display.AspectFit
import RemoteWay.Client.Continuity
import RemoteWay.Base.BitMask
import RemoteWay.Core.BufferPool
import RemoteWay.Base.Histories
import RemoteWay.Base.OneEach
import RemoteWay.Capture.ToplevelTracker
import RemoteWay.Capture.Outputs
import RemoteWay.Input.Capture
import RemoteWay.System.FocusLoss
import RemoteWay.Input.Libei
import RemoteWay.Base.Duration
import RemoteWay.Base.RingWindow
import RemoteWay.Core.Latency
import RemoteWay.Base.Raster
import RemoteWay.Base.SinglePrecision
import RemoteWay.Client.FpsOverlay
import RemoteWay.Client.OverlayDamage
import RemoteWay.System.Relay
import RemoteWay.System.Session
import RemoteWay.System.Draining
import RemoteWay.System.Streaming
import RemoteWay.Display.FrameOrder
import RemoteWay.System.Viewing
import RemoteWay.Base.Resources
import RemoteWay.Vulkan.Device
import RemoteWay.Vulkan.Context
import RemoteWay.Encode.Objects
import RemoteWay.Interpolate.Fsr2Native
import RemoteWay.Display.PresentationSync
import RemoteWay.Capture.WaylandEnv
