import RemoteWay.Proto.Header
import RemoteWay.Proto.Input

/-!
# Handshake

The fixed-size payload that client and server exchange at the start of the
connection.
-/

namespace RemoteWay.Proto

open RemoteWay.Base

namespace CaptureFlags

def wlrScreencopy : UInt8 := (1 : UInt8) <<< 0
def extImageCapture : UInt8 := (1 : UInt8) <<< 1
def portal : UInt8 := (1 : UInt8) <<< 2

end CaptureFlags

namespace CompressFlags

def lz4 : UInt8 := (1 : UInt8) <<< 0
def zstd : UInt8 := (1 : UInt8) <<< 1
def none : UInt8 := (1 : UInt8) <<< 2

end CompressFlags

structure HandshakePayload where
  version : UInt16
  captureFlags : UInt8
  compressFlags : UInt8
  reserved : Bytes 4
  deriving DecidableEq, Repr

namespace HandshakePayload

def protocolVersion : UInt16 := 1

def new (captureFlags compressFlags : UInt8) : HandshakePayload where
  version := protocolVersion
  captureFlags := captureFlags
  compressFlags := compressFlags
  reserved := ⟨[0, 0, 0, 0], rfl⟩

def asBytes (payload : HandshakePayload) : List UInt8 :=
  u16Bytes payload.version ++
    (payload.captureFlags :: payload.compressFlags :: payload.reserved.val)

end HandshakePayload

end RemoteWay.Proto
