import Mathlib.Data.List.Basic

/-!
# Compression backends

`CompressorKind` dispatches to the LZ4 and zstd libraries, which are
parameters here.  The pipeline only needs the resulting pair of functions, a
`Codec`.
-/

namespace RemoteWay.Compress

/-- Why a blob is rejected, with the text of the library. -/
inductive CompressorError where
  | lz4 (reason : String)
  | zstd (reason : String)
  deriving DecidableEq, Repr

/-- The entry points of the compression libraries. -/
structure CompressionLibraries where
  compressPrependSize : List UInt8 → List UInt8
  decompressSizePrepended : List UInt8 → Except String (List UInt8)
  encodeAll : List UInt8 → Except String (List UInt8)
  decodeAll : List UInt8 → Except String (List UInt8)

/-- Selects the active compression algorithm. -/
inductive CompressorKind where
  | none
  | lz4
  | zstd
  deriving DecidableEq, Repr

structure Codec where
  compress : List UInt8 → Except CompressorError (List UInt8)
  decompress : List UInt8 → Except CompressorError (List UInt8)

namespace CompressorKind

variable (libraries : CompressionLibraries)

def compress : CompressorKind → List UInt8 →
    Except CompressorError (List UInt8)
  | .none, data => .ok data
  | .lz4, data => .ok (libraries.compressPrependSize data)
  | .zstd, data => (libraries.encodeAll data).mapError .zstd

def decompress : CompressorKind → List UInt8 →
    Except CompressorError (List UInt8)
  | .none, data => .ok data
  | .lz4, data => (libraries.decompressSizePrepended data).mapError .lz4
  | .zstd, data => (libraries.decodeAll data).mapError .zstd

def codec (kind : CompressorKind) : Codec where
  compress := kind.compress libraries
  decompress := kind.decompress libraries

end CompressorKind

namespace Codec

/-- Compressed data decompresses to itself. -/
def Lossless (codec : Codec) : Prop :=
  ∀ data, ∃ blob, codec.compress data = .ok blob ∧
    codec.decompress blob = .ok data

/-- The codec of `CompressorKind::None`. -/
def plain : Codec where
  compress := .ok
  decompress := .ok

theorem codec_none (libraries : CompressionLibraries) :
    CompressorKind.none.codec libraries = plain := rfl

theorem plain_lossless : plain.Lossless :=
  fun data => ⟨data, rfl, rfl⟩

end Codec

end RemoteWay.Compress
