import Mathlib.Data.List.GetD
import RemoteWay.Base.LittleEndian

/-!
# Frame header

The 16-byte header before every payload, its message-type discriminant and
its flags.  Fields are little-endian and packed, so the header is the
concatenation of its fields' bytes.
-/

namespace RemoteWay.Proto

open RemoteWay.Base

/-- Message type discriminant. -/
inductive MsgType where
  | frameUpdate
  | anchorFrame
  | inputEvent
  | cursorMove
  | handshake
  | ack
  | resize
  | clipboard
  | targetResolution
  deriving DecidableEq, Repr

inductive ProtoError where
  | unknownMsgType (byte : UInt8)
  deriving DecidableEq, Repr

namespace MsgType

/-- `msg_type as u8`. -/
def toByte : MsgType → UInt8
  | .frameUpdate => 0
  | .anchorFrame => 1
  | .inputEvent => 2
  | .cursorMove => 3
  | .handshake => 4
  | .ack => 5
  | .resize => 6
  | .clipboard => 7
  | .targetResolution => 8

def tryFrom (byte : UInt8) : Except ProtoError MsgType :=
  match byte.toNat with
  | 0 => .ok .frameUpdate
  | 1 => .ok .anchorFrame
  | 2 => .ok .inputEvent
  | 3 => .ok .cursorMove
  | 4 => .ok .handshake
  | 5 => .ok .ack
  | 6 => .ok .resize
  | 7 => .ok .clipboard
  | 8 => .ok .targetResolution
  | _ => .error (.unknownMsgType byte)

@[simp]
theorem tryFrom_toByte (msgType : MsgType) :
    tryFrom msgType.toByte = .ok msgType := by
  cases msgType <;> rfl

end MsgType

namespace Flags

def compressed : UInt8 := (1 : UInt8) <<< 0
def lastChunk : UInt8 := (1 : UInt8) <<< 1
def keyFrame : UInt8 := (1 : UInt8) <<< 2

end Flags

/-- Fixed-size header transmitted before every message payload. -/
structure FrameHeader where
  streamId : UInt16
  msgTypeByte : UInt8
  flags : UInt8
  payloadLen : UInt32
  timestampNs : UInt64
  deriving DecidableEq, Repr

namespace FrameHeader

def size : Nat := 16

def new (streamId : UInt16) (msgType : MsgType) (flags : UInt8)
    (payloadLen : UInt32) (timestampNs : UInt64) : FrameHeader where
  streamId := streamId
  msgTypeByte := msgType.toByte
  flags := flags
  payloadLen := payloadLen
  timestampNs := timestampNs

def msgType (header : FrameHeader) : Except ProtoError MsgType :=
  MsgType.tryFrom header.msgTypeByte

/-- Is this the final chunk of its message? -/
def isLast (header : FrameHeader) : Bool :=
  header.flags &&& Flags.lastChunk != 0

def asBytes (header : FrameHeader) : List UInt8 :=
  u16Bytes header.streamId ++
    (header.msgTypeByte :: header.flags ::
      (u32Bytes header.payloadLen ++ u64Bytes header.timestampNs))

/-- The fields of a header read off the front of `bytes`. -/
def ofFront (bytes : List UInt8) : FrameHeader where
  streamId := u16OfBytes (bytes.take 2)
  msgTypeByte := bytes.getD 2 0
  flags := bytes.getD 3 0
  payloadLen := u32OfBytes ((bytes.drop 4).take 4)
  timestampNs := u64OfBytes ((bytes.drop 8).take 8)

/-- `FrameHeader::ref_from_bytes`, which only takes 16 bytes. -/
def refFromBytes (bytes : List UInt8) : Option FrameHeader :=
  if bytes.length = size then some (ofFront bytes) else none

@[simp]
theorem length_asBytes (header : FrameHeader) :
    header.asBytes.length = size := by
  simp [asBytes, size]

@[simp]
theorem msgType_new (streamId : UInt16) (msgType : MsgType) (flags : UInt8)
    (payloadLen : UInt32) (timestampNs : UInt64) :
    (new streamId msgType flags payloadLen timestampNs).msgType =
      .ok msgType :=
  MsgType.tryFrom_toByte msgType

/-- A field's bytes taken out of the middle of a packed record. -/
private theorem take_drop_middle (before field after : List UInt8)
    {start width : Nat} (starts : before.length = start)
    (fieldWidth : field.length = width) :
    ((before ++ (field ++ after)).drop start).take width = field := by
  subst starts
  subst fieldWidth
  simp

theorem ofFront_asBytes (header : FrameHeader) (more : List UInt8) :
    ofFront (header.asBytes ++ more) = header := by
  cases header with
  | mk streamId msgTypeByte flagByte payloadLen timestampNs =>
      have streamEq :
          ((u16Bytes streamId ++ (msgTypeByte :: flagByte ::
            (u32Bytes payloadLen ++ u64Bytes timestampNs))) ++ more).take
              2 = u16Bytes streamId := by
        rw [List.append_assoc, List.take_append_of_le_length (by simp),
          List.take_of_length_le (by simp)]
      have lengthEq :=
        take_drop_middle
          (u16Bytes streamId ++ [msgTypeByte, flagByte])
          (u32Bytes payloadLen) (u64Bytes timestampNs ++ more)
          (rfl : _ = 4) (length_u32Bytes payloadLen)
      have timestampEq :=
        take_drop_middle
          (u16Bytes streamId ++ (msgTypeByte :: flagByte ::
            u32Bytes payloadLen))
          (u64Bytes timestampNs) more
          (rfl : _ = 8) (length_u64Bytes timestampNs)
      simp only [List.append_assoc, List.cons_append, List.nil_append]
        at lengthEq timestampEq streamEq
      simp only [ofFront, asBytes, List.append_assoc, List.cons_append,
        streamEq, lengthEq, timestampEq, u16OfBytes_u16Bytes,
        u32OfBytes_u32Bytes, u64OfBytes_u64Bytes, FrameHeader.mk.injEq,
        true_and, and_true]
      simp [List.getD_eq_getElem?_getD, List.getElem?_append_right]

theorem refFromBytes_asBytes (header : FrameHeader) :
    refFromBytes header.asBytes = some header := by
  have whole := ofFront_asBytes header []
  rw [List.append_nil] at whole
  rw [refFromBytes, if_pos header.length_asBytes, whole]

theorem asBytes_ofFront {bytes : List UInt8}
    (enough : size ≤ bytes.length) :
    (ofFront bytes).asBytes = bytes.take size := by
  have long : 16 ≤ bytes.length := enough
  have streamEq : u16Bytes (u16OfBytes (bytes.take 2)) = bytes.take 2 :=
    u16Bytes_u16OfBytes (by rw [List.length_take]; omega)
  have lengthEq :
      u32Bytes (u32OfBytes ((bytes.drop 4).take 4)) =
        (bytes.drop 4).take 4 :=
    u32Bytes_u32OfBytes (by rw [List.length_take, List.length_drop]; omega)
  have timestampEq :
      u64Bytes (u64OfBytes ((bytes.drop 8).take 8)) =
        (bytes.drop 8).take 8 :=
    u64Bytes_u64OfBytes (by rw [List.length_take, List.length_drop]; omega)
  have flagBytes :
      (bytes.drop 2).take 2 = [bytes.getD 2 0, bytes.getD 3 0] := by
    rw [List.drop_eq_getElem_cons (by omega : 2 < bytes.length),
      List.drop_eq_getElem_cons (by omega : 3 < bytes.length)]
    have thirdEq : bytes.getD 2 0 = bytes[2] :=
      
      List.getD_eq_getElem bytes 0 (by omega)
    have fourthEq : bytes.getD 3 0 = bytes[3] :=
      
      List.getD_eq_getElem bytes 0 (by omega)
    rw [thirdEq, fourthEq]
    rfl
  calc (ofFront bytes).asBytes
      = bytes.take 2 ++ ((bytes.drop 2).take 2 ++
          ((bytes.drop 4).take 4 ++ (bytes.drop 8).take 8)) := by
        rw [flagBytes]
        simp only [ofFront, asBytes, streamEq, lengthEq, timestampEq,
          List.cons_append, List.nil_append]
    _ = bytes.take (2 + (2 + (4 + 8))) := by
        simp only [List.take_add, List.drop_drop]
    _ = bytes.take size := rfl

theorem asBytes_of_refFromBytes {bytes : List UInt8} {header : FrameHeader}
    (parsed : refFromBytes bytes = some header) :
    header.asBytes = bytes := by
  rw [refFromBytes] at parsed
  split at parsed
  · rename_i width
    injection parsed with same
    rw [← same, asBytes_ofFront (Nat.le_of_eq width.symm), ← width,
      List.take_length]
  · cases parsed

end FrameHeader

end RemoteWay.Proto
