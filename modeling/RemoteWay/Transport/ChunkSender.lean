import RemoteWay.Base.Exec
import RemoteWay.Transport.Multiplexer

/-!
# Splitting payloads into chunks

`split_into_chunks` writes one header and one slice of the payload for each
chunk and marks the final one.  Its output is the encoding of the frames
`chunkFrames`.
-/

namespace RemoteWay.Transport

open RemoteWay.Base RemoteWay.Proto

/-! ## The loop -/

/-- One round of the loop starts at `offset`.  A chunk size of zero never
leaves the loop. -/
def splitLoop (profile : Profile) (streamId : UInt16) (msgType : MsgType)
    (extraFlags : UInt8) (payload : List UInt8) (timestampNs : UInt64)
    (chunkSize : Nat) : Nat → Nat → List UInt8 → Exec (List UInt8)
  | 0, _, _ => .error .endless
  | rounds + 1, offset, dst =>
      if offset < payload.length then do
        let stop := min (← usizeAdd profile offset chunkSize) payload.length
        let chunk ← slice payload offset stop
        let isLast := stop == payload.length
        let chunkFlags :=
          if isLast then extraFlags ||| Flags.lastChunk else extraFlags
        let hdr := FrameHeader.new streamId msgType chunkFlags
          (UInt32.ofNat chunk.length) timestampNs
        splitLoop profile streamId msgType extraFlags payload timestampNs
          chunkSize rounds stop (encodeFrame hdr chunk dst)
      else
        .ok dst

/-- Split a payload into chunks of at most `chunkSize` bytes and write them
into `dst`. -/
def splitIntoChunks (profile : Profile) (streamId : UInt16)
    (msgType : MsgType) (extraFlags : UInt8) (payload : List UInt8)
    (timestampNs : UInt64) (chunkSize : Nat) (dst : List UInt8) :
    Exec (List UInt8) := do
  debugAssert profile (0 < chunkSize)
  if payload.isEmpty then
    let hdr := FrameHeader.new streamId msgType
      (extraFlags ||| Flags.lastChunk) 0 timestampNs
    return dst ++ hdr.asBytes
  else
    splitLoop profile streamId msgType extraFlags payload timestampNs
      chunkSize (payload.length + 1) 0 dst

/-! ## The frames of a message -/

/-- A message as it is handed to `split_into_chunks`.  No allocation exceeds
`isize::MAX` bytes. -/
structure OutgoingMessage where
  streamId : UInt16
  msgType : MsgType
  extraFlags : UInt8
  payload : List UInt8
  timestampNs : UInt64
  chunkSize : Nat
  unmarked : extraFlags &&& Flags.lastChunk = 0
  chunkSize_pos : 0 < chunkSize
  chunkSize_le : chunkSize ≤ maxPayloadLen.toNat
  addressable : payload.length < 2 ^ 63
  deriving DecidableEq

namespace OutgoingMessage

variable (message : OutgoingMessage)

/-- Split the message into `dst`. -/
def split (profile : Profile) (dst : List UInt8) : Exec (List UInt8) :=
  splitIntoChunks profile message.streamId message.msgType
    message.extraFlags message.payload message.timestampNs
    message.chunkSize dst

theorem toNat_ofNat_chunk {length : Nat} (fits : length ≤ message.chunkSize) :
    (UInt32.ofNat length).toNat = length := by
  have small := Nat.le_trans fits message.chunkSize_le
  exact UInt32.toNat_ofNat_of_lt' (Nat.lt_of_le_of_lt small (by decide))

/-- The frame that carries one chunk. -/
def chunk (flags : UInt8) (bytes : List UInt8)
    (fits : bytes.length ≤ message.chunkSize) : Frame where
  header := FrameHeader.new message.streamId message.msgType flags
    (UInt32.ofNat bytes.length) message.timestampNs
  payload := bytes
  sized := (message.toNat_ofNat_chunk fits).symm
  small := by
    change (UInt32.ofNat bytes.length).toNat ≤ maxPayloadLen.toNat
    rw [message.toNat_ofNat_chunk fits]
    exact Nat.le_trans fits message.chunkSize_le
  typed := ⟨message.msgType, FrameHeader.msgType_new _ _ _ _ _⟩

def chunksFrom : Nat → List UInt8 → List Frame
  | 0, _ => []
  | rounds + 1, rest =>
      if fits : rest.length ≤ message.chunkSize then
        [message.chunk (message.extraFlags ||| Flags.lastChunk) rest fits]
      else
        message.chunk message.extraFlags (rest.take message.chunkSize)
            (List.length_take_le _ _) ::
          chunksFrom rounds (rest.drop message.chunkSize)

/-- The frames of a message.  There is at least one, and every other one
carries at least one byte. -/
def chunkFrames : List Frame :=
  message.chunksFrom (message.payload.length + 1) message.payload

theorem encode_chunk (flags : UInt8) (bytes : List UInt8)
    (fits : bytes.length ≤ message.chunkSize) (dst : List UInt8) :
    encodeFrame (FrameHeader.new message.streamId message.msgType flags
        (UInt32.ofNat bytes.length) message.timestampNs) bytes dst =
      dst ++ (message.chunk flags bytes fits).encode := by
  rw [encodeFrame, List.append_assoc]
  rfl

private theorem splitLoop_eq (profile : Profile) :
    ∀ (rounds others offset : Nat) (dst : List UInt8),
      offset < message.payload.length →
      message.payload.length - offset < rounds →
      message.payload.length - offset ≤ others →
        splitLoop profile message.streamId message.msgType
            message.extraFlags message.payload message.timestampNs
            message.chunkSize rounds offset dst =
          .ok (dst ++ (message.chunksFrom others
            (message.payload.drop offset)).flatMap Frame.encode)
  | 0, _, _, _, _, short, _ => absurd short (Nat.not_lt_zero _)
  | _ + 1, 0, offset, _, inside, _, short => by omega
  | rounds + 1, others + 1, offset, dst, inside, enough, enoughOthers => by
      have addressable := message.addressable
      have chunkSizeLe : message.chunkSize ≤ 2 ^ 22 := message.chunkSize_le
      have positive := message.chunkSize_pos
      have added :
          usizeAdd profile offset message.chunkSize =
            .ok (offset + message.chunkSize) := by
        apply usizeAdd_of_lt
        rw [usizeRange]
        omega
      have restLength :
          (message.payload.drop offset).length =
            message.payload.length - offset := List.length_drop
      rw [splitLoop, if_pos inside, added, chunksFrom]
      simp only [bind, Except.bind]
      by_cases fits :
          (message.payload.drop offset).length ≤ message.chunkSize
      · have stop :
            min (offset + message.chunkSize) message.payload.length =
              message.payload.length := by omega
        have taken :
            (message.payload.drop offset).take
                (message.payload.length - offset) =
              message.payload.drop offset :=
          List.take_of_length_le (by omega)
        obtain ⟨more, rfl⟩ : ∃ more, rounds = more + 1 :=
          ⟨rounds - 1, by omega⟩
        rw [stop, slice_of_le _ (by omega) (Nat.le_refl _), taken,
          dif_pos fits]
        simp only [beq_self_eq_true, if_true]
        rw [message.encode_chunk _ _ fits, splitLoop,
          if_neg (Nat.lt_irrefl _)]
        simp
      · have stop :
            min (offset + message.chunkSize) message.payload.length =
              offset + message.chunkSize := by omega
        have notLast :
            (offset + message.chunkSize == message.payload.length) =
              false := by
          rw [beq_eq_false_iff_ne]
          omega
        rw [stop, slice_of_le _ (by omega) (by omega),
          Nat.add_sub_cancel_left, dif_neg fits]
        simp only [notLast, Bool.false_eq_true, if_false]
        rw [message.encode_chunk _ _ (List.length_take_le _ _),
          splitLoop_eq profile rounds others _ _ (by omega) (by omega)
            (by omega), List.drop_drop, List.flatMap_cons,
          List.append_assoc]

/-- What `split_into_chunks` writes are the frames of the message. -/
theorem split_eq (profile : Profile) (dst : List UInt8) :
    message.split profile dst =
      .ok (dst ++ message.chunkFrames.flatMap Frame.encode) := by
  have asserted : decide (0 < message.chunkSize) = true :=
    decide_eq_true message.chunkSize_pos
  rw [split, splitIntoChunks, asserted, debugAssert_true]
  simp only [bind, Except.bind]
  rcases Nat.eq_zero_or_pos message.payload.length with empty | filled
  · have nil : message.payload = [] := List.eq_nil_of_length_eq_zero empty
    rw [chunkFrames, chunksFrom, dif_pos (by rw [empty]; exact Nat.zero_le _)]
    simp only [nil, List.isEmpty_nil, if_true, List.flatMap_cons,
      List.flatMap_nil, List.append_nil]
    rfl
  · have nonempty : message.payload.isEmpty = false := by
      cases payload : message.payload with
      | nil =>
          rw [payload] at filled
          exact absurd filled (Nat.lt_irrefl _)
      | cons byte rest => rfl
    rw [nonempty]
    simp only [Bool.false_eq_true, if_false]
    rw [message.splitLoop_eq profile _ (message.payload.length + 1) 0 dst
      filled (by omega) (by omega)]
    rfl

/-! ## The shape of the frames -/

theorem isLast_of_marked (payloadLen : UInt32) :
    (FrameHeader.new message.streamId message.msgType
      (message.extraFlags ||| Flags.lastChunk) payloadLen
      message.timestampNs).isLast = true := by
  change ((message.extraFlags ||| Flags.lastChunk) &&& Flags.lastChunk
    != 0) = true
  have distributed :
      (message.extraFlags ||| Flags.lastChunk) &&& Flags.lastChunk =
        (message.extraFlags &&& Flags.lastChunk) |||
          (Flags.lastChunk &&& Flags.lastChunk) :=
    UInt8.toBitVec_inj.mp <| by
      simp only [UInt8.toBitVec_and, UInt8.toBitVec_or,
        BitVec.and_or_distrib_right]
  rw [distributed, message.unmarked]
  decide

theorem isLast_of_unmarked (payloadLen : UInt32) :
    (FrameHeader.new message.streamId message.msgType message.extraFlags
      payloadLen message.timestampNs).isLast = false := by
  change (message.extraFlags &&& Flags.lastChunk != 0) = false
  rw [message.unmarked]
  rfl

end OutgoingMessage

end RemoteWay.Transport
