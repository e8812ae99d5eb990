import RemoteWay.Base.LittleEndian

/-!
# Input events

Pointer and keyboard events of the input stream.  Each kind of event is a
packed record, which is padded with zeros to the payload of an `InputEvent`.
Floating-point fields are their bits.
-/

namespace RemoteWay.Proto

open RemoteWay.Base

/-- A byte array of fixed size. -/
abbrev Bytes (width : Nat) := { bytes : List UInt8 // bytes.length = width }

namespace Bytes

/-- The first bytes of a list, followed by zeros if there are too few. -/
def ofFront (width : Nat) (bytes : List UInt8) : Bytes width :=
  ⟨bytes.take width ++ List.replicate (width - bytes.length) 0, by
    rw [List.length_append, List.length_take, List.length_replicate]
    omega⟩

theorem ofFront_append {width : Nat} (value : Bytes width)
    (more : List UInt8) : ofFront width (value.val ++ more) = value := by
  have enough : width - (value.val ++ more).length = 0 := by
    rw [List.length_append, value.property]
    omega
  apply Subtype.ext
  change (value.val ++ more).take width ++ List.replicate
    (width - (value.val ++ more).length) 0 = value.val
  rw [enough, List.take_left' value.property, List.replicate_zero,
    List.append_nil]

end Bytes

/-- Pointer motion in surface-local coordinates. -/
structure PointerMotion where
  surfaceId : UInt16
  pad : UInt16
  x : UInt32
  y : UInt32
  deriving DecidableEq, Repr

/-- Pointer button press or release. -/
structure PointerButton where
  button : UInt32
  state : UInt32
  deriving DecidableEq, Repr

/-- Pointer scroll event. -/
structure PointerAxis where
  axis : UInt8
  pad : Bytes 3
  value : UInt32
  deriving DecidableEq, Repr

/-- Key press or release. -/
structure KeyEvent where
  key : UInt32
  state : UInt32
  deriving DecidableEq, Repr

/-! ## Layouts -/

/-- Two 32-bit fields. -/
private theorem u32Fields_pair (first second : UInt32)
    (more : List UInt8) :
    u32FieldAt (u32Fields [first, second] ++ more) 0 = first ∧
      u32FieldAt (u32Fields [first, second] ++ more) 1 = second :=
  ⟨u32FieldAt_u32Fields more [first, second] 0 (by simp),
    u32FieldAt_u32Fields more [first, second] 1 (by simp)⟩

def PointerMotion.layout : Packed PointerMotion where
  size := 12
  asBytes motion :=
    u16Bytes motion.surfaceId ++
      (u16Bytes motion.pad ++ u32Fields [motion.x, motion.y])
  ofFront bytes :=
    { surfaceId := u16OfBytes (bytes.take 2)
      pad := u16OfBytes ((bytes.drop 2).take 2)
      x := u32FieldAt (bytes.drop 4) 0
      y := u32FieldAt (bytes.drop 4) 1 }
  length_asBytes _ := by simp
  ofFront_asBytes motion more := by
    obtain ⟨surfaceId, pad, x, y⟩ := motion
    obtain ⟨first, second⟩ := u32Fields_pair x y more
    have afterId : (u16Bytes surfaceId ++ (u16Bytes pad ++
        (u32Fields [x, y] ++ more))).drop 2 =
        u16Bytes pad ++ (u32Fields [x, y] ++ more) :=
      List.drop_left' (length_u16Bytes surfaceId)
    have afterPad : (u16Bytes pad ++ (u32Fields [x, y] ++ more)).drop 2 =
        u32Fields [x, y] ++ more :=
      List.drop_left' (length_u16Bytes pad)
    have fields : (u16Bytes surfaceId ++ (u16Bytes pad ++
        (u32Fields [x, y] ++ more))).drop 4 =
        u32Fields [x, y] ++ more := by
      rw [← List.drop_drop (i := 2) (j := 2), afterId, afterPad]
    simp only [List.append_assoc]
    rw [fields, afterId, List.take_left' (length_u16Bytes surfaceId),
      List.take_left' (length_u16Bytes pad), u16OfBytes_u16Bytes,
      u16OfBytes_u16Bytes, first, second]

def PointerButton.layout : Packed PointerButton where
  size := 8
  asBytes btn := u32Fields [btn.button, btn.state]
  ofFront bytes := ⟨u32FieldAt bytes 0, u32FieldAt bytes 1⟩
  length_asBytes _ := by simp
  ofFront_asBytes btn more := by
    obtain ⟨first, second⟩ := u32Fields_pair btn.button btn.state more
    rw [first, second]

def KeyEvent.layout : Packed KeyEvent where
  size := 8
  asBytes key := u32Fields [key.key, key.state]
  ofFront bytes := ⟨u32FieldAt bytes 0, u32FieldAt bytes 1⟩
  length_asBytes _ := by simp
  ofFront_asBytes key more := by
    obtain ⟨first, second⟩ := u32Fields_pair key.key key.state more
    rw [first, second]

def PointerAxis.layout : Packed PointerAxis where
  size := 8
  asBytes axis := axis.axis :: (axis.pad.val ++ u32Bytes axis.value)
  ofFront bytes :=
    { axis := bytes.getD 0 0
      pad := Bytes.ofFront 3 (bytes.drop 1)
      value := u32FieldAt ((bytes.drop 1).drop 3) 0 }
  length_asBytes axis := by simp [axis.pad.property]
  ofFront_asBytes axis more := by
    obtain ⟨direction, pad, value⟩ := axis
    have afterPad : (pad.val ++ (u32Bytes value ++ more)).drop 3 =
        u32Bytes value ++ more :=
      List.drop_left' pad.property
    have field : u32FieldAt (u32Bytes value ++ more) 0 = value :=
      u32FieldAt_u32Fields more [value] 0 (by simp)
    simp only [List.cons_append, List.append_assoc, List.drop_succ_cons,
      List.drop_zero, List.getD_cons_zero]
    rw [Bytes.ofFront_append, afterPad, field]

/-! ## Events -/

/-- Discriminant of the payload of an `InputEvent`. -/
inductive InputKind where
  | pointerMotion
  | pointerButton
  | pointerAxis
  | key
  deriving DecidableEq, Repr

namespace InputKind

/-- `kind as u8`. -/
def toByte : InputKind → UInt8
  | .pointerMotion => 0
  | .pointerButton => 1
  | .pointerAxis => 2
  | .key => 3

def tryFrom (byte : UInt8) : Except UInt8 InputKind :=
  match byte.toNat with
  | 0 => .ok .pointerMotion
  | 1 => .ok .pointerButton
  | 2 => .ok .pointerAxis
  | 3 => .ok .key
  | _ => .error byte

@[simp]
theorem tryFrom_toByte (kind : InputKind) :
    tryFrom kind.toByte = .ok kind := by
  cases kind <;> rfl

end InputKind

/-- Fixed-size input event transmitted on the input stream. -/
structure InputEvent where
  kindByte : UInt8
  pad : Bytes 3
  payload : Bytes 12
  deriving DecidableEq, Repr

namespace InputEvent

/-- Pack the bytes of a record into the payload, which they fit. -/
def fromBytesPadded (kind : InputKind) (src : List UInt8)
    (fits : src.length ≤ 12) : InputEvent where
  kindByte := kind.toByte
  pad := ⟨[0, 0, 0], rfl⟩
  payload := ⟨src ++ List.replicate (12 - src.length) 0, by
    rw [List.length_append, List.length_replicate]
    omega⟩

def pointerMotion (motion : PointerMotion) : InputEvent :=
  fromBytesPadded .pointerMotion (PointerMotion.layout.asBytes motion)
    (Nat.le_of_eq (PointerMotion.layout.length_asBytes motion))

def pointerButton (btn : PointerButton) : InputEvent :=
  fromBytesPadded .pointerButton (PointerButton.layout.asBytes btn)
    (Nat.le_trans
      (Nat.le_of_eq (PointerButton.layout.length_asBytes btn)) (by decide))

def pointerAxis (axis : PointerAxis) : InputEvent :=
  fromBytesPadded .pointerAxis (PointerAxis.layout.asBytes axis)
    (Nat.le_trans
      (Nat.le_of_eq (PointerAxis.layout.length_asBytes axis)) (by decide))

def key (key : KeyEvent) : InputEvent :=
  fromBytesPadded .key (KeyEvent.layout.asBytes key)
    (Nat.le_trans (Nat.le_of_eq (KeyEvent.layout.length_asBytes key))
      (by decide))

/-- Decode the kind byte. -/
def kind (event : InputEvent) : Except UInt8 InputKind :=
  InputKind.tryFrom event.kindByte

@[simp]
theorem kind_fromBytesPadded (kind : InputKind) (src : List UInt8)
    (fits : src.length ≤ 12) :
    (fromBytesPadded kind src fits).kind = .ok kind :=
  InputKind.tryFrom_toByte kind

/-- A record is read back from the payload it was packed into. -/
theorem refFromBytes_payload {record : Type} (layout : Packed record)
    (kind : InputKind) (value : record)
    (fits : (layout.asBytes value).length ≤ 12) :
    layout.refFromBytes
        ((fromBytesPadded kind (layout.asBytes value)
          fits).payload.val.take layout.size) = some value :=
  layout.refFromBytes_take value _

/-- The layout of the event itself. -/
def layout : Packed InputEvent where
  size := 16
  asBytes event := event.kindByte :: (event.pad.val ++ event.payload.val)
  ofFront bytes :=
    { kindByte := bytes.getD 0 0
      pad := Bytes.ofFront 3 (bytes.drop 1)
      payload := Bytes.ofFront 12 ((bytes.drop 1).drop 3) }
  length_asBytes event := by
    simp [event.pad.property, event.payload.property]
  ofFront_asBytes event more := by
    obtain ⟨kindByte, pad, payload⟩ := event
    have afterPad : (pad.val ++ (payload.val ++ more)).drop 3 =
        payload.val ++ more :=
      List.drop_left' pad.property
    simp only [List.cons_append, List.append_assoc, List.drop_succ_cons,
      List.drop_zero, List.getD_cons_zero]
    rw [Bytes.ofFront_append, afterPad, Bytes.ofFront_append]

end InputEvent

/-! ## Inputs -/

/-- The record that an event is made of. -/
inductive Input where
  | pointerMotion (motion : PointerMotion)
  | pointerButton (btn : PointerButton)
  | pointerAxis (axis : PointerAxis)
  | key (key : KeyEvent)
  deriving DecidableEq, Repr

/-- The event made by the constructor for the record. -/
def Input.event : Input → InputEvent
  | .pointerMotion motion => .pointerMotion motion
  | .pointerButton btn => .pointerButton btn
  | .pointerAxis axis => .pointerAxis axis
  | .key keyEvent => .key keyEvent

end RemoteWay.Proto
