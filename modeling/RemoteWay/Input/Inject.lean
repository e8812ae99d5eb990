import RemoteWay.Proto.Input

/-!
# Injection of input events

`VirtualInput::dispatch_event` decodes an event and turns it into requests
of the virtual pointer and keyboard.  The times in the requests are left
out.
-/

namespace RemoteWay.Input

open RemoteWay.Base RemoteWay.Proto

inductive InputError where
  | unknownInputKind (kind : UInt8)
  | injectFailed (reason : String)
  deriving DecidableEq, Repr

/-- Requests of the virtual devices. -/
inductive DeviceRequest where
  | motionAbsolute (x y xExtent yExtent : UInt32)
  | button (button : UInt32) (pressed : Bool)
  | axis (horizontal : Bool) (value : UInt32)
  | frame
  | key (key state : UInt32)
  deriving DecidableEq, Repr

/-- Extent used for the coordinates of `motion_absolute`. -/
def pointerExtent : UInt32 := 0xFFFF

/-- `value as u32` on the bits of an `f32`: truncated towards zero and
clamped, and zero if not a number. -/
def f32AsU32 (bits : UInt32) : UInt32 :=
  let exponent := bits.toNat / 2 ^ 23 % 2 ^ 8
  let fraction := bits.toNat % 2 ^ 23
  let significand := 2 ^ 23 + fraction
  if (exponent = 255 ∧ fraction ≠ 0) ∨ 2 ^ 31 ≤ bits.toNat ∨
      exponent < 127 then
    0
  else if 127 + 32 ≤ exponent then
    0xFFFFFFFF
  else
    UInt32.ofNat (significand * 2 ^ (exponent - 127) / 2 ^ 23)

example : f32AsU32 0x42F70000 = 123 := by decide

/-! ## Requests -/

def injectPointerMotion (motion : PointerMotion) : List DeviceRequest :=
  [.motionAbsolute (f32AsU32 motion.x) (f32AsU32 motion.y) pointerExtent
    pointerExtent, .frame]

def injectPointerButton (btn : PointerButton) : List DeviceRequest :=
  [.button btn.button (btn.state != 0), .frame]

/-- The value is widened to an `f64` of the same value. -/
def injectPointerAxis (axis : PointerAxis) : List DeviceRequest :=
  [.axis (axis.axis != 0) axis.value, .frame]

def injectKey (key : KeyEvent) : List DeviceRequest :=
  [.key key.key key.state]

def inject : Input → List DeviceRequest
  | .pointerMotion motion => injectPointerMotion motion
  | .pointerButton btn => injectPointerButton btn
  | .pointerAxis axis => injectPointerAxis axis
  | .key keyEvent => injectKey keyEvent

/-- The record of a payload prefix. -/
def decodeRecord {record : Type} (layout : Packed record)
    (event : InputEvent) (reason : String) : Except InputError record :=
  match layout.refFromBytes (event.payload.val.take layout.size) with
  | some value => .ok value
  | none => .error (.injectFailed reason)

/-- The record that `dispatch_event` decodes. -/
def decodeEvent (event : InputEvent) : Except InputError Input :=
  match event.kind with
  | .error kind => .error (.unknownInputKind kind)
  | .ok .pointerMotion =>
      (decodeRecord PointerMotion.layout event
        "decode PointerMotion").map .pointerMotion
  | .ok .pointerButton =>
      (decodeRecord PointerButton.layout event
        "decode PointerButton").map .pointerButton
  | .ok .pointerAxis =>
      (decodeRecord PointerAxis.layout event
        "decode PointerAxis").map .pointerAxis
  | .ok .key =>
      (decodeRecord KeyEvent.layout event "decode KeyEvent").map .key

/-- Dispatch a single input event to the compositor. -/
def dispatchEvent (event : InputEvent) :
    Except InputError (List DeviceRequest) :=
  (decodeEvent event).map inject

/-- The requests for events that are dispatched one after the other; one
that is not decoded has none. -/
def replay (events : List InputEvent) : List DeviceRequest :=
  events.flatMap fun event =>
    match dispatchEvent event with
    | .ok requests => requests
    | .error _ => []

/-! ## Round trip -/

theorem decodeRecord_fromBytesPadded {record : Type}
    (layout : Packed record) (kind : InputKind) (value : record)
    (fits : (layout.asBytes value).length ≤ 12) (reason : String) :
    decodeRecord layout
        (.fromBytesPadded kind (layout.asBytes value) fits) reason =
      .ok value := by
  rw [decodeRecord, InputEvent.refFromBytes_payload]

/-- An event decodes to the record it was made of. -/
theorem decodeEvent_event (input : Input) :
    decodeEvent input.event = .ok input := by
  cases input with
  | pointerMotion motion =>
      rw [Input.event, InputEvent.pointerMotion, decodeEvent,
        InputEvent.kind_fromBytesPadded]
      dsimp only
      rw [decodeRecord_fromBytesPadded]
      rfl
  | pointerButton btn =>
      rw [Input.event, InputEvent.pointerButton, decodeEvent,
        InputEvent.kind_fromBytesPadded]
      dsimp only
      rw [decodeRecord_fromBytesPadded]
      rfl
  | pointerAxis axis =>
      rw [Input.event, InputEvent.pointerAxis, decodeEvent,
        InputEvent.kind_fromBytesPadded]
      dsimp only
      rw [decodeRecord_fromBytesPadded]
      rfl
  | key keyEvent =>
      rw [Input.event, InputEvent.key, decodeEvent,
        InputEvent.kind_fromBytesPadded]
      dsimp only
      rw [decodeRecord_fromBytesPadded]
      rfl

/-- The requests for an event are those of the record it was made of. -/
theorem dispatchEvent_event (input : Input) :
    dispatchEvent input.event = .ok (inject input) := by
  rw [dispatchEvent, decodeEvent_event]
  rfl

theorem replay_map_event (inputs : List Input) :
    replay (inputs.map Input.event) = inputs.flatMap inject := by
  rw [replay, List.flatMap_map]
  simp only [dispatchEvent_event]

end RemoteWay.Input
