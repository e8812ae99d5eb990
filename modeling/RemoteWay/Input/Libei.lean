import RemoteWay.Base.Histories
import RemoteWay.Proto.Input

/-!
# Injection by emulated input devices

The compositor adds and removes devices, each with some of the interfaces.
One device is remembered: the last one that was added with a pointer or a
keyboard, until any device is removed.  The serials and times of the requests
are left out.
-/

namespace RemoteWay.Input.Libei

open RemoteWay.Base RemoteWay.Proto

/-! ## Devices -/

/-- A device, with the interfaces that it has. -/
structure Device where
  id : Nat
  pointer : Bool
  pointerAbsolute : Bool
  button : Bool
  scroll : Bool
  keyboard : Bool
  deriving DecidableEq, Repr

inductive EiEvent where
  | deviceAdded (device : Device)
  | deviceRemoved (device : Device)
  | other
  deriving DecidableEq, Repr

/-- The requests of a device. -/
inductive EiRequest where
  | startEmulating
  | motionAbsolute (x y : UInt32)
  | motionRelative (x y : UInt32)
  | button (button : UInt32) (pressed : Bool)
  | scroll (x y : UInt32)
  | key (key : UInt32) (pressed : Bool)
  | frame
  deriving DecidableEq, Repr

inductive EiError where
  | unknownInputKind (kind : UInt8)
  | protocol (reason : String)
  deriving DecidableEq, Repr

/-- The result of flushing the connection, which fails for a reason. -/
def flushResult : Option String → Except EiError Unit
  | none => .ok ()
  | some reason => .error (.protocol ("EI flush failed: " ++ reason))

/-- The device has one of the capabilities that a device is remembered
for. -/
def Device.usable (device : Device) : Bool :=
  device.pointer || device.pointerAbsolute || device.keyboard

/-- Process pending events, each with the result of the flush for it.  The
device that is remembered after it, the requests, and the result. -/
def dispatch (device : Option Device) :
    List (Except String EiEvent × Option String) →
      Option Device × List (Device × EiRequest) × Except EiError Unit
  | [] => (device, [], .ok ())
  | (.error reason, _) :: _ =>
      (device, [], .error (.protocol ("EI event error: " ++ reason)))
  | (.ok (.deviceAdded added), flush) :: events =>
      if added.usable then
        match flushResult flush with
        | .error error => (device, [(added, .startEmulating)], .error error)
        | .ok _ =>
            let rest := dispatch (some added) events
            (rest.1, (added, .startEmulating) :: rest.2.1, rest.2.2)
      else
        dispatch device events
  | (.ok (.deviceRemoved _), _) :: events => dispatch none events
  | (.ok .other, _) :: events => dispatch device events

/-! ## Injection -/

/-- The requests for an input. -/
def Device.requests (device : Device) : Input → List EiRequest
  | .pointerMotion motion =>
      (if device.pointerAbsolute then [.motionAbsolute motion.x motion.y]
        else if device.pointer then [.motionRelative motion.x motion.y]
        else []) ++ [.frame]
  | .pointerButton btn =>
      if device.button then [.button btn.button (btn.state != 0), .frame]
      else []
  | .pointerAxis axis =>
      if device.scroll then
        [if axis.axis = 0 then .scroll 0 axis.value else .scroll axis.value 0,
          .frame]
      else []
  | .key key =>
      if device.keyboard then [.key key.key (key.state != 0), .frame] else []

/-- The record of a payload prefix. -/
def eiRecord {record : Type} (layout : Packed record) (event : InputEvent)
    (reason : String) : Except EiError record :=
  match layout.refFromBytes (event.payload.val.take layout.size) with
  | some value => .ok value
  | none => .error (.protocol reason)

/-- The record that `inject` decodes. -/
def decode (event : InputEvent) : Except EiError Input :=
  match event.kind with
  | .error kind => .error (.unknownInputKind kind)
  | .ok .pointerMotion =>
      (eiRecord PointerMotion.layout event
        "invalid PointerMotion payload").map .pointerMotion
  | .ok .pointerButton =>
      (eiRecord PointerButton.layout event
        "invalid PointerButton payload").map .pointerButton
  | .ok .pointerAxis =>
      (eiRecord PointerAxis.layout event
        "invalid PointerAxis payload").map .pointerAxis
  | .ok .key =>
      (eiRecord KeyEvent.layout event "invalid KeyEvent payload").map .key

/-- Inject a single input event: the requests, and the result. -/
def inject (device : Option Device) (event : InputEvent)
    (flush : Option String) :
    List (Device × EiRequest) × Except EiError Unit :=
  match device with
  | none => ([], .error (.protocol "no EI device available"))
  | some device =>
      match decode event with
      | .error error => ([], .error error)
      | .ok input =>
          ((device.requests input).map (device, ·), flushResult flush)

/-! ## Routing -/

/-- The device has an interface for inputs of the kind. -/
def Device.supports (device : Device) : InputKind → Bool
  | .pointerMotion => device.pointerAbsolute || device.pointer
  | .pointerButton => device.button
  | .pointerAxis => device.scroll
  | .key => device.keyboard

/-- The device has an interface for the event; none has one for an event of
an unknown kind. -/
def Device.serves (device : Device) (event : InputEvent) : Bool :=
  match event.kind with
  | .ok kind => device.supports kind
  | .error _ => false

/-- The devices that were added and not removed. -/
def present (events : List EiEvent) : List Device :=
  events.foldl (fun devices event =>
    match event with
    | .deviceAdded device => devices ++ [device]
    | .deviceRemoved device => devices.filter (·.id ≠ device.id)
    | .other => devices) []

/-- The device that is remembered after the events, when no flush fails. -/
def remembered (events : List EiEvent) : Option Device :=
  (dispatch none (events.map fun event => (.ok event, none))).1

/-- The event is emulated on a device that is present and has an interface
for it if there is one, and never on another device. -/
structure Routed (events : List EiEvent) (event : InputEvent)
    (flush : Option String) : Prop where
  served : (∃ device ∈ present events, device.serves event) →
    ∃ device ∈ present events, device.serves event ∧
      ∃ request, request ≠ .frame ∧
        (device, request) ∈ (inject (remembered events) event flush).1
  presentOnly : ∀ device request,
    (device, request) ∈ (inject (remembered events) event flush).1 →
      device ∈ present events

/-- The last addition of a usable device or removal of any device adds a
device that has an interface for the event. -/
def LastServes (events : List EiEvent) (event : InputEvent) : Prop :=
  ∃ earlier device later, events = earlier ++ .deviceAdded device :: later ∧
    device.usable ∧ device.serves event ∧
    ∀ next ∈ later, ∀ other, next ≠ .deviceRemoved other ∧
      (next = .deviceAdded other → other.usable = false)

/-! ## The remembered device -/

/-- The device that is remembered after the event, if the event counts. -/
def EiEvent.counted? : EiEvent → Option (Option Device)
  | .deviceAdded device => if device.usable then some (some device) else none
  | .deviceRemoved _ => some none
  | .other => none

theorem fst_dispatch (device : Option Device) (events : List EiEvent) :
    (dispatch device (events.map fun event => (.ok event, none))).1 =
      events.foldl (fun device event => event.counted?.getD device)
        device := by
  induction events generalizing device with
  | nil => rfl
  | cons event events inductionHypothesis =>
      rw [List.map_cons, List.foldl_cons]
      cases event with
      | deviceAdded added =>
          rw [dispatch, EiEvent.counted?]
          by_cases usable : added.usable = true
          · rw [if_pos usable, if_pos usable]
            exact inductionHypothesis (some added)
          · rw [if_neg usable, if_neg usable]
            exact inductionHypothesis device
      | deviceRemoved removed => exact inductionHypothesis none
      | other => exact inductionHypothesis device

theorem remembered_eq (events : List EiEvent) :
    remembered events = lastOf (·.counted?) none events := by
  rw [remembered, fst_dispatch]
  exact @foldl_eq_lastOf _ _ _ _ _ id (fun _ _ => rfl) none events

@[simp]
theorem remembered_concat (events : List EiEvent) (event : EiEvent) :
    remembered (events ++ [event]) =
      event.counted?.getD (remembered events) := by
  simp [remembered_eq]

/-- The remembered device is present. -/
theorem mem_present {events : List EiEvent} {device : Device}
    (kept : remembered events = some device) : device ∈ present events := by
  induction events using List.reverseRecOn with
  | nil => cases kept
  | append_singleton events event inductionHypothesis =>
      rw [remembered_concat] at kept
      rw [present, List.foldl_append, ← present]
      cases event with
      | deviceAdded added =>
          rw [EiEvent.counted?] at kept
          by_cases usable : added.usable = true
          · rw [if_pos usable, Option.getD_some] at kept
            injection kept with same
            simp [same]
          · rw [if_neg usable, Option.getD_none] at kept
            exact List.mem_append_left _ (inductionHypothesis kept)
      | deviceRemoved removed => cases kept
      | other => exact inductionHypothesis kept

theorem counted?_eq_none_iff {event : EiEvent} :
    event.counted? = none ↔ ∀ other, event ≠ .deviceRemoved other ∧
      (event = .deviceAdded other → other.usable = false) := by
  cases event with
  | deviceAdded added => simp [EiEvent.counted?]
  | deviceRemoved removed => simp [EiEvent.counted?]
  | other => simp [EiEvent.counted?]

theorem counted?_eq_some_iff {event : EiEvent} {device : Device} :
    event.counted? = some (some device) ↔
      event = .deviceAdded device ∧ device.usable = true := by
  cases event with
  | deviceAdded added =>
      rw [EiEvent.counted?]
      by_cases usable : added.usable = true
      · simp only [usable, if_true, Option.some.injEq,
          EiEvent.deviceAdded.injEq]
        constructor
        · rintro rfl
          exact ⟨rfl, usable⟩
        · exact And.left
      · simp only [usable, if_false, reduceCtorEq, false_iff,
          EiEvent.deviceAdded.injEq]
        rintro ⟨rfl, used⟩
        exact usable used
  | deviceRemoved removed => simp [EiEvent.counted?]
  | other => simp [EiEvent.counted?]

/-- The device that was added last is the one that is remembered. -/
theorem lastServes_iff {events : List EiEvent} {event : InputEvent} :
    LastServes events event ↔
      ∃ device, remembered events = some device ∧
        device.serves event = true := by
  have found (device : Device) := @lastOf_eq_iff _ _ EiEvent.counted? none
    (some device) (Option.some_ne_none device).symm events
  simp only [← remembered_eq, counted?_eq_none_iff, counted?_eq_some_iff]
    at found
  constructor
  · rintro ⟨earlier, device, later, same, usable, serves, after⟩
    exact ⟨device, (found device).mpr
      ⟨earlier, _, later, same, ⟨rfl, usable⟩, after⟩, serves⟩
  · rintro ⟨device, kept, serves⟩
    obtain ⟨earlier, _, later, same, ⟨rfl, usable⟩, after⟩ :=
      (found device).mp kept
    exact ⟨earlier, device, later, same, usable, serves, after⟩

/-! ## Emulation -/

/-- The kind of the event that is made of an input. -/
def inputKind : Input → InputKind
  | .pointerMotion _ => .pointerMotion
  | .pointerButton _ => .pointerButton
  | .pointerAxis _ => .pointerAxis
  | .key _ => .key

theorem eiRecord_eq {record : Type} (layout : Packed record)
    (event : InputEvent) (reason : String) (fits : layout.size ≤ 12) :
    ∃ value, eiRecord layout event reason = .ok value := by
  have width : (event.payload.val.take layout.size).length =
      layout.size := by
    rw [List.length_take, event.payload.property]
    omega
  rw [eiRecord, layout.refFromBytes_of_length width]
  exact ⟨_, rfl⟩

/-- An event of a known kind is decoded. -/
theorem decode_of_kind {event : InputEvent} {kind : InputKind}
    (known : event.kind = .ok kind) :
    ∃ input, decode event = .ok input ∧ inputKind input = kind := by
  rw [decode, known]
  cases kind with
  | pointerMotion =>
      obtain ⟨motion, same⟩ := eiRecord_eq PointerMotion.layout event
        "invalid PointerMotion payload" (by decide)
      exact ⟨.pointerMotion motion, by rw [same]; rfl, rfl⟩
  | pointerButton =>
      obtain ⟨btn, same⟩ := eiRecord_eq PointerButton.layout event
        "invalid PointerButton payload" (by decide)
      exact ⟨.pointerButton btn, by rw [same]; rfl, rfl⟩
  | pointerAxis =>
      obtain ⟨axis, same⟩ := eiRecord_eq PointerAxis.layout event
        "invalid PointerAxis payload" (by decide)
      exact ⟨.pointerAxis axis, by rw [same]; rfl, rfl⟩
  | key =>
      obtain ⟨key, same⟩ := eiRecord_eq KeyEvent.layout event
        "invalid KeyEvent payload" (by decide)
      exact ⟨.key key, by rw [same]; rfl, rfl⟩

/-- A device has a request for an input, besides the frame, exactly if it
has an interface for it. -/
theorem exists_request_iff (device : Device) (input : Input) :
    (∃ request ∈ device.requests input, request ≠ .frame) ↔
      device.supports (inputKind input) = true := by
  cases input with
  | pointerMotion motion =>
      cases absolute : device.pointerAbsolute with
      | true => simp [Device.requests, Device.supports, inputKind, absolute]
      | false =>
          cases relative : device.pointer with
          | true => simp [Device.requests, Device.supports, inputKind,
              absolute, relative]
          | false => simp [Device.requests, Device.supports, inputKind,
              absolute, relative]
  | pointerButton btn =>
      cases button : device.button with
      | true => simp [Device.requests, Device.supports, inputKind, button]
      | false => simp [Device.requests, Device.supports, inputKind, button]
  | pointerAxis axis =>
      cases scroll : device.scroll with
      | true =>
          by_cases vertical : axis.axis = 0
          · simp [Device.requests, Device.supports, inputKind, scroll,
              vertical]
          · simp [Device.requests, Device.supports, inputKind, scroll,
              vertical]
      | false => simp [Device.requests, Device.supports, inputKind, scroll]
  | key key =>
      cases keyboard : device.keyboard with
      | true => simp [Device.requests, Device.supports, inputKind, keyboard]
      | false => simp [Device.requests, Device.supports, inputKind, keyboard]

/-! ## Routing -/

variable {events : List EiEvent} {event : InputEvent} {flush : Option String}
variable {device : Device}

/-- All requests are for the remembered device. -/
theorem remembered_of_mem_inject {kept : Option Device}
    {request : EiRequest}
    (sent : (device, request) ∈ (inject kept event flush).1) :
    kept = some device := by
  cases kept with
  | none => cases sent
  | some other =>
      rw [inject] at sent
      cases decoded : decode event with
      | error error =>
          rw [decoded] at sent
          cases sent
      | ok input =>
          rw [decoded] at sent
          obtain ⟨_, _, same⟩ := List.mem_map.mp sent
          injection same with same
          rw [same]

/-- The remembered device emulates the event exactly if it has an interface
for it. -/
theorem exists_mem_inject_iff :
    (∃ request, request ≠ .frame ∧
        (device, request) ∈ (inject (some device) event flush).1) ↔
      device.serves event = true := by
  rw [Device.serves]
  cases kind : event.kind with
  | error byte =>
      have undecoded : decode event = .error (.unknownInputKind byte) := by
        rw [decode, kind]
      simp [inject, undecoded]
  | ok known =>
      obtain ⟨input, decoded, same⟩ := decode_of_kind kind
      subst same
      rw [← exists_request_iff]
      simp [inject, decoded, and_comm]

/-- Events are routed right exactly if, where a device that is present has an
interface for the event, the last device that was added has one. -/
theorem routed_iff (events : List EiEvent) (event : InputEvent)
    (flush : Option String) :
    Routed events event flush ↔
      ((∃ device ∈ present events, device.serves event = true) →
        LastServes events event) := by
  rw [lastServes_iff]
  constructor
  · intro routed available
    obtain ⟨device, _, serves, request, _, sent⟩ := routed.served available
    exact ⟨device, remembered_of_mem_inject sent, serves⟩
  · intro last
    refine ⟨?_, ?_⟩
    · intro available
      obtain ⟨device, kept, serves⟩ := last available
      refine ⟨device, mem_present kept, serves, ?_⟩
      rw [kept]
      exact exists_mem_inject_iff.mpr serves
    · intro device request sent
      exact mem_present (remembered_of_mem_inject sent)

/-- A pointer and a keyboard that are separate devices. -/
def pointerThenKeyboard : List EiEvent :=
  [.deviceAdded ⟨1, true, true, true, true, false⟩,
    .deviceAdded ⟨2, false, false, false, false, true⟩]

/-- The keyboard is remembered alone, and the pointer is not moved. -/
theorem not_routed_pointerThenKeyboard :
    ¬Routed pointerThenKeyboard (.pointerMotion ⟨0, 0, 0, 0⟩) none := by
  intro routed
  have requests : (inject (remembered pointerThenKeyboard)
      (.pointerMotion ⟨0, 0, 0, 0⟩) none).1 =
        [(⟨2, false, false, false, false, true⟩, .frame)] := by
    decide +kernel
  obtain ⟨_, _, _, request, emulates, sent⟩ := routed.served
    ⟨⟨1, true, true, true, true, false⟩, by decide, by decide⟩
  rw [requests] at sent
  simp [emulates] at sent

end RemoteWay.Input.Libei
