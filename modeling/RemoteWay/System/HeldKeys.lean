import RemoteWay.Base.Assignments
import RemoteWay.System.InputPath

/-!
# Keys and buttons held down

A key or button is held down on the virtual devices if the last press or
release among the dispatched events is a press.  An event that finds the
ring of the inject thread full is dropped, so this is what the accepted
events say, and what all events say only where the last one was accepted.
-/

namespace RemoteWay.System

open RemoteWay.Base RemoteWay.Proto RemoteWay.Transport RemoteWay.Input

/-- What can be held down. -/
inductive Holdable where
  | key (code : UInt32)
  | button (code : UInt32)
  deriving DecidableEq, Repr

/-- A key is pressed or released.  A repeat does neither. -/
def keyStroke (key state : UInt32) : Option (Holdable × Bool) :=
  if state = 0 then some (.key key, false)
  else if state = 1 then some (.key key, true)
  else none

/-- The press or release that a request stands for. -/
def requestStroke : DeviceRequest → Option (Holdable × Bool)
  | .key key state => keyStroke key state
  | .button button pressed => some (.button button, pressed)
  | _ => none

/-- The press or release that an input stands for. -/
def inputStroke : Input → Option (Holdable × Bool)
  | .key event => keyStroke event.key event.state
  | .pointerButton btn => some (.button btn.button, btn.state != 0)
  | _ => none

/-- What is held down on the virtual devices after some requests. -/
def heldOnDevice (requests : List DeviceRequest) : Holdable → Bool :=
  assignAll (fun _ => false) (requests.filterMap requestStroke)

/-- What is held down according to a sequence of inputs. -/
def heldBy (inputs : List Input) : Holdable → Bool :=
  assignAll (fun _ => false) (inputs.filterMap inputStroke)

/-- The requests for an input press and release what the input does. -/
theorem filterMap_requestStroke_inject (input : Input) :
    (inject input).filterMap requestStroke =
      (inputStroke input).toList := by
  cases input with
  | pointerMotion motion => rfl
  | pointerButton btn => rfl
  | pointerAxis axis => rfl
  | key event =>
      change [DeviceRequest.key event.key event.state].filterMap
        requestStroke = (keyStroke event.key event.state).toList
      cases stroke : keyStroke event.key event.state with
      | none => simp [requestStroke, stroke]
      | some pressed => simp [requestStroke, stroke]

/-- Events hold down what the inputs they were made of do. -/
theorem heldOnDevice_replay (inputs : List Input) :
    heldOnDevice (replay (inputs.map Input.event)) = heldBy inputs := by
  have strokes : (inputs.flatMap inject).filterMap requestStroke =
      inputs.filterMap inputStroke := by
    rw [List.filterMap_flatMap, List.filterMap_eq_flatMap_toList]
    simp only [filterMap_requestStroke_inject]
  rw [heldOnDevice, replay_map_event, strokes, heldBy]

theorem heldOnDevice_requests {thread : InjectThread} {inputs : List Input}
    (dispatched : thread.dispatched = inputs.map Input.event) :
    heldOnDevice thread.requests = heldBy inputs := by
  rw [← heldOnDevice_replay, ← dispatched]
  rfl

namespace InputPath

/-- The captured inputs, each with whether its event found room in the
ring. -/
def answered (path : InputPath) : List (Input × Bool) :=
  path.captured.zip (path.inject.handed.map Prod.snd)

variable {capacity : Nat}

/-- When nothing is queued, each captured input was answered, and what was
dispatched are the events that found room. -/
theorem InOrder.answered {path : InputPath} (inOrder : path.InOrder)
    (quiet : path.Quiet) :
    path.answered.map Prod.fst = path.captured ∧
      path.inject.dispatched =
        (keptItems path.answered).map Input.event := by
  obtain ⟨handed, accepted⟩ := inOrder.quiet quiet
  have sameLength : path.captured.length =
      (path.inject.handed.map Prod.snd).length := by
    have lengths := congrArg List.length handed
    rw [List.length_map, List.length_map] at lengths
    rw [List.length_map]
    exact lengths
  have paired : path.inject.handed =
      path.answered.map (Prod.map Input.event id) := by
    rw [InputPath.answered, ← List.zip_map_left]
    exact List.zip_of_prod handed.symm rfl
  constructor
  · exact List.map_fst_zip (Nat.le_of_eq sameLength)
  · rw [← accepted, InjectThread.accepted, paired, keptItems,
      List.filter_map, List.map_map, List.map_map]
    rfl

/-- In every state of every interleaving of the loops in which nothing is
queued: the keys and buttons held down on the virtual devices are those held
down according to the inputs whose events found room in the ring, and one
whose last press or release found room is held down exactly if it is
according to all inputs. -/
theorem heldOnDevice_eq_heldBy_accepted {handshake : List (List UInt8)}
    (exchanged : handshake.flatten = buildHandshake)
    {actions : List InputAction} {last : InputPath}
    (run : Run (fun before action after =>
        before.perform capacity action = some after) (start handshake)
      actions last)
    (quiet : last.Quiet) :
    last.answered.map Prod.fst = last.captured ∧
      heldOnDevice last.inject.requests =
        heldBy (keptItems last.answered) ∧
      ∀ target, LastKept inputStroke target last.answered →
        heldOnDevice last.inject.requests target =
          heldBy last.captured target := by
  have inOrder := run.keeps
    (fun _ _ _ performed kept => InOrder.perform kept performed)
    (inOrder_start exchanged)
  obtain ⟨all, dispatched⟩ := inOrder.answered quiet
  have held := heldOnDevice_requests dispatched
  refine ⟨all, held, ?_⟩
  intro target kept
  rw [held, heldBy, assignAll_keptItems _ kept, all, heldBy]

/-! ## A full ring -/

def press (key : UInt32) : Input := .key ⟨key, 1⟩

def release (key : UInt32) : Input := .key ⟨key, 0⟩

/-- An input is captured, and its event is handed to the inject thread. -/
def handOver (input : Input) : List InputAction :=
  [.capture input, .select, .write 32, .finish, .read 32, .forward, .recv,
    .send]

def injectNext : List InputAction := [.pop, .dispatch]

/-- Key 30 is pressed and key 31 fills the ring before the inject thread
runs, so the release of key 30 is dropped. -/
def fullRing : List InputAction :=
  (press 30 :: (List.replicate 127 [press 31, release 31]).flatten ++
      [press 31, release 30]).flatMap handOver ++
    (List.replicate 256 injectNext).flatten ++
    handOver (release 31) ++ injectNext

set_option maxRecDepth 100000 in
/-- In the end key 30 is held down on the virtual keyboard alone. -/
theorem heldOnDevice_eq_heldBy_fails :
    ¬ ∀ handshake actions last, handshake.flatten = buildHandshake →
      Run (fun before action after =>
          before.perform ringCapacity action = some after)
        (start handshake) actions last →
      (∀ input, input ∈ last.captured → (inputStroke input).isSome) →
      last.Quiet →
        heldOnDevice last.inject.requests = heldBy last.captured := by
  intro equal
  have evaluated :
      (fullRing.foldlM (perform ringCapacity)
          (start exampleHandshake)).map
        (fun last => (decide last.Quiet,
          last.captured.all fun input => (inputStroke input).isSome,
          heldOnDevice last.inject.requests (.key 30),
          heldBy last.captured (.key 30))) =
        some (true, true, true, false) := by
    decide +kernel
  obtain ⟨last, iterated, state⟩ := Option.map_eq_some_iff.mp evaluated
  injection state with quiet state
  injection state with strokes state
  injection state with device client
  have same := equal exampleHandshake fullRing last (by decide)
    (run_iff_foldlM.mpr iterated) (List.all_eq_true.mp strokes)
    (of_decide_eq_true quiet)
  rw [same, client] at device
  cases device

/-- With room for one event: the press of key 31 is dropped, that of key 30
and its release are not. -/
def fullRingOfOne : List InputAction :=
  (handOver (press 30) ++ handOver (press 31)) ++ injectNext ++
    handOver (release 30) ++ injectNext

theorem heldOnDevice_eq_heldBy_accepted_fullRingOfOne :
    ∃ last, Run (fun before action after =>
        before.perform 1 action = some after) (start exampleHandshake)
          fullRingOfOne last ∧
      last.captured = [press 30, press 31, release 30] ∧
      heldOnDevice last.inject.requests =
        heldBy [press 30, release 30] ∧
      heldOnDevice last.inject.requests (.key 30) =
        heldBy last.captured (.key 30) := by
  have evaluated :
      (fullRingOfOne.foldlM (perform 1) (start exampleHandshake)).map
        (fun last => (last.captured, keptItems last.answered,
          decide last.Quiet,
          decide (LastKept inputStroke (.key 30) last.answered))) =
        some ([press 30, press 31, release 30], [press 30, release 30],
          true, true) := by
    decide +kernel
  obtain ⟨last, iterated, state⟩ := Option.map_eq_some_iff.mp evaluated
  injection state with captured state
  injection state with accepted state
  injection state with quiet kept
  have run := run_iff_foldlM.mpr iterated
  have exchanged : exampleHandshake.flatten = buildHandshake := by decide
  obtain ⟨_, held, each⟩ := heldOnDevice_eq_heldBy_accepted exchanged run
    (of_decide_eq_true quiet)
  rw [accepted] at held
  exact ⟨last, run, captured, held, each _ (of_decide_eq_true kept)⟩

end InputPath

end RemoteWay.System
