import Mathlib.Data.List.Induction
import RemoteWay.Input.Inject

/-!
# Capture of keyboard events

The capture state collects an event for each key that is pressed or released
while a surface of the client has the keyboard focus.  Gaining and losing the
focus leave no event.
-/

namespace RemoteWay.Input

open RemoteWay.Base RemoteWay.Proto

/-- The states of a key that the protocol knows. -/
inductive KeyState where
  | released
  | pressed
  | repeated
  deriving DecidableEq, Repr

/-- An event of `wl_keyboard`; a key may have an unknown state. -/
inductive KeyboardEvent where
  | enter (keys : List UInt32)
  | leave
  | key (key : UInt32) (state : Option KeyState)
  | other
  deriving DecidableEq, Repr

structure CaptureState where
  pendingEvents : List InputEvent
  deriving DecidableEq, Repr

def CaptureState.push (state : CaptureState) (event : InputEvent) :
    CaptureState :=
  { state with pendingEvents := state.pendingEvents ++ [event] }

def keyboardEvent (state : CaptureState) : KeyboardEvent → CaptureState
  | .key key (some .released) => state.push (.key ⟨key, 0⟩)
  | .key key (some .pressed) => state.push (.key ⟨key, 1⟩)
  | .key _ _ => state
  | _ => state

/-! ## Polling -/

/-- What reading from the socket gives: nothing because of events that are
queued already, nothing because there is no data, more events, or an
error. -/
inductive SocketRead where
  | unavailable
  | wouldBlock
  | events (queued : List KeyboardEvent)
  | failed (reason : String)
  deriving DecidableEq, Repr

def dispatchPending (state : CaptureState) (queued : List KeyboardEvent) :
    CaptureState :=
  queued.foldl keyboardEvent state

/-- Poll for pending input events, when both dispatches succeed. -/
def pollEvents (_ : CaptureState) (queued : List KeyboardEvent)
    (read : SocketRead) : CaptureState × Except InputError (List InputEvent) :=
  let cleared : CaptureState := ⟨[]⟩
  let dispatched := dispatchPending cleared queued
  match read with
  | .unavailable => (dispatched, .ok dispatched.pendingEvents)
  | .wouldBlock => (dispatched, .ok dispatched.pendingEvents)
  | .events more =>
      let again := dispatchPending dispatched more
      (again, .ok again.pendingEvents)
  | .failed reason =>
      (dispatched, .error (.injectFailed ("wayland read: " ++ reason)))

/-- What happens to the capture state: a poll clears the events that the one
before has returned, or an event is dispatched. -/
inductive CaptureAction where
  | clear
  | dispatch (event : KeyboardEvent)
  deriving DecidableEq, Repr

/-- The capture state, with the events that polls have returned. -/
structure CaptureRun where
  state : CaptureState
  returned : List InputEvent
  deriving DecidableEq, Repr

def CaptureRun.perform (run : CaptureRun) : CaptureAction → CaptureRun
  | .clear => ⟨⟨[]⟩, run.returned ++ run.state.pendingEvents⟩
  | .dispatch event => { run with state := keyboardEvent run.state event }

def runAfter (actions : List CaptureAction) : CaptureRun :=
  actions.foldl CaptureRun.perform ⟨⟨[]⟩, []⟩

/-- The events that were emitted so far. -/
def emitted (actions : List CaptureAction) : List InputEvent :=
  (runAfter actions).returned ++ (runAfter actions).state.pendingEvents

/-- The events that are read from the socket. -/
def SocketRead.queued : SocketRead → List KeyboardEvent
  | .events more => more
  | _ => []

/-- The actions of a poll. -/
def pollActions (queued : List KeyboardEvent) (read : SocketRead) :
    List CaptureAction :=
  .clear :: (queued ++ read.queued).map .dispatch

theorem foldl_perform_dispatch (run : CaptureRun)
    (queued : List KeyboardEvent) :
    (queued.map CaptureAction.dispatch).foldl CaptureRun.perform run =
      { run with state := dispatchPending run.state queued } := by
  induction queued generalizing run with
  | nil => rfl
  | cons event queued inductionHypothesis =>
      rw [List.map_cons, List.foldl_cons, inductionHypothesis]
      rfl

/-- A poll goes through its actions, and returns the pending events unless
reading from the socket fails. -/
theorem pollEvents_actions (run : CaptureRun) (queued : List KeyboardEvent)
    (read : SocketRead) :
    (pollActions queued read).foldl CaptureRun.perform run =
        ⟨(pollEvents run.state queued read).1,
          run.returned ++ run.state.pendingEvents⟩ ∧
      ∀ slice, (pollEvents run.state queued read).2 = .ok slice →
        slice = (pollEvents run.state queued read).1.pendingEvents := by
  constructor
  · rw [pollActions, List.foldl_cons, foldl_perform_dispatch]
    cases read with
    | events more => simp [SocketRead.queued, pollEvents, dispatchPending,
        CaptureRun.perform]
    | _ => simp [SocketRead.queued, pollEvents, CaptureRun.perform]
  · intro slice returned
    cases read with
    | failed reason => cases returned
    | _ =>
        injection returned with same
        exact same.symm

/-! ## Emitted events -/

/-- The input that an event is captured as. -/
def KeyboardEvent.input? : KeyboardEvent → Option Input
  | .key code (some .released) => some (.key ⟨code, 0⟩)
  | .key code (some .pressed) => some (.key ⟨code, 1⟩)
  | _ => none

def CaptureAction.input? : CaptureAction → Option Input
  | .clear => none
  | .dispatch event => event.input?

theorem pendingEvents_keyboardEvent (state : CaptureState)
    (event : KeyboardEvent) :
    (keyboardEvent state event).pendingEvents =
      state.pendingEvents ++ event.input?.toList.map Input.event := by
  cases event with
  | key key state =>
      cases state with
      | none => simp [keyboardEvent, KeyboardEvent.input?]
      | some known =>
          cases known with
          | released => rfl
          | pressed => rfl
          | repeated => simp [keyboardEvent, KeyboardEvent.input?]
  | _ => simp [keyboardEvent, KeyboardEvent.input?]

/-- Polling does not change what is emitted. -/
theorem emitted_eq (actions : List CaptureAction) :
    emitted actions = (actions.filterMap (·.input?)).map Input.event := by
  induction actions using List.reverseRecOn with
  | nil => rfl
  | append_singleton actions action inductionHypothesis =>
      have step : runAfter (actions ++ [action]) =
          (runAfter actions).perform action := by
        simp [runAfter]
      rw [List.filterMap_append, List.map_append, ← inductionHypothesis,
        emitted, step, emitted]
      cases action with
      | clear => simp [CaptureRun.perform, CaptureAction.input?]
      | dispatch event =>
          rw [CaptureRun.perform, pendingEvents_keyboardEvent,
            ← List.append_assoc]
          cases input : event.input? with
          | none => simp [CaptureAction.input?, input]
          | some input' => simp [CaptureAction.input?, input]

end RemoteWay.Input
