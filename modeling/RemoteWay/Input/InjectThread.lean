import RemoteWay.Input.Inject

/-!
# Inject thread

The receive path pushes events into a bounded ring, and `inject_loop` pops
and dispatches them.  An event that finds the ring full is dropped.
-/

namespace RemoteWay.Input

open RemoteWay.Base RemoteWay.Proto

/-- The ring, the event that was popped but not yet dispatched, and the
history: the events that were handed to `send`, each with its answer, and
the events that were dispatched. -/
structure InjectThread where
  ring : List InputEvent
  popped : Option InputEvent
  handed : List (InputEvent × Bool)
  dispatched : List InputEvent
  deriving DecidableEq, Repr

/-- The default number of events that the ring holds. -/
def ringCapacity : Nat := 256

namespace InjectThread

def spawn : InjectThread := ⟨[], none, [], []⟩

/-- Push an event into the ring, unless it is full. -/
def send (thread : InjectThread) (capacity : Nat) (event : InputEvent) :
    InjectThread :=
  if thread.ring.length < capacity then
    { thread with
      ring := thread.ring ++ [event]
      handed := thread.handed ++ [(event, true)] }
  else
    { thread with handed := thread.handed ++ [(event, false)] }

/-- `inject_loop` pops the next event. -/
def pop (thread : InjectThread) : Option InjectThread :=
  match thread.popped, thread.ring with
  | none, event :: ring =>
      some { thread with ring := ring, popped := some event }
  | _, _ => none

/-- `inject_loop` dispatches the popped event.  An event that does not
decode is passed over with a warning. -/
def dispatch (thread : InjectThread) : Option InjectThread :=
  thread.popped.map fun event =>
    { thread with
      popped := none
      dispatched := thread.dispatched ++ [event] }

/-- The requests of the virtual devices so far. -/
def requests (thread : InjectThread) : List DeviceRequest :=
  thread.dispatched.flatMap fun event =>
    match dispatchEvent event with
    | .ok requests => requests
    | .error _ => []

/-- The events that went into the ring. -/
def accepted (thread : InjectThread) : List InputEvent :=
  (thread.handed.filter Prod.snd).map Prod.fst

/-- The accepted events are dispatched, popped or in the ring, in order. -/
def Accounted (thread : InjectThread) : Prop :=
  thread.accepted =
    thread.dispatched ++ (thread.popped.toList ++ thread.ring)

theorem accounted_spawn : spawn.Accounted := rfl

variable {before after : InjectThread}

/-- Every event is handed over, whether or not there is room for it. -/
theorem handed_send (capacity : Nat) (event : InputEvent) :
    (before.send capacity event).handed.map Prod.fst =
      before.handed.map Prod.fst ++ [event] := by
  rw [InjectThread.send]
  by_cases free : before.ring.length < capacity
  · rw [if_pos free]
    simp
  · rw [if_neg free]
    simp

theorem Accounted.send (accounted : before.Accounted) (capacity : Nat)
    (event : InputEvent) : (before.send capacity event).Accounted := by
  rw [Accounted, accepted] at accounted
  rw [InjectThread.send]
  by_cases free : before.ring.length < capacity
  · rw [if_pos free, Accounted, accepted]
    dsimp only
    rw [List.filter_append, List.map_append, accounted]
    simp
  · rw [if_neg free, Accounted, accepted]
    dsimp only
    rw [List.filter_append, List.map_append, accounted]
    simp

/-- Popping takes the first event of the ring. -/
theorem pop_eq_some (popped : before.pop = some after) :
    before.popped = none ∧ ∃ event, before.ring = event :: after.ring ∧
      after = { before with ring := after.ring, popped := some event } := by
  rw [pop] at popped
  cases idle : before.popped with
  | some event =>
      rw [idle] at popped
      cases popped
  | none =>
      cases ring : before.ring with
      | nil =>
          rw [idle, ring] at popped
          cases popped
      | cons event rest =>
          rw [idle, ring] at popped
          injection popped with same
          refine ⟨rfl, event, ?_, ?_⟩
          · rw [← same]
          · rw [← same]

theorem Accounted.pop (accounted : before.Accounted)
    (popped : before.pop = some after) : after.Accounted := by
  obtain ⟨idle, event, ring, same⟩ := pop_eq_some popped
  rw [Accounted, idle, ring] at accounted
  rw [same]
  exact accounted

theorem Accounted.dispatch (accounted : before.Accounted)
    (dispatched : before.dispatch = some after) : after.Accounted := by
  obtain ⟨event, popped, same⟩ := Option.map_eq_some_iff.mp dispatched
  rw [Accounted, popped] at accounted
  rw [← same, Accounted]
  dsimp only
  rw [List.append_assoc]
  exact accounted

end InjectThread

end RemoteWay.Input
