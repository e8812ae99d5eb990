import RemoteWay.Display.Surface

/-!
# Display thread

`display_loop` keeps the newest frame of its ring and presents it on its
surface, which it creates or resizes first.  Every access to the ring and
every event of the compositor is a step of its own.  The loop ends with the
first error, after which there is no step.
-/

namespace RemoteWay.Display

open RemoteWay.Base

/-- A frame ready for display on a surface. -/
structure DisplayFrame where
  surfaceId : UInt16
  data : List UInt8
  damage : List DamageRegion
  width : UInt32
  height : UInt32
  stride : UInt32
  timestampNs : UInt64
  deriving DecidableEq, Repr

def DisplayFrame.picture (frame : DisplayFrame) : Picture :=
  ⟨frame.width, frame.height, frame.stride, frame.data⟩

/-- A frame with its number among the frames passed to `send_frame`, and the
frame before it. -/
structure Queued where
  seq : Nat
  previous : Option DisplayFrame
  frame : DisplayFrame
  deriving DecidableEq, Repr

/-- Where the loop is: dispatching events, draining the ring, waiting for
the compositor in `create_surface`, or about to present the frame. -/
inductive Phase where
  | dispatching
  | draining
  | creating
  | presenting
  deriving DecidableEq, Repr

/-- The ring and the state of the loop.  The rest is history: the frames
passed to `send_frame`, those popped, and those committed. -/
structure DisplayThread where
  ring : List Queued
  display : WaylandDisplay
  pendingFrame : Option Queued
  phase : Phase
  offered : List DisplayFrame
  popped : List Queued
  committed : List (Queued × Commit)

inductive DisplayAction where
  | sendFrame (frame : DisplayFrame)
  | dispatch (event : WaylandEvent)
  | pop
  | drained
  | created (memory : Nat → Except String Unit)
  | present (clock : Clock) (memory : Nat → Except String Unit)

/-- The default number of frames that the ring holds. -/
def ringCapacity : Nat := 4

/-- Resize the surface of a frame if its dimensions differ. -/
def resizeIfNeeded (profile : Profile) (memory : Nat → Except String Unit)
    (display : WaylandDisplay) (frame : DisplayFrame) :
    Exec (WaylandDisplay × Except DisplayError Unit) :=
  match display.getSurface frame.surfaceId with
  | none => .ok (display, .ok ())
  | some surface =>
      if surface.width ≠ frame.width ∨ surface.height ≠ frame.height then
        display.resizeSurface profile memory frame.surfaceId frame.width
          frame.height
      else
        .ok (display, .ok ())

namespace DisplayThread

def spawn : DisplayThread :=
  ⟨[], .new, none, .dispatching, [], [], []⟩

/-- Push a frame unless the ring is full. -/
def sendFrame (thread : DisplayThread) (capacity : Nat)
    (frame : DisplayFrame) : DisplayThread :=
  let next := { thread with offered := thread.offered ++ [frame] }
  if thread.ring.length < capacity then
    { next with
      ring := thread.ring ++
        [⟨thread.offered.length, thread.offered.getLast?, frame⟩] }
  else
    next

/-- The newest frame replaces the pending one. -/
def pop (thread : DisplayThread) : Option DisplayThread :=
  match thread.phase, thread.ring with
  | .dispatching, item :: ring | .draining, item :: ring =>
      some { thread with
        ring := ring
        pendingFrame := some item
        phase := .draining
        popped := thread.popped ++ [item] }
  | _, _ => none

/-- Make sure that the surface of the pending frame exists, if there is a
frame. -/
def ensureSurface (profile : Profile) (thread : DisplayThread) :
    Option DisplayThread :=
  match thread.pendingFrame with
  | none => some { thread with phase := .dispatching }
  | some item =>
      match thread.display.getSurface item.frame.surfaceId with
      | some _ => some { thread with phase := .presenting }
      | none =>
          match thread.display.addSurface profile item.frame.surfaceId
              item.frame.width item.frame.height with
          | .error _ => none
          | .ok display =>
              some { thread with display := display, phase := .creating }

/-- The loop has found the ring empty. -/
def drained (profile : Profile) (thread : DisplayThread) :
    Option DisplayThread :=
  match thread.phase, thread.ring with
  | .dispatching, [] | .draining, [] => thread.ensureSurface profile
  | _, _ => none

/-- The compositor has configured the new surface. -/
def created (memory : Nat → Except String Unit) (thread : DisplayThread) :
    Option DisplayThread :=
  match thread.phase, thread.pendingFrame with
  | .creating, some item =>
      match thread.display.initSurfaceUploader memory
          item.frame.surfaceId with
      | (display, .ok ()) =>
          some { thread with display := display, phase := .presenting }
      | (_, .error _) => none
  | _, _ => none

/-- Resize the surface if needed and present the pending frame.  A frame
that is not committed stays pending. -/
def present (profile : Profile) (clock : Clock)
    (memory : Nat → Except String Unit) (thread : DisplayThread) :
    Option DisplayThread :=
  match thread.phase, thread.pendingFrame with
  | .presenting, some item =>
      match resizeIfNeeded profile memory thread.display item.frame with
      | .ok (resized, .ok ()) =>
          match resized.presentFrame clock item.frame.surfaceId
              item.frame.data item.frame.damage with
          | (display, .ok (some commit)) =>
              some { thread with
                display := display
                pendingFrame := none
                phase := .dispatching
                committed := thread.committed ++ [(item, commit)] }
          | (display, .ok none) =>
              some { thread with display := display, phase := .dispatching }
          | (_, .error _) => none
      | _ => none
  | _, _ => none

def perform (profile : Profile) (capacity : Nat) (thread : DisplayThread) :
    DisplayAction → Option DisplayThread
  | .sendFrame frame => some (thread.sendFrame capacity frame)
  | .dispatch event =>
      match thread.phase with
      | .dispatching | .creating =>
          some { thread with display := thread.display.dispatch event }
      | _ => none
  | .pop => thread.pop
  | .drained => thread.drained profile
  | .created memory => thread.created memory
  | .present clock memory => thread.present profile clock memory

/-- The steps of the thread. -/
abbrev Step (profile : Profile) (capacity : Nat) (before : DisplayThread)
    (action : DisplayAction) (after : DisplayThread) : Prop :=
  before.perform profile capacity action = some after

/-! ## What a step can do -/

variable {profile : Profile} {capacity : Nat}
variable {before after : DisplayThread}

theorem perform_sendFrame {frame : DisplayFrame}
    (performed : before.perform profile capacity (.sendFrame frame) =
      some after) :
    (before.ring.length < capacity ∧
        after =
          { before with
            offered := before.offered ++ [frame]
            ring := before.ring ++
              [⟨before.offered.length, before.offered.getLast?,
                frame⟩] }) ∨
      (capacity ≤ before.ring.length ∧
        after = { before with offered := before.offered ++ [frame] }) := by
  injection performed with same
  rw [← same, sendFrame]
  by_cases free : before.ring.length < capacity
  · exact Or.inl ⟨free, if_pos free⟩
  · exact Or.inr ⟨Nat.le_of_not_lt free, if_neg free⟩

theorem perform_dispatch {event : WaylandEvent}
    (performed : before.perform profile capacity (.dispatch event) =
      some after) :
    (before.phase = .dispatching ∨ before.phase = .creating) ∧
      after =
        { before with display := before.display.dispatch event } := by
  rw [perform] at performed
  cases phase : before.phase with
  | dispatching =>
      rw [phase] at performed
      injection performed with same
      exact ⟨Or.inl rfl, same.symm⟩
  | creating =>
      rw [phase] at performed
      injection performed with same
      exact ⟨Or.inr rfl, same.symm⟩
  | draining =>
      rw [phase] at performed
      cases performed
  | presenting =>
      rw [phase] at performed
      cases performed

theorem perform_pop
    (performed : before.perform profile capacity .pop = some after) :
    ∃ item ring, before.ring = item :: ring ∧
      after =
        { before with
          ring := ring
          pendingFrame := some item
          phase := .draining
          popped := before.popped ++ [item] } := by
  rw [perform, pop] at performed
  cases queued : before.ring with
  | nil =>
      rw [queued] at performed
      cases phase : before.phase <;> rw [phase] at performed <;>
        cases performed
  | cons item ring =>
      rw [queued] at performed
      refine ⟨item, ring, rfl, ?_⟩
      cases phase : before.phase with
      | dispatching | draining =>
          rw [phase] at performed
          injection performed with same
          exact same.symm
      | creating | presenting =>
          rw [phase] at performed
          cases performed

theorem perform_drained
    (performed : before.perform profile capacity .drained = some after) :
    before.ring = [] ∧
      ((before.pendingFrame = none ∧
          after = { before with phase := .dispatching }) ∨
        ∃ item, before.pendingFrame = some item ∧
          (((∃ surface, before.display.getSurface item.frame.surfaceId =
                some surface) ∧
              after = { before with phase := .presenting }) ∨
            ∃ display,
              before.display.getSurface item.frame.surfaceId = none ∧
              before.display.addSurface profile item.frame.surfaceId
                  item.frame.width item.frame.height = .ok display ∧
              after =
                { before with
                  display := display
                  phase := .creating })) := by
  obtain ⟨empty, continues⟩ : before.ring = [] ∧
      before.ensureSurface profile = some after := by
    rw [perform, drained] at performed
    cases queued : before.ring with
    | nil =>
        rw [queued] at performed
        refine ⟨rfl, ?_⟩
        cases phase : before.phase with
        | dispatching | draining =>
            rw [phase] at performed
            exact performed
        | creating | presenting =>
            rw [phase] at performed
            cases performed
    | cons item ring =>
        rw [queued] at performed
        cases phase : before.phase <;> rw [phase] at performed <;>
          cases performed
  refine ⟨empty, ?_⟩
  rw [ensureSurface] at continues
  cases pending : before.pendingFrame with
  | none =>
      rw [pending] at continues
      injection continues with same
      exact Or.inl ⟨rfl, same.symm⟩
  | some item =>
      rw [pending] at continues
      dsimp only at continues
      refine Or.inr ⟨item, rfl, ?_⟩
      cases found : before.display.getSurface item.frame.surfaceId with
      | some surface =>
          rw [found] at continues
          injection continues with same
          exact Or.inl ⟨⟨surface, rfl⟩, same.symm⟩
      | none =>
          rw [found] at continues
          dsimp only at continues
          cases added : before.display.addSurface profile
              item.frame.surfaceId item.frame.width item.frame.height with
          | error panic =>
              rw [added] at continues
              cases continues
          | ok display =>
              rw [added] at continues
              injection continues with same
              exact Or.inr ⟨display, rfl, rfl, same.symm⟩

theorem perform_created {memory : Nat → Except String Unit}
    (performed : before.perform profile capacity (.created memory) =
      some after) :
    ∃ item display, before.pendingFrame = some item ∧
      before.display.initSurfaceUploader memory item.frame.surfaceId =
        (display, .ok ()) ∧
      after =
        { before with display := display, phase := .presenting } := by
  rw [perform, created] at performed
  cases phase : before.phase with
  | dispatching | draining | presenting =>
      rw [phase] at performed
      cases performed
  | creating =>
      rw [phase] at performed
      cases pending : before.pendingFrame with
      | none =>
          rw [pending] at performed
          cases performed
      | some item =>
          rw [pending] at performed
          dsimp only at performed
          refine ⟨item, ?_⟩
          cases answer : before.display.initSurfaceUploader memory
              item.frame.surfaceId with
          | mk display result =>
              rw [answer] at performed
              cases result with
              | error reason => cases performed
              | ok done =>
                  injection performed with same
                  exact ⟨display, rfl, rfl, same.symm⟩

theorem perform_present {clock : Clock}
    {memory : Nat → Except String Unit}
    (performed : before.perform profile capacity (.present clock memory) =
      some after) :
    ∃ item resized display outcome, before.pendingFrame = some item ∧
      resizeIfNeeded profile memory before.display item.frame =
        .ok (resized, .ok ()) ∧
      resized.presentFrame clock item.frame.surfaceId item.frame.data
          item.frame.damage = (display, .ok outcome) ∧
      ((outcome = none ∧
          after =
            { before with display := display, phase := .dispatching }) ∨
        ∃ commit, outcome = some commit ∧
          after =
            { before with
              display := display
              pendingFrame := none
              phase := .dispatching
              committed := before.committed ++ [(item, commit)] }) := by
  rw [perform, present] at performed
  cases phase : before.phase with
  | dispatching | draining | creating =>
      rw [phase] at performed
      cases performed
  | presenting =>
      rw [phase] at performed
      cases pending : before.pendingFrame with
      | none =>
          rw [pending] at performed
          cases performed
      | some item =>
          rw [pending] at performed
          dsimp only at performed
          refine ⟨item, ?_⟩
          split at performed
          · rename_i resized resizing
            refine ⟨resized, ?_⟩
            cases answer : resized.presentFrame clock item.frame.surfaceId
                item.frame.data item.frame.damage with
            | mk display result =>
                rw [answer] at performed
                cases result with
                | error reason => cases performed
                | ok outcome =>
                    refine ⟨display, outcome, rfl, resizing, rfl, ?_⟩
                    cases outcome with
                    | none =>
                        injection performed with same
                        exact Or.inl ⟨rfl, same.symm⟩
                    | some commit =>
                        injection performed with same
                        exact Or.inr ⟨commit, rfl, same.symm⟩
          · cases performed

end DisplayThread

end RemoteWay.Display
