import RemoteWay.Capture.Backend
import RemoteWay.Compress.Coverage

/-!
# Capture thread

`capture_loop` pushes the frames of the backend into a ring that the
compress thread pops, drops those that arrive too early, and sets
`frames_dropped` after a push that found the ring full.  Every access to the
ring or to the flag is a step of its own.  When the rate limiter drops a
frame is left open.
-/

namespace RemoteWay.Capture

open RemoteWay.Compress

/-- A frame with its number among the frames of the backend. -/
structure Returned where
  seq : Nat
  frame : CapturedFrame
  deriving DecidableEq, Repr

/-- What the two threads share, and where the capture thread is: `storing`
is the number of the frame whose push failed while the flag is still to be
set.  The rest is history: the frame the backend returned last, how many
there were, the last frame pushed, and the drops the flag was set for. -/
structure CaptureThread where
  ring : List Returned
  framesDropped : Bool
  storing : Option Nat
  latest : Option CapturedFrame
  returned : Nat
  pushed : Option Returned
  flagged : List Nat
  deriving DecidableEq, Repr

/-- The default number of frames that the ring holds. -/
def ringCapacity : Nat := 4

/-- A step of `capture_loop`: the rate limiter drops the next frame, the
next frame is pushed, or the flag is set for a push that failed. -/
inductive CaptureAction where
  | limit (frame : CapturedFrame)
  | push (frame : CapturedFrame)
  | storeDropped
  deriving DecidableEq, Repr

namespace CaptureThread

def spawn : CaptureThread := ⟨[], false, none, none, 0, none, []⟩

/-- The backend returns a frame. -/
def nextFrame (thread : CaptureThread) (frame : CapturedFrame) :
    CaptureThread :=
  { thread with latest := some frame, returned := thread.returned + 1 }

/-- Push a frame.  If the ring is full, the flag is still to be set. -/
def push (thread : CaptureThread) (capacity : Nat) (frame : CapturedFrame) :
    CaptureThread :=
  let next := thread.nextFrame frame
  let item : Returned := ⟨thread.returned, frame⟩
  if thread.ring.length < capacity then
    { next with ring := thread.ring ++ [item], pushed := some item }
  else
    { next with storing := some thread.returned }

def captureStep (capacity : Nat) (thread : CaptureThread) :
    CaptureAction → Option CaptureThread
  | .limit frame =>
      match thread.storing with
      | none => some (thread.nextFrame frame)
      | some _ => none
  | .push frame =>
      match thread.storing with
      | none => some (thread.push capacity frame)
      | some _ => none
  | .storeDropped =>
      match thread.storing with
      | none => none
      | some seq =>
          some { thread with
            framesDropped := true
            storing := none
            flagged := thread.flagged ++ [seq] }

/-- Try to read the next captured frame. -/
def tryRecv (thread : CaptureThread) : Option Returned × CaptureThread :=
  match thread.ring with
  | [] => (none, thread)
  | item :: ring => (some item, { thread with ring := ring })

/-- Read the flag and clear it. -/
def takeDroppedFlag (thread : CaptureThread) : Bool × CaptureThread :=
  (thread.framesDropped, { thread with framesDropped := false })

/-! ## What a step can do -/

variable {capacity : Nat} {before after : CaptureThread}

theorem captureStep_limit {frame : CapturedFrame}
    (stepped : before.captureStep capacity (.limit frame) = some after) :
    before.storing = none ∧ after = before.nextFrame frame := by
  rw [captureStep] at stepped
  cases idle : before.storing with
  | none =>
      rw [idle] at stepped
      injection stepped with same
      exact ⟨rfl, same.symm⟩
  | some seq =>
      rw [idle] at stepped
      cases stepped

theorem captureStep_push {frame : CapturedFrame}
    (stepped : before.captureStep capacity (.push frame) = some after) :
    before.storing = none ∧
      ((before.ring.length < capacity ∧
          after =
            { before.nextFrame frame with
              ring := before.ring ++ [⟨before.returned, frame⟩]
              pushed := some ⟨before.returned, frame⟩ }) ∨
        (capacity ≤ before.ring.length ∧
          after =
            { before.nextFrame frame with
              storing := some before.returned })) := by
  rw [captureStep] at stepped
  cases idle : before.storing with
  | none =>
      rw [idle] at stepped
      injection stepped with same
      refine ⟨rfl, ?_⟩
      rw [← same, push]
      by_cases free : before.ring.length < capacity
      · exact Or.inl ⟨free, if_pos free⟩
      · exact Or.inr ⟨Nat.le_of_not_lt free, if_neg free⟩
  | some seq =>
      rw [idle] at stepped
      cases stepped

theorem captureStep_storeDropped
    (stepped : before.captureStep capacity .storeDropped = some after) :
    ∃ seq, before.storing = some seq ∧
      after =
        { before with
          framesDropped := true
          storing := none
          flagged := before.flagged ++ [seq] } := by
  rw [captureStep] at stepped
  cases storing : before.storing with
  | none =>
      rw [storing] at stepped
      cases stepped
  | some seq =>
      rw [storing] at stepped
      injection stepped with same
      exact ⟨seq, rfl, same.symm⟩

theorem tryRecv_eq (thread : CaptureThread) :
    (thread.ring = [] ∧ thread.tryRecv = (none, thread)) ∨
      ∃ item ring, thread.ring = item :: ring ∧
        thread.tryRecv = (some item, { thread with ring := ring }) := by
  rw [tryRecv]
  cases held : thread.ring with
  | nil => exact Or.inl ⟨rfl, rfl⟩
  | cons item ring => exact Or.inr ⟨item, ring, rfl, rfl⟩

/-! ## The invariant of the thread -/

/-- No frame was dropped on a full ring after the given one. -/
def NoneDroppedSince (thread : CaptureThread) (item : Returned) : Prop :=
  ∀ seq, seq ∈ thread.flagged → seq ≤ item.seq

instance (thread : CaptureThread) (item : Returned) :
    Decidable (thread.NoneDroppedSince item) :=
  inferInstanceAs (Decidable (∀ seq, seq ∈ thread.flagged → _))

/-- The damage contains exactly the pixels in which the frame differs from
the one before it. -/
def DamageExact (geometry : Geometry) (frame previous : CapturedFrame) :
    Prop :=
  ∀ x, x < geometry.width.toNat → ∀ y, y < geometry.height.toNat →
    ((∃ rect, rect ∈ frame.damage ∧ rect.Contains x y) ↔
      geometry.PixelDiffers frame.data previous.data x y)

instance (geometry : Geometry) (frame previous : CapturedFrame) :
    Decidable (DamageExact geometry frame previous) :=
  inferInstanceAs (Decidable (∀ x, x < _ → ∀ y, y < _ → (_ ↔ _)))

theorem DamageExact.covers {geometry : Geometry}
    {frame previous : CapturedFrame}
    (damage : DamageExact geometry frame previous) :
    Covers geometry frame.damage frame.data previous.data :=
  fun x y xBound yBound differs =>
    (damage x xBound y yBound).mpr differs

/-- The rate limiter drops frames that show the picture of the frame before
them.  After a drop on a full ring it may drop any frame. -/
def LimitsUnchanged (geometry : Geometry) (thread : CaptureThread) :
    CaptureAction → Prop
  | .limit frame =>
      ∀ item, item ∈ thread.pushed → thread.NoneDroppedSince item →
        ∀ previous, previous ∈ thread.latest →
          geometry.SamePicture frame.data previous.data
  | _ => True

instance (geometry : Geometry) (thread : CaptureThread) :
    ∀ action, Decidable (thread.LimitsUnchanged geometry action)
  | .limit _ =>
      inferInstanceAs (Decidable (∀ item, item ∈ thread.pushed → _))
  | .push _ => isTrue trivial
  | .storeDropped => isTrue trivial

/-- The history is numbered in order, and the frame before the next one
shows the frame pushed last unless a full ring dropped one after it. -/
structure Tracked (geometry : Geometry) (thread : CaptureThread) :
    Prop where
  pushed : ∀ item, item ∈ thread.pushed → item.seq < thread.returned
  flagged : ∀ seq, seq ∈ thread.flagged → seq < thread.returned
  storing : ∀ seq, seq ∈ thread.storing → seq < thread.returned ∧
    ∀ item, item ∈ thread.pushed → item.seq < seq
  latest : thread.storing = none →
    ∀ item, item ∈ thread.pushed → thread.NoneDroppedSince item →
      ∃ frame, frame ∈ thread.latest ∧
        geometry.SamePicture frame.data item.frame.data

variable {geometry : Geometry}

theorem tracked_spawn : spawn.Tracked geometry where
  pushed := by
    intro item member
    cases member
  flagged := by
    intro seq member
    cases member
  storing := by
    intro seq member
    cases member
  latest := by
    intro _ item member
    cases member

theorem Tracked.captureStep {action : CaptureAction}
    (tracked : before.Tracked geometry)
    (stepped : before.captureStep capacity action = some after)
    (limits : before.LimitsUnchanged geometry action) :
    after.Tracked geometry := by
  cases action with
  | limit frame =>
      obtain ⟨idle, rfl⟩ := captureStep_limit stepped
      exact
        { pushed := fun item member =>
            Nat.lt_succ_of_lt (tracked.pushed item member)
          flagged := fun seq member =>
            Nat.lt_succ_of_lt (tracked.flagged seq member)
          storing := by
            intro seq member
            obtain ⟨bound, later⟩ := tracked.storing seq member
            exact ⟨Nat.lt_succ_of_lt bound, later⟩
          latest := by
            intro _ item member none
            obtain ⟨previous, latest, same⟩ :=
              tracked.latest idle item member none
            exact ⟨frame, rfl,
              (limits item member none previous latest).trans same⟩ }
  | push frame =>
      obtain ⟨idle, ⟨_, rfl⟩ | ⟨_, rfl⟩⟩ := captureStep_push stepped
      · exact
          { pushed := by
              intro item member
              injection member with same
              rw [← same]
              exact Nat.lt_succ_self _
            flagged := fun seq member =>
              Nat.lt_succ_of_lt (tracked.flagged seq member)
            storing := by
              intro seq member
              change seq ∈ before.storing at member
              rw [idle] at member
              cases member
            latest := by
              intro _ item member _
              injection member with same
              rw [← same]
              exact ⟨frame, rfl, .refl _⟩ }
      · exact
          { pushed := fun item member =>
              Nat.lt_succ_of_lt (tracked.pushed item member)
            flagged := fun seq member =>
              Nat.lt_succ_of_lt (tracked.flagged seq member)
            storing := by
              intro seq member
              injection member with same
              rw [← same]
              exact ⟨Nat.lt_succ_self _, tracked.pushed⟩
            latest := by
              intro impossible
              cases impossible }
  | storeDropped =>
      obtain ⟨dropped, storing, rfl⟩ := captureStep_storeDropped stepped
      obtain ⟨bound, later⟩ := tracked.storing dropped storing
      exact
        { pushed := tracked.pushed
          flagged := by
            intro seq member
            rcases List.mem_append.mp member with earlier | last
            · exact tracked.flagged seq earlier
            · rw [List.mem_singleton.mp last]
              exact bound
          storing := by
            intro seq member
            cases member
          latest := by
            intro _ item member none
            have early : dropped ≤ item.seq :=
              none dropped (List.mem_append.mpr (Or.inr
                (List.mem_singleton.mpr rfl)))
            have late := later item member
            omega }

/-- The damage of the next frame covers what changed since the last push. -/
theorem Tracked.covers (tracked : before.Tracked geometry)
    (idle : before.storing = none) {item : Returned}
    (member : item ∈ before.pushed)
    (none : before.NoneDroppedSince item) {frame : CapturedFrame}
    (damage : ∀ previous, previous ∈ before.latest →
      DamageExact geometry frame previous) :
    Covers geometry frame.damage frame.data item.frame.data := by
  obtain ⟨previous, latest, same⟩ := tracked.latest idle item member none
  exact (damage previous latest).covers.of_samePicture same

end CaptureThread

end RemoteWay.Capture
