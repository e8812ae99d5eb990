import RemoteWay.Base.Histories
import RemoteWay.Input.Capture
import RemoteWay.System.HeldKeys

/-!
# Losing the keyboard focus

A key that is pressed and not released before the focus leaves is not
released by the client, since the compositor sends no release for it.
-/

namespace RemoteWay.System

open RemoteWay.Base RemoteWay.Proto RemoteWay.Input

/-- The key is held down on the virtual keyboard after what was emitted is
replayed. -/
def heldAfter (actions : List CaptureAction) (key : UInt32) : Bool :=
  heldOnDevice (replay (emitted actions)) (.key key)

/-- When the focus leaves, no key is held down. -/
def ReleasedOnLeave (earlier : List CaptureAction) : CaptureAction → Prop
  | .dispatch .leave =>
      ∀ key, heldAfter (earlier ++ [.dispatch .leave]) key = false
  | _ => True

/-! ## Keys that are down -/

/-- The keys that were pressed and not released since the focus left. -/
def downStep (down : List UInt32) : CaptureAction → List UInt32
  | .dispatch (.key key (some .pressed)) => key :: down
  | .dispatch (.key key (some .released)) => down.filter (· ≠ key)
  | .dispatch .leave => []
  | _ => down

section DownStep

variable (down : List UInt32) (key : UInt32)

@[simp]
theorem downStep_leave : downStep down (.dispatch .leave) = [] := rfl

@[simp]
theorem downStep_pressed :
    downStep down (.dispatch (.key key (some .pressed))) = key :: down := rfl

@[simp]
theorem downStep_released :
    downStep down (.dispatch (.key key (some .released))) =
      down.filter (· ≠ key) := rfl

end DownStep

def keysDown (actions : List CaptureAction) : List UInt32 :=
  actions.foldl downStep []

/-- The focus leaves only while no key is down that was pressed before. -/
def NoneDownOnLeave (earlier : List CaptureAction) : CaptureAction → Prop
  | .dispatch .leave => keysDown earlier = []
  | _ => True

theorem keysDown_concat (actions : List CaptureAction)
    (action : CaptureAction) :
    keysDown (actions ++ [action]) = downStep (keysDown actions) action := by
  simp [keysDown]

theorem heldAfter_eq (actions : List CaptureAction) (key : UInt32) :
    heldAfter actions key =
      heldBy (actions.filterMap (·.input?)) (.key key) := by
  rw [heldAfter, emitted_eq, heldOnDevice_replay]

/-- An action that no input is captured of changes nothing. -/
theorem heldAfter_concat_none (actions : List CaptureAction)
    {action : CaptureAction} (nothing : action.input? = none)
    (key : UInt32) :
    heldAfter (actions ++ [action]) key = heldAfter actions key := by
  rw [heldAfter_eq, heldAfter_eq]
  simp [nothing]

/-- A press or release sets its key. -/
theorem heldAfter_concat_some (actions : List CaptureAction)
    {action : CaptureAction} {input : Input} {code : UInt32} {pressed : Bool}
    (captured : action.input? = some input)
    (stroke : inputStroke input = some (.key code, pressed)) (key : UInt32) :
    heldAfter (actions ++ [action]) key =
      if key = code then pressed else heldAfter actions key := by
  have inputs : (actions ++ [action]).filterMap (·.input?) =
      actions.filterMap (·.input?) ++ [input] := by
    simp [captured]
  have strokes : (actions.filterMap (·.input?) ++ [input]).filterMap
        inputStroke =
      (actions.filterMap (·.input?)).filterMap inputStroke ++
        [(.key code, pressed)] := by
    rw [List.filterMap_append]
    simp [stroke]
  rw [heldAfter_eq, heldAfter_eq, inputs, heldBy, strokes, assignAll_concat,
    Function.update_apply, ← heldBy]
  simp

/-- What is held down are the keys that are down. -/
def HoldsKeysDown (actions : List CaptureAction) : Prop :=
  ∀ key, heldAfter actions key = decide (key ∈ keysDown actions)

variable {earlier : List CaptureAction}

theorem holdsKeysDown_concat {action : CaptureAction}
    (holds : HoldsKeysDown earlier) (released : ReleasedOnLeave earlier action) :
    HoldsKeysDown (earlier ++ [action]) := by
  intro key
  rw [keysDown_concat]
  have unchanged (nothing : action.input? = none)
      (same : downStep (keysDown earlier) action = keysDown earlier) :
      heldAfter (earlier ++ [action]) key =
        decide (key ∈ downStep (keysDown earlier) action) := by
    rw [heldAfter_concat_none earlier nothing, same]
    exact holds key
  cases action with
  | clear => exact unchanged rfl rfl
  | dispatch event =>
      cases event with
      | enter keys => exact unchanged rfl rfl
      | other => exact unchanged rfl rfl
      | leave =>
          rw [released key, downStep_leave]
          simp
      | key code state =>
          cases state with
          | none => exact unchanged rfl rfl
          | some known =>
              cases known with
              | repeated => exact unchanged rfl rfl
              | released =>
                  rw [heldAfter_concat_some earlier rfl rfl, holds]
                  by_cases same : key = code
                  · simp [same]
                  · simp [same]
              | pressed =>
                  rw [heldAfter_concat_some earlier rfl rfl, holds]
                  by_cases same : key = code
                  · simp [same]
                  · simp [same]

theorem releasedOnLeave_iff (action : CaptureAction)
    (holds : HoldsKeysDown earlier) :
    ReleasedOnLeave earlier action ↔ NoneDownOnLeave earlier action := by
  cases action with
  | clear => exact Iff.rfl
  | dispatch event =>
      cases event with
      | leave =>
          rw [ReleasedOnLeave, NoneDownOnLeave,
            List.eq_nil_iff_forall_not_mem]
          apply forall_congr'
          intro key
          rw [heldAfter_concat_none earlier rfl, holds,
            decide_eq_false_iff_not]
      | _ => exact Iff.rfl

/-- Whatever the keyboard sends and whenever events are polled: each time the
focus leaves, no key is held down on the virtual keyboard, exactly if each
time no key is down that was pressed before. -/
theorem each_releasedOnLeave_iff (actions : List CaptureAction) :
    EachStep ReleasedOnLeave actions ↔ EachStep NoneDownOnLeave actions := by
  have initially : HoldsKeysDown [] := fun key => rfl
  exact eachStep_safe_iff initially
    (fun _ _ holds released => holdsKeysDown_concat holds released)
    fun _ action holds => releasedOnLeave_iff action holds

/-- A shortcut takes the focus away while its key is down. -/
theorem not_each_releasedOnLeave_shortcut :
    ¬EachStep ReleasedOnLeave
      [.clear, .dispatch (.enter []), .dispatch (.key 125 (some .pressed)),
        .clear, .dispatch .leave] := by
  intro each
  have released := each [.clear, .dispatch (.enter []),
    .dispatch (.key 125 (some .pressed)), .clear] (.dispatch .leave)
      List.prefix_rfl
  have held : heldAfter [.clear, .dispatch (.enter []),
      .dispatch (.key 125 (some .pressed)), .clear, .dispatch .leave] 125 =
        true := by
    rw [heldAfter_eq]
    decide
  have notHeld := released 125
  rw [List.cons_append, List.cons_append, List.cons_append,
    List.cons_append, List.nil_append, held] at notHeld
  cases notHeld

end RemoteWay.System
