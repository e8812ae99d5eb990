import RemoteWay.Display.ResizeGeometry

/-!
# Viewports

The compositor scales a surface to the destination of its viewport.  The
destination is computed when the compositor configures the window, from the
size of the contents at that time, and a resize of the contents leaves it.
-/

namespace RemoteWay.Display

open RemoteWay.Base

/-! ## The destination -/

/-- The largest rectangle in the window with the aspect ratio of the
source. -/
def fitPreserveAspect (profile : Profile) (srcW srcH : UInt32)
    (dstW dstH : Int32) : Exec (Int32 × Int32) :=
  if srcW = 0 ∨ srcH = 0 then
    .ok (dstW, dstH)
  else do
    let lhs ← u64Mul profile srcW.toUInt64 dstH.toInt64.toUInt64
    let rhs ← u64Mul profile dstW.toInt64.toUInt64 srcH.toUInt64
    if lhs ≤ rhs then
      let product ← u64Mul profile dstH.toInt64.toUInt64 srcW.toUInt64
      let fittedW := (product / srcH.toUInt64).toUInt32.toInt32
      return (max fittedW 1, dstH)
    else
      let product ← u64Mul profile dstW.toInt64.toUInt64 srcH.toUInt64
      let fittedH := (product / srcW.toUInt64).toUInt32.toInt32
      return (dstW, max fittedH 1)

/-- The surfaces, whether they have a viewport, and the last destination it
was given.  The last positive size of a window is what the compositor knows;
nothing here reads it. -/
structure ViewportDisplay where
  display : WaylandDisplay
  hasViewport : UInt16 → Bool
  destination : UInt16 → Option (Int32 × Int32)
  window : UInt16 → Option (Int32 × Int32)

inductive WindowEvent where
  | configure (surfaceId : UInt16) (width height : Int32)
  | resize (surfaceId : UInt16) (width height : UInt32)
      (memory : Nat → Except String Unit)

namespace ViewportDisplay

/-- Surfaces whose windows have no size yet. -/
def unsized (display : WaylandDisplay) (hasViewport : UInt16 → Bool) :
    ViewportDisplay :=
  ⟨display, hasViewport, fun _ => none, fun _ => none⟩

/-- Handle `xdg_toplevel::Event::Configure`. -/
def configureToplevel (profile : Profile) (state : ViewportDisplay)
    (surfaceId : UInt16) (width height : Int32) : Exec ViewportDisplay :=
  if 0 < width ∧ 0 < height then
    let state := { state with
      window := Function.update state.window surfaceId
        (some (width, height)) }
    match state.display.getSurface surfaceId with
    | none => .ok state
    | some surface =>
        if state.hasViewport surfaceId then do
          let fitted ← fitPreserveAspect profile surface.width
            surface.height width height
          return { state with
            destination := Function.update state.destination surfaceId
              (some fitted) }
        else
          .ok state
  else
    .ok state

/-- An event, or a call whose result is not looked at. -/
def perform (profile : Profile) (state : ViewportDisplay) :
    WindowEvent → Exec ViewportDisplay
  | .configure surfaceId width height =>
      state.configureToplevel profile surfaceId width height
  | .resize surfaceId width height memory => do
      let (display, _) ← state.display.resizeSurface profile memory surfaceId
        width height
      return { state with display := display }

def Step (profile : Profile) (before : ViewportDisplay) (event : WindowEvent)
    (after : ViewportDisplay) : Prop :=
  before.perform profile event = .ok after

/-- Each viewport has the destination that fits the contents into the
window. -/
def MatchesWindow (profile : Profile) (state : ViewportDisplay) : Prop :=
  ∀ surfaceId surface window,
    state.display.getSurface surfaceId = some surface →
    state.hasViewport surfaceId = true →
    state.window surfaceId = some window →
      ∃ fitted, state.destination surfaceId = some fitted ∧
        fitPreserveAspect profile surface.width surface.height window.1
          window.2 = .ok fitted

/-- A resize after the window has a size does not change what fits. -/
def KeepsFit (profile : Profile) (before : ViewportDisplay) :
    WindowEvent → Prop
  | .configure _ _ _ => True
  | .resize surfaceId width height _ => ∀ surface window,
      before.display.getSurface surfaceId = some surface →
      before.hasViewport surfaceId = true →
      before.window surfaceId = some window →
        fitPreserveAspect profile width height window.1 window.2 =
          fitPreserveAspect profile surface.width surface.height window.1
            window.2

end ViewportDisplay

/-! ## What a resize changes -/

namespace WaylandDisplay

variable {display after : WaylandDisplay} {surfaceId other : UInt16}
variable {profile : Profile} {memory : Nat → Except String Unit}
variable {width height : UInt32} {result : Except DisplayError Unit}

/-- Also when the uploader is refused, the surface has the new
dimensions. -/
theorem getSurface_resizeSurface {surface : ManagedSurface}
    (found : display.getSurface surfaceId = some surface)
    (done : display.resizeSurface profile memory surfaceId width height =
      .ok (after, result)) :
    ∃ resized, after.getSurface surfaceId = some resized ∧
      resized.width = width ∧ resized.height = height := by
  have here := surfaceId_of_getSurface found
  rcases resizeSurface_cases found done with
    ⟨⟨rfl, rfl⟩, rfl, _⟩ | ⟨_, ⟨_, _, rfl⟩ | ⟨_, _, rfl⟩⟩
  · exact ⟨surface, found, rfl, rfl⟩
  · exact ⟨_, getSurface_modifySurface _ found here, rfl, rfl⟩
  · exact ⟨_, getSurface_modifySurface _ found here, rfl, rfl⟩

theorem resizeSurface_of_none
    (missing : display.getSurface surfaceId = none)
    (done : display.resizeSurface profile memory surfaceId width height =
      .ok (after, result)) : after = display := by
  rw [resizeSurface, missing] at done
  exact (Prod.mk.inj (Except.ok.inj done)).1.symm

theorem getSurface_modifySurface_other
    {change : ManagedSurface → ManagedSurface}
    (different : other ≠ surfaceId)
    (kept : ∀ surface, (change surface).surfaceId = surfaceId) :
    (display.modifySurface surfaceId change).getSurface other =
      display.getSurface other := by
  apply find?_changeFirst_other
  intro surface same
  rw [beq_iff_eq] at same
  rw [same, kept, beq_eq_false_iff_ne.mpr (Ne.symm different)]
  exact ⟨rfl, rfl⟩

/-- Other surfaces stay as they are. -/
theorem getSurface_resizeSurface_other (different : other ≠ surfaceId)
    (done : display.resizeSurface profile memory surfaceId width height =
      .ok (after, result)) :
    after.getSurface other = display.getSurface other := by
  cases found : display.getSurface surfaceId with
  | none => rw [resizeSurface_of_none found done]
  | some surface =>
      have here := surfaceId_of_getSurface found
      rcases resizeSurface_cases found done with
        ⟨_, rfl, _⟩ | ⟨_, ⟨_, _, rfl⟩ | ⟨_, _, rfl⟩⟩
      · rfl
      · exact getSurface_modifySurface_other different fun _ => here
      · exact getSurface_modifySurface_other different fun _ => here

end WaylandDisplay

/-! ## Steps -/

namespace ViewportDisplay

open WaylandDisplay

variable {profile : Profile} {before after : ViewportDisplay}
variable {surfaceId : UInt16}

theorem MatchesWindow.configure {width height : Int32}
    (matched : before.MatchesWindow profile)
    (done : before.configureToplevel profile surfaceId width height =
      .ok after) : after.MatchesWindow profile := by
  rw [configureToplevel] at done
  by_cases positive : 0 < width ∧ 0 < height
  · rw [if_pos positive] at done
    dsimp only at done
    -- the windows of other surfaces keep their sizes
    have elsewhere : ∀ {other : UInt16}, other ≠ surfaceId →
        Function.update before.window surfaceId (some (width, height))
          other = before.window other :=
      fun different => Function.update_of_ne different _ _
    cases found : before.display.getSurface surfaceId with
    | none =>
        rw [found] at done
        obtain rfl := Except.ok.inj done
        intro other surface window foundOther viewport received
        by_cases same : other = surfaceId
        · subst same
          change before.display.getSurface other = _ at foundOther
          rw [found] at foundOther
          cases foundOther
        · exact matched other surface window foundOther viewport
            ((elsewhere same).symm.trans received)
    | some present =>
        rw [found] at done
        dsimp only at done
        by_cases scaled : before.hasViewport surfaceId = true
        · rw [if_pos scaled, bind_eq_ok_iff] at done
          obtain ⟨fitted, fits, done⟩ := done
          obtain rfl := Except.ok.inj done
          intro other surface window foundOther viewport received
          by_cases same : other = surfaceId
          · subst same
            change before.display.getSurface other = _ at foundOther
            change Function.update _ _ _ _ = _ at received
            rw [found] at foundOther
            obtain rfl := Option.some.inj foundOther
            rw [Function.update_self] at received
            obtain rfl := Option.some.inj received
            exact ⟨fitted, Function.update_self _ _ _, fits⟩
          · obtain ⟨old, given, oldFits⟩ := matched other surface window
              foundOther viewport ((elsewhere same).symm.trans received)
            exact ⟨old, (Function.update_of_ne same _ _).trans given,
              oldFits⟩
        · rw [if_neg scaled] at done
          obtain rfl := Except.ok.inj done
          intro other surface window foundOther viewport received
          by_cases same : other = surfaceId
          · subst same
            exact absurd viewport scaled
          · exact matched other surface window foundOther viewport
              ((elsewhere same).symm.trans received)
  · rw [if_neg positive] at done
    obtain rfl := Except.ok.inj done
    exact matched

/-- A resize keeps the destination right exactly when it does not change what
fits. -/
theorem MatchesWindow.resize_iff {width height : UInt32}
    {memory : Nat → Except String Unit}
    (matched : before.MatchesWindow profile)
    (done : before.perform profile (.resize surfaceId width height memory) =
      .ok after) :
    after.MatchesWindow profile ↔
      before.KeepsFit profile (.resize surfaceId width height memory) := by
  rw [perform, bind_eq_ok_iff] at done
  obtain ⟨⟨display, result⟩, resized, done⟩ := done
  obtain rfl := Except.ok.inj done
  constructor
  · intro next surface window found viewport received
    obtain ⟨changed, foundChanged, rfl, rfl⟩ :=
      getSurface_resizeSurface found resized
    obtain ⟨fitted, given, fits⟩ :=
      matched surfaceId surface window found viewport received
    obtain ⟨newFitted, newGiven, newFits⟩ :=
      next surfaceId changed window foundChanged viewport received
    obtain rfl := Option.some.inj (given.symm.trans newGiven)
    exact newFits.trans fits.symm
  · intro keeps other surface window found viewport received
    by_cases same : other = surfaceId
    · subst same
      cases old : before.display.getSurface other with
      | none =>
          rw [resizeSurface_of_none old resized, old] at found
          cases found
      | some former =>
          obtain ⟨changed, foundChanged, rfl, rfl⟩ :=
            getSurface_resizeSurface old resized
          rw [foundChanged] at found
          obtain rfl := Option.some.inj found
          obtain ⟨fitted, given, fits⟩ :=
            matched other former window old viewport received
          exact ⟨fitted, given,
            (keeps former window old viewport received).trans fits⟩
    · rw [getSurface_resizeSurface_other same resized] at found
      exact matched other surface window found viewport received

theorem matchesWindow_unsized (profile : Profile) (display : WaylandDisplay)
    (hasViewport : UInt16 → Bool) :
    (unsized display hasViewport).MatchesWindow profile :=
  fun _ _ _ _ _ received => nomatch received

/-- In every run, the destinations match the windows after each step if and
only if no resize changes what fits into a window that has a size. -/
theorem matchesWindow_iff_keepsFit (profile : Profile)
    (display : WaylandDisplay) (hasViewport : UInt16 → Bool)
    {events : List WindowEvent} {last : ViewportDisplay} :
    Run (fun before event after =>
        Step profile before event after ∧ after.MatchesWindow profile)
        (unsized display hasViewport) events last ↔
      Run (fun before event after =>
        Step profile before event after ∧ before.KeepsFit profile event)
        (unsized display hasViewport) events last := by
  have each : ∀ before event after, Step profile before event after →
      before.MatchesWindow profile →
        (after.MatchesWindow profile ↔ before.KeepsFit profile event) := by
    intro before event after performed matched
    cases event with
    | configure surfaceId width height =>
        exact iff_of_true (matched.configure performed) trivial
    | resize surfaceId width height memory =>
        exact matched.resize_iff performed
  refine (run_restrict_iff ?_ ?_
    (matchesWindow_unsized profile display hasViewport)).symm
  · intro before event after performed matched keeps
    have next := (each before event after performed matched).mpr keeps
    exact ⟨next, next⟩
  · intro before event after performed matched next
    exact (each before event after performed matched).mp next

/-! ### A picture that is turned -/

/-- A wide picture in a square window becomes a high one. -/
def turnedPicture : List WindowEvent :=
  [.configure 1 100 100, .resize 1 1 2 fun _ => .ok ()]

theorem not_matchesWindow_turnedPicture :
    (∃ last, Run (Step .dev)
        (unsized ⟨[twoPixelSurface], 1⟩ fun _ => true) turnedPicture last) ∧
      ¬ ∃ last, Run (fun before event after =>
          Step .dev before event after ∧ after.MatchesWindow .dev)
        (unsized ⟨[twoPixelSurface], 1⟩ fun _ => true) turnedPicture
          last := by
  have wide : fitPreserveAspect .dev 2 1 100 100 = .ok (100, 50) := by
    decide +kernel
  have high : fitPreserveAspect .dev 1 2 100 100 = .ok (50, 100) := by
    decide +kernel
  let configured : ViewportDisplay :=
    { display := ⟨[twoPixelSurface], 1⟩
      hasViewport := fun _ => true
      destination := Function.update (fun _ => none) 1 (some (100, 50))
      window := Function.update (fun _ => none) 1 (some (100, 100)) }
  have first : Step .dev (unsized ⟨[twoPixelSurface], 1⟩ fun _ => true)
      (.configure 1 100 100) configured := by
    change (do
      let fitted ← fitPreserveAspect .dev 2 1 100 100
      return { configured with
        destination := Function.update (fun _ => none) 1 (some fitted) }) =
          Except.ok configured
    rw [wide]
    rfl
  have second : Step .dev configured (.resize 1 1 2 fun _ => .ok ())
      { configured with
        display := ⟨[{ twoPixelSurface with
          width := 1, height := 2, stride := 4
          uploader := some (.zeroed 1 1 2 4) }], 2⟩ } := rfl
  constructor
  · exact ⟨_, .cons first (.cons second (.nil _))⟩
  · rintro ⟨last, run⟩
    obtain ⟨afterFirst, ⟨performed, _⟩, run⟩ := run_cons_iff.mp run
    obtain rfl := Except.ok.inj (first.symm.trans performed)
    obtain ⟨afterSecond, ⟨performed, matched⟩, _⟩ := run_cons_iff.mp run
    obtain rfl := Except.ok.inj (second.symm.trans performed)
    obtain ⟨fitted, given, fits⟩ := matched 1 _ (100, 100) rfl rfl rfl
    obtain rfl : (100, 50) = fitted := Option.some.inj given
    have same : ((50, 100) : Int32 × Int32) = (100, 50) :=
      Except.ok.inj (high.symm.trans fits)
    exact absurd (congrArg Prod.fst same) (by decide)

end ViewportDisplay

end RemoteWay.Display
