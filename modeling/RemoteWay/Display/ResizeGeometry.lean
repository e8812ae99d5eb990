import RemoteWay.Base.FirstEntry
import RemoteWay.Base.Runs
import RemoteWay.Display.Surface

/-!
# The geometry of a surface that is resized

`resize_surface` writes the new dimensions of a surface before it creates the
uploader for them, which can fail.  The next request for these dimensions is
then answered without an attempt.
-/

namespace RemoteWay.Display

open RemoteWay.Base

/-- The constructor accepts unpadded rows of these dimensions, and the system
provides the memory. -/
def GrantsUploader (memory : Nat → Except String Unit)
    (width height : UInt32) : Prop :=
  width.toNat * 4 < UInt32.size ∧
    width.toNat * 4 * height.toNat * 2 < usizeRange ∧
    width.toNat * 4 * height.toNat ≠ 0 ∧
    memory (width.toNat * 4 * height.toNat * 2) = .ok ()

/-- The width, height and stride are those of the uploader. -/
def ManagedSurface.Consistent (surface : ManagedSurface) : Prop :=
  ∃ uploader, surface.uploader = some uploader ∧
    surface.width = uploader.width ∧ surface.height = uploader.height ∧
    surface.stride = uploader.stride

/-! ## Calls -/

/-- A call, with what the compositor and the system answer during it. -/
inductive SurfaceCall where
  | create (surfaceId : UInt16) (width height : UInt32)
      (events : List WaylandEvent) (roundtrip : Except DisplayError Unit)
      (memory : Nat → Except String Unit)
  | resize (surfaceId : UInt16) (width height : UInt32)
      (memory : Nat → Except String Unit)

namespace WaylandDisplay

/-- `create_surface`, with the events that are handled while it waits. -/
def createSurface (profile : Profile) (memory : Nat → Except String Unit)
    (events : List WaylandEvent) (roundtrip : Except DisplayError Unit)
    (display : WaylandDisplay) (surfaceId : UInt16)
    (width height : UInt32) :
    Exec (WaylandDisplay × Except DisplayError Unit) := do
  let added ← display.addSurface profile surfaceId width height
  let waited := events.foldl dispatch added
  match roundtrip with
  | .error reason => return (waited, .error reason)
  | .ok () => return waited.initSurfaceUploader memory surfaceId

def surfaceCall (profile : Profile) (display : WaylandDisplay) :
    SurfaceCall → Exec (WaylandDisplay × Except DisplayError Unit)
  | .create surfaceId width height events roundtrip memory =>
      display.createSurface profile memory events roundtrip surfaceId width
        height
  | .resize surfaceId width height memory =>
      display.resizeSurface profile memory surfaceId width height

/-- A call that returns, and its result. -/
def Returns (profile : Profile) (before : WaylandDisplay)
    (returned : SurfaceCall × Except DisplayError Unit)
    (after : WaylandDisplay) : Prop :=
  before.surfaceCall profile returned.1 = .ok (after, returned.2)

/-- A surface whose call succeeded is consistent, and a resize that failed
leaves its surface as it was.  The surface of `create_surface` is the one it
adds. -/
def KeepsGeometry (before : WaylandDisplay)
    (returned : SurfaceCall × Except DisplayError Unit)
    (after : WaylandDisplay) : Prop :=
  match returned.1 with
  | .create _ _ _ _ _ _ =>
      returned.2 = .ok () → ∃ surface,
        after.surfaces.getLast? = some surface ∧ surface.Consistent
  | .resize surfaceId _ _ _ =>
      (returned.2 = .ok () → ∃ surface,
        after.getSurface surfaceId = some surface ∧ surface.Consistent) ∧
      ∀ reason, returned.2 = .error reason →
        after.getSurface surfaceId = before.getSurface surfaceId

/-- A surface is created under an identifier that is not in use, unless the
call fails before that matters.  A resize to the present dimensions finds an
uploader, and a resize to others can create one. -/
def CanSucceed (before : WaylandDisplay)
    (returned : SurfaceCall × Except DisplayError Unit) : Prop :=
  match returned.1 with
  | .create surfaceId _ _ _ roundtrip memory =>
      before.getSurface surfaceId = none ∨
        (∃ reason, roundtrip = .error reason) ∨
        ∃ surface, before.getSurface surfaceId = some surface ∧
          surface.uploader = none ∧
          ¬ GrantsUploader memory surface.width surface.height
  | .resize surfaceId width height memory =>
      ∀ surface, before.getSurface surfaceId = some surface →
        if surface.width = width ∧ surface.height = height then
          surface.uploader ≠ none
        else
          GrantsUploader memory width height

end WaylandDisplay

/-! ## Shapes -/

/-- The dimensions of a surface and of its uploader. -/
structure SurfaceShape where
  surfaceId : UInt16
  width : UInt32
  height : UInt32
  stride : UInt32
  uploader : Option (UInt32 × UInt32 × UInt32)
  deriving DecidableEq

/-- Unpadded rows, in the uploader as well. -/
structure SurfaceShape.Unpadded (shape : SurfaceShape) : Prop where
  stride : shape.stride = shape.width * 4
  uploader : shape.uploader = none ∨
    shape.uploader = some (shape.width, shape.height, shape.stride)

def ManagedSurface.shape (surface : ManagedSurface) : SurfaceShape where
  surfaceId := surface.surfaceId
  width := surface.width
  height := surface.height
  stride := surface.stride
  uploader := surface.uploader.map fun uploader =>
    (uploader.width, uploader.height, uploader.stride)

theorem ManagedSurface.consistent_iff {surface : ManagedSurface} :
    surface.Consistent ↔ surface.shape.uploader =
      some (surface.width, surface.height, surface.stride) := by
  rw [Consistent, shape, Option.map_eq_some_iff]
  simp only [Prod.mk.injEq, eq_comm]

theorem ShmFrameUploader.new_unpadded_iff
    {memory : Nat → Except String Unit} {id : Nat}
    {width height : UInt32} {uploader : ShmFrameUploader} :
    new memory id width height (width * 4) = .ok uploader ↔
      GrantsUploader memory width height ∧
        uploader = zeroed id width height (width * 4) := by
  have product : (width * 4).toNat = width.toNat * 4 % UInt32.size :=
    UInt32.toNat_mul width 4
  rw [new_eq_ok_iff, GrantsUploader]
  by_cases small : width.toNat * 4 < UInt32.size
  · rw [product, Nat.mod_eq_of_lt small]
    simp [small, and_assoc]
  · have wrapped := Nat.mod_lt (width.toNat * 4) (show 0 < UInt32.size by
      decide)
    refine iff_of_false ?_ fun granted => small granted.1.1
    rintro ⟨rows, _⟩
    omega

theorem ShmFrameUploader.new_unpadded_cases
    (memory : Nat → Except String Unit) (id : Nat) (width height : UInt32) :
    (GrantsUploader memory width height ∧
      new memory id width height (width * 4) =
        .ok (zeroed id width height (width * 4))) ∨
    ¬ GrantsUploader memory width height ∧
      ∃ reason, new memory id width height (width * 4) = .error reason := by
  by_cases granted : GrantsUploader memory width height
  · exact Or.inl ⟨granted, new_unpadded_iff.mpr ⟨granted, rfl⟩⟩
  · refine Or.inr ⟨granted, ?_⟩
    cases created : new memory id width height (width * 4) with
    | error reason => exact ⟨reason, rfl⟩
    | ok uploader => exact absurd (new_unpadded_iff.mp created).1 granted

namespace WaylandDisplay

variable {display after : WaylandDisplay} {surfaceId : UInt16}

def shapes (display : WaylandDisplay) : List SurfaceShape :=
  display.surfaces.map ManagedSurface.shape

theorem shapes_modifySurface_of_kept
    {change : ManagedSurface → ManagedSurface}
    (kept : ∀ surface, (change surface).shape = surface.shape) :
    (display.modifySurface surfaceId change).shapes = display.shapes :=
  map_changeFirst_of_kept ManagedSurface.shape kept

/-- The compositor changes no dimensions. -/
theorem shapes_dispatch (display : WaylandDisplay) (event : WaylandEvent) :
    (display.dispatch event).shapes = display.shapes := by
  cases event with
  | release buffer =>
      rw [dispatch, shapes, List.map_map]
      apply List.map_congr_left
      intro surface _
      cases held : surface.uploader with
      | none => simp [ManagedSurface.shape, held]
      | some uploader =>
          simp only [Function.comp_apply, ManagedSurface.shape, held,
            Option.map_some, ShmFrameUploader.markReleased]
          split <;> rfl
  | done surfaceId => exact shapes_modifySurface_of_kept fun _ => rfl
  | configure surfaceId => exact shapes_modifySurface_of_kept fun _ => rfl

theorem shapes_foldl_dispatch (events : List WaylandEvent)
    (display : WaylandDisplay) :
    (events.foldl dispatch display).shapes = display.shapes := by
  induction events generalizing display with
  | nil => rfl
  | cons event events ih => rw [List.foldl_cons, ih, shapes_dispatch]

/-- Displays of the same shapes have the same surfaces, up to more than
shapes. -/
theorem map_shape_getSurface (same : after.shapes = display.shapes)
    (surfaceId : UInt16) :
    (after.getSurface surfaceId).map ManagedSurface.shape =
      (display.getSurface surfaceId).map ManagedSurface.shape := by
  have viewed : ∀ display : WaylandDisplay,
      (display.getSurface surfaceId).map ManagedSurface.shape =
        display.shapes.find? fun shape =>
          shape.surfaceId == surfaceId := by
    intro display
    rw [shapes, List.find?_map]
    rfl
  rw [viewed, viewed, same]

/-- All surfaces have unpadded rows. -/
def Unpadded (display : WaylandDisplay) : Prop :=
  ∀ shape, shape ∈ display.shapes → shape.Unpadded

theorem Unpadded.of_getSurface (unpadded : display.Unpadded)
    {surface : ManagedSurface}
    (found : display.getSurface surfaceId = some surface) :
    surface.shape.Unpadded :=
  unpadded _ (List.mem_map_of_mem (mem_of_getSurface found))

theorem Unpadded.modifySurface (unpadded : display.Unpadded)
    {change : ManagedSurface → ManagedSurface}
    (changed : ∀ surface, display.getSurface surfaceId = some surface →
      (change surface).shape.Unpadded) (uploaders : Nat) :
    Unpadded { display.modifySurface surfaceId change with
      uploaders := uploaders } := by
  intro shape member
  obtain ⟨surface, surfaceMember, rfl⟩ := List.mem_map.mp member
  rcases mem_surfaces_modifySurface surfaceMember with
    old | ⟨earlier, found, rfl⟩
  · exact unpadded _ (List.mem_map_of_mem old)
  · exact changed earlier found

/-! ## What a call does -/

/-- The uploader exists, is created, or is refused. -/
theorem initSurfaceUploader_cases (memory : Nat → Except String Unit)
    {surface : ManagedSurface}
    (found : display.getSurface surfaceId = some surface)
    (unpadded : surface.stride = surface.width * 4) :
    (surface.uploader ≠ none ∧
      display.initSurfaceUploader memory surfaceId = (display, .ok ())) ∨
    surface.uploader = none ∧
      ((GrantsUploader memory surface.width surface.height ∧
        display.initSurfaceUploader memory surfaceId =
          ({ display.modifySurface surfaceId fun changed =>
              { changed with
                uploader := some (.zeroed display.uploaders surface.width
                  surface.height (surface.width * 4))
                configured := true } with
              uploaders := display.uploaders + 1 }, .ok ())) ∨
      ¬ GrantsUploader memory surface.width surface.height ∧
        ∃ reason, display.initSurfaceUploader memory surfaceId =
          (display, .error reason)) := by
  rw [initSurfaceUploader, found]
  dsimp only
  cases held : surface.uploader with
  | some uploader => exact Or.inl ⟨by simp, rfl⟩
  | none =>
      refine Or.inr ⟨rfl, ?_⟩
      dsimp only
      rw [unpadded]
      rcases ShmFrameUploader.new_unpadded_cases memory display.uploaders
          surface.width surface.height with
        ⟨granted, created⟩ | ⟨refused, reason, created⟩
      · rw [created]
        exact Or.inl ⟨granted, rfl⟩
      · rw [created]
        exact Or.inr ⟨refused, reason, rfl⟩

/-- The surface has the dimensions, is resized, or is changed although its
uploader is refused. -/
theorem resizeSurface_cases {profile : Profile}
    {memory : Nat → Except String Unit} {width height : UInt32}
    {result : Except DisplayError Unit} {surface : ManagedSurface}
    (found : display.getSurface surfaceId = some surface)
    (done : display.resizeSurface profile memory surfaceId width height =
      .ok (after, result)) :
    ((surface.width = width ∧ surface.height = height) ∧
      after = display ∧ result = .ok ()) ∨
    ¬ (surface.width = width ∧ surface.height = height) ∧
      ((GrantsUploader memory width height ∧ result = .ok () ∧
        after = { display.modifySurface surfaceId fun _ =>
            { surface with
              width := width
              height := height
              stride := width * 4
              uploader := some (.zeroed display.uploaders width height
                (width * 4)) } with
            uploaders := display.uploaders + 1 }) ∨
      ¬ GrantsUploader memory width height ∧
        (∃ reason, result = .error reason) ∧
        after = display.modifySurface surfaceId fun _ =>
          { surface with
            width := width
            height := height
            stride := width * 4 }) := by
  rw [resizeSurface, found] at done
  dsimp only at done
  by_cases unchanged : surface.width = width ∧ surface.height = height
  · rw [if_pos unchanged] at done
    injection done with same
    obtain ⟨rfl, rfl⟩ := Prod.mk.inj same
    exact Or.inl ⟨unchanged, rfl, rfl⟩
  · refine Or.inr ⟨unchanged, ?_⟩
    rw [if_neg unchanged, bind_eq_ok_iff] at done
    obtain ⟨stride, product, done⟩ := done
    obtain rfl := u32Mul_eq_ok product
    rcases ShmFrameUploader.new_unpadded_cases memory display.uploaders
        width height with
      ⟨granted, created⟩ | ⟨refused, reason, created⟩
    · rw [created] at done
      injection done with same
      obtain ⟨rfl, rfl⟩ := Prod.mk.inj same
      exact Or.inl ⟨granted, rfl, rfl⟩
    · rw [created] at done
      injection done with same
      obtain ⟨rfl, rfl⟩ := Prod.mk.inj same
      exact Or.inr ⟨refused, ⟨reason, rfl⟩, rfl⟩

/-- A surface without an uploader is added, other surfaces keep their shapes,
and then the call fails or the first surface with the identifier is given an
uploader. -/
theorem createSurface_cases {profile : Profile}
    {memory : Nat → Except String Unit} {events : List WaylandEvent}
    {roundtrip : Except DisplayError Unit} {width height : UInt32}
    {result : Except DisplayError Unit}
    (done : display.createSurface profile memory events roundtrip surfaceId
      width height = .ok (after, result)) :
    ∃ waited front added, waited.surfaces = front ++ [added] ∧
      front.map ManagedSurface.shape = display.shapes ∧
      added.shape = ⟨surfaceId, width, height, width * 4, none⟩ ∧
      (((∃ reason, roundtrip = .error reason ∧ result = .error reason) ∧
          after = waited) ∨
        roundtrip = .ok () ∧
          waited.initSurfaceUploader memory surfaceId =
            (after, result)) := by
  rw [createSurface, bind_eq_ok_iff] at done
  obtain ⟨added, adds, done⟩ := done
  rw [addSurface, bind_eq_ok_iff] at adds
  obtain ⟨stride, product, adds⟩ := adds
  obtain rfl := u32Mul_eq_ok product
  injection adds with same
  have shapes := shapes_foldl_dispatch events added
  rw [← same] at shapes done
  generalize waits : List.foldl dispatch _ events = waited at shapes done
  rw [WaylandDisplay.shapes, WaylandDisplay.shapes, List.map_append,
    List.map_eq_append_iff] at shapes
  obtain ⟨front, back, split, others, last⟩ := shapes
  obtain ⟨new, rfl, shape⟩ := List.map_eq_singleton_iff.mp last
  refine ⟨waited, front, new, split, others, shape, ?_⟩
  cases roundtrip with
  | error reason =>
      injection done with same
      obtain ⟨rfl, rfl⟩ := Prod.mk.inj same
      exact Or.inl ⟨⟨reason, rfl, rfl⟩, rfl⟩
  | ok answered =>
      injection done with same
      exact Or.inr ⟨rfl, same⟩

/-! ## One call -/

theorem Unpadded.initSurfaceUploader (unpadded : display.Unpadded)
    (memory : Nat → Except String Unit) {surface : ManagedSurface}
    (found : display.getSurface surfaceId = some surface) :
    (display.initSurfaceUploader memory surfaceId).1.Unpadded := by
  have stride := (unpadded.of_getSurface found).stride
  rcases initSurfaceUploader_cases memory found stride with
    ⟨_, init⟩ | ⟨_, ⟨_, init⟩ | ⟨_, reason, init⟩⟩
  · rw [init]
    exact unpadded
  · rw [init]
    apply unpadded.modifySurface
    intro other same
    rw [found] at same
    obtain rfl := Option.some.inj same
    exact ⟨stride, Or.inr (congrArg
      (fun stride => some (surface.width, surface.height, stride))
      stride.symm)⟩
  · rw [init]
    exact unpadded

section Waited

variable {waited : WaylandDisplay} {front : List ManagedSurface}
variable {added : ManagedSurface} {memory : Nat → Except String Unit}

/-- The surface is the only one with its identifier. -/
theorem initSurfaceUploader_added (split : waited.surfaces = front ++ [added])
    (apart : ∀ other, other ∈ front → other.surfaceId ≠ surfaceId)
    (here : added.surfaceId = surfaceId) (bare : added.uploader = none)
    (stride : added.stride = added.width * 4)
    (init : waited.initSurfaceUploader memory surfaceId =
      (after, .ok ())) :
    ∃ surface, after.surfaces.getLast? = some surface ∧
      surface.Consistent := by
  have found : waited.getSurface surfaceId = some added :=
    getSurface_eq_some_iff.mpr ⟨here, front, [], split, apart⟩
  rcases initSurfaceUploader_cases memory found stride with
    ⟨held, _⟩ | ⟨_, ⟨_, created⟩ | ⟨_, reason, refused⟩⟩
  · exact absurd bare held
  · rw [init] at created
    obtain ⟨rfl, _⟩ := Prod.mk.inj created
    refine ⟨{ added with
      uploader := some (.zeroed waited.uploaders added.width added.height
        (added.width * 4))
      configured := true }, ?_, _, rfl, rfl, rfl, stride⟩
    change (waited.modifySurface surfaceId _).surfaces.getLast? = _
    rw [surfaces_modifySurface_of_split _ split apart here,
      List.getLast?_concat]
  · rw [init] at refused
    cases (Prod.mk.inj refused).2

/-- An earlier surface has the identifier. -/
theorem getLast?_initSurfaceUploader {first : ManagedSurface}
    (split : waited.surfaces = front ++ [added])
    (earlier : ∃ other, other ∈ front ∧ (other.surfaceId == surfaceId) = true)
    (found : waited.getSurface surfaceId = some first)
    (stride : first.stride = first.width * 4) :
    (waited.initSurfaceUploader memory surfaceId).1.surfaces.getLast? =
      some added := by
  rcases initSurfaceUploader_cases memory found stride with
    ⟨_, init⟩ | ⟨_, ⟨_, init⟩ | ⟨_, reason, init⟩⟩
  · rw [init, split, List.getLast?_concat]
  · rw [init]
    change (changeFirst _ _ waited.surfaces).getLast? = _
    rw [split, changeFirst_append_of_mem earlier, List.getLast?_concat]
  · rw [init, split, List.getLast?_concat]

/-- Whether a call for an earlier surface succeeds. -/
theorem initSurfaceUploader_eq_error_iff {first : ManagedSurface}
    (found : waited.getSurface surfaceId = some first)
    (stride : first.stride = first.width * 4) :
    (waited.initSurfaceUploader memory surfaceId).2 ≠ .ok () ↔
      first.uploader = none ∧
        ¬ GrantsUploader memory first.width first.height := by
  rcases initSurfaceUploader_cases memory found stride with
    ⟨held, init⟩ | ⟨bare, ⟨granted, init⟩ | ⟨refused, reason, init⟩⟩
  · rw [init]
    exact iff_of_false (fun failed => failed rfl) fun none => held none.1
  · rw [init]
    exact iff_of_false (fun failed => failed rfl)
      fun refused => refused.2 granted
  · rw [init]
    exact iff_of_true nofun ⟨bare, refused⟩

/-- The added surface is left bare, so only a failed call keeps the promise
of an uploader. -/
theorem initSurfaceUploader_earlier {first : ManagedSurface}
    {result : Except DisplayError Unit}
    (split : waited.surfaces = front ++ [added])
    (earlier : ∃ other, other ∈ front ∧ (other.surfaceId == surfaceId) = true)
    (found : waited.getSurface surfaceId = some first)
    (stride : first.stride = first.width * 4) (bare : added.uploader = none)
    (init : waited.initSurfaceUploader memory surfaceId = (after, result)) :
    (result = .ok () → ∃ surface,
        after.surfaces.getLast? = some surface ∧ surface.Consistent) ↔
      first.uploader = none ∧
        ¬ GrantsUploader memory first.width first.height := by
  have last := @getLast?_initSurfaceUploader surfaceId waited front
    added memory first split earlier found stride
  have failed := @initSurfaceUploader_eq_error_iff surfaceId waited
    memory first found stride
  rw [init] at last failed
  constructor
  · intro consistent
    apply failed.mp
    intro succeeded
    obtain ⟨final, lastFinal, uploader, held, _⟩ := consistent succeeded
    rw [last] at lastFinal
    obtain rfl := Option.some.inj lastFinal
    rw [bare] at held
    cases held
  · intro refused succeeded
    exact absurd succeeded (failed.mpr refused)

end Waited

/-- The surface that `create_surface` adds is consistent if the call
succeeds, except when it succeeds for an earlier surface. -/
theorem Unpadded.createSurface {profile : Profile}
    {memory : Nat → Except String Unit} {events : List WaylandEvent}
    {roundtrip : Except DisplayError Unit} {width height : UInt32}
    {result : Except DisplayError Unit} (unpadded : display.Unpadded)
    (done : display.createSurface profile memory events roundtrip surfaceId
      width height = .ok (after, result)) :
    after.Unpadded ∧
      ((result = .ok () → ∃ surface,
          after.surfaces.getLast? = some surface ∧ surface.Consistent) ↔
        (display.getSurface surfaceId = none ∨
          (∃ reason, roundtrip = .error reason) ∨
          ∃ surface, display.getSurface surfaceId = some surface ∧
            surface.uploader = none ∧
            ¬ GrantsUploader memory surface.width surface.height)) := by
  obtain ⟨waited, front, added, split, others, shape, outcome⟩ :=
    createSurface_cases done
  have here : added.surfaceId = surfaceId :=
    congrArg SurfaceShape.surfaceId shape
  have bare : added.uploader = none :=
    Option.map_eq_none_iff.mp (congrArg SurfaceShape.uploader shape)
  have addedStride : added.stride = added.width * 4 :=
    (congrArg SurfaceShape.stride shape).trans
      (congrArg (fun shape => shape.width * 4) shape).symm
  have waitedUnpadded : waited.Unpadded := by
    intro other member
    rw [shapes, split, List.map_append, others, List.mem_append] at member
    rcases member with old | new
    · exact unpadded other old
    · rw [List.mem_singleton.mp new, shape]
      exact ⟨rfl, Or.inl rfl⟩
  rcases outcome with ⟨⟨reason, lost, rfl⟩, rfl⟩ | ⟨answered, init⟩
  · exact ⟨waitedUnpadded, iff_of_true (fun failed => nomatch failed)
      (Or.inr (Or.inl ⟨reason, lost⟩))⟩
  · have viewed := @map_shape_getSurface display ⟨front, 0⟩ others surfaceId
    cases inUse : display.getSurface surfaceId with
    | none =>
        rw [inUse, Option.map_none, Option.map_eq_none_iff, getSurface,
          List.find?_eq_none] at viewed
        have apart : ∀ other, other ∈ front → other.surfaceId ≠ surfaceId :=
          fun other member same => viewed other member (beq_iff_eq.mpr same)
        have next := waitedUnpadded.initSurfaceUploader memory
          (getSurface_eq_some_iff.mpr ⟨here, front, [], split, apart⟩)
        rw [init] at next
        refine ⟨next, iff_of_true ?_ (Or.inl rfl)⟩
        intro succeeded
        rw [succeeded] at init
        exact initSurfaceUploader_added split apart here bare addedStride
          init
    | some old =>
        rw [inUse, Option.map_some, Option.map_eq_some_iff] at viewed
        obtain ⟨first, foundFront, same⟩ := viewed
        have found : waited.getSurface surfaceId = some first := by
          rw [getSurface] at foundFront
          rw [getSurface, split, List.find?_append, foundFront]
          rfl
        have stride := (waitedUnpadded.of_getSurface found).stride
        have next := waitedUnpadded.initSurfaceUploader memory found
        have sameWidth : first.width = old.width :=
          congrArg SurfaceShape.width same
        have sameHeight : first.height = old.height :=
          congrArg SurfaceShape.height same
        have sameUploader : first.uploader = none ↔ old.uploader = none := by
          have maps := congrArg SurfaceShape.uploader same
          change first.uploader.map _ = old.uploader.map _ at maps
          rw [← Option.map_eq_none_iff, maps, Option.map_eq_none_iff]
        have bareLeft := initSurfaceUploader_earlier split
          ⟨first, mem_of_getSurface foundFront,
            beq_iff_eq.mpr (surfaceId_of_getSurface foundFront)⟩ found stride
          bare init
        rw [init] at next
        rw [sameUploader, sameWidth, sameHeight] at bareLeft
        refine ⟨next, bareLeft.trans ?_⟩
        constructor
        · intro refused
          exact Or.inr (Or.inr ⟨old, rfl, refused⟩)
        · rintro (unused | ⟨reason, lost⟩ | ⟨other, foundOther, refused⟩)
          · cases unused
          · rw [answered] at lost
            cases lost
          · obtain rfl := Option.some.inj foundOther
            exact refused

/-- A resize keeps the geometry consistent exactly when it finds an uploader
or can create one. -/
theorem Unpadded.resizeSurface {profile : Profile}
    {memory : Nat → Except String Unit} {width height : UInt32}
    {result : Except DisplayError Unit} (unpadded : display.Unpadded)
    (done : display.resizeSurface profile memory surfaceId width height =
      .ok (after, result)) :
    (((result = .ok () → ∃ surface,
          after.getSurface surfaceId = some surface ∧ surface.Consistent) ∧
        ∀ reason, result = .error reason →
          after.getSurface surfaceId = display.getSurface surfaceId) ↔
      ∀ surface, display.getSurface surfaceId = some surface →
        if surface.width = width ∧ surface.height = height then
          surface.uploader ≠ none
        else
          GrantsUploader memory width height) ∧
    ((∀ surface, display.getSurface surfaceId = some surface →
        if surface.width = width ∧ surface.height = height then
          surface.uploader ≠ none
        else
          GrantsUploader memory width height) → after.Unpadded) := by
  cases found : display.getSurface surfaceId with
  | none =>
      rw [WaylandDisplay.resizeSurface, found] at done
      injection done with same
      obtain ⟨rfl, rfl⟩ := Prod.mk.inj same
      refine ⟨iff_of_true ⟨fun succeeded => (by cases succeeded), ?_⟩ ?_,
        fun _ => unpadded⟩
      · intro reason _
        exact found
      · intro surface impossible
        cases impossible
  | some surface =>
      have holds : ∀ {condition : ManagedSurface → Prop},
          (∀ other, some surface = some other → condition other) ↔
            condition surface :=
        ⟨fun all => all surface rfl,
          fun holds other same => Option.some.inj same ▸ holds⟩
      have here := surfaceId_of_getSurface found
      rw [holds]
      rcases resizeSurface_cases found done with
        ⟨unchanged, rfl, rfl⟩ | ⟨changed, ⟨granted, rfl, rfl⟩ |
          ⟨refused, ⟨reason, rfl⟩, rfl⟩⟩
      · rw [if_pos unchanged]
        refine ⟨?_, fun _ => unpadded⟩
        have fine := unpadded.of_getSurface found
        constructor
        · rintro ⟨succeeds, _⟩
          obtain ⟨other, same, uploader, held, _⟩ := succeeds rfl
          rw [found] at same
          obtain rfl := Option.some.inj same
          rw [held]
          simp
        · intro held
          constructor
          · refine fun _ => ⟨surface, found, ?_⟩
            rw [ManagedSurface.consistent_iff]
            exact fine.uploader.resolve_left fun bare =>
              held (Option.map_eq_none_iff.mp bare)
          · intro reason impossible
            cases impossible
      · rw [if_neg changed]
        refine ⟨iff_of_true ⟨?_, ?_⟩ granted, fun _ => ?_⟩
        · intro _
          exact ⟨_, getSurface_modifySurface _ found here, _, rfl, rfl, rfl,
            rfl⟩
        · intro reason impossible
          cases impossible
        · apply unpadded.modifySurface
          intro _ _
          exact ⟨rfl, Or.inr rfl⟩
      · rw [if_neg changed]
        refine ⟨iff_of_false ?_ refused,
          fun granted => absurd granted refused⟩
        rintro ⟨_, kept⟩
        have same := kept reason rfl
        rw [getSurface_modifySurface _ found here] at same
        have equal := Option.some.inj same
        exact changed ⟨(congrArg ManagedSurface.width equal).symm,
          (congrArg ManagedSurface.height equal).symm⟩

/-! ## All calls -/

theorem unpadded_new : new.Unpadded := by
  intro shape member
  cases member

/-- In every run of calls, each call keeps the geometry consistent if and
only if no identifier is used twice, no resize asks for the dimensions of a
surface without an uploader, and no resize is refused an uploader. -/
theorem keepsGeometry_iff_canSucceed (profile : Profile)
    {calls : List (SurfaceCall × Except DisplayError Unit)}
    {last : WaylandDisplay} :
    Run (fun before returned after =>
        Returns profile before returned after ∧
          KeepsGeometry before returned after) new calls last ↔
      Run (fun before returned after =>
        Returns profile before returned after ∧
          CanSucceed before returned) new calls last := by
  have each : ∀ before returned after,
      Returns profile before returned after → before.Unpadded →
        (KeepsGeometry before returned after ↔
          CanSucceed before returned) ∧
        (CanSucceed before returned → after.Unpadded) := by
    rintro before ⟨call, result⟩ after returned unpadded
    cases call with
    | create surfaceId width height events roundtrip memory =>
        obtain ⟨next, same⟩ := unpadded.createSurface returned
        exact ⟨same, fun _ => next⟩
    | resize surfaceId width height memory =>
        exact unpadded.resizeSurface returned
  refine (run_restrict_iff ?_ ?_ unpadded_new).symm
  · intro before returned after stepped unpadded canSucceed
    obtain ⟨same, next⟩ := each before returned after stepped unpadded
    exact ⟨next canSucceed, same.mpr canSucceed⟩
  · intro before returned after stepped unpadded keeps
    exact (each before returned after stepped unpadded).1.mp keeps

/-! ### A refused resize -/

/-- A surface of two pixels. -/
def twoPixelSurface : ManagedSurface where
  surfaceId := 1
  uploader := some (.zeroed 0 2 1 8)
  width := 2
  height := 1
  stride := 8
  configured := true
  frameCallbackPending := false
  frameCallbackRequestedAt := none

/-- A surface is created, its resize is refused, and the same resize is then
skipped. -/
def refusedResize : List (SurfaceCall × Except DisplayError Unit) :=
  [(.create 1 2 1 [.configure 1] (.ok ()) fun _ => .ok (), .ok ()),
    (.resize 1 4 1 fun _ => .error "mmap failed",
      .error (.shmBuffer "mmap failed")),
    (.resize 1 4 1 fun _ => .ok (), .ok ())]

theorem not_keepsGeometry_refusedResize :
    (∃ last, Run (Returns .dev) new refusedResize last) ∧
      ¬ ∃ last, Run (fun before returned after =>
        Returns .dev before returned after ∧
          KeepsGeometry before returned after) new refusedResize last := by
  have created : Returns .dev new
      (.create 1 2 1 [.configure 1] (.ok ()) fun _ => .ok (), .ok ())
      ⟨[twoPixelSurface], 1⟩ := rfl
  have refused : Returns .dev ⟨[twoPixelSurface], 1⟩
      (.resize 1 4 1 fun _ => .error "mmap failed",
        .error (.shmBuffer "mmap failed"))
      ⟨[{ twoPixelSurface with width := 4, stride := 16 }], 1⟩ := rfl
  have skipped : Returns .dev
      ⟨[{ twoPixelSurface with width := 4, stride := 16 }], 1⟩
      (.resize 1 4 1 fun _ => .ok (), .ok ())
      ⟨[{ twoPixelSurface with width := 4, stride := 16 }], 1⟩ := rfl
  constructor
  · exact ⟨_, .cons created (.cons refused (.cons skipped (.nil _)))⟩
  · rintro ⟨last, run⟩
    obtain ⟨first, ⟨returned, _⟩, run⟩ := run_cons_iff.mp run
    obtain ⟨rfl, _⟩ := Prod.mk.inj (Except.ok.inj (created.symm.trans
      returned))
    obtain ⟨second, ⟨returned, kept⟩, _⟩ := run_cons_iff.mp run
    obtain ⟨rfl, _⟩ := Prod.mk.inj (Except.ok.inj (refused.symm.trans
      returned))
    have same := congrArg (Option.map ManagedSurface.width)
      (kept.2 (.shmBuffer "mmap failed") rfl)
    exact absurd same (by decide)

end WaylandDisplay

end RemoteWay.Display
