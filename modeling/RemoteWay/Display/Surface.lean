import RemoteWay.Base.FirstEntry
import RemoteWay.Display.Shm

/-!
# Surfaces of the local compositor

`WaylandDisplay` creates, resizes, presents and destroys surfaces, each with
an uploader of its own, and handles the events of the compositor.  What a
call sends to the compositor is the list of its commits.

`create_surface` waits for the compositor between adding the surface and
creating its uploader, so it is two functions here.
-/

namespace RemoteWay.Display

open RemoteWay.Base

/-! ## Pictures and damage -/

/-- A rectangular region of a frame that changed. -/
structure DamageRegion where
  x : UInt32
  y : UInt32
  width : UInt32
  height : UInt32
  deriving DecidableEq, Repr

/-- The arguments of `wl_surface.damage_buffer`. -/
structure DamageRequest where
  x : Int32
  y : Int32
  width : Int32
  height : Int32
  deriving DecidableEq

def DamageRegion.request (rect : DamageRegion) : DamageRequest where
  x := rect.x.toInt32
  y := rect.y.toInt32
  width := rect.width.toInt32
  height := rect.height.toInt32

/-- Bytes with the layout in which they are read. -/
structure Picture where
  width : UInt32
  height : UInt32
  stride : UInt32
  data : List UInt8
  deriving DecidableEq, Repr

/-- The four bytes of a pixel inside the picture. -/
def Picture.pixel (picture : Picture) (x y : Nat) : Option (List UInt8) :=
  if x < picture.width.toNat ∧ y < picture.height.toNat then
    some ((picture.data.drop (y * picture.stride.toNat + x * 4)).take 4)
  else
    none

/-- A buffer that was attached and committed, what it then held, and the
damage that was submitted with it. -/
structure Commit where
  surfaceId : UInt16
  buffer : WlBuffer
  picture : Picture
  damage : List DamageRequest
  deriving DecidableEq

/-! ## One surface -/

/-- A managed surface.  Times are in nanoseconds. -/
structure ManagedSurface where
  surfaceId : UInt16
  uploader : Option ShmFrameUploader
  width : UInt32
  height : UInt32
  stride : UInt32
  configured : Bool
  frameCallbackPending : Bool
  frameCallbackRequestedAt : Option Nat

/-- The readings of the clock during `present_frame`. -/
structure Clock where
  checked : Nat
  requested : Nat
  deriving DecidableEq, Repr

def frameCallbackTimeout : Nat := 50 * 1000000

namespace ManagedSurface

/-- The frame callback is pending and not yet overdue. -/
def awaitsCallback (surface : ManagedSurface) (now : Nat) : Bool :=
  surface.frameCallbackPending &&
    !surface.frameCallbackRequestedAt.any fun requestedAt =>
      frameCallbackTimeout ≤ now - requestedAt

/-- Without damage the whole surface is submitted. -/
def submittedDamage (surface : ManagedSurface)
    (damage : List DamageRegion) : List DamageRequest :=
  if damage.isEmpty then
    [⟨0, 0, surface.width.toInt32, surface.height.toInt32⟩]
  else
    damage.map DamageRegion.request

/-- Upload, attach, damage and commit. -/
def commitFrame (surface : ManagedSurface) (uploader : ShmFrameUploader)
    (requestedAt : Nat) (data : List UInt8) (damage : List DamageRegion) :
    ManagedSurface × Commit :=
  let uploader := uploader.upload data
  ({ surface with
      uploader := some uploader.swap
      frameCallbackPending := true
      frameCallbackRequestedAt := some requestedAt },
    { surfaceId := surface.surfaceId
      buffer := uploader.activeBuffer
      picture := ⟨uploader.width, uploader.height, uploader.stride,
        uploader.contents uploader.active⟩
      damage := surface.submittedDamage damage })

/-- Upload frame data and commit it.  There is no commit if the surface is
not configured, its frame callback is pending, or the buffer is not
released. -/
def presentFrame (surface : ManagedSurface) (clock : Clock)
    (data : List UInt8) (damage : List DamageRegion) :
    ManagedSurface × Option Commit :=
  if !surface.configured then
    (surface, none)
  else if surface.awaitsCallback clock.checked then
    (surface, none)
  else
    let surface :=
      if surface.frameCallbackPending then
        { surface with
          frameCallbackPending := false
          frameCallbackRequestedAt := none }
      else
        surface
    match surface.uploader with
    | none => (surface, none)
    | some uploader =>
        if !uploader.canUpload then
          (surface, none)
        else
          let (surface, commit) :=
            surface.commitFrame uploader clock.requested data damage
          (surface, some commit)

/-- Nothing is committed and at most the callback changes, or the frame is
committed in a buffer that was marked as released. -/
theorem presentFrame_cases (surface : ManagedSurface) (clock : Clock)
    (data : List UInt8) (damage : List DamageRegion) :
    (∃ callback requestedAt,
        surface.presentFrame clock data damage =
          ({ surface with
              frameCallbackPending := callback
              frameCallbackRequestedAt := requestedAt }, none)) ∨
      ∃ uploader, surface.uploader = some uploader ∧
        uploader.canUpload = true ∧
        surface.presentFrame clock data damage =
          ((surface.commitFrame uploader clock.requested data damage).1,
            some (surface.commitFrame uploader clock.requested data
              damage).2) := by
  rw [presentFrame]
  by_cases configured : (!surface.configured) = true
  · rw [if_pos configured]
    exact Or.inl ⟨_, _, rfl⟩
  · rw [if_neg configured]
    by_cases awaits : surface.awaitsCallback clock.checked = true
    · rw [if_pos awaits]
      exact Or.inl ⟨_, _, rfl⟩
    · rw [if_neg awaits]
      have overdue : ∃ callback requestedAt,
          (if surface.frameCallbackPending = true then
            { surface with
              frameCallbackPending := false
              frameCallbackRequestedAt := none }
          else surface) =
            { surface with
              frameCallbackPending := callback
              frameCallbackRequestedAt := requestedAt } := by
        by_cases pending : surface.frameCallbackPending = true
        · exact ⟨_, _, if_pos pending⟩
        · exact ⟨_, _, if_neg pending⟩
      obtain ⟨callback, requestedAt, cleared⟩ := overdue
      rw [cleared]
      dsimp only
      cases held : surface.uploader with
      | none => exact Or.inl ⟨callback, requestedAt, rfl⟩
      | some uploader =>
          dsimp only
          by_cases busy : (!uploader.canUpload) = true
          · rw [if_pos busy]
            exact Or.inl ⟨callback, requestedAt, rfl⟩
          · rw [if_neg busy]
            refine Or.inr ⟨uploader, rfl, ?_, rfl⟩
            rw [Bool.not_eq_true', Bool.not_eq_false] at busy
            exact busy

end ManagedSurface

/-! ## The display -/

/-- An event of the compositor. -/
inductive WaylandEvent where
  | release (buffer : WlBuffer)
  | done (surfaceId : UInt16)
  | configure (surfaceId : UInt16)
  deriving DecidableEq, Repr

/-- The surfaces, and how many uploaders were created. -/
structure WaylandDisplay where
  surfaces : List ManagedSurface
  uploaders : Nat

namespace WaylandDisplay

def new : WaylandDisplay := ⟨[], 0⟩

/-- The first surface with the identifier. -/
def getSurface (display : WaylandDisplay) (surfaceId : UInt16) :
    Option ManagedSurface :=
  display.surfaces.find? fun surface => surface.surfaceId == surfaceId

/-- Change the first surface with the identifier. -/
def modifySurface (display : WaylandDisplay) (surfaceId : UInt16)
    (change : ManagedSurface → ManagedSurface) : WaylandDisplay :=
  { display with
    surfaces := display.surfaces.modify
      (display.surfaces.findIdx fun surface =>
        surface.surfaceId == surfaceId) change }

/-- The first part of `create_surface`: add a surface that is not
configured. -/
def addSurface (profile : Profile) (display : WaylandDisplay)
    (surfaceId : UInt16) (width height : UInt32) : Exec WaylandDisplay := do
  let stride ← u32Mul profile width 4
  return { display with
    surfaces := display.surfaces ++
      [{ surfaceId := surfaceId
         uploader := none
         width := width
         height := height
         stride := stride
         configured := false
         frameCallbackPending := false
         frameCallbackRequestedAt := none }] }

/-- The last part of `create_surface`: create the uploader. -/
def initSurfaceUploader (memory : Nat → Except String Unit)
    (display : WaylandDisplay) (surfaceId : UInt16) :
    WaylandDisplay × Except DisplayError Unit :=
  match display.getSurface surfaceId with
  | none => (display, .error (.surfaceNotFound surfaceId))
  | some surface =>
      match surface.uploader with
      | some _ => (display, .ok ())
      | none =>
          match ShmFrameUploader.new memory display.uploaders surface.width
              surface.height surface.stride with
          | .error reason => (display, .error reason)
          | .ok uploader =>
              ({ display.modifySurface surfaceId fun surface =>
                    { surface with
                      uploader := some uploader
                      configured := true } with
                  uploaders := display.uploaders + 1 },
                .ok ())

/-- Remove a surface with its uploader. -/
def destroySurface (display : WaylandDisplay) (surfaceId : UInt16) :
    WaylandDisplay :=
  { display with
    surfaces := display.surfaces.eraseP fun surface =>
      surface.surfaceId == surfaceId }

/-- Present a frame to a specific surface. -/
def presentFrame (display : WaylandDisplay) (clock : Clock)
    (surfaceId : UInt16) (data : List UInt8)
    (damage : List DamageRegion) :
    WaylandDisplay × Except DisplayError (Option Commit) :=
  match display.getSurface surfaceId with
  | none => (display, .error (.surfaceNotFound surfaceId))
  | some surface =>
      let (presented, commit) := surface.presentFrame clock data damage
      (display.modifySurface surfaceId fun _ => presented, .ok commit)

/-- Recreate the uploader with new dimensions. -/
def resizeSurface (profile : Profile) (memory : Nat → Except String Unit)
    (display : WaylandDisplay) (surfaceId : UInt16)
    (width height : UInt32) :
    Exec (WaylandDisplay × Except DisplayError Unit) :=
  match display.getSurface surfaceId with
  | none => .ok (display, .error (.surfaceNotFound surfaceId))
  | some surface =>
      if surface.width = width ∧ surface.height = height then
        .ok (display, .ok ())
      else do
        let stride ← u32Mul profile width 4
        let resized := { surface with
          width := width
          height := height
          stride := stride }
        match ShmFrameUploader.new memory display.uploaders width height
            stride with
        | .error reason =>
            return (display.modifySurface surfaceId fun _ => resized,
              .error reason)
        | .ok uploader =>
            return ({ display.modifySurface surfaceId fun _ =>
                  { resized with uploader := some uploader } with
                uploaders := display.uploaders + 1 },
              .ok ())

/-- Handle an event of the compositor. -/
def dispatch (display : WaylandDisplay) : WaylandEvent → WaylandDisplay
  | .release buffer =>
      { display with
        surfaces := display.surfaces.map fun surface =>
          { surface with
            uploader := surface.uploader.map fun uploader =>
              uploader.markReleased buffer.index.val } }
  | .done surfaceId =>
      display.modifySurface surfaceId fun surface =>
        { surface with
          frameCallbackPending := false
          frameCallbackRequestedAt := none }
  | .configure surfaceId =>
      display.modifySurface surfaceId fun surface =>
        { surface with configured := true }

/-! ### Changing one surface -/

variable {display : WaylandDisplay} {surfaceId : UInt16}
variable {surface : ManagedSurface}

theorem getSurface_eq_some_iff :
    display.getSurface surfaceId = some surface ↔
      surface.surfaceId = surfaceId ∧
        ∃ earlier later, display.surfaces = earlier ++ surface :: later ∧
          ∀ other, other ∈ earlier → other.surfaceId ≠ surfaceId := by
  rw [getSurface, List.find?_eq_some_iff_append, beq_iff_eq]
  simp only [Bool.not_eq_true', beq_eq_false_iff_ne]

theorem mem_of_getSurface
    (found : display.getSurface surfaceId = some surface) :
    surface ∈ display.surfaces :=
  List.mem_of_find?_eq_some found

theorem surfaceId_of_getSurface
    (found : display.getSurface surfaceId = some surface) :
    surface.surfaceId = surfaceId :=
  (getSurface_eq_some_iff.mp found).1

theorem modifySurface_of_none (change : ManagedSurface → ManagedSurface)
    (missing : display.getSurface surfaceId = none) :
    display.modifySurface surfaceId change = display := by
  rw [getSurface, List.find?_eq_none] at missing
  have unchanged : changeFirst (·.surfaceId == surfaceId) change
      display.surfaces = display.surfaces := by
    apply changeFirst_of_none
    intro surface member
    exact Bool.eq_false_iff.mpr (missing surface member)
  exact congrArg (fun surfaces => { display with surfaces := surfaces })
    unchanged

theorem surfaces_modifySurface_of_split
    (change : ManagedSurface → ManagedSurface)
    {earlier later : List ManagedSurface}
    (split : display.surfaces = earlier ++ surface :: later)
    (others : ∀ other, other ∈ earlier → other.surfaceId ≠ surfaceId)
    (here : surface.surfaceId = surfaceId) :
    (display.modifySurface surfaceId change).surfaces =
      earlier ++ change surface :: later := by
  have changed : changeFirst (·.surfaceId == surfaceId) change
      (earlier ++ surface :: later) = earlier ++ change surface :: later := by
    apply changeFirst_append_cons
    · intro other member
      exact beq_eq_false_iff_ne.mpr (others other member)
    · exact beq_iff_eq.mpr here
  rw [← changed, ← split]
  rfl

theorem mem_surfaces_modifySurface
    {change : ManagedSurface → ManagedSurface} {changed : ManagedSurface}
    (member : changed ∈ (display.modifySurface surfaceId change).surfaces) :
    changed ∈ display.surfaces ∨
      ∃ surface, display.getSurface surfaceId = some surface ∧
        changed = change surface := by
  cases found : display.getSurface surfaceId with
  | none =>
      rw [modifySurface_of_none change found] at member
      exact Or.inl member
  | some surface =>
      obtain ⟨here, earlier, later, split, others⟩ :=
        getSurface_eq_some_iff.mp found
      rw [surfaces_modifySurface_of_split change split others here]
        at member
      rw [split]
      rcases List.mem_append.mp member with front | rest
      · exact Or.inl (List.mem_append_left _ front)
      · rcases List.mem_cons.mp rest with same | back
        · exact Or.inr ⟨surface, rfl, same⟩
        · apply Or.inl
          apply List.mem_append_right
          exact List.mem_cons_of_mem surface back

theorem getSurface_modifySurface
    (change : ManagedSurface → ManagedSurface)
    (found : display.getSurface surfaceId = some surface)
    (kept : (change surface).surfaceId = surfaceId) :
    (display.modifySurface surfaceId change).getSurface surfaceId =
      some (change surface) := by
  obtain ⟨here, earlier, later, split, others⟩ :=
    getSurface_eq_some_iff.mp found
  apply getSurface_eq_some_iff.mpr
  exact ⟨kept, earlier, later,
    surfaces_modifySurface_of_split change split others here, others⟩

/-! ### What a call can do -/

/-- The surface is missing, or its own `present_frame` decides. -/
theorem presentFrame_cases (display : WaylandDisplay) (clock : Clock)
    (surfaceId : UInt16) (data : List UInt8)
    (damage : List DamageRegion) :
    (∃ reason, display.presentFrame clock surfaceId data damage =
        (display, .error reason)) ∨
      ∃ surface, display.getSurface surfaceId = some surface ∧
        ((∃ callback requestedAt,
            display.presentFrame clock surfaceId data damage =
              (display.modifySurface surfaceId fun _ =>
                { surface with
                  frameCallbackPending := callback
                  frameCallbackRequestedAt := requestedAt }, .ok none)) ∨
          ∃ uploader, surface.uploader = some uploader ∧
            uploader.canUpload = true ∧
            display.presentFrame clock surfaceId data damage =
              (display.modifySurface surfaceId fun _ =>
                  (surface.commitFrame uploader clock.requested data
                    damage).1,
                .ok (some (surface.commitFrame uploader clock.requested data
                  damage).2))) := by
  cases found : display.getSurface surfaceId with
  | none =>
      refine Or.inl ⟨.surfaceNotFound surfaceId, ?_⟩
      rw [presentFrame, found]
  | some surface =>
      refine Or.inr ⟨surface, rfl, ?_⟩
      rw [presentFrame, found]
      dsimp only
      rcases surface.presentFrame_cases clock data damage with
        ⟨callback, requestedAt, skipped⟩ | ⟨uploader, held, free, committed⟩
      · rw [skipped]
        exact Or.inl ⟨callback, requestedAt, rfl⟩
      · rw [committed]
        exact Or.inr ⟨uploader, held, free, rfl⟩

/-- A call changes at most one surface, which keeps its uploader or is given
a new one. -/
inductive Refits (display : WaylandDisplay) : WaylandDisplay → Prop where
  | same : Refits display display
  | kept (surfaceId : UInt16) (change : ManagedSurface → ManagedSurface) :
      (∀ surface, display.getSurface surfaceId = some surface →
        (change surface).uploader = surface.uploader) →
      Refits display (display.modifySurface surfaceId change)
  | fresh (surfaceId : UInt16) (change : ManagedSurface → ManagedSurface)
      (surface : ManagedSurface) (width height stride : UInt32) :
      display.getSurface surfaceId = some surface →
      (change surface).uploader =
        some (.zeroed display.uploaders width height stride) →
      Refits display { display.modifySurface surfaceId change with
        uploaders := display.uploaders + 1 }

theorem refits_initSurfaceUploader (memory : Nat → Except String Unit)
    (display : WaylandDisplay) (surfaceId : UInt16) :
    Refits display (display.initSurfaceUploader memory surfaceId).1 := by
  rw [initSurfaceUploader]
  cases found : display.getSurface surfaceId with
  | none => exact .same
  | some surface =>
      dsimp only
      cases surface.uploader with
      | some uploader => exact .same
      | none =>
          dsimp only
          cases created : ShmFrameUploader.new memory display.uploaders
              surface.width surface.height surface.stride with
          | error reason => exact .same
          | ok uploader =>
              apply Refits.fresh surfaceId _ surface surface.width
                surface.height surface.stride found
              rw [← (ShmFrameUploader.new_eq_ok created).2]

theorem refits_resizeSurface {profile : Profile}
    {memory : Nat → Except String Unit} {width height : UInt32}
    {resized : WaylandDisplay} {result : Except DisplayError Unit}
    (done : display.resizeSurface profile memory surfaceId width height =
      .ok (resized, result)) : Refits display resized := by
  rw [resizeSurface] at done
  cases found : display.getSurface surfaceId with
  | none =>
      rw [found] at done
      injection done with same
      injection same with same
      rw [← same]
      exact .same
  | some surface =>
      rw [found] at done
      dsimp only at done
      by_cases unchanged : surface.width = width ∧ surface.height = height
      · rw [if_pos unchanged] at done
        injection done with same
        injection same with same
        rw [← same]
        exact .same
      · rw [if_neg unchanged, bind_eq_ok_iff] at done
        obtain ⟨stride, _, done⟩ := done
        cases created : ShmFrameUploader.new memory display.uploaders width
            height stride with
        | error reason =>
            rw [created] at done
            injection done with same
            injection same with same
            rw [← same]
            apply Refits.kept surfaceId
            intro other found'
            rw [found] at found'
            injection found' with found'
            rw [← found']
        | ok uploader =>
            rw [created] at done
            injection done with same
            injection same with same
            rw [← same]
            apply Refits.fresh surfaceId _ surface width height stride found
            rw [← (ShmFrameUploader.new_eq_ok created).2]

end WaylandDisplay

end RemoteWay.Display
