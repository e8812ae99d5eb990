import RemoteWay.Display.ResizeGeometry
import RemoteWay.Display.Thread

/-!
# What is committed for a frame

When the display thread presents a frame, the surface has the dimensions of
the frame, and the buffers of the surface have rows of `width * 4` bytes.
The buffer that is committed holds the first bytes of the frame's data.
-/

namespace RemoteWay.Display

open RemoteWay.Base

/-! ## Surfaces in the display thread -/

/-- The uploader has buffers of unpadded rows for these dimensions. -/
structure ShmFrameUploader.Fits (uploader : ShmFrameUploader)
    (width height : UInt32) : Prop where
  sized : uploader.Sized
  width_eq : uploader.width = width
  height_eq : uploader.height = height
  stride_eq : uploader.stride.toNat = width.toNat * 4

/-- The stride and the uploader of the surface agree with its dimensions. -/
structure ManagedSurface.Ready (surface : ManagedSurface) : Prop where
  stride : surface.stride = surface.width * 4
  fits : ∀ uploader, surface.uploader = some uploader →
    uploader.Fits surface.width surface.height

def WaylandDisplay.Ready (display : WaylandDisplay) : Prop :=
  ∀ surface, surface ∈ display.surfaces → surface.Ready

theorem ShmFrameUploader.fits_zeroed
    {memory : Nat → Except String Unit} {id : Nat} {width height : UInt32}
    (granted : GrantsUploader memory width height) :
    (zeroed id width height (width * 4)).Fits width height := by
  refine ⟨sized_zeroed _ _ _ _, rfl, rfl, ?_⟩
  have product := UInt32.toNat_mul width 4
  exact product.trans (Nat.mod_eq_of_lt granted.1)

namespace ShmFrameUploader

variable {uploader : ShmFrameUploader} {width height : UInt32}

theorem Fits.uploadSwap (fits : uploader.Fits width height)
    (data : List UInt8) : (uploader.upload data).swap.Fits width height :=
  ⟨fits.sized.upload data, fits.width_eq, fits.height_eq, fits.stride_eq⟩

theorem Fits.markReleased (fits : uploader.Fits width height)
    (bufferIdx : Nat) :
    (uploader.markReleased bufferIdx).Fits width height := by
  rw [ShmFrameUploader.markReleased]
  by_cases inside : bufferIdx < 2
  · rw [dif_pos inside]
    exact ⟨fits.sized, fits.width_eq, fits.height_eq, fits.stride_eq⟩
  · rw [dif_neg inside]
    exact fits

end ShmFrameUploader

/-- What is committed for a frame on a surface of its dimensions. -/
structure Shows (frame : DisplayFrame) (commit : Commit) : Prop where
  surfaceId : commit.surfaceId = frame.surfaceId
  width : commit.picture.width = frame.width
  height : commit.picture.height = frame.height
  stride : commit.picture.stride.toNat = frame.width.toNat * 4
  data : frame.width.toNat * 4 * frame.height.toNat ≤ frame.data.length →
    commit.picture.data =
      frame.data.take (frame.width.toNat * 4 * frame.height.toNat)
  damage : commit.damage =
    if frame.damage.isEmpty then
      [⟨0, 0, frame.width.toInt32, frame.height.toInt32⟩]
    else
      frame.damage.map DamageRegion.request

namespace WaylandDisplay

variable {display : WaylandDisplay} {surfaceId : UInt16}

theorem Ready.modifySurface (ready : display.Ready)
    {change : ManagedSurface → ManagedSurface}
    (changed : ∀ surface, display.getSurface surfaceId = some surface →
      surface.Ready → (change surface).Ready) :
    (display.modifySurface surfaceId change).Ready := by
  intro surface member
  rcases mem_surfaces_modifySurface member with
    old | ⟨earlier, found, rfl⟩
  · exact ready surface old
  · apply changed earlier found
    exact ready earlier (mem_of_getSurface found)

theorem Ready.addSurface (ready : display.Ready) {profile : Profile}
    {width height : UInt32} {added : WaylandDisplay}
    (done : display.addSurface profile surfaceId width height =
      .ok added) : added.Ready := by
  rw [WaylandDisplay.addSurface, bind_eq_ok_iff] at done
  obtain ⟨stride, product, done⟩ := done
  injection done with same
  rw [← same]
  intro surface member
  rcases List.mem_append.mp member with old | new
  · exact ready surface old
  · rw [List.mem_singleton.mp new]
    refine ⟨(u32Mul_eq_ok product).symm, ?_⟩
    intro uploader held
    cases held

theorem Ready.initSurfaceUploader (ready : display.Ready)
    {memory : Nat → Except String Unit} {initialized : WaylandDisplay}
    (done : display.initSurfaceUploader memory surfaceId =
      (initialized, .ok ())) : initialized.Ready := by
  cases found : display.getSurface surfaceId with
  | none =>
      rw [WaylandDisplay.initSurfaceUploader, found] at done
      injection done with _ impossible
      cases impossible
  | some surface =>
      have stride := (ready surface (mem_of_getSurface found)).stride
      rcases initSurfaceUploader_cases memory found stride with
        ⟨_, kept⟩ | ⟨_, ⟨granted, created⟩ | ⟨_, reason, refused⟩⟩
      · rw [kept] at done
        injection done with same
        rw [← same]
        exact ready
      · rw [created] at done
        injection done with same
        rw [← same]
        apply Ready.modifySurface ready
        intro changing found' _
        rw [found] at found'
        injection found' with same
        rw [← same]
        refine ⟨stride, ?_⟩
        intro uploader held
        injection held with same
        rw [← same]
        exact ShmFrameUploader.fits_zeroed granted
      · rw [refused] at done
        injection done with _ impossible
        cases impossible

theorem Ready.resizeSurface (ready : display.Ready) {profile : Profile}
    {memory : Nat → Except String Unit} {width height : UInt32}
    {surface : ManagedSurface} {resized : WaylandDisplay}
    (found : display.getSurface surfaceId = some surface)
    (done : display.resizeSurface profile memory surfaceId width height =
      .ok (resized, .ok ())) :
    resized.Ready ∧
      ∀ latest, resized.getSurface surfaceId = some latest →
        latest.width = width ∧ latest.height = height := by
  rcases resizeSurface_cases found done with
    ⟨unchanged, rfl, _⟩ | ⟨_, ⟨granted, _, rfl⟩ | ⟨_, ⟨_, impossible⟩, _⟩⟩
  · refine ⟨ready, ?_⟩
    intro latest same
    rw [found] at same
    injection same with same
    rw [← same]
    exact unchanged
  · constructor
    · apply Ready.modifySurface ready
      intro changing _ _
      refine ⟨rfl, ?_⟩
      intro uploader held
      injection held with same
      rw [← same]
      exact ShmFrameUploader.fits_zeroed granted
    · intro latest changed
      have identifier := surfaceId_of_getSurface found
      have here := getSurface_modifySurface
        (fun _ =>
          { surface with
            width := width
            height := height
            stride := width * 4
            uploader := some (.zeroed display.uploaders width height
              (width * 4)) })
        found identifier
      have same := here.symm.trans changed
      injection same with same
      rw [← same]
      exact ⟨rfl, rfl⟩
  · cases impossible

/-- Resizing makes the dimensions those of the frame. -/
theorem Ready.resizeIfNeeded (ready : display.Ready) {profile : Profile}
    {memory : Nat → Except String Unit} {frame : DisplayFrame}
    {resized : WaylandDisplay}
    (done : resizeIfNeeded profile memory display frame =
      .ok (resized, .ok ())) :
    resized.Ready ∧
      ∀ surface, resized.getSurface frame.surfaceId = some surface →
        surface.width = frame.width ∧ surface.height = frame.height := by
  rw [Display.resizeIfNeeded] at done
  cases found : display.getSurface frame.surfaceId with
  | none =>
      rw [found] at done
      injection done with same
      injection same with same
      rw [← same]
      refine ⟨ready, ?_⟩
      intro surface other
      rw [found] at other
      cases other
  | some surface =>
      rw [found] at done
      dsimp only at done
      by_cases differ : surface.width ≠ frame.width ∨
          surface.height ≠ frame.height
      · rw [if_pos differ] at done
        exact ready.resizeSurface found done
      · rw [if_neg differ] at done
        injection done with same
        injection same with same
        rw [← same]
        refine ⟨ready, ?_⟩
        intro other latest
        rw [found] at latest
        injection latest with latest
        rw [← latest]
        rw [not_or, not_not, not_not] at differ
        exact differ

theorem Ready.dispatch (ready : display.Ready) (event : WaylandEvent) :
    (display.dispatch event).Ready := by
  cases event with
  | release buffer =>
      intro surface member
      obtain ⟨earlier, old, same⟩ := List.mem_map.mp member
      rw [← same]
      refine ⟨(ready earlier old).stride, ?_⟩
      intro uploader held
      obtain ⟨unmarked, kept, marked⟩ := Option.map_eq_some_iff.mp held
      rw [← marked]
      exact ((ready earlier old).fits unmarked kept).markReleased _
  | done surfaceId =>
      apply Ready.modifySurface ready
      intro surface _ old
      exact ⟨old.stride, old.fits⟩
  | configure surfaceId =>
      apply Ready.modifySurface ready
      intro surface _ old
      exact ⟨old.stride, old.fits⟩

/-- What a surface of the frame's dimensions commits shows the frame. -/
theorem shows_commitFrame {frame : DisplayFrame} {surface : ManagedSurface}
    {uploader : ShmFrameUploader}
    (found : display.getSurface frame.surfaceId = some surface)
    (width : surface.width = frame.width)
    (height : surface.height = frame.height)
    (fits : uploader.Fits surface.width surface.height)
    (requestedAt : Nat) :
    Shows frame (surface.commitFrame uploader requestedAt frame.data
      frame.damage).2 := by
  rw [width, height] at fits
  exact
    { surfaceId := surfaceId_of_getSurface found
      width := fits.width_eq
      height := fits.height_eq
      stride := fits.stride_eq
      data := by
        intro whole
        have size : uploader.bufferSize =
            frame.width.toNat * 4 * frame.height.toNat := by
          rw [ShmFrameUploader.bufferSize, fits.stride_eq, fits.height_eq]
        rw [← size] at whole ⊢
        exact ShmFrameUploader.contents_upload fits.sized whole
      damage := by
        change ManagedSurface.submittedDamage _ _ = _
        rw [ManagedSurface.submittedDamage, width, height] }

/-- Presenting a frame at the dimensions of its surface. -/
theorem Ready.presentFrame (ready : display.Ready) {clock : Clock}
    {frame : DisplayFrame} {presented : WaylandDisplay}
    {outcome : Option Commit}
    (dimensions : ∀ surface,
      display.getSurface frame.surfaceId = some surface →
        surface.width = frame.width ∧ surface.height = frame.height)
    (done : display.presentFrame clock frame.surfaceId frame.data
      frame.damage = (presented, .ok outcome)) :
    presented.Ready ∧
      ∀ commit, outcome = some commit → Shows frame commit := by
  rcases display.presentFrame_cases clock frame.surfaceId frame.data
      frame.damage with ⟨reason, failed⟩ | ⟨surface, found, cases⟩
  · rw [failed] at done
    injection done with _ impossible
    cases impossible
  · have here := ready surface (mem_of_getSurface found)
    obtain ⟨width, height⟩ := dimensions surface found
    rcases cases with ⟨callback, requestedAt, skipped⟩ |
      ⟨uploader, held, _, committed⟩
    · rw [skipped] at done
      injection done with same result
      injection result with result
      rw [← same, ← result]
      constructor
      · apply Ready.modifySurface ready
        intro changing _ _
        exact ⟨here.stride, here.fits⟩
      · intro commit impossible
        cases impossible
    · have fits := here.fits uploader held
      rw [committed] at done
      injection done with same result
      injection result with result
      rw [← same, ← result]
      constructor
      · apply Ready.modifySurface ready
        intro changing _ _
        refine ⟨here.stride, ?_⟩
        intro swapped latest
        injection latest with latest
        rw [← latest]
        exact fits.uploadSwap frame.data
      · intro commit same
        injection same with same
        rw [← same]
        exact shows_commitFrame found width height fits clock.requested

end WaylandDisplay

/-! ## The thread -/

/-- What holds in every state of the display thread. -/
structure DisplayThread.Sound (thread : DisplayThread) : Prop where
  ready : thread.display.Ready
  shown : ∀ entry, entry ∈ thread.committed →
    Shows entry.1.frame entry.2

theorem DisplayThread.sound_spawn : spawn.Sound :=
  ⟨nofun, nofun⟩

/-- Every step keeps the surfaces ready and commits what it should. -/
theorem DisplayThread.Sound.perform {profile : Profile} {capacity : Nat}
    {before after : DisplayThread} {action : DisplayAction}
    (sound : before.Sound)
    (performed : before.perform profile capacity action = some after) :
    after.Sound := by
  cases action with
  | sendFrame frame =>
      rcases perform_sendFrame performed with ⟨_, rfl⟩ | ⟨_, rfl⟩
      · exact ⟨sound.ready, sound.shown⟩
      · exact ⟨sound.ready, sound.shown⟩
  | dispatch event =>
      obtain ⟨_, rfl⟩ := perform_dispatch performed
      exact ⟨sound.ready.dispatch event, sound.shown⟩
  | pop =>
      obtain ⟨item, ring, _, rfl⟩ := perform_pop performed
      exact ⟨sound.ready, sound.shown⟩
  | drained =>
      obtain ⟨_, ⟨_, rfl⟩ | ⟨item, _, ⟨_, rfl⟩ | ⟨display, _, added, rfl⟩⟩⟩ :=
        perform_drained performed
      · exact ⟨sound.ready, sound.shown⟩
      · exact ⟨sound.ready, sound.shown⟩
      · exact ⟨sound.ready.addSurface added, sound.shown⟩
  | created memory =>
      obtain ⟨item, display, _, initialized, rfl⟩ :=
        perform_created performed
      exact ⟨sound.ready.initSurfaceUploader initialized, sound.shown⟩
  | present clock memory =>
      obtain ⟨item, resized, display, outcome, _, resizing, presented,
        result⟩ := perform_present performed
      obtain ⟨ready, dimensions⟩ := sound.ready.resizeIfNeeded resizing
      obtain ⟨later, shown⟩ := ready.presentFrame dimensions presented
      rcases result with ⟨_, rfl⟩ | ⟨commit, committed, rfl⟩
      · exact ⟨later, sound.shown⟩
      · refine ⟨later, ?_⟩
        intro entry member
        rcases List.mem_append.mp member with old | new
        · exact sound.shown entry old
        · rw [List.mem_singleton.mp new]
          exact shown commit committed

end RemoteWay.Display
