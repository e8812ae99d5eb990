import Mathlib.Data.List.Nodup
import RemoteWay.Base.Runs
import RemoteWay.Display.Surface

/-!
# Who owns a buffer

The compositor holds a buffer from its commit until it releases it; the
event that says so is dispatched later.  The event names one buffer, but its
handler marks the buffers with the same index of all surfaces.  The marks
are right as long as the compositor holds none of these.
-/

namespace RemoteWay.Display

open RemoteWay.Base

/-- A display with its compositor: the surface that `create_surface` is
waiting for, the buffers that the compositor holds, and its release events
that are not yet dispatched. -/
structure SharedDisplay where
  display : WaylandDisplay
  creating : Option UInt16
  held : List WlBuffer
  releases : List WlBuffer

/-- A call, a release by the compositor, or the dispatch of an event.
`create_surface` begins, and ends when its roundtrip does. -/
inductive SurfaceAction where
  | beginCreate (surfaceId : UInt16) (width height : UInt32)
  | finishCreate (memory : Nat → Except String Unit)
  | failCreate
  | present (clock : Clock) (surfaceId : UInt16) (data : List UInt8)
      (damage : List DamageRegion)
  | resize (memory : Nat → Except String Unit) (surfaceId : UInt16)
      (width height : UInt32)
  | destroy (surfaceId : UInt16)
  | release (buffer : WlBuffer)
  | dispatch (event : WaylandEvent)

/-- A buffer of the surface that is marked as released is not held. -/
def ManagedSurface.MarksFree (surface : ManagedSurface)
    (held : List WlBuffer) : Prop :=
  ∀ uploader, surface.uploader = some uploader →
    ∀ index, uploader.released index = true →
      (⟨uploader.id, index⟩ : WlBuffer) ∉ held

namespace SharedDisplay

def new : SharedDisplay := ⟨.new, none, [], []⟩

/-- A call of the display, between two others. -/
def call (profile : Profile) (state : SharedDisplay) :
    SurfaceAction → Option SharedDisplay
  | .beginCreate surfaceId width height =>
      match state.display.addSurface profile surfaceId width height with
      | .error _ => none
      | .ok display =>
          some { state with display := display, creating := some surfaceId }
  | .present clock surfaceId data damage =>
      match state.display.presentFrame clock surfaceId data damage with
      | (display, .ok (some commit)) =>
          some { state with
            display := display
            held := commit.buffer :: state.held }
      | (display, _) => some { state with display := display }
  | .resize memory surfaceId width height =>
      match state.display.resizeSurface profile memory surfaceId width
          height with
      | .error _ => none
      | .ok (display, _) => some { state with display := display }
  | .destroy surfaceId =>
      some { state with display := state.display.destroySurface surfaceId }
  | _ => none

/-- No call while `create_surface` waits. -/
def whenIdle (state : SharedDisplay) (next : Option SharedDisplay) :
    Option SharedDisplay :=
  match state.creating with
  | none => next
  | some _ => none

/-- Calls come one after the other; the compositor acts at any time. -/
def perform (profile : Profile) (state : SharedDisplay)
    (action : SurfaceAction) : Option SharedDisplay :=
  match action with
  | .release buffer =>
      if buffer ∈ state.held then
        some { state with
          held := state.held.erase buffer
          releases := state.releases ++ [buffer] }
      else
        none
  | .dispatch (.release buffer) =>
      if buffer ∈ state.releases then
        some { state with
          display := state.display.dispatch (.release buffer)
          releases := state.releases.erase buffer }
      else
        none
  | .dispatch event =>
      some { state with display := state.display.dispatch event }
  | .finishCreate memory =>
      match state.creating with
      | none => none
      | some surfaceId =>
          some { state with
            display :=
              (state.display.initSurfaceUploader memory surfaceId).1
            creating := none }
  | .failCreate =>
      match state.creating with
      | none => none
      | some _ => some { state with creating := none }
  | action => state.whenIdle (state.call profile action)

/-- The steps of the display and its compositor. -/
abbrev Step (profile : Profile) (before : SharedDisplay)
    (action : SurfaceAction) (after : SharedDisplay) : Prop :=
  before.perform profile action = some after

/-! ## Ownership -/

/-- Every buffer that is marked as released is not held. -/
def Owned (state : SharedDisplay) : Prop :=
  ∀ surface, surface ∈ state.display.surfaces →
    surface.MarksFree state.held

/-- Nothing is written into a buffer that is held. -/
def WritesFree (state : SharedDisplay) : SurfaceAction → Prop
  | .present clock surfaceId data damage =>
      ∀ display commit,
        state.display.presentFrame clock surfaceId data damage =
            (display, .ok (some commit)) →
          commit.buffer ∉ state.held
  | _ => True

/-- When a release event is dispatched, the compositor holds the buffer with
that index of no surface. -/
def ReleasesFree (state : SharedDisplay) : SurfaceAction → Prop
  | .dispatch (.release buffer) =>
      ∀ surface, surface ∈ state.display.surfaces →
        ∀ uploader, surface.uploader = some uploader →
          (⟨uploader.id, buffer.index⟩ : WlBuffer) ∉ state.held
  | _ => True

end SharedDisplay

/-! ## Uploaders are told apart -/

namespace WaylandDisplay

variable {display : WaylandDisplay} {surfaceId : UInt16}

/-- The identifiers of the uploaders. -/
def ids (surfaces : List ManagedSurface) : List Nat :=
  surfaces.filterMap fun surface =>
    surface.uploader.map ShmFrameUploader.id

theorem id_mem_ids {surfaces : List ManagedSurface}
    {surface : ManagedSurface} {uploader : ShmFrameUploader}
    (member : surface ∈ surfaces)
    (held : surface.uploader = some uploader) :
    uploader.id ∈ ids surfaces := by
  apply List.mem_filterMap.mpr
  exact ⟨surface, member, by rw [held]; rfl⟩

/-- The uploaders are distinct and have been created. -/
structure Distinct (display : WaylandDisplay) : Prop where
  nodup : (ids display.surfaces).Nodup
  created : ∀ id, id ∈ ids display.surfaces → id < display.uploaders

theorem distinct_new : new.Distinct := ⟨.nil, nofun⟩

/-- Changing a surface whose uploader stays the same. -/
theorem ids_modifySurface {change : ManagedSurface → ManagedSurface}
    (kept : ∀ surface, display.getSurface surfaceId = some surface →
      (change surface).uploader.map ShmFrameUploader.id =
        surface.uploader.map ShmFrameUploader.id) :
    ids (display.modifySurface surfaceId change).surfaces =
      ids display.surfaces := by
  cases found : display.getSurface surfaceId with
  | none => rw [modifySurface_of_none change found]
  | some surface =>
      obtain ⟨here, earlier, later, split, others⟩ :=
        getSurface_eq_some_iff.mp found
      rw [surfaces_modifySurface_of_split change split others here, split,
        ids, ids, List.filterMap_append, List.filterMap_append,
        List.filterMap_cons, List.filterMap_cons, kept surface found]

/-- Giving a surface a new uploader. -/
theorem Distinct.replace (distinct : display.Distinct)
    {change : ManagedSurface → ManagedSurface} {surface : ManagedSurface}
    (found : display.getSurface surfaceId = some surface)
    (fresh : (change surface).uploader.map ShmFrameUploader.id =
      some display.uploaders) :
    Distinct { display.modifySurface surfaceId change with
      uploaders := display.uploaders + 1 } := by
  obtain ⟨here, earlier, later, split, others⟩ :=
    getSurface_eq_some_iff.mp found
  have before : ids display.surfaces =
      ids earlier ++ ids (surface :: later) := by
    rw [split, ids, ids, ids, List.filterMap_append]
  have after : ids (display.modifySurface surfaceId change).surfaces =
      ids earlier ++ display.uploaders :: ids later := by
    rw [surfaces_modifySurface_of_split change split others here, ids,
      List.filterMap_append, List.filterMap_cons, fresh]
    rfl
  have rest : (ids earlier ++ ids later).Sublist (ids display.surfaces) := by
    rw [before]
    apply List.Sublist.append_left
    exact List.Sublist.filterMap _ (List.sublist_cons_self surface later)
  have small : ∀ id, id ∈ ids earlier ++ ids later →
      id < display.uploaders :=
    fun id member => distinct.created id (rest.subset member)
  constructor
  · change (ids (display.modifySurface surfaceId change).surfaces).Nodup
    rw [after, List.nodup_middle, List.nodup_cons]
    refine ⟨?_, distinct.nodup.sublist rest⟩
    intro member
    exact Nat.lt_irrefl _ (small _ member)
  · intro id member
    change id ∈ ids (display.modifySurface surfaceId change).surfaces
      at member
    change id < display.uploaders + 1
    rw [after, List.mem_append, List.mem_cons] at member
    rcases member with front | same | back
    · exact Nat.lt_succ_of_lt (small id (List.mem_append_left _ front))
    · rw [same]
      exact Nat.lt_succ_self _
    · exact Nat.lt_succ_of_lt (small id (List.mem_append_right _ back))

theorem Distinct.of_ids (distinct : display.Distinct)
    {after : WaylandDisplay}
    (same : ids after.surfaces = ids display.surfaces)
    (uploaders : after.uploaders = display.uploaders) : after.Distinct where
  nodup := by rw [same]; exact distinct.nodup
  created := by rw [same, uploaders]; exact distinct.created

theorem Distinct.refit (distinct : display.Distinct)
    {after : WaylandDisplay} (refits : Refits display after) :
    after.Distinct := by
  cases refits with
  | same => exact distinct
  | kept surfaceId change kept =>
      refine distinct.of_ids (ids_modifySurface ?_) rfl
      intro surface found
      rw [kept surface found]
  | fresh surfaceId change surface width height stride found new =>
      exact distinct.replace found (by rw [new]; rfl)

theorem Distinct.destroySurface (distinct : display.Distinct) :
    (display.destroySurface surfaceId).Distinct := by
  have fewer : (ids (display.destroySurface surfaceId).surfaces).Sublist
      (ids display.surfaces) := by
    apply List.Sublist.filterMap
    exact List.eraseP_sublist
  exact ⟨distinct.nodup.sublist fewer,
    fun id member => distinct.created id (fewer.subset member)⟩

end WaylandDisplay

/-! ## What keeps the marks right -/

namespace ManagedSurface

variable {surface : ManagedSurface} {held : List WlBuffer}

theorem MarksFree.of_uploader {changed : ManagedSurface}
    (free : surface.MarksFree held)
    (same : changed.uploader = surface.uploader) :
    changed.MarksFree held := by
  intro uploader found
  rw [same] at found
  exact free uploader found

theorem marksFree_fresh {width height stride : UInt32} {id : Nat}
    (fresh : surface.uploader = some (.zeroed id width height stride))
    (older : ∀ buffer, buffer ∈ held → buffer.uploader < id) :
    surface.MarksFree held := by
  intro uploader found index _ member
  rw [fresh] at found
  injection found with same
  rw [← same] at member
  exact Nat.lt_irrefl _ (older _ member)

/-- A committed buffer is held, and no longer marked as released. -/
theorem MarksFree.commitFrame (free : surface.MarksFree held)
    {uploader : ShmFrameUploader}
    (found : surface.uploader = some uploader) (requestedAt : Nat)
    (data : List UInt8) (damage : List DamageRegion) :
    (surface.commitFrame uploader requestedAt data damage).1.MarksFree
      ((surface.commitFrame uploader requestedAt data damage).2.buffer ::
        held) := by
  intro swapped latest index released
  injection latest with same
  subst same
  change Function.update uploader.released uploader.active false index =
    true at released
  by_cases here : index = uploader.active
  · rw [here, Function.update_self] at released
    cases released
  · rw [Function.update_of_ne here] at released
    intro member
    rcases List.mem_cons.mp member with same | old
    · injection same with _ sameIndex
      exact here sameIndex
    · exact free uploader found index released old

/-- A buffer of another uploader may be held. -/
theorem MarksFree.cons (free : surface.MarksFree held) {buffer : WlBuffer}
    (other : ∀ uploader, surface.uploader = some uploader →
      uploader.id ≠ buffer.uploader) :
    surface.MarksFree (buffer :: held) := by
  intro uploader found index released member
  rcases List.mem_cons.mp member with same | old
  · apply other uploader found
    rw [← same]
  · exact free uploader found index released old

end ManagedSurface

namespace SharedDisplay

variable {profile : Profile} {before after : SharedDisplay}

/-- The uploaders are distinct, the held buffers are theirs or those of
earlier ones, and the marks are right. -/
structure Tracked (state : SharedDisplay) : Prop where
  distinct : state.display.Distinct
  older : ∀ buffer, buffer ∈ state.held →
    buffer.uploader < state.display.uploaders
  owned : state.Owned

theorem tracked_new : new.Tracked :=
  ⟨WaylandDisplay.distinct_new, nofun, nofun⟩

theorem Tracked.refit (tracked : before.Tracked)
    {display : WaylandDisplay} {creating : Option UInt16}
    (refits : WaylandDisplay.Refits before.display display) :
    Tracked { before with display := display, creating := creating } := by
  refine ⟨tracked.distinct.refit refits, ?_, ?_⟩
  · intro buffer member
    have older := tracked.older buffer member
    cases refits with
    | same => exact older
    | kept surfaceId change kept => exact older
    | fresh surfaceId change surface width height stride found new =>
        exact Nat.lt_succ_of_lt older
  · intro changed member
    cases refits with
    | same => exact tracked.owned changed member
    | kept surfaceId change kept =>
        rcases WaylandDisplay.mem_surfaces_modifySurface member with
          old | ⟨surface, found, rfl⟩
        · exact tracked.owned changed old
        · have free := tracked.owned surface
            (WaylandDisplay.mem_of_getSurface found)
          exact free.of_uploader (kept surface found)
    | fresh surfaceId change surface width height stride found new =>
        rcases WaylandDisplay.mem_surfaces_modifySurface member with
          old | ⟨surface', found', rfl⟩
        · exact tracked.owned changed old
        · rw [found] at found'
          injection found' with same
          rw [← same]
          exact ManagedSurface.marksFree_fresh new tracked.older

theorem Tracked.commit (tracked : before.Tracked) {surfaceId : UInt16}
    {surface : ManagedSurface} {uploader : ShmFrameUploader}
    (found : before.display.getSurface surfaceId = some surface)
    (held : surface.uploader = some uploader) (requestedAt : Nat)
    (data : List UInt8) (damage : List DamageRegion) :
    Tracked { before with
      display := before.display.modifySurface surfaceId fun _ =>
        (surface.commitFrame uploader requestedAt data damage).1
      held := (surface.commitFrame uploader requestedAt data
        damage).2.buffer :: before.held } := by
  have member := WaylandDisplay.mem_of_getSurface found
  have known := tracked.distinct.created uploader.id
    (WaylandDisplay.id_mem_ids member held)
  refine ⟨?_, ?_, ?_⟩
  · refine tracked.distinct.of_ids (WaylandDisplay.ids_modifySurface ?_) rfl
    intro other found'
    rw [found] at found'
    injection found' with same
    rw [← same, held]
    rfl
  · intro buffer heldNow
    rcases List.mem_cons.mp heldNow with same | old
    · rw [same]
      exact known
    · exact tracked.older buffer old
  · obtain ⟨here, earlier, later, split, others⟩ :=
      WaylandDisplay.getSurface_eq_some_iff.mp found
    have distinct := tracked.distinct.nodup
    rw [split, WaylandDisplay.ids, List.filterMap_append,
      List.filterMap_cons, held] at distinct
    obtain ⟨unique, _⟩ :=
      List.nodup_cons.mp (List.nodup_middle.mp distinct)
    have differs : ∀ other, other ∈ earlier ++ later →
        ∀ uploader', other.uploader = some uploader' →
          uploader'.id ≠ uploader.id := by
      intro other otherMember uploader' otherHeld same
      apply unique
      rw [← List.filterMap_append]
      exact same ▸ WaylandDisplay.id_mem_ids otherMember otherHeld
    intro changed changedMember
    change changed ∈ (before.display.modifySurface surfaceId
      fun _ => _).surfaces at changedMember
    rw [WaylandDisplay.surfaces_modifySurface_of_split _ split others here]
      at changedMember
    have owned := tracked.owned
    rw [Owned, split] at owned
    rcases List.mem_append.mp changedMember with front | rest
    · apply (owned changed (List.mem_append_left _ front)).cons
      exact differs changed (List.mem_append_left _ front)
    · rcases List.mem_cons.mp rest with same | back
      · rw [same]
        exact (tracked.owned surface member).commitFrame held _ _ _
      · have old : changed ∈ earlier ++ surface :: later :=
          List.mem_append_right _ (List.mem_cons_of_mem _ back)
        apply (owned changed old).cons
        exact differs changed (List.mem_append_right _ back)

theorem Tracked.fewer (tracked : before.Tracked)
    {display : WaylandDisplay} {creating : Option UInt16}
    {held releases : List WlBuffer}
    (distinct : display.Distinct)
    (uploaders : display.uploaders = before.display.uploaders)
    (fewer : ∀ buffer, buffer ∈ held → buffer ∈ before.held)
    (free : ∀ surface, surface ∈ display.surfaces →
      surface.MarksFree before.held) :
    Tracked ⟨display, creating, held, releases⟩ := by
  refine ⟨distinct, ?_, ?_⟩
  · intro buffer member
    change buffer.uploader < display.uploaders
    rw [uploaders]
    exact tracked.older buffer (fewer buffer member)
  · intro surface member uploader found index released heldNow
    exact free surface member uploader found index released
      (fewer _ heldNow)

private theorem whenIdle_eq_some {next : Option SharedDisplay}
    (done : before.whenIdle next = some after) : next = some after := by
  rw [whenIdle] at done
  cases creating : before.creating with
  | none =>
      rw [creating] at done
      exact done
  | some surfaceId =>
      rw [creating] at done
      cases done

/-- A new surface has no buffers yet. -/
theorem Tracked.beginCreate (tracked : before.Tracked) {surfaceId : UInt16}
    {width height : UInt32}
    (called : before.call profile (.beginCreate surfaceId width height) =
      some after) : after.Tracked := by
  rw [SharedDisplay.call] at called
  cases added : before.display.addSurface profile surfaceId width height with
  | error panic =>
      rw [added] at called
      cases called
  | ok display =>
      rw [added] at called
      injection called with same
      rw [WaylandDisplay.addSurface, bind_eq_ok_iff] at added
      obtain ⟨stride, _, added⟩ := added
      injection added with sameDisplay
      rw [← same, ← sameDisplay]
      refine tracked.fewer ?_ rfl (fun _ member => member) ?_
      · refine tracked.distinct.of_ids ?_ rfl
        rw [WaylandDisplay.ids, List.filterMap_append]
        exact List.append_nil _
      · intro surface member
        rcases List.mem_append.mp member with old | new
        · exact tracked.owned surface old
        · rw [List.mem_singleton.mp new]
          nofun

/-- A frame is refused, skipped or committed, and only a free buffer is
written. -/
theorem Tracked.present (tracked : before.Tracked) {clock : Clock}
    {surfaceId : UInt16} {data : List UInt8} {damage : List DamageRegion}
    (called : before.call profile (.present clock surfaceId data damage) =
      some after) :
    after.Tracked ∧
      before.WritesFree (.present clock surfaceId data damage) := by
  rw [SharedDisplay.call] at called
  rcases before.display.presentFrame_cases clock surfaceId data damage with
    ⟨reason, failed⟩ | ⟨surface, found, ⟨callback, requestedAt, skipped⟩ |
      ⟨uploader, held, free, committed⟩⟩
  · rw [failed] at called
    injection called with same
    rw [← same]
    refine ⟨tracked.refit .same, ?_⟩
    intro display commit done
    rw [failed] at done
    injection done with _ impossible
    cases impossible
  · rw [skipped] at called
    injection called with same
    rw [← same]
    constructor
    · apply tracked.refit
      apply WaylandDisplay.Refits.kept
      intro other found'
      rw [found] at found'
      injection found' with same
      rw [← same]
    · intro display commit done
      rw [skipped] at done
      injection done with _ impossible
      injection impossible with impossible
      cases impossible
  · rw [committed] at called
    injection called with same
    rw [← same]
    refine ⟨tracked.commit found held _ _ _, ?_⟩
    intro display commit done
    rw [committed] at done
    injection done with _ done
    injection done with done
    injection done with done
    rw [← done]
    exact tracked.owned surface (WaylandDisplay.mem_of_getSurface found)
      uploader held uploader.active free

theorem Tracked.resize (tracked : before.Tracked)
    {memory : Nat → Except String Unit} {surfaceId : UInt16}
    {width height : UInt32}
    (called : before.call profile (.resize memory surfaceId width height) =
      some after) : after.Tracked := by
  rw [SharedDisplay.call] at called
  cases resized : before.display.resizeSurface profile memory surfaceId width
      height with
  | error panic =>
      rw [resized] at called
      cases called
  | ok answer =>
      rw [resized] at called
      injection called with same
      rw [← same]
      exact tracked.refit (WaylandDisplay.refits_resizeSurface resized)

theorem Tracked.destroy (tracked : before.Tracked) {surfaceId : UInt16}
    (called : before.call profile (.destroy surfaceId) = some after) :
    after.Tracked := by
  injection called with same
  rw [← same]
  apply tracked.fewer tracked.distinct.destroySurface rfl
    fun _ member => member
  intro surface member
  exact tracked.owned surface (List.mem_of_mem_eraseP member)

theorem Tracked.call (tracked : before.Tracked) {action : SurfaceAction}
    (called : before.call profile action = some after) :
    after.Tracked ∧ before.WritesFree action := by
  cases action with
  | beginCreate surfaceId width height =>
      exact ⟨tracked.beginCreate called, trivial⟩
  | present clock surfaceId data damage => exact tracked.present called
  | resize memory surfaceId width height =>
      exact ⟨tracked.resize called, trivial⟩
  | destroy surfaceId => exact ⟨tracked.destroy called, trivial⟩
  | finishCreate memory => cases called
  | failCreate => cases called
  | release buffer => cases called
  | dispatch event => cases called

/-! ## Steps other than calls -/

theorem perform_finishCreate {memory : Nat → Except String Unit}
    (performed : before.perform profile (.finishCreate memory) =
      some after) :
    ∃ surfaceId, before.creating = some surfaceId ∧
      after =
        { before with
          display :=
            (before.display.initSurfaceUploader memory surfaceId).1
          creating := none } := by
  rw [SharedDisplay.perform] at performed
  cases creating : before.creating with
  | none =>
      rw [creating] at performed
      cases performed
  | some surfaceId =>
      rw [creating] at performed
      injection performed with same
      exact ⟨surfaceId, rfl, same.symm⟩

theorem perform_failCreate
    (performed : before.perform profile .failCreate = some after) :
    after = { before with creating := none } := by
  rw [SharedDisplay.perform] at performed
  cases creating : before.creating with
  | none =>
      rw [creating] at performed
      cases performed
  | some surfaceId =>
      rw [creating] at performed
      injection performed with same
      exact same.symm

/-- The compositor releases a buffer that it holds. -/
theorem perform_release {buffer : WlBuffer}
    (performed : before.perform profile (.release buffer) = some after) :
    buffer ∈ before.held ∧
      after =
        { before with
          held := before.held.erase buffer
          releases := before.releases ++ [buffer] } := by
  rw [SharedDisplay.perform] at performed
  obtain ⟨held, same⟩ := Option.ite_none_right_eq_some.mp performed
  injection same with same
  exact ⟨held, same.symm⟩

/-- A release event is dispatched once. -/
theorem perform_dispatchRelease {buffer : WlBuffer}
    (performed : before.perform profile (.dispatch (.release buffer)) =
      some after) :
    buffer ∈ before.releases ∧
      after =
        { before with
          display := before.display.dispatch (.release buffer)
          releases := before.releases.erase buffer } := by
  rw [SharedDisplay.perform] at performed
  obtain ⟨queued, same⟩ := Option.ite_none_right_eq_some.mp performed
  injection same with same
  exact ⟨queued, same.symm⟩

/-- The handler of a release event marks all surfaces. -/
theorem Tracked.dispatchRelease (tracked : before.Tracked)
    {buffer : WlBuffer} {releases : List WlBuffer}
    (free : before.ReleasesFree (.dispatch (.release buffer))) :
    Tracked { before with
      display := before.display.dispatch (.release buffer)
      releases := releases } := by
  refine tracked.fewer ?_ rfl (fun _ member => member) ?_
  · refine tracked.distinct.of_ids ?_ rfl
    rw [WaylandDisplay.dispatch, WaylandDisplay.ids, WaylandDisplay.ids,
      List.filterMap_map]
    congr 1
    funext surface
    change (surface.uploader.map _).map _ = _
    cases surface.uploader with
    | none => rfl
    | some uploader =>
        change some (uploader.markReleased buffer.index).id = _
        rw [ShmFrameUploader.markReleased, dif_pos buffer.index.isLt]
        rfl
  · intro marked member
    obtain ⟨surface, old, same⟩ := List.mem_map.mp member
    rw [← same]
    intro uploader found index released
    obtain ⟨unmarked, held, rfl⟩ := Option.map_eq_some_iff.mp found
    rw [ShmFrameUploader.markReleased, dif_pos buffer.index.isLt] at released
    rw [ShmFrameUploader.markReleased, dif_pos buffer.index.isLt]
    change Function.update unmarked.released buffer.index true index = true
      at released
    by_cases here : index = buffer.index
    · rw [here]
      exact free surface old unmarked held
    · rw [Function.update_of_ne here] at released
      exact tracked.owned surface old unmarked held index released

/-- Every step whose release event finds the buffers free keeps the marks
right, and writes into no held buffer. -/
theorem Tracked.perform (tracked : before.Tracked) {action : SurfaceAction}
    (performed : before.perform profile action = some after)
    (free : before.ReleasesFree action) :
    after.Tracked ∧ before.WritesFree action := by
  cases action with
  | beginCreate surfaceId width height =>
      exact tracked.call (whenIdle_eq_some performed)
  | present clock surfaceId data damage =>
      exact tracked.call (whenIdle_eq_some performed)
  | resize memory surfaceId width height =>
      exact tracked.call (whenIdle_eq_some performed)
  | destroy surfaceId => exact tracked.call (whenIdle_eq_some performed)
  | finishCreate memory =>
      refine ⟨?_, trivial⟩
      obtain ⟨surfaceId, _, rfl⟩ := perform_finishCreate performed
      exact tracked.refit
        (WaylandDisplay.refits_initSurfaceUploader _ _ _)
  | failCreate =>
      refine ⟨?_, trivial⟩
      rw [perform_failCreate performed]
      exact tracked.refit .same
  | release buffer =>
      refine ⟨?_, trivial⟩
      obtain ⟨_, rfl⟩ := perform_release performed
      exact tracked.fewer tracked.distinct rfl
        (fun _ member => List.mem_of_mem_erase member) tracked.owned
  | dispatch event =>
      refine ⟨?_, trivial⟩
      cases event with
      | release buffer =>
          obtain ⟨_, rfl⟩ := perform_dispatchRelease performed
          exact tracked.dispatchRelease free
      | done surfaceId =>
          injection performed with same
          rw [← same]
          exact tracked.refit (.kept surfaceId _ fun _ _ => rfl)
      | configure surfaceId =>
          injection performed with same
          rw [← same]
          exact tracked.refit (.kept surfaceId _ fun _ _ => rfl)

/-- Right marks after the dispatch of a release event mean that the buffers
were free. -/
theorem releasesFree_of_owned {action : SurfaceAction}
    (performed : before.perform profile action = some after)
    (owned : after.Owned) : before.ReleasesFree action := by
  cases action with
  | dispatch event =>
      cases event with
      | release buffer =>
          obtain ⟨_, rfl⟩ := perform_dispatchRelease performed
          intro surface member uploader held
          have free := owned _ (List.mem_map_of_mem member)
            (uploader.markReleased buffer.index)
            (by rw [held]; rfl) buffer.index
          rw [ShmFrameUploader.markReleased,
            dif_pos buffer.index.isLt] at free
          exact free (Function.update_self _ _ _)
      | done surfaceId => trivial
      | configure surfaceId => trivial
  | beginCreate surfaceId width height => trivial
  | present clock surfaceId data damage => trivial
  | resize memory surfaceId width height => trivial
  | destroy surfaceId => trivial
  | finishCreate memory => trivial
  | failCreate => trivial
  | release buffer => trivial

/-- In every run, the marks are right in every state and no frame is written
into a held buffer, if and only if every dispatched release event names an
index whose buffers the compositor holds of no surface. -/
theorem owned_iff_releasesFree {actions : List SurfaceAction}
    {last : SharedDisplay} :
    Run (fun before action after =>
        Step profile before action after ∧
          (after.Owned ∧ before.WritesFree action)) new actions last ↔
      Run (fun before action after =>
        Step profile before action after ∧ before.ReleasesFree action) new
          actions last := by
  have kept : ∀ before action after, Step profile before action after →
      before.Tracked → before.ReleasesFree action →
        after.Tracked ∧ (after.Owned ∧ before.WritesFree action) := by
    intro before action after performed tracked free
    obtain ⟨next, writes⟩ := tracked.perform performed free
    exact ⟨next, next.owned, writes⟩
  have needed : ∀ before action after, Step profile before action after →
      before.Tracked → (after.Owned ∧ before.WritesFree action) →
        before.ReleasesFree action := by
    intro before action after performed _ safe
    exact releasesFree_of_owned performed safe.1
  exact (run_restrict_iff kept needed tracked_new).symm

/-! ## Two surfaces -/

/-- A surface is created, configured and given its uploader. -/
def createSurface (surfaceId : UInt16) : List SurfaceAction :=
  [.beginCreate surfaceId 1 1, .dispatch (.configure surfaceId),
    .finishCreate fun _ => .ok ()]

def presentPixel (surfaceId : UInt16) : SurfaceAction :=
  .present ⟨0, 0⟩ surfaceId [1, 1, 1, 1] []

/-- Two surfaces present a frame each, the compositor releases a buffer of
the first, and the second presents another frame. -/
def sharedActions (index : Fin 2) : List SurfaceAction :=
  createSurface 0 ++ createSurface 1 ++
    [presentPixel 0, presentPixel 1, .release ⟨0, index⟩,
      .dispatch (.release ⟨0, index⟩), .dispatch (.done 1),
      presentPixel 1, .dispatch (.done 1)]

/-- The next frame of the second surface is written into its first buffer,
which the compositor holds. -/
theorem owned_fails :
    ¬ ∀ profile actions last, Run (Step profile) new actions last →
      last.Owned ∧ ∀ action, last.WritesFree action := by
  intro safe
  have evaluated :
      ((sharedActions 0).foldlM (perform .dev) new).map (fun last =>
          (last.held,
            (last.display.presentFrame ⟨0, 0⟩ 1 [1, 1, 1, 1] []).2)) =
        some ([⟨1, 1⟩, ⟨1, 0⟩],
          .ok (some
            { surfaceId := 1
              buffer := ⟨1, 0⟩
              picture := ⟨1, 1, 4, [1, 1, 1, 1]⟩
              damage := [⟨0, 0, 1, 1⟩] })) := by
    decide +kernel
  obtain ⟨last, iterated, state⟩ := Option.map_eq_some_iff.mp evaluated
  injection state with held presented
  have run : Run (Step .dev) new (sharedActions 0) last :=
    run_iff_foldlM.mpr iterated
  have free := (safe .dev (sharedActions 0) last run).2 (presentPixel 1) _ _
    (Prod.ext rfl presented)
  rw [held] at free
  exact absurd free (by decide)

end SharedDisplay

end RemoteWay.Display
