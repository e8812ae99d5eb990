import Mathlib.Data.List.Chain
import RemoteWay.Display.PixelFidelity

/-!
# Submitted damage

Only the damage of the frame that is committed is submitted, while the
content it replaces is that of the frame committed before.  Frames between
the two are refused by the ring or replaced while they wait.  If each of
them shows the same picture as the frame passed before it, the submitted
damage covers every change.
-/

namespace RemoteWay.Display

open RemoteWay.Base

/-! ## Changes and damage -/

namespace Picture

variable {older newer newest : Picture}

/-- The pictures have the same dimensions and the same pixels. -/
def Same (older newer : Picture) : Prop :=
  older.width = newer.width ∧ older.height = newer.height ∧
    ∀ y, y < newer.height.toNat → ∀ x, x < newer.width.toNat →
      older.pixel x y = newer.pixel x y

instance : Decidable (Same older newer) :=
  inferInstanceAs (Decidable (_ ∧ _ ∧ _))

theorem Same.refl (picture : Picture) : Same picture picture :=
  ⟨rfl, rfl, fun _ _ _ _ => rfl⟩

theorem Same.pixel_eq (same : Same older newer) (x y : Nat) :
    older.pixel x y = newer.pixel x y := by
  obtain ⟨width, height, pixels⟩ := same
  by_cases inside : x < newer.width.toNat ∧ y < newer.height.toNat
  · exact pixels y inside.2 x inside.1
  · rw [pixel, pixel, width, height, if_neg inside, if_neg inside]

theorem Same.trans (first : Same older newer) (second : Same newer newest) :
    Same older newest :=
  ⟨first.1.trans second.1, first.2.1.trans second.2.1,
    fun y _ x _ => (first.pixel_eq x y).trans (second.pixel_eq x y)⟩

end Picture

def DamageRegion.Contains (rect : DamageRegion) (x y : Nat) : Prop :=
  (rect.x.toNat ≤ x ∧ x < rect.x.toNat + rect.width.toNat) ∧
    rect.y.toNat ≤ y ∧ y < rect.y.toNat + rect.height.toNat

/-- The values do not change when they are cast to `i32`. -/
def DamageRegion.Small (rect : DamageRegion) : Prop :=
  rect.x.toNat < 2 ^ 31 ∧ rect.y.toNat < 2 ^ 31 ∧
    rect.width.toNat < 2 ^ 31 ∧ rect.height.toNat < 2 ^ 31

def DamageRequest.Contains (rect : DamageRequest) (x y : Int) : Prop :=
  (rect.x.toInt ≤ x ∧ x < rect.x.toInt + rect.width.toInt) ∧
    rect.y.toInt ≤ y ∧ y < rect.y.toInt + rect.height.toInt

instance (rect : DamageRegion) (x y : Nat) :
    Decidable (rect.Contains x y) :=
  inferInstanceAs (Decidable ((_ ∧ _) ∧ _ ∧ _))

instance (rect : DamageRegion) : Decidable rect.Small :=
  inferInstanceAs (Decidable (_ ∧ _ ∧ _ ∧ _))

instance (rect : DamageRequest) (x y : Int) :
    Decidable (rect.Contains x y) :=
  inferInstanceAs (Decidable ((_ ∧ _) ∧ _ ∧ _))

theorem toInt_toInt32_of_lt {value : UInt32}
    (small : value.toNat < 2 ^ 31) :
    value.toInt32.toInt = value.toNat := by
  apply BitVec.toInt_eq_toNat_of_lt
  change 2 * value.toNat < 2 ^ 32
  omega

theorem DamageRegion.contains_request {rect : DamageRegion}
    (small : rect.Small) {x y : Nat} (inside : rect.Contains x y) :
    rect.request.Contains x y := by
  obtain ⟨xSmall, ySmall, widthSmall, heightSmall⟩ := small
  obtain ⟨⟨left, right⟩, top, bottom⟩ := inside
  simp only [DamageRequest.Contains, DamageRegion.request,
    toInt_toInt32_of_lt xSmall, toInt_toInt32_of_lt ySmall,
    toInt_toInt32_of_lt widthSmall, toInt_toInt32_of_lt heightSmall]
  omega

namespace DisplayFrame

/-- The damage of the frame contains the pixel.  Without damage it is the
whole frame. -/
def Reports (frame : DisplayFrame) (x y : Nat) : Prop :=
  frame.damage = [] ∨ ∃ rect, rect ∈ frame.damage ∧ rect.Contains x y

instance (frame : DisplayFrame) (x y : Nat) :
    Decidable (frame.Reports x y) :=
  inferInstanceAs (Decidable (_ ∨ _))

/-- The damage of a frame covers its difference from an older one. -/
def Covers (newer older : DisplayFrame) : Prop :=
  ∀ y, y < newer.height.toNat → ∀ x, x < newer.width.toNat →
    newer.picture.pixel x y ≠ older.picture.pixel x y → newer.Reports x y

instance (newer older : DisplayFrame) : Decidable (newer.Covers older) :=
  inferInstanceAs (Decidable (∀ y, y < _ → ∀ x, x < _ → _ → _))

/-- The frame has no padding and all its data, and its damage fits the
requests to the compositor. -/
def Presentable (frame : DisplayFrame) : Prop :=
  frame.stride.toNat = frame.width.toNat * 4 ∧
    frame.stride.toNat * frame.height.toNat ≤ frame.data.length ∧
    frame.width.toNat < 2 ^ 31 ∧ frame.height.toNat < 2 ^ 31 ∧
    ∀ rect, rect ∈ frame.damage → rect.Small

instance (frame : DisplayFrame) : Decidable frame.Presentable :=
  inferInstanceAs (Decidable (_ ∧ _ ∧ _ ∧ _ ∧ ∀ rect, rect ∈ _ → _))

end DisplayFrame

/-- The submitted damage covers the difference from an older commit. -/
def Commit.Covers (newer older : Commit) : Prop :=
  ∀ y, y < newer.picture.height.toNat →
    ∀ x, x < newer.picture.width.toNat →
      newer.picture.pixel x y ≠ older.picture.pixel x y →
        ∃ rect, rect ∈ newer.damage ∧ rect.Contains x y

instance (newer older : Commit) : Decidable (newer.Covers older) :=
  inferInstanceAs (Decidable (∀ y, y < _ → ∀ x, x < _ → _ → _))

/-! ## One commit after another -/

theorem Shows.pixel_eq_of_presentable {frame : DisplayFrame}
    {commit : Commit} (shown : Shows frame commit)
    (presentable : frame.Presentable) (x y : Nat) :
    commit.picture.pixel x y = frame.picture.pixel x y := by
  obtain ⟨unpadded, whole, _⟩ := presentable
  by_cases inside : x < frame.width.toNat ∧ y < frame.height.toNat
  · have faithful := shown.faithful_iff (Nat.le_of_eq unpadded.symm) whole
    apply faithful.mpr _ x y inside.1 inside.2
    intro row _ column _
    change List.getD _ _ 0 = List.getD _ (row * frame.stride.toNat + column) 0
    rw [unpadded]
    rfl
  · rw [Picture.pixel, Picture.pixel, shown.width, shown.height,
      if_neg inside]
    exact (if_neg inside).symm

/-- What a frame reports is submitted. -/
theorem Shows.submits {frame : DisplayFrame} {commit : Commit}
    (shown : Shows frame commit) (presentable : frame.Presentable)
    {x y : Nat} (xBound : x < frame.width.toNat)
    (yBound : y < frame.height.toNat) (reports : frame.Reports x y) :
    ∃ rect, rect ∈ commit.damage ∧ rect.Contains x y := by
  obtain ⟨_, _, widthSmall, heightSmall, damageSmall⟩ := presentable
  rw [shown.damage]
  rcases reports with everything | ⟨rect, member, inside⟩
  · rw [everything, List.isEmpty_nil, if_pos rfl]
    refine ⟨_, List.mem_singleton_self _, ?_⟩
    simp only [DamageRequest.Contains, toInt_toInt32_of_lt widthSmall,
      toInt_toInt32_of_lt heightSmall]
    have zero : (0 : Int32).toInt = 0 := rfl
    rw [zero]
    omega
  · have some : frame.damage.isEmpty = false :=
      List.isEmpty_eq_false_iff.mpr (List.ne_nil_of_mem member)
    rw [some, if_neg Bool.false_ne_true]
    refine ⟨rect.request, List.mem_map_of_mem member, ?_⟩
    exact DamageRegion.contains_request (damageSmall rect member) inside

/-- The newer frame was passed after one that shows the same picture as the
older frame, and its damage covers the difference from that one. -/
def Link (older newer : Queued) : Prop :=
  ∃ previous, newer.previous = some previous ∧
    older.frame.picture.Same previous.picture ∧
      newer.frame.Covers previous

theorem Link.commit_covers {older newer : Queued × Commit}
    (link : Link older.1 newer.1) (olderShown : Shows older.1.frame older.2)
    (newerShown : Shows newer.1.frame newer.2)
    (olderPresentable : older.1.frame.Presentable)
    (newerPresentable : newer.1.frame.Presentable) :
    newer.2.Covers older.2 := by
  obtain ⟨previous, _, same, covers⟩ := link
  intro y yBound x xBound differs
  rw [newerShown.height] at yBound
  rw [newerShown.width] at xBound
  rw [newerShown.pixel_eq_of_presentable newerPresentable,
    olderShown.pixel_eq_of_presentable olderPresentable,
    same.pixel_eq x y] at differs
  apply newerShown.submits newerPresentable xBound yBound
  exact covers y yBound x xBound differs

/-! ## The frames that are left -/

namespace DisplayThread

variable {profile : Profile} {capacity : Nat} {surfaceId : UInt16}
variable {before after : DisplayThread}

/-- The frames that were committed or may still be, oldest first. -/
def line (thread : DisplayThread) : List Queued :=
  thread.committed.map Prod.fst ++ thread.pendingFrame.toList ++ thread.ring

/-- The frames are those of one surface, and the damage of each covers its
difference from the frame passed just before it. -/
def FromOneSurface (surfaceId : UInt16) (thread : DisplayThread) :
    DisplayAction → Prop
  | .sendFrame frame =>
      frame.surfaceId = surfaceId ∧
        ∀ previous, previous ∈ thread.offered.getLast? →
          frame.Covers previous
  | _ => True

/-- A frame that is passed is presentable.  A frame that the full ring
refuses, and a pending frame that is replaced, show the same picture as the
frame passed before them. -/
def NothingSkipped (capacity : Nat) (thread : DisplayThread) :
    DisplayAction → Prop
  | .sendFrame frame =>
      frame.Presentable ∧
        (capacity ≤ thread.ring.length →
          ∀ previous, previous ∈ thread.offered.getLast? →
            previous.picture.Same frame.picture)
  | .pop =>
      ∀ item, item ∈ thread.pendingFrame →
        ∀ previous, previous ∈ item.previous →
          previous.picture.Same item.frame.picture
  | _ => True

instance (surfaceId : UInt16) (thread : DisplayThread) :
    ∀ action, Decidable (thread.FromOneSurface surfaceId action)
  | .sendFrame _ => inferInstanceAs (Decidable (_ ∧ ∀ _, _ → _))
  | .dispatch _ => inferInstanceAs (Decidable True)
  | .pop => inferInstanceAs (Decidable True)
  | .drained => inferInstanceAs (Decidable True)
  | .created _ => inferInstanceAs (Decidable True)
  | .present _ _ => inferInstanceAs (Decidable True)

instance (capacity : Nat) (thread : DisplayThread) :
    ∀ action, Decidable (thread.NothingSkipped capacity action)
  | .sendFrame _ => inferInstanceAs (Decidable (_ ∧ (_ → ∀ _, _ → _)))
  | .dispatch _ => inferInstanceAs (Decidable True)
  | .pop =>
      inferInstanceAs (Decidable (∀ item : Queued, item ∈ _ →
        ∀ previous, previous ∈ item.previous → _))
  | .drained => inferInstanceAs (Decidable True)
  | .created _ => inferInstanceAs (Decidable True)
  | .present _ _ => inferInstanceAs (Decidable True)

/-- The line is linked, and its newest frame shows the same picture as the
frame passed last. -/
structure Linked (thread : DisplayThread) : Prop where
  sound : thread.Sound
  links : List.IsChain Link thread.line
  presentable : ∀ item, item ∈ thread.line → item.frame.Presentable
  newest : ∀ item, item ∈ thread.line.getLast? →
    ∃ frame, thread.offered.getLast? = some frame ∧
      item.frame.picture.Same frame.picture

theorem linked_spawn : spawn.Linked :=
  ⟨sound_spawn, .nil, nofun, nofun⟩

/-- A step that keeps the line and the frames passed. -/
theorem Linked.of_line (linked : before.Linked) (sound : after.Sound)
    (line : after.line = before.line)
    (offered : after.offered = before.offered) : after.Linked where
  sound := sound
  links := by rw [line]; exact linked.links
  presentable := by rw [line]; exact linked.presentable
  newest := by rw [line, offered]; exact linked.newest

theorem Linked.sendFrame (linked : before.Linked) {frame : DisplayFrame}
    (performed : before.perform profile capacity (.sendFrame frame) =
      some after)
    (covers : before.FromOneSurface surfaceId (.sendFrame frame))
    (skipped : before.NothingSkipped capacity (.sendFrame frame)) :
    after.Linked := by
  have sound := linked.sound.perform performed
  obtain ⟨presentable, refused⟩ := skipped
  rcases perform_sendFrame performed with ⟨_, rfl⟩ | ⟨full, rfl⟩
  · let item : Queued :=
      ⟨before.offered.length, before.offered.getLast?, frame⟩
    have longer : ({ before with
        offered := before.offered ++ [frame]
        ring := before.ring ++ [item] } : DisplayThread).line =
          before.line ++ [item] := (List.append_assoc _ _ _).symm
    refine ⟨sound, ?_, ?_, ?_⟩
    · rw [longer]
      apply linked.links.append (List.isChain_singleton item)
      intro older last newer first
      injection first with same
      obtain ⟨previous, offered, samePicture⟩ := linked.newest older last
      rw [← same]
      exact ⟨previous, offered, samePicture, covers.2 previous offered⟩
    · rw [longer]
      intro other member
      rcases List.mem_append.mp member with old | new
      · exact linked.presentable other old
      · rw [List.mem_singleton.mp new]
        exact presentable
    · rw [longer]
      intro other last
      rw [List.getLast?_concat] at last
      injection last with same
      refine ⟨frame, List.getLast?_concat, ?_⟩
      rw [← same]
      exact Picture.Same.refl _
  · refine ⟨sound, linked.links, linked.presentable, ?_⟩
    intro item last
    obtain ⟨previous, offered, same⟩ := linked.newest item last
    exact ⟨frame, List.getLast?_concat,
      same.trans (refused full previous offered)⟩

theorem Linked.pop (linked : before.Linked)
    (performed : before.perform profile capacity .pop = some after)
    (skipped : before.NothingSkipped capacity .pop) : after.Linked := by
  have sound := linked.sound.perform performed
  obtain ⟨item, ring, queued, rfl⟩ := perform_pop performed
  cases pending : before.pendingFrame with
  | none =>
      apply linked.of_line sound _ rfl
      simp only [line, queued, pending, Option.toList_none,
        Option.toList_some, List.append_nil, List.append_assoc,
        List.singleton_append]
  | some replaced =>
      have older : before.line = before.committed.map Prod.fst ++
          (replaced :: item :: ring) := by
        simp only [line, queued, pending, Option.toList_some,
          List.append_assoc, List.singleton_append]
      have newer : ({ before with
          ring := ring
          pendingFrame := some item
          phase := .draining
          popped := before.popped ++ [item] } : DisplayThread).line =
            before.committed.map Prod.fst ++ (item :: ring) := by
        simp only [line, Option.toList_some, List.append_assoc,
          List.singleton_append]
      have links := linked.links
      have presentable := linked.presentable
      have newest := linked.newest
      rw [older] at links presentable newest
      obtain ⟨early, late, between⟩ := List.isChain_append.mp links
      obtain ⟨next, rest⟩ := List.isChain_cons_cons.mp late
      refine ⟨sound, ?_, ?_, ?_⟩
      · rw [newer]
        apply early.append rest
        intro committed last first head
        injection head with same
        rw [← same]
        -- the replaced frame showed nothing new
        obtain ⟨shown, known, sameShown, _⟩ :=
          between committed last replaced rfl
        obtain ⟨previous, before_, samePrevious, covers⟩ := next
        refine ⟨previous, before_, ?_, covers⟩
        have unchanged := skipped replaced pending shown known
        exact (sameShown.trans unchanged).trans samePrevious
      · rw [newer]
        intro other member
        apply presentable
        rcases List.mem_append.mp member with old | new
        · exact List.mem_append_left _ old
        · apply List.mem_append_right
          exact List.mem_cons_of_mem replaced new
      · rw [newer]
        intro other last
        apply newest
        rw [List.getLast?_append] at last ⊢
        rw [List.getLast?_cons_cons]
        exact last

/-- Every step with the condition keeps the line linked. -/
theorem Linked.perform {action : DisplayAction} (linked : before.Linked)
    (performed : before.perform profile capacity action = some after)
    (covers : before.FromOneSurface surfaceId action)
    (skipped : before.NothingSkipped capacity action) : after.Linked := by
  have sound := linked.sound.perform performed
  cases action with
  | sendFrame frame => exact linked.sendFrame performed covers skipped
  | dispatch event =>
      obtain ⟨_, rfl⟩ := perform_dispatch performed
      exact linked.of_line sound rfl rfl
  | pop => exact linked.pop performed skipped
  | drained =>
      obtain ⟨_, ⟨_, rfl⟩ | ⟨item, _, ⟨_, rfl⟩ | ⟨display, _, _, rfl⟩⟩⟩ :=
        perform_drained performed
      · exact linked.of_line sound rfl rfl
      · exact linked.of_line sound rfl rfl
      · exact linked.of_line sound rfl rfl
  | created memory =>
      obtain ⟨item, display, _, _, rfl⟩ := perform_created performed
      exact linked.of_line sound rfl rfl
  | present clock memory =>
      obtain ⟨item, resized, display, outcome, pending, _, _, result⟩ :=
        perform_present performed
      rcases result with ⟨_, rfl⟩ | ⟨commit, _, rfl⟩
      · exact linked.of_line sound rfl rfl
      · apply linked.of_line sound _ rfl
        simp only [line, pending, List.map_append, List.map_cons,
          List.map_nil, Option.toList_none, Option.toList_some,
          List.append_nil]

/-- Each commit of a linked line covers its difference from the one
before. -/
theorem Linked.commits_cover (linked : before.Linked) :
    List.IsChain (fun older newer : Commit => newer.Covers older)
      (before.committed.map Prod.snd) := by
  have whole := linked.links
  rw [line, List.append_assoc] at whole
  have links := (List.isChain_map Prod.fst).mp whole.left_of_append
  have presentable : ∀ entry, entry ∈ before.committed →
      entry.1.frame.Presentable := by
    intro entry member
    apply linked.presentable
    apply List.mem_append_left
    exact List.mem_append_left _ (List.mem_map_of_mem member)
  apply (List.isChain_map Prod.snd).mpr
  apply links.imp_of_mem_imp
  intro older newer olderMember newerMember link
  exact link.commit_covers (linked.sound.shown older olderMember)
    (linked.sound.shown newer newerMember) (presentable older olderMember)
    (presentable newer newerMember)

/-! ## Every run -/

/-- In every run over the frames of one surface in which no changed frame
is discarded, the damage of each commit covers every pixel in which the
buffer differs from the content of the previous commit. -/
theorem commits_cover_of_run {actions : List DisplayAction}
    {last : DisplayThread}
    (run : Run (fun before action after =>
        Step profile capacity before action after ∧
          before.FromOneSurface surfaceId action ∧
            before.NothingSkipped capacity action) spawn actions last) :
    List.IsChain (fun older newer : Commit => newer.Covers older)
      (last.committed.map Prod.snd) := by
  have linked := run.keeps
    (fun _ _ _ performed kept =>
      Linked.perform kept performed.1 performed.2.1 performed.2.2)
    linked_spawn
  exact linked.commits_cover

/-! ## Two frames at once -/

/-- A frame of two pixels. -/
def pixelPair (left right : UInt8) (damage : List DamageRegion) :
    DisplayFrame where
  surfaceId := 0
  data := List.replicate 4 left ++ List.replicate 4 right
  damage := damage
  width := 2
  height := 1
  stride := 8
  timestampNs := 0

/-- While the first frame is shown, two more arrive, of which only the
second is presented. -/
def skippingActions (second : DisplayFrame) (third : DisplayFrame) :
    List DisplayAction :=
  firstFrame (pixelPair 1 2 []) ++
    [.sendFrame second, .sendFrame third, .dispatch (.done 0), .pop, .pop,
      .drained, .present ⟨0, 0⟩ fun _ => .ok ()]

/-- The second frame changes the left pixel, the third the right one. -/
def changedActions : List DisplayAction :=
  skippingActions (pixelPair 9 2 [⟨0, 0, 1, 1⟩])
    (pixelPair 9 8 [⟨1, 0, 1, 1⟩])

theorem commits_cover_fails :
    ¬ ∀ profile capacity surfaceId actions last,
      Run (fun before action after =>
          Step profile capacity before action after ∧
            before.FromOneSurface surfaceId action) spawn actions last →
        List.IsChain (fun older newer : Commit => newer.Covers older)
          (last.committed.map Prod.snd) := by
  intro covers
  have evaluated :
      (changedActions.foldlM (fun (before : DisplayThread) action =>
          if before.FromOneSurface 0 action then
            before.perform .dev ringCapacity action
          else none) spawn).map
        (fun last => last.committed.map Prod.snd) =
      some
        [{ surfaceId := 0
           buffer := ⟨0, 0⟩
           picture := ⟨2, 1, 8, [1, 1, 1, 1, 2, 2, 2, 2]⟩
           damage := [⟨0, 0, 2, 1⟩] },
          { surfaceId := 0
            buffer := ⟨0, 1⟩
            picture := ⟨2, 1, 8, [9, 9, 9, 9, 8, 8, 8, 8]⟩
            damage := [⟨1, 0, 1, 1⟩] }] := by
    decide +kernel
  obtain ⟨last, iterated, committed⟩ := Option.map_eq_some_iff.mp evaluated
  have chain := covers .dev ringCapacity 0 _ last
    (run_iff_foldlM_guarded.mpr iterated)
  rw [committed] at chain
  exact absurd (List.isChain_cons_cons.mp chain).1 (by decide)

/-- The second frame changes nothing. -/
def unchangedActions : List DisplayAction :=
  skippingActions (pixelPair 1 2 [⟨0, 0, 1, 1⟩])
    (pixelPair 1 8 [⟨1, 0, 1, 1⟩])

theorem commits_cover_of_run_unchanged :
    ∃ older newer last,
      Run (fun before action after =>
          Step .dev ringCapacity before action after ∧
            before.FromOneSurface 0 action ∧
              before.NothingSkipped ringCapacity action) spawn
          unchangedActions last ∧
        last.committed.map Prod.snd = [older, newer] ∧
        older.buffer ≠ newer.buffer ∧ newer.Covers older := by
  have evaluated :
      (unchangedActions.foldlM (fun (before : DisplayThread) action =>
          if before.FromOneSurface 0 action ∧
              before.NothingSkipped ringCapacity action then
            before.perform .dev ringCapacity action
          else none) spawn).map
        (fun last => last.committed.map Prod.snd) =
      some
        [{ surfaceId := 0
           buffer := ⟨0, 0⟩
           picture := ⟨2, 1, 8, [1, 1, 1, 1, 2, 2, 2, 2]⟩
           damage := [⟨0, 0, 2, 1⟩] },
          { surfaceId := 0
            buffer := ⟨0, 1⟩
            picture := ⟨2, 1, 8, [1, 1, 1, 1, 8, 8, 8, 8]⟩
            damage := [⟨1, 0, 1, 1⟩] }] := by
    decide +kernel
  obtain ⟨last, iterated, committed⟩ := Option.map_eq_some_iff.mp evaluated
  have run := run_iff_foldlM_guarded.mpr iterated
  have chain := commits_cover_of_run run
  rw [committed] at chain
  exact ⟨_, _, last, run, committed, by decide,
    (List.isChain_cons_cons.mp chain).1⟩

end DisplayThread

end RemoteWay.Display
