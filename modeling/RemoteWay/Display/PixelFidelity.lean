import Mathlib.Algebra.Order.Ring.Nat
import RemoteWay.Base.Runs
import RemoteWay.Display.Presentation

/-!
# Padded frames

The buffers of a surface have rows of `width * 4` bytes, and a frame is
copied into them as it is.  So the picture that is committed is the frame
read with that row length, whatever its own stride.
-/

namespace RemoteWay.Display

open RemoteWay.Base

/-! ## Reading pixels -/

/-- The rows fit their stride, and the data holds all of them. -/
def Picture.WellFormed (picture : Picture) : Prop :=
  picture.width.toNat * 4 ≤ picture.stride.toNat ∧
    picture.data.length = picture.stride.toNat * picture.height.toNat

/-- The visible bytes are the same when the rows are read `width * 4` bytes
apart. -/
def Picture.Unshifted (picture : Picture) : Prop :=
  ∀ y, y < picture.height.toNat → ∀ column,
    column < picture.width.toNat * 4 →
      picture.data.getD (y * (picture.width.toNat * 4) + column) 0 =
        picture.data.getD (y * picture.stride.toNat + column) 0

theorem Picture.pixel_of_inside {picture : Picture} {x y : Nat}
    (xBound : x < picture.width.toNat) (yBound : y < picture.height.toNat)
    (inside : y * picture.stride.toNat + x * 4 + 4 ≤ picture.data.length) :
    picture.pixel x y = some ((List.range 4).map fun index =>
      picture.data.getD (y * picture.stride.toNat + x * 4 + index) 0) := by
  rw [pixel, if_pos ⟨xBound, yBound⟩, take_drop_eq_map_getD 0 _ _ 4 inside]

/-- The end of a pixel in rows of at least `width * 4` bytes. -/
private theorem pixel_end_le {width height stride x y : Nat}
    (rows : width * 4 ≤ stride) (xBound : x < width) (yBound : y < height) :
    y * stride + x * 4 + 4 ≤ stride * height := by
  have column : x * 4 + 4 ≤ stride := by omega
  calc y * stride + x * 4 + 4 = y * stride + (x * 4 + 4) := by
        rw [Nat.add_assoc]
    _ ≤ y * stride + stride := Nat.add_le_add_left column _
    _ = (y + 1) * stride := by rw [Nat.add_mul, Nat.one_mul]
    _ ≤ height * stride := Nat.mul_le_mul_right _ yBound
    _ = stride * height := Nat.mul_comm _ _

theorem Picture.pixel_of_whole {picture : Picture}
    (rows : picture.width.toNat * 4 ≤ picture.stride.toNat)
    (whole : picture.stride.toNat * picture.height.toNat ≤
      picture.data.length) {x y : Nat}
    (xBound : x < picture.width.toNat) (yBound : y < picture.height.toNat) :
    picture.pixel x y = some ((List.range 4).map fun index =>
      picture.data.getD (y * picture.stride.toNat + x * 4 + index) 0) :=
  Picture.pixel_of_inside xBound yBound
    (Nat.le_trans (pixel_end_le rows xBound yBound) whole)

/-- Every pixel of the frame is shown at its place. -/
def Faithful (frame : DisplayFrame) (commit : Commit) : Prop :=
  ∀ x y, x < frame.width.toNat → y < frame.height.toNat →
    commit.picture.pixel x y = frame.picture.pixel x y

section Committed

variable {frame : DisplayFrame} {commit : Commit}

/-- A committed pixel is read `width * 4` bytes to the row. -/
theorem Shows.pixel_eq (shown : Shows frame commit)
    (enough : frame.width.toNat * 4 * frame.height.toNat ≤
      frame.data.length) {x y : Nat}
    (xBound : x < frame.width.toNat) (yBound : y < frame.height.toNat) :
    commit.picture.pixel x y = some ((List.range 4).map fun index =>
      frame.data.getD (y * (frame.width.toNat * 4) + x * 4 + index) 0) := by
  have data := shown.data enough
  have pixelEnd := pixel_end_le (Nat.le_refl (frame.width.toNat * 4))
    xBound yBound
  rw [Picture.pixel_of_inside (by rw [shown.width]; exact xBound)
    (by rw [shown.height]; exact yBound)]
  · rw [shown.stride, data]
    congr 1
    apply List.map_congr_left
    intro index member
    have inside := List.mem_range.mp member
    rw [List.getD_eq_getElem?_getD, List.getD_eq_getElem?_getD,
      List.getElem?_take_of_lt (by omega)]
  · rw [shown.stride, data, List.length_take, Nat.min_eq_left enough]
    exact pixelEnd

theorem Shows.faithful_iff (shown : Shows frame commit)
    (rows : frame.width.toNat * 4 ≤ frame.stride.toNat)
    (whole : frame.stride.toNat * frame.height.toNat ≤
      frame.data.length) :
    Faithful frame commit ↔ frame.picture.Unshifted := by
  have enough : frame.width.toNat * 4 * frame.height.toNat ≤
      frame.data.length :=
    Nat.le_trans (Nat.mul_le_mul_right _ rows) whole
  have own : ∀ x y, x < frame.width.toNat → y < frame.height.toNat →
      frame.picture.pixel x y = some ((List.range 4).map fun index =>
        frame.data.getD (y * frame.stride.toNat + x * 4 + index) 0) :=
    fun _ _ => @Picture.pixel_of_whole frame.picture rows whole _ _
  constructor
  · intro faithful y yBound column columnBound
    change column < frame.width.toNat * 4 at columnBound
    have xBound : column / 4 < frame.width.toNat := by omega
    have same := faithful (column / 4) y xBound yBound
    rw [shown.pixel_eq enough xBound yBound, own _ _ xBound yBound] at same
    injection same with same
    have byte := List.map_inj_left.mp same (column % 4)
      (List.mem_range.mpr (Nat.mod_lt column (by decide)))
    have whole : column / 4 * 4 + column % 4 = column := by omega
    rw [Nat.add_assoc, Nat.add_assoc, whole] at byte
    exact byte
  · intro unshifted x y xBound yBound
    rw [shown.pixel_eq enough xBound yBound, own _ _ xBound yBound]
    congr 1
    apply List.map_congr_left
    intro index member
    have inside := List.mem_range.mp member
    have column : x * 4 + index < frame.width.toNat * 4 := by omega
    rw [Nat.add_assoc, Nat.add_assoc]
    exact unshifted y yBound (x * 4 + index) column

end Committed

/-! ## Layouts -/

/-- A layout reads the same at both row lengths, whatever the data, only if
they agree or there is at most one row. -/
theorem unshifted_forall_iff {width height stride : UInt32}
    (rows : width.toNat * 4 ≤ stride.toNat) :
    (∀ data, data.length = stride.toNat * height.toNat →
        Picture.Unshifted ⟨width, height, stride, data⟩) ↔
      width.toNat = 0 ∨ height.toNat ≤ 1 ∨
        stride.toNat = width.toNat * 4 := by
  constructor
  · intro all
    by_contra padded
    rw [not_or, not_or] at padded
    obtain ⟨columns, tall, longer⟩ := padded
    -- one byte is set, where the second row starts without padding
    have marked := all
      ((List.replicate (stride.toNat * height.toNat) 0).set
        (width.toNat * 4) 1) (by rw [List.length_set, List.length_replicate])
    have second := marked 1 (Nat.lt_of_not_le tall) 0
      (by change 0 < width.toNat * 4; omega)
    have room : stride.toNat * 2 ≤ stride.toNat * height.toNat :=
      Nat.mul_le_mul_left _ (Nat.lt_of_not_le tall)
    change List.getD _ (1 * (width.toNat * 4) + 0) 0 =
      List.getD _ (1 * stride.toNat + 0) 0 at second
    rw [Nat.one_mul, Nat.one_mul, Nat.add_zero, Nat.add_zero,
      List.getD_eq_getElem?_getD, List.getD_eq_getElem?_getD,
      List.getElem?_set_self (by rw [List.length_replicate]; omega),
      List.getElem?_set_ne (fun same => longer same.symm),
      List.getElem?_replicate_of_lt (by omega)] at second
    cases second
  · intro either data _ y yBound column columnBound
    rcases either with empty | single | same
    · change column < width.toNat * 4 at columnBound
      omega
    · change y < height.toNat at yBound
      have first : y = 0 := by omega
      rw [first, Nat.zero_mul, Nat.zero_mul]
    · change List.getD _ (y * (width.toNat * 4) + column) 0 =
        List.getD _ (y * stride.toNat + column) 0
      rw [same]

/-! ## Every committed frame -/

open DisplayThread in
/-- In every run of the display thread, a well-formed frame is shown
faithfully if and only if its rows read the same at `width * 4` bytes
apart; and this is so for all data of a layout only if there is no padding
or at most one row. -/
theorem committed_faithful_iff {profile : Profile} {capacity : Nat}
    {actions : List DisplayAction} {last : DisplayThread}
    (run : Run (Step profile capacity) spawn actions last) :
    (∀ item commit, (item, commit) ∈ last.committed →
      item.frame.picture.WellFormed →
        (Faithful item.frame commit ↔ item.frame.picture.Unshifted)) ∧
    ∀ width height stride : UInt32, width.toNat * 4 ≤ stride.toNat →
      ((∀ data, data.length = stride.toNat * height.toNat →
          Picture.Unshifted ⟨width, height, stride, data⟩) ↔
        width.toNat = 0 ∨ height.toNat ≤ 1 ∨
          stride.toNat = width.toNat * 4) := by
  have sound := run.keeps
    (fun _ _ _ performed kept => Sound.perform kept performed) sound_spawn
  refine ⟨?_, fun _ _ _ rows => unshifted_forall_iff rows⟩
  intro item commit member wellFormed
  exact (sound.shown (item, commit) member).faithful_iff wellFormed.1
    (Nat.le_of_eq wellFormed.2.symm)

/-! ## A padded frame -/

/-- Two rows of one pixel and four bytes of padding. -/
def paddedFrame : DisplayFrame where
  surfaceId := 0
  data := [1, 1, 1, 1, 9, 9, 9, 9, 2, 2, 2, 2, 9, 9, 9, 9]
  damage := []
  width := 1
  height := 2
  stride := 8
  timestampNs := 0

/-- The first frame of a surface: its creation, its configuration, and the
presentation of the frame. -/
def firstFrame (frame : DisplayFrame) : List DisplayAction :=
  [.sendFrame frame, .pop, .drained, .dispatch (.configure frame.surfaceId),
    .created fun _ => .ok (), .present ⟨0, 0⟩ fun _ => .ok ()]

private theorem paddedFrame_committed :
    ((firstFrame paddedFrame).foldlM
        (DisplayThread.perform .dev ringCapacity)
        DisplayThread.spawn).map (fun last => last.committed) =
      some
        [(⟨0, none, paddedFrame⟩,
          { surfaceId := 0
            buffer := ⟨0, 0⟩
            picture := ⟨1, 2, 4, [1, 1, 1, 1, 9, 9, 9, 9]⟩
            damage := [⟨0, 0, 1, 2⟩] })] := by
  decide +kernel

/-- The second row of the buffer is the padding of the first. -/
theorem committed_not_faithful :
    ¬ ∀ profile capacity actions last,
      Run (DisplayThread.Step profile capacity) .spawn actions last →
        ∀ item commit, (item, commit) ∈ last.committed →
          item.frame.picture.WellFormed → Faithful item.frame commit := by
  intro faithful
  obtain ⟨last, iterated, committed⟩ :=
    Option.map_eq_some_iff.mp paddedFrame_committed
  have wellFormed : paddedFrame.picture.WellFormed := ⟨by decide, by decide⟩
  have shown := faithful .dev ringCapacity _ last
    (run_iff_foldlM.mpr iterated) _ _
    (by rw [committed]; exact List.mem_singleton_self _) wellFormed
  exact absurd (shown 0 1 (by decide) (by decide)) (by decide)

/-- Two rows of one pixel without padding. -/
def unpaddedFrame : DisplayFrame :=
  { paddedFrame with data := [1, 1, 1, 1, 2, 2, 2, 2], stride := 4 }

theorem committed_faithful_iff_unpadded :
    ∃ last commit,
      Run (DisplayThread.Step .dev ringCapacity) .spawn
          (firstFrame unpaddedFrame) last ∧
        (⟨0, none, unpaddedFrame⟩, commit) ∈ last.committed ∧
        Faithful unpaddedFrame commit := by
  have evaluated :
      ((firstFrame unpaddedFrame).foldlM
          (DisplayThread.perform .dev ringCapacity)
          DisplayThread.spawn).map (fun last => last.committed) =
        some
          [(⟨0, none, unpaddedFrame⟩,
            { surfaceId := 0
              buffer := ⟨0, 0⟩
              picture := ⟨1, 2, 4, [1, 1, 1, 1, 2, 2, 2, 2]⟩
              damage := [⟨0, 0, 1, 2⟩] })] := by
    decide +kernel
  obtain ⟨last, iterated, committed⟩ := Option.map_eq_some_iff.mp evaluated
  have run := run_iff_foldlM.mpr iterated
  have member := List.mem_singleton_self
    ((⟨0, none, unpaddedFrame⟩ : Queued),
      ({ surfaceId := 0
         buffer := ⟨0, 0⟩
         picture := ⟨1, 2, 4, [1, 1, 1, 1, 2, 2, 2, 2]⟩
         damage := [⟨0, 0, 1, 2⟩] } : Commit))
  rw [← committed] at member
  refine ⟨last, _, run, member, ?_⟩
  apply ((committed_faithful_iff run).1 _ _ member
    ⟨by decide, by decide⟩).mpr
  exact ((committed_faithful_iff run).2 1 2 4 (by decide)).mpr
    (Or.inr (Or.inr rfl)) _ rfl

end RemoteWay.Display
