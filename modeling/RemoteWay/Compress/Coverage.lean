import RemoteWay.Compress.Delta

/-!
# Pictures in a buffer

A buffer holds `height` rows of `stride` bytes, the first `width * 4` of
which are visible.  A region list covers the difference of two buffers when
every visible pixel in which they differ lies in a region; then every
visible byte in which they differ is one the delta visits.
-/

namespace RemoteWay.Compress

open RemoteWay.Base

/-- Where a picture lies in its buffer. -/
@[ext]
structure Geometry where
  width : UInt32
  height : UInt32
  stride : UInt32
  deriving DecidableEq, Repr

namespace Geometry

variable (geometry : Geometry)

/-- The length of the buffer. -/
def size : Nat := geometry.stride.toNat * geometry.height.toNat

/-- Each row holds its pixels. -/
def RowsFit : Prop := geometry.width.toNat * 4 ≤ geometry.stride.toNat

instance : Decidable geometry.RowsFit :=
  inferInstanceAs (Decidable (_ ≤ _))

/-- An offset of a visible byte. -/
def Visible (offset : Nat) : Prop :=
  ∃ y, y < geometry.height.toNat ∧ ∃ column,
    column < geometry.width.toNat * 4 ∧
      y * geometry.stride.toNat + column = offset

/-- The rectangle of the whole picture. -/
def fullRect : DamageRect := ⟨0, 0, geometry.width, geometry.height⟩

/-- The buffers show the same picture.  Bytes beyond the end of a buffer
count as zero. -/
def SamePicture (left right : List UInt8) : Prop :=
  ∀ offset, geometry.Visible offset → left.getD offset 0 = right.getD offset 0

instance (left right : List UInt8) :
    Decidable (geometry.SamePicture left right) :=
  decidable_of_iff
    (∀ y, y < geometry.height.toNat → ∀ column,
      column < geometry.width.toNat * 4 →
        left.getD (y * geometry.stride.toNat + column) 0 =
          right.getD (y * geometry.stride.toNat + column) 0)
    ⟨fun same _ ⟨y, yBound, column, columnBound, at_⟩ =>
        at_ ▸ same y yBound column columnBound,
      fun same y yBound column columnBound =>
        same _ ⟨y, yBound, column, columnBound, rfl⟩⟩

/-- The byte of a pixel's channel. -/
def byteOffset (x y channel : Nat) : Nat :=
  y * geometry.stride.toNat + (x * 4 + channel)

/-- The buffers differ in a pixel. -/
def PixelDiffers (left right : List UInt8) (x y : Nat) : Prop :=
  ∃ channel, channel < 4 ∧
    left.getD (geometry.byteOffset x y channel) 0 ≠
      right.getD (geometry.byteOffset x y channel) 0

variable {geometry}

theorem Visible.lt_size {offset : Nat} (rows : geometry.RowsFit)
    (visible : geometry.Visible offset) : offset < geometry.size := by
  obtain ⟨y, yBound, column, columnBound, rfl⟩ := visible
  rw [RowsFit] at rows
  have rowEnd : (y + 1) * geometry.stride.toNat ≤
      geometry.height.toNat * geometry.stride.toNat :=
    Nat.mul_le_mul_right _ yBound
  rw [Nat.add_mul, Nat.one_mul] at rowEnd
  rw [size, Nat.mul_comm geometry.stride.toNat geometry.height.toNat]
  omega

/-- A byte is visible when its column holds a pixel. -/
theorem visible_iff (rows : geometry.RowsFit) {offset : Nat} :
    geometry.Visible offset ↔
      offset < geometry.size ∧
        offset % geometry.stride.toNat < geometry.width.toNat * 4 := by
  constructor
  · intro visible
    refine ⟨visible.lt_size rows, ?_⟩
    obtain ⟨y, _, column, columnBound, rfl⟩ := visible
    rw [RowsFit] at rows
    rw [Nat.mul_add_mod', Nat.mod_eq_of_lt (by omega)]
    exact columnBound
  · rintro ⟨inside, columnBound⟩
    exact ⟨offset / geometry.stride.toNat, Nat.div_lt_of_lt_mul inside,
      offset % geometry.stride.toNat, columnBound, Nat.div_add_mod' _ _⟩

theorem SamePicture.refl (items : List UInt8) :
    geometry.SamePicture items items := fun _ _ => rfl

theorem SamePicture.symm {left right : List UInt8}
    (same : geometry.SamePicture left right) :
    geometry.SamePicture right left :=
  fun offset visible => (same offset visible).symm

theorem SamePicture.trans {left middle right : List UInt8}
    (first : geometry.SamePicture left middle)
    (second : geometry.SamePicture middle right) :
    geometry.SamePicture left right :=
  fun offset visible =>
    (first offset visible).trans (second offset visible)

/-- Resizing to the length of the buffer keeps the picture. -/
theorem samePicture_resize (rows : geometry.RowsFit)
    (items : List UInt8) :
    geometry.SamePicture (resize items geometry.size 0) items :=
  fun _ visible => getD_resize items geometry.size 0 (visible.lt_size rows)

/-- A visible byte belongs to a pixel of the picture. -/
theorem Visible.exists_pixel {offset : Nat}
    (visible : geometry.Visible offset) :
    ∃ x y channel, x < geometry.width.toNat ∧
      y < geometry.height.toNat ∧ channel < 4 ∧
        geometry.byteOffset x y channel = offset := by
  obtain ⟨y, yBound, column, columnBound, rfl⟩ := visible
  refine ⟨column / 4, y, column % 4, by omega, yBound, by omega, ?_⟩
  rw [byteOffset]
  congr 1
  omega

theorem visible_byteOffset {x y channel : Nat}
    (xBound : x < geometry.width.toNat)
    (yBound : y < geometry.height.toNat) (channelBound : channel < 4) :
    geometry.Visible (geometry.byteOffset x y channel) :=
  ⟨y, yBound, x * 4 + channel, by omega, rfl⟩

end Geometry

/-! ## Coverage -/

/-- The rectangle contains a pixel. -/
def DamageRect.Contains (rect : DamageRect) (x y : Nat) : Prop :=
  rect.x.toNat ≤ x ∧ x < rect.x.toNat + rect.width.toNat ∧
    rect.y.toNat ≤ y ∧ y < rect.y.toNat + rect.height.toNat

instance (rect : DamageRect) (x y : Nat) :
    Decidable (rect.Contains x y) :=
  inferInstanceAs (Decidable (_ ∧ _))

/-- The regions contain every visible pixel in which the buffers differ. -/
def Covers (geometry : Geometry) (regions : List DamageRect)
    (left right : List UInt8) : Prop :=
  ∀ x y, x < geometry.width.toNat → y < geometry.height.toNat →
    geometry.PixelDiffers left right x y →
      ∃ rect, rect ∈ regions ∧ rect.Contains x y

instance (geometry : Geometry) (left right : List UInt8) (x y : Nat) :
    Decidable (geometry.PixelDiffers left right x y) :=
  inferInstanceAs (Decidable (∃ channel, channel < 4 ∧ _))

instance (geometry : Geometry) (regions : List DamageRect)
    (left right : List UInt8) :
    Decidable (Covers geometry regions left right) :=
  decidable_of_iff
    (∀ x, x < geometry.width.toNat → ∀ y, y < geometry.height.toNat →
      geometry.PixelDiffers left right x y →
        ∃ rect, rect ∈ regions ∧ rect.Contains x y)
    ⟨fun covers x y xBound yBound => covers x xBound y yBound,
      fun covers x xBound y yBound => covers x y xBound yBound⟩

/-- The delta visits the bytes of the pixels that its regions contain. -/
theorem byteOffset_mem_regionOffsets {geometry : Geometry}
    {regions : List DamageRect} {rect : DamageRect} {x y channel : Nat}
    (member : rect ∈ regions) (contains : rect.Contains x y)
    (channelBound : channel < 4) :
    geometry.byteOffset x y channel ∈
      regionOffsets geometry.stride.toNat regions := by
  obtain ⟨left, right, top, bottom⟩ := contains
  rw [mem_regionOffsets]
  refine ⟨rect, member, y - rect.y.toNat, by omega,
    (x - rect.x.toNat) * 4 + channel, by omega, ?_⟩
  rw [rowBase, Geometry.byteOffset, Nat.add_sub_cancel' top]
  omega

/-- The delta visits only visible bytes when its regions lie in the
picture. -/
theorem visible_of_mem_regionOffsets {geometry : Geometry}
    {regions : List DamageRect}
    (inPicture : ∀ rect, rect ∈ regions →
      rect.x.toNat + rect.width.toNat ≤ geometry.width.toNat ∧
        ∀ row, row < rect.height.toNat →
          rect.y.toNat + row < geometry.height.toNat)
    {offset : Nat}
    (member : offset ∈ regionOffsets geometry.stride.toNat regions) :
    geometry.Visible offset := by
  obtain ⟨rect, rectMember, row, rowBound, column, columnBound, rfl⟩ :=
    mem_regionOffsets.mp member
  obtain ⟨columns, rows⟩ := inPicture rect rectMember
  refine ⟨rect.y.toNat + row, rows row rowBound,
    rect.x.toNat * 4 + column, by omega, ?_⟩
  rw [rowBase]
  omega

/-- Under coverage, a visible byte that the delta does not visit is the same
in both buffers. -/
theorem Covers.getD_eq_of_not_mem {geometry : Geometry}
    {regions : List DamageRect} {left right : List UInt8}
    (covers : Covers geometry regions left right) {offset : Nat}
    (visible : geometry.Visible offset)
    (uncovered : offset ∉ regionOffsets geometry.stride.toNat regions) :
    left.getD offset 0 = right.getD offset 0 := by
  by_contra differ
  obtain ⟨x, y, channel, xBound, yBound, channelBound, rfl⟩ :=
    visible.exists_pixel
  obtain ⟨rect, member, contains⟩ :=
    covers x y xBound yBound ⟨channel, channelBound, differ⟩
  exact uncovered
    (byteOffset_mem_regionOffsets member contains channelBound)

/-- Coverage of the difference to a picture, under another buffer that shows
it. -/
theorem Covers.of_samePicture {geometry : Geometry}
    {regions : List DamageRect} {left middle right : List UInt8}
    (covers : Covers geometry regions left middle)
    (same : geometry.SamePicture middle right) :
    Covers geometry regions left right := by
  intro x y xBound yBound differs
  obtain ⟨channel, channelBound, differ⟩ := differs
  apply covers x y xBound yBound
  refine ⟨channel, channelBound, ?_⟩
  rw [same _ (Geometry.visible_byteOffset xBound yBound channelBound)]
  exact differ

/-- Regions inside the picture stay inside its buffer. -/
theorem regionsInside_of_forall {geometry : Geometry}
    {regions : List DamageRect} (rows : geometry.RowsFit)
    (inside : ∀ rect, rect ∈ regions →
      rect.x.toNat + rect.width.toNat ≤ geometry.width.toNat ∧
        rect.y.toNat + rect.height.toNat ≤ geometry.height.toNat) :
    RegionsInside geometry.stride.toNat geometry.size regions := by
  intro rect member row rowBound
  obtain ⟨columns, lines⟩ := inside rect member
  rw [Geometry.RowsFit] at rows
  have rowEnd : (rect.y.toNat + row + 1) * geometry.stride.toNat ≤
      geometry.height.toNat * geometry.stride.toNat :=
    Nat.mul_le_mul_right _ (by omega)
  rw [Nat.add_mul, Nat.one_mul] at rowEnd
  rw [rowBase, Geometry.size,
    Nat.mul_comm geometry.stride.toNat geometry.height.toNat]
  omega

end RemoteWay.Compress
