import RemoteWay.Base.EvenSplit
import RemoteWay.Compress.Coverage
import RemoteWay.Server.Pipeline

/-!
# Stripes and damage

Striping cuts the full frame evenly into consecutive rows, so the stripes
cover the whole picture and stay inside it.  Damage inside the picture stays
inside its buffer, too.
-/

namespace RemoteWay.Server

open RemoteWay.Base RemoteWay.Proto RemoteWay.Compress
open RemoteWay.Capture RemoteWay.Transport

/-! ## Stripes -/

/-- The number of stripes. -/
def stripeCount (height : UInt32) (n : Nat) : UInt32 :=
  max (min (UInt32.ofNat n) height) 1

def stripeAt (width height : UInt32) (parts index : Nat) : DamageRect where
  x := 0
  y := UInt32.ofNat (cutStart height.toNat parts index)
  width := width
  height := UInt32.ofNat (cutSize height.toNat parts index)

/-- The picture in an even split of its rows. -/
def evenStripes (width height : UInt32) (parts : Nat) : List DamageRect :=
  (List.range parts).map (stripeAt width height parts)

section StripeAt

variable (width height : UInt32) {parts index : Nat}

theorem toNat_stripeAt_y (inside : index < parts) :
    (stripeAt width height parts index).y.toNat =
      cutStart height.toNat parts index := by
  have bound := @cutStart_le_total height.toNat parts (by omega) index
    (Nat.le_of_lt inside)
  exact UInt32.toNat_ofNat_of_lt' (Nat.lt_of_le_of_lt bound height.toNat_lt)

theorem toNat_stripeAt_height (inside : index < parts) :
    (stripeAt width height parts index).height.toNat =
      cutSize height.toNat parts index := by
  have bound := @cutSize_le_total height.toNat parts (by omega) index inside
  exact UInt32.toNat_ofNat_of_lt' (Nat.lt_of_le_of_lt bound height.toNat_lt)

end StripeAt

/-- The height of a stripe, one more row for the first `rem` of them. -/
private theorem u32Add_extra (profile : Profile) {height n : UInt32}
    (positive : 1 < n.toNat) {index : Nat} (inside : index < n.toNat) :
    u32Add profile (height / n)
        (if UInt32.ofNat index < height % n then 1 else 0) =
      .ok (UInt32.ofNat (cutSize height.toNat n.toNat index)) := by
  have indexEq : (UInt32.ofNat index).toNat = index :=
    UInt32.toNat_ofNat_of_lt' (Nat.lt_trans inside n.toNat_lt)
  have sizeBound := @cutSize_le_total height.toNat n.toNat (by omega) index
    inside
  have fits := Nat.lt_of_le_of_lt sizeBound height.toNat_lt
  have extra : (if UInt32.ofNat index < height % n then (1 : UInt32)
      else 0).toNat = if index < height.toNat % n.toNat then 1 else 0 := by
    simp only [UInt32.lt_iff_toNat_lt, indexEq, UInt32.toNat_mod]
    split <;> rfl
  rw [u32Add, UInt32.toNat_div, extra]
  exact u32Result_of_lt profile fits

private theorem stripes_loop (profile : Profile)
    (width height n : UInt32) (positive : 1 < n.toNat) {count : Nat}
    (inside : count ≤ n.toNat) :
    ((List.range' 0 count).map UInt32.ofNat).foldlM
        (stripeStep profile width (height / n) (height % n)) ([], 0) =
      .ok ((List.range count).map (stripeAt width height n.toNat),
        UInt32.ofNat (cutStart height.toNat n.toNat count)) := by
  induction count with
  | zero =>
      rw [cutStart_zero]
      rfl
  | succ count inductionHypothesis =>
      have front := inductionHypothesis (Nat.le_of_succ_le inside)
      have stop := @cutStart_le_total height.toNat n.toNat (by omega)
        (count + 1) inside
      have fits : cutStart height.toNat n.toNat (count + 1) < UInt32.size :=
        Nat.lt_of_le_of_lt stop height.toNat_lt
      have row := toNat_stripeAt_y width height inside
      have size := toNat_stripeAt_height width height inside
      rw [stripeAt] at row size
      have next : u32Add profile
          (UInt32.ofNat (cutStart height.toNat n.toNat count))
          (UInt32.ofNat (cutSize height.toNat n.toNat count)) =
            .ok (UInt32.ofNat
              (cutStart height.toNat n.toNat (count + 1))) := by
        rw [u32Add, row, size, ← cutStart_succ]
        exact u32Result_of_lt profile fits
      rw [List.range'_1_concat, List.map_append, List.foldlM_append, front]
      simp only [bind, Except.bind, List.map_cons, List.map_nil,
        List.foldlM_cons, List.foldlM_nil, Nat.zero_add, stripeStep]
      rw [u32Add_extra profile positive inside]
      dsimp only
      rw [next, List.range_succ, List.map_append]
      rfl

private theorem one_le_max_one (count : UInt32) : 1 ≤ max count 1 := by
  change 1 ≤ if count ≤ 1 then 1 else count
  by_cases small : count ≤ 1
  · rw [if_pos small]
    exact UInt32.le_refl 1
  · rw [if_neg small]
    rcases UInt32.le_total 1 count with large | small'
    · exact large
    · exact absurd small' small

theorem stripeCount_pos (height : UInt32) (n : Nat) :
    0 < (stripeCount height n).toNat :=
  UInt32.le_iff_toNat_le.mp (one_le_max_one _)

/-- Striping never stops, and splits the rows evenly. -/
theorem stripeFullFrame_eq_evenStripes (profile : Profile)
    (width height : UInt32) (n : Nat) :
    stripeFullFrame profile width height n =
      .ok (evenStripes width height (stripeCount height n).toNat) := by
  have atLeast := stripeCount_pos height n
  rw [stripeCount] at atLeast ⊢
  rw [stripeFullFrame]
  generalize max (min (UInt32.ofNat n) height) 1 = count at atLeast ⊢
  dsimp only
  by_cases single : count = 1
  · have start : cutStart height.toNat 1 0 = 0 := cutStart_zero _ _
    have size : cutSize height.toNat 1 0 = height.toNat := by
      simp [cutSize, Nat.mod_one]
    rw [if_pos single, single, evenStripes]
    change _ = Except.ok [stripeAt width height 1 0]
    rw [stripeAt, start, size, UInt32.ofNat_toNat]
    rfl
  · have positive : 1 < count.toNat := by
      have different : count.toNat ≠ 1 := fun same =>
        single (UInt32.toNat_inj.mp same)
      omega
    have loop : (u32Range 0 count).foldlM (stripeStep profile width
        (height / count) (height % count)) ([], 0) = _ :=
      stripes_loop profile width height count positive (Nat.le_refl _)
    rw [if_neg single, loop]
    rfl

/-- Full-width rectangles whose rows are the first `stop` rows. -/
structure StripesUpTo (width : UInt32) (stop : Nat)
    (stripes : List DamageRect) : Prop where
  fullWidth : ∀ rect, rect ∈ stripes → rect.x = 0 ∧ rect.width = width
  rows : (stripes.flatMap fun rect =>
    List.range' rect.y.toNat rect.height.toNat) = List.range stop

theorem evenStripes_upTo (width height : UInt32) {parts : Nat}
    (positive : 0 < parts) :
    StripesUpTo width height.toNat (evenStripes width height parts) where
  fullWidth := by
    intro rect member
    obtain ⟨index, _, rfl⟩ := List.mem_map.mp member
    exact ⟨rfl, rfl⟩
  rows := by
    have whole := flatMap_cuts height.toNat parts parts
    rw [cutStart_parts positive] at whole
    rw [← whole, evenStripes, List.flatMap_map]
    apply List.flatMap_congr
    intro index member
    have inside := List.mem_range.mp member
    rw [toNat_stripeAt_y width height inside,
      toNat_stripeAt_height width height inside]

/-- Striping never stops, and the rows of the stripes are the rows of the
picture. -/
theorem stripeFullFrame_eq (profile : Profile) (width height : UInt32)
    (n : Nat) :
    ∃ stripes, stripeFullFrame profile width height n = .ok stripes ∧
      StripesUpTo width height.toNat stripes :=
  ⟨_, stripeFullFrame_eq_evenStripes profile width height n,
    evenStripes_upTo width height (stripeCount_pos height n)⟩

namespace StripesUpTo

variable {geometry : Geometry} {stripes : List DamageRect}

/-- Each row of the picture is a row of a stripe. -/
theorem exists_row
    (upTo : StripesUpTo geometry.width geometry.height.toNat stripes)
    {y : Nat} (inside : y < geometry.height.toNat) :
    ∃ rect, rect ∈ stripes ∧ rect.y.toNat ≤ y ∧
      y < rect.y.toNat + rect.height.toNat := by
  have member : y ∈ stripes.flatMap fun rect =>
      List.range' rect.y.toNat rect.height.toNat := by
    rw [upTo.rows]
    exact List.mem_range.mpr inside
  obtain ⟨rect, rectMember, rowMember⟩ := List.mem_flatMap.mp member
  exact ⟨rect, rectMember, List.mem_range'_1.mp rowMember⟩

/-- Each row of a stripe is a row of the picture. -/
theorem row_lt
    (upTo : StripesUpTo geometry.width geometry.height.toNat stripes)
    {rect : DamageRect} (member : rect ∈ stripes) {row : Nat}
    (inside : row < rect.height.toNat) :
    rect.y.toNat + row < geometry.height.toNat := by
  have rowMember : rect.y.toNat + row ∈ stripes.flatMap fun rect =>
      List.range' rect.y.toNat rect.height.toNat :=
    List.mem_flatMap.mpr ⟨rect, member,
      List.mem_range'_1.mpr ⟨Nat.le_add_right _ _, by omega⟩⟩
  rw [upTo.rows] at rowMember
  exact List.mem_range.mp rowMember

/-- A stripe contains every pixel of the picture. -/
theorem exists_contains
    (upTo : StripesUpTo geometry.width geometry.height.toNat stripes)
    {x y : Nat} (xBound : x < geometry.width.toNat)
    (yBound : y < geometry.height.toNat) :
    ∃ rect, rect ∈ stripes ∧ rect.Contains x y := by
  obtain ⟨rect, member, top, bottom⟩ := upTo.exists_row yBound
  obtain ⟨left, width⟩ := upTo.fullWidth rect member
  refine ⟨rect, member, ?_, ?_, top, bottom⟩
  · rw [left]
    exact Nat.zero_le x
  · rw [left, width]
    change x < 0 + _
    omega

theorem covers
    (upTo : StripesUpTo geometry.width geometry.height.toNat stripes)
    (left right : List UInt8) : Covers geometry stripes left right :=
  fun _ _ xBound yBound _ => upTo.exists_contains xBound yBound

/-- The delta of all stripes visits every visible byte. -/
theorem mem_regionOffsets
    (upTo : StripesUpTo geometry.width geometry.height.toNat stripes)
    {offset : Nat} (visible : geometry.Visible offset) :
    offset ∈ regionOffsets geometry.stride.toNat stripes := by
  obtain ⟨x, y, channel, xBound, yBound, channelBound, rfl⟩ :=
    visible.exists_pixel
  obtain ⟨rect, member, contains⟩ := upTo.exists_contains xBound yBound
  exact byteOffset_mem_regionOffsets member contains channelBound

theorem regionsInside
    (upTo : StripesUpTo geometry.width geometry.height.toNat stripes)
    (rows : geometry.RowsFit) :
    RegionsInside geometry.stride.toNat geometry.size stripes := by
  intro rect member row rowBound
  obtain ⟨left, width⟩ := upTo.fullWidth rect member
  have rowEnd : (rect.y.toNat + row + 1) * geometry.stride.toNat ≤
      geometry.height.toNat * geometry.stride.toNat :=
    Nat.mul_le_mul_right _ (upTo.row_lt member rowBound)
  have leftEq : rect.x.toNat = 0 := by
    rw [left]
    rfl
  rw [Nat.add_mul, Nat.one_mul] at rowEnd
  rw [Geometry.RowsFit] at rows
  rw [rowBase, leftEq, width, Geometry.size,
    Nat.mul_comm geometry.stride.toNat geometry.height.toNat]
  omega

theorem height_le
    (upTo : StripesUpTo geometry.width geometry.height.toNat stripes)
    {rect : DamageRect} (member : rect ∈ stripes) :
    rect.height.toNat ≤ geometry.height.toNat := by
  rcases Nat.eq_zero_or_pos rect.height.toNat with empty | filled
  · omega
  · have last := upTo.row_lt member (Nat.sub_one_lt_of_lt filled)
    omega

end StripesUpTo

/-- Regions that stay inside the picture, and are no larger than it. -/
structure RegionsWithin (geometry : Geometry) (regions : List DamageRect) :
    Prop where
  inside : RegionsInside geometry.stride.toNat geometry.size regions
  small : ∀ rect, rect ∈ regions →
    rect.width.toNat ≤ geometry.width.toNat ∧
      rect.height.toNat ≤ geometry.height.toNat

theorem RegionsWithin.length_regionOffsets_le {geometry : Geometry}
    {regions : List DamageRect} (within : RegionsWithin geometry regions)
    (rows : geometry.RowsFit) :
    (regionOffsets geometry.stride.toNat regions).length ≤
      regions.length * geometry.size := by
  have each : ∀ rect, rect ∈ regions →
      (rectOffsets geometry.stride.toNat rect).length ≤ geometry.size := by
    intro rect member
    obtain ⟨narrow, low⟩ := within.small rect member
    rw [length_rectOffsets]
    exact Nat.mul_le_mul
      (Nat.le_trans (Nat.mul_le_mul_right 4 narrow) rows) low
  rw [regionOffsets, List.length_flatMap]
  clear within
  induction regions with
  | nil => exact Nat.zero_le _
  | cons rect regions inductionHypothesis =>
      have head := each rect List.mem_cons_self
      have tail := inductionHypothesis fun later member =>
        each later (List.mem_cons_of_mem rect member)
      rw [List.map_cons, List.sum_cons, List.length_cons, Nat.add_mul,
        Nat.one_mul]
      omega

theorem RegionsWithin.length_regionOffsets_lt {geometry : Geometry}
    {regions : List DamageRect} (within : RegionsWithin geometry regions)
    (rows : geometry.RowsFit) (frame : geometry.size < UInt32.size)
    (few : regions.length < UInt32.size) :
    (regionOffsets geometry.stride.toNat regions).length < usizeRange := by
  calc (regionOffsets geometry.stride.toNat regions).length
      ≤ regions.length * geometry.size :=
        within.length_regionOffsets_le rows
    _ ≤ regions.length * UInt32.size :=
        Nat.mul_le_mul_left _ (Nat.le_of_lt frame)
    _ < UInt32.size * UInt32.size :=
        Nat.mul_lt_mul_of_pos_right few (by decide)
    _ = usizeRange := rfl

theorem StripesUpTo.within {geometry : Geometry}
    {stripes : List DamageRect}
    (upTo : StripesUpTo geometry.width geometry.height.toNat stripes)
    (rows : geometry.RowsFit) : RegionsWithin geometry stripes where
  inside := upTo.regionsInside rows
  small := by
    intro rect member
    rw [(upTo.fullWidth rect member).2]
    exact ⟨Nat.le_refl _, upTo.height_le member⟩

theorem regionsWithin_of_inPicture {geometry : Geometry}
    {regions : List DamageRect} (rows : geometry.RowsFit)
    (inPicture : ∀ rect, rect ∈ regions →
      InPicture geometry.width geometry.height rect) :
    RegionsWithin geometry regions where
  inside := regionsInside_of_forall rows inPicture
  small := by
    intro rect member
    obtain ⟨columns, lines⟩ := inPicture rect member
    exact ⟨by omega, by omega⟩

end RemoteWay.Server
