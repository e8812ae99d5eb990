import Mathlib.Data.List.Induction
import RemoteWay.Base.Exec

/-!
# Painting into a raster

A raster is a buffer with rows of cells of one size, each of which may be
followed by padding.  A stroke gives a cell a value; outside the raster it
does nothing.  A computation on the buffer paints a list of strokes if it
does exactly what they do one after the other.
-/

namespace RemoteWay.Base

universe u v

variable {alpha : Type u}

/-! ## Overwriting a part of a buffer -/

/-- The items with others in their place from `start` on. -/
def overwrite (items : List alpha) (start : Nat) (block : List alpha) :
    List alpha :=
  items.take start ++ block ++ items.drop (start + block.length)

section Overwrite

variable {items block : List alpha} {start : Nat}

theorem length_overwrite (inside : start + block.length ≤ items.length) :
    (overwrite items start block).length = items.length := by
  rw [overwrite, List.length_append, List.length_append, List.length_take,
    List.length_drop]
  omega

theorem getElem?_overwrite_of_outside {index : Nat}
    (inside : start + block.length ≤ items.length)
    (outside : index < start ∨ start + block.length ≤ index) :
    (overwrite items start block)[index]? = items[index]? := by
  have front : (items.take start).length = start := by
    rw [List.length_take]
    omega
  rcases outside with before | behind
  · rw [overwrite, List.append_assoc,
      List.getElem?_append_left (by omega), List.getElem?_take,
      if_pos before]
  · rw [overwrite, List.getElem?_append_right (by
      rw [List.length_append, front]
      exact behind), List.getElem?_drop, List.length_append, front]
    congr 1
    omega

theorem take_drop_overwrite (inside : start + block.length ≤ items.length) :
    ((overwrite items start block).drop start).take block.length = block := by
  have front : (items.take start).length = start := by
    rw [List.length_take]
    omega
  rw [overwrite, List.append_assoc, List.drop_left' front, List.take_left]

/-- A part that does not overlap with the overwritten one is left. -/
theorem take_drop_overwrite_of_disjoint {other count : Nat}
    (inside : start + block.length ≤ items.length)
    (disjoint : other + count ≤ start ∨ start + block.length ≤ other) :
    ((overwrite items start block).drop other).take count =
      (items.drop other).take count := by
  apply List.ext_getElem?
  intro index
  rw [List.getElem?_take, List.getElem?_take]
  by_cases within : index < count
  · rw [if_pos within, if_pos within, List.getElem?_drop,
      List.getElem?_drop, getElem?_overwrite_of_outside inside (by omega)]
  · rw [if_neg within, if_neg within]

end Overwrite

/-! ## Rasters -/

/-- Cells of `cell` items each. -/
structure Raster (cell : Nat) where
  width : Nat
  height : Nat
  stride : Nat
  rowsFit : width * cell ≤ stride

/-- A value for the cell at a position, which may be outside the raster. -/
structure Stroke (alpha : Type u) (cell : Nat) where
  x : Int
  y : Int
  value : Vector alpha cell

namespace Raster

variable {cell : Nat} (raster : Raster cell)

/-- The length of the buffer. -/
def size : Nat := raster.stride * raster.height

def offset (x y : Nat) : Nat := y * raster.stride + x * cell

def cellAt (items : List alpha) (x y : Nat) : List alpha :=
  (items.drop (raster.offset x y)).take cell

theorem offset_add_le {x y : Nat} (across : x < raster.width)
    (down : y < raster.height) : raster.offset x y + cell ≤ raster.size := by
  have row : (x + 1) * cell ≤ raster.stride :=
    Nat.le_trans (Nat.mul_le_mul_right cell across) raster.rowsFit
  have rows : (y + 1) * raster.stride ≤ raster.height * raster.stride :=
    Nat.mul_le_mul_right raster.stride down
  rw [Nat.add_mul, Nat.one_mul] at row rows
  rw [offset, size, Nat.mul_comm raster.stride]
  omega

private theorem offset_add_le_of_lt_row {x y otherX otherY : Nat}
    (across : x < raster.width) (above : y < otherY) :
    raster.offset x y + cell ≤ raster.offset otherX otherY := by
  have row : (x + 1) * cell ≤ raster.stride :=
    Nat.le_trans (Nat.mul_le_mul_right cell across) raster.rowsFit
  have rows : (y + 1) * raster.stride ≤ otherY * raster.stride :=
    Nat.mul_le_mul_right raster.stride above
  rw [Nat.add_mul, Nat.one_mul] at row rows
  rw [offset, offset]
  omega

private theorem offset_add_le_of_lt_column {x otherX : Nat} (y : Nat)
    (left : x < otherX) :
    raster.offset x y + cell ≤ raster.offset otherX y := by
  have columns : (x + 1) * cell ≤ otherX * cell :=
    Nat.mul_le_mul_right cell left
  rw [Nat.add_mul, Nat.one_mul] at columns
  rw [offset, offset]
  omega

/-- Different cells do not overlap. -/
theorem cells_disjoint {x y otherX otherY : Nat} (across : x < raster.width)
    (otherAcross : otherX < raster.width)
    (different : ¬(x = otherX ∧ y = otherY)) :
    raster.offset x y + cell ≤ raster.offset otherX otherY ∨
      raster.offset otherX otherY + cell ≤ raster.offset x y := by
  rcases Nat.lt_trichotomy y otherY with above | same | below
  · exact .inl (raster.offset_add_le_of_lt_row across above)
  · subst same
    rcases Nat.lt_trichotomy x otherX with left | same | right
    · exact .inl (raster.offset_add_le_of_lt_column y left)
    · exact absurd ⟨same, rfl⟩ different
    · exact .inr (raster.offset_add_le_of_lt_column y right)
  · exact .inr (raster.offset_add_le_of_lt_row otherAcross below)

end Raster

/-! ## Strokes -/

/-- The stroke is for this cell. -/
def Stroke.At {cell : Nat} (stroke : Stroke alpha cell) (x y : Nat) : Prop :=
  stroke.x = x ∧ stroke.y = y

namespace Raster

variable {cell : Nat} (raster : Raster cell)

/-- The stroke is for a cell of the raster. -/
def Hits (stroke : Stroke alpha cell) : Prop :=
  (0 ≤ stroke.x ∧ stroke.x < raster.width) ∧
    0 ≤ stroke.y ∧ stroke.y < raster.height

instance (stroke : Stroke alpha cell) : Decidable (raster.Hits stroke) :=
  inferInstanceAs (Decidable ((_ ∧ _) ∧ _ ∧ _))

def paint (items : List alpha) (stroke : Stroke alpha cell) : List alpha :=
  if raster.Hits stroke then
    overwrite items (raster.offset stroke.x.toNat stroke.y.toNat)
      stroke.value.toList
  else
    items

def paintAll (items : List alpha) (strokes : List (Stroke alpha cell)) :
    List alpha :=
  strokes.foldl raster.paint items

variable {raster}

section Painting

variable {items : List alpha} {stroke : Stroke alpha cell}

/-- A stroke is outside the raster or for a cell of it. -/
theorem paint_cases (raster : Raster cell) (items : List alpha)
    (stroke : Stroke alpha cell) :
    (∃ x y, x < raster.width ∧ y < raster.height ∧ stroke.At x y ∧
        raster.paint items stroke =
          overwrite items (raster.offset x y) stroke.value.toList) ∨
      (∀ x y, x < raster.width → y < raster.height → ¬stroke.At x y) ∧
        raster.paint items stroke = items := by
  by_cases hits : raster.Hits stroke
  · obtain ⟨⟨left, right⟩, top, bottom⟩ := hits
    refine .inl ⟨stroke.x.toNat, stroke.y.toNat, by omega, by omega,
      ⟨by omega, by omega⟩, if_pos ⟨⟨left, right⟩, top, bottom⟩⟩
  · refine .inr ⟨?_, if_neg hits⟩
    rintro x y across down ⟨column, row⟩
    apply hits
    rw [Hits, column, row]
    omega

variable (sized : items.length = raster.size)

include sized

private theorem fits {x y : Nat} (across : x < raster.width)
    (down : y < raster.height) (value : Vector alpha cell) :
    raster.offset x y + value.toList.length ≤ items.length := by
  rw [Vector.length_toList, sized]
  exact raster.offset_add_le across down

theorem length_paint (stroke : Stroke alpha cell) :
    (raster.paint items stroke).length = raster.size := by
  rcases raster.paint_cases items stroke with
    ⟨x, y, across, down, _, painted⟩ | ⟨_, painted⟩
  · rw [painted, length_overwrite (fits sized across down _), sized]
  · rw [painted, sized]

/-- A stroke changes nothing but its cell. -/
theorem paint_changes {index : Nat}
    (changed : (raster.paint items stroke)[index]? ≠ items[index]?) :
    ∃ x y, x < raster.width ∧ y < raster.height ∧ stroke.At x y ∧
      raster.offset x y ≤ index ∧ index < raster.offset x y + cell := by
  rcases raster.paint_cases items stroke with
    ⟨x, y, across, down, here, painted⟩ | ⟨_, painted⟩
  · refine ⟨x, y, across, down, here, ?_⟩
    by_contra outside
    apply changed
    rw [painted, getElem?_overwrite_of_outside (fits sized across down _)]
    rw [Vector.length_toList]
    omega
  · rw [painted] at changed
    exact absurd rfl changed

theorem cellAt_paint {x y : Nat} (across : x < raster.width)
    (down : y < raster.height) (here : stroke.At x y) :
    raster.cellAt (raster.paint items stroke) x y = stroke.value.toList := by
  rcases raster.paint_cases items stroke with
    ⟨column, row, inside, below, there, painted⟩ | ⟨none, _⟩
  · have sameColumn : x = column := by
      have first := here.1.symm.trans there.1
      omega
    have sameRow : y = row := by
      have second := here.2.symm.trans there.2
      omega
    subst sameColumn sameRow
    have written := take_drop_overwrite (fits sized across down stroke.value)
    rw [Vector.length_toList] at written
    rw [painted, cellAt]
    exact written
  · exact absurd here (none x y across down)

theorem cellAt_paint_of_not_at {x y : Nat} (across : x < raster.width)
    (elsewhere : ¬stroke.At x y) :
    raster.cellAt (raster.paint items stroke) x y =
      raster.cellAt items x y := by
  rcases raster.paint_cases items stroke with
    ⟨column, row, inside, below, there, painted⟩ | ⟨_, painted⟩
  · have different : ¬(x = column ∧ y = row) := by
      rintro ⟨rfl, rfl⟩
      exact elsewhere there
    rw [painted, cellAt,
      take_drop_overwrite_of_disjoint (fits sized inside below _)]
    · rfl
    · rw [Vector.length_toList]
      exact raster.cells_disjoint across inside different
  · rw [painted]

theorem length_paintAll (strokes : List (Stroke alpha cell)) :
    (raster.paintAll items strokes).length = raster.size := by
  induction strokes using List.reverseRecOn with
  | nil => exact sized
  | append_singleton strokes stroke inductionHypothesis =>
      rw [paintAll, List.foldl_concat]
      exact length_paint inductionHypothesis stroke

/-- What strokes change is in the cells that they are for. -/
theorem paintAll_changes {strokes : List (Stroke alpha cell)} {index : Nat}
    (changed : (raster.paintAll items strokes)[index]? ≠ items[index]?) :
    ∃ stroke, stroke ∈ strokes ∧ ∃ x y, x < raster.width ∧
      y < raster.height ∧ stroke.At x y ∧
        raster.offset x y ≤ index ∧ index < raster.offset x y + cell := by
  induction strokes using List.reverseRecOn with
  | nil => exact absurd rfl changed
  | append_singleton strokes stroke inductionHypothesis =>
      by_cases earlier :
          (raster.paintAll items strokes)[index]? = items[index]?
      · rw [← earlier, paintAll, List.foldl_concat] at changed
        obtain ⟨x, y, found⟩ :=
          paint_changes (length_paintAll sized strokes) changed
        exact ⟨stroke, by simp, x, y, found⟩
      · obtain ⟨other, member, found⟩ := inductionHypothesis earlier
        exact ⟨other, List.mem_append_left _ member, found⟩

/-- A cell that a stroke is for has the value of one of the strokes for
it. -/
theorem cellAt_paintAll {strokes : List (Stroke alpha cell)} {x y : Nat}
    (across : x < raster.width) (down : y < raster.height)
    (reached : ∃ stroke, stroke ∈ strokes ∧ stroke.At x y) :
    ∃ stroke, stroke ∈ strokes ∧ stroke.At x y ∧
      raster.cellAt (raster.paintAll items strokes) x y =
        stroke.value.toList := by
  induction strokes using List.reverseRecOn with
  | nil =>
      obtain ⟨_, impossible, _⟩ := reached
      cases impossible
  | append_singleton strokes stroke inductionHypothesis =>
      have length := length_paintAll sized strokes
      rw [paintAll, List.foldl_concat]
      by_cases last : stroke.At x y
      · exact ⟨stroke, by simp, last, cellAt_paint length across down last⟩
      · obtain ⟨other, member, there⟩ := reached
        have before : other ∈ strokes := by
          rcases List.mem_append.mp member with before | final
          · exact before
          · rw [List.mem_singleton.mp final] at there
            exact absurd there last
        obtain ⟨found, here, at_, value⟩ :=
          inductionHypothesis ⟨other, before, there⟩
        refine ⟨found, List.mem_append_left _ here, at_, ?_⟩
        rw [← value]
        exact cellAt_paint_of_not_at length across last

end Painting

/-! ## Computations that paint -/

/-- The computation does what the strokes do. -/
def Paints {failure : Type v} (raster : Raster cell)
    (draw : List alpha → Except failure (List alpha))
    (strokes : List (Stroke alpha cell)) : Prop :=
  ∀ items, items.length = raster.size →
    draw items = .ok (raster.paintAll items strokes)

namespace Paints

variable {failure : Type v} {beta : Type u}
variable {first second : List alpha → Except failure (List alpha)}
variable {before after : List (Stroke alpha cell)}

theorem nothing :
    raster.Paints (Except.ok : List alpha → Except failure (List alpha))
      ([] : List (Stroke alpha cell)) :=
  fun _ _ => rfl

theorem andThen (one : raster.Paints first before)
    (other : raster.Paints second after) :
    raster.Paints (fun items => first items >>= second)
      (before ++ after) := by
  intro items sized
  have composed : raster.paintAll items (before ++ after) =
      raster.paintAll (raster.paintAll items before) after :=
    List.foldl_append
  dsimp only
  rw [one items sized, composed]
  exact other _ (length_paintAll sized before)

theorem loop {step : List alpha → beta → Except failure (List alpha)}
    {strokes : beta → List (Stroke alpha cell)} {rounds : List beta}
    (each : ∀ round, round ∈ rounds →
      raster.Paints (fun items => step items round) (strokes round)) :
    raster.Paints (fun items => rounds.foldlM step items)
      (rounds.flatMap strokes) := by
  induction rounds with
  | nil => exact nothing
  | cons round rounds inductionHypothesis =>
      rw [List.flatMap_cons]
      simp only [List.foldlM_cons]
      exact andThen (each round List.mem_cons_self)
        (inductionHypothesis fun later member =>
          each later (List.mem_cons_of_mem round member))

end Paints

end Raster

/-! ## Rectangles -/

/-- Strokes that fill a rectangle with a value, row by row. -/
def rectangle {cell : Nat} (x y : Int) (width height : Nat)
    (value : Vector alpha cell) : List (Stroke alpha cell) :=
  (List.range height).flatMap fun dy : Nat =>
    (List.range width).map fun dx : Nat => ⟨x + dx, y + dy, value⟩

theorem mem_rectangle_iff {cell : Nat} {x y : Int} {width height : Nat}
    {value : Vector alpha cell} {stroke : Stroke alpha cell} :
    stroke ∈ rectangle x y width height value ↔
      (x ≤ stroke.x ∧ stroke.x < x + width) ∧
        (y ≤ stroke.y ∧ stroke.y < y + height) ∧ stroke.value = value := by
  simp only [rectangle, List.mem_flatMap, List.mem_map, List.mem_range]
  constructor
  · rintro ⟨dy, down, dx, across, rfl⟩
    refine ⟨⟨?_, ?_⟩, ⟨?_, ?_⟩, rfl⟩ <;> dsimp only <;> omega
  · rintro ⟨⟨left, right⟩, ⟨top, bottom⟩, rfl⟩
    refine ⟨(stroke.y - y).toNat, by omega, (stroke.x - x).toNat, by omega,
      ?_⟩
    have column : x + ((stroke.x - x).toNat : Int) = stroke.x := by omega
    have row : y + ((stroke.y - y).toNat : Int) = stroke.y := by omega
    rw [column, row]

end RemoteWay.Base
