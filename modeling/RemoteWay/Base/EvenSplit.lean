import Mathlib.Algebra.GroupWithZero.Nat
import Mathlib.Data.List.Basic

/-!
# A line cut into parts that differ by one at most

`total` positions are cut into `parts` consecutive pieces.  Every piece has
`total / parts` positions, and each of the first `total % parts` pieces has
one more.
-/

namespace RemoteWay.Base

/-- The first position of a piece. -/
def cutStart (total parts index : Nat) : Nat :=
  index * (total / parts) + min index (total % parts)

/-- The number of positions of a piece. -/
def cutSize (total parts index : Nat) : Nat :=
  total / parts + if index < total % parts then 1 else 0

variable {total parts : Nat}

@[simp]
theorem cutStart_zero (total parts : Nat) : cutStart total parts 0 = 0 := by
  simp [cutStart]

theorem cutStart_succ (total parts index : Nat) :
    cutStart total parts (index + 1) =
      cutStart total parts index + cutSize total parts index := by
  rw [cutStart, cutStart, cutSize, Nat.add_mul, Nat.one_mul]
  split <;> omega

/-- The pieces end where the line ends. -/
theorem cutStart_parts (positive : 0 < parts) :
    cutStart total parts parts = total := by
  have remainder := Nat.mod_lt total positive
  have division := Nat.div_add_mod total parts
  rw [cutStart, Nat.min_eq_right (Nat.le_of_lt remainder)]
  exact division

theorem cutStart_le_of_le {first second : Nat} (ordered : first ≤ second) :
    cutStart total parts first ≤ cutStart total parts second := by
  induction ordered with
  | refl => exact Nat.le_refl _
  | step _ inductionHypothesis =>
      rw [cutStart_succ]
      omega

theorem cutStart_le_total (positive : 0 < parts) {index : Nat}
    (inside : index ≤ parts) : cutStart total parts index ≤ total := by
  have last := @cutStart_le_of_le total parts _ _ inside
  rw [cutStart_parts positive] at last
  exact last

theorem cutSize_le_succ (total parts first second : Nat) :
    cutSize total parts first ≤ cutSize total parts second + 1 := by
  rw [cutSize, cutSize]
  split <;> omega

/-- With no more pieces than positions, no piece is empty. -/
theorem cutSize_pos (positive : 0 < parts) (enough : parts ≤ total)
    (index : Nat) : 0 < cutSize total parts index := by
  have quotient : 0 < total / parts := Nat.div_pos enough positive
  rw [cutSize]
  omega

theorem cutSize_le_total (positive : 0 < parts) {index : Nat}
    (inside : index < parts) : cutSize total parts index ≤ total := by
  have stop := @cutStart_le_total total parts positive (index + 1) inside
  rw [cutStart_succ] at stop
  omega

/-- The first pieces are the first positions, in order. -/
theorem flatMap_cuts (total parts : Nat) :
    ∀ count, ((List.range count).flatMap fun index =>
        List.range' (cutStart total parts index)
          (cutSize total parts index)) =
      List.range (cutStart total parts count) := by
  intro count
  induction count with
  | zero => simp
  | succ count inductionHypothesis =>
      have joined : List.range' 0 (cutStart total parts count) ++
          List.range' (0 + cutStart total parts count)
            (cutSize total parts count) =
          List.range' 0 (cutStart total parts count +
            cutSize total parts count) := List.range'_append_1
      rw [Nat.zero_add] at joined
      rw [List.range_succ, List.flatMap_append, inductionHypothesis,
        cutStart_succ, List.range_eq_range', List.range_eq_range', ← joined]
      simp

end RemoteWay.Base
