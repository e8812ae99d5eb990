import Mathlib.Algebra.GroupWithZero.Nat
import Mathlib.Data.List.Basic

/-!
# A line cut into intervals of almost equal length

`total` positions are shared out among `parts` intervals, the first of which
starts at `0`; interval `index` starts at `index * total / parts`, rounded
down.  With no more intervals than positions every interval is non-empty and
every position is in exactly one of them.
-/

namespace RemoteWay.Base

/-- The first position of an interval. -/
def intervalStart (total parts index : Nat) : Nat := index * total / parts

/-- `position` belongs to interval `index`. -/
def InInterval (total parts index position : Nat) : Prop :=
  intervalStart total parts index ≤ position ∧
    position < intervalStart total parts (index + 1)

instance (total parts index position : Nat) :
    Decidable (InInterval total parts index position) :=
  inferInstanceAs (Decidable (_ ∧ _))

variable {total parts : Nat}

@[simp]
theorem intervalStart_zero (total parts : Nat) :
    intervalStart total parts 0 = 0 := by
  simp [intervalStart]

theorem intervalStart_parts (positive : 0 < parts) :
    intervalStart total parts parts = total :=
  Nat.mul_div_cancel_left total positive

theorem intervalStart_self (positive : 0 < total) (index : Nat) :
    intervalStart total total index = index :=
  Nat.mul_div_cancel index positive

theorem intervalStart_le_of_le {first second : Nat}
    (ordered : first ≤ second) :
    intervalStart total parts first ≤ intervalStart total parts second :=
  Nat.div_le_div_right (Nat.mul_le_mul_right total ordered)

theorem intervalStart_le_total (positive : 0 < parts) {index : Nat}
    (inside : index ≤ parts) : intervalStart total parts index ≤ total := by
  have last := @intervalStart_le_of_le total parts _ _ inside
  rw [intervalStart_parts positive] at last
  exact last

theorem intervalStart_lt_succ (positive : 0 < parts)
    (enough : parts ≤ total) (index : Nat) :
    intervalStart total parts index <
      intervalStart total parts (index + 1) := by
  have next : intervalStart total parts index + 1 =
      (index * total + parts) / parts := by
    rw [Nat.add_div_right _ positive, intervalStart]
  have grown : (index * total + parts) / parts ≤
      intervalStart total parts (index + 1) := by
    apply Nat.div_le_div_right
    rw [Nat.add_mul, Nat.one_mul]
    omega
  omega

theorem intervalStart_succ_le (positive : 0 < parts) {ratio : Nat}
    (bounded : total ≤ ratio * parts) (index : Nat) :
    intervalStart total parts (index + 1) ≤
      intervalStart total parts index + ratio := by
  have grown : (index * total + parts * ratio) / parts =
      intervalStart total parts index + ratio :=
    Nat.add_mul_div_left _ _ positive
  rw [← grown]
  apply Nat.div_le_div_right
  rw [Nat.add_mul, Nat.one_mul, Nat.mul_comm parts]
  omega

/-- Every position is in some interval. -/
theorem exists_inInterval {position : Nat} :
    ∀ {count : Nat}, count ≤ parts →
      position < intervalStart total parts count →
        ∃ index, index < count ∧ InInterval total parts index position := by
  intro count
  induction count with
  | zero =>
      intro _ inside
      rw [intervalStart_zero] at inside
      cases inside
  | succ count inductionHypothesis =>
      intro bounded inside
      by_cases earlier : position < intervalStart total parts count
      · obtain ⟨index, below, member⟩ :=
          inductionHypothesis (Nat.le_of_succ_le bounded) earlier
        exact ⟨index, Nat.lt_succ_of_lt below, member⟩
      · exact ⟨count, Nat.lt_succ_self count, by omega, inside⟩

/-- A position is in one interval at most. -/
theorem inInterval_unique {first second position : Nat}
    (inFirst : InInterval total parts first position)
    (inSecond : InInterval total parts second position) :
    first = second := by
  rcases Nat.lt_trichotomy first second with before | same | after
  · have ordered : intervalStart total parts (first + 1) ≤
        intervalStart total parts second := intervalStart_le_of_le before
    have upper := inFirst.2
    have lower := inSecond.1
    omega
  · exact same
  · have ordered : intervalStart total parts (second + 1) ≤
        intervalStart total parts first := intervalStart_le_of_le after
    have upper := inSecond.2
    have lower := inFirst.1
    omega

/-- The intervals tile the line. -/
theorem existsUnique_inInterval (positive : 0 < parts) {position : Nat}
    (inside : position < total) :
    ∃! index, index < parts ∧ InInterval total parts index position := by
  rw [← @intervalStart_parts total parts positive] at inside
  obtain ⟨index, below, member⟩ :=
    exists_inInterval (Nat.le_refl parts) inside
  refine ⟨index, ⟨below, member⟩, ?_⟩
  rintro other ⟨_, otherMember⟩
  exact inInterval_unique otherMember member

end RemoteWay.Base
