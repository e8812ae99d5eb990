import Mathlib.Data.Int.ModEq

/-!
# Expanding a residue

A counter that is sent modulo a period is recovered from its residue and the
value before it: the high part of the earlier value is kept, or moved by one
period when the residue lies more than half a period away.
-/

namespace RemoteWay.Base

/-- The value with the given residue that is recovered after `previous`. -/
def expandResidue (period previous residue : Int) : Int :=
  let low := previous % period
  let high := previous - low
  if residue < low ∧ period / 2 ≤ low - residue then
    high + period + residue
  else if low < residue ∧ period / 2 < residue - low then
    high - period + residue
  else
    high + residue

/-- The recovered value has the residue it was recovered from. -/
theorem expandResidue_emod {period residue : Int} (previous : Int)
    (nonneg : 0 ≤ residue) (small : residue < period) :
    expandResidue period previous residue % period = residue := by
  have multiple : (previous - previous % period) % period = 0 :=
    Int.emod_eq_zero_of_dvd (Int.dvd_self_sub_emod)
  have reduced : residue % period = residue :=
    Int.emod_eq_of_lt nonneg small
  rw [expandResidue]
  split
  · rw [Int.add_emod, Int.add_emod (previous - previous % period), multiple,
      Int.emod_self, reduced]
    simp [reduced]
  · split
    · rw [Int.add_emod, Int.sub_emod, multiple, Int.emod_self, reduced]
      simp [reduced]
    · rw [Int.add_emod, multiple, reduced]
      simp [reduced]

/-- The next value of a counter is recovered from its residue. -/
theorem expandResidue_succ {period : Int} (previous : Int)
    (long : 2 ≤ period) :
    expandResidue period previous ((previous + 1) % period) =
      previous + 1 := by
  have lowNonneg : 0 ≤ previous % period :=
    Int.emod_nonneg previous (by omega)
  have lowSmall : previous % period < period :=
    Int.emod_lt_of_pos previous (by omega)
  have unit : (1 : Int) % period = 1 := Int.emod_eq_of_lt (by omega) (by omega)
  rw [expandResidue, Int.add_emod, unit]
  rcases Int.lt_or_le (previous % period + 1) period with inside | last
  · rw [Int.emod_eq_of_lt (by omega) inside]
    have half : 1 ≤ period / 2 := by omega
    rw [if_neg (by omega), if_neg (by omega)]
    omega
  · have wrapped : previous % period + 1 = period := by omega
    rw [wrapped, Int.emod_self, if_pos (by omega)]
    omega

/-- Nothing but the residue of the next value is expanded to it. -/
theorem expandResidue_eq_succ_iff {period previous residue : Int}
    (long : 2 ≤ period) (nonneg : 0 ≤ residue) (small : residue < period) :
    expandResidue period previous residue = previous + 1 ↔
      residue = (previous + 1) % period := by
  constructor
  · intro next
    rw [← next, expandResidue_emod previous nonneg small]
  · intro same
    rw [same, expandResidue_succ previous long]

end RemoteWay.Base
