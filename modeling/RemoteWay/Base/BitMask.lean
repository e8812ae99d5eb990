import Mathlib.Algebra.GroupWithZero.Nat
import Mathlib.Data.List.Perm.Basic
import Mathlib.Data.List.Range

/-!
# Sets of small numbers in a word

A word of 64 bits stands for the list of the positions of its ones.  Setting
and clearing a bit put a position into the list and take it out.
-/

namespace RemoteWay.Base

/-- The positions of the ones, in their order. -/
def ones (mask : UInt64) : List Nat :=
  (List.range 64).filter fun position => mask.toBitVec.getLsbD position

/-- `1 << position`. -/
def bit (position : UInt64) : UInt64 := 1 <<< position

/-- `mask.trailing_zeros()`. -/
def trailingZeros (mask : UInt64) : Nat := mask.toBitVec.ctz.toNat

/-- `mask.count_ones()`. -/
def countOnes (mask : UInt64) : Nat := mask.toBitVec.cpop.toNat

theorem mem_ones_iff {mask : UInt64} {position : Nat} :
    position ∈ ones mask ↔
      position < 64 ∧ mask.toBitVec.getLsbD position = true := by
  simp [ones]

theorem nodup_ones (mask : UInt64) : (ones mask).Nodup :=
  List.nodup_range.filter _

/-- The number of ones among the lowest bits. -/
theorem cpopNatRec_eq_length (bits : BitVec 64) (count : Nat) :
    bits.cpopNatRec count 0 =
      ((List.range count).filter fun position =>
        bits.getLsbD position).length := by
  induction count with
  | zero => rfl
  | succ count inductionHypothesis =>
      rw [BitVec.cpopNatRec_succ, BitVec.cpopNatRec_eq, inductionHypothesis,
        List.range_succ, List.filter_append, List.length_append]
      cases here : bits.getLsbD count with
      | false => simp [here]
      | true => simp [here, Nat.add_comm]

theorem countOnes_eq (mask : UInt64) : countOnes mask = (ones mask).length := by
  rw [countOnes, BitVec.toNat_cpop, cpopNatRec_eq_length, ones]

theorem trailingZeros_mem {mask : UInt64} (nonzero : mask ≠ 0) :
    trailingZeros mask ∈ ones mask := by
  have bits : mask.toBitVec ≠ 0#64 := by
    intro zero
    exact nonzero (UInt64.toBitVec_inj.mp zero)
  have found := BitVec.getLsbD_true_ctz_of_ne_zero bits
  rw [mem_ones_iff]
  exact ⟨BitVec.lt_of_getLsbD found, found⟩

section Bits

variable {mask position : UInt64} (small : position.toNat < 64)

include small

theorem getLsbD_bit {other : Nat} (inside : other < 64) :
    (bit position).toBitVec.getLsbD other =
      decide (other = position.toNat) := by
  have amount : (position.toBitVec % 64).toNat = position.toNat := by
    rw [BitVec.toNat_umod]
    exact Nat.mod_eq_of_lt small
  rw [bit, UInt64.toBitVec_shiftLeft, BitVec.getLsbD_shiftLeft', amount]
  change (decide (other < 64) && !decide (other < position.toNat) &&
    BitVec.getLsbD 1#64 (other - position.toNat)) = _
  rw [BitVec.getLsbD_one]
  simp only [inside, decide_true, Bool.true_and, Nat.zero_lt_succ]
  by_cases same : other = position.toNat
  · simp [same]
  · by_cases below : other < position.toNat
    · simp [same, below]
    · have above : other - position.toNat ≠ 0 := by omega
      simp [same, above]

theorem mem_ones_clear_iff {other : Nat} :
    other ∈ ones (mask &&& ~~~ bit position) ↔
      other ∈ ones mask ∧ other ≠ position.toNat := by
  rw [mem_ones_iff, mem_ones_iff, and_assoc]
  refine and_congr_right fun inside => ?_
  rw [UInt64.toBitVec_and, UInt64.toBitVec_not, BitVec.getLsbD_and,
    BitVec.getLsbD_not, getLsbD_bit small inside]
  simp [inside]

theorem mem_ones_set_iff {other : Nat} :
    other ∈ ones (mask ||| bit position) ↔
      other = position.toNat ∨ other ∈ ones mask := by
  rw [mem_ones_iff, mem_ones_iff]
  by_cases inside : other < 64
  · rw [UInt64.toBitVec_or, BitVec.getLsbD_or, getLsbD_bit small inside]
    simp [inside, or_comm]
  · have different : other ≠ position.toNat := by omega
    simp [inside, different]

/-- Clearing a bit takes its position out. -/
theorem ones_clear (present : position.toNat ∈ ones mask) :
    (ones mask).Perm
      (position.toNat :: ones (mask &&& ~~~ bit position)) := by
  have absent : position.toNat ∉ ones (mask &&& ~~~ bit position) :=
    fun member => ((mem_ones_clear_iff small).mp member).2 rfl
  rw [List.perm_ext_iff_of_nodup (nodup_ones mask)
    (List.nodup_cons.mpr ⟨absent, nodup_ones _⟩)]
  intro other
  rw [List.mem_cons, mem_ones_clear_iff small]
  by_cases same : other = position.toNat
  · rw [same]
    exact iff_of_true present (Or.inl rfl)
  · simp [same]

/-- Setting a bit puts its position in. -/
theorem ones_set (absent : position.toNat ∉ ones mask) :
    (ones (mask ||| bit position)).Perm
      (position.toNat :: ones mask) := by
  rw [List.perm_ext_iff_of_nodup (nodup_ones _)
    (List.nodup_cons.mpr ⟨absent, nodup_ones mask⟩)]
  intro other
  rw [List.mem_cons, mem_ones_set_iff small]

/-- A bit of which the position is not in the list is not set. -/
theorem and_bit_eq_zero (absent : position.toNat ∉ ones mask) :
    mask &&& bit position = 0 := by
  rw [← UInt64.toBitVec_inj]
  apply BitVec.eq_of_getLsbD_eq
  intro other inside
  rw [UInt64.toBitVec_and, BitVec.getLsbD_and, getLsbD_bit small inside]
  by_cases same : other = position.toNat
  · have unset : mask.toBitVec.getLsbD other = false := by
      rw [Bool.eq_false_iff]
      intro set
      exact absent (mem_ones_iff.mpr (same ▸ ⟨inside, set⟩))
    simp [unset]
  · simp [same]

end Bits

/-- The positions below a number, as the ones of a word. -/
theorem ones_lowest {count : Nat} (inside : count < 64) :
    (ones (bit (UInt64.ofNat count) - 1)).Perm (List.range count) := by
  have amount : (UInt64.ofNat count).toNat % 64 = count := by
    rw [UInt64.toNat_ofNat_of_lt' (Nat.lt_trans inside (by decide))]
    exact Nat.mod_eq_of_lt inside
  have power : 2 ^ count < 2 ^ 64 := Nat.pow_lt_pow_right (by decide) inside
  have shifted : (bit (UInt64.ofNat count)).toNat = 2 ^ count := by
    rw [bit, UInt64.toNat_shiftLeft, amount, Nat.shiftLeft_eq]
    change 1 * 2 ^ count % 2 ^ 64 = 2 ^ count
    rw [Nat.one_mul, Nat.mod_eq_of_lt power]
  have value : (bit (UInt64.ofNat count) - 1).toNat = 2 ^ count - 1 := by
    rw [UInt64.toNat_sub_of_le, shifted]
    · rfl
    · rw [UInt64.le_iff_toNat_le, shifted]
      exact Nat.one_le_two_pow
  rw [List.perm_ext_iff_of_nodup (nodup_ones _) List.nodup_range]
  intro position
  rw [mem_ones_iff, List.mem_range]
  change position < 64 ∧ (bit (UInt64.ofNat count) - 1).toNat.testBit
    position = true ↔ _
  rw [value, Nat.testBit_two_pow_sub_one, decide_eq_true_iff]
  omega

/-- Clearing the lowest bits of a number rounds it down. -/
theorem and_multiples {value low width : Nat}
    (small : value < 2 ^ (low + width)) :
    value &&& (2 ^ width - 1) * 2 ^ low = value / 2 ^ low * 2 ^ low := by
  apply Nat.eq_of_testBit_eq
  intro position
  rw [Nat.testBit_and, Nat.testBit_mul_two_pow, Nat.testBit_mul_two_pow,
    Nat.testBit_two_pow_sub_one, Nat.testBit_div_two_pow]
  by_cases above : low ≤ position
  · rw [Nat.sub_add_cancel above]
    by_cases inside : position - low < width
    · simp [above, inside]
    · have unset : value.testBit position = false :=
        Nat.testBit_lt_two_pow (Nat.lt_of_lt_of_le small
          (Nat.pow_le_pow_right (by decide) (by omega)))
      simp [unset]
  · simp [above]

theorem ones_all : ones 0xFFFFFFFFFFFFFFFF = List.range 64 := by
  decide +kernel

end RemoteWay.Base
