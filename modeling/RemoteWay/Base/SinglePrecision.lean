import Mathlib.Algebra.GroupWithZero.Nat
import RemoteWay.Base.NumberText

/-!
# Single-precision numbers

An `f32` is given by its bits: a sign, eight bits of exponent and 23 bits of
the significand.  The bits without the sign are in the order of the absolute
values.
-/

namespace RemoteWay.Base

namespace F32

/-- The bits without the sign. -/
def magnitude (bits : UInt32) : Nat := bits.toNat % 2 ^ 31

def negative (bits : UInt32) : Bool := decide (2 ^ 31 ≤ bits.toNat)

def infinity : Nat := 0x7F800000

def isFinite (bits : UInt32) : Bool := decide (magnitude bits < infinity)

def isNan (bits : UInt32) : Bool := decide (infinity < magnitude bits)

/-- The place of a number in the order of the numbers.  The two zeros have
the same. -/
def rank (bits : UInt32) : Int :=
  if negative bits then -(magnitude bits : Int) else magnitude bits

/-- `left >= right`, which is false of a NaN. -/
def ge (left right : UInt32) : Bool :=
  !isNan left && !isNan right && decide (rank right ≤ rank left)

/-- `f32::min`, which is the other number for a NaN. -/
def min (left right : UInt32) : UInt32 :=
  if isNan left then right
  else if isNan right then left
  else if rank left ≤ rank right then left
  else right

/-! ## One decimal place -/

/-- The nearest integer to a quotient, and of two the even one. -/
def roundHalfEven (numerator denominator : Nat) : Nat :=
  let quotient := numerator / denominator
  let rest := numerator % denominator
  if 2 * rest < denominator ∨ 2 * rest = denominator ∧ quotient % 2 = 0 then
    quotient
  else
    quotient + 1

/-- The absolute value of a finite number, times `2 ^ 150`. -/
def scaledValue (bits : UInt32) : Nat :=
  let exponent := magnitude bits / 2 ^ 23
  let fraction := magnitude bits % 2 ^ 23
  if exponent = 0 then fraction * 2
  else (2 ^ 23 + fraction) * 2 ^ exponent

/-- The text of a finite number with one decimal place. -/
def oneDecimal (bits : UInt32) : List Char :=
  let tenths := roundHalfEven (10 * scaledValue bits) (2 ^ 150)
  (if negative bits then ['-'] else []) ++
    decimal (tenths / 10) ++ '.' :: decimal (tenths % 10)

example : oneDecimal 0x426EE148 = "59.7".toList := by decide

example : oneDecimal 0x3E800000 = "0.2".toList := by decide

theorem length_decimal_le {n count : Nat} (positive : 0 < count)
    (small : n < 10 ^ count) : (decimal n).length ≤ count :=
  (Nat.length_toDigits_le_iff (by decide) positive).mpr small

theorem roundHalfEven_le {numerator denominator bound : Nat}
    (positive : 0 < denominator)
    (small : 2 * numerator < (2 * bound + 1) * denominator) :
    roundHalfEven numerator denominator ≤ bound := by
  have split := Nat.div_add_mod numerator denominator
  have below : numerator / denominator ≤ bound := by
    apply Nat.le_of_lt_succ
    rw [Nat.div_lt_iff_lt_mul positive]
    rw [Nat.add_mul, Nat.mul_assoc] at small
    rw [Nat.succ_mul]
    omega
  simp only [roundHalfEven]
  by_cases last : numerator / denominator = bound
  · -- A quotient of `bound` has a rest of less than a half.
    rw [last, Nat.mul_comm] at split
    rw [Nat.add_mul, Nat.mul_assoc] at small
    rw [if_pos (.inl (by omega))]
    exact Nat.le_of_eq last
  · split_ifs <;> omega

/-- 999.9 as an `f32`. -/
def below1000 : UInt32 := 0x4479F99A

/-- The number is between 0 and 999.9. -/
def FourDigits (bits : UInt32) : Prop :=
  ge bits 0 = true ∧ ge below1000 bits = true

theorem scaledValue_le {bits : UInt32}
    (small : magnitude bits ≤ magnitude below1000) :
    scaledValue bits ≤ 0xF9F99A * 2 ^ 136 := by
  have limit : magnitude below1000 = 136 * 2 ^ 23 + 0x79F99A := by decide
  rw [limit] at small
  simp only [scaledValue]
  split_ifs with zero
  · omega
  · by_cases last : magnitude bits / 2 ^ 23 = 136
    · rw [last]
      apply Nat.mul_le_mul_right
      omega
    · have power : 2 ^ (magnitude bits / 2 ^ 23) ≤ 2 ^ 135 :=
        Nat.pow_le_pow_right (by decide) (by omega)
      calc (2 ^ 23 + magnitude bits % 2 ^ 23) * 2 ^ (magnitude bits / 2 ^ 23)
          ≤ 2 ^ 24 * 2 ^ 135 := Nat.mul_le_mul (by omega) power
        _ ≤ 0xF9F99A * 2 ^ 136 := by decide

/-- Four digits and a point, or a zero with a sign. -/
theorem length_oneDecimal_le {bits : UInt32} (few : FourDigits bits) :
    (oneDecimal bits).length ≤ 5 := by
  obtain ⟨nonneg, small⟩ := few
  simp only [ge, Bool.and_eq_true, decide_eq_true_eq] at nonneg small
  have zero : rank 0 = 0 := by decide
  have limit : rank below1000 = magnitude below1000 := by decide
  have sign := nonneg.2
  have bound := small.2
  rw [zero] at sign
  rw [limit] at bound
  rw [oneDecimal]
  by_cases negative : negative bits = true
  · have none : magnitude bits = 0 := by
      rw [rank, if_pos negative] at sign
      omega
    have zeros : scaledValue bits = 0 := by
      rw [scaledValue, none]
      rfl
    rw [zeros, if_pos negative]
    decide
  · rw [rank, if_neg negative] at bound
    have scaled := scaledValue_le (Int.ofNat_le.mp bound)
    have tenths : roundHalfEven (10 * scaledValue bits) (2 ^ 150) ≤ 9999 :=
      roundHalfEven_le (by decide) (by omega)
    generalize roundHalfEven (10 * scaledValue bits) (2 ^ 150) = digits
      at tenths
    have whole : (decimal (digits / 10)).length ≤ 3 :=
      length_decimal_le (by decide) (by omega)
    have place : (decimal (digits % 10)).length ≤ 1 :=
      length_decimal_le (by decide) (by omega)
    rw [if_neg negative]
    simp only [List.nil_append, List.length_append, List.length_cons]
    omega

end F32

end RemoteWay.Base
