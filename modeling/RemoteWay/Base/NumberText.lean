import Mathlib.Data.Int.Notation
import Mathlib.Order.Defs.LinearOrder

/-!
# Numbers as text

Unsigned integers are written in decimal and read back.  Floating-point
numbers are a parameter: their texts are produced and read by the standard
library, which guarantees that reading gives back what was written.
-/

namespace RemoteWay.Base

/-! ## Integers -/

def decimal (n : Nat) : List Char := Nat.toDigits 10 n

/-- At least one digit, and nothing else. -/
def parseDecimal (text : List Char) : Option Nat :=
  if text ≠ [] ∧ text.all Char.isDigit then
    some (Nat.ofDigitChars 10 text 0)
  else none

theorem decimal_ne_nil (n : Nat) : decimal n ≠ [] := Nat.toDigits_ne_nil

theorem isDigit_of_mem_decimal {n : Nat} {c : Char} (member : c ∈ decimal n) :
    c.isDigit = true :=
  Nat.isDigit_of_mem_toDigits (by decide) (by decide) member

theorem parseDecimal_decimal (n : Nat) :
    parseDecimal (decimal n) = some n := by
  have digits : (decimal n).all Char.isDigit = true :=
    List.all_eq_true.mpr fun c member => isDigit_of_mem_decimal member
  rw [parseDecimal, if_pos ⟨decimal_ne_nil n, digits⟩, decimal,
    Nat.ofDigitChars_ten_toDigits]

/-- The first character is a digit, and no sign. -/
theorem decimal_head {n : Nat} {c : Char} {rest : List Char}
    (same : decimal n = c :: rest) : c.isDigit = true :=
  isDigit_of_mem_decimal (same ▸ List.mem_cons_self)

/-- `u32::to_string`. -/
def u32ToString (n : UInt32) : List Char := decimal n.toNat

/-- `u32::from_str`. -/
def u32FromStr (text : List Char) : Option UInt32 :=
  let digits := if text.head? = some '+' then text.tail else text
  (parseDecimal digits).bind fun n =>
    if n < UInt32.size then some (UInt32.ofNat n) else none

theorem u32FromStr_u32ToString (n : UInt32) :
    u32FromStr (u32ToString n) = some n := by
  have unsigned : (u32ToString n).head? ≠ some '+' := by
    intro sign
    obtain ⟨rest, same⟩ := List.head?_eq_some_iff.mp sign
    exact absurd (decimal_head same) (by decide)
  have small : n.toNat < UInt32.size := n.toNat_lt
  simp only [u32FromStr, if_neg unsigned]
  rw [u32ToString, parseDecimal_decimal]
  simp [small]

/-! ## Floating-point numbers -/

/-- The operations of `f64` that the options of the programs need.  The values
that are not numbers count as one. -/
structure F64 where
  Value : Type
  one : Value
  epsilon : Value
  sub : Value → Value → Value
  abs : Value → Value
  gt : Value → Value → Bool
  toString : Value → List Char
  fromStr : List Char → Option Value

/-- Texts consist of digits, points, signs and the names of special values.
What was written is read back. -/
structure F64.Lawful (F : F64) : Prop where
  fromStr_one : F.fromStr "1.0".toList = some F.one
  fromStr_toString : ∀ x, F.fromStr (F.toString x) = some x
  toString_ne_nil : ∀ x, F.toString x ≠ []
  toString_characters : ∀ x c, c ∈ F.toString x →
    c.isAlphanum = true ∨ c = '.' ∨ c = '-'

/-! ### Whole multiples of a half -/

namespace Half

def toString (x : Int) : List Char :=
  let digits := decimal (x.natAbs / 2) ++
    if x.natAbs % 2 = 0 then [] else ".5".toList
  if x < 0 then '-' :: digits else digits

def fromStr (text : List Char) : Option Int :=
  let negative := text.head? = some '-'
  let digits := if negative then text.tail else text
  let whole := digits.takeWhile Char.isDigit
  let fraction := digits.drop whole.length
  (parseDecimal whole).bind fun n =>
    let sign : Int := if negative then -1 else 1
    if fraction = [] ∨ fraction = ".0".toList then some (sign * (2 * n))
    else if fraction = ".5".toList then some (sign * (2 * n + 1))
    else none

/-- Digits end where the fraction begins. -/
theorem split_digits (n : Nat) {fraction : List Char}
    (begins : fraction.takeWhile Char.isDigit = []) :
    (decimal n ++ fraction).takeWhile Char.isDigit = decimal n ∧
      (decimal n ++ fraction).drop (decimal n).length = fraction := by
  constructor
  · rw [List.takeWhile_append_of_pos fun c member =>
      isDigit_of_mem_decimal member, begins, List.append_nil]
  · exact List.drop_left

theorem head?_digits (n : Nat) (fraction : List Char) :
    (decimal n ++ fraction).head? ≠ some '-' := by
  intro sign
  cases same : decimal n with
  | nil => exact decimal_ne_nil n same
  | cons c rest =>
      rw [same] at sign
      obtain rfl : c = '-' := Option.some.inj sign
      exact absurd (decimal_head same) (by decide)

theorem fromStr_toString (x : Int) : fromStr (toString x) = some x := by
  have unsigned := head?_digits (x.natAbs / 2)
  by_cases even : x.natAbs % 2 = 0
  · have split := @split_digits (x.natAbs / 2) [] rfl
    by_cases negative : x < 0
    · have value : -1 * (2 * ((x.natAbs / 2 : Nat) : Int)) = x := by
        omega
      simp only [toString, fromStr, even, negative, if_true, List.head?_cons,
        List.tail_cons, split, parseDecimal_decimal, Option.bind_some,
        true_or, value]
    · have value : 1 * (2 * ((x.natAbs / 2 : Nat) : Int)) = x := by
        omega
      simp only [toString, fromStr, even, negative, if_true, if_false,
        unsigned, split, parseDecimal_decimal, Option.bind_some, true_or,
        value]
  · have split := @split_digits (x.natAbs / 2) ".5".toList rfl
    have other : ¬ (".5".toList = [] ∨ ".5".toList = ".0".toList) := by decide
    by_cases negative : x < 0
    · have value : -1 * (2 * ((x.natAbs / 2 : Nat) : Int) + 1) = x := by
        omega
      simp only [toString, fromStr, even, negative, if_true, if_false,
        List.head?_cons, List.tail_cons, split, parseDecimal_decimal,
        Option.bind_some, other, value]
    · have value : 1 * (2 * ((x.natAbs / 2 : Nat) : Int) + 1) = x := by
        omega
      simp only [toString, fromStr, even, negative, if_true, if_false,
        unsigned, split, parseDecimal_decimal, Option.bind_some, other, value]

theorem toString_ne_nil (x : Int) : toString x ≠ [] := by
  have digits := decimal_ne_nil (x.natAbs / 2)
  simp only [toString]
  split_ifs <;> simp [digits]

theorem toString_characters {x : Int} {c : Char} (member : c ∈ toString x) :
    c.isAlphanum = true ∨ c = '.' ∨ c = '-' := by
  have written : c ∈ decimal (x.natAbs / 2) ∨ c = '.' ∨ c = '5' ∨
      c = '-' := by
    simp only [toString] at member
    split_ifs at member <;> simp at member <;> grind
  rcases written with digit | rfl | rfl | rfl
  · left
    simp [Char.isAlphanum, isDigit_of_mem_decimal digit]
  · exact Or.inr (Or.inl rfl)
  · exact Or.inl (by decide)
  · exact Or.inr (Or.inr rfl)

end Half

/-- The numbers of `f64` that are whole multiples of a half, in halves. -/
def halves : F64 where
  Value := Int
  one := 2
  epsilon := 0
  sub := Int.sub
  abs := fun x => x.natAbs
  gt := fun x y => decide (y < x)
  toString := Half.toString
  fromStr := Half.fromStr

theorem halves_lawful : halves.Lawful where
  fromStr_one := by
    change Half.fromStr "1.0".toList = some 2
    decide
  fromStr_toString := Half.fromStr_toString
  toString_ne_nil := Half.toString_ne_nil
  toString_characters := fun _ _ => Half.toString_characters

end RemoteWay.Base
