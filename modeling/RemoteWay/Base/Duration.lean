import Mathlib.Order.Lattice
import RemoteWay.Base.Exec

/-!
# Durations

`std::time::Duration` as a number of nanoseconds.  Its operators panic in
both builds: a sum that does not fit, and a division by zero.
-/

namespace RemoteWay.Base

/-- `Duration::MAX` in nanoseconds: `u64::MAX` seconds and 999999999
nanoseconds. -/
def maxNanos : Nat := 2 ^ 64 * 1000000000 - 1

@[ext]
structure Duration where
  nanos : Nat
  inside : nanos ≤ maxNanos
  deriving DecidableEq, Repr

namespace Duration

instance : LinearOrder Duration :=
  LinearOrder.lift' Duration.nanos fun _ _ => Duration.ext

theorem le_iff {left right : Duration} :
    left ≤ right ↔ left.nanos ≤ right.nanos := Iff.rfl

def zero : Duration := ⟨0, Nat.zero_le _⟩

def maximum : Duration := ⟨maxNanos, Nat.le_refl _⟩

def fromNanos (nanos : UInt64) : Duration where
  nanos := nanos.toNat
  inside := by
    have small := nanos.toNat_lt
    simp only [maxNanos]
    omega

def add (left right : Duration) : Exec Duration :=
  if fits : left.nanos + right.nanos ≤ maxNanos then
    .ok ⟨left.nanos + right.nanos, fits⟩
  else
    .error .overflow

/-- Division by a number, rounded down. -/
def div (duration : Duration) (divisor : UInt32) : Exec Duration :=
  if divisor = 0 then
    .error .division
  else
    .ok ⟨duration.nanos / divisor.toNat,
      Nat.le_trans (Nat.div_le_self _ _) duration.inside⟩

theorem zero_le (duration : Duration) : zero ≤ duration :=
  Nat.zero_le duration.nanos

theorem le_maximum (duration : Duration) : duration ≤ maximum :=
  duration.inside

theorem add_eq_ok_iff {left right sum : Duration} :
    left.add right = .ok sum ↔ left.nanos + right.nanos = sum.nanos := by
  rw [add]
  by_cases fits : left.nanos + right.nanos ≤ maxNanos
  · rw [dif_pos fits, Except.ok.injEq, Duration.ext_iff]
  · rw [dif_neg fits]
    constructor
    · intro impossible
      cases impossible
    · intro same
      have inside := sum.inside
      omega

theorem div_eq_ok_iff {duration quotient : Duration} {divisor : UInt32} :
    duration.div divisor = .ok quotient ↔
      divisor ≠ 0 ∧ quotient.nanos = duration.nanos / divisor.toNat := by
  rw [div]
  by_cases zero : divisor = 0
  · simp [zero]
  · rw [if_neg zero, Except.ok.injEq, Duration.ext_iff]
    simp [zero, eq_comm]

end Duration

end RemoteWay.Base
