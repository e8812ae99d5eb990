import Mathlib.Order.Basic

/-!
# Repeated attempts

Attempts are repeated until one returns a value, fails with an error that
stops, or is the last.  Two runs over the same outcomes that stop at
different errors end alike exactly when the first error that stops one of
them stops the other.
-/

namespace RemoteWay.Base

universe u v

variable {Error : Type u} {Value : Type v}

/-- The attempts from `attempt` to `last` end with `result`, after the attempt
`made`.  The error of the last attempt is wrapped. -/
inductive Retried (stops : Error → Prop) (wrap : Error → Error)
    (outcome : Nat → Except Error Value) (last : Nat) :
    (attempt : Nat) → (result : Except Error Value) → (made : Nat) → Prop
  | done {attempt value} (returned : outcome attempt = .ok value) :
      Retried stops wrap outcome last attempt (.ok value) attempt
  | stopped {attempt error} (failed : outcome attempt = .error error)
      (permanent : stops error) :
      Retried stops wrap outcome last attempt (.error error) attempt
  | exhausted {error} (failed : outcome last = .error error)
      (transient : ¬ stops error) :
      Retried stops wrap outcome last last (.error (wrap error)) last
  | again {attempt error result made}
      (failed : outcome attempt = .error error)
      (transient : ¬ stops error) (before : attempt < last)
      (rest : Retried stops wrap outcome last (attempt + 1) result made) :
      Retried stops wrap outcome last attempt result made

/-- Each attempt from `first` to before `attempt` fails with an error that
does not stop. -/
def Continues (stops : Error → Prop) (outcome : Nat → Except Error Value)
    (first attempt : Nat) : Prop :=
  ∀ earlier, first ≤ earlier → earlier < attempt →
    ∃ error, outcome earlier = .error error ∧ ¬ stops error

/-- The first error that stops, if an attempt reaches it, has a property. -/
def AtFirstStop (stops meets : Error → Prop)
    (outcome : Nat → Except Error Value) (last first : Nat) : Prop :=
  ∀ attempt error, first ≤ attempt → attempt ≤ last →
    Continues stops outcome first attempt →
    outcome attempt = .error error → stops error → meets error

section Runs

variable {stops meets : Error → Prop} {wrap : Error → Error}
variable {outcome : Nat → Except Error Value} {last attempt made : Nat}
variable {result : Except Error Value}

theorem Retried.attempt_le_made
    (run : Retried stops wrap outcome last attempt result made) :
    attempt ≤ made := by
  induction run with
  | done _ => exact Nat.le_refl _
  | stopped _ _ => exact Nat.le_refl _
  | exhausted _ _ => exact Nat.le_refl _
  | again _ _ _ _ ih => exact Nat.le_of_succ_le ih

theorem continues_self (stops : Error → Prop)
    (outcome : Nat → Except Error Value) (first : Nat) :
    Continues stops outcome first first :=
  fun _ lower upper => absurd lower (Nat.not_le.mpr upper)

/-- The first attempt does not stop: only the later ones count. -/
theorem atFirstStop_succ_iff {error : Error}
    (failed : outcome attempt = .error error) (transient : ¬ stops error) :
    AtFirstStop stops meets outcome last (attempt + 1) ↔
      AtFirstStop stops meets outcome last attempt := by
  constructor
  · intro later other otherError lower upper continues otherFailed permanent
    rcases Nat.eq_or_lt_of_le lower with rfl | larger
    · rw [failed] at otherFailed
      rw [Except.error.inj otherFailed] at transient
      exact absurd permanent transient
    · refine later other otherError larger upper ?_ otherFailed permanent
      intro earlier earlierLower earlierUpper
      exact continues earlier (Nat.le_of_succ_le earlierLower) earlierUpper
  · intro all other otherError lower upper continues otherFailed permanent
    refine all other otherError (Nat.le_of_succ_le lower) upper ?_
      otherFailed permanent
    intro earlier earlierLower earlierUpper
    rcases Nat.eq_or_lt_of_le earlierLower with rfl | larger
    · exact ⟨error, failed, transient⟩
    · exact continues earlier larger earlierUpper

/-- A run that stops at the errors of `meets` is a run that stops at the
errors of `stops` exactly when the first of these is one of `meets`. -/
theorem Retried.iff_atFirstStop (weaker : ∀ error, meets error → stops error)
    (wrapped : ∀ error, wrap error ≠ error) (within : attempt ≤ last)
    (run : Retried meets wrap outcome last attempt result made) :
    Retried stops wrap outcome last attempt result made ↔
      AtFirstStop stops meets outcome last attempt := by
  induction run with
  | @done attempt value returned =>
      refine iff_of_true (.done returned) ?_
      intro other error lower upper continues failed _
      rcases Nat.eq_or_lt_of_le lower with rfl | larger
      · rw [returned] at failed
        cases failed
      · obtain ⟨early, earlyFailed, _⟩ :=
          continues attempt (Nat.le_refl _) larger
        rw [returned] at earlyFailed
        cases earlyFailed
  | @stopped attempt error failed permanent =>
      refine iff_of_true (.stopped failed (weaker error permanent)) ?_
      intro other otherError lower upper continues otherFailed _
      rcases Nat.eq_or_lt_of_le lower with rfl | larger
      · rw [failed] at otherFailed
        exact Except.error.inj otherFailed ▸ permanent
      · obtain ⟨early, earlyFailed, transient⟩ :=
          continues attempt (Nat.le_refl _) larger
        rw [failed] at earlyFailed
        rw [← Except.error.inj earlyFailed] at transient
        exact absurd (weaker error permanent) transient
  | @exhausted error failed transient =>
      constructor
      · intro spec other otherError lower upper _ otherFailed permanent
        obtain rfl := Nat.le_antisymm lower upper
        rw [failed] at otherFailed
        obtain rfl := Except.error.inj otherFailed
        generalize ended : Except.error (wrap error) = final at spec
        cases spec with
        | done returned =>
            cases ended
        | stopped specFailed _ =>
            rw [failed] at specFailed
            rw [← Except.error.inj specFailed] at ended
            exact absurd (Except.error.inj ended) (wrapped error)
        | exhausted specFailed specTransient =>
            rw [failed] at specFailed
            rw [← Except.error.inj specFailed] at specTransient
            exact absurd permanent specTransient
        | again _ _ before _ => exact absurd before (Nat.lt_irrefl _)
      · intro first
        by_cases permanent : stops error
        · exact absurd (first last error (Nat.le_refl _) (Nat.le_refl _)
            (continues_self stops outcome last) failed permanent) transient
        · exact .exhausted failed permanent
  | @again attempt error result made failed transient before rest ih =>
      by_cases permanent : stops error
      · refine iff_of_false ?_ ?_
        · intro spec
          have later := rest.attempt_le_made
          cases spec with
          | done returned => exact absurd later (Nat.not_succ_le_self _)
          | stopped _ _ => exact absurd later (Nat.not_succ_le_self _)
          | exhausted _ _ => exact absurd before (Nat.lt_irrefl _)
          | again specFailed specTransient _ _ =>
              rw [failed] at specFailed
              rw [← Except.error.inj specFailed] at specTransient
              exact absurd permanent specTransient
        · intro first
          exact transient (first attempt error (Nat.le_refl _) within
            (continues_self stops outcome attempt) failed permanent)
      · rw [← atFirstStop_succ_iff failed permanent, ← ih before]
        constructor
        · intro spec
          have later := rest.attempt_le_made
          cases spec with
          | done returned => exact absurd later (Nat.not_succ_le_self _)
          | stopped _ _ => exact absurd later (Nat.not_succ_le_self _)
          | exhausted _ _ => exact absurd before (Nat.lt_irrefl _)
          | again _ _ _ specRest => exact specRest
        · exact fun spec => .again failed permanent before spec

end Runs

end RemoteWay.Base
