import RemoteWay.Base.Exec
import RemoteWay.Base.Retry
import RemoteWay.Capture.Error

/-!
# Retries of the capture backend

The server retries a capture backend until it succeeds, fails permanently or
has failed too often.  Failures are classified by the root cause of their
error, and three permanent capture errors have a source of their own: these
are retried like transient ones.
-/

namespace RemoteWay.Server

open RemoteWay.Base RemoteWay.Capture.Error

section Retry

variable {Backend : Type}

/-- The attempts that remain. -/
def retryAttempts (tryFn : Nat → Except AnyError Backend) (what : String)
    (maxRetries : UInt32) :
    List Nat → Exec (Except AnyError Backend × Nat)
  | [] => .error .assertion
  | attempt :: attempts =>
      match tryFn attempt with
      | .ok backend => .ok (.ok backend, attempt)
      | .error e =>
          -- Permanent failures (missing protocol): bail immediately.
          if e.isPermanent then .ok (.error e, attempt)
          else if attempt = maxRetries.toNat then
            .ok (.error (e.context (what ++ " not found after 5 s")), attempt)
          else retryAttempts tryFn what maxRetries attempts

/-- The result, and the number of attempts.  The attempts are numbered from
1. -/
def retryCaptureBackendWithParams (tryFn : Nat → Except AnyError Backend)
    (what : String) (maxRetries : UInt32) :
    Exec (Except AnyError Backend × Nat) :=
  retryAttempts tryFn what maxRetries (List.range' 1 maxRetries.toNat)

/-- Retry for up to 5 s. -/
def retryCaptureBackend (tryFn : Nat → Except AnyError Backend)
    (what : String) : Exec (Except AnyError Backend × Nat) :=
  retryCaptureBackendWithParams tryFn what 50

/-- The attempts end with the first backend, at the first error whose chain
contains a permanent capture error, or after the last attempt. -/
def RetriesByChain (tryFn : Nat → Except AnyError Backend) (what : String)
    (maxRetries : UInt32) : Prop :=
  ∃ result made,
    retryCaptureBackendWithParams tryFn what maxRetries =
      .ok (result, made) ∧
    Retried AnyError.HasPermanent
      (·.context (what ++ " not found after 5 s")) tryFn maxRetries.toNat 1
      result made

variable {tryFn : Nat → Except AnyError Backend} {what : String}
variable {maxRetries : UInt32}

/-- The loop over the attempts that remain. -/
theorem retryAttempts_retried {count attempt : Nat} (positive : 0 < count)
    (total : attempt + count = maxRetries.toNat + 1) :
    ∃ result made,
      retryAttempts tryFn what maxRetries (List.range' attempt count) =
        .ok (result, made) ∧
      Retried (·.isPermanent = true)
        (·.context (what ++ " not found after 5 s")) tryFn maxRetries.toNat
        attempt result made := by
  induction count generalizing attempt with
  | zero => exact absurd positive (Nat.lt_irrefl 0)
  | succ count ih =>
      rw [List.range'_succ, retryAttempts]
      cases outcome : tryFn attempt with
      | ok backend => exact ⟨_, _, rfl, .done outcome⟩
      | error error =>
          dsimp only
          by_cases permanent : error.isPermanent = true
          · rw [if_pos permanent]
            exact ⟨_, _, rfl, .stopped outcome permanent⟩
          · rw [if_neg permanent]
            by_cases final : attempt = maxRetries.toNat
            · rw [if_pos final]
              subst final
              exact ⟨_, _, rfl, .exhausted outcome permanent⟩
            · rw [if_neg final]
              obtain ⟨result, made, returned, retried⟩ :=
                @ih (attempt + 1) (by omega) (by omega)
              exact ⟨result, made, returned,
                .again outcome permanent (by omega) retried⟩

/-- The loop over all attempts. -/
theorem retryCaptureBackendWithParams_retried
    (positive : 0 < maxRetries.toNat) :
    ∃ result made,
      retryCaptureBackendWithParams tryFn what maxRetries =
        .ok (result, made) ∧
      Retried (·.isPermanent = true)
        (·.context (what ++ " not found after 5 s")) tryFn maxRetries.toNat 1
        result made :=
  retryAttempts_retried positive (Nat.add_comm 1 _)

/-- Permanent errors are classified by their chains exactly when the first of
them, if it is reached, contains a capture error without a source. -/
theorem retriesByChain_iff (tryFn : Nat → Except AnyError Backend)
    (what : String) (positive : 0 < maxRetries.toNat) :
    RetriesByChain tryFn what maxRetries ↔
      ∀ attempt error, 1 ≤ attempt → attempt ≤ maxRetries.toNat →
        (∀ earlier, 1 ≤ earlier → earlier < attempt →
          ∃ early, tryFn earlier = .error early ∧ ¬ early.HasPermanent) →
        tryFn attempt = .error error → error.HasPermanent →
          ∀ cause, .capture cause ∈ error.chain → cause.sources = [] := by
  obtain ⟨result, made, returned, retried⟩ :=
    @retryCaptureBackendWithParams_retried Backend tryFn what maxRetries
      positive
  have first := retried.iff_atFirstStop
    (fun _ => AnyError.hasPermanent_of_isPermanent)
    (fun error => error.context_ne _) positive
  constructor
  · rintro ⟨specResult, specMade, specReturned, spec⟩
    obtain ⟨rfl, rfl⟩ := Prod.mk.inj
      (Except.ok.inj (returned.symm.trans specReturned))
    intro attempt error lower upper continues failed permanent
    exact (AnyError.isPermanent_iff permanent).mp
      (first.mp spec attempt error lower upper continues failed permanent)
  · intro alone
    refine ⟨result, made, returned, first.mpr ?_⟩
    intro attempt error lower upper continues failed permanent
    exact (AnyError.isPermanent_iff permanent).mpr
      (alone attempt error lower upper continues failed permanent)

end Retry

/-- The window of the child appears late. -/
def windowAppears : Nat → Except AnyError Unit
  | 1 => .error (.caused "failed to detect child window"
      (.capture (.captureFailed "no new toplevel found")))
  | _ => .ok ()

/-- The compositor cannot be reached at first. -/
def connectionAppears : Nat → Except AnyError Unit
  | 1 => .error (.caused "failed to detect child window"
      (.capture (.waylandConnect ⟨"no compositor was found", []⟩)))
  | _ => .ok ()

theorem retriesByChain_iff_windowAppears :
    0 < (50 : UInt32).toNat ∧
      RetriesByChain windowAppears "child window" 50 := by
  refine ⟨by decide, (@retriesByChain_iff Unit 50 windowAppears
    "child window" (by decide)).mpr ?_⟩
  rintro attempt error _ _ _ failed ⟨cause, member, refused⟩
  rw [windowAppears.eq_def] at failed
  split at failed
  · obtain rfl := Except.error.inj failed
    obtain rfl : cause = .captureFailed "no new toplevel found" := by
      simpa [AnyError.chain, CaptureError.sources] using member
    cases refused
  · cases failed

/-- A permanent error is retried: the second attempt is made. -/
theorem not_retriesByChain_connectionAppears :
    ¬ RetriesByChain connectionAppears "child window" 50 := by
  rintro ⟨result, made, returned, spec⟩
  have second : retryCaptureBackendWithParams connectionAppears
      "child window" 50 = .ok (.ok (), 2) := rfl
  obtain ⟨rfl, rfl⟩ := Prod.mk.inj
    (Except.ok.inj (second.symm.trans returned))
  have permanent : ∀ error, connectionAppears 1 = .error error →
      error.HasPermanent := by
    intro error failed
    rw [← Except.error.inj failed]
    exact ⟨.waylandConnect ⟨"no compositor was found", []⟩,
      by simp [AnyError.chain], rfl⟩
  cases spec with
  | again failed transient _ _ => exact transient (permanent _ failed)

end RemoteWay.Server
