import Mathlib.Tactic.ByContra

/-!
# Errors of the capture

The whole enumeration of capture errors, with the errors that three of its
variants carry, and the errors of the server that contain them: an error with
its sources is a chain, whose last link is the root cause.
-/

namespace RemoteWay.Capture.Error

/-- An error of a library: its text and the texts of its sources. -/
structure ForeignError where
  text : String
  sources : List String
  deriving DecidableEq, Repr

inductive ThreadConfigError where
  | coreAffinity (core : Nat)
  | schedSetScheduler (errno : Int32)
  | spawn (error : ForeignError)
  deriving DecidableEq

inductive CaptureError where
  | waylandConnect (error : ForeignError)
  | waylandDispatch (error : ForeignError)
  | noBackend
  | noOutputs
  | shmPool (text : String)
  | bufferPoolExhausted
  | sessionEnded
  | outputNotFound (name : String)
  | unsupportedFormat (format : UInt32)
  | threadSpawn (error : ThreadConfigError)
  | captureFailed (text : String)
  | protocol (text : String)
  deriving DecidableEq

namespace CaptureError

/-- Whether this error is transient. -/
def isRetriable : CaptureError → Bool
  | captureFailed _ => true
  | _ => false

end CaptureError

/-! ## Chains -/

/-- The texts of an error and of its sources. -/
def ForeignError.chain (error : ForeignError) : List String :=
  error.text :: error.sources

def ThreadConfigError.chain : ThreadConfigError → List String
  | coreAffinity core =>
      ["failed to set core affinity for core " ++ toString core]
  | schedSetScheduler errno =>
      ["sched_setscheduler failed: errno " ++ toString errno]
  | spawn error => ("thread spawn failed: " ++ error.text) :: error.chain

/-- The texts of the sources: a wrapped error is a source. -/
def CaptureError.sources : CaptureError → List String
  | waylandConnect error => error.chain
  | waylandDispatch error => error.chain
  | threadSpawn error => error.chain
  | _ => []

/-- One error of a chain. -/
inductive Link where
  | capture (error : CaptureError)
  | other (text : String)
  deriving DecidableEq

/-- An error of the server.  A context is an error whose source is the error
it was added to. -/
inductive AnyError where
  | plain (text : String)
  | capture (error : CaptureError)
  | caused (text : String) (source : AnyError)
  deriving DecidableEq

namespace AnyError

def context (error : AnyError) (text : String) : AnyError :=
  caused text error

def chain : AnyError → List Link
  | plain text => [.other text]
  | capture error => .capture error :: error.sources.map .other
  | caused text source => .other text :: source.chain

theorem chain_ne_nil (error : AnyError) : error.chain ≠ [] := by
  cases error <;> simp [chain]

/-- The innermost source. -/
def rootCause (error : AnyError) : Link :=
  error.chain.getLast error.chain_ne_nil

/-- The root cause is a capture error that is not transient. -/
def isPermanent (error : AnyError) : Bool :=
  match error.rootCause with
  | .capture cause => !cause.isRetriable
  | .other _ => false

@[simp]
theorem rootCause_caused (text : String) (source : AnyError) :
    (caused text source).rootCause = source.rootCause :=
  List.getLast_cons source.chain_ne_nil

theorem context_ne (error : AnyError) (text : String) :
    error.context text ≠ error := by
  intro same
  have sizes := congrArg sizeOf same
  simp only [context, caused.sizeOf_spec] at sizes
  omega

/-- A capture error without a source ends its chain. -/
theorem rootCause_eq_capture {error : AnyError} {cause : CaptureError}
    (member : .capture cause ∈ error.chain) (alone : cause.sources = []) :
    error.rootCause = .capture cause := by
  induction error with
  | plain text => simp [chain] at member
  | capture inner =>
      obtain rfl : cause = inner := by simpa [chain] using member
      simp [rootCause, chain, alone]
  | caused text source ih =>
      rw [rootCause_caused]
      exact ih (by simpa [chain] using member)

/-- A capture error with a source is never the root cause. -/
theorem rootCause_eq_other {error : AnyError} {cause : CaptureError}
    (member : .capture cause ∈ error.chain) (sourced : cause.sources ≠ []) :
    ∃ text, error.rootCause = .other text := by
  induction error with
  | plain text => simp [chain] at member
  | capture inner =>
      obtain rfl : cause = inner := by simpa [chain] using member
      refine ⟨cause.sources.getLast sourced, ?_⟩
      simp only [rootCause, chain]
      rw [List.getLast_cons (by simpa using sourced), List.getLast_map]
  | caused text source ih =>
      rw [rootCause_caused]
      exact ih (by simpa [chain] using member)

/-- The chain contains a capture error that is not transient. -/
def HasPermanent (error : AnyError) : Prop :=
  ∃ cause, .capture cause ∈ error.chain ∧ cause.isRetriable = false

theorem hasPermanent_of_isPermanent {error : AnyError}
    (permanent : error.isPermanent = true) : error.HasPermanent := by
  rw [isPermanent] at permanent
  cases root : error.rootCause with
  | capture cause =>
      refine ⟨cause, ?_, by simpa [root] using permanent⟩
      rw [← root]
      exact List.getLast_mem error.chain_ne_nil
  | other text => simp [root] at permanent

/-- A permanent error is noticed when its capture error has no source. -/
theorem isPermanent_iff {error : AnyError}
    (permanent : error.HasPermanent) :
    error.isPermanent = true ↔
      ∀ cause, .capture cause ∈ error.chain → cause.sources = [] := by
  constructor
  · intro noticed cause member
    by_contra sourced
    obtain ⟨text, root⟩ := rootCause_eq_other member sourced
    simp [isPermanent, root] at noticed
  · intro alone
    obtain ⟨cause, member, refused⟩ := permanent
    rw [isPermanent, rootCause_eq_capture member (alone cause member)]
    simp [refused]

end AnyError

end RemoteWay.Capture.Error
