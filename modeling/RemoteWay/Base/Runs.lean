import Mathlib.Data.List.Basic

/-!
# Runs of a labelled transition system

A run is a list of labels that lead from one state to another.  An invariant
that every step of a run keeps holds at its end, and before and after each
of its steps.
-/

namespace RemoteWay.Base

universe u v

variable {state : Type u} {label : Type v}
variable (step : state → label → state → Prop)

/-- The labels lead from the first state to the last. -/
inductive Run : state → List label → state → Prop where
  | nil (here : state) : Run here [] here
  | cons {before after last : state} {first : label} {labels : List label} :
      step before first after → Run after labels last →
        Run before (first :: labels) last

variable {step}

theorem run_cons_iff {before last : state} {first : label}
    {labels : List label} :
    Run step before (first :: labels) last ↔
      ∃ after, step before first after ∧ Run step after labels last := by
  constructor
  · intro run
    cases run with
    | cons stepped rest => exact ⟨_, stepped, rest⟩
  · rintro ⟨after, stepped, rest⟩
    exact .cons stepped rest

theorem run_append_iff {before last : state} {second : List label} :
    ∀ {first : List label},
      Run step before (first ++ second) last ↔
        ∃ middle, Run step before first middle ∧
          Run step middle second last := by
  intro first
  induction first generalizing before with
  | nil =>
      constructor
      · intro run
        exact ⟨before, .nil before, run⟩
      · rintro ⟨middle, empty, run⟩
        cases empty
        exact run
  | cons head tail inductionHypothesis =>
      rw [List.cons_append, run_cons_iff]
      constructor
      · rintro ⟨after, stepped, run⟩
        obtain ⟨middle, early, late⟩ := inductionHypothesis.mp run
        exact ⟨middle, .cons stepped early, late⟩
      · rintro ⟨middle, early, late⟩
        obtain ⟨after, stepped, rest⟩ := run_cons_iff.mp early
        exact ⟨after, stepped,
          inductionHypothesis.mpr ⟨middle, rest, late⟩⟩

/-- A step more at the end of a run. -/
theorem run_concat_iff {before last : state} {labels : List label}
    {final : label} :
    Run step before (labels ++ [final]) last ↔
      ∃ middle, Run step before labels middle ∧ step middle final last := by
  rw [run_append_iff]
  constructor
  · rintro ⟨middle, early, late⟩
    obtain ⟨after, stepped, rest⟩ := run_cons_iff.mp late
    cases rest
    exact ⟨middle, early, stepped⟩
  · rintro ⟨middle, early, stepped⟩
    exact ⟨middle, early, .cons stepped (.nil last)⟩

/-- Runs of a step function are its iteration. -/
theorem run_iff_foldlM {perform : state → label → Option state}
    {last : state} :
    ∀ {labels : List label} {start : state},
      Run (fun before done after => perform before done = some after) start
          labels last ↔
        labels.foldlM perform start = some last := by
  intro labels
  induction labels with
  | nil =>
      intro start
      rw [List.foldlM_nil]
      constructor
      · intro run
        cases run
        rfl
      · intro same
        injection same with same
        rw [same]
        exact .nil last
  | cons first labels inductionHypothesis =>
      intro start
      rw [run_cons_iff, List.foldlM_cons]
      constructor
      · rintro ⟨after, stepped, rest⟩
        rw [stepped]
        exact inductionHypothesis.mp rest
      · intro iterated
        cases stepped : perform start first with
        | none =>
            rw [stepped] at iterated
            cases iterated
        | some after =>
            rw [stepped] at iterated
            exact ⟨after, rfl, inductionHypothesis.mpr iterated⟩

/-- Runs whose steps all meet a guard are the iteration of the guarded step
function. -/
theorem run_iff_foldlM_guarded {perform : state → label → Option state}
    {guard : state → label → Prop}
    [∀ before done, Decidable (guard before done)]
    {labels : List label} {start last : state} :
    Run (fun before done after =>
        perform before done = some after ∧ guard before done)
          start labels last ↔
      labels.foldlM (fun before done =>
        if guard before done then perform before done else none) start =
          some last := by
  rw [← run_iff_foldlM]
  have same : (fun before done after =>
      perform before done = some after ∧ guard before done) =
      fun before done after =>
        (if guard before done then perform before done else none) =
          some after := by
    funext before done after
    by_cases met : guard before done
    · simp only [met, and_true, if_true]
    · simp only [met, and_false, if_false, reduceCtorEq]
  rw [same]

/-- Runs whose steps all meet a condition on both states are the iteration of
the step function cut short where the condition fails. -/
theorem run_iff_foldlM_filtered {perform : state → label → Option state}
    {condition : state → label → state → Prop}
    [∀ before done after, Decidable (condition before done after)]
    {labels : List label} {start last : state} :
    Run (fun before done after =>
        perform before done = some after ∧ condition before done after)
          start labels last ↔
      labels.foldlM (fun before done =>
        (perform before done).filter (condition before done ·)) start =
          some last := by
  rw [← run_iff_foldlM]
  have same : (fun before done after =>
      perform before done = some after ∧ condition before done after) =
      fun before done after =>
        (perform before done).filter (condition before done ·) =
          some after := by
    funext before done after
    rw [Option.filter_eq_some_iff, decide_eq_true_iff]
  rw [same]

/-! ## Conditions on steps -/

/-- A run is one of another system if, along an invariant, its steps are. -/
theorem Run.refine {other : state → label → state → Prop}
    {invariant : state → Prop} {start last : state} {labels : List label}
    (run : Run step start labels last)
    (each : ∀ before done after, step before done after →
      invariant before → invariant after ∧ other before done after)
    (initially : invariant start) : Run other start labels last := by
  induction run with
  | nil here => exact .nil here
  | @cons before after last first labels stepped rest
      inductionHypothesis =>
      obtain ⟨next, same⟩ := each before first after stepped initially
      exact .cons same (inductionHypothesis next)

/-- A run whose steps are all steps of another system is one of that. -/
theorem Run.mono {other : state → label → state → Prop}
    {start last : state} {labels : List label}
    (run : Run step start labels last)
    (each : ∀ before done after, step before done after →
      other before done after) : Run other start labels last := by
  induction run with
  | nil here => exact .nil here
  | cons stepped rest inductionHypothesis =>
      exact .cons (each _ _ _ stepped) inductionHypothesis

/-- If, along an invariant, a step meets a condition exactly if it is safe,
then all steps of a run meet the condition exactly if all are safe. -/
theorem run_restrict_iff {guard : state → label → Prop}
    {safe : state → label → state → Prop} {invariant : state → Prop}
    (kept : ∀ before done after, step before done after →
      invariant before → guard before done →
        invariant after ∧ safe before done after)
    (needed : ∀ before done after, step before done after →
      invariant before → safe before done after → guard before done)
    {labels : List label} {start last : state} (initially : invariant start) :
    Run (fun before done after =>
          step before done after ∧ guard before done) start labels last ↔
      Run (fun before done after =>
          step before done after ∧ safe before done after) start labels
        last := by
  constructor
  · intro run
    apply run.refine _ initially
    rintro before done after ⟨stepped, met⟩ holds
    obtain ⟨next, fine⟩ := kept before done after stepped holds met
    exact ⟨next, stepped, fine⟩
  · intro run
    apply run.refine _ initially
    rintro before done after ⟨stepped, fine⟩ holds
    have met := needed before done after stepped holds fine
    obtain ⟨next, _⟩ := kept before done after stepped holds met
    exact ⟨next, stepped, met⟩

/-! ## Invariants -/

section Invariants

variable {invariant : state → Prop} {start last : state}
variable {labels : List label}

/-- What every step of a run keeps holds around each of them. -/
theorem Run.around (run : Run step start labels last)
    (kept : ∀ before done after, done ∈ labels → step before done after →
      invariant before → invariant after)
    (initially : invariant start) :
    invariant last ∧
      ∀ done, done ∈ labels → ∃ before after, step before done after ∧
        invariant before ∧ invariant after := by
  induction run with
  | nil here =>
      refine ⟨initially, ?_⟩
      intro done member
      cases member
  | @cons before after last first labels stepped rest
      inductionHypothesis =>
      have next := kept before first after List.mem_cons_self stepped
        initially
      obtain ⟨finally_, later⟩ := inductionHypothesis
        (fun before done after member =>
          kept before done after (List.mem_cons_of_mem first member)) next
      refine ⟨finally_, ?_⟩
      intro done member
      rcases List.mem_cons.mp member with rfl | member
      · exact ⟨before, after, stepped, initially, next⟩
      · exact later done member

/-- What every step keeps holds at the end of a run. -/
theorem Run.keeps (run : Run step start labels last)
    (kept : ∀ before done after, step before done after →
      invariant before → invariant after)
    (initially : invariant start) : invariant last :=
  (run.around (fun before done after _ => kept before done after)
    initially).1

end Invariants

end RemoteWay.Base
