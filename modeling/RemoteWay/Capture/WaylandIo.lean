import RemoteWay.Capture.Shm

/-!
# Waiting for the compositor

A backend waits by calling `dispatch_with_deadline` until its state says
that it is done.  What these calls do is a script, given by the compositor;
the events are handled in the order of the script.
-/

namespace RemoteWay.Capture

open RemoteWay.Base

/-- What a call of `dispatch_with_deadline` does. -/
inductive DispatchOutcome (event : Type) where
  | dispatched (events : List event)
  | timedOut
  | failed (events : List event) (reason : CaptureError)
  deriving DecidableEq, Repr

/-- The events that a call handles. -/
def DispatchOutcome.events {event : Type} :
    DispatchOutcome event → List event
  | .dispatched events => events
  | .timedOut => []
  | .failed events _ => events

/-- Whether the connection failed. -/
def DispatchOutcome.breaks {event : Type} : DispatchOutcome event → Bool
  | .dispatched _ => false
  | .timedOut => false
  | .failed _ _ => true

def scriptEvents {event : Type} (script : List (DispatchOutcome event)) :
    List event :=
  script.flatMap DispatchOutcome.events

/-- How a wait ended. -/
inductive Waited where
  | satisfied
  | timedOut
  | failed (reason : CaptureError)
  deriving DecidableEq, Repr

section Await

variable {state event : Type} (dispatch : state → event → Exec state)
variable (waiting : state → Bool) (retries : Bool)

/-- Call `dispatch_with_deadline` while the state says so.  After a timeout
the wait goes on or ends.  What is left of the script is returned; a wait
for which the script is too short does not end. -/
def awaitEvents : List (DispatchOutcome event) → state →
    Exec (Waited × state × List (DispatchOutcome event))
  | [], before =>
      if waiting before then .error .endless
      else .ok (.satisfied, before, [])
  | outcome :: script, before =>
      if waiting before then
        match outcome with
        | .dispatched events => do
            let after ← events.foldlM dispatch before
            awaitEvents script after
        | .timedOut =>
            if retries then awaitEvents script before
            else .ok (.timedOut, before, script)
        | .failed events reason => do
            let after ← events.foldlM dispatch before
            .ok (.failed reason, after, script)
      else
        .ok (.satisfied, before, outcome :: script)

/-- What a wait did: it handled the events of the part of the script that it
used. -/
structure AwaitedBy (script : List (DispatchOutcome event)) (before : state)
    (waited : Waited) (after : state)
    (rest used : List (DispatchOutcome event)) : Prop where
  script_eq : script = used ++ rest
  handled : (scriptEvents used).foldlM dispatch before = .ok after
  done : waited = .satisfied → waiting after = false
  timeout : waited = .timedOut → retries = false
  failure : (∃ events reason, DispatchOutcome.failed events reason ∈ used) ↔
    ∃ reason, waited = .failed reason

variable {dispatch waiting retries}

/-- A wait that is over uses nothing of the script. -/
theorem AwaitedBy.stop {script : List (DispatchOutcome event)}
    {before : state} (stopped : ¬waiting before = true) :
    AwaitedBy dispatch waiting retries script before .satisfied before
      script [] where
  script_eq := rfl
  handled := rfl
  done := fun _ => by simpa using stopped
  timeout := fun impossible => by cases impossible
  failure := by simp

/-- An outcome that is not a failure comes before the rest of a wait. -/
theorem AwaitedBy.cons {outcome : DispatchOutcome event}
    {script rest used : List (DispatchOutcome event)}
    {before middle after : state} {waited : Waited}
    (first : outcome.events.foldlM dispatch before = .ok middle)
    (unfailed : ∀ events reason, outcome ≠ .failed events reason)
    (later : AwaitedBy dispatch waiting retries script middle waited after
      rest used) :
    AwaitedBy dispatch waiting retries (outcome :: script) before waited
      after rest (outcome :: used) where
  script_eq := by rw [later.script_eq]; rfl
  handled := by
    rw [scriptEvents, List.flatMap_cons, List.foldlM_append, first]
    exact later.handled
  done := later.done
  timeout := later.timeout
  failure := by
    rw [← later.failure]
    simp [eq_comm, unfailed]

theorem awaitEvents_eq_ok {rest : List (DispatchOutcome event)}
    {waited : Waited} {after : state} :
    ∀ {script : List (DispatchOutcome event)} {before : state},
      awaitEvents dispatch waiting retries script before =
          .ok (waited, after, rest) →
        ∃ used, AwaitedBy dispatch waiting retries script before waited
          after rest used := by
  intro script
  induction script with
  | nil =>
      intro before done
      unfold awaitEvents at done
      by_cases more : waiting before = true
      · rw [if_pos more] at done
        cases done
      · rw [if_neg more] at done
        injection done with same
        injection same with waitedEq same
        injection same with afterEq restEq
        subst waitedEq afterEq restEq
        exact ⟨[], .stop more⟩
  | cons outcome script inductionHypothesis =>
      intro before done
      unfold awaitEvents at done
      by_cases more : waiting before = true
      · rw [if_pos more] at done
        cases outcome with
        | dispatched events =>
            rw [bind_eq_ok_iff] at done
            obtain ⟨middle, first, done⟩ := done
            obtain ⟨used, later⟩ := inductionHypothesis done
            exact ⟨_, .cons first (by simp) later⟩
        | timedOut =>
            by_cases again : retries = true
            · dsimp only at done
              rw [if_pos again] at done
              obtain ⟨used, later⟩ := inductionHypothesis done
              exact ⟨_, .cons rfl (by simp) later⟩
            · dsimp only at done
              rw [if_neg again] at done
              injection done with same
              injection same with waitedEq same
              injection same with afterEq restEq
              subst waitedEq afterEq restEq
              exact ⟨[.timedOut],
                { script_eq := rfl
                  handled := rfl
                  done := fun impossible => by cases impossible
                  timeout := fun _ => by simpa using again
                  failure := by simp }⟩
        | failed events reason =>
            rw [bind_eq_ok_iff] at done
            obtain ⟨middle, first, done⟩ := done
            injection done with same
            injection same with waitedEq same
            injection same with afterEq restEq
            subst waitedEq afterEq restEq
            exact ⟨[.failed events reason],
              { script_eq := rfl
                handled := by
                  rw [scriptEvents, List.flatMap_singleton]
                  exact first
                done := fun impossible => by cases impossible
                timeout := fun impossible => by cases impossible
                failure := by simp }⟩
      · rw [if_neg more] at done
        injection done with same
        injection same with waitedEq same
        injection same with afterEq restEq
        subst waitedEq afterEq restEq
        exact ⟨[], .stop more⟩

end Await

/-- `EventQueue::roundtrip`, which handles the events of one outcome and
knows no timeout. -/
def roundtrip {state event : Type} (dispatch : state → event → Exec state)
    (script : List (DispatchOutcome event)) (before : state) :
    Exec (Waited × state × List (DispatchOutcome event)) :=
  match script with
  | .dispatched events :: rest => do
      let after ← events.foldlM dispatch before
      .ok (.satisfied, after, rest)
  | .failed events reason :: rest => do
      let after ← events.foldlM dispatch before
      .ok (.failed reason, after, rest)
  | _ => .error .endless

theorem roundtrip_eq_ok {state event : Type}
    {dispatch : state → event → Exec state}
    {script rest : List (DispatchOutcome event)} {before after : state}
    {waited : Waited}
    (done : roundtrip dispatch script before = .ok (waited, after, rest)) :
    ∃ outcome, script = outcome :: rest ∧
      outcome.events.foldlM dispatch before = .ok after ∧
      ((∃ events reason, outcome = .failed events reason) ↔
        ∃ reason, waited = .failed reason) := by
  cases script with
  | nil => cases done
  | cons outcome rest' =>
      cases outcome with
      | dispatched events =>
          rw [roundtrip, bind_eq_ok_iff] at done
          obtain ⟨middle, handled, done⟩ := done
          injection done with same
          injection same with waitedEq same
          injection same with afterEq restEq
          subst waitedEq afterEq restEq
          exact ⟨_, rfl, handled, by simp⟩
      | timedOut => cases done
      | failed events reason =>
          rw [roundtrip, bind_eq_ok_iff] at done
          obtain ⟨middle, handled, done⟩ := done
          injection done with same
          injection same with waitedEq same
          injection same with afterEq restEq
          subst waitedEq afterEq restEq
          exact ⟨_, rfl, handled, by simp⟩

/-- `((tv_sec_hi as u64) << 32 | tv_sec_lo as u64) * 1_000_000_000 + tv_nsec`. -/
def timestampOf (profile : Profile) (tvSecHi tvSecLo tvNsec : UInt32) :
    Exec UInt64 := do
  let seconds := tvSecHi.toUInt64 <<< 32 ||| tvSecLo.toUInt64
  u64Add profile (← u64Mul profile seconds 1000000000) tvNsec.toUInt64

end RemoteWay.Capture
