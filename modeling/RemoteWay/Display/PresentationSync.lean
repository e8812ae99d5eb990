import RemoteWay.Base.MovingAverage

/-!
# Presentation timing

`PresentationSync` estimates the refresh interval of the display from the
times at which frames were presented.  An interval of zero or of a tenth of a
second and more is a pause and is left out.  The first samples replace the
estimate, later ones are blended into it.
-/

namespace RemoteWay.Display

open RemoteWay.Base

/-- Intervals from here on are pauses. -/
def pauseNs : UInt64 := 100000000

/-- About 60 Hz. -/
def defaultIntervalNs : UInt64 := 16666667

/-- `u64::saturating_sub`. -/
def saturatingSub (left right : UInt64) : UInt64 :=
  if right ≤ left then left - right else 0

/-- An estimate below the pauses. -/
structure PresentationSync where
  lastPresentedNs : UInt64
  frameIntervalNs : UInt64
  clockId : UInt32
  sampleCount : ℕ
  positive : 0 < frameIntervalNs
  bounded : frameIntervalNs < pauseNs

/-- The interval since the last presented frame, unless there is none or it
is a pause. -/
def measured (lastPresentedNs timestampNs : UInt64) : Option UInt64 :=
  if lastPresentedNs > 0 then
    let interval := saturatingSub timestampNs lastPresentedNs
    if interval > 0 ∧ interval < pauseNs then some interval else none
  else
    none

/-- The estimate after an interval. -/
def smoothed (sampleCount : ℕ) (frameIntervalNs interval : UInt64) : UInt64 :=
  if sampleCount < 4 then interval else (frameIntervalNs * 7 + interval) / 8

theorem measured_bounds {lastPresentedNs timestampNs interval : UInt64}
    (found : measured lastPresentedNs timestampNs = some interval) :
    0 < interval ∧ interval < pauseNs := by
  unfold measured at found
  split at found
  · simp only at found
    split at found
    · rename_i inside
      injection found with same
      rw [← same]
      exact inside
    · cases found
  · cases found

/-- The 64-bit arithmetic of the code does not overflow. -/
theorem smoothed_toNat {sampleCount : ℕ} {frameIntervalNs interval : UInt64}
    (bounded : frameIntervalNs < pauseNs) (below : interval < pauseNs) :
    (smoothed sampleCount frameIntervalNs interval).toNat =
      if sampleCount < 4 then interval.toNat
      else blend 7 frameIntervalNs.toNat interval.toNat := by
  rw [smoothed]
  by_cases early : sampleCount < 4
  · rw [if_pos early, if_pos early]
  · rw [if_neg early, if_neg early, blend]
    have first : frameIntervalNs.toNat < 100000000 := bounded
    have second : interval.toNat < 100000000 := below
    simp only [UInt64.toNat_div, UInt64.toNat_add, UInt64.toNat_mul,
      UInt64.reduceToNat]
    omega

theorem smoothed_bounds {sampleCount : ℕ} {frameIntervalNs interval : UInt64}
    (positive : 0 < frameIntervalNs) (bounded : frameIntervalNs < pauseNs)
    (above : 0 < interval) (below : interval < pauseNs) :
    0 < smoothed sampleCount frameIntervalNs interval ∧
      smoothed sampleCount frameIntervalNs interval < pauseNs := by
  have positive' : 1 ≤ frameIntervalNs.toNat := positive
  have bounded' : frameIntervalNs.toNat ≤ 99999999 :=
    Nat.le_of_lt_succ bounded
  have above' : 1 ≤ interval.toNat := above
  have below' : interval.toNat ≤ 99999999 := Nat.le_of_lt_succ below
  have value := @smoothed_toNat sampleCount _ _ bounded below
  rw [UInt64.lt_iff_toNat_lt, UInt64.lt_iff_toNat_lt, value]
  by_cases early : sampleCount < 4
  · rw [if_pos early]
    exact ⟨above, below⟩
  · rw [if_neg early]
    exact ⟨Nat.lt_of_succ_le (le_blend positive' above'),
      Nat.lt_succ_of_le (blend_le bounded' below')⟩

theorem defaultInterval_pos : 0 < defaultIntervalNs := by
  decide

theorem defaultInterval_lt : defaultIntervalNs < pauseNs := by
  decide

namespace PresentationSync

def new (clockId : UInt32) : PresentationSync where
  lastPresentedNs := 0
  frameIntervalNs := defaultIntervalNs
  clockId := clockId
  sampleCount := 0
  positive := defaultInterval_pos
  bounded := defaultInterval_lt

/-- The estimate after a frame was presented. -/
def intervalAfter (sync : PresentationSync) (timestampNs : UInt64) :
    UInt64 :=
  match measured sync.lastPresentedNs timestampNs with
  | some interval => smoothed sync.sampleCount sync.frameIntervalNs interval
  | none => sync.frameIntervalNs

theorem intervalAfter_bounds (sync : PresentationSync)
    (timestampNs : UInt64) :
    0 < sync.intervalAfter timestampNs ∧
      sync.intervalAfter timestampNs < pauseNs := by
  rw [intervalAfter]
  cases found : measured sync.lastPresentedNs timestampNs with
  | none => exact ⟨sync.positive, sync.bounded⟩
  | some interval =>
      obtain ⟨above, below⟩ := measured_bounds found
      exact smoothed_bounds sync.positive sync.bounded above below

def recordPresentation (sync : PresentationSync) (timestampNs : UInt64) :
    PresentationSync where
  lastPresentedNs := timestampNs
  frameIntervalNs := sync.intervalAfter timestampNs
  clockId := sync.clockId
  sampleCount := sync.sampleCount + 1
  positive := (sync.intervalAfter_bounds timestampNs).1
  bounded := (sync.intervalAfter_bounds timestampNs).2

theorem recordPresentation_interval (sync : PresentationSync)
    (timestampNs : UInt64) :
    (sync.recordPresentation timestampNs).frameIntervalNs =
      sync.intervalAfter timestampNs :=
  rfl

/-- A frame that was not displayed changes nothing. -/
def recordDiscarded (sync : PresentationSync) : PresentationSync :=
  sync

/-! ## Runs -/

/-- What the compositor reports of a committed frame. -/
inductive Feedback where
  | presented (timestampNs : UInt64)
  | discarded
  deriving DecidableEq, Repr

def record (sync : PresentationSync) : Feedback → PresentationSync
  | .presented timestampNs => sync.recordPresentation timestampNs
  | .discarded => sync.recordDiscarded

def recordAll (sync : PresentationSync) (feedback : List Feedback) :
    PresentationSync :=
  feedback.foldl record sync

/-- The intervals that are measured on the way. -/
def intervals : UInt64 → List Feedback → List UInt64
  | _, [] => []
  | last, .discarded :: later => intervals last later
  | last, .presented timestampNs :: later =>
      match measured last timestampNs with
      | some interval => interval :: intervals timestampNs later
      | none => intervals timestampNs later

variable {sync : PresentationSync} {feedback : List Feedback}
variable {least most : ℕ}

theorem mem_intervals {last interval : UInt64}
    (member : interval ∈ intervals last feedback) :
    0 < interval ∧ interval < pauseNs := by
  induction feedback generalizing last with
  | nil => cases member
  | cons first later inductionHypothesis =>
      cases first with
      | discarded => exact inductionHypothesis member
      | presented timestampNs =>
          rw [intervals] at member
          cases found : measured last timestampNs with
          | none =>
              rw [found] at member
              exact inductionHypothesis member
          | some here =>
              rw [found] at member
              rcases List.mem_cons.mp member with same | other
              · rw [same]
                exact measured_bounds found
              · exact inductionHypothesis other

/-- Each measured interval is one sample of the average. -/
theorem sampledTimes_recordAll
    (inside : ∀ interval, interval ∈ intervals sync.lastPresentedNs feedback →
      least ≤ interval.toNat ∧ interval.toNat ≤ most) :
    SampledTimes 7 least most
      (intervals sync.lastPresentedNs feedback).length
      sync.frameIntervalNs.toNat
      (sync.recordAll feedback).frameIntervalNs.toNat := by
  induction feedback generalizing sync with
  | nil => exact .nil
  | cons first later inductionHypothesis =>
      cases first with
      | discarded => exact inductionHypothesis inside
      | presented timestampNs =>
          have next := @inductionHypothesis
            (sync.recordPresentation timestampNs)
          rw [intervals] at inside ⊢
          cases found : measured sync.lastPresentedNs timestampNs with
          | none =>
              rw [found] at inside
              have same : (sync.recordPresentation
                  timestampNs).frameIntervalNs = sync.frameIntervalNs := by
                rw [recordPresentation_interval, intervalAfter, found]
              rw [same] at next
              exact next inside
          | some interval =>
              rw [found] at inside
              obtain ⟨above, below⟩ := inside interval List.mem_cons_self
              have moved : (sync.recordPresentation
                  timestampNs).frameIntervalNs.toNat =
                    if sync.sampleCount < 4 then interval.toNat
                    else blend 7 sync.frameIntervalNs.toNat
                      interval.toNat := by
                rw [recordPresentation_interval, intervalAfter, found]
                exact smoothed_toNat sync.bounded (measured_bounds found).2
              refine .cons ⟨interval.toNat, above, below, ?_⟩
                (next fun other member =>
                  inside other (List.mem_cons_of_mem _ member))
              rw [moved]
              by_cases early : sync.sampleCount < 4
              · rw [if_pos early]
                exact Or.inl rfl
              · rw [if_neg early]
                exact Or.inr rfl

/-- Whatever was estimated before, once 138 intervals within some bounds were
measured, with any pauses and discarded frames between them, the estimate is
within these bounds, or at most seven nanoseconds below. -/
theorem frameInterval_settles
    (inside : ∀ interval, interval ∈ intervals sync.lastPresentedNs feedback →
      least ≤ interval.toNat ∧ interval.toNat ≤ most)
    (enough : 138 ≤ (intervals sync.lastPresentedNs feedback).length) :
    least ≤ (sync.recordAll feedback).frameIntervalNs.toNat + 7 ∧
      (sync.recordAll feedback).frameIntervalNs.toNat ≤ most := by
  have below : ∀ {value : UInt64}, value < pauseNs →
      value.toNat ≤ 99999999 :=
    fun small => Nat.le_of_lt_succ small
  have some : ∃ interval,
      interval ∈ intervals sync.lastPresentedNs feedback :=
    List.exists_mem_of_length_pos (Nat.lt_of_lt_of_le (by decide) enough)
  obtain ⟨interval, member⟩ := some
  have leastBelow : least ≤ 99999999 :=
    (inside interval member).1.trans (below (mem_intervals member).2)
  have start : gap 7 least most sync.frameIntervalNs.toNat ≤ 99999999 :=
    gap_le_max (below sync.bounded) leastBelow
  refine (sampledTimes_recordAll inside).settles (Nat.lt_of_le_of_lt
    (Nat.mul_le_mul_left (7 ^ 138) start) ?_) enough
  decide

/-- A frame each 16 or 17 milliseconds, in turn, and a discarded one after
each. -/
def alternating : ℕ → UInt64 → List Feedback
  | 0, _ => []
  | times + 1, now =>
      .presented now :: .discarded :: .presented (now + 16000000) ::
        alternating times (now + 33000000)

theorem frameInterval_settles_alternating :
    (∀ interval, interval ∈
        intervals (new 1).lastPresentedNs (alternating 70 1) →
          16000000 ≤ interval.toNat ∧ interval.toNat ≤ 17000000) ∧
      16000000 ≤
        ((new 1).recordAll (alternating 70 1)).frameIntervalNs.toNat + 7 ∧
      ((new 1).recordAll (alternating 70 1)).frameIntervalNs.toNat ≤
        17000000 := by
  have all : (intervals (new 1).lastPresentedNs (alternating 70 1)).all
      (fun interval =>
        16000000 ≤ interval.toNat ∧ interval.toNat ≤ 17000000) = true := by
    decide +kernel
  have inside : ∀ interval, interval ∈
      intervals (new 1).lastPresentedNs (alternating 70 1) →
        16000000 ≤ interval.toNat ∧ interval.toNat ≤ 17000000 :=
    fun interval member =>
      of_decide_eq_true (List.all_eq_true.mp all interval member)
  have enough : 138 ≤ (intervals (new 1).lastPresentedNs
      (alternating 70 1)).length := by
    decide +kernel
  exact ⟨inside, frameInterval_settles inside enough⟩

/-- Intervals up to seven nanoseconds above the estimate no longer move it. -/
theorem frameInterval_stays (late : 4 ≤ sync.sampleCount)
    (near : ∀ interval, interval ∈ intervals sync.lastPresentedNs feedback →
      sync.frameIntervalNs.toNat ≤ interval.toNat ∧
        interval.toNat ≤ sync.frameIntervalNs.toNat + 7) :
    (sync.recordAll feedback).frameIntervalNs = sync.frameIntervalNs := by
  induction feedback generalizing sync with
  | nil => rfl
  | cons first later inductionHypothesis =>
      cases first with
      | discarded => exact inductionHypothesis late near
      | presented timestampNs =>
          have next := @inductionHypothesis
            (sync.recordPresentation timestampNs) (Nat.le_succ_of_le late)
          have same : sync.intervalAfter timestampNs =
              sync.frameIntervalNs := by
            rw [intervalAfter]
            cases found : measured sync.lastPresentedNs timestampNs with
            | none => rfl
            | some interval =>
                rw [intervals, found] at near
                have here := near interval List.mem_cons_self
                apply UInt64.toNat_inj.mp
                dsimp only
                rw [smoothed_toNat sync.bounded (measured_bounds found).2,
                  if_neg (Nat.not_lt.mpr late)]
                exact blend_eq_self_iff.mpr here
          rw [recordPresentation_interval, same] at next
          refine next ?_
          intro interval member
          apply near
          rw [intervals]
          cases found : measured sync.lastPresentedNs timestampNs with
          | none => exact member
          | some here => exact List.mem_cons_of_mem _ member

end PresentationSync

end RemoteWay.Display
