import Mathlib.Algebra.Group.Action.Defs
import Mathlib.Algebra.Order.BigOperators.Group.List
import Mathlib.Algebra.Order.Ring.Nat
import Mathlib.Data.List.Sort
import RemoteWay.Base.Duration
import RemoteWay.Base.Histories
import RemoteWay.Base.RingWindow

/-!
# Latency histogram

The samples of a histogram are a ring, while its count, sum, minimum and
maximum are of all latencies since the last reset.
-/

namespace RemoteWay.Core

open RemoteWay.Base

/-- The capacity is the one of the vector of samples. -/
structure LatencyHistogram where
  samples : List Duration
  capacity : Nat
  cursor : Nat
  count : UInt64
  sum : Duration
  min : Duration
  max : Duration
  label : String
  deriving DecidableEq, Repr

structure LatencyStats where
  label : String
  count : UInt64
  min : Duration
  max : Duration
  avg : Duration
  p50 : Duration
  p99 : Duration
  deriving DecidableEq, Repr

namespace LatencyHistogram

/-- `Vec::with_capacity` allocates what it is asked for. -/
def withCapacity (label : String) (capacity : Nat) : LatencyHistogram where
  samples := []
  capacity := capacity
  cursor := 0
  count := 0
  sum := .zero
  min := .maximum
  max := .zero
  label := label

def defaultCapacity : Nat := 1024

def new (label : String) : LatencyHistogram :=
  withCapacity label defaultCapacity

/-- The samples with a new one. -/
def store (self : LatencyHistogram) (latency : Duration) :
    Exec (List Duration) :=
  if self.samples.length < self.capacity then
    .ok (self.samples ++ [latency])
  else
    writeAt self.samples self.cursor latency

def record (profile : Profile) (self : LatencyHistogram)
    (latency : Duration) : Exec LatencyHistogram := do
  let samples ← self.store latency
  let next ← usizeAdd profile self.cursor 1
  let count ← u64Add profile self.count 1
  let sum ← self.sum.add latency
  return { self with
    samples := samples
    cursor := next % Max.max self.capacity 1
    count := count
    sum := sum
    min := Min.min self.min latency
    max := Max.max self.max latency }

/-- Record latency from a nanosecond timestamp delta. -/
def recordNs (profile : Profile) (self : LatencyHistogram)
    (startNs endNs : UInt64) : Exec LatencyHistogram :=
  if startNs < endNs then
    self.record profile (.fromNanos (endNs - startNs))
  else
    .ok self

def percentiles (profile : Profile) (self : LatencyHistogram) :
    Exec (Duration × Duration) :=
  if self.samples.isEmpty then
    .ok (.zero, .zero)
  else do
    let sorted := self.samples.mergeSort (· ≤ ·)
    let p50Idx := sorted.length / 2
    let scaled ← usizeMul profile sorted.length 99
    let p99Idx := Min.min (scaled / 100) (sorted.length - 1)
    return (← readAt sorted p50Idx, ← readAt sorted p99Idx)

/-- The count is narrowed to `u32`. -/
def average (self : LatencyHistogram) : Exec Duration :=
  if 0 < self.count then self.sum.div self.count.toUInt32 else .ok .zero

def stats (profile : Profile) (self : LatencyHistogram) :
    Exec LatencyStats := do
  let avg ← self.average
  let ranks ← self.percentiles profile
  return {
    label := self.label
    count := self.count
    min := if 0 < self.count then self.min else .zero
    max := self.max
    avg := avg
    p50 := ranks.1
    p99 := ranks.2 }

def reset (self : LatencyHistogram) : LatencyHistogram :=
  { self with
    samples := []
    cursor := 0
    count := 0
    sum := .zero
    min := .maximum
    max := .zero }

end LatencyHistogram

/-! ## Sequences of calls -/

inductive LatencyCall where
  | record (latency : Duration)
  | recordNs (startNs endNs : UInt64)
  | reset
  deriving DecidableEq, Repr

namespace LatencyCall

/-- The latencies recorded since the last reset, after one more call. -/
def log (recorded : List Duration) : LatencyCall → List Duration
  | .record latency => recorded ++ [latency]
  | .recordNs startNs endNs =>
      if startNs < endNs then recorded ++ [.fromNanos (endNs - startNs)]
      else recorded
  | .reset => []

def perform (profile : Profile) (histogram : LatencyHistogram) :
    LatencyCall → Exec LatencyHistogram
  | .record latency => histogram.record profile latency
  | .recordNs startNs endNs => histogram.recordNs profile startNs endNs
  | .reset => .ok histogram.reset

end LatencyCall

/-- A new histogram after some calls. -/
def afterCalls (profile : Profile) (label : String) (capacity : Nat)
    (calls : List LatencyCall) : Exec LatencyHistogram :=
  calls.foldlM (LatencyCall.perform profile) (.withCapacity label capacity)

/-- The latencies recorded since the last reset. -/
def recordedSinceReset (calls : List LatencyCall) : List Duration :=
  calls.foldl LatencyCall.log []

theorem recordedSinceReset_concat (calls : List LatencyCall)
    (call : LatencyCall) :
    recordedSinceReset (calls ++ [call]) =
      call.log (recordedSinceReset calls) := by
  simp [recordedSinceReset]

def totalNanos (recorded : List Duration) : Nat :=
  (recorded.map Duration.nanos).sum

@[simp]
theorem totalNanos_concat (recorded : List Duration) (latency : Duration) :
    totalNanos (recorded ++ [latency]) =
      totalNanos recorded + latency.nanos := by
  simp [totalNanos]

/-- A snapshot is that of the recorded latencies, of which the percentiles
may miss the older ones. -/
structure LatencyStats.Summarizes (stats : LatencyStats)
    (recorded : List Duration) : Prop where
  count : stats.count.toNat = recorded.length
  avg : stats.avg.nanos = totalNanos recorded / recorded.length
  min_le_avg : stats.min ≤ stats.avg
  avg_le_max : stats.avg ≤ stats.max
  min_le_p50 : stats.min ≤ stats.p50
  p50_le_p99 : stats.p50 ≤ stats.p99
  p99_le_max : stats.p99 ≤ stats.max

/-- No call panics, the last latencies are stored, and the statistics are
those of the latencies since the last reset. -/
def SoundAfter (profile : Profile) (label : String) (capacity : Nat)
    (calls : List LatencyCall) : Prop :=
  ∃ histogram stats,
    afterCalls profile label capacity calls = .ok histogram ∧
      histogram.stats profile = .ok stats ∧
      histogram.samples.Perm ((recordedSinceReset calls).rtake
        (min (recordedSinceReset calls).length capacity)) ∧
      stats.Summarizes (recordedSinceReset calls)

/-- There is a place for a sample if there is one, the sum is a duration and
the count fits in `u32`. -/
def WithinLimits (capacity : Nat) (recorded : List Duration) : Prop :=
  (recorded ≠ [] → 0 < capacity) ∧ totalNanos recorded ≤ maxNanos ∧
    recorded.length < 2 ^ 32

instance (capacity : Nat) (recorded : List Duration) :
    Decidable (WithinLimits capacity recorded) :=
  inferInstanceAs (Decidable ((_ → _) ∧ _ ∧ _))

theorem WithinLimits.empty (capacity : Nat) : WithinLimits capacity [] :=
  ⟨fun impossible => absurd rfl impossible, Nat.zero_le _, by decide⟩

/-! ## Averages -/

section Averages

variable {recorded : List Duration} {bound : Duration}

theorem le_average (some : recorded ≠ [])
    (above : ∀ latency, latency ∈ recorded → bound ≤ latency) :
    bound.nanos ≤ totalNanos recorded / recorded.length := by
  have total := List.card_nsmul_le_sum (recorded.map Duration.nanos)
    bound.nanos (by
      intro value member
      obtain ⟨latency, here, rfl⟩ := List.mem_map.mp member
      exact above latency here)
  rw [List.length_map, smul_eq_mul, Nat.mul_comm] at total
  rw [Nat.le_div_iff_mul_le (List.length_pos_iff.mpr some)]
  exact total

theorem average_le (below : ∀ latency, latency ∈ recorded → latency ≤ bound) :
    totalNanos recorded / recorded.length ≤ bound.nanos := by
  have total := List.sum_le_card_nsmul (recorded.map Duration.nanos)
    bound.nanos (by
      intro value member
      obtain ⟨latency, here, rfl⟩ := List.mem_map.mp member
      exact below latency here)
  rw [List.length_map, smul_eq_mul] at total
  exact Nat.div_le_of_le_mul total

end Averages

namespace LatencyHistogram

/-! ## Recording -/

/-- The state of a histogram in terms of the latencies recorded since the
last reset. -/
structure Measures (histogram : LatencyHistogram) (capacity : Nat)
    (recorded : List Duration) : Prop where
  allocated : histogram.capacity = capacity
  window : HoldsLast capacity recorded histogram.samples histogram.cursor
  count : histogram.count.toNat = recorded.length
  sum : histogram.sum.nanos = totalNanos recorded
  between : ∀ latency, latency ∈ recorded →
    histogram.min ≤ latency ∧ latency ≤ histogram.max
  limits : WithinLimits capacity recorded

variable {profile : Profile} {histogram after : LatencyHistogram}
variable {capacity : Nat} {recorded : List Duration} {latency : Duration}

theorem Measures.withCapacity (label : String) (capacity : Nat) :
    (LatencyHistogram.withCapacity label capacity).Measures capacity [] where
  allocated := rfl
  window := .empty capacity
  count := rfl
  sum := rfl
  between := by simp
  limits := .empty capacity

theorem Measures.reset (measures : histogram.Measures capacity recorded) :
    histogram.reset.Measures capacity [] where
  allocated := measures.allocated
  window := .empty capacity
  count := rfl
  sum := rfl
  between := by simp
  limits := .empty capacity

/-- What recording does, when nothing panics. -/
theorem record_eq_ok_iff :
    histogram.record profile latency = .ok after ↔
      ∃ samples next count sum,
        histogram.store latency = .ok samples ∧
          usizeAdd profile histogram.cursor 1 = .ok next ∧
          u64Add profile histogram.count 1 = .ok count ∧
          histogram.sum.add latency = .ok sum ∧
          { histogram with
            samples := samples
            cursor := next % Max.max histogram.capacity 1
            count := count
            sum := sum
            min := Min.min histogram.min latency
            max := Max.max histogram.max latency } = after := by
  simp only [record, bind_eq_ok_iff, pure, Except.pure, Except.ok.injEq]
  constructor
  · rintro ⟨samples, stored, next, moved, count, counted, sum, added, same⟩
    exact ⟨samples, next, count, sum, stored, moved, counted, added, same⟩
  · rintro ⟨samples, next, count, sum, stored, moved, counted, added, same⟩
    exact ⟨samples, stored, next, moved, count, counted, sum, added, same⟩

/-- A sample is stored at the place of the oldest, or at a new one. -/
theorem Measures.exists_store (measures : histogram.Measures capacity recorded)
    (latency : Duration) (positive : 0 < capacity) :
    ∃ samples, histogram.store latency = .ok samples ∧
      HoldsLast capacity (recorded ++ [latency]) samples
        ((histogram.cursor + 1) % capacity) := by
  have window := measures.window
  rw [store, measures.allocated]
  by_cases room : histogram.samples.length < capacity
  · rw [if_pos room]
    exact ⟨_, rfl, window.append latency room⟩
  · rw [if_neg room, writeAt_of_lt latency (window.cursor_lt positive room)]
    exact ⟨_, rfl, window.overwrite latency positive room⟩

/-- Without a place the first sample has nowhere to go. -/
theorem Measures.capacity_pos
    (measures : histogram.Measures capacity recorded)
    (recording : histogram.record profile latency = .ok after) :
    0 < capacity := by
  obtain ⟨samples, _, _, _, stored, _⟩ := record_eq_ok_iff.mp recording
  rw [store, measures.allocated] at stored
  have length := measures.window.length
  by_contra zero
  rw [if_neg (by omega), writeAt, if_neg (by omega)] at stored
  cases stored

theorem Measures.cursor_le (measures : histogram.Measures capacity recorded) :
    histogram.cursor ≤ recorded.length := by
  rw [measures.window.position]
  exact Nat.mod_le _ _

/-- The count after one more latency. -/
theorem Measures.count_add (measures : histogram.Measures capacity recorded)
    (profile : Profile) :
    u64Add profile histogram.count 1 = .ok (histogram.count + 1) ∧
      (histogram.count + 1).toNat = recorded.length + 1 := by
  have small := measures.limits.2.2
  have count := measures.count
  have one : (1 : UInt64).toNat = 1 := rfl
  constructor
  · apply u64Add_of_lt
    rw [count, one]
    unfold UInt64.size
    omega
  · rw [UInt64.toNat_add, count, one]
    exact Nat.mod_eq_of_lt (by omega)

theorem Measures.record_of_limits
    (measures : histogram.Measures capacity recorded)
    (limits : WithinLimits capacity (recorded ++ [latency])) :
    ∃ after, histogram.record profile latency = .ok after ∧
      after.Measures capacity (recorded ++ [latency]) := by
  have positive := limits.1 (by simp)
  have small := measures.limits.2.2
  have short := measures.cursor_le
  have total := limits.2.1
  obtain ⟨samples, stored, window⟩ := measures.exists_store latency positive
  obtain ⟨counted, count⟩ := measures.count_add profile
  have moved : usizeAdd profile histogram.cursor 1 =
      .ok (histogram.cursor + 1) := by
    apply usizeAdd_of_lt
    unfold usizeRange
    omega
  rw [totalNanos_concat, ← measures.sum] at total
  have added : histogram.sum.add latency =
      .ok ⟨histogram.sum.nanos + latency.nanos, total⟩ :=
    Duration.add_eq_ok_iff.mpr rfl
  refine ⟨_, record_eq_ok_iff.mpr ⟨samples, _, _, _, stored, moved, counted,
    added, rfl⟩, ?_⟩
  constructor
  · exact measures.allocated
  · dsimp only
    rw [measures.allocated, Nat.max_eq_left positive]
    exact window
  · rw [List.length_append, List.length_singleton]
    exact count
  · rw [totalNanos_concat, ← measures.sum]
  · intro other member
    rcases List.mem_append.mp member with earlier | last
    · obtain ⟨least, greatest⟩ := measures.between other earlier
      exact ⟨Std.min_le_left.trans least, greatest.trans Std.left_le_max⟩
    · rw [List.mem_singleton.mp last]
      exact ⟨Std.min_le_right, Std.right_le_max⟩
  · exact limits

/-! ## Statistics -/

/-- The percentiles of some samples are samples, in their order. -/
theorem percentiles_of_ne_nil (profile : Profile)
    (some : histogram.samples ≠ [])
    (small : histogram.samples.length < 2 ^ 32) :
    ∃ p50 p99, histogram.percentiles profile = .ok (p50, p99) ∧
      p50 ∈ histogram.samples ∧ p99 ∈ histogram.samples ∧ p50 ≤ p99 := by
  have filled : histogram.samples.isEmpty = false :=
    List.isEmpty_eq_false_iff.mpr some
  have positive := List.length_pos_iff.mpr some
  have sorted := histogram.samples.sortedLE_mergeSort
  have same := List.mergeSort_perm histogram.samples (· ≤ ·)
  have length := same.length_eq
  rw [percentiles, filled, if_neg Bool.false_ne_true]
  generalize histogram.samples.mergeSort (· ≤ ·) = ranked
    at sorted same length
  have scaled : usizeMul profile ranked.length 99 =
      .ok (ranked.length * 99) := by
    apply usizeMul_of_lt
    unfold usizeRange
    omega
  have p50Inside : ranked.length / 2 < ranked.length := by omega
  have p99Inside : Min.min (ranked.length * 99 / 100) (ranked.length - 1) <
      ranked.length := by omega
  dsimp only
  rw [scaled]
  simp only [bind, Except.bind]
  rw [readAt_of_lt p50Inside, readAt_of_lt p99Inside]
  refine ⟨_, _, rfl, same.mem_iff.mp (List.getElem_mem p50Inside),
    same.mem_iff.mp (List.getElem_mem p99Inside), ?_⟩
  exact List.sortedLE_iff_getElem_le_getElem_of_le.mp sorted (by omega)

variable (profile) in
theorem stats_eq_ok_iff {result : LatencyStats} :
    histogram.stats profile = .ok result ↔
      ∃ avg ranks, histogram.average = .ok avg ∧
        histogram.percentiles profile = .ok ranks ∧
        { label := histogram.label
          count := histogram.count
          min := if 0 < histogram.count then histogram.min else .zero
          max := histogram.max
          avg := avg
          p50 := ranks.1
          p99 := ranks.2 } = result := by
  simp only [stats, bind_eq_ok_iff, pure, Except.pure, Except.ok.injEq]
  constructor
  · rintro ⟨avg, averaged, ranks, ranked, same⟩
    exact ⟨avg, ranks, averaged, ranked, same⟩
  · rintro ⟨avg, ranks, averaged, ranked, same⟩
    exact ⟨avg, averaged, ranks, ranked, same⟩

theorem count_pos_iff (measures : histogram.Measures capacity recorded) :
    0 < histogram.count ↔ recorded ≠ [] := by
  rw [UInt64.lt_iff_toNat_lt, measures.count]
  exact List.length_pos_iff

/-- The average is exact, because the count fits in `u32`. -/
theorem Measures.exists_average
    (measures : histogram.Measures capacity recorded) :
    ∃ avg, histogram.average = .ok avg ∧
      avg.nanos = totalNanos recorded / recorded.length := by
  have counted := count_pos_iff measures
  by_cases none : recorded = []
  · rw [average, if_neg (fun positive => counted.mp positive none)]
    subst none
    exact ⟨_, rfl, rfl⟩
  · have narrowed : histogram.count.toUInt32.toNat = recorded.length := by
      rw [UInt64.toNat_toUInt32, measures.count]
      exact Nat.mod_eq_of_lt measures.limits.2.2
    have nonzero : histogram.count.toUInt32 ≠ 0 := by
      intro zero
      rw [zero] at narrowed
      exact none (List.length_eq_zero_iff.mp narrowed.symm)
    rw [average, if_pos (counted.mpr none), Duration.div, if_neg nonzero]
    refine ⟨_, rfl, ?_⟩
    dsimp only
    rw [narrowed, measures.sum]

theorem Measures.mem_recorded
    (measures : histogram.Measures capacity recorded)
    (member : latency ∈ histogram.samples) : latency ∈ recorded :=
  List.mem_of_mem_drop (measures.window.perm.mem_iff.mp member)

theorem Measures.samples_ne_nil
    (measures : histogram.Measures capacity recorded)
    (some : recorded ≠ []) : histogram.samples ≠ [] := by
  have length := measures.window.length
  have positive := List.length_pos_iff.mpr some
  have room := measures.limits.1 some
  apply List.length_pos_iff.mp
  omega

theorem Measures.exists_stats
    (measures : histogram.Measures capacity recorded) (profile : Profile) :
    ∃ stats, histogram.stats profile = .ok stats ∧
      stats.Summarizes recorded := by
  obtain ⟨avg, averaged, exactly⟩ := measures.exists_average
  have counted := count_pos_iff measures
  by_cases none : recorded = []
  · have empty : histogram.samples = [] := by
      rw [← List.length_eq_zero_iff, measures.window.length, none]
      exact Nat.zero_min _
    have ranked : histogram.percentiles profile = .ok (.zero, .zero) := by
      rw [percentiles, empty]
      rfl
    have least : (if 0 < histogram.count then histogram.min else .zero) =
        Duration.zero := if_neg fun positive => counted.mp positive none
    refine ⟨_, (stats_eq_ok_iff profile).mpr ⟨avg, _, averaged, ranked, rfl⟩,
      measures.count, exactly, ?_, ?_, ?_, Std.le_refl _, ?_⟩
    · dsimp only
      rw [least]
      exact avg.zero_le
    · rw [Duration.le_iff, exactly, none]
      exact Nat.zero_le _
    · exact Std.le_of_eq least
    · exact histogram.max.zero_le
  · have least : (if 0 < histogram.count then histogram.min else .zero) =
        histogram.min := if_pos (counted.mpr none)
    have bounds := measures.between
    have small : histogram.samples.length < 2 ^ 32 := by
      have length := measures.window.length
      have limit := measures.limits.2.2
      omega
    obtain ⟨p50, p99, ranked, middle, high, ordered⟩ :=
      percentiles_of_ne_nil profile (measures.samples_ne_nil none) small
    refine ⟨_, (stats_eq_ok_iff profile).mpr ⟨avg, _, averaged, ranked, rfl⟩,
      measures.count, exactly, ?_, ?_, ?_, ordered, ?_⟩
    · dsimp only
      rw [least, Duration.le_iff, exactly]
      exact le_average none fun latency member => (bounds latency member).1
    · rw [Duration.le_iff, exactly]
      exact average_le fun latency member => (bounds latency member).2
    · dsimp only
      rw [least]
      exact (bounds p50 (measures.mem_recorded middle)).1
    · exact (bounds p99 (measures.mem_recorded high)).2

/-- If a latency is recorded and the statistics can be read, the limits are
kept: a count of `2 ^ 32` is narrowed to zero. -/
theorem Measures.limits_of_record
    (measures : histogram.Measures capacity recorded)
    {stats : LatencyStats}
    (recording : histogram.record profile latency = .ok after)
    (reported : after.stats profile = .ok stats) :
    WithinLimits capacity (recorded ++ [latency]) := by
  have positive := measures.capacity_pos recording
  have small := measures.limits.2.2
  obtain ⟨counted, count⟩ := measures.count_add profile
  obtain ⟨_, _, number, sum, _, _, increased, added, same⟩ :=
    record_eq_ok_iff.mp recording
  rw [counted] at increased
  injection increased with increased
  have total := Duration.add_eq_ok_iff.mp added
  refine ⟨fun _ => positive, ?_, ?_⟩
  · rw [totalNanos_concat, ← measures.sum, total]
    exact sum.inside
  · obtain ⟨avg, _, averaged, _⟩ := (stats_eq_ok_iff profile).mp reported
    have here : after.count.toNat = recorded.length + 1 := by
      rw [← same, ← increased, count]
    have some : 0 < after.count := by
      rw [UInt64.lt_iff_toNat_lt, here]
      exact Nat.succ_pos _
    rw [average, if_pos some, Duration.div_eq_ok_iff] at averaged
    rw [List.length_append, List.length_singleton]
    by_contra large
    apply averaged.1
    apply UInt32.toNat_inj.mp
    rw [UInt64.toNat_toUInt32, here]
    have exactly : recorded.length + 1 = 2 ^ 32 := by omega
    rw [exactly]
    rfl

end LatencyHistogram

/-! ## Any calls -/

namespace LatencyCall

/-- A call records a latency, does nothing or resets. -/
theorem records_or_resets (call : LatencyCall) :
    (∃ latency, (∀ recorded, call.log recorded = recorded ++ [latency]) ∧
        ∀ profile histogram, call.perform profile histogram =
          histogram.record profile latency) ∨
      ((∀ recorded, call.log recorded = recorded) ∧
        ∀ profile histogram, call.perform profile histogram =
          .ok histogram) ∨
      (∀ recorded, call.log recorded = []) ∧
        ∀ profile histogram, call.perform profile histogram =
          .ok histogram.reset := by
  cases call with
  | record latency => exact .inl ⟨latency, fun _ => rfl, fun _ _ => rfl⟩
  | reset => exact .inr (.inr ⟨fun _ => rfl, fun _ _ => rfl⟩)
  | recordNs startNs endNs =>
      by_cases later : startNs < endNs
      · exact .inl ⟨.fromNanos (endNs - startNs), fun _ => if_pos later,
          fun _ _ => if_pos later⟩
      · exact .inr (.inl ⟨fun _ => if_neg later, fun _ _ => if_neg later⟩)

variable {profile : Profile} {histogram after : LatencyHistogram}
variable {capacity : Nat} {recorded : List Duration}

theorem exists_perform (profile : Profile) (call : LatencyCall)
    (measures : histogram.Measures capacity recorded)
    (limits : WithinLimits capacity (call.log recorded)) :
    ∃ after, call.perform profile histogram = .ok after ∧
      after.Measures capacity (call.log recorded) := by
  rcases call.records_or_resets with ⟨latency, logged, performed⟩ |
    ⟨logged, performed⟩ | ⟨logged, performed⟩
  · rw [logged] at limits ⊢
    rw [performed]
    exact measures.record_of_limits limits
  · rw [logged, performed]
    exact ⟨histogram, rfl, measures⟩
  · rw [logged, performed]
    exact ⟨histogram.reset, rfl, measures.reset⟩

theorem limits_of_perform (call : LatencyCall)
    (measures : histogram.Measures capacity recorded)
    {stats : LatencyStats}
    (done : call.perform profile histogram = .ok after)
    (reported : after.stats profile = .ok stats) :
    WithinLimits capacity (call.log recorded) := by
  rcases call.records_or_resets with ⟨latency, logged, performed⟩ |
    ⟨logged, _⟩ | ⟨logged, _⟩
  · rw [performed] at done
    rw [logged]
    exact measures.limits_of_record done reported
  · rw [logged]
    exact measures.limits
  · rw [logged]
    exact .empty capacity

end LatencyCall

section Calls

variable (profile : Profile) (label : String) (capacity : Nat)

theorem afterCalls_concat (calls : List LatencyCall) (call : LatencyCall) :
    afterCalls profile label capacity (calls ++ [call]) =
      afterCalls profile label capacity calls >>=
        call.perform profile := by
  rw [afterCalls, List.foldlM_append]
  simp only [List.foldlM_cons, List.foldlM_nil, bind_pure]
  rfl

variable {capacity}

/-- Within the limits no call panics. -/
theorem exists_afterCalls {calls : List LatencyCall}
    (limits : ∀ earlier, earlier <+: calls →
      WithinLimits capacity (recordedSinceReset earlier)) :
    ∃ histogram, afterCalls profile label capacity calls = .ok histogram ∧
      histogram.Measures capacity (recordedSinceReset calls) := by
  induction calls using List.reverseRecOn with
  | nil => exact ⟨_, rfl, .withCapacity label capacity⟩
  | append_singleton calls call inductionHypothesis =>
      obtain ⟨before, last⟩ := forall_prefix_concat_iff.mp limits
      obtain ⟨histogram, reached, measures⟩ := inductionHypothesis before
      rw [recordedSinceReset_concat] at last ⊢
      rw [afterCalls_concat, reached]
      exact call.exists_perform profile measures last

theorem soundAfter_of_measures {calls : List LatencyCall}
    {histogram : LatencyHistogram}
    (reached : afterCalls profile label capacity calls = .ok histogram)
    (measures : histogram.Measures capacity (recordedSinceReset calls)) :
    SoundAfter profile label capacity calls := by
  obtain ⟨stats, reported, summarizes⟩ := measures.exists_stats profile
  refine ⟨histogram, stats, reached, reported, ?_, summarizes⟩
  have window := measures.window.perm
  have fewer : (recordedSinceReset calls).length -
      min (recordedSinceReset calls).length capacity =
        (recordedSinceReset calls).length - capacity := by omega
  rw [List.rtake, fewer]
  exact window

/-- Of every sequence of calls: the histogram is sound after each of them,
exactly if the limits are kept after each of them. -/
theorem sound_iff_withinLimits (calls : List LatencyCall) :
    (∀ earlier, earlier <+: calls →
        SoundAfter profile label capacity earlier) ↔
      ∀ earlier, earlier <+: calls →
        WithinLimits capacity (recordedSinceReset earlier) := by
  induction calls using List.reverseRecOn with
  | nil =>
      simp only [List.prefix_nil, forall_eq]
      exact iff_of_true (soundAfter_of_measures profile label rfl
        (.withCapacity label capacity)) (.empty capacity)
  | append_singleton calls call inductionHypothesis =>
      rw [forall_prefix_concat_iff, forall_prefix_concat_iff,
        inductionHypothesis]
      apply and_congr_right
      intro before
      obtain ⟨histogram, reached, measures⟩ :=
        exists_afterCalls profile label before
      rw [recordedSinceReset_concat]
      constructor
      · rintro ⟨after, stats, performed, reported, _⟩
        rw [afterCalls_concat, reached] at performed
        exact call.limits_of_perform measures performed reported
      · intro limits
        obtain ⟨after, performed, measuresAfter⟩ :=
          call.exists_perform profile measures limits
        rw [← recordedSinceReset_concat] at measuresAfter
        refine soundAfter_of_measures profile label ?_ measuresAfter
        rw [afterCalls_concat, reached]
        exact performed

/-- A histogram without places panics when a latency is recorded. -/
theorem not_soundAfter_noPlaces :
    ¬SoundAfter .release "end-to-end" 0 [.record (.fromNanos 1000000)] := by
  rintro ⟨histogram, stats, reached, _⟩
  have panics : afterCalls .release "end-to-end" 0
      [.record (.fromNanos 1000000)] = .error .bounds := by decide
  rw [panics] at reached
  cases reached

end Calls

end RemoteWay.Core
