import Mathlib.Algebra.Order.Ring.Rat
import RemoteWay.Base.Exec

/-!
# Loops that fill a buffer or add up

A loop fills a buffer when each of its rounds replaces the items after the
finished ones by a block of its own.  A loop adds up when each of its rounds
adds a value of its own.
-/

namespace RemoteWay.Base

universe u

section Filling

variable {alpha : Type u}

/-- Writing right after the finished items. -/
theorem writeAt_append {done rest : List alpha} {index : ℕ} (item : alpha)
    (here : index = done.length) (room : 0 < rest.length) :
    writeAt (done ++ rest) index item =
      .ok (done ++ [item] ++ rest.drop 1) := by
  cases rest with
  | nil => cases room
  | cons first rest =>
      rw [writeAt_middle item here]
      simp

/-- A loop whose rounds replace blocks of one size. -/
theorem foldlM_fill {step : List alpha → ℕ → Exec (List alpha)}
    {block : ℕ → List alpha} {size start count : ℕ}
    (sized : ∀ index, index < count → (block index).length = size)
    (fills : ∀ index, index < count → ∀ done rest,
      done.length = start + index * size → size ≤ rest.length →
        step (done ++ rest) index =
          .ok (done ++ block index ++ rest.drop size))
    {done rest : List alpha} (begins : done.length = start)
    (room : count * size ≤ rest.length) :
    (List.range count).foldlM step (done ++ rest) =
      .ok (done ++ (List.range count).flatMap block ++
        rest.drop (count * size)) := by
  induction count with
  | zero => simp [pure, Except.pure]
  | succ count inductionHypothesis =>
      rw [Nat.add_mul, Nat.one_mul] at room
      have front := inductionHypothesis
        (fun index inside => sized index (by omega))
        (fun index inside => fills index (by omega)) (by omega)
      have width : ((List.range count).flatMap block).length =
          count * size := by
        rw [List.length_flatMap, List.map_congr_left fun index member =>
          sized index (by have := List.mem_range.mp member; omega)]
        simp
      have last := fills count (Nat.lt_succ_self count)
        (done ++ (List.range count).flatMap block)
        (rest.drop (count * size))
        (by rw [List.length_append, begins, width])
        (by rw [List.length_drop]; omega)
      rw [List.range_succ, List.foldlM_append, front, List.flatMap_append,
        List.flatMap_singleton, Nat.add_mul, Nat.one_mul]
      simp only [bind, Except.bind, List.foldlM_cons, List.foldlM_nil]
      rw [last, List.drop_drop, List.append_assoc done]
      rfl

end Filling

/-- A loop that ends has run a round for each item, in a state with the
property that all rounds keep. -/
theorem exists_round_of_foldlM {state beta : Type u}
    {step : state → beta → Exec state} (property : state → Prop)
    (keeps : ∀ before item after, step before item = .ok after →
      property before → property after) {items : List beta} {item : beta}
    (member : item ∈ items) {start last : state}
    (ended : items.foldlM step start = .ok last)
    (initially : property start) :
    ∃ before after, property before ∧ step before item = .ok after := by
  induction items generalizing start with
  | nil => cases member
  | cons first items inductionHypothesis =>
      rw [List.foldlM_cons, bind_eq_ok_iff] at ended
      obtain ⟨next, stepped, ended⟩ := ended
      rcases List.mem_cons.mp member with rfl | later
      · exact ⟨start, next, initially, stepped⟩
      · exact inductionHypothesis later ended
          (keeps start first next stepped initially)

/-- A loop whose rounds add values. -/
theorem foldlM_add {beta : Type u} {step : ℚ → beta → Exec ℚ}
    {value : beta → ℚ} :
    ∀ {items : List beta} (start : ℚ),
      (∀ item, item ∈ items → ∀ current,
        step current item = .ok (current + value item)) →
        items.foldlM step start = .ok (start + (items.map value).sum) := by
  intro items
  induction items with
  | nil => simp [pure, Except.pure]
  | cons item items inductionHypothesis =>
      intro start adds
      have rest := inductionHypothesis (start + value item)
        fun later member => adds later (List.mem_cons_of_mem item member)
      rw [List.foldlM_cons, adds item List.mem_cons_self, List.map_cons,
        List.sum_cons, ← add_assoc]
      exact rest

end RemoteWay.Base
