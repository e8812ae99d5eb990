import Mathlib.Logic.Function.Basic
import Mathlib.Data.List.Induction

/-!
# Assignments

What a list of assignments leaves each key at.  Leaving out assignments does
not matter to a key as long as its last one is kept.
-/

namespace RemoteWay.Base

universe u v w

variable {key : Type u} {value : Type v} [DecidableEq key]

/-- Assign values to keys, one after the other. -/
def assignAll (initial : key → value) (assignments : List (key × value)) :
    key → value :=
  assignments.foldl (fun current assignment =>
    Function.update current assignment.1 assignment.2) initial

theorem assignAll_concat (initial : key → value)
    (assignments : List (key × value)) (last : key × value) :
    assignAll initial (assignments ++ [last]) =
      Function.update (assignAll initial assignments) last.1 last.2 := by
  rw [assignAll, List.foldl_append]
  rfl

section Kept

variable {item : Type w} (assignment : item → Option (key × value))

/-- The item assigns a value to the key. -/
def Assigns (target : key) (current : item) : Bool :=
  (assignment current).any fun assigned => assigned.1 = target

/-- The last of the items that assign a value to the key is kept. -/
def LastKept (target : key) (items : List (item × Bool)) : Prop :=
  (items.filter fun entry =>
    Assigns assignment target entry.1).getLast?.all Prod.snd = true

instance (target : key) (items : List (item × Bool)) :
    Decidable (LastKept assignment target items) :=
  inferInstanceAs (Decidable (_ = true))

/-- The items that are kept. -/
def keptItems (items : List (item × Bool)) : List item :=
  (items.filter Prod.snd).map Prod.fst

theorem keptItems_concat (items : List (item × Bool))
    (last : item × Bool) :
    keptItems (items ++ [last]) =
      keptItems items ++ if last.2 then [last.1] else [] := by
  rw [keptItems, List.filter_append, List.map_append, keptItems]
  cases kept : last.2 with
  | true => simp [kept]
  | false => simp [kept]

variable {assignment}

/-- An item that does not assign a value to the key leaves it. -/
theorem assignAll_concat_of_not_assigns (initial : key → value)
    {target : key} {current : item}
    (other : Assigns assignment target current = false)
    (items : List item) :
    assignAll initial ((items ++ [current]).filterMap assignment) target =
      assignAll initial (items.filterMap assignment) target := by
  rw [List.filterMap_append]
  cases assigned : assignment current with
  | none => simp [assigned]
  | some last =>
      have different : last.1 ≠ target := by
        rw [Assigns, assigned] at other
        simpa using other
      simp only [List.filterMap_cons, List.filterMap_nil, assigned]
      rw [assignAll_concat,
        Function.update_of_ne (Ne.symm different)]

/-- A key whose last assignment is kept has the value that all assignments
leave it at. -/
theorem assignAll_keptItems (initial : key → value) {target : key} :
    ∀ {items : List (item × Bool)}, LastKept assignment target items →
      assignAll initial ((keptItems items).filterMap assignment) target =
        assignAll initial ((items.map Prod.fst).filterMap assignment)
          target := by
  intro items
  induction items using List.reverseRecOn with
  | nil => exact fun _ => rfl
  | append_singleton items entry inductionHypothesis =>
      intro kept
      rw [LastKept, List.filter_append] at kept
      rw [keptItems_concat, List.map_append]
      cases assigns : Assigns assignment target entry.1 with
      | false =>
          have nothing : [entry].filter (fun entry =>
              Assigns assignment target entry.1) = [] :=
            List.filter_cons_of_neg (by
              rw [assigns]
              exact Bool.false_ne_true)
          rw [nothing, List.append_nil] at kept
          have same := inductionHypothesis kept
          rw [List.map_cons, List.map_nil,
            assignAll_concat_of_not_assigns initial assigns, ← same]
          cases entry.2 with
          | true => exact assignAll_concat_of_not_assigns initial assigns _
          | false =>
              rw [if_neg Bool.false_ne_true, List.append_nil]
      | true =>
          have here : [entry].filter (fun entry =>
              Assigns assignment target entry.1) = [entry] :=
            List.filter_cons_of_pos assigns
          rw [here, List.getLast?_concat] at kept
          have last : entry.2 = true := kept
          obtain ⟨assigned, here, sameKey⟩ : ∃ assigned,
              assignment entry.1 = some assigned ∧ assigned.1 = target := by
            simpa [Assigns, Option.any_eq_true] using assigns
          rw [if_pos last, List.filterMap_append, List.filterMap_append]
          simp only [List.map_cons, List.map_nil, List.filterMap_cons,
            List.filterMap_nil, here]
          rw [assignAll_concat, assignAll_concat, ← sameKey,
            Function.update_self, Function.update_self]

end Kept

end RemoteWay.Base
