import Mathlib.Data.List.Induction

/-!
# Arrivals that overtake

A sequence of arrivals, each of which goes in front of a number of items that
are still waiting at the end.  Without any overtaking, items stay in the
order of their arrival.
-/

namespace RemoteWay.Base

universe u

variable {alpha : Type u}

/-- An item and how many of the last items it goes in front of. -/
structure Arrival (alpha : Type u) where
  item : alpha
  overtaken : Nat
  deriving DecidableEq, Repr

/-- Put an item in front of the last `overtaken` ones. -/
def insertBefore (order : List alpha) (overtaken : Nat) (item : alpha) :
    List alpha :=
  order.take (order.length - overtaken) ++
    item :: order.drop (order.length - overtaken)

/-- The order that the arrivals end up in. -/
def arrange (arrivals : List (Arrival alpha)) : List alpha :=
  arrivals.foldl (fun order arrival =>
    insertBefore order arrival.overtaken arrival.item) []

theorem insertBefore_append (early late : List alpha) (item : alpha) :
    insertBefore (early ++ late) late.length item =
      early ++ item :: late := by
  simp [insertBefore]

theorem insertBefore_zero (order : List alpha) (item : alpha) :
    insertBefore order 0 item = order ++ [item] := by
  simp [insertBefore]

theorem arrange_concat (arrivals : List (Arrival alpha))
    (arrival : Arrival alpha) :
    arrange (arrivals ++ [arrival]) =
      insertBefore (arrange arrivals) arrival.overtaken arrival.item := by
  simp [arrange]

/-- Without overtaking nothing is rearranged. -/
theorem arrange_of_forall_zero {arrivals : List (Arrival alpha)}
    (none : ∀ arrival, arrival ∈ arrivals → arrival.overtaken = 0) :
    arrange arrivals = arrivals.map Arrival.item := by
  induction arrivals using List.reverseRecOn with
  | nil => rfl
  | append_singleton arrivals arrival inductionHypothesis =>
      have last := none arrival (by simp)
      have earlier := inductionHypothesis fun other member =>
        none other (List.mem_append_left _ member)
      rw [arrange_concat, earlier, last, insertBefore_zero,
        List.map_append]
      rfl

end RemoteWay.Base
