import Mathlib.Data.List.DropRight
import Mathlib.Data.List.Rotate

/-!
# The last items in a ring

A ring has a number of places.  Items are appended while there is room, and
then each item replaces the one at a cursor that goes around.  Read from the
cursor on, the places hold the last items in the order of their arrival.
-/

namespace RemoteWay.Base

universe u

variable {alpha : Type u}

/-- The places hold the last items.  The cursor is at the oldest of them, or
behind the newest while there is room. -/
structure HoldsLast (capacity : Nat) (items places : List alpha)
    (cursor : Nat) : Prop where
  length : places.length = min items.length capacity
  position : cursor = items.length % capacity
  order : places.rotate cursor = items.rtake capacity

/-- The last items but the oldest. -/
theorem tail_rtake_succ {items : List alpha} {count : Nat}
    (enough : count + 1 ≤ items.length) :
    (items.rtake (count + 1)).tail = items.rtake count := by
  rw [List.rtake, List.rtake, List.tail_drop]
  congr 1
  omega

theorem rtake_of_length_le {items : List alpha} {count : Nat}
    (few : items.length ≤ count) : items.rtake count = items := by
  rw [List.rtake, Nat.sub_eq_zero_of_le few, List.drop_zero]

/-- Replacing an item and going on behind it moves the item to the end. -/
theorem rotate_set_succ {places : List alpha} {cursor : Nat} (item : alpha)
    (inside : cursor < places.length) :
    (places.set cursor item).rotate (cursor + 1) =
      (places.rotate cursor).tail ++ [item] := by
  have split := List.take_append_drop cursor places
  rw [List.drop_eq_getElem_cons inside] at split
  generalize before : places.take cursor = front at split
  generalize places.drop (cursor + 1) = back at split
  generalize places[cursor] = old at split
  have position : cursor = front.length := by
    rw [← before, List.length_take]
    omega
  subst split position
  have moved := List.rotate_append_length_eq (front ++ [item]) back
  rw [List.length_append, List.length_singleton, ← List.append_cons] at moved
  rw [List.set_append_right _ _ (Nat.le_refl _), Nat.sub_self,
    List.set_cons_zero, moved, List.rotate_append_length_eq, List.cons_append,
    List.tail_cons, List.append_assoc]

namespace HoldsLast

variable {capacity cursor : Nat} {items places : List alpha}

theorem empty (capacity : Nat) :
    HoldsLast capacity ([] : List alpha) [] 0 where
  length := by simp
  position := by simp
  order := by simp

/-- The places are a rearrangement of the last items. -/
theorem perm (holds : HoldsLast capacity items places cursor) :
    places.Perm (items.rtake capacity) := by
  rw [← holds.order]
  exact (List.rotate_perm places cursor).symm

/-- Without a loss the places are the items themselves. -/
theorem eq_items (holds : HoldsLast capacity items places cursor)
    (room : items.length < capacity) : places = items := by
  have length := holds.length
  have behind : cursor = places.length := by
    rw [holds.position, Nat.mod_eq_of_lt room]
    omega
  have order := holds.order
  rw [behind, List.rotate_length, rtake_of_length_le (Nat.le_of_lt room)]
    at order
  exact order

theorem append (holds : HoldsLast capacity items places cursor)
    (item : alpha) (room : places.length < capacity) :
    HoldsLast capacity (items ++ [item]) (places ++ [item])
      ((cursor + 1) % capacity) := by
  have length := holds.length
  have short : items.length < capacity := by omega
  have same := holds.eq_items short
  have position : cursor = items.length := by
    rw [holds.position, Nat.mod_eq_of_lt short]
  subst same position
  constructor
  · rw [List.length_append, List.length_singleton]
    omega
  · rw [List.length_append, List.length_singleton]
  · rw [rtake_of_length_le (by
      rw [List.length_append, List.length_singleton]
      omega)]
    by_cases full : places.length + 1 = capacity
    · rw [full, Nat.mod_self, List.rotate_zero]
    · rw [Nat.mod_eq_of_lt (by omega)]
      have around := List.rotate_length (places ++ [item])
      rw [List.length_append, List.length_singleton] at around
      exact around

/-- In a full ring the cursor is at a place. -/
theorem cursor_lt (holds : HoldsLast capacity items places cursor)
    (positive : 0 < capacity) (full : ¬places.length < capacity) :
    cursor < places.length := by
  have length := holds.length
  have inside := Nat.mod_lt items.length positive
  rw [holds.position]
  omega

theorem overwrite (holds : HoldsLast capacity items places cursor)
    (item : alpha) (positive : 0 < capacity)
    (full : ¬places.length < capacity) :
    HoldsLast capacity (items ++ [item]) (places.set cursor item)
      ((cursor + 1) % capacity) := by
  have length := holds.length
  have inside := holds.cursor_lt positive full
  have exactly : places.length = capacity := by omega
  obtain ⟨count, rfl⟩ : ∃ count, capacity = count + 1 :=
    ⟨capacity - 1, by omega⟩
  constructor
  · rw [List.length_set, List.length_append, List.length_singleton]
    omega
  · rw [holds.position, List.length_append, List.length_singleton,
      Nat.mod_add_mod]
  · have around := List.rotate_mod (places.set cursor item) (cursor + 1)
    rw [List.length_set, exactly] at around
    rw [around, rotate_set_succ item inside, holds.order,
      tail_rtake_succ (by omega), List.rtake_concat_succ]

end HoldsLast

end RemoteWay.Base
