import Mathlib.Algebra.GroupWithZero.Nat
import Mathlib.Data.List.Basic

/-!
# Blobs in one buffer

Consecutive blobs are described by their sizes: `offsetsFrom` are the
offsets they start at, and `cutBlobs` cuts them out of the buffer again.
-/

namespace RemoteWay.Base

universe u

variable {alpha : Type u}

/-- The offsets of consecutive blobs, the first of which is at `start`. -/
def offsetsFrom : Nat → List Nat → List Nat
  | _, [] => []
  | start, size :: sizes => start :: offsetsFrom (start + size) sizes

/-- Cut consecutive blobs off the front of a buffer. -/
def cutBlobs : List alpha → List Nat → List (List alpha)
  | _, [] => []
  | items, size :: sizes =>
      items.take size :: cutBlobs (items.drop size) sizes

@[simp]
theorem length_offsetsFrom :
    ∀ (start : Nat) (sizes : List Nat),
      (offsetsFrom start sizes).length = sizes.length
  | _, [] => rfl
  | start, size :: sizes => by
      rw [offsetsFrom, List.length_cons, length_offsetsFrom,
        List.length_cons]

@[simp]
theorem length_cutBlobs :
    ∀ (items : List alpha) (sizes : List Nat),
      (cutBlobs items sizes).length = sizes.length
  | _, [] => rfl
  | items, size :: sizes => by
      rw [cutBlobs, List.length_cons, length_cutBlobs, List.length_cons]

theorem offsetsFrom_append :
    ∀ (start : Nat) (first second : List Nat),
      offsetsFrom start (first ++ second) =
        offsetsFrom start first ++ offsetsFrom (start + first.sum) second
  | _, [], _ => rfl
  | start, size :: first, second => by
      rw [List.cons_append, offsetsFrom, offsetsFrom,
        offsetsFrom_append (start + size) first second, List.sum_cons,
        Nat.add_assoc, List.cons_append]

theorem getElem?_offsetsFrom :
    ∀ (start : Nat) (sizes : List Nat) {index : Nat},
      index < sizes.length →
        (offsetsFrom start sizes)[index]? =
          some (start + (sizes.take index).sum)
  | _, [], index, inside => absurd inside (Nat.not_lt_zero index)
  | start, size :: sizes, 0, _ => by
      simp [offsetsFrom]
  | start, size :: sizes, index + 1, inside => by
      have tail := getElem?_offsetsFrom (start + size) sizes
        (Nat.lt_of_succ_lt_succ inside)
      rw [offsetsFrom, List.getElem?_cons_succ, tail, List.take_succ_cons,
        List.sum_cons, Nat.add_assoc]

theorem getElem?_cutBlobs :
    ∀ (items : List alpha) (sizes : List Nat) {index size : Nat},
      sizes[index]? = some size →
        (cutBlobs items sizes)[index]? =
          some ((items.drop (sizes.take index).sum).take size)
  | _, [], index, size, found => by
      cases found
  | items, first :: sizes, 0, size, found => by
      rw [List.getElem?_cons_zero] at found
      injection found with same
      simp [cutBlobs, same]
  | items, first :: sizes, index + 1, size, found => by
      rw [List.getElem?_cons_succ] at found
      rw [cutBlobs, List.getElem?_cons_succ,
        getElem?_cutBlobs (items.drop first) sizes found,
        List.take_succ_cons, List.sum_cons, List.drop_drop]

/-- A blob ends inside a buffer that all blobs fit into. -/
theorem sum_take_add_le :
    ∀ (sizes : List Nat) {index size : Nat}, sizes[index]? = some size →
      (sizes.take index).sum + size ≤ sizes.sum
  | [], _, _, found => by
      cases found
  | first :: sizes, 0, size, found => by
      rw [List.getElem?_cons_zero] at found
      injection found with same
      simp [same]
  | first :: sizes, index + 1, size, found => by
      rw [List.getElem?_cons_succ] at found
      have tail := sum_take_add_le sizes found
      rw [List.take_succ_cons, List.sum_cons, List.sum_cons]
      omega

/-- Joined blobs are cut apart again. -/
theorem cutBlobs_flatten (more : List alpha) :
    ∀ blobs : List (List alpha),
      cutBlobs (blobs.flatten ++ more) (blobs.map List.length) = blobs
  | [] => rfl
  | blob :: blobs => by
      rw [List.flatten_cons, List.map_cons, cutBlobs, List.append_assoc,
        List.take_left, List.drop_left, cutBlobs_flatten more blobs]

/-- A position in joined blobs of one size. -/
theorem getElem?_flatten_of_length {size offset : Nat}
    (inside : offset < size) :
    ∀ (blobs : List (List alpha)) (index : Nat),
      (∀ blob, blob ∈ blobs → blob.length = size) →
        blobs.flatten[index * size + offset]? =
          blobs[index]?.bind fun blob => blob[offset]?
  | [], index, _ => by
      simp
  | blob :: blobs, 0, sized => by
      have here := sized blob List.mem_cons_self
      rw [Nat.zero_mul, Nat.zero_add, List.flatten_cons,
        List.getElem?_append_left (by omega)]
      rfl
  | blob :: blobs, index + 1, sized => by
      have here := sized blob List.mem_cons_self
      have tail := getElem?_flatten_of_length inside blobs index
        fun later member => sized later (List.mem_cons_of_mem blob member)
      rw [Nat.add_mul, Nat.one_mul, List.flatten_cons,
        List.getElem?_append_right (by omega),
        show index * size + size + offset - blob.length =
          index * size + offset by omega, tail]
      rfl

/-- A position in numbered blocks of one size. -/
theorem getElem?_flatMap_range {block : Nat → List alpha}
    {size count index offset : Nat}
    (sized : ∀ index, (block index).length = size)
    (present : index < count) (inside : offset < size) :
    ((List.range count).flatMap block)[index * size + offset]? =
      (block index)[offset]? := by
  rw [List.flatMap_def, getElem?_flatten_of_length inside]
  · simp [present]
  · intro blob member
    obtain ⟨other, _, rfl⟩ := List.mem_map.mp member
    exact sized other

/-- Blobs of one size are skipped by skipping their bytes. -/
theorem drop_flatMap_of_length {beta : Type u} {bytes : beta → List alpha}
    {size : Nat} (sized : ∀ item, (bytes item).length = size)
    (more : List alpha) :
    ∀ (items : List beta) (index : Nat), index ≤ items.length →
      (items.flatMap bytes ++ more).drop (index * size) =
        (items.drop index).flatMap bytes ++ more
  | items, 0, _ => by
      simp
  | [], index + 1, inside => absurd inside (Nat.not_succ_le_zero index)
  | item :: items, index + 1, inside => by
      have tail := drop_flatMap_of_length sized more items index
        (Nat.le_of_succ_le_succ inside)
      rw [List.flatMap_cons, List.append_assoc, Nat.add_mul, Nat.one_mul,
        Nat.add_comm, ← List.drop_drop, List.drop_left' (sized item), tail,
        List.drop_succ_cons]

/-- Consecutive pieces of one size make up the front of a buffer. -/
theorem flatMap_pieces (items : List alpha) (size : Nat) :
    ∀ count, (List.range count).flatMap
        (fun index => (items.drop (index * size)).take size) =
      items.take (count * size)
  | 0 => by
      simp
  | count + 1 => by
      rw [List.range_succ, List.flatMap_append,
        flatMap_pieces items size count, Nat.add_mul, Nat.one_mul,
        List.take_add]
      simp

end RemoteWay.Base
