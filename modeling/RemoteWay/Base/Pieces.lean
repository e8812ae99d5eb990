import RemoteWay.Base.Blobs

/-!
# Pieces of one size

A buffer whose length is a multiple of a size is cut into pieces of that
size, and joined from them again.
-/

namespace RemoteWay.Base

universe u

variable {alpha : Type u}

/-- The first pieces of a size, in their order. -/
def pieces (size count : Nat) (items : List alpha) : List (List alpha) :=
  (List.range count).map fun index => (items.drop (index * size)).take size

@[simp]
theorem length_pieces (size count : Nat) (items : List alpha) :
    (pieces size count items).length = count := by
  simp [pieces]

theorem flatten_pieces {size count : Nat} {items : List alpha}
    (whole : items.length = count * size) :
    (pieces size count items).flatten = items := by
  rw [pieces, ← List.flatMap_def, flatMap_pieces, ← whole, List.take_length]

theorem length_of_mem_pieces {size count : Nat} {items piece : List alpha}
    (whole : items.length = count * size)
    (member : piece ∈ pieces size count items) : piece.length = size := by
  obtain ⟨index, inside, rfl⟩ := List.mem_map.mp member
  have next : (index + 1) * size ≤ count * size :=
    Nat.mul_le_mul_right size (List.mem_range.mp inside)
  rw [List.length_take, List.length_drop, whole]
  rw [Nat.add_mul, Nat.one_mul] at next
  omega

theorem length_flatten_of_length {size : Nat} {blobs : List (List alpha)}
    (sized : ∀ blob, blob ∈ blobs → blob.length = size) :
    blobs.flatten.length = blobs.length * size := by
  induction blobs with
  | nil => simp
  | cons blob blobs inductionHypothesis =>
      have rest := inductionHypothesis fun later member =>
        sized later (List.mem_cons_of_mem blob member)
      rw [List.flatten_cons, List.length_append, rest,
        sized blob List.mem_cons_self, List.length_cons, Nat.add_mul,
        Nat.one_mul, Nat.add_comm]

/-- A piece of joined blobs of one size is the blob. -/
theorem take_drop_flatten {size : Nat} :
    ∀ {blobs : List (List alpha)} {index : Nat} {blob : List alpha},
      (∀ blob, blob ∈ blobs → blob.length = size) →
        blobs[index]? = some blob →
          (blobs.flatten.drop (index * size)).take size = blob := by
  intro blobs
  induction blobs with
  | nil =>
      intro index blob _ found
      simp at found
  | cons first blobs inductionHypothesis =>
      intro index blob sized found
      have length := sized first List.mem_cons_self
      cases index with
      | zero =>
          injection found with same
          subst same
          rw [Nat.zero_mul, List.drop_zero, List.flatten_cons,
            List.take_left' length]
      | succ index =>
          rw [List.flatten_cons, Nat.add_mul, Nat.one_mul, Nat.add_comm,
            ← List.drop_drop, List.drop_left' length]
          exact inductionHypothesis
            (fun later member => sized later
              (List.mem_cons_of_mem first member)) found

/-- Joined blobs of one size are cut into the same blobs. -/
theorem pieces_flatten {size : Nat} {blobs : List (List alpha)}
    (sized : ∀ blob, blob ∈ blobs → blob.length = size) :
    pieces size blobs.length blobs.flatten = blobs := by
  apply List.ext_getElem
  · simp
  · intro index _ inside
    simp only [pieces, List.getElem_map, List.getElem_range]
    exact take_drop_flatten sized (List.getElem?_eq_getElem inside)

end RemoteWay.Base
