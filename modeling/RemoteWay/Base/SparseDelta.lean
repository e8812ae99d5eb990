import Mathlib.Data.List.Basic

/-!
# Differences carried at a list of positions

A sender encodes a buffer against a base by listing one difference for each
position of an agreed list; a receiver applies the differences to its own
base.  Positions may repeat and come in any order.  What the receiver obtains
at a covered position depends on both bases, and is the sender's value as
soon as the two bases agree there.
-/

namespace RemoteWay.Base

universe u

variable {alpha : Type u}

/-! ## Stores at a list of positions -/

/-- Store each value at its position, in order. -/
def storeAll (items : List alpha) : List (Nat × alpha) → List alpha
  | [] => items
  | (position, value) :: rest =>
      storeAll (items.set position value) rest

@[simp]
theorem length_storeAll :
    ∀ (items : List alpha) (writes : List (Nat × alpha)),
      (storeAll items writes).length = items.length
  | _, [] => rfl
  | items, (position, value) :: rest => by
      rw [storeAll, length_storeAll, List.length_set]

theorem storeAll_append (items : List alpha) :
    ∀ first second : List (Nat × alpha),
      storeAll items (first ++ second) =
        storeAll (storeAll items first) second
  | [], _ => rfl
  | (position, value) :: rest, second => by
      rw [List.cons_append, storeAll, storeAll,
        storeAll_append (items.set position value) rest second]

/-- When all values stored at a position are the same, the order of the
stores does not matter. -/
theorem getElem?_storeAll (value : Nat → alpha) (tested : Nat) :
    ∀ (items : List alpha) (writes : List (Nat × alpha)),
      (∀ write, write ∈ writes → write.2 = value write.1) →
        (storeAll items writes)[tested]? =
          if tested ∈ writes.map Prod.fst then
            items[tested]?.map fun _ => value tested
          else
            items[tested]?
  | items, [], _ => by
      simp [storeAll]
  | items, (position, stored) :: rest, consistent => by
      have storedEq : stored = value position :=
        consistent (position, stored) List.mem_cons_self
      have tail :=
        getElem?_storeAll value tested (items.set position stored) rest
          fun write member => consistent write (List.mem_cons_of_mem _ member)
      rw [storeAll, tail]
      by_cases here : position = tested
      · subst here
        by_cases inside : position < items.length
        · simp [inside, storedEq]
        · simp [inside]
      · have sameMembers :
            tested ∈ ((position, stored) :: rest).map Prod.fst ↔
              tested ∈ rest.map Prod.fst := by
          rw [List.map_cons, List.mem_cons]
          exact or_iff_right (Ne.symm here)
        rw [List.getElem?_set_ne here]
        simp only [sameMembers]

/-! ## Encoding and decoding -/

section Coding

variable (fill : alpha) (difference apply : alpha → alpha → alpha)

/-- The differences of `current` against `base` at `positions`. -/
def encodeAt (current base : List alpha) (positions : List Nat) :
    List alpha :=
  positions.map fun position =>
    difference (current.getD position fill) (base.getD position fill)

/-- The stores that apply `deltas` to `base` at `positions`. -/
def decodeWrites (base : List alpha) (positions : List Nat)
    (deltas : List alpha) : List (Nat × alpha) :=
  (positions.zip deltas).map fun (position, delta) =>
    (position, apply (base.getD position fill) delta)

def decodeAt (base : List alpha) (positions : List Nat)
    (deltas : List alpha) : List alpha :=
  storeAll base (decodeWrites fill apply base positions deltas)

@[simp]
theorem length_encodeAt (current base : List alpha)
    (positions : List Nat) :
    (encodeAt fill difference current base positions).length =
      positions.length := by
  simp [encodeAt]

@[simp]
theorem length_decodeAt (base : List alpha) (positions : List Nat)
    (deltas : List alpha) :
    (decodeAt fill apply base positions deltas).length = base.length := by
  simp [decodeAt]

theorem decodeWrites_append (base : List alpha) :
    ∀ (first second : List Nat) (deltas : List alpha),
      decodeWrites fill apply base (first ++ second) deltas =
        decodeWrites fill apply base first deltas ++
          decodeWrites fill apply base second (deltas.drop first.length)
  | [], _, _ => rfl
  | position :: first, second, [] => by
      simp [decodeWrites]
  | position :: first, second, delta :: deltas => by
      have tail := decodeWrites_append base first second deltas
      simp only [decodeWrites, List.cons_append, List.zip_cons_cons,
        List.map_cons, List.length_cons, List.drop_succ_cons] at tail ⊢
      rw [tail]

private theorem decodeWrites_encodeAt (current senderBase base : List alpha)
    (positions : List Nat) :
    decodeWrites fill apply base positions
        (encodeAt fill difference current senderBase positions) =
      positions.map fun position =>
        (position, apply (base.getD position fill)
          (difference (current.getD position fill)
            (senderBase.getD position fill))) := by
  induction positions with
  | nil => rfl
  | cons position rest inductionHypothesis =>
      simp only [decodeWrites, encodeAt, List.map_cons, List.zip_cons_cons]
        at inductionHypothesis ⊢
      rw [inductionHypothesis]

/-- What a receiver with its own base obtains at each position. -/
theorem getD_decodeAt_encodeAt (current senderBase base : List alpha)
    (positions : List Nat) (tested : Nat) (inside : tested < base.length) :
    (decodeAt fill apply base positions
        (encodeAt fill difference current senderBase positions)).getD
          tested fill =
      if tested ∈ positions then
        apply (base.getD tested fill)
          (difference (current.getD tested fill)
            (senderBase.getD tested fill))
      else
        base.getD tested fill := by
  let value : Nat → alpha := fun position =>
    apply (base.getD position fill)
      (difference (current.getD position fill)
        (senderBase.getD position fill))
  have stored :=
    getElem?_storeAll value tested base
      (positions.map fun position => (position, value position)) (by
        intro write member
        obtain ⟨position, _, rfl⟩ := List.mem_map.mp member
        rfl)
  have positionsEq :
      (positions.map fun position => (position, value position)).map
          Prod.fst = positions := by
    simp [Function.comp_def]
  rw [decodeAt, decodeWrites_encodeAt, List.getD_eq_getElem?_getD, stored,
    positionsEq]
  by_cases covered : tested ∈ positions
  · simp [covered, inside, value]
  · simp [covered, List.getD_eq_getElem?_getD]

/-- With differences that can be undone, a receiver whose base agrees with
the sender's at a covered position obtains the sender's value there. -/
theorem getD_decodeAt_of_agree
    (undo : ∀ value base, apply base (difference value base) = value)
    {current senderBase base : List alpha} {positions : List Nat}
    {tested : Nat} (inside : tested < base.length)
    (covered : tested ∈ positions)
    (agree : base.getD tested fill = senderBase.getD tested fill) :
    (decodeAt fill apply base positions
        (encodeAt fill difference current senderBase positions)).getD
          tested fill =
      current.getD tested fill := by
  rw [getD_decodeAt_encodeAt _ _ _ _ _ _ _ _ inside, if_pos covered, agree,
    undo]

/-- With differences that determine the base they were taken against, only
an agreeing base decodes to the sender's value. -/
theorem getD_decodeAt_eq_current_iff
    (undo : ∀ value base, apply base (difference value base) = value)
    (determined : ∀ value base other,
      apply base (difference value other) = value → base = other)
    {current senderBase base : List alpha} {positions : List Nat}
    {tested : Nat} (inside : tested < base.length)
    (covered : tested ∈ positions) :
    (decodeAt fill apply base positions
        (encodeAt fill difference current senderBase positions)).getD
          tested fill = current.getD tested fill ↔
      base.getD tested fill = senderBase.getD tested fill := by
  constructor
  · intro decoded
    rw [getD_decodeAt_encodeAt _ _ _ _ _ _ _ _ inside, if_pos covered]
      at decoded
    exact determined _ _ _ decoded
  · exact getD_decodeAt_of_agree fill difference apply undo inside covered

theorem getD_decodeAt_of_not_mem {current senderBase base : List alpha}
    {positions : List Nat} {tested : Nat} (inside : tested < base.length)
    (uncovered : tested ∉ positions) :
    (decodeAt fill apply base positions
        (encodeAt fill difference current senderBase positions)).getD
          tested fill =
      base.getD tested fill := by
  rw [getD_decodeAt_encodeAt _ _ _ _ _ _ _ _ inside, if_neg uncovered]

end Coding

end RemoteWay.Base
