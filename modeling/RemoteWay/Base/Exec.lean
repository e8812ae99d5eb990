import Mathlib.Algebra.GroupWithZero.Nat
import Mathlib.Data.List.Forall2

/-!
# Partial machine operations

Rust's partial operations as functions into `Exec`: a computation either has
a value or stops with a `Panic`.  Arithmetic is parametrised by the build,
because a `dev` build checks every overflow and every `debug_assert!`, while
a `release` build wraps around and drops the assertions.

`usize` values are natural numbers; an operation on them wraps or panics at
`2 ^ 64`.  Vectors and slices are lists.
-/

namespace RemoteWay.Base

universe u v

/-- Why a computation stops without a value. -/
inductive Panic where
  | bounds
  | overflow
  | division
  | assertion
  | copyLength
  | endless
  deriving DecidableEq, Repr

abbrev Exec (alpha : Type u) := Except Panic alpha

/-- The two builds of a Rust program. -/
inductive Profile where
  | dev
  | release
  deriving DecidableEq, Repr

/-- A sequence of computations has a value when each of them does. -/
theorem bind_eq_ok_iff {failure : Type v} {alpha beta : Type u}
    {first : Except failure alpha} {next : alpha → Except failure beta}
    {result : beta} :
    (first >>= next) = .ok result ↔
      ∃ value, first = .ok value ∧ next value = .ok result := by
  cases first with
  | error reason => simp [bind, Except.bind]
  | ok value => simp [bind, Except.bind]

theorem ok_bind {failure : Type v} {alpha beta : Type u} (value : alpha)
    (next : alpha → Except failure beta) :
    (Except.ok value >>= next) = next value := rfl

section Evaluation

variable {alpha : Type u} (computation : Exec alpha)
variable (property : alpha → Prop) [DecidablePred property]

/-- Evaluation decides whether there is a value with a property. -/
instance : Decidable
    (∃ value, computation = .ok value ∧ property value) :=
  match computation with
  | .error _ => isFalse fun ⟨_, impossible, _⟩ => by cases impossible
  | .ok value =>
      if holds : property value then
        isTrue ⟨value, rfl, holds⟩
      else
        isFalse fun ⟨_, same, other⟩ =>
          holds (by injection same with same; rw [same]; exact other)

/-- Evaluation decides whether every value has a property. -/
instance : Decidable
    (∀ value, computation = .ok value → property value) :=
  match computation with
  | .error _ => isTrue fun _ impossible => by cases impossible
  | .ok value =>
      if holds : property value then
        isTrue fun _ same => by injection same with same; rw [← same]; exact holds
      else
        isFalse fun all => holds (all value rfl)

end Evaluation

/-! ## Arithmetic -/

def usizeRange : Nat := 2 ^ 64

/-- `value` as the result of a `usize` operation. -/
def usizeResult (profile : Profile) (value : Nat) : Exec Nat :=
  if value < usizeRange then
    .ok value
  else
    match profile with
    | .dev => .error .overflow
    | .release => .ok (value % usizeRange)

def usizeAdd (profile : Profile) (left right : Nat) : Exec Nat :=
  usizeResult profile (left + right)

def usizeMul (profile : Profile) (left right : Nat) : Exec Nat :=
  usizeResult profile (left * right)

/-- `value` as the result of a `u32` operation. -/
def u32Result (profile : Profile) (value : Nat) : Exec UInt32 :=
  if value < UInt32.size then
    .ok (UInt32.ofNat value)
  else
    match profile with
    | .dev => .error .overflow
    | .release => .ok (UInt32.ofNat value)

def u32Add (profile : Profile) (left right : UInt32) : Exec UInt32 :=
  u32Result profile (left.toNat + right.toNat)

def u32Sub (profile : Profile) (left right : UInt32) : Exec UInt32 :=
  if right ≤ left then
    .ok (left - right)
  else
    match profile with
    | .dev => .error .overflow
    | .release => .ok (left - right)

def u32Mul (profile : Profile) (left right : UInt32) : Exec UInt32 :=
  u32Result profile (left.toNat * right.toNat)

/-- `left + right` as a `u64` operation. -/
def u64Add (profile : Profile) (left right : UInt64) : Exec UInt64 :=
  if left.toNat + right.toNat < UInt64.size then
    .ok (left + right)
  else
    match profile with
    | .dev => .error .overflow
    | .release => .ok (left + right)

/-- `left * right` as a `u64` operation. -/
def u64Mul (profile : Profile) (left right : UInt64) : Exec UInt64 :=
  if left.toNat * right.toNat < UInt64.size then
    .ok (left * right)
  else
    match profile with
    | .dev => .error .overflow
    | .release => .ok (left * right)

/-- `wrapped` as the result of an `i32` operation whose value is `value`. -/
def i32Result (profile : Profile) (value : Int) (wrapped : Int32) :
    Exec Int32 :=
  if wrapped.toInt = value then
    .ok wrapped
  else
    match profile with
    | .dev => .error .overflow
    | .release => .ok wrapped

def i32Add (profile : Profile) (left right : Int32) : Exec Int32 :=
  i32Result profile (left.toInt + right.toInt) (left + right)

def i32Sub (profile : Profile) (left right : Int32) : Exec Int32 :=
  i32Result profile (left.toInt - right.toInt) (left - right)

def i32Mul (profile : Profile) (left right : Int32) : Exec Int32 :=
  i32Result profile (left.toInt * right.toInt) (left * right)

/-- `value.clamp(low, high)`, which asserts that its bounds are ordered. -/
def i32Clamp (value low high : Int32) : Exec Int32 :=
  if high < low then .error .assertion else .ok (max low (min value high))

/-- `debug_assert!`, which only a `dev` build evaluates. -/
def debugAssert (profile : Profile) (condition : Bool) : Exec Unit :=
  match profile with
  | .dev => if condition then .ok () else .error .assertion
  | .release => .ok ()

theorem usizeResult_of_lt (profile : Profile) {value : Nat}
    (fits : value < usizeRange) :
    usizeResult profile value = .ok value := by
  simp [usizeResult, fits]

theorem usizeResult_dev_eq_ok_iff {value result : Nat} :
    usizeResult .dev value = .ok result ↔
      value < usizeRange ∧ value = result := by
  by_cases fits : value < usizeRange <;> simp [usizeResult, fits]

theorem usizeAdd_of_lt (profile : Profile) {left right : Nat}
    (fits : left + right < usizeRange) :
    usizeAdd profile left right = .ok (left + right) :=
  usizeResult_of_lt profile fits

theorem usizeMul_of_lt (profile : Profile) {left right : Nat}
    (fits : left * right < usizeRange) :
    usizeMul profile left right = .ok (left * right) :=
  usizeResult_of_lt profile fits

theorem u32Result_of_lt (profile : Profile) {value : Nat}
    (fits : value < UInt32.size) :
    u32Result profile value = .ok (UInt32.ofNat value) := by
  simp [u32Result, fits]

theorem u32Mul_of_lt (profile : Profile) {left right : UInt32}
    (fits : left.toNat * right.toNat < UInt32.size) :
    u32Mul profile left right = .ok (left * right) := by
  rw [u32Mul, u32Result_of_lt profile fits, UInt32.ofNat_mul]
  simp

theorem u32Add_of_lt (profile : Profile) {left right : UInt32}
    (fits : left.toNat + right.toNat < UInt32.size) :
    u32Add profile left right = .ok (left + right) := by
  rw [u32Add, u32Result_of_lt profile fits, UInt32.ofNat_add]
  simp

theorem u32Sub_of_le (profile : Profile) {left right : UInt32}
    (enough : right ≤ left) :
    u32Sub profile left right = .ok (left - right) :=
  if_pos enough

/-- A product that does not stop is the product modulo `2 ^ 32`. -/
theorem u32Mul_eq_ok {profile : Profile} {left right result : UInt32}
    (done : u32Mul profile left right = .ok result) :
    left * right = result := by
  by_cases fits : left.toNat * right.toNat < UInt32.size
  · rw [u32Mul_of_lt profile fits] at done
    injection done
  · cases profile with
    | dev =>
        rw [u32Mul, u32Result, if_neg fits] at done
        cases done
    | release =>
        rw [u32Mul, u32Result, if_neg fits] at done
        injection done

theorem u64Add_of_lt (profile : Profile) {left right : UInt64}
    (fits : left.toNat + right.toNat < UInt64.size) :
    u64Add profile left right = .ok (left + right) :=
  if_pos fits

/-- A sum that does not stop is the sum modulo `2 ^ 64`. -/
theorem u64Add_eq_ok {profile : Profile} {left right result : UInt64}
    (done : u64Add profile left right = .ok result) :
    left + right = result := by
  unfold u64Add at done
  split at done
  · injection done
  · cases profile with
    | dev => cases done
    | release => injection done

private theorem i32Result_eq_ok {profile : Profile} {value : Int}
    {wrapped result : Int32}
    (done : i32Result profile value wrapped = .ok result) :
    wrapped = result := by
  unfold i32Result at done
  split at done
  · injection done
  · cases profile with
    | dev => cases done
    | release => injection done

/-- A difference that does not stop is the difference modulo `2 ^ 32`. -/
theorem i32Sub_eq_ok {profile : Profile} {left right result : Int32}
    (done : i32Sub profile left right = .ok result) :
    left - right = result :=
  i32Result_eq_ok done

theorem i32Mul_eq_ok {profile : Profile} {left right result : Int32}
    (done : i32Mul profile left right = .ok result) :
    left * right = result :=
  i32Result_eq_ok done

theorem i32Result_of_inside (profile : Profile) {value : Int}
    {wrapped : Int32} (sum : wrapped.toInt = value.bmod (2 ^ 32))
    (lower : -2147483648 ≤ value) (upper : value < 2147483648) :
    i32Result profile value wrapped = .ok wrapped ∧
      wrapped.toInt = value := by
  have exact_ : wrapped.toInt = value := by
    rw [sum]
    exact Int.bmod_eq_of_le (by omega) (by omega)
  exact ⟨by simp [i32Result, exact_], exact_⟩

theorem i32Add_of_inside (profile : Profile) {left right : Int32}
    (lower : -2147483648 ≤ left.toInt + right.toInt)
    (upper : left.toInt + right.toInt < 2147483648) :
    i32Add profile left right = .ok (left + right) ∧
      (left + right).toInt = left.toInt + right.toInt :=
  i32Result_of_inside profile (Int32.toInt_add left right) lower upper

theorem i32Sub_of_inside (profile : Profile) {left right : Int32}
    (lower : -2147483648 ≤ left.toInt - right.toInt)
    (upper : left.toInt - right.toInt < 2147483648) :
    i32Sub profile left right = .ok (left - right) ∧
      (left - right).toInt = left.toInt - right.toInt :=
  i32Result_of_inside profile (Int32.toInt_sub left right) lower upper

theorem i32_toInt_max (left right : Int32) :
    (max left right).toInt = max left.toInt right.toInt := by
  change (if left ≤ right then right else left).toInt = _
  simp only [Int32.le_iff_toInt_le]
  split <;> omega

theorem u32_toNat_max (left right : UInt32) :
    (max left right).toNat = max left.toNat right.toNat := by
  change (if left ≤ right then right else left).toNat = _
  simp only [UInt32.le_iff_toNat_le]
  split <;> omega

theorem u32_toNat_min (left right : UInt32) :
    (min left right).toNat = min left.toNat right.toNat := by
  change (if left ≤ right then left else right).toNat = _
  simp only [UInt32.le_iff_toNat_le]
  split <;> omega

theorem i32_toInt_min (left right : Int32) :
    (min left right).toInt = min left.toInt right.toInt := by
  change (if left ≤ right then left else right).toInt = _
  simp only [Int32.le_iff_toInt_le]
  split <;> omega

theorem i32Clamp_of_le (value : Int32) {low high : Int32}
    (ordered : low.toInt ≤ high.toInt) :
    i32Clamp value low high = .ok (max low (min value high)) := by
  rw [i32Clamp, if_neg (Int32.not_lt.mpr (Int32.le_iff_toInt_le.mpr ordered))]

/-- A small `u32` as an `i32`. -/
theorem u32_toInt_toInt32 {value : UInt32} (small : value.toNat < 2 ^ 31) :
    value.toInt32.toInt = value.toNat := by
  change (value.toBitVec).toInt = _
  rw [BitVec.toInt_eq_toNat_bmod]
  exact Int.bmod_eq_of_le (by omega) (by
    change ((value.toNat : Nat) : Int) < _
    omega)

/-- A non-negative `i32` as a `u32`. -/
theorem i32_toNat_toUInt32 {value : Int32} (nonneg : 0 ≤ value.toInt) :
    value.toUInt32.toNat = value.toInt.toNat :=
  Int32.toNat_toUInt32_of_le (Int32.le_iff_toInt_le.mpr nonneg)

@[simp]
theorem debugAssert_true (profile : Profile) :
    debugAssert profile true = .ok () := by
  cases profile <;> rfl

/-! ## Slices -/

section Slices

variable {alpha : Type u}

/-- `&items[start..stop]`. -/
def slice (items : List alpha) (start stop : Nat) : Exec (List alpha) :=
  if start ≤ stop ∧ stop ≤ items.length then
    .ok ((items.drop start).take (stop - start))
  else
    .error .bounds

/-- `items[index]` as a value. -/
def readAt (items : List alpha) (index : Nat) : Exec alpha :=
  match items[index]? with
  | some item => .ok item
  | none => .error .bounds

/-- `items[index] = item`. -/
def writeAt (items : List alpha) (index : Nat) (item : alpha) :
    Exec (List alpha) :=
  if index < items.length then
    .ok (items.set index item)
  else
    .error .bounds

/-- `target.copy_from_slice(source)`. -/
def copyFromSlice (target source : List alpha) : Exec (List alpha) :=
  if target.length = source.length then
    .ok source
  else
    .error .copyLength

/-- `Vec::resize`. -/
def resize (items : List alpha) (length : Nat) (fill : alpha) :
    List alpha :=
  items.take length ++ List.replicate (length - items.length) fill

theorem slice_of_le (items : List alpha) {start stop : Nat}
    (ordered : start ≤ stop) (inside : stop ≤ items.length) :
    slice items start stop =
      .ok ((items.drop start).take (stop - start)) := by
  simp [slice, ordered, inside]

theorem slice_eq_ok_iff {items result : List alpha} {start stop : Nat} :
    slice items start stop = .ok result ↔
      (start ≤ stop ∧ stop ≤ items.length) ∧
        (items.drop start).take (stop - start) = result := by
  by_cases inside : start ≤ stop ∧ stop ≤ items.length <;>
    simp [slice, inside]

/-- A slice with what lies around it. -/
theorem slice_append {before middle after : List alpha} {start stop : Nat}
    (starts : start = before.length) (stops : stop = start + middle.length) :
    slice (before ++ (middle ++ after)) start stop = .ok middle := by
  rw [slice_of_le _ (by omega) (by simp only [List.length_append]; omega),
    stops, starts, List.drop_left, Nat.add_sub_cancel_left, List.take_left]

/-- Slices at the same positions have the same length. -/
theorem length_eq_of_slice {left right leftSlice rightSlice : List alpha}
    {start stop : Nat} (leftDone : slice left start stop = .ok leftSlice)
    (rightDone : slice right start stop = .ok rightSlice) :
    leftSlice.length = rightSlice.length := by
  obtain ⟨⟨_, insideLeft⟩, rfl⟩ := slice_eq_ok_iff.mp leftDone
  obtain ⟨⟨_, insideRight⟩, rfl⟩ := slice_eq_ok_iff.mp rightDone
  rw [List.length_take, List.length_take, List.length_drop,
    List.length_drop]
  omega

/-- A slice as the list of the values at its positions. -/
theorem take_drop_eq_map_getD (fill : alpha) :
    ∀ (items : List alpha) (start count : Nat),
      start + count ≤ items.length →
        (items.drop start).take count =
          (List.range count).map fun index =>
            items.getD (start + index) fill := by
  intro items start count inside
  apply List.ext_getElem?
  intro index
  by_cases within : index < count
  · have here : start + index < items.length := by omega
    simp [within, List.getElem?_drop,
      List.getD_eq_getElem?_getD, here]
  · have past : count ≤ index := Nat.le_of_not_lt within
    rw [List.getElem?_take, if_neg within]
    simp [past]

theorem readAt_of_lt {items : List alpha} {index : Nat}
    (inside : index < items.length) :
    readAt items index = .ok items[index] := by
  simp [readAt, inside]

theorem readAt_eq_ok_iff {items : List alpha} {index : Nat}
    {item : alpha} :
    readAt items index = .ok item ↔ items[index]? = some item := by
  cases found : items[index]? <;> simp [readAt, found]

theorem writeAt_of_lt {items : List alpha} {index : Nat} (item : alpha)
    (inside : index < items.length) :
    writeAt items index item = .ok (items.set index item) := by
  simp [writeAt, inside]

theorem length_of_writeAt {items result : List alpha} {index : Nat}
    {item : alpha} (written : writeAt items index item = .ok result) :
    result.length = items.length := by
  rw [writeAt] at written
  split at written
  · injection written with same
    rw [← same, List.length_set]
  · cases written

@[simp]
theorem readAt_middle {before after : List alpha} {item : alpha}
    {index : Nat} (there : index = before.length) :
    readAt (before ++ item :: after) index = .ok item := by
  rw [readAt_eq_ok_iff, there]
  simp

theorem writeAt_middle {before after : List alpha} {item : alpha}
    {index : Nat} (other : alpha) (there : index = before.length) :
    writeAt (before ++ item :: after) index other =
      .ok (before ++ other :: after) := by
  rw [writeAt_of_lt other (by simp [there]), there]
  simp

theorem copyFromSlice_of_length_eq {target source : List alpha}
    (sameLength : target.length = source.length) :
    copyFromSlice target source = .ok source := by
  simp [copyFromSlice, sameLength]

@[simp]
theorem length_resize (items : List alpha) (length : Nat) (fill : alpha) :
    (resize items length fill).length = length := by
  simp [resize]
  omega

theorem resize_length (items : List alpha) (fill : alpha) :
    resize items items.length fill = items := by
  simp [resize]

theorem getD_resize (items : List alpha) (length : Nat) (fill : alpha)
    {index : Nat} (inside : index < length) :
    (resize items length fill).getD index fill =
      items.getD index fill := by
  by_cases old : index < items.length
  · have kept : index < (items.take length).length := by
      rw [List.length_take]
      omega
    simp [resize, List.getD_eq_getElem?_getD, List.getElem?_append_left kept,
      inside]
  · have later : (items.take length).length ≤ index := by
      rw [List.length_take]
      omega
    have filled :
        index - (items.take length).length < length - items.length := by
      rw [List.length_take]
      omega
    rw [resize, List.getD_eq_getElem?_getD, List.getD_eq_getElem?_getD,
      List.getElem?_append_right later, List.getElem?_replicate_of_lt filled,
      List.getElem?_eq_none (Nat.le_of_not_lt old)]
    rfl

end Slices

/-! ## Loops -/

section Loops

variable {alpha : Type u} {beta : Type v} {state : Type u}

/-- A loop that appends one produced block for each item stops exactly when
producing some block does, and otherwise appends all blocks in order. -/
theorem foldlM_append_blocks (produce : beta → Exec (List alpha)) :
    ∀ (items : List beta) (out : List alpha),
      items.foldlM
          (fun out item => do return out ++ (← produce item)) out =
        (do return out ++ (← items.mapM produce).flatten)
  | [], out => by
      simp [pure, Except.pure, bind, Except.bind]
  | item :: rest, out => by
      rw [List.foldlM_cons, List.mapM_cons]
      cases produced : produce item with
      | error panic =>
          simp [bind, Except.bind]
      | ok block =>
          have tail := foldlM_append_blocks produce rest (out ++ block)
          simp only [bind, Except.bind, pure, Except.pure] at tail ⊢
          rw [tail]
          cases rest.mapM produce <;> simp

/-- Nested loops run as one loop over the pairs. -/
theorem foldlM_flatMap {gamma : Type v}
    (step : state → gamma → Exec state) (expand : beta → List gamma) :
    ∀ (items : List beta) (start : state),
      items.foldlM (fun current item => (expand item).foldlM step current)
          start =
        (items.flatMap expand).foldlM step start
  | [], start => rfl
  | item :: rest, start => by
      rw [List.foldlM_cons, List.flatMap_cons, List.foldlM_append]
      congr 1
      funext middle
      exact foldlM_flatMap step expand rest middle

theorem mapM_ok_of_forall {produce : beta → Exec alpha}
    {value : beta → alpha} :
    ∀ {items : List beta},
      (∀ item, item ∈ items → produce item = .ok (value item)) →
        items.mapM produce = .ok (items.map value)
  | [], _ => rfl
  | item :: rest, produced => by
      rw [List.mapM_cons, produced item List.mem_cons_self,
        mapM_ok_of_forall fun later member =>
          produced later (List.mem_cons_of_mem item member)]
      rfl

/-- A loop whose rounds keep a length keeps it. -/
theorem foldlM_length
    {step : List alpha → beta → Exec (List alpha)}
    (keeps : ∀ out item result, step out item = .ok result →
      result.length = out.length) :
    ∀ (items : List beta) (out result : List alpha),
      items.foldlM step out = .ok result → result.length = out.length
  | [], out, result, done => by
      rw [List.foldlM_nil] at done
      injection done with same
      rw [same]
  | item :: items, out, result, done => by
      rw [List.foldlM_cons, bind_eq_ok_iff] at done
      obtain ⟨middle, first, later⟩ := done
      rw [foldlM_length keeps items middle result later,
        keeps out item middle first]

/-- A loop whose rounds all keep an invariant of the finished items ends with
it. -/
theorem foldlM_invariant {failure : Type v}
    {step : state → beta → Except failure state}
    (invariant : List beta → state → Prop) :
    ∀ (items : List beta) {start : state} (finished : List beta),
      invariant finished start →
      (∀ before item after current, items = before ++ item :: after →
        invariant (finished ++ before) current →
          ∃ next, step current item = .ok next ∧
            invariant (finished ++ before ++ [item]) next) →
        ∃ last, items.foldlM step start = .ok last ∧
          invariant (finished ++ items) last
  | [], start, finished, initially, _ => by
      rw [List.append_nil]
      exact ⟨start, rfl, initially⟩
  | item :: rest, start, finished, initially, kept => by
      obtain ⟨next, stepped, holds⟩ := kept [] item rest start rfl
        (by rw [List.append_nil]; exact initially)
      rw [List.append_nil] at holds
      obtain ⟨last, iterated, finally_⟩ := foldlM_invariant invariant
        rest (finished ++ [item]) holds (by
          intro before later after current split holds
          rw [List.append_assoc] at holds
          have more := kept (item :: before) later after current
            (by rw [split]; rfl) holds
          rw [← List.singleton_append, ← List.append_assoc] at more
          exact more)
      refine ⟨last, ?_, ?_⟩
      · rw [List.foldlM_cons, stepped]
        exact iterated
      · rw [List.append_assoc] at finally_
        exact finally_

/-- What every round keeps of the finished items holds after a loop that
ends. -/
theorem foldlM_induction {failure : Type v}
    {step : state → beta → Except failure state}
    (invariant : List beta → state → Prop)
    (kept : ∀ finished item before after, invariant finished before →
      step before item = .ok after → invariant (finished ++ [item]) after) :
    ∀ {items : List beta} {start last : state} (finished : List beta),
      items.foldlM step start = .ok last → invariant finished start →
        invariant (finished ++ items) last := by
  intro items
  induction items with
  | nil =>
      intro start last finished iterated initially
      injection iterated with same
      rw [List.append_nil, ← same]
      exact initially
  | cons item items inductionHypothesis =>
      intro start last finished iterated initially
      rw [List.foldlM_cons, bind_eq_ok_iff] at iterated
      obtain ⟨next, stepped, iterated⟩ := iterated
      rw [← List.singleton_append, ← List.append_assoc]
      exact inductionHypothesis _ iterated
        (kept finished item start next initially stepped)

/-- A loop over all items has the results that the items have. -/
theorem mapM_eq_ok_iff {failure : Type v}
    {produce : beta → Except failure alpha} :
    ∀ {items : List beta} {results : List alpha},
      items.mapM produce = .ok results ↔
        List.Forall₂ (fun item result => produce item = .ok result) items
          results := by
  intro items
  induction items with
  | nil =>
      intro results
      rw [List.mapM_nil, List.forall₂_nil_left_iff]
      constructor
      · intro done
        injection done with same
        exact same.symm
      · rintro rfl
        rfl
  | cons item items inductionHypothesis =>
      intro results
      rw [List.mapM_cons, bind_eq_ok_iff, List.forall₂_cons_left_iff]
      constructor
      · rintro ⟨result, produced, done⟩
        rw [bind_eq_ok_iff] at done
        obtain ⟨later, rest, done⟩ := done
        injection done with same
        exact ⟨result, later, produced, inductionHypothesis.mp rest,
          same.symm⟩
      · rintro ⟨result, later, produced, rest, rfl⟩
        refine ⟨result, produced, ?_⟩
        rw [bind_eq_ok_iff]
        exact ⟨later, inductionHypothesis.mpr rest, rfl⟩

/-- If every item has a result with a property, the loop has them all. -/
theorem exists_mapM_of_forall {failure : Type v}
    {produce : beta → Except failure alpha}
    {property : beta → alpha → Prop} {items : List beta}
    (each : ∀ item, item ∈ items →
      ∃ result, produce item = .ok result ∧ property item result) :
    ∃ results, items.mapM produce = .ok results ∧
      List.Forall₂ property items results := by
  induction items with
  | nil => exact ⟨[], rfl, .nil⟩
  | cons item items inductionHypothesis =>
      obtain ⟨result, produced, holds⟩ := each item List.mem_cons_self
      obtain ⟨results, rest, all⟩ := inductionHypothesis
        fun later member => each later (List.mem_cons_of_mem item member)
      refine ⟨result :: results, ?_, .cons holds all⟩
      rw [List.mapM_cons, produced, rest]
      rfl

/-- A loop over all items fails exactly when one of them does. -/
theorem mapM_fails_iff {failure : Type v}
    {produce : beta → Except failure alpha} :
    ∀ {items : List beta},
      (∃ reason, items.mapM produce = .error reason) ↔
        ∃ item, item ∈ items ∧ ∃ reason, produce item = .error reason := by
  intro items
  induction items with
  | nil => simp [pure, Except.pure]
  | cons item items inductionHypothesis =>
      rw [List.mapM_cons]
      cases produced : produce item with
      | error reason => simp [bind, Except.bind, produced]
      | ok result =>
          have rest : (∃ reason, (do
                let value ← Except.ok result
                let values ← items.mapM produce
                pure (value :: values)) = .error reason) ↔
              ∃ reason, items.mapM produce = .error reason := by
            cases items.mapM produce <;>
              simp [bind, Except.bind, pure, Except.pure]
          rw [rest, inductionHypothesis]
          simp [produced]

end Loops

end RemoteWay.Base
