import Mathlib.Algebra.Order.Group.Multiset
import Mathlib.Data.Multiset.Filter

/-!
# Programs that create and destroy resources

A program creates, reads, changes and destroys named resources in a store,
and makes requests that its environment may refuse.  It has no meaning where
it touches a resource that is not there.

A specification says what a program leaves of the resources that it is given,
when it returns and when it fails, whatever else is in the store.  The other
resources are left alone, so specifications compose without mentioning them.
-/

namespace RemoteWay.Base

/-! ## Stores -/

/-- Resources under names that are not used twice. -/
structure Store (resource : Type) where
  cells : List (Nat × resource)
  next : Nat
  distinct : (cells.map Prod.fst).Nodup
  below : ∀ cell, cell ∈ cells → cell.1 < next

namespace Store

variable {resource : Type}

def empty : Store resource where
  cells := []
  next := 0
  distinct := List.nodup_nil
  below := by
    intro cell member
    cases member

/-- Add a resource under the next name. -/
def insert (store : Store resource) (added : resource) : Store resource where
  cells := (store.next, added) :: store.cells
  next := store.next + 1
  distinct := by
    rw [List.map_cons, List.nodup_cons]
    refine ⟨?_, store.distinct⟩
    intro member
    obtain ⟨cell, inside, same⟩ := List.mem_map.mp member
    exact absurd same (Nat.ne_of_lt (store.below cell inside))
  below := by
    intro cell member
    rcases List.mem_cons.mp member with rfl | old
    · exact Nat.lt_succ_self _
    · exact Nat.lt_succ_of_lt (store.below cell old)

def find? (store : Store resource) (name : Nat) : Option resource :=
  (store.cells.find? fun cell => cell.1 == name).map Prod.snd

def erase (store : Store resource) (name : Nat) : Store resource where
  cells := store.cells.filter fun cell => cell.1 ≠ name
  next := store.next
  distinct := store.distinct.sublist (List.filter_sublist.map _)
  below := by
    intro cell member
    exact store.below cell (List.mem_of_mem_filter member)

def replace (store : Store resource) (name : Nat) (changed : resource) :
    Store resource where
  cells := store.cells.map fun cell =>
    if cell.1 = name then (name, changed) else cell
  next := store.next
  distinct := by
    have names : (store.cells.map fun cell =>
        if cell.1 = name then (name, changed) else cell).map Prod.fst =
          store.cells.map Prod.fst := by
      rw [List.map_map]
      apply List.map_congr_left
      intro cell _
      by_cases here : cell.1 = name
      · rw [Function.comp_apply, if_pos here, here]
      · rw [Function.comp_apply, if_neg here]
    rw [names]
    exact store.distinct
  below := by
    intro cell member
    obtain ⟨old, inside, same⟩ := List.mem_map.mp member
    have small := store.below old inside
    by_cases here : old.1 = name
    · rw [if_pos here] at same
      rw [← same, ← here]
      exact small
    · rw [if_neg here] at same
      rw [← same]
      exact small

/-! ### One resource among others -/

variable {store : Store resource} {name : Nat} {here : resource}
variable {others : Multiset (Nat × resource)}

theorem name_ne_of_mem
    (split : (store.cells : Multiset (Nat × resource)) =
      (name, here) ::ₘ others) {cell : Nat × resource}
    (member : cell ∈ others) : cell.1 ≠ name := by
  have distinct : ((store.cells : Multiset (Nat × resource)).map
      Prod.fst).Nodup := store.distinct
  rw [split, Multiset.map_cons, Multiset.nodup_cons] at distinct
  intro same
  exact distinct.1 (Multiset.mem_map.mpr ⟨cell, member, same⟩)

theorem find?_of_split
    (split : (store.cells : Multiset (Nat × resource)) =
      (name, here) ::ₘ others) : store.find? name = some here := by
  have member : (name, here) ∈ store.cells := by
    have inside : (name, here) ∈ (store.cells : Multiset _) := by
      rw [split]
      exact Multiset.mem_cons_self _ _
    exact inside
  rw [find?]
  cases found : store.cells.find? fun cell => cell.1 == name with
  | none =>
      have missing := List.find?_eq_none.mp found (name, here) member
      exact absurd (beq_self_eq_true name) missing
  | some cell =>
      have named := List.find?_some found
      have inside : cell ∈ (store.cells : Multiset _) :=
        List.mem_of_find?_eq_some found
      rw [split] at inside
      rcases Multiset.mem_cons.mp inside with same | other
      · rw [same]
        rfl
      · exact absurd (beq_iff_eq.mp named) (name_ne_of_mem split other)

theorem cells_erase
    (split : (store.cells : Multiset (Nat × resource)) =
      (name, here) ::ₘ others) :
    ((store.erase name).cells : Multiset (Nat × resource)) = others := by
  have filtered : ((store.erase name).cells : Multiset (Nat × resource)) =
      (store.cells : Multiset (Nat × resource)).filter
        fun cell => cell.1 ≠ name := rfl
  rw [filtered, split, Multiset.filter_cons_of_neg, Multiset.filter_eq_self]
  · intro cell member
    exact name_ne_of_mem split member
  · intro differs
    exact absurd rfl differs

theorem cells_replace (changed : resource)
    (split : (store.cells : Multiset (Nat × resource)) =
      (name, here) ::ₘ others) :
    ((store.replace name changed).cells : Multiset (Nat × resource)) =
      (name, changed) ::ₘ others := by
  have mapped : ((store.replace name changed).cells :
      Multiset (Nat × resource)) =
        (store.cells : Multiset (Nat × resource)).map fun cell =>
          if cell.1 = name then (name, changed) else cell := rfl
  have kept : others.map (fun cell =>
      if cell.1 = name then (name, changed) else cell) = others := by
    refine (Multiset.map_congr rfl ?_).trans (Multiset.map_id others)
    intro cell member
    exact if_neg (name_ne_of_mem split member)
  rw [mapped, split, Multiset.map_cons, if_pos rfl, kept]

end Store

/-! ## Programs -/

/-- The store, and the answers of the environment to the next requests.  It
grants all later ones. -/
structure World (resource code : Type) where
  store : Store resource
  answers : List (Option code)

namespace World

variable {resource code : Type}

def cells (world : World resource code) : Multiset (Nat × resource) :=
  world.store.cells

end World

/-- There is no result where the program has no meaning. -/
def Program (resource code error alpha : Type) :=
  World resource code →
    Option (Except error alpha × World resource code)

namespace Program

variable {resource code error alpha beta : Type}

/-- Go on where the program returns. -/
def andThen (program : Program resource code error alpha)
    (next : alpha → Program resource code error beta) :
    Program resource code error beta :=
  fun world =>
    match program world with
    | none => none
    | some (.error reason, after) => some (.error reason, after)
    | some (.ok value, after) => next value after

instance : Monad (Program resource code error) where
  pure value := fun world => some (.ok value, world)
  bind := andThen

def fail (reason : error) : Program resource code error alpha :=
  fun world => some (.error reason, world)

/-- Go on with the handler where the program fails. -/
def recover (program : Program resource code error alpha)
    (handler : error → Program resource code error alpha) :
    Program resource code error alpha :=
  fun world =>
    match program world with
    | none => none
    | some (.error reason, after) => handler reason after
    | some (.ok value, after) => some (.ok value, after)

/-- Run the cleanup where the program fails, and fail as it did. -/
def cleanup (program : Program resource code error alpha)
    (undo : Program resource code error Unit) :
    Program resource code error alpha :=
  program.recover fun reason => do
    undo
    fail reason

/-- A failure as a value. -/
def attempt {other : Type} (program : Program resource code error alpha) :
    Program resource code other (Except error alpha) :=
  fun world =>
    (program world).map fun ended => (.ok ended.1, ended.2)

/-- The same program, with its errors as those of another one. -/
def mapError {other : Type} (program : Program resource code error alpha)
    (convert : error → other) : Program resource code other alpha :=
  fun world =>
    (program world).map fun ended => (ended.1.mapError convert, ended.2)

/-- Run the program, and the other one however it ends. -/
def ensure (program : Program resource code error alpha)
    (always : Program resource code error Unit) :
    Program resource code error alpha := do
  let value ← program.cleanup always
  always
  return value

/-- Run the program for each item, up to the first failure. -/
def forEach {item : Type}
    (body : item → Program resource code error alpha) :
    List item → Program resource code error (List alpha)
  | [] => pure []
  | first :: rest => do
      let value ← body first
      let values ← forEach body rest
      return value :: values

/-- A request, and the error if it is refused. -/
def request (refused : code → error) : Program resource code error Unit :=
  fun world =>
    match world.answers with
    | some reason :: later =>
        some (.error (refused reason), { world with answers := later })
    | none :: later => some (.ok (), { world with answers := later })
    | [] => some (.ok (), world)

/-- Whether a request is granted. -/
def ask : Program resource code error Bool :=
  fun world =>
    match world.answers with
    | answer :: later =>
        some (.ok answer.isNone, { world with answers := later })
    | [] => some (.ok true, world)

def create (added : resource) : Program resource code error Nat :=
  fun world =>
    some (.ok world.store.next,
      { world with store := world.store.insert added })

def fetch (name : Nat) : Program resource code error resource :=
  fun world =>
    (world.store.find? name).map fun here => (.ok here, world)

/-- The program has no meaning unless the resource is as it says. -/
def check (name : Nat) (suitable : resource → Prop)
    [DecidablePred suitable] : Program resource code error Unit :=
  fun world =>
    match world.store.find? name with
    | none => none
    | some here =>
        if suitable here then some (.ok (), world) else none

def change (name : Nat) (changed : resource) :
    Program resource code error Unit :=
  fun world =>
    (world.store.find? name).map fun _ =>
      (.ok (), { world with store := world.store.replace name changed })

def destroy (name : Nat) : Program resource code error resource :=
  fun world =>
    (world.store.find? name).map fun here =>
      (.ok here, { world with store := world.store.erase name })

end Program

/-! ## Specifications -/

/-- A property of what a program ends with and what it leaves. -/
def Ends {resource error alpha : Type}
    (ok : alpha → Multiset (Nat × resource) → Prop)
    (failed : error → Multiset (Nat × resource) → Prop) :
    Except error alpha → Multiset (Nat × resource) → Prop
  | .ok value => ok value
  | .error reason => failed reason

/-- What the program leaves of the resources that it owns, when it returns
and when it fails.  Whatever else there is stays as it was. -/
def Leaves {resource code error alpha : Type}
    (owned : Multiset (Nat × resource))
    (program : Program resource code error alpha)
    (ok : alpha → Multiset (Nat × resource) → Prop)
    (failed : error → Multiset (Nat × resource) → Prop) : Prop :=
  ∀ world others, world.cells = owned + others →
    ∃ result after left, program world = some (result, after) ∧
      after.cells = left + others ∧ Ends ok failed result left

section Rules

variable {resource code error alpha beta : Type}
variable {owned extra : Multiset (Nat × resource)}
variable {program : Program resource code error alpha}
variable {next : alpha → Program resource code error beta}
variable {ok stronger : alpha → Multiset (Nat × resource) → Prop}
variable {final : beta → Multiset (Nat × resource) → Prop}
variable {failed worse : error → Multiset (Nat × resource) → Prop}

theorem leaves_pure {value : alpha} (holds : ok value owned) :
    Leaves owned (pure value : Program resource code error alpha) ok
      failed := by
  intro world others split
  exact ⟨.ok value, world, owned, rfl, split, holds⟩

theorem leaves_fail {reason : error} (holds : failed reason owned) :
    Leaves owned (Program.fail reason : Program resource code error alpha)
      ok failed := by
  intro world others split
  exact ⟨.error reason, world, owned, rfl, split, holds⟩

theorem Leaves.mono (leaves : Leaves owned program stronger worse)
    (returns : ∀ value left, stronger value left → ok value left)
    (fails : ∀ reason left, worse reason left → failed reason left) :
    Leaves owned program ok failed := by
  intro world others split
  obtain ⟨result, after, left, done, kept, ends⟩ := leaves world others split
  refine ⟨result, after, left, done, kept, ?_⟩
  cases result with
  | ok value => exact returns value left ends
  | error reason => exact fails reason left ends

theorem Leaves.bind (leaves : Leaves owned program ok failed)
    (continues : ∀ value left, ok value left →
      Leaves left (next value) final failed) :
    Leaves owned (program >>= next) final failed := by
  intro world others split
  obtain ⟨result, after, left, done, kept, ends⟩ := leaves world others split
  cases result with
  | ok value =>
      obtain ⟨result, last, rest, later, keptLater, endsLater⟩ :=
        continues value left ends after others kept
      refine ⟨result, last, rest, ?_, keptLater, endsLater⟩
      change program.andThen next world = _
      rw [Program.andThen, done]
      exact later
  | error reason =>
      refine ⟨.error reason, after, left, ?_, kept, ends⟩
      change program.andThen next world = _
      rw [Program.andThen, done]

/-- Go on with exactly what the program leaves. -/
theorem Leaves.bindEq {rest : alpha → Multiset (Nat × resource)}
    (leaves : Leaves owned program (fun value left => left = rest value)
      failed)
    (continues : ∀ value, Leaves (rest value) (next value) final failed) :
    Leaves owned (program >>= next) final failed := by
  refine leaves.bind ?_
  intro value left same
  rw [same]
  exact continues value

theorem Leaves.recover
    {handler : error → Program resource code error alpha}
    (leaves : Leaves owned program ok worse)
    (handles : ∀ reason left, worse reason left →
      Leaves left (handler reason) ok failed) :
    Leaves owned (program.recover handler) ok failed := by
  intro world others split
  obtain ⟨result, after, left, done, kept, ends⟩ := leaves world others split
  cases result with
  | ok value =>
      refine ⟨.ok value, after, left, ?_, kept, ends⟩
      rw [Program.recover, done]
  | error reason =>
      obtain ⟨result, last, rest, later, keptLater, endsLater⟩ :=
        handles reason left ends after others kept
      refine ⟨result, last, rest, ?_, keptLater, endsLater⟩
      rw [Program.recover, done]
      exact later

/-- A cleanup that does not fail. -/
theorem Leaves.cleanup {undo : Program resource code error Unit}
    (leaves : Leaves owned program ok worse)
    (undoes : ∀ reason left, worse reason left →
      Leaves left undo (fun _ => failed reason) fun _ _ => False) :
    Leaves owned (program.cleanup undo) ok failed := by
  refine leaves.recover ?_
  intro reason left bad
  refine Leaves.bind ((undoes reason left bad).mono
    (fun _ _ holds => holds) (fun _ _ never => never.elim)) ?_
  intro _ rest holds
  exact leaves_fail holds

theorem Leaves.attempt {other : Type}
    {impossible : other → Multiset (Nat × resource) → Prop}
    (leaves : Leaves owned program ok failed) :
    Leaves owned
      (program.attempt : Program resource code other (Except error alpha))
      (Ends ok failed) impossible := by
  intro world others split
  obtain ⟨result, after, left, done, kept, ends⟩ := leaves world others split
  refine ⟨.ok result, after, left, ?_, kept, ends⟩
  rw [Program.attempt, done]
  rfl

theorem Leaves.mapError {other : Type} {convert : error → other}
    {impossible : other → Multiset (Nat × resource) → Prop}
    (leaves : Leaves owned program ok failed)
    (fails : ∀ reason left, failed reason left →
      impossible (convert reason) left) :
    Leaves owned (program.mapError convert) ok impossible := by
  intro world others split
  obtain ⟨result, after, left, done, kept, ends⟩ := leaves world others split
  refine ⟨result.mapError convert, after, left, ?_, kept, ?_⟩
  · rw [Program.mapError, done]
    rfl
  · cases result with
    | ok value => exact ends
    | error reason => exact fails reason left ends

/-- What else is owned is left as it is. -/
theorem Leaves.frame (leaves : Leaves owned program ok failed)
    (extra : Multiset (Nat × resource)) :
    Leaves (owned + extra) program
      (fun value left => ∃ part, ok value part ∧ left = part + extra)
      (fun reason left =>
        ∃ part, failed reason part ∧ left = part + extra) := by
  intro world others split
  rw [Multiset.add_assoc] at split
  obtain ⟨result, after, left, done, kept, ends⟩ :=
    leaves world (extra + others) split
  refine ⟨result, after, left + extra, done, ?_, ?_⟩
  · rw [kept, Multiset.add_assoc]
  · cases result with
    | ok value => exact ⟨left, ends, rfl⟩
    | error reason => exact ⟨left, ends, rfl⟩

theorem leaves_request (refused : code → error)
    (fails : ∀ reason, failed (refused reason) owned) :
    Leaves owned (Program.request refused : Program resource code error Unit)
      (fun _ left => left = owned) failed := by
  intro world others split
  rw [Program.request]
  split
  · rename_i reason later _
    exact ⟨_, _, owned, rfl, split, fails reason⟩
  · exact ⟨_, _, owned, rfl, split, rfl⟩
  · exact ⟨_, _, owned, rfl, split, rfl⟩

theorem leaves_ask :
    Leaves owned (Program.ask : Program resource code error Bool)
      (fun _ left => left = owned) failed := by
  intro world others split
  rw [Program.ask]
  split
  · exact ⟨_, _, owned, rfl, split, rfl⟩
  · exact ⟨_, _, owned, rfl, split, rfl⟩

theorem leaves_create (added : resource) :
    Leaves owned
      (Program.create added : Program resource code error Nat)
      (fun name left => left = {(name, added)} + owned) failed := by
  intro world others split
  refine ⟨_, _, {(world.store.next, added)} + owned, rfl, ?_, rfl⟩
  rw [Multiset.add_assoc, Multiset.singleton_add, ← split]
  rfl

section Named

variable {name : Nat} {here : resource}

theorem leaves_fetch (has : owned = {(name, here)} + extra) :
    Leaves owned
      (Program.fetch name : Program resource code error resource)
      (fun found left => found = here ∧ left = owned) failed := by
  intro world others split
  have found := split
  rw [has, Multiset.add_assoc, Multiset.singleton_add] at found
  refine ⟨.ok here, world, owned, ?_, split, rfl, rfl⟩
  rw [Program.fetch, Store.find?_of_split found]
  rfl

theorem leaves_check {suitable : resource → Prop}
    [DecidablePred suitable] (member : (name, here) ∈ owned)
    (suits : suitable here) :
    Leaves owned
      (Program.check name suitable : Program resource code error Unit)
      (fun _ left => left = owned) failed := by
  intro world others split
  obtain ⟨extra, has⟩ := Multiset.exists_cons_of_mem member
  have found := split
  rw [has, Multiset.cons_add] at found
  refine ⟨.ok (), world, owned, ?_, split, rfl⟩
  rw [Program.check, Store.find?_of_split found]
  exact if_pos suits

theorem leaves_change (changed : resource)
    (has : owned = {(name, here)} + extra) :
    Leaves owned
      (Program.change name changed : Program resource code error Unit)
      (fun _ left => left = {(name, changed)} + extra) failed := by
  intro world others split
  rw [has, Multiset.add_assoc, Multiset.singleton_add] at split
  refine ⟨.ok (), { world with store := world.store.replace name changed },
    {(name, changed)} + extra, ?_, ?_, rfl⟩
  · rw [Program.change, Store.find?_of_split split]
    rfl
  · rw [Multiset.add_assoc, Multiset.singleton_add]
    exact Store.cells_replace changed split

theorem leaves_destroy (has : owned = {(name, here)} + extra) :
    Leaves owned
      (Program.destroy name : Program resource code error resource)
      (fun found left => found = here ∧ left = extra) failed := by
  intro world others split
  rw [has, Multiset.add_assoc, Multiset.singleton_add] at split
  refine ⟨.ok here, { world with store := world.store.erase name }, extra,
    ?_, ?_, rfl, rfl⟩
  · rw [Program.destroy, Store.find?_of_split split]
    rfl
  · exact Store.cells_erase split

end Named

/-! ### Releases -/

/-- The program releases all that it owns, and does not fail. -/
def Releases (owned : Multiset (Nat × resource))
    (program : Program resource code error alpha) : Prop :=
  Leaves owned program (fun _ left => left = 0) fun _ _ => False

/-- Release a part, and go on with the rest. -/
theorem Releases.andThen {part : Multiset (Nat × resource)}
    (releases : Releases part program)
    (rest : ∀ value, Leaves extra (next value) final failed) :
    Leaves (part + extra) (program >>= next) final failed := by
  refine Leaves.bind ((Leaves.frame releases extra).mono
    (fun _ _ holds => holds) ?_) ?_
  · rintro reason left ⟨_, never, _⟩
    exact never.elim
  · rintro value left ⟨nothing, gone, here⟩
    rw [gone, Multiset.zero_add] at here
    rw [here]
    exact rest value

theorem releases_pure {value : alpha} :
    Releases 0 (pure value : Program resource code error alpha) :=
  leaves_pure rfl

/-- Release a part, and then the rest. -/
theorem Releases.seq {part : Multiset (Nat × resource)}
    (releases : Releases part program)
    (rest : ∀ value, Releases extra (next value)) :
    Releases (part + extra) (program >>= next) :=
  releases.andThen rest

theorem Releases.map (releases : Releases owned program)
    (finish : alpha → beta) :
    Releases owned (program >>= fun value => pure (finish value)) := by
  refine Leaves.bind releases ?_
  intro value left gone
  exact leaves_pure gone

/-- A release as a cleanup. -/
theorem Leaves.undo {undo : Program resource code error Unit}
    (leaves : Leaves owned program ok fun _ left => left = owned)
    (releases : Releases owned undo) :
    Leaves owned (program.cleanup undo) ok fun _ left => left = 0 := by
  refine leaves.cleanup ?_
  intro reason left here
  rw [here]
  exact releases

/-- A release that follows in any case. -/
theorem Leaves.ensure {part : Multiset (Nat × resource)}
    {always : Program resource code error Unit}
    (leaves : Leaves (part + extra) program
      (fun _ left => left = part + extra) fun _ left => left = part + extra)
    (releases : Releases part always) :
    Leaves (part + extra) (program.ensure always)
      (fun _ left => left = extra) fun _ left => left = extra := by
  have released : ∀ {wanted : Multiset (Nat × resource) → Prop},
      wanted extra →
        Leaves (part + extra) always (fun _ left => wanted left)
          (fun (_ : error) _ => False) := by
    intro wanted holds
    refine (Leaves.frame releases extra).mono ?_ ?_
    · rintro _ left ⟨nothing, gone, here⟩
      rw [here, gone, Multiset.zero_add]
      exact holds
    · rintro _ left ⟨_, never, _⟩
      exact never
  rw [Program.ensure]
  refine Leaves.bind (leaves.cleanup ?_) ?_
  · intro reason left here
    rw [here]
    exact @released (fun left => left = extra) rfl
  · intro value left here
    rw [here]
    refine Leaves.bind ((@released (fun left => left = extra) rfl).mono
      (fun _ _ holds => holds) (fun _ _ never => never.elim)) ?_
    intro _ rest gone
    exact leaves_pure gone

/-! ### Loops -/

/-- What the iterations of a loop have made. -/
inductive MadeAll {item : Type}
    (made : item → alpha → Multiset (Nat × resource) → Prop) :
    List item → List alpha → Multiset (Nat × resource) → Prop where
  | nil : MadeAll made [] [] 0
  | cons {first : item} {rest : List item} {value : alpha}
      {values : List alpha} {part parts : Multiset (Nat × resource)}
      (here : made first value part) (later : MadeAll made rest values parts) :
      MadeAll made (first :: rest) (value :: values) (part + parts)

section Loops

variable {item : Type} {items : List item} {values : List alpha}
variable {made : item → alpha → Multiset (Nat × resource) → Prop}
variable {body : item → Program resource code error alpha}

/-- Each iteration has made its part. -/
theorem MadeAll.exists_of_mem {owned : Multiset (Nat × resource)}
    (all : MadeAll made items values owned) {pair : item × alpha}
    (member : pair ∈ items.zip values) :
    ∃ part, made pair.1 pair.2 part ∧ part ≤ owned := by
  induction all with
  | nil => cases member
  | @cons first rest value values part parts here later
      inductionHypothesis =>
      rcases List.mem_cons.mp member with rfl | other
      · exact ⟨part, here, Multiset.le_add_right part parts⟩
      · obtain ⟨found, made, within⟩ := inductionHypothesis other
        exact ⟨found, made,
          within.trans (Multiset.le_add_left parts part)⟩

theorem MadeAll.exists_of_value {owned : Multiset (Nat × resource)}
    (all : MadeAll made items values owned) {value : alpha}
    (member : value ∈ values) :
    ∃ item part, made item value part ∧ part ≤ owned := by
  induction all with
  | nil => cases member
  | @cons first rest here values part parts makes later
      inductionHypothesis =>
      rcases List.mem_cons.mp member with rfl | other
      · exact ⟨first, part, makes, Multiset.le_add_right part parts⟩
      · obtain ⟨item, found, made, within⟩ := inductionHypothesis other
        exact ⟨item, found, made,
          within.trans (Multiset.le_add_left parts part)⟩

/-- A loop that leaves everything as it is. -/
theorem leaves_forEach_same
    (keeps : ∀ item, item ∈ items →
      Leaves owned (body item) (fun _ left => left = owned) failed) :
    Leaves owned (Program.forEach body items) (fun _ left => left = owned)
      failed := by
  induction items with
  | nil => exact leaves_pure rfl
  | cons first rest inductionHypothesis =>
      rw [Program.forEach]
      refine Leaves.bindEq (keeps first List.mem_cons_self) ?_
      intro value
      refine Leaves.bind (inductionHypothesis fun item member =>
        keeps item (List.mem_cons_of_mem _ member)) ?_
      intro values left same
      exact leaves_pure same

/-- A loop that releases a part for each item. -/
theorem releases_forEach {part : item → Multiset (Nat × resource)}
    (each : ∀ item, item ∈ items → Releases (part item) (body item)) :
    Releases (items.map part).sum (Program.forEach body items) := by
  induction items with
  | nil => exact releases_pure
  | cons first rest inductionHypothesis =>
      rw [Program.forEach, List.map_cons, List.sum_cons]
      refine (each first List.mem_cons_self).seq ?_
      intro value
      exact (inductionHypothesis fun item member =>
        each item (List.mem_cons_of_mem _ member)).map _

/-- A loop that releases what the iterations of another one have made. -/
theorem MadeAll.releases {release : alpha → Program resource code error beta}
    {owned : Multiset (Nat × resource)}
    (all : MadeAll made items values owned)
    (each : ∀ item value part, made item value part →
      Releases part (release value)) :
    Releases owned (Program.forEach release values) := by
  induction all with
  | nil => exact releases_pure
  | cons here later inductionHypothesis =>
      rw [Program.forEach]
      refine (each _ _ _ here).seq ?_
      intro value
      exact inductionHypothesis.map _

end Loops

end Rules

end RemoteWay.Base
