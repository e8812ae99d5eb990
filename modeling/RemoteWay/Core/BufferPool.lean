import Mathlib.Data.List.Nodup
import RemoteWay.Base.BitMask
import RemoteWay.Base.Exec

/-!
# Buffer pool

The free slots of the pool are the ones of an atomic word.  Any number of
`acquire` and `release` calls are in progress at once, and each atomic step
of each of them may come in any order: a load, a compare-and-swap, which may
fail without a reason, and a fetch-or.  Whatever the order, the slots of the
handles and the free slots are together all slots, each once.
-/

namespace RemoteWay.Core

open RemoteWay.Base

structure FrameHandle where
  poolIndex : UInt16
  len : UInt32
  timestampNs : UInt64
  deriving DecidableEq, Repr

/-- What does not change about a pool.  The buffers are at offsets in its
storage. -/
structure BufferPool where
  frameSize : Nat
  capacity : Nat
  deriving DecidableEq, Repr

/-! ## Creating a pool -/

/-- `(frame_size + 63) & !63`. -/
def alignedSize (profile : Profile) (frameSize : Nat) : Exec Nat := do
  let padded ← usizeAdd profile frameSize 63
  return padded &&& (usizeRange - 1 - 63)

def isizeMax : Nat := 2 ^ 63 - 1

/-- The mask of a pool all slots of which are free. -/
def fullMask (capacity : Nat) : UInt64 :=
  if capacity = 64 then 0xFFFFFFFFFFFFFFFF
  else bit (UInt64.ofNat capacity) - 1

/-- Create a pool, with its free mask.  `allocated` tells whether there was
memory for it; a layout may not exceed `isize::MAX` when it is rounded up to
its alignment. -/
def BufferPool.new (profile : Profile) (capacity frameSize : Nat)
    (allocated : Bool) : Exec (BufferPool × UInt64) :=
  if 0 < capacity ∧ capacity ≤ 64 then do
    let aligned ← alignedSize profile frameSize
    let total ← usizeMul profile aligned capacity
    if isizeMax - 63 < total then
      .error .assertion
    else if allocated = false then
      .error .assertion
    else
      return (⟨aligned, capacity⟩, fullMask capacity)
  else
    .error .assertion

/-! ## Calls in progress -/

/-- What a call in progress does next: load the mask, exchange the mask it
loaded, or return the slot of its handle. -/
inductive PoolCall where
  | load (timestampNs : UInt64)
  | exchange (timestampNs : UInt64) (mask : UInt64)
  | fetchOr (handle : FrameHandle)
  deriving DecidableEq, Repr

/-- The handle whose slot the call has not returned yet. -/
def PoolCall.handle : PoolCall → Option FrameHandle
  | .fetchOr handle => some handle
  | _ => none

/-- The free mask, the calls in progress, the handles that were returned and
not released since, and what `acquire` returned so far, with the mask it had
loaded last. -/
structure PoolState where
  freeMask : UInt64
  calls : List PoolCall
  held : List FrameHandle
  returned : List (UInt64 × Option FrameHandle)
  deriving DecidableEq, Repr

def PoolState.start (freeMask : UInt64) : PoolState :=
  ⟨freeMask, [], [], []⟩

/-- Somebody calls `acquire`, somebody releases one of the handles, or one of
the calls in progress goes one atomic step. -/
inductive PoolAction where
  | acquire (timestampNs : UInt64)
  | release (index : Nat)
  | advance (index : Nat) (spurious : Bool)
  deriving DecidableEq, Repr

namespace PoolState

/-- The handle for a slot. -/
def handleFor (pool : BufferPool) (slot : UInt16) (timestampNs : UInt64) :
    FrameHandle :=
  ⟨slot, UInt32.ofNat pool.frameSize, timestampNs⟩

/-- One atomic step of a call that is taken out of the calls in progress. -/
def step (profile : Profile) (pool : BufferPool) (state : PoolState)
    (spurious : Bool) : PoolCall → Exec PoolState
  | .load timestampNs =>
      let mask := state.freeMask
      if mask = 0 then
        .ok { state with returned := state.returned ++ [(mask, none)] }
      else
        .ok { state with
          calls := state.calls ++ [.exchange timestampNs mask] }
  | .exchange timestampNs mask =>
      let slot := UInt16.ofNat (trailingZeros mask)
      let newMask := mask &&& ~~~ bit slot.toUInt64
      if state.freeMask = mask ∧ spurious = false then
        let handle := handleFor pool slot timestampNs
        .ok { state with
          freeMask := newMask
          held := state.held ++ [handle]
          returned := state.returned ++ [(mask, some handle)] }
      else
        .ok { state with calls := state.calls ++ [.load timestampNs] }
  | .fetchOr handle => do
      debugAssert profile (decide (handle.poolIndex.toNat < pool.capacity))
      let slotBit := bit handle.poolIndex.toUInt64
      let previous := state.freeMask
      debugAssert profile (decide (previous &&& slotBit = 0))
      return { state with freeMask := state.freeMask ||| slotBit }

/-- Perform an action; one that names no handle or call does nothing. -/
def perform (profile : Profile) (pool : BufferPool) (state : PoolState) :
    PoolAction → Exec PoolState
  | .acquire timestampNs =>
      .ok { state with calls := state.calls ++ [.load timestampNs] }
  | .release index =>
      match state.held[index]? with
      | none => .ok state
      | some handle =>
          .ok { state with
            held := state.held.eraseIdx index
            calls := state.calls ++ [.fetchOr handle] }
  | .advance index spurious =>
      match state.calls[index]? with
      | none => .ok state
      | some call =>
          step profile pool
            { state with calls := state.calls.eraseIdx index } spurious call

def freeCount (state : PoolState) : Nat := countOnes state.freeMask

/-- The handles whose slots are held. -/
def handles (state : PoolState) : List FrameHandle :=
  state.held ++ state.calls.filterMap PoolCall.handle

end PoolState

/-- The bytes of a handle in the storage, from the first on and up to before
the second. -/
def BufferPool.slotRange (pool : BufferPool) (handle : FrameHandle) :
    Nat × Nat :=
  (handle.poolIndex.toNat * pool.frameSize,
    handle.poolIndex.toNat * pool.frameSize + handle.len.toNat)

/-! ## The partition of the slots -/

/-- A call that exchanges a mask has seen a one in it. -/
def PoolCall.Sound : PoolCall → Prop
  | .exchange _ mask => mask ≠ 0
  | _ => True

/-- `acquire` returned nothing on an empty mask, or a slot of the pool. -/
def OutcomeSound (pool : BufferPool) : UInt64 × Option FrameHandle → Prop
  | (mask, none) => mask = 0
  | (_, some handle) => handle.poolIndex.toNat < pool.capacity

/-- The slots of the handles and the free slots are all slots. -/
structure Partition (pool : BufferPool) (state : PoolState) : Prop where
  slots : (state.handles.map (·.poolIndex.toNat) ++
    ones state.freeMask).Perm (List.range pool.capacity)
  lengths : ∀ handle ∈ state.handles,
    handle.len = UInt32.ofNat pool.frameSize
  calls : ∀ call ∈ state.calls, call.Sound
  outcomes : ∀ outcome ∈ state.returned, OutcomeSound pool outcome

section Steps

open List (Perm)
open scoped List

variable {pool : BufferPool} {before after state : PoolState}

/-- A step that leaves the handles and the mask as they are. -/
theorem Partition.rearrange (holds : Partition pool before)
    (handles : after.handles.Perm before.handles)
    (mask : after.freeMask = before.freeMask)
    (calls : ∀ call ∈ after.calls, call ∈ before.calls ∨ call.Sound)
    (returned : ∀ outcome ∈ after.returned,
      outcome ∈ before.returned ∨ OutcomeSound pool outcome) :
    Partition pool after where
  slots := by
    rw [mask]
    exact ((handles.map _).append_right _).trans holds.slots
  lengths handle member := holds.lengths handle (handles.subset member)
  calls call member :=
    (calls call member).elim (holds.calls call) id
  outcomes outcome member :=
    (returned outcome member).elim (holds.outcomes outcome) id

/-- A free slot goes to a handle. -/
theorem Partition.take (holds : Partition pool before)
    {handle : FrameHandle}
    (handles : after.handles.Perm (handle :: before.handles))
    (cleared : (ones before.freeMask).Perm
      (handle.poolIndex.toNat :: ones after.freeMask))
    (length : handle.len = UInt32.ofNat pool.frameSize)
    (calls : ∀ call ∈ after.calls, call ∈ before.calls)
    (returned : ∀ outcome ∈ after.returned,
      outcome ∈ before.returned ∨ OutcomeSound pool outcome) :
    Partition pool after where
  slots :=
    calc after.handles.map (·.poolIndex.toNat) ++ ones after.freeMask
      _ ~ handle.poolIndex.toNat ::
          (before.handles.map (·.poolIndex.toNat) ++ ones after.freeMask) :=
        (handles.map _).append_right _
      _ ~ before.handles.map (·.poolIndex.toNat) ++
          handle.poolIndex.toNat :: ones after.freeMask :=
        List.perm_middle.symm
      _ ~ before.handles.map (·.poolIndex.toNat) ++ ones before.freeMask :=
        cleared.symm.append_left _
      _ ~ List.range pool.capacity := holds.slots
  lengths other member := by
    rcases List.mem_cons.mp (handles.subset member) with rfl | earlier
    · exact length
    · exact holds.lengths other earlier
  calls call member := holds.calls call (calls call member)
  outcomes outcome member :=
    (returned outcome member).elim (holds.outcomes outcome) id

/-- The slot of a handle becomes free. -/
theorem Partition.give (holds : Partition pool before)
    {handle : FrameHandle}
    (handles : before.handles.Perm (handle :: after.handles))
    (set : (ones after.freeMask).Perm
      (handle.poolIndex.toNat :: ones before.freeMask))
    (calls : ∀ call ∈ after.calls, call ∈ before.calls)
    (returned : after.returned = before.returned) :
    Partition pool after where
  slots :=
    calc after.handles.map (·.poolIndex.toNat) ++ ones after.freeMask
      _ ~ after.handles.map (·.poolIndex.toNat) ++
          handle.poolIndex.toNat :: ones before.freeMask :=
        set.append_left _
      _ ~ handle.poolIndex.toNat ::
          (after.handles.map (·.poolIndex.toNat) ++ ones before.freeMask) :=
        List.perm_middle
      _ ~ before.handles.map (·.poolIndex.toNat) ++ ones before.freeMask :=
        (handles.symm.map (·.poolIndex.toNat)).append_right _
      _ ~ List.range pool.capacity := holds.slots
  lengths other member :=
    holds.lengths other (handles.symm.subset (List.mem_cons_of_mem _ member))
  calls call member := holds.calls call (calls call member)
  outcomes := by
    rw [returned]
    exact holds.outcomes

/-- A call of which no slot is held goes on to another step. -/
theorem Partition.goOn {call next : PoolCall}
    (holds : Partition pool { state with calls := call :: state.calls })
    (current : call.handle = none) (later : next.handle = none)
    (sound : next.Sound) :
    Partition pool { state with calls := state.calls ++ [next] } := by
  refine holds.rearrange ?_ rfl ?_ fun outcome => Or.inl
  · simp [PoolState.handles, current, later]
  · intro other member
    rcases List.mem_append.mp member with earlier | added
    · exact Or.inl (List.mem_cons_of_mem call earlier)
    · rw [List.mem_singleton.mp added]
      exact Or.inr sound

/-- A slot that is held is a slot of the pool. -/
theorem Partition.slot_lt (holds : Partition pool state)
    {handle : FrameHandle} (member : handle ∈ state.handles) :
    handle.poolIndex.toNat < pool.capacity := by
  rw [← List.mem_range]
  apply holds.slots.subset
  exact List.mem_append_left _ (List.mem_map_of_mem member)

/-- A slot that is held is not free. -/
theorem Partition.slot_notMem (holds : Partition pool state)
    {handle : FrameHandle} (member : handle ∈ state.handles) :
    handle.poolIndex.toNat ∉ ones state.freeMask := by
  have distinct := holds.slots.nodup_iff.mpr List.nodup_range
  intro free
  exact (List.nodup_append.mp distinct).2.2 _
    (List.mem_map_of_mem member) _ free rfl

/-- A slot that is free is a slot of the pool. -/
theorem Partition.free_lt (holds : Partition pool state) {slot : Nat}
    (free : slot ∈ ones state.freeMask) : slot < pool.capacity := by
  rw [← List.mem_range]
  exact holds.slots.subset (List.mem_append_right _ free)

theorem load_keeps (profile : Profile) (spurious : Bool)
    {timestampNs : UInt64}
    (holds : Partition pool
      { state with calls := .load timestampNs :: state.calls }) :
    ∃ after, PoolState.step profile pool state spurious
      (.load timestampNs) = .ok after ∧ Partition pool after := by
  by_cases empty : state.freeMask = 0
  · refine ⟨_, if_pos empty, holds.rearrange (.refl _) rfl ?_ ?_⟩
    · exact fun call member => Or.inl (List.mem_cons_of_mem _ member)
    · intro outcome member
      rcases List.mem_append.mp member with earlier | added
      · exact Or.inl earlier
      · rw [List.mem_singleton.mp added]
        exact Or.inr empty
  · exact ⟨_, if_neg empty, holds.goOn rfl rfl empty⟩

theorem exchange_keeps (profile : Profile) (spurious : Bool)
    {timestampNs mask : UInt64}
    (holds : Partition pool
      { state with calls := .exchange timestampNs mask :: state.calls }) :
    ∃ after, PoolState.step profile pool state spurious
      (.exchange timestampNs mask) = .ok after ∧ Partition pool after := by
  by_cases exchanged : state.freeMask = mask ∧ spurious = false
  · refine ⟨_, if_pos exchanged, ?_⟩
    obtain ⟨rfl, _⟩ := exchanged
    have nonzero : state.freeMask ≠ 0 := holds.calls _ List.mem_cons_self
    have free := trailingZeros_mem nonzero
    have small := (mem_ones_iff.mp free).1
    have index : (UInt16.ofNat (trailingZeros state.freeMask)).toNat =
        trailingZeros state.freeMask :=
      UInt16.toNat_ofNat_of_lt' (Nat.lt_trans small (by decide))
    rw [← index] at free small
    generalize UInt16.ofNat (trailingZeros state.freeMask) = slot at *
    have cleared := @ones_clear _ slot.toUInt64 small free
    rw [UInt16.toNat_toUInt64] at cleared
    refine @Partition.take pool _ _ holds
      (PoolState.handleFor pool slot timestampNs) ?_ cleared rfl
        (fun call => List.mem_cons_of_mem _) ?_
    · rw [PoolState.handles, List.append_assoc]
      exact List.perm_middle
    · intro outcome member
      rcases List.mem_append.mp member with earlier | added
      · exact Or.inl earlier
      · rw [List.mem_singleton.mp added]
        exact Or.inr (holds.free_lt free)
  · exact ⟨_, if_neg exchanged, holds.goOn rfl rfl trivial⟩

theorem fetchOr_keeps (profile : Profile) (spurious : Bool)
    {handle : FrameHandle} (fits : pool.capacity ≤ 64)
    (holds : Partition pool
      { state with calls := .fetchOr handle :: state.calls }) :
    ∃ after, PoolState.step profile pool state spurious
      (.fetchOr handle) = .ok after ∧ Partition pool after := by
  have rearranged : PoolState.handles
      { state with calls := .fetchOr handle :: state.calls } ~
        handle :: state.handles := by
    simp [PoolState.handles, PoolCall.handle, List.perm_middle]
  have held := rearranged.symm.subset List.mem_cons_self
  have inside := holds.slot_lt held
  have notFree := holds.slot_notMem held
  have position : handle.poolIndex.toUInt64.toNat =
      handle.poolIndex.toNat := UInt16.toNat_toUInt64 _
  have small : handle.poolIndex.toUInt64.toNat < 64 := by omega
  rw [← position] at notFree
  refine ⟨{ state with
    freeMask := state.freeMask ||| bit handle.poolIndex.toUInt64 }, ?_, ?_⟩
  · simp only [PoolState.step, inside, decide_true,
      and_bit_eq_zero small notFree]
    cases profile <;> rfl
  · have set := ones_set small notFree
    rw [position] at set
    exact holds.give rearranged set (fun call => List.mem_cons_of_mem _) rfl

/-- No step of a call in progress panics. -/
theorem step_keeps (profile : Profile) (spurious : Bool) {call : PoolCall}
    (fits : pool.capacity ≤ 64)
    (holds : Partition pool { state with calls := call :: state.calls }) :
    ∃ after, PoolState.step profile pool state spurious call = .ok after ∧
      Partition pool after := by
  cases call with
  | load timestampNs => exact load_keeps profile spurious holds
  | exchange timestampNs mask => exact exchange_keeps profile spurious holds
  | fetchOr handle => exact fetchOr_keeps profile spurious fits holds

theorem perform_keeps (profile : Profile) (action : PoolAction)
    (fits : pool.capacity ≤ 64) (holds : Partition pool state) :
    ∃ after, PoolState.perform profile pool state action = .ok after ∧
      Partition pool after := by
  cases action with
  | acquire timestampNs =>
      refine ⟨_, rfl, holds.rearrange ?_ rfl ?_ fun outcome => Or.inl⟩
      · simp [PoolState.handles, List.filterMap_cons, PoolCall.handle]
      · intro call member
        rcases List.mem_append.mp member with earlier | added
        · exact Or.inl earlier
        · rw [List.mem_singleton.mp added]
          exact Or.inr trivial
  | release index =>
      by_cases named : index < state.held.length
      · refine ⟨{ state with
            held := state.held.eraseIdx index
            calls := state.calls ++ [.fetchOr state.held[index]] }, ?_,
          holds.rearrange ?_ rfl ?_ fun outcome => Or.inl⟩
        · rw [PoolState.perform, List.getElem?_eq_getElem named]
        · simp only [PoolState.handles, List.filterMap_append]
          calc state.held.eraseIdx index ++
                (state.calls.filterMap PoolCall.handle ++
                  [state.held[index]])
            _ ~ state.held.eraseIdx index ++ (state.held[index] ::
                state.calls.filterMap PoolCall.handle) :=
              (List.perm_append_singleton _ _).append_left _
            _ ~ state.held[index] :: state.held.eraseIdx index ++
                state.calls.filterMap PoolCall.handle := List.perm_middle
            _ ~ state.held ++ state.calls.filterMap PoolCall.handle :=
              (List.getElem_cons_eraseIdx_perm named).append_right _
        · intro call member
          rcases List.mem_append.mp member with earlier | added
          · exact Or.inl earlier
          · rw [List.mem_singleton.mp added]
            exact Or.inr trivial
      · refine ⟨state, ?_, holds⟩
        rw [PoolState.perform, List.getElem?_eq_none (by omega)]
  | advance index spurious =>
      by_cases named : index < state.calls.length
      · have taken := List.getElem_cons_eraseIdx_perm named
        rw [PoolState.perform, List.getElem?_eq_getElem named]
        apply step_keeps profile spurious fits
        refine holds.rearrange ((taken.filterMap _).append_left _) rfl ?_
          fun outcome => Or.inl
        exact fun call member => Or.inl (taken.subset member)
      · refine ⟨state, ?_, holds⟩
        rw [PoolState.perform, List.getElem?_eq_none (by omega)]

/-- No sequence of steps panics, and each leaves the slots partitioned. -/
theorem foldlM_keeps (profile : Profile) (fits : pool.capacity ≤ 64)
    (actions : List PoolAction) (holds : Partition pool state) :
    ∃ last, actions.foldlM (PoolState.perform profile pool) state =
      .ok last ∧ Partition pool last := by
  induction actions generalizing state with
  | nil => exact ⟨state, rfl, holds⟩
  | cons action actions inductionHypothesis =>
      obtain ⟨next, performed, kept⟩ :=
        perform_keeps profile action fits holds
      rw [List.foldlM_cons, performed]
      exact inductionHypothesis kept

end Steps

/-! ## Exclusivity -/

/-- What holds of the handles that are held and of what `acquire` returned,
whatever the order of the steps. -/
structure Exclusive (pool : BufferPool) (state : PoolState) : Prop where
  distinct : (state.handles.map (·.poolIndex)).Nodup
  counted : state.handles.length + state.freeCount = pool.capacity
  exhausted : ∀ mask, (mask, none) ∈ state.returned → mask = 0
  inRange : ∀ mask handle, (mask, some handle) ∈ state.returned →
    handle.poolIndex.toNat < pool.capacity
  disjoint : state.handles.Pairwise fun first second =>
    (pool.slotRange first).2 ≤ (pool.slotRange second).1 ∨
      (pool.slotRange second).2 ≤ (pool.slotRange first).1
  nonempty : ∀ handle ∈ state.handles,
    (pool.slotRange handle).1 < (pool.slotRange handle).2
  inside : ∀ handle ∈ state.handles,
    (pool.slotRange handle).2 ≤ pool.frameSize * pool.capacity

namespace Partition

variable {pool : BufferPool} {state : PoolState}

theorem distinct (holds : Partition pool state) :
    (state.handles.map (·.poolIndex)).Nodup := by
  have all := holds.slots.nodup_iff.mpr List.nodup_range
  have indices := (List.nodup_append.mp all).1
  apply List.Nodup.of_map (·.toNat)
  rw [List.map_map]
  exact indices

theorem counted (holds : Partition pool state) :
    state.handles.length + state.freeCount = pool.capacity := by
  have all := holds.slots.length_eq
  rw [List.length_append, List.length_map, List.length_range] at all
  rw [PoolState.freeCount, countOnes_eq]
  exact all

/-- The range of a handle ends where the next slot starts. -/
theorem slotRange_eq (holds : Partition pool state)
    (fits : pool.frameSize < UInt32.size) {handle : FrameHandle}
    (member : handle ∈ state.handles) :
    pool.slotRange handle =
      (handle.poolIndex.toNat * pool.frameSize,
        (handle.poolIndex.toNat + 1) * pool.frameSize) := by
  rw [BufferPool.slotRange, holds.lengths handle member,
    UInt32.toNat_ofNat_of_lt' fits, Nat.succ_mul]

theorem disjoint (holds : Partition pool state)
    (fits : pool.frameSize < UInt32.size) :
    state.handles.Pairwise fun first second =>
      (pool.slotRange first).2 ≤ (pool.slotRange second).1 ∨
        (pool.slotRange second).2 ≤ (pool.slotRange first).1 := by
  apply (List.pairwise_map.mp holds.distinct).imp_of_mem
  intro first second earlier later different
  rw [holds.slotRange_eq fits earlier, holds.slotRange_eq fits later]
  have apart : first.poolIndex.toNat ≠ second.poolIndex.toNat :=
    fun same => different (UInt16.toNat_inj.mp same)
  rcases Nat.lt_or_gt_of_ne apart with before | after
  · exact Or.inl (Nat.mul_le_mul_right _ before)
  · exact Or.inr (Nat.mul_le_mul_right _ after)

theorem inside (holds : Partition pool state)
    (fits : pool.frameSize < UInt32.size) {handle : FrameHandle}
    (member : handle ∈ state.handles) :
    (pool.slotRange handle).2 ≤ pool.frameSize * pool.capacity := by
  rw [holds.slotRange_eq fits member, Nat.mul_comm pool.frameSize]
  exact Nat.mul_le_mul_right _ (holds.slot_lt member)

theorem exclusive (holds : Partition pool state)
    (nonempty : 0 < pool.frameSize) (fits : pool.frameSize < UInt32.size) :
    Exclusive pool state where
  distinct := holds.distinct
  counted := holds.counted
  exhausted _ member := holds.outcomes _ member
  inRange _ _ member := holds.outcomes _ member
  disjoint := holds.disjoint fits
  nonempty handle member := by
    rw [holds.slotRange_eq fits member]
    exact Nat.mul_lt_mul_of_pos_right (Nat.lt_succ_self _) nonempty
  inside _ := holds.inside fits

end Partition

theorem alignedSize_eq (profile : Profile) {frameSize : Nat}
    (fits : frameSize + 63 < usizeRange) :
    alignedSize profile frameSize = .ok ((frameSize + 63) / 64 * 64) := by
  have rounded : (frameSize + 63) &&& (usizeRange - 1 - 63) =
      (frameSize + 63) / 64 * 64 := @and_multiples _ 6 58 fits
  rw [← rounded, alignedSize, usizeAdd_of_lt profile fits]
  rfl

theorem ones_fullMask {capacity : Nat} (upper : capacity ≤ 64) :
    (ones (fullMask capacity)).Perm (List.range capacity) := by
  by_cases full : capacity = 64
  · rw [fullMask, if_pos full, full, ones_all]
  · rw [fullMask, if_neg full]
    exact ones_lowest (by omega)

theorem new_eq (profile : Profile) {capacity frameSize : Nat}
    (lower : 1 ≤ capacity) (upper : capacity ≤ 64)
    (fits : (frameSize + 63) / 64 * 64 < UInt32.size) :
    BufferPool.new profile capacity frameSize true =
      .ok (⟨(frameSize + 63) / 64 * 64, capacity⟩, fullMask capacity) := by
  have size : UInt32.size = 4294967296 := rfl
  have range : usizeRange = 18446744073709551616 := rfl
  have limit : isizeMax - 63 = 9223372036854775744 := rfl
  have padded : frameSize + 63 < usizeRange := by omega
  have total : (frameSize + 63) / 64 * 64 * capacity ≤
      4294967296 * 64 := Nat.mul_le_mul (by omega) upper
  have small : (frameSize + 63) / 64 * 64 * capacity < usizeRange := by
    omega
  have allowed : ¬isizeMax - 63 < (frameSize + 63) / 64 * 64 * capacity := by
    omega
  rw [BufferPool.new, if_pos ⟨lower, upper⟩, alignedSize_eq profile padded]
  change (usizeMul profile _ capacity >>= _) = _
  rw [usizeMul_of_lt profile small]
  change (if _ then _ else _) = _
  rw [if_neg allowed]
  rfl

/-- At any time, whatever was called and in whichever order the atomic steps
came, no call has panicked and the slots are held exclusively. -/
theorem acquire_release_exclusive (profile : Profile)
    {capacity frameSize : Nat} (actions : List PoolAction)
    (lower : 1 ≤ capacity) (upper : capacity ≤ 64)
    (nonempty : 1 ≤ frameSize)
    (fits : (frameSize + 63) / 64 * 64 < UInt32.size) :
    ∃ pool freeMask last,
      BufferPool.new profile capacity frameSize true =
        .ok (pool, freeMask) ∧
      pool = ⟨(frameSize + 63) / 64 * 64, capacity⟩ ∧
      actions.foldlM (PoolState.perform profile pool)
        (PoolState.start freeMask) = .ok last ∧
      Exclusive pool last := by
  have initially : Partition ⟨(frameSize + 63) / 64 * 64, capacity⟩
      (PoolState.start (fullMask capacity)) := {
    slots := ones_fullMask upper
    lengths := by simp [PoolState.start, PoolState.handles]
    calls := by simp [PoolState.start]
    outcomes := by simp [PoolState.start] }
  obtain ⟨last, run, holds⟩ := foldlM_keeps profile upper actions initially
  exact ⟨_, _, last, new_eq profile lower upper fits, rfl, run,
    holds.exclusive (by simp; omega) fits⟩

/-- A slot is released and acquired again between the load and the exchange
of another call; the exchange succeeds, and the call holds another slot. -/
theorem acquire_release_exclusive_two : ∃ pool freeMask last,
    BufferPool.new .dev 2 100 true = .ok (pool, freeMask) ∧
    pool = ⟨(100 + 63) / 64 * 64, 2⟩ ∧
    [PoolAction.acquire 1, .advance 0 false, .advance 0 false, .acquire 2,
      .advance 0 false, .release 0, .advance 1 false, .acquire 3,
      .advance 1 false, .advance 1 false, .advance 0 false].foldlM
        (PoolState.perform .dev pool) (PoolState.start freeMask) =
      .ok last ∧
    Exclusive pool last :=
  acquire_release_exclusive .dev _ (by decide) (by decide) (by decide)
    (by decide)

end RemoteWay.Core
