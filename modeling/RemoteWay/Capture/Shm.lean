import RemoteWay.Base.Exec
import RemoteWay.Capture.Backend

/-!
# Shared-memory buffers of the capture backends

`ShmBufferPool` owns two buffers; the compositor writes to the active one
and the backend copies it.  Whether the operating system provides the memory
of a buffer is a parameter, as is what the compositor writes.
-/

namespace RemoteWay.Capture

open RemoteWay.Base

/-- Errors that can occur during screen capture. -/
inductive CaptureError where
  | waylandDispatch (reason : String)
  | noBackend
  | noOutputs
  | shmPool (reason : String)
  | sessionEnded
  | unsupportedFormat (code : UInt32)
  | captureFailed (reason : String)
  deriving DecidableEq, Repr

/-- An enumeration value of the protocol, with its code. -/
inductive WEnum where
  | value (code : UInt32)
  | unknown (code : UInt32)
  deriving DecidableEq, Repr

/-- Convert from a `wl_shm` format code. -/
def PixelFormat.fromWlShm (code : UInt32) : Option PixelFormat :=
  if code = 0 then some .argb8888
  else if code = 1 then some .xrgb8888
  else if code = 0x34324241 then some .abgr8888
  else if code = 0x34324258 then some .xbgr8888
  else none

/-- A `wl_buffer` with the arguments of `create_buffer`, and the number of
bytes mapped for it. -/
structure ShmSlot where
  width : Int32
  height : Int32
  stride : Int32
  format : UInt32
  mapSize : Nat
  deriving DecidableEq, Repr

/-- Double-buffered SHM pool. -/
structure ShmBufferPool where
  slots : Fin 2 → ShmSlot
  active : Fin 2
  width : UInt32
  height : UInt32
  stride : UInt32
  format : UInt32

/-- `left.checked_mul(right)` with the error for an overflow. -/
def checkedMul (left right : Nat) (overflow : String) :
    Except CaptureError Nat :=
  if left * right < usizeRange then
    .ok (left * right)
  else
    .error (.shmPool overflow)

/-- Map memory for a buffer.  `provided` is the answer of the operating
system. -/
def ShmSlot.new (provided : Except String Unit)
    (width height stride format : UInt32) (size : Nat) :
    Except CaptureError ShmSlot :=
  match provided with
  | .error reason => .error (.shmPool reason)
  | .ok () =>
      .ok ⟨width.toInt32, height.toInt32, stride.toInt32, format, size⟩

namespace ShmBufferPool

/-- Create a new double-buffered SHM pool. -/
def new (provided : Fin 2 → Except String Unit)
    (width height stride format : UInt32) :
    Except CaptureError ShmBufferPool := do
  let minStride ← checkedMul width.toNat 4
    "stride overflow: width * 4 exceeds usize"
  if stride.toNat < minStride then
    .error (.shmPool s!"stride ({stride}) < width * 4 ({minStride})")
  else
    let bufSize ← checkedMul stride.toNat height.toNat
      "buffer size overflow: stride * height exceeds usize"
    if bufSize = 0 then
      .error (.shmPool "zero-size buffer")
    else
      let slot0 ← ShmSlot.new (provided ⟨0, Nat.two_pos⟩) width height stride
        format bufSize
      let slot1 ← ShmSlot.new (provided ⟨1, Nat.one_lt_two⟩) width height
        stride format bufSize
      .ok
        { slots := fun index => if index.val = 0 then slot0 else slot1
          active := ⟨0, Nat.two_pos⟩
          width := width
          height := height
          stride := stride
          format := format }

/-- Buffer size in bytes. -/
def bufferSize (pool : ShmBufferPool) : Nat :=
  pool.stride.toNat * pool.height.toNat

/-- The buffer that the compositor should write to. -/
def activeBuffer (pool : ShmBufferPool) : ShmSlot := pool.slots pool.active

/-- The pixel data of the active buffer, in memory that the compositor has
written to. -/
def activeData (pool : ShmBufferPool) (memory : Nat → UInt8) : List UInt8 :=
  (List.range pool.bufferSize).map memory

/-- Swap to the other buffer. -/
def swap (pool : ShmBufferPool) : ShmBufferPool :=
  { pool with active := ⟨1, Nat.one_lt_two⟩ - pool.active }

/-! ## What a pool is -/

/-- Both buffers were created with the attributes of the pool, and hold its
rows. -/
structure Sound (pool : ShmBufferPool) : Prop where
  slots : ∀ index, pool.slots index =
    ⟨pool.width.toInt32, pool.height.toInt32, pool.stride.toInt32,
      pool.format, pool.bufferSize⟩
  rows : pool.width.toNat * 4 ≤ pool.stride.toNat

private theorem checkedMul_eq_ok {left right product : Nat}
    {overflow : String}
    (multiplied : checkedMul left right overflow = .ok product) :
    left * right = product := by
  rw [checkedMul] at multiplied
  by_cases fits : left * right < usizeRange
  · rw [if_pos fits] at multiplied
    injection multiplied
  · rw [if_neg fits] at multiplied
    cases multiplied

private theorem ShmSlot.new_eq_ok {provided : Except String Unit}
    {width height stride format : UInt32} {size : Nat} {slot : ShmSlot}
    (created : ShmSlot.new provided width height stride format size =
      .ok slot) :
    slot = ⟨width.toInt32, height.toInt32, stride.toInt32, format, size⟩ := by
  cases provided with
  | error reason => cases created
  | ok granted =>
      injection created with same
      exact same.symm

/-- A pool that was created has the attributes that were asked for. -/
theorem new_eq_ok {provided : Fin 2 → Except String Unit}
    {width height stride format : UInt32} {pool : ShmBufferPool}
    (created : new provided width height stride format = .ok pool) :
    pool.Sound ∧ pool.width = width ∧ pool.height = height ∧
      pool.stride = stride ∧ pool.format = format := by
  rw [new, bind_eq_ok_iff] at created
  obtain ⟨minStride, multiplied, created⟩ := created
  have minimum := checkedMul_eq_ok multiplied
  subst minimum
  by_cases short : stride.toNat < width.toNat * 4
  · rw [if_pos short] at created
    cases created
  · rw [if_neg short, bind_eq_ok_iff] at created
    obtain ⟨bufSize, sized, created⟩ := created
    have size := checkedMul_eq_ok sized
    subst size
    by_cases empty : stride.toNat * height.toNat = 0
    · rw [if_pos empty] at created
      cases created
    · rw [if_neg empty, bind_eq_ok_iff] at created
      obtain ⟨slot0, first, created⟩ := created
      rw [bind_eq_ok_iff] at created
      obtain ⟨slot1, second, created⟩ := created
      injection created with same
      have firstEq := ShmSlot.new_eq_ok first
      have secondEq := ShmSlot.new_eq_ok second
      subst firstEq secondEq same
      refine ⟨⟨?_, Nat.le_of_not_lt short⟩, rfl, rfl, rfl, rfl⟩
      intro index
      dsimp only
      rw [ite_self]
      rfl

theorem Sound.swap {pool : ShmBufferPool} (sound : pool.Sound) :
    pool.swap.Sound :=
  ⟨sound.slots, sound.rows⟩

@[simp]
theorem length_activeData (pool : ShmBufferPool) (memory : Nat → UInt8) :
    (pool.activeData memory).length = pool.bufferSize := by
  simp [activeData]

end ShmBufferPool

end RemoteWay.Capture
