import Mathlib.Logic.Function.Basic
import RemoteWay.Base.Exec

/-!
# Shared-memory buffers of a window

`ShmFrameUploader` owns two buffers.  One is attached to the surface while
the next frame is written to the other.  The memory that the operating
system provides is a parameter: its answer to a request of the given size.
-/

namespace RemoteWay.Display

open RemoteWay.Base

inductive DisplayError where
  | shmBuffer (reason : String)
  | surfaceNotFound (surfaceId : UInt16)
  | waylandDispatch
  deriving DecidableEq, Repr

/-- A `wl_buffer`: the uploader that created it, and its index there. -/
structure WlBuffer where
  uploader : Nat
  index : Fin 2
  deriving DecidableEq, Repr

/-- Double-buffered frame uploader.  `id` tells uploaders apart. -/
structure ShmFrameUploader where
  id : Nat
  contents : Fin 2 → List UInt8
  active : Fin 2
  released : Fin 2 → Bool
  width : UInt32
  height : UInt32
  stride : UInt32

/-- `left.checked_mul(right)` with the error for an overflow. -/
def checkedMul (left right : Nat) (overflow : String) :
    Except DisplayError Nat :=
  if left * right < usizeRange then
    .ok (left * right)
  else
    .error (.shmBuffer overflow)

namespace ShmFrameUploader

/-- Single buffer size in bytes. -/
def bufferSize (uploader : ShmFrameUploader) : Nat :=
  uploader.stride.toNat * uploader.height.toNat

/-- An uploader with two zeroed buffers. -/
def zeroed (id : Nat) (width height stride : UInt32) :
    ShmFrameUploader where
  id := id
  contents := fun _ => List.replicate (stride.toNat * height.toNat) 0
  active := 0
  released := fun _ => true
  width := width
  height := height
  stride := stride

/-- Create a new double-buffered uploader. -/
def new (memory : Nat → Except String Unit) (id : Nat)
    (width height stride : UInt32) :
    Except DisplayError ShmFrameUploader := do
  let minStride ← checkedMul width.toNat 4
    "stride overflow: width * 4 exceeds usize"
  if stride.toNat < minStride then
    .error (.shmBuffer s!"stride ({stride}) < width * 4 ({minStride})")
  else
    let bufSize ← checkedMul stride.toNat height.toNat
      "buffer size overflow: stride * height exceeds usize"
    let totalSize ← checkedMul bufSize 2
      "total size overflow: buf_size * 2 exceeds usize"
    if totalSize = 0 then
      .error (.shmBuffer "zero-size buffer")
    else
      match memory totalSize with
      | .error reason => .error (.shmBuffer reason)
      | .ok () => .ok (zeroed id width height stride)

/-- Copy as much of the data as fits into the back buffer. -/
def upload (uploader : ShmFrameUploader) (data : List UInt8) :
    ShmFrameUploader :=
  let copyLen := min data.length uploader.bufferSize
  { uploader with
    contents := Function.update uploader.contents uploader.active
      (data.take copyLen ++
        (uploader.contents uploader.active).drop copyLen) }

/-- The back buffer, for attaching to a surface. -/
def activeBuffer (uploader : ShmFrameUploader) : WlBuffer :=
  ⟨uploader.id, uploader.active⟩

/-- The back buffer becomes the front buffer, and vice versa. -/
def swap (uploader : ShmFrameUploader) : ShmFrameUploader :=
  { uploader with
    released := Function.update uploader.released uploader.active false
    active := 1 - uploader.active }

/-- Mark a buffer as released by the compositor. -/
def markReleased (uploader : ShmFrameUploader) (bufferIdx : Nat) :
    ShmFrameUploader :=
  if inside : bufferIdx < 2 then
    { uploader with
      released :=
        Function.update uploader.released ⟨bufferIdx, inside⟩ true }
  else
    uploader

/-- Whether the back buffer has been released. -/
def canUpload (uploader : ShmFrameUploader) : Bool :=
  uploader.released uploader.active

/-! ## What an operation can do -/

private theorem checkedMul_eq_ok_iff {left right product : Nat}
    {overflow : String} :
    checkedMul left right overflow = .ok product ↔
      left * right < usizeRange ∧ left * right = product := by
  rw [checkedMul]
  by_cases fits : left * right < usizeRange
  · simp [fits]
  · simp [fits]

/-- The constructor succeeds when the stride and the size pass its checks and
the memory is provided. -/
theorem new_eq_ok_iff {memory : Nat → Except String Unit} {id : Nat}
    {width height stride : UInt32} {uploader : ShmFrameUploader} :
    new memory id width height stride = .ok uploader ↔
      width.toNat * 4 ≤ stride.toNat ∧
        stride.toNat * height.toNat * 2 < usizeRange ∧
        stride.toNat * height.toNat ≠ 0 ∧
        memory (stride.toNat * height.toNat * 2) = .ok () ∧
        uploader = zeroed id width height stride := by
  rw [new, bind_eq_ok_iff]
  constructor
  · rintro ⟨minStride, multiplied, created⟩
    obtain ⟨_, rfl⟩ := checkedMul_eq_ok_iff.mp multiplied
    by_cases short : stride.toNat < width.toNat * 4
    · rw [if_pos short] at created
      cases created
    · rw [if_neg short, bind_eq_ok_iff] at created
      obtain ⟨bufSize, product, created⟩ := created
      obtain ⟨_, rfl⟩ := checkedMul_eq_ok_iff.mp product
      rw [bind_eq_ok_iff] at created
      obtain ⟨totalSize, total, created⟩ := created
      obtain ⟨addressable, rfl⟩ := checkedMul_eq_ok_iff.mp total
      by_cases empty : stride.toNat * height.toNat * 2 = 0
      · rw [if_pos empty] at created
        cases created
      · rw [if_neg empty] at created
        cases answer : memory (stride.toNat * height.toNat * 2) with
        | error reason =>
            rw [answer] at created
            cases created
        | ok granted =>
            rw [answer] at created
            injection created with same
            exact ⟨Nat.le_of_not_lt short, addressable, by omega, rfl,
              same.symm⟩
  · rintro ⟨rows, addressable, nonempty, granted, rfl⟩
    have small := width.toNat_lt
    have product : stride.toNat * height.toNat < usizeRange := by omega
    refine ⟨_, checkedMul_eq_ok_iff.mpr ⟨?_, rfl⟩, ?_⟩
    · rw [usizeRange]
      omega
    · rw [if_neg (Nat.not_lt.mpr rows), bind_eq_ok_iff]
      refine ⟨_, checkedMul_eq_ok_iff.mpr ⟨product, rfl⟩, ?_⟩
      rw [bind_eq_ok_iff]
      refine ⟨_, checkedMul_eq_ok_iff.mpr ⟨addressable, rfl⟩, ?_⟩
      rw [if_neg (by omega), granted]

theorem new_eq_ok {memory : Nat → Except String Unit} {id : Nat}
    {width height stride : UInt32} {uploader : ShmFrameUploader}
    (created : new memory id width height stride = .ok uploader) :
    width.toNat * 4 ≤ stride.toNat ∧
      uploader = zeroed id width height stride := by
  obtain ⟨rows, _, _, _, same⟩ := new_eq_ok_iff.mp created
  exact ⟨rows, same⟩

/-- Both buffers have the size that the dimensions give. -/
def Sized (uploader : ShmFrameUploader) : Prop :=
  ∀ index, (uploader.contents index).length = uploader.bufferSize

theorem sized_zeroed (id : Nat) (width height stride : UInt32) :
    (zeroed id width height stride).Sized :=
  fun _ => List.length_replicate

theorem Sized.upload {uploader : ShmFrameUploader}
    (sized : uploader.Sized) (data : List UInt8) :
    (uploader.upload data).Sized := by
  intro index
  have here := sized uploader.active
  by_cases same : index = uploader.active
  · rw [same, ShmFrameUploader.upload]
    dsimp only
    rw [Function.update_self, List.length_append, List.length_take,
      List.length_drop, here]
    change _ = uploader.bufferSize
    omega
  · rw [ShmFrameUploader.upload]
    dsimp only
    rw [Function.update_of_ne same]
    exact sized index

/-- A frame of the buffer's size replaces its contents. -/
theorem contents_upload {uploader : ShmFrameUploader}
    (sized : uploader.Sized) {data : List UInt8}
    (whole : uploader.bufferSize ≤ data.length) :
    (uploader.upload data).contents uploader.active =
      data.take uploader.bufferSize := by
  have here := sized uploader.active
  rw [upload]
  dsimp only
  rw [Function.update_self, Nat.min_eq_right whole,
    List.drop_of_length_le (Nat.le_of_eq here), List.append_nil]

end ShmFrameUploader

end RemoteWay.Display
