import Mathlib.Data.List.GetD
import RemoteWay.Base.Exec
import RemoteWay.Base.SparseDelta

/-!
# XOR deltas of damage regions

A region is visited row by row, so a list of regions stands for a list of
byte offsets into the frame, `regionOffsets`.  Encoding is `encodeAt` and
decoding is `decodeAt` at these offsets whenever every visited row lies
inside the buffers; the exact conditions under which decoding stops are
stated for a `dev` build, which reports overflows.
-/

namespace RemoteWay.Compress

open RemoteWay.Base

/-- A rectangular region of a frame that changed since the previous frame. -/
structure DamageRect where
  x : UInt32
  y : UInt32
  width : UInt32
  height : UInt32
  deriving DecidableEq, Repr

/-! ## The loops -/

/-- `y * stride + column`, the offset of a byte column in a row. -/
def rowOffset (profile : Profile) (stride : Nat) (rect : DamageRect)
    (row column : Nat) : Exec Nat := do
  let y := rect.y.toNat + row
  usizeAdd profile (← usizeMul profile y stride) column

/-- XOR two equal-length slices into `dst`, 32 lanes at a time and the tail
byte by byte. -/
def xorIntoVecSimd (a b dst : List UInt8) : List UInt8 :=
  let chunks := a.length / 32
  let tail := a.length % 32
  let lanes := (List.range chunks).foldl (fun dst i =>
    dst ++ List.zipWith (· ^^^ ·) ((a.drop (i * 32)).take 32)
      ((b.drop (i * 32)).take 32)) dst
  let tailOff := chunks * 32
  (List.range tail).foldl (fun dst i =>
    dst ++ [a.getD (tailOff + i) 0 ^^^ b.getD (tailOff + i) 0]) lanes

def deltaEncodeRow (profile : Profile) (current previous : List UInt8)
    (stride : Nat) (rect : DamageRect) (output : List UInt8) (row : Nat) :
    Exec (List UInt8) := do
  let xStart := rect.x.toNat * 4
  let xEnd := xStart + rect.width.toNat * 4
  let rowStart ← rowOffset profile stride rect row xStart
  let rowEnd ← rowOffset profile stride rect row xEnd
  let cur ← slice current rowStart rowEnd
  let prev ← slice previous rowStart rowEnd
  return xorIntoVecSimd cur prev output

/-- Delta-encode the regions of `current` against `previous` into `output`.
The first component counts the bytes written. -/
def deltaEncodeSimd (profile : Profile) (current previous : List UInt8)
    (stride : Nat) (regions : List DamageRect) (output : List UInt8) :
    Exec (Nat × List UInt8) := do
  debugAssert profile (current.length == previous.length)
  let before := output.length
  let output ← regions.foldlM (fun output rect =>
    (List.range rect.height.toNat).foldlM
      (deltaEncodeRow profile current previous stride rect) output) output
  return (output.length - before, output)

def deltaEncodeScalarRow (profile : Profile)
    (current previous : List UInt8) (stride : Nat) (rect : DamageRect)
    (output : List UInt8) (row : Nat) : Exec (List UInt8) := do
  let xStart := rect.x.toNat * 4
  let xEnd := xStart + rect.width.toNat * 4
  let rowStart ← rowOffset profile stride rect row xStart
  let rowEnd ← rowOffset profile stride rect row xEnd
  let cur ← slice current rowStart rowEnd
  let prev ← slice previous rowStart rowEnd
  return output ++ List.zipWith (· ^^^ ·) cur prev

/-- `delta_encode_simd` without vector lanes. -/
def deltaEncodeScalar (profile : Profile) (current previous : List UInt8)
    (stride : Nat) (regions : List DamageRect) (output : List UInt8) :
    Exec (Nat × List UInt8) := do
  debugAssert profile (current.length == previous.length)
  let before := output.length
  let output ← regions.foldlM (fun output rect =>
    (List.range rect.height.toNat).foldlM
      (deltaEncodeScalarRow profile current previous stride rect) output)
    output
  return (output.length - before, output)

/-- One byte of a row of `delta_decode`. -/
def deltaDecodeByte (profile : Profile) (delta previous : List UInt8)
    (rowStart offset : Nat) (output : List UInt8) (i : Nat) :
    Exec (List UInt8) := do
  let index ← usizeAdd profile rowStart i
  let base ← readAt previous index
  let change ← readAt delta (← usizeAdd profile offset i)
  writeAt output index (base ^^^ change)

/-- One row of `delta_decode`.  The state is the output and the offset into
the delta. -/
def deltaDecodeRow (profile : Profile) (delta previous : List UInt8)
    (stride : Nat) (rect : DamageRect) (state : List UInt8 × Nat)
    (row : Nat) : Exec (List UInt8 × Nat) := do
  let (output, offset) := state
  let xStart := rect.x.toNat * 4
  let xEnd := xStart + rect.width.toNat * 4
  let rowStart ← rowOffset profile stride rect row xStart
  let rowLen := xEnd - xStart
  let output ← (List.range rowLen).foldlM
    (deltaDecodeByte profile delta previous rowStart offset) output
  return (output, ← usizeAdd profile offset rowLen)

/-- Reconstruct the delta-encoded frame by XOR-ing with `previous`. -/
def deltaDecode (profile : Profile) (delta previous : List UInt8)
    (stride : Nat) (regions : List DamageRect) (output : List UInt8) :
    Exec (List UInt8) := do
  let output ← copyFromSlice output previous
  let (output, _) ← regions.foldlM (fun state rect =>
    (List.range rect.height.toNat).foldlM
      (deltaDecodeRow profile delta previous stride rect) state)
    (output, 0)
  return output

/-! ## The offsets a region list visits -/

/-- The first byte a row of a region visits. -/
def rowBase (stride : Nat) (rect : DamageRect) (row : Nat) : Nat :=
  (rect.y.toNat + row) * stride + rect.x.toNat * 4

def rowOffsets (stride : Nat) (rect : DamageRect) (row : Nat) : List Nat :=
  (List.range (rect.width.toNat * 4)).map (rowBase stride rect row + ·)

def rectOffsets (stride : Nat) (rect : DamageRect) : List Nat :=
  (List.range rect.height.toNat).flatMap (rowOffsets stride rect)

def regionOffsets (stride : Nat) (regions : List DamageRect) : List Nat :=
  regions.flatMap (rectOffsets stride)

/-- Every visited row ends inside a buffer of the given length. -/
def RegionsInside (stride length : Nat) (regions : List DamageRect) :
    Prop :=
  ∀ rect, rect ∈ regions → ∀ row, row < rect.height.toNat →
    rowBase stride rect row + rect.width.toNat * 4 ≤ length

theorem mem_regionOffsets {stride offset : Nat}
    {regions : List DamageRect} :
    offset ∈ regionOffsets stride regions ↔
      ∃ rect, rect ∈ regions ∧ ∃ row, row < rect.height.toNat ∧
        ∃ column, column < rect.width.toNat * 4 ∧
          rowBase stride rect row + column = offset := by
  simp [regionOffsets, rectOffsets, rowOffsets]

theorem lt_of_mem_regionOffsets {stride length offset : Nat}
    {regions : List DamageRect}
    (inside : RegionsInside stride length regions)
    (member : offset ∈ regionOffsets stride regions) : offset < length := by
  obtain ⟨rect, rectMember, row, rowBound, column, columnBound, rfl⟩ :=
    mem_regionOffsets.mp member
  have rowEnd := inside rect rectMember row rowBound
  omega

@[simp]
theorem length_rowOffsets (stride : Nat) (rect : DamageRect) (row : Nat) :
    (rowOffsets stride rect row).length = rect.width.toNat * 4 := by
  simp [rowOffsets]

@[simp]
theorem length_rectOffsets (stride : Nat) (rect : DamageRect) :
    (rectOffsets stride rect).length =
      rect.width.toNat * 4 * rect.height.toNat := by
  rw [rectOffsets, List.length_flatMap]
  simp [Nat.mul_comm]

/-! ## The XOR of two bytes -/

def xorByte (left right : UInt8) : UInt8 := left ^^^ right

theorem xorByte_undo (value base : UInt8) :
    xorByte base (xorByte value base) = value := by
  rw [xorByte, xorByte, UInt8.xor_comm value, ← UInt8.xor_assoc]
  simp

theorem xorByte_determined (value base other : UInt8)
    (restored : xorByte base (xorByte value other) = value) :
    base = other := by
  have commuted : value ^^^ (base ^^^ other) = value ^^^ 0 := by
    rw [UInt8.xor_zero, UInt8.xor_comm base, ← UInt8.xor_assoc,
      UInt8.xor_comm]
    exact restored
  exact UInt8.xor_eq_zero_iff.mp ((UInt8.xor_right_inj value).mp commuted)

private theorem foldl_append_eq_flatMap {alpha beta : Type}
    (produce : alpha → List beta) :
    ∀ (items : List alpha) (out : List beta),
      items.foldl (fun out item => out ++ produce item) out =
        out ++ items.flatMap produce
  | [], out => by
      simp
  | item :: rest, out => by
      rw [List.foldl_cons, foldl_append_eq_flatMap produce rest,
        List.flatMap_cons, List.append_assoc]

/-- The 32-lane chunks of two slices, joined. -/
private theorem zipWith_chunks (a b : List UInt8) :
    ∀ chunks, chunks * 32 ≤ a.length → chunks * 32 ≤ b.length →
      (List.range chunks).flatMap (fun i =>
          List.zipWith (· ^^^ ·) ((a.drop (i * 32)).take 32)
            ((b.drop (i * 32)).take 32)) =
        List.zipWith (· ^^^ ·) (a.take (chunks * 32))
          (b.take (chunks * 32))
  | 0, _, _ => by
      simp
  | chunks + 1, insideA, insideB => by
      have front := zipWith_chunks a b chunks (by omega) (by omega)
      have sameLength :
          (a.take (chunks * 32)).length = (b.take (chunks * 32)).length := by
        rw [List.length_take, List.length_take]
        omega
      rw [List.range_succ, List.flatMap_append, front, Nat.add_mul,
        Nat.one_mul, List.take_add, List.take_add,
        List.zipWith_append sameLength]
      simp

theorem xorIntoVecSimd_eq {a b : List UInt8} (dst : List UInt8)
    (sameLength : a.length = b.length) :
    xorIntoVecSimd a b dst = dst ++ List.zipWith xorByte a b := by
  have lanes := zipWith_chunks a b (a.length / 32) (by omega) (by omega)
  have tail :
      (List.range (a.length % 32)).flatMap (fun i =>
          [a.getD (a.length / 32 * 32 + i) 0 ^^^
            b.getD (a.length / 32 * 32 + i) 0]) =
        List.zipWith (· ^^^ ·) (a.drop (a.length / 32 * 32))
          (b.drop (a.length / 32 * 32)) := by
    have aTail := take_drop_eq_map_getD 0 a (a.length / 32 * 32)
      (a.length % 32) (by omega)
    have bTail := take_drop_eq_map_getD 0 b (a.length / 32 * 32)
      (a.length % 32) (by omega)
    rw [List.take_of_length_le (by rw [List.length_drop]; omega)] at aTail
    rw [List.take_of_length_le (by rw [List.length_drop]; omega)] at bTail
    rw [aTail, bTail, List.zipWith_map, List.zipWith_self]
    exact List.map_eq_flatMap.symm
  have takes :
      (a.take (a.length / 32 * 32)).length =
        (b.take (a.length / 32 * 32)).length := by
    rw [List.length_take, List.length_take, sameLength]
  rw [xorIntoVecSimd]
  simp only [foldl_append_eq_flatMap]
  rw [lanes, tail, List.append_assoc, ← List.zipWith_append takes,
    List.take_append_drop, List.take_append_drop]
  rfl

/-! ## Encoding -/

/-- The delta of a region list as a function of the two frames. -/
def deltaBytes (current previous : List UInt8) (stride : Nat)
    (regions : List DamageRect) : List UInt8 :=
  encodeAt 0 xorByte current previous (regionOffsets stride regions)

theorem rowOffset_of_lt (profile : Profile) {stride : Nat}
    {rect : DamageRect} {row column : Nat}
    (fits : (rect.y.toNat + row) * stride + column < usizeRange) :
    rowOffset profile stride rect row column =
      .ok ((rect.y.toNat + row) * stride + column) := by
  have product : (rect.y.toNat + row) * stride < usizeRange := by omega
  rw [rowOffset, usizeMul_of_lt profile product]
  exact usizeAdd_of_lt profile fits

theorem rowOffset_start (profile : Profile) {stride : Nat}
    {rect : DamageRect} {row : Nat}
    (fits : rowBase stride rect row < usizeRange) :
    rowOffset profile stride rect row (rect.x.toNat * 4) =
      .ok (rowBase stride rect row) :=
  rowOffset_of_lt profile fits

theorem rowOffset_end (profile : Profile) {stride : Nat}
    {rect : DamageRect} {row : Nat}
    (fits : rowBase stride rect row + rect.width.toNat * 4 <
      usizeRange) :
    rowOffset profile stride rect row
        (rect.x.toNat * 4 + rect.width.toNat * 4) =
      .ok (rowBase stride rect row + rect.width.toNat * 4) := by
  rw [rowBase, Nat.add_assoc] at fits ⊢
  exact rowOffset_of_lt profile fits

private theorem zipWith_slices_eq_encodeAt {current previous : List UInt8}
    {start count : Nat} (insideCurrent : start + count ≤ current.length)
    (insidePrevious : start + count ≤ previous.length) :
    List.zipWith xorByte ((current.drop start).take count)
        ((previous.drop start).take count) =
      encodeAt 0 xorByte current previous
        ((List.range count).map (start + ·)) := by
  rw [take_drop_eq_map_getD 0 current start count insideCurrent,
    take_drop_eq_map_getD 0 previous start count insidePrevious,
    List.zipWith_map, List.zipWith_self, encodeAt, List.map_map]
  rfl

theorem deltaEncodeRow_eq_scalarRow (profile : Profile)
    (current previous : List UInt8) (stride : Nat) (rect : DamageRect) :
    deltaEncodeRow profile current previous stride rect =
      deltaEncodeScalarRow profile current previous stride rect := by
  funext output row
  rw [deltaEncodeRow, deltaEncodeScalarRow]
  cases rowOffset profile stride rect row (rect.x.toNat * 4) with
  | error panic => rfl
  | ok rowStart =>
      simp only [bind, Except.bind]
      cases rowOffset profile stride rect row
          (rect.x.toNat * 4 + rect.width.toNat * 4) with
      | error panic => rfl
      | ok rowEnd =>
          dsimp only
          cases curEq : slice current rowStart rowEnd with
          | error panic => rfl
          | ok cur =>
              dsimp only
              cases prevEq : slice previous rowStart rowEnd with
              | error panic => rfl
              | ok prev =>
                  dsimp only
                  rw [xorIntoVecSimd_eq output
                    (length_eq_of_slice curEq prevEq)]
                  rfl

/-- The vector path computes what the scalar path computes, also where
either stops. -/
theorem deltaEncodeSimd_eq_scalar (profile : Profile)
    (current previous : List UInt8) (stride : Nat)
    (regions : List DamageRect) (output : List UInt8) :
    deltaEncodeSimd profile current previous stride regions output =
      deltaEncodeScalar profile current previous stride regions output := by
  simp only [deltaEncodeSimd, deltaEncodeScalar,
    deltaEncodeRow_eq_scalarRow]

theorem deltaEncodeRow_of_inside (profile : Profile)
    {current previous : List UInt8} {stride : Nat} {rect : DamageRect}
    {row : Nat} (output : List UInt8)
    (sameLength : current.length = previous.length)
    (addressable : current.length < usizeRange)
    (inside : rowBase stride rect row + rect.width.toNat * 4 ≤
      current.length) :
    deltaEncodeRow profile current previous stride rect output row =
      .ok (output ++ encodeAt 0 xorByte current previous
        (rowOffsets stride rect row)) := by
  have insidePrevious :
      rowBase stride rect row + rect.width.toNat * 4 ≤ previous.length := by
    omega
  have cur := slice_of_le current
    (Nat.le_add_right (rowBase stride rect row) (rect.width.toNat * 4))
    inside
  have prev := slice_of_le previous
    (Nat.le_add_right (rowBase stride rect row) (rect.width.toNat * 4))
    insidePrevious
  rw [Nat.add_sub_cancel_left] at cur prev
  have rowLengths :
      ((current.drop (rowBase stride rect row)).take
          (rect.width.toNat * 4)).length =
        ((previous.drop (rowBase stride rect row)).take
          (rect.width.toNat * 4)).length := by
    simp [sameLength]
  rw [deltaEncodeRow, rowOffset_start profile (by omega),
    rowOffset_end profile (by omega)]
  simp only [bind, Except.bind, cur, prev]
  rw [xorIntoVecSimd_eq output rowLengths,
    zipWith_slices_eq_encodeAt inside insidePrevious]
  rfl

/-- A loop whose every round appends a known block. -/
theorem foldlM_eq_append_flatMap {alpha : Type}
    {step : List UInt8 → alpha → Exec (List UInt8)}
    {block : alpha → List UInt8} :
    ∀ (items : List alpha) (output : List UInt8),
      (∀ item, item ∈ items → ∀ output,
        step output item = .ok (output ++ block item)) →
        items.foldlM step output = .ok (output ++ items.flatMap block)
  | [], output, _ => by
      simp [pure, Except.pure]
  | item :: rest, output, appends => by
      have tail := foldlM_eq_append_flatMap rest (output ++ block item)
        fun later member => appends later (List.mem_cons_of_mem item member)
      rw [List.foldlM_cons, appends item List.mem_cons_self, List.flatMap_cons,
        ← List.append_assoc]
      exact tail

theorem encodeAt_flatMap {alpha : Type} (current previous : List UInt8)
    (offsets : alpha → List Nat) (items : List alpha) :
    items.flatMap (fun item =>
        encodeAt 0 xorByte current previous (offsets item)) =
      encodeAt 0 xorByte current previous (items.flatMap offsets) := by
  simp [encodeAt, List.map_flatMap]

/-- Encoding in-bounds regions of two equally long frames appends their
delta. -/
theorem deltaEncodeSimd_of_inside (profile : Profile)
    {current previous : List UInt8} {stride : Nat}
    {regions : List DamageRect} (output : List UInt8)
    (sameLength : current.length = previous.length)
    (addressable : current.length < usizeRange)
    (inside : RegionsInside stride current.length regions) :
    deltaEncodeSimd profile current previous stride regions output =
      .ok ((deltaBytes current previous stride regions).length,
        output ++ deltaBytes current previous stride regions) := by
  have rects :
      regions.foldlM (fun output rect =>
          (List.range rect.height.toNat).foldlM
            (deltaEncodeRow profile current previous stride rect) output)
          output =
        .ok (output ++ regions.flatMap fun rect =>
          encodeAt 0 xorByte current previous (rectOffsets stride rect)) := by
    apply foldlM_eq_append_flatMap
    intro rect rectMember output
    have rows :
        (List.range rect.height.toNat).foldlM
            (deltaEncodeRow profile current previous stride rect) output =
          .ok (output ++ (List.range rect.height.toNat).flatMap fun row =>
            encodeAt 0 xorByte current previous
              (rowOffsets stride rect row)) := by
      apply foldlM_eq_append_flatMap
      intro row rowMember output
      exact deltaEncodeRow_of_inside profile output sameLength addressable
        (inside rect rectMember row (List.mem_range.mp rowMember))
    rw [rows, encodeAt_flatMap]
    rfl
  rw [encodeAt_flatMap] at rects
  have assertion : (current.length == previous.length) = true := by
    simp [sameLength]
  rw [deltaEncodeSimd, assertion, debugAssert_true]
  simp only [bind, Except.bind, rects, pure, Except.pure]
  simp [deltaBytes, regionOffsets]

/-! ## Decoding -/

/-- All rows a region list visits, in order. -/
def regionRows (regions : List DamageRect) : List (DamageRect × Nat) :=
  regions.flatMap fun rect =>
    (List.range rect.height.toNat).map fun row => (rect, row)

private theorem mem_regionRows {regions : List DamageRect}
    {rect : DamageRect} {row : Nat} :
    (rect, row) ∈ regionRows regions ↔
      rect ∈ regions ∧ row < rect.height.toNat := by
  simp only [regionRows, List.mem_flatMap, List.mem_map, List.mem_range,
    Prod.mk.injEq]
  constructor
  · rintro ⟨found, member, index, bound, rfl, rfl⟩
    exact ⟨member, bound⟩
  · rintro ⟨member, bound⟩
    exact ⟨rect, member, row, bound, rfl, rfl⟩

private theorem flatMap_regionRows (stride : Nat)
    (regions : List DamageRect) :
    (regionRows regions).flatMap
        (fun visited => rowOffsets stride visited.1 visited.2) =
      regionOffsets stride regions := by
  rw [regionRows, List.flatMap_assoc, regionOffsets]
  congr 1
  funext rect
  rw [List.flatMap_map, rectOffsets]

private theorem decodeRects_eq_decodeRows (profile : Profile)
    (delta previous : List UInt8) (stride : Nat)
    (regions : List DamageRect) (state : List UInt8 × Nat) :
    regions.foldlM (fun state rect =>
        (List.range rect.height.toNat).foldlM
          (deltaDecodeRow profile delta previous stride rect) state) state =
      (regionRows regions).foldlM (fun state visited =>
        deltaDecodeRow profile delta previous stride visited.1 state
          visited.2) state := by
  rw [regionRows, ← foldlM_flatMap]
  simp only [List.foldlM_map]

/-- A row whose offset does not overflow and whose bytes, if it has any, lie
inside an addressable buffer of the given length. -/
def RowReadable (stride length : Nat) (rect : DamageRect) (row : Nat) :
    Prop :=
  rowBase stride rect row < usizeRange ∧
    (rect.width.toNat = 0 ∨
      rowBase stride rect row + rect.width.toNat * 4 ≤
        min length usizeRange)

def RegionsReadable (stride length : Nat) (regions : List DamageRect) :
    Prop :=
  ∀ rect, rect ∈ regions → ∀ row, row < rect.height.toNat →
    RowReadable stride length rect row

theorem RegionsInside.readable {stride length : Nat}
    {regions : List DamageRect} (addressable : length < usizeRange)
    (inside : RegionsInside stride length regions) :
    RegionsReadable stride length regions := by
  intro rect rectMember row rowBound
  have rowEnd := inside rect rectMember row rowBound
  exact ⟨by omega, Or.inr (by omega)⟩

section Decoding

variable {delta previous : List UInt8}

/-- The delta reaches this far without an overflow of its index. -/
def DeltaReaches (delta : List UInt8) (stop : Nat) : Prop :=
  stop ≤ delta.length ∧ stop < usizeRange

private theorem deltaDecodeByte_of_inside (profile : Profile)
    {rowStart offset i : Nat} {output : List UInt8}
    (sameLength : output.length = previous.length)
    (inside : rowStart + i < min previous.length usizeRange)
    (reaches : DeltaReaches delta (offset + (i + 1))) :
    deltaDecodeByte profile delta previous rowStart offset output i =
      .ok (output.set (rowStart + i)
        (previous.getD (rowStart + i) 0 ^^^ delta.getD (offset + i) 0)) := by
  obtain ⟨enough, addressable⟩ := reaches
  have previousInside : rowStart + i < previous.length := by omega
  have deltaInside : offset + i < delta.length := by omega
  rw [deltaDecodeByte, usizeAdd_of_lt profile (by omega),
    usizeAdd_of_lt profile (by omega)]
  simp only [bind, Except.bind]
  rw [readAt_of_lt previousInside, readAt_of_lt deltaInside]
  dsimp only
  rw [writeAt_of_lt _ (by omega), List.getD_eq_getElem _ _ previousInside,
    List.getD_eq_getElem _ _ deltaInside]

private theorem deltaDecodeByte_dev_inside_of_ok
    {rowStart offset i : Nat} {output result : List UInt8}
    (decoded :
      deltaDecodeByte .dev delta previous rowStart offset output i =
        .ok result) :
    rowStart + i < min previous.length usizeRange ∧
      offset + i < min delta.length usizeRange := by
  rw [deltaDecodeByte] at decoded
  cases indexed : usizeAdd .dev rowStart i with
  | error panic =>
      rw [indexed] at decoded
      cases decoded
  | ok index =>
      rw [indexed] at decoded
      simp only [bind, Except.bind] at decoded
      cases base : readAt previous index with
      | error panic =>
          rw [base] at decoded
          cases decoded
      | ok baseByte =>
          rw [base] at decoded
          simp only at decoded
          cases deltaIndexed : usizeAdd .dev offset i with
          | error panic =>
              rw [deltaIndexed] at decoded
              cases decoded
          | ok deltaIndex =>
              rw [deltaIndexed] at decoded
              simp only at decoded
              cases change : readAt delta deltaIndex with
              | error panic =>
                  rw [change] at decoded
                  cases decoded
              | ok changeByte =>
                  obtain ⟨fits, rfl⟩ :=
                    usizeResult_dev_eq_ok_iff.mp indexed
                  obtain ⟨deltaFits, rfl⟩ :=
                    usizeResult_dev_eq_ok_iff.mp deltaIndexed
                  have baseInside :=
                    (List.getElem?_eq_some_iff.mp
                      (readAt_eq_ok_iff.mp base)).1
                  have changeInside :=
                    (List.getElem?_eq_some_iff.mp
                      (readAt_eq_ok_iff.mp change)).1
                  exact ⟨by omega, by omega⟩

/-- The inner loop of `delta_decode` over the bytes of one row. -/
private def storeRow (profile : Profile) (delta previous : List UInt8)
    (rowStart offset rowLen : Nat) (output : List UInt8) :
    Exec (List UInt8) :=
  (List.range rowLen).foldlM
    (deltaDecodeByte profile delta previous rowStart offset) output

private theorem storeRow_succ (profile : Profile)
    (rowStart offset rowLen : Nat) (output : List UInt8) :
    storeRow profile delta previous rowStart offset (rowLen + 1) output =
      (do
        let output ← storeRow profile delta previous rowStart offset rowLen
          output
        deltaDecodeByte profile delta previous rowStart offset output
          rowLen) := by
  rw [storeRow, List.range_succ, List.foldlM_append]
  simp only [List.foldlM_cons, List.foldlM_nil, bind_pure]
  rfl

private theorem storeRow_of_inside (profile : Profile)
    {rowStart offset : Nat} :
    ∀ (rowLen : Nat) (output : List UInt8),
      output.length = previous.length →
      rowStart + rowLen ≤ min previous.length usizeRange →
      DeltaReaches delta (offset + rowLen) →
        storeRow profile delta previous rowStart offset rowLen output =
          .ok (storeAll output
            (decodeWrites 0 xorByte previous
              ((List.range rowLen).map (rowStart + ·))
              (delta.drop offset)))
  | 0, _, _, _, _ => rfl
  | rowLen + 1, output, sameLength, inside, reaches => by
      obtain ⟨enough, addressable⟩ := reaches
      have frontInside :
          rowStart + rowLen ≤ min previous.length usizeRange := by omega
      have frontReaches : DeltaReaches delta (offset + rowLen) :=
        ⟨by omega, by omega⟩
      have front := storeRow_of_inside profile rowLen output sameLength
        frontInside frontReaches
      have lastInside : offset + rowLen < delta.length := by omega
      have lastDelta :
          (delta.drop offset).drop rowLen =
            delta.getD (offset + rowLen) 0 ::
              delta.drop (offset + rowLen + 1) := by
        rw [List.drop_drop, List.drop_eq_getElem_cons lastInside,
          List.getD_eq_getElem _ _ lastInside]
      rw [storeRow_succ, front]
      simp only [bind, Except.bind]
      rw [deltaDecodeByte_of_inside profile
          (by rw [length_storeAll, sameLength]) (by omega)
          ⟨enough, addressable⟩,
        List.range_succ, List.map_append, decodeWrites_append,
        storeAll_append, List.length_map, List.length_range, lastDelta]
      rfl

private theorem storeRow_dev_inside_of_ok {rowStart offset rowLen : Nat}
    {output result : List UInt8}
    (stored : storeRow .dev delta previous rowStart offset rowLen output =
      .ok result) :
    rowLen = 0 ∨
      (rowStart + rowLen ≤ min previous.length usizeRange ∧
        offset + rowLen ≤ delta.length) := by
  cases rowLen with
  | zero => exact Or.inl rfl
  | succ rowLen =>
      rw [storeRow_succ] at stored
      cases front : storeRow .dev delta previous rowStart offset rowLen
          output with
      | error panic =>
          rw [front] at stored
          cases stored
      | ok middle =>
          rw [front] at stored
          have inside := deltaDecodeByte_dev_inside_of_ok stored
          exact Or.inr ⟨by omega, by omega⟩

private theorem deltaDecodeRow_eq (profile : Profile) (stride : Nat)
    (rect : DamageRect) (output : List UInt8) (offset row : Nat) :
    deltaDecodeRow profile delta previous stride rect (output, offset) row =
      (do
        let rowStart ← rowOffset profile stride rect row (rect.x.toNat * 4)
        let output ← storeRow profile delta previous rowStart offset
          (rect.width.toNat * 4) output
        return (output,
          ← usizeAdd profile offset (rect.width.toNat * 4))) := by
  rw [deltaDecodeRow]
  simp only [Nat.add_sub_cancel_left]
  rfl

private theorem deltaDecodeRow_of_readable (profile : Profile)
    {stride : Nat} {rect : DamageRect} {row : Nat} {output : List UInt8}
    {offset : Nat} (sameLength : output.length = previous.length)
    (readable : RowReadable stride previous.length rect row)
    (reaches : DeltaReaches delta (offset + rect.width.toNat * 4)) :
    deltaDecodeRow profile delta previous stride rect (output, offset) row =
      .ok (storeAll output
          (decodeWrites 0 xorByte previous (rowOffsets stride rect row)
            (delta.drop offset)),
        offset + rect.width.toNat * 4) := by
  have advanced := usizeAdd_of_lt profile reaches.2
  obtain ⟨fits, empty | inside⟩ := readable
  · rw [deltaDecodeRow_eq, rowOffset_start profile fits, advanced,
      rowOffsets, empty]
    rfl
  · have stored := storeRow_of_inside profile (rect.width.toNat * 4) output
      sameLength inside reaches
    rw [deltaDecodeRow_eq, rowOffset_start profile fits, advanced]
    simp only [bind, Except.bind, stored]
    rfl

/-- The loop over rows, from any output and any offset into the delta. -/
private theorem decodeRows_of_readable (profile : Profile) {stride : Nat} :
    ∀ (rows : List (DamageRect × Nat)) (output : List UInt8) (offset : Nat),
      output.length = previous.length →
      (∀ visited, visited ∈ rows →
        RowReadable stride previous.length visited.1 visited.2) →
      DeltaReaches delta (offset + (rows.flatMap fun visited =>
          rowOffsets stride visited.1 visited.2).length) →
        rows.foldlM (fun state visited =>
            deltaDecodeRow profile delta previous stride visited.1 state
              visited.2) (output, offset) =
          .ok (storeAll output
              (decodeWrites 0 xorByte previous
                (rows.flatMap fun visited =>
                  rowOffsets stride visited.1 visited.2)
                (delta.drop offset)),
            offset + (rows.flatMap fun visited =>
              rowOffsets stride visited.1 visited.2).length)
  | [], _, _, _, _, _ => rfl
  | visited :: rows, output, offset, sameLength, readable, reaches => by
      rw [List.flatMap_cons, List.length_append, length_rowOffsets]
        at reaches
      obtain ⟨enough, addressable⟩ := reaches
      have first :=
        deltaDecodeRow_of_readable profile sameLength
          (readable visited List.mem_cons_self)
          (show DeltaReaches delta (offset + visited.1.width.toNat * 4)
            from ⟨by omega, by omega⟩)
      have later := decodeRows_of_readable profile rows
        (storeAll output
          (decodeWrites 0 xorByte previous
            (rowOffsets stride visited.1 visited.2) (delta.drop offset)))
        (offset + visited.1.width.toNat * 4)
        (by rw [length_storeAll, sameLength])
        (fun other member => readable other (List.mem_cons_of_mem _ member))
        ⟨by omega, by omega⟩
      rw [List.foldlM_cons, first]
      simp only [bind, Except.bind]
      rw [later, List.flatMap_cons, decodeWrites_append, storeAll_append,
        length_rowOffsets, List.drop_drop, List.length_append,
        length_rowOffsets, Nat.add_assoc]

/-- Decoding readable regions from a long enough delta applies the delta at
the visited offsets. -/
theorem deltaDecode_of_readable (profile : Profile) {stride : Nat}
    {regions : List DamageRect} {output : List UInt8}
    (sameLength : output.length = previous.length)
    (readable : RegionsReadable stride previous.length regions)
    (reaches : DeltaReaches delta (regionOffsets stride regions).length) :
    deltaDecode profile delta previous stride regions output =
      .ok (decodeAt 0 xorByte previous (regionOffsets stride regions)
        delta) := by
  have rows := decodeRows_of_readable profile (regionRows regions)
    previous 0 rfl
    (fun visited member =>
      readable visited.1 (mem_regionRows.mp member).1 visited.2
        (mem_regionRows.mp member).2)
    (by rw [flatMap_regionRows, Nat.zero_add]; exact reaches)
  rw [deltaDecode, copyFromSlice_of_length_eq sameLength]
  simp only [bind, Except.bind, decodeRects_eq_decodeRows]
  rw [rows, flatMap_regionRows, List.drop_zero]
  rfl

/-! ### When a `dev` build decodes -/

private theorem rowOffset_dev_eq_ok_iff {stride : Nat} {rect : DamageRect}
    {row column result : Nat} :
    rowOffset .dev stride rect row column = .ok result ↔
      (rect.y.toNat + row) * stride + column < usizeRange ∧
        (rect.y.toNat + row) * stride + column = result := by
  rw [rowOffset, usizeMul]
  by_cases product : (rect.y.toNat + row) * stride < usizeRange
  · rw [usizeResult_of_lt .dev product]
    exact usizeResult_dev_eq_ok_iff
  · have overflow :
        usizeResult .dev ((rect.y.toNat + row) * stride) =
          .error .overflow := by
      rw [usizeResult, if_neg product]
    rw [overflow]
    constructor
    · intro decoded
      cases decoded
    · rintro ⟨fits, _⟩
      omega

private theorem rowReadable_of_dev_ok {stride : Nat} {rect : DamageRect}
    {row : Nat} {output : List UInt8} {offset : Nat}
    {result : List UInt8 × Nat} (within : offset ≤ delta.length)
    (decoded : deltaDecodeRow .dev delta previous stride rect
      (output, offset) row = .ok result) :
    RowReadable stride previous.length rect row ∧
      DeltaReaches delta (offset + rect.width.toNat * 4) := by
  rw [deltaDecodeRow_eq] at decoded
  cases started : rowOffset .dev stride rect row (rect.x.toNat * 4) with
  | error panic =>
      rw [started] at decoded
      cases decoded
  | ok rowStart =>
      obtain ⟨fits, startEq⟩ := rowOffset_dev_eq_ok_iff.mp started
      rw [started] at decoded
      simp only [bind, Except.bind] at decoded
      cases stored : storeRow .dev delta previous rowStart offset
          (rect.width.toNat * 4) output with
      | error panic =>
          rw [stored] at decoded
          cases decoded
      | ok rowOutput =>
          rw [stored] at decoded
          simp only at decoded
          cases advanced : usizeAdd .dev offset (rect.width.toNat * 4) with
          | error panic =>
              rw [advanced] at decoded
              cases decoded
          | ok later =>
              obtain ⟨addressable, _⟩ :=
                usizeResult_dev_eq_ok_iff.mp advanced
              subst startEq
              rcases storeRow_dev_inside_of_ok stored with
                empty | ⟨inside, enough⟩
              · exact ⟨⟨fits, Or.inl (by omega)⟩, by omega, addressable⟩
              · exact ⟨⟨fits, Or.inr inside⟩, enough, addressable⟩

private theorem decodeRows_readable_of_dev_ok {stride : Nat} :
    ∀ (rows : List (DamageRect × Nat)) (output : List UInt8) (offset : Nat)
      (result : List UInt8 × Nat),
      output.length = previous.length →
      DeltaReaches delta offset →
      rows.foldlM (fun state visited =>
          deltaDecodeRow .dev delta previous stride visited.1 state
            visited.2) (output, offset) = .ok result →
        (∀ visited, visited ∈ rows →
          RowReadable stride previous.length visited.1 visited.2) ∧
        DeltaReaches delta (offset + (rows.flatMap fun visited =>
          rowOffsets stride visited.1 visited.2).length)
  | [], _, _, _, _, within, _ => ⟨by simp, by simpa using within⟩
  | visited :: rows, output, offset, result, sameLength, within,
      decoded => by
      rw [List.foldlM_cons] at decoded
      cases first : deltaDecodeRow .dev delta previous stride visited.1
          (output, offset) visited.2 with
      | error panic =>
          rw [first] at decoded
          cases decoded
      | ok middle =>
          obtain ⟨readable, reaches⟩ := rowReadable_of_dev_ok within.1 first
          have middleEq := deltaDecodeRow_of_readable .dev sameLength
            readable reaches
          rw [first] at middleEq
          injection middleEq with middleEq
          rw [first, middleEq] at decoded
          obtain ⟨laterReadable, laterReaches⟩ :=
            decodeRows_readable_of_dev_ok rows _ _ result
              (by rw [length_storeAll, sameLength]) reaches decoded
          constructor
          · intro other member
            rcases List.mem_cons.mp member with rfl | later
            · exact readable
            · exact laterReadable other later
          · rw [List.flatMap_cons, List.length_append, length_rowOffsets,
              ← Nat.add_assoc]
            exact laterReaches

/-- A `dev` build decodes without panic exactly when the regions are
readable and the delta is long enough for them. -/
theorem deltaDecode_dev_isOk_iff {stride : Nat}
    {regions : List DamageRect} {output : List UInt8}
    (sameLength : output.length = previous.length) :
    (∃ result,
        deltaDecode .dev delta previous stride regions output =
          .ok result) ↔
      RegionsReadable stride previous.length regions ∧
        DeltaReaches delta (regionOffsets stride regions).length := by
  constructor
  · rintro ⟨result, decoded⟩
    rw [deltaDecode, copyFromSlice_of_length_eq sameLength] at decoded
    simp only [bind, Except.bind, decodeRects_eq_decodeRows] at decoded
    cases rows : (regionRows regions).foldlM (fun state visited =>
        deltaDecodeRow .dev delta previous stride visited.1 state
          visited.2) (previous, 0) with
    | error panic =>
        rw [rows] at decoded
        cases decoded
    | ok final =>
        obtain ⟨readable, reaches⟩ := decodeRows_readable_of_dev_ok
          (regionRows regions) previous 0 final rfl
          ⟨Nat.zero_le _, by decide⟩ rows
        rw [flatMap_regionRows, Nat.zero_add] at reaches
        refine ⟨?_, reaches⟩
        intro rect rectMember row rowBound
        exact readable (rect, row)
          (mem_regionRows.mpr ⟨rectMember, rowBound⟩)
  · rintro ⟨readable, reaches⟩
    exact ⟨_, deltaDecode_of_readable .dev sameLength readable reaches⟩

end Decoding

end RemoteWay.Compress
