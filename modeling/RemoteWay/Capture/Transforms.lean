import Mathlib.Data.List.Induction
import Mathlib.Data.List.Perm.Basic
import RemoteWay.Base.Pieces
import RemoteWay.Capture.ExtCapture

/-!
# What undoing a transform does to the pixels

`flip_rows` and `mirror_rows` exchange rows and pixels in place, from the
outside in.  On a picture taken as rows of pixels they reverse the order of
the rows and the order of the pixels in each row.
-/

namespace RemoteWay.Capture

open RemoteWay.Base

namespace ExtCaptureState

/-! ## Flipping -/

/-- Exchanging two rows, each with what lies around it. -/
theorem swapRows_append {stride : Nat}
    {before upper between lower after : List UInt8} {top rows : Nat}
    (start : before.length = top * stride) (upperLength : upper.length = stride)
    (apart : between.length = rows * stride)
    (lowerLength : lower.length = stride) :
    swapRows (before ++ (upper ++ (between ++ (lower ++ after)))) stride top
        (top + 1 + rows) =
      .ok (before ++ (lower ++ (between ++ (upper ++ after)))) := by
  have second : (top + 1) * stride = before.length + stride := by
    rw [start, Nat.add_mul, Nat.one_mul]
  have third : (top + 1 + rows) * stride =
      before.length + stride + between.length := by
    rw [Nat.add_mul, second, apart]
  have fourth : (top + 1 + rows + 1) * stride =
      before.length + stride + between.length + stride := by
    rw [Nat.add_mul, third, Nat.one_mul]
  have apart' : (top + 1 + rows - (top + 1)) * stride = between.length := by
    rw [Nat.add_sub_cancel_left, apart]
  have grouped : before ++ (upper ++ (between ++ (lower ++ after))) =
      (before ++ upper ++ between) ++ (lower ++ after) := by
    simp only [List.append_assoc]
  have upperDone : slice (before ++ (upper ++ (between ++ (lower ++ after))))
      (top * stride) ((top + 1) * stride) = .ok upper :=
    slice_append start.symm (by rw [second, start, upperLength])
  have lowerDone : slice (before ++ (upper ++ (between ++ (lower ++ after))))
      ((top + 1 + rows) * stride) ((top + 1 + rows + 1) * stride) =
        .ok lower := by
    rw [grouped]
    refine slice_append ?_ (by rw [fourth, third, lowerLength])
    rw [third, List.length_append, List.length_append, upperLength]
  have front : (before ++ (upper ++ (between ++ (lower ++ after)))).take
      (top * stride) = before := by
    rw [← start, List.take_left]
  have middle : (before ++ (upper ++ (between ++ (lower ++ after)))).drop
      ((top + 1) * stride) = between ++ (lower ++ after) := by
    rw [second, ← List.drop_drop, List.drop_left, List.drop_left' upperLength]
  have back : (before ++ (upper ++ (between ++ (lower ++ after)))).drop
      ((top + 1 + rows + 1) * stride) = after := by
    rw [fourth, ← List.drop_drop, ← List.drop_drop, ← List.drop_drop,
      List.drop_left, List.drop_left' upperLength, List.drop_left,
      List.drop_left' lowerLength]
  rw [swapRows, upperDone, lowerDone]
  simp only [front, middle, back, apart', List.take_left]
  simp only [bind, Except.bind, pure, Except.pure, List.append_assoc]

theorem flipLoop_of_le {stride top bottom : Nat} (data : List UInt8)
    (met : bottom ≤ top) : flipLoop stride top bottom data = .ok data := by
  cases bottom with
  | zero => rfl
  | succ bottom => rw [flipLoop, if_neg (Nat.not_lt.mpr met)]

/-- The loop reverses the rows that are between its indices. -/
theorem flipLoop_flatten {stride : Nat} (rows : List (List UInt8)) :
    ∀ {before after : List (List UInt8)} {top bottom : Nat},
      (∀ row, row ∈ before ++ rows → row.length = stride) →
        top = before.length → bottom = top + rows.length - 1 →
          flipLoop stride top bottom
              (before.flatten ++ (rows.flatten ++ after.flatten)) =
            .ok (before.flatten ++
              (rows.reverse.flatten ++ after.flatten)) := by
  induction rows using List.bidirectionalRec with
  | nil =>
      intro before after top bottom _ _ last
      rw [List.length_nil] at last
      exact flipLoop_of_le _ (by omega)
  | singleton row =>
      intro before after top bottom _ _ last
      rw [List.length_singleton] at last
      exact flipLoop_of_le _ (by omega)
  | cons_append first middle final inductionHypothesis =>
      intro before after top bottom sized start last
      have rowSized : ∀ row, row ∈ before ∨ row = first ∨ row ∈ middle ∨
          row = final → row.length = stride := by
        intro row member
        apply sized row
        simpa using member
      have last' : bottom = top + middle.length + 1 := by
        rw [last, List.length_cons, List.length_append,
          List.length_singleton]
        omega
      have swapped := @swapRows_append stride before.flatten first
        middle.flatten final after.flatten top middle.length
        (by rw [length_flatten_of_length fun row member =>
          rowSized row (.inl member), start])
        (rowSized first (.inr (.inl rfl)))
        (length_flatten_of_length fun row member =>
          rowSized row (.inr (.inr (.inl member))))
        (rowSized final (.inr (.inr (.inr rfl))))
      have inner := @inductionHypothesis (before ++ [final])
        (first :: after) (top + 1) (top + middle.length) (by
          intro row member
          apply rowSized row
          simp only [List.mem_append, List.mem_singleton] at member
          rcases member with (member | member) | member
          · exact .inl member
          · exact .inr (.inr (.inr member))
          · exact .inr (.inr (.inl member)))
        (by rw [start, List.length_append, List.length_singleton])
        (by omega)
      have grouped : before.flatten ++
          ((first :: (middle ++ [final])).flatten ++ after.flatten) =
            before.flatten ++ (first ++ (middle.flatten ++
              (final ++ after.flatten))) := by
        simp
      rw [last', flipLoop, if_pos (by omega), grouped,
        show top + middle.length + 1 = top + 1 + middle.length by omega,
        swapped]
      change flipLoop stride (top + 1) (top + middle.length) _ = _
      simpa using inner

/-! ## Mirroring -/

/-- Exchanging two bytes, each with what lies around it. -/
theorem swapBytes_append {before between after : List UInt8}
    {first second : UInt8} {left right : Nat}
    (start : left = before.length)
    (apart : right = left + 1 + between.length) :
    swapBytes (before ++ first :: (between ++ second :: after)) left right =
      .ok (before ++ second :: (between ++ first :: after)) := by
  have grouped : ∀ byte, before ++ byte :: (between ++ second :: after) =
      (before ++ byte :: between) ++ second :: after := by
    intro byte
    simp
  have there : ∀ byte, right = (before ++ byte :: between).length := by
    intro byte
    rw [apart, start, List.length_append, List.length_cons]
    omega
  rw [swapBytes, readAt_middle start, grouped first,
    readAt_middle (there first), ← grouped first]
  simp only [bind, Except.bind]
  rw [writeAt_middle second start]
  dsimp only
  rw [grouped second, writeAt_middle first (there second)]
  simp

/-- Exchanging two pixels byte by byte. -/
theorem swapPixels_append (left right : Nat) {after : List UInt8} :
    ∀ {first second before between : List UInt8} {start : Nat},
      first.length = second.length → before.length = left + start →
        (before ++ (first ++ between)).length = right + start →
          (List.range' start first.length).foldlM
              (fun row k => swapBytes row (left + k) (right + k))
              (before ++ (first ++ (between ++ (second ++ after)))) =
            .ok (before ++ (second ++ (between ++ (first ++ after)))) := by
  intro first
  induction first with
  | nil =>
      intro second before between start lengths _ _
      rw [List.length_nil, eq_comm, List.length_eq_zero_iff] at lengths
      subst lengths
      rfl
  | cons byte first inductionHypothesis =>
      intro second before between start lengths here there
      cases second with
      | nil => cases lengths
      | cons other second =>
          have swapped := @swapBytes_append before (first ++ between)
            (second ++ after) byte other (left + start) (right + start)
            here.symm (by
              simp only [List.length_append, List.length_cons] at there ⊢
              omega)
          have inner := @inductionHypothesis second (before ++ [other])
            (between ++ [byte]) (start + 1)
            (by simpa using lengths)
            (by rw [List.length_append, here]; rfl)
            (by
              simp only [List.length_append, List.length_cons,
                List.length_nil] at there ⊢
              omega)
          rw [List.length_cons, List.range'_succ, List.foldlM_cons]
          simp only [List.cons_append, List.append_assoc] at swapped ⊢
          rw [swapped]
          change List.foldlM _ _ _ = _
          simpa using inner

/-- The rounds of `mirror_row` that exchange the pixels in the middle of a
row, of which as many are finished on either side. -/
theorem mirrorLoop_flatten (row : List (List UInt8)) :
    ∀ {before after : List (List UInt8)} {pixels : Nat},
      (∀ pixel, pixel ∈ before ++ row → pixel.length = 4) →
        after.length = before.length →
          pixels = before.length + row.length + after.length →
            (List.range' before.length (row.length / 2)).foldlM
                (fun row i => (List.range 4).foldlM (fun row k =>
                  swapBytes row (i * 4 + k) ((pixels - 1 - i) * 4 + k)) row)
                (before.flatten ++ (row.flatten ++ after.flatten)) =
              .ok (before.flatten ++
                (row.reverse.flatten ++ after.flatten)) := by
  induction row using List.bidirectionalRec with
  | nil =>
      intro before after pixels _ _ _
      rfl
  | singleton pixel =>
      intro before after pixels _ _ _
      rw [List.length_singleton, List.reverse_singleton]
      rfl
  | cons_append first middle final inductionHypothesis =>
      intro before after pixels sized balanced total
      have pixelSized : ∀ pixel, pixel ∈ before ∨ pixel = first ∨
          pixel ∈ middle ∨ pixel = final → pixel.length = 4 := by
        intro pixel member
        apply sized pixel
        simpa using member
      have firstSized := pixelSized first (.inr (.inl rfl))
      have finalSized := pixelSized final (.inr (.inr (.inr rfl)))
      have beforeLength : before.flatten.length = before.length * 4 :=
        length_flatten_of_length fun pixel member =>
          pixelSized pixel (.inl member)
      have middleLength : middle.flatten.length = middle.length * 4 :=
        length_flatten_of_length fun pixel member =>
          pixelSized pixel (.inr (.inr (.inl member)))
      have length : (first :: (middle ++ [final])).length =
          middle.length + 2 := by
        simp
      have half : (middle.length + 2) / 2 = middle.length / 2 + 1 := by
        omega
      have swapped := @swapPixels_append (before.length * 4)
        ((pixels - 1 - before.length) * 4) after.flatten first final
        before.flatten middle.flatten 0 (by rw [firstSized, finalSized])
        beforeLength (by
          rw [length] at total
          rw [List.length_append, List.length_append, beforeLength,
            firstSized, middleLength]
          omega)
      have inner := @inductionHypothesis (before ++ [final])
        (first :: after) pixels (by
          intro pixel member
          apply pixelSized pixel
          simp only [List.mem_append, List.mem_singleton] at member
          rcases member with (member | member) | member
          · exact .inl member
          · exact .inr (.inr (.inr member))
          · exact .inr (.inr (.inl member)))
        (by simp [balanced])
        (by
          rw [length] at total
          simp only [List.length_append, List.length_cons, List.length_nil]
          omega)
      have grouped : before.flatten ++
          ((first :: (middle ++ [final])).flatten ++ after.flatten) =
            before.flatten ++ (first ++ (middle.flatten ++
              (final ++ after.flatten))) := by
        simp
      rw [firstSized, ← List.range_eq_range'] at swapped
      rw [length, half, List.range'_succ, List.foldlM_cons, grouped, swapped]
      change List.foldlM _ _ _ = _
      simpa using inner

/-- `mirror_row` reverses the pixels of a row. -/
theorem mirrorRow_flatten {row : List (List UInt8)}
    (sized : ∀ pixel, pixel ∈ row → pixel.length = 4) :
    mirrorRow row.length row.flatten = .ok row.reverse.flatten := by
  have reversed := @mirrorLoop_flatten row [] [] row.length sized rfl
    (by simp)
  rw [List.length_nil, ← List.range_eq_range'] at reversed
  rw [mirrorRow]
  simpa using reversed

end ExtCaptureState

/-! ## Pictures -/

/-- A picture as rows of pixels of four bytes. -/
structure Picture (width height : Nat) where
  rows : List (List (List UInt8))
  rowCount : rows.length = height
  rowWidth : ∀ row, row ∈ rows → row.length = width
  pixelSize : ∀ row, row ∈ rows → ∀ pixel, pixel ∈ row → pixel.length = 4

namespace Picture

open ExtCaptureState

variable {width height : Nat}

/-- The bytes of the rows, one after the other. -/
def bytes (picture : Picture width height) : List UInt8 :=
  (picture.rows.map List.flatten).flatten

/-- The picture that is in a buffer. -/
def ofBytes (data : List UInt8) (whole : data.length = width * 4 * height) :
    Picture width height where
  rows := (pieces (width * 4) height data).map (pieces 4 width)
  rowCount := by simp
  rowWidth := by
    intro row member
    obtain ⟨piece, _, rfl⟩ := List.mem_map.mp member
    exact length_pieces 4 width piece
  pixelSize := by
    intro row member pixel inside
    obtain ⟨piece, cut, rfl⟩ := List.mem_map.mp member
    exact length_of_mem_pieces
      (length_of_mem_pieces (by rw [whole, Nat.mul_comm]) cut) inside

theorem bytes_ofBytes {data : List UInt8}
    (whole : data.length = width * 4 * height) :
    (ofBytes data whole).bytes = data := by
  have commuted : data.length = height * (width * 4) := by
    rw [whole, Nat.mul_comm]
  have joined : ∀ piece, piece ∈ pieces (width * 4) height data →
      (List.flatten ∘ pieces 4 width) piece = piece := fun piece cut =>
    flatten_pieces (length_of_mem_pieces commuted cut)
  change (List.map List.flatten (List.map _ _)).flatten = data
  rw [List.map_map, List.map_congr_left joined, List.map_id']
  exact flatten_pieces commuted

/-- The rows in the opposite order. -/
def flip (picture : Picture width height) : Picture width height where
  rows := picture.rows.reverse
  rowCount := by rw [List.length_reverse, picture.rowCount]
  rowWidth := fun row member =>
    picture.rowWidth row (List.mem_reverse.mp member)
  pixelSize := fun row member =>
    picture.pixelSize row (List.mem_reverse.mp member)

/-- The pixels of each row in the opposite order. -/
def mirror (picture : Picture width height) : Picture width height where
  rows := picture.rows.map List.reverse
  rowCount := by rw [List.length_map, picture.rowCount]
  rowWidth := by
    intro row member
    obtain ⟨former, there, rfl⟩ := List.mem_map.mp member
    rw [List.length_reverse, picture.rowWidth former there]
  pixelSize := by
    intro row member pixel inside
    obtain ⟨former, there, rfl⟩ := List.mem_map.mp member
    exact picture.pixelSize former there pixel (List.mem_reverse.mp inside)

@[ext]
theorem ext {first second : Picture width height}
    (same : first.rows = second.rows) : first = second := by
  cases first
  cases second
  cases same
  rfl

@[simp]
theorem flip_flip (picture : Picture width height) :
    picture.flip.flip = picture :=
  ext (List.reverse_reverse picture.rows)

@[simp]
theorem mirror_mirror (picture : Picture width height) :
    picture.mirror.mirror = picture := by
  apply ext
  simp [mirror]

theorem mirror_flip (picture : Picture width height) :
    picture.flip.mirror = picture.mirror.flip :=
  ext List.map_reverse

/-! ## The code reverses rows and pixels -/

variable (picture : Picture width height)

theorem length_of_mem_flat {row : List UInt8}
    (member : row ∈ picture.rows.map List.flatten) :
    row.length = width * 4 := by
  obtain ⟨pixels, there, rfl⟩ := List.mem_map.mp member
  rw [length_flatten_of_length (picture.pixelSize pixels there),
    picture.rowWidth pixels there]

theorem length_bytes : picture.bytes.length = height * (width * 4) := by
  rw [bytes, length_flatten_of_length fun _ => picture.length_of_mem_flat,
    List.length_map, picture.rowCount]

theorem pieces_bytes :
    pieces (width * 4) height picture.bytes =
      picture.rows.map List.flatten := by
  have cut := pieces_flatten fun _ => picture.length_of_mem_flat
  rw [List.length_map, picture.rowCount] at cut
  exact cut

theorem flipRows_bytes (wide : 1 ≤ width) :
    flipRows picture.bytes (width * 4) = .ok picture.flip.bytes := by
  have positive : width * 4 ≠ 0 := by omega
  have count : picture.bytes.length / (width * 4) = height := by
    rw [picture.length_bytes, Nat.mul_div_cancel _ (by omega)]
  have flipped := @flipLoop_flatten (width * 4)
    (picture.rows.map List.flatten) [] [] 0 (height - 1)
    (fun _ => picture.length_of_mem_flat) rfl
    (by rw [List.length_map, picture.rowCount, Nat.zero_add])
  rw [flipRows, if_neg positive, count]
  simpa [bytes, flip] using flipped

theorem mirrorRows_bytes (wide : 1 ≤ width) :
    mirrorRows picture.bytes (width * 4) = .ok picture.mirror.bytes := by
  have positive : width * 4 ≠ 0 := by omega
  have count : picture.bytes.length / (width * 4) = height := by
    rw [picture.length_bytes, Nat.mul_div_cancel _ (by omega)]
  have each : (picture.rows.map List.flatten).mapM (mirrorRow width) =
      .ok (picture.rows.map fun row => row.reverse.flatten) := by
    rw [List.mapM_map]
    apply mapM_ok_of_forall
    intro row there
    have mirrored := mirrorRow_flatten (picture.pixelSize row there)
    rw [picture.rowWidth row there] at mirrored
    exact mirrored
  rw [← picture.pieces_bytes, pieces, List.mapM_map] at each
  have rest : picture.bytes.drop (height * (width * 4)) = [] :=
    List.drop_of_length_le (Nat.le_of_eq picture.length_bytes)
  rw [mirrorRows, if_neg positive, count, Nat.mul_div_cancel _ (by decide)]
  dsimp only
  rw [rest]
  simp only [Function.comp_def] at each
  rw [each]
  simp [bytes, mirror, bind, Except.bind, pure, Except.pure,
    Function.comp_def]

/-! ## Where pixels come from -/

/-- The pixel at a position, if there is one. -/
def pixel (x y : Nat) : Option (List UInt8) :=
  picture.rows[y]?.bind fun row => row[x]?

theorem pixel_flip {x y : Nat} (inside : y < height) :
    picture.flip.pixel x y = picture.pixel x (height - 1 - y) := by
  change picture.rows.reverse[y]?.bind _ = _
  rw [List.getElem?_reverse (by rw [picture.rowCount]; exact inside),
    picture.rowCount]
  rfl

theorem pixel_mirror {x : Nat} (y : Nat) (inside : x < width) :
    picture.mirror.pixel x y = picture.pixel (width - 1 - x) y := by
  change (picture.rows.map List.reverse)[y]?.bind _ = _
  rw [List.getElem?_map, pixel]
  cases found : picture.rows[y]? with
  | none => rfl
  | some row =>
      have rowWidth := picture.rowWidth row (List.mem_of_getElem? found)
      change row.reverse[x]? = row[width - 1 - x]?
      rw [List.getElem?_reverse (by rw [rowWidth]; exact inside), rowWidth]

theorem pixelSize_flat {pixel : List UInt8}
    (member : pixel ∈ picture.rows.flatten) : pixel.length = 4 := by
  obtain ⟨row, there, inside⟩ := List.mem_flatten.mp member
  exact picture.pixelSize row there pixel inside

/-- The pixels, one after the other. -/
theorem pieces_four_bytes :
    pieces 4 (height * width) picture.bytes = picture.rows.flatten := by
  have cut := pieces_flatten fun _ => picture.pixelSize_flat
  rw [length_flatten_of_length picture.rowWidth, picture.rowCount,
    List.flatten_flatten] at cut
  exact cut

/-- The four bytes of a pixel in a buffer of rows of a width. -/
def pixelAt (width : Nat) (data : List UInt8) (x y : Nat) : List UInt8 :=
  (data.drop ((y * width + x) * 4)).take 4

theorem pixelAt_bytes {x y : Nat} (across : x < width) (down : y < height) :
    picture.pixel x y = some (pixelAt width picture.bytes x y) := by
  have place : picture.rows.flatten[y * width + x]? = picture.pixel x y :=
    getElem?_flatten_of_length across picture.rows y picture.rowWidth
  have row : y < picture.rows.length := by
    rw [picture.rowCount]
    exact down
  have column : x < picture.rows[y].length := by
    rw [picture.rowWidth _ (List.getElem_mem row)]
    exact across
  have found : picture.pixel x y = some picture.rows[y][x] := by
    rw [pixel, List.getElem?_eq_getElem row]
    exact List.getElem?_eq_getElem column
  rw [found] at place ⊢
  rw [pixelAt, bytes, ← List.flatten_flatten,
    take_drop_flatten (fun _ => picture.pixelSize_flat) place]

end Picture

/-! ## Undoing a transform -/

open Picture

/-- The result holds at each position the pixel that the data holds at
another. -/
structure MovedFrom (width height : Nat) (data result : List UInt8)
    (origin : Nat → Nat → Nat × Nat) : Prop where
  length : result.length = data.length
  moved : ∀ x y, x < width → y < height →
    pixelAt width result x y =
      pixelAt width data (origin x y).1 (origin x y).2

/-- Two buffers hold the same pixels. -/
def SamePixels (width height : Nat) (data result : List UInt8) : Prop :=
  (pieces 4 (height * width) result).Perm (pieces 4 (height * width) data)

/-- Where a pixel of the upright picture is in the transformed one. -/
def origin (transform : UInt32) (width height x y : Nat) : Nat × Nat :=
  if transform = 2 then (width - 1 - x, height - 1 - y)
  else if transform = 4 then (width - 1 - x, y)
  else if transform = 6 then (x, height - 1 - y)
  else (x, y)

section Undoing

variable {width height : Nat} (picture : Picture width height)

theorem movedFrom_of_pixel {result : Picture width height}
    {origin : Nat → Nat → Nat × Nat}
    (inside : ∀ x y, x < width → y < height →
      (origin x y).1 < width ∧ (origin x y).2 < height)
    (same : ∀ x y, x < width → y < height →
      result.pixel x y = picture.pixel (origin x y).1 (origin x y).2) :
    MovedFrom width height picture.bytes result.bytes origin := by
  refine ⟨by rw [result.length_bytes, picture.length_bytes], ?_⟩
  intro x y across down
  obtain ⟨column, row⟩ := inside x y across down
  have moved := same x y across down
  rw [result.pixelAt_bytes across down, picture.pixelAt_bytes column row]
    at moved
  injection moved

theorem samePixels_flip :
    SamePixels width height picture.bytes picture.flip.bytes := by
  rw [SamePixels, pieces_four_bytes, pieces_four_bytes]
  exact (List.reverse_perm picture.rows).flatten

theorem samePixels_mirror :
    SamePixels width height picture.bytes picture.mirror.bytes := by
  rw [SamePixels, pieces_four_bytes, pieces_four_bytes]
  change (picture.rows.map List.reverse).flatten.Perm _
  rw [← List.flatMap_def, ← List.flatMap_id]
  exact List.Perm.flatMap_left _ fun row _ => List.reverse_perm row

end Undoing

namespace ExtCaptureState

variable {width height : Nat} {stride : UInt32}

theorem undoTransform_bytes (state : ExtCaptureState)
    (picture : Picture width height) (wide : 1 ≤ width)
    (tight : stride.toNat = width * 4)
    (turned : state.frameTransform = 2 ∨ state.frameTransform = 4 ∨
      state.frameTransform = 6) :
    ∃ result : Picture width height,
      state.undoTransform picture.bytes stride =
          .ok (result.bytes, state.fullDamage) ∧
        ∀ x y, x < width → y < height →
          result.pixel x y = picture.pixel
            (origin state.frameTransform width height x y).1
            (origin state.frameTransform width height x y).2 := by
  rcases turned with turned | turned | turned
  · refine ⟨picture.flip.mirror, ?_, ?_⟩
    · rw [undoTransform, turned, tight, picture.flipRows_bytes wide]
      change (mirrorRows picture.flip.bytes (width * 4) >>= _) = _
      rw [picture.flip.mirrorRows_bytes wide]
      rfl
    · intro x y across down
      rw [turned, picture.flip.pixel_mirror y across,
        picture.pixel_flip down]
      rfl
  · refine ⟨picture.mirror, ?_, ?_⟩
    · rw [undoTransform, turned, tight, picture.mirrorRows_bytes wide]
      rfl
    · intro x y across _
      rw [turned, picture.pixel_mirror y across]
      rfl
  · refine ⟨picture.flip, ?_, ?_⟩
    · rw [undoTransform, turned, tight, picture.flipRows_bytes wide]
      rfl
    · intro x y _ down
      rw [turned, picture.pixel_flip down]
      rfl

theorem origin_inside (transform : UInt32) {x y : Nat} (across : x < width)
    (down : y < height) :
    (origin transform width height x y).1 < width ∧
      (origin transform width height x y).2 < height := by
  rw [origin]
  split_ifs <;> constructor <;> dsimp only <;> omega

/-- Every buffer of whole rows: the two helpers permute its pixels, undo
themselves and commute, and undoing a transform takes each pixel from where
the transform had put it, with the whole picture as damage. -/
theorem undoTransform_moves {data : List UInt8} (wide : 1 ≤ width)
    (whole : data.length = width * 4 * height) :
    (∃ flipped mirrored both,
      flipRows data (width * 4) = .ok flipped ∧
        flipRows flipped (width * 4) = .ok data ∧
        mirrorRows data (width * 4) = .ok mirrored ∧
        mirrorRows mirrored (width * 4) = .ok data ∧
        mirrorRows flipped (width * 4) = .ok both ∧
        flipRows mirrored (width * 4) = .ok both ∧
        SamePixels width height data flipped ∧
        SamePixels width height data mirrored) ∧
    ∀ (state : ExtCaptureState) (stride : UInt32),
      stride.toNat = width * 4 →
        state.frameTransform = 2 ∨ state.frameTransform = 4 ∨
          state.frameTransform = 6 →
            ∃ result,
              state.undoTransform data stride = .ok (result,
                  [⟨0, 0, state.bufferWidth, state.bufferHeight⟩]) ∧
                MovedFrom width height data result
                  (origin state.frameTransform width height) := by
  have read := bytes_ofBytes whole
  generalize ofBytes data whole = picture at read
  subst read
  constructor
  · refine ⟨picture.flip.bytes, picture.mirror.bytes,
      picture.flip.mirror.bytes, picture.flipRows_bytes wide, ?_,
      picture.mirrorRows_bytes wide, ?_, picture.flip.mirrorRows_bytes wide,
      ?_, samePixels_flip picture, samePixels_mirror picture⟩
    · rw [picture.flip.flipRows_bytes wide, Picture.flip_flip]
    · rw [picture.mirror.mirrorRows_bytes wide, Picture.mirror_mirror]
    · rw [picture.mirror.flipRows_bytes wide, mirror_flip]
  · intro state stride tight turned
    obtain ⟨result, undone, same⟩ :=
      undoTransform_bytes state picture wide tight turned
    exact ⟨result.bytes, undone, movedFrom_of_pixel picture
      (fun x y => origin_inside state.frameTransform) same⟩

/-- A picture of two by two pixels. -/
def fourPixels : List UInt8 :=
  [1, 1, 1, 1, 2, 2, 2, 2, 3, 3, 3, 3, 4, 4, 4, 4]

/-- A session for it, with the transform that turns it by 180 degrees. -/
def turned : ExtCaptureState :=
  { initial with frameTransform := 2, bufferWidth := 2, bufferHeight := 2 }

theorem undoTransform_moves_fourPixels :
    ∃ result, turned.undoTransform fourPixels 8 =
        .ok (result, [⟨0, 0, 2, 2⟩]) ∧
      MovedFrom 2 2 fourPixels result (origin 2 2 2) :=
  (@undoTransform_moves 2 2 fourPixels (by decide) rfl).2 turned 8 rfl
    (.inl rfl)

end ExtCaptureState

end RemoteWay.Capture
