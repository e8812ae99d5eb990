import RemoteWay.Base.Raster
import RemoteWay.Base.SinglePrecision
import RemoteWay.Client.DisplayOutput

/-!
# FPS overlay

The text is drawn pixel by pixel, each of which is clipped to the frame.  For
coordinates that are far from the bounds of `i32`, the drawing does what a
list of strokes does: those of the background and then those of the glyphs.
How a number is written with one decimal place is a parameter.
-/

namespace RemoteWay.Client

open RemoteWay.Base RemoteWay.Display

namespace FpsOverlay

/-! ## Glyphs -/

def glyphW : Nat := 5
def glyphH : Nat := 7

/-- The low five bits of each row are the pixels, the leftmost first. -/
def glyph : Char → Option (Vector UInt8 glyphH)
  | '0' => some #v[0b01110, 0b10001, 0b10011, 0b10101, 0b11001, 0b10001,
      0b01110]
  | '1' => some #v[0b00100, 0b01100, 0b00100, 0b00100, 0b00100, 0b00100,
      0b01110]
  | '2' => some #v[0b01110, 0b10001, 0b00001, 0b00010, 0b00100, 0b01000,
      0b11111]
  | '3' => some #v[0b11110, 0b00001, 0b00001, 0b01110, 0b00001, 0b00001,
      0b11110]
  | '4' => some #v[0b00010, 0b00110, 0b01010, 0b10010, 0b11111, 0b00010,
      0b00010]
  | '5' => some #v[0b11111, 0b10000, 0b11110, 0b00001, 0b00001, 0b10001,
      0b01110]
  | '6' => some #v[0b00110, 0b01000, 0b10000, 0b11110, 0b10001, 0b10001,
      0b01110]
  | '7' => some #v[0b11111, 0b00001, 0b00010, 0b00100, 0b01000, 0b01000,
      0b01000]
  | '8' => some #v[0b01110, 0b10001, 0b10001, 0b01110, 0b10001, 0b10001,
      0b01110]
  | '9' => some #v[0b01110, 0b10001, 0b10001, 0b01111, 0b00001, 0b00010,
      0b01100]
  | '.' => some #v[0b00000, 0b00000, 0b00000, 0b00000, 0b00000, 0b00000,
      0b00100]
  | ':' => some #v[0b00000, 0b00100, 0b00100, 0b00000, 0b00100, 0b00100,
      0b00000]
  | 'F' => some #v[0b11111, 0b10000, 0b10000, 0b11110, 0b10000, 0b10000,
      0b10000]
  | 'P' => some #v[0b11110, 0b10001, 0b10001, 0b11110, 0b10000, 0b10000,
      0b10000]
  | 'S' => some #v[0b01110, 0b10001, 0b10000, 0b01110, 0b00001, 0b10001,
      0b01110]
  | ' ' => some (Vector.replicate glyphH 0)
  | _ => none

/-- A transparent column is to the right of each glyph. -/
def glyphStride : Nat := glyphW + 1

def textScale : Nat := 3

/-- Black padding around the text. -/
def pad : Nat := 4

abbrev Rgba := Vector UInt8 4

def black : Rgba := #v[0, 0, 0, 255]

def white : Rgba := #v[255, 255, 255, 255]

/-! ## Drawing -/

section Drawing

variable (profile : Profile) (width height stride : UInt32)

/-- Write a pixel if it falls inside the buffer. -/
def putPixel (buf : List UInt8) (x y : Int32) (rgba : Rgba) :
    Exec (List UInt8) :=
  if x < 0 ∨ y < 0 then
    .ok buf
  else
    let (x, y) := (x.toUInt32, y.toUInt32)
    if width ≤ x ∨ height ≤ y then
      .ok buf
    else do
      let row ← u32Mul profile y stride
      let column ← u32Mul profile x 4
      let off := (← u32Add profile row column).toNat
      let stop ← usizeAdd profile off 4
      if stop ≤ buf.length then do
        let pixel ← copyFromSlice (← slice buf off stop) rgba.toList
        return overwrite buf off pixel
      else
        return buf

/-- The numbers of `0..stop`. -/
def i32Range (stop : Int32) : List Int32 :=
  (List.range stop.toInt.toNat).map Int32.ofNat

/-- The two loops over the rows and columns of a rectangle. -/
def putRectangle (buf : List UInt8) (x y columns rows : Int32)
    (rgba : Rgba) : Exec (List UInt8) :=
  (i32Range rows).foldlM (fun buf dy =>
    (i32Range columns).foldlM (fun buf dx => do
      let px ← i32Add profile x dx
      let py ← i32Add profile y dy
      putPixel profile width height stride buf px py rgba) buf) buf

/-- A pixel of a glyph, scaled. -/
def putGlyphPixel (buf : List UInt8) (cx textY : Int32)
    (rowIdx : Nat) (rowBits : UInt8) (col : Nat) : Exec (List UInt8) :=
  let bit := (rowBits >>> UInt8.ofNat (glyphW - 1 - col)) &&& 1
  if bit = 0 then
    .ok buf
  else do
    let pxX ← i32Add profile cx (Int32.ofNat (col * textScale))
    let pxY ← i32Add profile textY (Int32.ofNat (rowIdx * textScale))
    putRectangle profile width height stride buf pxX pxY
      (Int32.ofNat textScale) (Int32.ofNat textScale) white

def putGlyph (buf : List UInt8) (cx textY : Int32)
    (rows : Vector UInt8 glyphH) : Exec (List UInt8) :=
  rows.toList.zipIdx.foldlM (fun buf (rowBits, rowIdx) =>
    (List.range glyphW).foldlM (fun buf col =>
      putGlyphPixel profile width height stride buf cx textY rowIdx rowBits
        col) buf) buf

/-- White text on a black rectangle.  A character without a glyph is left
out. -/
def drawText (buf : List UInt8) (x y : Int32) (text : List Char) :
    Exec (List UInt8) := do
  let cells ← usizeMul profile text.length glyphStride
  let textPxW ← usizeMul profile cells textScale
  let textPxH := glyphH * textScale
  let padding := Int32.ofNat pad * 2
  let bgW ← i32Add profile (Int32.ofNat textPxW) padding
  let bgH ← i32Add profile (Int32.ofNat textPxH) padding
  let buf ← putRectangle profile width height stride buf x y bgW bgH black
  let textX ← i32Add profile x (Int32.ofNat pad)
  let textY ← i32Add profile y (Int32.ofNat pad)
  text.zipIdx.foldlM (fun buf (ch, i) =>
    match glyph ch with
    | none => .ok buf
    | some rows => do
        let cells ← usizeMul profile i glyphStride
        let left ← usizeMul profile cells textScale
        let cx ← i32Add profile textX (Int32.ofNat left)
        putGlyph profile width height stride buf cx textY rows) buf

/-- The frame rate that is shown, for which 0 stands in where it is negative
or no number. -/
def clamp (fps : UInt32) : UInt32 :=
  if F32.isFinite fps && F32.ge fps 0 then F32.min fps F32.below1000 else 0

/-- `{:>5.1}` after `FPS: `. -/
def fpsText (oneDecimal : UInt32 → List Char) (fps : UInt32) : List Char :=
  let digits := oneDecimal (clamp fps)
  "FPS: ".toList ++ List.replicate (5 - digits.length) ' ' ++ digits

def drawFps (oneDecimal : UInt32 → List Char) (buf : List UInt8)
    (fps : UInt32) : Exec (List UInt8) :=
  drawText profile width height stride buf 10 10 (fpsText oneDecimal fps)

end Drawing

/-- The position and the size of the overlay. -/
def overlayRect (x y : UInt32) : UInt32 × UInt32 × UInt32 × UInt32 :=
  let chars := 10
  let w := UInt32.ofNat (chars * glyphStride * textScale + pad * 2)
  let h := UInt32.ofNat (glyphH * textScale + pad * 2)
  (x, y, w, h)

def saturatingSub (left right : UInt32) : UInt32 :=
  if right ≤ left then left - right else 0

/-- Paint the frame rate on a picture and add its rectangle to the damage,
as `recv_decompress_loop` does for a decoded frame. -/
def paintOverlay (profile : Profile) (oneDecimal : UInt32 → List Char)
    (debug : Bool) (fps : UInt32) (picture : Picture)
    (damage : List DamageRegion) : Exec (Picture × List DamageRegion) :=
  if debug then do
    let data ← drawFps profile picture.width picture.height picture.stride
      oneDecimal picture.data fps
    let (ox, oy, ow, oh) := overlayRect 10 10
    return ({ picture with data := data },
      damage ++ [
        { x := ox
          y := oy
          width := min ow (saturatingSub picture.width ox)
          height := min oh (saturatingSub picture.height oy) }])
  else
    return (picture, damage)

/-! ## Strokes -/

/-- Whether a bit of a row of a glyph is set. -/
def lit (rowBits : UInt8) (col : Nat) : Bool :=
  decide ((rowBits >>> UInt8.ofNat (glyphW - 1 - col)) &&& 1 ≠ 0)

def glyphStrokes (cx textY : Int) (rows : Vector UInt8 glyphH) :
    List (Stroke UInt8 4) :=
  rows.toList.zipIdx.flatMap fun (rowBits, rowIdx) =>
    (List.range glyphW).flatMap fun col : Nat =>
      if lit rowBits col then
        rectangle (cx + (col * textScale : Nat))
          (textY + (rowIdx * textScale : Nat)) textScale textScale white
      else
        []

/-- The background of a text, and its glyphs. -/
def textStrokes (x y : Int) (text : List Char) : List (Stroke UInt8 4) :=
  rectangle x y (text.length * glyphStride * textScale + pad * 2)
      (glyphH * textScale + pad * 2) black ++
    text.zipIdx.flatMap fun (ch, i) =>
      match glyph ch with
      | none => []
      | some rows =>
          glyphStrokes (x + pad + (i * glyphStride * textScale : Nat))
            (y + pad) rows

/-! ## Drawing paints the strokes -/

/-- A frame with whole rows. -/
def frame (width height stride : UInt32)
    (rowsFit : width.toNat * 4 ≤ stride.toNat) : Raster 4 where
  width := width.toNat
  height := height.toNat
  stride := stride.toNat
  rowsFit := rowsFit

theorem i32Add_ofNat (profile : Profile) (left : Int32) {right : Nat}
    (small : left.toInt + right < 2 ^ 31) (length : right < 2 ^ 31) :
    i32Add profile left (Int32.ofNat right) =
        .ok (left + Int32.ofNat right) ∧
      (left + Int32.ofNat right).toInt = left.toInt + right := by
  have value : (Int32.ofNat right).toInt = right :=
    Int32.toInt_ofNat_of_lt length
  have least := left.le_toInt
  rw [← value]
  exact i32Add_of_inside profile (by omega) (by omega)

section Painting

variable (profile : Profile) {width height stride : UInt32}
variable (rowsFit : width.toNat * 4 ≤ stride.toNat)
variable (small : stride.toNat * height.toNat < 2 ^ 32)

include small in
/-- The offset of a pixel of the frame does not overflow. -/
theorem offset_of_inside {x y : UInt32} (across : x.toNat < width.toNat)
    (down : y.toNat < height.toNat) :
    ∃ row column off, u32Mul profile y stride = .ok row ∧
      u32Mul profile x 4 = .ok column ∧ u32Add profile row column = .ok off ∧
        off.toNat =
          (frame width height stride rowsFit).offset x.toNat y.toNat := by
  have fits := (frame width height stride rowsFit).offset_add_le across down
  change y.toNat * stride.toNat + x.toNat * 4 + 4 ≤
    stride.toNat * height.toNat at fits
  have four : (4 : UInt32).toNat = 4 := rfl
  have range : UInt32.size = 2 ^ 32 := rfl
  have row : (y * stride).toNat = y.toNat * stride.toNat := by
    rw [UInt32.toNat_mul]
    exact Nat.mod_eq_of_lt (by omega)
  have column : (x * 4).toNat = x.toNat * 4 := by
    rw [UInt32.toNat_mul, four]
    exact Nat.mod_eq_of_lt (by omega)
  refine ⟨_, _, _, u32Mul_of_lt profile (by omega),
    u32Mul_of_lt profile (by rw [four]; omega),
    u32Add_of_lt profile (by omega), ?_⟩
  rw [UInt32.toNat_add, row, column]
  exact Nat.mod_eq_of_lt (by omega)

include small in
theorem putPixel_of_inside {buf : List UInt8} {x y : Int32} (rgba : Rgba)
    (sized : buf.length = (frame width height stride rowsFit).size)
    (nonneg : ¬(x < 0 ∨ y < 0)) (across : x.toUInt32.toNat < width.toNat)
    (down : y.toUInt32.toNat < height.toNat) :
    putPixel profile width height stride buf x y rgba =
      .ok (overwrite buf ((frame width height stride rowsFit).offset
        x.toUInt32.toNat y.toUInt32.toNat) rgba.toList) := by
  have visible : ¬(width ≤ x.toUInt32 ∨ height ≤ y.toUInt32) := by
    rw [UInt32.le_iff_toNat_le, UInt32.le_iff_toNat_le]
    omega
  obtain ⟨row, column, off, multiplied, scaled, added, exactly⟩ :=
    offset_of_inside profile rowsFit small across down
  have fits := (frame width height stride rowsFit).offset_add_le across down
  have length : rgba.toList.length = 4 := rgba.length_toList
  rw [← exactly, ← sized] at fits
  have stop : usizeAdd profile off.toNat 4 = .ok (off.toNat + 4) := by
    apply usizeAdd_of_lt
    have bound := off.toNat_lt
    unfold usizeRange
    omega
  rw [putPixel, if_neg nonneg]
  dsimp only
  rw [if_neg visible, multiplied, scaled]
  simp only [bind, Except.bind]
  rw [added]
  dsimp only
  rw [stop]
  dsimp only
  rw [if_pos fits, slice_of_le buf (by omega) fits]
  dsimp only
  rw [copyFromSlice_of_length_eq (by
    rw [List.length_take, List.length_drop, length]
    omega), exactly]
  rfl

include small in
theorem putPixel_paints (x y : Int32) (rgba : Rgba) :
    (frame width height stride rowsFit).Paints
      (fun buf => putPixel profile width height stride buf x y rgba)
      [⟨x.toInt, y.toInt, rgba⟩] := by
  intro buf sized
  have painted : (frame width height stride rowsFit).paintAll buf
      [⟨x.toInt, y.toInt, rgba⟩] =
        (frame width height stride rowsFit).paint buf
          ⟨x.toInt, y.toInt, rgba⟩ := rfl
  have hits : (frame width height stride rowsFit).Hits
      (⟨x.toInt, y.toInt, rgba⟩ : Stroke UInt8 4) ↔
        (0 ≤ x.toInt ∧ x.toInt < width.toNat) ∧
          0 ≤ y.toInt ∧ y.toInt < height.toNat := Iff.rfl
  have signs : (x < 0 ∨ y < 0) ↔ x.toInt < 0 ∨ y.toInt < 0 := by
    rw [Int32.lt_iff_toInt_lt, Int32.lt_iff_toInt_lt]
    exact Iff.rfl
  dsimp only
  rw [painted, Raster.paint]
  by_cases negative : x < 0 ∨ y < 0
  · rw [putPixel, if_pos negative, if_neg]
    rw [hits]
    rw [signs] at negative
    omega
  · have column := @i32_toNat_toUInt32 x (by
      rw [signs] at negative
      omega)
    have row := @i32_toNat_toUInt32 y (by
      rw [signs] at negative
      omega)
    by_cases inside : (frame width height stride rowsFit).Hits
        (⟨x.toInt, y.toInt, rgba⟩ : Stroke UInt8 4)
    · rw [if_pos inside]
      rw [hits] at inside
      rw [putPixel_of_inside profile rowsFit small rgba sized negative
        (by omega) (by omega), column, row]
    · rw [if_neg inside, putPixel, if_neg negative]
      rw [hits] at inside
      rw [signs] at negative
      apply if_pos
      rw [UInt32.le_iff_toNat_le, UInt32.le_iff_toNat_le]
      omega

include small in
theorem putRectangle_paints (x y columns rows : Int32) (rgba : Rgba)
    (across : x.toInt + columns.toInt < 2 ^ 31)
    (down : y.toInt + rows.toInt < 2 ^ 31) :
    (frame width height stride rowsFit).Paints
      (fun buf => putRectangle profile width height stride buf x y columns
        rows rgba)
      (rectangle x.toInt y.toInt columns.toInt.toNat rows.toInt.toNat
        rgba) := by
  have wide := columns.toInt_lt
  have high := rows.toInt_lt
  simp only [putRectangle, i32Range, List.foldlM_map]
  simp only [rectangle, List.map_eq_flatMap]
  apply Raster.Paints.loop
  intro dy dyBound
  apply Raster.Paints.loop
  intro dx dxBound
  rw [List.mem_range] at dyBound dxBound
  obtain ⟨moved, column⟩ := @i32Add_ofNat profile x dx
    (by omega) (by omega)
  obtain ⟨lowered, row⟩ := @i32Add_ofNat profile y dy
    (by omega) (by omega)
  rw [moved, lowered, ← column, ← row]
  exact putPixel_paints profile rowsFit small _ _ rgba

include small in
theorem putGlyphPixel_paints {cx textY : Int32} {rowIdx col : Nat}
    (rowBits : UInt8) (column : col < glyphW) (row : rowIdx < glyphH)
    (across : cx.toInt + 100 < 2 ^ 31) (down : textY.toInt + 100 < 2 ^ 31) :
    (frame width height stride rowsFit).Paints
      (fun buf => putGlyphPixel profile width height stride buf cx textY
        rowIdx rowBits col)
      (if lit rowBits col then
        rectangle (cx.toInt + (col * textScale : Nat))
          (textY.toInt + (rowIdx * textScale : Nat)) textScale textScale white
      else
        []) := by
  simp only [glyphW, glyphH] at column row
  by_cases bit : (rowBits >>> UInt8.ofNat (glyphW - 1 - col)) &&& 1 = 0
  · have dark : lit rowBits col = false := by
      rw [lit]
      exact decide_eq_false (not_not_intro bit)
    simp only [putGlyphPixel, bit, if_true, dark, Bool.false_eq_true, if_false]
    exact Raster.Paints.nothing
  · have shines : lit rowBits col = true := decide_eq_true bit
    have scale : (Int32.ofNat textScale).toInt = textScale := by decide
    have three : textScale = 3 := rfl
    have toRight : col * textScale ≤ 12 :=
      Nat.mul_le_mul_right 3 (Nat.le_of_lt_succ column)
    have toBottom : rowIdx * textScale ≤ 18 :=
      Nat.mul_le_mul_right 3 (Nat.le_of_lt_succ row)
    obtain ⟨moved, left⟩ := @i32Add_ofNat profile cx
      (col * textScale) (by omega) (by omega)
    obtain ⟨lowered, top⟩ := @i32Add_ofNat profile textY
      (rowIdx * textScale) (by omega) (by omega)
    have block := putRectangle_paints profile rowsFit small
      (cx + Int32.ofNat (col * textScale))
      (textY + Int32.ofNat (rowIdx * textScale))
      (Int32.ofNat textScale) (Int32.ofNat textScale) white (by omega) (by omega)
    rw [left, top, scale, Int.toNat_natCast] at block
    simp only [putGlyphPixel, bit, if_false, shines, if_true, moved, lowered,
      ok_bind]
    exact block

include small in
theorem putGlyph_paints (cx textY : Int32) (rows : Vector UInt8 glyphH)
    (across : cx.toInt + 100 < 2 ^ 31) (down : textY.toInt + 100 < 2 ^ 31) :
    (frame width height stride rowsFit).Paints
      (fun buf => putGlyph profile width height stride buf cx textY rows)
      (glyphStrokes cx.toInt textY.toInt rows) := by
  simp only [putGlyph, glyphStrokes]
  apply Raster.Paints.loop
  rintro ⟨rowBits, rowIdx⟩ rowMember
  apply Raster.Paints.loop
  intro col colMember
  have row := List.snd_lt_of_mem_zipIdx rowMember
  rw [Vector.length_toList] at row
  exact putGlyphPixel_paints profile rowsFit small rowBits
    (List.mem_range.mp colMember) row across down

/-- A text that is far from the bounds of `i32`. -/
def Near (x y : Int32) (text : List Char) : Prop :=
  x.toInt < 2 ^ 20 ∧ y.toInt < 2 ^ 20 ∧ text.length < 2 ^ 20

/-- Each character is 18 pixels wide. -/
theorem textWidth (count : Nat) :
    count * glyphStride * textScale = count * 18 := by
  rw [glyphStride, glyphW, textScale]
  omega

theorem usizeMul_textWidth {count : Nat} (short : count < 2 ^ 20) :
    usizeMul profile count glyphStride = .ok (count * glyphStride) ∧
      usizeMul profile (count * glyphStride) textScale =
        .ok (count * glyphStride * textScale) := by
  have range : usizeRange = 2 ^ 64 := rfl
  have six : glyphStride = 6 := rfl
  refine ⟨usizeMul_of_lt profile ?_, usizeMul_of_lt profile ?_⟩
  · rw [six]
    omega
  · rw [textWidth]
    omega

include small in
theorem drawText_paints {x y : Int32} {text : List Char}
    (near : Near x y text) :
    (frame width height stride rowsFit).Paints
      (fun buf => drawText profile width height stride buf x y text)
      (textStrokes x.toInt y.toInt text) := by
  obtain ⟨left, top, short⟩ := near
  have padding : Int32.ofNat pad * 2 = Int32.ofNat (pad * 2) := by decide
  have four : pad = 4 := rfl
  have lines : glyphH * textScale = 21 := rfl
  have widened := textWidth text.length
  obtain ⟨counted, measured⟩ := usizeMul_textWidth profile short
  have textW : (Int32.ofNat (text.length * glyphStride * textScale)).toInt =
      (text.length * glyphStride * textScale : Nat) :=
    Int32.toInt_ofNat_of_lt (by omega)
  have textH : (Int32.ofNat (glyphH * textScale)).toInt =
      (glyphH * textScale : Nat) := Int32.toInt_ofNat_of_lt (by omega)
  obtain ⟨paddedW, bgW⟩ := @i32Add_ofNat profile
    (Int32.ofNat (text.length * glyphStride * textScale)) (pad * 2) (by omega) (by omega)
  obtain ⟨paddedH, bgH⟩ := @i32Add_ofNat profile
    (Int32.ofNat (glyphH * textScale)) (pad * 2) (by omega) (by omega)
  obtain ⟨indented, textX⟩ := @i32Add_ofNat profile x pad (by omega) (by omega)
  obtain ⟨lowered, textY⟩ := @i32Add_ofNat profile y pad (by omega) (by omega)
  rw [textW, ← Int.natCast_add] at bgW
  rw [textH, ← Int.natCast_add] at bgH
  have background := putRectangle_paints profile rowsFit small x y
    (Int32.ofNat (text.length * glyphStride * textScale) +
      Int32.ofNat (pad * 2))
    (Int32.ofNat (glyphH * textScale) + Int32.ofNat (pad * 2)) black
    (by omega) (by omega)
  rw [bgW, bgH, Int.toNat_natCast, Int.toNat_natCast] at background
  simp only [drawText, counted, measured, padding, paddedW, paddedH,
    indented, lowered, ok_bind]
  apply Raster.Paints.andThen background
  apply Raster.Paints.loop
  rintro ⟨ch, i⟩ member
  have index := List.snd_lt_of_mem_zipIdx member
  dsimp only at index ⊢
  cases glyph ch with
  | none => exact Raster.Paints.nothing
  | some rows =>
      have charWidth := textWidth i
      obtain ⟨charCounted, charMeasured⟩ :=
        @usizeMul_textWidth profile i (by omega)
      obtain ⟨moved, cx⟩ := @i32Add_ofNat profile
        (x + Int32.ofNat pad) (i * glyphStride * textScale)
        (by omega) (by omega)
      have drawn := putGlyph_paints profile rowsFit small
        (x + Int32.ofNat pad + Int32.ofNat (i * glyphStride * textScale))
        (y + Int32.ofNat pad) rows (by omega) (by omega)
      rw [cx, textX, textY] at drawn
      simp only [charCounted, charMeasured, moved, ok_bind]
      exact drawn

end Painting

end FpsOverlay

end RemoteWay.Client
