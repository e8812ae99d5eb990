import RemoteWay.Client.FpsOverlay
import RemoteWay.Display.DamageCoverage

/-!
# Damage of the FPS overlay

A frame rate is written with ten characters, so that the background of the
text fills exactly the rectangle that is reported as damaged.
-/

namespace RemoteWay.Client

open RemoteWay.Base RemoteWay.Display

namespace FpsOverlay

/-! ## Where the strokes are -/

theorem mem_glyphStrokes {cx textY : Int} {rows : Vector UInt8 glyphH}
    {stroke : Stroke UInt8 4} (member : stroke ∈ glyphStrokes cx textY rows) :
    (cx ≤ stroke.x ∧ stroke.x < cx + 15) ∧
      (textY ≤ stroke.y ∧ stroke.y < textY + 21) ∧ stroke.value = white := by
  have three : textScale = 3 := rfl
  simp only [glyphStrokes, List.mem_flatMap] at member
  obtain ⟨⟨rowBits, rowIdx⟩, rowMember, col, colMember, member⟩ := member
  have row := List.snd_lt_of_mem_zipIdx rowMember
  have column := List.mem_range.mp colMember
  rw [Vector.length_toList] at row
  simp only [glyphW, glyphH, Nat.add_zero] at row column
  have toRight : col * textScale ≤ 12 :=
    Nat.mul_le_mul_right 3 (Nat.le_of_lt_succ column)
  have toBottom : rowIdx * textScale ≤ 18 :=
    Nat.mul_le_mul_right 3 (Nat.le_of_lt_succ row)
  dsimp only at member
  split_ifs at member with shines
  · obtain ⟨across, down, value⟩ := mem_rectangle_iff.mp member
    exact ⟨⟨by omega, by omega⟩, ⟨by omega, by omega⟩, value⟩
  · cases member

/-- All strokes of a text are on its background, and are black or white. -/
theorem mem_textStrokes {x y : Int} {text : List Char}
    {stroke : Stroke UInt8 4} (member : stroke ∈ textStrokes x y text) :
    (x ≤ stroke.x ∧ stroke.x < x + (text.length * 18 + 8 : Nat)) ∧
      (y ≤ stroke.y ∧ stroke.y < y + 29) ∧
        (stroke.value = black ∨ stroke.value = white) := by
  have four : pad = 4 := rfl
  rcases List.mem_append.mp member with background | foreground
  · obtain ⟨across, down, value⟩ := mem_rectangle_iff.mp background
    rw [textWidth] at across
    exact ⟨across, down, .inl value⟩
  · obtain ⟨⟨ch, i⟩, charMember, drawn⟩ := List.mem_flatMap.mp foreground
    have index := List.snd_lt_of_mem_zipIdx charMember
    dsimp only at index drawn
    cases shape : glyph ch with
    | none =>
        rw [shape] at drawn
        cases drawn
    | some rows =>
        rw [shape] at drawn
        obtain ⟨across, down, value⟩ := mem_glyphStrokes drawn
        rw [textWidth] at across
        exact ⟨⟨by omega, by omega⟩, ⟨by omega, by omega⟩, .inr value⟩

/-- The background reaches every pixel of its rectangle. -/
theorem exists_textStroke {x y : Nat} {text : List Char} {left top : Int}
    (across : left ≤ x ∧ (x : Int) < left + (text.length * 18 + 8 : Nat))
    (down : top ≤ y ∧ (y : Int) < top + 29) :
    ∃ stroke, stroke ∈ textStrokes left top text ∧ stroke.At x y := by
  refine ⟨⟨x, y, black⟩, List.mem_append_left _ ?_, rfl, rfl⟩
  rw [mem_rectangle_iff, textWidth]
  exact ⟨across, down, rfl⟩

/-! ## The text of a frame rate -/

theorem fourDigits_clamp (fps : UInt32) :
    F32.FourDigits (clamp fps) := by
  rw [clamp]
  split_ifs with shown
  · have nonneg := (Bool.and_eq_true _ _ ▸ shown).2
    have number := nonneg
    simp only [F32.ge, Bool.and_eq_true, Bool.not_eq_true'] at number
    obtain ⟨⟨number, _⟩, _⟩ := number
    have limit : F32.isNan F32.below1000 = false := by decide
    rw [F32.min, number, limit, if_neg Bool.false_ne_true,
      if_neg Bool.false_ne_true]
    split_ifs with smaller
    · refine ⟨nonneg, ?_⟩
      rw [F32.ge, number, limit, decide_eq_true smaller]
      rfl
    · exact ⟨by decide, by decide⟩
  · exact ⟨by decide, by decide⟩

/-- Numbers between 0 and 999.9 have at most five characters. -/
def ShortTexts (oneDecimal : UInt32 → List Char) : Prop :=
  ∀ bits, F32.FourDigits bits → (oneDecimal bits).length ≤ 5

theorem length_fpsText {oneDecimal : UInt32 → List Char}
    (short : ShortTexts oneDecimal) (fps : UInt32) :
    (fpsText oneDecimal fps).length = 10 := by
  have digits := short (clamp fps) (fourDigits_clamp fps)
  have heading : "FPS: ".toList.length = 5 := rfl
  unfold fpsText
  generalize "FPS: ".toList = title at heading ⊢
  dsimp only
  rw [List.length_append, List.length_append, List.length_replicate, heading]
  omega

/-! ## The overlay on a picture -/

/-- The rectangle of `overlay_rect(10, 10)`. -/
def overlayRegion : DamageRegion :=
  let (x, y, w, h) := overlayRect 10 10
  ⟨x, y, w, h⟩

/-- The pixel is in the rectangle and in the picture. -/
def InOverlay (picture : Picture) (x y : Nat) : Prop :=
  overlayRegion.Contains x y ∧
    x < picture.width.toNat ∧ y < picture.height.toNat

/-- The byte at an offset is one of the pixel's four. -/
def HasByte (picture : Picture) (x y index : Nat) : Prop :=
  y * picture.stride.toNat + x * 4 ≤ index ∧
    index < y * picture.stride.toNat + x * 4 + 4

theorem overlayRegion_contains_iff {x y : Nat} :
    overlayRegion.Contains x y ↔
      (10 ≤ x ∧ x < 10 + 188) ∧ 10 ≤ y ∧ y < 10 + 29 := by
  have same : overlayRegion = ⟨10, 10, 188, 29⟩ := by decide
  rw [same]
  exact Iff.rfl

/-- The damage for the overlay, as far as it is in the picture. -/
def clippedRegion (picture : Picture) : DamageRegion :=
  { overlayRegion with
    width := min overlayRegion.width
      (saturatingSub picture.width overlayRegion.x)
    height := min overlayRegion.height
      (saturatingSub picture.height overlayRegion.y) }

theorem toNat_min_saturatingSub (length size start : UInt32) :
    (min length (saturatingSub size start)).toNat =
      min length.toNat (size.toNat - start.toNat) := by
  have difference : (saturatingSub size start).toNat =
      size.toNat - start.toNat := by
    rw [saturatingSub]
    split_ifs with inside
    · exact UInt32.toNat_sub_of_le _ _ inside
    · rw [UInt32.le_iff_toNat_le] at inside
      change 0 = _
      omega
  rw [u32_toNat_min, difference]

theorem clippedRegion_contains_iff {picture : Picture} {x y : Nat} :
    (clippedRegion picture).Contains x y ↔ InOverlay picture x y := by
  simp only [InOverlay, DamageRegion.Contains, clippedRegion,
    toNat_min_saturatingSub]
  omega

section Overlay

variable (profile : Profile) {oneDecimal : UInt32 → List Char}
variable (fps : UInt32) {picture : Picture}

/-- The strokes of the overlay. -/
def overlayStrokes (oneDecimal : UInt32 → List Char) (fps : UInt32) :
    List (Stroke UInt8 4) :=
  textStrokes 10 10 (fpsText oneDecimal fps)

theorem overlayStrokes_at (short : ShortTexts oneDecimal) {x y : Nat} :
    (∃ stroke, stroke ∈ overlayStrokes oneDecimal fps ∧ stroke.At x y) ↔
      overlayRegion.Contains x y := by
  have length := length_fpsText short fps
  rw [overlayRegion_contains_iff]
  constructor
  · rintro ⟨stroke, member, column, row⟩
    obtain ⟨across, down, _⟩ := mem_textStrokes member
    rw [length] at across
    omega
  · rintro ⟨across, down⟩
    apply exists_textStroke
    · rw [length]
      omega
    · omega

theorem drawFps_eq (short : ShortTexts oneDecimal)
    (rowsFit : picture.width.toNat * 4 ≤ picture.stride.toNat)
    (whole : picture.data.length =
      picture.stride.toNat * picture.height.toNat)
    (small : picture.stride.toNat * picture.height.toNat < 2 ^ 32) :
    drawFps profile picture.width picture.height picture.stride oneDecimal
        picture.data fps =
      .ok ((frame picture.width picture.height picture.stride
        rowsFit).paintAll picture.data (overlayStrokes oneDecimal fps)) := by
  have ten : (10 : Int32).toInt = 10 := by decide
  have near : Near 10 10 (fpsText oneDecimal fps) := by
    rw [Near, length_fpsText short, ten]
    omega
  have drawn := drawText_paints profile rowsFit small near picture.data whole
  rw [ten] at drawn
  exact drawn

/-- Every pixel of the overlay's rectangle that is in the picture is black or
white, no other byte is changed, and a region contains every pixel of which a
byte is. -/
structure Overlays (picture : Picture) (data : List UInt8)
    (region : DamageRegion) : Prop where
  length : data.length = picture.data.length
  painted : ∀ x y, InOverlay picture x y → ∃ rgba : Rgba,
    (rgba = black ∨ rgba = white) ∧ rgba[3] = 255 ∧
      { picture with data := data }.pixel x y = some rgba.toList
  damaged : ∀ index, data[index]? ≠ picture.data[index]? →
    ∃ x y, InOverlay picture x y ∧ HasByte picture x y index ∧
      region.Contains x y

theorem overlays_paintAll (short : ShortTexts oneDecimal)
    (rowsFit : picture.width.toNat * 4 ≤ picture.stride.toNat)
    (whole : picture.data.length =
      picture.stride.toNat * picture.height.toNat) :
    Overlays picture
      ((frame picture.width picture.height picture.stride rowsFit).paintAll
        picture.data (overlayStrokes oneDecimal fps))
      (clippedRegion picture) where
  length := by
    rw [Raster.length_paintAll whole, whole]
    rfl
  painted := by
    rintro x y ⟨inside, across, down⟩
    have reached := (overlayStrokes_at fps short).mpr inside
    obtain ⟨stroke, member, _, value⟩ := @Raster.cellAt_paintAll _ _
      (frame _ _ _ rowsFit) _ whole _ x y across down reached
    obtain ⟨_, _, colour⟩ := mem_textStrokes member
    refine ⟨stroke.value, colour, ?_, ?_⟩
    · rcases colour with same | same
      · rw [same]
        rfl
      · rw [same]
        rfl
    · rw [Picture.pixel, if_pos ⟨across, down⟩, ← value]
      rfl
  damaged := by
    intro index changed
    obtain ⟨stroke, member, x, y, across, down, here, bytes⟩ :=
      Raster.paintAll_changes whole changed
    have inside : InOverlay picture x y :=
      ⟨(overlayStrokes_at fps short).mp ⟨stroke, member, here⟩, across, down⟩
    exact ⟨x, y, inside, bytes, clippedRegion_contains_iff.mpr inside⟩

theorem paintOverlay_of_drawFps {data : List UInt8}
    (damage : List DamageRegion)
    (drawn : drawFps profile picture.width picture.height picture.stride
      oneDecimal picture.data fps = .ok data) :
    paintOverlay profile oneDecimal true fps picture damage =
      .ok ({ picture with data := data },
        damage ++ [clippedRegion picture]) := by
  rw [paintOverlay, if_pos rfl, drawn]
  rfl

/-- Whatever the frame rate and the picture, drawing the overlay does not
panic and stays in its rectangle, and the damage that is added covers it. -/
theorem paintOverlay_overlays (short : ShortTexts oneDecimal)
    (damage : List DamageRegion)
    (rowsFit : 4 * picture.width.toNat ≤ picture.stride.toNat)
    (whole : picture.data.length =
      picture.stride.toNat * picture.height.toNat)
    (small : picture.stride.toNat * picture.height.toNat < 2 ^ 32) :
    ∃ data region,
      drawFps profile picture.width picture.height picture.stride oneDecimal
          picture.data fps = .ok data ∧
        paintOverlay profile oneDecimal true fps picture damage =
          .ok ({ picture with data := data }, damage ++ [region]) ∧
        Overlays picture data region := by
  rw [Nat.mul_comm 4] at rowsFit
  have drawn := drawFps_eq profile fps short rowsFit whole small
  exact ⟨_, _, drawn, paintOverlay_of_drawFps profile fps damage drawn,
    overlays_paintAll fps short rowsFit whole⟩

/-- A picture smaller than the overlay, with padded rows. -/
def padded : Picture := ⟨16, 12, 72, List.replicate 864 7⟩

/-- The frame rate is no number. -/
theorem paintOverlay_overlays_padded :
    ∃ data region,
      drawFps .dev 16 12 72 F32.oneDecimal padded.data 0x7FC00000 =
          .ok data ∧
        paintOverlay .dev F32.oneDecimal true 0x7FC00000 padded [] =
          .ok ({ padded with data := data }, [] ++ [region]) ∧
        Overlays padded data region :=
  @paintOverlay_overlays .dev F32.oneDecimal 0x7FC00000 padded
    (fun _ => F32.length_oneDecimal_le) [] (by decide)
    List.length_replicate (by decide)

/-! ## The overlay as a rendering -/

/-- What the code draws, as a function of the frame rate's bits. -/
def drawnData (profile : Profile) (oneDecimal : UInt32 → List Char)
    (fps : Nat) (picture : Picture) : List UInt8 :=
  match drawFps profile picture.width picture.height picture.stride
      oneDecimal picture.data (UInt32.ofNat fps) with
  | .ok data => data
  | .error _ => picture.data

/-- A rendering that draws what the code draws paints and damages what the
code does. -/
theorem paintOverlay_eq_rendering {rendering : Rendering} {bits : Nat}
    (draws : rendering.drawFps = some (drawnData profile oneDecimal))
    (short : ShortTexts oneDecimal) (damage : List DamageRegion)
    (rowsFit : picture.width.toNat * 4 ≤ picture.stride.toNat)
    (whole : picture.data.length =
      picture.stride.toNat * picture.height.toNat)
    (small : picture.stride.toNat * picture.height.toNat < 2 ^ 32) :
    paintOverlay profile oneDecimal true (UInt32.ofNat bits) picture damage =
      .ok (rendering.painted bits picture,
        damage ++ rendering.overlayDamage picture) := by
  have drawn := drawFps_eq profile (UInt32.ofNat bits) short rowsFit whole
    small
  have painted : rendering.painted bits picture =
      { picture with
        data := (frame picture.width picture.height picture.stride
          rowsFit).paintAll picture.data
            (overlayStrokes oneDecimal (UInt32.ofNat bits)) } := by
    rw [Rendering.painted, draws]
    dsimp only
    rw [drawnData, drawn]
  have damaged : rendering.overlayDamage picture =
      [clippedRegion picture] := by
    rw [Rendering.overlayDamage, draws]
    rfl
  rw [painted, damaged]
  exact paintOverlay_of_drawFps profile _ damage drawn

end Overlay

end FpsOverlay

end RemoteWay.Client
