import Chip8.Picture.Extent
import Chip8.Picture.Paint

namespace Chip8

open Chip8.Decimal

/-!
# Requested pictures

A host may ask for a picture with a scale, colours and a palette of any kind of value.

* `Palette.ofName` — the palette of a name;
* `Grid.darkFor` — a dark grid of a host's shape;
* `Grid.scaleOf` — the scale of a host, `ArrayLibrary.upscale` — the picture stretched in both
  directions;
* `Grid.renderWith`, `Grid.renderFor` — a picture with the scale and the colours of a host, made by
  any library of arrays and by the usual one;
* `Grid.screenshotFor` — a picture with the scale and the palette of a host;
* `Grid.renderWith_int`, `Grid.screenshotFor_int` — proper values give the pictures that
  `Grid.render` and `Grid.screenshot` give.
-/

/-- The palette of a name. -/
def Palette.ofName (name : Value) : Except Error Palette := do
  let text ← name.lookupName
  Palette.named text

namespace Grid

/-- A grid of dark cells whose lengths a host gives, if a grid of these lengths can be held. -/
def darkFor (shape : Value) : Except Error Grid := do
  let extent ← Extent.ofValue shape
  (extent.check memoryLimit).mapError ArrayRefusal.error
  pure (dark (extent.map Int.toNat))

/-- The scale that a value stands for.  It must not be below one, and it loses what stands behind
    its point; one that is no number at all leaves the picture as it is. -/
def scaleOf (scale : Value) : Except Error Int :=
  match scale with
  | .int k => if k < 1 then .error (.scaleTooSmall scale) else .ok k
  | .bool b => if b then .ok 1 else .error (.scaleTooSmall scale)
  | .float x =>
    if x < 1 then .error (.scaleTooSmall scale)
    else
      match Double.ofFloat x with
      | .finite value => .ok value.whole
      | .infinite _ => .ok systemLimit
      | .notANumber => .ok 1
  | _ => .error .wrongKind

end Grid

/-- A picture of the screen stretched to a scale: its rows first, then its columns, with three bytes
    for each pixel.  A scale of one leaves it as it is. -/
def ArrayLibrary.upscale (library : ArrayLibrary) (k : Int) : Except ArrayRefusal Nat :=
  if k ≤ 1 then .ok k.toNat
  else do
    library.stretch [screenHeight, screenWidth, 3] 0 k
    library.stretch [screenHeight * k, screenWidth, 3] 1 k
    pure k.toNat

namespace Grid

/-- A grid as a picture with the scale and the colours of a host.  The shape is checked first, then
    the scale, then one colour after the other; a picture that the library does not make is refused
    last. -/
def renderWith (library : ArrayLibrary) (g : Grid) (scale on off : Value) : Except Error Picture := do
  if g.shape ≠ screenShape then throw (.wrongShape screenShape g.shape)
  let k ← scaleOf scale
  let onCoat ← coatOf on g.litCells
  let offCoat ← coatOf off (screenWidth * screenHeight - g.litCells)
  let pixels ← (library.upscale k).mapError ArrayRefusal.error
  pure (.ofCells pixels (g.painted onCoat offCoat))

/-- The same with the library of a system with the usual memory. -/
def renderFor (g : Grid) (scale on off : Value) : Except Error Picture :=
  g.renderWith (.ofMemory memoryLimit) scale on off

/-- A grid as a picture with the scale and the palette of a host; the palette is looked up first. -/
def screenshotFor (g : Grid) (scale palette : Value) : Except Error Picture := do
  let p ← Palette.ofName palette
  let colour (c : Colour) : Value := .list (c.components.map Value.int)
  g.renderFor scale (colour p.on) (colour p.off)

/-- Proper values give the picture that they give as numbers, if the library makes it. -/
theorem renderWith_int {library : ArrayLibrary} (g : Grid) {k : Int}
    (h : library.upscale k = .ok k.toNat) (on off : List Int) :
    g.renderWith library (.int k) (.list (on.map Value.int)) (.list (off.map Value.int))
      = g.render k on off := by
  have hpixels : (library.upscale k).mapError ArrayRefusal.error = .ok k.toNat := by
    rw [h]
    rfl
  unfold renderWith render
  by_cases hs : g.shape = screenShape
  · by_cases hk : k < 1
    · simp [hs, hk, scaleOf, bind, Except.bind, throw, throwThe, MonadExceptOf.throw]
    · cases hon : Colour.ofComponents on g.litCells with
      | error e => simp [hs, hk, hon, coatOf_ints, scaleOf, bind, Except.bind, Except.map]
      | ok c =>
        cases hoff : Colour.ofComponents off (screenWidth * screenHeight - g.litCells) with
        | error e =>
          simp [hs, hk, hon, hoff, coatOf_ints, scaleOf, bind, Except.bind, Except.map]
        | ok d =>
          simp [hs, hk, hon, hoff, coatOf_ints, scaleOf, hpixels, painted_plain, bind, Except.bind,
            Except.map, pure, Except.pure]
  · simp [hs, bind, Except.bind, throw, throwThe, MonadExceptOf.throw]

/-- The usual scale and the name of a palette give the picture that they give as such. -/
theorem screenshotFor_int (g : Grid) (palette : String) :
    g.screenshotFor (.int defaultScale) (.text palette) = g.screenshot defaultScale palette := by
  have hscale : (ArrayLibrary.ofMemory memoryLimit).upscale defaultScale = .ok defaultScale.toNat := rfl
  unfold screenshotFor screenshot
  cases hp : Palette.named palette <;>
    simp [Palette.ofName, hp, bind, Except.bind, renderFor, renderWith_int g hscale]

end Grid

end Chip8
