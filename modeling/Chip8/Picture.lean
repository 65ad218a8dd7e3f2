import Chip8.Error
import Chip8.Runs
import Chip8.Screen

namespace Chip8

/-!
# Pictures

The screen as a coloured picture.

* `Colour`, `Palette`, `Palette.named` — colours, and the pairs of colours that have a name;
* `Grid` — lit and dark cells of any shape, of which only that of the screen can be rendered;
* `Picture.ofCells`, `Grid.render` — the picture, every cell a square of `scale` by `scale` pixels;
* `Grid.screenshot` — the same with a palette by name.
-/

/-- A colour. -/
structure Colour where
  red : UInt8
  green : UInt8
  blue : UInt8
deriving DecidableEq, Repr, Inhabited

namespace Colour

/-- Whether a number can be a component. -/
def isComponent (z : Int) : Bool := decide (0 ≤ z) && decide (z ≤ 255)

/-- The component of a number. -/
def component (z : Int) : UInt8 := UInt8.ofNat z.toNat

/-- The colour of some components, which is to be given to that many pixels.  One component alone
    stands for all three. -/
def ofComponents (components : List Int) (pixels : Nat) : Except Error Colour :=
  if components.all isComponent then
    match components with
    | [c] => .ok ⟨component c, component c, component c⟩
    | [r, g, b] => .ok ⟨component r, component g, component b⟩
    | other => .error (.wrongColour [other.length] pixels)
  else .error .outOfRange

/-- The components of a colour. -/
def components (c : Colour) : List Int := [c.red.toNat, c.green.toNat, c.blue.toNat]

end Colour

/-- The colours of lit and of dark pixels. -/
structure Palette where
  on : Colour
  off : Colour
deriving DecidableEq, Repr, Inhabited

namespace Palette

/-- Green on black. -/
def classic : Palette := ⟨⟨0, 255, 0⟩, ⟨0, 0, 0⟩⟩

/-- The palettes that have a name. -/
def presets : List (String × Palette) :=
  [("classic", classic),
   ("amber", ⟨⟨255, 176, 0⟩, ⟨0, 0, 0⟩⟩),
   ("white", ⟨⟨255, 255, 255⟩, ⟨0, 0, 0⟩⟩),
   ("blue", ⟨⟨0, 255, 255⟩, ⟨0, 0, 64⟩⟩),
   ("retro", ⟨⟨255, 255, 0⟩, ⟨64, 0, 64⟩⟩)]

/-- The palette of a name. -/
def named (name : String) : Except Error Palette :=
  match presets.lookup name with
  | some palette => .ok palette
  | none => .error (.unknownPalette name (presets.map (·.1)))

end Palette

/-- A coloured picture, row by row from the top. -/
structure Picture where
  width : Nat
  height : Nat
  rows : List (List Colour)
deriving DecidableEq, Repr, Inhabited

namespace Picture

/-- The elements of a list, each repeated. -/
def repeated {α : Type} (count : Nat) (xs : List α) : List α := xs.flatMap (List.replicate count)

/-- The pixel in row `i` and column `j`. -/
def pixel? (p : Picture) (i j : Nat) : Option Colour := p.rows[i]?.bind (·[j]?)

/-- A picture of the screen from the colours of its cells, with `scale` by `scale` pixels for
    each. -/
def ofCells (scale : Nat) (cells : List (List Colour)) : Picture where
  width := screenWidth * scale
  height := screenHeight * scale
  rows := repeated scale (cells.map (repeated scale))

/-- The pixels row by row as runs of one colour, which go on across the ends of rows. -/
def colourRuns (p : Picture) : List (Nat × Colour) := runs p.rows.flatten

end Picture

/-- Lit and dark cells, with the lengths of the grid along its axes.  `lit x y` matters for grids of
    two axes only. -/
structure Grid where
  shape : List Nat
  lit : Nat → Nat → Bool

/-- The shape of the screen: columns, then rows. -/
def screenShape : List Nat := [screenWidth, screenHeight]

/-- The screen as a grid. -/
def Screen.grid (s : Screen) : Grid where
  shape := screenShape
  lit x y := if h : x < 64 ∧ y < 32 then s.pixel ⟨x, h.1⟩ ⟨y, h.2⟩ else false

namespace Grid

/-- A grid of dark cells. -/
def dark (shape : List Nat) : Grid := ⟨shape, fun _ _ => false⟩

/-- The number of lit cells of a grid of the shape of the screen. -/
def litCells (g : Grid) : Nat :=
  ((List.range screenHeight).map fun y =>
    (List.range screenWidth).countP (fun x => g.lit x y)).foldr (· + ·) 0

/-- The colours of a grid of the shape of the screen, one per cell. -/
def colours (g : Grid) (palette : Palette) : List (List Colour) :=
  (List.range screenHeight).map fun y =>
    (List.range screenWidth).map fun x => if g.lit x y then palette.on else palette.off

/-- A grid as a picture with `scale` by `scale` pixels for a cell.  The shape is checked first, then
    the scale, then the colours. -/
def render (g : Grid) (scale : Int) (on off : List Int) : Except Error Picture := do
  if g.shape ≠ screenShape then throw (.wrongShape screenShape g.shape)
  if scale < 1 then throw (.scaleTooSmall (.int scale))
  let lit := g.litCells
  let on ← Colour.ofComponents on lit
  let off ← Colour.ofComponents off (screenWidth * screenHeight - lit)
  pure (.ofCells scale.toNat (g.colours ⟨on, off⟩))

/-- The scale of a picture if nothing else is asked for. -/
def defaultScale : Int := 8

/-- A grid as a picture in the colours of a named palette, which is looked up first. -/
def screenshot (g : Grid) (scale : Int) (palette : String) : Except Error Picture := do
  let p ← Palette.named palette
  g.render scale p.on.components p.off.components

end Grid

end Chip8
