import Chip8.HostNumber
import Chip8.Picture

namespace Chip8

/-!
# Paint

A host may give one colour for all cells of a kind, or one for each of them, as components in lists
nested to any depth.

* `Coat`, `Block.coat` — the colours of the cells of a kind, in reading order;
* `Grid.painted` — the colours of all cells;
* `coatOf_ints`, `Grid.painted_plain` — a plain list of integers gives the colour that
  `Colour.ofComponents` gives, and plain colours give what `Grid.colours` gives.
-/

/-! ### Coats -/

/-- The colours of the cells of a kind. -/
inductive Coat
  /-- All cells have this colour. -/
  | plain (colour : Colour)
  /-- Each cell has a colour of its own, in reading order. -/
  | each (colours : List Colour)
deriving DecidableEq, Repr, Inhabited

namespace Coat

/-- The colour of the first cell. -/
def first : Coat → Colour
  | plain colour => colour
  | each colours => colours.headD default

/-- The colours of the cells after the first `count`. -/
def drop (count : Nat) : Coat → Coat
  | plain colour => plain colour
  | each colours => each (colours.drop count)

end Coat

namespace Block

/-- The colours of some components, three for each. -/
def triples : List UInt8 → List Colour
  | r :: g :: b :: rest => ⟨r, g, b⟩ :: triples rest
  | _ => []

/-- The colours in a block: one component stands for three unless there are three. -/
def colours (b : Block UInt8) : List Colour :=
  if b.shape.getLast? = some 3 then triples b.items
  else b.items.map fun c => ⟨c, c, c⟩

/-- Whether a block holds one colour for all of some pixels, or one for each.  The lists around them
    must have one item each. -/
def covers (b : Block UInt8) (pixels : Nat) : Bool :=
  match b.shape.reverse with
  | [] => true
  | width :: outside =>
    (width == 1 || width == 3) &&
      match outside with
      | [] => true
      | count :: outside => (count == 1 || count == pixels) && outside.all (· == 1)

/-- A block as the colours of that many pixels. -/
def coat (b : Block UInt8) (pixels : Nat) : Except Error Coat :=
  if b.covers pixels then
    match b.colours with
    | [colour] => .ok (.plain colour)
    | colours => .ok (.each colours)
  else .error (.wrongColour b.shape pixels)

end Block

/-- A value as the colours of that many pixels. -/
def coatOf (v : Value) (pixels : Nat) : Except Error Coat := do
  let block ← Block.ofValue Value.byte v
  block.coat pixels

/-- The bytes of some integers. -/
theorem mapM_byte_ints (components : List Int) :
    (components.map Value.int).mapM Value.byte
      = if components.all Colour.isComponent then .ok (components.map Colour.component)
        else .error .outOfRange := by
  induction components with
  | nil => rfl
  | cons c rest ih =>
    rw [List.map_cons, List.mapM_cons, ih, Value.byte_int]
    by_cases hc : 0 ≤ c ∧ c ≤ 255
    · have hcomp : Colour.isComponent c = true := by simp [Colour.isComponent, hc]
      by_cases hr : rest.all Colour.isComponent = true
      · simp [hc, hcomp, hr, bind, Except.bind, pure, Except.pure, Colour.component]
      · simp [hc, hcomp, hr, bind, Except.bind]
    · have hcomp : Colour.isComponent c = false := by
        simp only [Colour.isComponent, Bool.and_eq_false_iff, decide_eq_false_iff_not]
        omega
      simp [hc, hcomp, bind, Except.bind]

/-- A plain list of integers gives one colour, and the same one that its components make. -/
theorem coatOf_ints (components : List Int) (pixels : Nat) :
    coatOf (.list (components.map Value.int)) pixels
      = (Colour.ofComponents components pixels).map Coat.plain := by
  simp only [coatOf, Block.ofValue_ints, mapM_byte_ints, Colour.ofComponents]
  by_cases h : components.all Colour.isComponent = true
  · simp only [h, if_true]
    match components with
    | [] => rfl
    | [_] => rfl
    | [_, _] => rfl
    | [_, _, _] => rfl
    | _ :: _ :: _ :: _ :: rest =>
      simp [bind, Except.bind, Block.coat, Block.covers, Except.map]
  · simp only [h]
    rfl

/-! ### Painting -/

/-- The colours of a row of lit and dark cells. -/
def paintRow : List Bool → Coat → Coat → List Colour
  | [], _, _ => []
  | true :: rest, on, off => on.first :: paintRow rest (on.drop 1) off
  | false :: rest, on, off => off.first :: paintRow rest on (off.drop 1)

/-- The colours of rows of lit and dark cells. -/
def paintRows : List (List Bool) → Coat → Coat → List (List Colour)
  | [], _, _ => []
  | row :: rest, on, off =>
    paintRow row on off :: paintRows rest (on.drop (row.count true)) (off.drop (row.count false))

/-- Every cell of a row gets a colour. -/
@[simp] theorem length_paintRow (cells : List Bool) (on off : Coat) :
    (paintRow cells on off).length = cells.length := by
  induction cells generalizing on off with
  | nil => rfl
  | cons c rest ih => cases c <;> simp [paintRow, ih]

/-- Plain colours in a row. -/
theorem paintRow_plain (cells : List Bool) (on off : Colour) :
    paintRow cells (.plain on) (.plain off) = cells.map fun lit => if lit then on else off := by
  induction cells with
  | nil => rfl
  | cons c rest ih => cases c <;> simp [paintRow, Coat.first, Coat.drop, ih]

/-- Plain colours in rows. -/
theorem paintRows_plain (rows : List (List Bool)) (on off : Colour) :
    paintRows rows (.plain on) (.plain off)
      = rows.map fun row => row.map fun lit => if lit then on else off := by
  induction rows with
  | nil => rfl
  | cons row rest ih => simp [paintRows, Coat.drop, paintRow_plain, ih]

namespace Grid

/-- The cells of a grid of the shape of the screen, row by row. -/
def cells (g : Grid) : List (List Bool) :=
  (List.range screenHeight).map fun y => (List.range screenWidth).map fun x => g.lit x y

/-- The colours of a grid of the shape of the screen, one per cell, the lit and the dark cells each
    taking theirs in reading order. -/
def painted (g : Grid) (on off : Coat) : List (List Colour) := paintRows g.cells on off

/-- Plain colours are the colours of a palette. -/
theorem painted_plain (g : Grid) (on off : Colour) :
    g.painted (.plain on) (.plain off) = g.colours ⟨on, off⟩ := by
  simp [painted, paintRows_plain, cells, colours]

end Grid

end Chip8
