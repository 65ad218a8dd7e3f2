import Chip8.Picture

namespace Chip8

/-!
# Upscaling

A rendered picture shows every cell of the screen as a square of pixels.

* `getElem?_repeated` — a list whose elements are repeated, read at a place;
* `pixel?_ofCells` — the pixels of a picture are the cells that they lie in;
* `render_of_shape` — a grid of the shape of the screen can be rendered in every size and all
  colours;
* `pixel?_render` — the pixels of the picture.
-/

namespace Picture

/-- A list whose elements are repeated `count` times holds the element `i / count` at place `i`. -/
theorem getElem?_repeated {α : Type} {count : Nat} (h : 0 < count) (xs : List α) (i : Nat) :
    (repeated count xs)[i]? = xs[i / count]? := by
  -- The first `count` places belong to the first element, and the others move up by `count`.
  induction xs generalizing i with
  | nil => rfl
  | cons x rest ih =>
    have hcons : repeated count (x :: rest) = List.replicate count x ++ repeated count rest :=
      List.flatMap_cons
    rw [hcons]
    by_cases hi : i < count
    · rw [List.getElem?_append_left (by simpa using hi), Nat.div_eq_of_lt hi]
      simp [hi]
    · have hle : count ≤ i := Nat.le_of_not_lt hi
      have hplace : i / count = (i - count) / count + 1 := by
        rw [Nat.div_eq_sub_div h hle]
      rw [List.getElem?_append_right (by simpa using hle), List.length_replicate, ih, hplace]
      rfl

/-- A pixel has the colour of the cell that it lies in. -/
theorem pixel?_ofCells {scale : Nat} (h : 0 < scale) (cells : List (List Colour)) (i j : Nat) :
    (ofCells scale cells).pixel? i j = cells[i / scale]?.bind (·[j / scale]?) := by
  show ((repeated scale (cells.map (repeated scale)))[i]?).bind (·[j]?) = _
  rw [getElem?_repeated h, List.getElem?_map]
  cases cells[i / scale]? with
  | none => rfl
  | some row => exact getElem?_repeated h row j

end Picture

/-- A colour is that of its components. -/
theorem Colour.ofComponents_components (c : Colour) (pixels : Nat) :
    ofComponents c.components pixels = .ok c := by
  have hcomponent (b : UInt8) : isComponent b.toNat = true ∧ component b.toNat = b := by
    have hb := b.toNat_lt
    refine ⟨?_, by simp [component]⟩
    simp only [isComponent, Bool.and_eq_true, decide_eq_true_eq]
    omega
  simp [ofComponents, components, hcomponent]

namespace Grid

variable {g : Grid}

/-- A grid of the shape of the screen is rendered in every size and all colours. -/
theorem render_of_shape (h : g.shape = screenShape) {scale : Int} (hscale : 1 ≤ scale)
    (palette : Palette) :
    g.render scale palette.on.components palette.off.components =
      .ok (.ofCells scale.toNat (g.colours palette)) := by
  have hlarge : ¬ scale < 1 := by omega
  simp only [render, h, hlarge, Colour.ofComponents_components]
  rfl

/-- The same with a palette by name. -/
theorem screenshot_of_shape (h : g.shape = screenShape) {scale : Int} (hscale : 1 ≤ scale)
    {name : String} {palette : Palette} (hname : Palette.named name = .ok palette) :
    g.screenshot scale name = .ok (.ofCells scale.toNat (g.colours palette)) := by
  rw [screenshot, hname]
  exact render_of_shape h hscale palette

/-- The cells of a grid in two colours. -/
theorem getElem?_colours (palette : Palette) {x y : Nat} (hx : x < screenWidth) (hy : y < screenHeight) :
    (g.colours palette)[y]?.bind (·[x]?) = some (if g.lit x y then palette.on else palette.off) := by
  simp [colours, hx, hy]

/-- **A rendered picture shows every cell as a square of pixels**, lit cells in the one colour and
    dark cells in the other. -/
theorem pixel?_render (palette : Palette) {scale : Nat} (hscale : 0 < scale) {i j : Nat}
    (hi : i < screenHeight * scale) (hj : j < screenWidth * scale) :
    (Picture.ofCells scale (g.colours palette)).pixel? i j =
      some (if g.lit (j / scale) (i / scale) then palette.on else palette.off) := by
  have hx : j / scale < screenWidth := (Nat.div_lt_iff_lt_mul hscale).mpr hj
  have hy : i / scale < screenHeight := (Nat.div_lt_iff_lt_mul hscale).mpr hi
  rw [Picture.pixel?_ofCells hscale, getElem?_colours palette hx hy]

end Grid

end Chip8
