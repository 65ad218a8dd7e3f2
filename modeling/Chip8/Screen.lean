namespace Chip8

/-!
# Screen

A picture of 64 by 32 pixels.  A row is one 64-bit word whose most significant bit is the leftmost
pixel.

* `Screen.pixel`, `Screen.setPixel`, `Screen.toggle` — single pixels;
* `Screen.xor`, `Screen.meets` — two screens laid over each other;
* `Screen.ofSprite` — the screen that shows nothing but one sprite, wrapped around both edges;
* `pixel_setPixel`, `pixel_toggle`, `pixel_xor`, `meets_iff` — all of these pixel by pixel;
* `pixel_ofSprite` — which pixels of a sprite are lit.
-/

/-- The width of the screen in pixels. -/
def screenWidth : Nat := 64

/-- The height of the screen in pixels. -/
def screenHeight : Nat := 32

/-- The pixels of the screen, row by row from the top. -/
structure Screen where
  rows : Vector (BitVec 64) 32
deriving DecidableEq, Repr

namespace Screen

/-- The dark screen. -/
def blank : Screen := ⟨Vector.replicate 32 0⟩

instance : Inhabited Screen := ⟨blank⟩

/-- The pixels of a row. -/
def row (s : Screen) (y : Fin 32) : BitVec 64 := s.rows[y]

/-- Whether a pixel is lit. -/
def pixel (s : Screen) (x : Fin 64) (y : Fin 32) : Bool := s.rows[y].getMsbD x

/-- The word whose only set bit is the pixel in column `x`. -/
def column (x : Fin 64) : BitVec 64 := 1#64 <<< (63 - x.val)

/-- The screen with one pixel lit or darkened. -/
def setPixel (s : Screen) (x : Fin 64) (y : Fin 32) (on : Bool) : Screen :=
  let row := if on then s.rows[y] ||| column x else s.rows[y] &&& ~~~(column x)
  ⟨s.rows.set y row⟩

/-- The screen with one pixel changed to its opposite. -/
def toggle (s : Screen) (x : Fin 64) (y : Fin 32) : Screen := s.setPixel x y (!s.pixel x y)

/-- Two screens laid over each other: a pixel is lit when it is lit in exactly one of them. -/
def xor (s t : Screen) : Screen := ⟨Vector.ofFn (fun y => s.rows[y] ^^^ t.rows[y])⟩

/-- Whether some pixel is lit in both screens. -/
def meets (s t : Screen) : Bool :=
  (List.finRange 32).any (fun y => (s.rows[y] &&& t.rows[y]) != 0)

/-- The number of lit pixels in a row. -/
def litInRow (s : Screen) (y : Fin 32) : Nat :=
  (List.finRange 64).countP (fun x => s.pixel x y)

/-- The number of lit pixels. -/
def lit (s : Screen) : Nat := ((List.finRange 32).map s.litInRow).foldr (· + ·) 0

/-- A sprite byte as a row, its most significant bit in column `x` and the others to the right of
    it, around the edge if need be. -/
def spriteRow (byte : UInt8) (x : Nat) : BitVec 64 :=
  ((byte.toBitVec.setWidth 64) <<< 56).rotateRight x

/-- The screen that shows one sprite at `(x, y)`, taken modulo the size of the screen.  Each byte is
    one row of eight pixels; what leaves the screen at one edge comes back at the opposite one. -/
def ofSprite (x y : Nat) (bytes : List UInt8) : Screen :=
  ⟨Vector.ofFn (fun row =>
    let offset := (row.val + 32 - y % 32) % 32
    match bytes[offset]? with
    | some byte => spriteRow byte (x % 64)
    | none => 0)⟩

/-- The word of a column has the bit of that pixel and no other. -/
theorem getMsbD_column (x c : Fin 64) : (column x).getMsbD c = decide (c = x) := by
  have hx := x.isLt
  have hc := c.isLt
  rw [column, ← BitVec.twoPow_eq, BitVec.getMsbD_twoPow, Bool.eq_iff_iff]
  simp only [Bool.and_eq_true, decide_eq_true_eq, Fin.ext_iff]
  omega

/-- A pixel that is set holds its new value, the others keep theirs. -/
theorem pixel_setPixel (s : Screen) (x : Fin 64) (y : Fin 32) (on : Bool) (cx : Fin 64)
    (cy : Fin 32) :
    (s.setPixel x y on).pixel cx cy = if cx = x ∧ cy = y then on else s.pixel cx cy := by
  by_cases hy : cy = y
  · subst hy
    by_cases hx : cx = x <;>
      cases on <;> simp [pixel, setPixel, BitVec.getMsbD_or, BitVec.getMsbD_and, getMsbD_column, hx]
  · have hrow : ¬ y.val = cy.val := fun h => hy (Fin.ext h.symm)
    simp [pixel, setPixel, hy, hrow]

/-- A toggled pixel becomes its opposite, the others stay. -/
theorem pixel_toggle (s : Screen) (x : Fin 64) (y : Fin 32) (cx : Fin 64) (cy : Fin 32) :
    (s.toggle x y).pixel cx cy = (s.pixel cx cy ^^ decide (cx = x ∧ cy = y)) := by
  rw [toggle, pixel_setPixel]
  split
  · next h => simp [h.1, h.2]
  · next h => simp [h]

/-- A pixel of two screens laid over each other. -/
@[simp] theorem pixel_xor (s t : Screen) (x : Fin 64) (y : Fin 32) :
    (s.xor t).pixel x y = (s.pixel x y ^^ t.pixel x y) := by
  simp [pixel, xor, BitVec.getMsbD_xor]

/-- No pixel of the dark screen is lit. -/
@[simp] theorem pixel_blank (x : Fin 64) (y : Fin 32) : blank.pixel x y = false := by
  simp [pixel, blank]

/-- Two screens with the same pixels are the same. -/
theorem ext_pixel {s t : Screen} (h : ∀ x y, s.pixel x y = t.pixel x y) : s = t := by
  obtain ⟨s⟩ := s
  obtain ⟨t⟩ := t
  congr 1
  apply Vector.ext
  intro y hy
  apply BitVec.eq_of_getMsbD_eq
  intro x hx
  exact h ⟨x, hx⟩ ⟨y, hy⟩

/-- Two rows laid over each other have nothing in common when no pixel is lit in both. -/
theorem and_eq_zero_iff (v w : BitVec 64) :
    v &&& w = 0 ↔ ∀ c : Fin 64, ¬ (v.getMsbD c = true ∧ w.getMsbD c = true) := by
  constructor
  · intro hzero c hc
    have hbit : (v &&& w).getMsbD c = false := by simp [hzero]
    simp [BitVec.getMsbD_and, hc] at hbit
  · intro hnone
    apply BitVec.eq_of_getMsbD_eq
    intro c hc
    have hbit := hnone ⟨c, hc⟩
    simpa [BitVec.getMsbD_and] using hbit

/-- Two screens meet when some pixel is lit in both. -/
theorem meets_iff (s t : Screen) :
    s.meets t = true ↔ ∃ x y, s.pixel x y = true ∧ t.pixel x y = true := by
  simp only [meets, List.any_eq_true, List.mem_finRange, true_and, bne_iff_ne, ne_eq,
    and_eq_zero_iff, Classical.not_forall, Classical.not_not]
  constructor
  · rintro ⟨y, x, hlit⟩
    exact ⟨x, y, hlit⟩
  · rintro ⟨x, y, hlit⟩
    exact ⟨y, x, hlit⟩

/-- A row of a sprite is lit where the byte, read from the sprite's own left edge, has a set bit;
    the other columns are dark, since a byte has no digit past its eighth. -/
theorem getMsbD_spriteRow (byte : UInt8) {x : Nat} (hx : x < 64) {c : Nat} (hc : c < 64) :
    (spriteRow byte x).getMsbD c = byte.toBitVec.getMsbD ((c + 64 - x) % 64) := by
  have h8 : ∀ i, ((byte.toBitVec.setWidth 64) <<< 56).getMsbD i = byte.toBitVec.getMsbD i := by
    intro i
    simp [BitVec.getMsbD_shiftLeft, BitVec.getMsbD_setWidth]
  rw [spriteRow, BitVec.getMsbD_rotateRight, Nat.mod_eq_of_lt hx]
  simp only [h8, hc, decide_true, Bool.true_and]
  split <;> congr 1 <;> omega

/-- A pixel of the screen that shows one sprite: its row and its column are counted from the
    sprite's corner around the edges, and the bit found there decides. -/
theorem pixel_ofSprite (x y : Nat) (bytes : List UInt8) (cx : Fin 64) (cy : Fin 32) :
    (ofSprite x y bytes).pixel cx cy =
      match bytes[(cy.val + 32 - y % 32) % 32]? with
      | some byte => byte.toBitVec.getMsbD ((cx.val + 64 - x % 64) % 64)
      | none => false := by
  simp only [pixel, ofSprite, Fin.getElem_fin, Vector.getElem_ofFn]
  cases bytes[(cy.val + 32 - y % 32) % 32]? with
  | some byte => exact getMsbD_spriteRow byte (Nat.mod_lt x (by decide)) cx.isLt
  | none => simp

end Screen

end Chip8
