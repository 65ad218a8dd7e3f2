import Chip8.Picture.Request
import Chip8.Proofs.Upscaling
import Mathlib.Algebra.Order.BigOperators.GroupWithZero.List
import Mathlib.Algebra.Order.Ring.Int
import Mathlib.Tactic.Ring

namespace Chip8

/-!
# Rendering for a host

A host names the scale of a picture as an integer of any size.  The picture is an array that a
library makes, and the library may refuse to make it.

* `ArrayLibrary.upscale_eq_ok` — the scale that a library gives is the one that was asked for;
* `ArrayLibrary.HasRoom` — a library makes every array of fewer bytes than so many,
  `HasRoom.upscale` — the scales of whose pictures that can be said, and
  `ArrayLibrary.hasRoom_ofMemory` — the library of a system has room for what its memory can hold;
* `Picture.length_rows_ofCells`, `Picture.length_of_mem_rows_ofCells` — the size of a picture;
* `Grid.renderWith_of_shape_ne`, `Grid.renderWith_of_lt` — grids of another shape and scales below
  one are refused, and `ArrayRefusal.error_ne_scaleTooSmall` — no library refuses in the same way;
* `Grid.renderWith_of_le`, `Grid.renderWith_eq_ok` — the picture in every other scale and two
  colours, and `Grid.renderWith_eq_scaleTooSmall_iff` — which scales are refused as such;
* `Grid.lit_eq_of_ofCells_eq` — the cells can be read off a picture in two different colours;
* `rendering_exact` — all that a host gets, whatever the library makes;
* `rendering_beyond_system` — a scale in which no picture can be made.
-/

/-! ### What a library answers -/

/-- A library that makes the picture makes it in the scale that was asked for. -/
theorem ArrayLibrary.upscale_eq_ok {library : ArrayLibrary} {k : Int} {pixels : Nat}
    (h : library.upscale k = .ok pixels) : pixels = k.toNat := by
  unfold upscale at h
  split at h
  · exact (Except.ok.inj h).symm
  · -- Both directions have to be stretched.
    cases hrows : library.stretch [screenHeight, screenWidth, 3] 0 k with
    | error refusal =>
      rw [hrows] at h
      exact nomatch h
    | ok _ =>
      cases hcolumns : library.stretch [screenHeight * k, screenWidth, 3] 1 k with
      | error refusal =>
        rw [hrows, hcolumns] at h
        exact nomatch h
      | ok _ =>
        rw [hrows, hcolumns] at h
        exact (Except.ok.inj h).symm

/-- The refusal of a library does not look like that of a scale below one. -/
theorem ArrayRefusal.error_ne_scaleTooSmall (refusal : ArrayRefusal) (scale : Value) :
    refusal.error ≠ .scaleTooSmall scale := by
  cases refusal <;> exact nofun

/-! ### What a library has room for -/

/-- The library makes every array of fewer bytes than `room`: none of the lengths is zero, and one
    axis is stretched. -/
def ArrayLibrary.HasRoom (library : ArrayLibrary) (room : Int) : Prop :=
  ∀ (e : Extent) (axis : Nat) (count : Int), axis < e.length → (∀ n ∈ e, 0 < n) → 0 < count →
    (e.modify axis (· * count)).prod < room → library.stretch e axis count = .ok ()

/-- A library that has room for the picture makes it. -/
theorem ArrayLibrary.HasRoom.upscale {library : ArrayLibrary} {room k : Int}
    (h : library.HasRoom room) (hk : 1 ≤ k)
    (hroom : screenHeight * k * (screenWidth * k) * 3 < room) :
    library.upscale k = .ok k.toNat := by
  -- The picture is largest when its columns are stretched, which is done last.
  have hscreen : (0 : Int) ≤ screenHeight * k * screenWidth * 3 := by
    have hk₀ : 0 ≤ k := by omega
    simp only [screenHeight, screenWidth]
    omega
  have hcolumns : library.stretch [screenHeight * k, screenWidth, 3] 1 k = .ok () := by
    refine h _ 1 k (by simp) ?_ (by omega) ?_
    · simp only [List.forall_mem_cons, screenHeight, screenWidth]
      exact ⟨by omega, by decide, by decide, List.forall_mem_nil _⟩
    · show (screenHeight * k * (screenWidth * k * (3 * 1)) : Int) < room
      rw [← mul_assoc, mul_one]
      exact hroom
  have hrows : library.stretch [screenHeight, screenWidth, 3] 0 k = .ok () := by
    refine h _ 0 k (by decide) (by decide) (by omega) ?_
    show (screenHeight * k * (screenWidth * (3 * 1)) : Int) < room
    calc (screenHeight * k * (screenWidth * (3 * 1)) : Int)
        = screenHeight * k * screenWidth * 3 := by ring
      _ ≤ screenHeight * k * screenWidth * 3 * k := le_mul_of_one_le_right hscreen hk
      _ = screenHeight * k * (screenWidth * k) * 3 := by ring
      _ < room := hroom
  unfold ArrayLibrary.upscale
  split
  · rfl
  · rw [hrows, hcolumns]
    rfl

namespace Extent

variable {e : Extent}

/-- No length is greater than the product of all. -/
theorem le_prod_of_mem (hpos : ∀ n ∈ e, 0 < n) {n : Int} (hn : n ∈ e) : n ≤ e.prod := by
  induction e with
  | nil => exact nomatch hn
  | cons m rest ih =>
    obtain ⟨hm, hrest⟩ := List.forall_mem_cons.mp hpos
    have hprod : 0 < rest.prod := List.prod_pos hrest
    rw [List.prod_cons]
    rcases List.mem_cons.mp hn with rfl | hn
    · exact le_mul_of_one_le_right hm.le hprod
    · exact (ih hrest hn).trans (le_mul_of_one_le_left hprod.le hm)

/-- The cells of an array are counted by the product of its lengths, if that is a number of the
    system. -/
theorem cellCount_of_prod_lt (hpos : ∀ n ∈ e, 0 < n) {count : Nat} (hcount : 0 < count)
    (h : count * e.prod < systemLimit) : cellCount e count = .ok (count * e.prod.toNat) := by
  induction e generalizing count with
  | nil => simp [cellCount]
  | cons m rest ih =>
    obtain ⟨hm, hrest⟩ := List.forall_mem_cons.mp hpos
    have hprod : 0 < rest.prod := List.prod_pos hrest
    obtain ⟨k, rfl⟩ := Int.eq_ofNat_of_zero_le hm.le
    have hk : 0 < count * k := Nat.mul_pos hcount (by omega)
    rw [List.prod_cons, ← mul_assoc, ← Int.natCast_mul] at h
    have hle : ((count * k : Nat) : Int) ≤ (count * k : Nat) * rest.prod :=
      le_mul_of_one_le_right (Int.natCast_nonneg _) hprod
    have hcells := ih hrest hk h
    rw [Int.natCast_mul] at hle h
    rw [cellCount, if_neg (by omega), if_neg (by omega), if_neg (by omega), Int.toNat_natCast, hcells,
      List.prod_cons, Int.toNat_mul hm.le hprod.le, Int.toNat_natCast, Nat.mul_assoc]

end Extent

/-- The library of a system has room for what memory has room for, if that can be counted. -/
theorem ArrayLibrary.hasRoom_ofMemory {memory : Nat} (h : memory ≤ systemLimit) :
    (ofMemory memory).HasRoom memory := by
  intro e axis count haxis hpos hcount hroom
  have hparts : e.modify axis (· * count) = e.take axis ++ e[axis] * count :: e.drop (axis + 1) :=
    List.modify_eq_take_cons_drop haxis
  have hlong : 0 < e[axis] := hpos _ (List.getElem_mem haxis)
  generalize hstretched : e.modify axis (· * count) = stretched at hparts hroom
  have hpositive : ∀ n ∈ stretched, 0 < n := by
    rw [hparts, List.forall_mem_append, List.forall_mem_cons]
    exact ⟨fun n hn => hpos n (List.mem_of_mem_take hn), Int.mul_pos hlong hcount,
      fun n hn => hpos n (List.mem_of_mem_drop hn)⟩
  -- All lengths are below the product, and so is the count.
  have hsystem (n : Int) (hn : n ∈ stretched) : 0 < n ∧ n < systemLimit :=
    ⟨hpositive n hn, (Extent.le_prod_of_mem hpositive hn).trans_lt hroom |>.trans_le h⟩
  have hcountable : isSystemNumber count = true := by
    obtain ⟨-, hlt⟩ := hsystem (e[axis] * count) (by rw [hparts]; simp)
    have hle : count ≤ e[axis] * count := le_mul_of_one_le_left hcount.le hlong
    have hlimit : (0 : Int) < systemLimit := by decide
    rw [isSystemNumber, Bool.and_eq_true, decide_eq_true_eq, decide_eq_true_eq]
    omega
  have hwrapped : stretched.map wrapped = stretched := by
    rw [List.map_congr_left (g := id) fun n hn => ?_, List.map_id]
    obtain ⟨hn₀, hn₁⟩ := hsystem n hn
    have hbound : n < 0x8000000000000000 := hn₁
    exact Int.bmod_eq_of_le (by omega) (by omega)
  have hcells := Extent.cellCount_of_prod_lt hpositive Nat.one_pos (by simpa using hroom.trans_le h)
  have hcheck : Extent.check memory stretched = .ok () := by
    have hprod : 0 < stretched.prod := List.prod_pos hpositive
    have hfits : ¬ (memory ≤ 1 * stretched.prod.toNat ∧ 0 ∉ stretched) := by omega
    rw [Extent.check, hcells]
    simp only [bind, Except.bind, if_neg hfits]
    rfl
  simp only [ofMemory, hstretched, hcountable, hwrapped, hcheck, bind, Except.bind]
  rfl

/-! ### The size of a picture -/

namespace Picture

/-- Repeating the elements of a list multiplies its length. -/
theorem length_repeated {α : Type} (count : Nat) (xs : List α) :
    (repeated count xs).length = xs.length * count := by
  induction xs with
  | nil => simp [repeated]
  | cons x rest ih =>
    have hcons : repeated count (x :: rest) = List.replicate count x ++ repeated count rest :=
      List.flatMap_cons
    rw [hcons, List.length_append, List.length_replicate, ih, List.length_cons, Nat.succ_mul]
    omega

variable (g : Grid) (palette : Palette) (scale : Nat)

/-- A picture of the screen has as many rows as it is high. -/
theorem length_rows_ofCells :
    (ofCells scale (g.colours palette)).rows.length = screenHeight * scale := by
  show (repeated scale ((g.colours palette).map (repeated scale))).length = _
  simp [length_repeated, Grid.colours]

/-- A row of a picture of the screen has as many pixels as the picture is wide. -/
theorem length_of_mem_rows_ofCells {row : List Colour}
    (h : row ∈ (ofCells scale (g.colours palette)).rows) : row.length = screenWidth * scale := by
  have hmem : row ∈ repeated scale ((g.colours palette).map (repeated scale)) := h
  obtain ⟨stretched, hstretched, hrow⟩ := List.mem_flatMap.mp hmem
  obtain ⟨cells, hcells, rfl⟩ := List.mem_map.mp hstretched
  obtain ⟨y, -, rfl⟩ := List.mem_map.mp hcells
  rw [List.eq_of_mem_replicate hrow, length_repeated, List.length_map, List.length_range]

end Picture

/-! ### What a host gets -/

/-- The error of a grid of another shape tells its shape. -/
theorem Error.message_wrongShape (shape : List Nat) :
    (Error.wrongShape screenShape shape).message =
      some ("Expected display shape (64, 32), got " ++ Error.shapeText ", " shape) := by
  have hscreen : Error.shapeText ", " screenShape = "(64, 32)" := by decide +kernel
  rw [message, hscreen]
  rfl

/-- A colour as a host gives it. -/
def Colour.value (c : Colour) : Value := .list (c.components.map Value.int)

/-- A colour that is given by its components is the colour of all pixels. -/
theorem coatOf_value (c : Colour) (pixels : Nat) : coatOf c.value pixels = .ok (.plain c) := by
  rw [Colour.value, coatOf_ints, Colour.ofComponents_components]
  rfl

namespace Grid

variable {library : ArrayLibrary} {g : Grid}

/-- A grid of another shape is refused, whatever else is asked for. -/
theorem renderWith_of_shape_ne (library : ArrayLibrary) (h : g.shape ≠ screenShape)
    (scale on off : Value) :
    g.renderWith library scale on off = .error (.wrongShape screenShape g.shape) := by
  rw [renderWith, if_pos h]
  rfl

/-- A scale below one is refused. -/
theorem renderWith_of_lt (library : ArrayLibrary) (h : g.shape = screenShape) {k : Int} (hk : k < 1)
    (on off : Value) :
    g.renderWith library (.int k) on off = .error (.scaleTooSmall (.int k)) := by
  have hscale : scaleOf (.int k) = .error (.scaleTooSmall (.int k)) := if_pos hk
  rw [renderWith, if_neg (not_not_intro h), hscale]
  rfl

/-- Every other scale gives the picture in that scale, or what the library raises. -/
theorem renderWith_of_le (library : ArrayLibrary) (h : g.shape = screenShape) {k : Int} (hk : 1 ≤ k)
    (on off : Colour) :
    g.renderWith library (.int k) on.value off.value =
      ((library.upscale k).mapError ArrayRefusal.error).map fun pixels =>
        .ofCells pixels (g.colours ⟨on, off⟩) := by
  have hscale : scaleOf (.int k) = .ok k := if_neg (by omega)
  rw [renderWith, if_neg (not_not_intro h), hscale]
  simp only [coatOf_value, bind, Except.bind, painted_plain]
  cases library.upscale k <;> rfl

/-- Only a scale below one is refused as such. -/
theorem renderWith_eq_scaleTooSmall_iff (library : ArrayLibrary) (h : g.shape = screenShape) (k : Int)
    (on off : Colour) :
    g.renderWith library (.int k) on.value off.value = .error (.scaleTooSmall (.int k)) ↔ k < 1 := by
  constructor
  · intro hrefused
    refine Int.not_le.mp fun hk => ?_
    rw [renderWith_of_le library h hk] at hrefused
    cases hlibrary : library.upscale k with
    | ok pixels =>
      rw [hlibrary] at hrefused
      exact nomatch hrefused
    | error refusal =>
      rw [hlibrary] at hrefused
      exact refusal.error_ne_scaleTooSmall _ (Except.error.inj hrefused)
  · exact fun hk => renderWith_of_lt library h hk on.value off.value

/-- A picture that is returned was made in the scale that was asked for. -/
theorem renderWith_eq_ok (h : g.shape = screenShape) {k : Int} {on off : Colour} {p : Picture}
    (hp : g.renderWith library (.int k) on.value off.value = .ok p) :
    1 ≤ k ∧ p = .ofCells k.toNat (g.colours ⟨on, off⟩) := by
  by_cases hk : k < 1
  · rw [renderWith_of_lt library h hk] at hp
    exact nomatch hp
  have hle : 1 ≤ k := Int.not_lt.mp hk
  rw [renderWith_of_le library h hle] at hp
  cases hlibrary : library.upscale k with
  | error refusal =>
    rw [hlibrary] at hp
    exact nomatch hp
  | ok pixels =>
    obtain rfl := ArrayLibrary.upscale_eq_ok hlibrary
    rw [hlibrary] at hp
    exact ⟨hle, (Except.ok.inj hp).symm⟩

/-- Grids with the same picture in two colours have the same cells. -/
theorem lit_eq_of_ofCells_eq {other : Grid} {on off : Colour} (hcolours : on ≠ off) {scale : Nat}
    (hscale : 0 < scale)
    (h : Picture.ofCells scale (g.colours ⟨on, off⟩) = Picture.ofCells scale (other.colours ⟨on, off⟩))
    {x y : Nat} (hx : x < screenWidth) (hy : y < screenHeight) : g.lit x y = other.lit x y := by
  -- The first pixel of the square of the cell is compared.
  have hi : y * scale < screenHeight * scale := Nat.mul_lt_mul_of_pos_right hy hscale
  have hj : x * scale < screenWidth * scale := Nat.mul_lt_mul_of_pos_right hx hscale
  have hpixel := pixel?_render (g := g) ⟨on, off⟩ hscale hi hj
  rw [h, pixel?_render ⟨on, off⟩ hscale hi hj, Nat.mul_div_cancel _ hscale, Nat.mul_div_cancel _ hscale,
    Option.some_inj] at hpixel
  cases hg : g.lit x y <;> cases hother : other.lit x y
  · rfl
  · exact absurd (by simpa [hg, hother] using hpixel) hcolours
  · exact absurd (by simpa [hg, hother] using hpixel.symm) hcolours
  · rfl

end Grid

/-- **Rendering is an exact upscaling that can be inverted**, in every scale whose picture the
    library makes, among them all whose picture has fewer bytes than the library has room for.  A
    grid of another shape is refused under its shape, whatever the scale and the colours are, and
    exactly the scales below one are refused as such.  In every other scale, the library's refusal
    is passed on, or the picture is returned: its pixels are squares in the colours of their cells,
    and in two different colours it determines the grid. -/
theorem rendering_exact (library : ArrayLibrary) (g : Grid) (on off : Colour) :
    (g.shape ≠ screenShape →
      (∀ scale on off : Value,
        g.renderWith library scale on off = .error (.wrongShape screenShape g.shape)) ∧
      (Error.wrongShape screenShape g.shape).message =
        some ("Expected display shape (64, 32), got " ++ Error.shapeText ", " g.shape)) ∧
    (g.shape = screenShape → ∀ k : Int,
      (g.renderWith library (.int k) on.value off.value = .error (.scaleTooSmall (.int k)) ↔ k < 1) ∧
      (1 ≤ k → ∀ room, library.HasRoom room → screenHeight * k * (screenWidth * k) * 3 < room →
        library.upscale k = .ok k.toNat) ∧
      (1 ≤ k → ∀ refusal, library.upscale k = .error refusal →
        g.renderWith library (.int k) on.value off.value = .error refusal.error) ∧
      (1 ≤ k → ∀ pixels, library.upscale k = .ok pixels →
        ∃ p, g.renderWith library (.int k) on.value off.value = .ok p ∧
          p.height = screenHeight * k.toNat ∧ p.width = screenWidth * k.toNat ∧
          p.rows.length = p.height ∧ (∀ row ∈ p.rows, row.length = p.width) ∧
          ∀ i < p.height, ∀ j < p.width,
            p.pixel? i j = some (if g.lit (j / k.toNat) (i / k.toNat) then on else off)) ∧
      (on ≠ off → ∀ (other : Grid) (p : Picture), other.shape = screenShape →
        g.renderWith library (.int k) on.value off.value = .ok p →
        other.renderWith library (.int k) on.value off.value = .ok p →
        ∀ x < screenWidth, ∀ y < screenHeight, g.lit x y = other.lit x y)) := by
  refine ⟨fun hshape => ⟨Grid.renderWith_of_shape_ne library hshape, Error.message_wrongShape _⟩,
    fun hshape k => ⟨Grid.renderWith_eq_scaleTooSmall_iff library hshape k on off,
      fun hk room hlibrary hroom => hlibrary.upscale hk hroom, ?refused, ?returned, ?inverted⟩⟩
  case refused =>
    intro hk refusal hrefusal
    rw [Grid.renderWith_of_le library hshape hk, hrefusal]
    rfl
  case returned =>
    intro hk pixels hpixels
    obtain rfl := ArrayLibrary.upscale_eq_ok hpixels
    have hpos : 0 < k.toNat := by omega
    refine ⟨.ofCells k.toNat (g.colours ⟨on, off⟩), ?_, rfl, rfl, Picture.length_rows_ofCells g _ _,
      fun row hrow => Picture.length_of_mem_rows_ofCells g _ _ hrow,
      fun i hi j hj => Grid.pixel?_render _ hpos hi hj⟩
    rw [Grid.renderWith_of_le library hshape hk, hpixels]
    rfl
  case inverted =>
    intro hcolours other p hother hp hq x hx y hy
    obtain ⟨hk, rfl⟩ := Grid.renderWith_eq_ok hshape hp
    obtain ⟨-, heq⟩ := Grid.renderWith_eq_ok hother hq
    exact Grid.lit_eq_of_ofCells_eq hcolours (by omega) heq hx hy

/-- The blank screen, white on dark blue in twice its size, is returned with 64 rows of 128 pixels.
    In a million times its size it is too large for any memory that addresses of 47 bits reach, and
    upside down it is refused. -/
theorem rendering_exact_blank :
    let library := ArrayLibrary.ofMemory 0x800000000000
    (∃ p, (Grid.dark screenShape).renderWith library (.int 2) (Colour.value ⟨255, 255, 255⟩)
        (Colour.value ⟨0, 0, 64⟩) = .ok p ∧
      p.height = 64 ∧ p.width = 128 ∧ p.pixel? 63 127 = some ⟨0, 0, 64⟩) ∧
    (Grid.dark screenShape).renderWith library (.int 1000000) (Colour.value ⟨255, 255, 255⟩)
      (Colour.value ⟨0, 0, 64⟩) = .error .outOfMemory ∧
    (Grid.dark [32, 64]).renderWith library (.int 0) .null .null =
      .error (.wrongShape screenShape [32, 64]) := by
  intro library
  obtain ⟨-, hscales⟩ := rendering_exact library (.dark screenShape) ⟨255, 255, 255⟩ ⟨0, 0, 64⟩
  have hroom : library.HasRoom 0x800000000000 := ArrayLibrary.hasRoom_ofMemory (by decide)
  have hrefuses : library.upscale 1000000 = .error .outOfMemory := rfl
  obtain ⟨-, hmade, -, hreturned, -⟩ := hscales rfl 2
  have hmakes : library.upscale 2 = .ok 2 := hmade (by decide) _ hroom (by decide)
  obtain ⟨-, -, hrefused, -, -⟩ := hscales rfl 1000000
  obtain ⟨p, hp, hheight, hwidth, -, -, hpixels⟩ := hreturned (by decide) 2 hmakes
  have hlast := hpixels 63 (by rw [hheight]; decide) 127 (by rw [hwidth]; decide)
  exact ⟨⟨p, hp, hheight, hwidth, hlast⟩, hrefused (by decide) _ hrefuses,
    ((rendering_exact library (.dark [32, 64]) default default).1 (by decide)).1 _ _ _⟩

/-- No picture of the blank screen is returned in a scale of `2 ^ 57`, however much memory there is:
    its pixels cannot be counted. -/
theorem rendering_beyond_system :
    (Grid.dark screenShape).shape = screenShape ∧ (1 : Int) ≤ 2 ^ 57 ∧
    ∀ memory, (Grid.dark screenShape).renderWith (.ofMemory memory) (.int (2 ^ 57))
        Palette.classic.on.value Palette.classic.off.value = .error .manyCells ∧
      ¬ ∃ p, (Grid.dark screenShape).renderWith (.ofMemory memory) (.int (2 ^ 57))
        Palette.classic.on.value Palette.classic.off.value = .ok p := by
  refine ⟨rfl, by decide, fun memory => ?_⟩
  have hupscale : (ArrayLibrary.ofMemory memory).upscale (2 ^ 57) = .error .manyCells := by rfl
  have hrefused : (Grid.dark screenShape).renderWith (.ofMemory memory) (.int (2 ^ 57))
      Palette.classic.on.value Palette.classic.off.value = .error .manyCells := by
    rw [Grid.renderWith_of_le _ rfl (by decide), hupscale]
    rfl
  refine ⟨hrefused, ?_⟩
  rintro ⟨p, hp⟩
  rw [hrefused] at hp
  exact nomatch hp

end Chip8
