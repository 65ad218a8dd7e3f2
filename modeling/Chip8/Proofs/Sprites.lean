import Chip8.Proofs.Pixels
import Chip8.Proofs.Steps
import Mathlib.Data.List.Nodup

namespace Chip8

/-!
# Sprites

The drawing instruction asks of every pixel of the screen where in the sprite it lies.  This file
goes the other way, from the bits of the sprite to the pixels of the screen.

* `spritePixels` — the pixels for the set bits of a sprite, row by row;
* `nodup_spritePixels` — no two bits end up at the same pixel, though the sprite goes around the
  edges;
* `mem_spritePixels_iff` — they are the pixels that the instruction finds;
* `drawSprite_eq` — so drawing is toggling these pixels;
* `execute_draw` — what the instruction does, pixel by pixel.
-/

/-- The pixels for the set bits of a sprite.  Its rows are the bytes from `address` on, and its
    corner is at `(x, y)`: bit `7 - b` of row `r` is the pixel that is `b` columns to the right of
    the corner and `r` rows below, around the edges. -/
def spritePixels (m : Memory) (address height x y : Nat) : List Pixel :=
  (List.range height).flatMap fun r =>
    ((List.range 8).filter fun b => (m.byteAt (address + r : Nat)).toNat.testBit (7 - b)).map fun b =>
      (Fin.ofNat 64 (x + b), Fin.ofNat 32 (y + r))

section

variable {m : Memory} {address height x y : Nat}

/-- A pixel of a sprite comes from one of its bits. -/
theorem mem_spritePixels {p : Pixel} :
    p ∈ spritePixels m address height x y ↔
      ∃ r < height, ∃ b < 8, (m.byteAt (address + r : Nat)).toNat.testBit (7 - b) = true ∧
        p.1.val = (x + b) % 64 ∧ p.2.val = (y + r) % 32 := by
  simp only [spritePixels, List.mem_flatMap, List.mem_map, List.mem_filter, List.mem_range, Prod.ext_iff,
    Fin.ext_iff, Fin.val_ofNat, and_assoc]
  constructor
  · rintro ⟨r, hr, b, hb, hbit, hcolumn, hrow⟩
    exact ⟨r, hr, b, hb, hbit, hcolumn.symm, hrow.symm⟩
  · rintro ⟨r, hr, b, hb, hbit, hcolumn, hrow⟩
    exact ⟨r, hr, b, hb, hbit, hcolumn.symm, hrow.symm⟩

/-- The bits of a sprite are at different pixels, as long as the sprite is not taller than the
    screen. -/
theorem nodup_spritePixels (h : height ≤ 32) : (spritePixels m address height x y).Nodup := by
  rw [spritePixels, List.nodup_flatMap]
  constructor
  · intro r _
    -- Eight columns do not reach around the screen.
    apply List.Nodup.map_on
    · intro b hb b' hb' heq
      have hb := List.mem_range.mp (List.mem_of_mem_filter hb)
      have hb' := List.mem_range.mp (List.mem_of_mem_filter hb')
      have hcolumn := congrArg (fun p : Pixel => p.1.val) heq
      simp only [Fin.val_ofNat] at hcolumn
      omega
    · exact List.nodup_range.filter _
  · -- Two rows of the sprite are two rows of the screen.
    apply List.Pairwise.imp_of_mem _ (List.pairwise_lt_range)
    intro r r' hr hr' hlt
    have hr := List.mem_range.mp hr
    have hr' := List.mem_range.mp hr'
    simp only [Function.onFun, List.disjoint_left, List.mem_map]
    rintro p ⟨b, -, rfl⟩ ⟨b', -, heq⟩
    have hrow := congrArg (fun p : Pixel => p.2.val) heq
    simp only [Fin.val_ofNat] at hrow
    omega

/-- The leftmost bit of a byte is the one of the highest value. -/
theorem getMsbD_byte (byte : UInt8) {b : Nat} (h : b < 8) :
    byte.toBitVec.getMsbD b = byte.toNat.testBit (7 - b) := by
  rw [BitVec.getMsbD_eq_getLsbD]
  simp [h]
  rfl

/-- The pixels for the set bits of a sprite are those that are lit on the screen that shows only
    this sprite. -/
theorem mem_spritePixels_iff (h : height ≤ 16) (haddress : address < 0x10000) (p : Pixel) :
    p ∈ spritePixels m address height x y ↔
      (Screen.ofSprite x y (m.readBytes address height)).pixel p.1 p.2 = true := by
  have hp₁ := p.1.isLt
  have hp₂ := p.2.isLt
  rw [mem_spritePixels, Screen.pixel_ofSprite]
  by_cases hrow : (p.2.val + 32 - y % 32) % 32 < height
  · -- The row and the column of the sprite are the only ones that can be at the pixel.
    rw [Memory.getElem?_readBytes m hrow (by omega) (by omega)]
    show _ ↔ (m.byteAt _).toBitVec.getMsbD _ = true
    by_cases hcolumn : (p.1.val + 64 - x % 64) % 64 < 8
    · rw [getMsbD_byte _ hcolumn]
      constructor
      · rintro ⟨r, hr, b, hb, hbit, hx, hy⟩
        have hr : r = (p.2.val + 32 - y % 32) % 32 := by omega
        have hb : b = (p.1.val + 64 - x % 64) % 64 := by omega
        subst hr hb
        exact hbit
      · intro hbit
        exact ⟨_, hrow, _, hcolumn, hbit, by omega, by omega⟩
    · have hnone : ∀ byte : UInt8, byte.toBitVec.getMsbD ((p.1.val + 64 - x % 64) % 64) = false := by
        intro byte
        apply BitVec.getMsbD_of_ge
        omega
      rw [hnone]
      simp only [Bool.false_eq_true, iff_false]
      rintro ⟨r, hr, b, hb, -, hx, -⟩
      omega
  · have hnone : (m.readBytes address height)[(p.2.val + 32 - y % 32) % 32]? = none := by
      apply List.getElem?_eq_none
      rw [Memory.length_readBytes]
      omega
    rw [hnone]
    simp only [Bool.false_eq_true, iff_false]
    rintro ⟨r, hr, b, hb, -, -, hy⟩
    omega

end

namespace State

variable {s : State} {i : Instruction}

/-- Drawing a sprite toggles its pixels one after the other, in any order. -/
theorem drawSprite_eq {x y : UInt8} {height : Nat} {toggles : List Pixel} (hheight : height ≤ 16)
    (h : toggles.Perm (spritePixels s.memory s.index.toNat height x.toNat y.toNat)) :
    s.drawSprite x y height =
      { s with screen := (s.screen.toggleAll toggles).1 }.setReg 15
        (Arithmetic.flag (s.screen.toggleAll toggles).2) := by
  have hnodup : toggles.Nodup := h.nodup_iff.mpr (nodup_spritePixels (by omega))
  have hmem (p : Pixel) := h.mem_iff.trans (mem_spritePixels_iff hheight s.index.toNat_lt p)
  rw [Screen.toggleAll_eq hnodup hmem]
  rfl

/-- A drawing instruction whose sprite lies in memory draws it. -/
theorem execute_of_draw (hop : i.op = .draw)
    (hinside : s.index.toNat + (Word.n i.word).val ≤ 4096) (source : ByteSource) :
    s.execute i source =
      (.ok ({ s with fault := .clear }.drawSprite (s.reg (Word.x i.word)) (s.reg (Word.y i.word))
        (Word.n i.word).val), source) := by
  apply execute_of_effect
  · rw [hop]
    decide
  · rw [hop]
    exact accessing_of_le (s := { s with fault := .clear }) hinside

/-- **Drawing is toggling pixels.**  If the sprite lies in memory, the drawing instruction toggles
    the pixels for its set bits, one after the other in any order, and sets VF to one if a lit pixel
    went dark on the way and to zero if not.  The corner is where VX and VY say before VF is set.
    Nothing else changes, but an old fault record is cleared. -/
theorem execute_draw {toggles : List Pixel} (hop : i.op = .draw)
    (hinside : s.index.toNat + (Word.n i.word).val ≤ 4096)
    (horder : toggles.Perm (spritePixels s.memory s.index.toNat (Word.n i.word).val
      (s.reg (Word.x i.word)).toNat (s.reg (Word.y i.word)).toNat)) (source : ByteSource) :
    s.execute i source =
      (.ok { s with
        screen := (s.screen.toggleAll toggles).1
        registers := s.registers.set 15 (if (s.screen.toggleAll toggles).2 then 1 else 0)
        fault := .clear }, source) := by
  have hheight : (Word.n i.word).val ≤ 16 := Nat.le_of_lt (Word.n i.word).isLt
  rw [execute_of_draw hop hinside source, drawSprite_eq (s := { s with fault := .clear }) hheight horder]
  rfl

/-- Two rows at the end of memory, drawn around both edges of the screen where one of their four
    pixels is lit.  VF says in which column. -/
theorem execute_draw_corner :
    let s : State :=
      { initial {} default with
        memory := ⟨Vector.replicate 4096 0x81⟩
        registers := ((Vector.replicate 16 0).set 15 63).set 1 31
        index := 0xFFE
        screen := Screen.blank.toggle 6 0 }
    let i : Instruction := ⟨.draw, 0xDF12, none⟩
    let toggles : List Pixel := [(6, 0), (63, 31), (63, 0), (6, 31)]
    i.op = .draw ∧ s.index.toNat + (Word.n i.word).val ≤ 4096 ∧
      toggles.Perm (spritePixels s.memory s.index.toNat (Word.n i.word).val
        (s.reg (Word.x i.word)).toNat (s.reg (Word.y i.word)).toNat) ∧
      ∃ t, s.execute i .key = (.ok t, .key) ∧ t.reg 15 = 1 ∧
        t.screen.pixel 63 31 = true ∧ t.screen.pixel 6 31 = true ∧
        t.screen.pixel 63 0 = true ∧ t.screen.pixel 6 0 = false := by
  intro s i toggles
  have hinside : s.index.toNat + (Word.n i.word).val ≤ 4096 := by decide
  have hbyte (a : Int) : s.memory.byteAt a = 0x81 := by
    simp [s, Memory.byteAt]
  have hx : (s.reg (Word.x i.word)).toNat = 63 := by decide
  have hy : (s.reg (Word.y i.word)).toNat = 31 := by decide
  have horder : toggles.Perm (spritePixels s.memory s.index.toNat (Word.n i.word).val
      (s.reg (Word.x i.word)).toNat (s.reg (Word.y i.word)).toNat) := by
    rw [hx, hy]
    simp only [spritePixels, hbyte]
    decide
  have hdraw := execute_draw rfl hinside horder .key
  refine ⟨rfl, hinside, horder, _, hdraw, ?_⟩
  simp [reg, s, toggles, Screen.toggleAll, Screen.pixel_toggle]

end State

end Chip8
