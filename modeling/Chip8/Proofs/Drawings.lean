import Chip8.Proofs.Sprites

namespace Chip8

/-!
# Lists of drawings

Sprites drawn one after the other, each of them with its position in two registers and its address
in I.

* `Drawing` — a sprite to be drawn, `State.draw`, `State.drawAll` — one drawing and a list of them;
* `length_spritePixels` — a sprite has a pixel for each set bit of its bytes;
* `lit_xor_sprite`, `meets_sprite_iff` — the lit pixels after a sprite is drawn, and when it meets
  others;
* `exists_draw` — what a drawing leaves: the sprite laid over the screen, and memory as it was;
* `exists_drawAll` — so a list of drawings lays all its sprites over the screen;
* `drawAll_screen` — the screen depends neither on the order of the drawings nor, if all are drawn
  twice, on any of them.
-/

/-- The number of set bits in the `height` bytes from `address` on. -/
def Memory.setBits (m : Memory) (address height : Nat) : Nat :=
  ((List.range height).map fun r =>
    (List.range 8).countP fun k => (m.byteAt (address + r : Nat)).toNat.testBit k).sum

/-- A sprite has a pixel for each set bit of its bytes. -/
theorem length_spritePixels (m : Memory) (address height x y : Nat) :
    (spritePixels m address height x y).length = m.setBits address height := by
  have hrow (n : Nat) : (List.range 8).countP (fun b => n.testBit (7 - b)) =
      (List.range 8).countP fun k => n.testBit k := by
    -- From the left or from the right, these are the same eight bits.
    have hbits : (List.range 8).map (7 - ·) = (List.range 8).reverse := by decide
    rw [← List.countP_reverse (l := List.range 8), ← hbits, List.countP_map]
    rfl
  simp only [spritePixels, Memory.setBits, List.length_flatMap, List.length_map,
    ← List.countP_eq_length_filter, hrow]

/-- A sprite to be drawn: the instruction that draws it, with what its two registers and I hold for
    it.  The registers are different ones, and the sprite lies in memory.  VF is as good as any
    other register: it is read before it is written. -/
structure Drawing where
  instruction : Instruction
  x : UInt8
  y : UInt8
  address : UInt16
  op_eq : instruction.op = .draw
  x_ne_y : Word.x instruction.word ≠ Word.y instruction.word
  inside : address.toNat + (Word.n instruction.word).val ≤ 4096

namespace Drawing

/-- There are drawings, such as the first character of the font in the corner of the screen. -/
instance : Nonempty Drawing :=
  ⟨{ instruction := ⟨.draw, 0xD015, none⟩
     x := 0
     y := 0
     address := UInt16.ofNat fontStart
     op_eq := rfl
     x_ne_y := by decide
     inside := by decide }⟩

/-- The number of rows of the sprite. -/
def height (d : Drawing) : Nat := (Word.n d.instruction.word).val

/-- The pixels for the set bits of the sprite. -/
def pixels (d : Drawing) (m : Memory) : List Pixel :=
  spritePixels m d.address.toNat d.height d.x.toNat d.y.toNat

/-- The number of these pixels that are lit on a screen. -/
def overlap (d : Drawing) (m : Memory) (screen : Screen) : Nat :=
  (d.pixels m).countP fun p => screen.pixel p.1 p.2

/-- The screen that shows nothing but the sprite. -/
def sprite (d : Drawing) (m : Memory) : Screen :=
  .ofSprite d.x.toNat d.y.toNat (m.readBytes d.address.toNat d.height)

section

variable (d : Drawing) (m : Memory) (screen : Screen)

theorem height_le : d.height ≤ 16 := Nat.le_of_lt (Word.n d.instruction.word).isLt

/-- Two bits of the sprite are never at the same pixel. -/
theorem nodup_pixels : (d.pixels m).Nodup := by
  have hheight := d.height_le
  exact nodup_spritePixels (by omega)

/-- Toggling the pixels lays the sprite over the screen. -/
theorem toggleAll_pixels :
    screen.toggleAll (d.pixels m) = (screen.xor (d.sprite m), screen.meets (d.sprite m)) := by
  apply Screen.toggleAll_eq (d.nodup_pixels m)
  intro p
  exact mem_spritePixels_iff d.height_le d.address.toNat_lt p

/-- The sprite adds its set bits to the lit pixels, and those that were lit already are lost
    twice. -/
theorem lit_xor_sprite :
    (screen.xor (d.sprite m)).lit + 2 * d.overlap m screen =
      screen.lit + m.setBits d.address.toNat d.height := by
  have hlit := Screen.lit_toggleAll (s := screen) (d.nodup_pixels m)
  rw [toggleAll_pixels, pixels, length_spritePixels] at hlit
  exact hlit

/-- The sprite meets the screen when some of its pixels are lit already. -/
theorem meets_sprite_iff : screen.meets (d.sprite m) = true ↔ d.overlap m screen ≠ 0 := by
  have hdark := Screen.dark_toggleAll_iff (s := screen) (d.nodup_pixels m)
  rw [toggleAll_pixels] at hdark
  rw [hdark, overlap, ← Nat.pos_iff_ne_zero, List.countP_pos_iff]

end

end Drawing

namespace State

variable {s : State} {source : ByteSource}

/-- The state with the position of a drawing in its registers and its address in I. -/
def prepared (s : State) (d : Drawing) : State :=
  ({ s with index := d.address }.setReg (Word.x d.instruction.word) d.x).setReg
    (Word.y d.instruction.word) d.y

/-- A drawing carried out. -/
def draw (s : State) (source : ByteSource) (d : Drawing) : Except Fault State :=
  ((s.prepared d).execute d.instruction source).1

/-- Drawings carried out one after the other. -/
def drawAll (s : State) (source : ByteSource) (drawings : List Drawing) : Except Fault State :=
  drawings.foldlM (·.draw source ·) s

/-- What a drawing does to the screen, and what it leaves in VF. -/
theorem draw_eq (s : State) (source : ByteSource) (d : Drawing) :
    s.draw source d = .ok ({ s.prepared d with fault := .clear }.drawSprite d.x d.y d.height) := by
  have hx : (s.prepared d).reg (Word.x d.instruction.word) = d.x := by
    rw [prepared, reg_setReg_of_ne d.x_ne_y, reg_setReg_self]
  have hy : (s.prepared d).reg (Word.y d.instruction.word) = d.y := by
    rw [prepared, reg_setReg_self]
  have hexecute := execute_of_draw (s := s.prepared d) d.op_eq d.inside source
  rw [draw, hexecute, hx, hy]
  rfl

/-- A drawing lays its sprite over the screen, leaves memory alone and says in VF whether some of
    its pixels were lit already. -/
theorem exists_draw (s : State) (source : ByteSource) (d : Drawing) :
    ∃ t, s.draw source d = .ok t ∧ t.memory = s.memory ∧
      t.screen = s.screen.xor (d.sprite s.memory) ∧
      t.reg 15 = if d.overlap s.memory s.screen = 0 then 0 else 1 := by
  refine ⟨_, draw_eq s source d, rfl, rfl, ?_⟩
  have hmeets := d.meets_sprite_iff s.memory s.screen
  rw [drawSprite, reg_setReg_self]
  show Arithmetic.flag (s.screen.meets (d.sprite s.memory)) = _
  by_cases hoverlap : d.overlap s.memory s.screen = 0
  · rw [if_pos hoverlap, Arithmetic.flag, if_neg fun hlit => hmeets.mp hlit hoverlap]
  · rw [if_neg hoverlap, Arithmetic.flag, if_pos (hmeets.mpr hoverlap)]

/-- A list of drawings lays all its sprites over the screen and leaves memory alone. -/
theorem exists_drawAll (s : State) (source : ByteSource) (drawings : List Drawing) :
    ∃ t, s.drawAll source drawings = .ok t ∧ t.memory = s.memory ∧
      t.screen = (drawings.map (·.sprite s.memory)).foldl Screen.xor s.screen := by
  induction drawings generalizing s with
  | nil => exact ⟨s, rfl, rfl, rfl⟩
  | cons d rest ih =>
    obtain ⟨u, hu, humemory, huscreen, -⟩ := exists_draw s source d
    obtain ⟨t, ht, htmemory, htscreen⟩ := ih u
    refine ⟨t, ?_, htmemory.trans humemory, ?_⟩
    · rw [drawAll, List.foldlM_cons, hu]
      exact ht
    · rw [htscreen, humemory, huscreen, List.map_cons, List.foldl_cons]

/-- **The order of drawings makes no difference, and drawing twice undoes it.**  A list of drawings
    can be carried out.  In every other order it leaves the same screen, and carried out twice in a
    row it leaves the screen as it was.  Each single drawing adds the set bits of its sprite to the
    lit pixels and takes away twice as many as were lit before, and VF is one exactly when there
    were such pixels. -/
theorem drawAll_screen (s : State) (source : ByteSource) (drawings : List Drawing) :
    ∃ t, s.drawAll source drawings = .ok t ∧
      (∀ others : List Drawing, others.Perm drawings →
        ∃ u, s.drawAll source others = .ok u ∧ u.screen = t.screen) ∧
      (∃ u, s.drawAll source (drawings ++ drawings) = .ok u ∧ u.screen = s.screen) ∧
      ∀ before d after, drawings = before ++ d :: after →
        ∃ u v, s.drawAll source before = .ok u ∧ u.draw source d = .ok v ∧
          (v.screen.lit : Int) = u.screen.lit + s.memory.setBits d.address.toNat d.height
            - 2 * d.overlap s.memory u.screen ∧
          v.reg 15 = if d.overlap s.memory u.screen = 0 then 0 else 1 := by
  obtain ⟨t, ht, -, htscreen⟩ := exists_drawAll s source drawings
  refine ⟨t, ht, ?_, ?_, ?_⟩
  · intro others hperm
    obtain ⟨u, hu, -, huscreen⟩ := exists_drawAll s source others
    refine ⟨u, hu, ?_⟩
    rw [huscreen, htscreen]
    exact (hperm.map _).foldl_eq s.screen
  · obtain ⟨u, hu, -, huscreen⟩ := exists_drawAll s source (drawings ++ drawings)
    refine ⟨u, hu, ?_⟩
    rw [huscreen, List.map_append, List.foldl_append, Screen.foldl_xor_twice]
  · intro before d after _
    obtain ⟨u, hu, hmemory, -⟩ := exists_drawAll s source before
    obtain ⟨v, hv, -, hvscreen, hflag⟩ := exists_draw u source d
    refine ⟨u, v, hu, hv, ?_, ?_⟩
    · have hlit := d.lit_xor_sprite u.memory u.screen
      rw [← hvscreen, hmemory] at hlit
      omega
    · rw [hflag, hmemory]

end State

end Chip8
