import Chip8.Memory

namespace Chip8

/-!
# Font

The sixteen digit sprites, five bytes each, which lie in memory from address `0x050` on.
-/

/-- Where the font starts. -/
def fontStart : Nat := 0x050

/-- The bytes of one digit sprite. -/
def glyphSize : Nat := 5

/-- The sprites of the digits 0 to F. -/
def fontBytes : List UInt8 :=
  [0xF0, 0x90, 0x90, 0x90, 0xF0,
   0x20, 0x60, 0x20, 0x20, 0x70,
   0xF0, 0x10, 0xF0, 0x80, 0xF0,
   0xF0, 0x10, 0xF0, 0x10, 0xF0,
   0x90, 0x90, 0xF0, 0x10, 0x10,
   0xF0, 0x80, 0xF0, 0x10, 0xF0,
   0xF0, 0x80, 0xF0, 0x90, 0xF0,
   0xF0, 0x10, 0x20, 0x40, 0x40,
   0xF0, 0x90, 0xF0, 0x90, 0xF0,
   0xF0, 0x90, 0xF0, 0x10, 0xF0,
   0xF0, 0x90, 0xF0, 0x90, 0x90,
   0xE0, 0x90, 0xE0, 0x90, 0xE0,
   0xF0, 0x80, 0x80, 0x80, 0xF0,
   0xE0, 0x90, 0x90, 0x90, 0xE0,
   0xF0, 0x80, 0xF0, 0x80, 0xF0,
   0xF0, 0x80, 0xF0, 0x80, 0x80]

/-- Memory with nothing but the font. -/
def Memory.initial : Memory := Memory.zero.writeBytes fontStart fontBytes fontBytes.length

end Chip8
