import Chip8.Instruction.Decode
import Chip8.Text.Numeral

namespace Chip8

open Chip8.Text

/-!
# Listings

Instruction words as assembly text.

* `Operation.listing` — the text of a word that has the operation: the mnemonic, then the operands
  parted by commas, destination first;
* `listing` — the text of any integer taken as a word; a word that is no instruction is listed as
  data.
-/

/-- A register by its number. -/
def registerText (r : Fin 16) : String := "V" ++ hex 1 r.val

/-- A byte operand. -/
def byteText (b : UInt8) : String := "0x" ++ hex 2 b.toNat

/-- An address operand. -/
def addressText (a : Fin 4096) : String := "0x" ++ hex 3 a.val

/-- A mnemonic with its operands. -/
def operandsText (mnemonic : String) (operands : List String) : String :=
  mnemonic ++ " " ++ ", ".intercalate operands

/-- The text of a word that has the operation. -/
def Operation.listing (op : Operation) (w : Word) : String :=
  let vx := registerText (Word.x w)
  let vy := registerText (Word.y w)
  let byte := byteText (Word.nn w)
  let address := addressText (Word.nnn w)
  match op with
  | .clear => "CLS"
  | .ret => "RET"
  | .jump => operandsText "JP" [address]
  | .call => operandsText "CALL" [address]
  | .skipEqualByte => operandsText "SE" [vx, byte]
  | .skipUnequalByte => operandsText "SNE" [vx, byte]
  | .skipEqual => operandsText "SE" [vx, vy]
  | .setByte => operandsText "LD" [vx, byte]
  | .addByte => operandsText "ADD" [vx, byte]
  | .copy => operandsText "LD" [vx, vy]
  | .or => operandsText "OR" [vx, vy]
  | .and => operandsText "AND" [vx, vy]
  | .xor => operandsText "XOR" [vx, vy]
  | .add => operandsText "ADD" [vx, vy]
  | .sub => operandsText "SUB" [vx, vy]
  | .shiftRight => operandsText "SHR" [vx, vy]
  | .subFrom => operandsText "SUBN" [vx, vy]
  | .shiftLeft => operandsText "SHL" [vx, vy]
  | .skipUnequal => operandsText "SNE" [vx, vy]
  | .setIndex => operandsText "LD" ["I", address]
  | .jumpOffset => operandsText "JP" ["V0", address]
  | .random => operandsText "RND" [vx, byte]
  | .draw => operandsText "DRW" [vx, vy, decimal (Word.n w).val]
  | .skipPressed => operandsText "SKP" [vx]
  | .skipReleased => operandsText "SKNP" [vx]
  | .readDelay => operandsText "LD" [vx, "DT"]
  | .waitKey => operandsText "LD" [vx, "K"]
  | .setDelay => operandsText "LD" ["DT", vx]
  | .setSound => operandsText "LD" ["ST", vx]
  | .addIndex => operandsText "ADD" ["I", vx]
  | .indexFont => operandsText "LD" ["F", vx]
  | .storeDecimal => operandsText "LD" ["B", vx]
  | .storeRegisters => operandsText "LD" ["[I]", vx]
  | .loadRegisters => operandsText "LD" [vx, "[I]"]

/-- The text of an integer taken as an instruction word modulo `2 ^ 16`. -/
def listing (z : Int) : String :=
  let w := Word.ofInt z
  match Operation.ofWord? w with
  | some op => op.listing w
  | none => operandsText "DW" ["0x" ++ hex 4 w.toNat]

end Chip8
