import Chip8.Instruction.Word
import Chip8.Text.Numeral

namespace Chip8

/-!
# Operations

The 34 operations of the instruction set.

* `Operation` — the operations, `Operation.all` — all of them in their fixed order;
* `Operation.label`, `Operation.pattern` — the name of an operation and the shape of its words;
* `Word.fits` — whether the digits of a word fit a pattern;
* `Operation.ofWord?` — the operation of a word, if it has one;
* `Operation.passes`, `Operation.index` — the same for all words at once, as a table that is filled
  pass by pass.
-/

/-- An operation of the instruction set. -/
inductive Operation
  | clear
  | ret
  | jump
  | call
  | skipEqualByte
  | skipUnequalByte
  | skipEqual
  | setByte
  | addByte
  | copy
  | or
  | and
  | xor
  | add
  | sub
  | shiftRight
  | subFrom
  | shiftLeft
  | skipUnequal
  | setIndex
  | jumpOffset
  | random
  | draw
  | skipPressed
  | skipReleased
  | readDelay
  | waitKey
  | setDelay
  | setSound
  | addIndex
  | indexFont
  | storeDecimal
  | storeRegisters
  | loadRegisters
deriving DecidableEq, Repr, Inhabited

namespace Operation

/-- All operations in their fixed order. -/
def all : List Operation :=
  [clear, ret, jump, call, skipEqualByte, skipUnequalByte, skipEqual, setByte, addByte, copy, or,
   and, xor, add, sub, shiftRight, subFrom, shiftLeft, skipUnequal, setIndex, jumpOffset, random,
   draw, skipPressed, skipReleased, readDelay, waitKey, setDelay, setSound, addIndex, indexFont,
   storeDecimal, storeRegisters, loadRegisters]

/-- Every operation is in the list. -/
theorem mem_all (op : Operation) : op ∈ all := by
  cases op <;> decide

/-- The place of an operation in the fixed order. -/
def position (op : Operation) : Nat := all.idxOf op

/-- The name of an operation. -/
def label : Operation → String
  | clear => "CLS"
  | ret => "RET"
  | jump => "JP"
  | call => "CALL"
  | skipEqualByte => "SE_BYTE"
  | skipUnequalByte => "SNE_BYTE"
  | skipEqual => "SE_REG"
  | setByte => "LD_BYTE"
  | addByte => "ADD_BYTE"
  | copy => "LD_REG"
  | or => "OR"
  | and => "AND"
  | xor => "XOR"
  | add => "ADD_REG"
  | sub => "SUB"
  | shiftRight => "SHR"
  | subFrom => "SUBN"
  | shiftLeft => "SHL"
  | skipUnequal => "SNE_REG"
  | setIndex => "LD_I"
  | jumpOffset => "JP_V0"
  | random => "RND"
  | draw => "DRW"
  | skipPressed => "SKP"
  | skipReleased => "SKNP"
  | readDelay => "LD_VX_DT"
  | waitKey => "LD_K"
  | setDelay => "LD_DT_VX"
  | setSound => "LD_ST_VX"
  | addIndex => "ADD_I"
  | indexFont => "LD_F"
  | storeDecimal => "LD_B"
  | storeRegisters => "LD_I_VX"
  | loadRegisters => "LD_VX_I"

/-- The shape of the words of an operation: a hexadecimal digit stands for itself, while `X`, `Y`
    and `N` stand for any digit. -/
def pattern : Operation → String
  | clear => "00E0"
  | ret => "00EE"
  | jump => "1NNN"
  | call => "2NNN"
  | skipEqualByte => "3XNN"
  | skipUnequalByte => "4XNN"
  | skipEqual => "5XY0"
  | setByte => "6XNN"
  | addByte => "7XNN"
  | copy => "8XY0"
  | or => "8XY1"
  | and => "8XY2"
  | xor => "8XY3"
  | add => "8XY4"
  | sub => "8XY5"
  | shiftRight => "8XY6"
  | subFrom => "8XY7"
  | shiftLeft => "8XYE"
  | skipUnequal => "9XY0"
  | setIndex => "ANNN"
  | jumpOffset => "BNNN"
  | random => "CXNN"
  | draw => "DXYN"
  | skipPressed => "EX9E"
  | skipReleased => "EXA1"
  | readDelay => "FX07"
  | waitKey => "FX0A"
  | setDelay => "FX15"
  | setSound => "FX18"
  | addIndex => "FX1E"
  | indexFont => "FX29"
  | storeDecimal => "FX33"
  | storeRegisters => "FX55"
  | loadRegisters => "FX65"

/-- The operation of a label. -/
def labelled? (label : String) : Option Operation := all.find? (fun op => op.label == label)

/-! ### From words to operations -/

/-- The operations that share the first digit 8, told apart by the last digit. -/
def ofArithmetic? : Nat → Option Operation
  | 0x0 => some copy
  | 0x1 => some or
  | 0x2 => some and
  | 0x3 => some xor
  | 0x4 => some add
  | 0x5 => some sub
  | 0x6 => some shiftRight
  | 0x7 => some subFrom
  | 0xE => some shiftLeft
  | _ => none

/-- The operations that share the first digit E, told apart by the low byte. -/
def ofKeypad? : Nat → Option Operation
  | 0x9E => some skipPressed
  | 0xA1 => some skipReleased
  | _ => none

/-- The operations that share the first digit F, told apart by the low byte. -/
def ofDevice? : Nat → Option Operation
  | 0x07 => some readDelay
  | 0x0A => some waitKey
  | 0x15 => some setDelay
  | 0x18 => some setSound
  | 0x1E => some addIndex
  | 0x29 => some indexFont
  | 0x33 => some storeDecimal
  | 0x55 => some storeRegisters
  | 0x65 => some loadRegisters
  | _ => none

/-- The operations that share the first digit 0, told apart by the other three. -/
def ofSystem? : Nat → Option Operation
  | 0x0E0 => some clear
  | 0x0EE => some ret
  | _ => none

/-- The operation of a word.  The first digit decides, or says which of the others do. -/
def ofWord? (w : Word) : Option Operation :=
  match (Word.lead w).val with
  | 0x0 => ofSystem? (Word.nnn w).val
  | 0x1 => some jump
  | 0x2 => some call
  | 0x3 => some skipEqualByte
  | 0x4 => some skipUnequalByte
  | 0x5 => if (Word.n w).val = 0 then some skipEqual else none
  | 0x6 => some setByte
  | 0x7 => some addByte
  | 0x8 => ofArithmetic? (Word.n w).val
  | 0x9 => if (Word.n w).val = 0 then some skipUnequal else none
  | 0xA => some setIndex
  | 0xB => some jumpOffset
  | 0xC => some random
  | 0xD => some draw
  | 0xE => ofKeypad? (Word.nn w).toNat
  | _ => ofDevice? (Word.nn w).toNat

/-! ### The table of all words -/

/-- One pass over the table of all words: which words it writes, and the operation it writes
    there. -/
structure Pass where
  covers : Word → Bool
  op : Operation

/-- The words with a first digit, all of them for one operation. -/
def leadPass (digit : Nat) (op : Operation) : Pass := ⟨fun w => (Word.lead w).val == digit, op⟩

/-- A single word. -/
def wordPass (word : Nat) (op : Operation) : Pass := ⟨fun w => w.toNat == word, op⟩

/-- The words with a first digit and a last digit. -/
def lowDigitPass (digit low : Nat) (op : Operation) : Pass :=
  ⟨fun w => (Word.lead w).val == digit && (Word.n w).val == low, op⟩

/-- The words with a first digit and a low byte. -/
def lowBytePass (digit low : Nat) (op : Operation) : Pass :=
  ⟨fun w => (Word.lead w).val == digit && (Word.nn w).toNat == low, op⟩

/-- The passes that fill the table, in their order. -/
def passes : List Pass :=
  [leadPass 0x1 jump, leadPass 0x2 call, leadPass 0x3 skipEqualByte, leadPass 0x4 skipUnequalByte,
   leadPass 0x6 setByte, leadPass 0x7 addByte, leadPass 0xA setIndex, leadPass 0xB jumpOffset,
   leadPass 0xC random, leadPass 0xD draw,
   wordPass 0x00E0 clear, wordPass 0x00EE ret,
   lowDigitPass 0x5 0x0 skipEqual, lowDigitPass 0x9 0x0 skipUnequal,
   lowDigitPass 0x8 0x0 copy, lowDigitPass 0x8 0x1 or, lowDigitPass 0x8 0x2 and,
   lowDigitPass 0x8 0x3 xor, lowDigitPass 0x8 0x4 add, lowDigitPass 0x8 0x5 sub,
   lowDigitPass 0x8 0x6 shiftRight, lowDigitPass 0x8 0x7 subFrom, lowDigitPass 0x8 0xE shiftLeft,
   lowBytePass 0xE 0x9E skipPressed, lowBytePass 0xE 0xA1 skipReleased,
   lowBytePass 0xF 0x07 readDelay, lowBytePass 0xF 0x0A waitKey, lowBytePass 0xF 0x15 setDelay,
   lowBytePass 0xF 0x18 setSound, lowBytePass 0xF 0x1E addIndex, lowBytePass 0xF 0x29 indexFont,
   lowBytePass 0xF 0x33 storeDecimal, lowBytePass 0xF 0x55 storeRegisters,
   lowBytePass 0xF 0x65 loadRegisters]

/-- An entry of the table after some passes: what was there before, or what the last pass that
    covers the word has written. -/
def afterPasses (w : Word) (entry : Int) (passes : List Pass) : Int :=
  passes.foldl (fun entry pass => if pass.covers w then pass.op.position else entry) entry

/-- The entry of a word in the table of all words: the place of its operation in the fixed order, or
    -1 for a word that no pass covers. -/
def index (w : Word) : Int := afterPasses w (-1) passes

end Operation

/-! ### Patterns -/

/-- Whether one character of a pattern fits one digit of a word. -/
def fitsDigit (c : Char) (digit : Nat) : Bool :=
  c == 'X' || c == 'Y' || c == 'N' || c == Text.digitChar digit

/-- Whether the digits of a word fit a pattern. -/
def Word.fits (pattern : String) (w : Word) : Bool :=
  match pattern.toList with
  | [a, b, c, d] =>
    fitsDigit a (Word.lead w).val && fitsDigit b (Word.x w).val
      && fitsDigit c (Word.y w).val && fitsDigit d (Word.n w).val
  | _ => false

end Chip8
