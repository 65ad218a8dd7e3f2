import Chip8.Arithmetic
import Chip8.Instruction.Decode
import Chip8.State

namespace Chip8

/-!
# Execution

What each operation does.  The program counter has already been moved past the word.

* `State.skipIf`, `State.setFlagged`, `State.setLogic`, … — the steps that several operations share;
* `Operation.effect` — the new state, or the trap the operation runs into; the random byte is given;
* `Operation.run` — the same with the byte drawn from its source.
-/

namespace State

/-- The program counter moved past the next word if a condition holds. -/
def skipIf (s : State) (condition : Bool) : State :=
  if condition then { s with pc := s.pc + 2 } else s

/-- A register set to a result and VF to the flag that comes with it; VF is written last. -/
def setFlagged (s : State) (r : Fin 16) (outcome : UInt8 × UInt8) : State :=
  (s.setReg r outcome.1).setReg 15 outcome.2

/-- A register set to the result of a bitwise operation, which clears VF in some dialects. -/
def setLogic (s : State) (r : Fin 16) (value : UInt8) : State :=
  let t := s.setReg r value
  if s.dialect.logicResetsVf then t.setReg 15 0 else t

/-- The byte that a shift starts from. -/
def shiftOperand (s : State) (w : Word) : UInt8 :=
  if s.dialect.shiftUsesVy then s.reg (Word.y w) else s.reg (Word.x w)

/-- The byte that a jump adds to its address. -/
def jumpByte (s : State) (w : Word) : UInt8 :=
  if s.dialect.jumpUsesVx then s.reg (Word.x w) else s.reg 0

/-- I after `count` bytes were stored or loaded. -/
def indexAfter (s : State) (count : Nat) : UInt16 :=
  if s.dialect.indexAdvances then s.index + UInt16.ofNat count else s.index

/-- The state that follows an access of `length` bytes at I, or the trap if they are not all in
    memory. -/
def accessing (s : State) (length : Nat) (next : State) : Except Trap State :=
  if outOfBounds s.index.toNat length then .error (.outOfBounds s.index.toNat length)
  else .ok next

/-- A sprite of `height` rows drawn at a position, VF telling whether a lit pixel went dark. -/
def drawSprite (s : State) (x y : UInt8) (height : Nat) : State :=
  let sprite := Screen.ofSprite x.toNat y.toNat (s.memory.readBytes s.index.toNat height)
  { s with screen := s.screen.xor sprite }.setReg 15 (Arithmetic.flag (s.screen.meets sprite))

/-- The decimal digits of a byte, hundreds first. -/
def decimalDigits (value : UInt8) : List UInt8 := [value / 100, value / 10 % 10, value % 10]

/-- The registers V0 to VX read from memory at I, the others kept. -/
def loadedRegisters (s : State) (x : Fin 16) : Vector UInt8 16 :=
  Vector.ofFn (fun r =>
    if r ≤ x then s.memory.byteAt (s.index.toNat + r.val) else s.reg r)

/-- The key that is waited for stored in a register; without one the program counter goes back to
    the waiting instruction. -/
def awaitKey (s : State) (r : Fin 16) : State :=
  match s.lowestKey? with
  | some k => s.setReg r (UInt8.ofNat k.val)
  | none => { s with pc := s.pc - 2 }

end State

/-- What an operation with the operands of a word does to a state whose program counter is past the
    word.  `byte` is the random byte, of use to one operation only. -/
def Operation.effect (op : Operation) (w : Word) (byte : UInt8) (s : State) : Except Trap State :=
  let x := Word.x w
  let vx := s.reg x
  let vy := s.reg (Word.y w)
  let nn := Word.nn w
  let target := UInt16.ofNat (Word.nnn w).val
  match op with
  | .clear => .ok { s with screen := .blank }
  | .ret =>
    let (stack, address, empty) := s.stack.pop
    if empty then .error .stackUnderflow else .ok { s with stack, pc := address }
  | .jump => .ok { s with pc := target }
  | .call =>
    let (stack, full) := s.stack.push s.pc
    if full then .error .stackOverflow else .ok { s with stack, pc := target }
  | .skipEqualByte => .ok (s.skipIf (vx == nn))
  | .skipUnequalByte => .ok (s.skipIf (vx != nn))
  | .skipEqual => .ok (s.skipIf (vx == vy))
  | .setByte => .ok (s.setReg x nn)
  | .addByte => .ok (s.setReg x (vx + nn))
  | .copy => .ok (s.setReg x vy)
  | .or => .ok (s.setLogic x (vx ||| vy))
  | .and => .ok (s.setLogic x (vx &&& vy))
  | .xor => .ok (s.setLogic x (vx ^^^ vy))
  | .add => .ok (s.setFlagged x (Arithmetic.add vx vy))
  | .sub => .ok (s.setFlagged x (Arithmetic.sub vx vy))
  | .shiftRight => .ok (s.setFlagged x (Arithmetic.shiftRight (s.shiftOperand w)))
  | .subFrom => .ok (s.setFlagged x (Arithmetic.sub vy vx))
  | .shiftLeft => .ok (s.setFlagged x (Arithmetic.shiftLeft (s.shiftOperand w)))
  | .skipUnequal => .ok (s.skipIf (vx != vy))
  | .setIndex => .ok { s with index := target }
  | .jumpOffset => .ok { s with pc := target + (s.jumpByte w).toUInt16 }
  | .random => .ok (s.setReg x (byte &&& nn))
  | .draw =>
    let height := (Word.n w).val
    s.accessing height (s.drawSprite vx vy height)
  | .skipPressed => .ok (s.skipIf (s.pressed vx))
  | .skipReleased => .ok (s.skipIf (!s.pressed vx))
  | .readDelay => .ok (s.setReg x s.delay)
  | .waitKey => .ok (s.awaitKey x)
  | .setDelay => .ok { s with delay := vx }
  | .setSound => .ok { s with sound := vx }
  | .addIndex => .ok { s with index := s.index + vx.toUInt16 }
  | .indexFont =>
    .ok { s with index := UInt16.ofNat (fontStart + glyphSize * (vx.toNat % 16)) }
  | .storeDecimal =>
    s.accessing 3
      { s with memory := s.memory.writeBytes s.index.toNat (State.decimalDigits vx) 3 }
  | .storeRegisters =>
    let count := x.val + 1
    s.accessing count
      { s with
        memory := s.memory.writeBytes s.index.toNat s.registers.toList count
        index := s.indexAfter count }
  | .loadRegisters =>
    let count := x.val + 1
    s.accessing count
      { s with registers := s.loadedRegisters x, index := s.indexAfter count }

/-- An operation with its random byte drawn from the source, if it needs one.  A trap takes back
    what happened to the state, but a number that a host has given stays given. -/
def Operation.run (op : Operation) (w : Word) (s : State) (source : ByteSource) :
    Except Trap State × ByteSource :=
  if op = .random then
    let (byte, key, source) := source.draw s.key
    (op.effect w byte { s with key }, source)
  else (op.effect w 0 s, source)

end Chip8
