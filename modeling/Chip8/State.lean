import Chip8.CallStack
import Chip8.Dialect
import Chip8.FaultRecord
import Chip8.Font
import Chip8.Random
import Chip8.Screen

namespace Chip8

/-!
# State

Everything the instructions work on.

* `State`, `State.initial` — the state, and the one a machine starts from;
* `State.loadRom` — a program image copied to where programs start;
* `State.tick` — the timers counted down once;
* `State.lowestKey?`, `State.pressed` — the first key that is pressed, and whether a key is.
-/

/-- Where programs start. -/
def programStart : Nat := 0x200

/-- The size of the largest program image. -/
def romLimit : Nat := memorySize - programStart

/-- The state of the interpreter. -/
structure State where
  memory : Memory
  /-- V0 to VF. -/
  registers : Vector UInt8 16
  /-- I. -/
  index : UInt16
  pc : UInt16
  stack : CallStack
  delay : UInt8
  sound : UInt8
  screen : Screen
  /-- Which of the keys 0 to F are pressed. -/
  keypad : Vector Bool 16
  /-- The key of the random bytes. -/
  key : RandomKey
  fault : FaultRecord
  dialect : Dialect
deriving DecidableEq, Repr

namespace State

/-- The state a machine starts from: nothing in memory but the font. -/
def initial (dialect : Dialect) (key : RandomKey) : State where
  memory := Memory.initial
  registers := Vector.replicate 16 0
  index := 0
  pc := UInt16.ofNat programStart
  stack := .empty
  delay := 0
  sound := 0
  screen := .blank
  keypad := Vector.replicate 16 false
  key := key
  fault := .clear
  dialect := dialect

instance : Inhabited State := ⟨initial {} default⟩

/-- A program image copied into memory; everything else stays. -/
def loadRom (s : State) (rom : List UInt8) : Except Fault State :=
  if rom.length ≤ romLimit then
    .ok { s with memory := s.memory.writeBytes programStart rom rom.length }
  else .error (.romTooLarge rom.length romLimit)

/-- Both timers counted down by one, but not below zero. -/
def tick (s : State) : State :=
  { s with
    delay := if s.delay = 0 then 0 else s.delay - 1
    sound := if s.sound = 0 then 0 else s.sound - 1 }

/-- The value of a register. -/
def reg (s : State) (r : Fin 16) : UInt8 := s.registers[r]

/-- The state with one register replaced. -/
def setReg (s : State) (r : Fin 16) (value : UInt8) : State :=
  { s with registers := s.registers.set r value }

/-- The pressed keys, ascending. -/
def pressedKeys (s : State) : List (Fin 16) :=
  (List.finRange 16).filter (fun k => s.keypad[k])

/-- The first key that is pressed. -/
def lowestKey? (s : State) : Option (Fin 16) :=
  (List.finRange 16).find? (fun k => s.keypad[k])

/-- Whether the key that the last digit of a value names is pressed. -/
def pressed (s : State) (value : UInt8) : Bool := s.keypad[value.toNat % 16]

/-- A written register holds its new value, the others keep theirs. -/
theorem reg_setReg (s : State) (r q : Fin 16) (value : UInt8) :
    (s.setReg r value).reg q = if r = q then value else s.reg q := by
  simp [reg, setReg, Vector.getElem_set, Fin.ext_iff]

/-- A timer that is counted down holds the natural difference. -/
theorem toNat_delay_tick (s : State) : s.tick.delay.toNat = s.delay.toNat - 1 := by
  have h := s.delay.toNat_lt
  simp only [tick]
  split
  · simp [*]
  · next hne =>
    have : s.delay.toNat ≠ 0 := fun h0 => hne (UInt8.toNat_inj.1 (by simpa using h0))
    rw [UInt8.toNat_sub_of_le _ _ (by rw [UInt8.le_iff_toNat_le]; simp; omega)]
    simp

end State

end Chip8
