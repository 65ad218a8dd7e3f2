import Chip8.State

namespace Chip8

open Chip8.Text

/-!
# Debugger

Writes to single parts of a state.  Every value is checked first; a refused value leaves the fault
`Fault.rejectedWrite` with the name of the part, and no new state.
-/

/-- The number a value stands for, or the refusal to write it to the named part. -/
def checked (field : String) (limit : Nat) (value : Value) : Except Fault (Fin limit) :=
  match value.natBelow? limit with
  | some k => .ok k
  | none => .error (.rejectedWrite field value)

/-- A value is accepted exactly when it is an integer in the range. -/
theorem checked_eq_ok_iff {field : String} {limit : Nat} {value : Value} {k : Fin limit} :
    checked field limit value = .ok k ↔ value.natBelow? limit = some k := by
  unfold checked
  cases value.natBelow? limit <;> simp

namespace State

/-- One byte of memory. -/
def pokeMemory (s : State) (address value : Value) : Except Fault State := do
  let a ← checked "address" memorySize address
  let b ← checked "memory value" 256 value
  pure { s with memory := s.memory.writeByte a.val (UInt8.ofNat b.val) }

/-- One register. -/
def pokeRegister (s : State) (register value : Value) : Except Fault State := do
  let r ← checked "register" 16 register
  let b ← checked ("V" ++ hex 1 r.val) 256 value
  pure (s.setReg r (UInt8.ofNat b.val))

/-- The index register, which takes addresses inside memory. -/
def pokeIndex (s : State) (value : Value) : Except Fault State := do
  let a ← checked "I" memorySize value
  pure { s with index := UInt16.ofNat a.val }

/-- The program counter, which takes addresses inside memory. -/
def pokePc (s : State) (value : Value) : Except Fault State := do
  let a ← checked "pc" memorySize value
  pure { s with pc := UInt16.ofNat a.val }

/-- The delay timer; nothing leaves it as it is. -/
def pokeDelay (s : State) : Value → Except Fault State
  | .null => .ok s
  | value => do
    let b ← checked "delay timer" 256 value
    pure { s with delay := UInt8.ofNat b.val }

/-- The sound timer; nothing leaves it as it is. -/
def pokeSound (s : State) : Value → Except Fault State
  | .null => .ok s
  | value => do
    let b ← checked "sound timer" 256 value
    pure { s with sound := UInt8.ofNat b.val }

/-- Both timers, the delay timer first. -/
def pokeTimers (s : State) (delay sound : Value) : Except Fault State := do
  let t ← s.pokeDelay delay
  t.pokeSound sound

/-- One pixel, lit if the switch counts as true. -/
def pokePixel (s : State) (x y on : Value) : Except Fault State := do
  let column ← checked "x" 64 x
  let row ← checked "y" 32 y
  pure { s with screen := s.screen.setPixel column row on.isTrue }

/-- One slot of the call stack, which takes addresses inside memory. -/
def pokeStack (s : State) (position address : Value) : Except Fault State := do
  let k ← checked "stack position" 16 position
  let a ← checked "stack address" memorySize address
  pure { s with stack := { s.stack with slots := s.stack.slots.setIfInBounds k (UInt16.ofNat a.val) } }

/-- The depth of the call stack. -/
def pokeDepth (s : State) (value : Value) : Except Fault State := do
  let d ← checked "sp" (stackSize + 1) value
  pure { s with stack := { s.stack with depth := d.val } }

end State

end Chip8
