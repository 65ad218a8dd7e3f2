import Chip8.Error
import Chip8.Instruction.Word

namespace Chip8

/-!
# Fault records

A batch cannot stop with an error; it leaves a record of what went wrong in the state instead.

* `Trap` — why an instruction cannot complete;
* `FaultRecord` — the record, `FaultRecord.clear` — the record of a healthy run;
* `Trap.record`, `Trap.fault` — the record and the fault of a trap;
* `FaultRecord.fault?` — the fault a record stands for;
* `fault?_record` — a trap's record stands for the trap's fault.
-/

/-- Why an instruction cannot complete. -/
inductive Trap
  /-- It reaches `length` bytes at `address`, past the end of memory. -/
  | outOfBounds (address length : Nat)
  /-- It calls with a full stack. -/
  | stackOverflow
  /-- It returns with an empty stack. -/
  | stackUnderflow
  /-- There is no such instruction. -/
  | unknownOpcode
deriving DecidableEq, Repr, Inhabited

/-- What a record can say. -/
inductive FaultCode
  | none
  | memory
  | stackOverflow
  | stackUnderflow
  | unknownOpcode
deriving DecidableEq, Repr, Inhabited

namespace FaultCode

/-- The number of a code. -/
def number : FaultCode → Nat
  | none => 0
  | memory => 1
  | stackOverflow => 2
  | stackUnderflow => 3
  | unknownOpcode => 4

/-- The code of a number. -/
def ofNumber (number : Int) : Except Error FaultCode :=
  match number with
  | 0 => .ok none
  | 1 => .ok memory
  | 2 => .ok stackOverflow
  | 3 => .ok stackUnderflow
  | 4 => .ok unknownOpcode
  | other => .error (.unknownCode (.int other))

/-- Every code has its number. -/
@[simp] theorem ofNumber_number (code : FaultCode) : ofNumber code.number = .ok code := by
  cases code <;> rfl

/-- All codes. -/
def all : List FaultCode := [none, memory, stackOverflow, stackUnderflow, unknownOpcode]

/-- The code of a value: a number may also be given as a truth value or as a float. -/
def ofValue : Value → Except Error FaultCode
  | .int n => ofNumber n
  | .bool b => ofNumber (if b then 1 else 0)
  | .float x =>
    match all.find? (fun code => Float.ofNat code.number == x) with
    | some code => .ok code
    | _ => .error (.unknownCode (.float x))
  | other => .error (.unknownCode other)

end FaultCode

/-- What a batch leaves behind about the fault that ended it. -/
structure FaultRecord where
  /-- The number of the code; zero while all is well. -/
  code : UInt8
  /-- The address of the instruction. -/
  pc : UInt16
  /-- The instruction word. -/
  opcode : UInt16
  /-- The first byte of the access that failed. -/
  address : Int
  /-- The number of bytes of the access that failed. -/
  length : Int
deriving DecidableEq, Repr

namespace FaultRecord

/-- The record of a healthy run. -/
def clear : FaultRecord := ⟨0, 0, 0, 0, 0⟩

instance : Inhabited FaultRecord := ⟨clear⟩

/-- Whether the record tells of a fault. -/
def isSet (r : FaultRecord) : Bool := r.code != 0

/-- The record with code and access replaced. -/
def flag (r : FaultRecord) (code : FaultCode) (address length : Int) : FaultRecord :=
  { r with code := UInt8.ofNat code.number, address, length }

/-- The fault a record stands for, given the depth of the call stack; none if it is clear. -/
def fault? (r : FaultRecord) (depth : Int) : Except Error (Option Fault) := do
  let pc : Int := r.pc.toNat
  match ← FaultCode.ofNumber r.code.toNat with
  | .none => pure none
  | .memory => pure (some (.memoryOutOfBounds r.address r.length pc))
  | .stackOverflow => pure (some (.stackOverflow pc depth))
  | .stackUnderflow => pure (some (.stackUnderflow pc depth))
  | .unknownOpcode => pure (some (.unknownOpcode r.opcode.toNat pc))

/-- A clear record stands for no fault. -/
@[simp] theorem fault?_clear (depth : Int) : clear.fault? depth = .ok none := rfl

end FaultRecord

namespace Trap

/-- The code of a trap. -/
def code : Trap → FaultCode
  | outOfBounds _ _ => .memory
  | stackOverflow => .stackOverflow
  | stackUnderflow => .stackUnderflow
  | unknownOpcode => .unknownOpcode

/-- The access of a trap, zero where no access failed. -/
def access : Trap → Nat × Nat
  | outOfBounds address length => (address, length)
  | _ => (0, 0)

/-- The record of a trap of the word at `pc`. -/
def record (trap : Trap) (pc : UInt16) (word : Word) : FaultRecord :=
  ⟨UInt8.ofNat trap.code.number, pc, word, trap.access.1, trap.access.2⟩

/-- The fault of a trap of the word at `pc`, given the depth of the call stack. -/
def fault (trap : Trap) (pc : Int) (word : Word) (depth : Int) : Fault :=
  match trap with
  | outOfBounds address length => .memoryOutOfBounds address length pc
  | stackOverflow => .stackOverflow pc depth
  | stackUnderflow => .stackUnderflow pc depth
  | unknownOpcode => .unknownOpcode word.toNat pc

/-- A trap's record stands for the trap's fault. -/
theorem fault?_record (trap : Trap) (pc : UInt16) (word : Word) (depth : Int) :
    (trap.record pc word).fault? depth = .ok (some (trap.fault pc.toNat word depth)) := by
  cases trap <;> rfl

/-- A trap's record tells of a fault. -/
theorem isSet_record (trap : Trap) (pc : UInt16) (word : Word) :
    (trap.record pc word).isSet = true := by
  cases trap <;> rfl

end Trap

end Chip8
