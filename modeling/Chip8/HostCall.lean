import Chip8.HostFault
import Chip8.HostNumber
import Chip8.Machine

namespace Chip8

/-!
# Host calls

Parts of the interpreter called by a host with values of any kind.  What cannot be used is refused
before anything happens.

* `decodeFor`, `rangeTests`, `arithmeticNamed`, `arithmeticOf` — the decoder, the range tests and
  the arithmetic on their own;
* `runnable` — whether batches can run under a host's description of a dialect;
* `State.runBatchOf` and its neighbours — the parts that work on a state;
* `Machine.frameFor` — a frame of a machine under such a description;
* `decodeFor_int`, `rangeTests_int`, `arithmeticOf_int`, `State.pushAddress_int`,
  `State.executeWordAt_int`, `Machine.frameFor_int` — proper values make no difference.
-/

/-! ### Calls without a state -/

/-- The instruction of a word, or the fault that there is none.  The word may be any value that a
    whole number can be made of, and the fault keeps the address as it is. -/
def decodeFor (word address : Value) : Except Error (Except HostFault Instruction) := do
  let z ← word.whole
  match Instruction.decode z none with
  | .ok i => pure (.ok i)
  | .error _ => do
    let fault ← HostFault.opcodeFault (.int (Word.ofInt z).toNat) address
    pure (.error fault)

/-- An integer is decoded as such, but for the address, which is not part of the answer. -/
theorem decodeFor_int (z : Int) (address : Option Int) :
    decodeFor (.int z) (.optional address)
      = .ok (match Instruction.decode z address with
          | .ok i => .ok { i with address := none }
          | .error fault => .error (.ofFault fault)) := by
  have faulty : HostFault.opcodeFault (.int (Word.ofInt z).toNat) (.optional address)
      = .ok (.ofFault (.unknownOpcode (Word.ofInt z).toNat address)) := by
    cases address <;> rfl
  cases h : Operation.ofWord? (Word.ofInt z) with
  | none => simp [decodeFor, Value.whole, Instruction.decode, h, faulty, bind, Except.bind, pure,
      Except.pure]
  | some op => simp [decodeFor, Value.whole, Instruction.decode, h, bind, Except.bind, pure,
      Except.pure]

/-- Whether an access that starts at a number of 32 bits runs past the end of memory.  With a float
    as its length that is calculated in floats of half the size. -/
def runsOut (a : Int) : Value → Except Error Bool
  | .float x => .ok (decide (4096 < single (single (Float.ofInt a) + single x)))
  | length => do pure (outOfBounds a (← length.number32))

/-- Whether an access does not lie inside memory, for numbers of any kind. -/
def liesOutside (address length : Value) : Bool :=
  match address.integer?, length.integer? with
  | some a, some n => !(checkRange a n none).toBool
  | _, _ =>
    let a := address.measure
    decide (a < 0) || decide (4096 < a + length.measure)

/-- Whether an access runs past the end of memory, and the fault of an access that does not lie
    inside memory, which keeps the values as they are. -/
def rangeTests (address length pc : Value) : Except Error (Bool × Option HostFault) := do
  let a ← address.number32
  let past ← runsOut a length
  if liesOutside address length then pure (past, some (← HostFault.access address length pc))
  else pure (past, none)

/-- Numbers of 32 bits are tested as such, and the fault is that of the range check. -/
theorem rangeTests_int {a n : Int} (ha : fits32 a = true) (hn : fits32 n = true)
    (pc : Option Int) :
    rangeTests (.int a) (.int n) (.optional pc)
      = .ok (outOfBounds a n,
          match checkRange a n pc with
          | .ok _ => none
          | .error fault => some (.ofFault fault)) := by
  have access : HostFault.access (.int a) (.int n) (.optional pc)
      = .ok (.ofFault (.memoryOutOfBounds a n pc)) := by
    cases pc <;> rfl
  by_cases h : a < 0 ∨ 4096 < a + n
  · simp [rangeTests, liesOutside, runsOut, Value.integer?, Value.number32, checkRange, number32,
      Except.toBool, ha, hn, h, access, bind, Except.bind, pure, Except.pure]
  · simp [rangeTests, liesOutside, runsOut, Value.integer?, Value.number32, checkRange, number32,
      Except.toBool, ha, hn, h, bind, Except.bind, pure, Except.pure]

/-- The arithmetic operation of a name. -/
def arithmeticNamed (name : String) : Except Error Operation :=
  match Operation.labelled? name with
  | some op => if op.isArithmetic then .ok op else .error .unknownArithmetic
  | none => .error .unknownArithmetic

/-- The result of an arithmetic operation on two values of a host, which have to be bytes. -/
def arithmeticOf (op : Operation) (vx vy : Value) : Except Error (UInt8 × Option UInt8) := do
  let a ← vx.stored 0 256
  let b ← vy.stored 0 256
  match op.arithmetic? (UInt8.ofNat a.toNat) (UInt8.ofNat b.toNat) with
  | some result => pure result
  | none => throw .unknownArithmetic

/-- Bytes are calculated with as they are. -/
theorem arithmeticOf_int {op : Operation} (a b : UInt8) {result : UInt8 × Option UInt8}
    (h : op.arithmetic? a b = some result) :
    arithmeticOf op (.int a.toNat) (.int b.toNat) = .ok result := by
  have ha := a.toNat_lt
  have hb := b.toNat_lt
  have hastored : (Value.int a.toNat).stored 0 256 = .ok (a.toNat : Int) :=
    Value.stored_int (by omega) (by omega)
  have hbstored : (Value.int b.toNat).stored 0 256 = .ok (b.toNat : Int) :=
    Value.stored_int (by omega) (by omega)
  simp [arithmeticOf, hastored, hbstored, h, bind, Except.bind, pure, Except.pure]

/-- Whether batches can run under a host's description of a dialect: the switch with which draws end
    them has to be a truth value. -/
def runnable (description : Value) : Except Error Unit :=
  let switch := Dialect.drawSwitch description
  match switch.truth?, switch with
  | some _, _ => .ok ()
  | none, .int n => if fits32 n then .error .wrongKind else .error .outOfRange
  | none, _ => .error .wrongKind

namespace State

/-- A batch whose budget is any number; one below zero runs nothing. -/
def runBatchOf (s : State) (description budget : Value) (source : ByteSource) :
    Except Error Batch := do
  let n ← budget.budget
  runnable description
  pure (s.runBatch n source)

/-- A frame whose budget is any number; one below zero runs nothing. -/
def runFrameOf (s : State) (description budget : Value) (source : ByteSource) :
    Except Error Batch := do
  let n ← budget.budget
  runnable description
  pure (s.runFrame n source)

/-- The fault that the state's record stands for. -/
def recordedFault? (s : State) : Except Error (Option Fault) := s.fault.fault? s.stack.depth

/-- The fault record with code and access replaced if a condition holds. -/
def flagFault (s : State) (condition code address length : Value) : Except Error State := do
  let holds ← condition.holds
  let c ← FaultCode.ofValue code
  let a ← address.number32
  let n ← length.number32
  pure (if holds then { s with fault := s.fault.flag c a n } else s)

/-- Bytes of memory; fewer than none are none.  Their number has to be an integer. -/
def readBytesOf (s : State) (address size : Value) : Except Error (List UInt8) := do
  let a ← address.number32
  match size with
  | .int n => if n < 0 then pure [] else pure (s.memory.readBytes a (← number32 n).toNat)
  | _ => throw .wrongKind

/-- The first bytes of a list written to memory. -/
def writeBytesOf (s : State) (address : Value) (values : List UInt8) (count : Value) :
    Except Error State := do
  let n ← count.budget
  let a ← address.number32
  pure { s with memory := s.memory.writeBytes a values n }

/-- An address saved on the call stack, which takes 16-bit addresses only; whether the stack was
    full, and the depth afterwards. -/
def pushAddress (s : State) (address : Value) : Except Error (State × Bool × Int) := do
  let block ← address.storedBlock 0 0x10000
  match block.single? with
  | some a =>
    let (stack, full) := s.stack.push (UInt16.ofNat a.toNat)
    pure ({ s with stack }, full, stack.depth)
  | none => throw (.manyNumbers block.shape)

/-- An address of 16 bits is saved as it is. -/
theorem pushAddress_int (s : State) (a : UInt16) :
    s.pushAddress (.int a.toNat)
      = .ok ({ s with stack := (s.stack.push a).1 }, (s.stack.push a).2,
          (s.stack.push a).1.depth) := by
  have ha := a.toNat_lt
  have hblock : (Value.int a.toNat).storedBlock 0 0x10000 = .ok ⟨[], [(a.toNat : Int)]⟩ :=
    Value.storedBlock_int (by omega) (by omega)
  rw [pushAddress, hblock]
  simp [Block.single?, bind, Except.bind, pure, Except.pure]

/-- The address saved last taken back; whether there was none, the address, and the depth
    afterwards. -/
def popAddress (s : State) : State × Bool × UInt16 × Int :=
  let (stack, address, empty) := s.stack.pop
  ({ s with stack }, empty, address, stack.depth)

/-- A word run as an instruction at an address.  A word that is no instruction needs the address for
    the message only. -/
def executeWordAt (s : State) (word address : Value) (source : ByteSource) :
    Except Error State × ByteSource :=
  match word.whole with
  | .error error => (.error error, source)
  | .ok z =>
    let site := if (Operation.ofWord? (Word.ofInt z)).isSome then address.site else address.asWord
    match site with
    | .error error => (.error error, source)
    | .ok site => s.executeAt z site source

/-- Integers are run as such, and an address of 32 bits is kept. -/
theorem executeWordAt_int (s : State) (z a : Int) (ha : fits32 a = true) (source : ByteSource) :
    s.executeWordAt (.int z) (.int a) source = s.executeAt z (some a) source := by
  have hsite : (Value.int a).site = .ok (some a) := by
    simp [Value.site, Value.number32, number32, ha, Functor.map, Except.map]
  simp [executeWordAt, Value.whole, hsite, Value.asWord]

/-- A word run as an instruction at the program counter. -/
def executeWord (s : State) (word : Value) (source : ByteSource) :
    Except Error State × ByteSource :=
  s.executeWordAt word (.int s.pc.toNat) source

end State

namespace Machine

/-- A frame of that many instructions under a host's description of the dialect. -/
def frameFor (m : Machine) (description count : Value) : Reply :=
  match count.negative with
  | .error error => m.refuse error
  | .ok true => m.refuse (.negativeBudget count)
  | .ok false =>
    if !m.loaded then m.refuse .nothingLoaded
    else
      let budget := do
        let n ← count.budget
        runnable description
        pure n
      match budget with
      | .error error => m.refuse error
      | .ok n => m.frame n

/-- An integer runs a frame of that many instructions, if batches can run at all. -/
theorem frameFor_int (m : Machine) {description : Value} (h : runnable description = .ok ())
    (n : Int) : m.frameFor description (.int n) = m.frame n := by
  by_cases hn : n < 0
  · simp [frameFor, frame, Value.negative, hn]
  · by_cases hm : m.loaded = true
    · by_cases hlimit : n < 0x80000000
      · have hfits : fits32 n = true := by simp [fits32]; omega
        have hnat : (n.toNat : Int) = n := Int.toNat_of_nonneg (by omega)
        simp [frameFor, Value.negative, hn, hm, Value.budget_int hfits, h, hnat, bind, Except.bind,
          pure, Except.pure]
      · have hfits : fits32 n = false := by simp [fits32]; omega
        have hbudget : (budgetLimit : Int) ≤ n := by simp only [budgetLimit]; omega
        simp [frameFor, frame, Value.negative, hn, hm, Value.budget, Value.number32, number32, hfits,
          hbudget, bind, Except.bind, Functor.map, Except.map]
    · simp [frameFor, frame, Value.negative, hn, hm]

end Machine

end Chip8
