import Chip8.Execution

namespace Chip8

/-!
# Running instructions

There are two ways to run: one instruction at a time, where a fault is an error, and in batches,
where it is recorded in the state.

* `State.fetch`, `State.execute`, `State.step` — the first way;
* `State.cycle`, `State.runBatch`, `State.runFrame` — the second way.

The two ways agree on every word that is fetched from inside memory.  Outside of it a single step
does not fetch at all, while a batch still runs the word it reads and throws the result away; only a
host that supplies random numbers can tell.
-/

namespace State

/-! ### One instruction -/

/-- The word at the program counter, and the state with the program counter moved past it. -/
def fetch (s : State) : Except Fault (Word × State) := do
  let pc : Int := s.pc.toNat
  checkRange pc 2 pc
  pure (s.memory.wordAt pc, { s with pc := s.pc + 2 })

/-- An instruction run on a state whose program counter is past it.  Faults name the address of the
    instruction or, when it has none, the program counter. -/
def execute (s : State) (i : Instruction) (source : ByteSource) :
    Except Fault State × ByteSource :=
  let (result, source') := i.op.run i.word { s with fault := .clear } source
  match result with
  | .ok t => (.ok t, source')
  | .error trap =>
    let pc := Word.ofInt (i.address.getD s.pc.toNat)
    (.error (trap.fault pc.toNat i.word s.stack.depth), source')

/-- An instruction run whose address was supplied by a host and may not fit. -/
def executeAt (s : State) (z : Int) (address : Option Int) (source : ByteSource) :
    Except Error State × ByteSource :=
  match Instruction.decode z address with
  | .error fault => (.error (.fault fault), source)
  | .ok i =>
    if fits32 (address.getD 0) then
      let (result, source') := s.execute i source
      (result.mapError Error.fault, source')
    else (.error .outOfRange, source)

/-- The instruction at the program counter fetched and run.  On a fault there is no new state. -/
def step (s : State) (source : ByteSource) : Except Fault (Instruction × State) × ByteSource :=
  match s.fetch with
  | .error fault => (.error fault, source)
  | .ok (word, t) =>
    match Instruction.decode word.toNat (some s.pc.toNat) with
    | .error fault => (.error fault, source)
    | .ok i =>
      let (result, source') := t.execute i source
      (result.map (i, ·), source')

/-! ### Batches -/

/-- One cycle of a batch: the operation that completed and the state after it, or the record of the
    fault. -/
def cycle (s : State) (source : ByteSource) :
    Except FaultRecord (Operation × State) × ByteSource :=
  let word := s.memory.wordAt s.pc.toNat
  let outside : Bool := outOfBounds s.pc.toNat 2
  match Operation.ofWord? word with
  | none =>
    let trap : Trap := if outside then .outOfBounds s.pc.toNat 2 else .unknownOpcode
    (.error (trap.record s.pc word), source)
  | some op =>
    let (result, source') := op.run word { s with pc := s.pc + 2 } source
    if outside then (.error ((Trap.outOfBounds s.pc.toNat 2).record s.pc word), source')
    else
      match result with
      | .ok t => (.ok (op, t), source')
      | .error trap => (.error (trap.record s.pc word), source')

/-- What a batch leaves: the state, how many instructions completed, and the source of bytes. -/
structure Batch where
  state : State
  executed : Nat
  source : ByteSource

/-- Up to `budget` further cycles after `executed` completed ones.  The batch ends early at the
    first fault, and after a draw in a dialect that says so. -/
def advance (s : State) (source : ByteSource) : Nat → Nat → Batch
  | 0, executed => ⟨s, executed, source⟩
  | budget + 1, executed =>
    match s.cycle source with
    | (.error record, source') => ⟨{ s with fault := record }, executed, source'⟩
    | (.ok (op, t), source') =>
      if op = .draw ∧ t.dialect.drawEndsBatch then ⟨t, executed + 1, source'⟩
      else t.advance source' budget (executed + 1)

/-- A batch of up to `budget` instructions.  It starts with a clear fault record; a fault leaves the
    state before the faulting instruction, with the fault recorded. -/
def runBatch (s : State) (budget : Nat) (source : ByteSource) : Batch :=
  { s with fault := .clear }.advance source budget 0

/-- A batch followed by one tick of the timers, whether or not the batch faulted. -/
def runFrame (s : State) (budget : Nat) (source : ByteSource) : Batch :=
  let batch := s.runBatch budget source
  { batch with state := batch.state.tick }

end State

end Chip8
