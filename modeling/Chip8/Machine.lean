import Chip8.Cycle
import Chip8.Debugger
import Chip8.Image
import Chip8.Log

namespace Chip8

/-!
# Machine

The interpreter as a host sees it: a state, a source of random bytes, and whether a program is
loaded.

* `Machine`, `Machine.create` — the machine, with nothing loaded;
* `Answer`, `Reply` — what an operation answers: its result, the machine afterwards and the events
  to log;
* `Machine.loadFor`, `Machine.load`, `Machine.setKey`, `Machine.step`, `Machine.frame`,
  `Machine.poke` — the operations;
* `Command`, `Machine.perform`, `Machine.performAll` — the operations as data.
-/

/-- A machine. -/
structure Machine where
  state : State
  /-- Where random bytes come from. -/
  source : ByteSource
  /-- The key that every loaded program starts with. -/
  key : RandomKey
  loaded : Bool

/-- What an operation on a machine gives when it succeeds. -/
inductive Answer
  | done
  /-- That many instructions completed. -/
  | executed (count : Nat)
  /-- This operation completed. -/
  | completed (op : Operation)
deriving DecidableEq, Repr, Inhabited

/-- How many instructions an answer counts. -/
def Answer.count : Answer → Nat
  | .executed count => count
  | _ => 0

/-- What comes of an operation on a machine. -/
structure Reply where
  result : Except Error Answer
  machine : Machine
  events : List Event

/-- Whether a seed fits into 64 bits. -/
def seedFits (seed : Int) : Bool :=
  decide (-0x8000000000000000 ≤ seed) && decide (seed < 0x8000000000000000)

/-- The key of a seed, which must fit into 64 bits. -/
def seedKey (seed : Int) : Except Error RandomKey :=
  if seedFits seed then .ok (.ofSeed seed) else .error .outOfRange

/-- A count of instructions must be below this. -/
def budgetLimit : Nat := 0x80000000

namespace Machine

/-- A machine with nothing loaded. -/
def create (dialect : Dialect) (seed : Int) (source : ByteSource) : Except Error Machine := do
  let key ← seedKey seed
  pure ⟨State.initial dialect key, source, key, false⟩

/-- The event of a fault. -/
def faultEvent (fault : Fault) : Event := ⟨.error, fault.describe⟩

/-- A refused operation that leaves the machine as it was and logs nothing. -/
def refuse (m : Machine) (error : Error) : Reply := ⟨.error error, m, []⟩

/-- A fault, logged, that leaves the given machine. -/
def faulted (m : Machine) (fault : Fault) : Reply :=
  ⟨.error (.fault fault), m, [faultEvent fault]⟩

/-- The machine reset and a program image of any kind copied to where programs start.  An image that
    gives no bytes, or too many, leaves the machine as it was.  Its length is asked for last, when
    the program is already there. -/
def loadFor (m : Machine) (rom : Rom) : Reply :=
  let reset : Event := ⟨.debug, "Resetting machine state"⟩
  let image : Except Error State := do
    let bytes ← rom.bytes
    ((State.initial m.state.dialect m.key).loadRom bytes).mapError Error.fault
  match image with
  | .error (.fault fault) => ⟨.error (.fault fault), m, [reset, faultEvent fault]⟩
  | .error error => ⟨.error error, m, [reset]⟩
  | .ok state =>
    let after := { m with state, loaded := true }
    match rom.size with
    | .error error => ⟨.error error, after, [reset]⟩
    | .ok size =>
      ⟨.ok .done, after, [reset, ⟨.info, "Loaded ROM (" ++ Text.decimal size ++ " bytes)"⟩]⟩

/-- The machine reset and a program image of bytes copied to where programs start. -/
def load (m : Machine) (rom : List UInt8) : Reply := m.loadFor rom

/-- A key pressed or released. -/
def setKey (m : Machine) (index down : Value) : Reply :=
  match index.natBelow? 16 with
  | some k =>
    ⟨.ok .done, { m with state := { m.state with keypad := m.state.keypad.setIfInBounds k down.isTrue } }, []⟩
  | none => m.refuse (.fault (.invalidKey index))

/-- One instruction, without a tick of the timers. -/
def step (m : Machine) : Reply :=
  if m.loaded then
    match m.state.step m.source with
    | (.ok (i, state), source) => ⟨.ok (.completed i.op), { m with state, source }, []⟩
    | (.error fault, source) => { m with source }.faulted fault
  else m.refuse .nothingLoaded

/-- Up to `count` instructions, then one tick of the timers.  What completed before a fault keeps
    its effect. -/
def frame (m : Machine) (count : Int) : Reply :=
  if count < 0 then m.refuse (.negativeBudget (.int count))
  else if !m.loaded then m.refuse .nothingLoaded
  else if budgetLimit ≤ count then m.refuse .outOfRange
  else
    let batch := m.state.runFrame count.toNat m.source
    let after := { m with state := batch.state, source := batch.source }
    match batch.state.fault.fault? batch.state.stack.depth with
    | .ok none => ⟨.ok (.executed batch.executed), after, []⟩
    | .ok (some fault) => after.faulted fault
    | .error error => after.refuse error

/-- A write to a part of the state. -/
def poke (m : Machine) (write : State → Except Fault State) : Reply :=
  match write m.state with
  | .ok state => ⟨.ok .done, { m with state }, []⟩
  | .error fault => m.refuse (.fault fault)

/-- Whether the sound timer is running. -/
def buzzes (m : Machine) : Bool := m.state.sound != 0

end Machine

/-! ### Operations as data -/

/-- An operation of a host on a machine. -/
inductive Command
  | load (rom : Rom)
  | setKey (index down : Value)
  | step
  | frame (count : Int)
  | pokeMemory (address value : Value)
  | pokeRegister (register value : Value)
  | pokeIndex (value : Value)
  | pokePc (value : Value)
  | pokeTimers (delay sound : Value)
deriving Inhabited

namespace Machine

/-- An operation carried out. -/
def perform (m : Machine) : Command → Reply
  | .load rom => m.loadFor rom
  | .setKey index down => m.setKey index down
  | .step => m.step
  | .frame count => m.frame count
  | .pokeMemory address value => m.poke (·.pokeMemory address value)
  | .pokeRegister register value => m.poke (·.pokeRegister register value)
  | .pokeIndex value => m.poke (·.pokeIndex value)
  | .pokePc value => m.poke (·.pokePc value)
  | .pokeTimers delay sound => m.poke (·.pokeTimers delay sound)

/-- Several operations carried out one after the other, each on the machine the one before left. -/
def performAll (m : Machine) : List Command → List Reply
  | [] => []
  | command :: rest =>
    let reply := m.perform command
    reply :: reply.machine.performAll rest

/-- The machine after several operations. -/
def after (m : Machine) (commands : List Command) : Machine :=
  commands.foldl (fun machine command => (machine.perform command).machine) m

end Machine

end Chip8
