import Chip8.Value

namespace Chip8

open Chip8.Text

/-!
# Faults

What the interpreter refuses to do, with the particulars of each refusal.

* `FaultKind` — the kinds of fault, their names and the wider families they belong to;
* `Fault` — a fault with what its kind knows, `Fault.kind` — its kind;
* `Fault.text` — its message, put together by the wordings of the section before;
* `Fault.describe` — the line a log shows: the kind, the instruction word and the program counter
  where the fault knows them, then the message.
-/

/-! ### Kinds -/

/-- A kind of fault. -/
inductive FaultKind
  | general
  | romTooLarge
  | invalidKey
  | memoryOutOfBounds
  | stackFault
  | stackOverflow
  | stackUnderflow
  | unknownOpcode
  | rejectedWrite
deriving DecidableEq, Repr, Inhabited

namespace FaultKind

/-- All kinds. -/
def all : List FaultKind :=
  [general, romTooLarge, invalidKey, memoryOutOfBounds, stackFault, stackOverflow, stackUnderflow,
   unknownOpcode, rejectedWrite]

/-- The name of a kind. -/
def name : FaultKind → String
  | general => "Chip8Error"
  | romTooLarge => "RomTooLarge"
  | invalidKey => "InvalidKeyIndex"
  | memoryOutOfBounds => "MemoryOutOfBounds"
  | stackFault => "StackFault"
  | stackOverflow => "StackOverflow"
  | stackUnderflow => "StackUnderflow"
  | unknownOpcode => "UnknownOpcode"
  | rejectedWrite => "DebugWriteError"

/-- The kind of a name. -/
def named? (s : String) : Option FaultKind := all.find? (fun kind => kind.name == s)

/-- Every kind has its name. -/
@[simp] theorem named?_name (kind : FaultKind) : named? kind.name = some kind := by
  cases kind <;> decide

/-- The wider families a kind belongs to, in alphabetical order: all are interpreter faults, an
    invalid key is also an index fault, the three stack faults form one family, and a refused image
    or write is also a value fault. -/
def families : FaultKind → List String
  | romTooLarge => ["Chip8Error", "ValueError"]
  | invalidKey => ["Chip8Error", "IndexError"]
  | stackFault => ["Chip8Error", "StackFault"]
  | stackOverflow => ["Chip8Error", "StackFault"]
  | stackUnderflow => ["Chip8Error", "StackFault"]
  | rejectedWrite => ["Chip8Error", "ValueError"]
  | _ => ["Chip8Error"]

end FaultKind

/-- A refusal of the interpreter. -/
inductive Fault
  /-- A fault without a kind of its own. -/
  | general (details : List Value)
  /-- A program image of `size` bytes where `limit` bytes fit. -/
  | romTooLarge (size limit : Int)
  /-- A keypad index that is no key. -/
  | invalidKey (index : Value)
  /-- An access of `length` bytes at `address` that runs past the end of memory. -/
  | memoryOutOfBounds (address length : Int) (pc : Option Int)
  /-- A call depth that is not possible. -/
  | stackFault (pc depth : Option Int)
  /-- A call with a full stack. -/
  | stackOverflow (pc depth : Option Int)
  /-- A return with an empty stack. -/
  | stackUnderflow (pc depth : Option Int)
  /-- A word that is no instruction. -/
  | unknownOpcode (opcode : Int) (pc : Option Int)
  /-- A value that the named part of the state cannot take. -/
  | rejectedWrite (field : String) (value : Value)
deriving Inhabited

/-! ### Wordings -/

namespace Fault

/-- A word or an address with its mark and at least four digits. -/
def address (z : Int) : String := "0x" ++ hex 4 z

/-- An address that may not be known. -/
def address? : Option Int → String
  | none => "?"
  | some z => address z

/-- The details of a fault without a kind: nothing, the one detail, or all of them in brackets. -/
def detailsText : List Value → String
  | [] => ""
  | [detail] => detail.plain
  | details => "(" ++ ", ".intercalate (Value.shownItems details) ++ ")"

/-- The message about an image that is too large. -/
def romText (size limit : String) : String := "ROM too large: " ++ size ++ "/" ++ limit ++ " bytes"

/-- The message about an index that is no key. -/
def keyText (index : String) : String := "No such key: " ++ index ++ " (expected 0-15)"

/-- The message about an access that runs past the end of memory. -/
def accessText (start : Option Int) (length : String) (pc : Option Int) : String :=
  "Memory access out of bounds: " ++ length ++ " byte(s) at " ++ address? start
    ++ " (pc=" ++ address? pc ++ ")"

/-- The message about a call depth. -/
def stackText (reason : String) (pc : Option Int) (depth : String) : String :=
  reason ++ " (pc=" ++ address? pc ++ ", depth=" ++ depth ++ ")"

/-- What a fault of the call stack says has happened. -/
def stackReason : FaultKind → String
  | .stackOverflow => "Stack overflow"
  | .stackUnderflow => "Stack underflow"
  | _ => "Stack fault"

/-- The message about a word that is no instruction. -/
def opcodeText (opcode pc : Option Int) : String :=
  "Unknown opcode " ++ address? opcode ++ " at pc=" ++ address? pc

/-- The message about a refused write. -/
def writeText (field value : String) : String := "Invalid value for " ++ field ++ ": " ++ value

/-- A named address, with a blank in front, where it is known. -/
def mark (name : String) : Option Int → String
  | none => ""
  | some z => " " ++ name ++ "=" ++ address z

/-- The line a log shows for a fault of a kind with a message. -/
def headline (kind : FaultKind) (opcode pc : Option Int) (text : String) : String :=
  kind.name ++ mark "opcode" opcode ++ mark "pc" pc ++ ": " ++ text

/-! ### Faults -/

/-- The kind of a fault. -/
def kind : Fault → FaultKind
  | general _ => .general
  | romTooLarge _ _ => .romTooLarge
  | invalidKey _ => .invalidKey
  | memoryOutOfBounds _ _ _ => .memoryOutOfBounds
  | stackFault _ _ => .stackFault
  | stackOverflow _ _ => .stackOverflow
  | stackUnderflow _ _ => .stackUnderflow
  | unknownOpcode _ _ => .unknownOpcode
  | rejectedWrite _ _ => .rejectedWrite

/-- A call depth that may not be known. -/
def depth? : Option Int → String
  | none => "None"
  | some z => decimal z

/-- The message of a fault. -/
def text (fault : Fault) : String :=
  match fault with
  | general details => detailsText details
  | romTooLarge size limit => romText (decimal size) (decimal limit)
  | invalidKey index => keyText index.shown
  | memoryOutOfBounds start length pc => accessText (some start) (decimal length) pc
  | stackFault pc depth => stackText (stackReason fault.kind) pc (depth? depth)
  | stackOverflow pc depth => stackText (stackReason fault.kind) pc (depth? depth)
  | stackUnderflow pc depth => stackText (stackReason fault.kind) pc (depth? depth)
  | unknownOpcode opcode pc => opcodeText (some opcode) pc
  | rejectedWrite field value => writeText field value.shown

/-- The instruction word, where the fault knows it. -/
def opcode? : Fault → Option Int
  | unknownOpcode opcode _ => some opcode
  | _ => none

/-- The program counter, where the fault knows it. -/
def pc? : Fault → Option Int
  | memoryOutOfBounds _ _ pc => pc
  | stackFault pc _ => pc
  | stackOverflow pc _ => pc
  | stackUnderflow pc _ => pc
  | unknownOpcode _ pc => pc
  | _ => none

/-- The line a log shows for a fault. -/
def describe (fault : Fault) : String := headline fault.kind fault.opcode? fault.pc? fault.text

end Fault

end Chip8
