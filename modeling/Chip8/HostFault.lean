import Chip8.Error

namespace Chip8

/-!
# Faults made by hosts

A host may make a fault of its own, by the name of its kind and particulars of any kind of value.
Only those that are shown as words or addresses have to be numbers, or nothing.

* `HostFault` — such a fault, `HostFault.make`, `HostFault.ofName` — how it comes about;
* `HostFault.describe` — the line a log shows;
* `HostFault.make_particulars` — a fault of the interpreter made anew from its own particulars keeps
  its kind and its message, and `HostFault.describe_ofFault` — its line in a log.
-/

/-- A fault made by a host. -/
structure HostFault where
  kind : FaultKind
  /-- The particulars under their names. -/
  attributes : List (String × Value)
  /-- The instruction word, where there is one. -/
  opcode : Option Int
  /-- The program counter, where there is one. -/
  pc : Option Int
  text : String

/-- The number that a value is shown as in base sixteen.  Nothing is shown as unknown. -/
def Value.asWord : Value → Except Error (Option Int)
  | .null => .ok none
  | .int n => .ok (some n)
  | .bool b => .ok (some (if b then 1 else 0))
  | .text _ => .error (.notHexadecimal "str")
  | .float _ => .error (.notHexadecimal "float")
  | .list _ => .error .wrongKind
  | .record _ => .error .wrongKind

/-- A number that may not be known is shown as itself. -/
@[simp] theorem Value.asWord_optional (z : Option Int) : (Value.optional z).asWord = .ok z := by
  cases z <;> rfl

namespace HostFault

/-- A fault about memory. -/
def access (start length pc : Value) : Except Error HostFault := do
  let a ← start.asWord
  let p ← pc.asWord
  pure
    { kind := .memoryOutOfBounds
      attributes := [("address", start), ("length", length), ("pc", pc)]
      opcode := none
      pc := p
      text := Fault.accessText a length.plain p }

/-- A fault of the call stack. -/
def stack (kind : FaultKind) (pc depth : Value) : Except Error HostFault := do
  let p ← pc.asWord
  pure
    { kind
      attributes := [("pc", pc), ("depth", depth)]
      opcode := none
      pc := p
      text := Fault.stackText (Fault.stackReason kind) p depth.plain }

/-- A fault about a word that is no instruction. -/
def opcodeFault (opcode pc : Value) : Except Error HostFault := do
  let w ← opcode.asWord
  let p ← pc.asWord
  pure
    { kind := .unknownOpcode
      attributes := [("opcode", opcode), ("pc", pc)]
      opcode := w
      pc := p
      text := Fault.opcodeText w p }

/-- A fault of the call stack from its particulars in order, both of which may be left out. -/
def stackOf (kind : FaultKind) : List Value → Except Error HostFault
  | [] => stack kind .null .null
  | [pc] => stack kind pc .null
  | [pc, depth] => stack kind pc depth
  | _ => .error .wrongKind

/-- The fault of a kind from its particulars in order.  A length left out is one, a program counter
    or a depth left out is not known.  Too few or too many particulars make no fault. -/
def make (kind : FaultKind) (particulars : List Value) : Except Error HostFault :=
  match kind, particulars with
  | .general, details => .ok ⟨kind, [], none, none, Fault.detailsText details⟩
  | .romTooLarge, [size, limit] =>
    .ok ⟨kind, [("size", size), ("limit", limit)], none, none,
      Fault.romText size.plain limit.plain⟩
  | .invalidKey, [index] =>
    .ok ⟨kind, [("index", index)], none, none, Fault.keyText index.shown⟩
  | .memoryOutOfBounds, [start] => access start (.int 1) .null
  | .memoryOutOfBounds, [start, length] => access start length .null
  | .memoryOutOfBounds, [start, length, pc] => access start length pc
  | .stackFault, rest => stackOf kind rest
  | .stackOverflow, rest => stackOf kind rest
  | .stackUnderflow, rest => stackOf kind rest
  | .unknownOpcode, [opcode] => opcodeFault opcode .null
  | .unknownOpcode, [opcode, pc] => opcodeFault opcode pc
  | .rejectedWrite, [field, value] =>
    .ok ⟨kind, [("field", field), ("value", value)], none, none,
      Fault.writeText field.plain value.shown⟩
  | _, _ => .error .wrongKind

/-- The fault of the named kind from its particulars in order. -/
def ofName (name : String) (particulars : List Value) : Except Error HostFault :=
  match FaultKind.named? name with
  | some kind => make kind particulars
  | none => .error .unknownFaultKind

/-- The line a log shows for a fault. -/
def describe (f : HostFault) : String := Fault.headline f.kind f.opcode f.pc f.text

/-! ### Faults of the interpreter -/

/-- The particulars of a fault of the interpreter under their names. -/
def attributesOf : Fault → List (String × Value)
  | .general _ => []
  | .romTooLarge size limit => [("size", .int size), ("limit", .int limit)]
  | .invalidKey index => [("index", index)]
  | .memoryOutOfBounds start length pc =>
    [("address", .int start), ("length", .int length), ("pc", .optional pc)]
  | .stackFault pc depth => [("pc", .optional pc), ("depth", .optional depth)]
  | .stackOverflow pc depth => [("pc", .optional pc), ("depth", .optional depth)]
  | .stackUnderflow pc depth => [("pc", .optional pc), ("depth", .optional depth)]
  | .unknownOpcode opcode pc => [("opcode", .int opcode), ("pc", .optional pc)]
  | .rejectedWrite field value => [("field", .text field), ("value", value)]

/-- The particulars of a fault of the interpreter in order. -/
def particulars : Fault → List Value
  | .general details => details
  | fault => (attributesOf fault).map (·.2)

/-- A fault of the interpreter as one that a host could have made. -/
def ofFault (fault : Fault) : HostFault :=
  ⟨fault.kind, attributesOf fault, fault.opcode?, fault.pc?, fault.text⟩

/-- A depth that may not be known reads the same in both. -/
theorem plain_optional (z : Option Int) : (Value.optional z).plain = Fault.depth? z := by
  cases z <;> rfl

/-- A fault of the interpreter made anew from its own particulars is the same fault. -/
theorem make_particulars (fault : Fault) :
    make fault.kind (particulars fault) = .ok (ofFault fault) := by
  cases fault with
  | general => rfl
  | romTooLarge => rfl
  | invalidKey => rfl
  | memoryOutOfBounds start length pc => cases pc <;> rfl
  | stackFault pc depth => cases pc <;> cases depth <;> rfl
  | stackOverflow pc depth => cases pc <;> cases depth <;> rfl
  | stackUnderflow pc depth => cases pc <;> cases depth <;> rfl
  | unknownOpcode opcode pc => cases pc <;> rfl
  | rejectedWrite => rfl

/-- Both are described by the same line. -/
@[simp] theorem describe_ofFault (fault : Fault) : (ofFault fault).describe = fault.describe := rfl

end HostFault

end Chip8
