import Chip8.Block
import Chip8.Capacity

namespace Chip8

/-!
# Extents

The lengths of an array along its axes, and the library that makes arrays.

* `Extent.ofValue` — the lengths that a host gives;
* `ArrayRefusal` — why a library does not make an array;
* `Extent.cellCount` — the number of cells, which has to be a number of the system;
* `Extent.check` — whether a system with so much memory can hold an array of these lengths;
* `ArrayLibrary` — a library that stretches arrays, `ArrayLibrary.ofMemory` — the one of such a
  system.
-/

/-- The lengths of an array along its axes. -/
abbrev Extent := List Int

/-- Why a library of arrays does not make an array. -/
inductive ArrayRefusal
  /-- A count is no number of the system. -/
  | hugeCount
  | negativeLength
  /-- The cells cannot be counted. -/
  | manyCells
  | outOfMemory
deriving DecidableEq, Repr, Inhabited

/-- The error that tells why an array was not made. -/
def ArrayRefusal.error : ArrayRefusal → Error
  | hugeCount => .outOfRange
  | negativeLength => .negativeLength
  | manyCells => .manyCells
  | outOfMemory => .outOfMemory

namespace Extent

/-- An array has at most as many axes as lists can be nested. -/
def maxAxes : Nat := Block.maxDepth

/-- A length that a host gives: an integer of the system.  Truth values are no lengths. -/
def lengthOf : Value → Except Error Int
  | .int n => if isSystemNumber n then .ok n else .error .hugeLength
  | _ => .error .wrongKind

/-- What a host gives as lengths: none, the items of a list, the characters of a text, or the value
    itself for a single axis. -/
def itemsOf : Value → List Value
  | .null => []
  | .list items => items
  | .text s => s.toList.map fun c => .text c.toString
  | single => [single]

/-- The lengths that a host gives.  Their number is checked first, then one after the other. -/
def ofValue (v : Value) : Except Error Extent :=
  let items := itemsOf v
  if maxAxes < items.length then .error (.manyAxes maxAxes items.length)
  else items.mapM lengthOf

/-- The number of cells, given those along the axes before, where axes of length zero do not
    count. -/
def cellCount : Extent → Nat → Except ArrayRefusal Nat
  | [], count => .ok count
  | n :: rest, count =>
    if n < 0 then .error .negativeLength
    else if n = 0 then cellCount rest count
    else if systemLimit ≤ count * n then .error .manyCells
    else cellCount rest (count * n.toNat)

/-- Whether an array can be held with so much memory: all its lengths have to make sense, also where
    there are no cells. -/
def check (memory : Nat) (e : Extent) : Except ArrayRefusal Unit := do
  let count ← cellCount e 1
  if memory ≤ count ∧ 0 ∉ e then throw .outOfMemory

end Extent

/-! ### Stretching -/

/-- A library of arrays, which is not part of the program.  It is asked to repeat the parts of an
    array of bytes along an axis, each so often, and does it or says why not. -/
structure ArrayLibrary where
  stretch : Extent → Nat → Int → Except ArrayRefusal Unit

namespace ArrayLibrary

/-- A number as one of the system, the others being congruent modulo `2 ^ 64`. -/
def wrapped (z : Int) : Int := z.bmod 0x10000000000000000

/-- The library on a system with so much memory.  It calculates the lengths that come out as numbers
    of the system. -/
def ofMemory (memory : Nat) : ArrayLibrary where
  stretch e axis count :=
    if !isSystemNumber count then .error .hugeCount
    else do
      let stretched := e.modify axis (· * count)
      Extent.check memory (stretched.map wrapped)
      if stretched.map wrapped = stretched then pure () else throw .outOfMemory

end ArrayLibrary

end Chip8
