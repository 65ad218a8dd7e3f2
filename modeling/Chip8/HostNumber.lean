import Chip8.Block
import Chip8.Number32
import Chip8.Text.Integer
import Chip8.Text.Real

namespace Chip8

open Chip8.Text Chip8.Decimal

/-!
# Host numbers

Where a number is wanted, a host may hand over a value of any kind.  How it is made a number depends
on the place it goes to.

* `Value.whole`, `Value.byte` — a whole number, and one that fits into a byte: floats lose what
  stands behind the point, texts are read;
* `number32`, `Value.number32` — a number of 32 bits;
* `Value.budget` — how many instructions are run at most;
* `Value.holds` — whether a condition holds;
* `Value.stored`, `Value.storedBlock` — numbers that the machine keeps;
* `Value.site` — the address of an instruction;
* `Value.seed` — a seed;
* `Value.seconds` — a reading of a clock;
* `Value.byte_int_eq_ok_iff`, `number32_eq_ok_iff`, `Value.budget_int`, `Value.stored_int` —
  integers are taken as they are, or refused.
-/

namespace Value

/-! ### Whole numbers and bytes -/

/-- The whole number made of a value. -/
def whole : Value → Except Error Int
  | .int n => .ok n
  | .bool b => .ok (if b then 1 else 0)
  | .float x =>
    match Double.ofFloat x with
    | .finite value => .ok value.whole
    | .infinite _ => .error .outOfRange
    | .notANumber => .error .notANumber
  | .text s =>
    match readInteger? s, tooManyDigits? s with
    | some n, _ => .ok n
    | none, some count => .error (.tooManyDigits maxDigits count)
    | none, none => .error (.noInteger s)
  | _ => .error .wrongKind

/-- The byte made of a value. -/
def byte (v : Value) : Except Error UInt8 := do
  let n ← v.whole
  if 0 ≤ n ∧ n ≤ 255 then pure (UInt8.ofNat n.toNat) else throw .outOfRange

/-- The byte of an integer. -/
theorem byte_int (n : Int) :
    (Value.int n).byte
      = if 0 ≤ n ∧ n ≤ 255 then .ok (UInt8.ofNat n.toNat) else .error .outOfRange := rfl

/-- Exactly the integers of a byte pass, and as they are. -/
theorem byte_int_eq_ok_iff {n : Int} {b : UInt8} : (Value.int n).byte = .ok b ↔ n = b.toNat := by
  rw [byte_int]
  have hb := b.toNat_lt
  constructor
  · intro h
    split at h
    · next hn =>
      have : UInt8.ofNat n.toNat = b := by simpa using h
      rw [← this, UInt8.toNat_ofNat']
      omega
    · cases h
  · rintro rfl
    rw [if_pos (by omega)]
    simp

end Value

/-! ### Numbers of 32 bits -/

/-- A number that must fit into 32 bits. -/
def number32 (z : Int) : Except Error Int := if fits32 z then .ok z else .error .outOfRange

/-- Exactly the numbers of 32 bits are accepted, and as they are. -/
theorem number32_eq_ok_iff {z k : Int} : number32 z = .ok k ↔ fits32 z = true ∧ k = z := by
  unfold number32
  by_cases h : fits32 z = true <;> simp [h, eq_comm]

/-- The whole part of a float, as near as the bounds allow; what is no number at all counts as
    zero. -/
def saturated (low high : Int) (x : Float) : Int :=
  match Double.ofFloat x with
  | .finite value => max low (min high value.whole)
  | .infinite true => low
  | .infinite false => high
  | .notANumber => 0

/-- The whole part of a float, as near as 32 bits with a sign allow. -/
def saturated32 (x : Float) : Int := saturated (-0x80000000) 0x7FFFFFFF x

/-- The whole part of a float, as near as 16 bits without a sign allow. -/
def saturated16 (x : Float) : Int := saturated 0 0xFFFF x

/-- The size of the smallest float of half the size that has all its digits. -/
def smallestSingle : Float := (1 : Float).scaleB (-126)

/-- The nearest float of half the size, which is what the machine calculates with; those that have
    lost digits count as zero. -/
def single (x : Float) : Float :=
  let y := x.toFloat32.toFloat
  if y.abs < smallestSingle then 0 else y

namespace Value

/-- The number of 32 bits made of a value. -/
def number32 : Value → Except Error Int
  | .int n => Chip8.number32 n
  | .bool b => .ok (if b then 1 else 0)
  | .float x => .ok (saturated32 (single x))
  | _ => .error .wrongKind

/-- How many instructions are run at most: the number must fit into 32 bits, one below zero runs
    none, and a float runs one for each part of it. -/
def budget : Value → Except Error Nat
  | .float x => .ok (saturated32 (single x).ceil).toNat
  | v => Int.toNat <$> v.number32

/-- Integers of 32 bits are taken as they are. -/
theorem number32_int (n : Int) : (Value.int n).number32 = Chip8.number32 n := rfl

/-- An integer of 32 bits runs that many instructions. -/
theorem budget_int {n : Int} (h : fits32 n = true) : (Value.int n).budget = .ok n.toNat := by
  simp [budget, number32, Chip8.number32, h, Functor.map, Except.map]

/-- Whether a number is below zero, which cannot be asked of anything else. -/
def negative : Value → Except Error Bool
  | .int n => .ok (decide (n < 0))
  | .bool _ => .ok false
  | .float x => .ok (decide (x < 0))
  | _ => .error .wrongKind

/-- A value in which nothing is missing. -/
def known (v : Value) : Except Error Value := if v.holdsNull then .error .missingNumber else .ok v

/-- Whether a condition holds: a number of 32 bits that is not zero. -/
def holds (v : Value) : Except Error Bool := do
  match ← v.known with
  | .float x => pure (single x != 0)
  | v => pure ((← v.number32) != 0)

/-- Truth values are conditions as they are. -/
@[simp] theorem holds_bool (b : Bool) : (Value.bool b).holds = .ok b := by
  cases b <;> rfl

/-- A number as a float, zero for what is no number. -/
def measure : Value → Float
  | .float x => x
  | v => Float.ofInt (v.integer?.getD 0)

/-! ### Numbers that the machine keeps -/

/-- A whole number from `low` up to below `high`. -/
def ranged (low high : Int) (v : Value) : Except Error Int := do
  let z ← v.whole
  if low ≤ z ∧ z < high then pure z else throw .outOfRange

/-- The numbers made of a value for the machine, which keeps those from `low` up to below `high`. -/
def storedBlock (low high : Int) (v : Value) : Except Error (Block Int) := do
  let v ← v.known
  Block.ofValue (ranged low high) v

/-- An integer is kept as a block without lists. -/
theorem storedBlock_int {low high n : Int} (h₀ : low ≤ n) (h₁ : n < high) :
    (Value.int n).storedBlock low high = .ok ⟨[], [n]⟩ := by
  simp [storedBlock, known, holdsNull, Block.ofValue_int, ranged, whole, h₀, h₁, bind, Except.bind,
    Except.map, pure, Except.pure]

/-- The number made of a value for a place of the machine that keeps those from `low` up to below
    `high`. -/
def stored (low high : Int) (v : Value) : Except Error Int := do
  let block ← v.storedBlock low high
  match block.single? with
  | some z => pure z
  | none => throw .wrongKind

/-- An integer is kept as it is. -/
theorem stored_int {low high n : Int} (h₀ : low ≤ n) (h₁ : n < high) :
    (Value.int n).stored low high = .ok n := by
  simp [stored, storedBlock_int h₀ h₁, Block.single?, bind, Except.bind, pure, Except.pure]

/-- The address that an instruction is run at, if one is known.  A float is taken as near as 16 bits
    allow. -/
def site : Value → Except Error (Option Int)
  | .null => .ok none
  | .float x => .ok (some (saturated16 (single x)))
  | v => some <$> v.number32

/-- A seed: an integer, where truth values count as zero and one. -/
def seed : Value → Except Error Int
  | .list _ => .error .wrongKind
  | v => do
    let v ← v.known
    v.integer

/-- An integer is a seed. -/
@[simp] theorem seed_int (n : Int) : (Value.int n).seed = .ok n := rfl

/-! ### Clocks -/

/-- A reading of a clock in seconds. -/
def seconds : Value → Except Error Float
  | .int n => if roundsToDouble n then .ok (Float.ofInt n) else .error .outOfRange
  | .bool b => .ok (if b then 1 else 0)
  | .float x => .ok x
  | .text s =>
    match readReal? s with
    | some x => .ok x
    | none => .error (.noReal s)
  | _ => .error .wrongKind

end Value

end Chip8
