import Chip8.Instruction.Operation

namespace Chip8

/-!
# Arithmetic

The byte functions behind the operations whose first digit is 8.  Those with a flag give a result
and the flag for VF.

* `Arithmetic.add`, `Arithmetic.sub` — sum and difference modulo 256, with carry and no-borrow;
* `Arithmetic.shiftRight`, `Arithmetic.shiftLeft` — shifts by one with the bit that falls out;
* `add_toNat`, `sub_toNat`, `shiftRight_toNat`, `shiftLeft_toNat` — result and flag together are
  exact;
* `Operation.arithmetic?`, `Operation.isArithmetic` — the function of an operation, and whether
  there is one.
-/

namespace Arithmetic

/-- The flag for a condition. -/
def flag (condition : Bool) : UInt8 := if condition then 1 else 0

/-- The sum of two bytes, and whether it exceeds a byte. -/
def add (a b : UInt8) : UInt8 × UInt8 := (a + b, flag (decide (255 < a.toNat + b.toNat)))

/-- The difference of two bytes, and whether nothing was borrowed. -/
def sub (a b : UInt8) : UInt8 × UInt8 := (a - b, flag (decide (b ≤ a)))

/-- Half of a byte, and the bit shifted out. -/
def shiftRight (a : UInt8) : UInt8 × UInt8 := (a >>> 1, a &&& 1)

/-- Twice a byte, and the bit shifted out. -/
def shiftLeft (a : UInt8) : UInt8 × UInt8 := (a <<< 1, a >>> 7)

/-- Sum and carry together are the exact sum. -/
theorem add_toNat (a b : UInt8) :
    (add a b).1.toNat + 256 * (add a b).2.toNat = a.toNat + b.toNat := by
  have ha := a.toNat_lt
  have hb := b.toNat_lt
  simp only [add, flag, decide_eq_true_eq, UInt8.toNat_add]
  split
  · simp; omega
  · simp; omega

/-- Difference and borrow together are the exact difference. -/
theorem sub_toNat (a b : UInt8) :
    (sub a b).1.toNat + b.toNat + 256 * (sub a b).2.toNat = a.toNat + 256 := by
  have ha := a.toNat_lt
  have hb := b.toNat_lt
  simp only [sub, flag, decide_eq_true_eq, UInt8.toNat_sub, UInt8.le_iff_toNat_le]
  split
  · simp; omega
  · simp; omega

/-- Twice the half and the bit shifted out are the byte. -/
theorem shiftRight_toNat (a : UInt8) :
    2 * (shiftRight a).1.toNat + (shiftRight a).2.toNat = a.toNat := by
  have hbit : (a &&& 1).toNat = a.toNat % 2 := by
    rw [UInt8.toNat_and]
    exact Nat.and_one_is_mod a.toNat
  have hhalf : (a >>> 1).toNat = a.toNat / 2 := by
    rw [UInt8.toNat_shiftRight]
    exact Nat.shiftRight_eq_div_pow a.toNat 1
  simp only [shiftRight, hbit, hhalf]
  omega

/-- The shifted byte and the bit shifted out together are twice the byte. -/
theorem shiftLeft_toNat (a : UInt8) :
    (shiftLeft a).1.toNat + 256 * (shiftLeft a).2.toNat = 2 * a.toNat := by
  have ha := a.toNat_lt
  have hdouble : (a <<< 1).toNat = 2 * a.toNat % 256 := by
    rw [UInt8.toNat_shiftLeft, Nat.mul_comm 2]
    exact congrArg (· % 256) (Nat.shiftLeft_eq a.toNat 1)
  have hbit : (a >>> 7).toNat = a.toNat / 128 := by
    rw [UInt8.toNat_shiftRight]
    exact Nat.shiftRight_eq_div_pow a.toNat 7
  simp only [shiftLeft, hdouble, hbit]
  omega

end Arithmetic

/-- The function of an arithmetic operation on the values of VX and VY: the result, and the flag if
    the operation sets one. -/
def Operation.arithmetic? (op : Operation) (vx vy : UInt8) : Option (UInt8 × Option UInt8) :=
  let flagged (r : UInt8 × UInt8) : UInt8 × Option UInt8 := (r.1, some r.2)
  match op with
  | .copy => some (vy, none)
  | .or => some (vx ||| vy, none)
  | .and => some (vx &&& vy, none)
  | .xor => some (vx ^^^ vy, none)
  | .add => some (flagged (Arithmetic.add vx vy))
  | .sub => some (flagged (Arithmetic.sub vx vy))
  | .shiftRight => some (flagged (Arithmetic.shiftRight vx))
  | .subFrom => some (flagged (Arithmetic.sub vy vx))
  | .shiftLeft => some (flagged (Arithmetic.shiftLeft vx))
  | _ => none

/-- Whether an operation is arithmetic. -/
def Operation.isArithmetic (op : Operation) : Bool := (op.arithmetic? 0 0).isSome

/-- An arithmetic operation has a result on all bytes, and no other has one on any. -/
theorem Operation.isSome_arithmetic? (op : Operation) (vx vy : UInt8) :
    (op.arithmetic? vx vy).isSome = op.isArithmetic := by
  cases op <;> rfl

end Chip8
