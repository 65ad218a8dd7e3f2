namespace Chip8

/-!
# Numbers of 32 bits

The machine calculates with addresses and depths in signed numbers of 32 bits.

* `fits32` — whether an integer is such a number;
* `wrap32` — an integer reduced to such a number, the others being congruent modulo `2 ^ 32`;
* `wrap32_of_fits` — a number that fits stays as it is.
-/

/-- A number reduced to the signed 32-bit range. -/
def wrap32 (z : Int) : Int := z.bmod 0x100000000

/-- Whether a number is in the signed 32-bit range. -/
def fits32 (z : Int) : Bool := decide (-0x80000000 ≤ z) && decide (z < 0x80000000)

/-- Nothing happens to a number that is in the signed 32-bit range. -/
theorem wrap32_of_fits {z : Int} (h₀ : -0x80000000 ≤ z) (h₁ : z < 0x80000000) : wrap32 z = z :=
  Int.bmod_eq_of_le (by omega) (by omega)

end Chip8
